import Slipway.Task.Order
import Mathlib.Data.List.Nodup

/-!
# Plans

A plan exists if and only if the task, and every task below it, has only dependencies that stand for
tasks and lies on no cycle (`Plannable`). It then lists what the task reaches, each task once and
after its dependencies, and the task itself last.

Two invariants carry the search. Whatever it finishes is in order (`Progress.Sound`), which needs
no assumption on the registry: a list in order already shows that all below its members is there
and that no member lies on a cycle (`Ordered.mem_of_reaches`). And a search cannot fail below a
plannable task as long as all tasks on the way lie above it (`Above`), because a name met again
would close a cycle.
-/

namespace Slipway.Registry

variable {r : Registry} {t u v : Task} {way names : List String} {name owner : String}
  {p q : Progress}

/-! ### Dependencies -/

theorem find?_name_of_resolve? (h : r.resolve? name = some t) : r.find? t.name = some t := by
  have hn : t.name = normalName name := name_of_find? h
  rw [hn]; exact h

theorem Reaches.trans (htu : r.Reaches t u) (huv : r.Reaches u v) : r.Reaches t v := by
  induction huv with
  | refl => exact htu
  | tail _ hn ih => exact ih.tail hn

theorem Needs.reaches (h : r.Needs t u) : r.Reaches t u :=
  Reaches.refl.tail h

/-- Whether a task needs a task that reaches it. -/
def OnCycle (r : Registry) (t : Task) : Prop :=
  ∃ u, r.Needs t u ∧ r.Reaches u t

/-- Whether all dependencies below a task stand for tasks and none of these tasks is on a cycle. -/
structure Plannable (r : Registry) (t : Task) : Prop where
  resolves : ∀ u, r.Reaches t u → ∀ d ∈ u.dependencies, (r.resolve? d).isSome
  acyclic : ∀ u, r.Reaches t u → ¬ r.OnCycle u

theorem Plannable.of_reaches (h : r.Plannable t) (htu : r.Reaches t u) : r.Plannable u :=
  ⟨fun v huv => h.resolves v (htu.trans huv), fun v huv => h.acyclic v (htu.trans huv)⟩

/-! ### Lists in order -/

/-- Tasks in an order in which each comes once and after all of its dependencies. -/
structure Ordered (r : Registry) (order : List Task) : Prop where
  found : ∀ t ∈ order, r.find? t.name = some t
  nodup : (order.map (·.name)).Nodup
  after : ∀ before t later, order = before ++ t :: later →
    ∀ d ∈ t.dependencies, ∃ u ∈ before, r.resolve? d = some u

namespace Ordered

theorem nil : r.Ordered [] where
  found _ h := absurd h List.not_mem_nil
  nodup := List.nodup_nil
  after before t later h := by simp at h

theorem snoc {order : List Task} (h : r.Ordered order) (hf : r.find? t.name = some t)
    (hn : t.name ∉ order.map (·.name))
    (hd : ∀ d ∈ t.dependencies, ∃ u ∈ order, r.resolve? d = some u) :
    r.Ordered (order ++ [t]) := by
  refine ⟨fun u hu => ?_, ?_, fun before u later he d hdu => ?_⟩
  · rcases List.mem_append.1 hu with hu | hu
    · exact h.found u hu
    · rw [List.mem_singleton.1 hu]; exact hf
  · rw [List.map_append, List.nodup_append]
    refine ⟨h.nodup, List.nodup_singleton _, fun a ha b hb hab => hn ?_⟩
    have hbt : b = t.name := List.mem_singleton.1 hb
    rw [← hbt, ← hab]; exact ha
  · rcases List.eq_nil_or_concat later with rfl | ⟨later, w, rfl⟩
    · obtain ⟨rfl, hu⟩ := List.append_inj' he rfl
      obtain rfl : t = u := by simpa using hu
      exact hd d hdu
    · have he' : order ++ [t] = (before ++ u :: later) ++ [w] := by simpa using he
      exact h.after before u later (List.append_inj' he' rfl).1 d hdu

theorem mem_of_needs {before later : List Task} (h : r.Ordered (before ++ t :: later))
    (hn : r.Needs t u) : u ∈ before := by
  obtain ⟨d, hd, hu⟩ := hn
  obtain ⟨w, hw, hdw⟩ := h.after before t later rfl d hd
  obtain rfl : u = w := Option.some.inj (hu.symm.trans hdw)
  exact hw

/-- What a task of an initial part reaches is in this part. -/
theorem mem_of_reaches {before later : List Task} (h : r.Ordered (before ++ later))
    (ht : t ∈ before) (hr : r.Reaches t u) : u ∈ before := by
  induction hr with
  | refl => exact ht
  | tail _ hn ih =>
    obtain ⟨front, back, rfl⟩ := List.append_of_mem ih
    rw [List.append_assoc] at h
    exact List.mem_append_left _ (h.mem_of_needs hn)

theorem plannable {order : List Task} (h : r.Ordered order) (ht : t ∈ order) : r.Plannable t := by
  refine ⟨fun u hu d hd => ?_, fun u hu ⟨v, hn, hvu⟩ => ?_⟩
  all_goals
    have hmem : u ∈ order := (List.append_nil order ▸ h).mem_of_reaches ht hu
    obtain ⟨before, later, rfl⟩ := List.append_of_mem hmem
  · obtain ⟨w, -, hdw⟩ := h.after before u later rfl d hd
    rw [hdw]; rfl
  · -- all that `u` needs comes before `u`, and so would `u` itself
    have hu' : u ∈ before := h.mem_of_reaches (h.mem_of_needs hn) hvu
    have hnd := h.nodup
    rw [List.map_append, List.nodup_append] at hnd
    exact hnd.2.2 u.name (List.mem_map_of_mem hu') u.name (by simp) rfl

end Ordered

/-! ### One step of the search -/

theorem visit_of_resolve?_eq_none (h : r.resolve? name = none) :
    r.visit way name p = .error ⟨.unknownTask name, none⟩ := by
  unfold visit
  split
  · rfl
  · next t ht => rw [h] at ht; cases ht

/-- A visit of a task that is neither finished nor on the way finishes its dependencies first. -/
theorem visit_of_resolve? (h : r.resolve? name = some t) :
    r.visit way name p =
      if t.name ∈ p.done then .ok p
      else if t.name ∈ way then .error ⟨.dependencyCycle (cycle way t.name), none⟩
      else (r.visitAll (t.name :: way) t.name t.dependencies p).map fun q =>
        ⟨t.name :: q.done, q.order ++ [t]⟩ := by
  conv_lhs => unfold visit
  split
  · next ht => rw [h] at ht; cases ht
  · next t' ht =>
    obtain rfl : t = t' := Option.some.inj (h.symm.trans ht)
    split
    · rfl
    · split
      · rfl
      · cases r.visitAll (t.name :: way) t.name t.dependencies p <;> rfl

theorem visitAll_nil : r.visitAll way owner [] p = .ok p := by
  unfold visitAll; rfl

theorem visitAll_cons_of_unresolved (h : r.resolve? name = none) :
    r.visitAll way owner (name :: names) p =
      .error ⟨.unknownTask name, some ("dependency of '" ++ owner ++ "'")⟩ := by
  unfold visitAll
  rw [h]; rfl

theorem visitAll_cons (h : r.resolve? name = some t) :
    r.visitAll way owner (name :: names) p =
      (r.visit way name p).bind fun q => r.visitAll way owner names q := by
  conv_lhs => unfold visitAll
  rw [h]
  cases r.visit way name p <;> rfl

/-! ### What the search finishes -/

namespace Progress

/-- The finished tasks are in order, and their names are those that count as finished. -/
structure Sound (r : Registry) (p : Progress) : Prop where
  ordered : r.Ordered p.order
  mem_done : ∀ n, n ∈ p.done ↔ n ∈ p.order.map (·.name)

theorem sound_empty : Sound r {} where
  ordered := .nil
  mem_done n := by simp

theorem Sound.mem_of_done (h : p.Sound r) (hf : r.find? t.name = some t) (ht : t.name ∈ p.done) :
    t ∈ p.order := by
  obtain ⟨u, hu, hn⟩ := List.mem_map.1 ((h.mem_done _).1 ht)
  have hfu := h.ordered.found u hu
  rw [show u.name = t.name from hn, hf] at hfu
  rw [Option.some.inj hfu]; exact hu

/-- More is finished, still in order: tasks with `P` whose names are not on the way. -/
structure Grows (r : Registry) (way : List String) (P : Task → Prop) (p q : Progress) : Prop where
  sound : q.Sound r
  more : ∃ more, q.order = p.order ++ more ∧ ∀ u ∈ more, u.name ∉ way ∧ P u

namespace Grows

variable {P Q : Task → Prop} {q' : Progress}

theorem refl (h : p.Sound r) : p.Grows r way P p :=
  ⟨h, [], by simp, by simp⟩

theorem trans (h : p.Grows r way P q) (h' : q.Grows r way P q') : p.Grows r way P q' := by
  obtain ⟨more, hq, hm⟩ := h.more
  obtain ⟨more', hq', hm'⟩ := h'.more
  refine ⟨h'.sound, more ++ more', by rw [hq', hq, List.append_assoc], fun u hu => ?_⟩
  rcases List.mem_append.1 hu with hu | hu
  · exact hm u hu
  · exact hm' u hu

theorem imp (h : p.Grows r way P q) (hPQ : ∀ u, P u → Q u) : p.Grows r way Q q :=
  ⟨h.sound, h.more.imp fun _ hm => ⟨hm.1, fun u hu => ⟨(hm.2 u hu).1, hPQ u (hm.2 u hu).2⟩⟩⟩

theorem mem_order (h : p.Grows r way P q) (ht : t ∈ p.order) : t ∈ q.order := by
  obtain ⟨more, hq, -⟩ := h.more
  rw [hq]; exact List.mem_append_left _ ht

/-- A task is finished after its dependencies; it is new since no search below it can finish what is
on the way. -/
theorem finish (h : p.Grows r (t.name :: way) P q) (hf : r.find? t.name = some t)
    (hp : p.Sound r) (hdone : t.name ∉ p.done) (hway : t.name ∉ way) (ht : P t)
    (hd : ∀ d ∈ t.dependencies, ∃ u ∈ q.order, r.resolve? d = some u) :
    p.Grows r way P ⟨t.name :: q.done, q.order ++ [t]⟩ := by
  obtain ⟨more, hq, hm⟩ := h.more
  have hnew : t.name ∉ q.order.map (·.name) := by
    rw [hq, List.map_append, List.mem_append, ← hp.mem_done]
    rintro (hn | hn)
    · exact hdone hn
    · obtain ⟨u, hu, hn⟩ := List.mem_map.1 hn
      exact (hm u hu).1 (by rw [show u.name = t.name from hn]; exact List.mem_cons_self)
  refine ⟨⟨h.sound.ordered.snoc hf hnew hd, fun n => ?_⟩, more ++ [t], by simp [hq], fun u hu => ?_⟩
  · rw [List.mem_cons, h.sound.mem_done, List.map_append, List.mem_append, or_comm]
    simp
  · rcases List.mem_append.1 hu with hu | hu
    · exact ⟨fun hw => (hm u hu).1 (List.mem_cons_of_mem _ hw), (hm u hu).2⟩
    · rw [List.mem_singleton.1 hu]; exact ⟨hway, ht⟩

end Grows

end Progress

/-- A search that ends well has finished the task, and beyond what was finished before only tasks
that it reaches. -/
theorem visit_grows (r : Registry) :
    (∀ way name p, Progress.Sound r p → ∀ q, r.visit way name p = .ok q →
      ∃ t ∈ q.order, r.resolve? name = some t ∧ p.Grows r way (r.Reaches t) q) ∧
    (∀ way owner names p, Progress.Sound r p → ∀ q, r.visitAll way owner names p = .ok q →
      (∀ d ∈ names, ∃ t ∈ q.order, r.resolve? d = some t) ∧
        p.Grows r way (fun u => ∃ d ∈ names, ∃ t, r.resolve? d = some t ∧ r.Reaches t u) q) := by
  apply visit.mutual_induct r
  case case1 =>
    intro way name p hn hp q hq
    rw [visit_of_resolve?_eq_none hn] at hq; cases hq
  case case2 => -- finished before
    intro way name p t ht hdone hp q hq
    rw [visit_of_resolve? ht, if_pos hdone] at hq
    obtain rfl := Except.ok.inj hq
    exact ⟨t, hp.mem_of_done (find?_name_of_resolve? ht) hdone, ht, .refl hp⟩
  case case3 =>
    intro way name p t ht hdone hway hp q hq
    rw [visit_of_resolve? ht, if_neg hdone, if_pos hway] at hq; cases hq
  case case4 =>
    intro way name p t ht hdone hway f hf ih hp q hq
    rw [visit_of_resolve? ht, if_neg hdone, if_neg hway, hf] at hq; cases hq
  case case5 => -- finished after its dependencies
    intro way name p t ht hdone hway q hq ih hp q' hq'
    rw [visit_of_resolve? ht, if_neg hdone, if_neg hway, hq] at hq'
    obtain rfl := Except.ok.inj hq'
    obtain ⟨hd, hg⟩ := ih hp q hq
    refine ⟨t, by simp, ht, Progress.Grows.finish (hg.imp ?_) (find?_name_of_resolve? ht) hp hdone
      hway .refl hd⟩
    rintro u ⟨d, hdt, v, hv, hvu⟩
    exact Reaches.trans (Needs.reaches ⟨d, hdt, hv⟩) hvu
  case case6 =>
    intro way owner p hp q hq
    rw [visitAll_nil] at hq
    obtain rfl := Except.ok.inj hq
    exact ⟨nofun, .refl hp⟩
  case case7 =>
    intro way owner p name rest hs f hf ih hp q hq
    obtain ⟨t, ht⟩ := Option.isSome_iff_exists.1 hs
    rw [visitAll_cons ht, hf] at hq; cases hq
  case case8 => -- one dependency, then the rest
    intro way owner p name rest hs p₁ hp₁ ih ih' hp q hq
    obtain ⟨t, ht⟩ := Option.isSome_iff_exists.1 hs
    rw [visitAll_cons ht, hp₁] at hq
    obtain ⟨t', ht₁, ht', hg⟩ := ih hp p₁ hp₁
    obtain ⟨hd, hg'⟩ := ih' hg.sound q hq
    refine ⟨fun d hdm => ?_, (hg.imp fun u hu => ?_).trans (hg'.imp ?_)⟩
    · rcases List.mem_cons.1 hdm with rfl | hdm
      · exact ⟨t', hg'.mem_order ht₁, ht'⟩
      · exact hd d hdm
    · exact ⟨name, List.mem_cons_self, t', ht', hu⟩
    · rintro u ⟨d, hdm, hu⟩
      exact ⟨d, List.mem_cons_of_mem _ hdm, hu⟩
  case case9 =>
    intro way owner p name rest hs hp q hq
    rw [visitAll_cons_of_unresolved (by simpa using hs)] at hq; cases hq

/-! ### When the search succeeds -/

/-- Whether every name on the way is that of a task above `t`. -/
def Above (r : Registry) (way : List String) (t : Task) : Prop :=
  ∀ n ∈ way, ∃ u v, r.find? n = some u ∧ r.Needs u v ∧ r.Reaches v t

theorem Above.of_needs (h : r.Above way t) (hf : r.find? t.name = some t) (hn : r.Needs t u) :
    r.Above (t.name :: way) u := by
  intro n hm
  rcases List.mem_cons.1 hm with rfl | hm
  · exact ⟨t, u, hf, hn, .refl⟩
  · obtain ⟨w, v, hw, hwv, hvt⟩ := h n hm
    exact ⟨w, v, hw, hwv, hvt.tail hn⟩

theorem Above.onCycle (h : r.Above way t) (hf : r.find? t.name = some t) (hm : t.name ∈ way) :
    r.OnCycle t := by
  obtain ⟨u, v, hu, huv, hvt⟩ := h _ hm
  obtain rfl : u = t := Option.some.inj (hu.symm.trans hf)
  exact ⟨v, huv, hvt⟩

theorem Plannable.dependencies (h : r.Plannable t) (ha : r.Above way t)
    (hf : r.find? t.name = some t) :
    ∀ d ∈ t.dependencies, ∃ u, r.resolve? d = some u ∧ r.Plannable u ∧
      r.Above (t.name :: way) u := by
  intro d hd
  obtain ⟨u, hu⟩ := Option.isSome_iff_exists.1 (h.resolves t .refl d hd)
  have hn : r.Needs t u := ⟨d, hd, hu⟩
  exact ⟨u, hu, h.of_reaches hn.reaches, ha.of_needs hf hn⟩

theorem exists_visit_eq_ok (r : Registry) :
    (∀ way name p, ∀ t, r.resolve? name = some t → r.Plannable t → r.Above way t →
      ∃ q, r.visit way name p = .ok q) ∧
    (∀ way owner names p,
      (∀ d ∈ names, ∃ u, r.resolve? d = some u ∧ r.Plannable u ∧ r.Above way u) →
      ∃ q, r.visitAll way owner names p = .ok q) := by
  apply visit.mutual_induct r
  case case1 =>
    intro way name p hn t ht
    rw [hn] at ht; cases ht
  case case2 =>
    intro way name p t ht hdone t' _ _ _
    exact ⟨p, by rw [visit_of_resolve? ht, if_pos hdone]⟩
  case case3 => -- met again on the way
    intro way name p t ht hdone hway t' ht' hp ha
    obtain rfl : t = t' := Option.some.inj (ht.symm.trans ht')
    exact absurd (ha.onCycle (find?_name_of_resolve? ht) hway) (hp.acyclic t .refl)
  case case4 => -- a dependency fails
    intro way name p t ht hdone hway f hf ih t' ht' hp ha
    obtain rfl : t = t' := Option.some.inj (ht.symm.trans ht')
    obtain ⟨q, hq⟩ := ih (hp.dependencies ha (find?_name_of_resolve? ht))
    rw [hf] at hq; cases hq
  case case5 =>
    intro way name p t ht hdone hway q hq _ _ _ _ _
    exact ⟨_, by rw [visit_of_resolve? ht, if_neg hdone, if_neg hway, hq]; rfl⟩
  case case6 =>
    intro way owner p _
    exact ⟨p, visitAll_nil⟩
  case case7 =>
    intro way owner p name rest hs f hf ih hd
    obtain ⟨u, hu, hp, ha⟩ := hd name List.mem_cons_self
    obtain ⟨q, hq⟩ := ih u hu hp ha
    rw [hf] at hq; cases hq
  case case8 =>
    intro way owner p name rest hs p₁ hp₁ ih ih' hd
    obtain ⟨u, hu, -, -⟩ := hd name List.mem_cons_self
    obtain ⟨q, hq⟩ := ih' fun d hm => hd d (List.mem_cons_of_mem _ hm)
    exact ⟨q, by rw [visitAll_cons hu, hp₁]; exact hq⟩
  case case9 =>
    intro way owner p name rest hs hd
    obtain ⟨u, hu, -, -⟩ := hd name List.mem_cons_self
    rw [hu] at hs; exact absurd rfl hs

/-! ### Plans -/

/-- A plan is in order, holds what the task reaches, and ends with the task. -/
theorem plan_spec {order : List Task} (h : r.plan name = .ok order) :
    ∃ t, r.resolve? name = some t ∧ r.Ordered order ∧ (∀ u, u ∈ order ↔ r.Reaches t u) ∧
      order.getLast? = some t := by
  unfold plan at h
  cases hv : r.visit [] name {} with
  | error f => rw [hv] at h; cases h
  | ok q =>
    rw [hv] at h
    obtain rfl : q.order = order := Except.ok.inj h
    obtain ⟨t, htq, ht, hg⟩ := (visit_grows r).1 [] name {} Progress.sound_empty q hv
    obtain ⟨more, hq, hm⟩ := hg.more
    refine ⟨t, ht, hg.sound.ordered, fun u => ⟨fun hu => ?_, fun hu => ?_⟩, ?_⟩
    · rw [hq] at hu; exact (hm u (by simpa using hu)).2
    · have ho := hg.sound.ordered
      rw [← List.append_nil q.order] at ho
      exact ho.mem_of_reaches htq hu
    · rw [visit_of_resolve? ht, if_neg List.not_mem_nil, if_neg List.not_mem_nil] at hv
      cases hd : r.visitAll [t.name] t.name t.dependencies {} with
      | error f => rw [hd] at hv; cases hv
      | ok p => rw [hd] at hv; obtain rfl := Except.ok.inj hv; simp

theorem exists_plan_eq_ok_iff :
    (∃ order, r.plan name = .ok order) ↔ ∃ t, r.resolve? name = some t ∧ r.Plannable t := by
  constructor
  · rintro ⟨order, h⟩
    obtain ⟨t, ht, ho, hm, -⟩ := plan_spec h
    exact ⟨t, ht, ho.plannable ((hm t).2 .refl)⟩
  · rintro ⟨t, ht, hp⟩
    obtain ⟨q, hq⟩ := (exists_visit_eq_ok r).1 [] name {} t ht hp nofun
    exact ⟨q.order, by rw [plan, hq]; rfl⟩

theorem plan_of_no_dependencies (h : r.resolve? name = some t) (hd : t.dependencies = []) :
    r.plan name = .ok [t] := by
  rw [plan, visit_of_resolve? h, if_neg List.not_mem_nil, if_neg List.not_mem_nil, hd, visitAll_nil]
  rfl

theorem plan_of_one_dependency {d : String} (h : r.resolve? name = some t)
    (hd : t.dependencies = [d]) (hu : r.resolve? d = some u) (hud : u.dependencies = [])
    (hne : u.name ≠ t.name) : r.plan name = .ok [u, t] := by
  have hvisit : r.visit [t.name] d {} = .ok ⟨[u.name], [u]⟩ := by
    rw [visit_of_resolve? hu, if_neg List.not_mem_nil, if_neg (by simpa using hne), hud,
      visitAll_nil]
    rfl
  rw [plan, visit_of_resolve? h, if_neg List.not_mem_nil, if_neg List.not_mem_nil, hd,
    visitAll_cons hu, hvisit, Except.bind, visitAll_nil]
  rfl

/-- A task can be planned if and only if every dependency below it stands for a task and none of
these tasks is on a cycle. The plan lists what the task reaches, each name once, each task after all
that it needs, and the task itself last. -/
theorem plan_eq_ok_iff_plannable (r : Registry) (name : String) :
    ((∃ order, r.plan name = .ok order) ↔
      ∃ t, r.resolve? name = some t ∧
        (∀ u, r.Reaches t u → ∀ d ∈ u.dependencies, (r.resolve? d).isSome) ∧
        ∀ u, r.Reaches t u → ¬ ∃ v, r.Needs u v ∧ r.Reaches v u) ∧
    ∀ order, r.plan name = .ok order →
      ∃ t, r.resolve? name = some t ∧ (∀ u, u ∈ order ↔ r.Reaches t u) ∧
        (order.map (·.name)).Nodup ∧
        (∀ before u later, order = before ++ u :: later → ∀ v, r.Needs u v → v ∈ before) ∧
        order.getLast? = some t := by
  refine ⟨exists_plan_eq_ok_iff.trans ?_, fun order h => ?_⟩
  · exact ⟨fun ⟨t, ht, hp⟩ => ⟨t, ht, hp.resolves, hp.acyclic⟩,
      fun ⟨t, ht, hs, hc⟩ => ⟨t, ht, hs, hc⟩⟩
  · obtain ⟨t, ht, ho, hm, hl⟩ := plan_spec h
    refine ⟨t, ht, hm, ho.nodup, fun before u later he v hn => ?_, hl⟩
    subst he
    exact ho.mem_of_needs hn

end Slipway.Registry
