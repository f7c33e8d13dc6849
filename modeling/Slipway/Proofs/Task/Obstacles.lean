import Slipway.Proofs.Task.Plan
import Mathlib.Data.List.Chain

/-!
# Why there is no plan

A search that fails names what stands in its way. Either it met a task again while it was finishing
what this task depends on, and the names from that task on form a cycle (`Circle`); or it met a
dependency that stands for no task, and then the failure names this dependency and the task that
asks for it, however deep the search was.

The invariant is that of the way (`Descent`): the names on it are those of tasks that lead down from
the first one, each needed by the task before it. The cycle is cut out of the way, so its tasks need
each other as they do on the way (`Descent.circle`).
-/

namespace Slipway.Registry

variable {r : Registry} {root t u : Task} {tasks : List Task} {name : String} {f : Failure}

/-- Tasks each of which needs the next. The last is the first again, and no other comes twice. -/
structure Circle (r : Registry) (chain : List Task) : Prop where
  two_le : 2 ≤ chain.length
  closed : chain.head? = chain.getLast?
  nodup : (chain.dropLast.map (·.name)).Nodup
  needs : chain.IsChain r.Needs

/-! ### The way down -/

/-- The tasks on the way of a search that started at `root`, the latest first. -/
structure Descent (r : Registry) (root : Task) (tasks : List Task) : Prop where
  found : ∀ u ∈ tasks, r.find? u.name = some u
  reached : ∀ u ∈ tasks, r.Reaches root u
  nodup : (tasks.map (·.name)).Nodup
  needs : tasks.IsChain fun u v => r.Needs v u

namespace Descent

theorem nil : r.Descent root [] where
  found _ h := absurd h List.not_mem_nil
  reached _ h := absurd h List.not_mem_nil
  nodup := List.nodup_nil
  needs := .nil

theorem cons (h : r.Descent root tasks) (hf : r.find? t.name = some t) (hr : r.Reaches root t)
    (hn : ∀ u ∈ tasks.head?, r.Needs u t) (hnew : t.name ∉ tasks.map (·.name)) :
    r.Descent root (t :: tasks) := by
  refine ⟨fun u hu => ?_, fun u hu => ?_, List.nodup_cons.2 ⟨hnew, h.nodup⟩,
    List.isChain_cons.2 ⟨hn, h.needs⟩⟩
  · rcases List.mem_cons.1 hu with rfl | hu
    · exact hf
    · exact h.found u hu
  · rcases List.mem_cons.1 hu with rfl | hu
    · exact hr
    · exact h.reached u hu

/-- The part of the way that a task met again closes to a cycle. -/
theorem circle (h : r.Descent root tasks) (hf : r.find? t.name = some t) (hr : r.Reaches root t)
    (hn : ∀ u ∈ tasks.head?, r.Needs u t) (hmet : t.name ∈ tasks.map (·.name)) :
    ∃ chain, r.Circle chain ∧ (∀ u ∈ chain, r.find? u.name = some u ∧ r.Reaches root u) ∧
      chain.map (·.name) = cycle (tasks.map (·.name)) t.name := by
  have ht : t ∈ tasks := by
    obtain ⟨u, hu, hname⟩ := List.mem_map.1 hmet
    have hfu := h.found u hu
    rw [show u.name = t.name from hname, hf] at hfu
    rw [Option.some.inj hfu]; exact hu
  obtain ⟨later, before, rfl⟩ := List.append_of_mem ht
  have hnew : ∀ u ∈ later, u.name ≠ t.name := by
    intro u hu he
    have hnd := h.nodup
    rw [List.map_append, List.nodup_append] at hnd
    exact hnd.2.2 _ (List.mem_map_of_mem hu) _ (by simp) he
  -- from the task to itself as on the way, which is written upwards
  have hup : (t :: (later ++ [t])).IsChain fun u v => r.Needs v u := by
    have hall : (t :: (later ++ t :: before)).IsChain fun u v => r.Needs v u :=
      List.isChain_cons.2 ⟨hn, h.needs⟩
    have hsplit : t :: (later ++ t :: before) = (t :: (later ++ [t])) ++ before := by simp
    rw [hsplit] at hall
    exact hall.left_of_append
  refine ⟨t :: (later.reverse ++ [t]), ⟨by simp, ?_, ?_, ?_⟩, fun u hu => ?_, ?_⟩
  · rw [← List.cons_append, List.getLast?_concat]; rfl
  · rw [← List.cons_append, List.dropLast_concat, List.map_cons, List.map_reverse,
      List.nodup_cons, List.nodup_reverse]
    refine ⟨fun hm => ?_, ?_⟩
    · obtain ⟨u, hu, he⟩ := List.mem_map.1 (List.mem_reverse.1 hm)
      exact hnew u hu he
    · have hnd := h.nodup
      rw [List.map_append] at hnd
      exact hnd.of_append_left
  · have hrev : t :: (later.reverse ++ [t]) = (t :: (later ++ [t])).reverse := by simp
    rw [hrev, List.isChain_reverse]
    exact hup
  · rcases List.mem_cons.1 hu with rfl | hu
    · exact ⟨hf, hr⟩
    · have hmem : u ∈ later ++ t :: before := by
        rcases List.mem_append.1 hu with hu | hu
        · exact List.mem_append_left _ (List.mem_reverse.1 hu)
        · rw [List.mem_singleton.1 hu]; exact ht
      exact ⟨h.found u hmem, h.reached u hmem⟩
  · have htake : ((later ++ t :: before).map (·.name)).takeWhile (· != t.name) =
        later.map (·.name) := by
      rw [List.map_append, List.takeWhile_append_of_pos, List.map_cons,
        List.takeWhile_cons_of_neg (by simp), List.append_nil]
      intro n hn'
      obtain ⟨u, hu, rfl⟩ := List.mem_map.1 hn'
      simpa using hnew u hu
    rw [cycle, htake, List.map_cons, List.map_append, List.map_reverse]
    rfl

end Descent

/-! ### What a search fails with -/

/-- What may keep a search below `root` from ending well. -/
inductive Obstacle (r : Registry) (root : Task) : Failure → Prop where
  | circle {chain : List Task} (h : r.Circle chain)
      (hr : ∀ u ∈ chain, r.find? u.name = some u ∧ r.Reaches root u) :
      Obstacle r root ⟨.dependencyCycle (chain.map (·.name)), none⟩
  | unresolved {u : Task} {d : String} (hr : r.Reaches root u) (hd : d ∈ u.dependencies)
      (hn : r.resolve? d = none) :
      Obstacle r root ⟨.unknownTask d, some ("dependency of '" ++ u.name ++ "'")⟩

theorem obstacle_of_visit (r : Registry) (root : Task) :
    (∀ way name p, ∀ tasks t f, way = tasks.map (·.name) → r.Descent root tasks →
      r.resolve? name = some t → r.Reaches root t → (∀ u ∈ tasks.head?, r.Needs u t) →
      r.visit way name p = .error f → r.Obstacle root f) ∧
    (∀ way owner names p, ∀ tasks u f, way = (u :: tasks).map (·.name) →
      r.Descent root (u :: tasks) → owner = u.name → (∀ d ∈ names, d ∈ u.dependencies) →
      r.visitAll way owner names p = .error f → r.Obstacle root f) := by
  apply visit.mutual_induct r
  case case1 =>
    intro way name p hnone tasks t f _ _ ht
    rw [hnone] at ht; cases ht
  case case2 =>
    intro way name p t ht hdone tasks t' f _ _ _ _ _ h
    rw [visit_of_resolve? ht, if_pos hdone] at h; cases h
  case case3 => -- met again on the way
    intro way name p t ht hdone hway tasks t' f hw hdesc ht' hr hn h
    obtain rfl : t = t' := Option.some.inj (ht.symm.trans ht')
    rw [visit_of_resolve? ht, if_neg hdone, if_pos hway] at h
    obtain rfl := Except.error.inj h
    subst hw
    obtain ⟨chain, hc, hall, hnames⟩ := hdesc.circle (find?_name_of_resolve? ht) hr hn hway
    rw [← hnames]
    exact .circle hc hall
  case case4 => -- a dependency fails
    intro way name p t ht hdone hway e he ih tasks t' f hw hdesc ht' hr hn h
    obtain rfl : t = t' := Option.some.inj (ht.symm.trans ht')
    rw [visit_of_resolve? ht, if_neg hdone, if_neg hway] at h
    rw [he] at h
    obtain rfl : e = f := Except.error.inj h
    subst hw
    exact ih tasks t e rfl (hdesc.cons (find?_name_of_resolve? ht) hr hn hway) rfl
      (fun _ hd => hd) he
  case case5 =>
    intro way name p t ht hdone hway q hq _ tasks t' f _ _ _ _ _ h
    rw [visit_of_resolve? ht, if_neg hdone, if_neg hway, hq] at h; cases h
  case case6 =>
    intro way owner p tasks u f _ _ _ _ h
    rw [visitAll_nil] at h; cases h
  case case7 => -- the first dependency fails
    intro way owner p name rest hs e he ih tasks u f hw hdesc ho hd h
    obtain ⟨t, ht⟩ := Option.isSome_iff_exists.1 hs
    rw [visitAll_cons ht, he] at h
    obtain rfl : e = f := Except.error.inj h
    have hneed : r.Needs u t := ⟨name, hd name List.mem_cons_self, ht⟩
    have hreach : r.Reaches root t := (hdesc.reached u List.mem_cons_self).tail hneed
    refine ih (u :: tasks) t e hw hdesc ht hreach (fun v hv => ?_) he
    obtain rfl : u = v := Option.some.inj hv
    exact hneed
  case case8 => -- a later dependency fails
    intro way owner p name rest hs q hq _ ih tasks u f hw hdesc ho hd h
    obtain ⟨t, ht⟩ := Option.isSome_iff_exists.1 hs
    rw [visitAll_cons ht, hq] at h
    exact ih tasks u f hw hdesc ho (fun d hm => hd d (List.mem_cons_of_mem _ hm)) h
  case case9 => -- a dependency that stands for no task
    intro way owner p name rest hs tasks u f hw hdesc ho hd h
    have hnone : r.resolve? name = none := by simpa using hs
    rw [visitAll_cons_of_unresolved hnone] at h
    obtain rfl := Except.error.inj h
    subst ho
    exact .unresolved (hdesc.reached u List.mem_cons_self) (hd name List.mem_cons_self) hnone

/-- A plan that fails has one of three reasons. The name stands for no task, and the failure repeats
it without a context. Or the tasks that it names, all of them registered and reached from the task,
need each other in a circle. Or it names, as it is written, a dependency that stands for no task,
and as its context the task with this dependency, which is reached from the task. -/
theorem plan_error_names_obstacle (r : Registry) (name : String) (f : Failure)
    (h : r.plan name = .error f) :
    (r.resolve? name = none ∧ f = ⟨.unknownTask name, none⟩) ∨
      ∃ t, r.resolve? name = some t ∧
        ((∃ chain : List Task, f = ⟨.dependencyCycle (chain.map (·.name)), none⟩ ∧
            2 ≤ chain.length ∧ chain.head? = chain.getLast? ∧
            (chain.dropLast.map (·.name)).Nodup ∧ chain.IsChain r.Needs ∧
            ∀ u ∈ chain, r.find? u.name = some u ∧ r.Reaches t u) ∨
          ∃ u d, r.Reaches t u ∧ d ∈ u.dependencies ∧ r.resolve? d = none ∧
            f = ⟨.unknownTask d, some ("dependency of '" ++ u.name ++ "'")⟩) := by
  rw [plan] at h
  cases hv : r.visit [] name {} with
  | ok q => rw [hv] at h; cases h
  | error e =>
    rw [hv] at h
    obtain rfl : e = f := Except.error.inj h
    cases ht : r.resolve? name with
    | none =>
      rw [visit_of_resolve?_eq_none ht] at hv
      exact .inl ⟨rfl, (Except.error.inj hv).symm⟩
    | some t =>
      refine .inr ⟨t, rfl, ?_⟩
      have hobst : r.Obstacle t e :=
        (obstacle_of_visit r t).1 [] name {} [] t e rfl .nil ht .refl (by simp) hv
      cases hobst with
      | circle hc hall =>
        exact .inl ⟨_, rfl, hc.two_le, hc.closed, hc.nodup, hc.needs, hall⟩
      | unresolved hr hd hn => exact .inr ⟨_, _, hr, hd, hn, rfl⟩

/-- A cycle that is entered from outside. -/
theorem plan_error_names_obstacle_entered :
    let first : Task := ⟨"first", "", ["Second"], .commands []⟩
    let second : Task := ⟨"second", "", ["third"], .commands []⟩
    let third : Task := ⟨"third", "", ["second"], .commands []⟩
    let r : Registry := ⟨[first, second, third]⟩
    r.plan "first" = .error ⟨.dependencyCycle ["second", "third", "second"], none⟩ ∧
      ∃ chain : List Task, chain.map (·.name) = ["second", "third", "second"] ∧
        chain.IsChain r.Needs ∧ ∀ u ∈ chain, r.Reaches first u := by
  intro first second third r
  have h₁ : r.resolve? "first" = some first := by decide
  have h₂ : r.resolve? "Second" = some second := by decide
  have h₃ : r.resolve? "third" = some third := by decide
  have h₄ : r.resolve? "second" = some second := by decide
  have hplan : r.plan "first" =
      .error ⟨.dependencyCycle ["second", "third", "second"], none⟩ := by
    have hmet : r.visit ["third", "second", "first"] "second" {} =
        .error ⟨.dependencyCycle ["second", "third", "second"], none⟩ := by
      rw [visit_of_resolve? h₄, if_neg List.not_mem_nil, if_pos (by decide)]
      rfl
    have hthird : r.visit ["second", "first"] "third" {} = _ := visit_of_resolve? h₃
    rw [if_neg List.not_mem_nil, if_neg (by decide), visitAll_cons h₄, hmet] at hthird
    have hsecond : r.visit ["first"] "Second" {} = _ := visit_of_resolve? h₂
    rw [if_neg List.not_mem_nil, if_neg (by decide), visitAll_cons h₃, hthird] at hsecond
    rw [plan, visit_of_resolve? h₁, if_neg List.not_mem_nil, if_neg List.not_mem_nil,
      visitAll_cons h₂, hsecond]
    rfl
  refine ⟨hplan, ?_⟩
  obtain ⟨hnone, -⟩ | ⟨t, ht, ⟨chain, hf, -, -, -, hneeds, hall⟩ | ⟨u, d, -, -, -, hf⟩⟩ :=
    plan_error_names_obstacle r "first" _ hplan
  · rw [h₁] at hnone; cases hnone
  · obtain rfl : first = t := Option.some.inj (h₁.symm.trans ht)
    have hnames : ["second", "third", "second"] = chain.map (·.name) :=
      Cause.dependencyCycle.inj (Failure.mk.inj hf).1
    exact ⟨chain, hnames.symm, hneeds, fun u hu => (hall u hu).2⟩
  · cases (Failure.mk.inj hf).1

end Slipway.Registry
