import Slipway.Proofs.Task.Histories

/-!
# Runs one after another and one plan

Names that are run one after the other in a session are performed in the order of one plan: that of
a new task which depends on these names (`runAll_eq_plan`), provided that all commands succeed.

A session leaves the completed tasks out of each plan, whereas one search passes them by. Both give
the same since what is finished is closed under dependencies: the search below a finished task would
only list finished tasks. `Resumed` compares a search from the start with one that begins where
another has ended, and `visit_resumed` carries it through the search; the second search may go on in
a larger registry and with more names on the way, as long as the first one never meets them.
-/

namespace Slipway.Registry

variable {r r' : Registry} {t : Task} {extra : List String} {base p p' q q' : Progress}

/-- Whether names stand for the same tasks in the registry `r'`, and for none that `extra` names. -/
structure Extends (r r' : Registry) (extra : List String) : Prop where
  resolves : ∀ name t, r.resolve? name = some t → r'.resolve? name = some t
  fresh : ∀ name t, r.resolve? name = some t → t.name ∉ extra

theorem extends_refl (r : Registry) : r.Extends r [] :=
  ⟨fun _ _ h => h, fun _ _ _ => List.not_mem_nil⟩

theorem extends_register {v : Task} (h : r.find? v.name = none) :
    r.Extends (r.register v).2 [v.name] := by
  have hne : ∀ name t, r.resolve? name = some t → t.name ≠ v.name := by
    intro name t ht he
    have hf := find?_name_of_resolve? ht
    rw [he, h] at hf
    cases hf
  refine ⟨fun name t ht => ?_, fun name t ht => by simpa using hne name t ht⟩
  have hn : v.name ≠ normalName name := fun he => hne name t ht ((name_of_find? ht).trans he.symm)
  rw [resolve?, find?_register, if_neg hn]
  exact ht

namespace Progress

/-- Whether `q` is what `p` becomes when the tasks of `base` are finished before. -/
structure Resumed (base p q : Progress) : Prop where
  order : q.order = base.order ++ p.order.filter (·.name ∉ base.done)
  mem_done : ∀ n, n ∈ q.done ↔ n ∈ base.done ∨ n ∈ p.done

theorem resumed_empty (base : Progress) : Resumed base {} base where
  order := by simp
  mem_done n := by simp

namespace Resumed

theorem finish (h : Resumed base p q) (ht : t.name ∉ base.done) :
    Resumed base ⟨t.name :: p.done, p.order ++ [t]⟩ ⟨t.name :: q.done, q.order ++ [t]⟩ where
  order := by simp [h.order, ht]
  mem_done n := by
    simp only [List.mem_cons, h.mem_done]
    exact or_left_comm

/-- The search below a task that was finished before finds nothing new. -/
theorem skip (h : Resumed base p q) (hb : base.Sound r) (hp : p.Sound r) {way : List String}
    (hg : p.Grows r way (r.Reaches t) p') (ht : t ∈ base.order) : Resumed base p' q := by
  obtain ⟨more, hmore, hreach⟩ := hg.more
  have hclosed : ∀ u ∈ more, u.name ∈ base.done := by
    intro u hu
    have ho := hb.ordered
    rw [← List.append_nil base.order] at ho
    have hmem : u ∈ base.order := ho.mem_of_reaches ht (hreach u hu).2
    exact (hb.mem_done _).2 (List.mem_map_of_mem hmem)
  constructor
  · have hnil : more.filter (·.name ∉ base.done) = [] := by
      simpa [List.filter_eq_nil_iff] using hclosed
    rw [h.order, hmore, List.filter_append, hnil, List.append_nil]
  · intro n
    rw [h.mem_done, hg.sound.mem_done, hmore, List.map_append, List.mem_append, ← hp.mem_done]
    constructor
    · rintro (hn | hn)
      · exact .inl hn
      · exact .inr (.inl hn)
    · rintro (hn | hn | hn)
      · exact .inl hn
      · exact .inr hn
      · obtain ⟨u, hu, rfl⟩ := List.mem_map.1 hn
        exact .inl (hclosed u hu)

theorem sound (h : Resumed base p q) (h' : Resumed base p q') (hs : q'.Sound r) : q.Sound r := by
  have ho : q.order = q'.order := h.order.trans h'.order.symm
  exact ⟨ho ▸ hs.ordered, fun n => by rw [h.mem_done, ← h'.mem_done, hs.mem_done, ho]⟩

end Resumed

end Progress

open Progress in
/-- A search that ends well also ends well where tasks have been finished before. -/
theorem visit_resumed (hx : r.Extends r' extra) (hb : base.Sound r) :
    (∀ way name p, p.Sound r → ∀ p', r.visit way name p = .ok p' →
      ∀ q, Resumed base p q →
        ∃ q', r'.visit (way ++ extra) name q = .ok q' ∧ Resumed base p' q') ∧
    (∀ way owner names p, p.Sound r → ∀ p', r.visitAll way owner names p = .ok p' →
      ∀ q, Resumed base p q →
        ∃ q', r'.visitAll (way ++ extra) owner names q = .ok q' ∧ Resumed base p' q') := by
  apply visit.mutual_induct r
  case case1 =>
    intro way name p hn _ p' h
    rw [visit_of_resolve?_eq_none hn] at h; cases h
  case case2 => -- finished before
    intro way name p t ht hdone _ p' h q hq
    rw [visit_of_resolve? ht, if_pos hdone] at h
    obtain rfl := Except.ok.inj h
    have hmem : t.name ∈ q.done := (hq.mem_done _).2 (.inr hdone)
    exact ⟨q, by rw [visit_of_resolve? (hx.resolves _ _ ht), if_pos hmem], hq⟩
  case case3 =>
    intro way name p t ht hdone hway _ p' h
    rw [visit_of_resolve? ht, if_neg hdone, if_pos hway] at h; cases h
  case case4 =>
    intro way name p t ht hdone hway f hf _ _ p' h
    rw [visit_of_resolve? ht, if_neg hdone, if_neg hway, hf] at h; cases h
  case case5 =>
    intro way name p t ht hdone hway p₁ hp₁ ih hp p' h q hq
    by_cases hbase : t.name ∈ base.done
    · -- the second search passes the task by
      have hmem : t.name ∈ q.done := (hq.mem_done _).2 (.inl hbase)
      obtain ⟨t', -, ht', hg⟩ := (visit_grows r).1 way name p hp p' h
      obtain rfl : t = t' := Option.some.inj (ht.symm.trans ht')
      refine ⟨q, by rw [visit_of_resolve? (hx.resolves _ _ ht), if_pos hmem], ?_⟩
      exact hq.skip hb hp hg (hb.mem_of_done (find?_name_of_resolve? ht) hbase)
    · rw [visit_of_resolve? ht, if_neg hdone, if_neg hway, hp₁] at h
      obtain rfl := Except.ok.inj h
      obtain ⟨q₁, hq₁, hr⟩ := ih hp p₁ hp₁ q hq
      have hmem : t.name ∉ q.done := fun hm => ((hq.mem_done _).1 hm).elim hbase hdone
      have hon : t.name ∉ way ++ extra := fun hm =>
        (List.mem_append.1 hm).elim hway (hx.fresh _ _ ht)
      refine ⟨⟨t.name :: q₁.done, q₁.order ++ [t]⟩, ?_, hr.finish hbase⟩
      rw [List.cons_append] at hq₁
      rw [visit_of_resolve? (hx.resolves _ _ ht), if_neg hmem, if_neg hon, hq₁]
      rfl
  case case6 =>
    intro way owner p _ p' h q hq
    rw [visitAll_nil] at h
    obtain rfl := Except.ok.inj h
    exact ⟨q, visitAll_nil, hq⟩
  case case7 =>
    intro way owner p name rest hs f hf _ _ p' h
    obtain ⟨t, ht⟩ := Option.isSome_iff_exists.1 hs
    rw [visitAll_cons ht, hf] at h; cases h
  case case8 => -- one dependency, then the rest
    intro way owner p name rest hs p₁ hp₁ ih ih' hp p' h q hq
    obtain ⟨t, ht⟩ := Option.isSome_iff_exists.1 hs
    rw [visitAll_cons ht, hp₁] at h
    obtain ⟨t', -, -, hg⟩ := (visit_grows r).1 way name p hp p₁ hp₁
    obtain ⟨q₁, hq₁, hr₁⟩ := ih hp p₁ hp₁ q hq
    obtain ⟨q', hq', hr'⟩ := ih' hg.sound p' h q₁ hr₁
    exact ⟨q', by rw [visitAll_cons (hx.resolves _ _ ht), hq₁]; exact hq', hr'⟩
  case case9 =>
    intro way owner p name rest hs _ p' h
    rw [visitAll_cons_of_unresolved (by simpa using hs)] at h; cases h

/-- A search for a task that can be planned adds its plan, less what is finished. -/
theorem visit_of_plan {name : String} {order : List Task} (hx : r.Extends r' extra)
    (hq : q.Sound r) (h : r.plan name = .ok order) :
    ∃ q', r'.visit extra name q = .ok q' ∧ q'.Sound r ∧
      q'.order = q.order ++ order.filter (·.name ∉ q.done) := by
  rw [plan] at h
  cases hp : r.visit [] name {} with
  | error f => rw [hp] at h; cases h
  | ok p =>
    rw [hp] at h
    obtain rfl : p.order = order := Except.ok.inj h
    -- the search in `r` itself, which is known to keep what is finished in order
    obtain ⟨q₁, hq₁, hr₁⟩ := (visit_resumed (extends_refl r) hq).1 [] name {}
      Progress.sound_empty p hp q (Progress.resumed_empty q)
    obtain ⟨t, -, -, hg⟩ := (visit_grows r).1 [] name q hq q₁ hq₁
    obtain ⟨q', hq', hr⟩ := (visit_resumed hx hq).1 [] name {} Progress.sound_empty p hp q
      (Progress.resumed_empty q)
    exact ⟨q', hq', hr.sound hr₁ hg.sound, hr.order⟩

end Slipway.Registry

namespace Slipway

/-! ### Runs that succeed -/

/-- Whether every command ends well. -/
def Host.Succeeds (host : Host) : Prop :=
  ∀ past command, host.run past command = .ok (.code 0)

section
variable {host : Host} {tree : FileTree} {past : Trace}

theorem Host.Succeeds.requireAll (h : host.Succeeds) (context : Option String)
    (commands : List Command) (past : Trace) :
    (host.requireAll context commands past).1 = .ok () := by
  induction commands generalizing past with
  | nil => rfl
  | cons command rest ih =>
    rw [Host.requireAll, Host.require, Host.invoke, h past command]
    exact ih _

theorem Host.Succeeds.perform (h : host.Succeeds) (tree : FileTree) (t : Task) (past : Trace) :
    ∃ report past', t.perform host tree past = (.ok report, past') := by
  rw [Task.perform]
  cases t.action with
  | commands commands =>
    have hr := h.requireAll (some ("task '" ++ t.name ++ "'")) commands past
    exact ⟨none, _, Prod.ext (by simp only [hr]; rfl) rfl⟩
  | publish plan => exact ⟨_, _, rfl⟩

namespace Session

variable {session : Session} {r : Registry} {tasks : List Task} {summary : Summary}

theorem logOfEach_of_succeeds (h : host.Succeeds) (tree : FileTree) (tasks : List Task)
    (past : Trace) :
    (logOfEach host tree tasks past).map (·.task) = tasks ∧
      completedBy (logOfEach host tree tasks past) = tasks.map (·.name) := by
  induction tasks generalizing past with
  | nil => exact ⟨rfl, rfl⟩
  | cons t rest ih =>
    obtain ⟨report, past', hp⟩ := h.perform tree t past
    obtain ⟨htasks, hnames⟩ := ih past'
    rw [logOfEach_cons_of_ok hp]
    refine ⟨by rw [List.map_cons, htasks], ?_⟩
    rw [completedBy_cons, hnames]
    rfl

theorem perform_of_succeeds (h : host.Succeeds) :
    ∃ summary', (perform host tree tasks session summary past).result = .ok summary' := by
  induction tasks generalizing session summary past with
  | nil => exact ⟨summary, rfl⟩
  | cons t rest ih =>
    rw [perform]
    split
    · exact ih
    · obtain ⟨report, past', hp⟩ := h.perform tree t past
      rw [hp]
      exact ih

/-- A run whose commands all end well performs the tasks of its plan that are left to do. -/
theorem run_of_succeeds (session : Session) (h : host.Succeeds) (tree : FileTree) {name : String}
    (hp : r.plan name = .ok tasks) (past : Trace) :
    let ran := session.run r host tree name past
    let work := session.todo tasks
    (∃ summary, ran.result = .ok summary ∧ summary.executed = work.map (·.name)) ∧
      ran.session.completed = (work.map (·.name)).reverse ++ session.completed ∧
      ran.trace = work.foldl (fun past t => (t.perform host tree past).2) past := by
  intro ran work
  obtain ⟨-, -, ho, -, -⟩ := Registry.plan_spec hp
  obtain ⟨htasks, hnames⟩ := logOfEach_of_succeeds h tree work past
  have hran : ran = perform host tree tasks session {} past := run_of_plan hp
  have hdone : ran.session.completed = _ := hran ▸ (perform_eq ho.nodup).1
  have htrace : ran.trace = _ := hran ▸ (perform_eq ho.nodup).2.1
  obtain ⟨summary, hs⟩ : ∃ summary, ran.result = .ok summary := hran ▸ perform_of_succeeds h
  have hexec : summary.executed = _ := (perform_eq ho.nodup).2.2 summary (hran ▸ hs)
  refine ⟨⟨summary, hs, ?_⟩, ?_, ?_⟩
  · rw [hexec, hnames]
    rfl
  · rw [hdone, hnames]
  · rw [htrace]
    conv_rhs => rw [← htasks, List.foldl_map]

/-! ### Many runs -/

/-- Runs of names one after the other, each on the file tree that it finds. -/
def runAll (r : Registry) (host : Host) (session : Session) (requests : List (FileTree × String))
    (past : Trace) : Served :=
  serveAll r host session (requests.map fun (tree, name) => (tree, .task name)) past

/-- Performs tasks, each on the file tree that it finds. -/
def performEach (host : Host) (work : List (FileTree × Task)) (past : Trace) : Trace :=
  work.foldl (fun past (tree, t) => (t.perform host tree past).2) past

theorem performEach_append (work later : List (FileTree × Task)) :
    performEach host (work ++ later) past = performEach host later (performEach host work past) :=
  List.foldl_append

theorem runAll_cons {name : String} {requests : List (FileTree × String)}
    (h : (session.run r host tree name past).result = .ok summary) :
    runAll r host session ((tree, name) :: requests) past =
      let ran := session.run r host tree name past
      let later := runAll r host ran.session requests ran.trace
      ⟨summary :: later.summaries, later.session, later.trace⟩ := by
  simp only [runAll, List.map_cons, serveAll, serve, h]
  rfl

/-- The session and the search for the same names finish the same tasks in the same order. -/
theorem runAll_visitAll {r' : Registry} {extra : List String} (hs : host.Succeeds)
    (hx : r.Extends r' extra) (owner : String) (requests : List (FileTree × String))
    (hp : ∀ request ∈ requests, ∃ order, r.plan request.2 = .ok order) {q : Registry.Progress}
    (hq : q.Sound r) (hc : ∀ n, n ∈ session.completed ↔ n ∈ q.done) (past : Trace) :
    let served := runAll r host session requests past
    ∃ q' work, r'.visitAll extra owner (requests.map (·.2)) q = .ok q' ∧
      q'.order = q.order ++ work.map (·.2) ∧
      (∀ w ∈ work, w.1 ∈ requests.map (·.1)) ∧
      served.summaries.length = requests.length ∧
      served.summaries.flatMap (·.executed) = work.map (·.2.name) ∧
      served.trace = performEach host work past := by
  induction requests generalizing session past q with
  | nil => exact ⟨q, [], Registry.visitAll_nil, by simp, nofun, rfl, rfl, rfl⟩
  | cons request rest ih =>
    obtain ⟨tree, name⟩ := request
    obtain ⟨order, ho⟩ := hp _ List.mem_cons_self
    obtain ⟨t, ht, -⟩ := Registry.plan_spec ho
    obtain ⟨q₁, hv, hq₁, hord⟩ := Registry.visit_of_plan hx hq ho
    obtain ⟨⟨summary, hsum, hexec⟩, hdone, htrace⟩ :=
      session.run_of_succeeds hs tree ho past
    have htodo : session.todo order = order.filter (·.name ∉ q.done) := by
      simp only [todo, hc]
    have hc₁ : ∀ n, n ∈ (session.run r host tree name past).session.completed ↔ n ∈ q₁.done := by
      intro n
      rw [hdone, hq₁.mem_done, hord, htodo, List.map_append, List.mem_append, List.mem_append,
        List.mem_reverse, hc, hq.mem_done, or_comm]
    obtain ⟨q', work, hv', hord', htrees, hlen, hexec', htrace'⟩ :=
      ih (fun request h => hp request (List.mem_cons_of_mem _ h)) hq₁ hc₁
        (session.run r host tree name past).trace
    rw [runAll_cons hsum]
    refine ⟨q', (session.todo order).map (tree, ·) ++ work, ?_, ?_, ?_, ?_, ?_, ?_⟩
    · rw [List.map_cons, Registry.visitAll_cons (hx.resolves _ _ ht), hv]
      exact hv'
    · simp [hord', hord, htodo, Function.comp_def]
    · intro w hw
      rcases List.mem_append.1 hw with hw | hw
      · obtain ⟨u, -, rfl⟩ := List.mem_map.1 hw
        exact List.mem_cons_self
      · exact List.mem_cons_of_mem _ (htrees w hw)
    · simp [hlen]
    · simp [hexec, hexec', Function.comp_def]
    · have hfirst : performEach host ((session.todo order).map (tree, ·)) past =
          (session.run r host tree name past).trace := by
        rw [htrace, performEach, List.foldl_map]
      rw [performEach_append, hfirst]
      exact htrace'

/-- Names that are run one after the other by a new session, whatever commands they have as long as
all of these succeed, are performed in the order of one plan: that of a new task whose dependencies
are these names. Each run ends well and lists what it performed, so the lists together are that plan
without the new task. -/
theorem runAll_eq_plan {r : Registry} {v : Task} {host : Host} (hs : host.Succeeds)
    (requests : List (FileTree × String))
    (hp : ∀ request ∈ requests, ∃ order, r.plan request.2 = .ok order)
    (hv : r.find? v.name = none) (hn : normalName v.name = v.name)
    (hd : v.dependencies = requests.map (·.2)) (past : Trace) :
    let served := runAll r host {} requests past
    ∃ work : List (FileTree × Task),
      (r.register v).2.plan v.name = .ok (work.map (·.2) ++ [v]) ∧
      served.summaries.length = requests.length ∧
      served.summaries.flatMap (·.executed) = work.map (·.2.name) ∧
      served.trace = performEach host work past ∧
      ∀ w ∈ work, w.1 ∈ requests.map (·.1) := by
  intro served
  obtain ⟨q, work, hvisit, hord, htrees, hlen, hexec, htrace⟩ :=
    runAll_visitAll hs (Registry.extends_register hv) v.name requests hp
      Registry.Progress.sound_empty (fun _ => Iff.rfl) past
  refine ⟨work, ?_, hlen, hexec, htrace, htrees⟩
  have hres : (r.register v).2.resolve? v.name = some v := by
    rw [Registry.resolve?, Registry.find?_register, hn, if_pos rfl]
  rw [Registry.plan, Registry.visit_of_resolve? hres, if_neg List.not_mem_nil,
    if_neg List.not_mem_nil, hd, hvisit]
  simp [Except.map, hord]

/-- Two names that need the same task, which the second run leaves out. -/
theorem runAll_eq_plan_two :
    let base : Task := ⟨"base", "", [], .commands [⟨"cargo", ["build"], none, []⟩]⟩
    let left : Task := ⟨"left", "", ["base"], .commands []⟩
    let right : Task := ⟨"right", "", ["Base"], .commands [⟨"cargo", ["test"], none, []⟩]⟩
    let both : Task := ⟨"both", "", ["left", "right"], .commands []⟩
    let r : Registry := ⟨[base, left, right]⟩
    ∃ order, (r.register both).2.plan "both" = .ok (order ++ [both]) ∧
      order.map (·.name) = ["base", "left", "right"] := by
  intro base left right both r
  let host : Host := ⟨fun _ _ => .ok (.code 0), fun _ _ => false⟩
  have hsucceeds : host.Succeeds := fun _ _ => rfl
  have hleft : r.plan "left" = .ok [base, left] :=
    Registry.plan_of_one_dependency (t := left) (d := "base") (by decide) rfl (by decide) rfl
      (by decide)
  have hright : r.plan "right" = .ok [base, right] :=
    Registry.plan_of_one_dependency (t := right) (d := "Base") (by decide) rfl (by decide) rfl
      (by decide)
  have hexec : (runAll r host {} [({}, "left"), ({}, "right")] []).summaries.flatMap (·.executed) =
      ["base", "left", "right"] := by
    simp only [runAll, List.map_cons, List.map_nil, serveAll, serve, run, hleft, hright]
    rfl
  obtain ⟨work, hplan, -, hnames, -⟩ :=
    runAll_eq_plan (r := r) (v := both) hsucceeds [({}, "left"), ({}, "right")]
      (by simp [hleft, hright]) (by decide) (by decide) rfl []
  refine ⟨work.map (·.2), hplan, ?_⟩
  rw [List.map_map]
  exact hnames.symm.trans hexec

end Session

end

end Slipway
