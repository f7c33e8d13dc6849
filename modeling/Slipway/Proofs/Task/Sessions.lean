import Slipway.Proofs.Task.Plan
import Slipway.Task.Session

/-!
# What a session remembers

The log of a run lists the actions that it starts, with what they return. `InOrder` says of a log
that every action starts when all that its task needs is completed and the task itself is not. A run
keeps this since plans are in order (`inOrder_logOfEach`), whether it ends well or in the middle.
It does nothing but the actions of its log (`perform_eq`).

The completed tasks of a session are those of its log (`Advances`), so the tasks that are completed
at any time are closed under dependencies (`InOrder.closed`).
-/

namespace Slipway

/-- An action that was started, and what it returned. -/
structure Execution where
  task : Task
  result : Except Failure (Option Publish.Report)

/-- The name of the task, if its action ended well. -/
def Execution.completes (s : Execution) : List String :=
  if s.result.isOk then [s.task.name] else []

/-- The names of the tasks whose actions ended well, in order. -/
def completedBy (log : List Execution) : List String :=
  log.flatMap Execution.completes

namespace Session

/-- The tasks of a list that are not completed. -/
def todo (session : Session) (tasks : List Task) : List Task :=
  tasks.filter (·.name ∉ session.completed)

/-- The actions that are started when tasks are performed in order up to the first that fails. -/
def logOfEach (host : Host) (tree : FileTree) : List Task → Trace → List Execution
  | [], _ => []
  | t :: rest, past =>
    match t.perform host tree past with
    | (.error f, _) => [⟨t, .error f⟩]
    | (.ok report, past) => ⟨t, .ok report⟩ :: logOfEach host tree rest past

section
variable (session : Session) (r : Registry) (host : Host) (tree : FileTree)

/-- The actions that a run starts. -/
def logOfRun (name : String) (past : Trace) : List Execution :=
  match r.plan name with
  | .error _ => []
  | .ok tasks => logOfEach host tree (session.todo tasks) past

end

end Session

/-! ### Logs in order -/

section
variable {r : Registry} {done : List String} {log log' : List Execution} {s : Execution}
  {t u : Task} {n : String}

theorem completedBy_cons : completedBy (s :: log) = s.completes ++ completedBy log := rfl

theorem completedBy_append : completedBy (log ++ log') = completedBy log ++ completedBy log' :=
  List.flatMap_append

theorem Execution.reverse_completes : s.completes.reverse = s.completes := by
  rw [completes]; split <;> rfl

theorem reverse_completedBy_cons :
    (completedBy (s :: log)).reverse = (completedBy log).reverse ++ s.completes := by
  rw [completedBy_cons, List.reverse_append, Execution.reverse_completes]

theorem Execution.completes_sublist : s.completes.Sublist [s.task.name] := by
  rw [completes]; split
  · exact List.Sublist.refl _
  · exact List.nil_sublist _

theorem Execution.eq_of_mem_completes (h : n ∈ s.completes) : n = s.task.name :=
  List.mem_singleton.1 (completes_sublist.subset h)

/-- Whether every task of a log is new when its action starts, and all its dependencies stand for
completed tasks. The names in `done` are completed before. -/
def InOrder (r : Registry) : List String → List Execution → Prop
  | _, [] => True
  | done, s :: log =>
    (r.find? s.task.name = some s.task ∧ s.task.name ∉ done ∧
      ∀ d ∈ s.task.dependencies, ∃ u, r.resolve? d = some u ∧ u.name ∈ done) ∧
    InOrder r (s.completes ++ done) log

/-- Whether the dependencies of completed tasks stand for completed tasks. -/
def Closed (r : Registry) (done : List String) : Prop :=
  ∀ n ∈ done, ∃ t, r.find? n = some t ∧
    ∀ d ∈ t.dependencies, ∃ u, r.resolve? d = some u ∧ u.name ∈ done

theorem Closed.of_reverse (h : Closed r done.reverse) : Closed r done := by
  simpa only [Closed, List.mem_reverse] using h

theorem Closed.mem_of_needs (h : Closed r done) (hf : r.find? t.name = some t)
    (ht : t.name ∈ done) (hn : r.Needs t u) : u.name ∈ done := by
  obtain ⟨t', hf', hd⟩ := h t.name ht
  obtain rfl : t = t' := Option.some.inj (hf.symm.trans hf')
  obtain ⟨d, hdm, hu⟩ := hn
  obtain ⟨u', hu', hm⟩ := hd d hdm
  rw [Option.some.inj (hu.symm.trans hu')]; exact hm

theorem Closed.mem_of_reaches (h : Closed r done) (hf : r.find? t.name = some t)
    (ht : t.name ∈ done) (hr : r.Reaches t u) : r.find? u.name = some u ∧ u.name ∈ done := by
  induction hr with
  | refl => exact ⟨hf, ht⟩
  | tail _ hn ih =>
    obtain ⟨d, -, hv⟩ := id hn
    exact ⟨Registry.find?_name_of_resolve? hv, h.mem_of_needs ih.1 ih.2 hn⟩

namespace InOrder

theorem append_iff :
    InOrder r done (log ++ log') ↔
      InOrder r done log ∧ InOrder r ((completedBy log).reverse ++ done) log' := by
  induction log generalizing done with
  | nil => exact ⟨fun h => ⟨trivial, h⟩, And.right⟩
  | cons s log ih =>
    rw [List.cons_append, InOrder, InOrder, ih, reverse_completedBy_cons, List.append_assoc]
    exact and_assoc.symm

/-- The completed tasks stay closed under dependencies. -/
theorem closed (h : InOrder r done log) (hc : Closed r done) :
    Closed r ((completedBy log).reverse ++ done) := by
  induction log generalizing done with
  | nil => exact hc
  | cons s log ih =>
    obtain ⟨⟨hf, -, hd⟩, h⟩ := h
    rw [reverse_completedBy_cons, List.append_assoc]
    refine ih h fun n hn => ?_
    have hmono : ∀ t : Task, (∀ d ∈ t.dependencies, ∃ u, r.resolve? d = some u ∧ u.name ∈ done) →
        ∀ d ∈ t.dependencies, ∃ u, r.resolve? d = some u ∧ u.name ∈ s.completes ++ done :=
      fun t ht d hdm => (ht d hdm).imp fun u hu => ⟨hu.1, List.mem_append_right _ hu.2⟩
    rcases List.mem_append.1 hn with hn | hn
    · rw [Execution.eq_of_mem_completes hn]
      exact ⟨s.task, hf, hmono _ hd⟩
    · obtain ⟨t, hft, ht⟩ := hc n hn
      exact ⟨t, hft, hmono t ht⟩

/-- No task is completed twice. -/
theorem nodup (h : InOrder r done log) :
    (completedBy log).Nodup ∧ ∀ n ∈ completedBy log, n ∉ done := by
  induction log generalizing done with
  | nil => exact ⟨List.nodup_nil, nofun⟩
  | cons s log ih =>
    obtain ⟨⟨-, hs, -⟩, h⟩ := h
    obtain ⟨hnd, hnew⟩ := ih h
    rw [completedBy_cons]
    refine ⟨List.nodup_append.2 ⟨Execution.completes_sublist.nodup (List.nodup_singleton _), hnd,
      fun a ha b hb hab => ?_⟩, fun n hn => ?_⟩
    · subst hab
      exact hnew a hb (List.mem_append_left _ ha)
    · rcases List.mem_append.1 hn with hn | hn
      · rw [Execution.eq_of_mem_completes hn]; exact hs
      · exact fun hd => hnew n hn (List.mem_append_right _ hd)

end InOrder

end

namespace Session

variable {session session' session'' : Session} {r : Registry} {host : Host} {tree : FileTree}
  {tasks rest : List Task} {t : Task} {past : Trace} {log log' : List Execution}
  {summary : Summary} {name : String}

/-! ### One run -/

theorem perform_of_commands {commands : List Command} (h : t.action = .commands commands) :
    t.perform host tree past =
      ((host.requireAll (some ("task '" ++ t.name ++ "'")) commands past).1.map fun _ => none,
        (host.requireAll (some ("task '" ++ t.name ++ "'")) commands past).2) := by
  rw [Task.perform, h]

theorem perform_of_publish {plan : Publish.Plan} (h : t.action = .publish plan) :
    t.perform host tree past =
      (.ok (some (Publish.publishAll host tree plan past).1),
        (Publish.publishAll host tree plan past).2) := by
  rw [Task.perform, h]

theorem todo_cons_of_mem (h : t.name ∈ session.completed) :
    session.todo (t :: rest) = session.todo rest :=
  List.filter_cons_of_neg (by simpa using h)

theorem todo_cons (h : t.name ∉ session.completed) (hn : t.name ∉ rest.map (·.name)) :
    session.todo (t :: rest) = t :: todo ⟨t.name :: session.completed⟩ rest := by
  rw [todo, List.filter_cons_of_pos (by simpa using h)]
  refine congrArg (t :: ·) (List.filter_congr fun u hu => ?_)
  have hne : u.name ≠ t.name := fun he => hn (he ▸ List.mem_map_of_mem hu)
  simp [hne]

theorem perform_todo (hn : (tasks.map (·.name)).Nodup) :
    perform host tree tasks session summary past =
      perform host tree (session.todo tasks) session summary past := by
  induction tasks generalizing session summary past with
  | nil => rfl
  | cons t rest ih =>
    obtain ⟨ht, hn⟩ := List.nodup_cons.1 hn
    by_cases hc : t.name ∈ session.completed
    · rw [perform, if_pos hc, todo_cons_of_mem hc, ih hn]
    · rw [todo_cons hc ht, perform, perform, if_neg hc, if_neg hc]
      rcases t.perform host tree past with ⟨f | report, past'⟩
      · rfl
      · exact ih hn

theorem logOfEach_cons_of_error {f : Failure} {past' : Trace}
    (h : t.perform host tree past = (.error f, past')) :
    logOfEach host tree (t :: rest) past = [⟨t, .error f⟩] := by
  rw [logOfEach, h]

theorem logOfEach_cons_of_ok {report : Option Publish.Report} {past' : Trace}
    (h : t.perform host tree past = (.ok report, past')) :
    logOfEach host tree (t :: rest) past = ⟨t, .ok report⟩ :: logOfEach host tree rest past' := by
  rw [logOfEach, h]

/-- The actions of a plan start in order: what comes before a task in its plan is completed. -/
theorem inOrder_logOfEach (before : List Task) (h : r.Ordered (before ++ tasks))
    (hb : ∀ u ∈ before, u.name ∈ session.completed) :
    InOrder r session.completed (logOfEach host tree (session.todo tasks) past) := by
  induction tasks generalizing before session past with
  | nil => trivial
  | cons t rest ih =>
    have h' : r.Ordered ((before ++ [t]) ++ rest) := by simpa using h
    -- A task that is left out or ends well joins those before; a task that fails ends the log.
    by_cases ht : t.name ∈ session.completed
    · rw [todo_cons_of_mem ht]
      refine ih _ h' fun u hu => ?_
      rcases List.mem_append.1 hu with hu | hu
      · exact hb u hu
      · rw [List.mem_singleton.1 hu]; exact ht
    · have hn : t.name ∉ rest.map (·.name) := by
        have hnd := h.nodup
        rw [List.map_append, List.nodup_append] at hnd
        exact (List.nodup_cons.1 hnd.2.1).1
      have hstart : r.find? t.name = some t ∧ t.name ∉ session.completed ∧
          ∀ d ∈ t.dependencies, ∃ u, r.resolve? d = some u ∧ u.name ∈ session.completed := by
        refine ⟨h.found t (by simp), ht, fun d hd => ?_⟩
        obtain ⟨u, hu, hdu⟩ := h.after before t rest rfl d hd
        exact ⟨u, hdu, hb u hu⟩
      rw [todo_cons ht hn]
      rcases hp : t.perform host tree past with ⟨f | report, past'⟩
      · rw [logOfEach_cons_of_error hp]
        exact ⟨hstart, trivial⟩
      · rw [logOfEach_cons_of_ok hp]
        refine ⟨hstart, @ih ⟨t.name :: session.completed⟩ past' _ h' fun u hu => ?_⟩
        rcases List.mem_append.1 hu with hu | hu
        · exact List.mem_cons_of_mem _ (hb u hu)
        · rw [List.mem_singleton.1 hu]; exact List.mem_cons_self

/-- Performing tasks adds the names that their log completes, and its actions to the trace. -/
theorem perform_eq (hn : (tasks.map (·.name)).Nodup) :
    let log := logOfEach host tree (session.todo tasks) past
    (perform host tree tasks session summary past).session.completed =
        (completedBy log).reverse ++ session.completed ∧
      (perform host tree tasks session summary past).trace =
        log.foldl (fun past s => (s.task.perform host tree past).2) past ∧
      ∀ summary', (perform host tree tasks session summary past).result = .ok summary' →
        summary'.executed = summary.executed ++ completedBy log := by
  induction tasks generalizing session summary past with
  | nil =>
    refine ⟨rfl, rfl, fun summary' h => ?_⟩
    obtain rfl := Except.ok.inj h
    exact (List.append_nil _).symm
  | cons t rest ih =>
    obtain ⟨ht, hn⟩ := List.nodup_cons.1 hn
    rw [perform]
    by_cases hc : t.name ∈ session.completed
    · rw [if_pos hc, todo_cons_of_mem hc]
      exact ih hn
    · rw [if_neg hc, todo_cons hc ht]
      rcases hp : t.perform host tree past with ⟨f | report, past'⟩
      · rw [logOfEach_cons_of_error hp]
        refine ⟨rfl, ?_, nofun⟩
        simp [hp]
      · rw [logOfEach_cons_of_ok hp]
        obtain ⟨hs, htr, hx⟩ := @ih ⟨t.name :: session.completed⟩ past'
          ⟨summary.executed ++ [t.name], report <|> summary.publish⟩ hn
        refine ⟨?_, ?_, fun summary' h => ?_⟩
        · rw [reverse_completedBy_cons, List.append_assoc]; exact hs
        · rw [List.foldl_cons, hp]; exact htr
        · rw [hx summary' h, List.append_assoc]; rfl

/-- From one session to another the actions of a log are started in order, and the tasks that they
complete are added. -/
structure Advances (r : Registry) (session : Session) (log : List Execution) (session' : Session) :
    Prop where
  inOrder : InOrder r session.completed log
  completed : session'.completed = (completedBy log).reverse ++ session.completed

namespace Advances

theorem refl : Advances r session [] session := ⟨trivial, rfl⟩

theorem trans (h : Advances r session log session') (h' : Advances r session' log' session'') :
    Advances r session (log ++ log') session'' := by
  refine ⟨InOrder.append_iff.2 ⟨h.inOrder, ?_⟩, ?_⟩
  · rw [← h.completed]; exact h'.inOrder
  · rw [h'.completed, h.completed, completedBy_append, List.reverse_append, List.append_assoc]

end Advances

theorem run_of_plan_error {f : Failure} (h : r.plan name = .error f) :
    session.run r host tree name past = ⟨.error f, session, past⟩ := by
  simp only [run, h]

theorem run_of_plan (h : r.plan name = .ok tasks) :
    session.run r host tree name past = perform host tree tasks session {} past := by
  simp only [run, h]

theorem advances_run (session : Session) (r : Registry) (host : Host) (tree : FileTree)
    (name : String) (past : Trace) :
    Advances r session (session.logOfRun r host tree name past)
      (session.run r host tree name past).session := by
  rw [run, logOfRun]
  cases h : r.plan name with
  | error f => exact .refl
  | ok tasks =>
    obtain ⟨t, -, ho, -, -⟩ := Registry.plan_spec h
    exact ⟨inOrder_logOfEach [] ho nofun, (perform_eq ho.nodup).1⟩

/-- A run does nothing but the actions of its log. -/
theorem trace_run (session : Session) (tree : FileTree) (name : String) (past : Trace) :
    (session.run r host tree name past).trace =
      (session.logOfRun r host tree name past).foldl
        (fun past s => (s.task.perform host tree past).2) past := by
  rw [run, logOfRun]
  cases h : r.plan name with
  | error f => rfl
  | ok tasks =>
    obtain ⟨t, -, ho, -, -⟩ := Registry.plan_spec h
    exact (perform_eq ho.nodup).2.1

theorem executed_run (h : (session.run r host tree name past).result = .ok summary) :
    summary.executed = completedBy (session.logOfRun r host tree name past) := by
  rw [run] at h
  rw [logOfRun]
  cases hp : r.plan name with
  | error f => rw [hp] at h; cases h
  | ok tasks =>
    rw [hp] at h
    obtain ⟨t, -, ho, -, -⟩ := Registry.plan_spec hp
    exact (perform_eq ho.nodup).2.2 summary h

end Session

end Slipway
