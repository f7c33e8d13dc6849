import Slipway.Proofs.Publish.Attempts
import Slipway.Proofs.Task.Sessions

/-!
# Interrupted runs

A run performs what is left to do of its plan. It either performs all of it (`PerformedAll`), or it
is stopped at a command of one of the tasks (`Task.Stopped`); then the tasks before this one are
completed and nothing is started after this command. Which of the two happens depends on the host
alone, since a task that is performed and a task that is stopped begin with the same effects
(`Task.Stopped.not_performed`). What is left to do after an interruption begins with the task that
was stopped (`todo_of_split`), so the next run of the same name starts with its first command.
-/

namespace Slipway

/-- Whether all that a task does after `past` is `more`, with success of every command that has to
succeed. A publication is performed whatever its report says. -/
def Task.Performed (host : Host) (tree : FileTree) (t : Task) (past more : Trace) : Prop :=
  match t.action with
  | .commands commands => more = allRan commands ∧ Answered host past more
  | .publish plan => (Publish.publishAll host tree plan past).2 = past ++ more

/-- Whether a task is stopped by a command that does not succeed: what it does after `past`, up to
and including this command, and its failure. -/
inductive Task.Stopped (host : Host) (t : Task) (past : Trace) : Trace → Failure → Prop
  | intro {before later : List Command} {command : Command} {ending : Except OsError Exit}
      (action : t.action = .commands (before ++ command :: later)) (ne : ending ≠ succeeded)
      (answered : Answered host past (allRan before ++ [.ran command ending])) :
      Stopped host t past (allRan before ++ [.ran command ending])
        (command.failure (some ("task '" ++ t.name ++ "'")) ending)

/-- Whether all that tasks do one after the other is `more`. -/
inductive PerformedAll (host : Host) (tree : FileTree) : List Task → Trace → Trace → Prop
  | nil {past : Trace} : PerformedAll host tree [] past []
  | cons {t : Task} {rest : List Task} {past more later : Trace}
      (first : t.Performed host tree past more)
      (others : PerformedAll host tree rest (past ++ more) later) :
      PerformedAll host tree (t :: rest) past (more ++ later)

variable {host : Host} {tree : FileTree} {t : Task} {before later rest tasks : List Task}
  {past more more' last : Trace} {f : Failure}

/-! ### One task -/

namespace Task

theorem performed_commands {commands : List Command} (h : t.action = .commands commands) :
    t.Performed host tree past more ↔ more = allRan commands ∧ Answered host past more := by
  rw [Performed, h]

theorem performed_publish {plan : Publish.Plan} (h : t.action = .publish plan) :
    t.Performed host tree past more ↔
      (Publish.publishAll host tree plan past).2 = past ++ more := by
  rw [Performed, h]

theorem Performed.unique (h : t.Performed host tree past more)
    (h' : t.Performed host tree past more') : more = more' := by
  cases ha : t.action with
  | commands commands =>
    rw [performed_commands ha] at h h'
    rw [h.1, h'.1]
  | publish plan =>
    rw [performed_publish ha] at h h'
    exact List.append_cancel_left (h.symm.trans h')

theorem Stopped.not_performed (h : t.Stopped host past last f) :
    ¬ t.Performed host tree past more := by
  obtain @⟨before, later, command, ending, ha, hne, hans⟩ := h
  rw [performed_commands ha]
  rintro ⟨rfl, hall⟩
  -- The host answers once, so the command that stops the task would have succeeded.
  have hsucc : allRan (before ++ command :: later) =
      allRan before ++ .ran command succeeded :: allRan later := by simp [allRan]
  rw [hsucc] at hall
  exact hne (hans.ending_eq.trans hall.ending_eq.symm)

/-- A task is performed or stopped. -/
theorem perform_cases (host : Host) (tree : FileTree) (t : Task) (past : Trace) :
    (∃ report more, t.perform host tree past = (.ok report, past ++ more) ∧
      t.Performed host tree past more) ∨
    ∃ f last, t.perform host tree past = (.error f, past ++ last) ∧ t.Stopped host past last f := by
  cases ha : t.action with
  | commands commands =>
    rw [Session.perform_of_commands ha]
    obtain ⟨hans, hreq⟩ | ⟨before, command, later, ending, rfl, hne, hans, hreq⟩ :=
      requireAll_cases host (some ("task '" ++ t.name ++ "'")) commands past
    · rw [hreq]
      exact .inl ⟨none, _, rfl, (performed_commands ha).2 ⟨rfl, hans⟩⟩
    · rw [hreq]
      exact .inr ⟨_, _, rfl, .intro ha hne hans⟩
  | publish plan =>
    obtain ⟨attempts, -, -, more, heach, -⟩ :=
      Publish.publishEach_attempts host tree plan plan.targets past
    have hall : (Publish.publishAll host tree plan past).2 = past ++ more := by
      simp only [Publish.publishAll, heach]
    rw [Session.perform_of_publish ha]
    exact .inl ⟨_, more, by rw [hall], (performed_publish ha).2 hall⟩

variable {first : Command} {others : List Command}

theorem Performed.head (h : t.Performed host tree past more)
    (ha : t.action = .commands (first :: others)) :
    ∃ ending effects, more = .ran first ending :: effects := by
  rw [performed_commands ha] at h
  exact ⟨succeeded, allRan others, h.1⟩

theorem Stopped.head (h : t.Stopped host past last f)
    (ha : t.action = .commands (first :: others)) :
    ∃ ending effects, last = .ran first ending :: effects := by
  obtain @⟨before, later, command, ending, ha', -, -⟩ := h
  have hcs : before ++ command :: later = first :: others :=
    Action.commands.inj (ha'.symm.trans ha)
  cases before with
  | nil =>
    obtain ⟨rfl, -⟩ := List.cons.inj hcs
    exact ⟨ending, [], rfl⟩
  | cons c before =>
    obtain ⟨rfl, -⟩ := List.cons.inj hcs
    exact ⟨succeeded, allRan before ++ [.ran command ending], rfl⟩

theorem Stopped.exists_commands (h : t.Stopped host past last f) :
    ∃ first others, t.action = .commands (first :: others) := by
  obtain @⟨before, later, command, ending, ha, -, -⟩ := h
  obtain ⟨first, others, hcs⟩ := List.exists_cons_of_ne_nil
    (show before ++ command :: later ≠ [] by simp)
  exact ⟨first, others, hcs ▸ ha⟩

end Task

/-! ### Tasks in order -/

/-- Tasks are not all performed if one of them is stopped when those before it are performed. -/
theorem PerformedAll.not_of_stopped (h : PerformedAll host tree before past more)
    (hs : t.Stopped host (past ++ more) last f) :
    ¬ ∃ all, PerformedAll host tree (before ++ t :: later) past all := by
  rintro ⟨all, hall⟩
  induction h generalizing all with
  | nil =>
    rw [List.append_nil] at hs
    cases hall with
    | cons first others => exact hs.not_performed first
  | cons hfirst hothers ih =>
    cases hall with
    | cons first others =>
      obtain rfl := hfirst.unique first
      rw [← List.append_assoc] at hs
      exact ih hs _ others

theorem PerformedAll.head {first : Command} {others : List Command}
    (h : PerformedAll host tree (t :: rest) past more)
    (ha : t.action = .commands (first :: others)) :
    ∃ ending effects, more = .ran first ending :: effects := by
  cases h with
  | cons hfirst hothers =>
    obtain ⟨ending, effects, rfl⟩ := hfirst.head ha
    exact ⟨ending, _, rfl⟩

namespace Session

variable {session : Session} {r : Registry} {summary : Summary} {name : String}

/-- What is left to do once the first tasks that were left to do are completed. -/
theorem todo_of_split (hn : (tasks.map (·.name)).Nodup)
    (h : session.todo tasks = before ++ t :: later) :
    todo ⟨(before.map (·.name)).reverse ++ session.completed⟩ tasks = t :: later := by
  have hnd : ((before ++ t :: later).map (·.name)).Nodup := by
    rw [← h]
    exact hn.sublist (List.Sublist.map _ List.filter_sublist)
  rw [List.map_append, List.nodup_append] at hnd
  obtain ⟨-, -, hdisj⟩ := hnd
  have hsplit : todo ⟨(before.map (·.name)).reverse ++ session.completed⟩ tasks =
      (session.todo tasks).filter (·.name ∉ before.map (·.name)) := by
    rw [todo, todo, List.filter_filter]
    refine List.filter_congr fun u _ => ?_
    simp only [List.mem_append, List.mem_reverse, not_or, Bool.decide_and]
  rw [hsplit, h, List.filter_append, List.filter_eq_nil_iff.2, List.nil_append,
    List.filter_eq_self.2]
  · intro u hu
    have hnot : u.name ∉ before.map (·.name) := fun hm =>
      hdisj u.name hm u.name (List.mem_map_of_mem hu) rfl
    exact decide_eq_true hnot
  · intro u hu
    simpa using ⟨u, hu, rfl⟩

/-- The tasks of a list that are left to do are all performed, or one of them is stopped. -/
theorem perform_upTo (hn : (tasks.map (·.name)).Nodup) :
    (∃ more report, PerformedAll host tree (session.todo tasks) past more ∧
      perform host tree tasks session summary past =
        ⟨.ok ⟨summary.executed ++ (session.todo tasks).map (·.name), report⟩,
          ⟨((session.todo tasks).map (·.name)).reverse ++ session.completed⟩, past ++ more⟩) ∨
    ∃ before t later more last f, session.todo tasks = before ++ t :: later ∧
      PerformedAll host tree before past more ∧ t.Stopped host (past ++ more) last f ∧
      perform host tree tasks session summary past =
        ⟨.error f, ⟨(before.map (·.name)).reverse ++ session.completed⟩,
          past ++ (more ++ last)⟩ := by
  induction tasks generalizing session summary past with
  | nil => exact .inl ⟨[], summary.publish, .nil, by simp [perform, todo]⟩
  | cons t rest ih =>
    obtain ⟨ht, hn⟩ := List.nodup_cons.1 hn
    rw [perform]
    by_cases hc : t.name ∈ session.completed
    · rw [if_pos hc, todo_cons_of_mem hc]
      exact ih hn
    · rw [if_neg hc, todo_cons hc ht]
      obtain ⟨report, more, hp, hdone⟩ | ⟨f, last, hp, hstop⟩ := t.perform_cases host tree past
      · rw [hp]
        obtain ⟨later, report', hall, hrest⟩ | ⟨before, u, later, more', last, f, htodo, hall,
          hstop, hrest⟩ := @ih (past ++ more) ⟨t.name :: session.completed⟩
            ⟨summary.executed ++ [t.name], report <|> summary.publish⟩ hn
        · refine .inl ⟨more ++ later, report', .cons hdone hall, ?_⟩
          dsimp only
          rw [hrest]
          simp
        · refine .inr ⟨t :: before, u, later, more ++ more', last, f, by rw [htodo]; rfl,
            .cons hdone hall, by rwa [← List.append_assoc], ?_⟩
          dsimp only
          rw [hrest]
          simp
      · rw [hp]
        refine .inr ⟨[], t, _, [], last, f, rfl, .nil, by rwa [List.append_nil], rfl⟩

/-- A run begins with the first command of the first task that is left to do. -/
theorem head_run {first : Command} {others : List Command} (hplan : r.plan name = .ok tasks)
    (htodo : session.todo tasks = t :: later) (ha : t.action = .commands (first :: others)) :
    ∃ ending effects, (session.run r host tree name past).trace =
      past ++ .ran first ending :: effects := by
  obtain ⟨-, -, ho, -, -⟩ := Registry.plan_spec hplan
  rw [run_of_plan hplan]
  obtain ⟨more, report, hall, hperf⟩ |
      ⟨before, u, rest, more, last, f, hwork, hall, hstop, hperf⟩ :=
    @perform_upTo host tree tasks past session {} ho.nodup
  · rw [htodo] at hall
    obtain ⟨ending, effects, he⟩ := hall.head ha
    exact ⟨ending, effects, by rw [hperf, he]⟩
  · rw [htodo] at hwork
    rw [hperf]
    cases before with
    | nil => -- the task is stopped itself
      obtain ⟨rfl, -⟩ := List.cons.inj hwork
      cases hall
      rw [List.append_nil] at hstop
      obtain ⟨ending, effects, rfl⟩ := hstop.head ha
      exact ⟨ending, effects, rfl⟩
    | cons v before =>
      obtain ⟨rfl, -⟩ := List.cons.inj hwork
      obtain ⟨ending, effects, rfl⟩ := hall.head ha
      exact ⟨ending, effects ++ last, rfl⟩

/-- A run that is not planned does nothing. Any other performs what is left to do of its plan: all
of it, and then it ends well and lists what it performed, or as much as comes before the first
command that does not succeed, and then nothing else is started and the tasks before the one that is
stopped are completed. The next run of the same name begins with the first command of the task that
was stopped and leaves out what is completed. -/
theorem run_upTo_failure (session : Session) (r : Registry) (host : Host) (tree : FileTree)
    (name : String) (past : Trace) :
    let ran := session.run r host tree name past
    (∀ f, r.plan name = .error f → ran = ⟨.error f, session, past⟩) ∧
      ∀ tasks, r.plan name = .ok tasks →
        let work := session.todo tasks
        ((∃ summary, ran.result = .ok summary) ↔ ∃ more, PerformedAll host tree work past more) ∧
          (∀ summary, ran.result = .ok summary →
            summary.executed = work.map (·.name) ∧
            ran.session.completed = (work.map (·.name)).reverse ++ session.completed ∧
            ∃ more, ran.trace = past ++ more ∧ PerformedAll host tree work past more) ∧
          ∀ f, ran.result = .error f →
            ∃ before t later more last, work = before ++ t :: later ∧
              PerformedAll host tree before past more ∧ t.Stopped host (past ++ more) last f ∧
              ran.trace = past ++ (more ++ last) ∧
              ran.session.completed = (before.map (·.name)).reverse ++ session.completed ∧
              ran.session.todo tasks = t :: later ∧
              ∃ first others, t.action = .commands (first :: others) ∧
                ∀ (host' : Host) (tree' : FileTree) (past' : Trace), ∃ ending effects,
                  (ran.session.run r host' tree' name past').trace =
                    past' ++ .ran first ending :: effects := by
  intro ran
  refine ⟨fun f hf => run_of_plan_error hf, fun tasks hplan => ?_⟩
  obtain ⟨-, -, ho, -, -⟩ := Registry.plan_spec hplan
  intro work
  have hran : ran = perform host tree tasks session {} past := run_of_plan hplan
  obtain ⟨more, report, hall, hperf⟩ |
      ⟨before, t, later, more, last, f, hwork, hall, hstop, hperf⟩ :=
    @perform_upTo host tree tasks past session {} ho.nodup
  · rw [hran, hperf]
    refine ⟨⟨fun _ => ⟨more, hall⟩, fun _ => ⟨_, rfl⟩⟩, fun summary h => ?_, nofun⟩
    obtain rfl := Except.ok.inj h
    exact ⟨rfl, rfl, more, rfl, hall⟩
  · have hnot : ¬ ∃ more, PerformedAll host tree work past more := by
      rw [show work = before ++ t :: later from hwork]
      exact hall.not_of_stopped hstop
    have hleft := todo_of_split ho.nodup hwork
    obtain ⟨first, others, ha⟩ := hstop.exists_commands
    rw [hran, hperf]
    refine ⟨⟨fun ⟨_, h⟩ => (nomatch h), fun h => absurd h hnot⟩, nofun, fun f' h => ?_⟩
    obtain rfl := Except.error.inj h
    exact ⟨before, t, later, more, last, hwork, hall, hstop, rfl, rfl, hleft, first, others, ha,
      fun _ _ _ => head_run hplan hleft ha⟩

/-- The second command of the second task fails. Only this task is left to do, from its start. -/
theorem run_upTo_failure_second :
    let command (program : String) : Command := ⟨program, [], none, []⟩
    let first : Task := ⟨"first", "", [], .commands [command "a"]⟩
    let second : Task := ⟨"second", "", ["first"], .commands [command "b", command "c"]⟩
    let r : Registry := ⟨[first, second]⟩
    let host : Host := ⟨fun _ c => .ok (.code (if c.program = "c" then 1 else 0)), fun _ _ => false⟩
    let ran := run {} r host {} "second" []
    ran.trace.length = 3 ∧ ran.session.completed = ["first"] ∧ ∃ ending effects,
      (ran.session.run r host {} "second" ran.trace).trace =
        ran.trace ++ .ran (command "b") ending :: effects := by
  intro command first second r host ran
  have hplan : r.plan "second" = .ok [first, second] :=
    Registry.plan_of_one_dependency (t := second) (d := "first") (by decide) rfl (by decide) rfl
      (by decide)
  have hran : ran = ⟨.error ⟨.commandFailed "c" "exit code 1", some "task 'second'"⟩, ⟨["first"]⟩,
      [.ran (command "a") succeeded, .ran (command "b") succeeded,
        .ran (command "c") (.ok (.code 1))]⟩ := by
    rw [show ran = _ from run_of_plan hplan]
    rfl
  obtain ⟨-, -, hstop⟩ := (run_upTo_failure {} r host {} "second" []).2 _ hplan
  obtain ⟨before, t, later, -, -, -, -, -, -, -, hleft, head, others, ha, hagain⟩ :=
    hstop _ (show ran.result = _ by rw [hran])
  have htodo : ran.session.todo [first, second] = [second] := by rw [hran]; rfl
  obtain ⟨rfl, -⟩ := List.cons.inj (htodo.symm.trans hleft)
  obtain ⟨rfl, -⟩ := List.cons.inj (Action.commands.inj ha)
  exact ⟨by rw [hran]; rfl, by rw [hran], hagain host {} ran.trace⟩

end Session

end Slipway
