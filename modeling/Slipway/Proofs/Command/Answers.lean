import Slipway.Command

/-!
# What a host answers

A trace is `Answered` if every command in it ended as the host says, given what happened before it.
Commands that have to succeed either all do, or the first that does not is the last one to be run,
and the failure tells how it ended (`requireAll_cases`).
-/

namespace Slipway

/-- The command that an effect ran, and how it ended. -/
def Effect.ran? : Effect → Option (Command × Except OsError Exit)
  | .ran command ending => some (command, ending)
  | _ => none

/-- Whether commands end as the host says, given what happened before. -/
def Answered (host : Host) : Trace → Trace → Prop
  | _, [] => True
  | past, effect :: more =>
    (∀ command ending, effect.ran? = some (command, ending) → ending = host.run past command) ∧
      Answered host (past ++ [effect]) more

/-- How a command ends that succeeds. -/
def succeeded : Except OsError Exit := .ok (.code 0)

/-- What the end of a failing command is called. -/
def Command.blame (c : Command) : Except OsError Exit → Cause
  | .ok exit => .commandFailed c.text exit.text
  | .error e => .io e

/-- The failure that the end of a command stands for where it has to succeed. -/
def Command.failure (c : Command) (context : Option String) : Except OsError Exit → Failure
  | .ok exit => ⟨.commandFailed c.text exit.text, context⟩
  | .error e => ⟨.io e, some ("Failed to execute `" ++ c.text ++ "`")⟩

/-- The effects of commands that all succeed. -/
def allRan (commands : List Command) : Trace :=
  commands.map (.ran · succeeded)

variable {host : Host} {past more more' : Trace} {command : Command} {context : Option String}

theorem Answered.append (h : Answered host past more) (h' : Answered host (past ++ more) more') :
    Answered host past (more ++ more') := by
  induction more generalizing past with
  | nil => exact (List.append_nil past) ▸ h'
  | cons effect more ih =>
    refine ⟨h.1, ih h.2 ?_⟩
    rw [List.append_assoc]; exact h'

theorem Answered.ending_eq {ending : Except OsError Exit}
    (h : Answered host past (more ++ .ran command ending :: more')) :
    ending = host.run (past ++ more) command := by
  induction more generalizing past with
  | nil => rw [List.append_nil]; exact h.1 command ending rfl
  | cons effect more ih =>
    rw [ih h.2, List.append_assoc]; rfl

theorem answered_of_quiet (h : ∀ effect ∈ more, effect.ran? = none) : Answered host past more := by
  induction more generalizing past with
  | nil => trivial
  | cons effect more ih =>
    obtain ⟨hq, h⟩ := List.forall_mem_cons.1 h
    refine ⟨fun c e he => ?_, ih h⟩
    cases hq.symm.trans he

theorem answered_ran (command : Command) :
    Answered host past [.ran command (host.run past command)] := by
  refine ⟨fun c e h => ?_, trivial⟩
  obtain ⟨rfl, rfl⟩ := Prod.mk.inj (Option.some.inj h)
  rfl

theorem Command.cause_failure (c : Command) (context : Option String)
    (ending : Except OsError Exit) : (c.failure context ending).cause = c.blame ending := by
  cases ending <;> rfl

/-! ### Commands that have to succeed -/

theorem require_of_succeeded (h : host.run past command = succeeded) :
    host.require context command past = (.ok (), past ++ [.ran command succeeded]) := by
  simp only [Host.require, Host.invoke, h]
  rfl

theorem require_of_ne_succeeded (h : host.run past command ≠ succeeded) :
    host.require context command past =
      (.error (command.failure context (host.run past command)),
        past ++ [.ran command (host.run past command)]) := by
  rcases hrun : host.run past command with e | exit
  · simp only [Host.require, Host.invoke, hrun]
    rfl
  · have hexit : exit ≠ .code 0 := fun he => h (by rw [hrun, he]; rfl)
    have hs : exit.isSuccess = false := beq_eq_false_iff_ne.2 hexit
    have hio : ∀ text, ioResult text (.ok exit : Except OsError Exit) = .ok exit := fun _ => rfl
    simp only [Host.require, Host.invoke, hrun, hio, hs, Bool.false_eq_true, ↓reduceIte]
    rfl

theorem requireAll_cons_of_succeeded (h : host.run past command = succeeded)
    (rest : List Command) :
    host.requireAll context (command :: rest) past =
      host.requireAll context rest (past ++ [.ran command succeeded]) := by
  rw [Host.requireAll, require_of_succeeded h]

theorem requireAll_cases (host : Host) (context : Option String) (commands : List Command)
    (past : Trace) :
    (Answered host past (allRan commands) ∧
      host.requireAll context commands past = (.ok (), past ++ allRan commands)) ∨
    ∃ before command later ending, commands = before ++ command :: later ∧ ending ≠ succeeded ∧
      Answered host past (allRan before ++ [.ran command ending]) ∧
      host.requireAll context commands past =
        (.error (command.failure context ending),
          past ++ (allRan before ++ [.ran command ending])) := by
  induction commands generalizing past with
  | nil => exact .inl ⟨trivial, by rw [allRan, List.map_nil, List.append_nil]; rfl⟩
  | cons command rest ih =>
    have hans := @answered_ran host past command
    by_cases hrun : host.run past command = succeeded
    · rw [hrun] at hans
      obtain ⟨hall, hreq⟩ | ⟨before, last, later, ending, rfl, hne, hall, hreq⟩ :=
        ih (past ++ [.ran command succeeded])
      · refine .inl ⟨hans.append hall, ?_⟩
        rw [requireAll_cons_of_succeeded hrun, hreq, List.append_assoc]
        rfl
      · refine .inr ⟨command :: before, last, later, ending, rfl, hne, hans.append hall, ?_⟩
        rw [requireAll_cons_of_succeeded hrun, hreq, List.append_assoc]
        rfl
    · refine .inr ⟨[], command, rest, _, rfl, hrun, hans, ?_⟩
      rw [Host.requireAll, require_of_ne_succeeded hrun]
      rfl

theorem requireAll_singleton (host : Host) (context : Option String) (command : Command)
    (past : Trace) :
    host.requireAll context [command] past = host.require context command past := by
  rw [Host.requireAll]
  rcases host.require context command past with ⟨f | u, now⟩ <;> rfl

end Slipway
