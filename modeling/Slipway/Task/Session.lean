import Slipway.Task.Order
import Slipway.Publish.Driver

/-!
# Sessions

A session runs tasks of a registry and remembers which of them are completed. Running a task runs
its plan, less what was completed before, and stops at the first command that does not succeed; what
was completed until then stays completed. A package that cannot be published does not stop the run.
-/

namespace Slipway

/-- What a run did. -/
structure Summary where
  /-- The tasks that were completed, in order. -/
  executed : List String := []
  /-- The report of the last publication among them. -/
  publish : Option Publish.Report := none
  deriving Repr

/-- The tasks that were completed so far. -/
structure Session where
  completed : List String := []
  deriving Repr

/-- A result, the session and the trace after it. -/
structure Ran (α : Type) where
  result : Except Failure α
  session : Session
  trace : Trace

/-- Performs the action of a task. -/
def Task.perform (t : Task) (host : Host) (tree : FileTree) (past : Trace) :
    Except Failure (Option Publish.Report) × Trace :=
  match t.action with
  | .commands commands =>
    let (result, past) := host.requireAll (some ("task '" ++ t.name ++ "'")) commands past
    (result.map fun _ => none, past)
  | .publish plan =>
    let (report, past) := Publish.publishAll host tree plan past
    (.ok (some report), past)

namespace Session

/-- Performs tasks in order, leaving out those that are completed. -/
def perform (host : Host) (tree : FileTree) :
    List Task → Session → Summary → Trace → Ran Summary
  | [], session, summary, past => ⟨.ok summary, session, past⟩
  | t :: rest, session, summary, past =>
    if t.name ∈ session.completed then perform host tree rest session summary past
    else
      match t.perform host tree past with
      | (.error f, past) => ⟨.error f, session, past⟩
      | (.ok report, past) =>
        perform host tree rest ⟨t.name :: session.completed⟩
          { executed := summary.executed ++ [t.name]
            publish := report <|> summary.publish } past

/-- Runs a task after those that it depends on. -/
def run (session : Session) (r : Registry) (host : Host) (tree : FileTree) (name : String)
    (past : Trace) : Ran Summary :=
  match r.plan name with
  | .error f => ⟨.error f, session, past⟩
  | .ok tasks => perform host tree tasks session {} past

end Session

end Slipway
