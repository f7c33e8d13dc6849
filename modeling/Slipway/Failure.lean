import Slipway.FileTree
import Slipway.Manifest.Fault

/-!
# Failures

What can go wrong while settings are loaded, manifests are read and tasks, jobs and publications are
run. A failure is a cause and an optional context that says what was being done; `Failure.message`
holds all the wording, and `Failure.sources` names the errors beneath a failure.
-/

namespace Slipway

/-- Why something failed. -/
inductive Cause where
  /-- A file could not be read or a program could not be started. -/
  | io (error : OsError)
  /-- Layered settings could not be collected or converted. -/
  | settings (reason : String)
  /-- A package manifest could not be parsed or lacks something. -/
  | manifest (fault : Manifest.Fault)
  /-- Values that can be read but make no sense. -/
  | invalidConfiguration (reason : String)
  | unknownTask (name : String)
  /-- The tasks along the cycle, the first of them repeated at the end. -/
  | dependencyCycle (chain : List String)
  | commandFailed (command : String) (status : String)
  /-- Some of the packages could not be published after all had been tried. -/
  | publishFailed (failed : Nat) (total : Nat)
  | internal (reason : String)
  deriving Repr

/-- A cause and what was being done when it arose. -/
structure Failure where
  cause : Cause
  context : Option String := none
  deriving Repr

/-- How a context stands in a message: in parentheses after a blank. -/
def contextText (context : Option String) : String :=
  match context with
  | none => ""
  | some c => " (" ++ c ++ ")"

namespace Failure

/-- The failure with another context; an earlier one is forgotten. -/
def inContext (f : Failure) (context : String) : Failure :=
  { f with context := some context }

/-- The text of a failure. -/
def message (f : Failure) : String :=
  let ctx := contextText f.context
  match f.cause with
  | .io error => s!"I/O error{ctx}: {error.message}"
  | .settings reason => s!"Config error{ctx}: {reason}"
  | .manifest fault =>
    let reason := fault.message
    s!"Manifest error{ctx}: {reason}"
  | .invalidConfiguration reason => s!"Invalid configuration{ctx}: {reason}"
  | .unknownTask name => s!"Unknown task '{name}'{ctx}"
  | .dependencyCycle chain =>
    let path := " -> ".intercalate chain
    s!"Task dependency cycle{ctx}: {path}"
  | .commandFailed command status => s!"Command failed{ctx}: `{command}` ended with {status}"
  | .publishFailed failed total => s!"Publish failed{ctx}: {failed} of {total} targets failed"
  | .internal reason => s!"Internal error{ctx}: {reason}"

/-- The texts of the errors that a failure wraps. -/
def sources (f : Failure) : List String :=
  match f.cause with
  | .io error => [error.message]
  | .settings reason => [reason]
  | .manifest fault => [fault.message]
  | _ => []

end Failure

/-- The result with `context` on its failure. -/
def withContext {α : Type} (context : String) (r : Except Failure α) : Except Failure α :=
  r.mapError (·.inContext context)

/-- An operating system error met while `context` was being done. -/
def ioResult {α : Type} (context : String) (r : Except OsError α) : Except Failure α :=
  r.mapError fun e => ⟨.io e, some context⟩

end Slipway
