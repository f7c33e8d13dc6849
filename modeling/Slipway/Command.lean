import Slipway.Failure

/-!
# Commands

A command is a program with its arguments, its working directory and the variables set for it.
Commands, probes for installed tools and waits are the only effects there are. A `Host` says how
each of them ends, and may let that depend on all that happened before; what happened is kept in a
`Trace`, oldest first.
-/

namespace Slipway

/-! ### Commands and how they end -/

/-- A program to be started. -/
structure Command where
  program : String
  args : List String := []
  /-- The working directory; without one the command starts where the driver runs. -/
  dir : Option Path := none
  /-- Variables set for the command, in this order. -/
  env : List (String × String) := []
  deriving Repr, DecidableEq

namespace Command

/-- The command with one more argument. -/
def addArg (c : Command) (arg : String) : Command :=
  { c with args := c.args ++ [arg] }

/-- The command with more arguments. -/
def addArgs (c : Command) (args : List String) : Command :=
  { c with args := c.args ++ args }

/-- The command started in another directory. -/
def inDir (c : Command) (dir : Path) : Command :=
  { c with dir := some dir }

/-- The command with more variables. -/
def addEnv (c : Command) (env : List (String × String)) : Command :=
  { c with env := c.env ++ env }

/-- The program and its arguments. -/
def words (c : Command) : List String :=
  c.program :: c.args

/-- The words of the command with blanks between them. -/
def text (c : Command) : String :=
  " ".intercalate c.words

end Command

/-- How a started command ended. -/
inductive Exit where
  | code (n : Int)
  | signal
  deriving Repr, DecidableEq

namespace Exit

/-- Only the code zero is a success. -/
def isSuccess (e : Exit) : Bool :=
  e == .code 0

/-- The text of an exit. -/
def text : Exit → String
  | code n => s!"exit code {n}"
  | signal => "termination by signal"

end Exit

/-- A span of time. -/
structure Duration where
  seconds : Nat := 0
  nanoseconds : Nat := 0
  deriving Repr, DecidableEq

namespace Duration

/-- The span with its nanoseconds below one second. -/
def normal (d : Duration) : Duration :=
  ⟨d.seconds + d.nanoseconds / 1_000_000_000, d.nanoseconds % 1_000_000_000⟩

/-- Whether the span is empty. -/
def isZero (d : Duration) : Bool :=
  d.seconds == 0 && d.nanoseconds == 0

end Duration

/-! ### Effects -/

/-- Something that was done, with its result. -/
inductive Effect where
  | ran (command : Command) (outcome : Except OsError Exit)
  | probed (program : String) (found : Bool)
  | waited (span : Duration)

/-- What was done so far, oldest first. -/
abbrev Trace := List Effect

/-- How commands and probes end, given what happened before. -/
structure Host where
  run : Trace → Command → Except OsError Exit
  available : Trace → String → Bool

namespace Host

variable (host : Host)

/-- Runs a command. It fails when the program cannot be started; any exit is a result. -/
def invoke (command : Command) (past : Trace) : Except Failure Exit × Trace :=
  let outcome := host.run past command
  (ioResult ("Failed to execute `" ++ command.text ++ "`") outcome,
    past ++ [.ran command outcome])

/-- Asks whether a program is installed. -/
def probe (program : String) (past : Trace) : Bool × Trace :=
  let found := host.available past program
  (found, past ++ [.probed program found])

/-- Runs a command that has to succeed; any other exit fails in the given context. -/
def require (context : Option String) (command : Command) (past : Trace) :
    Except Failure Unit × Trace :=
  match host.invoke command past with
  | (.error f, past) => (.error f, past)
  | (.ok exit, past) =>
    if exit.isSuccess then (.ok (), past)
    else (.error ⟨.commandFailed command.text exit.text, context⟩, past)

/-- Runs commands in order up to the first that does not succeed. -/
def requireAll (context : Option String) : List Command → Trace → Except Failure Unit × Trace
  | [], past => (.ok (), past)
  | command :: rest, past =>
    match host.require context command past with
    | (.error f, past) => (.error f, past)
    | (.ok (), past) => requireAll context rest past

end Host

/-- Lets time pass. -/
def Trace.wait (span : Duration) (past : Trace) : Trace :=
  past ++ [.waited span]

end Slipway
