import Slipway.Command

/-!
# Machines

A machine has a file tree, installed programs and variables, and says how a program that was started
ends. Starting a command fails when its working directory or its program is missing, or when one of
its texts holds the character NUL. Programs are found on the search path of the machine only.
-/

namespace Slipway

/-- What a host looks like from outside. -/
structure Machine where
  tree : FileTree := {}
  programs : List String := []
  /-- The variables that every command finds. -/
  vars : List (String × String) := []
  /-- How a command ends, by its words and its working directory as seen from the current one. -/
  exitOf : List String → Path → Exit := fun _ _ => .code 0

/-- A program that was started. -/
structure Start where
  words : List String
  /-- The working directory as seen from the current one. -/
  dir : Path
  /-- All variables, sorted by name. -/
  env : List (String × String)
  deriving Repr, DecidableEq

namespace Machine

/-- Whether the character NUL occurs. -/
def hasNul (s : String) : Bool :=
  s.toList.any fun c => c.toNat == 0

/-- Whether the character NUL occurs in a text of a command. -/
def commandHasNul (c : Command) : Bool :=
  c.words.any hasNul || c.dir.any hasNul || c.env.any fun (key, value) => hasNul key || hasNul value

/-- Whether a command brings its own search path, on which no program is found. -/
def hasOwnPath (c : Command) : Bool :=
  c.env.any fun (key, _) => key == "PATH"

/-- Sets a variable among variables that are sorted by name. -/
def setVar (name value : String) : List (String × String) → List (String × String)
  | [] => [(name, value)]
  | (n, v) :: rest =>
    if name = n then (name, value) :: rest
    else if name < n then (name, value) :: (n, v) :: rest
    else (n, v) :: setVar name value rest

/-- The variables sorted by name, the last value of a name winning. -/
def sortVars (vars : List (String × String)) : List (String × String) :=
  vars.foldl (fun sorted (name, value) => setVar name value sorted) []

/-- The working directory of a command, by the names that lead to it. -/
def directory (m : Machine) (c : Command) : Except OsError (List String) :=
  match c.dir with
  | none => .ok m.tree.cwd
  | some dir =>
    match m.tree.resolve dir with
    | .error e => .error e
    | .ok names =>
      match m.tree.node? names with
      | some .dir => .ok names
      | some (.file _) => .error .notDirectory
      | none => .error .notFound

/-- Starts a command. -/
def start (m : Machine) (c : Command) : Except OsError Start :=
  if commandHasNul c then .error .nulInCommand
  else
    match m.directory c with
    | .error e => .error e
    | .ok names =>
      if c.program ∈ m.programs ∧ !hasOwnPath c then
        .ok ⟨c.words, m.tree.pathTo names, sortVars (m.vars ++ c.env)⟩
      else .error .notFound

/-- The command that shows whether a program is installed. -/
def probeCommand (program : String) : Command :=
  { program, args := ["--version"] }

/-- How a command that is started ends. -/
def run (m : Machine) (c : Command) : Except OsError Exit :=
  (m.start c).map fun s => m.exitOf s.words s.dir

/-- The machine as a host. A program is available if asking for its version succeeds. -/
def host (m : Machine) : Host where
  run _ c := m.run c
  available _ program :=
    match m.run (probeCommand program) with
    | .ok exit => exit.isSuccess
    | .error _ => false

/-- The program that an effect started, if any. -/
def started? (m : Machine) : Effect → Option Start
  | .ran c _ => (m.start c).toOption
  | .probed program _ => (m.start (probeCommand program)).toOption
  | .waited _ => none

/-- The programs that were started, in order. -/
def starts (m : Machine) (past : Trace) : List Start :=
  past.filterMap m.started?

end Machine

end Slipway
