import Slipway.CommandLine.Program

/-!
# The command

The outer layer of the program. It reads the workspace in the current directory, the manifests above
it and the variables of the process, runs the program on them, and writes back what has changed.
Commands are started by whoever drives the program: each one is shown on the error stream, and its
exit code is read from the input.
-/

namespace Slipway.Terminal

open CommandLine

/-! ### Reading the workspace -/

/-- Whether a file is one whose text the program may ask for. -/
def isReadable (name : String) : Bool :=
  Path.extension? name == some "toml" || Path.extension? name == some "yml"

/-- Whether a directory belongs to the workspace; build output and hidden directories do not. -/
def isOwn (name : String) : Bool :=
  name == ".github" || (name != "target" && name.toList.head? != some '.')

/-- The directories and files below a directory, down to a depth. Files that the program does not
read are entered without their contents. -/
def readTree : (depth : Nat) → Path → FileTree → IO FileTree
  | 0, _, tree => return tree
  | depth + 1, dir, tree => do
    let mut tree := tree
    for entry in ← ((← IO.currentDir) / dir).readDir do
      let name := entry.fileName
      let p := Path.join dir name
      if ← entry.path.isDir then
        if isOwn name then tree ← readTree depth p (tree.addDir p)
      else if isReadable name then
        tree := tree.addFile p (.bytes (← IO.FS.readBinFile p).toList)
      else tree := tree.addFile p (.text "")
    return tree

/-- The file system as far as the program looks at it: the workspace in a directory, and the
manifests of the directories above. -/
def readFiles (here : Path) : IO FileTree := do
  let mut tree : FileTree := { cwd := FileTree.namesOf here }
  for above in here.ancestors.tail do
    let p := Path.join above Manifest.fileName
    let file := (← IO.currentDir) / p
    if ← file.pathExists then
      tree := tree.addFile p (.bytes (← IO.FS.readBinFile file).toList)
  readTree 32 "" tree

/-- The variables of the process. -/
def readVars : IO (List (String × String)) := do
  let bytes ← IO.FS.readBinFile "/proc/self/environ"
  let entries := Text.splitOn (Char.ofNat 0) (Text.utf8Lossy bytes.toList)
  return entries.filterMap (Text.splitFirst? '=')

/-- The present moment, by the clock of the file system. -/
def readNow : IO Log.Moment := do
  let clock := (← IO.currentDir) / "/proc/self"
  return Log.Moment.ofSeconds (← clock.metadata).modified.sec.toNat

/-! ### Commands -/

/-- How an effect ended. -/
inductive Reply where
  | ended (outcome : Except OsError Exit)
  | found (found : Bool)
  | passed

/-- The host that repeats the replies to the effects so far; the next effect fails. -/
def hostOf (replies : List Reply) : Host where
  run past _ :=
    match replies[past.length]? with
    | some (.ended outcome) => outcome
    | _ => .error .notFound
  available past _ :=
    match replies[past.length]? with
    | some (.found found) => found
    | _ => false

/-- Asks for a number; anything else is none. -/
def askNumber : IO (Option Int) := do
  return Number.integer? (Text.trim (← (← IO.getStdin).getLine))

/-- Has an effect performed. -/
def perform : Effect → IO Reply
  | .ran c _ => do
    let vars := c.env.map fun (key, value) => key ++ "=" ++ value
    let dir := (c.dir.map fun dir => "cd " ++ dir ++ " && ").getD ""
    IO.eprintln (dir ++ " ".intercalate (vars ++ c.words))
    match ← askNumber with
    | some n => return .ended (.ok (.code n))
    | none => return .ended (.error .notFound)
  | .probed program _ => do
    IO.eprintln (program ++ " --version")
    return .found ((← askNumber) == some 0)
  | .waited span => do
    IO.sleep (UInt32.ofNat (span.seconds * 1000 + span.nanoseconds / 1_000_000))
    return .passed

/-- Runs the program again with one more reply until it meets no further effect. -/
partial def runWith (s : Surroundings) (words : List String) (replies : List Reply) :
    IO Finish := do
  let finish := run (fun _ => hostOf replies) s words
  match finish.trace[replies.length]? with
  | none => return finish
  | some effect => runWith s words (replies ++ [← perform effect])

/-! ### Writing back -/

/-- Writes the directories and files of a tree that another tree does not have. -/
def writeBack (before after : FileTree) : IO Unit := do
  for (names, node) in after.entries.reverse do
    if before.node? names != some node then
      let p := "/" ++ "/".intercalate names
      match node with
      | .dir => IO.FS.createDirAll p
      | .file contents => IO.FS.writeFile p contents.textLossy

/-- What is printed when help is asked for. -/
def usage : String :=
  "Usage: " ++ grammar.name ++ " [OPTIONS] <COMMAND>\n\nCommands:\n" ++
    String.join (grammar.subcommands.map fun c => "  " ++ c.name ++ "\n")

end Slipway.Terminal

open Slipway Slipway.Terminal in
/-- Runs the program in the current directory. -/
def main (words : List String) : IO UInt32 := do
  let here := (← IO.currentDir).toString
  let tree ← readFiles here
  let finish ← runWith ⟨here, tree, ← readVars, ← readNow⟩ words []
  writeBack tree finish.tree
  IO.print finish.output
  match CommandLine.Arguments.parse words, finish.error with
  | .error .help, _ => IO.print usage
  | .error .version, _ => pure ()
  | .error _, _ => IO.eprint usage
  | .ok _, some e => IO.eprintln ("Error: " ++ e.text)
  | .ok _, none => pure ()
  return UInt32.ofNat finish.exitCode
