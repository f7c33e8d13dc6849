import Slipway.Path
import Slipway.Text.Utf8

/-!
# File trees

A file system without links: its directories and files, by the names that lead to them from the top,
and the current directory. Absolute paths start at the top and all others at the current directory.
They are resolved step by step as POSIX does: every step needs the directory it starts from, `..`
included, which stays at the top when it is there, and a slash at the end asks for a directory.

Reading, creating directories and writing return the error of the operating system as an `OsError`.
-/

namespace Slipway

/-! ### Errors of the operating system -/

/-- Why the operating system refuses a request. -/
inductive OsError where
  | notFound
  | exists
  | notDirectory
  | isDirectory
  | nameTooLong
  /-- A file name holds the character NUL. -/
  | nulInName
  /-- An argument or a variable of a command holds the character NUL. -/
  | nulInCommand
  | notUtf8
  | other (text : String)
  deriving Repr, DecidableEq

/-- The text of an error, with its number where it has one. -/
def OsError.message : OsError → String
  | .notFound => "No such file or directory (os error 2)"
  | .exists => "File exists (os error 17)"
  | .notDirectory => "Not a directory (os error 20)"
  | .isDirectory => "Is a directory (os error 21)"
  | .nameTooLong => "File name too long (os error 36)"
  | .nulInName => "file name contained an unexpected NUL byte"
  | .nulInCommand => "nul byte found in provided data"
  | .notUtf8 => "stream did not contain valid UTF-8"
  | .other text => text

/-! ### Trees -/

/-- What a file holds: a text, or bytes that need not be one. -/
inductive Contents where
  | text (s : String)
  | bytes (b : List UInt8)
  deriving Repr, DecidableEq

namespace Contents

/-- The contents as text, if they are well formed. -/
def text? : Contents → Option String
  | text s => some s
  | bytes b => Text.utf8? b

/-- The contents as text, with U+FFFD in place of what is not well formed. -/
def textLossy : Contents → String
  | text s => s
  | bytes b => Text.utf8Lossy b

end Contents

/-- A directory or a file. -/
inductive Node where
  | dir
  | file (contents : Contents)
  deriving Repr, DecidableEq

/-- A file system: what the names lead to from the top, and the current directory. A later entry for
the same names replaces an earlier one. -/
structure FileTree where
  entries : List (List String × Node) := []
  /-- The current directory, by the names that lead to it from the top. -/
  cwd : List String := []
  deriving Repr

namespace FileTree

/-- What the names lead to from the top. The current directory and those above it are always
there. -/
def node? (tree : FileTree) (names : List String) : Option Node :=
  if names.isPrefixOf tree.cwd then some .dir else tree.entries.lookup names

/-- The tree with a node at the given names. -/
def insert (tree : FileTree) (names : List String) (node : Node) : FileTree :=
  { tree with entries := (names, node) :: tree.entries.filter (·.1 != names) }

/-! ### Resolving paths -/

/-- One step from a directory: the empty name and `.` stay, `..` goes up unless it is at the top. -/
def step (names : List String) (name : String) : List String :=
  if name = "" ∨ name = "." then names
  else if name = ".." then names.dropLast
  else names ++ [name]

/-- One step in the tree. It starts at a directory, and a name must be known there. -/
def enter (tree : FileTree) (names : List String) (name : String) :
    Except OsError (List String) :=
  match tree.node? names with
  | none => .error .notFound
  | some (.file _) => .error .notDirectory
  | some .dir =>
    if name = "" ∨ name = "." ∨ name = ".." then .ok (step names name)
    else if 255 < name.utf8ByteSize then .error .nameTooLong
    else if (tree.node? (names ++ [name])).isSome then .ok (names ++ [name])
    else .error .notFound

/-- The steps that the text of a path asks for. -/
def stepsOf (p : Path) : List String :=
  Text.splitOn '/' p

/-- The directory where a path starts. -/
def start (tree : FileTree) (p : Path) : List String :=
  if p.isAbsolute then [] else tree.cwd

/-- The names that a path leads to. -/
def resolve (tree : FileTree) (p : Path) : Except OsError (List String) :=
  if p.toList.contains (Char.ofNat 0) then .error .nulInName
  else if p.isEmpty then .error .notFound
  else if 4095 < p.utf8ByteSize then .error .nameTooLong
  else (stepsOf p).foldlM (enter tree) (tree.start p)

/-- Whether the path leads to a file. -/
def isFile (tree : FileTree) (p : Path) : Bool :=
  match tree.resolve p with
  | .ok names =>
    match tree.node? names with
    | some (.file _) => true
    | _ => false
  | .error _ => false

/-- Whether the path leads to a directory. -/
def isDir (tree : FileTree) (p : Path) : Bool :=
  match tree.resolve p with
  | .ok names => tree.node? names == some .dir
  | .error _ => false

/-- The steps from one directory to another: up to the last directory above both, and down. -/
def way : (here there : List String) → List String
  | a :: here, b :: there =>
    if a = b then way here there else ".." :: here.map (fun _ => "..") ++ b :: there
  | here, there => here.map (fun _ => "..") ++ there

/-- The path that leads from the current directory to the given names. -/
def pathTo (tree : FileTree) (names : List String) : Path :=
  "/".intercalate (way tree.cwd names)

/-! ### Reading -/

/-- The contents of the file that the path leads to. -/
def read (tree : FileTree) (p : Path) : Except OsError Contents := do
  match tree.node? (← tree.resolve p) with
  | some (.file contents) => return contents
  | some .dir => throw .isDirectory
  | none => throw .notFound

/-- The text of the file that the path leads to. -/
def readText (tree : FileTree) (p : Path) : Except OsError String := do
  match (← tree.read p).text? with
  | some s => return s
  | none => throw .notUtf8

/-! ### Writing -/

/-- The directory part of a path and the last name, which may be created. The directory part must
exist. -/
def parentOf (tree : FileTree) (p : Path) : Except OsError (List String × String) := do
  if p.toList.contains (Char.ofNat 0) then throw .nulInName
  if p.isEmpty then throw .notFound
  if 4095 < p.utf8ByteSize then throw .nameTooLong
  let steps := ((stepsOf p).reverse.dropWhile (· == "")).reverse
  match steps.reverse with
  | [] => return (tree.start p, ".")
  | last :: before =>
    let names ← before.reverse.foldlM (enter tree) (tree.start p)
    match tree.node? names with
    | some .dir => return (names, last)
    | some (.file _) => throw .notDirectory
    | none => throw .notFound

/-- Creates the last directory of a path. -/
def createDir (tree : FileTree) (p : Path) : Except OsError FileTree := do
  let (names, last) ← tree.parentOf p
  match tree.enter names last with
  | .ok _ => throw .exists
  | .error .notFound => return tree.insert (names ++ [last]) .dir
  | .error e => throw e

/-- Creates a directory and those above it that are missing, starting from the nearest ancestor of
`dirs` that exists; `dirs` holds the path and then its ancestors. -/
def createDirs (tree : FileTree) : List Path → Except OsError FileTree
  | [] => .error (.other "failed to create whole tree")
  | p :: above =>
    if p.isEmpty then .ok tree
    else
      match tree.createDir p with
      | .ok tree => .ok tree
      | .error .notFound =>
        match tree.createDirs above with
        | .error e => .error e
        | .ok tree =>
          match tree.createDir p with
          | .ok tree => .ok tree
          | .error e => if tree.isDir p then .ok tree else .error e
      | .error e => if tree.isDir p then .ok tree else .error e

/-- Creates a directory and those above it that are missing. -/
def createDirAll (tree : FileTree) (p : Path) : Except OsError FileTree :=
  tree.createDirs p.ancestors

/-- Replaces the contents of a file, by what it held before, creating it if it is missing. -/
def update (tree : FileTree) (p : Path) (f : Option Contents → Contents) :
    Except OsError FileTree := do
  let (names, last) ← tree.parentOf p
  match tree.enter names last with
  | .ok target =>
    match tree.node? target with
    | some (.file old) =>
      if p.toList.getLast? == some '/' then throw .notDirectory
      return tree.insert target (.file (f (some old)))
    | _ => throw .isDirectory
  | .error .notFound =>
    if p.toList.getLast? == some '/' then throw .isDirectory
    return tree.insert (names ++ [last]) (.file (f none))
  | .error e => throw e

/-- Writes a file, creating it if it is missing. -/
def write (tree : FileTree) (p : Path) (s : String) : Except OsError FileTree :=
  tree.update p fun _ => .text s

/-- Opens a file for appending, creating it if it is missing. -/
def touch (tree : FileTree) (p : Path) : Except OsError FileTree :=
  tree.update p fun old => old.getD (.text "")

/-! ### Building a tree -/

/-- Adds the directories on the way to the given names. -/
def insertDirs (tree : FileTree) (names : List String) : FileTree :=
  (List.range (names.length + 1)).foldl
    (fun tree n =>
      if (tree.node? (names.take n)).isSome then tree else tree.insert (names.take n) .dir) tree

/-- The names in a path. -/
def namesOf (p : Path) : List String :=
  (stepsOf p).filter fun name => name != "" && name != "."

/-- The names that a path without `..` leads to. -/
def target (tree : FileTree) (p : Path) : List String :=
  tree.start p ++ namesOf p

/-- The tree with a directory and those above it. -/
def addDir (tree : FileTree) (p : Path) : FileTree :=
  tree.insertDirs (tree.target p)

/-- The tree with a file and the directories above it. -/
def addFile (tree : FileTree) (p : Path) (contents : Contents) : FileTree :=
  (tree.insertDirs (tree.target p).dropLast).insert (tree.target p) (.file contents)

end FileTree

end Slipway
