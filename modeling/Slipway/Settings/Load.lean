import Slipway.Settings.Convert
import Slipway.Settings.Variables
import Slipway.Toml.Content

/-!
# Loading settings

Settings come in layers: the defaults, then a file, then variables of the environment, a later layer
winning. The result is converted and validated.
-/

namespace Slipway.Settings

/-! ### The file -/

/-- The name of the settings file at the root of a workspace. -/
def fileName : String := "xtask.toml"

/-- A settings file and whether it has to be there. -/
structure File where
  path : Path
  required : Bool
  deriving Repr, DecidableEq

/-- The path of the settings file that a path stands for if there is no file at the path itself: the
ending `.toml` is added to the name, without what follows the name if the name has no ending yet.
A name with an ending keeps what follows, and a slash there makes it a directory that holds the
file. -/
def withEnding? (p : Path) : Option Path :=
  (Path.fileName? p).map fun _ =>
    if (Path.extension? p).isNone then
      String.ofList (Path.dropTrailing p.toList.reverse).reverse ++ ".toml"
    else if p.toList.getLast? = some '/' then p ++ ".placeholder.toml"
    else p ++ ".toml"

/-- The file that a path stands for: the path itself if it is a file, or else the one of
`withEnding?`. Files with other endings are refused. -/
def findFile (tree : FileTree) (p : Path) : Except String Path :=
  let missing := "configuration file \"" ++ p ++ "\" not found"
  if tree.isFile p then
    if Path.extension? p = some "toml" then .ok p
    else .error ("configuration file \"" ++ p ++ "\" is not of a registered file format")
  else
    match withEnding? p with
    | some q => if tree.isFile q then .ok q else .error missing
    | none => .error missing

/-- The text of a file without a byte order mark. What is not well formed is replaced. -/
def fileText (tree : FileTree) (p : Path) : Except String String :=
  match tree.read p with
  | .error e => .error e.message
  | .ok contents => .ok (String.ofList (Toml.skipMark contents.textLossy.toList))

/-- The settings in the text of a file. -/
def textEntries (text : String) : Except String Entries :=
  match Toml.parse? .lenient text with
  | none => .error "the document is not valid TOML"
  | some table =>
    if table.all fun (_, v) => v.isNarrow then .ok (entriesOfToml table)
    else .error "a number is too large or has no digits"

/-- The settings in a file. A file that need not be there may be missing or unreadable, but its text
must be well formed. -/
def fileEntries (tree : FileTree) (file : File) : Except String Entries :=
  match (findFile tree file.path).bind (fileText tree) with
  | .ok text => textEntries text
  | .error reason => if file.required then .error reason else .ok []

/-! ### All layers -/

/-- The tree of the settings that a file and variables give. -/
def gather (tree : FileTree) (file : Option File) (vars : List (String × String)) :
    Except String Tree := do
  let entries ←
    match file with
    | none => pure []
    | some file => fileEntries tree file
  return collect (variableEntries vars) (collect entries (.table []))

/-- The settings that a file and variables give. -/
def load (tree : FileTree) (file : Option File) (vars : List (String × String)) :
    Except Failure Settings :=
  match gather tree file vars with
  | .error reason => .error ⟨.settings reason, some "Failed to build settings"⟩
  | .ok t =>
    match ofTree? t with
    | none =>
      .error ⟨.settings "a value has the wrong type", some "Failed to deserialize settings"⟩
    | some s => s.validate

/-- The settings of the workspace at `root`: from the given file, which has to be there, or from the
settings file of the workspace, if it has one. -/
def loadWorkspace (tree : FileTree) (root : Path) (file : Option Path)
    (vars : List (String × String)) : Except Failure Settings :=
  match file with
  | some p => load tree (some ⟨p, true⟩) vars
  | none => load tree (some ⟨root.join fileName, false⟩) vars

end Slipway.Settings
