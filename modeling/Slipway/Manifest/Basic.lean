import Slipway.Failure
import Slipway.Toml.Content

/-!
# Package manifests

The parts of a package manifest that matter for publishing: the name, the version and whether the
package may be published. A version or publish field with `workspace = true` takes its value from
the `[workspace.package]` table of a workspace. `Manifest.ofText` reads the text of a manifest and
`Manifest.resolve` settles its fields.
-/

namespace Slipway

/-- The fields that the packages of a workspace may inherit. -/
structure Inheritance where
  version : Option String := none
  publish : Option Toml.Value := none
  deriving Repr

/-- The package table of a manifest, as it is written. -/
structure PackageFields where
  name : String
  version : Option Toml.Value := none
  publish : Option Toml.Value := none
  deriving Repr

/-- A manifest, as it is written. -/
structure Manifest where
  package : Option PackageFields := none
  /-- What the manifest offers to the packages of its workspace, if it declares one. -/
  workspace : Option Inheritance := none
  deriving Repr

/-- A package with its fields settled. -/
structure Package where
  name : String
  /-- No version is declared or inherited when there is none. -/
  version : Option String
  publishable : Bool
  deriving Repr, DecidableEq

namespace Manifest

/-! ### Reading -/

/-- A text. -/
def string (v : Toml.Value) : Except Fault String :=
  match v with
  | .string s => .ok s
  | v => .error (.wrongType v "a string")

/-- What any value stands for, if its numbers can be read and are not too large. -/
def anyValue (v : Toml.Value) : Except Fault Toml.Value :=
  match v.settle? with
  | some v => .ok v
  | none => .error .notToml

/-- A field that may be missing. -/
def optional {α : Type} (read : Toml.Value → Except Fault α) (v : Option Toml.Value) :
    Except Fault (Option α) :=
  match v with
  | none => .ok none
  | some v => (read v).map some

/-- The entries of a table; a date counts as a table without known entries. -/
def entries? : Toml.Value → Option Toml.Table
  | .table entries => some entries
  | .date _ => some []
  | _ => none

/-- Looks at the entries of a table besides those with the given keys: they play no part, but their
numbers have to be readable. -/
def checkOthers (keys : List String) (entries : Toml.Table) : Except Fault Unit :=
  if entries.all fun (key, v) => keys.contains key || v.isReadable then .ok ()
  else .error .notToml

/-- The package table: a table, or a list that starts with its fields in order. -/
def packageFields (v : Toml.Value) : Except Fault PackageFields := do
  match entries? v, v with
  | some entries, _ =>
    match entries.lookup "name" with
    | none => throw (.missingField "name")
    | some name =>
      let name ← string name
      let publish ← optional anyValue (entries.lookup "publish")
      let version ← optional anyValue (entries.lookup "version")
      checkOthers ["name", "version", "publish"] entries
      return ⟨name, version, publish⟩
  | none, .array items =>
    let short (n : Nat) : Fault := .tooShort n "struct PackageTable with 3 elements"
    match items with
    | [] => throw (short 0)
    | [name] =>
      let _ ← string name
      throw (short 1)
    | [name, version] =>
      let _ ← string name
      let _ ← anyValue version
      throw (short 2)
    | name :: version :: publish :: _ =>
      return ⟨← string name, some (← anyValue version), some (← anyValue publish)⟩
  | none, v => throw (.wrongType v "struct PackageTable")

/-- The fields that a workspace offers: a table, or a list that starts with them in order. -/
def inheritance (v : Toml.Value) : Except Fault Inheritance := do
  match entries? v, v with
  | some entries, _ =>
    let publish ← optional anyValue (entries.lookup "publish")
    let version ← optional string (entries.lookup "version")
    checkOthers ["version", "publish"] entries
    return ⟨version, publish⟩
  | none, .array items =>
    let short (n : Nat) : Fault := .tooShort n "struct WorkspacePackage with 2 elements"
    match items with
    | [] => throw (short 0)
    | [version] =>
      let _ ← string version
      throw (short 1)
    | version :: publish :: _ => return ⟨some (← string version), some (← anyValue publish)⟩
  | none, v => throw (.wrongType v "struct WorkspacePackage")

/-- What a workspace table offers; a list may stand for the table. -/
def workspaceTable (v : Toml.Value) : Except Fault Inheritance := do
  match entries? v, v with
  | some entries, _ =>
    let package ← optional inheritance (entries.lookup "package")
    checkOthers ["package"] entries
    return package.getD {}
  | none, .array items => return (← optional inheritance items.head?).getD {}
  | none, v => throw (.wrongType v "struct WorkspaceTable")

/-- The manifest in a document. -/
def ofTable (table : Toml.Table) : Except Fault Manifest := do
  let package ← optional packageFields (table.lookup "package")
  let workspace ← optional workspaceTable (table.lookup "workspace")
  checkOthers ["package", "workspace"] table
  return ⟨package, workspace⟩

/-- The manifest that a text denotes. A number that is too large does no harm where it plays no
part; but if anything is wrong with a document that holds such a number, the number is to blame. -/
def ofText (text : String) : Except Fault Manifest :=
  match Toml.parse? .strict text with
  | none => .error .notToml
  | some table =>
    match ofTable table with
    | .ok manifest => .ok manifest
    | .error fault => .error (if (Toml.settleEntries? table).isSome then fault else .notToml)

/-! ### Inherited fields -/

/-- Whether a field has the form `workspace = true`. -/
def isInherited : Toml.Value → Bool
  | .table entries =>
    match entries.lookup "workspace" with
    | some (.boolean b) => b
    | _ => false
  | _ => false

/-- Whether the version or the publish field is inherited. -/
def inherits (m : Manifest) : Bool :=
  m.package.any fun p => p.version.any isInherited || p.publish.any isInherited

/-- Whether a publish field allows publishing: `false` and the empty list do not. -/
def allowsPublishing : Toml.Value → Bool
  | .boolean b => b
  | .array registries => !registries.isEmpty
  | _ => true

/-- The version, with an inherited one taken from the workspace. -/
def resolveVersion (workspace : Option Inheritance) : Option Toml.Value → Option String
  | some (.string version) => some version
  | some v => if isInherited v then workspace.bind (·.version) else none
  | none => none

/-- Whether the package may be published, with an inherited field taken from the workspace. A field
that is missing allows it. -/
def resolvePublish (workspace : Option Inheritance) : Option Toml.Value → Bool
  | some v =>
    if isInherited v then ((workspace.bind (·.publish)).map allowsPublishing).getD true
    else allowsPublishing v
  | none => true

/-- The package of a manifest, with inherited fields taken from the workspace. -/
def resolve (m : Manifest) (workspace : Option Inheritance) : Except Failure Package :=
  match m.package with
  | none => .error ⟨.invalidConfiguration "manifest has no [package] table", none⟩
  | some p =>
    .ok ⟨p.name, resolveVersion workspace p.version, resolvePublish workspace p.publish⟩

/-- The package that a text denotes on its own: inherited fields come from the same text, if it
declares a workspace. -/
def packageOfText (text : String) : Except Failure Package :=
  match ofText text with
  | .error fault => .error ⟨.manifest fault, none⟩
  | .ok m => m.resolve m.workspace

end Manifest

end Slipway
