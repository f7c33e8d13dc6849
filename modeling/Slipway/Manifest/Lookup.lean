import Slipway.Manifest.Basic

/-!
# Manifests in a file tree

Reading the manifest of a package directory. Fields that it inherits come from the workspace that
the manifest itself declares, or else from the first manifest further up that declares one.
-/

namespace Slipway.Manifest

/-- The name of a manifest within its directory. -/
def fileName : String := "Cargo.toml"

/-- The manifest in a file. -/
def load (tree : FileTree) (p : Path) : Except Failure Manifest := do
  let text ← ioResult ("Failed to read manifest " ++ p) (tree.readText p)
  match ofText text with
  | .ok m => return m
  | .error fault => throw ⟨.manifest fault, some ("Invalid manifest " ++ p)⟩

/-- What the first manifest in the given directories that declares a workspace offers. Directories
without a manifest are passed over; a manifest that cannot be read ends the search. -/
def findAbove (tree : FileTree) : List Path → Except Failure (Option Inheritance)
  | [] => .ok none
  | dir :: above =>
    let p := Path.join dir fileName
    if tree.isFile p then
      match load tree p with
      | .error f => .error f
      | .ok m =>
        match m.workspace with
        | some offered => .ok (some offered)
        | none => findAbove tree above
    else findAbove tree above

/-- What the workspace of a package directory offers: the manifest's own workspace, or the nearest
one above. -/
def findWorkspace (tree : FileTree) (dir : Path) (m : Manifest) : Except Failure Inheritance :=
  match m.workspace with
  | some offered => .ok offered
  | none =>
    match findAbove tree dir.ancestors.tail with
    | .error f => .error f
    | .ok (some offered) => .ok offered
    | .ok none =>
      .error ⟨.invalidConfiguration
        ("package inherits fields from a workspace, but no workspace manifest was found above "
          ++ dir), none⟩

/-- The package in a directory, with its inherited fields settled. -/
def readPackage (tree : FileTree) (dir : Path) : Except Failure Package :=
  let p := Path.join dir fileName
  match load tree p with
  | .error f => .error f
  | .ok m =>
    if m.inherits then
      match findWorkspace tree dir m with
      | .error f => .error f
      | .ok offered => withContext ("Invalid manifest " ++ p) (m.resolve (some offered))
    else withContext ("Invalid manifest " ++ p) (m.resolve none)

end Slipway.Manifest
