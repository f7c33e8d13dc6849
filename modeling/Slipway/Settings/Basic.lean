import Slipway.Command
import Slipway.Text.Blank

/-!
# Settings

The settings of a workspace in five parts, with the values that hold when nothing else is said, and
what makes settings usable: every entry of the environment is a name and a value, and no path or
name that is needed later is empty.
-/

namespace Slipway

/-! ### The parts -/

/-- What to publish and how. -/
structure PublishSettings where
  /-- Package directories below the root of the workspace, in the order of publication. -/
  targets : List Path := ["src/ic_mple_pocket_ic"]
  /-- The pause between two publications, in seconds. -/
  delaySecs : Nat := 10
  dryRun : Bool := false
  deriving Repr, DecidableEq

/-- What to build besides the workspace. -/
structure BuildSettings where
  wasmTarget : String := "wasm32-unknown-unknown"
  /-- Packages that are compiled to wasm and shrunk. -/
  wasmPackages : List String :=
    ["test_canister", "ic_mple_structures_integration_tests", "ic_mple_scheduler_integration_tests"]
  wasmTool : String := "ic-wasm"
  deriving Repr, DecidableEq

/-- How to test. -/
structure TestSettings where
  dependsOnBuild : Bool := false
  deriving Repr, DecidableEq

/-- The workflow on the continuous integration server. -/
structure CiSettings where
  workflow : String := "CI"
  branches : List String := ["main"]
  pullRequest : Bool := true
  pathsIgnore : List String := ["README.md"]
  cancelInProgress : Bool := true
  runsOn : String := "ubuntu-latest"
  toolchain : String := "stable"
  components : List String := ["rustfmt", "clippy"]
  /-- The crate that provides the wasm tool. -/
  wasmToolCrate : String := "ic-wasm"
  deriving Repr, DecidableEq

/-- The settings of a workspace. -/
structure Settings where
  /-- Entries `KEY=VALUE`, exported to every command. -/
  env : List String := ["RUST_BACKTRACE=full"]
  publish : PublishSettings := {}
  build : BuildSettings := {}
  test : TestSettings := {}
  ci : CiSettings := {}
  deriving Repr, DecidableEq

/-! ### The environment -/

/-- The variable that an entry `KEY=VALUE` describes. The key is trimmed and must not be empty; the
value is all that follows the first equals sign. -/
def envEntry (entry : String) : Except Failure (String × String) :=
  match Text.splitFirst? '=' entry with
  | none => .error ⟨.invalidConfiguration s!"env entry '{entry}' is not KEY=VALUE", none⟩
  | some (key, value) =>
    let key := Text.trim key
    if key.isEmpty then
      .error ⟨.invalidConfiguration s!"env entry '{entry}' has an empty key", none⟩
    else .ok (key, value)

/-- The variables that entries describe, in their order, or the failure of the first bad entry. -/
def envEntries : List String → Except Failure (List (String × String))
  | [] => .ok []
  | entry :: rest =>
    match envEntry entry with
    | .error f => .error f
    | .ok pair => (envEntries rest).map (pair :: ·)

namespace Settings

/-- The variables that every command is given. -/
def environment (s : Settings) : Except Failure (List (String × String)) :=
  envEntries s.env

/-- The settings themselves if they can drive a run, else the first problem. -/
def validate (s : Settings) : Except Failure Settings :=
  match s.environment with
  | .error f => .error f
  | .ok _ =>
    if s.publish.targets.any (·.isEmpty) then
      .error ⟨.invalidConfiguration "publish.targets contains an empty path", none⟩
    else if Text.allBlank s.build.wasmTarget then
      .error ⟨.invalidConfiguration "build.wasm_target cannot be empty", none⟩
    else if Text.allBlank s.ci.workflow then
      .error ⟨.invalidConfiguration "ci.workflow cannot be empty", none⟩
    else .ok s

end Settings

end Slipway
