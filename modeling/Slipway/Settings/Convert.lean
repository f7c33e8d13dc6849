import Slipway.Settings.Basic
import Slipway.Settings.Tree

/-!
# Converting settings

Collected settings are converted to their types: plain values between kinds as far as that makes
sense, lists only from lists, and a section from a table or from a list that starts with its fields
in order. Missing fields keep their defaults; unknown ones and further items are ignored.
-/

namespace Slipway.Settings

/-! ### Plain values -/

/-- A truth value; a number is true unless it is zero. -/
def toBool? : Tree → Option Bool
  | .boolean b => some b
  | .integer n => some (n != 0)
  | .float x => some !x.isZero
  | .string s =>
    let word := Text.asciiLower s
    if word ∈ ["1", "true", "on", "yes"] then some true
    else if word ∈ ["0", "false", "off", "no"] then some false
    else none
  | _ => none

/-- A natural number below `2 ^ 64`. -/
def toWord? : Tree → Option Nat
  | .boolean b => some b.toNat
  | .integer n => if 0 ≤ n then some n.toNat else none
  | .float x => some x.toWord
  | .string s =>
    let word := Text.asciiLower s
    if word ∈ ["true", "on", "yes"] then some 1
    else if word ∈ ["false", "off", "no"] then some 0
    else Number.word? s
  | _ => none

/-- A text; other plain values are written out. -/
def toText? : Tree → Option String
  | .boolean b => some (if b then "true" else "false")
  | .integer n => some (toString n)
  | .float x => some x.toText
  | .string s => some s
  | _ => none

/-- A list of texts. -/
def toTexts? : Tree → Option (List String)
  | .list items => items.mapM toText?
  | _ => none

/-! ### Sections -/

/-- The fields of a section in their order, where they are given. -/
def fields? (names : List String) : Tree → Option (List (Option Tree))
  | .table entries => some (names.map fun name => entries.lookup name)
  | .list items => some ((List.range names.length).map fun i => items[i]?)
  | _ => none

/-- A field, or its default where it is not given. -/
def field {α : Type} (read : Tree → Option α) (default : α) : Option Tree → Option α
  | none => some default
  | some t => read t

/-- The section on publishing. -/
def toPublish? (t : Tree) : Option PublishSettings := do
  let base : PublishSettings := {}
  match ← fields? ["targets", "delay_secs", "dry_run"] t with
  | [targets, delay, dryRun] =>
    some
      { targets := ← field toTexts? base.targets targets
        delaySecs := ← field toWord? base.delaySecs delay
        dryRun := ← field toBool? base.dryRun dryRun }
  | _ => none

/-- The section on building. -/
def toBuild? (t : Tree) : Option BuildSettings := do
  let base : BuildSettings := {}
  match ← fields? ["wasm_target", "wasm_packages", "wasm_tool"] t with
  | [target, packages, tool] =>
    some
      { wasmTarget := ← field toText? base.wasmTarget target
        wasmPackages := ← field toTexts? base.wasmPackages packages
        wasmTool := ← field toText? base.wasmTool tool }
  | _ => none

/-- The section on testing. -/
def toTest? (t : Tree) : Option TestSettings := do
  let base : TestSettings := {}
  match ← fields? ["depends_on_build"] t with
  | [dependsOnBuild] =>
    some { dependsOnBuild := ← field toBool? base.dependsOnBuild dependsOnBuild }
  | _ => none

/-- The section on continuous integration. -/
def toCi? (t : Tree) : Option CiSettings := do
  let base : CiSettings := {}
  let names :=
    ["workflow", "branches", "pull_request", "paths_ignore", "cancel_in_progress", "runs_on",
      "toolchain", "components", "wasm_tool_crate"]
  match ← fields? names t with
  | [workflow, branches, pullRequest, pathsIgnore, cancel, runsOn, toolchain, components, crate] =>
    some
      { workflow := ← field toText? base.workflow workflow
        branches := ← field toTexts? base.branches branches
        pullRequest := ← field toBool? base.pullRequest pullRequest
        pathsIgnore := ← field toTexts? base.pathsIgnore pathsIgnore
        cancelInProgress := ← field toBool? base.cancelInProgress cancel
        runsOn := ← field toText? base.runsOn runsOn
        toolchain := ← field toText? base.toolchain toolchain
        components := ← field toTexts? base.components components
        wasmToolCrate := ← field toText? base.wasmToolCrate crate }
  | _ => none

/-- The settings in a tree. -/
def ofTree? (t : Tree) : Option Settings := do
  let base : Settings := {}
  match ← fields? ["env", "publish", "build", "test", "ci"] t with
  | [env, publish, build, test, ci] =>
    some
      { env := ← field toTexts? base.env env
        publish := ← field toPublish? base.publish publish
        build := ← field toBuild? base.build build
        test := ← field toTest? base.test test
        ci := ← field toCi? base.ci ci }
  | _ => none

end Slipway.Settings
