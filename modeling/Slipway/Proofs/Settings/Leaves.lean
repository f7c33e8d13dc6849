import Slipway.Settings.Convert

/-!
# Settings one by one

The settings that are no sections (`Leaf`): what each holds, where it stands in a tree and in the
environment, and its value in the settings. Settings are given by the values of all leaves
(`ofLeaves`), and a tree whose sections are tables is converted leaf by leaf: it denotes the
settings whose leaves are read at their places, each apart from all others (`ofTree?_eq_some_iff`).
-/

namespace Slipway.Settings

/-! ### Kinds and leaves -/

/-- What a setting holds. -/
inductive Kind where
  | text
  | texts
  | word
  | flag

@[reducible] def Kind.Value : Kind → Type
  | text => String
  | texts => List String
  | word => Nat
  | flag => Bool

/-- Reads what a setting holds. -/
def Kind.read : (k : Kind) → Tree → Option k.Value
  | text => toText?
  | texts => toTexts?
  | word => toWord?
  | flag => toBool?

/-- A setting that is no section. -/
inductive Leaf : Kind → Type where
  | env : Leaf .texts
  | targets : Leaf .texts
  | delaySecs : Leaf .word
  | dryRun : Leaf .flag
  | wasmTarget : Leaf .text
  | wasmPackages : Leaf .texts
  | wasmTool : Leaf .text
  | dependsOnBuild : Leaf .flag
  | workflow : Leaf .text
  | branches : Leaf .texts
  | pullRequest : Leaf .flag
  | pathsIgnore : Leaf .texts
  | cancelInProgress : Leaf .flag
  | runsOn : Leaf .text
  | toolchain : Leaf .text
  | components : Leaf .texts
  | wasmToolCrate : Leaf .text

/-- The names of the sections. -/
def sectionNames : List String := ["publish", "build", "test", "ci"]

namespace Leaf

variable {k : Kind}

/-- The keys that lead to a setting: its name, after that of its section if it is in one. -/
def keys : Leaf k → List String
  | env => ["env"]
  | targets => ["publish", "targets"]
  | delaySecs => ["publish", "delay_secs"]
  | dryRun => ["publish", "dry_run"]
  | wasmTarget => ["build", "wasm_target"]
  | wasmPackages => ["build", "wasm_packages"]
  | wasmTool => ["build", "wasm_tool"]
  | dependsOnBuild => ["test", "depends_on_build"]
  | workflow => ["ci", "workflow"]
  | branches => ["ci", "branches"]
  | pullRequest => ["ci", "pull_request"]
  | pathsIgnore => ["ci", "paths_ignore"]
  | cancelInProgress => ["ci", "cancel_in_progress"]
  | runsOn => ["ci", "runs_on"]
  | toolchain => ["ci", "toolchain"]
  | components => ["ci", "components"]
  | wasmToolCrate => ["ci", "wasm_tool_crate"]

/-- The text that describes the place of a setting. -/
def place (l : Leaf k) : String :=
  ".".intercalate l.keys

/-- The value of a setting. -/
def get : Leaf k → Settings → k.Value
  | env, s => s.env
  | targets, s => s.publish.targets
  | delaySecs, s => s.publish.delaySecs
  | dryRun, s => s.publish.dryRun
  | wasmTarget, s => s.build.wasmTarget
  | wasmPackages, s => s.build.wasmPackages
  | wasmTool, s => s.build.wasmTool
  | dependsOnBuild, s => s.test.dependsOnBuild
  | workflow, s => s.ci.workflow
  | branches, s => s.ci.branches
  | pullRequest, s => s.ci.pullRequest
  | pathsIgnore, s => s.ci.pathsIgnore
  | cancelInProgress, s => s.ci.cancelInProgress
  | runsOn, s => s.ci.runsOn
  | toolchain, s => s.ci.toolchain
  | components, s => s.ci.components
  | wasmToolCrate, s => s.ci.wasmToolCrate

/-- The settings with another value of one setting. -/
def set : Leaf k → k.Value → Settings → Settings
  | env, v, s => { s with env := v }
  | targets, v, s => { s with publish := { s.publish with targets := v } }
  | delaySecs, v, s => { s with publish := { s.publish with delaySecs := v } }
  | dryRun, v, s => { s with publish := { s.publish with dryRun := v } }
  | wasmTarget, v, s => { s with build := { s.build with wasmTarget := v } }
  | wasmPackages, v, s => { s with build := { s.build with wasmPackages := v } }
  | wasmTool, v, s => { s with build := { s.build with wasmTool := v } }
  | dependsOnBuild, v, s => { s with test := { s.test with dependsOnBuild := v } }
  | workflow, v, s => { s with ci := { s.ci with workflow := v } }
  | branches, v, s => { s with ci := { s.ci with branches := v } }
  | pullRequest, v, s => { s with ci := { s.ci with pullRequest := v } }
  | pathsIgnore, v, s => { s with ci := { s.ci with pathsIgnore := v } }
  | cancelInProgress, v, s => { s with ci := { s.ci with cancelInProgress := v } }
  | runsOn, v, s => { s with ci := { s.ci with runsOn := v } }
  | toolchain, v, s => { s with ci := { s.ci with toolchain := v } }
  | components, v, s => { s with ci := { s.ci with components := v } }
  | wasmToolCrate, v, s => { s with ci := { s.ci with wasmToolCrate := v } }

section
variable {k' : Kind} {l : Leaf k} {m : Leaf k'}

theorem heq_of_keys_eq (h : l.keys = m.keys) : k = k' ∧ HEq l m := by
  cases l <;> cases m <;> first | exact ⟨rfl, .rfl⟩ | simp [keys] at h

theorem get_set (l : Leaf k) (v : k.Value) (s : Settings) : l.get (l.set v s) = v := by
  cases l <;> rfl

theorem get_set_of_ne (h : m.keys ≠ l.keys) (v : k.Value) (s : Settings) :
    m.get (l.set v s) = m.get s := by
  cases l <;> cases m <;> first | rfl | exact absurd rfl h

end

theorem keys_cases (l : Leaf k) :
    l.keys = ["env"] ∨ ∃ s ∈ sectionNames, ∃ key, l.keys = [s, key] := by
  cases l <;> simp [keys, sectionNames]

/-- No setting stands within another one. -/
theorem not_keys_prefix {k' : Kind} {l : Leaf k} {m : Leaf k'} (h : l.keys ≠ m.keys) :
    ¬ l.keys <+: m.keys := by
  intro hp
  have henv : "env" ∉ sectionNames := by decide
  rcases l.keys_cases with hl | ⟨s, hs, key, hl⟩ <;>
    rcases m.keys_cases with hm | ⟨s', hs', key', hm⟩
  · exact h (hl.trans hm.symm)
  · rw [hl, hm] at hp
    exact henv ((List.cons_prefix_cons.1 hp).1 ▸ hs')
  · rw [hl, hm] at hp
    exact henv ((List.cons_prefix_cons.1 hp).1 ▸ hs)
  · exact h (hp.eq_of_length (by rw [hl, hm]; rfl))

end Leaf

theorem forall_leaf_iff {P : (k : Kind) → Leaf k → Prop} :
    (∀ k l, P k l) ↔
      P _ .env ∧ (P _ .targets ∧ P _ .delaySecs ∧ P _ .dryRun) ∧
      (P _ .wasmTarget ∧ P _ .wasmPackages ∧ P _ .wasmTool) ∧ P _ .dependsOnBuild ∧
      P _ .workflow ∧ P _ .branches ∧ P _ .pullRequest ∧ P _ .pathsIgnore ∧
      P _ .cancelInProgress ∧ P _ .runsOn ∧ P _ .toolchain ∧ P _ .components ∧
      P _ .wasmToolCrate := by
  constructor
  · intro h
    refine ⟨h _ _, ⟨h _ _, h _ _, h _ _⟩, ⟨h _ _, h _ _, h _ _⟩, ?_⟩
    exact ⟨h _ _, h _ _, h _ _, h _ _, h _ _, h _ _, h _ _, h _ _, h _ _, h _ _⟩
  · rintro ⟨_, ⟨_, _, _⟩, ⟨_, _, _⟩, _, _, _, _, _, _, _, _, _, _⟩ k l
    cases l <;> assumption

/-- The settings with given values. -/
def ofLeaves (value : (k : Kind) → Leaf k → k.Value) : Settings where
  env := value _ .env
  publish :=
    { targets := value _ .targets
      delaySecs := value _ .delaySecs
      dryRun := value _ .dryRun }
  build :=
    { wasmTarget := value _ .wasmTarget
      wasmPackages := value _ .wasmPackages
      wasmTool := value _ .wasmTool }
  test := { dependsOnBuild := value _ .dependsOnBuild }
  ci :=
    { workflow := value _ .workflow
      branches := value _ .branches
      pullRequest := value _ .pullRequest
      pathsIgnore := value _ .pathsIgnore
      cancelInProgress := value _ .cancelInProgress
      runsOn := value _ .runsOn
      toolchain := value _ .toolchain
      components := value _ .components
      wasmToolCrate := value _ .wasmToolCrate }

@[simp] theorem get_ofLeaves (value : (k : Kind) → Leaf k → k.Value) {k : Kind} (l : Leaf k) :
    l.get (ofLeaves value) = value k l := by
  cases l <;> rfl

theorem ofLeaves_get (s : Settings) : ofLeaves (fun _ l => l.get s) = s := rfl

theorem ext_leaves {s s' : Settings} (h : ∀ k (l : Leaf k), l.get s = l.get s') : s = s' := by
  rw [← ofLeaves_get s, ← ofLeaves_get s']
  exact congrArg ofLeaves (funext fun k => funext fun l => h k l)

/-! ### Places in a tree -/

/-- What stands at the place that keys lead to. -/
def Tree.at? : List String → Tree → Option Tree
  | [], t => some t
  | key :: keys, t => (t.entries.lookup key).bind (at? keys)

/-- The entries of a section; a section that is missing has none. -/
def Tree.sectionEntries (name : String) (t : Tree) : Entries :=
  ((t.entries.lookup name).map Tree.entries).getD []

theorem Tree.at?_single (key : String) (t : Tree) : t.at? [key] = t.entries.lookup key := by
  rw [at?]
  cases t.entries.lookup key <;> rfl

theorem Tree.at?_pair (s key : String) (t : Tree) :
    t.at? [s, key] = (t.sectionEntries s).lookup key := by
  simp only [at?, sectionEntries]
  cases t.entries.lookup s with
  | none => rfl
  | some u => simp

/-- Whether a tree is a table whose sections are tables. -/
structure Sectioned (t : Tree) : Prop where
  table : ∃ entries, t = .table entries
  sections : ∀ name ∈ sectionNames, ∀ u, t.entries.lookup name = some u →
    ∃ entries, u = .table entries

/-- The value of a setting in a tree. -/
def Leaf.readIn {k : Kind} (l : Leaf k) (t : Tree) : Option k.Value :=
  field k.read (l.get {}) (t.at? l.keys)

/-! ### Converting -/

section
variable {entries : Entries}

theorem toPublish?_eq_some_iff {p : PublishSettings} :
    toPublish? (.table entries) = some p ↔
      field toTexts? ({} : PublishSettings).targets (entries.lookup "targets") = some p.targets ∧
      field toWord? ({} : PublishSettings).delaySecs (entries.lookup "delay_secs") =
        some p.delaySecs ∧
      field toBool? ({} : PublishSettings).dryRun (entries.lookup "dry_run") = some p.dryRun := by
  simp only [toPublish?, fields?, List.map, Option.bind_eq_bind, Option.bind_some,
    Option.bind_eq_some_iff, Option.some.injEq]
  constructor
  · rintro ⟨a, ha, b, hb, c, hc, rfl⟩
    exact ⟨ha, hb, hc⟩
  · rintro ⟨ha, hb, hc⟩
    exact ⟨_, ha, _, hb, _, hc, rfl⟩

theorem toBuild?_eq_some_iff {b : BuildSettings} :
    toBuild? (.table entries) = some b ↔
      field toText? ({} : BuildSettings).wasmTarget (entries.lookup "wasm_target") =
        some b.wasmTarget ∧
      field toTexts? ({} : BuildSettings).wasmPackages (entries.lookup "wasm_packages") =
        some b.wasmPackages ∧
      field toText? ({} : BuildSettings).wasmTool (entries.lookup "wasm_tool") =
        some b.wasmTool := by
  simp only [toBuild?, fields?, List.map, Option.bind_eq_bind, Option.bind_some,
    Option.bind_eq_some_iff, Option.some.injEq]
  constructor
  · rintro ⟨a, ha, b, hb, c, hc, rfl⟩
    exact ⟨ha, hb, hc⟩
  · rintro ⟨ha, hb, hc⟩
    exact ⟨_, ha, _, hb, _, hc, rfl⟩

theorem toTest?_eq_some_iff {t : TestSettings} :
    toTest? (.table entries) = some t ↔
      field toBool? ({} : TestSettings).dependsOnBuild (entries.lookup "depends_on_build") =
        some t.dependsOnBuild := by
  simp only [toTest?, fields?, List.map, Option.bind_eq_bind, Option.bind_some,
    Option.bind_eq_some_iff, Option.some.injEq]
  constructor
  · rintro ⟨a, ha, rfl⟩
    exact ha
  · exact fun ha => ⟨_, ha, rfl⟩

theorem toCi?_eq_some_iff {c : CiSettings} :
    toCi? (.table entries) = some c ↔
      field toText? ({} : CiSettings).workflow (entries.lookup "workflow") = some c.workflow ∧
      field toTexts? ({} : CiSettings).branches (entries.lookup "branches") = some c.branches ∧
      field toBool? ({} : CiSettings).pullRequest (entries.lookup "pull_request") =
        some c.pullRequest ∧
      field toTexts? ({} : CiSettings).pathsIgnore (entries.lookup "paths_ignore") =
        some c.pathsIgnore ∧
      field toBool? ({} : CiSettings).cancelInProgress (entries.lookup "cancel_in_progress") =
        some c.cancelInProgress ∧
      field toText? ({} : CiSettings).runsOn (entries.lookup "runs_on") = some c.runsOn ∧
      field toText? ({} : CiSettings).toolchain (entries.lookup "toolchain") =
        some c.toolchain ∧
      field toTexts? ({} : CiSettings).components (entries.lookup "components") =
        some c.components ∧
      field toText? ({} : CiSettings).wasmToolCrate (entries.lookup "wasm_tool_crate") =
        some c.wasmToolCrate := by
  simp only [toCi?, fields?, List.map, Option.bind_eq_bind, Option.bind_some,
    Option.bind_eq_some_iff, Option.some.injEq]
  constructor
  · rintro ⟨a, ha, b, hb, c, hc, d, hd, e, he, f, hf, g, hg, i, hi, j, hj, rfl⟩
    exact ⟨ha, hb, hc, hd, he, hf, hg, hi, hj⟩
  · rintro ⟨ha, hb, hc, hd, he, hf, hg, hi, hj⟩
    exact ⟨_, ha, _, hb, _, hc, _, hd, _, he, _, hf, _, hg, _, hi, _, hj, rfl⟩

end

/-- A section that is missing counts as an empty one. -/
theorem field_section {α : Type} {read : Tree → Option α} {default : α} {t : Tree} {name : String}
    (ht : Sectioned t) (hn : name ∈ sectionNames) (hd : read (.table []) = some default) :
    field read default (t.entries.lookup name) = read (.table (t.sectionEntries name)) := by
  rw [Tree.sectionEntries]
  cases hl : t.entries.lookup name with
  | none => exact hd.symm
  | some u =>
    obtain ⟨entries, rfl⟩ := ht.sections name hn u hl
    rfl

/-- A tree whose sections are tables denotes the settings whose leaves it holds. -/
theorem ofTree?_eq_some_iff {t : Tree} (ht : Sectioned t) {s : Settings} :
    ofTree? t = some s ↔ ∀ k (l : Leaf k), l.readIn t = some (l.get s) := by
  obtain ⟨entries, rfl⟩ := ht.table
  have hsections :
      ofTree? (.table entries) = some s ↔
        field toTexts? ({} : Settings).env (entries.lookup "env") = some s.env ∧
        toPublish? (.table ((Tree.table entries).sectionEntries "publish")) = some s.publish ∧
        toBuild? (.table ((Tree.table entries).sectionEntries "build")) = some s.build ∧
        toTest? (.table ((Tree.table entries).sectionEntries "test")) = some s.test ∧
        toCi? (.table ((Tree.table entries).sectionEntries "ci")) = some s.ci := by
    rw [← field_section ht (by decide) (show toPublish? _ = some ({} : Settings).publish from rfl),
      ← field_section ht (by decide) (show toBuild? _ = some ({} : Settings).build from rfl),
      ← field_section ht (by decide) (show toTest? _ = some ({} : Settings).test from rfl),
      ← field_section ht (by decide) (show toCi? _ = some ({} : Settings).ci from rfl)]
    simp only [ofTree?, fields?, List.map, Option.bind_eq_bind, Option.bind_some,
      Option.bind_eq_some_iff, Option.some.injEq, Tree.entries]
    constructor
    · rintro ⟨a, ha, b, hb, c, hc, d, hd, e, he, rfl⟩
      exact ⟨ha, hb, hc, hd, he⟩
    · rintro ⟨ha, hb, hc, hd, he⟩
      exact ⟨_, ha, _, hb, _, hc, _, hd, _, he, rfl⟩
  rw [hsections, toPublish?_eq_some_iff, toBuild?_eq_some_iff, toTest?_eq_some_iff,
    toCi?_eq_some_iff, forall_leaf_iff]
  simp only [Leaf.readIn, Leaf.keys, Tree.at?_single, Tree.at?_pair]
  rfl

end Slipway.Settings
