import Slipway.Proofs.Settings.Collecting
import Slipway.Proofs.Settings.Validation

/-!
# Layers of settings

Each setting is decided apart from all others: by the variable that sets it if there is one, else by
the file if the file has it, else by its default (`Leaf.winner`). Loading succeeds if and only if
every value that is decided upon so has the right kind and the settings of these values are usable,
and then gives just these settings (`load_iff_winners`).
-/

namespace Slipway.Settings

variable {tree : FileTree} {file : Option File} {table : Toml.Table}
  {vars : List (String × String)} {k : Kind} {s : Settings}

/-! ### The layers -/

/-- Whether a document is what a settings file holds. A file that is not asked for, or that is
neither needed nor readable, counts as empty. -/
inductive Holds (tree : FileTree) : Option File → Toml.Table → Prop where
  | unasked : Holds tree none []
  | missing {path : Path} {reason : String} :
      (findFile tree path).bind (fileText tree) = .error reason →
      Holds tree (some ⟨path, false⟩) []
  | found {file : File} {text : String} {table : Toml.Table} :
      (findFile tree file.path).bind (fileText tree) = .ok text →
      Toml.parse? .lenient text = some table → (table.all fun (_, v) => v.isNarrow) = true →
      Holds tree (some file) table

/-- Whether the keys at the top of a document are plain and its sections are tables. -/
structure Regular (table : Toml.Table) : Prop where
  plain : ∀ e ∈ table, IsPlainKey e.1
  sections : ∀ name ∈ sectionNames, ∀ v, table.lookup name = some v → ∃ entries, v = .table entries

/-- The places that variables set; other variables do not count. -/
def placesSet (vars : List (String × String)) : List String :=
  vars.filterMap fun v => placeText? v.1

/-- Whether variables set no place but those of leaves, and none of these twice. -/
structure SetsLeaves (vars : List (String × String)) : Prop where
  leaf : ∀ place ∈ placesSet vars, ∃ k, ∃ l : Leaf k, place = l.place
  nodup : (placesSet vars).Nodup

namespace Leaf

/-- The text of the variable that sets a setting. -/
def text? (l : Leaf k) (vars : List (String × String)) : Option String :=
  (vars.find? fun v => placeText? v.1 == some l.place).map (·.2)

/-- The value that variables, a file and the default decide upon, if it has the right kind. -/
def winner (l : Leaf k) (table : Toml.Table) (vars : List (String × String)) : Option k.Value :=
  match l.text? vars with
  | some text => k.read (variableValue l.place text)
  | none =>
    match (Toml.Value.table table).at? l.keys with
    | some v => k.read (Tree.ofToml v)
    | none => some (l.get {})

end Leaf

theorem Leaf.text?_of_placesSet {k' : Kind} {l : Leaf k} {m : Leaf k'}
    (h : placesSet vars = [m.place]) (hne : l.keys ≠ m.keys) : l.text? vars = none := by
  have hnone : ∀ v ∈ vars, ¬ (placeText? v.1 == some l.place) = true := by
    intro v hv hp
    have hmem : l.place ∈ placesSet vars := List.mem_filterMap.2 ⟨v, hv, by simpa using hp⟩
    rw [h, List.mem_singleton] at hmem
    exact hne (keys_eq_of_place_eq hmem)
  rw [Leaf.text?, List.find?_eq_none.2 hnone]
  rfl

theorem Holds.distinct (h : Holds tree file table) : (Toml.Value.table table).Distinct := by
  cases h with
  | unasked => exact .table List.nodup_nil nofun
  | missing => exact .table List.nodup_nil nofun
  | found _ hp _ => exact Toml.distinct_of_parse? hp

theorem Holds.gather (h : Holds tree file table) :
    gather tree file vars =
      .ok (collect (variableEntries vars) (collect (entriesOfToml table) (.table []))) := by
  cases h with
  | unasked => rfl
  | missing hr => simp only [Settings.gather, fileEntries, hr]; rfl
  | found hr hp hn => simp only [Settings.gather, fileEntries, hr, textEntries, hp, hn]; rfl

theorem plain_variableValue (place text : String) : (variableValue place text).Plain := by
  intro entries
  simp only [variableValue]
  repeat' split
  all_goals nofun

theorem map_fst_variableEntries : (variableEntries vars).map (·.1) = placesSet vars := by
  rw [variableEntries, placesSet, List.map_filterMap]
  exact congrArg (vars.filterMap ·) (funext fun v => by simp [Function.comp_def])

theorem variableEntries_cons (name text : String) (rest : List (String × String)) :
    variableEntries ((name, text) :: rest) =
      match placeText? name with
      | none => variableEntries rest
      | some place => (place, variableValue place text) :: variableEntries rest := by
  simp only [variableEntries, List.filterMap_cons]
  cases placeText? name <;> rfl

theorem lookup_variableEntries (place : String) :
    (variableEntries vars).lookup place =
      (vars.find? fun v => placeText? v.1 == some place).map fun v => variableValue place v.2 := by
  induction vars with
  | nil => rfl
  | cons v rest ih =>
    obtain ⟨name, text⟩ := v
    rw [variableEntries_cons, List.find?_cons]
    cases placeText? name with
    | none => exact ih
    | some other =>
      by_cases ho : other = place
      · simp [ho]
      · have hne : (some other == some place) = false := by simpa using ho
        simp only [hne]
        rw [lookup_cons_of_ne (Ne.symm ho)]
        exact ih

theorem SetsLeaves.givesLeaves (h : SetsLeaves vars) : GivesLeaves (variableEntries vars) := by
  refine ⟨fun e he => ⟨?_, h.leaf e.1 ?_⟩, map_fst_variableEntries ▸ h.nodup⟩
  · obtain ⟨⟨name, text⟩, -, he⟩ := List.mem_filterMap.1 he
    obtain ⟨place, -, rfl⟩ := Option.map_eq_some_iff.1 he
    exact plain_variableValue place text
  · rw [← map_fst_variableEntries]
    exact List.mem_map_of_mem he

/-! ### Collecting the layers -/

/-- What a file and variables are collected into. -/
def layered (table : Toml.Table) (vars : List (String × String)) : Tree :=
  collect (variableEntries vars) (collect (entriesOfToml table) (.table []))

theorem read_over (t old : Tree) : k.read (t.over old) = k.read t := by
  cases t <;> cases k <;> rfl

theorem collect_ofToml (hr : Regular table) :
    collect (entriesOfToml table) (.table []) = (Tree.ofToml (.table table)).over .nil := by
  have hplain : ∀ e ∈ entriesOfToml table, IsPlainKey e.1 := by
    intro e he
    rw [entriesOfToml_eq_map] at he
    obtain ⟨v, hv, rfl⟩ := List.mem_map.1 he
    exact hr.plain v hv
  exact collect_eq_over hplain []

theorem sectioned_layered (ht : (Toml.Value.table table).Distinct) (hr : Regular table)
    (hv : SetsLeaves vars) : Sectioned (layered table vars) := by
  refine Sectioned.collect ?_ fun e he => (hv.givesLeaves.leaf e he).2
  rw [collect_ofToml hr]
  refine ⟨⟨_, rfl⟩, fun name hn u hu => ?_⟩
  rw [← Tree.at?_single, at?_over_ofToml ht] at hu
  obtain ⟨v, hl, rfl⟩ := Option.map_eq_some_iff.1 hu
  have hl' : table.lookup name = some v := by
    rw [← hl, Toml.Value.at?]
    cases table.lookup name <;> rfl
  obtain ⟨entries, rfl⟩ := hr.sections name hn v hl'
  exact ⟨_, rfl⟩

theorem readIn_layered (ht : (Toml.Value.table table).Distinct) (hr : Regular table)
    (hv : SetsLeaves vars) (l : Leaf k) : l.readIn (layered table vars) = l.winner table vars := by
  rw [Leaf.readIn, layered, at?_collect hv.givesLeaves, collect_ofToml hr, at?_over_ofToml ht,
    lookup_variableEntries, Leaf.winner, Leaf.text?]
  cases vars.find? fun v => placeText? v.1 == some l.place with
  | some v => rfl
  | none =>
    cases (Toml.Value.table table).at? l.keys with
    | none => rfl
    | some v => exact read_over _ _

/-! ### Loading -/

theorem environment_default :
    ({} : Settings).environment = .ok [("RUST_BACKTRACE", "full")] :=
  rfl

theorem winners_unique {s' : Settings} (h : ∀ k (l : Leaf k), l.winner table vars = some (l.get s))
    (h' : ∀ k (l : Leaf k), l.winner table vars = some (l.get s')) : s = s' :=
  ext_leaves fun k l => Option.some.inj ((h k l).symm.trans (h' k l))

/-- Values of the right kinds are those of some settings. -/
theorem exists_of_winners (h : ∀ k (l : Leaf k), ∃ value, l.winner table vars = some value) :
    ∃ s, ∀ k (l : Leaf k), l.winner table vars = some (l.get s) := by
  choose value hvalue using h
  refine ⟨ofLeaves value, fun k l => ?_⟩
  rw [get_ofLeaves]
  exact hvalue k l

section
variable (hf : Holds tree file table) (hr : Regular table) (hv : SetsLeaves vars)
include hf hr hv

theorem ofTree?_layered :
    ofTree? (layered table vars) = some s ↔
      ∀ k (l : Leaf k), l.winner table vars = some (l.get s) := by
  rw [ofTree?_eq_some_iff (sectioned_layered hf.distinct hr hv)]
  simp only [readIn_layered hf.distinct hr hv]

theorem load_of_winners (hw : ∀ k (l : Leaf k), l.winner table vars = some (l.get s)) :
    load tree file vars = s.validate := by
  have hs : ofTree? (layered table vars) = some s := (ofTree?_layered hf hr hv).2 hw
  rw [load, hf.gather, ← layered]
  simp only [hs]

theorem load_of_winner_eq_none (l : Leaf k) (hw : l.winner table vars = none) :
    load tree file vars = .error
      ⟨.settings "a value has the wrong type", some "Failed to deserialize settings"⟩ := by
  have hn : ofTree? (layered table vars) = none := by
    rw [Option.eq_none_iff_forall_ne_some]
    intro s hs
    have hl := (ofTree?_layered hf hr hv).1 hs k l
    rw [hw] at hl
    cases hl
  rw [load, hf.gather, ← layered]
  simp only [hn]

theorem load_eq_ok_iff :
    load tree file vars = .ok s ↔
      (∀ k (l : Leaf k), l.winner table vars = some (l.get s)) ∧ s.validate = .ok s := by
  constructor
  · intro h
    by_cases hw : ∀ k (l : Leaf k), ∃ value, l.winner table vars = some value
    · obtain ⟨s', hs'⟩ := exists_of_winners hw
      have hvalid : s'.validate = .ok s := (load_of_winners hf hr hv hs').symm.trans h
      obtain rfl := validate_eq_ok hvalid
      exact ⟨hs', hvalid⟩
    · simp only [not_forall, not_exists] at hw
      obtain ⟨k, l, hl⟩ := hw
      rw [load_of_winner_eq_none hf hr hv l (Option.eq_none_iff_forall_ne_some.2 hl)] at h
      cases h
  · rintro ⟨hw, hvalid⟩
    rw [load_of_winners hf hr hv hw, hvalid]

end

/-- Loading succeeds if and only if the value that is decided upon for each setting has the right
kind and the settings of these values are usable. It then gives these settings. -/
theorem load_iff_winners (hf : Holds tree file table) (hr : Regular table)
    (hv : SetsLeaves vars) :
    ((∃ s, load tree file vars = .ok s) ↔
      (∀ k (l : Leaf k), ∃ value, l.winner table vars = some value) ∧
        ∀ s, (∀ k (l : Leaf k), l.winner table vars = some (l.get s)) → s.validate = .ok s) ∧
      ∀ s, load tree file vars = .ok s →
        ∀ k (l : Leaf k), l.winner table vars = some (l.get s) := by
  have hload : ∀ s, load tree file vars = .ok s ↔ _ := fun s => load_eq_ok_iff hf hr hv
  refine ⟨⟨?_, ?_⟩, fun s h => ((hload s).1 h).1⟩
  · rintro ⟨s, h⟩
    obtain ⟨hw, hvalid⟩ := (hload s).1 h
    refine ⟨fun k l => ⟨_, hw k l⟩, fun s' hw' => ?_⟩
    obtain rfl := winners_unique hw hw'
    exact hvalid
  · rintro ⟨hsome, hvalid⟩
    obtain ⟨s, hw⟩ := exists_of_winners hsome
    exact ⟨s, (hload s).2 ⟨hw, hvalid s hw⟩⟩

/-- The delay of the file has the wrong kind, which does not matter since a variable sets it; the
other settings of the section come from the file and from the defaults. -/
theorem load_iff_winners_hidden :
    let text := "[publish]\ndelay_secs = \"soon\"\ntargets = [\"a\"]\n"
    let tree := FileTree.addFile {} "xtask.toml" (.text text)
    let vars := [("HOME", "/root"), ("mple__Publish__Delay_Secs", "0")]
    ∃ s, load tree (some ⟨"xtask.toml", true⟩) vars = .ok s ∧
      s.publish = { targets := ["a"], delaySecs := 0 } := by
  intro text tree vars
  let table : Toml.Table :=
    [("publish", .table [("delay_secs", .string "soon"), ("targets", .array [.string "a"])])]
  let expected : Settings := { publish := { targets := ["a"], delaySecs := 0 } }
  have hread : (findFile tree "xtask.toml").bind (fileText tree) = .ok text := by decide +kernel
  have hparse : Toml.parse? .lenient text = some table := by decide +kernel
  have hholds : Holds tree (some ⟨"xtask.toml", true⟩) table := .found hread hparse rfl
  have hregular : Regular table := by
    refine ⟨fun e he => ?_, fun name hn v hl => ?_⟩
    · obtain rfl := List.mem_singleton.1 he
      exact ⟨by decide, List.all_eq_true.1 (by decide)⟩
    · simp only [table, List.lookup_cons, List.lookup_nil] at hl
      split at hl
      · exact ⟨_, (Option.some.inj hl).symm⟩
      · cases hl
  have hplaces : placesSet vars = [Leaf.delaySecs.place] := by decide +kernel
  have hsets : SetsLeaves vars := by
    refine ⟨fun place hp => ⟨_, .delaySecs, ?_⟩, ?_⟩
    · rw [hplaces] at hp
      exact List.mem_singleton.1 hp
    · rw [hplaces]
      decide
  have hw : ∀ k (l : Leaf k), l.winner table vars = some (l.get expected) := by
    have hdelay : Leaf.delaySecs.winner table vars = some 0 := by decide +kernel
    intro k l
    by_cases hl : l.keys = Leaf.delaySecs.keys
    · cases l with
      | delaySecs => exact hdelay
      | _ => simp [Leaf.keys] at hl
    · rw [Leaf.winner, Leaf.text?_of_placesSet hplaces hl]
      cases l with
      | delaySecs => exact absurd rfl hl
      | _ => rfl
  obtain ⟨hiff, hvalues⟩ := load_iff_winners hholds hregular hsets
  have hvalid : ∀ s, (∀ k (l : Leaf k), l.winner table vars = some (l.get s)) →
      s.validate = .ok s := by
    intro s hs
    obtain rfl := winners_unique hs hw
    exact validate_eq_ok_iff.2 ⟨⟨_, environment_default⟩, by decide, by decide, by decide⟩
  obtain ⟨s, hs⟩ := hiff.2 ⟨fun k l => ⟨_, hw k l⟩, hvalid⟩
  obtain rfl := winners_unique (hvalues s hs) hw
  exact ⟨_, hs, rfl⟩

end Slipway.Settings
