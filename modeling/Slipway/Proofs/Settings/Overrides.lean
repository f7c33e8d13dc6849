import Slipway.Proofs.Number.Digits
import Slipway.Proofs.Settings.Layers
import Slipway.Proofs.Text.Separators

/-!
# Settings from a single variable

What a setting becomes when one variable sets it and nothing else is given. A text stays as it is
written unless it reads as a truth value or a number, which is written out anew (`load_respelled`):
the toolchain `1.80` becomes `1.8`. A list that is joined at commas comes back where the variable is
cut at commas, which holds of all lists but the components of the toolchain (`load_joined`).
-/

namespace Slipway.Settings

variable {k : Kind} {tree : FileTree} {text place : String}

/-! ### One variable -/

/-- The name of the variable that sets a setting, in upper case. -/
def Leaf.varName (l : Leaf k) : String :=
  "MPLE__" ++ "__".intercalate (l.keys.map fun key => String.ofList (key.toList.map Char.toUpper))

theorem placeText?_varName (l : Leaf k) : placeText? l.varName = some l.place := by
  cases l <;> decide

theorem regular_nil : Regular [] where
  plain _ h := absurd h List.not_mem_nil
  sections _ _ _ h := by cases h

theorem placesSet_varName (l : Leaf k) (text : String) :
    placesSet [(l.varName, text)] = [l.place] := by
  simp [placesSet, placeText?_varName]

theorem setsLeaves_varName (l : Leaf k) (text : String) : SetsLeaves [(l.varName, text)] := by
  refine ⟨fun place hp => ⟨k, l, ?_⟩, ?_⟩
  · rw [placesSet_varName] at hp
    exact List.mem_singleton.1 hp
  · rw [placesSet_varName]
    exact List.pairwise_singleton _ _

theorem winner_varName (l : Leaf k) (text : String) :
    l.winner [] [(l.varName, text)] = k.read (variableValue l.place text) := by
  have htext : l.text? [(l.varName, text)] = some text := by
    simp [Leaf.text?, placeText?_varName]
  rw [Leaf.winner, htext]

theorem winner_varName_of_ne {k' : Kind} {l : Leaf k} {m : Leaf k'} (h : m.keys ≠ l.keys)
    (text : String) : m.winner [] [(l.varName, text)] = some (m.get {}) := by
  rw [Leaf.winner, Leaf.text?_of_placesSet (placesSet_varName l text) h]
  cases m <;> rfl

/-- One variable sets its setting and leaves the others at their defaults. -/
theorem load_varName (l : Leaf k) {value : k.Value}
    (h : k.read (variableValue l.place text) = some value) :
    load tree none [(l.varName, text)] = (l.set value {}).validate := by
  refine load_of_winners .unasked regular_nil (setsLeaves_varName l text) fun k' m => ?_
  by_cases hm : m.keys = l.keys
  · obtain ⟨rfl, hml⟩ := Leaf.heq_of_keys_eq hm
    obtain rfl := eq_of_heq hml
    rw [winner_varName, h, Leaf.get_set]
  · rw [winner_varName_of_ne hm, Leaf.get_set_of_ne hm]

theorem load_varName_of_read_eq_none (l : Leaf k)
    (h : k.read (variableValue l.place text) = none) :
    load tree none [(l.varName, text)] = .error
      ⟨.settings "a value has the wrong type", some "Failed to deserialize settings"⟩ :=
  load_of_winner_eq_none .unasked regular_nil (setsLeaves_varName l text) l
    ((winner_varName l text).trans h)

/-! ### Scalars -/

/-- The truth value or the number that a text reads as, written out. -/
def scalarText? (text : String) : Option String :=
  if Text.asciiLower text = "true" then some "true"
  else if Text.asciiLower text = "false" then some "false"
  else
    match Number.integer? text with
    | some n => some (toString n)
    | none => (Number.float? text).map Number.Binary64.toText

theorem variableValue_of_scalarText?_eq_none (h : scalarText? text = none) (place : String) :
    variableValue place text =
      if place ∈ listPlaces then .list ((Text.splitOn ',' text).map .string)
      else .string text := by
  simp only [scalarText?] at h
  simp only [variableValue]
  split_ifs at h with ht hf
  rw [if_neg ht, if_neg hf]
  cases hi : Number.integer? text with
  | some n => simp [hi] at h
  | none =>
    simp only [hi, Option.map_eq_none_iff] at h
    simp only [h]

theorem toText?_variableValue (hp : place ∉ listPlaces) (text : String) :
    toText? (variableValue place text) = some ((scalarText? text).getD text) := by
  cases h : scalarText? text with
  | none => rw [variableValue_of_scalarText?_eq_none h, if_neg hp]; rfl
  | some word =>
    simp only [scalarText?] at h
    simp only [variableValue]
    split_ifs at h ⊢ with ht hf
    · exact h
    · exact h
    · cases hi : Number.integer? text with
      | some n =>
        simp only [hi] at h ⊢
        exact h
      | none =>
        simp only [hi, Option.map_eq_some_iff] at h
        obtain ⟨x, hx, rfl⟩ := h
        simp only [hx]
        rfl

theorem allBlank_of_scalarText? {word : String} (h : scalarText? text = some word) :
    Text.allBlank word = false := by
  simp only [scalarText?] at h
  split at h
  · cases h; decide
  split at h
  · cases h; decide
  split at h
  · cases h
    exact (Number.hasDigit_toString _).allBlank
  · obtain ⟨x, -, rfl⟩ := Option.map_eq_some_iff.1 h
    exact Number.Binary64.allBlank_toText x

/-! ### Texts -/

theorem validate_set_text (l : Leaf .text) (h : Text.allBlank text = false) :
    (l.set text {}).validate = .ok (l.set text {}) := by
  have htargets : "" ∉ ({} : Settings).publish.targets := by decide
  have htarget : Text.allBlank ({} : Settings).build.wasmTarget = false := by decide
  have hworkflow : Text.allBlank ({} : Settings).ci.workflow = false := by decide
  refine validate_eq_ok_iff.2 ⟨⟨[("RUST_BACKTRACE", "full")], ?_⟩, ?_, ?_, ?_⟩
  · cases l <;> exact environment_default
  · cases l <;> exact htargets
  · cases l with
    | wasmTarget => exact h
    | _ => exact htarget
  · cases l with
    | workflow => exact h
    | _ => exact hworkflow

theorem place_text_not_mem (l : Leaf .text) : l.place ∉ listPlaces := by
  cases l <;> decide

theorem load_text (l : Leaf .text) (h : Text.allBlank text = false) :
    load tree none [(l.varName, text)] = .ok (l.set ((scalarText? text).getD text) {}) := by
  have hword : Text.allBlank ((scalarText? text).getD text) = false := by
    cases hs : scalarText? text with
    | none => exact h
    | some word => exact allBlank_of_scalarText? hs
  rw [load_varName l (toText?_variableValue (place_text_not_mem l) text),
    validate_set_text l hword]

/-- A text that is not blank is set as it is written, unless it reads as a truth value or a number
and is spelled in another way than this is written out. -/
theorem load_respelled (l : Leaf .text) (h : Text.allBlank text = false) :
    load tree none [(l.varName, text)] = .ok (l.set ((scalarText? text).getD text) {}) ∧
      (load tree none [(l.varName, text)] = .ok (l.set text {}) ↔
        ∀ word, scalarText? text = some word → word = text) := by
  refine ⟨load_text l h, ?_⟩
  rw [load_text l h]
  constructor
  · intro hl word hs
    have hget := congrArg (l.get ·) (Except.ok.inj hl)
    simpa only [Leaf.get_set, hs, Option.getD_some] using hget
  · intro hs
    cases hw : scalarText? text with
    | none => rfl
    | some word => rw [Option.getD_some, hs word hw]

theorem load_respelled_version :
    Text.allBlank "1.80" = false ∧
      load {} none [("MPLE__CI__TOOLCHAIN", "1.80")] = .ok { ci := { toolchain := "1.8" } } := by
  have hblank : Text.allBlank "1.80" = false := by decide
  have hname : Leaf.toolchain.varName = "MPLE__CI__TOOLCHAIN" := by decide
  have hword : scalarText? "1.80" = some "1.8" := by decide
  have hload : load {} none [(Leaf.toolchain.varName, "1.80")] = _ :=
    (load_respelled .toolchain hblank).1
  rw [hname, hword] at hload
  exact ⟨hblank, hload⟩

/-- Not every text is set as it is written. -/
theorem not_load_verbatim :
    ¬ ∀ (l : Leaf .text) (text : String), Text.allBlank text = false →
      load {} none [(l.varName, text)] = .ok (l.set text {}) := by
  intro h
  have hword : scalarText? "1.80" = some "1.8" := by decide
  have hblank : Text.allBlank "1.80" = false := by decide
  have hset := (load_text .toolchain hblank).symm.trans (h .toolchain "1.80" hblank)
  rw [hword] at hset
  have htoolchain := congrArg (Leaf.toolchain.get ·) (Except.ok.inj hset)
  exact absurd htoolchain (by decide)

/-! ### Lists -/

theorem toTexts?_strings (items : List String) :
    toTexts? (.list (items.map .string)) = some items := by
  rw [toTexts?, List.mapM_map]
  exact List.mapM_pure.trans (by simp)

theorem place_mem_listPlaces {l : Leaf .texts} (h : l ≠ .components) : l.place ∈ listPlaces := by
  cases l with
  | components => exact absurd rfl h
  | _ => decide

theorem place_components_not_mem : Leaf.components.place ∉ listPlaces := by
  decide

section
variable {items : List String}

theorem load_texts (l : Leaf .texts) (hl : l ≠ .components) (hne : items ≠ [])
    (hcomma : ∀ item ∈ items, ',' ∉ item.toList)
    (hscalar : scalarText? (",".intercalate items) = none) :
    load tree none [(l.varName, ",".intercalate items)] = (l.set items {}).validate := by
  refine load_varName l ?_
  have hsplit : Text.splitOn ',' (",".intercalate items) = items :=
    Text.splitOn_intercalate hne hcomma
  rw [variableValue_of_scalarText?_eq_none hscalar, if_pos (place_mem_listPlaces hl), hsplit]
  exact toTexts?_strings items

theorem load_components (hscalar : scalarText? text = none) :
    load tree none [(Leaf.components.varName, text)] = .error
      ⟨.settings "a value has the wrong type", some "Failed to deserialize settings"⟩ := by
  refine load_varName_of_read_eq_none .components ?_
  rw [variableValue_of_scalarText?_eq_none hscalar, if_neg place_components_not_mem]
  rfl

/-- A list that is usable comes back from its items joined at commas, but for the components of the
toolchain: their variable is not cut, and a text is no list. -/
theorem load_joined (l : Leaf .texts) (hne : items ≠ [])
    (hcomma : ∀ item ∈ items, ',' ∉ item.toList)
    (hscalar : scalarText? (",".intercalate items) = none)
    (hvalid : (l.set items {}).validate = .ok (l.set items {})) :
    (l ≠ .components →
        load tree none [(l.varName, ",".intercalate items)] = .ok (l.set items {})) ∧
      (l = .components →
        load tree none [(l.varName, ",".intercalate items)] = .error
          ⟨.settings "a value has the wrong type", some "Failed to deserialize settings"⟩) := by
  refine ⟨fun hl => ?_, ?_⟩
  · rw [load_texts l hl hne hcomma hscalar, hvalid]
  · rintro rfl
    exact load_components hscalar

theorem load_joined_two :
    load {} none [("MPLE__CI__BRANCHES", "main,dev")] =
        .ok { ci := { branches := ["main", "dev"] } } ∧
      load {} none [("MPLE__CI__COMPONENTS", "main,dev")] = .error
        ⟨.settings "a value has the wrong type", some "Failed to deserialize settings"⟩ := by
  have hcomma : ∀ item ∈ ["main", "dev"], ',' ∉ item.toList := by decide
  have hscalar : scalarText? (",".intercalate ["main", "dev"]) = none := by decide
  have hvalid : ∀ l : Leaf .texts, l = .branches ∨ l = .components →
      (l.set ["main", "dev"] {}).validate = .ok (l.set ["main", "dev"] {}) := by
    rintro l (rfl | rfl) <;> rfl
  have hbranches : Leaf.branches.varName = "MPLE__CI__BRANCHES" := by decide
  have hcomponents : Leaf.components.varName = "MPLE__CI__COMPONENTS" := by decide
  have hjoined : ",".intercalate ["main", "dev"] = "main,dev" := by decide
  have hload : load {} none [(Leaf.branches.varName, ",".intercalate ["main", "dev"])] = _ :=
    (load_joined .branches (by simp) hcomma hscalar (hvalid _ (.inl rfl))).1 nofun
  have hload' : load {} none [(Leaf.components.varName, ",".intercalate ["main", "dev"])] = _ :=
    (load_joined .components (by simp) hcomma hscalar (hvalid _ (.inr rfl))).2 rfl
  rw [hbranches, hjoined] at hload
  rw [hcomponents, hjoined] at hload'
  exact ⟨hload, hload'⟩

/-- Not every list can be set by its variable. -/
theorem not_load_list :
    ¬ ∀ (l : Leaf .texts) (items : List String), items ≠ [] →
      (∀ item ∈ items, item ≠ "" ∧ ',' ∉ item.toList) →
      scalarText? (",".intercalate items) = none →
      (l.set items {}).validate = .ok (l.set items {}) →
      load {} none [(l.varName, ",".intercalate items)] = .ok (l.set items {}) := by
  intro h
  have hscalar : scalarText? (",".intercalate ["rustfmt", "miri"]) = none := by decide
  have hset := (load_components hscalar).symm.trans
    (h .components ["rustfmt", "miri"] (by simp) (by decide) hscalar rfl)
  cases hset

end

end Slipway.Settings
