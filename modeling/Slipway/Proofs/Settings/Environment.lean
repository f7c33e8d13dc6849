import Slipway.Proofs.Text.Separators
import Slipway.Proofs.Text.Trimming
import Slipway.Settings.Basic
import Mathlib.Data.List.Forall2

/-!
# The variables of the environment

An entry gives a variable if there is more than blanks before its first equals sign
(`IsVariable`): what stands there, trimmed, is the key, and all that follows is the value (`Gives`).
The environment is read entry by entry (`environment_eq_ok_iff`) up to the first one that gives no
variable (`environment_eq_error_iff`), so it is read as a whole or not at all. Keys that are read
need no trimming and hold no equals sign (`IsKey`), and variables with such keys are read back from
the entries that they are written as.
-/

namespace Slipway.Settings

variable {entry key : String} {v : String × String}
  {entries : List String} {vars : List (String × String)} {f : Failure}

/-! ### One entry -/

/-- Whether a text can be the key of a variable. -/
structure IsKey (key : String) : Prop where
  nonempty : key ≠ ""
  trimmed : Text.Trimmed key
  noEquals : '=' ∉ key.toList

/-- Whether an entry gives a variable: there is more than blanks before its first equals sign. -/
def IsVariable (entry : String) : Prop :=
  ∃ name value, entry = name ++ "=" ++ value ∧ '=' ∉ name.toList ∧ Text.allBlank name = false

/-- Whether an entry gives this variable. -/
def Gives (entry : String) (v : String × String) : Prop :=
  ∃ name, entry = name ++ "=" ++ v.2 ∧ '=' ∉ name.toList ∧ Text.allBlank name = false ∧
    v.1 = Text.trim name

/-- What is said of an entry that gives no variable. -/
def complaint (entry : String) : Failure :=
  if '=' ∈ entry.toList then
    ⟨.invalidConfiguration s!"env entry '{entry}' has an empty key", none⟩
  else ⟨.invalidConfiguration s!"env entry '{entry}' is not KEY=VALUE", none⟩

theorem isVariable_iff : IsVariable entry ↔ ∃ v, Gives entry v := by
  constructor
  · rintro ⟨name, value, he, hname, hblank⟩
    exact ⟨(Text.trim name, value), name, he, hname, hblank, rfl⟩
  · rintro ⟨v, name, he, hname, hblank, -⟩
    exact ⟨name, v.2, he, hname, hblank⟩

theorem splitFirst?_equals (entry : String) :
    (Text.splitFirst? '=' entry = none ∧ '=' ∉ entry.toList) ∨
      ∃ name value, Text.splitFirst? '=' entry = some (name, value) ∧
        entry = name ++ "=" ++ value ∧ '=' ∉ name.toList := by
  cases h : Text.splitFirst? '=' entry with
  | none => exact .inl ⟨rfl, Text.splitFirst?_eq_none_iff.1 h⟩
  | some parts =>
    obtain ⟨name, value⟩ := parts
    exact .inr ⟨name, value, rfl, Text.splitFirst?_eq_some_iff.1 h⟩

theorem envEntry_of_gives (h : Gives entry v) : envEntry entry = .ok v := by
  obtain ⟨name, rfl, hname, hblank, hkey⟩ := h
  have hcut : Text.splitFirst? '=' (name ++ "=" ++ v.2) = some (name, v.2) :=
    Text.splitFirst?_eq_some_iff.2 ⟨rfl, hname⟩
  have hne : ¬ (Text.trim name).isEmpty = true := by
    rw [String.isEmpty_iff, Text.trim_eq_empty_iff, hblank]
    exact Bool.false_ne_true
  rw [envEntry]
  simp only [hcut]
  rw [if_neg hne, ← hkey]

theorem envEntry_of_not_isVariable (h : ¬ IsVariable entry) :
    envEntry entry = .error (complaint entry) := by
  rw [envEntry, complaint]
  rcases splitFirst?_equals entry with ⟨hcut, hmem⟩ | ⟨name, value, hcut, he, hname⟩
  · simp only [hcut, if_neg hmem]
  · have hblank : Text.allBlank name = true :=
      eq_true_of_ne_false fun hb => h ⟨name, value, he, hname, hb⟩
    have hempty : (Text.trim name).isEmpty = true := by
      rw [String.isEmpty_iff, Text.trim_eq_empty_iff, hblank]
    have hmem : '=' ∈ entry.toList := by
      rw [he]
      simp
    simp only [hcut, if_pos hempty, if_pos hmem]

theorem envEntry_eq_ok_iff : envEntry entry = .ok v ↔ Gives entry v := by
  refine ⟨fun h => ?_, envEntry_of_gives⟩
  by_cases hv : IsVariable entry
  · obtain ⟨w, hw⟩ := isVariable_iff.1 hv
    rw [envEntry_of_gives hw] at h
    rw [← Except.ok.inj h]
    exact hw
  · rw [envEntry_of_not_isVariable hv] at h
    cases h

theorem Gives.isKey (h : Gives entry v) : IsKey v.1 := by
  obtain ⟨name, -, hname, hblank, hkey⟩ := h
  rw [hkey]
  refine ⟨fun he => ?_, Text.trimmed_trim name, fun hmem => hname ?_⟩
  · rw [Text.trim_eq_empty_iff, hblank] at he
    cases he
  · rw [Text.trim, String.toList_ofList] at hmem
    exact Text.mem_of_mem_trimBy hmem

theorem IsKey.gives (h : IsKey key) (value : String) :
    Gives (key ++ "=" ++ value) (key, value) := by
  have htrim : Text.trim key = key := Text.trim_eq_self_iff.2 h.trimmed
  have hblank : ¬ Text.allBlank key = true := by
    rw [← Text.trim_eq_empty_iff, htrim]
    exact h.nonempty
  exact ⟨key, rfl, h.noEquals, eq_false_of_ne_true hblank, htrim.symm⟩

/-! ### All entries -/

theorem envEntries_eq_ok_iff :
    envEntries entries = .ok vars ↔ List.Forall₂ Gives entries vars := by
  induction entries generalizing vars with
  | nil =>
    rw [envEntries, List.forall₂_nil_left_iff, Except.ok.injEq]
    exact eq_comm
  | cons entry rest ih =>
    rw [envEntries, List.forall₂_cons_left_iff]
    simp only [← envEntry_eq_ok_iff, ← ih]
    cases envEntry entry with
    | error f => simp
    | ok v =>
      cases envEntries rest with
      | error f => simp [Except.map]
      | ok vars => simp [Except.map, eq_comm]

theorem forall_of_gives (h : List.Forall₂ Gives entries vars) :
    (∀ entry ∈ entries, IsVariable entry) ∧ ∀ v ∈ vars, IsKey v.1 := by
  induction h with
  | nil => exact ⟨List.forall_mem_nil _, List.forall_mem_nil _⟩
  | cons hv _ ih =>
    exact ⟨List.forall_mem_cons.2 ⟨isVariable_iff.2 ⟨_, hv⟩, ih.1⟩,
      List.forall_mem_cons.2 ⟨hv.isKey, ih.2⟩⟩

theorem envEntries_eq_error_iff :
    envEntries entries = .error f ↔ ∃ before entry later, entries = before ++ entry :: later ∧
      (∀ e ∈ before, IsVariable e) ∧ ¬ IsVariable entry ∧ f = complaint entry := by
  induction entries with
  | nil =>
    refine ⟨nofun, ?_⟩
    rintro ⟨before, entry, later, h, -⟩
    exact absurd h (by simp)
  | cons entry rest ih =>
    rw [envEntries]
    -- a good entry lies before the bad one, and a bad one is the first itself
    by_cases hv : IsVariable entry
    · obtain ⟨v, hgives⟩ := isVariable_iff.1 hv
      have hmap : (envEntries rest).map (v :: ·) = .error f ↔ envEntries rest = .error f := by
        cases envEntries rest <;> simp [Except.map]
      simp only [envEntry_of_gives hgives]
      rw [hmap, ih]
      constructor
      · rintro ⟨before, e, later, rfl, hbefore, he⟩
        exact ⟨entry :: before, e, later, rfl, List.forall_mem_cons.2 ⟨hv, hbefore⟩, he⟩
      · rintro ⟨before, e, later, h, hbefore, he⟩
        rcases before with _ | ⟨b, before⟩
        · obtain ⟨rfl, -⟩ := List.cons.inj h
          exact absurd hv he.1
        · obtain ⟨rfl, rfl⟩ := List.cons.inj h
          exact ⟨before, e, later, rfl, (List.forall_mem_cons.1 hbefore).2, he⟩
    · simp only [envEntry_of_not_isVariable hv, Except.error.injEq]
      constructor
      · rintro rfl
        exact ⟨[], entry, rest, rfl, List.forall_mem_nil _, hv, rfl⟩
      · rintro ⟨before, e, later, h, hbefore, he⟩
        rcases before with _ | ⟨b, before⟩
        · obtain ⟨rfl, -⟩ := List.cons.inj h
          exact he.2.symm
        · obtain ⟨rfl, -⟩ := List.cons.inj h
          exact absurd (hbefore _ List.mem_cons_self) hv

/-- Variables with proper keys are read back from the entries that they are written as. The
environment is read if and only if each entry has more than blanks before its first equals sign;
then every entry gives one variable, in order, with a proper key and the text after the first equals
sign for its value. Otherwise there is a first entry that gives none, and the failure names it; the
settings are then refused with this failure. -/
theorem environment_reads (s : Settings) :
    (∀ vars : List (String × String), (∀ v ∈ vars, IsKey v.1) →
      s.env = vars.map (fun v => v.1 ++ "=" ++ v.2) → s.environment = .ok vars) ∧
    ((∃ vars, s.environment = .ok vars) ↔ ∀ entry ∈ s.env, IsVariable entry) ∧
    (∀ vars, s.environment = .ok vars →
      List.Forall₂ Gives s.env vars ∧ ∀ v ∈ vars, IsKey v.1) ∧
    ∀ f, s.environment = .error f →
      (∃ before entry later, s.env = before ++ entry :: later ∧
        (∀ e ∈ before, IsVariable e) ∧ ¬ IsVariable entry ∧
        ('=' ∉ entry.toList →
          f = ⟨.invalidConfiguration s!"env entry '{entry}' is not KEY=VALUE", none⟩) ∧
        ('=' ∈ entry.toList →
          f = ⟨.invalidConfiguration s!"env entry '{entry}' has an empty key", none⟩)) ∧
      s.validate = .error f := by
  refine ⟨fun vars hkeys henv => ?_, ⟨?_, fun h => ?_⟩, fun vars h => ?_, fun f h => ⟨?_, ?_⟩⟩
  · rw [environment, henv, envEntries_eq_ok_iff, List.forall₂_map_left_iff]
    exact List.forall₂_same.2 fun v hv => (hkeys v hv).gives v.2
  · rintro ⟨vars, h⟩
    exact (forall_of_gives (envEntries_eq_ok_iff.1 h)).1
  · cases hs : s.environment with
    | ok vars => exact ⟨vars, rfl⟩
    | error f =>
      obtain ⟨before, entry, later, henv, -, hv, -⟩ := envEntries_eq_error_iff.1 hs
      exact absurd (h entry (by rw [henv]; simp)) hv
  · have hgives : List.Forall₂ Gives s.env vars := envEntries_eq_ok_iff.1 h
    exact ⟨hgives, (forall_of_gives hgives).2⟩
  · obtain ⟨before, entry, later, henv, hbefore, hv, rfl⟩ := envEntries_eq_error_iff.1 h
    exact ⟨before, entry, later, henv, hbefore, hv, fun hm => if_neg hm, fun hm => if_pos hm⟩
  · rw [validate, h]

/-- Values keep their blanks and equals signs when they are read back, and of two bad entries the
first is the one that is named. -/
theorem environment_reads_both :
    (⟨["RUSTFLAGS=--cfg a=b", "KEY= "], {}, {}, {}, {}⟩ : Settings).environment =
        .ok [("RUSTFLAGS", "--cfg a=b"), ("KEY", " ")] ∧
      (⟨["A=1", " =full", "B"], {}, {}, {}, {}⟩ : Settings).validate =
        .error ⟨.invalidConfiguration "env entry ' =full' has an empty key", none⟩ := by
  have hkey {key : String} (hne : key ≠ "") (htrim : Text.trim key = key)
      (hequals : '=' ∉ key.toList) : IsKey key :=
    ⟨hne, Text.trim_eq_self_iff.1 htrim, hequals⟩
  constructor
  · refine (environment_reads _).1 [("RUSTFLAGS", "--cfg a=b"), ("KEY", " ")] ?_ (by decide +kernel)
    refine List.forall_mem_cons.2 ⟨?_, List.forall_mem_singleton.2 ?_⟩
    · exact hkey (by decide) (by decide +kernel) (by decide)
    · exact hkey (by decide) (by decide +kernel) (by decide)
  · exact ((environment_reads _).2.2.2 _ rfl).2

end Slipway.Settings
