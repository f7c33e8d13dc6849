import Slipway.Proofs.Settings.Leaves
import Slipway.Proofs.Toml.Keys
import Mathlib.Data.List.TakeDrop
import Mathlib.Data.List.TakeWhile

/-!
# What stands at the places of a collected tree

A value put at a place is found there, and a place beside it holds what it held before. So the tree
that a document is collected into holds the values of the document (`at?_over_ofToml`), and values
that are collected for settings afterwards stand in front of what a tree held (`at?_collect`).
-/

namespace Slipway.Toml

/-- What stands at the place that keys lead to. -/
def Value.at? : List String → Value → Option Value
  | [], v => some v
  | key :: keys, .table entries => (entries.lookup key).bind (at? keys)
  | _ :: _, _ => none

end Slipway.Toml

namespace Slipway.Settings

variable {entries old : Entries} {key name : String} {keys keys' : List String} {t u new : Tree}

/-! ### Entries -/

theorem lookup_cons_of_ne {α : Type} {a : α} {rest : List (String × α)} (h : name ≠ key) :
    ((key, a) :: rest).lookup name = rest.lookup name := by
  rw [List.lookup_cons, beq_eq_false_iff_ne.2 h]

theorem lookup_eq_none {α : Type} {rest : List (String × α)} (h : name ∉ rest.map (·.1)) :
    rest.lookup name = none := by
  rw [List.lookup_eq_none_iff]
  intro e he
  simpa using fun hn : name = e.1 => h (hn ▸ List.mem_map_of_mem (f := (·.1)) he)

theorem lookup_map_snd {α β : Type} (f : α → β) (entries : List (String × α)) (key : String) :
    (entries.map fun e => (e.1, f e.2)).lookup key = (entries.lookup key).map f := by
  induction entries with
  | nil => rfl
  | cons e rest ih =>
    rw [List.map_cons, List.lookup_cons, List.lookup_cons, ih]
    split <;> rfl

theorem lookup_setEntry :
    (setEntry key t entries).lookup name = if name = key then some t else entries.lookup name := by
  induction entries with
  | nil =>
    split
    · next h => simp [setEntry, h]
    · next h => exact lookup_cons_of_ne h
  | cons e rest ih =>
    obtain ⟨k, u⟩ := e
    rw [setEntry]
    by_cases hk : k = key
    · subst hk
      by_cases hn : name = k
      · simp [hn]
      · simp [lookup_cons_of_ne hn, hn]
    · rw [if_neg hk]
      by_cases hn : name = k
      · subst hn
        simp [hk]
      · rw [lookup_cons_of_ne hn, lookup_cons_of_ne hn, ih]

/-- Entries that are added to those of a table stand in front of them. -/
theorem lookup_entriesOver (hn : (entries.map (·.1)).Nodup)
    (ho : ∀ e ∈ entries, old.lookup e.1 = none) :
    (entriesOver entries old).lookup name =
      ((entries.lookup name).map (·.over .nil)).or (old.lookup name) := by
  induction entries generalizing old with
  | nil => rfl
  | cons e rest ih =>
    obtain ⟨key, t⟩ := e
    obtain ⟨hkey, hrest⟩ := List.nodup_cons.1 hn
    have hold : old.lookup key = none := ho (key, t) List.mem_cons_self
    have hnew : ∀ e ∈ rest, (setEntry key (t.over .nil) old).lookup e.1 = none := by
      intro e he
      have hne : e.1 ≠ key := fun h => hkey (h ▸ List.mem_map_of_mem (f := (·.1)) he)
      rw [lookup_setEntry, if_neg hne]
      exact ho e (List.mem_cons_of_mem _ he)
    rw [entriesOver, hold, Option.getD_none, ih hrest hnew, lookup_setEntry]
    by_cases hk : name = key
    · subst hk
      simp [lookup_eq_none hkey]
    · rw [if_neg hk, lookup_cons_of_ne hk]

/-! ### Putting a value at a place -/

/-- Whether a tree is no table, so that it takes the place of whatever it is put in place of. -/
def Tree.Plain (t : Tree) : Prop :=
  ∀ entries, t ≠ .table entries

theorem Tree.Plain.over (h : new.Plain) (old : Tree) : new.over old = new := by
  cases new with
  | table entries => exact absurd rfl (h entries)
  | _ => rfl

/-- The place that keys lead to. -/
def path (keys : List String) : List Hop :=
  keys.map .key

theorem put_cons (key : String) (keys : List String) (t : Tree) :
    new.put (path (key :: keys)) t =
      .table (setEntry key (new.put (path keys) ((t.entries.lookup key).getD .nil)) t.entries) :=
  rfl

theorem at?_put (h : new.Plain) (keys : List String) (t : Tree) :
    (new.put (path keys) t).at? keys = some new := by
  induction keys generalizing t with
  | nil => exact congrArg some (h.over t)
  | cons key keys ih =>
    rw [put_cons, Tree.at?, Tree.entries, lookup_setEntry, if_pos rfl]
    exact ih _

theorem at?_put_of_not_prefix (h : ¬ keys <+: keys') (h' : ¬ keys' <+: keys) (t : Tree) :
    (new.put (path keys) t).at? keys' = t.at? keys' := by
  induction keys generalizing keys' t with
  | nil => exact absurd List.nil_prefix h
  | cons key keys ih =>
    cases keys' with
    | nil => exact absurd List.nil_prefix h'
    | cons name keys' =>
      rw [put_cons, Tree.at?, Tree.at?, Tree.entries, lookup_setEntry]
      split
      · next hk =>
        subst hk
        have hne : ¬ keys' <+: keys := fun hp => h' (List.cons_prefix_cons.2 ⟨rfl, hp⟩)
        rw [Option.bind_some, ih (fun hp => h (List.cons_prefix_cons.2 ⟨rfl, hp⟩)) hne]
        cases t.entries.lookup name with
        | none =>
          -- a missing table has nothing at the place either
          cases keys' with
          | nil => exact absurd List.nil_prefix hne
          | cons _ _ => rfl
        | some u => rfl
      · rfl

/-- A setting that is put into a tree leaves the sections tables. -/
theorem Sectioned.put {k : Kind} (ht : Sectioned t) (l : Leaf k) :
    Sectioned (new.put (path l.keys) t) := by
  obtain ⟨head, rest, hkeys, hrest⟩ :
      ∃ head rest, l.keys = head :: rest ∧ (rest = [] → head ∉ sectionNames) := by
    rcases l.keys_cases with h | ⟨s, -, key, h⟩
    · exact ⟨_, _, h, fun _ => by decide⟩
    · exact ⟨_, _, h, nofun⟩
  rw [hkeys, put_cons]
  refine ⟨⟨_, rfl⟩, fun name hn u hu => ?_⟩
  rw [Tree.entries, lookup_setEntry] at hu
  split at hu
  · next he =>
    subst he
    cases rest with
    | nil => exact absurd hn (hrest rfl)
    | cons key rest => exact ⟨_, (Option.some.inj hu).symm⟩
  · exact ht.sections name hn u hu

/-! ### Documents -/

/-- Whether a key describes the place that holds just this key. -/
def IsPlainKey (key : String) : Prop :=
  key ≠ "" ∧ ∀ c ∈ key.toList, isNameChar c = true

theorem placeOf_of_isPlainKey (h : IsPlainKey key) : placeOf key = path [key] := by
  have htake : key.toList.takeWhile isNameChar = key.toList := List.takeWhile_eq_self_iff.2 h.2
  have hdrop : key.toList.dropWhile isNameChar = [] := List.dropWhile_eq_nil_iff.2 h.2
  have hplace : place? key = some (path [key]) := by
    simp [place?, List.span_eq_takeWhile_dropWhile, htake, hdrop, h.1, hops?, path]
  rw [placeOf, hplace]
  rfl

theorem collect_cons (e : String × Tree) (entries : Entries) (t : Tree) :
    collect (e :: entries) t = collect entries (e.2.put (placeOf e.1) t) :=
  rfl

theorem collect_eq_over (h : ∀ e ∈ entries, IsPlainKey e.1) (old : Entries) :
    collect entries (.table old) = (Tree.table entries).over (.table old) := by
  induction entries generalizing old with
  | nil => rfl
  | cons e rest ih =>
    rw [collect_cons, placeOf_of_isPlainKey (h e List.mem_cons_self), put_cons]
    exact ih (fun e he => h e (List.mem_cons_of_mem _ he)) _

theorem entriesOfToml_eq_map (table : Toml.Table) :
    entriesOfToml table = table.map fun e => (e.1, Tree.ofToml e.2) := by
  induction table with
  | nil => rfl
  | cons e rest ih => rw [entriesOfToml, ih]; rfl

/-- A tree that a document is collected into holds what the document holds. -/
theorem at?_over_ofToml {v : Toml.Value} (h : v.Distinct) (keys : List String) :
    ((Tree.ofToml v).over .nil).at? keys =
      (v.at? keys).map fun w => (Tree.ofToml w).over .nil := by
  induction keys generalizing v with
  | nil => rfl
  | cons key keys ih =>
    cases h with
    | plain ha ht =>
      cases v <;>
        simp_all [Tree.ofToml, Tree.over, Tree.at?, Tree.entries, Toml.Value.at?]
    | array => rfl
    | @table entries hn hb =>
      have hn' : ((entries.map fun e => (e.1, Tree.ofToml e.2)).map (·.1)).Nodup := by
        simpa [Function.comp_def] using hn
      have hover : (Tree.ofToml (.table entries)).over .nil =
          .table (entriesOver (entries.map fun e => (e.1, Tree.ofToml e.2)) []) := by
        rw [Tree.ofToml, Tree.over, entriesOfToml_eq_map]; rfl
      rw [hover, Tree.at?, Tree.entries, lookup_entriesOver hn' (fun _ _ => rfl), lookup_map_snd,
        Toml.Value.at?]
      cases hl : entries.lookup key with
      | none => rfl
      | some w =>
        obtain ⟨before, after, rfl, -⟩ := List.lookup_eq_some_iff.1 hl
        exact ih (hb (key, w) (by simp))

/-! ### Settings -/

/-- Whether entries give settings plain values, at most one for each. -/
structure GivesLeaves (entries : Entries) : Prop where
  leaf : ∀ e ∈ entries, e.2.Plain ∧ ∃ k, ∃ l : Leaf k, e.1 = l.place
  nodup : (entries.map (·.1)).Nodup

theorem placeOf_place {k : Kind} (l : Leaf k) : placeOf l.place = path l.keys := by
  cases l <;> decide

theorem keys_eq_of_place_eq {k k' : Kind} {l : Leaf k} {m : Leaf k'} (h : l.place = m.place) :
    l.keys = m.keys := by
  have hp : path l.keys = path m.keys := by
    rw [← placeOf_place, ← placeOf_place, h]
  exact (List.map_inj_right fun _ _ he => Hop.key.inj he).1 hp

theorem Sectioned.collect (ht : Sectioned t) (h : ∀ e ∈ entries, ∃ k, ∃ l : Leaf k, e.1 = l.place) :
    Sectioned (collect entries t) := by
  induction entries generalizing t with
  | nil => exact ht
  | cons e rest ih =>
    obtain ⟨k, l, he⟩ := h e List.mem_cons_self
    rw [collect_cons, he, placeOf_place]
    exact ih (ht.put l) fun e he => h e (List.mem_cons_of_mem _ he)

/-- Values that are collected for settings stand in front of what the tree held. -/
theorem at?_collect (h : GivesLeaves entries) {k : Kind} (l : Leaf k) (t : Tree) :
    (collect entries t).at? l.keys = (entries.lookup l.place).or (t.at? l.keys) := by
  induction entries generalizing t with
  | nil => rfl
  | cons e rest ih =>
    obtain ⟨place, new⟩ := e
    obtain ⟨hplain, k', m, rfl⟩ := h.leaf _ List.mem_cons_self
    obtain ⟨hnew, hnodup⟩ := List.nodup_cons.1 h.nodup
    have hrest : GivesLeaves rest := ⟨fun e he => h.leaf e (List.mem_cons_of_mem _ he), hnodup⟩
    rw [collect_cons, placeOf_place, ih hrest]
    by_cases hp : l.place = m.place
    · rw [hp, lookup_eq_none hnew, keys_eq_of_place_eq hp, at?_put hplain]
      simp
    · have hk : l.keys ≠ m.keys := fun he => hp (congrArg ".".intercalate he)
      rw [lookup_cons_of_ne hp,
        at?_put_of_not_prefix (Leaf.not_keys_prefix hk.symm) (Leaf.not_keys_prefix hk)]

end Slipway.Settings
