import Slipway.Toml.Parser
import Mathlib.Data.List.Nodup

/-!
# Keys of a document

The keys of each table in a document are distinct, at the top as in every table below
(`distinct_of_parse?`), so a look-up finds the only value of a key.

A table only changes by `setItem`, which keeps a key in its old place, and a table can only be
reached through items that have this property themselves, so it goes down every path of `updateAt?`.
Values have it since an inline table is built in the same way.
-/

namespace Slipway.Toml

/-- Whether the keys of every table in a value are distinct. -/
inductive Value.Distinct : Value → Prop where
  | plain {v : Value} : (∀ items, v ≠ .array items) → (∀ entries, v ≠ .table entries) → v.Distinct
  | array {items : List Value} : (∀ v ∈ items, v.Distinct) → (Value.array items).Distinct
  | table {entries : Table} : (entries.map (·.1)).Nodup → (∀ e ∈ entries, e.2.Distinct) →
      (Value.table entries).Distinct

/-- Whether the keys of every table in an item are distinct. -/
inductive Item.Distinct : Item → Prop where
  | value {v : Value} : v.Distinct → (Item.value v).Distinct
  | table {o : Origin} {entries : Items} : (entries.map (·.1)).Nodup →
      (∀ e ∈ entries, e.2.Distinct) → (Item.table o entries).Distinct
  | tables {elements : List Items} : (∀ entries ∈ elements, (entries.map (·.1)).Nodup) →
      (∀ entries ∈ elements, ∀ e ∈ entries, e.2.Distinct) → (Item.tables elements).Distinct

/-- Whether the keys of a table in the making and of all tables in it are distinct. -/
structure DistinctItems (items : Items) : Prop where
  nodup : (items.map (·.1)).Nodup
  below : ∀ e ∈ items, e.2.Distinct

variable {items items' : Items} {item : Item} {key : String} {path : List String}
  {origin origin' : Origin} {v : Value}

/-! ### Finished tables -/

theorem finishItems_eq_map (items : Items) :
    finishItems items = items.map fun e => (e.1, e.2.finish) := by
  induction items with
  | nil => rfl
  | cons e rest ih => rw [finishItems, ih]; rfl

theorem finishElements_eq_map (elements : List Items) :
    finishElements elements = elements.map fun entries => .table (finishItems entries) := by
  induction elements with
  | nil => rfl
  | cons entries rest ih => rw [finishElements, ih]; rfl

theorem Value.Distinct.table_finishItems (hn : (items.map (·.1)).Nodup)
    (h : ∀ e ∈ items, e.2.finish.Distinct) : (Value.table (finishItems items)).Distinct := by
  rw [finishItems_eq_map]
  refine .table (by simpa [Function.comp_def] using hn) fun e he => ?_
  obtain ⟨i, hi, rfl⟩ := List.mem_map.1 he
  exact h i hi

theorem Item.Distinct.finish (h : item.Distinct) : item.finish.Distinct := by
  induction h with
  | value hv => exact hv
  | table hn _ ih => exact Value.Distinct.table_finishItems hn ih
  | @tables elements hn _ ih =>
    rw [Item.finish, finishElements_eq_map]
    refine .array fun v hv => ?_
    obtain ⟨entries, he, rfl⟩ := List.mem_map.1 (List.mem_reverse.1 hv)
    exact Value.Distinct.table_finishItems (hn entries he) (ih entries he)

theorem DistinctItems.finish (h : DistinctItems items) :
    (Value.table (finishItems items)).Distinct :=
  Value.Distinct.table_finishItems h.nodup fun e he => (h.below e he).finish

/-! ### Changes of a table -/

theorem distinctItems_nil : DistinctItems [] where
  nodup := List.nodup_nil
  below _ h := absurd h List.not_mem_nil

theorem mem_keys_setItem {k : String} :
    k ∈ (setItem key item items).map (·.1) ↔ k = key ∨ k ∈ items.map (·.1) := by
  induction items with
  | nil => simp [setItem]
  | cons e rest ih =>
    rw [setItem]
    split
    · next h => simp [h]
    · simp only [List.map_cons, List.mem_cons, ih]
      exact or_left_comm

namespace DistinctItems

theorem set (h : DistinctItems items) (hi : item.Distinct) :
    DistinctItems (setItem key item items) := by
  induction items with
  | nil => exact ⟨by simp [setItem], fun e he => by simp_all [setItem]⟩
  | cons e rest ih =>
    obtain ⟨hnot, hnodup⟩ := List.nodup_cons.1 h.nodup
    have hbelow := h.below e List.mem_cons_self
    have hrest : DistinctItems rest :=
      ⟨hnodup, fun e he => h.below e (List.mem_cons_of_mem _ he)⟩
    rw [setItem]
    split
    · next hk =>
      refine ⟨List.nodup_cons.2 ⟨hnot, hnodup⟩, fun e he => ?_⟩
      rcases List.mem_cons.1 he with rfl | he
      · exact hi
      · exact hrest.below e he
    · next hk =>
      have ih := ih hrest
      refine ⟨List.nodup_cons.2 ⟨fun hm => ?_, ih.nodup⟩, fun e he => ?_⟩
      · rcases mem_keys_setItem.1 hm with hm | hm
        · exact hk hm
        · exact hnot hm
      · rcases List.mem_cons.1 he with rfl | he
        · exact hbelow
        · exact ih.below e he

theorem lookup (h : DistinctItems items) (hl : items.lookup key = some item) : item.Distinct := by
  obtain ⟨before, after, rfl, -⟩ := List.lookup_eq_some_iff.1 hl
  exact h.below (key, item) (by simp)

theorem of_table (h : (Item.table origin items).Distinct) : DistinctItems items := by
  cases h with
  | table hn hb => exact ⟨hn, hb⟩

theorem table (h : DistinctItems items) : (Item.table origin items).Distinct :=
  .table h.nodup h.below

theorem tables_iff {elements : List Items} :
    (Item.tables elements).Distinct ↔ ∀ entries ∈ elements, DistinctItems entries := by
  constructor
  · intro h
    cases h with
    | tables hn hb => exact fun entries he => ⟨hn entries he, hb entries he⟩
  · exact fun h => .tables (fun entries he => (h entries he).nodup) fun entries he =>
      (h entries he).below

/-- A change of the table at a path keeps keys distinct if it does so for the table itself. -/
theorem updateAt {walk : Walk} {f : Origin → Items → Option (Origin × Items)}
    (hf : ∀ o items o' items', DistinctItems items → f o items = some (o', items') →
      DistinctItems items') (h : DistinctItems items)
    (hu : updateAt? walk f path origin items = some (origin', items')) :
    DistinctItems items' := by
  induction path generalizing origin items origin' items' with
  | nil => exact hf _ _ _ _ h hu
  | cons key path ih =>
    rw [updateAt?] at hu
    split at hu
    · obtain ⟨⟨o, inner⟩, hinner, he⟩ := Option.bind_eq_some_iff.1 hu
      cases he
      exact h.set (ih distinctItems_nil hinner).table
    · next o inner hl =>
      obtain ⟨o₁, -, hu⟩ := Option.bind_eq_some_iff.1 hu
      obtain ⟨⟨o₂, inner'⟩, hinner, he⟩ := Option.bind_eq_some_iff.1 hu
      cases he
      exact h.set (ih (of_table (h.lookup hl)) hinner).table
    · next last before hl =>
      obtain ⟨⟨o, last'⟩, hlast, he⟩ := Option.bind_eq_some_iff.1 hu
      cases he
      have hall := tables_iff.1 (h.lookup hl)
      refine h.set (tables_iff.2 fun entries he => ?_)
      rcases List.mem_cons.1 he with rfl | he
      · exact ih (hall last List.mem_cons_self) hlast
      · exact hall entries (List.mem_cons_of_mem _ he)
    · cases hu
    · cases hu

theorem defineTable (h : DistinctItems items)
    (hd : defineTable? path key items = some items') : DistinctItems items' := by
  obtain ⟨⟨o, top⟩, hu, rfl⟩ := Option.map_eq_some_iff.1 hd
  refine h.updateAt (fun o items o' items' hi hf => ?_) hu
  split at hf
  · cases hf
    exact hi.set distinctItems_nil.table
  · next inner hl =>
    cases hf
    exact hi.set (of_table (hi.lookup hl)).table
  · cases hf

theorem defineElement (h : DistinctItems items)
    (hd : defineElement? path key items = some items') : DistinctItems items' := by
  obtain ⟨⟨o, top⟩, hu, rfl⟩ := Option.map_eq_some_iff.1 hd
  refine h.updateAt (fun o items o' items' hi hf => ?_) hu
  split at hf
  · cases hf
    exact hi.set (tables_iff.2 fun entries he => List.mem_singleton.1 he ▸ distinctItems_nil)
  · next elements hl =>
    cases hf
    refine hi.set (tables_iff.2 fun entries he => ?_)
    rcases List.mem_cons.1 he with rfl | he
    · exact distinctItems_nil
    · exact tables_iff.1 (hi.lookup hl) entries he
  · cases hf

theorem defineKey {dialect : Dialect} {current : List String} (h : DistinctItems items)
    (hv : v.Distinct) (hd : defineKey? dialect current path key v items = some items') :
    DistinctItems items' := by
  obtain ⟨⟨o, top⟩, hu, rfl⟩ := Option.map_eq_some_iff.1 hd
  refine h.updateAt (fun o items o' items' hi hf => ?_) hu
  obtain ⟨⟨o₁, items₁⟩, hinner, he⟩ := Option.map_eq_some_iff.1 hf
  cases he
  refine hi.updateAt (fun o inner o' inner' hi hf => ?_) hinner
  split at hf
  · cases hf
  · split at hf
    · cases hf
      exact hi.set (.value hv)
    · cases hf

end DistinctItems

/-! ### Values -/

section
variable {α β : Type} {P : β → Prop} {o : Option α}

theorem forall_mem_bind {f : α → Option β} (h : ∀ a ∈ o, ∀ b ∈ f a, P b) :
    ∀ b ∈ o.bind f, P b := by
  intro b hb
  obtain ⟨a, ha, hb⟩ := Option.bind_eq_some_iff.1 hb
  exact h a ha b hb

theorem forall_mem_map {f : α → β} (h : ∀ a ∈ o, P (f a)) : ∀ b ∈ o.map f, P b := by
  intro b hb
  obtain ⟨a, ha, rfl⟩ := Option.map_eq_some_iff.1 hb
  exact h a ha

theorem forall_mem_some {b : β} (h : P b) : ∀ b' ∈ some b, P b' := by
  rintro b' ⟨⟩
  exact h

theorem forall_mem_ite {p : Prop} [Decidable p] {o o' : Option β} (h : ∀ b ∈ o, P b)
    (h' : ∀ b ∈ o', P b) : ∀ b ∈ if p then o else o', P b := by
  split
  · exact h
  · exact h'

end

/-- Whether a reader only returns values whose tables have distinct keys. -/
def Reader.Distinct (read : Reader) : Prop :=
  ∀ cs, ∀ r ∈ read cs, r.1.Distinct

theorem distinct_bounded (n : Int) : (bounded n).Distinct := by
  rw [bounded]
  split <;> exact .plain nofun nofun

theorem distinct_of_mem_integer? (cs : Rest) : ∀ v ∈ integer? cs, v.Distinct := by
  have hradix : ∀ (base : Nat) (cs : Rest),
      ∀ v ∈ (if cs.isEmpty then some .unreadable
        else ((underscored? base cs).bind (Number.digits? base)).map fun n => bounded n),
        v.Distinct := by
    intro base cs
    split
    · exact forall_mem_some (.plain nofun nofun)
    · exact forall_mem_map fun n _ => distinct_bounded n
  unfold integer?
  split
  · exact hradix 16 _
  · exact hradix 8 _
  · exact hradix 2 _
  · exact forall_mem_map fun n _ => distinct_bounded _

theorem distinct_of_mem_float? (cs : Rest) : ∀ v ∈ float? cs, v.Distinct := by
  have hnumber : ∀ x : Number.Binary64,
      ∀ v ∈ some (if x.isInfinite then Value.unreadable else .float x), v.Distinct := by
    intro x
    refine forall_mem_some ?_
    split <;> exact .plain nofun nofun
  unfold float?
  simp only [Option.bind_eq_bind]
  refine forall_mem_ite (forall_mem_some (.plain nofun nofun)) ?_
  refine forall_mem_ite (forall_mem_some (.plain nofun nofun)) ?_
  refine forall_mem_ite nofun ?_
  -- with and without a fraction, with and without an exponent
  repeat' first
    | exact hnumber _
    | refine forall_mem_bind fun _ _ => ?_
    | split

theorem distinct_of_mem_scalar? (cs : Rest) : ∀ v ∈ scalar? cs, v.Distinct := by
  unfold scalar?
  split
  · exact forall_mem_some (.plain nofun nofun)
  split
  · exact forall_mem_some (.plain nofun nofun)
  split
  · next v hv => exact forall_mem_some (distinct_of_mem_integer? cs v hv)
  split
  · next v hv => exact forall_mem_some (distinct_of_mem_float? cs v hv)
  split
  · exact forall_mem_some (.plain nofun nofun)
  split
  · exact forall_mem_some (.plain nofun nofun)
  · exact nofun

theorem distinct_bare? : Reader.Distinct bare? := by
  intro cs
  have hscalar : ∀ text rest, ∀ r ∈ (scalar? text).map fun v => (v, (rest : Rest)),
      r.1.Distinct :=
    fun text rest => forall_mem_map fun v hv => distinct_of_mem_scalar? text v hv
  unfold bare?
  simp only
  split
  · split <;> exact hscalar _ _
  · exact hscalar _ _

section
variable {read : Reader}

theorem distinct_of_mem_elements? (hr : Reader.Distinct read) (fuel : Nat) (cs : Rest) :
    ∀ r ∈ elements? read fuel cs, ∀ v ∈ r.1, v.Distinct := by
  induction fuel generalizing cs with
  | zero => exact nofun
  | succ fuel ih =>
    rw [elements?]
    refine forall_mem_bind fun cs₁ _ => ?_
    split
    · exact forall_mem_some nofun
    · refine forall_mem_bind fun (v, rest) hv => forall_mem_bind fun cs₂ _ => ?_
      have hfirst : v.Distinct := hr _ _ hv
      split
      · refine forall_mem_bind fun (vs, rest) hvs => forall_mem_some fun w hw => ?_
        rcases List.mem_cons.1 hw with rfl | hw
        · exact hfirst
        · exact ih _ _ hvs w hw
      · exact forall_mem_some fun w hw => List.mem_singleton.1 hw ▸ hfirst
      · exact nofun

theorem distinctItems_of_mem_entries? (hr : Reader.Distinct read) (fuel : Nat) (cs : Rest)
    (hi : DistinctItems items) : ∀ r ∈ entries? read fuel items cs, DistinctItems r.1 := by
  induction fuel generalizing cs items with
  | zero => exact nofun
  | succ fuel ih =>
    rw [entries?]
    refine forall_mem_bind fun cs₁ _ => ?_
    split
    · exact forall_mem_some hi
    · refine forall_mem_bind fun ((path, name), rest) _ => forall_mem_bind fun _ _ => ?_
      refine forall_mem_bind fun (v, rest) hv => forall_mem_bind fun items₁ hd => ?_
      have hi₁ : DistinctItems items₁ := hi.defineKey (hr _ _ hv) hd
      refine forall_mem_bind fun cs₂ _ => ?_
      split
      · exact ih _ hi₁
      · exact forall_mem_some hi₁
      · exact nofun

end

theorem distinct_value? (depth : Nat) : Reader.Distinct (value? depth) := by
  induction depth with
  | zero =>
    intro cs
    unfold value?
    split
    · exact forall_mem_map fun _ _ => .plain nofun nofun
    · exact forall_mem_map fun _ _ => .plain nofun nofun
    · exact nofun
    · exact nofun
    · exact distinct_bare? _
  | succ depth ih =>
    intro cs
    unfold value?
    split
    · exact forall_mem_map fun _ _ => .plain nofun nofun
    · exact forall_mem_map fun _ _ => .plain nofun nofun
    · exact forall_mem_map fun r hr => .array (distinct_of_mem_elements? ih _ _ r hr)
    · exact forall_mem_map fun r hr =>
        (distinctItems_of_mem_entries? ih _ _ distinctItems_nil r hr).finish
    · exact distinct_bare? _

/-! ### Documents -/

variable {dialect : Dialect} {draft : Draft}

theorem distinctItems_of_mem_statement? (cs : Rest) (hd : DistinctItems draft.top) :
    ∀ r ∈ statement? dialect draft cs, DistinctItems r.1.top := by
  unfold statement?
  split
  · refine forall_mem_bind fun ((path, name), rest) _ => forall_mem_bind fun _ _ => ?_
    refine forall_mem_bind fun _ _ => forall_mem_bind fun top ht => ?_
    exact forall_mem_bind fun _ _ => forall_mem_some (hd.defineElement ht)
  · refine forall_mem_bind fun ((path, name), rest) _ => forall_mem_bind fun _ _ => ?_
    refine forall_mem_bind fun top ht => ?_
    exact forall_mem_bind fun _ _ => forall_mem_some (hd.defineTable ht)
  · split
    · exact forall_mem_some hd
    · refine forall_mem_bind fun ((path, name), rest) _ => forall_mem_bind fun _ _ => ?_
      refine forall_mem_bind fun (v, rest) hv => forall_mem_bind fun top ht => ?_
      exact forall_mem_bind fun _ _ =>
        forall_mem_some (hd.defineKey (distinct_value? _ _ _ hv) ht)

theorem distinctItems_of_mem_statements? (fuel : Nat) (cs : Rest) (hd : DistinctItems draft.top) :
    ∀ draft' ∈ statements? dialect fuel draft cs, DistinctItems draft'.top := by
  induction fuel generalizing draft cs with
  | zero =>
    cases cs with
    | nil => exact forall_mem_some hd
    | cons c cs => exact nofun
  | succ fuel ih =>
    cases cs with
    | nil => exact forall_mem_some hd
    | cons c cs =>
      rw [statements?]
      · exact forall_mem_bind fun (draft₁, rest) hs =>
          ih rest (distinctItems_of_mem_statement? _ hd _ hs)
      · exact nofun

/-- The keys of every table in a document are distinct. -/
theorem distinct_of_parse? {text : String} {table : Table}
    (h : parse? dialect text = some table) : (Value.table table).Distinct :=
  forall_mem_map (P := fun table => (Value.table table).Distinct)
    (fun _ hd => (distinctItems_of_mem_statements? _ _ distinctItems_nil _ hd).finish) table h

/-! ### Look-ups -/

section
variable {α : Type} {entries entries' : List (String × α)} {a : α}

theorem lookup_eq_some_iff_mem (hn : (entries.map (·.1)).Nodup) :
    entries.lookup key = some a ↔ (key, a) ∈ entries := by
  rw [List.lookup_eq_some_iff]
  constructor
  · rintro ⟨before, after, rfl, -⟩
    simp
  · intro h
    obtain ⟨before, after, rfl⟩ := List.append_of_mem h
    refine ⟨before, after, rfl, fun e he => ?_⟩
    rw [List.map_append, List.map_cons, List.nodup_middle] at hn
    have hkey : key ∉ before.map (·.1) :=
      fun hm => (List.nodup_cons.1 hn).1 (List.mem_append_left _ hm)
    simpa using fun hk : key = e.1 => hkey (hk ▸ List.mem_map_of_mem he)

/-- The order of a table does not matter for look-ups. -/
theorem lookup_perm (hn : (entries.map (·.1)).Nodup) (h : entries.Perm entries') (key : String) :
    entries.lookup key = entries'.lookup key := by
  refine Option.ext fun a => ?_
  rw [lookup_eq_some_iff_mem hn, lookup_eq_some_iff_mem ((h.map _).nodup_iff.1 hn), h.mem_iff]

end

end Slipway.Toml
