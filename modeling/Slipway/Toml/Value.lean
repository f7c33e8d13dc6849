import Slipway.Toml.Date

/-!
# Values of a TOML document

A document is a table of values. While it is read, its tables also remember how they came to be,
because a table may be extended or not according to that: `Item` is a value in the making, and
`defineTable?`, `defineElement?` and `defineKey?` are the three statements of the language, each of
which is refused when it defines something twice. Two dialects differ in what a dotted key may do
with a table that only the header of a longer path has named.
-/

namespace Slipway.Toml

/-- A value. The entries of a table are in the order of their definition and have distinct keys. -/
inductive Value where
  | string (s : String)
  | integer (n : Int)
  | float (x : Number.Binary64)
  | boolean (b : Bool)
  | date (d : DateTime)
  /-- A number that no type can hold, or one with digits that are missing or out of range. -/
  | unreadable
  | array (items : List Value)
  | table (entries : List (String × Value))
  deriving Repr

/-- A document. -/
abbrev Table := List (String × Value)

mutual

/-- Equality of values, which no derived instance decides since values stand in lists. -/
def Value.decEq (v w : Value) : Decidable (v = w) :=
  if h : v.ctorIdx = w.ctorIdx then
    match v, w, h with
    | .string s, .string t, _ => decidable_of_iff (s = t) (by simp)
    | .integer m, .integer n, _ => decidable_of_iff (m = n) (by simp)
    | .float x, .float y, _ => decidable_of_iff (x = y) (by simp)
    | .boolean a, .boolean b, _ => decidable_of_iff (a = b) (by simp)
    | .date d, .date e, _ => decidable_of_iff (d = e) (by simp)
    | .unreadable, .unreadable, _ => isTrue rfl
    | .array xs, .array ys, _ => @decidable_of_iff _ (xs = ys) (by simp) (decEqItems xs ys)
    | .table es, .table fs, _ => @decidable_of_iff _ (es = fs) (by simp) (decEqEntries es fs)
  else isFalse fun he => h (congrArg Value.ctorIdx he)

/-- Equality of the items of arrays. -/
def decEqItems : (xs ys : List Value) → Decidable (xs = ys)
  | [], [] => isTrue rfl
  | [], _ :: _ | _ :: _, [] => isFalse nofun
  | x :: xs, y :: ys =>
    match x.decEq y, decEqItems xs ys with
    | isTrue h, isTrue hs => isTrue (h ▸ hs ▸ rfl)
    | isFalse h, _ => isFalse fun he => h (List.cons.inj he).1
    | _, isFalse hs => isFalse fun he => hs (List.cons.inj he).2

/-- Equality of the entries of tables. -/
def decEqEntries : (es fs : Table) → Decidable (es = fs)
  | [], [] => isTrue rfl
  | [], _ :: _ | _ :: _, [] => isFalse nofun
  | (k, v) :: es, (l, w) :: fs =>
    match v.decEq w, decEqEntries es fs with
    | isTrue h, isTrue hs => decidable_of_iff (k = l) (by simp [h, hs])
    | isFalse h, _ => isFalse fun he => h (Prod.mk.inj (List.cons.inj he).1).2
    | _, isFalse hs => isFalse fun he => hs (List.cons.inj he).2

end

instance : DecidableEq Value := Value.decEq

/-! ### Tables in the making -/

/-- How a table came to be. -/
inductive Origin where
  /-- By its own header, or as the top of the document. -/
  | header
  /-- On the way to the table of a longer header. -/
  | implied
  /-- By a dotted key. -/
  | dotted
  deriving Repr, DecidableEq

/-- A value in the making: a closed value, a table that may still grow, or an array of tables of
which only the last, which is the first in the list, may still grow. -/
inductive Item where
  | value (v : Value)
  | table (origin : Origin) (entries : List (String × Item))
  | tables (elements : List (List (String × Item)))

/-- The entries of a table in the making. -/
abbrev Items := List (String × Item)

/-- The entries with a key set to an item, in its old place or at the end. -/
def setItem (key : String) (item : Item) : Items → Items
  | [] => [(key, item)]
  | (k, i) :: rest => if k = key then (k, item) :: rest else (k, i) :: setItem key item rest

/-- What a dotted key may do with a table that the header of a longer path has implied. -/
inductive Dialect where
  /-- It may lead through the table, but it may not define a key in it. -/
  | strict
  /-- It may define keys in the table. Whatever it leads through then counts as made by dotted
  keys. -/
  | lenient
  deriving Repr, DecidableEq

/-- The ways to follow a path. -/
inductive Walk where
  | header
  | dottedKey (dialect : Dialect)
  deriving Repr, DecidableEq

/-- The origin of the tables that are made on the way. -/
def Walk.made : Walk → Origin
  | header => .implied
  | dottedKey _ => .dotted

/-- The origin of a table on the way once it has been entered, if it may be entered: a dotted key
cannot enter a table that has its own header. -/
def Walk.enter? : Walk → Origin → Option Origin
  | header, o => some o
  | dottedKey _, .header => none
  | dottedKey .lenient, .implied => some .dotted
  | dottedKey _, o => some o

/-- Changes the table that a path leads to. Missing tables on the way are made; an array of tables
is entered at its last element, and values cannot be entered. -/
def updateAt? (walk : Walk) (f : Origin → Items → Option (Origin × Items)) :
    List String → Origin → Items → Option (Origin × Items)
  | [], origin, items => f origin items
  | key :: path, origin, items =>
    match items.lookup key with
    | none => do
      let (o, inner) ← updateAt? walk f path walk.made []
      some (origin, setItem key (.table o inner) items)
    | some (.table o inner) => do
      let (o, inner) ← updateAt? walk f path (← walk.enter? o) inner
      some (origin, setItem key (.table o inner) items)
    | some (.tables (last :: before)) => do
      let (_, last) ← updateAt? walk f path .header last
      some (origin, setItem key (.tables (last :: before)) items)
    | some (.tables []) => none
    | some (.value _) => none

/-- The header of a table: the table must be new or have been implied only. -/
def defineTable? (path : List String) (key : String) (top : Items) : Option Items :=
  (updateAt? .header
    (fun origin items =>
      match items.lookup key with
      | none => some (origin, setItem key (.table .header []) items)
      | some (.table .implied inner) => some (origin, setItem key (.table .header inner) items)
      | some _ => none)
    path .header top).map (·.2)

/-- The header of a new element of an array of tables. -/
def defineElement? (path : List String) (key : String) (top : Items) : Option Items :=
  (updateAt? .header
    (fun origin items =>
      match items.lookup key with
      | none => some (origin, setItem key (.tables [[]]) items)
      | some (.tables elements) => some (origin, setItem key (.tables ([] :: elements)) items)
      | some _ => none)
    path .header top).map (·.2)

/-- A key and its value in the table `current`. The key must be new, and the table that a dotted key
leads to must have been made by dotted keys. -/
def defineKey? (dialect : Dialect) (current : List String) (path : List String) (key : String)
    (value : Value) (top : Items) : Option Items :=
  (updateAt? .header
    (fun origin items =>
      (updateAt? (.dottedKey dialect)
        (fun o inner =>
          if path ≠ [] ∧ o ≠ .dotted then none
          else
            match inner.lookup key with
            | none => some (o, setItem key (.value value) inner)
            | some _ => none)
        path .header items).map fun (_, items) => (origin, items))
    current .header top).map (·.2)

/-! ### Finished tables -/

mutual

/-- The value of an item. -/
def Item.finish : Item → Value
  | .value v => v
  | .table _ entries => .table (finishItems entries)
  | .tables elements => .array (finishElements elements).reverse

/-- The values of the entries of a table. -/
def finishItems : List (String × Item) → List (String × Value)
  | [] => []
  | (key, item) :: rest => (key, item.finish) :: finishItems rest

/-- The values of the elements of an array of tables. -/
def finishElements : List (List (String × Item)) → List Value
  | [] => []
  | entries :: rest => .table (finishItems entries) :: finishElements rest

end

end Slipway.Toml
