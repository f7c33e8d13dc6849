import Slipway.Toml.Parser

/-!
# Setting trees

Settings are collected as a tree of tables, lists and plain values before they are converted to
their types. Values are put into the tree at places such as `publish.targets[0]`; whatever stands in
the way of a place gives way to a table or a list, and a table that is put in place of a table adds
its entries to it.
-/

namespace Slipway.Settings

/-- A setting as it was found. -/
inductive Tree where
  | nil
  | boolean (b : Bool)
  | integer (n : Int)
  | float (x : Number.Binary64)
  | string (s : String)
  | list (items : List Tree)
  | table (entries : List (String × Tree))
  deriving Repr

/-- The entries of a table. -/
abbrev Entries := List (String × Tree)

/-! ### From a document -/

mutual

/-- The setting that a value of a document stands for; a date is seen as its text, and a number that
cannot be read as nothing. -/
def Tree.ofToml : Toml.Value → Tree
  | .string s => .string s
  | .integer n => .integer n
  | .float x => .float x
  | .boolean b => .boolean b
  | .date d => .string d.text
  | .unreadable => .nil
  | .array items => .list (treesOfToml items)
  | .table entries => .table (entriesOfToml entries)

/-- The settings that the values of an array stand for. -/
def treesOfToml : List Toml.Value → List Tree
  | [] => []
  | v :: rest => Tree.ofToml v :: treesOfToml rest

/-- The settings that the entries of a table stand for. -/
def entriesOfToml : List (String × Toml.Value) → Entries
  | [] => []
  | (key, v) :: rest => (key, Tree.ofToml v) :: entriesOfToml rest

end

/-! ### Putting values into a tree -/

/-- The entries of a table; anything else has none. -/
def Tree.entries : Tree → Entries
  | .table entries => entries
  | _ => []

/-- The items of a list; anything else has none. -/
def Tree.items : Tree → List Tree
  | .list items => items
  | _ => []

/-- The entries with a key set to a value, in its old place or at the end. -/
def setEntry (key : String) (t : Tree) : Entries → Entries
  | [] => [(key, t)]
  | (k, u) :: rest => if k = key then (k, t) :: rest else (k, u) :: setEntry key t rest

mutual

/-- The value `new` in place of the value `old`: a table adds its entries to those of a table, any
other value replaces what was there. -/
def Tree.over (new old : Tree) : Tree :=
  match new with
  | .table entries => .table (entriesOver entries old.entries)
  | new => new

/-- Entries added to those of a table, from the first to the last. -/
def entriesOver (new : List (String × Tree)) (old : Entries) : Entries :=
  match new with
  | [] => old
  | (key, t) :: rest => entriesOver rest (setEntry key (t.over ((old.lookup key).getD .nil)) old)

end

/-- A step on the way to a place. -/
inductive Hop where
  | key (name : String)
  /-- An item of a list; a negative number counts from the end. -/
  | index (n : Int)
  deriving Repr, DecidableEq

/-- The list grown with nil so that it has an item of the given number, and the position of that
item. Items before the start push the others back. -/
def grown (items : List Tree) (n : Int) : List Tree × Nat :=
  if 0 ≤ n then (items ++ List.replicate (n.toNat + 1 - items.length) .nil, n.toNat)
  else
    let back := (-n).toNat
    (List.replicate (back - items.length) .nil ++ items, items.length - back)

/-- The tree with a value put at the place that the hops lead to. -/
def Tree.put (new : Tree) : List Hop → Tree → Tree
  | [], old => new.over old
  | .key name :: hops, old =>
    let inner := (old.entries.lookup name).getD .nil
    .table (setEntry name (new.put hops inner) old.entries)
  | .index n :: hops, old =>
    let (items, i) := grown old.items n
    .list (items.set i (new.put hops ((items[i]?).getD .nil)))

/-! ### Reading places -/

/-- A character of a name in a place. -/
def isNameChar (c : Char) : Bool :=
  c.isAlphanum || c == '_' || c == '-'

/-- The hops after the first name: points with names, and whole numbers in brackets. -/
def hops? : (fuel : Nat) → List Char → Option (List Hop)
  | _, [] => some []
  | 0, _ => none
  | fuel + 1, '.' :: cs =>
    let (name, rest) := cs.span isNameChar
    if name.isEmpty then none
    else (hops? fuel rest).map (.key (String.ofList name) :: ·)
  | fuel + 1, '[' :: cs =>
    let (number, rest) := (Toml.skipSpaces cs).span fun c => c.isDigit || c == '-'
    match Number.integer? (String.ofList number), Toml.skipSpaces rest with
    | some n, ']' :: rest => (hops? fuel rest).map (.index n :: ·)
    | _, _ => none
  | _, _ => none

/-- The place that a text describes, such as `publish.targets[0]`. -/
def place? (text : String) : Option (List Hop) :=
  let (name, rest) := text.toList.span isNameChar
  if name.isEmpty then none else (hops? rest.length rest).map (.key (String.ofList name) :: ·)

/-- The place of a key: what the key describes, or the key as it is written if it describes no
place. -/
def placeOf (key : String) : List Hop :=
  (place? key).getD [.key key]

/-- The tree with entries put at the places of their keys, from the first to the last. -/
def collect (entries : Entries) (t : Tree) : Tree :=
  entries.foldl (fun t (key, v) => v.put (placeOf key) t) t

end Slipway.Settings
