import Slipway.Toml.Parser

/-!
# What a value holds

A document may hold numbers that cannot be read. A value is readable if it has none of them, narrow
if 64 bits also hold all its whole numbers, and `Value.settle?` gives what such a value stands for:
a table may stand for a date.
-/

namespace Slipway.Toml

/-! ### Numbers -/

mutual

/-- Whether all parts of a value that have no parts themselves pass a test. -/
def Value.allParts (test : Value → Bool) : Value → Bool
  | .array items => allItems test items
  | .table entries => allEntries test entries
  | v => test v

/-- Whether all parts of the values in a list pass a test. -/
def allItems (test : Value → Bool) : List Value → Bool
  | [] => true
  | v :: rest => v.allParts test && allItems test rest

/-- Whether all parts of the values in a table pass a test. -/
def allEntries (test : Value → Bool) : List (String × Value) → Bool
  | [] => true
  | (_, v) :: rest => v.allParts test && allEntries test rest

end

/-- Whether every number in a value can be read. -/
def Value.isReadable (v : Value) : Bool :=
  v.allParts fun
    | .unreadable => false
    | _ => true

/-- Whether every number in a value can be read, the whole numbers with 64 bits. -/
def Value.isNarrow (v : Value) : Bool :=
  v.allParts fun
    | .unreadable => false
    | .integer n => Number.isSigned64 n
    | _ => true

/-! ### Dates -/

/-- The key that makes a table stand for a date if it is the least of the table's keys. -/
def dateKey : String := "$__toml_private_datetime"

/-- The text of a date, if a table stands for one. -/
def dateText? (entries : Table) : Option Value :=
  if entries.all fun (key, _) => dateKey ≤ key then entries.lookup dateKey else none

mutual

/-- What a narrow value stands for: itself, with the tables in it that stand for dates replaced by
them. What such a table holds besides does not count, but its text has to be that of a date. -/
def Value.settle? : Value → Option Value
  | .unreadable => none
  | .integer n => if Number.isSigned64 n then some (.integer n) else none
  | .array items => (settleItems? items).map .array
  | .table entries =>
    match dateText? entries with
    | some (.string s) => (DateTime.ofChars? s.toList).map .date
    | some _ => none
    | none => (settleEntries? entries).map .table
  | v => some v

/-- What the narrow values in a list stand for. -/
def settleItems? : List Value → Option (List Value)
  | [] => some []
  | v :: rest => do return (← v.settle?) :: (← settleItems? rest)

/-- What the narrow values in a table stand for. -/
def settleEntries? : List (String × Value) → Option (List (String × Value))
  | [] => some []
  | (key, v) :: rest => do return (key, ← v.settle?) :: (← settleEntries? rest)

end

end Slipway.Toml
