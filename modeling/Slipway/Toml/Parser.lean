import Slipway.Toml.Token

/-!
# Reading a TOML document

`parse?` reads a whole document of TOML 1.1: lines with a header or with a key and a value, arrays
and inline tables that may extend over lines and end in a comma. Arrays and inline tables may be
nested eighty deep. A number that cannot be read is no fault of the document; it is left to those
who need it.
-/

namespace Slipway.Toml

/-! ### Values -/

/-- Reads a value. -/
abbrev Reader := Rest → Option (Value × Rest)

/-- The elements of an array, after its opening bracket. -/
def elements? (item : Reader) : (fuel : Nat) → Rest → Option (List Value × Rest)
  | 0, _ => none
  | fuel + 1, cs => do
    match ← skipLines? false cs with
    | ']' :: rest => some ([], rest)
    | cs =>
      let (v, rest) ← item cs
      match ← skipLines? false rest with
      | ',' :: rest =>
        let (vs, rest) ← elements? item fuel rest
        some (v :: vs, rest)
      | ']' :: rest => some ([v], rest)
      | _ => none

/-- The entries of an inline table, after its opening brace and the entries in `done`. -/
def entries? (item : Reader) : (fuel : Nat) → (done : Items) → Rest → Option (Items × Rest)
  | 0, _, _ => none
  | fuel + 1, done, cs => do
    match ← skipLines? false cs with
    | '}' :: rest => some (done, rest)
    | cs =>
      let ((path, name), rest) ← key? cs
      let rest ← after? '=' (skipSpaces rest)
      let (v, rest) ← item (skipSpaces rest)
      let done ← defineKey? .strict [] path name v done
      match ← skipLines? false rest with
      | ',' :: rest => entries? item fuel done rest
      | '}' :: rest => some (done, rest)
      | _ => none

/-- A value in which brackets may be nested `depth` deep. -/
def value? : (depth : Nat) → Reader
  | depth, cs =>
    match cs with
    | '"' :: _ => (quoted? cs).map fun (text, rest) => (.string (String.ofList text), rest)
    | '\'' :: _ => (quoted? cs).map fun (text, rest) => (.string (String.ofList text), rest)
    | '[' :: rest =>
      match depth with
      | 0 => none
      | depth + 1 =>
        (elements? (value? depth) cs.length rest).map fun (vs, rest) => (.array vs, rest)
    | '{' :: rest =>
      match depth with
      | 0 => none
      | depth + 1 =>
        (entries? (value? depth) cs.length [] rest).map fun (items, rest) =>
          (.table (finishItems items), rest)
    | _ => bare? cs

/-! ### Documents -/

/-- A document in the making: the path of the current table, and all tables so far. -/
structure Draft where
  current : List String := []
  top : Items := []

/-- One line with a header, a key and a value, or neither; values may extend over lines. -/
def statement? (dialect : Dialect) (draft : Draft) (cs : Rest) : Option (Draft × Rest) :=
  match skipSpaces cs with
  | '[' :: '[' :: cs => do
    let ((path, name), rest) ← key? cs
    let rest ← after? ']' (← after? ']' (skipSpaces rest))
    let top ← defineElement? path name draft.top
    some (⟨path ++ [name], top⟩, ← lineEnd? rest)
  | '[' :: cs => do
    let ((path, name), rest) ← key? cs
    let rest ← after? ']' (skipSpaces rest)
    let top ← defineTable? path name draft.top
    some (⟨path ++ [name], top⟩, ← lineEnd? rest)
  | cs =>
    match lineEnd? cs with
    | some rest => some (draft, rest)
    | none => do
      let ((path, name), rest) ← key? cs
      let rest ← after? '=' (skipSpaces rest)
      let (v, rest) ← value? depthLimit (skipSpaces rest)
      let top ← defineKey? dialect draft.current path name v draft.top
      some ({ draft with top }, ← lineEnd? rest)

/-- The statements of a document. -/
def statements? (dialect : Dialect) : (fuel : Nat) → Draft → Rest → Option Draft
  | _, draft, [] => some draft
  | 0, _, _ => none
  | fuel + 1, draft, cs => do
    let (draft, rest) ← statement? dialect draft cs
    statements? dialect fuel draft rest

/-- The rest after a byte order mark, if there is one. -/
def skipMark : Rest → Rest
  | c :: cs => if c.toNat = 0xFEFF then cs else c :: cs
  | [] => []

/-- The table that a document denotes, if it is well formed. -/
def parse? (dialect : Dialect) (text : String) : Option Table :=
  let cs := skipMark text.toList
  (statements? dialect cs.length {} cs).map fun draft => finishItems draft.top

end Slipway.Toml
