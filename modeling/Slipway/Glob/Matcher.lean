import Slipway.Glob.Pattern

/-!
# Matching

`covers` follows the pattern and tries every place where a star may end; without a memory it takes
exponential time on patterns with many stars. `Memo.search` is the same recursion with a table that
holds the answer for every pair of a pattern position and a text position that was asked before, so
each pair is worked out at most once. `fits` runs it on whole texts.

Both recursions carry what is left of the pattern and of the text, and the table is indexed by how
much of each has been consumed.
-/

namespace Slipway.Glob

/-! ### The plain recursion -/

/-- Whether `p` holds of the text or of what is left of it after any number of characters. -/
def anySuffix (p : List Char → Bool) : List Char → Bool
  | [] => p []
  | c :: text => p (c :: text) || anySuffix p text

/-- Whether `p` holds of what follows some slash of the text. -/
def anyAfterSlash (p : List Char → Bool) : List Char → Bool
  | [] => false
  | c :: text => (c == '/' && p text) || anyAfterSlash p text

/-- Whether `p` holds of what is left of the text after some characters, none of them a slash. -/
def anyInSegment (p : List Char → Bool) : List Char → Bool
  | [] => p []
  | c :: text => p (c :: text) || (c != '/' && anyInSegment p text)

/-- Whether a pattern stands for a text. -/
def covers : (pattern text : List Char) → Bool
  | [], text => text.isEmpty
  | '*' :: '*' :: '/' :: rest, text => covers rest text || anyAfterSlash (covers rest) text
  | '*' :: '*' :: rest, text => anySuffix (covers rest) text
  | '*' :: rest, text => anyInSegment (covers rest) text
  | '?' :: rest, c :: text => c != '/' && covers rest text
  | p :: rest, c :: text => c == p && covers rest text
  | _ :: _, [] => false

/-! ### The recursion with a memory -/

/-- The answers found so far, by pattern position and text position. -/
structure Memo where
  /-- How many text positions there are. -/
  width : Nat
  cells : Array (Option Bool)

namespace Memo

/-- A table without answers for a pattern and a text. -/
def empty (pattern text : List Char) : Memo :=
  ⟨text.length + 1, Array.replicate ((pattern.length + 1) * (text.length + 1)) none⟩

/-- The cell of a pair of positions. -/
def index (memo : Memo) (p t : Nat) : Nat :=
  p * memo.width + t

/-- The answer for a pair of positions, if it is known. -/
def get? (memo : Memo) (p t : Nat) : Option Bool :=
  (memo.cells[memo.index p t]?).join

/-- The table with an answer for a pair of positions. -/
def set (memo : Memo) (p t : Nat) (answer : Bool) : Memo :=
  { memo with cells := memo.cells.setIfInBounds (memo.index p t) (some answer) }

/-- A question about a text at a position, answered with the help of a table. -/
abbrev Query := List Char → Nat → Memo → Bool × Memo

/-- Asks `q` of the text at position `t` and of what is left of it after any number of characters,
up to the first time it holds. -/
def anySuffix (q : Query) : Query
  | [], t, memo => q [] t memo
  | c :: text, t, memo =>
    match q (c :: text) t memo with
    | (true, memo) => (true, memo)
    | (false, memo) => anySuffix q text (t + 1) memo

/-- Asks `q` of what follows each slash of the text, up to the first time it holds. -/
def anyAfterSlash (q : Query) : Query
  | [], _, memo => (false, memo)
  | c :: text, t, memo =>
    if c = '/' then
      match q text (t + 1) memo with
      | (true, memo) => (true, memo)
      | (false, memo) => anyAfterSlash q text (t + 1) memo
    else anyAfterSlash q text (t + 1) memo

/-- Asks `q` of what is left of the text after some characters, none of them a slash, up to the
first time it holds. -/
def anyInSegment (q : Query) : Query
  | [], t, memo => q [] t memo
  | c :: text, t, memo =>
    match q (c :: text) t memo with
    | (true, memo) => (true, memo)
    | (false, memo) => if c = '/' then (false, memo) else anyInSegment q text (t + 1) memo

/-- Answers from the table if the pair of positions was asked before, else by `q`, and keeps the
answer. -/
def remembered (p : Nat) (q : Query) : Query := fun text t memo =>
  match memo.get? p t with
  | some answer => (answer, memo)
  | none =>
    match q text t memo with
    | (answer, memo) => (answer, memo.set p t answer)

/-- Whether what is left of a pattern at position `p` stands for what is left of a text. -/
def search : (pattern : List Char) → (p : Nat) → Query
  | [], p => remembered p fun text _ memo => (text.isEmpty, memo)
  | '*' :: '*' :: '/' :: rest, p => remembered p fun text t memo =>
    match search rest (p + 3) text t memo with
    | (true, memo) => (true, memo)
    | (false, memo) => anyAfterSlash (search rest (p + 3)) text t memo
  | '*' :: '*' :: rest, p => remembered p (anySuffix (search rest (p + 2)))
  | '*' :: rest, p => remembered p (anyInSegment (search rest (p + 1)))
  | '?' :: rest, p => remembered p fun text t memo =>
    match text with
    | [] => (false, memo)
    | c :: text => if c = '/' then (false, memo) else search rest (p + 1) text (t + 1) memo
  | a :: rest, p => remembered p fun text t memo =>
    match text with
    | [] => (false, memo)
    | c :: text => if c = a then search rest (p + 1) text (t + 1) memo else (false, memo)

end Memo

/-! ### Whole texts -/

/-- Whether a pattern stands for a text, by the recursion with a memory. -/
def fitsChars (pattern text : List Char) : Bool :=
  (Memo.search pattern 0 text 0 (.empty pattern text)).1

/-- Whether a pattern stands for a text. -/
def fits (pattern text : String) : Bool :=
  fitsChars pattern.toList text.toList

/-- Whether one of the patterns stands for a text. -/
def fitsAny (patterns : List String) (text : String) : Bool :=
  patterns.any (fits · text)

end Slipway.Glob
