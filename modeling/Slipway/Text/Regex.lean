import Slipway.Number.Numeral
import Slipway.Text.Alphanumeric

/-!
# Regular expressions

`isRegex` says whether a text has the form of a regular expression: alternatives of repeated
characters, classes and groups. Nothing is matched here. Neither the letters that depend on Unicode
properties nor look-around are in the language, and nothing ignores the case of letters.
-/

namespace Slipway.Text.Regex

/-! ### Characters -/

/-- The character that `n` hexadecimal digits at the start of a text name, and the rest. -/
def hexChar? (n : Nat) (cs : List Char) : Option (Char × List Char) := do
  let code ← Number.digits? 16 (cs.take n)
  if n ≤ cs.length ∧ code.isValidChar then some (Char.ofNat code, cs.drop n) else none

/-- The character that stands behind a backslash in front of `c`, and the rest of the text. Letters
and digits are reserved, as are the signs that would mark the ends of words. -/
def escape? (c : Char) (cs : List Char) : Option (Char × List Char) :=
  match c with
  | 'x' => hexChar? 2 cs
  | 'u' => hexChar? 4 cs
  | 'U' => hexChar? 8 cs
  | 'a' => some (Char.ofNat 7, cs)
  | 'f' => some (Char.ofNat 12, cs)
  | 'n' => some ('\n', cs)
  | 'r' => some ('\r', cs)
  | 't' => some ('\t', cs)
  | 'v' => some (Char.ofNat 11, cs)
  | c => if c.toNat < 128 ∧ !c.isAlphanum ∧ c ≠ '<' ∧ c ≠ '>' then some (c, cs) else none

/-- The first character of a text, which an escape may name, and the rest. -/
def char? : List Char → Option (Char × List Char)
  | [] => none
  | '\\' :: [] => none
  | '\\' :: c :: cs => escape? c cs
  | c :: cs => some (c, cs)

/-! ### Classes -/

/-- The names of the classes that may stand within a class. -/
def classNames : List String :=
  ["alnum", "alpha", "ascii", "blank", "cntrl", "digit", "graph", "lower", "print", "punct",
    "space", "upper", "word", "xdigit"]

/-- What follows a named class such as `:alpha:]`, after its opening bracket. -/
def afterNamedClass? (cs : List Char) : Option (List Char) := do
  let cs ← dropLead? [':'] cs
  let cs := (dropLead? ['^'] cs).getD cs
  let (name, rest) := cs.span (· != ':')
  if String.ofList name ∈ classNames then dropLead? [':', ']'] rest else none

/-- What follows the start of a class: a caret, and dashes or a closing bracket that stand for
themselves. -/
def afterClassStart (cs : List Char) : List Char :=
  let cs := (dropLead? ['^'] cs).getD cs
  match cs with
  | '-' :: cs => cs.dropWhile (· == '-')
  | ']' :: cs => cs
  | cs => cs

/-- What follows a class, `depth` being the number of classes around it and `fuel` the number of
steps; each step reads a bracket, an operator between classes, a character or a range. -/
def afterClass? : (fuel depth : Nat) → List Char → Option (List Char)
  | 0, _, _ => none
  | fuel + 1, depth, cs =>
    match cs with
    | '[' :: cs =>
      match afterNamedClass? cs with
      | some rest => afterClass? fuel depth rest
      | none => afterClass? fuel (depth + 1) (afterClassStart cs)
    | ']' :: cs =>
      match depth with
      | 0 => some cs
      | depth + 1 => afterClass? fuel depth cs
    | '&' :: '&' :: cs => afterClass? fuel depth cs
    | '-' :: '-' :: cs => afterClass? fuel depth cs
    | '~' :: '~' :: cs => afterClass? fuel depth cs
    | cs => do
      let (first, rest) ← char? cs
      match rest with
      | '-' :: c :: rest =>
        if c = ']' ∨ c = '-' then afterClass? fuel depth ('-' :: c :: rest)
        else
          let (last, rest) ← char? (c :: rest)
          if first ≤ last then afterClass? fuel depth rest else none
      | rest => afterClass? fuel depth rest

/-! ### Groups -/

/-- Whether a text may name a group: letters, digits and some signs, a letter or an underscore
first. -/
def isGroupName : List Char → Bool
  | [] => false
  | c :: cs =>
    (c == '_' || (isAlphanumeric c && !c.isDigit)) &&
      cs.all fun c => isAlphanumeric c || ['_', '.', '[', ']'].contains c

/-- Whether a text changes the way in which a group is read: different letters, of which those after
a dash are turned off. -/
def isFlags (cs : List Char) : Bool :=
  cs.all ['m', 's', 'x', 'u', 'R', 'U', 'i', '-'].contains && decide cs.Nodup &&
    cs.getLast? != some '-' && !(cs.takeWhile (· != '-')).contains 'i'

/-- Whether a text continues a regular expression. `names` are the names of the groups so far,
`depth` is the number of open groups, and `operand` says whether there is something to repeat. -/
def continues : (fuel : Nat) → (names : List (List Char)) → (depth : Nat) → (operand : Bool) →
    List Char → Bool
  | _, _, depth, _, [] => depth == 0
  | 0, _, _, _, _ => false
  | fuel + 1, names, depth, operand, c :: cs =>
    match c, cs with
    | '(', '?' :: cs =>
      match (dropLead? ['P', '<'] cs).or (dropLead? ['<'] cs) with
      | some cs =>
        match cs.span (· != '>') with
        | (name, '>' :: rest) =>
          isGroupName name && !names.contains name &&
            continues fuel (name :: names) (depth + 1) false rest
        | _ => false
      | none =>
        match cs.span fun c => c != ':' && c != ')' with
        | (flags, ':' :: rest) => isFlags flags && continues fuel names (depth + 1) false rest
        | (flags, ')' :: rest) =>
          !flags.isEmpty && isFlags flags && continues fuel names depth false rest
        | _ => false
    | '(', cs => continues fuel names (depth + 1) false cs
    | ')', cs =>
      match depth with
      | 0 => false
      | depth + 1 => continues fuel names depth true cs
    | '|', cs => continues fuel names depth false cs
    | '*', cs => operand && continues fuel names depth true cs
    | '+', cs => operand && continues fuel names depth true cs
    | '?', cs => operand && continues fuel names depth true cs
    | '{', _ => false
    | '\\', 'A' :: cs => continues fuel names depth true cs
    | '\\', 'z' :: cs => continues fuel names depth true cs
    | '[', cs =>
      match afterClass? (cs.length + 1) 0 (afterClassStart cs) with
      | some rest => continues fuel names depth true rest
      | none => false
    | c, cs =>
      match char? (c :: cs) with
      | some (_, rest) => continues fuel names depth true rest
      | none => false

end Regex

/-- Whether a text has the form of a regular expression. Repetitions with a number of times, which
would stand in braces, are not in the language. -/
def isRegex (s : String) : Bool :=
  Regex.continues s.toList.length [] 0 false s.toList

end Slipway.Text
