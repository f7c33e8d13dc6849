import Slipway.Number.Binary64
import Slipway.Text.Search

/-!
# Numerals

Reading plain numerals: unsigned and signed whole numbers within 64 bits, and floating point
numbers as decimal digits with an optional fraction and exponent or as one of the words `inf`,
`infinity` and `nan`. No blanks, separators or radix marks are read here.
-/

namespace Slipway.Number

/-- The value of a digit below `base`, the letters counting from ten in either case. -/
def digit? (base : Nat) (c : Char) : Option Nat :=
  let v :=
    if c.isDigit then some (c.toNat - '0'.toNat)
    else if 'a' ≤ c ∧ c ≤ 'z' then some (c.toNat - 'a'.toNat + 10)
    else if 'A' ≤ c ∧ c ≤ 'Z' then some (c.toNat - 'A'.toNat + 10)
    else none
  v.filter (· < base)

/-- The number that a non-empty list of digits of the base denotes. -/
def digits? (base : Nat) : List Char → Option Nat
  | [] => none
  | cs => cs.foldl (fun acc c => do return (← acc) * base + (← digit? base c)) (some 0)

/-- Splits off a leading sign. -/
def sign : List Char → Bool × List Char
  | '+' :: cs => (false, cs)
  | '-' :: cs => (true, cs)
  | cs => (false, cs)

/-- A natural number below `2 ^ 64`, with an optional plus sign. -/
def word? (s : String) : Option Nat :=
  let body :=
    match s.toList with
    | '+' :: cs => cs
    | cs => cs
  (digits? 10 body).filter (· ≤ largestWord)

/-- Whether 64 bits with a sign hold a whole number. -/
def isSigned64 (n : Int) : Bool :=
  -0x8000000000000000 ≤ n && n ≤ 0x7fffffffffffffff

/-- A signed number of 64 bits, with an optional sign. -/
def integer? (s : String) : Option Int :=
  let (negative, body) := sign s.toList
  let n : Option Int := (digits? 10 body).map fun n => if negative then -(n : Int) else n
  n.filter isSigned64

/-- Decimal digits with an optional point and exponent, at least one digit beside the point and one
in the exponent. -/
def decimal? (negative : Bool) (body : List Char) : Option Binary64 :=
  let (whole, rest) := body.span Char.isDigit
  let (fraction, rest) :=
    match rest with
    | '.' :: rest => rest.span Char.isDigit
    | _ => ([], rest)
  let exponent : Option Int :=
    match rest with
    | [] => some 0
    | e :: rest =>
      if e = 'e' ∨ e = 'E' then
        let (negative, body) := sign rest
        (digits? 10 body).map fun n => if negative then -(n : Int) else n
      else none
  do
    let d ← digits? 10 (whole ++ fraction)
    return .ofDecimal negative d ((← exponent) - fraction.length)

/-- A floating point number with an optional sign. -/
def float? (s : String) : Option Binary64 :=
  let (negative, body) := sign s.toList
  let word := Text.asciiLower (String.ofList body)
  if word = "inf" ∨ word = "infinity" then some (.infinite negative)
  else if word = "nan" then some .nan
  else decimal? negative body

end Slipway.Number
