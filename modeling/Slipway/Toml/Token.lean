import Slipway.Toml.Value

/-!
# The small parts of a TOML document

Blanks, comments, ends of lines, quoted texts, keys and numbers of TOML 1.1. Every reader takes a
list of characters and returns what it read together with the rest, or nothing where the document
is not well formed.
-/

namespace Slipway.Toml

/-- What is left to read. -/
abbrev Rest := List Char

/-! ### Blanks and comments -/

/-- A blank within a line. -/
def isSpace (c : Char) : Bool :=
  c == ' ' || c == '\t'

/-- A character that may stand in a comment or a literal text. -/
def isPlain (c : Char) : Bool :=
  c == '\t' || (32 ≤ c.toNat && c.toNat != 127)

/-- The rest after blanks. -/
def skipSpaces (cs : Rest) : Rest :=
  cs.dropWhile isSpace

/-- The rest after the end of a line, before which blanks and a comment may stand. -/
def lineEnd? (cs : Rest) : Option Rest :=
  let cs :=
    match skipSpaces cs with
    | '#' :: cs => cs.dropWhile isPlain
    | cs => cs
  match cs with
  | [] => some []
  | '\n' :: cs => some cs
  | '\r' :: '\n' :: cs => some cs
  | _ => none

/-- The rest after blanks, ends of lines and comments. -/
def skipLines? : (inComment : Bool) → Rest → Option Rest
  | _, [] => some []
  | _, '\n' :: cs => skipLines? false cs
  | _, '\r' :: '\n' :: cs => skipLines? false cs
  | true, c :: cs => if isPlain c then skipLines? true cs else none
  | false, '#' :: cs => skipLines? true cs
  | false, c :: cs => if isSpace c then skipLines? false cs else some (c :: cs)

/-! ### Quoted texts -/

/-- The character of a code point, unless it is a surrogate or too large. -/
def codePoint? (digits : List Char) : Option Char :=
  (Number.digits? 16 digits).bind fun n =>
    if n < 0xD800 ∨ (0xE000 ≤ n ∧ n ≤ 0x10FFFF) then some (Char.ofNat n) else none

/-- The character that an escape of one letter stands for. -/
def simpleEscape? (c : Char) : Option Char :=
  match c with
  | 'b' => some (Char.ofNat 8)
  | 't' => some '\t'
  | 'n' => some '\n'
  | 'f' => some (Char.ofNat 12)
  | 'r' => some '\r'
  | 'e' => some (Char.ofNat 27)
  | '"' => some '"'
  | '\\' => some '\\'
  | _ => none

/-- Puts a character before a text that was read. -/
def consChar (c : Option Char) (r : Option (List Char × Rest)) : Option (List Char × Rest) := do
  let c ← c
  let (text, rest) ← r
  some (c :: text, rest)

/-- A literal text on one line, after its opening quote. -/
def literal? : Rest → Option (List Char × Rest)
  | [] => none
  | '\'' :: cs => some ([], cs)
  | c :: cs => if isPlain c then consChar (some c) (literal? cs) else none

/-- A text with escapes on one line, after its opening quote. -/
def basic? : Rest → Option (List Char × Rest)
  | [] => none
  | '"' :: cs => some ([], cs)
  | '\\' :: 'x' :: a :: b :: cs => consChar (codePoint? [a, b]) (basic? cs)
  | '\\' :: 'u' :: a :: b :: c :: d :: cs => consChar (codePoint? [a, b, c, d]) (basic? cs)
  | '\\' :: 'U' :: a :: b :: c :: d :: e :: f :: g :: h :: cs =>
    consChar (codePoint? [a, b, c, d, e, f, g, h]) (basic? cs)
  | '\\' :: c :: cs => consChar (simpleEscape? c) (basic? cs)
  | c :: cs => if isPlain c then consChar (some c) (basic? cs) else none

/-- The rest after three quotes that close a text. Up to two more quotes before them belong to the
text. -/
def closing (quote : Char) (cs : Rest) : List Char × Rest :=
  match cs with
  | a :: b :: rest =>
    if a = quote then
      if b = quote then ([quote, quote], rest) else ([quote], b :: rest)
    else ([], cs)
  | [a] => if a = quote then ([quote], []) else ([], cs)
  | [] => ([], cs)

/-- A literal text on several lines, after its opening quotes. -/
def literalLines? : Rest → Option (List Char × Rest)
  | [] => none
  | '\'' :: '\'' :: '\'' :: cs => some (closing '\'' cs)
  | '\r' :: '\n' :: cs => consChar (some '\r') (consChar (some '\n') (literalLines? cs))
  | c :: cs => if isPlain c || c == '\n' then consChar (some c) (literalLines? cs) else none

/-- Whether a line ends after blanks. -/
def endsLine (cs : Rest) : Bool :=
  match skipSpaces cs with
  | '\n' :: _ => true
  | '\r' :: '\n' :: _ => true
  | _ => false

/-- A text with escapes on several lines, after its opening quotes. After a backslash at the end of
a line, blanks and ends of lines are skipped. -/
def basicLines? : (skipping : Bool) → Rest → Option (List Char × Rest)
  | _, [] => none
  | true, '\n' :: cs => basicLines? true cs
  | true, '\r' :: '\n' :: cs => basicLines? true cs
  | true, ' ' :: cs => basicLines? true cs
  | true, '\t' :: cs => basicLines? true cs
  | _, '"' :: '"' :: '"' :: cs => some (closing '"' cs)
  | _, '\\' :: 'x' :: a :: b :: cs => consChar (codePoint? [a, b]) (basicLines? false cs)
  | _, '\\' :: 'u' :: a :: b :: c :: d :: cs =>
    consChar (codePoint? [a, b, c, d]) (basicLines? false cs)
  | _, '\\' :: 'U' :: a :: b :: c :: d :: e :: f :: g :: h :: cs =>
    consChar (codePoint? [a, b, c, d, e, f, g, h]) (basicLines? false cs)
  | _, '\\' :: c :: cs =>
    if endsLine (c :: cs) then basicLines? true (c :: cs)
    else consChar (simpleEscape? c) (basicLines? false cs)
  | _, '\r' :: '\n' :: cs => consChar (some '\r') (consChar (some '\n') (basicLines? false cs))
  | _, c :: cs =>
    if isPlain c || c == '\n' then consChar (some c) (basicLines? false cs) else none

/-- The rest after an end of line at the start, if there is one. -/
def skipFirstNewline : Rest → Rest
  | '\n' :: cs => cs
  | '\r' :: '\n' :: cs => cs
  | cs => cs

/-- A quoted text of any of the four kinds. -/
def quoted? : Rest → Option (List Char × Rest)
  | '"' :: '"' :: '"' :: cs => basicLines? false (skipFirstNewline cs)
  | '\'' :: '\'' :: '\'' :: cs => literalLines? (skipFirstNewline cs)
  | '"' :: cs => basic? cs
  | '\'' :: cs => literal? cs
  | _ => none

/-! ### Keys -/

/-- A character that may stand in a key without quotes. -/
def isBare (c : Char) : Bool :=
  c.isAlphanum || c == '_' || c == '-'

/-- One part of a key. -/
def keyPart? (cs : Rest) : Option (String × Rest) :=
  match cs with
  | '"' :: cs => (basic? cs).map fun (text, rest) => (String.ofList text, rest)
  | '\'' :: cs => (literal? cs).map fun (text, rest) => (String.ofList text, rest)
  | cs =>
    let (name, rest) := cs.span isBare
    if name.isEmpty then none else some (String.ofList name, rest)

/-- A key: parts with points between them, around which blanks may stand. -/
def keyParts? : (fuel : Nat) → Rest → Option (List String × Rest)
  | 0, _ => none
  | fuel + 1, cs => do
    let (part, rest) ← keyPart? (skipSpaces cs)
    match skipSpaces rest with
    | '.' :: rest =>
      let (parts, rest) ← keyParts? fuel rest
      some (part :: parts, rest)
    | rest => some ([part], rest)

/-- How deep values may be nested, and how many parts a key may have. -/
def depthLimit : Nat := 80

/-- A key as the path to a table and the name in it. -/
def key? (cs : Rest) : Option ((List String × String) × Rest) := do
  let (parts, rest) ← keyParts? depthLimit cs
  let name ← parts.getLast?
  some ((parts.dropLast, name), rest)

/-! ### Numbers -/

/-- Digits of a base, with single underscores between them. -/
def underscored? (base : Nat) (cs : List Char) : Option (List Char) :=
  let pieces := Text.piecesAt '_' cs
  if pieces.all fun piece => (Number.digits? base piece).isSome then some pieces.flatten else none

/-- Decimal digits with single underscores between them and no zero before others. -/
def wholeDigits? (cs : List Char) : Option (List Char) :=
  match cs with
  | '0' :: _ :: _ => none
  | cs => underscored? 10 cs

/-- A whole number, if some width up to 128 bits can hold it. -/
def bounded (n : Int) : Value :=
  if -0x80000000000000000000000000000000 ≤ n ∧ n ≤ 0xffffffffffffffffffffffffffffffff then
    .integer n
  else .unreadable

/-- A whole number that takes up all of the text. -/
def integer? (cs : List Char) : Option Value :=
  let radix (base : Nat) (cs : List Char) : Option Value :=
    if cs.isEmpty then some .unreadable
    else ((underscored? base cs).bind (Number.digits? base)).map fun n => bounded n
  match cs with
  | '0' :: 'x' :: cs => radix 16 cs
  | '0' :: 'o' :: cs => radix 8 cs
  | '0' :: 'b' :: cs => radix 2 cs
  | cs =>
    let (negative, body) := Number.sign cs
    ((wholeDigits? body).bind (Number.digits? 10)).map fun n =>
      bounded (if negative then -(n : Int) else n)

/-- Whether every underscore of a text has a digit of base 16 on either side. -/
def digitsAtUnderscores (cs : List Char) : Bool :=
  let isDigit (c : Option Char) : Bool := (c.bind (Number.digit? 16)).isSome
  let pieces := Text.piecesAt '_' cs
  (pieces.tail.all fun piece => isDigit piece.head?) &&
    pieces.dropLast.all fun piece => isDigit piece.getLast?

/-- Whether a text looks like a whole number as far as its first underscore and around all of its
underscores, and has neither the point nor the letter of a floating point number. What stands
between the underscores is then left to those who want to know the number. -/
def resemblesInteger (cs : List Char) : Bool :=
  let body := (Number.sign cs).2
  let (whole, rest) := body.span Char.isDigit
  whole.head? != none && whole.head? != some '0' && rest.head? == some '_' &&
    (!rest.any fun c => c == '.' || c == 'e' || c == 'E') && digitsAtUnderscores body

/-- A floating point number that takes up all of the text: it has a fraction, an exponent or both,
or is one of the words `inf` and `nan`. -/
def float? (cs : List Char) : Option Value :=
  let (negative, body) := Number.sign cs
  if body = ['i', 'n', 'f'] then some (.float (.infinite negative))
  else if body = ['n', 'a', 'n'] then some (.float .nan)
  else do
    let (whole, rest) := body.span fun c => c.isDigit || c == '_'
    let whole ← if rest.isEmpty then none else wholeDigits? whole
    let (fraction, rest) ←
      match rest with
      | '.' :: rest =>
        let (fraction, rest) := rest.span fun c => c.isDigit || c == '_'
        (underscored? 10 fraction).map fun fraction => (fraction, rest)
      | _ => some ([], rest)
    let exponent : Int ←
      match rest with
      | [] => some 0
      | e :: rest =>
        if e = 'e' ∨ e = 'E' then do
          let (negative, body) := Number.sign rest
          let n ← Number.digits? 10 (← underscored? 10 body)
          some (if negative then -(n : Int) else n)
        else none
    let digits ← Number.digits? 10 (whole ++ fraction)
    let x := Number.Binary64.ofDecimal negative digits (exponent - fraction.length)
    some (if x.isInfinite then .unreadable else .float x)

/-- A value that is not quoted and has no brackets, from all of its text. -/
def scalar? (cs : List Char) : Option Value :=
  if cs = ['t', 'r', 'u', 'e'] then some (.boolean true)
  else if cs = ['f', 'a', 'l', 's', 'e'] then some (.boolean false)
  else
    match integer? cs with
    | some v => some v
    | none =>
      match float? cs with
      | some v => some v
      | none =>
        match DateTime.ofChars? cs with
        | some d => some (.date d)
        | none => if resemblesInteger cs then some .unreadable else none

/-- A character of a value that is not quoted and has no brackets. -/
def isScalar (c : Char) : Bool :=
  !isSpace c && c ∉ ['\n', '\r', '#', ',', '=', '[', ']', '{', '}']

/-- A value that is not quoted and has no brackets, and the rest. One blank may stand between a date
and a time. -/
def bare? (cs : Rest) : Option (Value × Rest) :=
  let (text, rest) := cs.span isScalar
  match date? text, rest with
  | some (_, []), ' ' :: c :: more =>
    if c.isDigit then
      let (time, rest) := (c :: more).span isScalar
      (scalar? (text ++ ' ' :: time)).map fun v => (v, rest)
    else (scalar? text).map fun v => (v, rest)
  | _, _ => (scalar? text).map fun v => (v, rest)

end Slipway.Toml
