import Slipway.Text.Shapeless

/-!
# Quoted texts

Two ways to show a text in quotes. `quote` puts a backslash before each quote and backslash and
nothing else, so a reader that takes a backslash to protect the next character finds the closing
quote. `display` is for messages: it also spells out line ends, tabs and characters without a
visible shape.
-/

namespace Slipway.Text

/-- The characters of a text with a backslash before each quote and backslash. -/
def escape : List Char → List Char
  | [] => []
  | c :: cs => if c = '"' ∨ c = '\\' then '\\' :: c :: escape cs else c :: escape cs

/-- The text in quotes, with a backslash before each quote and backslash within. -/
def quote (s : String) : String :=
  String.ofList ('"' :: escape s.toList ++ ['"'])

/-- What stands before and after the first quote that no backslash protects, with the protecting
backslashes taken away. -/
def unquote? : List Char → Option (List Char × List Char)
  | [] => none
  | '"' :: rest => some ([], rest)
  | '\\' :: c :: rest => (unquote? rest).map fun (text, rest) => (c :: text, rest)
  | c :: rest => (unquote? rest).map fun (text, rest) => (c :: text, rest)

/-! ### For messages -/

/-- A character as a message shows it. -/
def displayChar (c : Char) : List Char :=
  match c with
  | '\t' => ['\\', 't']
  | '\n' => ['\\', 'n']
  | '\r' => ['\\', 'r']
  | '"' => ['\\', '"']
  | '\\' => ['\\', '\\']
  | c =>
    if c.toNat = 0 then ['\\', '0']
    else if isShapeless c then ['\\', 'u', '{'] ++ Nat.toDigits 16 c.toNat ++ ['}']
    else [c]

/-- The text in quotes as a message shows it. -/
def display (s : String) : String :=
  String.ofList ('"' :: (s.toList.flatMap displayChar ++ ['"']))

end Slipway.Text
