/-!
# JSON texts

Values written as JSON: on one line, or with one entry on each line, indented by two blanks for each
level. Texts escape quotes, backslashes and control characters only.
-/

namespace Slipway.Text

/-- A value that can be written as JSON. -/
inductive Json where
  | null
  | bool (b : Bool)
  | nat (n : Nat)
  | str (s : String)
  | arr (items : List Json)
  | obj (entries : List (String × Json))

namespace Json

/-- A character within quotes. -/
def escapeChar (c : Char) : List Char :=
  let hex (n : Nat) : Char := Nat.digitChar n
  let n := c.toNat
  if c = '"' then ['\\', '"']
  else if c = '\\' then ['\\', '\\']
  else if n = 8 then ['\\', 'b']
  else if n = 9 then ['\\', 't']
  else if n = 10 then ['\\', 'n']
  else if n = 12 then ['\\', 'f']
  else if n = 13 then ['\\', 'r']
  else if n < 32 then ['\\', 'u', '0', '0', hex (n / 16), hex (n % 16)]
  else [c]

/-- A text in quotes. -/
def quoted (s : String) : String :=
  String.ofList ('"' :: (s.toList.flatMap escapeChar ++ ['"']))

/-- The end of a line and the indentation of the next. -/
def newline (level : Nat) : String :=
  String.ofList ('\n' :: List.replicate (2 * level) ' ')

mutual

/-- A value on one line. -/
def compact : Json → String
  | null => "null"
  | bool b => if b then "true" else "false"
  | nat n => toString n
  | str s => quoted s
  | arr items => "[" ++ ",".intercalate (compactItems items) ++ "]"
  | obj entries => "\x7b" ++ ",".intercalate (compactEntries entries) ++ "\x7d"

/-- Items on one line. -/
def compactItems : List Json → List String
  | [] => []
  | v :: rest => v.compact :: compactItems rest

/-- Entries on one line. -/
def compactEntries : List (String × Json) → List String
  | [] => []
  | (key, v) :: rest => (quoted key ++ ":" ++ v.compact) :: compactEntries rest

end

mutual

/-- A value with one entry on each line, at a level of indentation. -/
def pretty (level : Nat) : Json → String
  | null => "null"
  | bool b => if b then "true" else "false"
  | nat n => toString n
  | str s => quoted s
  | arr [] => "[]"
  | arr (v :: items) =>
    "[" ++ newline (level + 1) ++
      ("," ++ newline (level + 1)).intercalate
        (v.pretty (level + 1) :: prettyItems (level + 1) items)
      ++ newline level ++ "]"
  | obj [] => "\x7b\x7d"
  | obj ((key, v) :: entries) =>
    "\x7b" ++ newline (level + 1) ++
      ("," ++ newline (level + 1)).intercalate
        ((quoted key ++ ": " ++ v.pretty (level + 1)) :: prettyEntries (level + 1) entries)
      ++ newline level ++ "\x7d"

/-- Items at a level of indentation. -/
def prettyItems (level : Nat) : List Json → List String
  | [] => []
  | v :: rest => v.pretty level :: prettyItems level rest

/-- Entries at a level of indentation. -/
def prettyEntries (level : Nat) : List (String × Json) → List String
  | [] => []
  | (key, v) :: rest => (quoted key ++ ": " ++ v.pretty level) :: prettyEntries level rest

end

end Json

end Slipway.Text
