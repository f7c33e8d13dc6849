import Slipway.Log.Level
import Slipway.Text.Json
import Slipway.Text.Quoted

/-!
# Log events

What is reported while a program runs, and the lines that show it. A line is either plain text or a
JSON object; whether it names the target depends on where it goes.
-/

namespace Slipway.Log

/-- The value of a field of an event. -/
inductive FieldValue where
  | text (s : String)
  | number (n : Nat)
  | flag (b : Bool)
  deriving Repr, DecidableEq

/-- Something that is reported. -/
structure Event where
  level : Level
  /-- The part of the program that reports it. -/
  target : String
  message : String
  fields : List (String × FieldValue) := []
  deriving Repr, DecidableEq

/-- How lines are written. -/
inductive Format where
  | plain
  | json
  deriving Repr, DecidableEq

/-- A field in a plain line. -/
def FieldValue.plain : FieldValue → String
  | text s => Text.display s
  | number n => toString n
  | flag b => if b then "true" else "false"

/-- A field in a JSON line. -/
def FieldValue.json : FieldValue → Text.Json
  | text s => .str s
  | number n => .nat n
  | flag b => .bool b

/-- The word for a level in a line. -/
def Level.label : Level → String
  | error => "ERROR"
  | warn => "WARN"
  | info => "INFO"
  | debug => "DEBUG"
  | trace => "TRACE"

/-- A character of a message in a plain line. The controls that a terminal could obey are spelled
out; line ends, tabs and the other controls stay. -/
def messageChar (c : Char) : List Char :=
  let n := c.toNat
  let hex := Nat.toDigits 16 n
  if n = 7 ∨ n = 8 ∨ n = 12 then ['\\', 'x', '0'] ++ hex
  else if n = 27 ∨ n = 127 then ['\\', 'x'] ++ hex
  else if 128 ≤ n ∧ n ≤ 159 then ['\\', 'u', '{'] ++ hex ++ ['}']
  else [c]

namespace Event

/-- The names of the fields of an event, of which the message is one. -/
def fieldNames (e : Event) : List String :=
  "message" :: e.fields.map (·.1)

/-- The message in a plain line. -/
def plainMessage (e : Event) : String :=
  String.ofList (e.message.toList.flatMap messageChar)

/-- The plain line: the level in five columns, the target if it is asked for, the message and the
fields. -/
def plainLine (e : Event) (withTarget : Bool) : String :=
  let label := e.level.label
  let gap := String.ofList (List.replicate (5 - label.length) ' ')
  gap ++ label ++ " " ++ (if withTarget then e.target ++ ": " else "") ++ e.plainMessage ++
    String.join (e.fields.map fun (key, v) => " " ++ key ++ "=" ++ v.plain)

/-- The JSON line. -/
def jsonLine (e : Event) (withTarget : Bool) : String :=
  let fields := ("message", Text.Json.str e.message) :: e.fields.map fun (key, v) => (key, v.json)
  (Text.Json.obj
    ([("level", .str e.level.label), ("fields", .obj fields)] ++
      if withTarget then [("target", .str e.target)] else [])).compact

/-- The line in a format. -/
def line (e : Event) (format : Format) (withTarget : Bool) : String :=
  match format with
  | .plain => e.plainLine withTarget
  | .json => e.jsonLine withTarget

end Event

end Slipway.Log
