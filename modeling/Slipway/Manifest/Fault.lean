import Slipway.Toml.Parser
import Slipway.Text.Quoted

/-!
# Faults of a manifest

Why the text of a package manifest cannot be read: it is no TOML document with numbers of 64 bits,
or a part of it is missing or of the wrong kind. `Fault.message` holds the wording.
-/

namespace Slipway

/-- A value as a message names it. A date is seen as a table, and a number stays a number even if it
cannot be read. -/
def Toml.Value.described : Toml.Value → String
  | .string s => "string " ++ Text.display s
  | .integer n => s!"integer `{n}`"
  | .float x =>
    let text := x.toText
    let plain := text.toList.all fun c => c.isDigit || c == '-'
    "floating point `" ++ text ++ (if plain then ".0" else "") ++ "`"
  | .boolean b => s!"boolean `{b}`"
  | .date _ => "map"
  | .unreadable => "number"
  | .array _ => "sequence"
  | .table _ => "map"

namespace Manifest

/-- Why a manifest cannot be read. -/
inductive Fault where
  /-- The text is no TOML document, or a number in it is too large. -/
  | notToml
  | missingField (name : String)
  | wrongType (found : Toml.Value) (expected : String)
  /-- A list stands for a record and has too few elements. -/
  | tooShort (length : Nat) (expected : String)
  | other (text : String)
  deriving Repr

/-- The text of a fault. -/
def Fault.message : Fault → String
  | .notToml => "the document is not valid TOML"
  | .missingField name => s!"missing field `{name}`"
  | .wrongType found expected =>
    let found := found.described
    s!"invalid type: {found}, expected {expected}"
  | .tooShort length expected => s!"invalid length {length}, expected {expected}"
  | .other text => text

end Manifest

end Slipway
