import Slipway.Settings.Tree

/-!
# Settings from variables

A variable of the environment whose name starts with `MPLE__` in any letter case sets the value at
the place that the rest of its name describes, two underscores standing for a point. Its text is
read as a truth value, a whole number or a floating point number if it is one; for the lists below
it is cut at commas; otherwise it stands for itself.
-/

namespace Slipway.Settings

/-- What the names of settings in the environment start with, in lower case. -/
def variableLead : String := "mple__"

/-- The settings whose variables are lists. -/
def listPlaces : List String :=
  ["env", "publish.targets", "build.wasm_packages", "ci.branches", "ci.paths_ignore"]

/-- A character in lower case. The Kelvin sign is the only character outside ASCII whose lower case
is an ASCII letter; no other character can turn a name into that of a setting. -/
def lowerChar (c : Char) : Char :=
  if c.toNat = 0x212A then 'k' else c.toLower

/-- The place that the name of a variable describes, if it is a setting. -/
def placeText? (name : String) : Option String :=
  let lower := String.ofList (name.toList.map lowerChar)
  (Text.afterLead? variableLead lower).map (Text.replaceAll "__" ".")

/-- The value that the text of a variable stands for. -/
def variableValue (place text : String) : Tree :=
  let lower := Text.asciiLower text
  if lower = "true" then .boolean true
  else if lower = "false" then .boolean false
  else
    match Number.integer? text with
    | some n => .integer n
    | none =>
      match Number.float? text with
      | some x => .float x
      | none =>
        if place ∈ listPlaces then .list ((Text.splitOn ',' text).map .string)
        else .string text

/-- The settings among variables, with the texts that describe their places. -/
def variableEntries (vars : List (String × String)) : Entries :=
  vars.filterMap fun (name, text) =>
    (placeText? name).map fun place => (place, variableValue place text)

end Slipway.Settings
