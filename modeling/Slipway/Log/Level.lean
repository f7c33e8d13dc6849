import Slipway.Number.Numeral
import Slipway.Text.Blank

/-!
# Log levels

The five levels of events, and the limits up to which events are let through. A limit is written as
a word or as a number from zero to five.
-/

namespace Slipway.Log

/-- How important an event is, from the most to the least. -/
inductive Level where
  | error
  | warn
  | info
  | debug
  | trace
  deriving Repr, DecidableEq

/-- The place of a level, the most important first. -/
def Level.rank : Level → Nat
  | error => 1
  | warn => 2
  | info => 3
  | debug => 4
  | trace => 5

/-- The word for a level. -/
def Level.word : Level → String
  | error => "error"
  | warn => "warn"
  | info => "info"
  | debug => "debug"
  | trace => "trace"

/-- Up to which level events are let through. -/
inductive Limit where
  | off
  | upTo (level : Level)
  deriving Repr, DecidableEq

namespace Limit

/-- Whether an event of a level is let through. -/
def admits : Limit → Level → Bool
  | off, _ => false
  | upTo limit, level => level.rank ≤ limit.rank

/-- The limits by their numbers. -/
def all : List Limit :=
  [off, upTo .error, upTo .warn, upTo .info, upTo .debug, upTo .trace]

/-- The word for a limit. -/
def word : Limit → String
  | off => "off"
  | upTo level => level.word

/-- The limit that a number or a word in any letter case stands for. -/
def ofText? (s : String) : Option Limit :=
  match (Number.word? s).bind (all[·]?) with
  | some limit => some limit
  | none => all.find? fun limit => limit.word == Text.asciiLower s

/-- The limit for the flags of a command line: being quiet wins over any number of requests for
more. -/
def ofFlags (verbose : Nat) (quiet : Bool) : Limit :=
  if quiet then upTo .error
  else
    match verbose with
    | 0 => upTo .info
    | 1 => upTo .debug
    | _ => upTo .trace

end Limit

end Slipway.Log
