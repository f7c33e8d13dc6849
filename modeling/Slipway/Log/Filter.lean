import Slipway.Log.Event
import Slipway.Text.Regex

/-!
# Log filters

A filter is a list of directives, each a limit for the events whose target starts with the
directive's target; a bare limit has the empty target. A directive may also ask for a field of the
event, or for a span around it. The most specific directive decides about an event, and without any
the event is dropped. `Filter.build` combines the filter of the program with that of the
environment, whose directives come last and so replace those of the same target and scope.
-/

namespace Slipway.Log

/-- What a directive asks for besides the target. -/
inductive Scope where
  | anywhere
  /-- Events with a field of this name. -/
  | field (name : String)
  /-- Events within certain spans. No event is reported within a span. -/
  | span
  deriving Repr, DecidableEq

/-- A limit for the events whose target starts with a text. -/
structure Directive where
  target : String := ""
  scope : Scope := .anywhere
  limit : Limit
  deriving Repr, DecidableEq

/-! ### Reading directives -/

/-- Whether a target may start with a character: a letter, a digit, a dash, a colon or an
underscore. -/
def startsTarget (c : Char) : Bool :=
  Text.isAlphanumeric c || c == '-' || c == ':' || c == '_'

/-- What a text in braces asks for: a field, or a span with a field of the value behind an equals
sign, which is a number or a regular expression. What stands behind another equals sign does not
count. -/
def Scope.ofField? (s : String) : Option Scope :=
  match Text.splitOn '=' s with
  | [] => none
  | [name] => if name.isEmpty then none else some (.field name)
  | _ :: value :: _ =>
    if (Number.float? value).isSome || Text.isRegex value then some .span else none

/-- What brackets ask for, from what follows the opening one, `cs` at position `i` of the text; and
the position after the closing one with what follows it. A name in the brackets is that of a span,
and braces behind it hold a field. -/
def Scope.ofBrackets? (s : String) (i : Nat) (cs : List Char) :
    Option (Scope × Nat × List Char) := do
  let (name, rest) := cs.span fun c => c != ']' && c != '{'
  let i := i + Text.byteCount name
  match rest with
  | [] => none
  | ']' :: rest => some (.span, i + 1, rest)
  | _ :: rest =>
    let (inner, rest) := rest.span (· != '}')
    let j := i + 1 + Text.byteCount inner
    let rest ← Text.dropLead? ['}', ']'] rest
    let scope ← Scope.ofField? (← Text.betweenBytes? s (i + 1) j)
    some (if name.isEmpty then scope else .span, j + 2, rest)

/-- The limit at the end of a directive, of which `cs` is left at position `i` of the text. Without
an equals sign, or without a limit behind it, everything is let through. -/
def Limit.atEnd? (s : String) (i : Nat) (cs : List Char) : Option Limit :=
  match cs with
  | [] => some (.upTo .trace)
  | '=' :: _ =>
    (Text.fromByte? s (i + 1)).bind fun word =>
      if word.isEmpty then some (.upTo .trace) else Limit.ofText? word
  | _ => none

/-- The directive that a text stands for: a limit, a target, or a target with brackets, an equals
sign and a limit behind it, where the brackets or the equals sign and the limit may be missing, and
with brackets the target too. Blanks around a directive are passed over to find its parts, but the
parts are taken from the whole text at the positions that they would have without the blanks. -/
def Directive.ofText? (s : String) : Option Directive := do
  let (name, rest) := (Text.trimBy Text.isBlank s.toList).span fun c => c != '=' && c != '['
  if name.head?.any fun c => !startsTarget c then none
  let i := Text.byteCount name
  match rest with
  | '[' :: rest =>
    let target ← Text.betweenBytes? s 0 i
    let (scope, i, rest) ← Scope.ofBrackets? s (i + 1) rest
    some { target, scope, limit := ← Limit.atEnd? s i rest }
  | rest =>
    if name.isEmpty then none
    if rest.isEmpty then
      match Limit.ofText? s with
      | some limit => some { limit }
      | none => some { target := s, limit := .upTo .trace }
    else some { target := ← Text.betweenBytes? s 0 i, limit := ← Limit.atEnd? s i rest }

/-- The directives in a comma list, empty entries left out. -/
def entriesOf (s : String) : List String :=
  (Text.splitOn ',' s).filter fun entry => !entry.isEmpty

/-! ### Comparing directives -/

/-- Whether a scope takes in an event. -/
def Scope.takesIn (scope : Scope) (e : Event) : Bool :=
  match scope with
  | anywhere => true
  | field name => e.fieldNames.contains name
  | span => false

/-- Whether a directive is about an event. -/
def Directive.concerns (d : Directive) (e : Event) : Bool :=
  d.target.toList.isPrefixOf e.target.toList && d.scope.takesIn e

/-- Whether a scope is the narrower one of two: a field is narrower than none, and of two fields the
one with the greater name counts. -/
def Scope.isNarrower : Scope → Scope → Bool
  | field _, anywhere => true
  | field a, field b => b < a
  | _, _ => false

/-- Whether a directive is more specific than another one about the same event: its target is
longer, or its scope is narrower. -/
def Directive.outranks (d b : Directive) : Bool :=
  if d.target.length = b.target.length then d.scope.isNarrower b.scope
  else b.target.length < d.target.length

/-! ### Filters -/

/-- Directives that differ in target or scope. -/
abbrev Filter := List Directive

namespace Filter

/-- The filter with one more directive, which replaces one of the same target and scope. -/
def add (f : Filter) (d : Directive) : Filter :=
  f.filter (fun b => b.target != d.target || b.scope != d.scope) ++ [d]

/-- The filter of a list of directives. -/
def ofDirectives (ds : List Directive) : Filter :=
  ds.foldl add []

/-- The most specific directive among those about an event. -/
def decisive? (f : Filter) (e : Event) : Option Directive :=
  (f.filter (·.concerns e)).foldl
    (fun best d =>
      match best with
      | none => some d
      | some b => if d.outranks b then some d else some b)
    none

/-- The limit for events such as the given one. -/
def limitFor (f : Filter) (e : Event) : Limit :=
  match f.decisive? e with
  | some d => d.limit
  | none => .off

/-- The filter of some directives, or, if there are none, the level for everything. -/
def orLevel (level : Limit) (ds : List Directive) : Filter :=
  if ds.isEmpty then [{ limit := level }] else ofDirectives ds

/-- The directives in the text of the environment that are added to a filter of the program: blanks
around them are dropped, and those that are not well formed are ignored. -/
def environmentDirectives (s : String) : List Directive :=
  (Text.splitOn ',' s).filterMap fun entry => Directive.ofText? (Text.trim entry)

/-- The filter of a program and of the environment. Without a filter of the program the well-formed
directives of the environment stand alone; otherwise every directive of the program has to be well
formed, and those of the environment are added. The level counts if there is no directive, in the
former case in the environment and in the latter in the program. -/
def build (level : Limit) (program environment : Option String) : Option Filter :=
  let environment := environment.getD ""
  match program with
  | none => some (orLevel level ((entriesOf environment).filterMap Directive.ofText?))
  | some text =>
    ((entriesOf text).mapM Directive.ofText?).map fun ds =>
      (environmentDirectives environment).foldl add (orLevel level ds)

/-- Whether an event is let through. -/
def admits (f : Filter) (e : Event) : Bool :=
  (f.limitFor e).admits e.level

end Filter

end Slipway.Log
