import Slipway.Number.Numeral

/-!
# Command lines

A command has options, at most one plain argument, and subcommands. Options are read on the level of
the command where they stand; a value may follow its option behind an equals sign or as the next
word, but then it must not look like an option. `Command.parse` reads the words of a command line
level by level and reports the first fault.
-/

namespace Slipway.CommandLine

/-! ### Grammars -/

/-- What the value of an option may be. -/
inductive ValueKind where
  | text
  /-- A path, which must not be empty. -/
  | path
  /-- A natural number of 64 bits. -/
  | word
  | choice (values : List String)
  deriving Repr

/-- What an option does. -/
inductive OptionKind where
  /-- A switch, which may be given once. -/
  | switch
  /-- Counts how often it is given, up to 255. -/
  | count
  /-- Takes a value and may be given once. -/
  | one (kind : ValueKind)
  /-- Takes a value each time it is given. -/
  | many (kind : ValueKind)
  | help
  | version
  deriving Repr

/-- An option. Only options that take no value have a short form. -/
structure Opt where
  long : String
  short : Option Char := none
  kind : OptionKind
  required : Bool := false
  /-- The long names of options that must not be given on the same level. -/
  conflicts : List String := []
  deriving Repr

/-- A command. -/
structure Command where
  name : String
  aliases : List String := []
  options : List Opt := []
  /-- Whether one plain argument may be given. -/
  takesArgument : Bool := false
  /-- A command with subcommands needs one of them. -/
  subcommands : List Command := []
  deriving Repr

/-- Why a command line is not accepted, or what it asks for instead of a command. -/
inductive Refusal where
  | help
  | version
  /-- No argument was given where a subcommand is needed. -/
  | nothingGiven
  | missingSubcommand
  | unknownSubcommand
  | unknownArgument
  | invalidValue
  | malformedValue
  | conflict
  | unneededValue
  | missingRequired
  deriving Repr, DecidableEq

/-- The exit code of a refusal. -/
def Refusal.exitCode : Refusal → Nat
  | help => 0
  | version => 0
  | _ => 2

/-! ### What was given -/

/-- A value that was given. -/
inductive Given where
  | switch
  | count (n : Nat)
  | text (s : String)
  | word (n : Nat)
  | list (items : List Given)
  deriving Repr

/-- What was given on one level, by the long names of the options, and on the levels below. -/
inductive Matches where
  | level (given : List (String × Given)) (argument : Option String)
      (subcommand : Option (String × Matches))

/-- The options given on the first level. -/
def Matches.given : Matches → List (String × Given)
  | .level given _ _ => given

/-- The plain argument given on the first level. -/
def Matches.argument : Matches → Option String
  | .level _ argument _ => argument

/-- The subcommand and what was given to it. -/
def Matches.subcommand : Matches → Option (String × Matches)
  | .level _ _ subcommand => subcommand

/-! ### One level -/

/-- Where the reading of a level stands. -/
structure Level where
  given : List (String × Given) := []
  argument : Option String := none
  /-- An option that takes a value, with the value if it has been read. -/
  pending : Option (Opt × Option String) := none
  /-- Whether only plain arguments may follow. -/
  plainOnly : Bool := false

namespace Level

/-- Whether the next word is the value of an option. -/
def awaits (l : Level) : Bool :=
  match l.pending with
  | some (_, none) => true
  | _ => false

/-- The level with a value for an option. -/
def set (l : Level) (name : String) (v : Given) : Level :=
  { l with given := l.given.filter (·.1 != name) ++ [(name, v)] }

/-- The value that a text stands for. -/
def value (kind : ValueKind) (s : String) : Except Refusal Given :=
  match kind with
  | .text => .ok (.text s)
  | .path => if s.isEmpty then .error .invalidValue else .ok (.text s)
  | .word =>
    match Number.word? s with
    | some n => .ok (.word n)
    | none => .error .malformedValue
  | .choice values => if s ∈ values then .ok (.text s) else .error .invalidValue

/-- Takes note of an option and its value. -/
def take (l : Level) (o : Opt) (s : Option String) : Except Refusal Level :=
  let earlier := l.given.lookup o.long
  match o.kind with
  | .help => .error .help
  | .version => .error .version
  | .switch => if earlier.isSome then .error .conflict else .ok (l.set o.long .switch)
  | .count =>
    match earlier with
    | some (.count n) => .ok (l.set o.long (.count (min (n + 1) 255)))
    | _ => .ok (l.set o.long (.count 1))
  | .one kind =>
    match s with
    | none => .error .invalidValue
    | some s =>
      if earlier.isSome then .error .conflict
      else (value kind s).map fun v => l.set o.long v
  | .many kind =>
    match s with
    | none => .error .invalidValue
    | some s =>
      (value kind s).map fun v =>
        match earlier with
        | some (.list items) => l.set o.long (.list (items ++ [v]))
        | _ => l.set o.long (.list [v])

/-- Takes note of the option that is pending. -/
def settle (l : Level) : Except Refusal Level :=
  match l.pending with
  | none => .ok l
  | some (o, s) => { l with pending := none }.take o s

/-- Reads an option in its long form, with the value behind an equals sign if there is one. -/
def long (c : Command) (l : Level) (name : String) (attached : Option String) :
    Except Refusal Level :=
  match c.options.find? (·.long == name) with
  | none => .error .unknownArgument
  | some o =>
    let takesValue :=
      match o.kind with
      | .one _ => true
      | .many _ => true
      | _ => false
    match takesValue, attached with
    | true, some s => (settle l).bind fun l => l.take o (some s)
    | true, none => (settle l).map fun l => { l with pending := some (o, none) }
    | false, some _ => .error .unneededValue
    | false, none => (settle l).bind fun l => l.take o none

/-- Reads options in their short form. -/
def shorts (c : Command) : Level → List Char → Except Refusal Level
  | l, [] => .ok l
  | l, ch :: rest =>
    match c.options.find? (·.short == some ch) with
    | none => .error .unknownArgument
    | some o =>
      match (settle l).bind fun l => l.take o none with
      | .error e => .error e
      | .ok l => shorts c l rest

/-- What is said of a plain word that nothing accounts for. -/
def stray (c : Command) (l : Level) (word : String) : Refusal :=
  let isSubcommand := c.subcommands.any fun sub => sub.name == word || sub.aliases.contains word
  if c.subcommands.isEmpty then .unknownArgument
  else if l.plainOnly && (isSubcommand || word == "help") then .unknownArgument
  else .unknownSubcommand

/-- Reads a plain argument. -/
def plain (c : Command) (l : Level) (word : String) : Except Refusal Level :=
  if c.takesArgument && l.argument.isNone then
    (settle l).map fun l => { l with argument := some word }
  else .error (stray c l word)

/-- Reads a word that is not a subcommand. -/
def word (c : Command) (l : Level) (s : String) : Except Refusal Level :=
  if l.plainOnly then plain c l s
  else
    match s.toList with
    | ['-', '-'] => .ok { l with plainOnly := true }
    | '-' :: '-' :: cs =>
      match Text.cutAt? '=' cs with
      | some (name, v) => long c l (String.ofList name) (some (String.ofList v))
      | none => long c l (String.ofList cs) none
    | '-' :: ch :: cs => shorts c l (ch :: cs)
    | _ =>
      match l.pending with
      | some (o, none) => .ok { l with pending := some (o, some s) }
      | _ => plain c l s

/-- Checks a level once all of its words and the levels below have been read. -/
def check (c : Command) (l : Level) (subcommand : Option (String × Matches)) :
    Except Refusal Matches :=
  match settle l with
  | .error e => .error e
  | .ok l =>
    if !c.subcommands.isEmpty && subcommand.isNone then
      .error (if l.given.isEmpty then .nothingGiven else .missingSubcommand)
    else if c.options.any fun o =>
        (l.given.lookup o.long).isSome && o.conflicts.any fun name => (l.given.lookup name).isSome
    then .error .conflict
    else if c.options.any fun o => o.required && (l.given.lookup o.long).isNone then
      .error .missingRequired
    else .ok (.level l.given l.argument subcommand)

end Level

/-! ### All levels -/

/-- The subcommand of a name. -/
def Command.subcommand? (c : Command) (name : String) : Option Command :=
  c.subcommands.find? fun sub => sub.name == name || sub.aliases.contains name

/-- What asking for help on a subcommand gives: help, unless there is no such subcommand. Help is
available on the subcommand `help` itself. -/
def Command.helpOn (c : Command) : List String → Refusal
  | [] => .help
  | name :: rest =>
    match c.subcommand? name with
    | some sub => sub.helpOn rest
    | none =>
      if name = "help" ∧ !c.subcommands.isEmpty then
        if rest.isEmpty then .help else .unknownSubcommand
      else .unknownSubcommand

/-- Reads the words of a level and of the levels below. -/
def Command.parseFrom (c : Command) (l : Level) : List String → Except Refusal Matches
  | [] => l.check c none
  | s :: rest =>
    if !l.plainOnly && !l.awaits then
      match c.subcommand? s with
      | some sub =>
        match sub.parseFrom {} rest with
        | .error e => .error e
        | .ok m => l.check c (some (sub.name, m))
      | none =>
        if s = "help" ∧ !c.subcommands.isEmpty then .error (c.helpOn rest)
        else
          match l.word c s with
          | .error e => .error e
          | .ok l => c.parseFrom l rest
    else
      match l.word c s with
      | .error e => .error e
      | .ok l => c.parseFrom l rest

/-- Reads a command line. -/
def Command.parse (c : Command) (args : List String) : Except Refusal Matches :=
  c.parseFrom {} args

/-- What was given for an option on the deepest level where it was given. -/
def Matches.deepest? (name : String) : Matches → Option Given
  | .level given _ none => given.lookup name
  | .level given _ (some (_, below)) =>
    match below.deepest? name with
    | some v => some v
    | none => given.lookup name

end Slipway.CommandLine
