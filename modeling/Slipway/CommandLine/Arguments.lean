import Slipway.CommandLine.Grammar
import Slipway.Path
import Slipway.Trigger

/-!
# Arguments

The command line of the program: a request and the options that every command accepts. The options
may stand on any level of the command line, and the deepest level that gives one wins.
-/

namespace Slipway.CommandLine

/-! ### What is asked for -/

/-- How the packages are to be published. -/
structure PublishOptions where
  dryRun : Bool := false
  /-- The pause between two packages, in seconds, instead of that of the settings. -/
  delay : Option Nat := none
  /-- Whether the report is printed as JSON. -/
  json : Bool := false
  /-- Whether packages that fail are no failure of the program. -/
  noFail : Bool := false
  deriving Repr, DecidableEq

/-- What the program is asked to do. -/
inductive Request where
  | build
  | checkCode
  | test (project : Option String)
  | publish (options : PublishOptions)
  | tasks
  | setup
  | ciRun
  | ciCheck (event : RepoEvent) (changed : List Path)
  | ciRender (check : Bool)
  deriving Repr, DecidableEq

/-- A request with the options that every command accepts. -/
structure Arguments where
  /-- The settings file, if it is not that of the workspace. -/
  config : Option Path := none
  /-- How often more log lines were asked for. -/
  verbose : Nat := 0
  quiet : Bool := false
  /-- The directory that log lines are written to as well. -/
  logDir : Option Path := none
  request : Request
  deriving Repr, DecidableEq

/-! ### The grammar -/

/-- The option that asks for help. -/
def helpOption : Opt :=
  { long := "help", short := some 'h', kind := .help }

/-- The options that every command accepts. -/
def sharedOptions : List Opt :=
  [{ long := "config", kind := .one .path },
    { long := "verbose", short := some 'v', kind := .count },
    { long := "quiet", short := some 'q', kind := .switch, conflicts := ["verbose"] },
    { long := "log-dir", kind := .one .path }, helpOption]

/-- A command with options of its own besides those that every command accepts. -/
def leaf (name : String) (options : List Opt) : Command :=
  { name, options := options ++ sharedOptions }

/-- The word for a kind of event. -/
def eventWord : EventKind → String
  | .push => "push"
  | .pullRequest => "pull-request"

/-- The kind of event that a word stands for. -/
def eventOfWord? (s : String) : Option EventKind :=
  [EventKind.push, .pullRequest].find? fun kind => eventWord kind == s

/-- The commands about continuous integration. -/
def ciCommand : Command :=
  { name := "ci"
    options := sharedOptions
    subcommands :=
      [leaf "run" [],
        leaf "check"
          [{ long := "event", kind := .one (.choice ["push", "pull-request"]), required := true },
            { long := "ref", kind := .one .text, required := true },
            { long := "changed", kind := .many .text }],
        leaf "render" [{ long := "check", kind := .switch }]] }

/-- The command line of the program. -/
def grammar : Command :=
  { name := "cargo xtask"
    options := sharedOptions ++ [{ long := "version", short := some 'V', kind := .version }]
    subcommands :=
      [leaf "build" [],
        { leaf "check-code" [] with aliases := ["check_code"] },
        { leaf "test" [] with takesArgument := true },
        leaf "publish"
          [{ long := "dry-run", kind := .switch }, { long := "delay", kind := .one .word },
            { long := "json", kind := .switch }, { long := "no-fail", kind := .switch }],
        leaf "tasks" [],
        leaf "setup" [],
        ciCommand] }

/-! ### Reading -/

namespace Matches

/-- Whether a switch was given on the first level. -/
def flag (m : Matches) (name : String) : Bool :=
  (m.given.lookup name).isSome

/-- The text of an option given on the first level. -/
def text? (m : Matches) (name : String) : Option String :=
  match m.given.lookup name with
  | some (.text s) => some s
  | _ => none

/-- The number of an option given on the first level. -/
def word? (m : Matches) (name : String) : Option Nat :=
  match m.given.lookup name with
  | some (.word n) => some n
  | _ => none

/-- The texts of an option given any number of times on the first level. -/
def texts (m : Matches) (name : String) : List String :=
  match m.given.lookup name with
  | some (.list items) =>
    items.filterMap fun
      | .text s => some s
      | _ => none
  | _ => []

end Matches

/-- The event that the options of a check describe. -/
def event? (m : Matches) : Option RepoEvent := do
  let kind ← (m.text? "event").bind eventOfWord?
  return ⟨kind, ← m.text? "ref"⟩

/-- The request about continuous integration in what was given to the command. -/
def ciRequest? (m : Matches) : Option Request :=
  match m.subcommand with
  | some ("run", _) => some .ciRun
  | some ("check", m) => (event? m).map fun event => .ciCheck event (m.texts "changed")
  | some ("render", m) => some (.ciRender (m.flag "check"))
  | _ => none

/-- The options of a publication. -/
def publishOptions (m : Matches) : PublishOptions :=
  ⟨m.flag "dry-run", m.word? "delay", m.flag "json", m.flag "no-fail"⟩

/-- The request in what was given to the program. -/
def request? (m : Matches) : Option Request :=
  match m.subcommand with
  | some ("build", _) => some .build
  | some ("check-code", _) => some .checkCode
  | some ("test", m) => some (.test m.argument)
  | some ("publish", m) => some (.publish (publishOptions m))
  | some ("tasks", _) => some .tasks
  | some ("setup", _) => some .setup
  | some ("ci", m) => ciRequest? m
  | _ => none

/-- The path given for an option that every command accepts. -/
def sharedPath? (m : Matches) (name : String) : Option Path :=
  match m.deepest? name with
  | some (.text s) => some s
  | _ => none

/-- How often more log lines were asked for. -/
def verbosity (m : Matches) : Nat :=
  match m.deepest? "verbose" with
  | some (.count n) => n
  | _ => 0

/-- The arguments in what was given to the program. The grammar admits no command line without a
request, so the refusal here is never seen. -/
def Arguments.ofMatches (m : Matches) : Except Refusal Arguments :=
  match request? m with
  | none => .error .missingSubcommand
  | some request =>
    .ok
      { config := sharedPath? m "config"
        verbose := verbosity m
        quiet := (m.deepest? "quiet").isSome
        logDir := sharedPath? m "log-dir"
        request }

/-- Reads the words of a command line. -/
def Arguments.parse (words : List String) : Except Refusal Arguments :=
  (grammar.parse words).bind Arguments.ofMatches

end Slipway.CommandLine
