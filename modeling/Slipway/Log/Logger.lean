import Slipway.Failure
import Slipway.Log.Event
import Slipway.Log.Filter
import Slipway.Toml.Date

/-!
# Loggers

A logger is set up from a name, a filter and the places that its lines go to: the console, a file in
a directory, or both. Only one logger can be installed in a process; setting up another one fails,
but only after its log file has been created.
-/

namespace Slipway.Log

/-! ### Failures -/

/-- Why a logger could not be set up. -/
inductive SetupCause where
  /-- The log file or its directory could not be created; `attempt` says which. -/
  | appender (attempt : String) (error : OsError)
  /-- A logger is installed already. -/
  | installed
  /-- The log directory could not be created. -/
  | io (error : OsError)
  | invalidConfiguration (reason : String)
  /-- A directive of the filter is not well formed. -/
  | invalidFilter (filter : String)
  deriving Repr

/-- A cause and what was being done when it arose. -/
structure SetupFailure where
  cause : SetupCause
  context : Option String := none
  deriving Repr

namespace SetupFailure

/-- The failure with another context; an earlier one is forgotten. -/
def inContext (f : SetupFailure) (context : String) : SetupFailure :=
  { f with context := some context }

/-- The text of an error at the log file. -/
def appenderText (attempt : String) (error : OsError) : String :=
  attempt ++ ": " ++ error.message

/-- The text of the error that a logger is installed already. -/
def installedText : String := "a global default trace dispatcher has already been set"

/-- The text of a failure. -/
def message (f : SetupFailure) : String :=
  let ctx := contextText f.context
  match f.cause with
  | .appender attempt error =>
    "Rolling file appender error" ++ ctx ++ ": " ++ appenderText attempt error
  | .installed => "Tracing subscriber error" ++ ctx ++ ": " ++ installedText
  | .io error => "Log directory error" ++ ctx ++ ": " ++ error.message
  | .invalidConfiguration reason => "Invalid logger configuration" ++ ctx ++ ": " ++ reason
  | .invalidFilter filter =>
    "Invalid logger configuration" ++ ctx ++ ": Invalid env filter '" ++ filter ++
      "': invalid filter directive"

/-- The texts of the errors that a failure wraps. -/
def sources (f : SetupFailure) : List String :=
  match f.cause with
  | .appender attempt error => [appenderText attempt error, error.message]
  | .installed => [installedText]
  | .io error => [error.message]
  | _ => []

end SetupFailure

/-! ### Set-ups -/

/-- How often a new log file is begun. -/
inductive Rotation where
  | never
  | daily
  | hourly
  | minutely
  deriving Repr, DecidableEq

/-- A moment, to the minute. -/
structure Moment where
  year : Nat := 0
  month : Nat := 0
  day : Nat := 0
  hour : Nat := 0
  minute : Nat := 0
  deriving Repr

/-- The moment a number of seconds after the start of the year 1970. Days are counted in periods of
400 years that start in March, so a leap day is the last day of its year. -/
def Moment.ofSeconds (seconds : Nat) : Moment :=
  let day := seconds / 86400 + 719468
  let inPeriod := day % 146097
  let years := (inPeriod - inPeriod / 1460 + inPeriod / 36524 - inPeriod / 146096) / 365
  let inYear := inPeriod - (365 * years + years / 4 - years / 100)
  let months := (5 * inYear + 2) / 153
  let month := if months < 10 then months + 3 else months - 9
  { year := day / 146097 * 400 + years + if month ≤ 2 then 1 else 0
    month
    day := inYear - (153 * months + 2) / 5 + 1
    hour := seconds / 3600 % 24
    minute := seconds / 60 % 60 }

/-- The part of a file name that tells the files of a rotation apart. -/
def Rotation.stamp? (r : Rotation) (m : Moment) : Option String :=
  let day := Toml.padded 4 m.year ++ "-" ++ Toml.padded 2 m.month ++ "-" ++ Toml.padded 2 m.day
  match r with
  | never => none
  | daily => some day
  | hourly => some (day ++ "-" ++ Toml.padded 2 m.hour)
  | minutely => some (day ++ "-" ++ Toml.padded 2 m.hour ++ "-" ++ Toml.padded 2 m.minute)

/-- How a logger is to be set up. -/
structure Setup where
  /-- What the names of log files start with. -/
  name : String
  level : Limit := .upTo .info
  format : Format := .plain
  console : Bool := true
  directory : Option Path := none
  rotation : Rotation := .daily
  maxFiles : Nat := 7
  /-- The directives of the program, which those of the environment are added to. -/
  filter : Option String := none
  deriving Repr

namespace Setup

/-- The first thing that is wrong with the name or the number of files. -/
def validate (s : Setup) : Except SetupFailure Unit :=
  if Text.allBlank s.name then .error ⟨.invalidConfiguration "Logger name cannot be empty", none⟩
  else if s.maxFiles = 0 then
    .error ⟨.invalidConfiguration "max_files must be greater than zero", none⟩
  else .ok ()

/-- The filter of the set-up and of the environment. -/
def buildFilter (s : Setup) (environment : Option String) : Except SetupFailure Filter :=
  match Filter.build s.level s.filter environment with
  | some filter => .ok filter
  | none => .error ⟨.invalidFilter (s.filter.getD ""), none⟩

/-- The name of the log file that is written at a moment. -/
def logFile (s : Setup) (now : Moment) : Path :=
  match s.rotation.stamp? now with
  | none => s.name ++ ".log"
  | some stamp => s.name ++ "." ++ stamp ++ ".log"

end Setup

/-! ### Installing -/

/-- A logger that receives events. -/
structure Logger where
  filter : Filter
  format : Format
  console : Bool
  file : Option Path
  deriving Repr

/-- The file tree, and the logger that is installed, if one is. -/
structure World where
  tree : FileTree
  logger : Option Logger := none

/-- Creates a log file, and the directory that its name asks for if it is missing. -/
def createFile (tree : FileTree) (p : Path) : Except SetupFailure FileTree :=
  let failed (e : OsError) : SetupFailure := ⟨.appender "failed to create log file" e, none⟩
  match tree.touch p with
  | .ok tree => .ok tree
  | .error e =>
    match p.parent? with
    | none => .error (failed e)
    | some dir =>
      match tree.createDirAll dir with
      | .error e => .error ⟨.appender "failed to create log directory" e, none⟩
      | .ok tree => (tree.touch p).mapError failed

/-- Creates the log directory and the log file of a set-up. The directory stays when the file cannot
be created. -/
def prepareFile (s : Setup) (now : Moment) (tree : FileTree) :
    Except SetupFailure (Option Path) × FileTree :=
  match s.directory with
  | none => (.ok none, tree)
  | some dir =>
    match tree.createDirAll dir with
    | .error e => (.error ⟨.io e, some ("Failed to create log directory: " ++ dir)⟩, tree)
    | .ok tree =>
      let p := dir.join (s.logFile now)
      match createFile tree p with
      | .error f => (.error f, tree)
      | .ok tree => (.ok (some p), tree)

/-- Sets up a logger and installs it. The result says whether it writes a file. -/
def Setup.install (s : Setup) (environment : Option String) (now : Moment) (w : World) :
    Except SetupFailure Bool × World :=
  match s.validate with
  | .error f => (.error f, w)
  | .ok () =>
    match s.buildFilter environment with
    | .error f => (.error f, w)
    | .ok filter =>
      match prepareFile s now w.tree with
      | (.error f, tree) => (.error f, { w with tree })
      | (.ok file, tree) =>
        let w := { w with tree }
        if !s.console && file.isNone then
          (.error ⟨.invalidConfiguration
            "No logging layers enabled. Enable console or file output.", none⟩, w)
        else if w.logger.isSome then (.error ⟨.installed, none⟩, w)
        else (.ok file.isSome, { w with logger := some ⟨filter, s.format, s.console, file⟩ })

/-! ### Reporting -/

/-- Reports an event: the line for the console, if it goes there, and the world after it. -/
def report (e : Event) (w : World) : Option String × World :=
  match w.logger with
  | none => (none, w)
  | some logger =>
    if logger.filter.admits e then
      let shown := if logger.console then some (e.line logger.format false) else none
      match logger.file with
      | none => (shown, w)
      | some p =>
        let line := e.line logger.format true ++ "\n"
        match w.tree.update p (fun old => .text ((old.bind (·.text?)).getD "" ++ line)) with
        | .ok tree => (shown, { w with tree })
        | .error _ => (shown, w)
    else (none, w)

end Slipway.Log
