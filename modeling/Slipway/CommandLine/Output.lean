import Slipway.Publish.Report
import Slipway.Task.Registry
import Slipway.Text.Json

/-!
# Output

What the program prints: the tasks of a registry and the outcomes of a publication as tables, the
latter also as JSON, and an error with its causes. Columns are as wide as they are given, in
characters; what is longer pushes the rest of its line to the right.
-/

namespace Slipway.CommandLine

/-! ### Tables -/

/-- The text filled up with blanks to a number of characters. -/
def padRight (width : Nat) (s : String) : String :=
  s ++ String.ofList (List.replicate (width - s.length) ' ')

/-- A line of a table, each cell with the width of its column. -/
def tableLine (cells : List (Nat × String)) : String :=
  " ".intercalate (cells.map fun (width, s) => padRight width s) ++ "\n"

/-- A table: a title, the names of the columns with their widths, a rule of a given length, and
rows. -/
def table (title : String) (columns : List (Nat × String)) (rule : Nat)
    (rows : List (List String)) : String :=
  let widths := columns.map (·.1)
  "\n" ++ title ++ ":\n\n" ++ tableLine columns ++
    String.ofList (List.replicate rule '-') ++ "\n" ++
    String.join (rows.map fun row => tableLine (widths.zip row)) ++ "\n"

/-- The table of the tasks of a registry. -/
def taskTable (r : Registry) : String :=
  if r.tasks.isEmpty then "ℹ️ No tasks registered.\n"
  else
    table "Tasks" [(12, "Name"), (12, "Depends on"), (50, "Description")] 76 <|
      r.tasks.map fun t =>
        let dependencies := if t.dependencies.isEmpty then "-" else ", ".intercalate t.dependencies
        [t.name, dependencies, t.description]

/-- How a table shows the package of an outcome. -/
def packageCell (o : Publish.Outcome) : String :=
  match o.package, o.version with
  | some name, some version => name ++ " " ++ version
  | some name, none => name
  | none, _ => "unknown"

/-- The table of the outcomes of a publication. -/
def publishTable (r : Publish.Report) : String :=
  let title := if r.dryRun then "Publish report (dry run)" else "Publish report"
  table title [(28, "Path"), (22, "Package"), (10, "Status"), (30, "Details")] 92 <|
    r.outcomes.map fun o =>
      [o.path, packageCell o, o.status.label, o.status.reason?.getD ""]

/-! ### JSON -/

/-- A text, or null where there is none. -/
def optionalText (s : Option String) : Text.Json :=
  match s with
  | none => .null
  | some s => .str s

/-- An outcome as JSON; the reason is given only where there is one. -/
def outcomeJson (o : Publish.Outcome) : Text.Json :=
  let reason := (o.status.reason?.map fun s => ("reason", Text.Json.str s)).toList
  .obj ([("path", .str o.path), ("package", optionalText o.package),
    ("version", optionalText o.version), ("status", .str o.status.label)] ++ reason)

/-- The outcomes of a publication as JSON, with one entry on each line. -/
def publishJson (r : Publish.Report) : String :=
  (Text.Json.obj
    [("dry_run", .bool r.dryRun), ("outcomes", .arr (r.outcomes.map outcomeJson))]).pretty 0 ++ "\n"

/-! ### Errors -/

/-- An error and its causes, the nearest first. -/
structure ErrorChain where
  message : String
  causes : List String := []
  deriving Repr, DecidableEq

namespace ErrorChain

/-- A failure and the errors that it wraps. -/
def ofFailure (f : Failure) : ErrorChain :=
  ⟨f.message, f.sources⟩

/-- The error as the cause of another one. -/
def inContext (e : ErrorChain) (context : String) : ErrorChain :=
  ⟨context, e.message :: e.causes⟩

/-- A cause behind its head; the lines after the first one are indented to the same column. -/
def causeText (head cause : String) : String :=
  let indent := String.ofList (List.replicate head.length ' ')
  head ++ ("\n" ++ indent).intercalate (Text.splitOn '\n' cause)

/-- What a cause starts with: its number in five columns if there are several causes, else four
blanks. -/
def causeHead (several : Bool) (number : Nat) : String :=
  if several then
    let digits := toString number
    String.ofList (List.replicate (5 - digits.length) ' ') ++ digits ++ ": "
  else "    "

/-- The text of an error with its causes. -/
def text (e : ErrorChain) : String :=
  let several := 1 < e.causes.length
  let causes := e.causes.zipIdx.map fun (cause, i) => "\n" ++ causeText (causeHead several i) cause
  if e.causes.isEmpty then e.message else e.message ++ "\n\nCaused by:" ++ String.join causes

end ErrorChain

end Slipway.CommandLine
