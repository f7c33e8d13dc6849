import Slipway.Workflow.Basic
import Slipway.Text.Quoted

/-!
# The workflow file

A workflow written as the YAML file that the continuous integration server reads. Sections without
content are left out. List items and variables are quoted; names and the other fields stand as they
are.
-/

namespace Slipway.Workflow

/-- The text behind `level` indentations of two blanks, with the end of the line. -/
def line (level : Nat) (text : String) : String :=
  String.ofList (List.replicate (2 * level) ' ') ++ text ++ "\n"

/-- A key with a list of quoted items, or nothing for the empty list. -/
def listLines (level : Nat) (key : String) (items : List String) : List String :=
  if items.isEmpty then []
  else line level (key ++ ":") :: items.map fun item => line (level + 1) ("- " ++ Text.quote item)

/-- The triggers. -/
def triggerLines (t : Triggers) : List String :=
  let onPullRequest :=
    if t.pullRequest then
      line 1 "pull_request:" :: listLines 2 "paths-ignore" t.pathsIgnore
    else []
  let onPush :=
    if t.branches.isEmpty then []
    else
      line 1 "push:" ::
        (listLines 2 "branches" t.branches ++ listLines 2 "paths-ignore" t.pathsIgnore)
  line 0 "on:" :: (onPullRequest ++ onPush)

/-- The concurrency group. -/
def concurrencyLines (c : Concurrency) : List String :=
  [line 0 "concurrency:", line 1 ("group: " ++ c.group),
    line 1 ("cancel-in-progress: " ++ if c.cancelInProgress then "true" else "false")]

/-- The variables and an empty line, or nothing if there are no variables. -/
def envLines (env : List (String × String)) : List String :=
  if env.isEmpty then []
  else
    line 0 "env:" ::
      (env.map (fun (key, value) => line 1 (key ++ ": " ++ Text.quote value)) ++ ["\n"])

/-- A key with its items on one line, or nothing if there are none. -/
def inlineLines (level : Nat) (key : String) (items : List String) : List String :=
  if items.isEmpty then [] else [line level (key ++ ": " ++ ", ".intercalate items)]

/-- A step. -/
def stepLines (s : Step) : List String :=
  line 3 ("- name: " ++ s.title) ::
    match s with
    | .checkout => [line 4 "uses: actions/checkout@v4"]
    | .toolchain toolchain targets components =>
      [line 4 "uses: dtolnay/rust-toolchain@master", line 4 "with:",
        line 5 ("toolchain: " ++ toolchain)] ++
        inlineLines 5 "targets" targets ++ inlineLines 5 "components" components
    | .tool _ crate => [line 4 ("run: cargo install " ++ crate ++ " --locked")]
    | .task _ task => [line 4 ("run: cargo xtask " ++ task)]

/-- A job. -/
def jobLines (j : Job) : List String :=
  [line 1 (j.id ++ ":"), line 2 ("name: " ++ j.name), line 2 ("runs-on: " ++ j.runsOn),
    line 2 "steps:"] ++ j.steps.flatMap stepLines

/-- Jobs, with an empty line between them. -/
def jobsLines : List Job → List String
  | [] => []
  | [j] => jobLines j
  | j :: rest => jobLines j ++ "\n" :: jobsLines rest

/-- The lines of the workflow file, each with its end. -/
def lines (w : Workflow) : List String :=
  [line 0 "# Generated by `cargo xtask ci render`. Do not edit by hand.",
    line 0 ("name: " ++ w.name), "\n"] ++
    triggerLines w.triggers ++ ["\n"] ++
    concurrencyLines w.concurrency ++ ["\n"] ++
    envLines w.env ++
    line 0 "jobs:" :: jobsLines w.jobs

/-- The workflow file. -/
def render (w : Workflow) : String :=
  String.join w.lines

end Slipway.Workflow
