import Slipway.CommandLine.Arguments
import Slipway.CommandLine.Output
import Slipway.Log.Logger
import Slipway.Settings.Load
import Slipway.Task.Standard
import Slipway.Workflow.Local
import Slipway.Workflow.Render

/-!
# The program

The program reads its arguments, sets up its logger, loads the settings of the workspace and does
what it is asked to do. `run` says how it ends, what it prints, and what it leaves behind.
-/

namespace Slipway.CommandLine

/-- The version of the program. -/
def versionText : String := "cargo xtask 0.1.0\n"

/-- What the program finds when it is started. -/
structure Surroundings where
  /-- The root of the workspace. -/
  root : Path
  tree : FileTree
  vars : List (String × String)
  now : Log.Moment := {}

/-- A workspace with its settings. -/
structure Workspace where
  root : Path
  tree : FileTree
  settings : Settings

/-- How doing something ended: what it printed, whether it succeeded, and what it left behind. -/
structure Ending where
  output : String := ""
  result : Except ErrorChain Unit
  tree : FileTree
  trace : Trace := []

namespace Workspace

variable (w : Workspace) (host : Host)

/-- An ending that changed no file. -/
def ending (output : String) (result : Except Failure Unit) (trace : Trace) : Ending :=
  { output, result := result.mapError .ofFailure, tree := w.tree, trace }

/-- An ending that did nothing but fail. -/
def failed (f : Failure) : Ending :=
  w.ending "" (.error f) []

/-- The standard tasks of the workspace. -/
def tasks (options : TaskOptions) : Except Failure Registry :=
  Registry.standard w.root w.settings options

/-- The standard workflow of the workspace. -/
def workflow : Except Failure Workflow :=
  Workflow.standard w.settings

/-! ### Tasks -/

/-- Runs a task after those that it depends on. -/
def runTask (name : String) (options : TaskOptions) (past : Trace) : Ending :=
  match w.tasks options with
  | .error f => w.ending "" (.error f) past
  | .ok r =>
    let ran := Session.run {} r host w.tree name past
    w.ending "" (ran.result.map fun _ => ()) ran.trace

/-- Runs the tests of one package, or of all packages, by the better runner if it is installed. -/
def runTests (project : Option String) : Ending :=
  let (nextest, past) := host.probe "cargo-nextest" []
  w.runTask host "test" { testPackage := project.filter (· != "all"), nextest } past

/-- Lists the tasks. -/
def listTasks : Ending :=
  match w.tasks {} with
  | .error f => w.failed f
  | .ok r => w.ending (taskTable r) (.ok ()) []

/-! ### Publishing -/

/-- The plan of the settings, as the options change it. -/
def publishPlan (options : PublishOptions) : Except Failure Publish.Plan :=
  (Publish.Plan.ofSettings w.root w.settings).map fun plan =>
    { plan with
      dryRun := plan.dryRun || options.dryRun
      delay := (options.delay.map fun seconds => ⟨seconds, 0⟩).getD plan.delay }

/-- Publishes all packages. -/
def publishAll (options : PublishOptions) : Except Failure (Publish.Report × Trace) :=
  (w.publishPlan options).map fun plan => Publish.publishAll host w.tree plan []

/-- Publishes all packages and prints the report. Packages that fail are a failure unless they are
to be ignored. -/
def publish (options : PublishOptions) : Ending :=
  match w.publishAll host options with
  | .error f => w.failed f
  | .ok (report, trace) =>
    let output := if options.json then publishJson report else publishTable report
    let result := if options.noFail then .ok () else report.result.map fun _ => ()
    w.ending output result trace

/-! ### Setting up -/

/-- What a development machine needs. -/
def setupSteps : List Step :=
  [w.settings.toolchainStep, w.settings.toolStep, .tool "cargo-nextest" "cargo-nextest"]

/-- Installs what a development machine needs. -/
def setUp : Ending :=
  match w.tasks {} with
  | .error f => w.failed f
  | .ok r =>
    let ran := Session.runSteps r host w.tree {} w.setupSteps []
    w.ending "" ran.result ran.trace

/-! ### Continuous integration -/

/-- Runs jobs in order up to the first that fails. -/
def runJobs (r : Registry) : List Job → Session → Trace → Ending
  | [], _, past => w.ending "" (.ok ()) past
  | job :: rest, session, past =>
    let ran := session.runJob r host w.tree job past
    match ran.result with
    | .ok () => runJobs r rest ran.session ran.trace
    | .error f =>
      { result := .error ((ErrorChain.ofFailure f).inContext ("CI job '" ++ job.id ++ "' failed"))
        tree := w.tree
        trace := ran.trace }

/-- Runs the jobs of the workflow on this machine. -/
def runWorkflow : Ending :=
  match w.workflow with
  | .error f => w.failed f
  | .ok workflow =>
    match w.tasks {} with
    | .error f => w.failed f
    | .ok r => w.runJobs host r workflow.jobs {} []

/-- Says whether an event starts the workflow, and in which concurrency group. -/
def checkTrigger (event : RepoEvent) (changed : List Path) : Ending :=
  match w.workflow with
  | .error f => w.failed f
  | .ok workflow =>
    let verdict := workflow.triggers.verdict event changed
    let group :=
      if verdict = .run then "concurrency group: " ++ workflow.group event ++ "\n" else ""
    w.ending (verdict.text ++ "\n" ++ group) (.ok ()) []

/-- An ending by an error of the operating system. -/
def osFailed (context : String) (tree : FileTree) (e : OsError) : Ending :=
  { result := .error ⟨context, [e.message]⟩, tree }

/-- Says whether the workflow file is the given text. -/
def compareWorkflow (text : String) : Ending :=
  let p := w.root.join Workflow.path
  match w.tree.readText p with
  | .error e => osFailed ("Failed to read " ++ p) w.tree e
  | .ok current =>
    if current = text then
      { output := "✅ " ++ Workflow.path ++ " is up to date.\n", result := .ok (), tree := w.tree }
    else
      { result := .error ⟨Workflow.path ++ " is out of date; run `cargo xtask ci render`", []⟩
        tree := w.tree }

/-- Creates the directories on the way to a file, and writes it. -/
def writeWorkflow (text : String) : Ending :=
  let p := w.root.join Workflow.path
  let prepared : Except ErrorChain FileTree :=
    match p.parent? with
    | none => .ok w.tree
    | some dir =>
      (w.tree.createDirAll dir).mapError fun e => ⟨"Failed to create " ++ dir, [e.message]⟩
  match prepared with
  | .error e => { result := .error e, tree := w.tree }
  | .ok tree =>
    match tree.write p text with
    | .error e => osFailed ("Failed to write " ++ p) tree e
    | .ok tree => { result := .ok (), tree }

/-- Writes the workflow file, or only checks that it is up to date. -/
def renderWorkflow (check : Bool) : Ending :=
  match w.workflow with
  | .error f => w.failed f
  | .ok workflow =>
    if check then w.compareWorkflow workflow.render else w.writeWorkflow workflow.render

/-! ### All requests -/

/-- Does what is asked for. -/
def fulfil : Request → Ending
  | .build => w.runTask host "build" {} []
  | .checkCode => w.runTask host "check_code" {} []
  | .test project => w.runTests host project
  | .publish options => w.publish host options
  | .tasks => w.listTasks
  | .setup => w.setUp host
  | .ciRun => w.runWorkflow host
  | .ciCheck event changed => w.checkTrigger event changed
  | .ciRender check => w.renderWorkflow check

end Workspace

/-! ### The whole run -/

/-- The logger that the arguments ask for. -/
def loggerSetup (a : Arguments) : Log.Setup :=
  { name := "xtask"
    level := Log.Limit.ofFlags a.verbose a.quiet
    format := if a.logDir.isSome then .json else .plain
    directory := a.logDir }

/-- Carries out arguments. The commands are run by the host that the file tree of the moment
gives. -/
def carryOut (hostOn : FileTree → Host) (s : Surroundings) (a : Arguments) : Ending :=
  match (loggerSetup a).install (s.vars.lookup "RUST_LOG") s.now { tree := s.tree } with
  | (.error f, world) => { result := .error ⟨f.message, f.sources⟩, tree := world.tree }
  | (.ok _, world) =>
    match Settings.loadWorkspace world.tree s.root a.config s.vars with
    | .error f =>
      { result := .error ((ErrorChain.ofFailure f).inContext "Failed to load xtask settings")
        tree := world.tree }
    | .ok settings =>
      Workspace.fulfil ⟨s.root, world.tree, settings⟩ (hostOn world.tree) a.request

/-- How a run of the program ends. -/
structure Finish where
  exitCode : Nat
  output : String := ""
  error : Option ErrorChain := none
  tree : FileTree
  trace : Trace := []

/-- What the program prints when it does not accept its arguments; the text of help is left to the
outer layer. -/
def Refusal.output : Refusal → String
  | .version => versionText
  | _ => ""

/-- Runs the program. -/
def run (hostOn : FileTree → Host) (s : Surroundings) (words : List String) : Finish :=
  match Arguments.parse words with
  | .error refusal => { exitCode := refusal.exitCode, output := refusal.output, tree := s.tree }
  | .ok a =>
    let ending := carryOut hostOn s a
    match ending.result with
    | .ok () =>
      { exitCode := 0, output := ending.output, tree := ending.tree, trace := ending.trace }
    | .error e =>
      { exitCode := 1
        output := ending.output
        error := some e
        tree := ending.tree
        trace := ending.trace }

end Slipway.CommandLine
