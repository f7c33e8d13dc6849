import Slipway.Trigger
import Slipway.Concurrency.Group

/-!
# Workflows

A workflow has triggers, a concurrency group, variables and jobs made of steps. The standard one
installs the toolchain and the wasm tool and then builds, checks and tests the workspace.
-/

namespace Slipway

/-- A step of a job. -/
inductive Step where
  | checkout
  /-- Installs a toolchain with compilation targets and components. -/
  | toolchain (toolchain : String) (targets components : List String)
  /-- Installs a program from a crate unless it is there. -/
  | tool (binary crate : String)
  /-- Runs a task under a title. -/
  | task (title task : String)
  deriving Repr, DecidableEq

/-- The title of a step. -/
def Step.title : Step → String
  | checkout => "Checkout"
  | toolchain .. => "Install Rust toolchain"
  | tool binary _ => "Install " ++ binary
  | task title _ => title

/-- Steps that run one after the other on one machine. -/
structure Job where
  id : String
  name : String
  runsOn : String
  steps : List Step
  deriving Repr, DecidableEq

/-- A workflow. -/
structure Workflow where
  name : String
  triggers : Triggers
  concurrency : Concurrency
  env : List (String × String)
  jobs : List Job
  deriving Repr, DecidableEq

/-- The step that installs the toolchain of the settings. -/
def Settings.toolchainStep (s : Settings) : Step :=
  .toolchain s.ci.toolchain [s.build.wasmTarget] s.ci.components

/-- The step that installs the wasm tool of the settings. -/
def Settings.toolStep (s : Settings) : Step :=
  .tool s.build.wasmTool s.ci.wasmToolCrate

namespace Workflow

/-- Where the workflow is kept below the root of the workspace. -/
def path : Path := ".github/workflows/ci.yml"

/-- The job of the standard workflow. -/
def standardJob (s : Settings) : Job :=
  { id := "build-and-test"
    name := "Build and test"
    runsOn := s.ci.runsOn
    steps :=
      [.checkout, s.toolchainStep, s.toolStep, .task "Build" "build",
        .task "Check code" "check_code", .task "Test" "test"] }

/-- The standard workflow. It exists if every variable of the settings is well formed. -/
def standard (s : Settings) : Except Failure Workflow :=
  s.environment.map fun env =>
    { name := s.ci.workflow
      triggers := .ofSettings s.ci
      concurrency := .perRef s.ci.cancelInProgress
      env
      jobs := [standardJob s] }

/-- The concurrency group of the run that an event starts. -/
def group (w : Workflow) (e : RepoEvent) : String :=
  w.concurrency.resolve w.name e.gitRef

/-- The first job of an id. -/
def job? (w : Workflow) (id : String) : Option Job :=
  w.jobs.find? (·.id == id)

end Workflow

end Slipway
