import Slipway.Workflow.Basic
import Slipway.Task.Session

/-!
# Running jobs on this machine

The steps of a job run in order, and the first that fails ends the job. Checking out does nothing
here, and a toolchain step only adds targets and components to the toolchain in use. Tasks run in a
session, so a task that an earlier step completed is not run again.
-/

namespace Slipway

/-- The commands of a toolchain step. -/
def toolchainCommands (targets components : List String) : List Command :=
  (if targets.isEmpty then []
    else [{ program := "rustup", args := ["target", "add"] ++ targets }]) ++
  (if components.isEmpty then []
    else [{ program := "rustup", args := ["component", "add"] ++ components }])

/-- The command that installs a program from its crate. -/
def installCommand (crate : String) : Command :=
  { program := "cargo", args := ["install", crate, "--locked"] }

namespace Session

variable (session : Session) (r : Registry) (host : Host) (tree : FileTree)

/-- Runs a step. -/
def runStep (step : Step) (past : Trace) : Ran Unit :=
  match step with
  | .checkout => ⟨.ok (), session, past⟩
  | .toolchain _ targets components =>
    let (result, past) := host.requireAll none (toolchainCommands targets components) past
    ⟨result, session, past⟩
  | .tool binary crate =>
    match host.probe binary past with
    | (true, past) => ⟨.ok (), session, past⟩
    | (false, past) =>
      let (result, past) := host.require none (installCommand crate) past
      ⟨result, session, past⟩
  | .task _ name =>
    let ran := session.run r host tree name past
    ⟨ran.result.map fun _ => (), ran.session, ran.trace⟩

/-- Runs steps in order up to the first that fails. -/
def runSteps (r : Registry) (host : Host) (tree : FileTree) : Session → List Step → Trace → Ran Unit
  | session, [], past => ⟨.ok (), session, past⟩
  | session, step :: rest, past =>
    let ran := session.runStep r host tree step past
    match ran.result with
    | .error f => ⟨.error f, ran.session, ran.trace⟩
    | .ok () => runSteps r host tree ran.session rest ran.trace

/-- Runs the steps of a job in order; a failure carries the title of its step. -/
def runTitled (r : Registry) (host : Host) (tree : FileTree) :
    Session → List Step → Trace → Ran Unit
  | session, [], past => ⟨.ok (), session, past⟩
  | session, step :: rest, past =>
    let ran := session.runStep r host tree step past
    match ran.result with
    | .error f => ⟨.error (f.inContext ("step '" ++ step.title ++ "'")), ran.session, ran.trace⟩
    | .ok () => runTitled r host tree ran.session rest ran.trace

/-- Runs a job. -/
def runJob (job : Job) (past : Trace) : Ran Unit :=
  session.runTitled r host tree job.steps past

end Session

end Slipway
