import Slipway.Publish.Report
import Slipway.Manifest.Lookup

/-!
# Publishing

The targets of a plan are published one after the other. A target that fails does not keep the
others from being tried. After each publication that was started and is followed by another target,
the delay of the plan is kept.
-/

namespace Slipway.Publish

/-- The command that publishes the package in a directory. -/
def Plan.command (plan : Plan) (dir : Path) : Command :=
  { program := "cargo"
    args := "publish" :: if plan.dryRun then ["--dry-run"] else []
    dir := some dir
    env := plan.env }

/-- The directory of a target. -/
def Plan.directory (plan : Plan) (target : Path) : Path :=
  plan.root.join target

/-- What reading a target's manifest says: the package that is to be published, or the outcome if it
is not. -/
def Plan.inspect (plan : Plan) (tree : FileTree) (target : Path) : Except Outcome Package :=
  let dir := plan.directory target
  if tree.isFile (dir.join Manifest.fileName) then
    match Manifest.readPackage tree dir with
    | .error f => .error { path := target, status := .failed f.message }
    | .ok p =>
      if p.publishable then .ok p
      else
        .error
          { path := target
            package := some p.name
            version := p.version
            status := .skipped (p.name ++ " is marked publish = false") }
  else
    .error
      { path := target
        status := .failed ("no " ++ Manifest.fileName ++ " found in " ++ dir) }

/-- The status that the end of a publishing command stands for. -/
def statusOf (command : Command) : Except Failure Exit → Status
  | .ok exit =>
    if exit.isSuccess then .published
    else .failed ("`" ++ command.text ++ "` ended with " ++ exit.text)
  | .error f => .failed f.message

/-- Publishes one target, and says whether the publishing command was run. -/
def publishOne (host : Host) (tree : FileTree) (plan : Plan) (target : Path) (past : Trace) :
    (Outcome × Bool) × Trace :=
  match plan.inspect tree target with
  | .error outcome => ((outcome, false), past)
  | .ok p =>
    let command := plan.command (plan.directory target)
    let (result, past) := host.invoke command past
    let outcome : Outcome :=
      { path := target
        package := some p.name
        version := p.version
        status := statusOf command result }
    ((outcome, true), past)

/-- Publishes targets in order. -/
def publishEach (host : Host) (tree : FileTree) (plan : Plan) :
    List Path → Trace → List Outcome × Trace
  | [], past => ([], past)
  | target :: rest, past =>
    let ((outcome, invoked), past) := publishOne host tree plan target past
    let past :=
      if invoked && !rest.isEmpty && !plan.delay.isZero then past.wait plan.delay else past
    let (outcomes, past) := publishEach host tree plan rest past
    (outcome :: outcomes, past)

/-- Publishes all targets of a plan. -/
def publishAll (host : Host) (tree : FileTree) (plan : Plan) (past : Trace) : Report × Trace :=
  let (outcomes, past) := publishEach host tree plan plan.targets past
  (⟨plan.dryRun, outcomes⟩, past)

end Slipway.Publish
