import Slipway.Settings.Basic
import Slipway.Text.Quoted

/-!
# Publication plans and reports

A plan lists package directories in the order of publication. A report has one outcome for each of
them: the package was published, skipped or not published, with the reason.
-/

namespace Slipway.Publish

/-! ### Plans -/

/-- What to publish and how. -/
structure Plan where
  /-- The directory that the targets are relative to. -/
  root : Path
  targets : List Path
  /-- The pause between two publications. -/
  delay : Duration
  dryRun : Bool
  env : List (String × String)
  deriving Repr, DecidableEq

/-- The plan that the settings describe. -/
def Plan.ofSettings (root : Path) (s : Settings) : Except Failure Plan :=
  s.environment.map fun env =>
    { root
      targets := s.publish.targets
      delay := ⟨s.publish.delaySecs, 0⟩
      dryRun := s.publish.dryRun
      env }

/-! ### Reports -/

/-- How the attempt to publish a package ended. -/
inductive Status where
  | published
  | skipped (reason : String)
  | failed (reason : String)
  deriving Repr, DecidableEq

namespace Status

/-- Whether the package was not published although it should have been. -/
def isFailure : Status → Bool
  | failed _ => true
  | _ => false

/-- The word for a status. -/
def label : Status → String
  | published => "published"
  | skipped _ => "skipped"
  | failed _ => "failed"

/-- Why a package was not published. -/
def reason? : Status → Option String
  | published => none
  | skipped reason => some reason
  | failed reason => some reason

end Status

/-- What happened to a target. -/
structure Outcome where
  path : Path
  /-- The name of the package, once its manifest has been read. -/
  package : Option String := none
  version : Option String := none
  status : Status
  deriving Repr, DecidableEq

/-- What happened to all targets, in their order. -/
structure Report where
  dryRun : Bool := false
  outcomes : List Outcome := []
  deriving Repr, DecidableEq

namespace Report

/-- The outcomes of targets that failed. -/
def failures (r : Report) : List Outcome :=
  r.outcomes.filter (·.status.isFailure)

/-- How many targets were published. -/
def published (r : Report) : Nat :=
  (r.outcomes.filter (·.status == .published)).length

/-- Whether no target failed. -/
def isSuccess (r : Report) : Bool :=
  r.failures.isEmpty

/-- The report itself if no target failed. -/
def result (r : Report) : Except Failure Report :=
  if r.failures.length = 0 then .ok r
  else .error ⟨.publishFailed r.failures.length r.outcomes.length, none⟩

end Report

end Slipway.Publish
