import Slipway.Glob.Matcher
import Slipway.Text.Search
import Slipway.Settings.Basic

/-!
# Triggers

Which events of a repository start the workflow. Pushes are admitted by the branch, pull requests by
a switch; either kind is passed over when every changed path is ignored. An empty set of changes
says that the changes are not known, so it is never passed over.
-/

namespace Slipway

/-- The kinds of events. -/
inductive EventKind where
  | push
  | pullRequest
  deriving Repr, DecidableEq

/-- An event of a repository. -/
structure RepoEvent where
  kind : EventKind
  gitRef : String
  deriving Repr, DecidableEq

/-- The branch of an event, if its ref is a branch. -/
def RepoEvent.branch? (e : RepoEvent) : Option String :=
  Text.afterLead? "refs/heads/" e.gitRef

/-- Whether the workflow runs, and if not, why. -/
inductive Verdict where
  | run
  | branchNotWatched
  | eventNotEnabled
  | onlyIgnoredPaths
  deriving Repr, DecidableEq

/-- The text of a verdict. -/
def Verdict.text : Verdict → String
  | .run => "run"
  | .branchNotWatched => "skip (branch not watched)"
  | .eventNotEnabled => "skip (event not enabled)"
  | .onlyIgnoredPaths => "skip (only ignored paths changed)"

/-- Which events start the workflow. -/
structure Triggers where
  /-- Patterns for the branches of pushes; without any, no push is admitted. -/
  branches : List String
  pullRequest : Bool
  /-- Patterns for paths whose changes do not matter. -/
  pathsIgnore : List String
  deriving Repr, DecidableEq

namespace Triggers

/-- The triggers that the settings describe. -/
def ofSettings (ci : CiSettings) : Triggers :=
  ⟨ci.branches, ci.pullRequest, ci.pathsIgnore⟩

/-- What the kind and the ref of an event decide, if they keep it from running. -/
def refusal? (t : Triggers) (e : RepoEvent) : Option Verdict :=
  match e.kind with
  | .push =>
    if t.branches.isEmpty then some .eventNotEnabled
    else if e.branch?.any (Glob.fitsAny t.branches) then none
    else some .branchNotWatched
  | .pullRequest => if t.pullRequest then none else some .eventNotEnabled

/-- Whether there are changes and all of them are ignored. -/
def onlyIgnored (t : Triggers) (changed : List Path) : Bool :=
  !changed.isEmpty && changed.all (Glob.fitsAny t.pathsIgnore)

/-- Whether an event with the given changed paths starts a run. -/
def verdict (t : Triggers) (e : RepoEvent) (changed : List Path) : Verdict :=
  match t.refusal? e with
  | some verdict => verdict
  | none => if t.onlyIgnored changed then .onlyIgnoredPaths else .run

end Triggers

end Slipway
