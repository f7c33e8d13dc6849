import Slipway.Text.Search

/-!
# Concurrency groups

Runs of a workflow that must not overlap share a group. The group is a template in which the name
of the workflow and the git ref of the run may be asked for.
-/

namespace Slipway

/-- The group of a workflow's runs, and whether a new run cancels the one in progress. -/
structure Concurrency where
  /-- The template of the group. -/
  group : String
  cancelInProgress : Bool
  deriving Repr, DecidableEq

namespace Concurrency

/-- Stands for the name of the workflow. -/
def workflowPlaceholder : String := "$\x7b\x7b github.workflow \x7d\x7d"

/-- Stands for the git ref of the run. -/
def refPlaceholder : String := "$\x7b\x7b github.ref \x7d\x7d"

/-- One group for each workflow and ref. -/
def perRef (cancelInProgress : Bool) : Concurrency :=
  ⟨workflowPlaceholder ++ "-" ++ refPlaceholder, cancelInProgress⟩

/-- The group of a run: the workflow's name is put in first, then the ref, so a name that holds the
placeholder of the ref is expanded as well. -/
def resolve (c : Concurrency) (workflow gitRef : String) : String :=
  Text.replaceAll refPlaceholder gitRef (Text.replaceAll workflowPlaceholder workflow c.group)

end Concurrency

end Slipway
