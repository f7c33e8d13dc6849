/-!
# Scheduling runs

Runs are submitted to concurrency groups. A group has at most one run in progress and at most one
waiting: a new run cancels the waiting one, and either cancels the one in progress and takes its
place or waits for it. When the run in progress finishes, the waiting one starts.
-/

namespace Slipway

/-- The number of a run: runs are counted from one in the order of their submission. -/
abbrev RunId := Nat

/-- Where a run stands. -/
inductive RunState where
  | waiting
  | running
  | cancelled
  | finished
  deriving Repr, DecidableEq

/-- A submitted run. -/
structure Run where
  id : RunId
  group : String
  state : RunState
  deriving Repr, DecidableEq

/-- The runs of a group that are not over. -/
structure Slot where
  running : Option RunId := none
  waiting : Option RunId := none
  deriving Repr, DecidableEq

/-- What a submission did. -/
structure Admission where
  id : RunId
  state : RunState
  /-- The runs that it cancelled, a waiting one before the one in progress. -/
  cancelled : List RunId
  deriving Repr, DecidableEq

/-- All runs so far, in the order of their submission, and the slot of each group. -/
structure Schedule where
  runs : List Run := []
  slots : List (String × Slot) := []
  deriving Repr

namespace Schedule

variable (s : Schedule)

/-- The slot of a group; a group without runs has an empty one. -/
def slot (group : String) : Slot :=
  (s.slots.lookup group).getD {}

/-- The schedule with another slot for a group. -/
def setSlot (group : String) (slot : Slot) : Schedule :=
  { s with slots := (group, slot) :: s.slots.filter (·.1 != group) }

/-- The run of a number, if it was submitted. -/
def run? (id : RunId) : Option Run :=
  s.runs.find? (·.id == id)

/-- The state of a run, if it was submitted. -/
def state? (id : RunId) : Option RunState :=
  (s.run? id).map (·.state)

/-- The schedule with the given runs in another state. -/
def setState (ids : List RunId) (state : RunState) : Schedule :=
  { s with runs := s.runs.map fun run => if run.id ∈ ids then { run with state } else run }

/-- The runs in progress, in the order of their submission. -/
def inProgress : List RunId :=
  (s.runs.filter (·.state == .running)).map (·.id)

/-- Submits a run to a group. -/
def submit (group : String) (cancelInProgress : Bool) : Admission × Schedule :=
  let id := s.runs.length + 1
  let slot := s.slot group
  let (state, superseded, slot') : RunState × List RunId × Slot :=
    match slot.running with
    | none => (.running, [], ⟨some id, none⟩)
    | some active =>
      if cancelInProgress then (.running, [active], ⟨some id, none⟩)
      else (.waiting, [], ⟨some active, some id⟩)
  let cancelled := slot.waiting.toList ++ superseded
  let s := (s.setState cancelled .cancelled).setSlot group slot'
  (⟨id, state, cancelled⟩, { s with runs := s.runs ++ [⟨id, group, state⟩] })

/-- Finishes a run in progress and starts the waiting run of its group, which is returned. Nothing
happens for any other run. -/
def complete (id : RunId) : Option RunId × Schedule :=
  match s.run? id with
  | none => (none, s)
  | some run =>
    if run.state = .running then
      let next := (s.slot run.group).waiting
      let s := (s.setState [id] .finished).setSlot run.group ⟨next, none⟩
      (next, s.setState next.toList .running)
    else (none, s)

/-! ### Histories -/

/-- A call to a schedule. -/
inductive Call where
  | submit (group : String) (cancelInProgress : Bool)
  | complete (id : RunId)
  deriving Repr, DecidableEq

/-- What a call returned. -/
inductive Reply where
  | admitted (admission : Admission)
  | promoted (id : Option RunId)
  deriving Repr, DecidableEq

/-- The schedule after a call, and what the call returned. -/
def call (s : Schedule) : Call → Reply × Schedule
  | .submit group cancel =>
    let (admission, s) := s.submit group cancel
    (.admitted admission, s)
  | .complete id =>
    let (next, s) := s.complete id
    (.promoted next, s)

/-- The schedule after a list of calls on an empty one. -/
def after (calls : List Call) : Schedule :=
  calls.foldl (fun s c => (s.call c).2) {}

/-- Calls with what each of them returned. -/
def transcript (s : Schedule) : List Call → List (Call × Reply)
  | [] => []
  | c :: calls => (c, (s.call c).1) :: (s.call c).2.transcript calls

end Schedule

end Slipway
