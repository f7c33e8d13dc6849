import Slipway.Workflow.Basic
import Slipway.Proofs.Concurrency.Isolation
import Slipway.Proofs.Text.Replacement
import Mathlib.Data.List.Count

/-!
# One group for each ref

The runs of a standard workflow share a group exactly if they have the same git ref
(`Concurrency.resolve_perRef_inj`), even if the name of the workflow asks for the ref itself: the
group still holds the ref at least once, and what is put in for a placeholder can be read off.

So what is said of groups can be said of refs. `Workflow.concerning` keeps of a history what
concerns one ref, and the runs of this ref end in the same states when nothing else happens
(`Workflow.state?_concerning`).
-/

namespace Slipway

namespace Concurrency

theorem toList_refPlaceholder_ne_nil : refPlaceholder.toList ≠ [] := by decide

/-- The name of the workflow takes the place of its placeholder only. -/
theorem replaceAll_perRef (cancel : Bool) (workflow : String) :
    Text.replaceAll workflowPlaceholder workflow (perRef cancel).group =
      workflow ++ "-" ++ refPlaceholder := by
  have hrest :
      Text.occurrences workflowPlaceholder.toList 0 ("-" ++ refPlaceholder).toList = 0 := by
    decide
  have hgroup : (perRef cancel).group.toList =
      workflowPlaceholder.toList ++ ("-" ++ refPlaceholder).toList := by
    simp [perRef]
  rw [Text.replaceAll, hgroup, Text.replaceFrom_append_self (by decide),
    Text.replaceFrom_of_occurrences_eq_zero hrest, ← String.toList_append, String.ofList_toList,
    String.append_assoc]

theorem resolve_perRef_inj {cancel : Bool} {workflow ref ref' : String}
    (h : (perRef cancel).resolve workflow ref = (perRef cancel).resolve workflow ref') :
    ref = ref' := by
  rw [resolve, resolve, replaceAll_perRef] at h
  have hocc : 0 < Text.occurrences refPlaceholder.toList 0
      (workflow ++ "-" ++ refPlaceholder).toList := by
    have := Text.occurrences_append_pos toList_refPlaceholder_ne_nil (workflow ++ "-").toList []
    simpa using this
  exact String.toList_inj.1 (Text.replaceFrom_inj hocc (String.ofList_inj.1 h))

end Concurrency

open Schedule

/-! ### One group for many refs -/

section
variable {refs : List String} {f : String → String} {ref : String} {id : RunId}

theorem Schedule.isOwn_map_iff (hf : f.Injective) :
    IsOwn (refs.map f) (f ref) id ↔ IsOwn refs ref id := by
  rw [IsOwn, IsOwn, List.getElem?_map, Option.map_eq_some_iff]
  simp only [hf.eq_iff, exists_eq_right]

theorem Schedule.rank_map (hf : f.Injective) : rank (refs.map f) (f ref) id = rank refs ref id := by
  rw [rank, rank, ← List.map_take, List.count_map_of_injective _ f hf]

end

/-! ### The runs of a workflow -/

namespace Workflow

/-- What happens to the runs of a workflow: an event starts one, or one is finished. -/
inductive Activity where
  | event (e : RepoEvent)
  | finished (id : RunId)
  deriving Repr, DecidableEq

def groupOf (w : Workflow) (ref : String) : String :=
  w.concurrency.resolve w.name ref

def callOf (w : Workflow) : Activity → Call
  | .event e => .submit (w.group e) w.concurrency.cancelInProgress
  | .finished id => .complete id

def scheduleAfter (w : Workflow) (history : List Activity) : Schedule :=
  after (history.map w.callOf)

/-- The refs of the runs, in the order of their numbers. -/
def refsOf (history : List Activity) : List String :=
  history.filterMap fun
    | .event e => some e.gitRef
    | .finished _ => none

/-- What of a history concerns a ref: its events and the ends of its runs, with other numbers for
the runs. The end of a run counts only if the run is already submitted, so the refs of the runs so
far are kept. -/
def concerning (ref : String) (ρ : RunId → RunId) : List String → List Activity → List Activity
  | _, [] => []
  | refs, .event e :: history =>
    if e.gitRef = ref then .event e :: concerning ref ρ (refs ++ [e.gitRef]) history
    else concerning ref ρ (refs ++ [e.gitRef]) history
  | refs, .finished id :: history =>
    if IsOwn refs ref id then .finished (ρ id) :: concerning ref ρ refs history
    else concerning ref ρ refs history

variable {w : Workflow} {s : Settings} {history : List Activity} {ref : String} {id : RunId}

theorem groupOf_injective (h : standard s = .ok w) : w.groupOf.Injective := by
  rw [standard] at h
  cases he : s.environment with
  | error f => rw [he] at h; cases h
  | ok env =>
    rw [he] at h
    obtain rfl := Except.ok.inj h
    exact fun ref ref' => Concurrency.resolve_perRef_inj

theorem groupsOf_map_callOf (w : Workflow) (history : List Activity) :
    groupsOf (history.map w.callOf) = (refsOf history).map w.groupOf := by
  induction history with
  | nil => rfl
  | cons a history ih =>
    cases a with
    | event e => exact congrArg (w.groupOf e.gitRef :: ·) ih
    | finished id => exact ih

/-- What a log says of the group of a ref is what concerns the ref. -/
theorem map_fst_logOf (hw : w.groupOf.Injective) (ref : String) (ρ : RunId → RunId)
    (t : Schedule) (refs : List String) (history : List Activity) :
    (logOf (w.groupOf ref) ρ (refs.map w.groupOf) (t.transcript (history.map w.callOf))).map (·.1) =
      (concerning ref ρ refs history).map w.callOf := by
  induction history generalizing t refs with
  | nil => rfl
  | cons a history ih =>
    cases a with
    | event e =>
      have hiff : w.group e = w.groupOf ref ↔ e.gitRef = ref := hw.eq_iff
      have hrefs : refs.map w.groupOf ++ [w.group e] = (refs ++ [e.gitRef]).map w.groupOf := by
        rw [List.map_append]; rfl
      rw [List.map_cons, callOf, transcript, logOf, concerning, hrefs]
      by_cases he : e.gitRef = ref
      · rw [if_pos he, if_pos (hiff.2 he), List.map_cons, List.map_cons, ih]; rfl
      · rw [if_neg he, if_neg (mt hiff.1 he), ih]
    | finished id =>
      rw [List.map_cons, callOf, transcript, logOf, concerning]
      by_cases hid : IsOwn refs ref id
      · rw [if_pos hid, if_pos ((isOwn_map_iff hw).2 hid), List.map_cons, List.map_cons, ih]; rfl
      · rw [if_neg hid, if_neg (mt (isOwn_map_iff hw).1 hid), ih]

/-- The schedule after a history and the one after what concerns a ref agree on its runs. -/
theorem mirrors_concerning (hw : w.groupOf.Injective) (history : List Activity) (ref : String) :
    Mirrors ((refsOf history).map w.groupOf) (w.groupOf ref) (w.scheduleAfter history)
      (w.scheduleAfter (concerning ref (rank (refsOf history) ref) [] history)) := by
  have hall := groupsOf_map_callOf w history
  have hm := ((mirrors_empty (groupsOf (history.map w.callOf)) (w.groupOf ref)).transcript_logOf
    (show groupsOf [] ++ groupsOf (history.map w.callOf) = _ from rfl)).2
  have hρ : rank (groupsOf (history.map w.callOf)) (w.groupOf ref) = rank (refsOf history) ref := by
    funext id; rw [hall, rank_map hw]
  have hlog := map_fst_logOf hw ref (rank (refsOf history) ref) {} [] history
  rw [hρ, show ({} : Schedule).groups = ([] : List String).map w.groupOf from rfl, hlog] at hm
  exact hall ▸ hm

theorem consistent_scheduleAfter (w : Workflow) (history : List Activity) :
    (w.scheduleAfter history).Consistent :=
  consistent_after _

theorem isOwn_refsOf_iff (hw : w.groupOf.Injective) :
    IsOwn (refsOf history) ref id ↔
      ∃ state, (w.scheduleAfter history).run? id = some ⟨id, w.groupOf ref, state⟩ := by
  rw [← (w.consistent_scheduleAfter history).isOwn_iff, scheduleAfter, groups_after,
    groupsOf_map_callOf, isOwn_map_iff hw]

/-- The runs of a standard workflow have the same group if and only if they have the same ref. So in
every history the runs of a ref stand as if nothing else had happened: a submission cancels only
runs of its own ref, a run waits only behind a run of its ref, and the end of a run starts only a
run of its ref. -/
theorem standard_isolates_refs (h : standard s = .ok w) :
    (∀ e e' : RepoEvent, w.group e = w.group e' ↔ e.gitRef = e'.gitRef) ∧
      ∀ (history : List Activity) (ref : String),
        let refs := refsOf history
        let schedule := w.scheduleAfter history
        let alone := w.scheduleAfter (concerning ref (rank refs ref) [] history)
        (∀ id, IsOwn refs ref id → alone.state? (rank refs ref id) = schedule.state? id) ∧
          (∀ e : RepoEvent, e.gitRef = ref →
            ∀ id ∈ (schedule.submit (w.group e) w.concurrency.cancelInProgress).1.cancelled,
              IsOwn refs ref id) ∧
          (∀ id, IsOwn refs ref id → schedule.state? id = some .waiting →
            ∃ j, IsOwn refs ref j ∧ schedule.state? j = some .running) ∧
          ∀ id next, IsOwn refs ref id → (schedule.complete id).1 = some next →
            IsOwn refs ref next := by
  have hw := groupOf_injective h
  refine ⟨fun e e' => hw.eq_iff, fun history ref => ?_⟩
  intro refs schedule alone
  have hc : schedule.Consistent := w.consistent_scheduleAfter history
  have hown : ∀ id, IsOwn refs ref id ↔
      ∃ state, schedule.run? id = some ⟨id, w.groupOf ref, state⟩ := fun id => isOwn_refsOf_iff hw
  refine ⟨fun id hid => ?_, ?_, fun id hid hst => ?_, fun id next hid hnext => ?_⟩
  · have hm := mirrors_concerning hw history ref
    have hst := hm.state?_rank (hm.left.isOwn_iff.2 ((hown id).1 hid))
    rwa [rank_map hw] at hst
  · rintro e rfl id hid
    exact (hown id).2 (hc.exists_run?_of_mem_cancelled hid)
  · obtain ⟨state, hr⟩ := (hown id).1 hid
    obtain rfl : state = .waiting := Option.some.inj ((state?_of_run? hr).symm.trans hst)
    have hwait := (hc.waiting _ id).2 hr
    cases hrun : (schedule.slot (w.groupOf ref)).running with
    | none => rw [hc.served _ hrun] at hwait; cases hwait
    | some j =>
      have hj := (hc.running _ j).1 hrun
      exact ⟨j, (hown j).2 ⟨_, hj⟩, state?_of_run? hj⟩
  · obtain ⟨state, hr⟩ := (hown id).1 hid
    by_cases hst : state = .running
    · subst hst
      rw [complete_of_running hr] at hnext
      exact (hown next).2 ⟨_, (hc.waiting _ next).1 hnext⟩
    · have hne : schedule.state? id ≠ some .running := by
        rw [state?_of_run? hr]; simpa using hst
      rw [complete_of_not_running hne] at hnext; cases hnext

/-- The name of the workflow asks for the ref itself, so the ref stands in the group twice. -/
theorem standard_isolates_refs_named :
    let s : Settings := { ci := { workflow := "CI $\x7b\x7b github.ref \x7d\x7d" } }
    ∃ w, standard s = .ok w ∧ w.group ⟨.push, "a"⟩ = "CI a-a" ∧
      w.group ⟨.push, "a"⟩ ≠ w.group ⟨.push, "b"⟩ ∧
      w.group ⟨.push, "a"⟩ = w.group ⟨.pullRequest, "a"⟩ := by
  intro s
  have hs : standard s = .ok
      { name := s.ci.workflow
        triggers := .ofSettings s.ci
        concurrency := .perRef s.ci.cancelInProgress
        env := [("RUST_BACKTRACE", "full")]
        jobs := [standardJob s] } := by
    have henv : s.environment = .ok [("RUST_BACKTRACE", "full")] := by rfl
    rw [standard, henv]; rfl
  obtain ⟨hgroup, -⟩ := standard_isolates_refs hs
  exact ⟨_, hs, by decide, mt (hgroup ⟨.push, "a"⟩ ⟨.push, "b"⟩).1 (by decide),
    (hgroup ⟨.push, "a"⟩ ⟨.pullRequest, "a"⟩).2 rfl⟩

end Workflow

end Slipway
