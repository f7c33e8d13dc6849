import Slipway.Concurrency.Schedule
import Mathlib.Data.List.Nodup

/-!
# Slots and runs agree

A schedule knows the runs of a group that are not over from two sides: the slot of the group names
them, and every run has a state. `Consistent` says that both sides agree, that a group only has a
waiting run behind one in progress, and that runs are numbered without a gap. Each call keeps it
(`Consistent.submit`, `Consistent.complete`), so it holds after every history
(`consistent_after`).

The calls are described by what they do to the two views of a schedule, `run?` and `slot`; after
`run?_submit`, `submit_cases` and `complete_of_running` nothing opens their definitions again.
-/

namespace Slipway.Schedule

variable {s : Schedule} {group g : String} {id j : RunId} {cancel : Bool} {r : Run}

/-! ### The two views of a schedule -/

theorem id_of_run? (h : s.run? id = some r) : r.id = id := by
  simpa using List.find?_some h

theorem state?_of_run? (h : s.run? id = some r) : s.state? id = some r.state := by
  rw [state?, h]; rfl

theorem run?_of_state? {state : RunState} (h : s.state? id = some state) :
    ∃ group, s.run? id = some ⟨id, group, state⟩ := by
  obtain ⟨r, hr, rfl⟩ := Option.map_eq_some_iff.1 h
  obtain rfl := id_of_run? hr
  exact ⟨r.group, hr⟩

theorem some_ne_of_group_ne (hg : r.group ≠ group) (id : RunId) (state : RunState) :
    some (⟨id, group, state⟩ : Run) ≠ some r := by
  intro he
  obtain rfl := Option.some.inj he
  exact hg rfl

theorem run?_setSlot (slot : Slot) : (s.setSlot group slot).run? id = s.run? id := rfl

theorem slot_setState (ids : List RunId) (state : RunState) :
    (s.setState ids state).slot g = s.slot g := rfl

theorem length_setState (ids : List RunId) (state : RunState) :
    (s.setState ids state).runs.length = s.runs.length :=
  List.length_map _

theorem map_id_setState (ids : List RunId) (state : RunState) :
    (s.setState ids state).runs.map (·.id) = s.runs.map (·.id) := by
  rw [setState, List.map_map]
  exact List.map_congr_left fun r _ => by simp only [Function.comp]; split <;> rfl

theorem run?_setState (ids : List RunId) (state : RunState) :
    (s.setState ids state).run? id =
      (s.run? id).map fun r => if id ∈ ids then { r with state } else r := by
  have hp : ((fun r : Run => r.id == id) ∘ fun r => if r.id ∈ ids then { r with state } else r) =
      fun r => r.id == id := by
    funext r; simp only [Function.comp]; split <;> rfl
  unfold run? setState
  rw [List.find?_map, hp]
  cases h : s.runs.find? (·.id == id) with
  | none => rfl
  | some r => rw [Option.map_some, Option.map_some, id_of_run? h]

theorem lookup_filter_ne {α : Type} {k k' : String} (h : k' ≠ k) (l : List (String × α)) :
    (l.filter (·.1 != k)).lookup k' = l.lookup k' := by
  induction l with
  | nil => rfl
  | cons e l ih =>
    obtain ⟨key, a⟩ := e
    by_cases hk : key = k
    · have hne : (k' == key) = false := by rw [hk]; exact beq_false_of_ne h
      rw [List.filter_cons_of_neg (by simp [hk]), List.lookup_cons, hne, ih]
    · rw [List.filter_cons_of_pos (by simp [hk]), List.lookup_cons, List.lookup_cons, ih]

theorem slot_setSlot (slot : Slot) :
    (s.setSlot group slot).slot g = if g = group then slot else s.slot g := by
  unfold Schedule.slot setSlot
  split
  · next h => subst h; rw [List.lookup_cons_self]; rfl
  · next h => rw [List.lookup_cons, beq_false_of_ne h, lookup_filter_ne h]

/-- Runs are numbered from one in the order of their submission. -/
def Numbered (s : Schedule) : Prop :=
  s.runs.map (·.id) = List.range' 1 s.runs.length

theorem Numbered.setState (h : s.Numbered) (ids : List RunId) (state : RunState) :
    (s.setState ids state).Numbered := by
  rw [Numbered, map_id_setState, length_setState]; exact h

theorem Numbered.setSlot (h : s.Numbered) (group : String) (slot : Slot) :
    (s.setSlot group slot).Numbered := h

/-! ### What a submission does -/

/-- The number of the next run. -/
def nextId (s : Schedule) : RunId := s.runs.length + 1

/-- Submitting finds the group idle, or cancels the run in progress, or waits behind it; a waiting
run is cancelled in each case. -/
theorem submit_cases (s : Schedule) (group : String) (cancel : Bool) :
    ((s.slot group).running = none ∧
      (s.submit group cancel).1 = ⟨s.nextId, .running, (s.slot group).waiting.toList⟩ ∧
      (s.submit group cancel).2.slot group = ⟨some s.nextId, none⟩) ∨
    (∃ active, (s.slot group).running = some active ∧ cancel = true ∧
      (s.submit group cancel).1 =
        ⟨s.nextId, .running, (s.slot group).waiting.toList ++ [active]⟩ ∧
      (s.submit group cancel).2.slot group = ⟨some s.nextId, none⟩) ∨
    (∃ active, (s.slot group).running = some active ∧ cancel = false ∧
      (s.submit group cancel).1 = ⟨s.nextId, .waiting, (s.slot group).waiting.toList⟩ ∧
      (s.submit group cancel).2.slot group = ⟨some active, some s.nextId⟩) := by
  have hs : ∀ (t : Schedule) (slot : Slot) (runs : List Run),
      Schedule.slot { t.setSlot group slot with runs } group = slot := by
    intro t slot runs
    show (t.setSlot group slot).slot group = slot
    rw [slot_setSlot, if_pos rfl]
  cases hr : (s.slot group).running with
  | none =>
    refine .inl ⟨rfl, ?_, ?_⟩
    · simp only [submit, hr, List.append_nil]; rfl
    · simp only [submit, hr, hs]; rfl
  | some active =>
    cases cancel with
    | true =>
      refine .inr (.inl ⟨active, rfl, rfl, ?_, ?_⟩)
      · simp only [submit, hr, ↓reduceIte]; rfl
      · simp only [submit, hr, ↓reduceIte, hs]; rfl
    | false =>
      refine .inr (.inr ⟨active, rfl, rfl, ?_, ?_⟩)
      · simp only [submit, hr, Bool.false_eq_true, ↓reduceIte, List.append_nil]; rfl
      · simp only [submit, hr, Bool.false_eq_true, ↓reduceIte, hs]; rfl

theorem slot_submit_of_ne (h : g ≠ group) :
    (s.submit group cancel).2.slot g = s.slot g := by
  show ((s.setState _ _).setSlot group _).slot g = _
  rw [slot_setSlot, if_neg h, slot_setState]

theorem submit_id : (s.submit group cancel).1.id = s.nextId := rfl

theorem runs_submit :
    (s.submit group cancel).2.runs =
      (s.setState (s.submit group cancel).1.cancelled .cancelled).runs ++
        [⟨s.nextId, group, (s.submit group cancel).1.state⟩] := rfl

/-- A submission cancels the runs that it names and adds one run; it touches no other. -/
theorem run?_submit (hn : s.run? s.nextId = none) :
    (s.submit group cancel).2.run? id =
      if id = s.nextId then some ⟨s.nextId, group, (s.submit group cancel).1.state⟩
      else (s.run? id).map fun r =>
        if id ∈ (s.submit group cancel).1.cancelled then { r with state := .cancelled } else r := by
  have hr : (s.setState (s.submit group cancel).1.cancelled .cancelled).run? id = _ :=
    run?_setState ..
  unfold run? at hr ⊢
  rw [runs_submit, List.find?_append, hr]
  -- the new run stands last, so it is only found under a number that no run had before
  by_cases h : id = s.nextId
  · have hn' : s.runs.find? (·.id == s.nextId) = none := hn
    rw [if_pos h, h, hn']
    simp
  · have hl : List.find? (fun r : Run => r.id == id)
        [⟨s.nextId, group, (s.submit group cancel).1.state⟩] = none := by
      simp [Ne.symm h]
    rw [if_neg h, hl, Option.or_none]

/-! ### What a completion does -/

theorem complete_of_not_running (h : s.state? id ≠ some .running) : s.complete id = (none, s) := by
  unfold complete
  split
  · rfl
  · next r hr =>
    have hne : r.state ≠ .running := fun he => h (by rw [state?, hr, ← he]; rfl)
    rw [if_neg hne]

/-- Completing a run in progress finishes it, starts the waiting run of its group and leaves that
run alone in the slot. -/
theorem complete_of_running (h : s.run? id = some ⟨id, group, .running⟩) :
    s.complete id = ((s.slot group).waiting,
      (((s.setState [id] .finished).setSlot group ⟨(s.slot group).waiting, none⟩).setState
        (s.slot group).waiting.toList .running)) := by
  simp only [complete, h, ↓reduceIte]

theorem slot_complete (h : s.run? id = some ⟨id, group, .running⟩) :
    (s.complete id).2.slot g =
      if g = group then ⟨(s.slot group).waiting, none⟩ else s.slot g := by
  rw [complete_of_running h]
  show ((s.setState [id] .finished).setSlot group _).slot g = _
  rw [slot_setSlot, slot_setState]

theorem run?_complete (h : s.run? id = some ⟨id, group, .running⟩) :
    (s.complete id).2.run? j =
      (s.run? j).map fun r =>
        if (s.slot group).waiting = some j then { r with state := .running }
        else if j = id then { r with state := .finished } else r := by
  rw [complete_of_running h]
  simp only [run?_setState, run?_setSlot, Option.map_map, Option.mem_toList, List.mem_singleton]
  congr 1
  funext r
  simp only [Function.comp]
  split <;> split <;> rfl

/-! ### The invariant -/

/-- The slots and the states of the runs tell the same. -/
structure Consistent (s : Schedule) : Prop where
  numbered : s.Numbered
  running : ∀ g id, (s.slot g).running = some id ↔ s.run? id = some ⟨id, g, .running⟩
  waiting : ∀ g id, (s.slot g).waiting = some id ↔ s.run? id = some ⟨id, g, .waiting⟩
  /-- A run only waits behind a run in progress. -/
  served : ∀ g, (s.slot g).running = none → (s.slot g).waiting = none

theorem consistent_empty : Consistent {} where
  numbered := rfl
  running g id := by simp [slot, run?]
  waiting g id := by simp [slot, run?]
  served g _ := rfl

namespace Consistent

theorem run?_nextId (h : s.Consistent) : s.run? s.nextId = none := by
  refine List.find?_eq_none.2 fun r hr => ?_
  have hm : r.id ∈ s.runs.map (·.id) := List.mem_map_of_mem hr
  rw [h.numbered, List.mem_range'_1] at hm
  have hne : r.id ≠ s.nextId := Nat.ne_of_lt (Nat.lt_of_lt_of_eq hm.2 (Nat.add_comm ..))
  simpa using hne

theorem lt_nextId (h : s.Consistent) (hr : s.run? id = some r) : id < s.nextId := by
  have hm : r.id ∈ s.runs.map (·.id) := List.mem_map_of_mem (List.mem_of_find?_eq_some hr)
  rw [h.numbered, List.mem_range'_1, id_of_run? hr] at hm
  exact Nat.lt_of_lt_of_eq hm.2 (Nat.add_comm ..)

/-- What a submission cancels was in progress or waiting in the same group; a run in progress is
only cancelled on request. -/
theorem run?_of_mem_cancelled (h : s.Consistent) (hid : id ∈ (s.submit group cancel).1.cancelled) :
    s.run? id = some ⟨id, group, .waiting⟩ ∨
      s.run? id = some ⟨id, group, .running⟩ ∧ cancel = true := by
  rcases submit_cases s group cancel with
    ⟨-, ha, -⟩ | ⟨active, hr, hc, ha, -⟩ | ⟨active, -, -, ha, -⟩
  · rw [ha, Option.mem_toList] at hid
    exact .inl ((h.waiting group id).1 hid)
  · rw [ha, List.mem_append, Option.mem_toList, List.mem_singleton] at hid
    rcases hid with hw | rfl
    · exact .inl ((h.waiting group id).1 hw)
    · exact .inr ⟨(h.running group id).1 hr, hc⟩
  · rw [ha, Option.mem_toList] at hid
    exact .inl ((h.waiting group id).1 hid)

theorem exists_run?_of_mem_cancelled (h : s.Consistent)
    (hid : id ∈ (s.submit group cancel).1.cancelled) :
    ∃ state, s.run? id = some ⟨id, group, state⟩ := by
  rcases h.run?_of_mem_cancelled hid with hr | ⟨hr, -⟩ <;> exact ⟨_, hr⟩

/-- After a submission a run is in progress or waiting if it is the new one, or if it was before and
is not cancelled. -/
theorem run?_submit_iff (h : s.Consistent) {state : RunState} (hst : state ≠ .cancelled) :
    (s.submit group cancel).2.run? id = some ⟨id, g, state⟩ ↔
      (id = s.nextId ∧ g = group ∧ (s.submit group cancel).1.state = state) ∨
        (id ∉ (s.submit group cancel).1.cancelled ∧ s.run? id = some ⟨id, g, state⟩) := by
  rw [run?_submit h.run?_nextId]
  by_cases hid : id = s.nextId
  · subst hid
    rw [if_pos rfl, h.run?_nextId]
    simp [eq_comm]
  · rw [if_neg hid]
    cases s.run? id with
    | none => simp [hid]
    | some r =>
      obtain ⟨i, g', st⟩ := r
      by_cases hc : id ∈ (s.submit group cancel).1.cancelled
      · simp [hid, hc, hst.symm]
      · simp [hid, hc]

theorem numbered_submit (h : s.Consistent) : (s.submit group cancel).2.Numbered := by
  rw [Numbered, runs_submit, List.map_append, h.numbered.setState, List.length_append,
    length_setState, List.length_singleton, List.range'_concat]
  simp [nextId, Nat.add_comm]

theorem waiting_ne_of_running (h : s.Consistent) (hr : (s.slot g).running = some id) :
    (s.slot g).waiting ≠ some id := by
  intro hw
  have he := ((h.running g id).1 hr).symm.trans ((h.waiting g id).1 hw)
  simp at he

/-- A submission leaves the runs of other groups as they are. -/
theorem run?_submit_of_ne (h : s.Consistent) (hg : r.group ≠ group) :
    (s.submit group cancel).2.run? id = some r ↔ s.run? id = some r := by
  rw [run?_submit h.run?_nextId]
  by_cases hid : id = s.nextId
  · rw [if_pos hid, hid, h.run?_nextId]
    exact iff_of_false (some_ne_of_group_ne hg _ _) nofun
  · rw [if_neg hid]
    by_cases hc : id ∈ (s.submit group cancel).1.cancelled
    · obtain ⟨state, hr⟩ := h.exists_run?_of_mem_cancelled hc
      rw [hr, Option.map_some, if_pos hc]
      exact iff_of_false (some_ne_of_group_ne hg _ _) (some_ne_of_group_ne hg _ _)
    · simp only [hc, ↓reduceIte, Option.map_id']

/-- The group of a new run: the slot was set as the states of the runs changed. -/
theorem slot_submit_iff (h : s.Consistent) :
    (((s.submit group cancel).2.slot group).running = some id ↔
      (s.submit group cancel).2.run? id = some ⟨id, group, .running⟩) ∧
    (((s.submit group cancel).2.slot group).waiting = some id ↔
      (s.submit group cancel).2.run? id = some ⟨id, group, .waiting⟩) := by
  rw [h.run?_submit_iff (by simp), h.run?_submit_iff (by simp), ← h.running, ← h.waiting]
  rcases submit_cases s group cancel with
    ⟨hr, ha, hs⟩ | ⟨active, hr, -, ha, hs⟩ | ⟨active, hr, -, ha, hs⟩
  · -- nothing was in progress, so nothing was waiting
    rw [ha, hs, hr, h.served group hr]
    simp [eq_comm]
  · -- both runs of the old slot are cancelled
    rw [ha, hs, hr]
    simp only [Option.some.injEq, List.mem_append, Option.mem_toList, List.mem_singleton]
    refine ⟨⟨fun he => .inl ⟨he.symm, by simp⟩, ?_⟩, ⟨nofun, ?_⟩⟩
    · rintro (⟨he, -⟩ | ⟨hn, he⟩)
      · exact he.symm
      · exact absurd (.inr he.symm) hn
    · rintro (⟨-, -, hst⟩ | ⟨hn, hw⟩)
      · cases hst
      · exact absurd (.inl hw) hn
  · -- the run in progress stays: it is not the one that waited
    have hne := h.waiting_ne_of_running hr
    rw [ha, hs, hr]
    refine ⟨?_, ?_⟩
    · simp only [Option.some.injEq, Option.mem_toList]
      refine ⟨?_, ?_⟩
      · rintro rfl; exact .inr ⟨hne, rfl⟩
      · rintro (⟨-, -, hst⟩ | ⟨-, he⟩)
        · cases hst
        · exact he
    · simp [eq_comm]

theorem submit (h : s.Consistent) (group : String) (cancel : Bool) :
    (s.submit group cancel).2.Consistent := by
  refine ⟨h.numbered_submit, fun g id => ?_, fun g id => ?_, fun g hr => ?_⟩
  · by_cases hg : g = group
    · subst hg; exact h.slot_submit_iff.1
    · rw [slot_submit_of_ne hg, h.run?_submit_of_ne hg]; exact h.running g id
  · by_cases hg : g = group
    · subst hg; exact h.slot_submit_iff.2
    · rw [slot_submit_of_ne hg, h.run?_submit_of_ne hg]; exact h.waiting g id
  · by_cases hg : g = group
    · subst hg
      rcases submit_cases s g cancel with ⟨-, -, hs⟩ | ⟨_, -, -, -, hs⟩ | ⟨_, -, -, -, hs⟩
      all_goals rw [hs] at hr; cases hr
    · rw [slot_submit_of_ne hg] at hr ⊢
      exact h.served g hr

/-- A completion leaves the runs of other groups as they are. -/
theorem run?_complete_of_ne (h : s.Consistent) (hid : s.run? id = some ⟨id, group, .running⟩)
    (hg : r.group ≠ group) : (s.complete id).2.run? j = some r ↔ s.run? j = some r := by
  rw [run?_complete hid]
  by_cases hw : (s.slot group).waiting = some j
  · rw [(h.waiting group j).1 hw, Option.map_some, if_pos hw]
    exact iff_of_false (some_ne_of_group_ne hg _ _) (some_ne_of_group_ne hg _ _)
  · by_cases hj : j = id
    · subst hj
      rw [hid, Option.map_some, if_neg hw, if_pos rfl]
      exact iff_of_false (some_ne_of_group_ne hg _ _) (some_ne_of_group_ne hg _ _)
    · simp only [hw, hj, ↓reduceIte, Option.map_id']

/-- The group of a finished run: the waiting run, and no other, is in progress. -/
theorem slot_complete_iff (h : s.Consistent) (hid : s.run? id = some ⟨id, group, .running⟩) :
    (((s.complete id).2.slot group).running = some j ↔
      (s.complete id).2.run? j = some ⟨j, group, .running⟩) ∧
    (((s.complete id).2.slot group).waiting = some j ↔
      (s.complete id).2.run? j = some ⟨j, group, .waiting⟩) := by
  have hrun := (h.running group id).2 hid
  rw [slot_complete hid, if_pos rfl, run?_complete hid]
  by_cases hw : (s.slot group).waiting = some j
  · rw [(h.waiting group j).1 hw, Option.map_some, if_pos hw]
    simp [hw]
  · by_cases hj : j = id
    · subst hj
      rw [hid, Option.map_some, if_neg hw, if_pos rfl]
      simp [hw]
    · have hr : s.run? j ≠ some ⟨j, group, .running⟩ := fun he =>
        hj (Option.some.inj (((h.running group j).2 he).symm.trans hrun))
      have hw' : s.run? j ≠ some ⟨j, group, .waiting⟩ := fun he => hw ((h.waiting group j).2 he)
      simp only [hw, hj, ↓reduceIte, Option.map_id', hr, hw', reduceCtorEq, and_self]

theorem complete_running (h : s.Consistent) (hid : s.run? id = some ⟨id, group, .running⟩) :
    (s.complete id).2.Consistent := by
  refine ⟨?_, fun g j => ?_, fun g j => ?_, fun g hr => ?_⟩
  · rw [complete_of_running hid]
    exact ((h.numbered.setState _ _).setSlot _ _).setState _ _
  · by_cases hg : g = group
    · subst hg; exact (h.slot_complete_iff hid).1
    · rw [slot_complete hid, if_neg hg, h.run?_complete_of_ne hid hg]; exact h.running g j
  · by_cases hg : g = group
    · subst hg; exact (h.slot_complete_iff hid).2
    · rw [slot_complete hid, if_neg hg, h.run?_complete_of_ne hid hg]; exact h.waiting g j
  · rw [slot_complete hid] at hr ⊢
    split at hr
    · next hg => rw [if_pos hg]
    · next hg => rw [if_neg hg]; exact h.served g hr

theorem complete (h : s.Consistent) (id : RunId) : (s.complete id).2.Consistent := by
  by_cases hst : s.state? id = some .running
  · obtain ⟨group, hr⟩ := run?_of_state? hst
    exact h.complete_running hr
  · rw [complete_of_not_running hst]; exact h

theorem call (h : s.Consistent) (c : Call) : (s.call c).2.Consistent := by
  cases c with
  | submit group cancel => exact h.submit group cancel
  | complete id => exact h.complete id

theorem foldl_call (h : s.Consistent) (calls : List Call) :
    (calls.foldl (fun s c => (s.call c).2) s).Consistent := by
  induction calls generalizing s with
  | nil => exact h
  | cons c calls ih => exact ih (h.call c)

end Consistent

theorem consistent_after (calls : List Call) : (after calls).Consistent :=
  consistent_empty.foldl_call calls

/-! ### The runs of a group -/

/-- The runs of a group in a state, in the order of their submission. -/
def idsOf (s : Schedule) (group : String) (state : RunState) : List RunId :=
  (s.runs.filter fun r => r.group = group ∧ r.state = state).map (·.id)

namespace Consistent

theorem nodup_ids (h : s.Consistent) : (s.runs.map (·.id)).Nodup := by
  rw [h.numbered]; exact List.nodup_range'

theorem run?_of_mem (h : s.Consistent) (hr : r ∈ s.runs) : s.run? r.id = some r := by
  cases hf : s.run? r.id with
  | none => exact absurd (beq_self_eq_true r.id) (List.find?_eq_none.1 hf r hr)
  | some r' =>
    have hr' : r' ∈ s.runs := List.mem_of_find?_eq_some hf
    rw [List.inj_on_of_nodup_map h.nodup_ids hr' hr (id_of_run? hf)]

theorem mem_idsOf (h : s.Consistent) {state : RunState} :
    id ∈ s.idsOf group state ↔ s.run? id = some ⟨id, group, state⟩ := by
  simp only [idsOf, List.mem_map, List.mem_filter, decide_eq_true_eq]
  constructor
  · rintro ⟨⟨i, g, st⟩, ⟨hr, rfl, rfl⟩, rfl⟩
    exact h.run?_of_mem hr
  · intro hr
    exact ⟨_, ⟨List.mem_of_find?_eq_some hr, rfl, rfl⟩, rfl⟩

theorem nodup_idsOf (h : s.Consistent) (group : String) (state : RunState) :
    (s.idsOf group state).Nodup :=
  h.nodup_ids.sublist (List.filter_sublist.map _)

/-- A slot that names the runs in a state lists all of them. -/
theorem idsOf_eq_toList (h : s.Consistent) {state : RunState} {o : Option RunId}
    (ho : ∀ id, o = some id ↔ s.run? id = some ⟨id, group, state⟩) :
    s.idsOf group state = o.toList := by
  have hmem : ∀ id, id ∈ s.idsOf group state ↔ o = some id := fun id =>
    h.mem_idsOf.trans (ho id).symm
  cases o with
  | none =>
    refine List.eq_nil_iff_forall_not_mem.2 fun id hid => ?_
    exact absurd ((hmem id).1 hid) nofun
  | some a =>
    refine List.perm_singleton.1 ((List.perm_ext_iff_of_nodup (h.nodup_idsOf _ _)
      (List.nodup_singleton a)).2 fun id => ?_)
    rw [hmem id, List.mem_singleton, Option.some.injEq, eq_comm]

theorem idsOf_running (h : s.Consistent) (group : String) :
    s.idsOf group .running = (s.slot group).running.toList :=
  h.idsOf_eq_toList (h.running group)

theorem idsOf_waiting (h : s.Consistent) (group : String) :
    s.idsOf group .waiting = (s.slot group).waiting.toList :=
  h.idsOf_eq_toList (h.waiting group)

/-- The waiting run of a group takes the place of the one that is finished. -/
theorem complete_promotes (h : s.Consistent) (hid : id ∈ s.idsOf group .running) :
    (s.complete id).1 = (s.idsOf group .waiting).head? ∧
      (s.complete id).2.idsOf group .running = s.idsOf group .waiting ∧
      (s.complete id).2.idsOf group .waiting = [] := by
  have hr := h.mem_idsOf.1 hid
  have h' := h.complete_running hr
  have hs : (s.complete id).2.slot group = ⟨(s.slot group).waiting, none⟩ := by
    rw [slot_complete hr, if_pos rfl]
  refine ⟨?_, ?_, ?_⟩
  · rw [complete_of_running hr, h.idsOf_waiting, Option.head?_toList]
  · rw [h'.idsOf_running, hs, h.idsOf_waiting]
  · rw [h'.idsOf_waiting, hs]; rfl

end Consistent

/-- After every history a group has at most one run in progress and at most one waiting behind it,
its slot names just these, and when the run in progress is finished the waiting one starts. -/
theorem idsOf_after_eq_slot (calls : List Call) (group : String) :
    (after calls).idsOf group .running = ((after calls).slot group).running.toList ∧
      (after calls).idsOf group .waiting = ((after calls).slot group).waiting.toList ∧
      ((after calls).idsOf group .running).length ≤ 1 ∧
      ((after calls).idsOf group .waiting).length ≤ 1 ∧
      ((after calls).idsOf group .waiting ≠ [] → (after calls).idsOf group .running ≠ []) ∧
      ∀ id ∈ (after calls).idsOf group .running,
        ((after calls).complete id).1 = ((after calls).idsOf group .waiting).head? ∧
        ((after calls).complete id).2.idsOf group .running = (after calls).idsOf group .waiting ∧
        ((after calls).complete id).2.idsOf group .waiting = [] := by
  have h := consistent_after calls
  refine ⟨h.idsOf_running group, h.idsOf_waiting group, ?_, ?_, ?_, fun id => h.complete_promotes⟩
  · rw [h.idsOf_running]; exact Option.length_toList_le
  · rw [h.idsOf_waiting]; exact Option.length_toList_le
  · rw [h.idsOf_running, h.idsOf_waiting]
    intro hw hr
    exact hw (by rw [h.served group (Option.toList_eq_nil_iff.1 hr)]; rfl)

/-- Two runs of one group, the second behind the first. -/
theorem idsOf_after_eq_slot_two :
    1 ∈ (after [.submit "main" false, .submit "main" false]).idsOf "main" .running ∧
      ((after [.submit "main" false, .submit "main" false]).complete 1).1 = some 2 := by
  have hmem : 1 ∈ (after [.submit "main" false, .submit "main" false]).idsOf "main" .running := by
    decide
  have hw : (after [.submit "main" false, .submit "main" false]).idsOf "main" .waiting = [2] := by
    decide
  refine ⟨hmem, ?_⟩
  rw [((idsOf_after_eq_slot [.submit "main" false, .submit "main" false] "main").2.2.2.2.2
    1 hmem).1, hw]
  rfl

end Slipway.Schedule
