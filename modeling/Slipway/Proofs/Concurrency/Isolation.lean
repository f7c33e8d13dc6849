import Slipway.Proofs.Concurrency.Slots

/-!
# Groups do not touch each other

What a log says of one group is the log of a schedule that serves this group alone
(`transcript_logOf`). The runs of the group are then counted among themselves: `rank` gives the new
number of a run, in the same order.

`Mirrors` relates the two schedules: the second one has the runs of the group, renumbered, and no
others. Since slots and runs agree on both sides, the slot of the group is renumbered as well
(`Mirrors.slot_eq`), and from equal slots a call does the same on both sides. A call of another
group changes no run of this one.
-/

namespace Slipway

/-- The run under another number. -/
def Run.rename (ρ : RunId → RunId) (r : Run) : Run :=
  { r with id := ρ r.id }

/-- The admission with other numbers for the runs. -/
def Admission.rename (ρ : RunId → RunId) (a : Admission) : Admission :=
  { a with id := ρ a.id, cancelled := a.cancelled.map ρ }

namespace Schedule

/-- The reply with other numbers for the runs. -/
def Reply.rename (ρ : RunId → RunId) : Reply → Reply
  | .admitted a => .admitted (a.rename ρ)
  | .promoted id => .promoted (id.map ρ)

/-! ### The runs of one group -/

/-- The groups of the runs that calls submit, in the order of their numbers. -/
def groupsOf (calls : List Call) : List String :=
  calls.filterMap fun
    | .submit group _ => some group
    | .complete _ => none

/-- Whether a number is that of a run of the group, given the groups of all runs. -/
def IsOwn (groups : List String) (group : String) (id : RunId) : Prop :=
  0 < id ∧ groups[id - 1]? = some group

instance (groups : List String) (group : String) (id : RunId) :
    Decidable (IsOwn groups group id) :=
  inferInstanceAs (Decidable (_ ∧ _))

/-- The number of a run when only the runs of its group are counted. -/
def rank (groups : List String) (group : String) (id : RunId) : RunId :=
  (groups.take id).count group

/-- What a log says of a group: the submissions to it and the completions of its runs, with other
numbers for the runs. A completion counts only if the run is already submitted, so the groups of the
runs so far are kept. -/
def logOf (group : String) (ρ : RunId → RunId) : List String → List (Call × Reply) →
    List (Call × Reply)
  | _, [] => []
  | groups, (.submit g cancel, reply) :: log =>
    if g = group then (.submit g cancel, reply.rename ρ) :: logOf group ρ (groups ++ [g]) log
    else logOf group ρ (groups ++ [g]) log
  | groups, (.complete id, reply) :: log =>
    if IsOwn groups group id then (.complete (ρ id), reply.rename ρ) :: logOf group ρ groups log
    else logOf group ρ groups log

variable {s t : Schedule} {group g : String} {id j k : RunId} {cancel : Bool} {r : Run}
  {state : RunState} {before all : List String} {calls : List Call}

theorem IsOwn.mono (h : IsOwn before group id) (hp : before <+: all) :
    IsOwn all group id := by
  obtain ⟨more, rfl⟩ := hp
  obtain ⟨hlt, -⟩ := List.getElem?_eq_some_iff.1 h.2
  exact ⟨h.1, by rw [List.getElem?_append_left hlt]; exact h.2⟩

theorem rank_lt_rank (hj : IsOwn all group j) (h : id < j) :
    rank all group id < rank all group j := by
  obtain ⟨hpos, hget⟩ := hj
  obtain ⟨k, rfl⟩ := Nat.exists_eq_succ_of_ne_zero (Nat.ne_of_gt hpos)
  have hle : (all.take id).count group ≤ (all.take k).count group :=
    (List.take_prefix_take_left (Nat.le_of_lt_succ h)).sublist.count_le group
  have hk : (all.take (k + 1)).count group = (all.take k).count group + 1 := by
    rw [List.take_add_one, show all[k]? = some group from hget, List.count_append]
    simp
  exact Nat.lt_of_le_of_lt hle (by rw [rank, hk]; exact Nat.lt_succ_self _)

theorem rank_inj (hid : IsOwn all group id) (hj : IsOwn all group j)
    (h : rank all group id = rank all group j) : id = j := by
  rcases Nat.lt_trichotomy id j with hlt | he | hlt
  · exact absurd h (Nat.ne_of_lt (rank_lt_rank hj hlt))
  · exact he
  · exact absurd h (Nat.ne_of_gt (rank_lt_rank hid hlt))

/-! ### Runs and their groups -/

/-- The groups of the runs of a schedule, in the order of their numbers. -/
def groups (s : Schedule) : List String :=
  s.runs.map (·.group)

theorem groups_setState (ids : List RunId) (state : RunState) :
    (s.setState ids state).groups = s.groups := by
  rw [groups, groups, setState, List.map_map]
  exact List.map_congr_left fun r _ => by simp only [Function.comp]; split <;> rfl

theorem groups_submit : (s.submit group cancel).2.groups = s.groups ++ [group] := by
  rw [groups, runs_submit, List.map_append]
  exact congrArg (· ++ [group]) (groups_setState _ _)

theorem groups_complete : (s.complete id).2.groups = s.groups := by
  by_cases hst : s.state? id = some .running
  · obtain ⟨group, hr⟩ := run?_of_state? hst
    rw [complete_of_running hr, groups_setState]
    exact groups_setState [id] .finished
  · rw [complete_of_not_running hst]

theorem groups_foldl_call (calls : List Call) :
    (calls.foldl (fun s c => (s.call c).2) s).groups = s.groups ++ groupsOf calls := by
  induction calls generalizing s with
  | nil => exact (List.append_nil _).symm
  | cons c calls ih =>
    rw [List.foldl_cons, ih]
    cases c with
    | submit group cancel =>
      show (s.submit group cancel).2.groups ++ groupsOf calls =
        s.groups ++ (group :: groupsOf calls)
      rw [groups_submit, List.append_assoc]; rfl
    | complete id =>
      show (s.complete id).2.groups ++ groupsOf calls = s.groups ++ groupsOf calls
      rw [groups_complete]

namespace Consistent

theorem id_of_getElem? (h : s.Consistent) {n : Nat} (hr : s.runs[n]? = some r) : r.id = n + 1 := by
  have hlt : n < s.runs.length := (List.getElem?_eq_some_iff.1 hr).1
  have hid : (s.runs.map (·.id))[n]? = some r.id := by rw [List.getElem?_map, hr]; rfl
  rw [h.numbered, List.getElem?_range' hlt, Nat.one_mul, Nat.add_comm] at hid
  exact (Option.some.inj hid).symm

theorem isOwn_iff (h : s.Consistent) :
    IsOwn s.groups group id ↔ ∃ state, s.run? id = some ⟨id, group, state⟩ := by
  constructor
  · rintro ⟨hpos, hget⟩
    rw [groups, List.getElem?_map] at hget
    obtain ⟨r, hr, rfl⟩ := Option.map_eq_some_iff.1 hget
    have hid : r.id = id := by rw [h.id_of_getElem? hr]; exact Nat.sub_add_cancel hpos
    subst hid
    exact ⟨r.state, h.run?_of_mem (List.mem_of_getElem? hr)⟩
  · rintro ⟨state, hr⟩
    obtain ⟨n, hn⟩ := List.mem_iff_getElem?.1 (List.mem_of_find?_eq_some hr)
    obtain rfl : id = n + 1 := h.id_of_getElem? hn
    refine ⟨Nat.succ_pos n, ?_⟩
    rw [groups, List.getElem?_map, Nat.add_sub_cancel, hn]; rfl

theorem run?_of_mem_waiting (h : s.Consistent) :
    ∀ id ∈ (s.slot group).waiting.toList, ∃ state, s.run? id = some ⟨id, group, state⟩ :=
  fun id hid => ⟨.waiting, (h.waiting group id).1 (Option.mem_toList.1 hid)⟩

end Consistent

/-! ### A schedule with the runs of one group -/

/-- The runs of a group under other numbers. -/
def runsOf (s : Schedule) (group : String) (ρ : RunId → RunId) : List Run :=
  (s.runs.filter (·.group = group)).map (Run.rename ρ)

theorem mem_runsOf {ρ : RunId → RunId} :
    r ∈ s.runsOf group ρ ↔ ∃ r₀ ∈ s.runs, r₀.group = group ∧ r₀.rename ρ = r := by
  simp only [runsOf, List.mem_map, List.mem_filter, decide_eq_true_eq, and_assoc]

theorem length_runsOf (ρ : RunId → RunId) :
    (s.runsOf group ρ).length = s.groups.count group := by
  rw [runsOf, List.length_map, groups, List.count, List.countP_map, List.countP_eq_length_filter]
  exact congrArg List.length (List.filter_congr fun r _ => Bool.beq_eq_decide_eq .. |>.symm)

theorem runsOf_submit (ρ : RunId → RunId) :
    (s.submit g cancel).2.runsOf group ρ =
      (s.setState (s.submit g cancel).1.cancelled .cancelled).runsOf group ρ ++
        if g = group then [⟨ρ s.nextId, group, (s.submit g cancel).1.state⟩] else [] := by
  rw [runsOf, runs_submit, List.filter_append, List.map_append, List.filter_singleton]
  by_cases hg : g = group
  · subst hg
    rw [if_pos rfl, decide_eq_true rfl]; rfl
  · rw [if_neg hg, decide_eq_false hg]; rfl

theorem runsOf_complete (ρ : RunId → RunId) (hid : s.run? id = some ⟨id, g, .running⟩) :
    (s.complete id).2.runsOf group ρ =
      ((s.setState [id] .finished).setState (s.slot g).waiting.toList .running).runsOf group ρ := by
  rw [complete_of_running hid]; rfl

/-- Setting states commutes with looking at one group only. -/
theorem runsOf_setState {ρ : RunId → RunId} {ids' : List RunId} (ids : List RunId)
    (hruns : t.runs = s.runsOf group ρ)
    (hids : ∀ r ∈ s.runs, r.group = group → (ρ r.id ∈ ids' ↔ r.id ∈ ids)) (state : RunState) :
    (t.setState ids' state).runs = (s.setState ids state).runsOf group ρ := by
  have hp : ((fun r : Run => decide (r.group = group)) ∘
      fun r => if r.id ∈ ids then { r with state } else r) = fun r => decide (r.group = group) := by
    funext r; simp only [Function.comp]; split <;> rfl
  rw [setState, hruns, setState, runsOf, runsOf, List.filter_map, hp, List.map_map, List.map_map]
  refine List.map_congr_left fun r hr => ?_
  obtain ⟨hr, hg⟩ := List.mem_filter.1 hr
  have hiff : (r.rename ρ).id ∈ ids' ↔ r.id ∈ ids := hids r hr (of_decide_eq_true hg)
  rw [Function.comp, Function.comp]
  by_cases hm : r.id ∈ ids
  · rw [if_pos hm, if_pos (hiff.2 hm)]; rfl
  · rw [if_neg hm, if_neg fun hm' => hm (hiff.1 hm')]

theorem runsOf_setState_of_notMem {ρ : RunId → RunId} {ids : List RunId}
    (hids : ∀ r ∈ s.runs, r.group = group → r.id ∉ ids) (state : RunState) :
    (s.setState ids state).runsOf group ρ = s.runsOf group ρ := by
  have h : (setState { runs := s.runsOf group ρ } [] state).runs = _ := runsOf_setState ids rfl
    (fun r hr hg => iff_of_false List.not_mem_nil (hids r hr hg)) state
  rw [← h, setState]
  simp

theorem exists_of_mem_runs_setState {ids : List RunId} (hr : r ∈ (s.setState ids state).runs) :
    ∃ r₀ ∈ s.runs, r₀.id = r.id ∧ r₀.group = r.group := by
  obtain ⟨r₀, hr₀, rfl⟩ := List.mem_map.1 hr
  refine ⟨r₀, hr₀, ?_⟩
  split <;> exact ⟨rfl, rfl⟩

/-- The schedule `t` has the runs of a group of `s`, renumbered, and no others. The groups of all
runs, of later ones as well, are `all`. -/
structure Mirrors (all : List String) (group : String) (s t : Schedule) : Prop where
  left : s.Consistent
  right : t.Consistent
  known : s.groups <+: all
  runs : t.runs = s.runsOf group (rank all group)

namespace Mirrors

theorem isOwn (h : Mirrors all group s t) (hr : s.run? id = some ⟨id, group, state⟩) :
    IsOwn all group id :=
  (h.left.isOwn_iff.2 ⟨state, hr⟩).mono h.known

theorem exists_of_run? (h : Mirrors all group s t) (hr : t.run? k = some r) :
    ∃ id, s.run? id = some ⟨id, group, r.state⟩ ∧ rank all group id = k := by
  have hm := List.mem_of_find?_eq_some hr
  rw [h.runs] at hm
  obtain ⟨r₀, hr₀, rfl, rfl⟩ := mem_runsOf.1 hm
  exact ⟨r₀.id, h.left.run?_of_mem hr₀, id_of_run? hr⟩

theorem run?_rank (h : Mirrors all group s t) (hr : s.run? id = some ⟨id, group, state⟩) :
    t.run? (rank all group id) = some ⟨rank all group id, group, state⟩ := by
  refine h.right.run?_of_mem (r := ⟨rank all group id, group, state⟩) ?_
  rw [h.runs]
  exact mem_runsOf.2 ⟨_, List.mem_of_find?_eq_some hr, rfl, rfl⟩

theorem state?_rank (h : Mirrors all group s t) (hid : IsOwn s.groups group id) :
    t.state? (rank all group id) = s.state? id := by
  obtain ⟨state, hr⟩ := h.left.isOwn_iff.1 hid
  rw [state?, state?, hr, h.run?_rank hr]; rfl

/-- Slots name the runs in a state on both sides. -/
theorem slot_eq (h : Mirrors all group s t) :
    t.slot group = ⟨(s.slot group).running.map (rank all group),
      (s.slot group).waiting.map (rank all group)⟩ := by
  have hst : ∀ state k, t.run? k = some ⟨k, group, state⟩ ↔
      ∃ id, s.run? id = some ⟨id, group, state⟩ ∧ rank all group id = k := fun state k =>
    ⟨fun hr => h.exists_of_run? hr, fun ⟨_, hr, hid⟩ => hid ▸ h.run?_rank hr⟩
  have hrun : (t.slot group).running = (s.slot group).running.map (rank all group) := by
    ext k
    rw [h.right.running, hst, Option.map_eq_some_iff]
    simp only [h.left.running]
  have hwait : (t.slot group).waiting = (s.slot group).waiting.map (rank all group) := by
    ext k
    rw [h.right.waiting, hst, Option.map_eq_some_iff]
    simp only [h.left.waiting]
  rw [← hrun, ← hwait]

theorem nextId_eq (h : Mirrors all group s t) (hp : s.groups ++ [group] <+: all) :
    t.nextId = rank all group s.nextId := by
  obtain ⟨more, rfl⟩ := hp
  have hlen : s.nextId = (s.groups ++ [group]).length := by
    rw [List.length_append, groups, List.length_map]; rfl
  rw [nextId, h.runs, length_runsOf, rank, hlen, List.take_left, List.count_append,
    List.count_singleton_self]

/-! ### One call -/

/-- What a submission answers follows from the slot of its group. -/
theorem submit_fst (h : Mirrors all group s t) (hp : s.groups ++ [group] <+: all) :
    (t.submit group cancel).1 = (s.submit group cancel).1.rename (rank all group) := by
  have hn := h.nextId_eq hp
  rw [nextId, nextId] at hn
  simp only [submit, h.slot_eq, hn]
  cases (s.slot group).running with
  | none => simp [Admission.rename, Option.toList_map]
  | some active => cases cancel <;> simp [Admission.rename, Option.toList_map]

/-- The runs of a list, all of them in the group, have the new numbers of this list. -/
theorem mem_map_rank_iff (h : Mirrors all group s t) {ids : List RunId}
    (hids : ∀ id ∈ ids, ∃ state, s.run? id = some ⟨id, group, state⟩) :
    ∀ r ∈ s.runs, r.group = group →
      (rank all group r.id ∈ ids.map (rank all group) ↔ r.id ∈ ids) := by
  rintro r hr rfl
  refine ⟨fun hm => ?_, fun hm => List.mem_map_of_mem hm⟩
  obtain ⟨id, hid, he⟩ := List.mem_map.1 hm
  obtain ⟨state, hr'⟩ := hids id hid
  rw [← rank_inj (h.isOwn hr') (h.isOwn (h.left.run?_of_mem hr)) he]
  exact hid

/-- No run of a list is in the group if all are in another one. -/
theorem notMem_of_ne (h : Mirrors all group s t) (hg : g ≠ group) {ids : List RunId}
    (hids : ∀ id ∈ ids, ∃ state, s.run? id = some ⟨id, g, state⟩) :
    ∀ r ∈ s.runs, r.group = group → r.id ∉ ids := by
  rintro r hr rfl hm
  obtain ⟨state, hr'⟩ := hids r.id hm
  exact some_ne_of_group_ne hg.symm _ _ (hr'.symm.trans (h.left.run?_of_mem hr))

theorem submit (h : Mirrors all group s t) (cancel : Bool) (hp : s.groups ++ [group] <+: all) :
    Mirrors all group (s.submit group cancel).2 (t.submit group cancel).2 where
  left := h.left.submit group cancel
  right := h.right.submit group cancel
  known := groups_submit ▸ hp
  runs := by
    have hids : ∀ id ∈ (s.submit group cancel).1.cancelled,
        ∃ state, s.run? id = some ⟨id, group, state⟩ := fun _ => h.left.exists_run?_of_mem_cancelled
    rw [runs_submit, h.submit_fst hp, h.nextId_eq hp, runsOf_submit, if_pos rfl,
      ← runsOf_setState _ h.runs (h.mem_map_rank_iff hids)]
    rfl

theorem submit_of_ne (h : Mirrors all group s t) (cancel : Bool) (hg : g ≠ group)
    (hp : s.groups ++ [g] <+: all) : Mirrors all group (s.submit g cancel).2 t where
  left := h.left.submit g cancel
  right := h.right
  known := groups_submit ▸ hp
  runs := by
    rw [h.runs, runsOf_submit, if_neg hg, List.append_nil, runsOf_setState_of_notMem]
    exact h.notMem_of_ne hg fun _ => h.left.exists_run?_of_mem_cancelled

theorem complete_running (h : Mirrors all group s t)
    (hid : s.run? id = some ⟨id, group, .running⟩) :
    (t.complete (rank all group id)).1 = (s.complete id).1.map (rank all group) ∧
      Mirrors all group (s.complete id).2 (t.complete (rank all group id)).2 := by
  refine ⟨?_, h.left.complete id, h.right.complete _, by rw [groups_complete]; exact h.known, ?_⟩
  · rw [complete_of_running (h.run?_rank hid), complete_of_running hid, h.slot_eq]
  · have hfinish : (t.setState [rank all group id] .finished).runs = _ :=
      runsOf_setState [id] h.runs
        (h.mem_map_rank_iff fun j hj => ⟨_, List.mem_singleton.1 hj ▸ hid⟩) _
    rw [runsOf_complete _ hid, complete_of_running (h.run?_rank hid), h.slot_eq, Option.toList_map]
    refine runsOf_setState _ hfinish (fun r hr hg => ?_) _
    obtain ⟨r₀, hr₀, hi, hg₀⟩ := exists_of_mem_runs_setState hr
    rw [← hi]
    exact h.mem_map_rank_iff h.left.run?_of_mem_waiting r₀ hr₀ (hg₀.trans hg)

theorem complete (h : Mirrors all group s t) (hid : IsOwn s.groups group id) :
    (t.complete (rank all group id)).1 = (s.complete id).1.map (rank all group) ∧
      Mirrors all group (s.complete id).2 (t.complete (rank all group id)).2 := by
  obtain ⟨state, hr⟩ := h.left.isOwn_iff.1 hid
  by_cases hst : state = .running
  · subst hst; exact h.complete_running hr
  · have hs : s.state? id ≠ some .running := by rw [state?_of_run? hr]; simpa using hst
    rw [complete_of_not_running hs, complete_of_not_running (by rw [h.state?_rank hid]; exact hs)]
    exact ⟨rfl, h⟩

theorem complete_of_ne (h : Mirrors all group s t) (hg : g ≠ group)
    (hid : s.run? id = some ⟨id, g, .running⟩) : Mirrors all group (s.complete id).2 t where
  left := h.left.complete id
  right := h.right
  known := by rw [groups_complete]; exact h.known
  runs := by
    rw [h.runs, runsOf_complete _ hid, runsOf_setState_of_notMem, runsOf_setState_of_notMem]
    · exact h.notMem_of_ne hg fun j hj => ⟨_, List.mem_singleton.1 hj ▸ hid⟩
    · intro r hr hrg
      obtain ⟨r₀, hr₀, hi, hg₀⟩ := exists_of_mem_runs_setState hr
      rw [← hi]
      exact h.notMem_of_ne hg h.left.run?_of_mem_waiting r₀ hr₀ (hg₀.trans hrg)

theorem complete_of_not_own (h : Mirrors all group s t) (hid : ¬ IsOwn s.groups group id) :
    Mirrors all group (s.complete id).2 t := by
  by_cases hst : s.state? id = some .running
  · obtain ⟨g, hr⟩ := run?_of_state? hst
    refine h.complete_of_ne (fun hg => hid ?_) hr
    exact h.left.isOwn_iff.2 ⟨_, hg ▸ hr⟩
  · rw [complete_of_not_running hst]; exact h

/-! ### Logs -/

/-- What the rest of a log says of the group is what the mirroring schedule does. -/
theorem transcript_logOf (h : Mirrors all group s t) (hall : s.groups ++ groupsOf calls = all) :
    t.transcript ((logOf group (rank all group) s.groups (s.transcript calls)).map (·.1)) =
        logOf group (rank all group) s.groups (s.transcript calls) ∧
      Mirrors all group (calls.foldl (fun s c => (s.call c).2) s)
        (((logOf group (rank all group) s.groups (s.transcript calls)).map (·.1)).foldl
          (fun s c => (s.call c).2) t) := by
  induction calls generalizing s t with
  | nil => exact ⟨rfl, h⟩
  | cons c calls ih =>
    cases c with
    | submit g cancel =>
      have hp : s.groups ++ [g] <+: all := ⟨groupsOf calls, by rw [← hall, List.append_assoc]; rfl⟩
      have hall' : (s.submit g cancel).2.groups ++ groupsOf calls = all := by
        rw [groups_submit, ← hall, List.append_assoc]; rfl
      by_cases hg : g = group
      · subst hg
        obtain ⟨hlog, hm⟩ := ih (h.submit cancel hp) hall'
        rw [groups_submit] at hlog hm
        have hreply : (t.call (.submit g cancel)).1 =
            ((s.call (.submit g cancel)).1.rename (rank all g)) :=
          congrArg Reply.admitted (h.submit_fst hp)
        rw [Schedule.transcript, logOf, if_pos rfl, List.map_cons, Schedule.transcript, hreply]
        exact ⟨congrArg (_ :: ·) hlog, hm⟩
      · rw [Schedule.transcript, logOf, if_neg hg, ← groups_submit]
        exact ih (h.submit_of_ne cancel hg hp) hall'
    | complete id =>
      have hall' : (s.complete id).2.groups ++ groupsOf calls = all := by
        rw [groups_complete]; exact hall
      by_cases hid : IsOwn s.groups group id
      · obtain ⟨hfst, hc⟩ := h.complete hid
        obtain ⟨hlog, hm⟩ := ih hc hall'
        rw [groups_complete] at hlog hm
        have hreply : (t.call (.complete (rank all group id))).1 =
            ((s.call (.complete id)).1.rename (rank all group)) := congrArg Reply.promoted hfst
        rw [Schedule.transcript, logOf, if_pos hid, List.map_cons, Schedule.transcript, hreply]
        exact ⟨congrArg (_ :: ·) hlog, hm⟩
      · rw [Schedule.transcript, logOf, if_neg hid, ← groups_complete]
        exact ih (h.complete_of_not_own hid) hall'

end Mirrors

theorem mirrors_empty (all : List String) (group : String) : Mirrors all group {} {} where
  left := consistent_empty
  right := consistent_empty
  known := List.nil_prefix
  runs := rfl

theorem groups_after (calls : List Call) : (after calls).groups = groupsOf calls :=
  groups_foldl_call calls

/-- What a log says of a group, with the runs counted among those of the group and in the same
order, is the log of a schedule that serves this group alone, and the runs of the group end in the
same states. Finishing a run that is not in progress changes nothing at all. -/
theorem transcript_logOf_eq_logOf (calls : List Call) (group : String) :
    let own := IsOwn (groupsOf calls) group
    let ρ := rank (groupsOf calls) group
    let log := logOf group ρ [] (transcript {} calls)
    transcript {} (log.map (·.1)) = log ∧
      (∀ id, own id → (after (log.map (·.1))).state? (ρ id) = (after calls).state? id) ∧
      (∀ k, ((after (log.map (·.1))).state? k).isSome → ∃ id, own id ∧ ρ id = k) ∧
      (∀ id j, own id → own j → (ρ id < ρ j ↔ id < j)) ∧
      ∀ id, (after calls).state? id ≠ some .running →
        (after calls).complete id = (none, after calls) := by
  intro own ρ log
  obtain ⟨hlog, hm⟩ := (mirrors_empty (groupsOf calls) group).transcript_logOf
    (show groupsOf [] ++ groupsOf calls = groupsOf calls from rfl)
  have hg : (after calls).groups = groupsOf calls := groups_after calls
  refine ⟨hlog, fun id hid => hm.state?_rank (hg ▸ hid), fun k hk => ?_, fun id j hid hj => ?_,
    fun id hid => complete_of_not_running hid⟩
  · obtain ⟨state, hst⟩ := Option.isSome_iff_exists.1 hk
    obtain ⟨r, hr, -⟩ := Option.map_eq_some_iff.1 hst
    obtain ⟨id, hid, hk⟩ := hm.exists_of_run? hr
    exact ⟨id, hm.isOwn hid, hk⟩
  · refine ⟨fun hlt => Nat.lt_of_not_le fun hle => ?_, rank_lt_rank hj⟩
    rcases Nat.lt_or_eq_of_le hle with hlt' | rfl
    · exact Nat.lt_asymm hlt (rank_lt_rank hid hlt')
    · exact Nat.lt_irrefl _ hlt

/-- Two groups in turn: the second run of the second group is the fourth run of all. -/
theorem transcript_logOf_eq_logOf_two :
    let calls : List Call := [.submit "a" false, .submit "b" false, .submit "a" false,
      .submit "b" false, .complete 2]
    IsOwn (groupsOf calls) "b" 4 ∧ (after calls).state? 4 = some .running ∧
      rank (groupsOf calls) "b" 4 = 2 ∧
      (after [.submit "b" false, .submit "b" false, .complete 1]).state? 2 = some .running := by
  intro calls
  have hown : IsOwn (groupsOf calls) "b" 4 := by decide
  have hst : (after calls).state? 4 = some .running := by decide
  refine ⟨hown, hst, rfl, ?_⟩
  have h := (transcript_logOf_eq_logOf calls "b").2.1 4 hown
  rw [hst] at h
  exact h

end Schedule

end Slipway
