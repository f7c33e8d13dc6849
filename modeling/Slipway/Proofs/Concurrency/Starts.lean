import Slipway.Proofs.Concurrency.Isolation

/-!
# Runs start in the order of their submission

Within a group an older run never starts after a newer one. The group's waiting run is the newest
one (`InTurn`), so whatever starts later is the waiting run or was not submitted yet; `nextStart` is
the least number that such a run can have. No call lowers it, and a call that starts a run moves it
beyond this run (`Consistent.nextStart_call`), so the numbers of the runs that start increase over
every history (`Consistent.pairwise_starts`).
-/

namespace Slipway.Schedule

/-- Whether a run is the last one that was submitted to the group, given the groups of all runs. -/
def IsNewest (groups : List String) (group : String) (id : RunId) : Prop :=
  IsOwn groups group id ∧ ∀ j, IsOwn groups group j → j ≤ id

/-- The runs of a group that are in progress after a call and were not before. -/
def started (s : Schedule) (group : String) (c : Call) : List RunId :=
  ((s.call c).2.idsOf group .running).filter fun id => s.state? id ≠ some .running

/-- The runs of a group that calls start, in the order in which they start. -/
def starts (s : Schedule) (group : String) : List Call → List RunId
  | [] => []
  | c :: calls => s.started group c ++ (s.call c).2.starts group calls

variable {s : Schedule} {group g : String} {id j : RunId} {cancel : Bool} {groups : List String}

/-! ### The newest run of a group -/

theorem IsOwn.le_length (h : IsOwn groups group id) : id ≤ groups.length :=
  Nat.le_of_pred_lt (List.getElem?_eq_some_iff.1 h.2).1

theorem isOwn_append_iff :
    IsOwn (groups ++ [g]) group id ↔
      IsOwn groups group id ∨ g = group ∧ id = groups.length + 1 := by
  constructor
  · rintro ⟨hpos, hget⟩
    rcases Nat.lt_or_ge (id - 1) groups.length with hlt | hge
    · rw [List.getElem?_append_left hlt] at hget
      exact .inl ⟨hpos, hget⟩
    · rw [List.getElem?_append_right hge, List.getElem?_singleton] at hget
      split at hget
      · next h0 =>
        have hid : id - 1 = groups.length := Nat.le_antisymm (Nat.sub_eq_zero_iff_le.1 h0) hge
        exact .inr ⟨Option.some.inj hget, by rw [← hid, Nat.sub_add_cancel hpos]⟩
      · cases hget
  · rintro (h | ⟨rfl, rfl⟩)
    · exact h.mono (List.prefix_append ..)
    · exact ⟨Nat.succ_pos _, by rw [Nat.add_sub_cancel, List.getElem?_concat_length]⟩

theorem isNewest_append_self : IsNewest (groups ++ [group]) group (groups.length + 1) := by
  refine ⟨isOwn_append_iff.2 (.inr ⟨rfl, rfl⟩), fun j hj => ?_⟩
  simpa using hj.le_length

theorem isNewest_append_iff (hg : group ≠ g) :
    IsNewest (groups ++ [g]) group id ↔ IsNewest groups group id := by
  simp only [IsNewest, isOwn_append_iff, hg.symm, false_and, or_false]

theorem length_groups : s.groups.length + 1 = s.nextId := by
  rw [groups, List.length_map]; rfl

/-- After a submission the new run is in progress alone, or it waits behind the run in progress. -/
theorem slot_submit_cases (s : Schedule) (group : String) (cancel : Bool) :
    (s.submit group cancel).2.slot group = ⟨some s.nextId, none⟩ ∨
      ∃ active, (s.slot group).running = some active ∧
        (s.submit group cancel).2.slot group = ⟨some active, some s.nextId⟩ := by
  rcases submit_cases s group cancel with ⟨-, -, hs⟩ | ⟨_, -, -, -, hs⟩ | ⟨active, hr, -, -, hs⟩
  · exact .inl hs
  · exact .inl hs
  · exact .inr ⟨active, hr, hs⟩

/-- The newest run of a group is not cancelled, and only the newest one waits. -/
structure InTurn (s : Schedule) : Prop where
  newest : ∀ g id, IsNewest s.groups g id → s.state? id ≠ some .cancelled
  waiting : ∀ g id, (s.slot g).waiting = some id → IsNewest s.groups g id

theorem inTurn_empty : InTurn {} where
  newest _ _ _ := nofun
  waiting _ _ h := nomatch h

namespace InTurn

theorem submit (h : s.InTurn) (hc : s.Consistent) (group : String) (cancel : Bool) :
    (s.submit group cancel).2.InTurn := by
  refine ⟨fun g id hn => ?_, fun g id hw => ?_⟩
  · rw [groups_submit] at hn
    by_cases hg : g = group
    · -- the newest run is the new one
      subst hg
      have hid : id = s.nextId := by
        rw [← length_groups]
        exact Nat.le_antisymm (by simpa using hn.1.le_length) (hn.2 _ isNewest_append_self.1)
      subst hid
      rw [state?, run?_submit hc.run?_nextId, if_pos rfl]
      rcases submit_cases s g cancel with ⟨-, ha, -⟩ | ⟨_, -, -, ha, -⟩ | ⟨_, -, -, ha, -⟩
      all_goals
        rw [ha]
        intro hst
        cases hst
    · have hn := (isNewest_append_iff hg).1 hn
      obtain ⟨state, hr⟩ := hc.isOwn_iff.1 hn.1
      rw [state?_of_run? ((hc.run?_submit_of_ne (r := ⟨id, g, state⟩) hg).2 hr),
        ← state?_of_run? hr]
      exact h.newest g id hn
  · rw [groups_submit]
    by_cases hg : g = group
    · subst hg
      rcases s.slot_submit_cases g cancel with hs | ⟨_, -, hs⟩
      · rw [hs] at hw; cases hw
      · rw [hs] at hw
        obtain rfl := Option.some.inj hw
        rw [← length_groups]
        exact isNewest_append_self
    · rw [slot_submit_of_ne hg] at hw
      exact (isNewest_append_iff hg).2 (h.waiting g id hw)

theorem complete (h : s.InTurn) (id : RunId) : (s.complete id).2.InTurn := by
  by_cases hst : s.state? id = some .running
  · obtain ⟨group, hid⟩ := run?_of_state? hst
    refine ⟨fun g j hn hj => ?_, fun g j hw => ?_⟩
    · -- a completion cancels nothing
      rw [groups_complete] at hn
      refine h.newest g j hn ?_
      rw [state?, run?_complete hid] at hj
      rw [state?]
      cases hr : s.run? j with
      | none => rw [hr] at hj; cases hj
      | some r =>
        rw [hr, Option.map_some, Option.map_some] at hj
        split at hj
        · cases hj
        · split at hj
          · cases hj
          · exact hj
    · rw [groups_complete]
      rw [slot_complete hid] at hw
      split at hw
      · cases hw
      · exact h.waiting g j hw
  · rw [complete_of_not_running hst]; exact h

theorem call (h : s.InTurn) (hc : s.Consistent) (c : Call) : (s.call c).2.InTurn := by
  cases c with
  | submit group cancel => exact h.submit hc group cancel
  | complete id => exact h.complete id

theorem foldl_call (h : s.InTurn) (hc : s.Consistent) (calls : List Call) :
    (calls.foldl (fun s c => (s.call c).2) s).InTurn := by
  induction calls generalizing s with
  | nil => exact h
  | cons c calls ih => exact ih (h.call hc c) (hc.call c)

end InTurn

/-! ### What starts next -/

/-- The least number of a run of the group that starts later: the waiting run if there is one, else
the next new run. -/
def nextStart (s : Schedule) (group : String) : RunId :=
  (s.slot group).waiting.getD s.nextId

theorem nextId_submit : (s.submit group cancel).2.nextId = s.nextId + 1 := by
  rw [← length_groups, groups_submit, List.length_append, ← length_groups]; rfl

theorem nextId_complete : (s.complete id).2.nextId = s.nextId := by
  rw [← length_groups, groups_complete, length_groups]

namespace Consistent

theorem nextStart_le (h : s.Consistent) (group : String) : s.nextStart group ≤ s.nextId := by
  rw [nextStart]
  cases hw : (s.slot group).waiting with
  | none => exact Nat.le_refl _
  | some w => exact Nat.le_of_lt (h.lt_nextId ((h.waiting group w).1 hw))

theorem slot_of_mem_started (h : s.Consistent) {c : Call} (hid : id ∈ s.started group c) :
    ((s.call c).2.slot group).running = some id ∧ (s.slot group).running ≠ some id := by
  obtain ⟨hid, hst⟩ := List.mem_filter.1 hid
  refine ⟨((h.call c).running group id).2 ((h.call c).mem_idsOf.1 hid), fun hr => ?_⟩
  exact of_decide_eq_true hst (state?_of_run? ((h.running group id).1 hr))

theorem pairwise_started (h : s.Consistent) (group : String) (c : Call) :
    (s.started group c).Pairwise (· < ·) := by
  refine List.Pairwise.sublist List.filter_sublist ?_
  rw [(h.call c).idsOf_running]
  cases ((s.call c).2.slot group).running with
  | none => exact .nil
  | some id => exact List.pairwise_singleton _ id

theorem nextStart_submit (h : s.Consistent) (group g : String) (cancel : Bool) :
    s.nextStart group ≤ (s.submit g cancel).2.nextStart group ∧
      ∀ id, ((s.submit g cancel).2.slot group).running = some id →
        (s.slot group).running ≠ some id →
        s.nextStart group ≤ id ∧ id < (s.submit g cancel).2.nextStart group := by
  have hle := h.nextStart_le group
  have hsucc : s.nextStart group ≤ s.nextId + 1 := Nat.le_succ_of_le hle
  by_cases hg : group = g
  · subst hg
    have hnext : (s.submit group cancel).2.nextStart group =
        ((s.submit group cancel).2.slot group).waiting.getD (s.nextId + 1) := by
      rw [nextStart, nextId_submit]
    rw [hnext]
    rcases s.slot_submit_cases group cancel with hs | ⟨_, hr, hs⟩
    · rw [hs]
      refine ⟨hsucc, fun id hid _ => ?_⟩
      obtain rfl := Option.some.inj hid
      exact ⟨hle, Nat.lt_succ_self _⟩
    · -- the new run waits behind the one that was in progress before
      rw [hs]
      exact ⟨hle, fun id hid hne => absurd (hr.trans hid) hne⟩
  · rw [nextStart, nextStart, slot_submit_of_ne hg, nextId_submit]
    refine ⟨?_, fun id hid hne => absurd hid hne⟩
    cases (s.slot group).waiting with
    | none => exact Nat.le_succ _
    | some w => exact Nat.le_refl _

theorem nextStart_complete (h : s.Consistent) (group : String) (id : RunId) :
    s.nextStart group ≤ (s.complete id).2.nextStart group ∧
      ∀ j, ((s.complete id).2.slot group).running = some j → (s.slot group).running ≠ some j →
        s.nextStart group ≤ j ∧ j < (s.complete id).2.nextStart group := by
  by_cases hst : s.state? id = some .running
  · obtain ⟨g, hid⟩ := run?_of_state? hst
    have hslot := slot_complete (g := group) hid
    by_cases hg : group = g
    · -- only the waiting run can start, and it is older than any new one
      rw [if_pos hg] at hslot
      subst hg
      have hnext : (s.complete id).2.nextStart group = s.nextId := by
        rw [nextStart, hslot, nextId_complete]; rfl
      rw [hnext, hslot]
      refine ⟨h.nextStart_le group, fun j hj _ => ?_⟩
      have hw : (s.slot group).waiting = some j := hj
      rw [nextStart, hw]
      exact ⟨Nat.le_refl _, h.lt_nextId ((h.waiting group j).1 hw)⟩
    · rw [if_neg hg] at hslot
      rw [nextStart, nextStart, hslot, nextId_complete]
      exact ⟨Nat.le_refl _, fun j hj hne => absurd hj hne⟩
  · rw [complete_of_not_running hst]
    exact ⟨Nat.le_refl _, fun j hj hne => absurd hj hne⟩

/-- A call does not lower the next start, and what it starts lies between the old and the new
one. -/
theorem nextStart_call (h : s.Consistent) (group : String) (c : Call) :
    s.nextStart group ≤ (s.call c).2.nextStart group ∧
      ∀ id ∈ s.started group c, s.nextStart group ≤ id ∧ id < (s.call c).2.nextStart group := by
  cases c with
  | submit g cancel =>
    obtain ⟨hle, hstart⟩ := h.nextStart_submit group g cancel
    exact ⟨hle, fun id hid => hstart id (h.slot_of_mem_started hid).1 (h.slot_of_mem_started hid).2⟩
  | complete j =>
    obtain ⟨hle, hstart⟩ := h.nextStart_complete group j
    exact ⟨hle, fun id hid => hstart id (h.slot_of_mem_started hid).1 (h.slot_of_mem_started hid).2⟩

theorem pairwise_starts (h : s.Consistent) (group : String) (calls : List Call) :
    (s.starts group calls).Pairwise (· < ·) ∧
      ∀ id ∈ s.starts group calls, s.nextStart group ≤ id := by
  induction calls generalizing s with
  | nil => exact ⟨.nil, nofun⟩
  | cons c calls ih =>
    obtain ⟨hle, hstart⟩ := h.nextStart_call group c
    obtain ⟨hpair, hlater⟩ := ih (h.call c)
    refine ⟨List.pairwise_append.2 ⟨h.pairwise_started group c, hpair, fun a ha b hb => ?_⟩,
      fun id hid => ?_⟩
    · exact Nat.lt_of_lt_of_le (hstart a ha).2 (hlater b hb)
    · rcases List.mem_append.1 hid with hid | hid
      · exact (hstart id hid).1
      · exact Nat.le_trans hle (hlater id hid)

end Consistent

/-- After every history the newest run of a group is not cancelled, a waiting run is the newest one
and was submitted after the one in progress, and the runs of the group have started in the order of
their submission. -/
theorem newest_and_starts_after (calls : List Call) (group : String) :
    (∀ id, IsNewest (groupsOf calls) group id →
        ∃ state, (after calls).run? id = some ⟨id, group, state⟩ ∧ state ≠ .cancelled) ∧
      (∀ id, (after calls).run? id = some ⟨id, group, .waiting⟩ →
        IsNewest (groupsOf calls) group id ∧
          (∃ j, (after calls).run? j = some ⟨j, group, .running⟩) ∧
          ∀ j, (after calls).run? j = some ⟨j, group, .running⟩ → j < id) ∧
      (starts {} group calls).Pairwise (· < ·) := by
  have hc := consistent_after calls
  have ht : (after calls).InTurn := inTurn_empty.foldl_call consistent_empty calls
  have hg : (after calls).groups = groupsOf calls := groups_after calls
  refine ⟨fun id hid => ?_, fun id hid => ?_, (consistent_empty.pairwise_starts group calls).1⟩
  · obtain ⟨state, hr⟩ := hc.isOwn_iff.1 (hg ▸ hid.1)
    refine ⟨state, hr, fun hst => ht.newest group id (hg ▸ hid) ?_⟩
    rw [state?_of_run? hr, ← hst]
  · have hw := (hc.waiting group id).2 hid
    have hn := ht.waiting group id hw
    refine ⟨hg ▸ hn, ?_, fun j hj => ?_⟩
    · cases hr : ((after calls).slot group).running with
      | none => rw [hc.served group hr] at hw; cases hw
      | some j => exact ⟨j, (hc.running group j).1 hr⟩
    · refine Nat.lt_of_le_of_ne (hn.2 j (hc.isOwn_iff.2 ⟨_, hj⟩)) ?_
      rintro rfl
      rw [hid] at hj; cases hj

/-- The third run replaces the second one behind the first, and starts when the first is done. -/
theorem newest_and_starts_after_three :
    let calls : List Call := [.submit "main" false, .submit "main" false, .submit "main" false]
    (after calls).run? 3 = some ⟨3, "main", .waiting⟩ ∧ IsNewest (groupsOf calls) "main" 3 ∧
      starts {} "main" (calls ++ [.complete 1]) = [1, 3] ∧
      (starts {} "main" (calls ++ [.complete 1])).Pairwise (· < ·) := by
  intro calls
  have hw : (after calls).run? 3 = some ⟨3, "main", .waiting⟩ := by decide
  exact ⟨hw, ((newest_and_starts_after calls "main").2.1 3 hw).1, by decide,
    (newest_and_starts_after (calls ++ [.complete 1]) "main").2.2⟩

end Slipway.Schedule
