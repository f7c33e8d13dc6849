import Slipway.Proofs.Concurrency.Slots

/-!
# Replies tell the whole truth

An observer who sees the calls to a schedule and what they return keeps a `Table` of its own. It is
always the table of the schedule (`observed_transcript`): no call changes a run without saying so,
and no reply speaks of a run whose state it did not change. One call is `state?_call`, a simulation
step; what is over stays over (`state?_call_of_over`), which is why no run is cancelled twice.
-/

namespace Slipway.Schedule

/-- What an observer holds of each run. -/
abbrev Table := RunId → Option RunState

namespace Table

variable {t : Table} {ids : List RunId} {id : RunId} {state : RunState}

/-- The table with a run in another state. -/
def mark (t : Table) (id : RunId) (state : RunState) : Table :=
  fun j => if j = id then some state else t j

/-- The table with several runs in another state. -/
def markAll (t : Table) (ids : List RunId) (state : RunState) : Table :=
  ids.foldl (fun t id => t.mark id state) t

/-- The table after a call and its reply. A completion counts only for a run that the table holds
to be in progress. -/
def observe (t : Table) : Call × Reply → Table
  | (.submit _ _, .admitted a) => (t.markAll a.cancelled .cancelled).mark a.id a.state
  | (.complete id, .promoted next) =>
    if t id = some .running then (t.mark id .finished).markAll next.toList .running else t
  | _ => t

/-- The table of an observer who saw some calls and their replies from the start on. -/
def observed (log : List (Call × Reply)) : Table :=
  log.foldl observe fun _ => none

theorem markAll_apply : t.markAll ids state id = if id ∈ ids then some state else t id := by
  induction ids generalizing t with
  | nil => rfl
  | cons a ids ih =>
    show (t.mark a state).markAll ids state id = _
    rw [ih]
    by_cases hm : id ∈ ids
    · simp [hm]
    · simp [hm, mark]

end Table

/-- The runs that submissions cancelled, in the order in which the replies list them. -/
def cancellations (log : List (Call × Reply)) : List RunId :=
  log.flatMap fun
    | (_, .admitted a) => a.cancelled
    | (_, .promoted _) => []

variable {s : Schedule} {group : String} {id j : RunId} {cancel : Bool} {state : RunState}

/-! ### One call -/

namespace Consistent

theorem state?_submit (h : s.Consistent) :
    (s.submit group cancel).2.state? =
      (Table.markAll s.state? (s.submit group cancel).1.cancelled .cancelled).mark
        (s.submit group cancel).1.id (s.submit group cancel).1.state := by
  funext j
  rw [Table.mark, Table.markAll_apply, submit_id, state?, run?_submit h.run?_nextId]
  split
  · rfl
  · split
    · next hc =>
      obtain ⟨_, hr⟩ := h.exists_run?_of_mem_cancelled hc
      rw [hr]; rfl
    · rw [Option.map_id']; rfl

theorem state?_complete (h : s.Consistent) (hid : s.run? id = some ⟨id, group, .running⟩) :
    (s.complete id).2.state? =
      (Table.mark s.state? id .finished).markAll (s.complete id).1.toList .running := by
  have hnext : (s.complete id).1 = (s.slot group).waiting := by rw [complete_of_running hid]
  funext j
  rw [Table.markAll_apply, Table.mark, hnext, state?, run?_complete hid]
  by_cases hw : (s.slot group).waiting = some j
  · rw [(h.waiting group j).1 hw, if_pos (Option.mem_toList.2 hw), Option.map_some, if_pos hw]
    rfl
  · rw [if_neg (fun hm => hw (Option.mem_toList.1 hm))]
    by_cases hj : j = id
    · subst hj
      rw [hid, if_pos rfl, Option.map_some, if_neg hw, if_pos rfl]
      rfl
    · simp only [hw, hj, ↓reduceIte, Option.map_id']
      rfl

/-- A call changes the states of the runs just as its reply tells. -/
theorem state?_call (h : s.Consistent) (c : Call) :
    (s.call c).2.state? = Table.observe s.state? (c, (s.call c).1) := by
  cases c with
  | submit group cancel => exact h.state?_submit
  | complete id =>
    show (s.complete id).2.state? = if s.state? id = some .running then _ else _
    by_cases hst : s.state? id = some .running
    · obtain ⟨group, hid⟩ := run?_of_state? hst
      rw [if_pos hst]; exact h.state?_complete hid
    · rw [if_neg hst, complete_of_not_running hst]

/-- A run that is cancelled or finished stays so. -/
theorem state?_call_of_over (h : s.Consistent) (c : Call)
    (hover : state = .cancelled ∨ state = .finished) (hid : s.state? id = some state) :
    (s.call c).2.state? id = some state := by
  have hne : state ≠ .waiting ∧ state ≠ .running := by rcases hover with rfl | rfl <;> simp
  rw [h.state?_call c]
  cases c with
  | submit group cancel =>
    show (Table.markAll s.state? (s.submit group cancel).1.cancelled .cancelled).mark
      (s.submit group cancel).1.id (s.submit group cancel).1.state id = some state
    obtain ⟨g, hr⟩ := run?_of_state? hid
    have hn : id ≠ s.nextId := Nat.ne_of_lt (h.lt_nextId hr)
    -- what is cancelled was waiting or in progress
    have hc : id ∉ (s.submit group cancel).1.cancelled := by
      intro hc
      rcases h.run?_of_mem_cancelled hc with hw | ⟨hw, -⟩
      · exact hne.1 (Option.some.inj (hid.symm.trans (state?_of_run? hw)))
      · exact hne.2 (Option.some.inj (hid.symm.trans (state?_of_run? hw)))
    rw [Table.mark, submit_id, if_neg hn, Table.markAll_apply, if_neg hc, hid]
  | complete j =>
    show (if s.state? j = some .running
      then (Table.mark s.state? j .finished).markAll (s.complete j).1.toList .running
      else s.state?) id = some state
    split
    · next hj =>
      obtain ⟨g, hr⟩ := run?_of_state? hj
      have hjd : id ≠ j := by
        rintro rfl; exact hne.2 (Option.some.inj (hid.symm.trans hj))
      have hw : id ∉ (s.complete j).1.toList := by
        rw [complete_of_running hr, Option.mem_toList]
        intro hw
        have hw' := state?_of_run? ((h.waiting g id).1 hw)
        exact hne.1 (Option.some.inj (hid.symm.trans hw'))
      rw [Table.markAll_apply, if_neg hw, Table.mark, if_neg hjd, hid]
    · exact hid

theorem nodup_cancelled (h : s.Consistent) : (s.submit group cancel).1.cancelled.Nodup := by
  rcases submit_cases s group cancel with ⟨-, ha, -⟩ | ⟨active, hr, -, ha, -⟩ | ⟨_, -, -, ha, -⟩
  · rw [ha]; exact Option.toList_nodup _
  · rw [ha]
    have hne := h.waiting_ne_of_running hr
    refine List.nodup_append.2
      ⟨Option.toList_nodup _, List.nodup_singleton active, fun a haw b hb => ?_⟩
    rw [List.mem_singleton] at hb
    rw [Option.mem_toList] at haw
    rintro rfl
    exact hne (hb ▸ haw)
  · rw [ha]; exact Option.toList_nodup _

/-- Only a waiting run is promoted. -/
theorem state?_of_complete_eq_some (h : s.Consistent) (hj : (s.complete id).1 = some j) :
    s.state? j = some .waiting := by
  by_cases hst : s.state? id = some .running
  · obtain ⟨group, hid⟩ := run?_of_state? hst
    rw [complete_of_running hid] at hj
    exact state?_of_run? ((h.waiting group j).1 hj)
  · rw [complete_of_not_running hst] at hj; cases hj

end Consistent

/-! ### Histories -/

theorem after_append (calls more : List Call) :
    after (calls ++ more) = more.foldl (fun s c => (s.call c).2) (after calls) :=
  List.foldl_append

theorem transcript_take (n : Nat) (calls : List Call) :
    (s.transcript calls).take n = s.transcript (calls.take n) := by
  induction calls generalizing s n with
  | nil => simp [transcript]
  | cons c calls ih =>
    cases n with
    | zero => rfl
    | succ n => rw [transcript, List.take_succ_cons, ih, List.take_succ_cons, transcript]

namespace Consistent

theorem foldl_observe (h : s.Consistent) (calls : List Call) :
    (s.transcript calls).foldl Table.observe s.state? =
      (calls.foldl (fun s c => (s.call c).2) s).state? := by
  induction calls generalizing s with
  | nil => rfl
  | cons c calls ih =>
    rw [transcript, List.foldl_cons, List.foldl_cons, ← h.state?_call c]
    exact ih (h.call c)

theorem state?_foldl_of_over (h : s.Consistent) (calls : List Call)
    (hover : state = .cancelled ∨ state = .finished) (hid : s.state? id = some state) :
    (calls.foldl (fun s c => (s.call c).2) s).state? id = some state := by
  induction calls generalizing s with
  | nil => exact hid
  | cons c calls ih => exact ih (h.call c) (h.state?_call_of_over c hover hid)

/-- A cancelled run is cancelled by the reply that names it, so no later reply names it again. The
induction carries that no run which is cancelled already is named at all. -/
theorem nodup_cancellations (h : s.Consistent) (calls : List Call) :
    (cancellations (s.transcript calls)).Nodup ∧
      ∀ id ∈ cancellations (s.transcript calls), s.state? id ≠ some .cancelled := by
  induction calls generalizing s with
  | nil => exact ⟨List.nodup_nil, nofun⟩
  | cons c calls ih =>
    obtain ⟨hnd, hnew⟩ := ih (h.call c)
    have hrest : ∀ id ∈ cancellations ((s.call c).2.transcript calls),
        s.state? id ≠ some .cancelled := fun id hid hst =>
      hnew id hid (h.state?_call_of_over c (.inl rfl) hst)
    cases c with
    | complete id => exact ⟨hnd, hrest⟩
    | submit group cancel =>
      show ((s.submit group cancel).1.cancelled ++ cancellations _).Nodup ∧
        ∀ id ∈ (s.submit group cancel).1.cancelled ++ cancellations _, _
      refine ⟨List.nodup_append.2 ⟨h.nodup_cancelled, hnd, fun a ha b hb hab => ?_⟩,
        fun id hid => ?_⟩
      · subst hab
        refine hnew a hb ?_
        obtain ⟨_, hr⟩ := h.exists_run?_of_mem_cancelled ha
        show (s.submit group cancel).2.state? a = some .cancelled
        have hn : a ≠ s.nextId := Nat.ne_of_lt (h.lt_nextId hr)
        rw [h.state?_submit, Table.mark, submit_id, if_neg hn, Table.markAll_apply, if_pos ha]
      · rcases List.mem_append.1 hid with hid | hid
        · rcases h.run?_of_mem_cancelled hid with hr | ⟨hr, -⟩
          all_goals rw [state?_of_run? hr]; simp
        · exact hrest id hid

end Consistent

/-- After each call of a history an observer of calls and replies holds the states of all runs. A
submission cancels runs of its group that are not over, the one in progress only on request, and no
run twice; a completion promotes a waiting run; and what is over stays over. -/
theorem observed_transcript (calls : List Call) :
    (∀ n id, Table.observed ((transcript {} calls).take n) id =
        (after (calls.take n)).state? id) ∧
      (∀ group cancel, ∀ id ∈ ((after calls).submit group cancel).1.cancelled,
        (after calls).run? id = some ⟨id, group, .waiting⟩ ∨
          (after calls).run? id = some ⟨id, group, .running⟩ ∧ cancel = true) ∧
      (cancellations (transcript {} calls)).Nodup ∧
      (∀ id next, ((after calls).complete id).1 = some next →
        (after calls).state? next = some .waiting) ∧
      (∀ more id state, state = .cancelled ∨ state = .finished →
        (after calls).state? id = some state →
        (after (calls ++ more)).state? id = some state) := by
  have h := consistent_after calls
  refine ⟨fun n id => ?_, fun group cancel id => h.run?_of_mem_cancelled,
    (consistent_empty.nodup_cancellations calls).1, fun id next => h.state?_of_complete_eq_some,
    fun more id state hover hid => ?_⟩
  · rw [transcript_take]
    exact congrFun (consistent_empty.foldl_observe (calls.take n)) id
  · rw [after_append]
    exact h.state?_foldl_of_over more hover hid

/-- A waiting run is cancelled by the third submission, the run in progress is finished, and the
third run is promoted. -/
theorem observed_transcript_three :
    (after [.submit "main" false, .submit "main" false, .submit "main" false]).state? 2 =
        some .cancelled ∧
      (after ([.submit "main" false, .submit "main" false, .submit "main" false] ++
        [.complete 1])).state? 2 = some .cancelled := by
  have hst : (after [.submit "main" false, .submit "main" false, .submit "main" false]).state? 2 =
      some .cancelled := by decide
  exact ⟨hst, (observed_transcript
    [.submit "main" false, .submit "main" false, .submit "main" false]).2.2.2.2
    [.complete 1] 2 .cancelled (.inl rfl) hst⟩

end Slipway.Schedule
