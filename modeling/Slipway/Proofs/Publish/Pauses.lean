import Slipway.Proofs.Publish.Attempts

/-!
# Pauses between publications

The delay of a plan shows in the waits and nowhere else. Every wait lasts the delay
(`waited_of_publishEach`), and as long as commands end alike after different waits, a run with
another delay comes to the same outcomes and is the same trace with its waits replaced
(`publishAll_retimed`). A delay of no length leaves no waits, so nothing can be said from its trace
about where they would be: the trace that is replaced comes from a delay that shows.
-/

namespace Slipway

/-- The effect with another span if it is a wait; no effect if this span is empty. -/
def Effect.retime? (span : Duration) : Effect → Option Effect
  | .waited _ => if span.isZero then none else some (.waited span)
  | effect => some effect

/-- The trace with all waits replaced by waits for another span. -/
def Trace.retimed (span : Duration) (past : Trace) : Trace :=
  past.filterMap (Effect.retime? span)

/-- Whether commands end alike whatever was waited for before. -/
def Host.IgnoresWaits (host : Host) : Prop :=
  ∀ span past, host.run (Trace.retimed span past) = host.run past

namespace Publish

variable {host : Host} {tree : FileTree} {plan : Plan} {target : Path} {targets : List Path}
  {past more : Trace} {span span' : Duration} {command : Command}

theorem retimed_append (past more : Trace) :
    Trace.retimed span (past ++ more) = past.retimed span ++ more.retimed span :=
  List.filterMap_append

theorem retimed_wait (past : Trace) :
    Trace.retimed span (past.wait span') =
      if span.isZero then past.retimed span else (past.retimed span).wait span := by
  rw [Trace.wait, retimed_append]
  by_cases hz : span.isZero = true
  · rw [if_pos hz]
    simp [Trace.retimed, Effect.retime?, hz]
  · rw [if_neg hz]
    simp [Trace.retimed, Effect.retime?, hz, Trace.wait]

theorem invoke_retimed (h : host.IgnoresWaits) (command : Command) (past : Trace) :
    host.invoke command (past.retimed span) =
      ((host.invoke command past).1, (host.invoke command past).2.retimed span) := by
  simp only [Host.invoke, h span past, retimed_append]
  rfl

/-! ### One target -/

/-- The delay has no part in the publication of a single target. -/
theorem publishOne_retimed (h : host.IgnoresWaits) (target : Path) (past : Trace) :
    publishOne host tree { plan with delay := span } target (past.retimed span) =
      ((publishOne host tree plan target past).1,
        (publishOne host tree plan target past).2.retimed span) := by
  have hinspect : ({ plan with delay := span } : Plan).inspect tree target =
      plan.inspect tree target := rfl
  cases hi : plan.inspect tree target with
  | error outcome =>
    rw [publishOne_of_error hi, publishOne_of_error (hinspect.trans hi), List.append_nil,
      List.append_nil]
  | ok p =>
    rw [publishOne_of_ok hi, publishOne_of_ok (hinspect.trans hi)]
    have hcommand : ({ plan with delay := span } : Plan).command
        (({ plan with delay := span } : Plan).directory target) =
          plan.command (plan.directory target) := rfl
    rw [hcommand, invoke_retimed h]

theorem waited_of_publishOne (target : Path) (past : Trace)
    (hm : .waited span ∈ (publishOne host tree plan target past).2) : .waited span ∈ past := by
  cases hi : plan.inspect tree target with
  | error outcome =>
    rw [publishOne_of_error hi, List.append_nil] at hm
    exact hm
  | ok p =>
    rw [publishOne_of_ok hi] at hm
    rcases List.mem_append.1 hm with hm | hm
    · exact hm
    · cases List.mem_singleton.1 hm

/-! ### All targets -/

theorem publishEach_retimed (h : host.IgnoresWaits) (hspan : plan.delay.isZero = false)
    (targets : List Path) (past : Trace) :
    publishEach host tree { plan with delay := span } targets (past.retimed span) =
      ((publishEach host tree plan targets past).1,
        (publishEach host tree plan targets past).2.retimed span) := by
  induction targets generalizing past with
  | nil => rfl
  | cons target rest ih =>
    simp only [publishEach, publishOne_retimed h target past]
    obtain ⟨⟨outcome, invoked⟩, now⟩ := publishOne host tree plan target past
    -- A pause is made after the same targets, unless it is empty.
    have hpause : (if (invoked && !rest.isEmpty && !span.isZero) = true then
          (now.retimed span).wait span else now.retimed span) =
        Trace.retimed span (if (invoked && !rest.isEmpty && !plan.delay.isZero) = true then
          now.wait plan.delay else now) := by
      rw [hspan]
      cases hd : invoked && !rest.isEmpty with
      | false => rfl
      | true =>
        rw [Bool.not_false, Bool.true_and, Bool.true_and, if_pos rfl, retimed_wait]
        cases span.isZero <;> rfl
    simp only [hpause, ih]

theorem publishAll_retimed (h : host.IgnoresWaits) (hspan : plan.delay.isZero = false) :
    publishAll host tree { plan with delay := span } [] =
      ((publishAll host tree plan []).1, (publishAll host tree plan []).2.retimed span) := by
  have heach : publishEach host tree { plan with delay := span } plan.targets [] =
      ((publishEach host tree plan plan.targets []).1,
        (publishEach host tree plan plan.targets []).2.retimed span) :=
    publishEach_retimed h hspan plan.targets []
  simp only [publishAll, heach]

/-- A wait that is added lasts the delay. -/
theorem waited_of_publishEach (targets : List Path) (past : Trace)
    (hm : .waited span ∈ (publishEach host tree plan targets past).2) :
    .waited span ∈ past ∨ span = plan.delay := by
  induction targets generalizing past with
  | nil => exact .inl hm
  | cons target rest ih =>
    have hone : .waited span ∈ (publishOne host tree plan target past).2 → .waited span ∈ past :=
      waited_of_publishOne target past
    simp only [publishEach] at hm
    obtain ⟨⟨outcome, invoked⟩, now⟩ := publishOne host tree plan target past
    rcases ih _ hm with h | h
    · split at h
      · rcases List.mem_append.1 h with h | h
        · exact .inl (hone h)
        · cases List.mem_singleton.1 h
          exact .inr rfl
      · exact .inl (hone h)
    · exact .inr h

end Publish

end Slipway
