import Slipway.Proofs.Publish.Attempts
import Mathlib.Data.List.Chain

/-!
# Commands and pauses by turns

A delay of no length leaves no pauses. With any other, publishing is a sequence of commands and
pauses by turns, a command first (`byTurns_timeline`): there is a pause behind each command that is
not the last target's, and nothing is done for the targets in between that run none. Where pauses
stand follows from the turns (`ByTurns.follows`, `ByTurns.first`, `ByTurns.between`); only the end
of the sequence depends on the targets (`timeline_append_last`).
-/

namespace Slipway

namespace Publish

variable {host : Host} {tree : FileTree} {plan : Plan} {a : Attempt} {rest attempts : List Attempt}
  {past more : Trace} {effect : Effect} {command : Command} {ending : Except OsError Exit}

/-! ### One attempt more -/

theorem timeline_cons_of_none (h : a.ending = none) :
    timeline plan (a :: rest) = timeline plan rest := by
  simp [timeline, Attempt.effects, Attempt.pause, Attempt.ran?, h]

theorem timeline_cons_of_ran (h : a.ran? plan = some (command, ending)) :
    timeline plan (a :: rest) = .ran command ending ::
      ((if rest.isEmpty || plan.delay.isZero then [] else [.waited plan.delay]) ++
        timeline plan rest) := by
  have hsome : a.ending.isSome = true := by
    rw [Attempt.ran?, Option.map_eq_some_iff] at h
    obtain ⟨e, he, -⟩ := h
    rw [he]; rfl
  rw [timeline, Attempt.effects, Attempt.pause, h, hsome]
  cases rest.isEmpty <;> cases plan.delay.isZero <;> rfl

theorem ending_eq_none_iff : a.ending = none ↔ a.ran? plan = none := by
  rw [Attempt.ran?, Option.map_eq_none_iff]

theorem mem_timeline (h : effect ∈ timeline plan attempts) :
    effect.ran?.isSome = true ∨ (effect = .waited plan.delay ∧ plan.delay.isZero = false) := by
  induction attempts with
  | nil => cases h
  | cons a rest ih =>
    rw [timeline, List.mem_append, List.mem_append] at h
    rcases h with (h | h) | h
    · obtain ⟨ran, -, rfl⟩ := List.mem_map.1 h
      exact .inl rfl
    · exact .inr (Attempt.mem_pause h)
    · exact ih h

/-! ### By turns -/

/-- One of two effects is a command and the other is not. -/
def Turn (x y : Effect) : Prop :=
  x.ran?.isSome ≠ y.ran?.isSome

/-- Commands and waits for a span by turns, a command first. -/
structure ByTurns (span : Duration) (more : Trace) : Prop where
  kinds : ∀ effect ∈ more, effect.ran?.isSome = true ∨ effect = .waited span
  head : ∀ effect ∈ more.head?, effect.ran?.isSome = true
  chain : more.IsChain Turn

namespace ByTurns

variable {span span' : Duration} {before gap after : Trace} {x y : Effect} {command' : Command}
  {ending' : Except OsError Exit}

theorem turn (h : ByTurns span more) (he : more = before ++ x :: y :: after) : Turn x y := by
  have hchain := h.chain
  rw [he, List.isChain_append_cons_cons] at hchain
  exact hchain.2.1

theorem exists_ran (h : effect.ran?.isSome = true) :
    ∃ command ending, effect = .ran command ending := by
  cases effect with
  | ran command ending => exact ⟨command, ending, rfl⟩
  | probed program found => cases h
  | waited span => cases h

theorem eq_wait_of_mem (h : ByTurns span more) (hmem : effect ∈ more)
    (hquiet : effect.ran? = none) : effect = .waited span := by
  rcases h.kinds effect hmem with hran | hwait
  · rw [hquiet] at hran
    cases hran
  · exact hwait

theorem follows (h : ByTurns span more) (he : more = before ++ .waited span' :: after) :
    ∃ earlier command ending, before = earlier ++ [.ran command ending] := by
  rcases List.eq_nil_or_concat before with rfl | ⟨earlier, x, rfl⟩
  · cases h.head (.waited span') (by rw [he]; rfl)
  · have hturn : Turn x (.waited span') := h.turn (by simpa using he)
    have hx : x.ran?.isSome = true := Bool.of_not_eq_false hturn
    obtain ⟨command, ending, rfl⟩ := exists_ran hx
    exact ⟨earlier, command, ending, List.concat_eq_append⟩

theorem first (h : ByTurns span more) (he : more = before ++ .ran command ending :: after)
    (hquiet : ∀ effect ∈ before, effect.ran? = none) : before = [] := by
  cases before with
  | nil => rfl
  | cons x before =>
    have hx : x.ran?.isSome = true := h.head x (by rw [he]; rfl)
    rw [hquiet x List.mem_cons_self] at hx
    cases hx

theorem between (h : ByTurns span more)
    (he : more = before ++ .ran command ending :: (gap ++ .ran command' ending' :: after))
    (hquiet : ∀ effect ∈ gap, effect.ran? = none) : gap = [.waited span] := by
  match gap with
  | [] =>
    have hturn : Turn (.ran command ending) (.ran command' ending') := h.turn he
    exact absurd rfl hturn
  | [x] =>
    have hmem : x ∈ more := by simp [he]
    rw [h.eq_wait_of_mem hmem (hquiet x List.mem_cons_self)]
  | x :: y :: gap =>
    have hx : x.ran? = none := hquiet x (by simp)
    have hy : y.ran? = none := hquiet y (by simp)
    have he' : more = (before ++ [.ran command ending]) ++
        x :: y :: (gap ++ .ran command' ending' :: after) := by simpa using he
    have hturn : Turn x y := h.turn he'
    exact absurd (by rw [hx, hy]) hturn

end ByTurns

theorem head_timeline (plan : Plan) (attempts : List Attempt) :
    ∀ effect ∈ (timeline plan attempts).head?, effect.ran?.isSome = true := by
  intro effect h
  induction attempts with
  | nil => cases h
  | cons a rest ih =>
    cases hr : a.ran? plan with
    | none =>
      rw [timeline_cons_of_none (ending_eq_none_iff.2 hr)] at h
      exact ih h
    | some ran =>
      rw [timeline_cons_of_ran hr, List.head?_cons, Option.mem_some_iff] at h
      rw [← h]; rfl

theorem isChain_timeline (hspan : plan.delay.isZero = false) (attempts : List Attempt) :
    (timeline plan attempts).IsChain Turn := by
  induction attempts with
  | nil => exact .nil
  | cons a rest ih =>
    cases hr : a.ran? plan with
    | none =>
      rw [timeline_cons_of_none (ending_eq_none_iff.2 hr)]
      exact ih
    | some ran =>
      rw [timeline_cons_of_ran hr, hspan]
      cases rest with
      | nil => exact .singleton _
      | cons b rest =>
        have hnext : ∀ y ∈ (timeline plan (b :: rest)).head?, Turn (.waited plan.delay) y := by
          intro y hy
          rw [Turn, head_timeline _ _ y hy]
          exact nofun
        exact List.isChain_cons_cons.2 ⟨nofun, List.isChain_cons.2 ⟨hnext, ih⟩⟩

theorem byTurns_timeline (hspan : plan.delay.isZero = false) (attempts : List Attempt) :
    ByTurns plan.delay (timeline plan attempts) where
  kinds _ h := (mem_timeline h).imp_right And.left
  head := head_timeline plan attempts
  chain := isChain_timeline hspan attempts

/-! ### Where pauses stand -/

theorem timeline_append_last {before after : List Attempt} (hspan : plan.delay.isZero = false)
    (h : a.ran? plan = some (command, ending)) (hafter : ∀ b ∈ after, b.ending = none) :
    ∃ earlier, timeline plan (before ++ a :: after) =
      earlier ++ .ran command ending :: if after.isEmpty then [] else [.waited plan.delay] := by
  have hquiet : timeline plan after = [] := by
    induction after with
    | nil => rfl
    | cons b after ih =>
      obtain ⟨hb, hrest⟩ := List.forall_mem_cons.1 hafter
      rw [timeline_cons_of_none hb, ih hrest]
  induction before with
  | nil =>
    refine ⟨[], ?_⟩
    rw [List.nil_append, timeline_cons_of_ran h, hquiet, hspan, Bool.or_false, List.append_nil]
    rfl
  | cons b before ih =>
    obtain ⟨earlier, he⟩ := ih
    rw [List.cons_append, timeline, he]
    exact ⟨_, (List.append_assoc ..).symm⟩

/-- How the pauses stand among the commands of some attempts. -/
structure Paced (plan : Plan) (attempts : List Attempt) (more : Trace) : Prop where
  follows : ∀ before span after, more = before ++ .waited span :: after →
    span = plan.delay ∧ ∃ earlier command ending, before = earlier ++ [.ran command ending]
  first : ∀ before command ending after, more = before ++ .ran command ending :: after →
    (∀ effect ∈ before, effect.ran? = none) → before = []
  between : ∀ before command ending gap command' ending' after,
    more = before ++ .ran command ending :: (gap ++ .ran command' ending' :: after) →
    (∀ effect ∈ gap, effect.ran? = none) → gap = [.waited plan.delay]
  last : ∀ before a after command ending, attempts = before ++ a :: after →
    a.ran? plan = some (command, ending) → (∀ b ∈ after, b.ending = none) →
    ∃ earlier, more = earlier ++ .ran command ending ::
      if after.isEmpty then [] else [.waited plan.delay]

theorem paced_timeline (hspan : plan.delay.isZero = false) (attempts : List Attempt) :
    Paced plan attempts (timeline plan attempts) := by
  have hturns := byTurns_timeline hspan attempts
  refine ⟨?_, fun _ _ _ _ => hturns.first, fun _ _ _ _ _ _ _ => hturns.between, ?_⟩
  · intro before span after he
    have hmem : .waited span ∈ timeline plan attempts := by simp [he]
    exact ⟨Effect.waited.inj (hturns.eq_wait_of_mem hmem rfl), hturns.follows he⟩
  · rintro before a after command ending rfl hran hafter
    exact timeline_append_last hspan hran hafter

/-- Whatever commands do, what publishing adds to the trace are the commands of its attempts and
pauses. There is no pause if the delay is empty. Otherwise each pause lasts the delay and directly
follows a command, there is none before the first command, one between two successive commands, and
one after the last command exactly if targets remain. -/
theorem publishAll_paced (host : Host) (tree : FileTree) (plan : Plan) (past : Trace) :
    ∃ (attempts : List Attempt) (more : Trace),
      publishAll host tree plan past =
          (⟨plan.dryRun, attempts.map (·.outcome)⟩, past ++ more) ∧
        attempts.map (·.target) = plan.targets ∧
        (∀ a ∈ attempts, a.Lawful tree plan) ∧
        more.filterMap Effect.ran? = attempts.filterMap (·.ran? plan) ∧
        (∀ effect ∈ more, effect.ran? = none → effect = .waited plan.delay) ∧
        (plan.delay.isZero = true → ∀ effect ∈ more, effect.ran? ≠ none) ∧
        (plan.delay.isZero = false → Paced plan attempts more) := by
  obtain ⟨attempts, htargets, hall, heach, -⟩ :=
    publishEach_timeline host tree plan plan.targets past
  refine ⟨attempts, timeline plan attempts, ?_, htargets, hall, filterMap_timeline plan attempts,
    ?_, ?_, fun hspan => paced_timeline hspan attempts⟩
  · simp only [publishAll, heach]
  · intro effect hmem hnone
    rcases mem_timeline hmem with h | ⟨h, -⟩
    · rw [hnone] at h
      cases h
    · exact h
  · intro hspan effect hmem hnone
    rcases mem_timeline hmem with h | ⟨-, h⟩
    · rw [hnone] at h
      cases h
    · rw [hspan] at h
      cases h

/-- Two packages are published; one between them is withheld, and one behind them is missing. -/
theorem publishAll_paced_four :
    let manifest : Contents := .text "[package]\nname = \"p\"\n"
    let withheld : Contents := .text "[package]\nname = \"q\"\npublish = false\n"
    let tree := (FileTree.addFile { cwd := ["home"] } "/ws/a/Cargo.toml" manifest).addFile
      "/ws/b/Cargo.toml" withheld
    let plan : Plan := ⟨"/ws", ["a", "b", "a", "c"], ⟨10, 0⟩, false, []⟩
    let command : Command := ⟨"cargo", ["publish"], some "/ws/a", []⟩
    ∃ ending ending', (publishAll ⟨fun _ _ => .ok .signal, fun _ _ => true⟩ tree plan []).2 =
      [.ran command ending, .waited ⟨10, 0⟩, .ran command ending', .waited ⟨10, 0⟩] := by
  intro manifest withheld tree plan command
  have hjoin : plan.root.join "a" = "/ws/a" ∧ plan.root.join "b" = "/ws/b" ∧
      plan.root.join "c" = "/ws/c" := by decide +kernel
  have ha : Reads tree "/ws/a" ⟨"p", none, true⟩ := reads_iff.2 (by decide +kernel)
  have hb : Reads tree "/ws/b" ⟨"q", none, false⟩ := reads_iff.2 (by decide +kernel)
  have hc : ∀ p, ¬ Reads tree "/ws/c" p := fun p h => absurd h.1 (by decide +kernel)
  obtain ⟨attempts, more, hrun, htargets, hall, hran, -, -, hpaced⟩ :=
    publishAll_paced ⟨fun _ _ => .ok .signal, fun _ _ => true⟩ tree plan []
  have hturns := hpaced rfl
  rcases attempts with _ | ⟨⟨_, ea, oa⟩, _ | ⟨⟨_, eb, ob⟩, _ | ⟨⟨_, ea', oa'⟩,
    _ | ⟨⟨_, ec, oc⟩, _ | ⟨w, l⟩⟩⟩⟩⟩ <;> simp [plan] at htargets
  obtain ⟨rfl, rfl, rfl, rfl⟩ := htargets
  have hinvoked := fun x hx => (hall x hx).ran
  simp only [hjoin, List.forall_mem_cons] at hinvoked
  obtain ⟨hia, hib, hia', hic, -⟩ := hinvoked
  obtain ⟨ending, rfl⟩ := Option.isSome_iff_exists.1 (hia.2 ⟨_, ha, rfl⟩)
  obtain ⟨ending', rfl⟩ := Option.isSome_iff_exists.1 (hia'.2 ⟨_, ha, rfl⟩)
  obtain rfl : eb = none := by
    refine Option.not_isSome_iff_eq_none.1 fun h => ?_
    cases (hb.exists_iff true).1 (hib.1 h)
  obtain rfl : ec = none := by
    refine Option.not_isSome_iff_eq_none.1 fun h => ?_
    obtain ⟨p, hp, -⟩ := hic.1 h
    exact hc p hp
  have hcommand : ∀ e o, Attempt.ran? plan ⟨"a", some e, o⟩ = some (command, e) := by
    intro e o
    simp only [Attempt.ran?, hjoin, Option.map_some]
    rfl
  -- The last command and what follows it, then the first command and the gap between both.
  obtain ⟨earlier, rfl⟩ := hturns.last [_, _] _ [_] command ending' rfl (hcommand _ _) (by simp)
  have hboth : earlier.filterMap Effect.ran? ++ [(command, ending')] =
      [(command, ending)] ++ [(command, ending')] := by
    rw [List.filterMap_append] at hran
    refine hran.trans ?_
    rw [List.filterMap_cons_some (hcommand _ _), List.filterMap_cons_none rfl,
      List.filterMap_cons_some (hcommand _ _), List.filterMap_cons_none rfl]
    rfl
  obtain ⟨before, effect, gap, rfl, hbefore, heffect, hgap⟩ :=
    List.filterMap_eq_cons_iff.1 (List.append_cancel_right hboth)
  obtain ⟨_, _, rfl⟩ := ByTurns.exists_ran (Option.isSome_iff_exists.2 ⟨_, heffect⟩)
  cases heffect
  obtain rfl : before = [] := hturns.first _ _ _ _ (List.append_assoc ..) hbefore
  obtain rfl : gap = [.waited plan.delay] :=
    hturns.between [] _ _ _ _ _ _ rfl (List.filterMap_eq_nil_iff.1 hgap)
  exact ⟨ending, ending', congrArg Prod.snd hrun⟩

end Publish

end Slipway
