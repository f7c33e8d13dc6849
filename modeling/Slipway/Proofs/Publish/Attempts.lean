import Slipway.Publish.Driver
import Slipway.Proofs.Command.Answers

/-!
# One attempt for each target

Publishing makes one `Attempt` for each entry of a plan, in order. `Attempt.Lawful` says of a single
attempt when the publishing command is run and what the outcome is; it mentions no other target.
`publishOne_attempt` shows it for one target after any trace, and an induction on the targets puts
the attempts, their outcomes, their commands and the pauses behind them in line
(`publishEach_timeline`). That a command ended as an attempt says is the host's answer at that
moment (`Answered`).
-/

namespace Slipway

namespace Publish

/-- A target, how its publishing command ended if it was run, and the outcome. -/
structure Attempt where
  target : Path
  ending : Option (Except OsError Exit)
  outcome : Outcome

variable {host : Host} {tree : FileTree} {plan : Plan} {target : Path} {past more : Trace}
  {a : Attempt} {attempts : List Attempt} {dir : Path}

/-- Whether a directory has a manifest file that reads as the package. -/
def Reads (tree : FileTree) (dir : Path) (p : Package) : Prop :=
  tree.isFile (dir.join Manifest.fileName) ∧ Manifest.readPackage tree dir = .ok p

theorem Reads.exists_iff {p : Package} (h : Reads tree dir p) (b : Bool) :
    (∃ q, Reads tree dir q ∧ q.publishable = b) ↔ p.publishable = b := by
  refine ⟨fun ⟨q, hq, hb⟩ => ?_, fun hb => ⟨p, h, hb⟩⟩
  rw [Except.ok.inj (h.2.symm.trans hq.2)]; exact hb

theorem reads_iff {p : Package} :
    Reads tree dir p ↔ tree.isFile (dir.join Manifest.fileName) = true ∧
      (Manifest.readPackage tree dir).toOption = some p := by
  rw [Reads]
  refine and_congr_right fun _ => ?_
  cases Manifest.readPackage tree dir with
  | error f => exact ⟨nofun, nofun⟩
  | ok q =>
    exact ⟨fun h => congrArg some (Except.ok.inj h), fun h => congrArg _ (Option.some.inj h)⟩

namespace Attempt

/-- The publishing command of an attempt and its end, if it was run. -/
def ran? (plan : Plan) (a : Attempt) : Option (Command × Except OsError Exit) :=
  a.ending.map fun ending =>
    ({ program := "cargo"
       args := if plan.dryRun then ["publish", "--dry-run"] else ["publish"]
       dir := some (plan.root.join a.target)
       env := plan.env }, ending)

/-- What an attempt did. -/
def effects (plan : Plan) (a : Attempt) : Trace :=
  (a.ran? plan).toList.map fun ran => .ran ran.1 ran.2

theorem filterMap_effects (plan : Plan) (a : Attempt) :
    (a.effects plan).filterMap Effect.ran? = (a.ran? plan).toList := by
  rw [effects]
  cases a.ran? plan <;> rfl

/-- The pause behind an attempt, unless it is the one for the last target. -/
def pause (plan : Plan) (a : Attempt) (last : Bool) : Trace :=
  if a.ending.isSome && !last && !plan.delay.isZero then [.waited plan.delay] else []

theorem wait_eq_append_pause (plan : Plan) (a : Attempt) (last : Bool) (past : Trace) :
    (if a.ending.isSome && !last && !plan.delay.isZero then past.wait plan.delay else past) =
      past ++ a.pause plan last := by
  rw [pause]
  split
  · rfl
  · rw [List.append_nil]

theorem mem_pause {effect : Effect} {last : Bool} (h : effect ∈ a.pause plan last) :
    effect = .waited plan.delay ∧ plan.delay.isZero = false := by
  rw [pause] at h
  split at h
  · next hpause =>
    simp only [Bool.and_eq_true, Bool.not_eq_true'] at hpause
    exact ⟨List.mem_singleton.1 h, hpause.2⟩
  · cases h

theorem ran?_of_mem_pause {last : Bool} : ∀ effect ∈ a.pause plan last, effect.ran? = none := by
  intro effect h
  rw [(mem_pause h).1]; rfl

/-- Whether an attempt is what its target's manifest and the end of its own command ask for. -/
structure Lawful (tree : FileTree) (plan : Plan) (a : Attempt) : Prop where
  path : a.outcome.path = a.target
  ran : a.ending.isSome ↔ ∃ p, Reads tree (plan.root.join a.target) p ∧ p.publishable = true
  published : a.outcome.status = .published ↔ a.ending = some (.ok (.code 0))
  skipped : (∃ reason, a.outcome.status = .skipped reason) ↔
    ∃ p, Reads tree (plan.root.join a.target) p ∧ p.publishable = false

theorem Lawful.failed (h : a.Lawful tree plan) :
    a.outcome.status.isFailure = true ↔ a.ending ≠ some (.ok (.code 0)) ∧
      ¬ ∃ p, Reads tree (plan.root.join a.target) p ∧ p.publishable = false := by
  rw [Ne, ← h.published, ← h.skipped]
  cases a.outcome.status with
  | published => exact ⟨nofun, fun h => absurd rfl h.1⟩
  | skipped reason => exact ⟨nofun, fun h => absurd ⟨reason, rfl⟩ h.2⟩
  | failed reason => exact ⟨fun _ => ⟨nofun, nofun⟩, fun _ => rfl⟩

end Attempt

/-! ### One target -/

/-- What a target's manifest comes to: a package to be published, one that is withheld, or none. -/
theorem Plan.inspect_cases (plan : Plan) (tree : FileTree) (target : Path) :
    (∃ p, Reads tree (plan.root.join target) p ∧ p.publishable = true ∧
      plan.inspect tree target = .ok p) ∨
    (∃ p, Reads tree (plan.root.join target) p ∧ p.publishable = false ∧
      ∃ reason, plan.inspect tree target =
        .error ⟨target, some p.name, p.version, .skipped reason⟩) ∨
    ((∀ p, ¬ Reads tree (plan.root.join target) p) ∧
      ∃ reason, plan.inspect tree target = .error ⟨target, none, none, .failed reason⟩) := by
  rw [inspect, directory]
  by_cases hf : tree.isFile ((plan.root.join target).join Manifest.fileName) = true
  · simp only [if_pos hf]
    rcases hr : Manifest.readPackage tree (plan.root.join target) with f | p
    · refine .inr (.inr ⟨fun p hp => ?_, f.message, rfl⟩)
      cases hr.symm.trans hp.2
    · cases hp : p.publishable with
      | true => exact .inl ⟨p, ⟨hf, hr⟩, hp, by simp [hp]⟩
      | false => exact .inr (.inl ⟨p, ⟨hf, hr⟩, hp, _, by simp [hp]; rfl⟩)
  · simp only [if_neg hf]
    exact .inr (.inr ⟨fun p hp => hf hp.1, _, rfl⟩)

theorem statusOf_invoke_eq_published_iff (host : Host) (command : Command) (past : Trace) :
    statusOf command (host.invoke command past).1 = .published ↔
      host.run past command = .ok (.code 0) := by
  show statusOf command (ioResult _ (host.run past command)) = _ ↔ _
  rcases host.run past command with e | exit
  · exact ⟨nofun, nofun⟩
  · show (if exit.isSuccess then Status.published else _) = _ ↔ _
    by_cases h : exit = .code 0
    · subst h; exact ⟨fun _ => rfl, fun _ => rfl⟩
    · have hs : exit.isSuccess = false := beq_eq_false_iff_ne.2 h
      rw [hs]
      exact ⟨nofun, fun he => absurd (Except.ok.inj he) h⟩

theorem statusOf_ne_skipped (command : Command) (result : Except Failure Exit) (reason : String) :
    statusOf command result ≠ .skipped reason := by
  rcases result with f | exit
  · exact nofun
  · show (if exit.isSuccess then Status.published else _) ≠ _
    split <;> exact nofun

theorem Plan.command_eq (plan : Plan) (dir : Path) :
    plan.command dir =
      { program := "cargo"
        args := if plan.dryRun then ["publish", "--dry-run"] else ["publish"]
        dir := some dir
        env := plan.env } := by
  rw [command]
  split <;> rfl

theorem publishOne_of_ok {p : Package} (h : plan.inspect tree target = .ok p) :
    let command := plan.command (plan.directory target)
    publishOne host tree plan target past =
      ((⟨target, some p.name, p.version, statusOf command (host.invoke command past).1⟩, true),
        (host.invoke command past).2) := by
  intro command
  unfold publishOne
  rw [h]

theorem publishOne_of_error {outcome : Outcome} (h : plan.inspect tree target = .error outcome) :
    publishOne host tree plan target past = ((outcome, false), past ++ []) := by
  rw [List.append_nil]
  unfold publishOne
  rw [h]

/-- Publishing one target is a lawful attempt that adds its command, if any, to the trace. -/
theorem publishOne_attempt (host : Host) (tree : FileTree) (plan : Plan) (target : Path)
    (past : Trace) :
    ∃ a : Attempt, a.target = target ∧ a.Lawful tree plan ∧
      publishOne host tree plan target past =
          ((a.outcome, a.ending.isSome), past ++ a.effects plan) ∧
        Answered host past (a.effects plan) := by
  obtain ⟨p, hr, hp, hi⟩ | ⟨p, hr, hp, reason, hi⟩ | ⟨hr, reason, hi⟩ :=
    plan.inspect_cases tree target
  · have hone := @publishOne_of_ok host tree plan target past p hi
    rw [plan.command_eq] at hone
    refine ⟨⟨target, some (host.run past _), _⟩, rfl,
      ⟨rfl, ⟨fun _ => (hr.exists_iff true).2 hp, fun _ => rfl⟩, ?_, ?_⟩, hone, answered_ran _⟩
    · exact (statusOf_invoke_eq_published_iff host _ past).trans Option.some_inj.symm
    · rw [hr.exists_iff, hp]
      exact ⟨fun ⟨reason, h⟩ => absurd h (statusOf_ne_skipped _ _ reason), nofun⟩
  · refine ⟨⟨target, none, ⟨target, some p.name, p.version, .skipped reason⟩⟩, rfl,
      ⟨rfl, ?_, ⟨nofun, nofun⟩, ?_⟩, publishOne_of_error hi, trivial⟩
    · rw [hr.exists_iff, hp]
      exact ⟨nofun, nofun⟩
    · rw [hr.exists_iff]
      exact ⟨fun _ => hp, fun _ => ⟨reason, rfl⟩⟩
  · have hnone : ∀ b, ¬ ∃ q, Reads tree (plan.root.join target) q ∧ q.publishable = b :=
      fun b ⟨q, hq, _⟩ => hr q hq
    exact ⟨⟨target, none, ⟨target, none, none, .failed reason⟩⟩, rfl,
      ⟨rfl, ⟨nofun, fun h => absurd h (hnone true)⟩, ⟨nofun, nofun⟩,
        ⟨nofun, fun h => absurd h (hnone false)⟩⟩, publishOne_of_error hi, trivial⟩

/-! ### All targets -/

/-- What some attempts did, with the pauses between them. -/
def timeline (plan : Plan) : List Attempt → Trace
  | [] => []
  | a :: rest => a.effects plan ++ a.pause plan rest.isEmpty ++ timeline plan rest

theorem filterMap_timeline (plan : Plan) (attempts : List Attempt) :
    (timeline plan attempts).filterMap Effect.ran? = attempts.filterMap (·.ran? plan) := by
  induction attempts with
  | nil => rfl
  | cons a rest ih =>
    have hpause : (a.pause plan rest.isEmpty).filterMap Effect.ran? = [] :=
      List.filterMap_eq_nil_iff.2 Attempt.ran?_of_mem_pause
    rw [timeline, List.filterMap_append, List.filterMap_append, a.filterMap_effects, hpause, ih,
      List.append_nil]
    cases h : a.ran? plan with
    | none => rw [List.filterMap_cons_none h]; rfl
    | some ran => rw [List.filterMap_cons_some h]; rfl

/-- Publishing targets makes one lawful attempt for each of them, whatever the others come to. -/
theorem publishEach_timeline (host : Host) (tree : FileTree) (plan : Plan) (targets : List Path)
    (past : Trace) :
    ∃ attempts : List Attempt, attempts.map (·.target) = targets ∧
      (∀ a ∈ attempts, a.Lawful tree plan) ∧
      publishEach host tree plan targets past =
          (attempts.map (·.outcome), past ++ timeline plan attempts) ∧
        Answered host past (timeline plan attempts) := by
  induction targets generalizing past with
  | nil => exact ⟨[], rfl, nofun, by rw [timeline, List.append_nil]; rfl, trivial⟩
  | cons target rest ih =>
    obtain ⟨a, rfl, ha, hone, hans⟩ := publishOne_attempt host tree plan target past
    obtain ⟨attempts, rfl, hall, heach, hans'⟩ :=
      ih (past ++ (a.effects plan ++ a.pause plan rest.isEmpty))
    rw [List.isEmpty_map] at heach hans'
    refine ⟨a :: attempts, rfl, List.forall_mem_cons.2 ⟨ha, hall⟩, ?_, ?_⟩
    · simp only [publishEach, hone, a.wait_eq_append_pause, List.isEmpty_map, List.append_assoc,
        heach, timeline, List.map_cons]
    · have hwait : Answered host (past ++ a.effects plan) (a.pause plan attempts.isEmpty) :=
        answered_of_quiet Attempt.ran?_of_mem_pause
      exact (hans.append hwait).append hans'

theorem publishEach_attempts (host : Host) (tree : FileTree) (plan : Plan) (targets : List Path)
    (past : Trace) :
    ∃ attempts : List Attempt, attempts.map (·.target) = targets ∧
      (∀ a ∈ attempts, a.Lawful tree plan) ∧
      ∃ more, publishEach host tree plan targets past =
          (attempts.map (·.outcome), past ++ more) ∧
        more.filterMap Effect.ran? = attempts.filterMap (·.ran? plan) ∧
        Answered host past more := by
  obtain ⟨attempts, htargets, hall, heach, hans⟩ := publishEach_timeline host tree plan targets past
  exact ⟨attempts, htargets, hall, _, heach, filterMap_timeline plan attempts, hans⟩

/-- Publishing runs the publishing commands of targets, and nothing else. -/
theorem command_of_publishAll {command : Command} {ending : Except OsError Exit}
    (h : (publishAll host tree plan past).2 = past ++ more) (hm : .ran command ending ∈ more) :
    ∃ target ∈ plan.targets, command = plan.command (plan.directory target) := by
  obtain ⟨attempts, htargets, -, added, heach, hran, -⟩ :=
    publishEach_attempts host tree plan plan.targets past
  have hadded : added = more := by
    simp only [publishAll, heach] at h
    exact List.append_cancel_left h
  have hmem : (command, ending) ∈ more.filterMap Effect.ran? :=
    List.mem_filterMap.2 ⟨.ran command ending, hm, rfl⟩
  rw [← hadded, hran] at hmem
  obtain ⟨a, ha, hrun⟩ := List.mem_filterMap.1 hmem
  obtain ⟨e, -, he⟩ := Option.map_eq_some_iff.1 hrun
  refine ⟨a.target, ?_, ?_⟩
  · rw [← htargets]
    exact List.mem_map_of_mem ha
  · rw [plan.command_eq]
    exact (congrArg Prod.fst he).symm

/-- Whatever commands do, there is one attempt for each target of a plan, in order, and its outcome
carries the target's path. The attempts whose manifests read as publishable packages run the
publishing command, once each and in order, and their endings are the host's answers. An outcome is
published if that command ended with the code zero, skipped if the package is withheld, and failed
otherwise. -/
theorem publishAll_attempts (host : Host) (tree : FileTree) (plan : Plan) (past : Trace) :
    ∃ (attempts : List Attempt) (more : Trace),
      publishAll host tree plan past =
          (⟨plan.dryRun, attempts.map (·.outcome)⟩, past ++ more) ∧
        attempts.map (·.target) = plan.targets ∧
        attempts.map (·.outcome.path) = plan.targets ∧
        more.filterMap Effect.ran? = attempts.filterMap (·.ran? plan) ∧
        Answered host past more ∧
        ∀ a ∈ attempts, a.Lawful tree plan ∧
          (a.outcome.status.isFailure = true ↔ a.ending ≠ some (.ok (.code 0)) ∧
            ¬ ∃ p, Reads tree (plan.root.join a.target) p ∧ p.publishable = false) := by
  obtain ⟨attempts, htargets, hall, more, heach, hran, hans⟩ :=
    publishEach_attempts host tree plan plan.targets past
  refine ⟨attempts, more, ?_, htargets, ?_, hran, hans, fun a ha => ⟨hall a ha, (hall a ha).failed⟩⟩
  · simp only [publishAll, heach]
  · rw [← htargets]
    exact List.map_congr_left fun a ha => (hall a ha).path

/-- One package is published, one is withheld and one is missing. -/
theorem publishAll_attempts_three :
    let manifest : Contents := .text "[package]\nname = \"p\"\n"
    let withheld : Contents := .text "[package]\nname = \"p\"\npublish = false\n"
    let tree := (FileTree.addFile { cwd := ["home"] } "/ws/a/Cargo.toml" manifest).addFile
      "/ws/b/Cargo.toml" withheld
    let plan : Plan := ⟨"/ws", ["a", "b", "c"], {}, true, []⟩
    let done := publishAll ⟨fun _ _ => .ok .signal, fun _ _ => true⟩ tree plan []
    ∃ ending o o' o'', done.2.filterMap Effect.ran? =
        [(⟨"cargo", ["publish", "--dry-run"], some "/ws/a", []⟩, ending)] ∧
      done.1.outcomes = [o, o', o''] ∧ (o.status = .published ↔ ending = .ok (.code 0)) ∧
      (∃ reason, o'.status = .skipped reason) ∧ o''.status.isFailure = true := by
  intro manifest withheld tree plan done
  have ha : Reads tree (plan.root.join "a") ⟨"p", none, true⟩ := reads_iff.2 (by decide +kernel)
  have hb : Reads tree (plan.root.join "b") ⟨"p", none, false⟩ := reads_iff.2 (by decide +kernel)
  have hc : ∀ p, ¬ Reads tree (plan.root.join "c") p := fun p h => absurd h.1 (by decide +kernel)
  obtain ⟨attempts, more, hrun, htargets, -, hran, -, hall⟩ :=
    publishAll_attempts ⟨fun _ _ => .ok .signal, fun _ _ => true⟩ tree plan []
  rcases attempts with _ | ⟨⟨_, ex, o⟩, _ | ⟨⟨_, ey, o'⟩, _ | ⟨⟨_, ez, o''⟩, _ | ⟨w, l⟩⟩⟩⟩ <;>
    simp [plan] at htargets
  obtain ⟨rfl, rfl, rfl⟩ := htargets
  obtain ⟨hx, -⟩ := hall ⟨"a", ex, o⟩ (by simp)
  obtain ⟨hy, -⟩ := hall ⟨"b", ey, o'⟩ (by simp)
  obtain ⟨hz, hfail⟩ := hall ⟨"c", ez, o''⟩ (by simp)
  obtain ⟨ending, rfl⟩ := Option.isSome_iff_exists.1 (hx.ran.2 ⟨_, ha, rfl⟩)
  obtain rfl : ey = none := by
    refine Option.not_isSome_iff_eq_none.1 fun h => ?_
    cases (hb.exists_iff true).1 (hy.ran.1 h)
  obtain rfl : ez = none := by
    refine Option.not_isSome_iff_eq_none.1 fun h => ?_
    obtain ⟨p, hp, -⟩ := hz.ran.1 h
    exact hc p hp
  refine ⟨ending, o, o', o'', ?_, ?_, hx.published.trans Option.some_inj, hy.skipped.2 ⟨_, hb, rfl⟩,
    hfail.2 ⟨nofun, fun ⟨p, hp, _⟩ => hc p hp⟩⟩
  · rw [congrArg Prod.snd hrun]
    have hdir : plan.root.join "a" = "/ws/a" := by decide +kernel
    refine hran.trans ?_
    simp only [List.filterMap_cons, List.filterMap_nil, Attempt.ran?, hdir, Option.map_some,
      Option.map_none]
    rfl
  · rw [congrArg Prod.fst hrun]; rfl

end Publish

end Slipway
