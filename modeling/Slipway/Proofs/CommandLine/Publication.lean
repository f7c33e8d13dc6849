import Slipway.CommandLine.Program
import Slipway.Proofs.Publish.Pauses
import Slipway.Proofs.Task.Standard

/-!
# Two ways to publish

Packages are published by the standard task and by a command of their own. Both publish the plan of
the settings, so without options they do the same (`publish_task_eq_command`). The options of the
command change two fields of the plan, and both only in one way: a dry run can be asked for but not
called off, and the delay is replaced.
-/

namespace Slipway.Publish

theorem Report.result_eq_ok_iff {report : Report} :
    (∃ kept, report.result = .ok kept) ↔
      ∀ o ∈ report.outcomes, ∀ reason, o.status ≠ .failed reason := by
  have hfailed : ∀ o : Outcome,
      o.status.isFailure = true ↔ ∃ reason, o.status = .failed reason := by
    intro o
    cases o.status with
    | failed reason => exact ⟨fun _ => ⟨reason, rfl⟩, fun _ => rfl⟩
    | published => exact ⟨nofun, nofun⟩
    | skipped reason => exact ⟨nofun, nofun⟩
  rw [Report.result]
  split
  · next h =>
    have hnone := List.filter_eq_nil_iff.1 (List.eq_nil_of_length_eq_zero h)
    exact ⟨fun _ o ho reason hs => hnone o ho ((hfailed o).2 ⟨reason, hs⟩), fun _ => ⟨report, rfl⟩⟩
  · next h =>
    refine ⟨nofun, fun hall => absurd ?_ h⟩
    rw [Report.failures, List.filter_eq_nil_iff.2, List.length_nil]
    intro o ho hf
    obtain ⟨reason, hs⟩ := (hfailed o).1 hf
    exact hall o ho reason hs

theorem Plan.dryRun_mem_args_iff (plan : Plan) (dir : Path) :
    "--dry-run" ∈ (plan.command dir).args ↔ plan.dryRun = true := by
  rw [plan.command_eq]
  show "--dry-run" ∈ (if plan.dryRun then ["publish", "--dry-run"] else ["publish"]) ↔ _
  cases plan.dryRun <;> decide

end Slipway.Publish

namespace Slipway.CommandLine

open Publish

variable {s : Settings} {root : Path} {tree : FileTree} {env : List (String × String)}
  {options : PublishOptions} {host : Host} {r : Registry} {plan : Plan} {past : Trace}

/-- The task does nothing but publish its plan. -/
theorem run_publish (h : r.resolve? "publish" = some (.publish plan)) :
    Session.run {} r host tree "publish" past =
      ⟨.ok ⟨["publish"], some (Publish.publishAll host tree plan past).1⟩, ⟨["publish"]⟩,
        (Publish.publishAll host tree plan past).2⟩ := by
  rw [Session.run_of_plan (Registry.plan_of_no_dependencies h rfl), Session.perform,
    if_neg List.not_mem_nil, Session.perform_of_publish rfl]
  rfl

namespace Workspace

variable {w : Workspace}

/-- The plan of a workspace, as options change it. -/
def planWith (w : Workspace) (env : List (String × String)) (options : PublishOptions) : Plan :=
  { w.settings.planWith w.root env with
    dryRun := w.settings.publish.dryRun || options.dryRun
    delay := (options.delay.map fun seconds => ⟨seconds, 0⟩).getD
      ⟨w.settings.publish.delaySecs, 0⟩ }

theorem planWith_no_options (w : Workspace) (env : List (String × String)) :
    w.planWith env {} = w.settings.planWith w.root env := by
  rw [planWith, Bool.or_false]
  rfl

theorem publishAll_eq (h : w.settings.environment = .ok env) (host : Host)
    (options : PublishOptions) :
    w.publishAll host options =
      .ok (Publish.publishAll host w.tree (w.planWith env options) []) := by
  rw [publishAll, publishPlan, Plan.ofSettings_eq, h]
  rfl

/-- Another delay that shows leads to the same report and to the same trace with other waits. -/
theorem publishAll_delay (h : w.settings.environment = .ok env) (hignores : host.IgnoresWaits)
    (options : PublishOptions) {seconds : Nat} (hseconds : seconds ≠ 0) :
    ∃ report trace, w.publishAll host { options with delay := some seconds } = .ok (report, trace) ∧
      w.publishAll host options =
        .ok (report, trace.retimed (w.planWith env options).delay) := by
  have hspan : (w.planWith env { options with delay := some seconds }).delay.isZero = false := by
    simp [planWith, Duration.isZero, hseconds]
  have hretimed := @Publish.publishAll_retimed host w.tree _ (w.planWith env options).delay
    hignores hspan
  refine ⟨_, _, publishAll_eq h host _, ?_⟩
  rw [publishAll_eq h host options]
  exact congrArg Except.ok hretimed

theorem trace_publish {report : Report} {trace : Trace}
    (h : w.publishAll host options = .ok (report, trace)) :
    (w.publish host options).trace = trace := by
  rw [publish, h]
  rfl

theorem output_publish {report : Report} {trace : Trace}
    (h : w.publishAll host options = .ok (report, trace)) :
    (w.publish host options).output =
      if options.json then publishJson report else publishTable report := by
  rw [publish, h]
  rfl

theorem result_publish_iff {report : Report} {trace : Trace}
    (h : w.publishAll host options = .ok (report, trace)) :
    (w.publish host options).result = .ok () ↔
      options.noFail = true ∨ ∀ o ∈ report.outcomes, ∀ reason, o.status ≠ .failed reason := by
  have hresult : (w.publish host options).result =
      (if options.noFail then .ok () else report.result.map fun _ => ()).mapError .ofFailure := by
    rw [publish, h]
    rfl
  rw [hresult]
  cases options.noFail with
  | true => exact ⟨fun _ => .inl rfl, fun _ => rfl⟩
  | false =>
    rw [← Report.result_eq_ok_iff, if_neg Bool.false_ne_true]
    cases report.result with
    | error f => exact ⟨nofun, fun h => by rcases h with h | ⟨_, h⟩ <;> cases h⟩
    | ok kept => exact ⟨fun _ => .inr ⟨kept, rfl⟩, fun _ => rfl⟩

end Workspace

/-- Published by the task or by the command without options, the packages are published by the same
commands and waits in the same order and with the same report. With options every target is
attempted as well. Each publication is a dry run if and only if the settings or the options say so.
The delay changes nothing but the waits: what is done is what any other delay leads to, with other
waits. The command fails if and only if a target failed and failures are not to be ignored. -/
theorem publish_task_eq_command (root : Path) (tree : FileTree) (h : s.environment = .ok env)
    (taskOptions : TaskOptions) (host : Host) :
    let w : Workspace := ⟨root, tree, s⟩
    ∃ r, Registry.standard root s taskOptions = .ok r ∧
      (let ran := Session.run {} r host tree "publish" []
      ∃ report, ran.result = .ok ⟨["publish"], some report⟩ ∧
        w.publishAll host {} = .ok (report, ran.trace) ∧
        (w.publish host {}).trace = ran.trace ∧ (w.publish host {}).output = publishTable report) ∧
      ∀ options : PublishOptions,
        let plan := w.planWith env options
        ∃ report trace, w.publishAll host options = .ok (report, trace) ∧
          (w.publish host options).trace = trace ∧
          (∃ attempts : List Attempt, attempts.map (·.target) = s.publish.targets ∧
            report.outcomes = attempts.map (·.outcome) ∧ (∀ a ∈ attempts, a.Lawful tree plan) ∧
            trace.filterMap Effect.ran? = attempts.filterMap (·.ran? plan) ∧
            Answered host [] trace) ∧
          (∀ c ending, .ran c ending ∈ trace →
            ("--dry-run" ∈ c.args ↔ s.publish.dryRun = true ∨ options.dryRun = true)) ∧
          (∀ span, .waited span ∈ trace → span = plan.delay) ∧
          (host.IgnoresWaits → ∀ seconds ≠ 0, ∃ trace',
            w.publishAll host { options with delay := some seconds } = .ok (report, trace') ∧
            trace = trace'.retimed plan.delay) ∧
          ((w.publish host options).result = .ok () ↔
            options.noFail = true ∨
              ∀ o ∈ report.outcomes, ∀ reason, o.status ≠ .failed reason) := by
  intro w
  obtain ⟨r, hr, -, -, -, hpublish⟩ := Registry.exists_standard_eq_ok root taskOptions h
  have hall : ∀ options, w.publishAll host options =
      .ok (Publish.publishAll host tree (w.planWith env options) []) :=
    Workspace.publishAll_eq h host
  refine ⟨r, hr, ?_, fun options => ?_⟩
  · have hplain := hall {}
    rw [Workspace.planWith_no_options] at hplain
    rw [run_publish hpublish]
    exact ⟨_, rfl, hplain, Workspace.trace_publish hplain, Workspace.output_publish hplain⟩
  · intro plan
    obtain ⟨attempts, htargets, hlawful, more, heach, hran, hans⟩ :=
      publishEach_attempts host tree plan plan.targets []
    have hpublished : Publish.publishAll host tree plan [] =
        (⟨plan.dryRun, attempts.map (·.outcome)⟩, more) := by
      simp only [Publish.publishAll, heach]
      rfl
    have hdone := hall options
    rw [show w.planWith env options = plan from rfl, hpublished] at hdone
    refine ⟨_, more, hdone, Workspace.trace_publish hdone,
      ⟨attempts, htargets, rfl, hlawful, hran, hans⟩, fun c ending hm => ?_, fun span hm => ?_,
      fun hignores seconds hseconds => ?_, Workspace.result_publish_iff hdone⟩
    · obtain ⟨target, -, rfl⟩ := command_of_publishAll (congrArg Prod.snd hpublished) hm
      rw [plan.dryRun_mem_args_iff, ← Bool.or_eq_true]
      rfl
    · have hm' : .waited span ∈ (publishEach host tree plan plan.targets []).2 := by
        rw [heach]
        exact hm
      exact (waited_of_publishEach plan.targets [] hm').resolve_left List.not_mem_nil
    · obtain ⟨report', trace', hother, hsame⟩ :=
        Workspace.publishAll_delay (w := w) h hignores options hseconds
      obtain ⟨rfl, htrace⟩ := Prod.mk.inj (Except.ok.inj (hdone.symm.trans hsame))
      exact ⟨trace', hother, htrace⟩

/-- One package. The task publishes it, and the command does so as a dry run if it is asked to. -/
theorem publish_task_eq_command_asked :
    let tree := FileTree.addFile { cwd := ["home"] } "/ws/a/Cargo.toml"
      (.text "[package]\nname = \"p\"\n")
    let s : Settings := { publish := { targets := ["a"] } }
    let host : Host := ⟨fun _ _ => .ok .signal, fun _ _ => true⟩
    let w : Workspace := ⟨"/ws", tree, s⟩
    ∃ r c c' ending ending', s.environment = .ok [("RUST_BACKTRACE", "full")] ∧
      Registry.standard "/ws" s {} = .ok r ∧
      (Session.run {} r host tree "publish" []).trace.filterMap Effect.ran? = [(c, ending)] ∧
      (w.publish host { dryRun := true }).trace.filterMap Effect.ran? = [(c', ending')] ∧
      "--dry-run" ∉ c.args ∧ "--dry-run" ∈ c'.args := by
  intro tree s host w
  have henv : s.environment = .ok [("RUST_BACKTRACE", "full")] := rfl
  obtain ⟨r, hr, ⟨-, -, -, htask, -⟩, hoptions⟩ := publish_task_eq_command "/ws" tree henv {} host
  have hjoin : Path.join "/ws" "a" = "/ws/a" := by decide +kernel
  have hreads : Reads tree "/ws/a" ⟨"p", none, true⟩ := reads_iff.2 (by decide +kernel)
  have hone : ∀ options, ∃ c ending,
      (w.publish host options).trace.filterMap Effect.ran? = [(c, ending)] ∧
        ("--dry-run" ∈ c.args ↔ options.dryRun = true) := by
    intro options
    obtain ⟨-, trace, -, htrace, ⟨attempts, htargets, -, hall, hran, -⟩, hdry, -⟩ :=
      hoptions options
    obtain ⟨a, rfl, ha⟩ := List.map_eq_singleton_iff.1 htargets
    have hdir : (w.planWith [("RUST_BACKTRACE", "full")] options).root.join a.target = "/ws/a" := by
      rw [ha]
      exact hjoin
    obtain ⟨ending, hending⟩ := Option.isSome_iff_exists.1
      ((hall a (List.mem_singleton_self a)).ran.2 ⟨_, hdir ▸ hreads, rfl⟩)
    have hsingle : trace.filterMap Effect.ran? = [(_, ending)] :=
      hran.trans <| by
        rw [List.filterMap_cons, Attempt.ran?, hending]
        rfl
    refine ⟨_, ending, htrace ▸ hsingle, ?_⟩
    obtain ⟨effect, hm, heffect⟩ :=
      List.mem_filterMap.1 (hsingle ▸ List.mem_singleton_self (_, ending))
    cases effect with
    | waited span => cases heffect
    | probed program => cases heffect
    | ran c ending =>
      cases heffect
      exact (hdry _ _ hm).trans (or_iff_right Bool.false_ne_true)
  obtain ⟨c, ending, hplain, hc⟩ := hone {}
  obtain ⟨c', ending', hdry, hc'⟩ := hone { dryRun := true }
  exact ⟨r, c, c', ending, ending', henv, hr, htask ▸ hplain, hdry,
    fun h => Bool.false_ne_true (hc.1 h), hc'.2 rfl⟩

end Slipway.CommandLine
