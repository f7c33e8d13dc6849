import Slipway.Proofs.Task.Sessions

/-!
# The report of a run

A target that cannot be published does not fail its task, so a failure is only seen in a report. A
run publishes once for each publishing task in its plan, but its summary has room for one report:
each publication replaces the report of the one before (`publish_perform`). So the summary of a run
holds the last report (`publish_run`), which is all of them when the run publishes at most once; a
failure that an earlier report names is lost (`publish_run_loses_failure`).
-/

namespace Slipway.Session

/-- The reports of the publications of a log, in order. -/
def reports (log : List Execution) : List Publish.Report :=
  log.filterMap fun s => s.result.toOption.join

variable {session : Session} {r : Registry} {host : Host} {tree : FileTree} {tasks : List Task}
  {past : Trace} {summary summary' : Summary} {s : Execution} {name : String}

/-- A publishing task in a log returned the report of its own publication. -/
theorem result_of_mem_logOfEach {plan : Publish.Plan} (hs : s ∈ logOfEach host tree tasks past)
    (ha : s.task.action = .publish plan) :
    ∃ past', s.result = .ok (some (Publish.publishAll host tree plan past').1) := by
  induction tasks generalizing past with
  | nil => cases hs
  | cons t rest ih =>
    by_cases ht : t.action = .publish plan
    · rw [logOfEach_cons_of_ok (perform_of_publish ht)] at hs
      rcases List.mem_cons.1 hs with rfl | hs
      · exact ⟨past, rfl⟩
      · exact ih hs
    · rcases hp : t.perform host tree past with ⟨f | report, past'⟩
      · rw [logOfEach_cons_of_error hp] at hs
        obtain rfl := List.mem_singleton.1 hs
        exact absurd ha ht
      · rw [logOfEach_cons_of_ok hp] at hs
        rcases List.mem_cons.1 hs with rfl | hs
        · exact absurd ha ht
        · exact ih hs

theorem publish_perform (hn : (tasks.map (·.name)).Nodup)
    (h : (perform host tree tasks session summary past).result = .ok summary') :
    summary'.publish =
      (reports (logOfEach host tree (session.todo tasks) past)).getLast?.or summary.publish := by
  induction tasks generalizing session summary past with
  | nil =>
    obtain rfl := Except.ok.inj h
    rfl
  | cons t rest ih =>
    obtain ⟨ht, hn⟩ := List.nodup_cons.1 hn
    rw [perform] at h
    by_cases hc : t.name ∈ session.completed
    · rw [if_pos hc] at h
      rw [todo_cons_of_mem hc]
      exact ih hn h
    · rw [if_neg hc] at h
      rw [todo_cons hc ht]
      rcases hp : t.perform host tree past with ⟨f | report, past'⟩
      · rw [hp] at h; cases h
      · rw [hp] at h
        rw [logOfEach_cons_of_ok hp, ih hn h]
        cases report with
        | none => rfl
        | some report =>
          show _ = (report :: reports _).getLast?.or summary.publish
          rw [List.getLast?_cons]
          cases (reports _).getLast? <;> rfl

/-- The summary of a run that ends well holds the report of its last publication. It holds every
report if the run publishes at most once. -/
theorem publish_run (h : (session.run r host tree name past).result = .ok summary) :
    let log := session.logOfRun r host tree name past
    (∀ s ∈ log, ∀ plan, s.task.action = .publish plan →
        ∃ past', s.result = .ok (some (Publish.publishAll host tree plan past').1)) ∧
      summary.publish = (reports log).getLast? ∧
      ((reports log).length ≤ 1 → ∀ report ∈ reports log, summary.publish = some report) := by
  intro log
  have hlast : summary.publish = (reports log).getLast? := by
    simp only [log, logOfRun]
    rw [run] at h
    cases hp : r.plan name with
    | error f => rw [hp] at h; cases h
    | ok tasks =>
      rw [hp] at h
      obtain ⟨t, -, ho, -, -⟩ := Registry.plan_spec hp
      rw [publish_perform ho.nodup h, Option.or_none]
  refine ⟨fun s hs plan ha => ?_, hlast, fun hlen report hm => ?_⟩
  · simp only [log, logOfRun] at hs
    cases hp : r.plan name with
    | error f => rw [hp] at hs; cases hs
    | ok tasks => rw [hp] at hs; exact result_of_mem_logOfEach hs ha
  · rw [hlast]
    cases hr : reports log with
    | nil => rw [hr] at hm; cases hm
    | cons first rest =>
      rw [hr] at hlen hm
      obtain rfl : rest = [] := List.eq_nil_of_length_eq_zero (by simpa using hlen)
      rw [List.mem_singleton.1 hm]; rfl

/-- One publication, whose only target is missing. -/
theorem publish_run_once :
    let plan : Publish.Plan := ⟨"ws", ["missing"], {}, false, []⟩
    let first : Task := ⟨"first", "", [], .publish plan⟩
    let host : Host := ⟨fun _ _ => .ok .signal, fun _ _ => false⟩
    ∃ summary report, (run {} ⟨[first]⟩ host {} "first" []).result = .ok summary ∧
      summary.publish = some report ∧ report.isSuccess = false := by
  intro plan first host
  have hplan : (⟨[first]⟩ : Registry).plan "first" = .ok [first] :=
    Registry.plan_of_no_dependencies (by decide) rfl
  have hfirst : ∀ past, first.perform host {} past = _ := fun past => perform_of_publish rfl
  have hrun : (run {} ⟨[first]⟩ host {} "first" []).result =
      .ok ⟨["first"], some (Publish.publishAll host {} plan []).1⟩ := by
    rw [run, hplan]
    simp [perform, hfirst, first]
  have hlog : logOfRun {} ⟨[first]⟩ host {} "first" [] =
      [⟨first, .ok (some (Publish.publishAll host {} plan []).1)⟩] := by
    rw [logOfRun, hplan]
    simp [todo, logOfEach, hfirst]
  obtain ⟨-, -, honce⟩ := publish_run hrun
  rw [hlog] at honce
  exact ⟨_, (Publish.publishAll host {} plan []).1, hrun,
    honce (Nat.le_refl 1) _ (by simp [reports, Except.toOption]), by decide⟩

/-- Not every failure of a run is in its summary: the second of two publications has nothing to
publish, and its report takes the place of the first one. -/
theorem publish_run_loses_failure :
    ¬ ∀ (session : Session) (r : Registry) (host : Host) (tree : FileTree) (name : String)
        (past : Trace) (summary : Summary),
        (session.run r host tree name past).result = .ok summary →
        ∀ report ∈ reports (session.logOfRun r host tree name past), ∀ o ∈ report.failures,
          ∃ kept, summary.publish = some kept ∧ o ∈ kept.failures := by
  intro h
  let plan : Publish.Plan := ⟨"ws", ["missing"], {}, false, []⟩
  let later : Publish.Plan := ⟨"ws", [], {}, false, []⟩
  let first : Task := ⟨"first", "", [], .publish plan⟩
  let second : Task := ⟨"second", "", ["first"], .publish later⟩
  let host : Host := ⟨fun _ _ => .ok (.code 0), fun _ _ => false⟩
  have hplan : (⟨[first, second]⟩ : Registry).plan "second" = .ok [first, second] :=
    Registry.plan_of_one_dependency (t := second) (d := "first") (by decide) rfl (by decide) rfl
      (by decide)
  have hfirst : ∀ past, first.perform host {} past = _ := fun past => perform_of_publish rfl
  have hsecond : ∀ past, second.perform host {} past = (.ok (some {}), past) := fun past => rfl
  have hrun : (run {} ⟨[first, second]⟩ host {} "second" []).result =
      .ok ⟨["first", "second"], some {}⟩ := by
    rw [run, hplan]
    simp [perform, hfirst, hsecond, first, second]
  have hlog : logOfRun {} ⟨[first, second]⟩ host {} "second" [] =
      [⟨first, .ok (some (Publish.publishAll host {} plan []).1)⟩, ⟨second, .ok (some {})⟩] := by
    rw [logOfRun, hplan]
    simp [todo, logOfEach, hfirst, hsecond]
  obtain ⟨o, ho⟩ := List.exists_mem_of_ne_nil (Publish.publishAll host {} plan []).1.failures
    (by decide)
  obtain ⟨kept, hkept, hmem⟩ := h {} _ host {} "second" [] _ hrun
    (Publish.publishAll host {} plan []).1 (by rw [hlog]; simp [reports, Except.toOption]) o ho
  obtain rfl := Option.some.inj hkept
  cases hmem

end Slipway.Session
