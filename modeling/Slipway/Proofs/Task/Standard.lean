import Slipway.Proofs.Settings.Validation
import Slipway.Proofs.Task.Interruption
import Slipway.Task.Standard
import Slipway.Workflow.Basic

/-!
# One environment for the standard tasks

The standard tasks, the plan of the packages and the standard workflow are made from the settings
and their environment, and there is nothing else that can fail (`standard_eq`). A task runs no
command but those that it may run (`Task.MayRun`, `Session.mayRun_run`), and all of these carry the
environment; they start at the root or, to publish a package, in its directory.
-/

namespace Slipway

/-- Whether a command is one of those that a task consists of. -/
def Task.MayRun (t : Task) (c : Command) : Prop :=
  match t.action with
  | .commands commands => c ∈ commands
  | .publish plan => ∃ target ∈ plan.targets, c = plan.command (plan.directory target)

/-- The plan of the packages, with an environment. -/
def Settings.planWith (s : Settings) (root : Path) (env : List (String × String)) : Publish.Plan :=
  { root, targets := s.publish.targets, delay := ⟨s.publish.delaySecs, 0⟩,
    dryRun := s.publish.dryRun, env }

/-- The standard tasks, with an environment. -/
def Settings.tasksWith (s : Settings) (root : Path) (options : TaskOptions)
    (env : List (String × String)) : List Task :=
  [.build root env s, .checkCode root env, .test root env s options,
    .publish (s.planWith root env)]

variable {root : Path} {s : Settings} {options : TaskOptions} {env : List (String × String)}
  {r : Registry} {host : Host} {tree : FileTree} {t u : Task} {tasks : List Task}
  {session : Session} {summary : Summary} {past more : Trace} {c : Command}
  {ending : Except OsError Exit}

/-! ### What is made from the settings -/

theorem Publish.Plan.ofSettings_eq (root : Path) (s : Settings) :
    Plan.ofSettings root s = s.environment.map (s.planWith root) := rfl

namespace Registry

theorem standard_eq (root : Path) (s : Settings) (options : TaskOptions) :
    standard root s options = s.environment.map fun env =>
      registerAll {} (s.tasksWith root options env) := by
  rw [standard, Publish.Plan.ofSettings_eq]
  cases s.environment <;> rfl

theorem find?_standard (name : String) :
    (registerAll {} (s.tasksWith root options env)).find? name =
      if "publish" = name then some (.publish (s.planWith root env))
      else if "test" = name then some (.test root env s options)
      else if "check_code" = name then some (.checkCode root env)
      else if "build" = name then some (.build root env s) else none := by
  simp only [Settings.tasksWith, registerAll, List.foldl_cons, List.foldl_nil, find?_register]
  rfl

theorem exists_standard_eq_ok (root : Path) (options : TaskOptions) (h : s.environment = .ok env) :
    ∃ r, standard root s options = .ok r ∧
      r.resolve? "build" = some (.build root env s) ∧
      r.resolve? "check_code" = some (.checkCode root env) ∧
      r.resolve? "test" = some (.test root env s options) ∧
      r.resolve? "publish" = some (.publish (s.planWith root env)) := by
  refine ⟨_, by rw [standard_eq, h]; rfl, ?_, ?_, ?_, ?_⟩
  all_goals
    rw [resolve?, find?_standard]
    rfl

theorem mem_of_mem_registerAll (h : u ∈ (r.registerAll tasks).tasks) : u ∈ tasks ∨ u ∈ r.tasks := by
  induction tasks generalizing r with
  | nil => exact .inr h
  | cons t rest ih =>
    rcases ih (r := (r.register t).2) h with h | h
    · exact .inl (List.mem_cons_of_mem _ h)
    · rcases mem_of_mem_insertSorted h with rfl | h
      · exact .inl List.mem_cons_self
      · exact .inr h

end Registry

/-! ### What tasks run -/

namespace Task

theorem mayRun_commands {commands : List Command} (h : t.action = .commands commands) :
    t.MayRun c ↔ c ∈ commands := by
  rw [MayRun, h]

theorem mayRun_of_mem_allRan {commands : List Command} (h : .ran c ending ∈ allRan commands) :
    c ∈ commands := by
  obtain ⟨c', hc, he⟩ := List.mem_map.1 h
  cases he
  exact hc

theorem Performed.mayRun (h : t.Performed host tree past more) (hm : .ran c ending ∈ more) :
    t.MayRun c := by
  cases ha : t.action with
  | commands commands =>
    rw [performed_commands ha] at h
    rw [h.1] at hm
    exact (mayRun_commands ha).2 (mayRun_of_mem_allRan hm)
  | publish plan =>
    rw [performed_publish ha] at h
    rw [MayRun, ha]
    exact Publish.command_of_publishAll h hm

theorem Stopped.mayRun {f : Failure} (h : t.Stopped host past more f)
    (hm : .ran c ending ∈ more) : t.MayRun c := by
  obtain @⟨before, later, command, ending', ha, -, -⟩ := h
  rw [mayRun_commands ha, List.mem_append]
  rcases List.mem_append.1 hm with hm | hm
  · exact .inl (mayRun_of_mem_allRan hm)
  · cases List.mem_singleton.1 hm
    exact .inr List.mem_cons_self

end Task

theorem PerformedAll.mayRun (h : PerformedAll host tree tasks past more)
    (hm : .ran c ending ∈ more) : ∃ t ∈ tasks, t.MayRun c := by
  induction h with
  | nil => cases hm
  | @cons t rest past more later first others ih =>
    rcases List.mem_append.1 hm with hm | hm
    · exact ⟨t, List.mem_cons_self, first.mayRun hm⟩
    · obtain ⟨u, hu, hc⟩ := ih hm
      exact ⟨u, List.mem_cons_of_mem _ hu, hc⟩

/-- A run adds only commands that tasks of its registry may run. -/
theorem Session.mayRun_run (session : Session) (r : Registry) (host : Host) (tree : FileTree)
    (name : String) (past : Trace) :
    ∃ more, (session.run r host tree name past).trace = past ++ more ∧
      ∀ c ending, .ran c ending ∈ more → ∃ t ∈ r.tasks, t.MayRun c := by
  cases hplan : r.plan name with
  | error f =>
    rw [run_of_plan_error hplan]
    exact ⟨[], (List.append_nil past).symm, nofun⟩
  | ok tasks =>
    rw [run_of_plan hplan]
    obtain ⟨-, -, ho, -, -⟩ := Registry.plan_spec hplan
    have hmem : ∀ t ∈ session.todo tasks, t ∈ r.tasks := fun t ht =>
      Registry.mem_of_find? (ho.found t (List.mem_of_mem_filter ht))
    obtain ⟨more, report, hall, hperf⟩ | ⟨before, t, later, more, last, f, hwork, hall, hstop,
      hperf⟩ := @perform_upTo host tree tasks past session {} ho.nodup
    · refine ⟨more, by rw [hperf], fun c ending hm => ?_⟩
      obtain ⟨t, ht, hc⟩ := hall.mayRun hm
      exact ⟨t, hmem t ht, hc⟩
    · refine ⟨more ++ last, by rw [hperf], fun c ending hm => ?_⟩
      rw [hwork] at hmem
      rcases List.mem_append.1 hm with hm | hm
      · obtain ⟨u, hu, hc⟩ := hall.mayRun hm
        exact ⟨u, hmem u (List.mem_append_left _ hu), hc⟩
      · exact ⟨t, hmem t (List.mem_append_right _ List.mem_cons_self), hstop.mayRun hm⟩

/-! ### The standard tasks -/

theorem exists_map_eq_ok_iff {α β : Type} {x : Except Failure α} (f : α → β) :
    (∃ b, x.map f = .ok b) ↔ ∃ a, x = .ok a := by
  cases x with
  | error e => exact ⟨nofun, nofun⟩
  | ok a => exact ⟨fun _ => ⟨a, rfl⟩, fun _ => ⟨f a, rfl⟩⟩

namespace Task

theorem rooted_of_mem_build (h : (build root env s).MayRun c) :
    c.env = env ∧ c.dir = some root := by
  rcases List.mem_cons.1 ((mayRun_commands rfl).1 h) with rfl | h
  · exact ⟨rfl, rfl⟩
  · obtain ⟨package, -, h⟩ := List.mem_flatMap.1 h
    simp only [wasmCommands, List.mem_cons, List.not_mem_nil, or_false] at h
    rcases h with rfl | rfl
    · exact ⟨rfl, rfl⟩
    · exact ⟨rfl, rfl⟩

theorem rooted_of_mem_checkCode (h : (checkCode root env).MayRun c) :
    c.env = env ∧ c.dir = some root := by
  have hmem := (mayRun_commands rfl).1 h
  simp only [List.mem_cons, List.not_mem_nil, or_false] at hmem
  rcases hmem with rfl | rfl
  · exact ⟨rfl, rfl⟩
  · exact ⟨rfl, rfl⟩

theorem rooted_of_mem_test (h : (test root env s options).MayRun c) :
    c.env = env ∧ c.dir = some root := by
  obtain rfl := List.mem_singleton.1 ((mayRun_commands rfl).1 h)
  exact ⟨rfl, rfl⟩

theorem targeted_of_mem_publish {plan : Publish.Plan} (h : (publish plan).MayRun c) :
    c.env = plan.env ∧ ∃ target ∈ plan.targets, c.dir = some (plan.root.join target) := by
  obtain ⟨target, ht, rfl⟩ := h
  exact ⟨rfl, target, ht, rfl⟩

end Task

/-- A standard task runs its commands at the root or, to publish a package, in its directory. -/
theorem Settings.placed_of_mem_tasksWith (ht : t ∈ s.tasksWith root options env)
    (hc : t.MayRun c) :
    c.env = env ∧ (t.name ∈ ["build", "check_code", "test"] ∧ c.dir = some root ∨
      t.name = "publish" ∧ ∃ target ∈ s.publish.targets, c.dir = some (root.join target)) := by
  simp only [tasksWith, List.mem_cons, List.not_mem_nil, or_false] at ht
  rcases ht with rfl | rfl | rfl | rfl
  · obtain ⟨he, hd⟩ := Task.rooted_of_mem_build hc
    exact ⟨he, .inl ⟨by simp [Task.build], hd⟩⟩
  · obtain ⟨he, hd⟩ := Task.rooted_of_mem_checkCode hc
    exact ⟨he, .inl ⟨by simp [Task.checkCode], hd⟩⟩
  · obtain ⟨he, hd⟩ := Task.rooted_of_mem_test hc
    exact ⟨he, .inl ⟨by simp [Task.test], hd⟩⟩
  · obtain ⟨he, htarget⟩ := Task.targeted_of_mem_publish hc
    exact ⟨he, .inr ⟨rfl, htarget⟩⟩

theorem Registry.exists_standard_named {name : String}
    (h : name ∈ ["build", "check_code", "test", "publish"]) :
    ∃ t ∈ (registerAll {} (s.tasksWith root options env)).tasks, t.name = name := by
  have hfound : ∃ t, (registerAll {} (s.tasksWith root options env)).find? name = some t := by
    rw [find?_standard]
    simp only [List.mem_cons, List.not_mem_nil, or_false] at h
    rcases h with rfl | rfl | rfl | rfl
    all_goals exact ⟨_, rfl⟩
  obtain ⟨t, ht⟩ := hfound
  exact ⟨t, mem_of_find? ht, name_of_find? ht⟩

/-- The standard tasks, the plan of the packages and the standard workflow exist if and only if the
environment of the settings can be read, as it can after loading. The workflow then has just this
environment, and so has every command that a standard task may run, at the root or in the directory
of a package to be published; and however the tasks are run, no other command is. -/
theorem standard_shares_environment (root : Path) (s : Settings) (options : TaskOptions) :
    ((∃ r, Registry.standard root s options = .ok r) ↔ ∃ env, s.environment = .ok env) ∧
      ((∃ plan, Publish.Plan.ofSettings root s = .ok plan) ↔ ∃ env, s.environment = .ok env) ∧
      ((∃ w, Workflow.standard s = .ok w) ↔ ∃ env, s.environment = .ok env) ∧
      (∀ tree file vars, Settings.load tree file vars = .ok s →
        ∃ env, s.environment = .ok env) ∧
      ∀ env r w, s.environment = .ok env → Registry.standard root s options = .ok r →
        Workflow.standard s = .ok w →
        w.env = env ∧
        (∀ name ∈ ["build", "check_code", "test", "publish"], ∃ t ∈ r.tasks, t.name = name) ∧
        (∀ t ∈ r.tasks, ∀ c, t.MayRun c → c.env = env ∧
          (t.name ∈ ["build", "check_code", "test"] ∧ c.dir = some root ∨
            t.name = "publish" ∧ ∃ target ∈ s.publish.targets, c.dir = some (root.join target))) ∧
        ∀ (session : Session) (host : Host) (tree : FileTree) (name : String) (past : Trace),
          ∃ more, (session.run r host tree name past).trace = past ++ more ∧
            ∀ c ending, .ran c ending ∈ more → ∃ t ∈ r.tasks, t.MayRun c := by
  refine ⟨?_, ?_, exists_map_eq_ok_iff _, fun tree file vars h => ?_, ?_⟩
  · rw [Registry.standard_eq]
    exact exists_map_eq_ok_iff _
  · rw [Publish.Plan.ofSettings_eq]
    exact exists_map_eq_ok_iff _
  · exact (Settings.validate_eq_ok_iff.1 (Settings.validate_of_load h)).1
  · intro env r w henv hr hw
    rw [Registry.standard_eq, henv] at hr
    rw [Workflow.standard, henv] at hw
    obtain rfl := Except.ok.inj hr
    obtain rfl := Except.ok.inj hw
    refine ⟨rfl, fun name hname => Registry.exists_standard_named hname, fun t ht c hc => ?_,
      fun session host tree name past => session.mayRun_run _ host tree name past⟩
    have hmem : t ∈ s.tasksWith root options env :=
      (Registry.mem_of_mem_registerAll ht).resolve_right List.not_mem_nil
    exact Settings.placed_of_mem_tasksWith hmem hc

/-- A build that shrinks a package with the wasm tool, and a package that is published: both
commands carry the variable of the settings, and the second one starts in the directory of its
package. -/
theorem standard_shares_environment_both :
    let s : Settings :=
      { env := ["RUSTFLAGS=-g"]
        build := { wasmPackages := ["app"] }
        publish := { targets := ["lib"] } }
    let env := [("RUSTFLAGS", "-g")]
    ∃ r w build publish shrink upload,
      s.environment = .ok env ∧ Registry.standard "/ws" s {} = .ok r ∧ Workflow.standard s = .ok w ∧
      w.env = env ∧ build ∈ r.tasks ∧ publish ∈ r.tasks ∧
      build.MayRun shrink ∧ shrink.program = "ic-wasm" ∧ shrink.env = env ∧
      shrink.dir = some "/ws" ∧
      publish.MayRun upload ∧ upload.words = ["cargo", "publish"] ∧ upload.env = env ∧
      upload.dir = some "/ws/lib" := by
  intro s env
  have henv : s.environment = .ok env := rfl
  obtain ⟨r, hr, hbuild, -, -, hpublish⟩ := Registry.exists_standard_eq_ok "/ws" {} henv
  obtain ⟨-, -, hworkflow, -, hshared⟩ := standard_shares_environment "/ws" s {}
  obtain ⟨w, hw⟩ := hworkflow.2 ⟨env, henv⟩
  obtain ⟨hsame, -, hplaced, -⟩ := hshared env r w henv hr hw
  have hb : Task.build "/ws" env s ∈ r.tasks := Registry.mem_of_resolve? hbuild
  have hp : Task.publish (s.planWith "/ws" env) ∈ r.tasks := Registry.mem_of_resolve? hpublish
  obtain ⟨shrink, hshrink, htool⟩ : ∃ c, (Task.build "/ws" env s).MayRun c ∧
      c.program = "ic-wasm" := by
    refine ⟨_, (Task.mayRun_commands rfl).2 (List.mem_cons_of_mem _ (List.mem_flatMap.2
      ⟨"app", List.mem_singleton_self _, List.mem_cons_of_mem _ List.mem_cons_self⟩)), rfl⟩
  obtain ⟨upload, hupload, hwords⟩ : ∃ c, (Task.publish (s.planWith "/ws" env)).MayRun c ∧
      c.words = ["cargo", "publish"] := ⟨_, ⟨"lib", List.mem_singleton_self _, rfl⟩, rfl⟩
  obtain ⟨hshrinkEnv, hshrinkDir⟩ := hplaced _ hb _ hshrink
  obtain ⟨huploadEnv, huploadDir⟩ := hplaced _ hp _ hupload
  obtain ⟨-, hroot⟩ := hshrinkDir.resolve_right fun h => absurd h.1 (by decide)
  obtain ⟨-, target, htarget, hdir⟩ := huploadDir.resolve_left fun h => absurd h.1 (by decide)
  have hlib : Path.join "/ws" target = "/ws/lib" := by
    rw [List.mem_singleton.1 htarget]
    decide +kernel
  exact ⟨r, w, _, _, shrink, upload, henv, hr, hw, hsame, hb, hp, hshrink, htool, hshrinkEnv, hroot,
    hupload, hwords, huploadEnv, hlib ▸ hdir⟩

end Slipway
