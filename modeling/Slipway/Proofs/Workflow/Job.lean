import Slipway.Proofs.Task.Standard
import Slipway.Workflow.Local

/-!
# The course of the standard job

A job does what it does in one fixed `Course`: commands that are to succeed, and probes with what
they find, each under the title of its step. A run `Follows` its course if it does all of it with
success, or stops at the first command that fails and blames the step of this command. Steps that
follow their courses one after the other follow the whole (`Follows.append`, `Follows.stop`).

The course of the standard job (`Settings.course`) is that of its steps. Only the last step has to
look back: the plan of the tests may begin with the build, which the session has completed by then.
-/

namespace Slipway

/-- What is done when nothing fails, under the titles of steps. -/
abbrev Course := List (String × Effect)

namespace Course

def effects (course : Course) : Trace :=
  course.map (·.2)

def ofCommands (title : String) (commands : List Command) : Course :=
  commands.map fun c => (title, .ran c succeeded)

/-- A program is looked for, and installed from its crate unless it is found. -/
def ofTool (binary crate : String) (found : Bool) : Course :=
  ("Install " ++ binary, .probed binary found) ::
    ofCommands ("Install " ++ binary)
      (if found then [] else [{ program := "cargo", args := ["install", crate, "--locked"] }])

theorem effects_append (a b : Course) : effects (a ++ b) = effects a ++ effects b :=
  List.map_append

theorem effects_ofCommands (title : String) (commands : List Command) :
    (ofCommands title commands).effects = allRan commands := by
  rw [effects, ofCommands, List.map_map]
  rfl

end Course

/-- Whether a run that starts after `past` and ends with `result` after `now` follows a course: it
does all of it, or it stops at a command that fails instead of succeeding. -/
structure Follows (host : Host) (past : Trace) (course : Course) (result : Except Failure Unit)
    (now : Trace) : Prop where
  answered : ∃ more, now = past ++ more ∧ Answered host past more
  done_or_stopped : (result = .ok () ∧ now = past ++ course.effects) ∨
    ∃ (before : Course) (title : String) (command : Command) (later : Course)
      (ending : Except OsError Exit),
      course = before ++ (title, .ran command succeeded) :: later ∧ ending ≠ succeeded ∧
      now = past ++ (before.effects ++ [.ran command ending]) ∧
      result = .error ⟨command.blame ending, some ("step '" ++ title ++ "'")⟩

section
variable {host : Host} {past now later : Trace} {course course' : Course}
  {result : Except Failure Unit} {f : Failure} {commands : List Command}

namespace Follows

theorem nil (host : Host) (past : Trace) : Follows host past [] (.ok ()) past where
  answered := ⟨[], (List.append_nil past).symm, trivial⟩
  done_or_stopped := .inl ⟨rfl, (List.append_nil past).symm⟩

theorem append (h : Follows host past course (.ok ()) now)
    (h' : Follows host now course' result later) :
    Follows host past (course ++ course') result later := by
  obtain ⟨more, rfl, hans⟩ := h.answered
  obtain ⟨more', rfl, hans'⟩ := h'.answered
  refine ⟨⟨more ++ more', List.append_assoc .., hans.append hans'⟩, ?_⟩
  obtain ⟨-, hnow⟩ | ⟨_, _, _, _, _, -, -, -, hr⟩ := h.done_or_stopped
  · obtain rfl : more = course.effects := List.append_cancel_left hnow
    obtain ⟨hr, hlater⟩ | ⟨before, title, command, rest, ending, rfl, hne, hlater, hr⟩ :=
      h'.done_or_stopped
    · exact .inl ⟨hr, by rw [hlater, Course.effects_append, List.append_assoc]⟩
    · refine .inr ⟨course ++ before, title, command, rest, ending, by rw [List.append_assoc], hne,
        ?_, hr⟩
      rw [hlater, Course.effects_append, List.append_assoc, List.append_assoc]
  · cases hr

theorem stop (h : Follows host past course (.error f) now) (course' : Course) :
    Follows host past (course ++ course') (.error f) now := by
  refine ⟨h.answered, ?_⟩
  obtain ⟨hr, -⟩ | ⟨before, title, command, rest, ending, rfl, hne, hnow, hr⟩ := h.done_or_stopped
  · cases hr
  · exact .inr ⟨before, title, command, rest ++ course', ending, by rw [List.append_assoc]; rfl,
      hne, hnow, hr⟩

theorem stops_of_error (h : Follows host past course (.error f) now) :
    ∃ (before : Course) (title : String) (command : Command) (later : Course),
      course = before ++ (title, .ran command succeeded) :: later ∧
      host.run (past ++ before.effects) command ≠ succeeded ∧
      now = past ++
        (before.effects ++ [.ran command (host.run (past ++ before.effects) command)]) ∧
      f = ⟨command.blame (host.run (past ++ before.effects) command),
        some ("step '" ++ title ++ "'")⟩ := by
  obtain ⟨more, hmore, hans⟩ := h.answered
  obtain ⟨hr, -⟩ | ⟨before, title, command, later, ending, hc, hne, hnow, hr⟩ := h.done_or_stopped
  · cases hr
  · obtain rfl := List.append_cancel_left (hmore.symm.trans hnow)
    obtain rfl := hans.ending_eq
    exact ⟨before, title, command, later, hc, hne, hnow, Except.error.inj hr⟩

theorem ok_iff (h : Follows host past course result now) :
    result = .ok () ↔ now = past ++ course.effects := by
  obtain ⟨hr, hnow⟩ | ⟨before, title, command, rest, ending, rfl, hne, hnow, hr⟩ :=
    h.done_or_stopped
  · exact ⟨fun _ => hnow, fun _ => hr⟩
  · refine ⟨fun hok => absurd (hr.symm.trans hok) nofun, fun he => ?_⟩
    -- The effect at the end of the run would be a success.
    rw [Course.effects_append] at he
    have hlast := List.append_cancel_left (List.append_cancel_left (hnow.symm.trans he))
    cases (List.cons.inj hlast).1
    exact absurd rfl hne

end Follows

/-! ### Commands -/

theorem follows_requireAll (host : Host) (context : Option String) (title : String)
    (commands : List Command) (past : Trace) :
    Follows host past (Course.ofCommands title commands)
      ((host.requireAll context commands past).1.mapError (·.inContext ("step '" ++ title ++ "'")))
      (host.requireAll context commands past).2 := by
  obtain ⟨hans, hreq⟩ | ⟨before, command, later, ending, rfl, hne, hans, hreq⟩ :=
    requireAll_cases host context commands past
  · rw [hreq]
    exact ⟨⟨_, rfl, hans⟩, .inl ⟨rfl, by rw [Course.effects_ofCommands]⟩⟩
  · rw [hreq]
    refine ⟨⟨_, rfl, hans⟩, .inr ⟨Course.ofCommands title before, title, command,
      Course.ofCommands title later, ending, by simp [Course.ofCommands], hne, ?_, ?_⟩⟩
    · rw [Course.effects_ofCommands]
    · rw [← Command.cause_failure command context ending]
      rfl

end

/-! ### Steps -/

/-- Whether a run follows a course, and ends with the session `next` if nothing fails. -/
structure Ran.Follows (ran : Ran Unit) (host : Host) (past : Trace) (course : Course)
    (next : Session) : Prop where
  follows : Slipway.Follows host past course ran.result ran.trace
  session_of_ok : ran.result = .ok () → ran.session = next

namespace Session

variable {r : Registry} {host : Host} {tree : FileTree} {session next last : Session} {past : Trace}
  {course course' : Course} {step : Step} {steps : List Step} {tasks : List Task} {t : Task}
  {summary : Summary}

theorem runTitled_singleton :
    session.runTitled r host tree [step] past =
      ⟨(session.runStep r host tree step past).result.mapError
          (·.inContext ("step '" ++ step.title ++ "'")),
        (session.runStep r host tree step past).session,
        (session.runStep r host tree step past).trace⟩ := by
  rw [runTitled]
  cases (session.runStep r host tree step past).result <;> rfl

theorem follows_cons (h : (session.runTitled r host tree [step] past).Follows host past course next)
    (hs : (next.runTitled r host tree steps (past ++ course.effects)).Follows host
      (past ++ course.effects) course' last) :
    (session.runTitled r host tree (step :: steps) past).Follows host past (course ++ course')
      last := by
  rw [runTitled_singleton] at h
  rw [runTitled]
  obtain ⟨hf, hnext⟩ := h
  cases hr : (session.runStep r host tree step past).result with
  | error f =>
    rw [hr] at hf
    exact ⟨hf.stop course', fun hok => by cases hok⟩
  | ok u =>
    rw [hr] at hf hnext
    obtain rfl := hnext rfl
    have hnow := hf.ok_iff.1 rfl
    -- The rest starts where a success of the first step leaves the trace and the session.
    dsimp only at hf hnow ⊢
    rw [← hnow] at hs
    exact ⟨hf.append hs.follows, hs.session_of_ok⟩

theorem runTitled_checkout :
    session.runTitled r host tree (.checkout :: steps) past =
      session.runTitled r host tree steps past := rfl

theorem follows_toolchain (toolchain : String) (targets components : List String) :
    (session.runTitled r host tree [.toolchain toolchain targets components] past).Follows host past
      (.ofCommands "Install Rust toolchain" (toolchainCommands targets components)) session := by
  rw [runTitled_singleton]
  exact ⟨follows_requireAll host none _ _ past, fun _ => rfl⟩

theorem follows_tool (binary crate : String) :
    (session.runTitled r host tree [.tool binary crate] past).Follows host past
      (.ofTool binary crate (host.available past binary)) session := by
  rw [runTitled_singleton]
  have hprobe : Slipway.Follows host past
      [("Install " ++ binary, .probed binary (host.available past binary))] (.ok ())
      (past ++ [.probed binary (host.available past binary)]) :=
    ⟨⟨_, rfl, answered_of_quiet (by simp [Effect.ran?])⟩, .inl ⟨rfl, rfl⟩⟩
  cases hfound : host.available past binary with
  | true =>
    simp only [runStep, Host.probe, hfound]
    rw [hfound] at hprobe
    exact ⟨hprobe.append (.nil host _), fun _ => rfl⟩
  | false =>
    simp only [runStep, Host.probe, hfound]
    rw [hfound] at hprobe
    have hinstall := follows_requireAll host none ("Install " ++ binary) [installCommand crate]
      (past ++ [.probed binary false])
    rw [requireAll_singleton] at hinstall
    exact ⟨hprobe.append hinstall, fun _ => rfl⟩

/-- A task step follows the commands of the task if nothing else of its plan is left to do. -/
theorem follows_task (title : String) {name : String} (hplan : r.plan name = .ok tasks)
    (htodo : session.todo tasks = [t]) {commands : List Command}
    (hcs : t.action = .commands commands) :
    (session.runTitled r host tree [.task title name] past).Follows host past
      (.ofCommands title commands) ⟨t.name :: session.completed⟩ := by
  obtain ⟨-, -, ho, -, -⟩ := Registry.plan_spec hplan
  have hf := follows_requireAll host (some ("task '" ++ t.name ++ "'")) title commands past
  have ht : t.name ∉ session.completed := by
    have hmem : t ∈ session.todo tasks := htodo ▸ List.mem_singleton_self t
    simpa using (List.mem_filter.1 hmem).2
  rw [runTitled_singleton]
  simp only [runStep, run, hplan, perform_todo ho.nodup, htodo]
  rw [perform, if_neg ht, perform_of_commands hcs]
  revert hf
  rcases host.requireAll (some ("task '" ++ t.name ++ "'")) commands past with ⟨f | u, now⟩
  · exact fun hf => ⟨hf, fun hok => by cases hok⟩
  · exact fun hf => ⟨hf, fun _ => rfl⟩

end Session

/-! ### The standard job -/

def Task.commands (t : Task) : List Command :=
  match t.action with
  | .commands commands => commands
  | .publish _ => []

def Settings.rustupCommands (s : Settings) : List Command :=
  { program := "rustup", args := ["target", "add", s.build.wasmTarget] } ::
    if s.ci.components.isEmpty then []
    else [{ program := "rustup", args := ["component", "add"] ++ s.ci.components }]

/-- What the standard job does when nothing fails, by whether the wasm tool is found. -/
def Settings.course (s : Settings) (root : Path) (env : List (String × String))
    (options : TaskOptions) (found : Bool) : Course :=
  .ofCommands "Install Rust toolchain" s.rustupCommands ++
    (.ofTool s.build.wasmTool s.ci.wasmToolCrate found ++
      (.ofCommands "Build" (Task.build root env s).commands ++
        (.ofCommands "Check code" (Task.checkCode root env).commands ++
          .ofCommands "Test" (Task.test root env s options).commands)))

section
variable {root : Path} {s : Settings} {options : TaskOptions} {env : List (String × String)}
  {r : Registry}

theorem Registry.exists_plan_test (hbuild : r.resolve? "build" = some (Task.build root env s))
    (htest : r.resolve? "test" = some (Task.test root env s options)) :
    ∃ tasks, r.plan "test" = .ok tasks ∧
      Session.todo ⟨["check_code", "build"]⟩ tasks = [Task.test root env s options] := by
  cases hd : s.test.dependsOnBuild with
  | false =>
    have hnone : (Task.test root env s options).dependencies = [] := by simp [Task.test, hd]
    exact ⟨_, plan_of_no_dependencies htest hnone, rfl⟩
  | true =>
    have hone : (Task.test root env s options).dependencies = ["build"] := by simp [Task.test, hd]
    exact ⟨_, plan_of_one_dependency htest hone hbuild rfl
      (show "build" ≠ "test" by decide), rfl⟩

theorem standardJob_follows (root : Path) (options : TaskOptions) (h : s.environment = .ok env) :
    ∃ r, Registry.standard root s options = .ok r ∧ ∀ (host : Host) (tree : FileTree) past,
      let found := host.available
        (past ++ (Course.ofCommands "Install Rust toolchain" s.rustupCommands).effects)
        s.build.wasmTool
      (Session.runJob {} r host tree (Workflow.standardJob s) past).Follows host past
        (s.course root env options found) ⟨["test", "check_code", "build"]⟩ := by
  obtain ⟨r, hr, hbuild, hcheck, htest, -⟩ := Registry.exists_standard_eq_ok root options h
  -- When the tests are asked for, the build is completed, so of their plan only they are left.
  obtain ⟨tasks, hplan, htodo⟩ := Registry.exists_plan_test hbuild htest
  refine ⟨r, hr, fun host tree past => ?_⟩
  rw [Session.runJob, Workflow.standardJob, Session.runTitled_checkout]
  refine Session.follows_cons (Session.follows_toolchain ..) ?_
  refine Session.follows_cons (Session.follows_tool ..) ?_
  refine Session.follows_cons
    (Session.follows_task "Build" (Registry.plan_of_no_dependencies hbuild rfl) rfl rfl) ?_
  refine Session.follows_cons
    (Session.follows_task "Check code" (Registry.plan_of_no_dependencies hcheck rfl) rfl rfl) ?_
  exact Session.follows_task "Test" hplan htodo rfl

/-- The standard job does what its course says and nothing else, in this order and up to the first
command that fails; the failure carries the title of the step of this command. If nothing fails, the
three tasks are completed, each once, also when the tests depend on the build. -/
theorem Workflow.runJob_standard (root : Path) (s : Settings) (options : TaskOptions)
    (env : List (String × String)) (h : s.environment = .ok env) :
    ∃ r w job, Registry.standard root s options = .ok r ∧ Workflow.standard s = .ok w ∧
      w.jobs = [job] ∧ w.job? "build-and-test" = some job ∧
      ∀ (host : Host) (tree : FileTree) (past : Trace),
        let ran := Session.runJob {} r host tree job past
        let found := host.available
          (past ++ (Course.ofCommands "Install Rust toolchain" s.rustupCommands).effects)
          s.build.wasmTool
        let course := s.course root env options found
        (∃ more, ran.trace = past ++ more ∧ Answered host past more) ∧
          (ran.result = .ok () ↔ ran.trace = past ++ course.effects) ∧
          (ran.result = .ok () → ran.session.completed = ["test", "check_code", "build"]) ∧
          ∀ f, ran.result = .error f →
            ∃ (before : Course) (title : String) (command : Command) (later : Course),
            course = before ++ (title, .ran command succeeded) :: later ∧
            host.run (past ++ before.effects) command ≠ succeeded ∧
            ran.trace = past ++
              (before.effects ++ [.ran command (host.run (past ++ before.effects) command)]) ∧
            f = ⟨command.blame (host.run (past ++ before.effects) command),
              some ("step '" ++ title ++ "'")⟩ := by
  obtain ⟨r, hr, hjob⟩ := standardJob_follows root options h
  refine ⟨r, _, standardJob s, hr, by rw [Workflow.standard, h]; rfl, rfl, rfl,
    fun host tree past => ?_⟩
  intro ran found course
  obtain ⟨hf, hs⟩ : ran.Follows host past course ⟨["test", "check_code", "build"]⟩ :=
    hjob host tree past
  refine ⟨hf.answered, hf.ok_iff, fun hok => by rw [hs hok], fun f he => ?_⟩
  rw [he] at hf
  exact hf.stops_of_error

/-- The wasm tool is missing, the tests depend on the build, and every command succeeds: the job
looks for the tool and runs thirteen commands. -/
theorem Workflow.runJob_standard_missing_tool :
    let s : Settings := { test := { dependsOnBuild := true } }
    let env := [("RUST_BACKTRACE", "full")]
    let host : Host := ⟨fun _ _ => succeeded, fun _ _ => false⟩
    s.environment = .ok env ∧ (s.course "/work" env {} false).length = 14 ∧
      ∃ r w job, Registry.standard "/work" s {} = .ok r ∧ Workflow.standard s = .ok w ∧
        w.jobs = [job] ∧ ∀ tree : FileTree,
          let ran := Session.runJob {} r host tree job []
          ran.result = .ok () ∧ ran.trace = (s.course "/work" env {} false).effects := by
  intro s env host
  have henv : s.environment = .ok env := rfl
  obtain ⟨r, w, job, hr, hw, hjob, -, hall⟩ := runJob_standard "/work" s {} env henv
  refine ⟨henv, by decide, r, w, job, hr, hw, hjob, fun tree => ?_⟩
  intro ran
  obtain ⟨-, hiff, -, herror⟩ := hall host tree []
  have hok : ran.result = .ok () := by
    cases hres : ran.result with
    | error f =>
      obtain ⟨_, _, _, _, -, hne, -⟩ := herror f hres
      exact absurd rfl hne
    | ok => rfl
  exact ⟨hok, hiff.1 hok⟩

end

end Slipway
