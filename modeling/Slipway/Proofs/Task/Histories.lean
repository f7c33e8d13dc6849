import Slipway.Proofs.Command.Answers
import Slipway.Proofs.Task.Sessions
import Slipway.Workflow.Local

/-!
# Histories of a session

A session is asked for tasks, steps and jobs one after the other (`Session.Request`). The log of
such a history lists the actions that are started on the way, and it is in order
(`advances_serveAll`): each request leads on from the session that the one before it left.

What is done is a list of deeds: actions of tasks, and what steps do themselves when they install
something (`Step.Brings`). They account for the whole trace (`Happens`), so a history starts no
action but those of its log (`accounted_serveAll`).
-/

namespace Slipway

/-! ### Requests and their logs -/

namespace Session

section
variable (session : Session) (r : Registry) (host : Host) (tree : FileTree)

/-- The actions that a step starts. -/
def logOfStep (step : Step) (past : Trace) : List Execution :=
  match step with
  | .task _ name => session.logOfRun r host tree name past
  | _ => []

/-- The summary of the task that a step runs, if it ends well. -/
def summariesOfStep (step : Step) (past : Trace) : List Summary :=
  match step with
  | .task _ name => (session.run r host tree name past).result.toOption.toList
  | _ => []

end

/-- The actions that steps start, up to the first step that fails. -/
def logOfSteps (r : Registry) (host : Host) (tree : FileTree) :
    Session → List Step → Trace → List Execution
  | _, [], _ => []
  | session, step :: rest, past =>
    let ran := session.runStep r host tree step past
    session.logOfStep r host tree step past ++
      if ran.result.isOk then logOfSteps r host tree ran.session rest ran.trace else []

/-- The summaries of the tasks that steps run, up to the first step that fails. -/
def summariesOfSteps (r : Registry) (host : Host) (tree : FileTree) :
    Session → List Step → Trace → List Summary
  | _, [], _ => []
  | session, step :: rest, past =>
    let ran := session.runStep r host tree step past
    session.summariesOfStep r host tree step past ++
      if ran.result.isOk then summariesOfSteps r host tree ran.session rest ran.trace else []

/-- What a session is asked for. -/
inductive Request where
  | task (name : String)
  | step (step : Step)
  | job (job : Job)

/-- The steps that are asked for. -/
def Request.steps : Request → List Step
  | .task _ => []
  | .step asked => [asked]
  | .job asked => asked.steps

/-- What a session did for requests: the summaries of the tasks that were run and ended well, the
session and the trace after it. -/
structure Served where
  summaries : List Summary
  session : Session
  trace : Trace

/-- Serves one request. -/
def serve (session : Session) (r : Registry) (host : Host) (tree : FileTree) (request : Request)
    (past : Trace) : Served :=
  match request with
  | .task name =>
    let ran := session.run r host tree name past
    ⟨ran.result.toOption.toList, ran.session, ran.trace⟩
  | .step step =>
    let ran := session.runStep r host tree step past
    ⟨session.summariesOfStep r host tree step past, ran.session, ran.trace⟩
  | .job job =>
    let ran := session.runJob r host tree job past
    ⟨summariesOfSteps r host tree session job.steps past, ran.session, ran.trace⟩

/-- The actions that a request starts. -/
def logOf (session : Session) (r : Registry) (host : Host) (tree : FileTree)
    (request : Request) (past : Trace) : List Execution :=
  match request with
  | .task name => session.logOfRun r host tree name past
  | .step step => session.logOfStep r host tree step past
  | .job job => logOfSteps r host tree session job.steps past

/-- Serves requests in order, each on the file tree that it finds. -/
def serveAll (r : Registry) (host : Host) : Session → List (FileTree × Request) → Trace → Served
  | session, [], past => ⟨[], session, past⟩
  | session, (tree, request) :: rest, past =>
    let now := session.serve r host tree request past
    let later := serveAll r host now.session rest now.trace
    ⟨now.summaries ++ later.summaries, later.session, later.trace⟩

/-- The actions that requests start. -/
def logOfAll (r : Registry) (host : Host) :
    Session → List (FileTree × Request) → Trace → List Execution
  | _, [], _ => []
  | session, (tree, request) :: rest, past =>
    let now := session.serve r host tree request past
    session.logOf r host tree request past ++ logOfAll r host now.session rest now.trace

end Session

/-! ### Deeds -/

/-- What a step does itself: a toolchain step adds targets and components, and a tool step looks for
its program and installs it from its crate. A step that runs a task does nothing else. -/
inductive Step.Brings : Step → Effect → Prop where
  | targets (toolchain : String) (targets components : List String)
      (ending : Except OsError Exit) :
      Brings (.toolchain toolchain targets components)
        (.ran ⟨"rustup", ["target", "add"] ++ targets, none, []⟩ ending)
  | components (toolchain : String) (targets components : List String)
      (ending : Except OsError Exit) :
      Brings (.toolchain toolchain targets components)
        (.ran ⟨"rustup", ["component", "add"] ++ components, none, []⟩ ending)
  | probe (binary crate : String) (found : Bool) :
      Brings (.tool binary crate) (.probed binary found)
  | install (binary crate : String) (ending : Except OsError Exit) :
      Brings (.tool binary crate) (.ran ⟨"cargo", ["install", crate, "--locked"], none, []⟩ ending)

/-- Something that is done: the action of a task is started in a file tree, or a step has an effect
of its own. -/
inductive Deed where
  | action (tree : FileTree) (execution : Execution)
  | aside (step : Step) (effect : Effect)

/-- The action that was started, if it is one. -/
def Deed.execution? : Deed → Option Execution
  | action _ execution => some execution
  | aside _ _ => none

/-- Whether a deed belongs to a request: it starts an action in the tree of the request, or one of
the steps that were asked for brings its effect. -/
def Deed.PartOf (request : FileTree × Session.Request) : Deed → Prop
  | action tree _ => tree = request.1
  | aside step effect => step ∈ request.2.steps ∧ step.Brings effect

/-- Deeds lead from one trace to another: every action ends as it says, and nothing is done but the
actions and the effects that are listed. -/
inductive Happens (host : Host) : Trace → List Deed → Trace → Prop where
  | nil (past : Trace) : Happens host past [] past
  | action {past next now : Trace} {tree : FileTree} {s : Execution} {deeds : List Deed} :
      s.task.perform host tree past = (s.result, next) → Happens host next deeds now →
      Happens host past (.action tree s :: deeds) now
  | aside {past now : Trace} {step : Step} {effect : Effect} {deeds : List Deed} :
      Happens host (past ++ [effect]) deeds now →
      Happens host past (.aside step effect :: deeds) now

/-- Whether the actions of a log and effects of steps, all of them of a kind, account for everything
that is done from one trace to another. -/
def Accounted (host : Host) (P : Deed → Prop) (past : Trace) (log : List Execution)
    (now : Trace) : Prop :=
  ∃ deeds, Happens host past deeds now ∧ deeds.filterMap Deed.execution? = log ∧ ∀ d ∈ deeds, P d

section
variable {host : Host} {past now later : Trace} {deeds deeds' : List Deed}
  {log log' : List Execution} {P Q : Deed → Prop} {step : Step} {more : Trace}
  {context : Option String} {command : Command}

theorem Happens.append (h : Happens host past deeds now) (h' : Happens host now deeds' later) :
    Happens host past (deeds ++ deeds') later := by
  induction h with
  | nil => exact h'
  | action hp _ ih => exact .action hp (ih h')
  | aside _ ih => exact .aside (ih h')

theorem happens_asides (host : Host) (step : Step) (past more : Trace) :
    Happens host past (more.map (.aside step)) (past ++ more) := by
  induction more generalizing past with
  | nil => rw [List.append_nil]; exact .nil past
  | cons effect more ih =>
    rw [List.map_cons, List.append_cons]
    exact .aside (ih _)

namespace Accounted

theorem refl (host : Host) (P : Deed → Prop) (past : Trace) : Accounted host P past [] past :=
  ⟨[], .nil past, rfl, nofun⟩

theorem append (h : Accounted host P past log now) (h' : Accounted host P now log' later) :
    Accounted host P past (log ++ log') later := by
  obtain ⟨deeds, hdone, rfl, hall⟩ := h
  obtain ⟨deeds', hdone', rfl, hall'⟩ := h'
  exact ⟨deeds ++ deeds', hdone.append hdone', List.filterMap_append,
    List.forall_mem_append.2 ⟨hall, hall'⟩⟩

theorem mono (h : Accounted host P past log now) (hPQ : ∀ d, P d → Q d) :
    Accounted host Q past log now := by
  obtain ⟨deeds, hdone, hlog, hall⟩ := h
  exact ⟨deeds, hdone, hlog, fun d hd => hPQ d (hall d hd)⟩

theorem asides (step : Step) (h : ∀ effect ∈ more, P (.aside step effect)) :
    Accounted host P past [] (past ++ more) := by
  refine ⟨more.map (.aside step), happens_asides host step past more, ?_, ?_⟩
  · rw [List.filterMap_map]
    exact List.filterMap_eq_nil_iff.2 fun _ _ => rfl
  · exact List.forall_mem_map.2 h

/-- Commands that have to succeed are all that is run. -/
theorem requireAll (step : Step) {commands : List Command}
    (h : ∀ c ∈ commands, ∀ ending, P (.aside step (.ran c ending))) :
    Accounted host P past [] (host.requireAll context commands past).2 := by
  obtain ⟨-, hreq⟩ | ⟨before, last, later, ending, rfl, -, -, hreq⟩ :=
    requireAll_cases host context commands past
  · rw [hreq]
    exact asides step (List.forall_mem_map.2 fun c hc => h c hc succeeded)
  · rw [hreq]
    refine asides step (List.forall_mem_append.2 ⟨?_, ?_⟩)
    · exact List.forall_mem_map.2 fun c hc => h c (List.mem_append_left _ hc) succeeded
    · exact List.forall_mem_singleton.2 (h last (by simp) ending)

end Accounted

end

namespace Session

variable {session : Session} {r : Registry} {host : Host} {tree : FileTree} {summary : Summary}
  {step : Step} {steps : List Step} {request : FileTree × Request}
  {requests : List (FileTree × Request)}

/-! ### Steps and jobs -/

section
variable (session : Session) (r : Registry) (host : Host) (tree : FileTree) (past : Trace)

theorem advances_runStep (step : Step) :
    Advances r session (session.logOfStep r host tree step past)
      (session.runStep r host tree step past).session := by
  cases step with
  | checkout => exact .refl
  | toolchain => exact .refl
  | tool binary crate =>
    rw [runStep]
    split <;> exact .refl
  | task title name => exact advances_run session r host tree name past

theorem happens_logOfEach (tasks : List Task) :
    Happens host past ((logOfEach host tree tasks past).map (.action tree))
      ((logOfEach host tree tasks past).foldl
        (fun past s => (s.task.perform host tree past).2) past) := by
  induction tasks generalizing past with
  | nil => exact .nil past
  | cons t rest ih =>
    rcases hp : t.perform host tree past with ⟨f | report, next⟩
    · rw [logOfEach_cons_of_error hp, List.map_singleton, List.foldl_cons, List.foldl_nil, hp]
      exact .action hp (.nil next)
    · rw [logOfEach_cons_of_ok hp, List.map_cons, List.foldl_cons, hp]
      exact .action hp (ih next)

theorem accounted_run (name : String) {P : Deed → Prop} (h : ∀ s, P (.action tree s)) :
    Accounted host P past (session.logOfRun r host tree name past)
      (session.run r host tree name past).trace := by
  refine ⟨(session.logOfRun r host tree name past).map (.action tree), ?_, ?_, ?_⟩
  · rw [trace_run, logOfRun]
    cases r.plan name with
    | error f => exact .nil past
    | ok tasks => exact happens_logOfEach host tree past (session.todo tasks)
  · rw [List.filterMap_map]
    exact List.filterMap_some
  · exact List.forall_mem_map.2 fun s _ => h s

/-- A step that has no task does only what it brings, and one that has a task runs the task. -/
theorem accounted_runStep (step : Step) {P : Deed → Prop} (htree : ∀ s, P (.action tree s))
    (hstep : ∀ effect, step.Brings effect → P (.aside step effect)) :
    Accounted host P past (session.logOfStep r host tree step past)
      (session.runStep r host tree step past).trace := by
  cases step with
  | checkout => exact .refl host P past
  | toolchain toolchain targets components =>
    refine .requireAll (.toolchain toolchain targets components) fun c hc ending => ?_
    rcases List.mem_append.1 hc with hc | hc
    · split at hc
      · cases hc
      · rw [List.mem_singleton.1 hc]
        exact hstep _ (.targets ..)
    · split at hc
      · cases hc
      · rw [List.mem_singleton.1 hc]
        exact hstep _ (.components ..)
  | tool binary crate =>
    have hprobe :
        Accounted host P past [] (past ++ [.probed binary (host.available past binary)]) :=
      .asides (.tool binary crate) (List.forall_mem_singleton.2 (hstep _ (.probe ..)))
    cases hfound : host.available past binary with
    | true =>
      simp only [runStep, Host.probe, hfound]
      exact hfound ▸ hprobe
    | false =>
      simp only [runStep, Host.probe, hfound, ← requireAll_singleton]
      refine (hfound ▸ hprobe).append (.requireAll (.tool binary crate) ?_)
      exact List.forall_mem_singleton.2 fun ending => hstep _ (.install ..)
  | task title name => exact accounted_run session r host tree past name htree

theorem executed_summariesOfStep_sublist (step : Step) :
    ((session.summariesOfStep r host tree step past).flatMap (·.executed)).Sublist
      (completedBy (session.logOfStep r host tree step past)) := by
  cases step with
  | task title name =>
    rw [summariesOfStep, logOfStep]
    cases h : (session.run r host tree name past).result with
    | error f => exact List.nil_sublist _
    | ok summary =>
      rw [← executed_run h]
      exact (List.append_nil summary.executed).symm ▸ List.Sublist.refl _
  | _ => exact List.nil_sublist _

end

section
variable (r : Registry) (host : Host) (tree : FileTree)

theorem advances_runTitled (session : Session) (steps : List Step) (past : Trace) :
    Advances r session (logOfSteps r host tree session steps past)
      (runTitled r host tree session steps past).session := by
  induction steps generalizing session past with
  | nil => exact .refl
  | cons step rest ih =>
    have hstep := advances_runStep session r host tree past step
    rw [logOfSteps, runTitled]
    cases (session.runStep r host tree step past).result with
    | error f => exact hstep.trans .refl
    | ok u => exact hstep.trans (ih _ _)

theorem accounted_runTitled (session : Session) (steps : List Step) (past : Trace)
    {P : Deed → Prop} (htree : ∀ s, P (.action tree s))
    (hsteps : ∀ step ∈ steps, ∀ effect, step.Brings effect → P (.aside step effect)) :
    Accounted host P past (logOfSteps r host tree session steps past)
      (runTitled r host tree session steps past).trace := by
  induction steps generalizing session past with
  | nil => exact .refl host P past
  | cons step rest ih =>
    obtain ⟨hfirst, hrest⟩ := List.forall_mem_cons.1 hsteps
    have hstep := accounted_runStep session r host tree past step htree hfirst
    rw [logOfSteps, runTitled]
    cases (session.runStep r host tree step past).result with
    | error f => exact hstep.append (.refl host P _)
    | ok u => exact hstep.append (ih _ _ hrest)

theorem executed_summariesOfSteps_sublist (session : Session) (steps : List Step) (past : Trace) :
    ((summariesOfSteps r host tree session steps past).flatMap (·.executed)).Sublist
      (completedBy (logOfSteps r host tree session steps past)) := by
  induction steps generalizing session past with
  | nil => exact List.Sublist.refl _
  | cons step rest ih =>
    have hstep := executed_summariesOfStep_sublist session r host tree past step
    rw [summariesOfSteps, logOfSteps, List.flatMap_append, completedBy_append]
    refine hstep.append ?_
    split
    · exact ih _ _
    · exact List.Sublist.refl _

/-! ### Histories -/

theorem advances_serve (session : Session) (request : Request) (past : Trace) :
    Advances r session (session.logOf r host tree request past)
      (session.serve r host tree request past).session := by
  cases request with
  | task name => exact advances_run session r host tree name past
  | step step => exact advances_runStep session r host tree past step
  | job job => exact advances_runTitled r host tree session job.steps past

theorem accounted_serve (session : Session) (request : Request) (past : Trace) :
    Accounted host (Deed.PartOf (tree, request)) past (session.logOf r host tree request past)
      (session.serve r host tree request past).trace := by
  cases request with
  | task name => exact accounted_run session r host tree past name fun _ => rfl
  | step step =>
    exact accounted_runStep session r host tree past step (fun _ => rfl) fun _ hb =>
      ⟨List.mem_singleton_self step, hb⟩
  | job job =>
    exact accounted_runTitled r host tree session job.steps past (fun _ => rfl) fun _ hm _ hb =>
      ⟨hm, hb⟩

theorem executed_serve_sublist (session : Session) (request : Request) (past : Trace) :
    ((session.serve r host tree request past).summaries.flatMap (·.executed)).Sublist
      (completedBy (session.logOf r host tree request past)) := by
  cases request with
  -- a task that is asked for is run as the step that has this task runs it
  | task name => exact executed_summariesOfStep_sublist session r host tree past (.task "" name)
  | step step => exact executed_summariesOfStep_sublist session r host tree past step
  | job job => exact executed_summariesOfSteps_sublist r host tree session job.steps past

theorem advances_serveAll (session : Session) (requests : List (FileTree × Request))
    (past : Trace) :
    Advances r session (logOfAll r host session requests past)
      (serveAll r host session requests past).session := by
  induction requests generalizing session past with
  | nil => exact .refl
  | cons request rest ih =>
    exact (advances_serve r host request.1 session request.2 past).trans (ih _ _)

theorem accounted_serveAll (session : Session) (requests : List (FileTree × Request))
    (past : Trace) :
    Accounted host (fun d => ∃ request ∈ requests, d.PartOf request) past
      (logOfAll r host session requests past) (serveAll r host session requests past).trace := by
  induction requests generalizing session past with
  | nil => exact .refl host _ past
  | cons request rest ih =>
    have hnow := (accounted_serve r host request.1 session request.2 past).mono
      fun d hd => (⟨request, List.mem_cons_self, hd⟩ : ∃ q ∈ request :: rest, d.PartOf q)
    exact hnow.append <| (ih _ _).mono fun _ ⟨q, hq, hd⟩ => ⟨q, List.mem_cons_of_mem request hq, hd⟩

theorem executed_serveAll_sublist (session : Session) (requests : List (FileTree × Request))
    (past : Trace) :
    ((serveAll r host session requests past).summaries.flatMap (·.executed)).Sublist
      (completedBy (logOfAll r host session requests past)) := by
  induction requests generalizing session past with
  | nil => exact List.Sublist.refl _
  | cons request rest ih =>
    rw [serveAll, logOfAll, List.flatMap_append, completedBy_append]
    exact (executed_serve_sublist r host request.1 session request.2 past).append (ih _ _)

end

/-- In every history of a session, whatever commands do, nothing is done but the actions of its log
and what the steps that were asked for bring themselves. The completed tasks are those whose actions
ended well, and at any time they are closed under dependencies. An action starts when all that its
task needs, directly or not, is completed and the task itself is not, so no task is executed twice,
be it asked for or run by a step. -/
theorem serveAll_inOrder (r : Registry) (host : Host) (requests : List (FileTree × Request))
    (past : Trace) :
    let log := logOfAll r host {} requests past
    let served := serveAll r host {} requests past
    (∃ deeds, Happens host past deeds served.trace ∧ deeds.filterMap Deed.execution? = log ∧
        ∀ d ∈ deeds, ∃ request ∈ requests, d.PartOf request) ∧
      served.session.completed = (completedBy log).reverse ∧
      (∀ before later, log = before ++ later → ∀ n ∈ completedBy before,
        ∃ t, r.find? n = some t ∧
          ∀ d ∈ t.dependencies, ∃ u, r.resolve? d = some u ∧ u.name ∈ completedBy before) ∧
      (∀ before s later, log = before ++ s :: later →
        s.task.name ∉ completedBy before ∧
          ∀ t u, r.Needs s.task t → r.Reaches t u → u.name ∈ completedBy before) ∧
      (served.summaries.flatMap (·.executed)).Nodup := by
  intro log served
  have h := advances_serveAll r host {} requests past
  have hsplit : ∀ before later, log = before ++ later →
      Closed r (completedBy before) ∧ InOrder r (completedBy before).reverse later := by
    intro before later he
    have ho : InOrder r [] (before ++ later) := he ▸ h.inOrder
    obtain ⟨hb, hl⟩ := InOrder.append_iff.1 ho
    have hc := hb.closed nofun
    rw [List.append_nil] at hc hl
    exact ⟨hc.of_reverse, hl⟩
  refine ⟨accounted_serveAll r host {} requests past, ?_,
    fun before later he => (hsplit before later he).1, fun before s later he => ?_, ?_⟩
  · rw [h.completed]; exact List.append_nil _
  · obtain ⟨hc, ⟨-, hs, hd⟩, -⟩ := hsplit before (s :: later) he
    refine ⟨fun hm => hs (List.mem_reverse.2 hm), fun t u hn hr => ?_⟩
    obtain ⟨d, hdm, ht⟩ := hn
    obtain ⟨t', ht', hm⟩ := hd d hdm
    obtain rfl : t = t' := Option.some.inj (ht.symm.trans ht')
    exact (hc.mem_of_reaches (Registry.find?_name_of_resolve? ht) (List.mem_reverse.1 hm) hr).2
  · exact h.inOrder.nodup.1.sublist (executed_serveAll_sublist r host {} requests past)

/-- The first command fails, and a job runs it again; only then the task that needs it starts. A
step that asks for the same task later starts nothing. -/
theorem serveAll_inOrder_twice :
    let build : Task := ⟨"build", "", [], .commands [⟨"cargo", ["build"], none, []⟩]⟩
    let test : Task := ⟨"test", "", ["Build"], .commands [⟨"cargo", ["test"], none, []⟩]⟩
    let host : Host := ⟨fun past _ => .ok (.code (if past.isEmpty then 1 else 0)), fun _ _ => true⟩
    let job : Job := ⟨"all", "All", "here", [.tool "wasm-pack" "wasm-pack", .task "Test" "test"]⟩
    let requests : List (FileTree × Request) :=
      [({}, .task "test"), ({}, .job job), ({}, .step (.task "Again" "test"))]
    let log := logOfAll ⟨[build, test]⟩ host {} requests []
    let served := serveAll ⟨[build, test]⟩ host {} requests []
    log.map (fun s => (s.task.name, s.result.isOk)) =
        [("build", false), ("build", true), ("test", true)] ∧
      "build" ∈ completedBy (log.take 2) ∧ served.trace.length = 4 ∧
      served.summaries.map (·.executed) = [["build", "test"], []] := by
  intro build test host job requests log served
  have hb : (⟨[build, test]⟩ : Registry).resolve? "Build" = some build := by decide
  have ht : (⟨[build, test]⟩ : Registry).resolve? "test" = some test := by decide
  have hvisit : (⟨[build, test]⟩ : Registry).visit ["test"] "Build" {} =
      .ok ⟨["build"], [build]⟩ := by
    rw [Registry.visit_of_resolve? hb]
    simp [build, Registry.visitAll_nil]
    rfl
  have hplan : (⟨[build, test]⟩ : Registry).plan "test" = .ok [build, test] := by
    rw [Registry.plan, Registry.visit_of_resolve? ht]
    simp [test, Registry.visitAll_cons hb, hvisit, Registry.visitAll_nil]
    rfl
  have hlog : log = [⟨build, .error ⟨.commandFailed "cargo build" "exit code 1",
      some "task 'build'"⟩⟩, ⟨build, .ok none⟩] ++ ⟨test, .ok none⟩ :: [] := by
    simp only [log, requests, job, logOfAll, logOf, logOfSteps, logOfStep, serve, runStep, runJob,
      runTitled, run, logOfRun, hplan]
    rfl
  have hserved : served.trace.length = 4 ∧
      served.summaries.map (·.executed) = [["build", "test"], []] := by
    simp only [served, requests, job, serveAll, serve, summariesOfSteps, summariesOfStep, runStep,
      runJob, runTitled, run, hplan]
    exact ⟨rfl, rfl⟩
  obtain ⟨-, -, -, hstarts, -⟩ := serveAll_inOrder ⟨[build, test]⟩ host requests []
  refine ⟨by rw [hlog]; rfl, ?_, hserved⟩
  rw [hlog]
  exact (hstarts _ _ _ hlog).2 build build ⟨"Build", List.mem_cons_self, hb⟩ .refl

end Session

end Slipway
