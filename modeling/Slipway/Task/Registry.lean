import Slipway.Publish.Report
import Slipway.Text.Blank

/-!
# Tasks and their registry

A task has a name, tasks that it depends on, and an action. A registry holds tasks sorted by name.
Names are asked for in any spelling: blanks around them, letter case and the choice between dash and
underscore make no difference.
-/

namespace Slipway

/-- What a task does. -/
inductive Action where
  /-- Commands in order; the first that does not succeed ends the task. -/
  | commands (commands : List Command)
  | publish (plan : Publish.Plan)
  deriving Repr, DecidableEq

/-- A named piece of work. -/
structure Task where
  name : String
  description : String
  /-- The names of the tasks that have to be completed before. -/
  dependencies : List String := []
  action : Action
  deriving Repr, DecidableEq

/-- The normal spelling of a task name: trimmed, in lower case, with underscores for dashes. -/
def normalName (name : String) : String :=
  String.ofList ((Text.trimBy Text.isBlank name.toList).map fun c =>
    if c = '-' then '_' else c.toLower)

namespace Task

/-- A task that runs commands, under the normal spelling of its name. -/
def ofCommands (name description : String) (commands : List Command) : Task :=
  { name := normalName name, description, action := .commands commands }

/-- The task with one more dependency. -/
def dependsOn (t : Task) (name : String) : Task :=
  { t with dependencies := t.dependencies ++ [normalName name] }

end Task

/-- Tasks sorted by name, one for each name. -/
structure Registry where
  tasks : List Task := []
  deriving Repr

namespace Registry

/-- Puts a task at its place, instead of a task of the same name. -/
def insertSorted (t : Task) : List Task → List Task
  | [] => [t]
  | u :: rest =>
    if t.name = u.name then t :: rest
    else if t.name < u.name then t :: u :: rest
    else u :: insertSorted t rest

/-- The task of exactly this name. -/
def find? (r : Registry) (name : String) : Option Task :=
  r.tasks.find? (·.name == name)

/-- Adds a task, and returns the task that it replaces. -/
def register (r : Registry) (t : Task) : Option Task × Registry :=
  (r.find? t.name, ⟨insertSorted t r.tasks⟩)

/-- The registry with more tasks, added in order. -/
def registerAll (r : Registry) (tasks : List Task) : Registry :=
  tasks.foldl (fun r t => (r.register t).2) r

/-- The task that a name stands for in any spelling. -/
def resolve? (r : Registry) (name : String) : Option Task :=
  r.find? (normalName name)

/-- The task that a name stands for in any spelling; the failure repeats the name as it was
given. -/
def resolve (r : Registry) (name : String) : Except Failure Task :=
  match r.resolve? name with
  | some t => .ok t
  | none => .error ⟨.unknownTask name, none⟩

theorem find?_insertSorted_self (t : Task) (tasks : List Task) :
    (insertSorted t tasks).find? (·.name == t.name) = some t := by
  induction tasks with
  | nil => exact List.find?_cons_of_pos (by simp)
  | cons u rest ih =>
    rw [insertSorted]
    split
    · exact List.find?_cons_of_pos (by simp)
    · next hu =>
      split
      · exact List.find?_cons_of_pos (by simp)
      · rw [List.find?_cons_of_neg (by simpa using Ne.symm hu), ih]

theorem find?_insertSorted_of_ne {t : Task} {name : String} (h : t.name ≠ name)
    (tasks : List Task) :
    (insertSorted t tasks).find? (·.name == name) = tasks.find? (·.name == name) := by
  have ht : (t.name == name) = false := beq_eq_false_iff_ne.2 h
  induction tasks with
  | nil => simp only [insertSorted, List.find?_cons, ht]
  | cons u rest ih =>
    rw [insertSorted]
    split
    · next hu => simp only [List.find?_cons, ← hu, ht]
    · split
      · simp only [List.find?_cons, ht]
      · simp only [List.find?_cons, ih]

theorem mem_of_mem_insertSorted {t u : Task} {tasks : List Task} (h : u ∈ insertSorted t tasks) :
    u = t ∨ u ∈ tasks := by
  induction tasks with
  | nil => exact .inl (List.mem_singleton.1 h)
  | cons v rest ih =>
    rw [insertSorted] at h
    split at h
    · rcases List.mem_cons.1 h with rfl | h
      · exact .inl rfl
      · exact .inr (List.mem_cons_of_mem _ h)
    · split at h
      · rcases List.mem_cons.1 h with rfl | h
        · exact .inl rfl
        · exact .inr h
      · rcases List.mem_cons.1 h with rfl | h
        · exact .inr List.mem_cons_self
        · exact (ih h).imp id (List.mem_cons_of_mem _)

theorem find?_register (r : Registry) (t : Task) (name : String) :
    (r.register t).2.find? name = if t.name = name then some t else r.find? name := by
  split
  · next h => exact h ▸ find?_insertSorted_self t r.tasks
  · next h => exact find?_insertSorted_of_ne h r.tasks

/-- The names of the tasks. -/
def names (r : Registry) : List String :=
  r.tasks.map (·.name)

theorem mem_of_find? {r : Registry} {name : String} {t : Task} (h : r.find? name = some t) :
    t ∈ r.tasks :=
  List.mem_of_find?_eq_some h

theorem name_of_find? {r : Registry} {name : String} {t : Task} (h : r.find? name = some t) :
    t.name = name := by
  simpa using List.find?_some h

theorem mem_of_resolve? {r : Registry} {name : String} {t : Task}
    (h : r.resolve? name = some t) : t ∈ r.tasks :=
  mem_of_find? h

end Registry

end Slipway
