import Slipway.Task.Registry

/-!
# The order of tasks

A task is run after the tasks that it depends on. `Registry.plan` lists a task and all that it
depends on, directly or not, each once and after its own dependencies. The search goes down the
dependencies and keeps the names on the way; it never goes below a name that is already on the way,
so it ends after at most as many steps down as there are tasks.
-/

namespace Slipway.Registry

/-! ### The measure -/

/-- How many tasks are not on the way. -/
def room (r : Registry) (way : List String) : Nat :=
  (r.tasks.filter (·.name ∉ way)).length

theorem room_cons_lt {r : Registry} {t : Task} {way : List String} (ht : t ∈ r.tasks)
    (hw : t.name ∉ way) : r.room (t.name :: way) < r.room way := by
  have h : r.tasks.filter (·.name ∉ t.name :: way) =
      (r.tasks.filter (·.name ∉ way)).filter (·.name ≠ t.name) := by
    rw [List.filter_filter]
    refine List.filter_congr fun u _ => ?_
    simp only [List.mem_cons, not_or, Bool.decide_and]
  rw [room, room, h, List.length_filter_lt_length_iff_exists]
  exact ⟨t, List.mem_filter.2 ⟨ht, decide_eq_true hw⟩, by simp⟩

/-! ### The search -/

/-- What the search has finished with. -/
structure Progress where
  /-- The names of the finished tasks. -/
  done : List String := []
  /-- The finished tasks, each after its dependencies. -/
  order : List Task := []

/-- The cycle that ends in a name on the way: the names from its first occurrence on, and the name
again. The way lists the latest name first. -/
def cycle (way : List String) (name : String) : List String :=
  name :: (way.takeWhile (· != name)).reverse ++ [name]

mutual

/-- Finishes the task that a name stands for, after its dependencies. The names on the way are those
of the tasks whose dependencies are being finished. -/
def visit (r : Registry) (way : List String) (name : String) (p : Progress) :
    Except Failure Progress :=
  match _h : r.resolve? name with
  | none => .error ⟨.unknownTask name, none⟩
  | some t =>
    if t.name ∈ p.done then .ok p
    else if _hw : t.name ∈ way then .error ⟨.dependencyCycle (cycle way t.name), none⟩
    else
      match visitAll r (t.name :: way) t.name t.dependencies p with
      | .error f => .error f
      | .ok p => .ok ⟨t.name :: p.done, p.order ++ [t]⟩
termination_by (r.room way, 0)
decreasing_by exact Prod.Lex.left _ _ (room_cons_lt (mem_of_resolve? _h) _hw)

/-- Finishes the dependencies of the task `owner` in order. -/
def visitAll (r : Registry) (way : List String) (owner : String) (names : List String)
    (p : Progress) : Except Failure Progress :=
  match names with
  | [] => .ok p
  | name :: rest =>
    if (r.resolve? name).isSome then
      match visit r way name p with
      | .error f => .error f
      | .ok p => visitAll r way owner rest p
    else .error ⟨.unknownTask name, some ("dependency of '" ++ owner ++ "'")⟩
termination_by (r.room way, names.length)
decreasing_by
  · exact Prod.Lex.right _ (by simp)
  · exact Prod.Lex.right _ (by simp)

end

/-- The task that a name stands for and all that it depends on, each once and after its
dependencies. -/
def plan (r : Registry) (name : String) : Except Failure (List Task) :=
  (r.visit [] name {}).map (·.order)

/-! ### Reachability -/

/-- Whether the task `t` has a dependency that stands for the task `u`. -/
def Needs (r : Registry) (t u : Task) : Prop :=
  ∃ name ∈ t.dependencies, r.resolve? name = some u

/-- Whether the task `u` is `t` or is needed by it, directly or not. -/
inductive Reaches (r : Registry) (t : Task) : Task → Prop where
  | refl : Reaches r t t
  | tail {u v : Task} : Reaches r t u → r.Needs u v → Reaches r t v

end Slipway.Registry
