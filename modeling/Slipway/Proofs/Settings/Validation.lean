import Slipway.Settings.Load
import Mathlib.Tactic.SplitIfs

/-!
# Usable settings

Settings are usable if their environment can be read and nothing that a run needs is empty
(`validate_eq_ok_iff`). Settings that were loaded are usable (`validate_of_load`).
-/

namespace Slipway.Settings

variable {s s' : Settings}

theorem validate_eq_ok (h : s.validate = .ok s') : s' = s := by
  rw [Settings.validate] at h
  repeat' split at h
  all_goals cases h
  rfl

/-- Settings are usable if each entry of the environment is a variable and no path or name that is
needed is empty. -/
theorem validate_eq_ok_iff :
    s.validate = .ok s ↔
      (∃ env, s.environment = .ok env) ∧ "" ∉ s.publish.targets ∧
        Text.allBlank s.build.wasmTarget = false ∧ Text.allBlank s.ci.workflow = false := by
  rw [Settings.validate]
  cases s.environment with
  | error f => simp
  | ok env =>
    simp only
    split_ifs <;> simp_all

theorem validate_of_load {tree : FileTree} {file : Option File} {vars : List (String × String)}
    (h : load tree file vars = .ok s) : s.validate = .ok s := by
  rw [load] at h
  cases hg : gather tree file vars with
  | error reason => rw [hg] at h; cases h
  | ok t =>
    rw [hg] at h
    cases ht : ofTree? t with
    | none => simp only [ht] at h; cases h
    | some s' =>
      simp only [ht] at h
      obtain rfl := validate_eq_ok h
      exact h

end Slipway.Settings
