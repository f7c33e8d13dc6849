import Slipway.Proofs.Task.Histories
import Slipway.Proofs.Text.Trimming
import Mathlib.Data.String.Basic

/-!
# Spellings of task names

A registry keeps each task under its name as it is given, but looks for the normal spelling of what
it is asked for. The normal spelling of a normal spelling is this spelling itself
(`normalName_normalName`), so a task is found if it has a normal name, and then by every spelling of
it. What is found is the last task that was registered under the name (`find?_registerAll_iff`);
one with another name is listed, but neither found, planned nor executed.
-/

namespace Slipway

/-! ### Normal spellings -/

/-- The character that stands for another one in a normal spelling. -/
def normalChar (c : Char) : Char :=
  if c = '-' then '_' else c.toLower

theorem normalName_eq (name : String) :
    normalName name =
      String.ofList ((Text.trimBy Text.isBlank name.toList).map normalChar) := rfl

/-- Only the letters A to Z are changed, to characters that lie 32 code points further. -/
theorem toLower_cases (c : Char) :
    (c.toLower = c ∧ ¬ (65 ≤ c.toNat ∧ c.toNat ≤ 90)) ∨
      (c.toLower.toNat = c.toNat + 32 ∧ 65 ≤ c.toNat ∧ c.toNat ≤ 90) := by
  have hupper : (c.val ≥ 'A'.val ∧ c.val ≤ 'Z'.val) ↔ (65 ≤ c.toNat ∧ c.toNat ≤ 90) := by
    simp [UInt32.le_iff_toNat_le]
  by_cases h : c.val ≥ 'A'.val ∧ c.val ≤ 'Z'.val
  · have hrange := hupper.1 h
    refine .inr ⟨?_, hrange⟩
    have hc : c.toLower = ⟨c.val + 32, _⟩ := dif_pos h
    rw [hc, Char.toNat, UInt32.toNat_add]
    exact Nat.mod_eq_of_lt (Nat.lt_of_le_of_lt (Nat.add_le_add_right hrange.2 32) (by decide))
  · exact .inl ⟨dif_neg h, fun hrange => h (hupper.2 hrange)⟩

theorem isBlank_toLower (c : Char) : Text.isBlank c.toLower = Text.isBlank c := by
  obtain ⟨h, -⟩ | ⟨h, hrange⟩ := toLower_cases c
  · rw [h]
  · have hletter : ∀ c : Char, 65 ≤ c.toNat ∧ c.toNat ≤ 122 → Text.isBlank c = false := by
      intro c hc
      simp only [Text.isBlank, Bool.or_eq_false_iff, Bool.and_eq_false_iff, decide_eq_false_iff_not,
        beq_eq_false_iff_ne]
      omega
    rw [hletter c (by omega), hletter c.toLower (by omega)]

theorem isBlank_normalChar (c : Char) : Text.isBlank (normalChar c) = Text.isBlank c := by
  rw [normalChar]
  split
  · next hc => subst hc; decide
  · exact isBlank_toLower c

theorem toLower_ne_dash {c : Char} (h : c ≠ '-') : c.toLower ≠ '-' := by
  intro he
  obtain ⟨hc, -⟩ | ⟨hc, hrange⟩ := toLower_cases c
  · exact h (hc ▸ he)
  · have hdash : '-'.toNat = 45 := rfl
    rw [he] at hc
    omega

theorem toLower_toLower (c : Char) : c.toLower.toLower = c.toLower := by
  obtain ⟨h, -⟩ | ⟨h, hrange⟩ := toLower_cases c
  · rw [h, h]
  · obtain ⟨h', -⟩ | ⟨-, hrange'⟩ := toLower_cases c.toLower
    · exact h'
    · omega

theorem normalChar_normalChar (c : Char) : normalChar (normalChar c) = normalChar c := by
  by_cases hc : c = '-'
  · subst hc; decide
  · rw [normalChar, normalChar, if_neg hc, if_neg (toLower_ne_dash hc), toLower_toLower]

/-- A normal spelling is left as it is: nothing is blank at its ends that was not before. -/
theorem normalName_normalName (name : String) : normalName (normalName name) = normalName name := by
  have hblank : Text.isBlank ∘ normalChar = Text.isBlank := funext isBlank_normalChar
  have hchar : normalChar ∘ normalChar = normalChar := funext normalChar_normalChar
  rw [normalName_eq (normalName name), normalName_eq name, String.toList_ofList, Text.trimBy_map,
    hblank, Text.trimBy_trimBy, List.map_map, hchar]

theorem normalName_eq_self_iff {name : String} :
    normalName name = name ↔ ∃ spelling, normalName spelling = name :=
  ⟨fun h => ⟨name, h⟩, fun ⟨spelling, h⟩ => h ▸ normalName_normalName spelling⟩

theorem Task.name_foldl_dependsOn (t : Task) (names : List String) :
    (names.foldl dependsOn t).name = t.name := by
  induction names generalizing t with
  | nil => rfl
  | cons name names ih => exact ih (t.dependsOn name)

namespace Registry

variable {r : Registry} {t u : Task} {tasks : List Task} {name : String}

/-! ### Sorted tasks -/

theorem pairwise_insertSorted (h : (tasks.map (·.name)).Pairwise (· < ·)) (t : Task) :
    ((insertSorted t tasks).map (·.name)).Pairwise (· < ·) := by
  rw [List.pairwise_map] at h ⊢
  induction tasks with
  | nil => exact List.pairwise_singleton _ t
  | cons u rest ih =>
    obtain ⟨hu, hrest⟩ := List.pairwise_cons.1 h
    rw [insertSorted]
    split
    · next he => exact List.pairwise_cons.2 ⟨fun v hv => he ▸ hu v hv, hrest⟩
    · next hne =>
      split
      · next hlt =>
        refine List.pairwise_cons.2 ⟨List.forall_mem_cons.2 ⟨hlt, fun v hv => ?_⟩, h⟩
        exact lt_trans hlt (hu v hv)
      · next hnot =>
        refine List.pairwise_cons.2 ⟨fun v hv => ?_, ih hrest⟩
        rcases mem_of_mem_insertSorted hv with rfl | hv
        · exact lt_of_le_of_ne (not_lt.1 hnot) (Ne.symm hne)
        · exact hu v hv

theorem pairwise_names_registerAll (h : r.names.Pairwise (· < ·)) (tasks : List Task) :
    (r.registerAll tasks).names.Pairwise (· < ·) := by
  induction tasks generalizing r with
  | nil => exact h
  | cons t rest ih => exact ih (r := (r.register t).2) (pairwise_insertSorted h t)

theorem mem_names_iff : name ∈ r.names ↔ (r.find? name).isSome := by
  rw [names, List.mem_map, find?, List.find?_isSome]
  simp only [beq_iff_eq]

theorem find?_iff_mem (h : r.names.Pairwise (· < ·)) : r.find? t.name = some t ↔ t ∈ r.tasks := by
  refine ⟨mem_of_find?, fun ht => ?_⟩
  have hsome : (r.find? t.name).isSome := List.find?_isSome.2 ⟨t, ht, beq_self_eq_true _⟩
  obtain ⟨u, hu⟩ := Option.isSome_iff_exists.1 hsome
  have hnodup : (r.tasks.map (·.name)).Nodup := h.imp ne_of_lt
  rw [hu, List.inj_on_of_nodup_map hnodup (mem_of_find? hu) ht (name_of_find? hu)]

/-! ### The last of a name -/

/-- Whether a task is the last of its name in a list. -/
def LastNamed (tasks : List Task) (name : String) (t : Task) : Prop :=
  ∃ before later, tasks = before ++ t :: later ∧ t.name = name ∧ ∀ u ∈ later, u.name ≠ name

theorem lastNamed_concat_of_eq (h : u.name = name) : LastNamed (tasks ++ [u]) name t ↔ u = t := by
  constructor
  · rintro ⟨before, later, he, ht, hlater⟩
    rcases List.eq_nil_or_concat later with rfl | ⟨later, w, rfl⟩
    · exact (List.cons.inj (List.append_inj' he rfl).2).1
    · have he' : tasks ++ [u] = (before ++ t :: later) ++ [w] := by simpa using he
      obtain rfl : u = w := (List.cons.inj (List.append_inj' he' rfl).2).1
      exact absurd h (hlater u (by simp))
  · rintro rfl
    exact ⟨tasks, [], rfl, h, List.forall_mem_nil _⟩

theorem lastNamed_concat_of_ne (h : u.name ≠ name) :
    LastNamed (tasks ++ [u]) name t ↔ LastNamed tasks name t := by
  constructor
  · rintro ⟨before, later, he, ht, hlater⟩
    rcases List.eq_nil_or_concat later with rfl | ⟨later, w, rfl⟩
    · obtain rfl : u = t := (List.cons.inj (List.append_inj' he rfl).2).1
      exact absurd ht h
    · have he' : tasks ++ [u] = (before ++ t :: later) ++ [w] := by simpa using he
      exact ⟨before, later, (List.append_inj' he' rfl).1, ht, fun v hv => hlater v (by simp [hv])⟩
  · rintro ⟨before, later, rfl, ht, hlater⟩
    refine ⟨before, later ++ [u], by simp, ht, ?_⟩
    exact List.forall_mem_append.2 ⟨hlater, List.forall_mem_singleton.2 h⟩

theorem registerAll_concat (r : Registry) (tasks : List Task) (t : Task) :
    r.registerAll (tasks ++ [t]) = ((r.registerAll tasks).register t).2 :=
  List.foldl_concat ..

/-- A registry holds the task that was registered last under each name. -/
theorem find?_registerAll_iff :
    (registerAll {} tasks).find? name = some t ↔ LastNamed tasks name t := by
  induction tasks using List.reverseRecOn with
  | nil =>
    refine ⟨nofun, ?_⟩
    rintro ⟨before, later, he, -⟩
    exact absurd he (by simp)
  | append_singleton tasks u ih =>
    rw [registerAll_concat, find?_register]
    split
    · next hu => rw [lastNamed_concat_of_eq hu, Option.some.injEq]
    · next hu => rw [lastNamed_concat_of_ne hu, ih]

theorem find?_registerAll_eq_none_iff :
    (registerAll {} tasks).find? name = none ↔ ∀ t ∈ tasks, t.name ≠ name := by
  induction tasks using List.reverseRecOn with
  | nil => exact ⟨fun _ => List.forall_mem_nil _, fun _ => rfl⟩
  | append_singleton tasks u ih =>
    rw [registerAll_concat, find?_register, List.forall_mem_append, List.forall_mem_singleton]
    split
    · next hu => simp [hu]
    · next hu => rw [ih, and_iff_left hu]

theorem resolve_eq_ok_iff : r.resolve name = .ok t ↔ r.resolve? name = some t := by
  rw [resolve]
  cases r.resolve? name <;> simp

theorem resolve_eq_error_iff {f : Failure} :
    r.resolve name = .error f ↔ r.resolve? name = none ∧ f = ⟨.unknownTask name, none⟩ := by
  rw [resolve]
  cases r.resolve? name <;> simp [eq_comm]

/-! ### What is planned and executed -/

theorem normalName_of_resolve? (h : r.resolve? name = some t) : normalName t.name = t.name :=
  normalName_eq_self_iff.2 ⟨name, (name_of_find? h).symm⟩

theorem normalName_of_mem_plan {order : List Task} (h : r.plan name = .ok order) (ht : t ∈ order) :
    normalName t.name = t.name := by
  obtain ⟨root, hroot, -, hmem, -⟩ := plan_spec h
  cases (hmem t).1 ht with
  | refl => exact normalName_of_resolve? hroot
  | tail _ hneeds =>
    obtain ⟨d, -, hd⟩ := hneeds
    exact normalName_of_resolve? hd

end Registry

namespace Session

variable {r : Registry} {host : Host} {tree : FileTree} {session : Session} {name : String}
  {past : Trace} {tasks : List Task} {s : Execution}

theorem task_mem_of_mem_logOfEach (h : s ∈ logOfEach host tree tasks past) : s.task ∈ tasks := by
  induction tasks generalizing past with
  | nil => exact absurd h List.not_mem_nil
  | cons t rest ih =>
    rcases hp : t.perform host tree past with ⟨f | report, past'⟩
    · rw [logOfEach_cons_of_error hp, List.mem_singleton] at h
      rw [h]
      exact List.mem_cons_self
    · rw [logOfEach_cons_of_ok hp] at h
      rcases List.mem_cons.1 h with rfl | h
      · exact List.mem_cons_self
      · exact List.mem_cons_of_mem t (ih h)

theorem normalName_of_mem_logOfRun (h : s ∈ session.logOfRun r host tree name past) :
    normalName s.task.name = s.task.name := by
  rw [logOfRun] at h
  cases hp : r.plan name with
  | error f =>
    rw [hp] at h
    exact absurd h List.not_mem_nil
  | ok order =>
    rw [hp] at h
    have hmem : s.task ∈ session.todo order := task_mem_of_mem_logOfEach h
    exact Registry.normalName_of_mem_plan hp (List.mem_filter.1 hmem).1

theorem normalName_of_mem_logOfStep {step : Step}
    (h : s ∈ session.logOfStep r host tree step past) : normalName s.task.name = s.task.name := by
  cases step with
  | task title name => exact normalName_of_mem_logOfRun h
  | _ => exact absurd h List.not_mem_nil

theorem normalName_of_mem_logOfSteps {steps : List Step}
    (h : s ∈ logOfSteps r host tree session steps past) :
    normalName s.task.name = s.task.name := by
  induction steps generalizing session past with
  | nil => exact absurd h List.not_mem_nil
  | cons step rest ih =>
    rcases List.mem_append.1 h with h | h
    · exact normalName_of_mem_logOfStep h
    · split at h
      · exact ih h
      · exact absurd h List.not_mem_nil

theorem normalName_of_mem_logOfAll {requests : List (FileTree × Request)}
    (h : s ∈ logOfAll r host session requests past) : normalName s.task.name = s.task.name := by
  induction requests generalizing session past with
  | nil => exact absurd h List.not_mem_nil
  | cons request rest ih =>
    obtain ⟨tree, request⟩ := request
    rcases List.mem_append.1 h with h | h
    · cases request with
      | task name => exact normalName_of_mem_logOfRun h
      | step step => exact normalName_of_mem_logOfStep h
      | job job => exact normalName_of_mem_logOfSteps h
    · exact ih h

end Session

/-- A name that is no normal spelling is out of reach, whatever the registry holds. -/
theorem Registry.not_reached_of_not_normal {literal : String} (h : normalName literal ≠ literal)
    (r : Registry) :
    (∀ name t, r.resolve name = .ok t → t.name ≠ literal) ∧
    (∀ name order, r.plan name = .ok order → literal ∉ order.map (·.name)) ∧
    ∀ host session requests past,
      (∀ s ∈ Session.logOfAll r host session requests past, s.task.name ≠ literal) ∧
      literal ∉ (Session.serveAll r host session requests past).summaries.flatMap (·.executed) := by
  have hne : ∀ {name : String}, normalName name = name → name ≠ literal := by
    rintro name hname rfl
    exact h hname
  refine ⟨fun name t ht => ?_, fun name order hplan hmem => ?_,
    fun host session requests past => ?_⟩
  · exact hne (normalName_of_resolve? (resolve_eq_ok_iff.1 ht))
  · obtain ⟨t, ht, hname⟩ := List.mem_map.1 hmem
    exact hne (normalName_of_mem_plan hplan ht) hname
  · have hlog : ∀ s ∈ Session.logOfAll r host session requests past, s.task.name ≠ literal :=
      fun s hs => hne (Session.normalName_of_mem_logOfAll hs)
    refine ⟨hlog, fun hmem => ?_⟩
    have hdone := (Session.executed_serveAll_sublist r host session requests past).mem hmem
    obtain ⟨s, hs, hc⟩ := List.mem_flatMap.1 hdone
    exact hlog s hs (Execution.eq_of_mem_completes hc).symm

/-- A name stands for the last task that was registered under its normal spelling, and so does every
other spelling of it; if there is none, the failure repeats the name as it was given. A task that
was built under any spelling is found by all spellings of its name, until a task of the same normal
name replaces it and the registry returns it. A task under another name is neither found nor planned
nor executed. The list is sorted and holds the last task of each name. -/
theorem Registry.resolve_registerAll (tasks : List Task) :
    let r := registerAll {} tasks
    (∀ name t, r.resolve name = .ok t ↔ LastNamed tasks (normalName name) t) ∧
    (∀ name f, r.resolve name = .error f ↔
      (∀ t ∈ tasks, t.name ≠ normalName name) ∧ f = ⟨.unknownTask name, none⟩) ∧
    (∀ name name', normalName name = normalName name' →
      ∀ t, r.resolve name = .ok t ↔ r.resolve name' = .ok t) ∧
    (∀ built description commands needs before later,
      let t := List.foldl Task.dependsOn (Task.ofCommands built description commands) needs
      tasks = before ++ t :: later → (∀ u ∈ later, u.name ≠ normalName built) →
        (∀ name, normalName name = normalName built → r.resolve name = .ok t) ∧
        ∀ u, u.name = normalName built → (r.register u).1 = some t ∧
          ∀ name, normalName name = normalName built → (r.register u).2.resolve name = .ok u) ∧
    (∀ literal, normalName literal ≠ literal →
      (∀ name t, r.resolve name = .ok t → t.name ≠ literal) ∧
      (∀ name order, r.plan name = .ok order → literal ∉ order.map (·.name)) ∧
      ∀ host session requests past,
        (∀ s ∈ Session.logOfAll r host session requests past, s.task.name ≠ literal) ∧
        literal ∉ (Session.serveAll r host session requests past).summaries.flatMap (·.executed)) ∧
    r.names.Pairwise (· < ·) ∧ (∀ name, name ∈ r.names ↔ ∃ t ∈ tasks, t.name = name) ∧
    ∀ t ∈ r.tasks, LastNamed tasks t.name t := by
  intro r
  have hsorted : r.names.Pairwise (· < ·) := pairwise_names_registerAll List.Pairwise.nil tasks
  refine ⟨fun name t => ?_, fun name f => ?_, fun name name' h t => ?_,
    fun built description commands needs before later => ?_, fun literal hliteral => ?_, hsorted,
    fun name => ?_, fun t ht => ?_⟩
  · rw [resolve_eq_ok_iff, resolve?, find?_registerAll_iff]
  · rw [resolve_eq_error_iff, resolve?, find?_registerAll_eq_none_iff]
  · rw [resolve_eq_ok_iff, resolve_eq_ok_iff, resolve?, resolve?, h]
  · intro t htasks hlater
    have hname : t.name = normalName built := Task.name_foldl_dependsOn _ needs
    have hfind : r.find? (normalName built) = some t :=
      find?_registerAll_iff.2 ⟨before, later, htasks, hname, hlater⟩
    refine ⟨fun name h => ?_, fun u hu => ⟨?_, fun name h => ?_⟩⟩
    · rw [resolve_eq_ok_iff, resolve?, h, hfind]
    · rw [register, hu, hfind]
    · rw [resolve_eq_ok_iff, resolve?, find?_register, h, if_pos hu]
  · exact not_reached_of_not_normal hliteral r
  · rw [mem_names_iff, Option.isSome_iff_ne_none, Ne, find?_registerAll_eq_none_iff]
    simp only [ne_eq, not_forall, not_not, exists_prop]
  · exact find?_registerAll_iff.1 ((find?_iff_mem hsorted).2 ht)

/-- A second spelling of a name replaces the first one, and all spellings find it; a literal name
that is no normal spelling finds nothing. -/
theorem Registry.resolve_registerAll_respelled :
    let first := Task.ofCommands "Check-Code" "first" []
    let literal : Task := ⟨"Lint", "literal", [], .commands []⟩
    let second := Task.ofCommands " check_code" "second" []
    let r := registerAll {} [first, literal, second]
    r.resolve "CHECK-code " = .ok second ∧
      r.resolve "Lint" = .error ⟨.unknownTask "Lint", none⟩ ∧
      (∀ name t, r.resolve name = .ok t → t.name ≠ "Lint") ∧
      (r.register first).1 = some second := by
  intro first literal second r
  obtain ⟨-, hunknown, -, hbuilt, hliteral, -⟩ := resolve_registerAll [first, literal, second]
  obtain ⟨hfound, hreplaced⟩ :=
    hbuilt " check_code" "second" [] [] [first, literal] [] rfl (List.forall_mem_nil _)
  refine ⟨hfound "CHECK-code " (by decide +kernel), ?_, ?_, ?_⟩
  · exact (hunknown "Lint" _).2 ⟨by decide +kernel, rfl⟩
  · exact (hliteral "Lint" (by decide +kernel)).1
  · exact (hreplaced first (by decide +kernel)).1

end Slipway
