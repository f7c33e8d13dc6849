import Slipway.Proofs.Text.Quoted
import Slipway.Workflow.Render

/-!
# The lines of a workflow file

Every line of a workflow file but the empty ones has a level and a text (`Written`). The text stays
on one line if all texts of the workflow do, so the file parts into the lines that it was joined
from (`isLine_of_mem_lines`). The level bounds the indentation from below; it is the indentation
where the text starts with a word, which the names of a workflow need not do (`indent_line`).
-/

namespace Slipway

/-! ### The texts of a workflow -/

/-- The texts of a step. -/
def Step.texts : Step → List String
  | .checkout => []
  | .toolchain name targets components => name :: (targets ++ components)
  | .tool binary crate => [binary, crate]
  | .task title name => [title, name]

/-- The texts of a job. -/
def Job.texts (j : Job) : List String :=
  [j.id, j.name, j.runsOn] ++ j.steps.flatMap Step.texts

namespace Workflow

/-- The texts of a workflow. -/
def texts (w : Workflow) : List String :=
  [w.name, w.concurrency.group] ++ w.triggers.branches ++ w.triggers.pathsIgnore ++
    w.env.flatMap (fun (key, value) => [key, value]) ++ w.jobs.flatMap Job.texts

open Text

variable {level k k' : Nat} {text s t key l : String} {items texts texts' : List String}

/-! ### Single lines -/

/-- How many blanks a line starts with. -/
def indent (l : String) : Nat :=
  (l.toList.takeWhile (· == ' ')).length

theorem line_inj (h : line level s = line level t) : s = t :=
  (String.append_right_inj _).1 ((String.append_left_inj _).1 h)

theorem indent_line_eq (level : Nat) (text : String) :
    indent (line level text) = 2 * level + indent (text ++ "\n") := by
  rw [indent, line, String.append_assoc, String.toList_append, String.toList_ofList,
    List.takeWhile_append_of_pos (by simp), List.length_append, List.length_replicate]
  rfl

theorem le_indent_line (level : Nat) (text : String) : 2 * level ≤ indent (line level text) := by
  rw [indent_line_eq]; exact Nat.le_add_right _ _

/-- A line whose text starts with a word is no further indented than its level says. -/
theorem indent_line (h : text.toList.head? ≠ some ' ') : indent (line level text) = 2 * level := by
  rw [indent_line_eq, indent, String.toList_append]
  cases htext : text.toList with
  | nil => rfl
  | cons c cs =>
    rw [htext] at h
    have hc : (c == ' ') = false := beq_eq_false_iff_ne.2 fun he => h (congrArg some he)
    simp [hc]

/-- Whether a line is at the level `k` or deeper, with a text that stays on one line if the given
texts do. -/
def Written (k : Nat) (texts : List String) (l : String) : Prop :=
  ∃ level text, k ≤ level ∧ l = line level text ∧ ((∀ t ∈ texts, OneLine t) → OneLine text)

theorem written_line (hk : k ≤ level) (h : (∀ t ∈ texts, OneLine t) → OneLine text) :
    Written k texts (line level text) :=
  ⟨level, text, hk, rfl, h⟩

/-- A line without any of the texts. -/
theorem written_word (hk : k ≤ level) (h : '\n' ∉ text.toList) :
    Written k texts (line level text) :=
  written_line hk fun _ => h

/-- A line with a text after a word. -/
theorem written_text (hk : k ≤ level) (hs : s ∈ texts) (h : '\n' ∉ text.toList) :
    Written k texts (line level (text ++ s)) :=
  written_line hk fun ht => oneLine_append.2 ⟨h, ht s hs⟩

namespace Written

theorem mono (h : Written k texts l) (hk : k' ≤ k) (hs : texts ⊆ texts') : Written k' texts' l := by
  obtain ⟨level, text, hl, rfl, ht⟩ := h
  exact written_line (Nat.le_trans hk hl) fun h => ht fun s hm => h s (hs hm)

theorem le_indent (h : Written k texts l) : 2 * k ≤ indent l := by
  obtain ⟨level, text, hk, rfl, -⟩ := h
  exact Nat.le_trans (Nat.mul_le_mul_left 2 hk) (le_indent_line level text)

theorem isLine (h : Written k texts l) (ht : ∀ t ∈ texts, OneLine t) : IsLine l := by
  obtain ⟨level, text, -, rfl, h⟩ := h
  exact ⟨String.ofList (List.replicate (2 * level) ' ') ++ text,
    oneLine_append.2 ⟨by simp [OneLine], h ht⟩, rfl⟩

end Written

theorem isLine_word (h : '\n' ∉ text.toList) : IsLine (line level text) :=
  Written.isLine (@written_word level level text [] Nat.le.refl h) nofun

theorem isLine_newline : IsLine "\n" :=
  ⟨"", by simp [OneLine], rfl⟩

theorem indent_newline : indent "\n" = 0 := by decide

/-! ### Sections -/

variable {t : Triggers} {step : Step} {j : Job} {jobs : List Job} {w : Workflow}

theorem written_of_mem_listLines (hk : '\n' ∉ key.toList) (h : l ∈ listLines level key items) :
    Written level items l := by
  rw [listLines] at h
  split at h
  · cases h
  · rcases List.mem_cons.1 h with rfl | h
    · exact written_word Nat.le.refl (by simpa using hk)
    · obtain ⟨item, hm, rfl⟩ := List.mem_map.1 h
      exact written_line (Nat.le_succ level) fun ht =>
        oneLine_append.2 ⟨by simp [OneLine], oneLine_quote.2 (ht item hm)⟩

/-- The part of the triggers that is about pull requests. -/
def pullLines (t : Triggers) : List String :=
  if t.pullRequest then line 1 "pull_request:" :: listLines 2 "paths-ignore" t.pathsIgnore else []

/-- The part of the triggers that is about pushes. -/
def pushLines (t : Triggers) : List String :=
  if t.branches.isEmpty then []
  else
    line 1 "push:" ::
      (listLines 2 "branches" t.branches ++ listLines 2 "paths-ignore" t.pathsIgnore)

theorem triggerLines_eq (t : Triggers) :
    triggerLines t = line 0 "on:" :: (pullLines t ++ pushLines t) := rfl

theorem written_of_mem_triggers (h : l ∈ pullLines t ++ pushLines t) :
    Written 1 (t.branches ++ t.pathsIgnore) l := by
  have hignored : l ∈ listLines 2 "paths-ignore" t.pathsIgnore →
      Written 1 (t.branches ++ t.pathsIgnore) l := fun h =>
    (written_of_mem_listLines (by simp) h).mono (by decide) (List.subset_append_right _ _)
  rcases List.mem_append.1 h with h | h
  · rw [pullLines] at h
    split at h
    · rcases List.mem_cons.1 h with rfl | h
      · exact written_word Nat.le.refl (by simp)
      · exact hignored h
    · cases h
  · rw [pushLines] at h
    split at h
    · cases h
    · rcases List.mem_cons.1 h with rfl | h
      · exact written_word Nat.le.refl (by simp)
      · rcases List.mem_append.1 h with h | h
        · exact (written_of_mem_listLines (by simp) h).mono (by decide)
            (List.subset_append_left _ _)
        · exact hignored h

theorem written_of_mem_concurrencyLines {c : Concurrency} (h : l ∈ concurrencyLines c) :
    Written 0 [c.group] l := by
  simp only [concurrencyLines, List.mem_cons, List.not_mem_nil, or_false] at h
  rcases h with rfl | rfl | rfl
  · exact written_word (Nat.zero_le _) (by simp)
  · exact written_text (Nat.zero_le _) List.mem_cons_self (by simp)
  · cases c.cancelInProgress <;> exact written_word (Nat.zero_le _) (by simp)

/-- A variable as it is written. -/
def envLine (v : String × String) : String :=
  line 1 (v.1 ++ ": " ++ quote v.2)

theorem envLines_of_ne_nil {env : List (String × String)} (h : env ≠ []) :
    envLines env = line 0 "env:" :: (env.map envLine ++ ["\n"]) := by
  rw [envLines, if_neg (by simpa using h)]; rfl

theorem written_envLine (v : String × String) : Written 1 [v.1, v.2] (envLine v) :=
  written_line Nat.le.refl fun h => oneLine_append.2
    ⟨oneLine_append.2 ⟨h v.1 (by simp), by simp [OneLine]⟩, oneLine_quote.2 (h v.2 (by simp))⟩

theorem eq_of_mem_inlineLines (h : l ∈ inlineLines level key items) :
    l = line level (key ++ ": " ++ ", ".intercalate items) := by
  rw [inlineLines] at h
  split at h
  · cases h
  · exact List.mem_singleton.1 h

theorem written_of_mem_inlineLines (hk : '\n' ∉ key.toList) (h : l ∈ inlineLines level key items) :
    Written level items l := by
  rw [eq_of_mem_inlineLines h]
  exact written_line Nat.le.refl fun ht => oneLine_append.2
    ⟨oneLine_append.2 ⟨hk, by simp [OneLine]⟩, (oneLine_intercalate (by simp [OneLine])).2 ht⟩

/-- The lines of a step below its title. -/
def bodyLines (step : Step) : List String :=
  (stepLines step).tail

theorem stepLines_eq (step : Step) :
    stepLines step = line 3 ("- name: " ++ step.title) :: bodyLines step := rfl

theorem written_title (step : Step) : Written 3 step.texts (line 3 ("- name: " ++ step.title)) := by
  cases step with
  | checkout => exact written_word Nat.le.refl (by simp [Step.title])
  | toolchain name targets components => exact written_word Nat.le.refl (by simp [Step.title])
  | tool binary crate =>
    rw [Step.title, ← String.append_assoc]
    exact written_text Nat.le.refl List.mem_cons_self (by simp)
  | task title name => exact written_text Nat.le.refl List.mem_cons_self (by simp)

theorem written_of_mem_bodyLines (h : l ∈ bodyLines step) : Written 4 step.texts l := by
  cases step with
  | checkout =>
    rw [List.mem_singleton.1 h]
    exact written_word Nat.le.refl (by simp)
  | tool binary crate =>
    rw [List.mem_singleton.1 h]
    exact written_line Nat.le.refl fun h => oneLine_append.2
      ⟨oneLine_append.2 ⟨by simp [OneLine], h crate (by simp [Step.texts])⟩, by simp [OneLine]⟩
  | task title name =>
    rw [List.mem_singleton.1 h]
    exact written_text Nat.le.refl (by simp [Step.texts]) (by simp)
  | toolchain name targets components =>
    have h' : l ∈ ([line 4 "uses: dtolnay/rust-toolchain@master", line 4 "with:",
        line 5 ("toolchain: " ++ name)] ++ inlineLines 5 "targets" targets) ++
          inlineLines 5 "components" components := h
    simp only [List.mem_append, List.mem_cons, List.not_mem_nil, or_false] at h'
    rcases h' with ((rfl | rfl | rfl) | h) | h
    · exact written_word Nat.le.refl (by simp)
    · exact written_word Nat.le.refl (by simp)
    · exact written_text (by decide) List.mem_cons_self (by simp)
    · exact (written_of_mem_inlineLines (by simp) h).mono (by decide)
        (List.subset_cons_of_subset _ (List.subset_append_left _ _))
    · exact (written_of_mem_inlineLines (by simp) h).mono (by decide)
        (List.subset_cons_of_subset _ (List.subset_append_right _ _))

theorem written_of_mem_jobLines (h : l ∈ jobLines j) : Written 1 j.texts l := by
  rcases List.mem_append.1 h with h | h
  · simp only [List.mem_cons, List.not_mem_nil, or_false] at h
    rcases h with rfl | rfl | rfl | rfl
    · exact written_line Nat.le.refl fun h =>
        oneLine_append.2 ⟨h j.id (by simp [Job.texts]), by simp [OneLine]⟩
    · exact written_text (by decide) (by simp [Job.texts]) (by simp)
    · exact written_text (by decide) (by simp [Job.texts]) (by simp)
    · exact written_word (by decide) (by simp)
  · obtain ⟨step, hstep, h⟩ := List.mem_flatMap.1 h
    have hsub : step.texts ⊆ j.texts := fun s hs =>
      List.mem_append_right _ (List.mem_flatMap.2 ⟨step, hstep, hs⟩)
    rcases List.mem_cons.1 h with rfl | h
    · exact (written_title step).mono (by decide) hsub
    · exact (written_of_mem_bodyLines h).mono (by decide) hsub

/-- The jobs after another one. -/
def moreLines (rest : List Job) : List String :=
  if rest.isEmpty then [] else "\n" :: jobsLines rest

theorem jobsLines_cons (j : Job) (rest : List Job) :
    jobsLines (j :: rest) = jobLines j ++ moreLines rest := by
  cases rest with
  | nil => exact (List.append_nil _).symm
  | cons j' rest => rfl

theorem isLine_of_mem_jobsLines (hj : ∀ j ∈ jobs, ∀ t ∈ j.texts, OneLine t)
    (h : l ∈ jobsLines jobs) : IsLine l := by
  induction jobs with
  | nil => cases h
  | cons j rest ih =>
    obtain ⟨hj, hrest⟩ := List.forall_mem_cons.1 hj
    rw [jobsLines_cons, List.mem_append, moreLines] at h
    rcases h with h | h
    · exact (written_of_mem_jobLines h).isLine hj
    · split at h
      · cases h
      · rcases List.mem_cons.1 h with rfl | h
        · exact isLine_newline
        · exact ih hrest h

/-! ### The file -/

theorem lines_eq (w : Workflow) :
    w.lines = line 0 "# Generated by `cargo xtask ci render`. Do not edit by hand." ::
      line 0 ("name: " ++ w.name) :: "\n" :: line 0 "on:" ::
      ((pullLines w.triggers ++ pushLines w.triggers) ++ "\n" :: (concurrencyLines w.concurrency ++
        "\n" :: (envLines w.env ++ line 0 "jobs:" :: jobsLines w.jobs))) := by
  simp [lines, triggerLines_eq]

theorem isLine_of_mem_envLines {env : List (String × String)}
    (he : ∀ v ∈ env, ∀ t ∈ [v.1, v.2], OneLine t) (h : l ∈ envLines env) : IsLine l := by
  by_cases hn : env = []
  · rw [envLines, hn] at h; cases h
  · rw [envLines_of_ne_nil hn, List.mem_cons, List.mem_append] at h
    rcases h with rfl | h | h
    · exact isLine_word (by simp)
    · obtain ⟨v, hv, rfl⟩ := List.mem_map.1 h
      exact (written_envLine v).isLine (he v hv)
    · rw [List.mem_singleton.1 h]; exact isLine_newline

/-- If no text of a workflow breaks a line, then no line of its file is broken. -/
theorem isLine_of_mem_lines (hw : ∀ t ∈ w.texts, OneLine t) (h : l ∈ w.lines) : IsLine l := by
  rw [lines_eq] at h
  simp only [List.mem_cons, List.mem_append (s := pullLines _ ++ _),
    List.mem_append (s := concurrencyLines _), List.mem_append (s := envLines _)] at h
  rcases h with rfl | rfl | rfl | rfl | h | rfl | h | rfl | h | rfl | h
  · exact isLine_word (by simp)
  · exact (written_text Nat.le.refl (by simp [texts]) (by simp)).isLine hw
  · exact isLine_newline
  · exact isLine_word (by simp)
  · exact (written_of_mem_triggers h).isLine fun t ht => hw t (by grind [texts])
  · exact isLine_newline
  · exact (written_of_mem_concurrencyLines h).isLine fun t ht => hw t (by grind [texts])
  · exact isLine_newline
  · exact isLine_of_mem_envLines (fun v hv t ht => hw t (by
      simp only [texts, List.mem_append]
      exact .inl (.inr (List.mem_flatMap.2 ⟨v, hv, ht⟩)))) h
  · exact isLine_word (by simp)
  · exact isLine_of_mem_jobsLines (fun j hj t ht => hw t
      (List.mem_append_right _ (List.mem_flatMap.2 ⟨j, hj, ht⟩))) h

end Workflow

end Slipway
