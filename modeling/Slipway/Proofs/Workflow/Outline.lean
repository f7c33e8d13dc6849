import Slipway.Proofs.Settings.Validation
import Slipway.Proofs.Workflow.Lines

/-!
# The outline of the standard workflow file

The standard workflow file has one row for each list item, variable and field (`Settings.outline`).
A quoted text cannot end its quotes, but the end of a line in a text, quoted or not, is written as
it is. So the lines of the file are its rows exactly if every text in it stays on one line, and then
nothing but the sections of the outline stands at its margin (`splitOn_render_standard`).
-/

namespace Slipway

open Text

/-! ### Rows -/

/-- The rows of a list: a key and its quoted items, or nothing for the empty list. -/
def itemRows (key : String) (items : List String) : List (Nat × String) :=
  if items.isEmpty then [] else (2, key) :: items.map fun item => (3, "- " ++ quote item)

/-- The rows of the triggers. Ignored paths are written for each kind of event. -/
def CiSettings.triggerRows (ci : CiSettings) : List (Nat × String) :=
  (if ci.pullRequest then (1, "pull_request:") :: itemRows "paths-ignore:" ci.pathsIgnore
    else []) ++
    if ci.branches.isEmpty then []
    else
      (1, "push:") ::
        (itemRows "branches:" ci.branches ++ itemRows "paths-ignore:" ci.pathsIgnore)

/-- The rows of the concurrency group. -/
def concurrencyRows (cancelInProgress : Bool) : List (Nat × String) :=
  [(0, "concurrency:"),
    (1, "group: $\x7b\x7b github.workflow \x7d\x7d-$\x7b\x7b github.ref \x7d\x7d"),
    (1, if cancelInProgress then "cancel-in-progress: true" else "cancel-in-progress: false")]

/-- The rows of the variables, with an empty row at the end. -/
def envRows (env : List (String × String)) : List (Nat × String) :=
  if env.isEmpty then []
  else (0, "env:") :: (env.map (fun (key, value) => (1, key ++ ": " ++ quote value)) ++ [(0, "")])

namespace Settings

/-- The rows of the job. -/
def jobRows (s : Settings) : List (Nat × String) :=
  [(1, "build-and-test:"), (2, "name: Build and test"), (2, "runs-on: " ++ s.ci.runsOn),
    (2, "steps:"), (3, "- name: Checkout"), (4, "uses: actions/checkout@v4"),
    (3, "- name: Install Rust toolchain"), (4, "uses: dtolnay/rust-toolchain@master"),
    (4, "with:"), (5, "toolchain: " ++ s.ci.toolchain), (5, "targets: " ++ s.build.wasmTarget)] ++
    (if s.ci.components.isEmpty then []
      else [(5, "components: " ++ ", ".intercalate s.ci.components)]) ++
    [(3, "- name: Install " ++ s.build.wasmTool),
      (4, "run: cargo install " ++ s.ci.wasmToolCrate ++ " --locked"),
      (3, "- name: Build"), (4, "run: cargo xtask build"),
      (3, "- name: Check code"), (4, "run: cargo xtask check_code"),
      (3, "- name: Test"), (4, "run: cargo xtask test")]

/-- The rows of the standard workflow file with their levels, where `env` is the environment. -/
def outline (s : Settings) (env : List (String × String)) : List (Nat × String) :=
  [(0, "# Generated by `cargo xtask ci render`. Do not edit by hand."),
    (0, "name: " ++ s.ci.workflow), (0, ""), (0, "on:")] ++
    s.ci.triggerRows ++ (0, "") :: concurrencyRows s.ci.cancelInProgress ++ (0, "") ::
    envRows env ++ (0, "jobs:") :: s.jobRows

/-- Whether the texts that the standard workflow file shows stay on one line each. -/
structure InOneLine (s : Settings) (env : List (String × String)) : Prop where
  workflow : OneLine s.ci.workflow
  branches : ∀ branch ∈ s.ci.branches, OneLine branch
  /-- Ignored paths are shown with a trigger only. -/
  pathsIgnore : s.ci.pullRequest = true ∨ s.ci.branches ≠ [] →
    ∀ pattern ∈ s.ci.pathsIgnore, OneLine pattern
  env : ∀ v ∈ env, OneLine v.1 ∧ OneLine v.2
  runsOn : OneLine s.ci.runsOn
  toolchain : OneLine s.ci.toolchain
  wasmTarget : OneLine s.build.wasmTarget
  components : ∀ component ∈ s.ci.components, OneLine component
  wasmTool : OneLine s.build.wasmTool
  wasmToolCrate : OneLine s.ci.wasmToolCrate

end Settings

namespace Workflow

variable {s : Settings} {env : List (String × String)} {level : Nat} {text key : String}
  {items : List String} {rows rows' : List (Nat × String)}

/-- A row as it is written, without the end of the line. -/
def row (r : Nat × String) : String :=
  String.ofList (List.replicate (2 * r.1) ' ') ++ r.2

/-- A row as it is written. -/
def rowLine (r : Nat × String) : String :=
  line r.1 r.2

theorem newline_eq : "\n" = rowLine (0, "") := by decide

theorem rowLine_eq : rowLine = (· ++ "\n") ∘ row := rfl

/-! ### The file is written row by row -/

theorem listLines_eq (key : String) (items : List String) :
    listLines 2 key items = (itemRows (key ++ ":") items).map rowLine := by
  rw [listLines, itemRows]
  split
  · rfl
  · rw [List.map_cons, List.map_map]
    rfl

theorem triggerLines_ofSettings (ci : CiSettings) :
    triggerLines (.ofSettings ci) = rowLine (0, "on:") :: ci.triggerRows.map rowLine := by
  rw [triggerLines, CiSettings.triggerRows, List.map_append, apply_ite (List.map rowLine),
    apply_ite (List.map rowLine), List.map_cons, List.map_cons, List.map_append]
  simp only [listLines_eq]
  rfl

theorem envLines_eq (env : List (String × String)) :
    envLines env = (envRows env).map rowLine := by
  rw [envLines, envRows, newline_eq, apply_ite (List.map rowLine), List.map_cons, List.map_append,
    List.map_map]
  rfl

theorem jobLines_standardJob (s : Settings) :
    jobLines (standardJob s) = s.jobRows.map rowLine := by
  have hcomponents : inlineLines 5 "components" s.ci.components =
      (if s.ci.components.isEmpty then []
        else [(5, "components: " ++ ", ".intercalate s.ci.components)]).map rowLine := by
    rw [inlineLines, apply_ite (List.map rowLine)]
    rfl
  rw [Settings.jobRows, List.map_append, List.map_append, ← hcomponents]
  rfl

theorem concurrencyLines_perRef (cancelInProgress : Bool) :
    concurrencyLines (.perRef cancelInProgress) =
      (concurrencyRows cancelInProgress).map rowLine := by
  cases cancelInProgress <;> decide

/-- The standard workflow is written as its outline says. -/
theorem render_standard (h : s.environment = .ok env) :
    ∃ w, standard s = .ok w ∧
      w.render = String.join (((s.outline env).map row).map (· ++ "\n")) := by
  refine ⟨_, by rw [standard, h]; rfl, ?_⟩
  rw [render, List.map_map, ← rowLine_eq, Settings.outline]
  simp only [lines, triggerLines_ofSettings, concurrencyLines_perRef, envLines_eq, jobsLines,
    jobLines_standardJob, newline_eq, List.map_append, List.map_cons, List.append_assoc,
    List.cons_append, List.nil_append]
  rfl

/-! ### Rows that are not broken -/

/-- Whether no row is broken by its text. -/
def Unbroken (rows : List (Nat × String)) : Prop :=
  ∀ r ∈ rows, OneLine r.2

@[simp]
theorem unbroken_nil : Unbroken [] := nofun

@[simp]
theorem unbroken_cons : Unbroken ((level, text) :: rows) ↔ OneLine text ∧ Unbroken rows :=
  List.forall_mem_cons

@[simp]
theorem unbroken_append : Unbroken (rows ++ rows') ↔ Unbroken rows ∧ Unbroken rows' :=
  List.forall_mem_append

theorem unbroken_map {α : Type} {f : α → Nat × String} {l : List α} :
    Unbroken (l.map f) ↔ ∀ a ∈ l, OneLine (f a).2 :=
  List.forall_mem_map

theorem oneLine_row (r : Nat × String) : OneLine (row r) ↔ OneLine r.2 := by
  rw [row, oneLine_append, and_iff_right]
  simp [OneLine]

theorem unbroken_itemRows (hkey : OneLine key) :
    Unbroken (itemRows key items) ↔ ∀ item ∈ items, OneLine item := by
  have hitem : ∀ item, OneLine ("- " ++ quote item) ↔ OneLine item := fun item => by
    rw [oneLine_append, oneLine_quote]
    exact and_iff_right (by decide)
  rw [itemRows]
  split
  · next hnil =>
    rw [List.isEmpty_iff.1 hnil]
    exact ⟨fun _ => nofun, fun _ => nofun⟩
  · rw [unbroken_cons, and_iff_right hkey, unbroken_map]
    simp only [hitem]

theorem unbroken_triggerRows (ci : CiSettings) :
    Unbroken ci.triggerRows ↔
      (∀ branch ∈ ci.branches, OneLine branch) ∧
        (ci.pullRequest = true ∨ ci.branches ≠ [] →
          ∀ pattern ∈ ci.pathsIgnore, OneLine pattern) := by
  have hpull : OneLine "pull_request:" := by decide
  have hpush : OneLine "push:" := by decide
  have hignored : OneLine "paths-ignore:" := by decide
  have hbranches : OneLine "branches:" := by decide
  rw [CiSettings.triggerRows]
  by_cases hp : ci.pullRequest = true <;> by_cases hb : ci.branches = [] <;>
    simp [hp, hb, hpull, hpush, unbroken_itemRows hignored, unbroken_itemRows hbranches]

theorem unbroken_envRows (env : List (String × String)) :
    Unbroken (envRows env) ↔ ∀ v ∈ env, OneLine v.1 ∧ OneLine v.2 := by
  have hv : ∀ v : String × String,
      OneLine (v.1 ++ ": " ++ quote v.2) ↔ OneLine v.1 ∧ OneLine v.2 := fun v => by
    rw [oneLine_append, oneLine_append, oneLine_quote, and_iff_left (b := OneLine ": ") (by decide)]
  rw [envRows]
  split
  · next hnil =>
    rw [List.isEmpty_iff.1 hnil]
    exact ⟨fun _ => nofun, fun _ => nofun⟩
  · rw [unbroken_cons, unbroken_append, unbroken_map, and_iff_right (by decide),
      and_iff_left (unbroken_cons.2 ⟨by decide, unbroken_nil⟩)]
    simp only [hv]

theorem unbroken_concurrencyRows (cancelInProgress : Bool) :
    Unbroken (concurrencyRows cancelInProgress) := by
  cases cancelInProgress <;> simp +decide [concurrencyRows]

theorem unbroken_jobRows (s : Settings) :
    Unbroken s.jobRows ↔ OneLine s.ci.runsOn ∧ OneLine s.ci.toolchain ∧
      OneLine s.build.wasmTarget ∧ (∀ component ∈ s.ci.components, OneLine component) ∧
        OneLine s.build.wasmTool ∧ OneLine s.ci.wasmToolCrate := by
  have hcomponents : Unbroken (if s.ci.components.isEmpty then []
      else [(5, "components: " ++ ", ".intercalate s.ci.components)]) ↔
        ∀ component ∈ s.ci.components, OneLine component := by
    split
    · next hnil =>
      rw [List.isEmpty_iff.1 hnil]
      exact ⟨fun _ => nofun, fun _ => unbroken_nil⟩
    · rw [unbroken_cons, and_iff_left unbroken_nil, oneLine_append, and_iff_right (by decide),
        oneLine_intercalate (by decide)]
  rw [Settings.jobRows, unbroken_append, unbroken_append, hcomponents]
  simp +decide [oneLine_append, and_assoc]

theorem unbroken_outline : Unbroken (s.outline env) ↔ s.InOneLine env := by
  have houtline : Unbroken (s.outline env) ↔ OneLine s.ci.workflow ∧ Unbroken s.ci.triggerRows ∧
      Unbroken (envRows env) ∧ Unbroken s.jobRows := by
    simp +decide [Settings.outline, oneLine_append, unbroken_concurrencyRows]
  rw [houtline, unbroken_triggerRows, unbroken_envRows, unbroken_jobRows]
  constructor
  · rintro ⟨hname, ⟨hbranches, hignored⟩, henv, hon, htool, htarget, hcomponents, hwasm, hcrate⟩
    exact ⟨hname, hbranches, hignored, henv, hon, htool, htarget, hcomponents, hwasm, hcrate⟩
  · intro h
    exact ⟨h.workflow, ⟨h.branches, h.pathsIgnore⟩, h.env, h.runsOn, h.toolchain, h.wasmTarget,
      h.components, h.wasmTool, h.wasmToolCrate⟩

/-! ### The margin -/

/-- Whether a line is not blank and does not start with a space. -/
def AtMargin (l : String) : Prop :=
  allBlank l = false ∧ l.toList.head? ≠ some ' '

instance (l : String) : Decidable (AtMargin l) :=
  inferInstanceAs (Decidable (_ ∧ _))

/-- The rows that are written at the margin. -/
def margin (rows : List (Nat × String)) : List String :=
  (rows.map row).filter (AtMargin ·)

theorem row_zero (text : String) : row (0, text) = text :=
  String.empty_append

theorem not_atMargin_row (hlevel : 0 < level) : ¬ AtMargin (row (level, text)) := by
  rintro ⟨-, h⟩
  obtain ⟨n, hn⟩ : ∃ n, 2 * level = n + 1 := ⟨2 * level - 1, by omega⟩
  simp [row, hn, List.replicate_succ] at h

theorem atMargin_append {word : String} (h : AtMargin word) : AtMargin (word ++ text) := by
  obtain ⟨hblank, hhead⟩ := h
  rw [allBlank] at hblank
  refine ⟨by rw [allBlank, String.toList_append, List.all_append, hblank, Bool.false_and], ?_⟩
  rw [String.toList_append]
  cases hw : word.toList with
  | nil =>
    rw [hw] at hblank
    cases hblank
  | cons c cs =>
    rw [hw] at hhead
    exact hhead

@[simp]
theorem margin_nil : margin [] = [] := rfl

theorem margin_cons (h : AtMargin text) : margin ((0, text) :: rows) = text :: margin rows := by
  simp [margin, row_zero, h]

@[simp]
theorem margin_cons_empty : margin ((0, "") :: rows) = margin rows := by
  simp +decide [margin, row_zero]

@[simp]
theorem margin_cons_deep (hlevel : 0 < level) : margin ((level, text) :: rows) = margin rows := by
  simp [margin, not_atMargin_row hlevel]

@[simp]
theorem margin_append : margin (rows ++ rows') = margin rows ++ margin rows' := by
  simp [margin]

theorem margin_map {α : Type} {f : α → Nat × String} {l : List α} (h : ∀ a ∈ l, 0 < (f a).1) :
    margin (l.map f) = [] := by
  induction l with
  | nil => rfl
  | cons a l ih =>
    obtain ⟨ha, hl⟩ := List.forall_mem_cons.1 h
    rw [List.map_cons, margin_cons_deep ha, ih hl]

theorem margin_itemRows (key : String) (items : List String) :
    margin (itemRows key items) = [] := by
  rw [itemRows]
  split
  · rfl
  · rw [margin_cons_deep Nat.zero_lt_two, margin_map fun _ _ => Nat.zero_lt_succ 2]

theorem margin_triggerRows (ci : CiSettings) : margin ci.triggerRows = [] := by
  rw [CiSettings.triggerRows]
  split <;> split <;> simp [margin_itemRows]

theorem margin_concurrencyRows (cancelInProgress : Bool) :
    margin (concurrencyRows cancelInProgress) = ["concurrency:"] := by
  rw [concurrencyRows, margin_cons (by decide)]
  simp

theorem margin_envRows (env : List (String × String)) :
    margin (envRows env) = if env = [] then [] else ["env:"] := by
  simp only [envRows, List.isEmpty_iff]
  split
  · rfl
  · rw [margin_cons (by decide), margin_append, margin_map fun _ _ => Nat.zero_lt_one]
    simp

theorem margin_jobRows (s : Settings) : margin s.jobRows = [] := by
  rw [Settings.jobRows]
  split <;> simp

/-- The margin of the outline holds one row for each section. -/
theorem margin_outline :
    margin (s.outline env) =
      ["# Generated by `cargo xtask ci render`. Do not edit by hand.", "name: " ++ s.ci.workflow,
        "on:", "concurrency:"] ++ (if env = [] then [] else ["env:"]) ++ ["jobs:"] := by
  have hname : AtMargin ("name: " ++ s.ci.workflow) := atMargin_append (by decide)
  simp only [Settings.outline, margin_append, margin_cons_empty, margin_triggerRows,
    margin_concurrencyRows, margin_envRows]
  rw [margin_cons (by decide), margin_cons hname, margin_cons_empty, margin_cons (by decide),
    margin_nil, margin_cons (by decide), margin_jobRows]
  rfl

/-! ### The lines of the file -/

/-- Usable settings give a workflow. Its file has the rows of the outline, each cut where its text
ends a line, so it has these rows and no other lines exactly if the texts that it shows stay on one
line each. Then its margin is that of the outline. -/
theorem splitOn_render_standard (h : s.validate = .ok s) :
    ∃ env w, s.environment = .ok env ∧ standard s = .ok w ∧
      splitOn '\n' w.render = ((s.outline env).map row).flatMap (splitOn '\n') ++ [""] ∧
      (splitOn '\n' w.render = (s.outline env).map row ++ [""] ↔ s.InOneLine env) ∧
      (s.InOneLine env → (splitOn '\n' w.render).filter (AtMargin ·) =
        ["# Generated by `cargo xtask ci render`. Do not edit by hand.", "name: " ++ s.ci.workflow,
          "on:", "concurrency:"] ++ (if env = [] then [] else ["env:"]) ++ ["jobs:"]) := by
  obtain ⟨⟨env, henv⟩, -⟩ := Settings.validate_eq_ok_iff.1 h
  obtain ⟨w, hw, hrender⟩ := render_standard henv
  have hcut : splitOn '\n' w.render =
      ((s.outline env).map row).flatMap (splitOn '\n') ++ [""] := by
    rw [hrender, splitOn_join_lines]
  have hiff : splitOn '\n' w.render = (s.outline env).map row ++ [""] ↔ s.InOneLine env := by
    rw [hcut, List.append_left_inj, flatMap_splitOn_eq_iff, List.forall_mem_map]
    simp only [oneLine_row]
    exact unbroken_outline
  refine ⟨env, w, henv, hw, hcut, hiff, fun hone => ?_⟩
  rw [hiff.2 hone, List.filter_append, ← margin_outline, margin]
  exact List.append_nil _

/-- The default settings show no text of more than one line. -/
theorem splitOn_render_standard_default :
    ({} : Settings).validate = .ok {} ∧ ∃ w, standard {} = .ok w ∧
      (splitOn '\n' w.render).filter (AtMargin ·) =
        ["# Generated by `cargo xtask ci render`. Do not edit by hand.", "name: CI", "on:",
          "concurrency:", "env:", "jobs:"] := by
  have henv : ({} : Settings).environment = .ok [("RUST_BACKTRACE", "full")] := rfl
  have hvalid : ({} : Settings).validate = .ok {} :=
    Settings.validate_eq_ok_iff.2 ⟨⟨_, henv⟩, by decide, by decide, by decide⟩
  obtain ⟨env, w, henv', hw, -, -, hmargin⟩ := splitOn_render_standard hvalid
  obtain rfl := Except.ok.inj (henv'.symm.trans henv)
  have hone : ({} : Settings).InOneLine [("RUST_BACKTRACE", "full")] :=
    { workflow := by decide
      branches := by decide
      pathsIgnore := fun _ => by decide
      env := by decide
      runsOn := by decide
      toolchain := by decide
      wasmTarget := by decide
      components := by decide
      wasmTool := by decide
      wasmToolCrate := by decide }
  exact ⟨hvalid, w, hw, hmargin hone⟩

/-- A variable can add a section: what its value holds after the end of a line is at the margin. -/
theorem not_splitOn_render_standard :
    ¬ ∀ (s : Settings) (env : List (String × String)) (w : Workflow), s.validate = .ok s →
        s.environment = .ok env → standard s = .ok w →
        splitOn '\n' w.render = (s.outline env).map row ++ [""] ∧
          (splitOn '\n' w.render).filter (AtMargin ·) =
            ["# Generated by `cargo xtask ci render`. Do not edit by hand.",
              "name: " ++ s.ci.workflow, "on:", "concurrency:"] ++
              (if env = [] then [] else ["env:"]) ++ ["jobs:"] := by
  intro h
  let s : Settings := { env := ["NOTE=x\npermissions: write-all"] }
  let env : List (String × String) := [("NOTE", "x\npermissions: write-all")]
  have henv : s.environment = .ok env := rfl
  have hvalid : s.validate = .ok s :=
    Settings.validate_eq_ok_iff.2 ⟨⟨env, henv⟩, by decide, by decide, by decide⟩
  obtain ⟨w, hw, hrender⟩ := render_standard henv
  obtain ⟨-, hmargin⟩ := h s env w hvalid henv hw
  have hmem : (1, "NOTE" ++ ": " ++ quote "x\npermissions: write-all") ∈ s.outline env := by
    simp [Settings.outline, envRows, env]
  have hadded : "permissions: write-all\"" ∈ (splitOn '\n' w.render).filter (AtMargin ·) := by
    rw [hrender, splitOn_join_lines]
    have hpiece : "permissions: write-all\"" ∈
        ((s.outline env).map row).flatMap (splitOn '\n') :=
      List.mem_flatMap.2 ⟨_, List.mem_map_of_mem hmem, by decide⟩
    exact List.mem_filter.2 ⟨List.mem_append_left _ hpiece, by decide⟩
  rw [hmargin] at hadded
  revert hadded
  decide

end Workflow

end Slipway
