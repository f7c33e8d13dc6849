import Slipway.Proofs.Workflow.Lines

/-!
# What a workflow file says

The workflow file determines the workflow that it was written for, but for patterns of ignored paths
that no trigger uses (`render_determines`). The file is parted into its lines and the lines into
sections by their indentation, which is known to be deep within a section and not to be at its end.
Within a section each line gives back its text, the last quote that follows a blank parts a variable
from its value, and commas part the items of a list on one line.
-/

namespace Slipway

/-- The texts of a step that are written as lists on one line. -/
def Step.listed : Step → List String
  | .toolchain _ targets components => targets ++ components
  | _ => []

/-- The texts of a job that are written as lists on one line. -/
def Job.listed (j : Job) : List String :=
  j.steps.flatMap Step.listed

namespace Workflow

/-- The texts of a workflow that are written as lists on one line. -/
def listed (w : Workflow) : List String :=
  w.jobs.flatMap Job.listed

open Text

variable {level k : Nat} {key l : String} {items items' rest rest' : List String}
  {b b' : List String}

/-- The lines at the start that are indented are read off. -/
theorem append_inj_of_indent (hb : ∀ l ∈ b, k ≤ indent l) (hb' : ∀ l ∈ b', k ≤ indent l)
    (hr : ∀ l ∈ rest.head?, indent l < k) (hr' : ∀ l ∈ rest'.head?, indent l < k)
    (h : b ++ rest = b' ++ rest') : b = b' ∧ rest = rest' :=
  append_inj_of_all (p := (k ≤ indent ·)) hb hb' (fun l hl => Nat.not_le_of_lt (hr l hl))
    (fun l hl => Nat.not_le_of_lt (hr' l hl)) h

theorem head?_newline (hk : 0 < k) : ∀ l ∈ ("\n" :: rest).head?, indent l < k := by
  intro l hl
  rw [← Option.some.inj hl, indent_newline]
  exact hk

/-! ### Lists -/

theorem listLines_of_ne_nil (h : items ≠ []) :
    listLines level key items = line level (key ++ ":") ::
      items.map fun item => line (level + 1) ("- " ++ quote item) := by
  rw [listLines, if_neg (by simpa using h)]

theorem map_itemLine_inj
    (h : items.map (fun item => line level ("- " ++ quote item)) =
      items'.map fun item => line level ("- " ++ quote item)) : items = items' :=
  (List.map_inj_right fun _ _ he => quote_inj ((String.append_right_inj _).1 (line_inj he))).1 h

theorem listLines_inj (h : listLines level key items = listLines level key items') :
    items = items' := by
  by_cases hi : items = [] <;> by_cases hi' : items' = []
  · rw [hi, hi']
  · rw [hi, listLines_of_ne_nil hi'] at h; cases h
  · rw [hi', listLines_of_ne_nil hi] at h; cases h
  · rw [listLines_of_ne_nil hi, listLines_of_ne_nil hi'] at h
    exact map_itemLine_inj (List.cons.inj h).2

theorem head?_listLines (h : l ∈ (listLines level key items).head?) :
    l = line level (key ++ ":") := by
  rw [listLines] at h
  split at h
  · cases h
  · exact (Option.some.inj h).symm

/-! ### Triggers -/

variable {t t' : Triggers}

theorem pushLines_of_ne_nil (h : t.branches ≠ []) :
    pushLines t = line 1 "push:" :: line 2 "branches:" ::
      (t.branches.map (fun item => line 3 ("- " ++ quote item)) ++
        listLines 2 "paths-ignore" t.pathsIgnore) := by
  rw [pushLines, if_neg (by simpa using h), listLines_of_ne_nil h]; rfl

theorem head?_pushLines (h : l ∈ (pushLines t).head?) : l = line 1 "push:" := by
  rw [pushLines] at h
  split at h
  · cases h
  · exact (Option.some.inj h).symm

theorem pushLines_inj (h : pushLines t = pushLines t') :
    t.branches = t'.branches ∧ (t.branches ≠ [] → t.pathsIgnore = t'.pathsIgnore) := by
  by_cases hb : t.branches = [] <;> by_cases hb' : t'.branches = []
  · exact ⟨hb.trans hb'.symm, absurd hb⟩
  · rw [pushLines_of_ne_nil hb', pushLines, hb] at h; cases h
  · rw [pushLines_of_ne_nil hb, pushLines, hb'] at h; cases h
  · rw [pushLines_of_ne_nil hb, pushLines_of_ne_nil hb'] at h
    have hitem : ∀ items : List String,
        ∀ l ∈ items.map (fun item => line 3 ("- " ++ quote item)), 6 ≤ indent l := by
      intro items l hl
      obtain ⟨item, -, rfl⟩ := List.mem_map.1 hl
      exact le_indent_line 3 _
    have hhead : ∀ items, ∀ l ∈ (listLines 2 "paths-ignore" items).head?, indent l < 6 := by
      intro items l hl
      rw [head?_listLines hl, indent_line (by simp)]
      decide
    obtain ⟨hbranches, hpaths⟩ := append_inj_of_indent (hitem _) (hitem _) (hhead _) (hhead _)
      (List.cons.inj (List.cons.inj h).2).2
    exact ⟨map_itemLine_inj hbranches, fun _ => listLines_inj hpaths⟩

theorem triggers_inj (h : pullLines t ++ pushLines t = pullLines t' ++ pushLines t') :
    t.branches = t'.branches ∧ t.pullRequest = t'.pullRequest ∧
      (t.pullRequest = true ∨ t.branches ≠ [] → t.pathsIgnore = t'.pathsIgnore) := by
  have hpush : ∀ (t : Triggers) (ls : List String), pushLines t ≠ line 1 "pull_request:" :: ls := by
    intro t ls he
    have hl := @head?_pushLines (line 1 "pull_request:") t (by rw [he]; rfl)
    exact absurd (line_inj hl) (by decide)
  cases hp : t.pullRequest <;> cases hp' : t'.pullRequest
  · simp only [pullLines, hp, hp'] at h
    obtain ⟨hb, hi⟩ := pushLines_inj h
    exact ⟨hb, rfl, fun he => hi (he.resolve_left Bool.false_ne_true)⟩
  · simp only [pullLines, hp, hp'] at h
    exact absurd h (hpush t _)
  · simp only [pullLines, hp, hp'] at h
    exact absurd h.symm (hpush t' _)
  · simp only [pullLines, hp, hp'] at h
    have hitem : ∀ items, ∀ l ∈ listLines 2 "paths-ignore" items, 4 ≤ indent l :=
      fun items l hl => (written_of_mem_listLines (by simp) hl).le_indent
    have hhead : ∀ t, ∀ l ∈ (pushLines t).head?, indent l < 4 := by
      intro t l hl
      rw [head?_pushLines hl, indent_line (by simp)]
      decide
    obtain ⟨hpaths, h⟩ := append_inj_of_indent (hitem _) (hitem _) (hhead t) (hhead t')
      (List.cons.inj h).2
    exact ⟨(pushLines_inj h).1, rfl, fun _ => listLines_inj hpaths⟩

/-- Without an enabled trigger the ignored paths decide nothing. -/
theorem verdict_congr (hb : t.branches = t'.branches) (hp : t.pullRequest = t'.pullRequest)
    (hi : t.pullRequest = true ∨ t.branches ≠ [] → t.pathsIgnore = t'.pathsIgnore) (e : RepoEvent)
    (changed : List Path) : t.verdict e changed = t'.verdict e changed := by
  have href : t.refusal? e = t'.refusal? e := by
    rw [Triggers.refusal?, Triggers.refusal?, hb, hp]
  rw [Triggers.verdict, Triggers.verdict, ← href]
  cases hr : t.refusal? e with
  | some verdict => rfl
  | none =>
    have hon : t.pullRequest = true ∨ t.branches ≠ [] := by
      rw [Triggers.refusal?] at hr
      split at hr
      · exact .inr fun hb => by simp [hb] at hr
      · split at hr
        · exact .inl ‹_›
        · cases hr
    rw [Triggers.onlyIgnored, Triggers.onlyIgnored, hi hon]

/-! ### Variables -/

theorem envLine_inj {v v' : String × String} (h : envLine v = envLine v') : v = v' := by
  obtain ⟨key, value⟩ := v
  obtain ⟨key', value'⟩ := v'
  have hl := congrArg String.toList (line_inj h)
  -- The last quote closes the value; the pair of a blank and a quote before it opens it.
  have hpair : ((key.toList ++ [':']) ++ ' ' :: '"' :: escape value.toList) ++ ['"'] =
      ((key'.toList ++ [':']) ++ ' ' :: '"' :: escape value'.toList) ++ ['"'] := by
    simpa [toList_quote] using hl
  obtain ⟨hk, hv⟩ := append_pair_inj' (by decide) not_blank_quote_infix_escape
    not_blank_quote_infix_escape (List.append_cancel_right hpair)
  rw [String.toList_inj.1 (List.append_cancel_right hk), String.toList_inj.1 (escape_inj hv)]

theorem envLines_append_inj {env env' : List (String × String)}
    (h : envLines env ++ line 0 "jobs:" :: rest = envLines env' ++ line 0 "jobs:" :: rest') :
    env = env' ∧ rest = rest' := by
  have hne : line 0 "jobs:" ≠ line 0 "env:" := fun he => absurd (line_inj he) (by decide)
  by_cases he : env = [] <;> by_cases he' : env' = []
  · subst he he'
    exact ⟨rfl, (List.cons.inj h).2⟩
  · subst he
    rw [envLines_of_ne_nil he'] at h
    exact absurd (List.cons.inj h).1 hne
  · subst he'
    rw [envLines_of_ne_nil he] at h
    exact absurd (List.cons.inj h).1.symm hne
  · rw [envLines_of_ne_nil he, envLines_of_ne_nil he'] at h
    have hitem : ∀ env : List (String × String), ∀ l ∈ env.map envLine, 2 ≤ indent l := by
      intro env l hl
      obtain ⟨v, -, rfl⟩ := List.mem_map.1 hl
      exact (written_envLine v).le_indent
    rw [List.cons_append, List.cons_append, List.append_assoc, List.append_assoc] at h
    obtain ⟨hmap, h⟩ := append_inj_of_indent (hitem env) (hitem env') (head?_newline (by decide))
      (head?_newline (by decide)) (List.cons.inj h).2
    exact ⟨(List.map_inj_right fun _ _ => envLine_inj).1 hmap,
      (List.cons.inj (List.cons.inj h).2).2⟩

/-! ### Jobs -/

variable {step step' : Step} {steps steps' : List Step} {j j' : Job} {jobs jobs' : List Job}

theorem inlineLines_inj (hi : ∀ t ∈ items, ¬ [',', ' '] <:+: t.toList)
    (hi' : ∀ t ∈ items', ¬ [',', ' '] <:+: t.toList)
    (h : inlineLines level key items = inlineLines level key items') : items = items' := by
  have hlist : ∀ items : List String, items ≠ [] →
      inlineLines level key items = [line level (key ++ ": " ++ ", ".intercalate items)] := by
    intro items hne
    rw [inlineLines, if_neg (by simpa using hne)]
  by_cases hn : items = [] <;> by_cases hn' : items' = []
  · rw [hn, hn']
  · rw [hlist _ hn', hn] at h; cases h
  · rw [hlist _ hn, hn'] at h; cases h
  · rw [hlist _ hn, hlist _ hn'] at h
    have ht := (String.append_right_inj _).1 (line_inj (List.cons.inj h).1)
    have hl : [',', ' '].intercalate (items.map String.toList) =
        [',', ' '].intercalate (items'.map String.toList) := by
      simpa [String.toList_intercalate] using congrArg String.toList ht
    have hmap := intercalate_pair_inj (by decide) (by simpa using hn) (by simpa using hn')
      (List.forall_mem_map.2 hi) (List.forall_mem_map.2 hi') hl
    exact (List.map_inj_right fun _ _ => String.toList_inj.1).1 hmap

/-- The targets and the components of a toolchain are told apart by their keys. -/
theorem toolchain_lists_inj {ts ts' us us' : List String}
    (h : inlineLines 5 "targets" ts ++ inlineLines 5 "components" us =
      inlineLines 5 "targets" ts' ++ inlineLines 5 "components" us') :
    inlineLines 5 "targets" ts = inlineLines 5 "targets" ts' ∧
      inlineLines 5 "components" us = inlineLines 5 "components" us' := by
  have htargets : ∀ ts, ∀ l ∈ inlineLines 5 "targets" ts,
      ∃ u, l = line 5 ("targets" ++ ": " ++ u) :=
    fun ts l hl => ⟨", ".intercalate ts, eq_of_mem_inlineLines hl⟩
  have hcomponents : ∀ us, ∀ l ∈ (inlineLines 5 "components" us).head?,
      ¬ ∃ u, l = line 5 ("targets" ++ ": " ++ u) := by
    rintro us l hl ⟨u, rfl⟩
    have he := line_inj (eq_of_mem_inlineLines (List.mem_of_mem_head? hl))
    simp [← String.toList_inj] at he
  exact append_inj_of_all (htargets ts) (htargets ts') (hcomponents us) (hcomponents us') h

/-- A step is told by its title and the lines below. -/
theorem step_inj (hs : ∀ t ∈ step.listed, ¬ [',', ' '] <:+: t.toList)
    (hs' : ∀ t ∈ step'.listed, ¬ [',', ' '] <:+: t.toList) (ht : step.title = step'.title)
    (hb : bodyLines step = bodyLines step') : step = step' := by
  -- The first line below the title differs for any two kinds of steps.
  cases step with
  | checkout =>
    cases step' with
    | checkout => rfl
    | _ => exact absurd (line_inj (List.cons.inj hb).1) (by simp [← String.toList_inj])
  | toolchain name targets components =>
    cases step' with
    | toolchain name' targets' components' =>
      obtain ⟨hn, hl⟩ := List.cons.inj (List.cons.inj (List.cons.inj hb).2).2
      obtain ⟨htargets, hcomponents⟩ := toolchain_lists_inj hl
      obtain ⟨hitem, hitem₁⟩ := List.forall_mem_append.1 hs
      obtain ⟨hitem', hitem₁'⟩ := List.forall_mem_append.1 hs'
      rw [(String.append_right_inj _).1 (line_inj hn), inlineLines_inj hitem hitem' htargets,
        inlineLines_inj hitem₁ hitem₁' hcomponents]
    | _ => exact absurd (line_inj (List.cons.inj hb).1) (by simp [← String.toList_inj])
  | tool binary crate =>
    cases step' with
    | tool binary' crate' =>
      have hc := line_inj (List.cons.inj hb).1
      rw [(String.append_right_inj _).1 ((String.append_left_inj _).1 hc),
        (String.append_right_inj _).1 ht]
    | _ => exact absurd (line_inj (List.cons.inj hb).1) (by simp [← String.toList_inj])
  | task title name =>
    cases step' with
    | task title' name' =>
      have hn := line_inj (List.cons.inj hb).1
      rw [show title = title' from ht, (String.append_right_inj _).1 hn]
    | _ => exact absurd (line_inj (List.cons.inj hb).1) (by simp [← String.toList_inj])

theorem steps_inj (hs : ∀ t ∈ steps.flatMap Step.listed, ¬ [',', ' '] <:+: t.toList)
    (hs' : ∀ t ∈ steps'.flatMap Step.listed, ¬ [',', ' '] <:+: t.toList)
    (h : steps.flatMap stepLines = steps'.flatMap stepLines) : steps = steps' := by
  have hhead : ∀ steps : List Step, ∀ l ∈ (steps.flatMap stepLines).head?, indent l < 8 := by
    intro steps l hl
    cases steps with
    | nil => cases hl
    | cons step rest =>
      rw [← Option.some.inj hl, indent_line (by simp)]
      decide
  induction steps generalizing steps' with
  | nil =>
    cases steps' with
    | nil => rfl
    | cons step' rest' => cases h
  | cons step rest ih =>
    cases steps' with
    | nil => cases h
    | cons step' rest' =>
      rw [List.flatMap_cons, stepLines_eq, List.flatMap_cons, stepLines_eq] at h
      obtain ⟨ht, htail⟩ := List.cons.inj h
      obtain ⟨hb, hrest⟩ := append_inj_of_indent
        (fun l hl => (written_of_mem_bodyLines hl).le_indent)
        (fun l hl => (written_of_mem_bodyLines hl).le_indent) (hhead rest) (hhead rest') htail
      rw [List.flatMap_cons, List.forall_mem_append] at hs hs'
      rw [step_inj hs.1 hs'.1 ((String.append_right_inj _).1 (line_inj ht)) hb,
        ih hs.2 hs'.2 hrest]

theorem jobLines_inj (hj : ∀ t ∈ j.listed, ¬ [',', ' '] <:+: t.toList)
    (hj' : ∀ t ∈ j'.listed, ¬ [',', ' '] <:+: t.toList) (h : jobLines j = jobLines j') :
    j = j' := by
  obtain ⟨hid, h⟩ := List.cons.inj h
  obtain ⟨hname, h⟩ := List.cons.inj h
  obtain ⟨hruns, h⟩ := List.cons.inj h
  have hsteps := steps_inj hj hj' (List.cons.inj h).2
  cases j
  cases j'
  exact (Job.mk.injEq ..).mpr ⟨(String.append_left_inj _).1 (line_inj hid),
    (String.append_right_inj _).1 (line_inj hname), (String.append_right_inj _).1 (line_inj hruns),
    hsteps⟩

theorem jobsLines_inj (hj : ∀ t ∈ jobs.flatMap Job.listed, ¬ [',', ' '] <:+: t.toList)
    (hj' : ∀ t ∈ jobs'.flatMap Job.listed, ¬ [',', ' '] <:+: t.toList)
    (h : jobsLines jobs = jobsLines jobs') : jobs = jobs' := by
  have hhead : ∀ rest : List Job, ∀ l ∈ (moreLines rest).head?, indent l < 2 := by
    intro rest l hl
    cases rest with
    | nil => cases hl
    | cons j rest => exact head?_newline (by decide) l hl
  induction jobs generalizing jobs' with
  | nil =>
    cases jobs' with
    | nil => rfl
    | cons j' rest' => rw [jobsLines_cons] at h; cases h
  | cons j rest ih =>
    cases jobs' with
    | nil => rw [jobsLines_cons] at h; cases h
    | cons j' rest' =>
      rw [jobsLines_cons, jobsLines_cons] at h
      obtain ⟨hjob, hmore⟩ := append_inj_of_indent
        (fun l hl => (written_of_mem_jobLines hl).le_indent)
        (fun l hl => (written_of_mem_jobLines hl).le_indent) (hhead rest) (hhead rest') h
      rw [List.flatMap_cons, List.forall_mem_append] at hj hj'
      rw [jobLines_inj hj.1 hj'.1 hjob]
      cases rest with
      | nil =>
        cases rest' with
        | nil => rfl
        | cons j' rest' => cases hmore
      | cons k rest =>
        cases rest' with
        | nil => cases hmore
        | cons k' rest' => rw [ih hj.2 hj'.2 (List.cons.inj hmore).2]

/-! ### The file -/

variable {w w' : Workflow}

theorem concurrencyLines_append_inj {c c' : Concurrency}
    (h : concurrencyLines c ++ rest = concurrencyLines c' ++ rest') : c = c' ∧ rest = rest' := by
  obtain ⟨hgroup, htail⟩ := List.cons.inj (List.cons.inj h).2
  obtain ⟨hcancel, hrest⟩ := List.cons.inj htail
  have hword := (String.append_right_inj _).1 (line_inj hcancel)
  have hflag : c.cancelInProgress = c'.cancelInProgress := by
    cases hc : c.cancelInProgress <;> cases hc' : c'.cancelInProgress <;> rw [hc, hc'] at hword
    · exact absurd hword (by decide)
    · exact absurd hword (by decide)
  cases c
  cases c'
  exact ⟨(Concurrency.mk.injEq ..).mpr ⟨(String.append_right_inj _).1 (line_inj hgroup), hflag⟩,
    hrest⟩

/-- The lines of a workflow file say all that is in the workflow and in use. -/
theorem lines_inj (hl : ∀ t ∈ w.listed, ¬ [',', ' '] <:+: t.toList)
    (hl' : ∀ t ∈ w'.listed, ¬ [',', ' '] <:+: t.toList) (h : w.lines = w'.lines) :
    w.name = w'.name ∧
      (w.triggers.branches = w'.triggers.branches ∧
        w.triggers.pullRequest = w'.triggers.pullRequest ∧
        (w.triggers.pullRequest = true ∨ w.triggers.branches ≠ [] →
          w.triggers.pathsIgnore = w'.triggers.pathsIgnore)) ∧
      w.concurrency = w'.concurrency ∧ w.env = w'.env ∧ w.jobs = w'.jobs := by
  rw [lines_eq, lines_eq] at h
  obtain ⟨hname, h⟩ := List.cons.inj (List.cons.inj h).2
  obtain ⟨htriggers, h⟩ := append_inj_of_indent
    (fun l hl => (written_of_mem_triggers hl).le_indent)
    (fun l hl => (written_of_mem_triggers hl).le_indent) (head?_newline (by decide))
    (head?_newline (by decide)) (List.cons.inj (List.cons.inj h).2).2
  obtain ⟨hconcurrency, h⟩ := concurrencyLines_append_inj (List.cons.inj h).2
  obtain ⟨henv, hjobs⟩ := envLines_append_inj (List.cons.inj h).2
  exact ⟨(String.append_right_inj _).1 (line_inj hname), triggers_inj htriggers, hconcurrency, henv,
    jobsLines_inj hl hl' hjobs⟩

/-- The workflow file determines the workflow, all fields of all steps included, but for the
patterns of ignored paths where no trigger is enabled. Hence it determines which events start a run,
and in which group. -/
theorem render_determines (hw : ∀ t ∈ w.texts, '\n' ∉ t.toList)
    (hw' : ∀ t ∈ w'.texts, '\n' ∉ t.toList) (hl : ∀ t ∈ w.listed, ¬ [',', ' '] <:+: t.toList)
    (hl' : ∀ t ∈ w'.listed, ¬ [',', ' '] <:+: t.toList) (h : w.render = w'.render) :
    (w.name = w'.name ∧ w.triggers.branches = w'.triggers.branches ∧
      w.triggers.pullRequest = w'.triggers.pullRequest ∧ w.concurrency = w'.concurrency ∧
      w.env = w'.env ∧ w.jobs = w'.jobs) ∧
    (w.triggers.pullRequest = true ∨ w.triggers.branches ≠ [] →
      w.triggers.pathsIgnore = w'.triggers.pathsIgnore) ∧
    ∀ e, w.group e = w'.group e ∧
      ∀ changed, w.triggers.verdict e changed = w'.triggers.verdict e changed := by
  have hlines := join_inj (fun l => isLine_of_mem_lines hw) (fun l => isLine_of_mem_lines hw') h
  obtain ⟨hname, ⟨hb, hp, hi⟩, hc, henv, hjobs⟩ := lines_inj hl hl' hlines
  refine ⟨⟨hname, hb, hp, hc, henv, hjobs⟩, hi, fun e => ⟨by rw [group, group, hname, hc], ?_⟩⟩
  exact fun changed => verdict_congr hb hp hi e changed

/-- Without triggers the ignored paths are not written, and are not asked for either. -/
theorem render_determines_untriggered :
    let w : Workflow := ⟨"ci", ⟨[], false, ["docs/**"]⟩, ⟨"g", true⟩, [("SAY", "\"hi\"")],
      [⟨"build", "Build", "linux", [.toolchain "stable" ["wasm32", "x86_64"] [], .task "T" "t"]⟩]⟩
    let w' : Workflow := { w with triggers.pathsIgnore := [] }
    w.render = w'.render ∧ w.triggers.pathsIgnore ≠ w'.triggers.pathsIgnore ∧
      w.triggers.verdict ⟨.push, "refs/heads/main"⟩ ["docs/a"] =
        w'.triggers.verdict ⟨.push, "refs/heads/main"⟩ ["docs/a"] := by
  intro w w'
  have hrender : w.render = w'.render := congrArg String.join (show w.lines = w'.lines from rfl)
  have hone : ∀ t ∈ w.texts, '\n' ∉ t.toList := by decide +kernel
  have hone' : ∀ t ∈ w'.texts, '\n' ∉ t.toList := by decide +kernel
  have hitem : ∀ t ∈ w.listed, ¬ [',', ' '] <:+: t.toList := by decide +kernel
  have h := render_determines hone hone' hitem hitem hrender
  exact ⟨hrender, by decide, (h.2.2 _).2 _⟩

end Workflow

end Slipway
