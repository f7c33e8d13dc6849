import Slipway.Trigger
import Mathlib.Tactic.Tauto

/-!
# Triggers as sets

A verdict depends on which branch patterns, ignore patterns and changed paths there are, not on
their order or number (`verdict_congr`). `refusal?` and `onlyIgnored` are monotone in each of these
sets (`refusal?_eq_none_mono`, `onlyIgnored_anti`, `onlyIgnored_mono`), and the verdict is read off
from both (`verdict_eq_run_iff`, `verdict_eq_onlyIgnoredPaths_iff`). An empty set of changes is the
exception: it is never ignored, so a first path may well turn a run into a skip.
-/

namespace Slipway

namespace Glob

variable {l l' : List String} {text : String}

theorem fitsAny_iff : fitsAny l text = true ↔ ∃ p ∈ l, fits p text = true :=
  List.any_eq_true

theorem fitsAny_mono (h : l ⊆ l') (hl : fitsAny l text = true) : fitsAny l' text = true := by
  obtain ⟨p, hp, hfits⟩ := fitsAny_iff.1 hl
  exact fitsAny_iff.2 ⟨p, h hp, hfits⟩

theorem fitsAny_congr (h : ∀ p, p ∈ l ↔ p ∈ l') (text : String) :
    fitsAny l text = fitsAny l' text := by
  rw [Bool.eq_iff_iff]
  exact ⟨fitsAny_mono fun p hp => (h p).1 hp, fitsAny_mono fun p hp => (h p).2 hp⟩

end Glob

namespace Triggers

variable {t t' : Triggers} {e : RepoEvent} {changed changed' : List Path}

/-! ### How a verdict is made -/

theorem refusal?_cases (t : Triggers) (e : RepoEvent) :
    t.refusal? e = none ∨ t.refusal? e = some .branchNotWatched ∨
      t.refusal? e = some .eventNotEnabled := by
  unfold refusal?
  split
  · split
    · exact .inr (.inr rfl)
    · split
      · exact .inl rfl
      · exact .inr (.inl rfl)
  · split
    · exact .inl rfl
    · exact .inr (.inr rfl)

/-- The event is refused first; only then are the paths looked at. -/
theorem verdict_cases (t : Triggers) (e : RepoEvent) (changed : List Path) :
    (t.refusal? e = none ∧ t.onlyIgnored changed = false ∧ t.verdict e changed = .run) ∨
    (t.refusal? e = none ∧ t.onlyIgnored changed = true ∧
      t.verdict e changed = .onlyIgnoredPaths) ∨
    (t.refusal? e = some .branchNotWatched ∧ t.verdict e changed = .branchNotWatched) ∨
    (t.refusal? e = some .eventNotEnabled ∧ t.verdict e changed = .eventNotEnabled) := by
  rcases t.refusal?_cases e with h | h | h
  · cases hi : t.onlyIgnored changed <;> simp [verdict, h, hi]
  · simp [verdict, h]
  · simp [verdict, h]

theorem verdict_eq_run_iff :
    t.verdict e changed = .run ↔ t.refusal? e = none ∧ t.onlyIgnored changed = false := by
  rcases t.verdict_cases e changed with ⟨h, hi, hv⟩ | ⟨h, hi, hv⟩ | ⟨h, hv⟩ | ⟨h, hv⟩ <;>
    simp_all

theorem verdict_eq_onlyIgnoredPaths_iff :
    t.verdict e changed = .onlyIgnoredPaths ↔
      t.refusal? e = none ∧ t.onlyIgnored changed = true := by
  rcases t.verdict_cases e changed with ⟨h, hi, hv⟩ | ⟨h, hi, hv⟩ | ⟨h, hv⟩ | ⟨h, hv⟩ <;>
    simp_all

theorem refusal?_eq_none_iff_verdict (changed : List Path) :
    t.refusal? e = none ↔ t.verdict e changed = .run ∨ t.verdict e changed = .onlyIgnoredPaths := by
  rcases t.verdict_cases e changed with ⟨h, hi, hv⟩ | ⟨h, hi, hv⟩ | ⟨h, hv⟩ | ⟨h, hv⟩ <;>
    simp [h, hv]

/-- A push needs a branch that is watched, a pull request the switch. -/
theorem refusal?_eq_none_iff :
    t.refusal? e = none ↔
      (e.kind = .push ∧ ∃ b, e.branch? = some b ∧ Glob.fitsAny t.branches b = true) ∨
        (e.kind = .pullRequest ∧ t.pullRequest = true) := by
  unfold refusal?
  cases e.kind with
  | pullRequest => simp
  | push =>
    cases hb : t.branches with
    | nil => simp [Glob.fitsAny]
    | cons p branches => simp [Option.any_eq_true]

theorem onlyIgnored_iff :
    t.onlyIgnored changed = true ↔
      changed ≠ [] ∧ ∀ path ∈ changed, Glob.fitsAny t.pathsIgnore path = true := by
  simp [onlyIgnored]

/-! ### More patterns, more paths -/

theorem refusal?_eq_none_mono (hb : t.branches ⊆ t'.branches) (hp : t.pullRequest = t'.pullRequest)
    (h : t.refusal? e = none) : t'.refusal? e = none := by
  rw [refusal?_eq_none_iff] at h ⊢
  rcases h with ⟨hk, b, hbranch, hfits⟩ | ⟨hk, hpull⟩
  · exact .inl ⟨hk, b, hbranch, Glob.fitsAny_mono hb hfits⟩
  · exact .inr ⟨hk, hp ▸ hpull⟩

/-- More paths are less likely to be ignored, unless there were none. -/
theorem onlyIgnored_anti (hne : changed ≠ []) (hc : changed ⊆ changed')
    (h : t.onlyIgnored changed' = true) : t.onlyIgnored changed = true := by
  obtain ⟨-, hall⟩ := onlyIgnored_iff.1 h
  exact onlyIgnored_iff.2 ⟨hne, fun path hpath => hall path (hc hpath)⟩

theorem onlyIgnored_mono (hi : t.pathsIgnore ⊆ t'.pathsIgnore)
    (h : t.onlyIgnored changed = true) : t'.onlyIgnored changed = true := by
  obtain ⟨hne, hall⟩ := onlyIgnored_iff.1 h
  exact onlyIgnored_iff.2 ⟨hne, fun path hpath => Glob.fitsAny_mono hi (hall path hpath)⟩

/-! ### Order and repetition -/

/-- Triggers with the same patterns, in another order or repeated. -/
structure SameSets (t t' : Triggers) : Prop where
  branches : ∀ p, p ∈ t.branches ↔ p ∈ t'.branches
  pullRequest : t.pullRequest = t'.pullRequest
  pathsIgnore : ∀ p, p ∈ t.pathsIgnore ↔ p ∈ t'.pathsIgnore

theorem isEmpty_congr {α : Type} {l l' : List α} (h : ∀ x, x ∈ l ↔ x ∈ l') :
    l.isEmpty = l'.isEmpty := by
  rw [Bool.eq_iff_iff, List.isEmpty_iff, List.isEmpty_iff, List.eq_nil_iff_forall_not_mem,
    List.eq_nil_iff_forall_not_mem]
  exact forall_congr' fun x => by rw [h x]

theorem verdict_congr (h : t.SameSets t') (hc : ∀ path, path ∈ changed ↔ path ∈ changed') :
    t.verdict e changed = t'.verdict e changed' := by
  have hrefusal : t.refusal? e = t'.refusal? e := by
    have hfits : Glob.fitsAny t.branches = Glob.fitsAny t'.branches :=
      funext (Glob.fitsAny_congr h.branches)
    simp only [refusal?, isEmpty_congr h.branches, hfits, h.pullRequest]
  have hignored : t.onlyIgnored changed = t'.onlyIgnored changed' := by
    have hfits : Glob.fitsAny t.pathsIgnore = Glob.fitsAny t'.pathsIgnore :=
      funext (Glob.fitsAny_congr h.pathsIgnore)
    have hall : changed.all (Glob.fitsAny t'.pathsIgnore) =
        changed'.all (Glob.fitsAny t'.pathsIgnore) := by
      rw [Bool.eq_iff_iff, List.all_eq_true, List.all_eq_true]
      exact forall_congr' fun path => by rw [hc path]
    rw [onlyIgnored, onlyIgnored, isEmpty_congr hc, hfits, hall]
  simp only [verdict, hrefusal, hignored]

/-! ### Monotone verdicts -/

/-- Verdicts depend on sets of patterns and paths only. More paths never keep an event from running
if there were any, more ignore patterns never let one run, and more branch patterns never refuse one
that was admitted. An event is passed over for its paths only if it has some and all are ignored. -/
theorem verdict_sets (t : Triggers) (e : RepoEvent) (changed : List Path) :
    (∀ t' changed', t.SameSets t' → (∀ path, path ∈ changed ↔ path ∈ changed') →
      t'.verdict e changed' = t.verdict e changed) ∧
    (∀ changed', changed ≠ [] → changed ⊆ changed' →
      t.verdict e changed = .run → t.verdict e changed' = .run) ∧
    (∀ ignored, t.pathsIgnore ⊆ ignored →
      t.verdict e changed ≠ .run → { t with pathsIgnore := ignored }.verdict e changed ≠ .run) ∧
    (∀ branches, t.branches ⊆ branches →
      t.verdict e changed = .run ∨ t.verdict e changed = .onlyIgnoredPaths →
      { t with branches := branches }.verdict e changed ≠ .branchNotWatched ∧
        { t with branches := branches }.verdict e changed ≠ .eventNotEnabled) ∧
    (changed = [] ∨ (∃ path ∈ changed, ∀ p ∈ t.pathsIgnore, Glob.fits p path ≠ true) →
      t.verdict e changed ≠ .onlyIgnoredPaths) := by
  refine ⟨?_, ?_, ?_, ?_, ?_⟩
  · intro t' changed' ht hc
    exact (verdict_congr ht hc).symm
  · intro changed' hne hc hrun
    obtain ⟨hrefusal, hignored⟩ := verdict_eq_run_iff.1 hrun
    refine verdict_eq_run_iff.2 ⟨hrefusal, Bool.eq_false_iff.2 fun h => ?_⟩
    rw [onlyIgnored_anti hne hc h] at hignored
    cases hignored
  · intro ignored hi hskip hrun
    obtain ⟨hrefusal, hignored⟩ := verdict_eq_run_iff.1 hrun
    have hfew : t.onlyIgnored changed = false := Bool.eq_false_iff.2 fun h => by
      rw [onlyIgnored_mono hi h] at hignored
      cases hignored
    exact hskip (verdict_eq_run_iff.2 ⟨hrefusal, hfew⟩)
  · intro branches hb hadmitted
    have hrefusal := (refusal?_eq_none_iff_verdict changed).2 hadmitted
    have hmore : { t with branches := branches }.refusal? e = none :=
      refusal?_eq_none_mono hb rfl hrefusal
    rcases (refusal?_eq_none_iff_verdict changed).1 hmore with hv | hv <;> simp [hv]
  · intro h hskip
    obtain ⟨hne, hall⟩ := onlyIgnored_iff.1 (verdict_eq_onlyIgnoredPaths_iff.1 hskip).2
    rcases h with rfl | ⟨path, hpath, hnone⟩
    · exact hne rfl
    · obtain ⟨p, hp, hfits⟩ := Glob.fitsAny_iff.1 (hall path hpath)
      exact hnone p hp hfits

theorem verdict_sets_main :
    let t : Triggers := ⟨["main"], true, ["docs/**"]⟩
    let e : RepoEvent := ⟨.push, "refs/heads/main"⟩
    Triggers.verdict ⟨["main", "main"], true, ["docs/**"]⟩ e ["docs/a", "src/b", "docs/a"] =
        t.verdict e ["src/b", "docs/a"] ∧
      t.verdict e ["src/b", "docs/a"] = .run ∧
      Triggers.verdict ⟨["main"], true, ["src/*", "docs/**"]⟩ e ["docs/a"] ≠ .run ∧
      Triggers.verdict ⟨["v*", "main"], true, ["docs/**"]⟩ e ["docs/a"] ≠ .branchNotWatched ∧
      t.verdict e ["docs/a", "src/b"] ≠ .onlyIgnoredPaths ∧ t.verdict e [] ≠ .onlyIgnoredPaths := by
  intro t e
  have hdocs : t.verdict e ["docs/a"] = .onlyIgnoredPaths := by decide +kernel
  have hsrc : t.verdict e ["src/b"] = .run := by decide +kernel
  refine ⟨?_, ?_, ?_, ?_, ?_, ?_⟩
  · refine (verdict_sets t e ["src/b", "docs/a"]).1 _ _ ⟨?_, rfl, fun _ => Iff.rfl⟩ ?_
    · simp [t]
    · intro path
      simp only [List.mem_cons, List.not_mem_nil]
      tauto
  · exact (verdict_sets t e ["src/b"]).2.1 _ (by simp) (by simp) hsrc
  · exact (verdict_sets t e ["docs/a"]).2.2.1 _ (by simp [t]) (by simp [hdocs])
  · exact ((verdict_sets t e ["docs/a"]).2.2.2.1 _ (by simp [t]) (.inr hdocs)).1
  · refine (verdict_sets t e ["docs/a", "src/b"]).2.2.2.2 (.inr ⟨"src/b", by simp, ?_⟩)
    intro p hp
    rw [List.mem_singleton.1 hp]
    decide +kernel
  · exact (verdict_sets t e []).2.2.2.2 (.inl rfl)

end Triggers

end Slipway
