import Slipway.Concurrency.Group
import Slipway.Proofs.Text.Gaps

/-!
# What is put in for a placeholder

A template of a group may be read in one pass: its parts are the placeholders and all other
characters (`Concurrency.parts`), and the group is what stands for each of them
(`Concurrency.expand`). The name of the workflow is put in for the placeholders of the template and
for no others. With the ref it is different: when it is put in, the name already stands in the text,
and a placeholder that the name holds, or that it completes together with the text around it, is
replaced too. The group is that of one pass exactly if the name brings no such placeholder about
(`Concurrency.resolve_eq_expand_iff`).
-/

namespace Slipway.Concurrency

/-- A placeholder or any other character. -/
inductive Part where
  | char (c : Char)
  | workflow
  | ref
  deriving Repr, DecidableEq

/-- The first `skip` characters belong to a placeholder that has been read before. -/
def partsFrom : (skip : Nat) → List Char → List Part
  | _, [] => []
  | skip + 1, _ :: xs => partsFrom skip xs
  | 0, x :: xs =>
    if workflowPlaceholder.toList.isPrefixOf (x :: xs) then
      .workflow :: partsFrom (workflowPlaceholder.length - 1) xs
    else if refPlaceholder.toList.isPrefixOf (x :: xs) then
      .ref :: partsFrom (refPlaceholder.length - 1) xs
    else .char x :: partsFrom 0 xs

/-- The parts of the template, in one pass from left to right. -/
def parts (c : Concurrency) : List Part :=
  partsFrom 0 c.group.toList

/-- What stands for a part. -/
def Part.text (workflow gitRef : String) : Part → List Char
  | .char c => [c]
  | .workflow => workflow.toList
  | .ref => gitRef.toList

/-- The template with the name and the ref put in at once. What is put in stays as it is. -/
def expand (c : Concurrency) (workflow gitRef : String) : String :=
  String.ofList (c.parts.flatMap (Part.text workflow gitRef))

example : (Concurrency.mk (workflowPlaceholder ++ "/" ++ refPlaceholder) true).expand
    refPlaceholder "main" = refPlaceholder ++ "/main" := by decide

variable {c : Concurrency} {workflow gitRef : String}

/-! ### The placeholders -/

/-- The first character of the placeholders stands nowhere else in them. -/
theorem exists_toList_workflowPlaceholder :
    ∃ rest, workflowPlaceholder.toList = '$' :: rest ∧ '$' ∉ rest :=
  ⟨workflowPlaceholder.toList.tail, by decide, by decide⟩

theorem exists_toList_refPlaceholder :
    ∃ rest, refPlaceholder.toList = '$' :: rest ∧ '$' ∉ rest :=
  ⟨refPlaceholder.toList.tail, by decide, by decide⟩

/-- Putting the name in leaves the placeholders of the ref alone. -/
theorem replaceFrom_append_refPlaceholder (workflow : String) (r : List Char) :
    Text.replaceFrom workflowPlaceholder.toList workflow.toList 0 (refPlaceholder.toList ++ r) =
      refPlaceholder.toList ++
        Text.replaceFrom workflowPlaceholder.toList workflow.toList 0 r := by
  obtain ⟨rest, hrest, -⟩ := exists_toList_workflowPlaceholder
  obtain ⟨rest', hrest', hnot⟩ := exists_toList_refPlaceholder
  have hdiff : ¬ workflowPlaceholder.toList <+: refPlaceholder.toList ++ r := by
    intro h
    have htake : (workflowPlaceholder.toList.take 12) <+: refPlaceholder.toList ++ r :=
      (List.take_prefix _ _).trans h
    have hshort : workflowPlaceholder.toList.take 12 <+: refPlaceholder.toList :=
      List.prefix_of_prefix_length_le htake (List.prefix_append _ _) (by decide)
    exact absurd hshort (by decide)
  rw [hrest', List.cons_append] at hdiff ⊢
  rw [Text.replaceFrom_cons_of_not_isPrefix hdiff, hrest,
    Text.replaceFrom_append_of_not_mem hnot, List.cons_append]

/-! ### The name -/

/-- What the parts say with the name put in and gaps for the ref. -/
def Part.gapped (workflow : String) : Part → List (Option Char)
  | .char c => [some c]
  | .workflow => workflow.toList.map some
  | .ref => [none]

theorem fill_gapped (parts : List Part) :
    Text.fill gitRef.toList (parts.flatMap (Part.gapped workflow)) =
      parts.flatMap (Part.text workflow gitRef) := by
  induction parts with
  | nil => rfl
  | cons part parts ih =>
    rw [List.flatMap_cons, List.flatMap_cons, Text.fill_append, ih]
    cases part with
    | char c => rfl
    | workflow => rw [Part.gapped, Text.fill_map_some]; rfl
    | ref => rw [Part.gapped, Text.fill_none]; simp [Text.fill, Part.text]

theorem count_gapped (parts : List Part) :
    (parts.flatMap (Part.gapped workflow)).count none = parts.count .ref := by
  induction parts with
  | nil => rfl
  | cons part parts ih =>
    rw [List.flatMap_cons, List.count_append, ih]
    cases part with
    | char c => simp [Part.gapped]
    | workflow =>
      have hzero : (workflow.toList.map some).count none = 0 := List.count_eq_zero.2 (by simp)
      rw [Part.gapped, hzero]
      simp
    | ref => simp [Part.gapped, Nat.add_comm]

/-- The name takes the place of the template's own placeholders. -/
theorem replaceFrom_workflow (workflow : String) (n : Nat) (l : List Char) :
    Text.replaceFrom workflowPlaceholder.toList workflow.toList n l =
      (partsFrom n l).flatMap (Part.text workflow refPlaceholder) := by
  induction l generalizing n with
  | nil => cases n <;> rfl
  | cons x xs ih =>
    cases n with
    | succ n => exact ih n
    | zero =>
      rw [partsFrom]
      split
      · next hw =>
        rw [Text.replaceFrom, if_pos ⟨by decide, hw⟩, List.flatMap_cons, ← ih]
        rfl
      · next hw =>
        have hnot : ¬ workflowPlaceholder.toList <+: x :: xs := fun h =>
          hw (List.isPrefixOf_iff_prefix.2 h)
        split
        · next hr =>
          obtain ⟨r, hr⟩ := List.isPrefixOf_iff_prefix.1 hr
          obtain ⟨rest, hrest, -⟩ := exists_toList_refPlaceholder
          have hdrop : xs.drop (refPlaceholder.length - 1) = r := by
            rw [hrest, List.cons_append] at hr
            obtain ⟨-, rfl⟩ := List.cons.inj hr
            rw [← String.length_toList, hrest]
            simp
          rw [← hr, replaceFrom_append_refPlaceholder, List.flatMap_cons, ← ih,
            Text.replaceFrom_eq_drop _ _ (refPlaceholder.length - 1), hdrop]
          rfl
        · rw [Text.replaceFrom_cons_of_not_isPrefix hnot, List.flatMap_cons, ← ih]
          rfl

theorem resolve_eq (c : Concurrency) (workflow gitRef : String) :
    c.resolve workflow gitRef =
      Text.replaceAll refPlaceholder gitRef (c.expand workflow refPlaceholder) := by
  rw [resolve, Text.replaceAll, Text.replaceAll, Text.replaceAll, String.toList_ofList,
    replaceFrom_workflow, expand, parts, String.toList_ofList]

/-! ### The ref -/

theorem parts_perRef (cancel : Bool) :
    (perRef cancel).parts = [.workflow, .char '-', .ref] := by
  cases cancel <;> decide

theorem expand_perRef (cancel : Bool) (workflow gitRef : String) :
    (perRef cancel).expand workflow gitRef = workflow ++ "-" ++ gitRef := by
  rw [expand, parts_perRef, ← String.toList_inj, String.toList_ofList]
  simp [Part.text]

theorem occurrences_expand_perRef (cancel : Bool) (workflow : String) :
    Text.occurrences refPlaceholder.toList 0
        ((perRef cancel).expand workflow refPlaceholder).toList =
      Text.occurrences refPlaceholder.toList 0 workflow.toList + 1 := by
  have htext : (workflow ++ "-" ++ refPlaceholder).toList =
      workflow.toList ++ '-' :: refPlaceholder.toList := by simp
  have hone : Text.occurrences refPlaceholder.toList 0 refPlaceholder.toList = 1 := by decide
  rw [expand_perRef, htext, Text.occurrences_append_cons (by decide) (by decide) _ (Nat.zero_le _),
    hone]

/-- The name stands for the placeholders of the template only, and the ref for all placeholders in
what this gives. The group is the one of a single pass over the template exactly if these are the
placeholders of the template, no more, or if the ref is itself written as the placeholder. For the
template of a standard workflow this means that the name of the workflow holds none. -/
theorem resolve_eq_expand_iff (c : Concurrency) (workflow gitRef : String) :
    c.resolve workflow gitRef =
        Text.replaceAll refPlaceholder gitRef (c.expand workflow refPlaceholder) ∧
      (c.resolve workflow gitRef = c.expand workflow gitRef ↔
        gitRef = refPlaceholder ∨
          Text.occurrences refPlaceholder.toList 0 (c.expand workflow refPlaceholder).toList =
            c.parts.count .ref) ∧
      ∀ cancel, (perRef cancel).resolve workflow gitRef = workflow ++ "-" ++ gitRef ↔
        gitRef = refPlaceholder ∨ ¬ refPlaceholder.toList <:+: workflow.toList := by
  have hiff : ∀ c : Concurrency, c.resolve workflow gitRef = c.expand workflow gitRef ↔
      gitRef = refPlaceholder ∨
        Text.occurrences refPlaceholder.toList 0 (c.expand workflow refPlaceholder).toList =
          c.parts.count .ref := by
    intro c
    obtain ⟨rest, hrest, hnot⟩ := exists_toList_refPlaceholder
    have hgaps : (c.parts.flatMap (Part.gapped workflow)).count none = c.parts.count .ref :=
      count_gapped c.parts
    rw [resolve_eq, Text.replaceAll, expand, expand, String.ofList_inj, String.toList_ofList,
      ← fill_gapped, ← fill_gapped, ← hgaps, hrest, Text.replaceFrom_fill_iff hnot, ← hrest,
      String.toList_inj]
  refine ⟨resolve_eq c workflow gitRef, hiff c, fun cancel => ?_⟩
  have hcount : (perRef cancel).parts.count .ref = 1 := by rw [parts_perRef]; rfl
  rw [← expand_perRef cancel, hiff, occurrences_expand_perRef, hcount, Nat.add_eq_right,
    Text.occurrences_eq_zero_iff (by decide)]

/-- A name that asks for the ref is expanded although the template does not ask for it. -/
theorem not_resolve_eq_expand :
    ¬ ∀ (c : Concurrency) (workflow gitRef : String),
        c.resolve workflow gitRef = c.expand workflow gitRef := by
  intro h
  have hname := h ⟨workflowPlaceholder, true⟩ refPlaceholder "main"
  exact absurd hname (by decide)

end Slipway.Concurrency
