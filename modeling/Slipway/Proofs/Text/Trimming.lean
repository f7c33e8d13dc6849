import Slipway.Text.Blank
import Mathlib.Data.List.DropRight

/-!
# Trimmed texts

What trimming leaves has nothing more to trim: neither end of it satisfies the property
(`trimmedBy_trimBy`), and a list without such ends is left as it is (`trimBy_eq_self_iff`). Nothing
is left exactly if all elements satisfy it (`trimBy_eq_nil_iff`). Elements that are changed one by
one are trimmed as before if the change keeps the property (`trimBy_map`).
-/

namespace Slipway.Text

section
variable {α β : Type} {p : α → Bool} {l : List α}

/-- Whether neither end of a list satisfies a property. -/
structure TrimmedBy (p : α → Bool) (l : List α) : Prop where
  head : ∀ a ∈ l.head?, p a = false
  last : ∀ a ∈ l.getLast?, p a = false

theorem head?_dropWhile (l : List α) : ∀ a ∈ (l.dropWhile p).head?, p a = false := by
  intro a ha
  have h := List.head?_dropWhile_not p l
  rw [Option.mem_def.1 ha] at h
  exact h

theorem dropWhile_eq_self (h : ∀ a ∈ l.head?, p a = false) : l.dropWhile p = l := by
  cases l with
  | nil => rfl
  | cons a l => exact List.dropWhile_cons_of_neg (by simpa using h a rfl)

theorem trimmedBy_trimBy (p : α → Bool) (l : List α) : TrimmedBy p (trimBy p l) where
  head a ha := by
    obtain ⟨t, ht⟩ : trimBy p l <+: l.dropWhile p := List.rdropWhile_prefix p _
    refine head?_dropWhile l a ?_
    rw [← ht, List.head?_append, Option.mem_def.1 ha]
    rfl
  last a ha := by
    rw [trimBy, List.getLast?_reverse] at ha
    exact head?_dropWhile _ a ha

theorem trimBy_eq_self_iff : trimBy p l = l ↔ TrimmedBy p l := by
  constructor
  · intro h
    rw [← h]
    exact trimmedBy_trimBy p l
  · intro h
    have hlast : ∀ a ∈ l.reverse.head?, p a = false := by
      rw [List.head?_reverse]
      exact h.last
    rw [trimBy, dropWhile_eq_self h.head, dropWhile_eq_self hlast, List.reverse_reverse]

theorem trimBy_trimBy (p : α → Bool) (l : List α) : trimBy p (trimBy p l) = trimBy p l :=
  trimBy_eq_self_iff.2 (trimmedBy_trimBy p l)

theorem trimBy_eq_nil_iff : trimBy p l = [] ↔ ∀ a ∈ l, p a = true := by
  rw [trimBy, List.reverse_eq_nil_iff, List.dropWhile_eq_nil_iff]
  constructor
  · intro h
    rw [← List.dropWhile_eq_nil_iff (p := p)]
    cases hd : l.dropWhile p with
    | nil => rfl
    | cons a rest =>
      have hhead : p a = false := head?_dropWhile l a (by rw [hd]; rfl)
      rw [h a (by rw [hd]; simp)] at hhead
      cases hhead
  · intro h a ha
    exact h a ((List.dropWhile_sublist p).mem (List.mem_reverse.1 ha))

theorem mem_of_mem_trimBy {a : α} (h : a ∈ trimBy p l) : a ∈ l := by
  rw [trimBy, List.mem_reverse] at h
  have hrest : a ∈ (l.dropWhile p).reverse := (List.dropWhile_sublist p).mem h
  exact (List.dropWhile_sublist p).mem (List.mem_reverse.1 hrest)

theorem trimBy_map (p : α → Bool) (f : β → α) (l : List β) :
    trimBy p (l.map f) = (trimBy (p ∘ f) l).map f := by
  rw [trimBy, trimBy, List.dropWhile_map, ← List.map_reverse, List.dropWhile_map,
    ← List.map_reverse]

end

/-! ### Blank characters -/

/-- Whether a text has no blank character at its ends. -/
def Trimmed (s : String) : Prop :=
  TrimmedBy isBlank s.toList

theorem trimmed_trim (s : String) : Trimmed (trim s) := by
  rw [Trimmed, trim, String.toList_ofList]
  exact trimmedBy_trimBy isBlank s.toList

theorem trim_eq_self_iff {s : String} : trim s = s ↔ Trimmed s := by
  rw [Trimmed, ← trimBy_eq_self_iff, ← String.toList_inj, trim, String.toList_ofList]

theorem trim_eq_empty_iff {s : String} : trim s = "" ↔ allBlank s = true := by
  rw [allBlank, List.all_eq_true, ← trimBy_eq_nil_iff, ← String.toList_inj, trim,
    String.toList_ofList]
  rfl

end Slipway.Text
