import Slipway.Proofs.Text.Replacement
import Mathlib.Data.List.Basic

/-!
# Texts with gaps

A text with gaps may be filled at once, or its gaps may be filled with a pattern that is replaced
afterwards. Both give the same if and only if the pattern occurs in the text no more often than
there are gaps (`replaceFrom_fill_iff`): each gap is found, because no occurrence of the pattern
overlaps another one, and what is found besides is replaced as well.
-/

namespace Slipway.Text

variable {x : Char} {pat sub l : List Char} {gapped : List (Option Char)}

/-- A text with each gap filled by `sub`. -/
def fill (sub : List Char) (gapped : List (Option Char)) : List Char :=
  gapped.flatMap fun
    | some c => [c]
    | none => sub

theorem fill_some (sub : List Char) (c : Char) (gapped : List (Option Char)) :
    fill sub (some c :: gapped) = c :: fill sub gapped := rfl

theorem fill_none (sub : List Char) (gapped : List (Option Char)) :
    fill sub (none :: gapped) = sub ++ fill sub gapped := rfl

theorem fill_append (sub : List Char) (gapped gapped' : List (Option Char)) :
    fill sub (gapped ++ gapped') = fill sub gapped ++ fill sub gapped' :=
  List.flatMap_append

theorem fill_map_some (sub l : List Char) : fill sub (l.map some) = l := by
  induction l with
  | nil => rfl
  | cons c l ih => rw [List.map_cons, fill_some, ih]

theorem length_fill (sub : List Char) (gapped : List (Option Char)) :
    (fill sub gapped).length = (fill [] gapped).length + gapped.count none * sub.length := by
  induction gapped with
  | nil => simp [fill]
  | cons m gapped ih =>
    cases m with
    | some c =>
      rw [fill_some, fill_some, List.length_cons, List.length_cons, ih,
        List.count_cons_of_ne (by simp)]
      omega
    | none =>
      rw [fill_none, fill_none, List.length_append, List.nil_append, ih, List.count_cons_self,
        Nat.add_mul, Nat.one_mul]
      omega

/-- A text without the first character of the pattern is not taken from a gap. -/
theorem eq_map_some_of_prefix_fill (hx : x ∉ l) (h : l <+: fill (x :: pat) gapped) :
    ∃ later, gapped = l.map some ++ later := by
  induction l generalizing gapped with
  | nil => exact ⟨gapped, rfl⟩
  | cons c l ih =>
    cases gapped with
    | nil => exact absurd (List.prefix_nil.1 h) (List.cons_ne_nil c l)
    | cons m gapped =>
      cases m with
      | none =>
        obtain ⟨rfl, -⟩ := List.cons_prefix_cons.1 h
        exact absurd List.mem_cons_self hx
      | some d =>
        obtain ⟨rfl, hl⟩ := List.cons_prefix_cons.1 (fill_some _ d gapped ▸ h)
        obtain ⟨later, rfl⟩ := ih (fun hm => hx (List.mem_cons_of_mem c hm)) hl
        exact ⟨later, rfl⟩

/-- One more replacement than there are gaps goes unnoticed only if it changes nothing. -/
theorem eq_of_append_replaceFrom_eq
    (hless : gapped.count none < occurrences pat 0 (fill pat gapped) + 1)
    (h : sub ++ replaceFrom pat sub 0 (fill pat gapped) = pat ++ fill sub gapped) : sub = pat := by
  -- both results have the same length, and so have the two texts that are put in
  have hl := congrArg List.length h
  rw [List.length_append, List.length_append, length_replaceFrom, length_fill sub gapped] at hl
  have hself := length_replaceFrom pat pat 0 (fill pat gapped)
  rw [replaceFrom_self, List.drop_zero, length_fill] at hself
  obtain ⟨more, hmore⟩ := Nat.exists_eq_add_of_le (Nat.le_of_lt_succ hless)
  rw [hmore, Nat.add_mul] at hl hself
  have hlen : (more + 1) * sub.length = (more + 1) * pat.length := by
    rw [Nat.succ_mul, Nat.succ_mul]
    omega
  exact (List.append_inj h (Nat.eq_of_mul_eq_mul_left (Nat.succ_pos more) hlen)).1

/-- Either the pattern is found in the gaps only, or it is found elsewhere too, and then nothing but
the pattern can take its place unnoticed. -/
theorem occurrences_fill_cases (hx : x ∉ pat) (sub : List Char) (gapped : List (Option Char)) :
    (occurrences (x :: pat) 0 (fill (x :: pat) gapped) = gapped.count none ∧
        replaceFrom (x :: pat) sub 0 (fill (x :: pat) gapped) = fill sub gapped) ∨
      (gapped.count none < occurrences (x :: pat) 0 (fill (x :: pat) gapped) ∧
        (replaceFrom (x :: pat) sub 0 (fill (x :: pat) gapped) = fill sub gapped →
          sub = x :: pat)) := by
  have hne : x :: pat ≠ [] := List.cons_ne_nil x pat
  induction hlen : gapped.length using Nat.strongRecOn generalizing gapped with
  | ind k ih =>
  subst hlen
  rcases gapped with _ | ⟨_ | c, gapped⟩
  · exact .inl ⟨rfl, rfl⟩
  · rw [fill_none, fill_none, occurrences_append_self hne, replaceFrom_append_self hne,
      List.count_cons_self]
    rcases ih _ (Nat.lt_succ_self _) gapped rfl with ⟨hocc, hrep⟩ | ⟨hocc, hrep⟩
    · exact .inl ⟨by rw [hocc], by rw [hrep]⟩
    · exact .inr ⟨Nat.succ_lt_succ hocc, fun h => hrep (List.append_cancel_left h)⟩
  · by_cases hp : x :: pat <+: c :: fill (x :: pat) gapped
    · obtain ⟨rfl, hpat⟩ := List.cons_prefix_cons.1 hp
      obtain ⟨later, rfl⟩ := eq_map_some_of_prefix_fill hx hpat
      have hgap : some x :: (pat.map some ++ later) = (x :: pat).map some ++ later := rfl
      rw [hgap, fill_append, fill_append, fill_map_some, fill_map_some, List.count_append,
        List.count_eq_zero.2 (by simp), Nat.zero_add, occurrences_append_self hne,
        replaceFrom_append_self hne]
      have hless : later.count none < occurrences (x :: pat) 0 (fill (x :: pat) later) + 1 := by
        have hshort : later.length < (some x :: (pat.map some ++ later)).length := by
          rw [List.length_cons, List.length_append]
          omega
        rcases ih later.length hshort later rfl with ⟨hocc, -⟩ | ⟨hocc, -⟩
        · omega
        · omega
      exact .inr ⟨hless, eq_of_append_replaceFrom_eq hless⟩
    · rw [fill_some, fill_some, occurrences_cons_of_not_isPrefix hp,
        replaceFrom_cons_of_not_isPrefix hp, List.count_cons_of_ne (by simp)]
      rcases ih _ (Nat.lt_succ_self _) gapped rfl with ⟨hocc, hrep⟩ | ⟨hocc, hrep⟩
      · exact .inl ⟨hocc, by rw [hrep]⟩
      · exact .inr ⟨hocc, fun h => hrep (List.cons.inj h).2⟩

theorem replaceFrom_fill_iff (hx : x ∉ pat) (sub : List Char) (gapped : List (Option Char)) :
    replaceFrom (x :: pat) sub 0 (fill (x :: pat) gapped) = fill sub gapped ↔
      sub = x :: pat ∨
        occurrences (x :: pat) 0 (fill (x :: pat) gapped) = gapped.count none := by
  rcases occurrences_fill_cases hx sub gapped with ⟨hocc, hrep⟩ | ⟨hocc, hrep⟩
  · exact ⟨fun _ => .inr hocc, fun _ => hrep⟩
  · refine ⟨fun h => .inl (hrep h), ?_⟩
    rintro (rfl | h)
    · exact replaceFrom_self (x :: pat) 0 _
    · exact absurd h (Nat.ne_of_gt hocc)

end Slipway.Text
