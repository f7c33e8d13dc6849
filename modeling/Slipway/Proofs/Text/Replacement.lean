import Slipway.Text.Search

/-!
# What was put in for a pattern

Replacing a pattern that occurs in a text loses nothing of what is put in: two replacements that
give the same text are the same (`replaceFrom_inj`). Each occurrence adds the length of the
replacement once (`length_replaceFrom`), so both replacements are equally long, and the first of
them stands at the same place in both results.

The occurrences of two texts add up if a character between them is not in the pattern
(`occurrences_append_cons`), and no occurrence starts in a text that lacks the first character of
the pattern (`replaceFrom_append_of_not_mem`).
-/

namespace Slipway.Text

/-- How often one pass from left to right finds the pattern. As in `replaceFrom`, the first `skip`
characters belong to an occurrence that was found before. -/
def occurrences (pat : List Char) : (skip : Nat) → List Char → Nat
  | _, [] => 0
  | skip + 1, _ :: xs => occurrences pat skip xs
  | 0, x :: xs =>
    if pat ≠ [] ∧ pat.isPrefixOf (x :: xs) then occurrences pat (pat.length - 1) xs + 1
    else occurrences pat 0 xs

variable {pat sub sub' l : List Char} {n : Nat}

theorem length_replaceFrom (pat sub : List Char) (n : Nat) (l : List Char) :
    (replaceFrom pat sub n l).length =
      (replaceFrom pat [] n l).length + occurrences pat n l * sub.length := by
  induction l generalizing n with
  | nil => simp [replaceFrom, occurrences]
  | cons x xs ih =>
    cases n with
    | succ n => rw [replaceFrom, replaceFrom, occurrences, ih]
    | zero =>
      rw [replaceFrom, replaceFrom, occurrences]
      split
      · rw [List.length_append, ih, List.nil_append, Nat.add_mul, Nat.one_mul]
        omega
      · rw [List.length_cons, List.length_cons, ih]
        omega

theorem replaceFrom_of_occurrences_eq_zero (h : occurrences pat 0 l = 0) :
    replaceFrom pat sub 0 l = l := by
  induction l with
  | nil => rfl
  | cons x xs ih =>
    rw [occurrences] at h
    rw [replaceFrom]
    split at h
    · cases h
    · next hp => rw [if_neg hp, ih h]

theorem replaceFrom_append_self (hne : pat ≠ []) (sub r : List Char) :
    replaceFrom pat sub 0 (pat ++ r) = sub ++ replaceFrom pat sub 0 r := by
  obtain ⟨x, xs, rfl⟩ := List.exists_cons_of_ne_nil hne
  have hp : (x :: xs).isPrefixOf (x :: (xs ++ r)) = true :=
    List.isPrefixOf_iff_prefix.2 ⟨r, rfl⟩
  rw [List.cons_append, replaceFrom, if_pos ⟨hne, hp⟩, replaceFrom_eq_drop]
  simp

theorem replaceFrom_self (pat : List Char) (n : Nat) (l : List Char) :
    replaceFrom pat pat n l = l.drop n := by
  induction l generalizing n with
  | nil => cases n <;> rfl
  | cons x xs ih =>
    cases n with
    | succ n => exact ih n
    | zero =>
      rw [replaceFrom]
      split
      · next h =>
        obtain ⟨r, hr⟩ := List.isPrefixOf_iff_prefix.1 h.2
        obtain ⟨y, ys, rfl⟩ := List.exists_cons_of_ne_nil h.1
        obtain ⟨rfl, rfl⟩ := List.cons.inj hr
        rw [ih]
        simp
      · rw [ih]; rfl

/-- What is put in for a pattern that occurs can be read off the result. -/
theorem replaceFrom_inj (hocc : 0 < occurrences pat n l)
    (h : replaceFrom pat sub n l = replaceFrom pat sub' n l) : sub = sub' := by
  have hlen : sub.length = sub'.length := by
    have hmul := congrArg List.length h
    rw [length_replaceFrom, length_replaceFrom pat sub', Nat.add_left_cancel_iff] at hmul
    exact Nat.eq_of_mul_eq_mul_left hocc hmul
  induction l generalizing n with
  | nil => exact absurd hocc (Nat.lt_irrefl 0)
  | cons x xs ih =>
    cases n with
    | succ n => exact ih hocc h
    | zero =>
      rw [occurrences] at hocc
      rw [replaceFrom, replaceFrom] at h
      split at h
      · exact (List.append_inj h hlen).1
      · next hp =>
        rw [if_neg hp] at hocc
        exact ih hocc (List.cons.inj h).2

theorem occurrences_eq_drop (pat : List Char) (n : Nat) (l : List Char) :
    occurrences pat n l = occurrences pat 0 (l.drop n) := by
  induction l generalizing n with
  | nil => cases n <;> simp [occurrences]
  | cons x xs ih =>
    cases n with
    | zero => rfl
    | succ n => simpa [occurrences] using ih n

theorem occurrences_append_self (hne : pat ≠ []) (r : List Char) :
    occurrences pat 0 (pat ++ r) = occurrences pat 0 r + 1 := by
  obtain ⟨x, xs, rfl⟩ := List.exists_cons_of_ne_nil hne
  have hp : (x :: xs).isPrefixOf (x :: (xs ++ r)) = true :=
    List.isPrefixOf_iff_prefix.2 ⟨r, rfl⟩
  rw [List.cons_append, occurrences, if_pos ⟨hne, hp⟩, occurrences_eq_drop]
  simp

/-- A pattern that stands anywhere in a text is found, there or before. -/
theorem occurrences_append_pos (hne : pat ≠ []) (l r : List Char) :
    0 < occurrences pat 0 (l ++ (pat ++ r)) := by
  induction l with
  | nil =>
    rw [List.nil_append, occurrences_append_self hne]
    exact Nat.succ_pos _
  | cons x xs ih =>
    rw [List.cons_append, occurrences]
    split
    · exact Nat.succ_pos _
    · exact ih

/-! ### Where the pattern does not start -/

theorem occurrences_cons_of_not_isPrefix {x : Char} {xs : List Char} (h : ¬ pat <+: x :: xs) :
    occurrences pat 0 (x :: xs) = occurrences pat 0 xs := by
  rw [occurrences, if_neg fun hp => h (List.isPrefixOf_iff_prefix.1 hp.2)]

theorem replaceFrom_cons_of_not_isPrefix {x : Char} {xs : List Char} (h : ¬ pat <+: x :: xs) :
    replaceFrom pat sub 0 (x :: xs) = x :: replaceFrom pat sub 0 xs := by
  rw [replaceFrom, if_neg fun hp => h (List.isPrefixOf_iff_prefix.1 hp.2)]

theorem occurrences_eq_zero_iff (hne : pat ≠ []) : occurrences pat 0 l = 0 ↔ ¬ pat <:+: l := by
  constructor
  · rintro h ⟨before, later, rfl⟩
    have hpos := occurrences_append_pos hne before later
    rw [← List.append_assoc, h] at hpos
    exact Nat.lt_irrefl 0 hpos
  · intro h
    induction l with
    | nil => rfl
    | cons x xs ih =>
      rw [occurrences_cons_of_not_isPrefix fun hp => h hp.isInfix]
      exact ih fun hi => h (hi.trans (List.suffix_cons x xs).isInfix)

theorem prefix_of_prefix_append_cons {d : Char} {r : List Char} (hd : d ∉ pat)
    (h : pat <+: l ++ d :: r) : pat <+: l := by
  rcases Nat.lt_or_ge l.length pat.length with hlen | hlen
  · have hl : l ++ [d] <+: l ++ d :: r := ⟨r, by simp⟩
    have hpat : l ++ [d] <+: pat := List.prefix_of_prefix_length_le hl h (by simp; omega)
    exact absurd (hpat.mem (by simp)) hd
  · exact List.prefix_of_prefix_length_le h (List.prefix_append l _) hlen

/-- No occurrence reaches over a character that is not in the pattern. -/
theorem occurrences_append_cons {d : Char} (hne : pat ≠ []) (hd : d ∉ pat) (r : List Char)
    (hn : n ≤ l.length) :
    occurrences pat n (l ++ d :: r) = occurrences pat n l + occurrences pat 0 r := by
  induction l generalizing n with
  | nil =>
    obtain rfl : n = 0 := Nat.le_zero.1 hn
    have hp : ¬ pat <+: d :: r := by
      intro hp
      obtain ⟨y, ys, rfl⟩ := List.exists_cons_of_ne_nil hne
      obtain ⟨rfl, -⟩ := List.cons_prefix_cons.1 hp
      exact hd List.mem_cons_self
    rw [List.nil_append, occurrences_cons_of_not_isPrefix hp, occurrences, Nat.zero_add]
  | cons x xs ih =>
    cases n with
    | succ n => exact ih (Nat.le_of_succ_le_succ hn)
    | zero =>
      have hiff : pat <+: x :: (xs ++ d :: r) ↔ pat <+: x :: xs :=
        ⟨prefix_of_prefix_append_cons (l := x :: xs) hd, fun hp => hp.trans ⟨d :: r, rfl⟩⟩
      by_cases hp : pat <+: x :: xs
      · have hlen : pat.length - 1 ≤ xs.length := by
          have := hp.length_le
          simp only [List.length_cons] at this
          omega
        rw [List.cons_append, occurrences, occurrences,
          if_pos ⟨hne, List.isPrefixOf_iff_prefix.2 (hiff.2 hp)⟩,
          if_pos ⟨hne, List.isPrefixOf_iff_prefix.2 hp⟩, ih hlen]
        omega
      · rw [List.cons_append, occurrences_cons_of_not_isPrefix (mt hiff.1 hp),
          occurrences_cons_of_not_isPrefix hp, ih (Nat.zero_le _)]

theorem replaceFrom_append_of_not_mem {x : Char} (hx : x ∉ l) (pat sub r : List Char) :
    replaceFrom (x :: pat) sub 0 (l ++ r) = l ++ replaceFrom (x :: pat) sub 0 r := by
  induction l with
  | nil => rfl
  | cons y ys ih =>
    have hp : ¬ x :: pat <+: y :: (ys ++ r) := fun hp =>
      hx ((List.cons_prefix_cons.1 hp).1 ▸ List.mem_cons_self)
    rw [List.cons_append, replaceFrom_cons_of_not_isPrefix hp,
      ih fun hm => hx (List.mem_cons_of_mem y hm), List.cons_append]

end Slipway.Text
