import Slipway.Glob.Matcher

/-!
# The language of a pattern

The recursion over a pattern, `covers`, accepts just the texts for which the tokens of the pattern
stand (`covers_iff_denotes`). The three searches for the end of a star are described by the ways to
cut a text in two; each is then one case of the induction over the pattern, which reads its tokens
in the same order as `tokens`.
-/

namespace Slipway.Glob

variable {p : List Char → Bool} {token : Token} {rest : List Token} {text : List Char}

/-! ### Where a star may end -/

theorem anySuffix_iff : anySuffix p text = true ↔ ∃ l r, text = l ++ r ∧ p r = true := by
  induction text with
  | nil =>
    constructor
    · intro h; exact ⟨[], [], rfl, h⟩
    · rintro ⟨l, r, he, h⟩
      obtain ⟨rfl, rfl⟩ := List.append_eq_nil_iff.1 he.symm
      exact h
  | cons c text ih =>
    rw [anySuffix, Bool.or_eq_true, ih]
    constructor
    · rintro (h | ⟨l, r, rfl, h⟩)
      · exact ⟨[], c :: text, rfl, h⟩
      · exact ⟨c :: l, r, rfl, h⟩
    · rintro ⟨l, r, he, h⟩
      cases l with
      | nil => left; rw [he]; exact h
      | cons a l =>
        obtain ⟨rfl, rfl⟩ := List.cons.inj he
        exact .inr ⟨l, r, rfl, h⟩

theorem anyAfterSlash_iff :
    anyAfterSlash p text = true ↔ ∃ l r, text = l ++ '/' :: r ∧ p r = true := by
  induction text with
  | nil =>
    refine ⟨nofun, ?_⟩
    rintro ⟨l, r, he, -⟩
    simp at he
  | cons c text ih =>
    rw [anyAfterSlash, Bool.or_eq_true, Bool.and_eq_true, beq_iff_eq, ih]
    constructor
    · rintro (⟨rfl, h⟩ | ⟨l, r, rfl, h⟩)
      · exact ⟨[], text, rfl, h⟩
      · exact ⟨c :: l, r, rfl, h⟩
    · rintro ⟨l, r, he, h⟩
      cases l with
      | nil =>
        obtain ⟨rfl, rfl⟩ := List.cons.inj he
        exact .inl ⟨rfl, h⟩
      | cons a l =>
        obtain ⟨rfl, rfl⟩ := List.cons.inj he
        exact .inr ⟨l, r, rfl, h⟩

theorem anyInSegment_iff :
    anyInSegment p text = true ↔ ∃ l r, text = l ++ r ∧ '/' ∉ l ∧ p r = true := by
  induction text with
  | nil =>
    constructor
    · intro h; exact ⟨[], [], rfl, List.not_mem_nil, h⟩
    · rintro ⟨l, r, he, -, h⟩
      obtain ⟨rfl, rfl⟩ := List.append_eq_nil_iff.1 he.symm
      exact h
  | cons c text ih =>
    rw [anyInSegment, Bool.or_eq_true, Bool.and_eq_true, bne_iff_ne, ih]
    constructor
    · rintro (h | ⟨hc, l, r, rfl, hl, h⟩)
      · exact ⟨[], c :: text, rfl, List.not_mem_nil, h⟩
      · exact ⟨c :: l, r, rfl, by simp [hl, Ne.symm hc], h⟩
    · rintro ⟨l, r, he, hl, h⟩
      cases l with
      | nil => left; rw [he]; exact h
      | cons a l =>
        obtain ⟨rfl, rfl⟩ := List.cons.inj he
        rw [List.mem_cons, not_or] at hl
        exact .inr ⟨Ne.symm hl.1, l, r, rfl, hl.2, h⟩

/-! ### Tokens -/

theorem denotes_nil_iff : Denotes [] text ↔ text = [] := by
  constructor
  · intro h; cases h; rfl
  · rintro rfl; exact .nil

theorem denotes_cons_iff :
    Denotes (token :: rest) text ↔
      ∃ piece tail, text = piece ++ tail ∧ token.Denotes piece ∧ Denotes rest tail := by
  constructor
  · intro h
    cases h with
    | cons hp ht => exact ⟨_, _, rfl, hp, ht⟩
  · rintro ⟨piece, tail, rfl, hp, ht⟩
    exact .cons hp ht

theorem denotes_directories_iff :
    Denotes (.directories :: rest) text ↔
      Denotes rest text ∨ ∃ l r, text = l ++ '/' :: r ∧ Denotes rest r := by
  rw [denotes_cons_iff]
  constructor
  · rintro ⟨piece, tail, rfl, rfl | hp, ht⟩
    · exact .inl ht
    · obtain ⟨l, rfl⟩ := List.getLast?_eq_some_iff.1 hp
      exact .inr ⟨l, tail, by simp, ht⟩
  · rintro (ht | ⟨l, r, rfl, hr⟩)
    · exact ⟨[], text, rfl, .inl rfl, ht⟩
    · exact ⟨l ++ ['/'], r, by simp, .inr (by simp), hr⟩

section OneCharacter

variable {P : Char → Prop} {c : Char} (htok : ∀ piece, token.Denotes piece ↔ ∃ c, piece = [c] ∧ P c)

include htok

/-- A token for one character needs one. -/
theorem not_denotes_nil_of_char : ¬ Denotes (token :: rest) [] := by
  rw [denotes_cons_iff]
  rintro ⟨piece, tail, he, hp, -⟩
  obtain ⟨c, rfl, -⟩ := (htok piece).1 hp
  cases he

/-- A token for one character takes the first of a text. -/
theorem denotes_cons_char_iff : Denotes (token :: rest) (c :: text) ↔ P c ∧ Denotes rest text := by
  rw [denotes_cons_iff]
  constructor
  · rintro ⟨piece, tail, he, hp, ht⟩
    obtain ⟨c', rfl, hc⟩ := (htok piece).1 hp
    obtain ⟨rfl, rfl⟩ := List.cons.inj he
    exact ⟨hc, ht⟩
  · rintro ⟨hc, ht⟩
    exact ⟨[c], text, rfl, (htok [c]).2 ⟨c, rfl, hc⟩, ht⟩

end OneCharacter

/-! ### The language -/

theorem covers_iff_denotes (pattern text : List Char) :
    covers pattern text = true ↔ Denotes (tokens pattern) text := by
  induction pattern using tokens.induct generalizing text with
  | case1 => rw [covers, tokens, denotes_nil_iff, List.isEmpty_iff]
  | case2 rest ih =>
    rw [covers, tokens, denotes_directories_iff, Bool.or_eq_true, ih, anyAfterSlash_iff]
    simp only [ih]
  | case3 rest hs ih =>
    rw [covers.eq_3 _ _ hs, tokens.eq_3 _ hs, denotes_cons_iff, anySuffix_iff]
    simp only [ih, Token.Denotes, true_and]
  | case4 rest hs hs' ih =>
    rw [covers.eq_4 _ _ hs hs', tokens.eq_4 _ hs hs', denotes_cons_iff, anyInSegment_iff]
    simp only [ih, Token.Denotes]
  | case5 rest ih =>
    have htok : ∀ piece, Token.one.Denotes piece ↔ ∃ c, piece = [c] ∧ c ≠ '/' := fun _ => Iff.rfl
    rw [tokens]
    cases text with
    | nil =>
      rw [covers.eq_7 _ _ (by simp) (by simp) (by simp)]
      simpa using not_denotes_nil_of_char htok
    | cons c text => rw [covers, denotes_cons_char_iff htok, Bool.and_eq_true, bne_iff_ne, ih]
  | case6 a rest hs hs' ha ha' ih =>
    have htok : ∀ piece, (Token.literal a).Denotes piece ↔ ∃ c, piece = [c] ∧ c = a := by
      simp [Token.Denotes]
    rw [tokens.eq_6 _ _ hs hs' ha ha']
    cases text with
    | nil =>
      rw [covers.eq_7 _ _ hs hs' ha]
      simpa using not_denotes_nil_of_char htok
    | cons c text =>
      rw [covers.eq_6 _ _ _ _ hs hs' ha ha', denotes_cons_char_iff htok, Bool.and_eq_true,
        beq_iff_eq, ih]

end Slipway.Glob
