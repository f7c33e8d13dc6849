import Slipway.Proofs.Glob.Language

/-!
# The memory does not change an answer

The search with a table gives the answers of the plain recursion: `Sound` says that every answer in
the table is right, and `Answers` that a query gives the right answer and leaves a sound table. Each
way to combine queries keeps `Answers`, so the search has it by induction over the pattern
(`search_answers`), and a pattern fits the texts of its language (`fits_iff_denotes`).
-/

namespace Slipway.Glob

namespace Memo

variable {pattern text rest : List Char} {memo : Memo} {p t : Nat} {c : Char} {answer : Bool}

/-! ### Positions -/

theorem drop_succ_of_drop (h : text.drop t = c :: rest) :
    text.drop (t + 1) = rest ∧ t + 1 ≤ text.length := by
  have hlt : t < text.length := by
    have hl := congrArg List.length h
    rw [List.length_drop, List.length_cons] at hl
    omega
  rw [List.drop_eq_getElem_cons hlt] at h
  exact ⟨(List.cons.inj h).2, hlt⟩

theorem drop_add_of_drop (front : List Char) (h : pattern.drop p = front ++ rest) :
    pattern.drop (p + front.length) = rest := by
  rw [← List.drop_drop, h, List.drop_left]

theorem index_inj {p' t' : Nat} (ht : t < memo.width) (ht' : t' < memo.width)
    (h : memo.index p t = memo.index p' t') : p = p' ∧ t = t' := by
  unfold index at h
  have htt : t = t' := by
    have hm := congrArg (· % memo.width) h
    simpa [Nat.mul_add_mod', Nat.mod_eq_of_lt ht, Nat.mod_eq_of_lt ht'] using hm
  subst htt
  have hw : 0 < memo.width := Nat.lt_of_le_of_lt (Nat.zero_le t) ht
  exact ⟨Nat.eq_of_mul_eq_mul_right hw (Nat.add_right_cancel h), rfl⟩

/-! ### Tables -/

/-- Every answer in the table is that of the plain recursion. -/
structure Sound (pattern text : List Char) (memo : Memo) : Prop where
  width : memo.width = text.length + 1
  right : ∀ p t answer, t ≤ text.length → memo.get? p t = some answer →
    covers (pattern.drop p) (text.drop t) = answer

theorem sound_empty : Sound pattern text (empty pattern text) where
  width := rfl
  right p t answer ht h := by
    simp only [get?, empty, Array.getElem?_replicate] at h
    split at h <;> cases h

theorem Sound.set (h : memo.Sound pattern text) (ht : t ≤ text.length)
    (ha : covers (pattern.drop p) (text.drop t) = answer) :
    (memo.set p t answer).Sound pattern text := by
  refine ⟨h.width, fun p' t' b ht' hb => ?_⟩
  have hi : (memo.set p t answer).index p' t' = memo.index p' t' := rfl
  rw [get?, hi, Memo.set, Array.getElem?_setIfInBounds] at hb
  split at hb
  · next he =>
    obtain ⟨rfl, rfl⟩ := index_inj (by rw [h.width]; omega) (by rw [h.width]; omega) he
    split at hb
    · obtain rfl := Option.some.inj hb; exact ha
    · cases hb
  · exact h.right p' t' b ht' hb

/-! ### Queries -/

/-- The outcome of a query: the answer is `a` and the table is sound. -/
structure Right (pattern text : List Char) (a : Bool) (outcome : Bool × Memo) : Prop where
  answer : outcome.1 = a
  sound : outcome.2.Sound pattern text

/-- A second query is only asked if the answer to the first is no. -/
theorem Right.orElse {a b : Bool} {outcome : Bool × Memo} {next : Memo → Bool × Memo} :
    Right pattern text a outcome →
    (∀ memo : Memo, memo.Sound pattern text → Right pattern text b (next memo)) →
    Right pattern text (a || b)
      (match outcome with
      | (true, memo) => (true, memo)
      | (false, memo) => next memo) := by
  intro h hn
  obtain ⟨answer, memo⟩ := outcome
  obtain rfl : answer = a := h.answer
  cases answer with
  | true => exact ⟨rfl, h.sound⟩
  | false => exact hn memo h.sound

/-- A query that answers as `f` does at every position of the text. -/
def Answers (pattern text : List Char) (q : Query) (f : List Char → Bool) : Prop :=
  ∀ t memo, t ≤ text.length → memo.Sound pattern text →
    Right pattern text (f (text.drop t)) (q (text.drop t) t memo)

namespace Answers

variable {q : Query} {f : List Char → Bool}

theorem anySuffix (h : Answers pattern text q f) :
    Answers pattern text (Memo.anySuffix q) (Glob.anySuffix f) := by
  intro t memo ht hm
  generalize hr : text.drop t = rest
  induction rest generalizing t memo with
  | nil =>
    have hq := h t memo ht hm
    rw [hr] at hq; exact hq
  | cons c rest ih =>
    obtain ⟨hr', ht'⟩ := drop_succ_of_drop hr
    have hq := h t memo ht hm
    rw [hr] at hq
    exact hq.orElse fun memo hm => ih (t + 1) memo ht' hm hr'

theorem anyAfterSlash (h : Answers pattern text q f) :
    Answers pattern text (Memo.anyAfterSlash q) (Glob.anyAfterSlash f) := by
  intro t memo ht hm
  generalize hr : text.drop t = rest
  induction rest generalizing t memo with
  | nil => exact ⟨rfl, hm⟩
  | cons c rest ih =>
    obtain ⟨hr', ht'⟩ := drop_succ_of_drop hr
    unfold Memo.anyAfterSlash Glob.anyAfterSlash
    by_cases hc : c = '/'
    · have hq := h (t + 1) memo ht' hm
      rw [hr'] at hq
      rw [if_pos hc, hc, beq_self_eq_true, Bool.true_and]
      exact hq.orElse fun memo hm => ih (t + 1) memo ht' hm hr'
    · rw [if_neg hc, beq_false_of_ne hc, Bool.false_and, Bool.false_or]
      exact ih (t + 1) memo ht' hm hr'

theorem anyInSegment (h : Answers pattern text q f) :
    Answers pattern text (Memo.anyInSegment q) (Glob.anyInSegment f) := by
  intro t memo ht hm
  generalize hr : text.drop t = rest
  induction rest generalizing t memo with
  | nil =>
    have hq := h t memo ht hm
    rw [hr] at hq; exact hq
  | cons c rest ih =>
    obtain ⟨hr', ht'⟩ := drop_succ_of_drop hr
    have hq := h t memo ht hm
    rw [hr] at hq
    unfold Memo.anyInSegment Glob.anyInSegment
    refine hq.orElse fun memo hm => ?_
    by_cases hc : c = '/'
    · rw [if_pos hc, hc]; exact ⟨rfl, hm⟩
    · rw [if_neg hc, bne_iff_ne.2 hc, Bool.true_and]; exact ih (t + 1) memo ht' hm hr'

/-- A remembered answer is right since the table is sound, and a new one is kept. -/
theorem remembered (h : Answers pattern text q (covers (pattern.drop p))) :
    Answers pattern text (Memo.remembered p q) (covers (pattern.drop p)) := by
  intro t memo ht hm
  unfold Memo.remembered
  cases hg : memo.get? p t with
  | some answer => exact ⟨(hm.right p t answer ht hg).symm, hm⟩
  | none =>
    obtain ⟨ha, hs⟩ := h t memo ht hm
    cases hq : q (text.drop t) t memo with
    | mk b memo' =>
      rw [hq] at ha hs
      exact ⟨ha, hs.set ht ha.symm⟩

/-- A query that takes one character and goes on behind it. -/
theorem oneCharacter {g : List Char → Bool} {P : Char → Prop} [DecidablePred P] {q' : Query}
    (h : Answers pattern text q f) (hnil : g [] = false)
    (hcons : ∀ c rest, g (c :: rest) = (decide (P c) && f rest))
    (hq'nil : ∀ t memo, q' [] t memo = (false, memo))
    (hq' : ∀ c rest t memo,
      q' (c :: rest) t memo = if P c then q rest (t + 1) memo else (false, memo)) :
    Answers pattern text q' g := by
  intro t memo ht hm
  cases hr : text.drop t with
  | nil => rw [hnil, hq'nil]; exact ⟨rfl, hm⟩
  | cons c rest =>
    obtain ⟨hr', ht'⟩ := drop_succ_of_drop hr
    rw [hcons, hq']
    by_cases hc : P c
    · have hq := h (t + 1) memo ht' hm
      rw [hr'] at hq
      rw [if_pos hc, decide_eq_true hc, Bool.true_and]; exact hq
    · rw [if_neg hc, decide_eq_false hc, Bool.false_and]; exact ⟨rfl, hm⟩

end Answers

/-! ### The search -/

theorem search_answers (pattern text : List Char) (pattern' : List Char) (p : Nat)
    (hp : pattern.drop p = pattern') :
    Answers pattern text (search pattern' p) (covers pattern') := by
  induction pattern', p using search.induct with
  | case1 p =>
    rw [search, ← hp]
    refine .remembered fun t memo _ hm => ⟨?_, hm⟩
    rw [hp, covers]
  | case2 rest p ih =>
    have hrest := ih (drop_add_of_drop ['*', '*', '/'] hp)
    rw [search, ← hp]
    refine .remembered fun t memo ht hm => ?_
    rw [hp, covers]
    exact (hrest t memo ht hm).orElse fun memo hm => hrest.anyAfterSlash t memo ht hm
  | case3 rest p hs ih =>
    have hrest := ih (drop_add_of_drop ['*', '*'] hp)
    rw [search.eq_3 _ _ hs, ← hp]
    refine .remembered fun t memo ht hm => ?_
    rw [hp, covers.eq_3 _ _ hs]
    exact hrest.anySuffix t memo ht hm
  | case4 rest p hs hs' ih =>
    have hrest := ih (drop_add_of_drop ['*'] hp)
    rw [search.eq_4 _ _ hs hs', ← hp]
    refine .remembered fun t memo ht hm => ?_
    rw [hp, covers.eq_4 _ _ hs hs']
    exact hrest.anyInSegment t memo ht hm
  | case5 rest p ih =>
    have hrest := ih (drop_add_of_drop ['?'] hp)
    rw [search, ← hp]
    refine .remembered (hrest.oneCharacter (P := (· ≠ '/')) ?_ ?_ ?_ ?_)
    · rw [hp, covers.eq_7 _ _ (by simp) (by simp) (by simp)]
    · intro c rest'; rw [hp, covers]; by_cases hc : c = '/' <;> simp [hc]
    · intro t memo; rfl
    · intro c rest' t memo
      by_cases hc : c = '/' <;> simp [hc]
  | case6 a rest p hs hs' ha ha' ih =>
    have hrest := ih (drop_add_of_drop [a] hp)
    rw [search.eq_6 _ _ _ hs hs' ha ha', ← hp]
    refine .remembered (hrest.oneCharacter (P := (· = a)) ?_ ?_ ?_ ?_)
    · rw [hp, covers.eq_7 _ _ hs hs' ha]
    · intro c rest'; rw [hp, covers.eq_6 _ _ _ _ hs hs' ha ha']; rfl
    · intro t memo; rfl
    · intro c rest' t memo; rfl

end Memo

/-! ### Whole texts -/

theorem fitsChars_eq_covers (pattern text : List Char) :
    fitsChars pattern text = covers pattern text :=
  (Memo.search_answers pattern text pattern 0 rfl 0 _ (Nat.zero_le _) Memo.sound_empty).answer

/-- A pattern fits a text if and only if the text belongs to its language: it can be cut into one
piece for each token of the pattern. -/
theorem fits_iff_denotes (pattern text : String) :
    fits pattern text = true ↔ Denotes (tokens pattern.toList) text.toList := by
  rw [fits, fitsChars_eq_covers]
  exact covers_iff_denotes _ _

end Slipway.Glob
