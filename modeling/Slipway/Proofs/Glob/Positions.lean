import Slipway.Proofs.Glob.Memory
import Mathlib.Data.List.Chain

/-!
# Matching by positions

The search with a table, on positions: the rest of the pattern, the characters of the text and the
cells of the table are looked up, and a position that is out of bounds has no result. All tables
that the search goes through are kept in its history.

It has a result for every pattern and text, with the answer and the table of `Memo.search`
(`askAt_follows`), so no position is ever out of bounds. Each table of the history is the one before
with one more answer, and holds nothing but answers of the recursion without a table, each in the
cell of its own pair of positions (`memory_transparent`).
-/

namespace Slipway.Glob

/-! ### The search by positions -/

/-- The tables of a search: the present one, and those before it, the latest first. -/
structure History where
  table : Memo
  earlier : List Memo := []

/-- All tables so far. -/
def History.tables (hist : History) : List Memo :=
  hist.table :: hist.earlier

/-- A part of a search. It has no result where a position is out of bounds. -/
abbrev Lookup (α : Type) := StateT History Option α

namespace Lookup

/-- What the cell of a pair of positions holds. -/
def cellAt (p t : Nat) : Lookup (Option Bool) := fun hist =>
  hist.table.cells[hist.table.index p t]?.map (·, hist)

/-- Puts an answer in the cell of a pair of positions. -/
def record (p t : Nat) (answer : Bool) : Lookup Unit := fun hist =>
  if hist.table.index p t < hist.table.cells.size then
    some ((), ⟨hist.table.set p t answer, hist.tables⟩)
  else none

/-- A character of a text. -/
def charAt (text : List Char) (i : Nat) : Lookup Char := fun hist =>
  text[i]?.map (·, hist)

/-- What a text holds from a position on. -/
def restAt (text : List Char) (i : Nat) : Lookup (List Char) := fun hist =>
  if i ≤ text.length then some (text.drop i, hist) else none

/-- Asks at `count` positions from `i` on, up to the first time the answer is yes. -/
def anyFrom (ask : Nat → Lookup Bool) : (count i : Nat) → Lookup Bool
  | 0, _ => pure false
  | count + 1, i => do if ← ask i then pure true else anyFrom ask count (i + 1)

/-- Answers from the table if the cell of the pair of positions is filled, else by `work`, and fills
the cell. -/
def remembering (p t : Nat) (work : Lookup Bool) : Lookup Bool := do
  match ← cellAt p t with
  | some answer => pure answer
  | none =>
    let answer ← work
    record p t answer
    pure answer

/-- Whether the pattern from position `p` on stands for the text from position `t` on. -/
def askAt (pattern text : List Char) (p t : Nat) : Lookup Bool :=
  remembering p t <|
    if _h : p ≤ pattern.length then
      match pattern.drop p with
      | [] => pure (t == text.length)
      | '*' :: '*' :: '/' :: _ => do
        if ← askAt pattern text (p + 3) t then pure true
        else
          anyFrom (fun i => do
            if (← charAt text i) = '/' then askAt pattern text (p + 3) (i + 1) else pure false)
            (text.length - t) t
      | '*' :: '*' :: _ => anyFrom (fun i => askAt pattern text (p + 2) i) (text.length + 1 - t) t
      | '*' :: _ => do
        -- the next slash, or the end of the text
        let limit := t + ((← restAt text t).takeWhile (· != '/')).length
        anyFrom (fun i => askAt pattern text (p + 1) i) (limit + 1 - t) t
      | '?' :: _ =>
        if t < text.length then do
          if (← charAt text t) = '/' then pure false else askAt pattern text (p + 1) (t + 1)
        else pure false
      | c :: _ =>
        if t < text.length then do
          if (← charAt text t) = c then askAt pattern text (p + 1) (t + 1) else pure false
        else pure false
    else failure
termination_by pattern.length + 1 - p

end Lookup

/-! ### Histories -/

variable {pattern text rest : List Char} {memo : Memo} {p t : Nat} {c : Char}
  {hist : History}

/-- The table has a cell for every pair of positions, and every answer in it is right. -/
structure Memo.Whole (pattern text : List Char) (memo : Memo) : Prop where
  sound : memo.Sound pattern text
  size : memo.cells.size = (pattern.length + 1) * (text.length + 1)

/-- The table after one answer has been put in, for a pair of positions within bounds. -/
def Memo.Filled (pattern text : List Char) (after before : Memo) : Prop :=
  ∃ p t answer, p ≤ pattern.length ∧ t ≤ text.length ∧ after = before.set p t answer

/-- The tables are right, and each comes from the one before, the first from none. -/
structure History.Sound (pattern text : List Char) (hist : History) : Prop where
  whole : ∀ memo ∈ hist.tables, memo.Whole pattern text
  filled : hist.tables.IsChain (Memo.Filled pattern text)
  first : hist.tables.getLast? = some (.empty pattern text)

theorem Memo.Whole.index_lt (h : memo.Whole pattern text) (hp : p ≤ pattern.length)
    (ht : t ≤ text.length) : memo.index p t < memo.cells.size := by
  rw [h.size, Memo.index, h.sound.width]
  calc p * (text.length + 1) + t < p * (text.length + 1) + (text.length + 1) := by omega
    _ = (p + 1) * (text.length + 1) := (Nat.succ_mul p _).symm
    _ ≤ (pattern.length + 1) * (text.length + 1) := Nat.mul_le_mul_right _ (by omega)

theorem Memo.Whole.set {answer : Bool} (h : memo.Whole pattern text) (ht : t ≤ text.length)
    (ha : covers (pattern.drop p) (text.drop t) = answer) :
    (memo.set p t answer).Whole pattern text :=
  ⟨h.sound.set ht ha, by rw [Memo.set, Array.size_setIfInBounds]; exact h.size⟩

/-- Each cell that is filled is that of one pair of positions, for which it holds the answer. -/
theorem Memo.Whole.cell {i : Nat} {answer : Bool} (h : memo.Whole pattern text)
    (hi : memo.cells[i]? = some (some answer)) :
    ∃ p t, p ≤ pattern.length ∧ t ≤ text.length ∧ i = memo.index p t ∧
      covers (pattern.drop p) (text.drop t) = answer := by
  have hlt : i < (pattern.length + 1) * (text.length + 1) := by
    rw [← h.size]; exact (Array.getElem?_eq_some_iff.1 hi).1
  have hp : i / (text.length + 1) < pattern.length + 1 :=
    Nat.div_lt_of_lt_mul (by rwa [Nat.mul_comm])
  have ht : i % (text.length + 1) < text.length + 1 := Nat.mod_lt _ (Nat.succ_pos _)
  have hindex : i = memo.index (i / (text.length + 1)) (i % (text.length + 1)) := by
    rw [Memo.index, h.sound.width, Nat.mul_comm]
    exact (Nat.div_add_mod i _).symm
  refine ⟨_, _, Nat.le_of_lt_succ hp, Nat.le_of_lt_succ ht, hindex,
    h.sound.right _ _ answer (Nat.le_of_lt_succ ht) ?_⟩
  rw [Memo.get?, ← hindex, hi]
  rfl

namespace History.Sound

theorem table (hs : hist.Sound pattern text) : hist.table.Whole pattern text :=
  hs.whole _ List.mem_cons_self

theorem start : History.Sound pattern text ⟨.empty pattern text, []⟩ where
  whole memo hm := by
    rw [List.mem_singleton.1 hm]
    exact ⟨Memo.sound_empty, Array.size_replicate⟩
  filled := .singleton _
  first := rfl

theorem record {answer : Bool} (hs : hist.Sound pattern text) (hp : p ≤ pattern.length)
    (ht : t ≤ text.length) (ha : covers (pattern.drop p) (text.drop t) = answer) :
    History.Sound pattern text ⟨hist.table.set p t answer, hist.tables⟩ where
  whole := List.forall_mem_cons.2 ⟨hs.table.set ht ha, hs.whole⟩
  filled := List.isChain_cons_cons.2 ⟨⟨p, t, answer, hp, ht, rfl⟩, hs.filled⟩
  first := hs.first

end History.Sound

/-! ### The search has a result -/

namespace Lookup

variable {α β : Type} {ask : Nat → Lookup Bool} {work work' : Lookup Bool}
  {q q' : Memo → Bool × Memo} {query : Memo.Query}

theorem bind_apply (x : Lookup α) (f : α → Lookup β) (hist : History) :
    (x >>= f) hist = (x hist).bind fun r => f r.1 r.2 := rfl

theorem charAt_bind (ht : text.drop t = c :: rest) (f : Char → Lookup α) :
    (charAt text t >>= f) = f c := by
  have hc : text[t]? = some c := by
    rw [← List.head?_drop, ht]; rfl
  funext hist
  rw [bind_apply, charAt, hc]
  rfl

theorem restAt_bind (ht : t ≤ text.length) (f : List Char → Lookup α) :
    (restAt text t >>= f) = f (text.drop t) := by
  funext hist
  rw [bind_apply, restAt, if_pos ht]
  rfl

/-- Within bounds the search by positions does as the query does, and its history stays sound. -/
def Follows (pattern text : List Char) (work : Lookup Bool) (q : Memo → Bool × Memo) : Prop :=
  ∀ hist : History, hist.Sound pattern text → ∃ hist' : History,
    work hist = some ((q hist.table).1, hist') ∧ hist'.table = (q hist.table).2 ∧
      hist'.Sound pattern text

namespace Follows

theorem answer (b : Bool) : Follows pattern text (pure b) (fun memo => (b, memo)) :=
  fun hist hs => ⟨hist, rfl, rfl, hs⟩

theorem orElse (hw : Follows pattern text work q) (hw' : Follows pattern text work' q') :
    Follows pattern text (do if ← work then pure true else work')
      (fun memo => match q memo with
        | (true, memo) => (true, memo)
        | (false, memo) => q' memo) := by
  intro hist hs
  obtain ⟨hist₁, he, ht, hs₁⟩ := hw hist hs
  rcases hq : q hist.table with ⟨b, memo⟩
  rw [hq] at he ht
  subst ht
  rw [bind_apply, he]
  beta_reduce
  rw [hq]
  cases b with
  | true => exact ⟨hist₁, rfl, rfl, hs₁⟩
  | false => exact hw' hist₁ hs₁

/-- Asking once is asking and giving up. -/
theorem once (hw : Follows pattern text work q) :
    Follows pattern text (do if ← work then pure true else pure false) q := by
  intro hist hs
  obtain ⟨hist₁, he, ht, hs₁⟩ := hw hist hs
  refine ⟨hist₁, ?_, ht, hs₁⟩
  rw [bind_apply, he]
  cases (q hist.table).1 <;> rfl

theorem anySuffix (hask : ∀ i ≤ text.length, Follows pattern text (ask i) (query (text.drop i) i))
    (ht : t ≤ text.length) :
    Follows pattern text (anyFrom ask (text.length + 1 - t) t)
      (Memo.anySuffix query (text.drop t) t) := by
  generalize hr : text.drop t = rest
  have hlen : text.length - t = rest.length := by rw [← hr, List.length_drop]
  have hfirst := hask t ht
  rw [hr] at hfirst
  induction rest generalizing t with
  | nil =>
    rw [show text.length + 1 - t = 0 + 1 by simp only [List.length_nil] at hlen; omega]
    exact hfirst.once
  | cons c rest ih =>
    obtain ⟨hr', ht'⟩ := Memo.drop_succ_of_drop hr
    have hnext := hask (t + 1) ht'
    rw [hr'] at hnext
    rw [show text.length + 1 - t = (text.length + 1 - (t + 1)) + 1 by omega]
    exact hfirst.orElse (ih ht' hr' (by rw [List.length_cons] at hlen; omega) hnext)

theorem anyInSegment
    (hask : ∀ i ≤ text.length, Follows pattern text (ask i) (query (text.drop i) i))
    (ht : t ≤ text.length) :
    Follows pattern text (anyFrom ask (((text.drop t).takeWhile (· != '/')).length + 1) t)
      (Memo.anyInSegment query (text.drop t) t) := by
  generalize hr : text.drop t = rest
  have hfirst := hask t ht
  rw [hr] at hfirst
  induction rest generalizing t with
  | nil => exact hfirst.once
  | cons c rest ih =>
    obtain ⟨hr', ht'⟩ := Memo.drop_succ_of_drop hr
    have hnext := hask (t + 1) ht'
    rw [hr'] at hnext
    refine hfirst.orElse ?_
    by_cases hc : c = '/'
    · simp only [if_pos hc]
      rw [List.takeWhile_cons_of_neg (by simp [hc])]
      exact answer false
    · simp only [if_neg hc]
      rw [List.takeWhile_cons_of_pos (by simp [hc])]
      exact ih ht' hr' hnext

theorem anyAfterSlash
    (hask : ∀ i ≤ text.length, Follows pattern text (ask i) (query (text.drop i) i))
    (ht : t ≤ text.length) :
    Follows pattern text
      (anyFrom (fun i => do if (← charAt text i) = '/' then ask (i + 1) else pure false)
        (text.length - t) t)
      (Memo.anyAfterSlash query (text.drop t) t) := by
  generalize hr : text.drop t = rest
  induction rest generalizing t with
  | nil =>
    have hlen := congrArg List.length hr
    rw [List.length_drop, List.length_nil] at hlen
    rw [hlen]
    exact answer false
  | cons c rest ih =>
    obtain ⟨hr', ht'⟩ := Memo.drop_succ_of_drop hr
    rw [show text.length - t = (text.length - (t + 1)) + 1 by omega, anyFrom]
    simp only [charAt_bind hr]
    by_cases hc : c = '/'
    · have hnext := hask (t + 1) ht'
      rw [hr'] at hnext
      simp only [if_pos hc, Memo.anyAfterSlash]
      exact hnext.orElse (ih ht' hr')
    · simp only [if_neg hc, Memo.anyAfterSlash]
      exact ih ht' hr'

/-- A search that takes one character and goes on behind it. -/
theorem oneCharacter {P : Char → Prop} [DecidablePred P]
    (hask : ∀ i ≤ text.length, Follows pattern text (ask i) (query (text.drop i) i)) :
    Follows pattern text
      (if t < text.length then do if P (← charAt text t) then ask (t + 1) else pure false
        else pure false)
      (fun memo => match text.drop t with
        | [] => (false, memo)
        | c :: rest => if P c then query rest (t + 1) memo else (false, memo)) := by
  cases hr : text.drop t with
  | nil =>
    rw [if_neg (Nat.not_lt.2 (List.drop_eq_nil_iff.1 hr))]
    exact answer false
  | cons c rest =>
    obtain ⟨hr', ht⟩ := Memo.drop_succ_of_drop hr
    have hnext := hask (t + 1) ht
    rw [hr'] at hnext
    rw [if_pos (show t < text.length from ht), charAt_bind hr]
    by_cases hc : P c
    · simp only [if_pos hc]; exact hnext
    · simp only [if_neg hc]; exact answer false

/-- The cell is within bounds, and the answer that is put in it is right. -/
theorem remembering (hp : p ≤ pattern.length) (ht : t ≤ text.length)
    (he : Memo.search (pattern.drop p) p = Memo.remembered p query)
    (hw : Follows pattern text work (query (text.drop t) t)) :
    Follows pattern text (Lookup.remembering p t work)
      (Memo.search (pattern.drop p) p (text.drop t) t) := by
  have ha := Memo.search_answers pattern text _ p rfl
  rw [he] at ha ⊢
  intro hist hs
  obtain ⟨cell, hcell⟩ : ∃ cell, hist.table.cells[hist.table.index p t]? = some cell :=
    ⟨_, Array.getElem?_eq_getElem (hs.table.index_lt hp ht)⟩
  have hright := (ha t hist.table ht hs.table.sound).answer
  rw [Lookup.remembering, bind_apply, cellAt, hcell]
  cases cell with
  | some answer =>
    have hget : hist.table.get? p t = some answer := by rw [Memo.get?, hcell]; rfl
    rw [Memo.remembered, hget]
    exact ⟨hist, rfl, rfl, hs⟩
  | none =>
    have hget : hist.table.get? p t = none := by rw [Memo.get?, hcell]; rfl
    obtain ⟨hist₁, hwork, ht₁, hs₁⟩ := hw hist hs
    rcases hq : query (text.drop t) t hist.table with ⟨b, memo⟩
    rw [hq] at hwork ht₁
    subst ht₁
    rw [Memo.remembered, hget] at hright ⊢
    simp only [hq] at hright ⊢
    refine ⟨⟨hist₁.table.set p t b, hist₁.tables⟩, ?_, rfl, hs₁.record hp ht hright.symm⟩
    -- the table that `work` leaves is as large as before, so the cell is still there
    show (work hist).bind _ = _
    rw [hwork]
    show (record p t b hist₁).bind _ = _
    rw [record, if_pos (hs₁.table.index_lt hp ht)]
    rfl

end Follows

open Memo in
/-- Within bounds the search by positions does as the search with what is left does. -/
theorem askAt_follows (pattern text : List Char) (p : Nat) (hp : p ≤ pattern.length) (t : Nat)
    (ht : t ≤ text.length) :
    Follows pattern text (askAt pattern text p t) (search (pattern.drop p) p (text.drop t) t) := by
  induction hn : pattern.length - p using Nat.strongRecOn generalizing p t with
  | ind n ih =>
    -- what is asked behind the first characters of the rest, by induction
    have hnext : ∀ k front rest, front.length = k → 0 < k → pattern.drop p = front ++ rest →
        ∀ i ≤ text.length, Follows pattern text (askAt pattern text (p + k) i)
          (search rest (p + k) (text.drop i) i) := by
      rintro k front rest rfl hpos hf i hi
      have hlen := congrArg List.length hf
      rw [List.length_drop, List.length_append] at hlen
      have hih := ih (pattern.length - (p + front.length)) (by omega) (p + front.length) (by omega)
        i hi rfl
      rw [drop_add_of_drop front hf] at hih
      exact hih
    rw [askAt, dif_pos hp]
    split
    · next hf =>
      refine .remembering hp ht (by rw [hf, search]) ?_
      have hempty : (text.drop t).isEmpty = (t == text.length) := by
        rw [Bool.eq_iff_iff, List.isEmpty_iff, List.drop_eq_nil_iff, beq_iff_eq]
        omega
      rw [hempty]
      exact .answer _
    · next rest hf =>
      have hrest := hnext 3 ['*', '*', '/'] rest rfl (by decide) hf
      refine .remembering hp ht (by rw [hf, search]) ?_
      exact (hrest t ht).orElse (.anyAfterSlash hrest ht)
    · next rest hs hf =>
      have hrest := hnext 2 ['*', '*'] rest rfl (by decide) hf
      exact .remembering hp ht (by rw [hf, search.eq_3 _ _ hs]) (.anySuffix hrest ht)
    · next rest hs hs' hf =>
      have hrest := hnext 1 ['*'] rest rfl (by decide) hf
      refine .remembering hp ht (by rw [hf, search.eq_4 _ _ hs hs']) ?_
      -- as many positions as there are up to the next slash
      rw [restAt_bind ht]
      dsimp only
      rw [show ∀ k, t + k + 1 - t = k + 1 by intro k; omega]
      exact .anyInSegment hrest ht
    · next rest hf =>
      have hrest := hnext 1 ['?'] rest rfl (by decide) hf
      refine .remembering hp ht (by rw [hf, search]) ?_
      have hone := Follows.oneCharacter (P := fun c => ¬ c = '/') (t := t) hrest
      simp only [ite_not] at hone
      exact hone
    · next a rest hs hs' hstar hone hf =>
      have hrest := hnext 1 [a] rest rfl (by decide) hf
      refine .remembering hp ht (by rw [hf, search.eq_6 _ _ _ hs hs' hstar hone]) ?_
      exact .oneCharacter (P := (· = a)) hrest

end Lookup

/-! ### The table does not show -/

/-- A table without cells remembers nothing. -/
theorem Memo.sound_no_cells (pattern text : List Char) :
    Memo.Sound pattern text ⟨text.length + 1, #[]⟩ where
  width := rfl
  right _ _ _ _ h := by cases h

/-- The answer of the matcher is that of the recursion without a table, and that of its own search
with a table in which nothing can be kept. The search by positions comes to this answer and to the
same table, so no position is out of bounds in the pattern, in the text or in the table. It goes
through tables that start without an answer and get one answer at a time. Whatever a cell of any of
these tables holds is the plain answer for one pair of positions, and the cell is that of no other
pair. -/
theorem memory_transparent (pattern text : List Char) :
    fitsChars pattern text = covers pattern text ∧
    fitsChars pattern text = (Memo.search pattern 0 text 0 ⟨text.length + 1, #[]⟩).1 ∧
    ∃ hist : History,
      Lookup.askAt pattern text 0 0 ⟨.empty pattern text, []⟩ =
        some (fitsChars pattern text, hist) ∧
      hist.table = (Memo.search pattern 0 text 0 (.empty pattern text)).2 ∧
      hist.tables.getLast? = some (.empty pattern text) ∧
      hist.tables.IsChain (Memo.Filled pattern text) ∧
      ∀ memo ∈ hist.tables, ∀ i answer, memo.cells[i]? = some (some answer) →
        ∃ p t, p ≤ pattern.length ∧ t ≤ text.length ∧ i = p * (text.length + 1) + t ∧
          covers (pattern.drop p) (text.drop t) = answer ∧
          ∀ p' t', t' ≤ text.length → i = p' * (text.length + 1) + t' → p' = p ∧ t' = t := by
  have hplain := fitsChars_eq_covers pattern text
  have hnothing := (Memo.search_answers pattern text pattern 0 rfl 0 _ (Nat.zero_le _)
    (Memo.sound_no_cells pattern text)).answer
  obtain ⟨hist, hask, htable, hs⟩ := Lookup.askAt_follows pattern text 0 (Nat.zero_le _) 0
    (Nat.zero_le _) _ History.Sound.start
  refine ⟨hplain, hplain.trans hnothing.symm, hist, hask, htable, hs.first, hs.filled, ?_⟩
  intro memo hm i answer hi
  have hw := hs.whole memo hm
  obtain ⟨p, t, hp, ht, hindex, ha⟩ := hw.cell hi
  rw [Memo.index, hw.sound.width] at hindex
  have hwidth : ∀ t ≤ text.length, t < memo.width := by
    intro t ht
    rw [hw.sound.width]; omega
  refine ⟨p, t, hp, ht, hindex, ha, fun p' t' ht' hindex' => ?_⟩
  refine Memo.index_inj (hwidth t' ht') (hwidth t ht) ?_
  rw [Memo.index, Memo.index, hw.sound.width, ← hindex, ← hindex']

/-- The cell that the star fills behind the first character. -/
theorem memory_transparent_star :
    let table := (Memo.search ['*', 'a'] 0 ['b', 'a'] 0 (.empty ['*', 'a'] ['b', 'a'])).2
    table.cells[4]? = some (some true) ∧
      ∃ p t, 4 = p * 3 + t ∧ covers (['*', 'a'].drop p) (['b', 'a'].drop t) = true := by
  intro table
  have hcell : table.cells[4]? = some (some true) := by decide
  obtain ⟨-, -, hist, -, htable, -, -, hcells⟩ := memory_transparent ['*', 'a'] ['b', 'a']
  obtain ⟨p, t, -, -, hindex, ha, -⟩ :=
    hcells hist.table List.mem_cons_self 4 true (by rw [htable]; exact hcell)
  exact ⟨hcell, p, t, hindex, ha⟩

end Slipway.Glob
