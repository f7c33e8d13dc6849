import Slipway.Proofs.Glob.Memory
import Slipway.Proofs.Text.Separators
import Mathlib.Data.List.Forall2

/-!
# Patterns in parts

Two patterns that are put together stand for the texts that are put together from theirs, as long
as no token reaches from one into the other (`tokens_append`). Only behind a star is more than one
character read for a token, so this holds if the first pattern does not end in one
(`fits_append_iff`), and also if no two stars meet. In the second case a pattern can be parted at
its slashes: no star or question mark stands for a slash, so the slashes of a text are those of the
pattern, and what is between them fits piece by piece (`fits_iff_forall₂_segments`).
-/

namespace Slipway.Glob

open Text

variable {p q seg rest text : List Char} {ts us : List Token}

/-! ### Put together -/

/-- Whether a pattern may be parted between `p` and `q`: behind another character than a star, or
anywhere if no two stars stand side by side. -/
def Parts (p q : List Char) : Prop :=
  p.getLast? = some '*' → ¬ ['*', '*'] <:+: p ++ q

theorem Parts.tail (front : List Char) (h : Parts (front ++ p) q) : Parts p q := by
  intro hlast hstars
  refine h (by rw [List.getLast?_append, hlast]; rfl) ?_
  rw [List.append_assoc]
  exact hstars.trans (List.suffix_append front (p ++ q)).isInfix

/-- No token reaches from one part into the other: one that reads ahead starts with a star. -/
theorem tokens_append (h : Parts p q) : tokens (p ++ q) = tokens p ++ tokens q := by
  induction p using tokens.induct with
  | case1 => rfl
  | case2 rest ih =>
    show Token.directories :: tokens (rest ++ q) = _
    rw [ih (h.tail ['*', '*', '/'])]
    rfl
  | case3 rest hs ih =>
    have hs' : ∀ r, rest ++ q = '/' :: r → False := by
      intro r hr
      obtain ⟨rfl, -⟩ | ⟨rest', rfl, -⟩ := List.append_eq_cons_iff.1 hr
      · exact h rfl (List.prefix_append ['*', '*'] q).isInfix
      · exact hs rest' rfl
    rw [List.cons_append, List.cons_append, tokens.eq_3 _ hs', tokens.eq_3 _ hs,
      ih (h.tail ['*', '*']), List.cons_append]
  | case4 rest _ hs ih =>
    have hs' : ∀ r, rest ++ q = '*' :: r → False := by
      intro r hr
      obtain ⟨rfl, rfl⟩ | ⟨rest', rfl, -⟩ := List.append_eq_cons_iff.1 hr
      · exact h rfl (List.prefix_append ['*', '*'] r).isInfix
      · exact hs rest' rfl
    rw [List.cons_append, tokens.eq_4 _ (fun r => hs' ('/' :: r)) hs',
      tokens.eq_4 _ (fun r => hs ('/' :: r)) hs, ih (h.tail ['*']), List.cons_append]
  | case5 rest ih =>
    rw [List.cons_append, tokens, tokens, ih (h.tail ['?']), List.cons_append]
  | case6 a rest hs hs' ha ha' ih =>
    rw [List.cons_append, tokens.eq_6 _ _ (fun _ h => absurd h ha) (fun _ h => absurd h ha) ha ha',
      tokens.eq_6 _ _ hs hs' ha ha', ih (h.tail [a]), List.cons_append]

theorem denotes_append_iff :
    Denotes (ts ++ us) text ↔ ∃ l r, text = l ++ r ∧ Denotes ts l ∧ Denotes us r := by
  induction ts generalizing text with
  | nil =>
    constructor
    · intro h; exact ⟨[], text, rfl, .nil, h⟩
    · rintro ⟨l, r, rfl, hl, hr⟩
      rw [denotes_nil_iff.1 hl]; exact hr
  | cons token ts ih =>
    simp only [List.cons_append, denotes_cons_iff, ih]
    constructor
    · rintro ⟨piece, tail, rfl, hp, l, r, rfl, hl, hr⟩
      exact ⟨piece ++ l, r, (List.append_assoc ..).symm, ⟨piece, l, rfl, hp, hl⟩, hr⟩
    · rintro ⟨l, r, rfl, ⟨piece, tail, rfl, hp, ht⟩, hr⟩
      exact ⟨piece, tail ++ r, List.append_assoc .., hp, tail, r, rfl, ht, hr⟩

theorem covers_append_iff (h : Parts p q) :
    covers (p ++ q) text = true ↔
      ∃ l r, text = l ++ r ∧ covers p l = true ∧ covers q r = true := by
  simp only [covers_iff_denotes, tokens_append h, denotes_append_iff]

theorem fits_eq_covers (pattern text : String) :
    fits pattern text = covers pattern.toList text.toList :=
  fitsChars_eq_covers _ _

/-- If the first of two patterns does not end in a star, both together fit just the texts that can
be parted so that the first pattern fits the first part and the second pattern the second. -/
theorem fits_append_iff {p : String} (h : p.toList.getLast? ≠ some '*') (q text : String) :
    fits (p ++ q) text = true ↔ ∃ s t, text = s ++ t ∧ fits p s = true ∧ fits q t = true := by
  have hparts : Parts p.toList q.toList := fun hlast => absurd hlast h
  simp only [fits_eq_covers, String.toList_append, covers_append_iff hparts]
  constructor
  · rintro ⟨l, r, ht, hl, hr⟩
    refine ⟨String.ofList l, String.ofList r, ?_, ?_, ?_⟩
    · rw [← String.ofList_append, ← ht, String.ofList_toList]
    · rw [String.toList_ofList]; exact hl
    · rw [String.toList_ofList]; exact hr
  · rintro ⟨s, t, rfl, hs, ht⟩
    exact ⟨s.toList, t.toList, String.toList_append, hs, ht⟩

theorem fits_append_iff_docs :
    "docs/**/".toList.getLast? ≠ some '*' ∧ fits ("docs/**/" ++ "*.md") "docs/a/b/c.md" = true := by
  have hlast : "docs/**/".toList.getLast? ≠ some '*' := by decide
  have hdir : fits "docs/**/" "docs/a/b/" = true := by decide +kernel
  have hfile : fits "*.md" "c.md" = true := by decide +kernel
  exact ⟨hlast, (fits_append_iff hlast _ _).2 ⟨"docs/a/b/", "c.md", rfl, hdir, hfile⟩⟩

/-! ### Taken apart at the slashes -/

/-- Whether a token stands for texts within one segment only. -/
def Token.Inside : Token → Prop
  | .directories => False
  | .anything => False
  | .segment => True
  | .one => True
  | .literal c => c ≠ '/'

theorem Token.Inside.not_slash_mem {token : Token} {piece : List Char} (h : token.Inside)
    (hp : token.Denotes piece) : '/' ∉ piece := by
  cases token with
  | directories => cases h
  | anything => cases h
  | segment => exact hp
  | one =>
    obtain ⟨c, rfl, hc⟩ := hp
    exact fun hm => hc (List.mem_singleton.1 hm).symm
  | literal c =>
    subst hp
    exact fun hm => h (List.mem_singleton.1 hm).symm

theorem Denotes.not_slash_mem (h : ∀ token ∈ ts, token.Inside) (hd : Denotes ts text) :
    '/' ∉ text := by
  induction hd with
  | nil => exact List.not_mem_nil
  | cons hp _ ih =>
    obtain ⟨htoken, hts⟩ := List.forall_mem_cons.1 h
    rw [List.mem_append, not_or]
    exact ⟨htoken.not_slash_mem hp, ih hts⟩

theorem inside_of_mem_tokens (h : ¬ ['*', '*'] <:+: seg) (hs : '/' ∉ seg) :
    ∀ token ∈ tokens seg, token.Inside := by
  have htail : ∀ {c l}, ¬ ['*', '*'] <:+: c :: l → ¬ ['*', '*'] <:+: l :=
    fun h hl => h (hl.trans (List.suffix_cons _ _).isInfix)
  induction seg using tokens.induct with
  | case1 =>
    rw [tokens]
    exact List.forall_mem_nil _
  | case2 rest => exact absurd (List.prefix_append ['*', '*'] ('/' :: rest)).isInfix h
  | case3 rest => exact absurd (List.prefix_append ['*', '*'] rest).isInfix h
  | case4 rest _ hne ih =>
    rw [tokens.eq_4 _ (fun r => hne ('/' :: r)) hne]
    exact List.forall_mem_cons.2 ⟨trivial, ih (htail h) (List.not_mem_of_not_mem_cons hs)⟩
  | case5 rest ih =>
    rw [tokens]
    exact List.forall_mem_cons.2 ⟨trivial, ih (htail h) (List.not_mem_of_not_mem_cons hs)⟩
  | case6 a rest hne hne' ha ha' ih =>
    rw [tokens.eq_6 _ _ hne hne' ha ha']
    have hslash : a ≠ '/' := fun he => hs (he ▸ List.mem_cons_self)
    exact List.forall_mem_cons.2 ⟨hslash, ih (htail h) (List.not_mem_of_not_mem_cons hs)⟩

theorem not_slash_mem_of_covers (h : ¬ ['*', '*'] <:+: seg) (hs : '/' ∉ seg)
    (hc : covers seg text = true) : '/' ∉ text :=
  ((covers_iff_denotes seg text).1 hc).not_slash_mem (inside_of_mem_tokens h hs)

theorem covers_slash_cons_iff :
    covers ('/' :: rest) text = true ↔ ∃ r, text = '/' :: r ∧ covers rest r = true := by
  cases text with
  | nil =>
    rw [covers.eq_7 _ _ (by simp) (by simp) (by simp)]
    simp
  | cons c text =>
    rw [covers.eq_6 _ _ _ _ (by simp) (by simp) (by simp) (by simp)]
    simp

/-- The first slash of the pattern is the first slash of the text. -/
theorem covers_append_slash_iff (h : ¬ ['*', '*'] <:+: seg ++ '/' :: rest) (hs : '/' ∉ seg) :
    covers (seg ++ '/' :: rest) text = true ↔
      ∃ l r, text = l ++ '/' :: r ∧ '/' ∉ l ∧ covers seg l = true ∧ covers rest r = true := by
  have hseg : ¬ ['*', '*'] <:+: seg := fun hi => h (hi.trans (List.prefix_append _ _).isInfix)
  rw [covers_append_iff fun _ => h]
  simp only [covers_slash_cons_iff]
  constructor
  · rintro ⟨l, _, rfl, hl, r, rfl, hr⟩
    exact ⟨l, r, rfl, not_slash_mem_of_covers hseg hs hl, hl, hr⟩
  · rintro ⟨l, r, rfl, -, hl, hr⟩
    exact ⟨l, '/' :: r, rfl, hl, r, rfl, hr⟩

section Pieces

variable {R : List Char → List Char → Prop} {c : Char} {piece : List Char}
  {pieces : List (List Char)}

theorem forall₂_singleton_piecesAt :
    List.Forall₂ R [piece] (piecesAt c text) ↔ c ∉ text ∧ R piece text := by
  rcases piecesAt_cases c text with ⟨hc, ht⟩ | ⟨l, r, rfl, -, ht⟩
  · simp [ht, hc]
  · have hne := piecesAt_ne_nil c r
    simp [ht, hne]

/-- More pieces than one need a text that holds the character. -/
theorem forall₂_cons_piecesAt (hne : pieces ≠ []) :
    List.Forall₂ R (piece :: pieces) (piecesAt c text) ↔
      ∃ l r, text = l ++ c :: r ∧ c ∉ l ∧ R piece l ∧ List.Forall₂ R pieces (piecesAt c r) := by
  rcases piecesAt_cases c text with ⟨hc, ht⟩ | ⟨l, r, rfl, hl, ht⟩
  · rw [ht]
    constructor
    · intro h
      exact absurd (List.forall₂_nil_right_iff.1 (List.forall₂_cons.1 h).2) hne
    · rintro ⟨l, r, rfl, -⟩
      exact absurd (by simp) hc
  · rw [ht, List.forall₂_cons]
    constructor
    · rintro ⟨hp, hr⟩
      exact ⟨l, r, rfl, hl, hp, hr⟩
    · rintro ⟨l', r', he, hl', hp, hr⟩
      have hall : ∀ {l : List Char}, c ∉ l → ∀ x ∈ l, x ≠ c := fun hl x hx he => hl (he ▸ hx)
      obtain ⟨rfl, hcons⟩ := append_inj_of_all (hall hl) (hall hl') (by simp) (by simp) he
      rw [(List.cons.inj hcons).2]
      exact ⟨hp, hr⟩

end Pieces

theorem covers_iff_forall₂_piecesAt {pattern : List Char} (h : ¬ ['*', '*'] <:+: pattern)
    (text : List Char) :
    covers pattern text = true ↔
      List.Forall₂ (covers · · = true) (piecesAt '/' pattern) (piecesAt '/' text) := by
  -- By induction on the pieces of the pattern; the text is parted along with it.
  induction hp : piecesAt '/' pattern generalizing pattern text with
  | nil => exact absurd hp (piecesAt_ne_nil '/' pattern)
  | cons piece pieces ih =>
    rcases piecesAt_cases '/' pattern with ⟨hslash, he⟩ | ⟨seg, rest, rfl, hseg, he⟩
    · obtain ⟨rfl, rfl⟩ := List.cons.inj (he.symm.trans hp)
      rw [forall₂_singleton_piecesAt]
      exact ⟨fun hc => ⟨not_slash_mem_of_covers h hslash hc, hc⟩, And.right⟩
    · obtain ⟨rfl, rfl⟩ := List.cons.inj (he.symm.trans hp)
      have hrest : ¬ ['*', '*'] <:+: rest := fun hi =>
        h (hi.trans ((List.suffix_cons '/' rest).trans (List.suffix_append _ _)).isInfix)
      rw [covers_append_slash_iff h hseg, forall₂_cons_piecesAt (piecesAt_ne_nil '/' rest)]
      simp only [ih hrest _ rfl]

/-- If no two stars stand side by side, a pattern fits just the texts with as many segments, each of
which is fitted by the segment of the pattern at its place. -/
theorem fits_iff_forall₂_segments {pattern : String} (h : ¬ ['*', '*'] <:+: pattern.toList)
    (text : String) :
    fits pattern text = true ↔
      List.Forall₂ (fits · · = true) (splitOn '/' pattern) (splitOn '/' text) := by
  rw [splitOn, splitOn, List.forall₂_map_left_iff, List.forall₂_map_right_iff]
  simp only [fits_eq_covers, String.toList_ofList]
  exact covers_iff_forall₂_piecesAt h text.toList

theorem fits_iff_forall₂_segments_source :
    ¬ ['*', '*'] <:+: "src/*/?.rs".toList ∧ fits "src/*/?.rs" "src/glob/a.rs" = true ∧
      fits "src/*/?.rs" "src/glob/a/b.rs" ≠ true := by
  have hstars : ¬ ['*', '*'] <:+: "src/*/?.rs".toList := by decide +kernel
  have hsegments : splitOn '/' "src/*/?.rs" = ["src", "*", "?.rs"] := by decide +kernel
  refine ⟨hstars, ?_, fun h => ?_⟩
  · have htext : splitOn '/' "src/glob/a.rs" = ["src", "glob", "a.rs"] := by decide +kernel
    have hsrc : fits "src" "src" = true := by decide +kernel
    have hdir : fits "*" "glob" = true := by decide +kernel
    have hfile : fits "?.rs" "a.rs" = true := by decide +kernel
    rw [fits_iff_forall₂_segments hstars, hsegments, htext]
    exact .cons hsrc (.cons hdir (.cons hfile .nil))
  · have hlength := ((fits_iff_forall₂_segments hstars _).1 h).length_eq
    exact absurd hlength (by decide +kernel)

end Slipway.Glob
