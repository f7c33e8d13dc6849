import Slipway.Text.Search

/-!
# Texts taken apart

When a list was put together from parts, its parts can be read off if something tells where they
end: a property that all elements of the first part have and the next element has not
(`append_inj_of_all`), or a separator that occurs in none of the parts. The separators here are the
end of the line (`join_inj`) and pairs of different elements, which cannot overlap
(`append_pair_inj`, `intercalate_pair_inj`). Cutting at a character takes a text apart in the same
way (`splitOn_intercalate`); a part that holds the separator is cut itself (`splitOn_join_lines`).
A single cut is made at the first place of the character (`splitFirst?_eq_some_iff`).
-/

namespace Slipway.Text

section
variable {α : Type} {x y z : α} {a a' b b' l : List α} {p : α → Prop}

/-- The elements at the start of a list that have a property are read off. -/
theorem append_inj_of_all (ha : ∀ z ∈ a, p z) (ha' : ∀ z ∈ a', p z) (hb : ∀ z ∈ b.head?, ¬ p z)
    (hb' : ∀ z ∈ b'.head?, ¬ p z) (h : a ++ b = a' ++ b') : a = a' ∧ b = b' := by
  induction a generalizing a' with
  | nil =>
    cases a' with
    | nil => exact ⟨rfl, h⟩
    | cons z a' =>
      rw [List.nil_append] at h
      subst h
      exact absurd (ha' z List.mem_cons_self) (hb z rfl)
  | cons z a ih =>
    cases a' with
    | nil =>
      rw [List.nil_append] at h
      subst h
      exact absurd (ha z List.mem_cons_self) (hb' z rfl)
    | cons z' a' =>
      obtain ⟨rfl, htail⟩ := List.cons.inj h
      obtain ⟨rfl, rfl⟩ := ih (fun z hz => ha z (List.mem_cons_of_mem _ hz))
        (fun z hz => ha' z (List.mem_cons_of_mem _ hz)) htail
      exact ⟨rfl, rfl⟩

/-! ### Pairs -/

theorem pair_infix_cons_iff :
    [x, y] <:+: z :: l ↔ (x = z ∧ l.head? = some y) ∨ [x, y] <:+: l := by
  rw [List.infix_cons_iff, List.cons_prefix_cons]
  cases l with
  | nil => simp
  | cons c l => simp [@eq_comm _ y c]

theorem pair_infix_append (a b : List α) : [x, y] <:+: a ++ x :: y :: b :=
  ⟨a, b, by rw [List.append_assoc]; rfl⟩

/-- Two ways to part a list at a pair are the same, unless one part holds the pair itself. -/
theorem append_pair_cases (hxy : x ≠ y) (h : a ++ x :: y :: b = a' ++ x :: y :: b') :
    (a = a' ∧ b = b') ∨ (∃ t, a' = a ++ x :: y :: t ∧ b = t ++ x :: y :: b') ∨
      ∃ t, a = a' ++ x :: y :: t ∧ b' = t ++ x :: y :: b := by
  -- What the longer first part adds starts with the pair, or else the pair would overlap itself.
  have key : ∀ {u b b' : List α}, x :: y :: b = u ++ x :: y :: b' →
      u = [] ∧ b = b' ∨ ∃ t, u = x :: y :: t ∧ b = t ++ x :: y :: b' := by
    intro u b b' h
    match u with
    | [] => exact .inl ⟨rfl, by simpa using h⟩
    | [_] => exact absurd (List.cons.inj (List.cons.inj h).2).1.symm hxy
    | z :: z' :: t =>
      obtain ⟨hx, htail⟩ := List.cons.inj h
      obtain ⟨hy, hb⟩ := List.cons.inj htail
      exact .inr ⟨t, by rw [hx, hy], hb⟩
  obtain ⟨u, rfl, hu⟩ | ⟨u, rfl, hu⟩ := List.append_eq_append_iff.1 h
  · obtain ⟨rfl, rfl⟩ | ⟨t, rfl, rfl⟩ := key hu
    · exact .inl ⟨(List.append_nil a).symm, rfl⟩
    · exact .inr (.inl ⟨t, rfl, rfl⟩)
  · obtain ⟨rfl, rfl⟩ | ⟨t, rfl, rfl⟩ := key hu
    · exact .inl ⟨List.append_nil a', rfl⟩
    · exact .inr (.inr ⟨t, rfl, rfl⟩)

/-- The first occurrence of a pair parts a list in one way. -/
theorem append_pair_inj (hxy : x ≠ y) (ha : ¬ [x, y] <:+: a) (ha' : ¬ [x, y] <:+: a')
    (h : a ++ x :: y :: b = a' ++ x :: y :: b') : a = a' ∧ b = b' := by
  obtain h | ⟨t, rfl, -⟩ | ⟨t, rfl, -⟩ := append_pair_cases hxy h
  · exact h
  · exact absurd (pair_infix_append a t) ha'
  · exact absurd (pair_infix_append a' t) ha

/-- The last occurrence of a pair parts a list in one way. -/
theorem append_pair_inj' (hxy : x ≠ y) (hb : ¬ [x, y] <:+: b) (hb' : ¬ [x, y] <:+: b')
    (h : a ++ x :: y :: b = a' ++ x :: y :: b') : a = a' ∧ b = b' := by
  obtain h | ⟨t, -, rfl⟩ | ⟨t, -, rfl⟩ := append_pair_cases hxy h
  · exact h
  · exact absurd (pair_infix_append t b') hb
  · exact absurd (pair_infix_append t b) hb'

/-- Parts that do not hold the pair between them are read off. -/
theorem intercalate_pair_inj (hxy : x ≠ y) {ls ls' : List (List α)} (hne : ls ≠ [])
    (hne' : ls' ≠ []) (hl : ∀ l ∈ ls, ¬ [x, y] <:+: l) (hl' : ∀ l ∈ ls', ¬ [x, y] <:+: l)
    (h : [x, y].intercalate ls = [x, y].intercalate ls') : ls = ls' := by
  induction ls generalizing ls' with
  | nil => exact absurd rfl hne
  | cons a rest ih =>
    obtain ⟨ha, hrest⟩ := List.forall_mem_cons.1 hl
    cases ls' with
    | nil => exact absurd rfl hne'
    | cons a' rest' =>
      obtain ⟨ha', hrest'⟩ := List.forall_mem_cons.1 hl'
      cases rest with
      | nil =>
        cases rest' with
        | nil => simpa using h
        | cons b' rest' =>
          rw [List.intercalate_singleton, List.intercalate_cons_cons, List.append_assoc] at h
          exact absurd (h ▸ pair_infix_append a' _) ha
      | cons b rest =>
        cases rest' with
        | nil =>
          rw [List.intercalate_singleton, List.intercalate_cons_cons, List.append_assoc] at h
          exact absurd (h ▸ pair_infix_append a _) ha'
        | cons b' rest' =>
          rw [List.intercalate_cons_cons, List.intercalate_cons_cons, List.append_assoc,
            List.append_assoc] at h
          obtain ⟨rfl, htail⟩ := append_pair_inj hxy ha ha' h
          rw [ih (by simp) (by simp) hrest hrest' htail]

end

/-! ### Cut at a character -/

theorem piecesAt_eq_splitOn (c : Char) (l : List Char) : piecesAt c l = l.splitOn c := by
  induction l with
  | nil => rfl
  | cons x xs ih =>
    have hne := piecesAt_ne_nil c xs
    rw [ih] at hne
    rw [piecesAt, ih, List.splitOn_cons_eq_if_modifyHead]
    obtain ⟨p, ps, hp⟩ := List.exists_cons_of_ne_nil hne
    simp [hp]

/-- Parts that do not hold the character are read off the text that it joins. -/
theorem splitOn_intercalate {c : Char} {parts : List String} (hne : parts ≠ [])
    (h : ∀ part ∈ parts, c ∉ part.toList) :
    splitOn c ((String.singleton c).intercalate parts) = parts := by
  have hlists : ∀ l ∈ parts.map String.toList, c ∉ l := by
    intro l hl
    obtain ⟨part, hp, rfl⟩ := List.mem_map.1 hl
    exact h part hp
  rw [splitOn, piecesAt_eq_splitOn, String.toList_intercalate, String.toList_singleton,
    List.splitOn_intercalate c hlists (by simpa using hne), List.map_map]
  simp [Function.comp_def]

theorem not_mem_of_mem_piecesAt {c : Char} {l piece : List Char} (h : piece ∈ piecesAt c l) :
    c ∉ piece := by
  induction l generalizing piece with
  | nil =>
    rw [List.mem_singleton.1 h]
    exact List.not_mem_nil
  | cons x xs ih =>
    obtain ⟨p, ps, hp⟩ := List.exists_cons_of_ne_nil (piecesAt_ne_nil c xs)
    rw [hp] at ih
    rw [piecesAt, hp] at h
    split at h
    · rcases List.mem_cons.1 h with rfl | h
      · exact List.not_mem_nil
      · exact ih h
    · next hx =>
      rcases List.mem_cons.1 h with rfl | h
      · rw [List.mem_cons, not_or]
        exact ⟨Ne.symm hx, ih List.mem_cons_self⟩
      · exact ih (List.mem_cons_of_mem p h)

/-- The first piece ends where the character occurs first. -/
theorem piecesAt_cases (c : Char) (l : List Char) :
    (c ∉ l ∧ piecesAt c l = [l]) ∨
      ∃ a b, l = a ++ c :: b ∧ c ∉ a ∧ piecesAt c l = a :: piecesAt c b := by
  by_cases h : c ∈ l
  · obtain ⟨a, b, rfl, ha⟩ := List.eq_append_cons_of_mem h
    refine .inr ⟨a, b, rfl, ha, ?_⟩
    simp only [piecesAt_eq_splitOn, List.splitOn_append_cons_self, List.splitOn_eq_singleton ha,
      List.singleton_append]
  · exact .inl ⟨h, by rw [piecesAt_eq_splitOn, List.splitOn_eq_singleton h]⟩

theorem splitOn_of_not_mem {c : Char} {s : String} (h : c ∉ s.toList) : splitOn c s = [s] := by
  rw [splitOn, piecesAt_eq_splitOn, List.splitOn_eq_singleton h, List.map_singleton,
    String.ofList_toList]

theorem splitOn_append_cons {c : Char} (s t : String) :
    splitOn c (s ++ String.singleton c ++ t) = splitOn c s ++ splitOn c t := by
  simp only [splitOn, piecesAt_eq_splitOn, String.toList_append, String.toList_singleton,
    List.append_assoc, List.singleton_append, List.splitOn_append_cons_self, List.map_append]

theorem cutAt?_eq_none_iff {c : Char} {l : List Char} : cutAt? c l = none ↔ c ∉ l := by
  induction l with
  | nil => simp [cutAt?]
  | cons x xs ih =>
    rw [cutAt?, List.mem_cons, not_or]
    split
    · next hx => simp [hx]
    · next hx => rw [Option.map_eq_none_iff, ih, and_iff_right (Ne.symm hx)]

theorem cutAt?_append_cons {c : Char} {a : List Char} (h : c ∉ a) (b : List Char) :
    cutAt? c (a ++ c :: b) = some (a, b) := by
  induction a with
  | nil => exact if_pos rfl
  | cons x a ih =>
    obtain ⟨hx, ha⟩ := not_or.1 (mt List.mem_cons.2 h)
    rw [List.cons_append, cutAt?, if_neg (Ne.symm hx), ih ha]
    rfl

/-- A text is cut where the character occurs first. -/
theorem splitFirst?_eq_some_iff {c : Char} {s a b : String} :
    splitFirst? c s = some (a, b) ↔ s = a ++ String.singleton c ++ b ∧ c ∉ a.toList := by
  have hcut : ∀ {a b : String}, c ∉ a.toList →
      splitFirst? c (a ++ String.singleton c ++ b) = some (a, b) := by
    intro a b ha
    have htext : (a ++ String.singleton c ++ b).toList = a.toList ++ c :: b.toList := by simp
    rw [splitFirst?, htext, cutAt?_append_cons ha]
    simp only [Option.map_some, String.ofList_toList]
  constructor
  · intro h
    have hmem : c ∈ s.toList := by
      refine Classical.byContradiction fun hmem => ?_
      rw [splitFirst?, cutAt?_eq_none_iff.2 hmem] at h
      cases h
    obtain ⟨a', b', hs, ha'⟩ := List.eq_append_cons_of_mem hmem
    obtain rfl : s = String.ofList a' ++ String.singleton c ++ String.ofList b' := by
      rw [← String.toList_inj, hs]
      simp
    have ha : c ∉ (String.ofList a').toList := by rwa [String.toList_ofList]
    rw [hcut ha] at h
    cases h
    exact ⟨rfl, ha⟩
  · rintro ⟨rfl, ha⟩
    exact hcut ha

theorem splitFirst?_eq_none_iff {c : Char} {s : String} :
    splitFirst? c s = none ↔ c ∉ s.toList := by
  rw [splitFirst?, Option.map_eq_none_iff, cutAt?_eq_none_iff]

/-! ### Lines -/

/-- Whether a text stays on one line. -/
def OneLine (s : String) : Prop :=
  '\n' ∉ s.toList

instance (s : String) : Decidable (OneLine s) :=
  inferInstanceAs (Decidable ('\n' ∉ s.toList))

/-- Whether a text is a line with its end. -/
def IsLine (l : String) : Prop :=
  ∃ s, OneLine s ∧ l = s ++ "\n"

theorem oneLine_append {s t : String} : OneLine (s ++ t) ↔ OneLine s ∧ OneLine t := by
  simp [OneLine]

theorem oneLine_intercalate {sep : String} {ss : List String} (hsep : OneLine sep) :
    OneLine (sep.intercalate ss) ↔ ∀ s ∈ ss, OneLine s := by
  induction ss with
  | nil => exact ⟨fun _ => nofun, fun _ => List.not_mem_nil⟩
  | cons s ss ih =>
    cases ss with
    | nil => rw [String.intercalate_singleton, List.forall_mem_singleton]
    | cons s' ss =>
      rw [String.intercalate_cons_cons, oneLine_append, oneLine_append, and_iff_left hsep, ih,
        ← List.forall_mem_cons (p := OneLine)]

/-- Each text of a file is cut where it holds the end of a line itself. -/
theorem splitOn_join_lines (rows : List String) :
    splitOn '\n' (String.join (rows.map (· ++ "\n"))) = rows.flatMap (splitOn '\n') ++ [""] := by
  induction rows with
  | nil => rfl
  | cons row rows ih =>
    have hrow : splitOn '\n' (row ++ "\n" ++ String.join (rows.map (· ++ "\n"))) =
        splitOn '\n' row ++ splitOn '\n' (String.join (rows.map (· ++ "\n"))) :=
      splitOn_append_cons row _
    rw [List.map_cons, String.join_cons, hrow, ih, List.flatMap_cons, List.append_assoc]

/-- Texts are not cut exactly if each stays on one line. -/
theorem flatMap_splitOn_eq_iff (rows : List String) :
    rows.flatMap (splitOn '\n') = rows ↔ ∀ row ∈ rows, OneLine row := by
  constructor
  · intro h row hrow
    rw [← h] at hrow
    obtain ⟨text, -, hpiece⟩ := List.mem_flatMap.1 hrow
    obtain ⟨piece, hmem, rfl⟩ := List.mem_map.1 hpiece
    rw [OneLine, String.toList_ofList]
    exact not_mem_of_mem_piecesAt hmem
  · intro h
    induction rows with
    | nil => rfl
    | cons row rows ih =>
      obtain ⟨hrow, hrows⟩ := List.forall_mem_cons.1 h
      rw [List.flatMap_cons, splitOn_of_not_mem hrow, ih hrows, List.singleton_append]

/-- Lines are read off the text that they make up. -/
theorem join_inj {ls ls' : List String} (hl : ∀ l ∈ ls, IsLine l) (hl' : ∀ l ∈ ls', IsLine l)
    (h : String.join ls = String.join ls') : ls = ls' := by
  induction ls generalizing ls' with
  | nil =>
    cases ls' with
    | nil => rfl
    | cons l' rest' =>
      obtain ⟨s, -, rfl⟩ := hl' l' List.mem_cons_self
      simp at h
  | cons l rest ih =>
    obtain ⟨⟨s, hs, rfl⟩, hrest⟩ := List.forall_mem_cons.1 hl
    cases ls' with
    | nil => simp at h
    | cons l' rest' =>
      obtain ⟨⟨s', hs', rfl⟩, hrest'⟩ := List.forall_mem_cons.1 hl'
      have hc : s.toList ++ '\n' :: (String.join rest).toList =
          s'.toList ++ '\n' :: (String.join rest').toList := by
        simpa [String.join_cons] using congrArg String.toList h
      obtain ⟨he, hj⟩ := append_inj_of_all (p := (· ≠ '\n')) (fun c hc he => hs (he ▸ hc))
        (fun c hc he => hs' (he ▸ hc)) (by simp) (by simp) hc
      rw [String.toList_inj.1 he, ih hrest hrest' (String.toList_inj.1 (List.cons.inj hj).2)]

end Slipway.Text
