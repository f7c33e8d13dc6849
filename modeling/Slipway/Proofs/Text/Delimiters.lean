import Slipway.Proofs.Text.Quoted
import Slipway.Proofs.Text.Replacement

/-!
# Where a quoted text ends

A reader that takes a backslash to protect the next character and starts at the opening quote of a
quoted text stops at its closing quote, whatever is quoted and whatever follows. What it has passed
gives back the text once the protecting backslashes are taken away (`quote_delimits`).

Quoting is also two replacements one after the other (`quote_eq_replaceAll`): backslashes are
doubled first, so those that are put before the quotes afterwards stay single.
-/

namespace Slipway.Text

/-! ### Scanning -/

/-- What stands before the first quote that no backslash protects, as it is written, and what
follows this quote. -/
def spanQuote? : List Char → Option (List Char × List Char)
  | [] => none
  | '"' :: rest => some ([], rest)
  | '\\' :: c :: rest => (spanQuote? rest).map fun (inner, rest) => ('\\' :: c :: inner, rest)
  | c :: rest => (spanQuote? rest).map fun (inner, rest) => (c :: inner, rest)

/-- What a text that starts with a quote holds up to the quote that closes it, as it is written, and
what follows. -/
def scan? : List Char → Option (List Char × List Char)
  | '"' :: rest => spanQuote? rest
  | _ => none

/-- The characters of a text without the backslashes that protect another one. -/
def unescape : List Char → List Char
  | [] => []
  | '\\' :: c :: rest => c :: unescape rest
  | c :: rest => c :: unescape rest

variable {c : Char} {cs l inner rest : List Char}

theorem spanQuote?_cons (hq : c ≠ '"') (hb : c ≠ '\\') :
    spanQuote? (c :: rest) = (spanQuote? rest).map fun (inner, rest) => (c :: inner, rest) := by
  rw [spanQuote?]
  · exact hq
  · exact fun _ _ h => absurd h hb

/-- Reading at once is scanning first and taking the backslashes away afterwards. -/
theorem unquote?_eq_map_spanQuote? (l : List Char) :
    unquote? l = (spanQuote? l).map fun (inner, rest) => (unescape inner, rest) := by
  induction l using spanQuote?.induct with
  | case1 => rfl
  | case2 rest => rfl
  | case3 c rest ih =>
    rw [unquote?, spanQuote?, ih, Option.map_map, Option.map_map]
    rfl
  | case4 c rest hq hb ih =>
    rw [unquote?.eq_4 _ _ hq hb, spanQuote?.eq_4 _ _ hq hb, ih, Option.map_map, Option.map_map]
    cases rest with
    | nil => rfl
    | cons d rest =>
      have hc : c ≠ '\\' := fun hc => hb d rest hc rfl
      refine congrArg (Option.map · _) (funext fun p => Prod.ext ?_ rfl)
      exact (unescape.eq_3 _ _ fun _ _ h => absurd h hc).symm

/-- What follows the closing quote is not looked at. -/
theorem spanQuote?_append (h : spanQuote? l = some (inner, rest)) (later : List Char) :
    spanQuote? (l ++ later) = some (inner, rest ++ later) := by
  induction l using spanQuote?.induct generalizing inner with
  | case1 => cases h
  | case2 rest' => cases h; rfl
  | case3 c rest' ih =>
    obtain ⟨p, hp, he⟩ := Option.map_eq_some_iff.1 h
    cases he
    show (spanQuote? (rest' ++ later)).map _ = _
    rw [ih hp]; rfl
  | case4 c rest' hq hb ih =>
    rw [spanQuote?.eq_4 _ _ hq hb] at h
    obtain ⟨p, hp, he⟩ := Option.map_eq_some_iff.1 h
    cases he
    have hc : c ≠ '\\' := by
      rintro rfl
      cases rest' with
      | nil => cases hp
      | cons d rest' => exact hb d rest' rfl rfl
    rw [List.cons_append, spanQuote?_cons hq hc, ih hp]; rfl

theorem spanQuote?_escape (cs rest : List Char) :
    spanQuote? (escape cs ++ '"' :: rest) = some (escape cs, rest) := by
  induction cs with
  | nil => rfl
  | cons c cs ih =>
    rw [escape_cons]
    split
    · show (spanQuote? (escape cs ++ '"' :: rest)).map _ = _
      rw [ih]; rfl
    · next h =>
      obtain ⟨hq, hb⟩ := not_or.1 h
      rw [List.cons_append, spanQuote?_cons hq hb, ih]; rfl

theorem unescape_escape (cs : List Char) : unescape (escape cs) = cs := by
  have h := unquote?_eq_map_spanQuote? (escape cs ++ ['"'])
  rw [unquote?_escape, spanQuote?_escape] at h
  exact (congrArg Prod.fst (Option.some.inj h)).symm

theorem scan?_quote (value : String) (rest : List Char) :
    scan? ((quote value).toList ++ rest) = some (escape value.toList, rest) := by
  rw [toList_quote, List.cons_append, List.append_assoc]
  exact spanQuote?_escape value.toList rest

/-! ### Two replacements -/

theorem escape_eq_replaceFrom (cs : List Char) :
    escape cs =
      replaceFrom ['"'] ['\\', '"'] 0 (replaceFrom ['\\'] ['\\', '\\'] 0 cs) := by
  have hself : ∀ (x : Char) (sub r : List Char),
      replaceFrom [x] sub 0 (x :: r) = sub ++ replaceFrom [x] sub 0 r :=
    fun x sub r => replaceFrom_append_self (List.cons_ne_nil x []) sub r
  have hother : ∀ {x c : Char}, c ≠ x → ∀ sub r : List Char,
      replaceFrom [x] sub 0 (c :: r) = c :: replaceFrom [x] sub 0 r := fun hne sub r =>
    replaceFrom_cons_of_not_isPrefix fun hp => hne (List.cons_prefix_cons.1 hp).1.symm
  induction cs with
  | nil => rfl
  | cons c cs ih =>
    rw [escape_cons]
    by_cases hb : c = '\\'
    · -- the second replacement passes both backslashes by
      subst hb
      rw [if_pos (.inr rfl), hself, List.cons_append, List.cons_append, List.nil_append,
        hother (by decide), hother (by decide), ih]
    · rw [hother hb]
      by_cases hq : c = '"'
      · subst hq
        rw [if_pos (.inl rfl), hself, ih]; rfl
      · rw [if_neg (not_or.2 ⟨hq, hb⟩), hother hq, ih]

theorem quote_eq_replaceAll (value : String) :
    quote value = "\"" ++ replaceAll "\"" "\\\"" (replaceAll "\\" "\\\\" value) ++ "\"" := by
  rw [← String.toList_inj, toList_quote, escape_eq_replaceFrom]
  simp [replaceAll]

/-! ### Quoted texts within texts -/

/-- A scan from the opening quote of a quoted text stops at its closing quote, whatever follows, and
without the protecting backslashes what it has passed is the text. Before the closing quote there is
none that could end the text, and no two texts are quoted alike, also not if more follows. -/
theorem quote_delimits (value following : String) :
    (∃ inner, (quote value).toList = '"' :: (inner ++ ['"']) ∧
      scan? (quote value ++ following).toList = some (inner, following.toList) ∧
      unescape inner = value.toList) ∧
    (∀ part, part <+: (quote value).toList → part ≠ (quote value).toList → scan? part = none) ∧
    (∀ value' following', quote value' ++ following' = quote value ++ following →
      value' = value ∧ following' = following) ∧
    quote value = "\"" ++ replaceAll "\"" "\\\"" (replaceAll "\\" "\\\\" value) ++ "\"" := by
  have hscan : ∀ value following : String,
      scan? (quote value ++ following).toList = some (escape value.toList, following.toList) := by
    intro value following
    rw [String.toList_append, scan?_quote]
  refine ⟨⟨escape value.toList, toList_quote value, hscan value following, unescape_escape _⟩,
    ?_, fun value' following' h => ?_, quote_eq_replaceAll value⟩
  · rintro part ⟨later, hlater⟩ hne
    cases part with
    | nil => rfl
    | cons c part =>
      rw [toList_quote] at hlater hne
      rw [List.cons_append] at hlater
      obtain ⟨rfl, hpart⟩ := List.cons.inj hlater
      cases hs : spanQuote? part with
      | none => exact hs
      | some p =>
        -- the part would be scanned to the end of the whole, so nothing is missing
        obtain ⟨inner, rest⟩ := p
        have hwhole := spanQuote?_append hs later
        rw [hpart, spanQuote?_escape] at hwhole
        have hnil : rest ++ later = [] := (congrArg Prod.snd (Option.some.inj hwhole)).symm
        rw [(List.append_eq_nil_iff.1 hnil).2, List.append_nil] at hpart
        exact absurd (by rw [hpart]) hne
  · have he : some (escape value'.toList, following'.toList) =
        some (escape value.toList, following.toList) := by rw [← hscan, ← hscan, h]
    obtain ⟨hv, hf⟩ := Prod.mk.inj (Option.some.inj he)
    exact ⟨String.toList_inj.1 (escape_inj hv), String.toList_inj.1 hf⟩

/-- A value with a quote within and a backslash at its end, without its closing quote. -/
theorem quote_delimits_cut :
    (quote "a\"\\").toList = ['"', 'a', '\\', '"', '\\', '\\', '"'] ∧
      scan? ['"', 'a', '\\', '"', '\\', '\\'] = none := by
  have hquote : (quote "a\"\\").toList = ['"', 'a', '\\', '"', '\\', '\\', '"'] := by decide
  refine ⟨hquote, (quote_delimits "a\"\\" "").2.1 _ ?_ ?_⟩
  · rw [hquote]; exact ⟨['"'], rfl⟩
  · rw [hquote]; decide

end Slipway.Text
