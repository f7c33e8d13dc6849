import Slipway.Proofs.Text.Separators
import Slipway.Text.Quoted

/-!
# Quoted texts read back

Reading a quoted text gives the text and what follows its closing quote, whatever that is
(`unquote?_escape`), so different texts are quoted differently (`quote_inj`). Within the quotes no
quote follows a blank, since a backslash stands before it.
-/

namespace Slipway.Text

variable {c : Char} {cs cs' rest : List Char} {s t : String}

theorem escape_cons :
    escape (c :: cs) =
      if c = '"' ∨ c = '\\' then '\\' :: c :: escape cs else c :: escape cs := rfl

theorem unquote?_cons (hq : c ≠ '"') (hb : c ≠ '\\') :
    unquote? (c :: rest) = (unquote? rest).map fun (text, rest) => (c :: text, rest) := by
  rw [unquote?]
  · exact hq
  · exact fun _ _ h => absurd h hb

theorem unquote?_escape (cs rest : List Char) :
    unquote? (escape cs ++ '"' :: rest) = some (cs, rest) := by
  induction cs with
  | nil => rfl
  | cons c cs ih =>
    rw [escape_cons]
    split
    · show (unquote? (escape cs ++ '"' :: rest)).map _ = _
      rw [ih]; rfl
    · next h =>
      obtain ⟨hq, hb⟩ := not_or.1 h
      rw [List.cons_append, unquote?_cons hq hb, ih]; rfl

theorem toList_quote (s : String) : (quote s).toList = '"' :: (escape s.toList ++ ['"']) :=
  String.toList_ofList

theorem escape_inj (h : escape cs = escape cs') : cs = cs' := by
  have hr : unquote? (escape cs ++ ['"']) = unquote? (escape cs' ++ ['"']) := by rw [h]
  rw [unquote?_escape, unquote?_escape] at hr
  exact congrArg Prod.fst (Option.some.inj hr)

theorem quote_inj (h : quote s = quote t) : s = t := by
  have hl := congrArg String.toList h
  rw [toList_quote, toList_quote] at hl
  exact String.toList_inj.1 (escape_inj (List.append_cancel_right (List.cons.inj hl).2))

/-- Escaping adds nothing but backslashes. -/
theorem mem_escape_iff (h : c ≠ '\\') : c ∈ escape cs ↔ c ∈ cs := by
  induction cs with
  | nil => exact Iff.rfl
  | cons d cs ih =>
    rw [escape_cons]
    split
    · rw [List.mem_cons, List.mem_cons, List.mem_cons, ih, or_iff_right h]
    · rw [List.mem_cons, List.mem_cons, ih]

theorem oneLine_quote : OneLine (quote s) ↔ OneLine s := by
  rw [OneLine, OneLine, toList_quote, List.mem_cons, List.mem_append, List.mem_singleton,
    mem_escape_iff (by decide), or_iff_right (by decide), or_iff_left (by decide)]

theorem head?_escape_ne : (escape cs).head? ≠ some '"' := by
  cases cs with
  | nil => exact nofun
  | cons c cs =>
    rw [escape_cons]
    split
    · exact fun h => absurd (Option.some.inj h) (by decide)
    · next h => exact fun he => h (.inl (Option.some.inj he))

/-- No quote follows a blank once a text is escaped. -/
theorem not_blank_quote_infix_escape : ¬ [' ', '"'] <:+: escape cs := by
  induction cs with
  | nil => exact fun h => absurd (List.infix_nil.1 h) (by simp)
  | cons c cs ih =>
    rw [escape_cons]
    split
    · next h =>
      rw [pair_infix_cons_iff, pair_infix_cons_iff]
      rintro (⟨he, -⟩ | ⟨rfl, -⟩ | h)
      · exact absurd he (by decide)
      · exact absurd h (by decide)
      · exact ih h
    · rw [pair_infix_cons_iff]
      rintro (⟨-, he⟩ | h)
      · exact head?_escape_ne he
      · exact ih h

end Slipway.Text
