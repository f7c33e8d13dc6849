import Slipway.Number.Binary64
import Slipway.Text.Blank

/-!
# Numbers as they are written

A whole number is written with a digit, and so is a floating point number unless it is written as a
word. What stands for a number is therefore never blank.
-/

namespace Slipway.Text

variable {cs cs' : List Char} {s : String} {c : Char}

/-- Whether a digit is among some characters. -/
def HasDigit (cs : List Char) : Prop :=
  ∃ c ∈ cs, c.isDigit = true

theorem isBlank_eq_false_of_isDigit (h : c.isDigit = true) : isBlank c = false := by
  simp only [Char.isDigit, Bool.and_eq_true, decide_eq_true_eq, UInt32.le_iff_toNat_le] at h
  have hn : 48 ≤ c.toNat ∧ c.toNat ≤ 57 := h
  simp only [isBlank]
  grind

theorem HasDigit.allBlank (h : HasDigit s.toList) : allBlank s = false := by
  obtain ⟨c, hc, hd⟩ := h
  rw [Text.allBlank, List.all_eq_false]
  exact ⟨c, hc, by simp [isBlank_eq_false_of_isDigit hd]⟩

theorem HasDigit.mono (h : HasDigit cs) (hs : cs ⊆ cs') : HasDigit cs' := by
  obtain ⟨c, hc, hd⟩ := h
  exact ⟨c, hs hc, hd⟩

theorem hasDigit_of_all (hne : cs ≠ []) (h : ∀ c ∈ cs, c.isDigit = true) : HasDigit cs := by
  obtain ⟨c, hc⟩ := List.exists_mem_of_ne_nil cs hne
  exact ⟨c, hc, h c hc⟩

end Slipway.Text

namespace Slipway.Number

open Text

theorem isDigit_of_mem_toDigits (n : Nat) : ∀ c ∈ Nat.toDigits 10 n, c.isDigit = true :=
  fun _ hc => Nat.isDigit_of_mem_toDigits (by decide) (by decide) hc

theorem hasDigit_toString (n : Int) : HasDigit (toString n).toList := by
  have hnat : ∀ m : Nat, HasDigit (Nat.repr m).toList := by
    intro m
    rw [Nat.repr, String.toList_ofList]
    exact hasDigit_of_all Nat.toDigits_ne_nil (isDigit_of_mem_toDigits m)
  cases n with
  | ofNat m => exact hnat m
  | negSucc m =>
    have h : (toString (Int.negSucc m)).toList = "-".toList ++ (Nat.repr m.succ).toList :=
      String.toList_append
    rw [h]
    exact (hnat m.succ).mono (List.subset_append_right _ _)

namespace Binary64

theorem hasDigit_positional (d : Nat) (u : Int) : HasDigit (positional d u) := by
  have hdigits := isDigit_of_mem_toDigits d
  rw [positional]
  split
  · exact (hasDigit_of_all Nat.toDigits_ne_nil hdigits).mono (List.subset_append_left _ _)
  · simp only [List.splitAt_eq]
    generalize hp : List.replicate ((-u).toNat + 1 - (Nat.toDigits 10 d).length) '0' ++
      Nat.toDigits 10 d = padded
    have hlen : (-u).toNat < padded.length := by
      subst hp
      simp
      omega
    have hall : ∀ c ∈ padded, c.isDigit = true := by
      subst hp
      intro c hc
      rcases List.mem_append.1 hc with hc | hc
      · rw [List.eq_of_mem_replicate hc]; decide
      · exact hdigits c hc
    -- zeros are put in front so that a digit is left before the point
    have hwhole : HasDigit (padded.take (padded.length - (-u).toNat)) := by
      refine hasDigit_of_all (fun h => ?_) fun c hc => hall c (List.mem_of_mem_take hc)
      have hzero := congrArg List.length h
      rw [List.length_take, List.length_nil] at hzero
      omega
    split
    · exact hwhole
    · exact hwhole.mono (List.subset_append_left _ _)

/-- A number is written with a digit or as a word. -/
theorem allBlank_toText (x : Binary64) : allBlank x.toText = false := by
  cases x with
  | nan => decide
  | infinite negative => cases negative <;> decide
  | finite negative m q =>
    have hbody : HasDigit
        (if m = 0 then ['0'] else positional (shortest m q).1 (shortest m q).2) := by
      split
      · exact ⟨'0', by simp, by decide⟩
      · exact hasDigit_positional _ _
    refine HasDigit.allBlank ?_
    rw [toText, String.toList_ofList]
    split
    · exact hbody.mono (List.subset_cons_self _ _)
    · exact hbody

end Binary64

end Slipway.Number
