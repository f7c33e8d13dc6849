/-!
# Bytes as UTF-8 text

`utf8Pieces` cuts a byte sequence into characters and, where it is not well formed, into the longest
pieces that could still have begun a character. A strict reader refuses any such piece, a lenient
one puts U+FFFD in its place.
-/

namespace Slipway.Text

/-- The `n` continuation bytes of a character, the first of them within `lo` and `hi`; `acc` holds
the bits read so far. Without a value the bytes do not continue the character, and the rest starts
at the first byte that does not. -/
def utf8Tail : (n lo hi acc : Nat) → List UInt8 → Option Nat × List UInt8
  | 0, _, _, acc, l => (some acc, l)
  | _ + 1, _, _, _, [] => (none, [])
  | n + 1, lo, hi, acc, b :: l =>
    if lo ≤ b.toNat ∧ b.toNat ≤ hi then utf8Tail n 0x80 0xBF (acc * 64 + b.toNat % 64) l
    else (none, b :: l)

theorem utf8Tail_length_le (n lo hi acc : Nat) (l : List UInt8) :
    (utf8Tail n lo hi acc l).2.length ≤ l.length := by
  induction n generalizing lo hi acc l with
  | zero => simp [utf8Tail]
  | succ n ih =>
    cases l with
    | nil => simp [utf8Tail]
    | cons b l =>
      rw [utf8Tail]
      split
      · have := ih 0x80 0xBF (acc * 64 + b.toNat % 64) l
        simp only [List.length_cons]; omega
      · simp

/-- The code point that starts with byte `b`, and the bytes after it. -/
def utf8Next (b : UInt8) (l : List UInt8) : Option Nat × List UInt8 :=
  let n := b.toNat
  if n < 0x80 then (some n, l)
  else if n < 0xC2 then (none, l)
  else if n < 0xE0 then utf8Tail 1 0x80 0xBF (n % 32) l
  else if n = 0xE0 then utf8Tail 2 0xA0 0xBF 0 l
  else if n = 0xED then utf8Tail 2 0x80 0x9F 13 l
  else if n < 0xF0 then utf8Tail 2 0x80 0xBF (n % 16) l
  else if n = 0xF0 then utf8Tail 3 0x90 0xBF 0 l
  else if n < 0xF4 then utf8Tail 3 0x80 0xBF (n % 8) l
  else if n = 0xF4 then utf8Tail 3 0x80 0x8F 4 l
  else (none, l)

theorem utf8Next_length_le (b : UInt8) (l : List UInt8) :
    (utf8Next b l).2.length ≤ l.length := by
  unfold utf8Next
  dsimp only
  repeat' split
  all_goals first | exact Nat.le_refl _ | exact utf8Tail_length_le ..

/-- The characters of a byte sequence, `none` standing for a piece that is not well formed. -/
def utf8Pieces : List UInt8 → List (Option Char)
  | [] => []
  | b :: l =>
    have := utf8Next_length_le b l
    (utf8Next b l).1.map Char.ofNat :: utf8Pieces (utf8Next b l).2
termination_by l => l.length

/-- The text of a well-formed byte sequence. -/
def utf8? (bytes : List UInt8) : Option String :=
  ((utf8Pieces bytes).mapM id).map String.ofList

/-- The text of a byte sequence, with U+FFFD in place of what is not well formed. -/
def utf8Lossy (bytes : List UInt8) : String :=
  String.ofList ((utf8Pieces bytes).map (·.getD (Char.ofNat 0xFFFD)))

end Slipway.Text
