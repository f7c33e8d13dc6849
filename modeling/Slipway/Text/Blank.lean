/-!
# Blank characters

The characters with the Unicode property White_Space, trimming at both ends of a text, and the
emptiness check that ignores them. `Char.isWhitespace` knows six of these characters; settings and
names may hold any of them.
-/

namespace Slipway.Text

/-- The Unicode property White_Space. -/
def isBlank (c : Char) : Bool :=
  let n := c.toNat
  (9 ≤ n && n ≤ 13) || n == 32 || n == 0x85 || n == 0xA0 || n == 0x1680 ||
    (0x2000 ≤ n && n ≤ 0x200A) || n == 0x2028 || n == 0x2029 || n == 0x202F || n == 0x205F ||
    n == 0x3000

/-- Drops the elements at both ends that satisfy `p`. -/
def trimBy {α : Type} (p : α → Bool) (l : List α) : List α :=
  ((l.dropWhile p).reverse.dropWhile p).reverse

/-- The text without the blank characters at its two ends. -/
def trim (s : String) : String :=
  String.ofList (trimBy isBlank s.toList)

/-- Whether nothing but blank characters occurs. -/
def allBlank (s : String) : Bool :=
  s.toList.all isBlank

end Slipway.Text
