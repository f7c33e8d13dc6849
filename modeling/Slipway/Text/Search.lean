/-!
# Splitting and replacing

Texts are cut at a character (`splitOn`, `splitFirst?`) or at positions counted in bytes
(`betweenBytes?`, `fromByte?`), tested for a leading part (`afterLead?`), and rewritten by replacing
every occurrence of a pattern in one pass from left to right (`replaceAll`). The work is done on
lists of characters; the functions on `String` only convert.
-/

namespace Slipway.Text

/-! ### Cutting at a character -/

/-- The pieces between the occurrences of `c`, empty ones included; never the empty list. -/
def piecesAt (c : Char) : List Char → List (List Char)
  | [] => [[]]
  | x :: xs =>
    if x = c then [] :: piecesAt c xs
    else
      match piecesAt c xs with
      | [] => [[x]]
      | p :: ps => (x :: p) :: ps

theorem piecesAt_ne_nil (c : Char) (l : List Char) : piecesAt c l ≠ [] := by
  cases l with
  | nil => simp [piecesAt]
  | cons x xs =>
    rw [piecesAt]
    split
    · simp
    · split <;> simp

/-- The pieces of a text between the occurrences of `c`, empty ones included. -/
def splitOn (c : Char) (s : String) : List String :=
  (piecesAt c s.toList).map String.ofList

/-- What stands before and after the first `c`, if there is one. -/
def cutAt? (c : Char) : List Char → Option (List Char × List Char)
  | [] => none
  | x :: xs => if x = c then some ([], xs) else (cutAt? c xs).map fun (a, b) => (x :: a, b)

/-- What stands before and after the first `c`, if there is one. -/
def splitFirst? (c : Char) (s : String) : Option (String × String) :=
  (cutAt? c s.toList).map fun (a, b) => (String.ofList a, String.ofList b)

/-! ### Cutting at positions -/

/-- How many bytes some characters take. -/
def byteCount : List Char → Nat
  | [] => 0
  | c :: cs => c.utf8Size + byteCount cs

/-- What follows the first `n` bytes, unless they end within a character. -/
def dropBytes? : (n : Nat) → List Char → Option (List Char)
  | 0, cs => some cs
  | _ + 1, [] => none
  | n + 1, c :: cs => if c.utf8Size ≤ n + 1 then dropBytes? (n + 1 - c.utf8Size) cs else none

/-- The first `n` bytes, unless they end within a character. -/
def takeBytes? : (n : Nat) → List Char → Option (List Char)
  | 0, _ => some []
  | _ + 1, [] => none
  | n + 1, c :: cs =>
    if c.utf8Size ≤ n + 1 then (takeBytes? (n + 1 - c.utf8Size) cs).map (c :: ·) else none

theorem dropBytes?_utf8Size_add (c : Char) (n : Nat) (cs : List Char) :
    dropBytes? (c.utf8Size + n) (c :: cs) = dropBytes? n cs := by
  obtain ⟨k, hk⟩ := Nat.exists_eq_succ_of_ne_zero (Nat.ne_of_gt (Char.utf8Size_pos c))
  rw [show c.utf8Size + n = k + n + 1 by omega, dropBytes?, if_pos (by omega),
    show k + n + 1 - c.utf8Size = n by omega]

theorem takeBytes?_utf8Size_add (c : Char) (n : Nat) (cs : List Char) :
    takeBytes? (c.utf8Size + n) (c :: cs) = (takeBytes? n cs).map (c :: ·) := by
  obtain ⟨k, hk⟩ := Nat.exists_eq_succ_of_ne_zero (Nat.ne_of_gt (Char.utf8Size_pos c))
  rw [show c.utf8Size + n = k + n + 1 by omega, takeBytes?, if_pos (by omega),
    show k + n + 1 - c.utf8Size = n by omega]

theorem dropBytes?_byteCount_append (l r : List Char) :
    dropBytes? (byteCount l) (l ++ r) = some r := by
  induction l with
  | nil => simp [byteCount, dropBytes?]
  | cons c l ih => rw [byteCount, List.cons_append, dropBytes?_utf8Size_add, ih]

theorem takeBytes?_byteCount_append (l r : List Char) :
    takeBytes? (byteCount l) (l ++ r) = some l := by
  induction l with
  | nil => simp [byteCount, takeBytes?]
  | cons c l ih => rw [byteCount, List.cons_append, takeBytes?_utf8Size_add, ih]; rfl

/-- The part of a text that ends `stop` bytes and starts `start` bytes after its start, unless it
would cut a character in two. -/
def betweenBytes? (s : String) (start stop : Nat) : Option String :=
  ((dropBytes? start s.toList).bind (takeBytes? (stop - start))).map String.ofList

/-- The part of a text that starts `start` bytes after its start, unless it would cut a character in
two. -/
def fromByte? (s : String) (start : Nat) : Option String :=
  (dropBytes? start s.toList).map String.ofList

/-! ### Leading parts -/

/-- What follows `lead` in a list that starts with it. -/
def dropLead? : List Char → List Char → Option (List Char)
  | [], l => some l
  | _ :: _, [] => none
  | a :: as, x :: xs => if a = x then dropLead? as xs else none

theorem dropLead?_eq_some_iff {lead l r : List Char} :
    dropLead? lead l = some r ↔ l = lead ++ r := by
  induction lead generalizing l with
  | nil => simp [dropLead?]
  | cons a as ih =>
    cases l with
    | nil => simp [dropLead?]
    | cons x xs =>
      by_cases h : a = x
      · subst h; simp [dropLead?, ih]
      · simp [dropLead?, h, Ne.symm h]

/-- What follows `lead` in a text that starts with it. -/
def afterLead? (lead s : String) : Option String :=
  (dropLead? lead.toList s.toList).map String.ofList

/-! ### Replacing -/

/-- One pass from left to right: where the rest starts with the non-empty `pat` it is replaced by
`sub`, and the pass goes on after it; any other character is kept. The first `skip` characters
belong to an occurrence that has already been replaced. -/
def replaceFrom (pat sub : List Char) : (skip : Nat) → List Char → List Char
  | _, [] => []
  | skip + 1, _ :: xs => replaceFrom pat sub skip xs
  | 0, x :: xs =>
    if pat ≠ [] ∧ pat.isPrefixOf (x :: xs) then sub ++ replaceFrom pat sub (pat.length - 1) xs
    else x :: replaceFrom pat sub 0 xs

theorem replaceFrom_eq_drop (pat sub : List Char) (n : Nat) (l : List Char) :
    replaceFrom pat sub n l = replaceFrom pat sub 0 (l.drop n) := by
  induction l generalizing n with
  | nil => cases n <;> simp [replaceFrom]
  | cons x xs ih =>
    cases n with
    | zero => rfl
    | succ n => simpa [replaceFrom] using ih n

/-- Replaces every occurrence of `pat` by `sub`, from left to right. -/
def replaceAll (pat sub s : String) : String :=
  String.ofList (replaceFrom pat.toList sub.toList 0 s.toList)

/-! ### Letter case -/

/-- The text with the letters A to Z in lower case. -/
def asciiLower (s : String) : String :=
  String.ofList (s.toList.map Char.toLower)

end Slipway.Text
