import Slipway.Number.Numeral

/-!
# Dates and times

Dates, times of day and their combination with an offset, as RFC 3339 writes them; the seconds may
be left out. `DateTime.text` writes the canonical form: the letters `T` and `Z`, and a fraction of
at most nine digits without zeros at its end.
-/

namespace Slipway.Toml

/-- A day of the Gregorian calendar. -/
structure Date where
  year : Nat
  month : Nat
  day : Nat
  deriving Repr, DecidableEq

/-- A time of day; the fraction of a second is counted in nanoseconds. -/
structure Time where
  hour : Nat
  minute : Nat
  second : Option Nat
  nanosecond : Option Nat
  deriving Repr, DecidableEq

/-- The distance from universal time. -/
inductive Offset where
  | universal
  | minutes (n : Int)
  deriving Repr, DecidableEq

/-- A date, a time, or both with an optional offset. -/
structure DateTime where
  date : Option Date := none
  time : Option Time := none
  offset : Option Offset := none
  deriving Repr, DecidableEq

/-! ### Writing -/

/-- A number in decimal, with zeros before it up to a width. -/
def padded (width n : Nat) : String :=
  let digits := Nat.toDigits 10 n
  String.ofList (List.replicate (width - digits.length) '0' ++ digits)

/-- The text of a date. -/
def Date.text (d : Date) : String :=
  padded 4 d.year ++ "-" ++ padded 2 d.month ++ "-" ++ padded 2 d.day

/-- The text of a time. -/
def Time.text (t : Time) : String :=
  let second :=
    match t.second with
    | none => ""
    | some s => ":" ++ padded 2 s
  let fraction :=
    match t.nanosecond with
    | none => ""
    | some n =>
      let digits := ((padded 9 n).toList.reverse.dropWhile (· == '0')).reverse
      "." ++ (if digits.isEmpty then "0" else String.ofList digits)
  padded 2 t.hour ++ ":" ++ padded 2 t.minute ++ second ++ fraction

/-- The text of an offset. -/
def Offset.text : Offset → String
  | .universal => "Z"
  | .minutes n =>
    (if n < 0 then "-" else "+") ++ padded 2 (n.natAbs / 60) ++ ":" ++ padded 2 (n.natAbs % 60)

/-- The canonical text. -/
def DateTime.text (d : DateTime) : String :=
  let date := (d.date.map (·.text)).getD ""
  let time := (d.time.map (·.text)).getD ""
  let offset := (d.offset.map (·.text)).getD ""
  let mark := if d.date.isSome && d.time.isSome then "T" else ""
  date ++ mark ++ time ++ offset

/-! ### Reading -/

/-- How many days a month has. -/
def daysIn (year month : Nat) : Nat :=
  if month = 2 then
    if year % 4 = 0 ∧ (year % 100 ≠ 0 ∨ year % 400 = 0) then 29 else 28
  else if month = 4 ∨ month = 6 ∨ month = 9 ∨ month = 11 then 30
  else 31

/-- A number of exactly `n` digits, and the rest. -/
def fixedDigits? (n : Nat) (cs : List Char) : Option (Nat × List Char) :=
  if (cs.take n).length = n then
    (Number.digits? 10 (cs.take n)).map fun value => (value, cs.drop n)
  else none

/-- The rest after the given character. -/
def after? (c : Char) : List Char → Option (List Char)
  | [] => none
  | x :: xs => if x = c then some xs else none

/-- A date, and the rest. -/
def date? (cs : List Char) : Option (Date × List Char) := do
  let (year, cs) ← fixedDigits? 4 cs
  let (month, cs) ← fixedDigits? 2 (← after? '-' cs)
  let (day, cs) ← fixedDigits? 2 (← after? '-' cs)
  if 1 ≤ month ∧ month ≤ 12 ∧ 1 ≤ day ∧ day ≤ daysIn year month then
    some (⟨year, month, day⟩, cs)
  else none

/-- The nanoseconds of a fraction; digits after the ninth are dropped. -/
def nanoseconds (digits : List Char) : Nat :=
  let nine := (digits ++ List.replicate 9 '0').take 9
  (Number.digits? 10 nine).getD 0

/-- A time of day, and the rest. -/
def time? (cs : List Char) : Option (Time × List Char) := do
  let (hour, cs) ← fixedDigits? 2 cs
  let (minute, cs) ← fixedDigits? 2 (← after? ':' cs)
  if 23 < hour ∨ 59 < minute then none
  else
    match cs with
    | ':' :: cs =>
      let (second, cs) ← fixedDigits? 2 cs
      if 60 < second then none
      else
        match cs with
        | '.' :: cs =>
          let (digits, cs) := cs.span Char.isDigit
          if digits.isEmpty then none
          else some (⟨hour, minute, some second, some (nanoseconds digits)⟩, cs)
        | _ => some (⟨hour, minute, some second, none⟩, cs)
    | _ => some (⟨hour, minute, none, none⟩, cs)

/-- An offset that takes up all of the text, or none for an empty text. -/
def offset? : List Char → Option (Option Offset)
  | [] => some none
  | ['Z'] => some (some .universal)
  | ['z'] => some (some .universal)
  | mark :: cs =>
    if mark = '+' ∨ mark = '-' then do
      let (hour, cs) ← fixedDigits? 2 cs
      let (minute, cs) ← fixedDigits? 2 (← after? ':' cs)
      if 23 < hour ∨ 59 < minute ∨ cs ≠ [] then none
      else
        let total : Int := hour * 60 + minute
        some (some (.minutes (if mark = '-' then -total else total)))
    else none

/-- The date or time that takes up all of the text. -/
def DateTime.ofChars? (cs : List Char) : Option DateTime :=
  match date? cs with
  | some (date, []) => some { date := some date }
  | some (date, mark :: cs) =>
    if mark = 'T' ∨ mark = 't' ∨ mark = ' ' then do
      let (time, cs) ← time? cs
      let offset ← offset? cs
      some { date := some date, time := some time, offset }
    else none
  | none =>
    match time? cs with
    | some (time, []) => some { time := some time }
    | _ => none

end Slipway.Toml
