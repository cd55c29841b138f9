/-
Points in time, as accounts record them: a date and a time of day to the microsecond, with or
without the offset of a time zone.

`Timestamp.text` writes the microseconds only when there are some and the offset only when it is
known; `Timestamp.parse?` reads what it writes.  Storage keeps no offset (`withoutOffset`).
-/
import Enrollment.Text.Blank

namespace Enrollment

/-- A point in time; `offset` is in seconds east of Greenwich. -/
structure Timestamp where
  year : Nat
  month : Nat
  day : Nat
  hour : Nat := 0
  minute : Nat := 0
  second : Nat := 0
  microsecond : Nat := 0
  offset : Option Int := none
deriving DecidableEq

namespace Timestamp

/-- The same date and time of day, its offset forgotten. -/
def withoutOffset (t : Timestamp) : Timestamp := { t with offset := none }

/-- A number in at least `width` digits. -/
def padded (width n : Nat) : String :=
  let digits := toString n
  String.ofList (List.replicate (width - digits.length) '0') ++ digits

/-- An offset as hours and minutes, and seconds when there are some. -/
def offsetText (seconds : Int) : String :=
  let n := seconds.natAbs
  (if seconds < 0 then "-" else "+") ++ padded 2 (n / 3600) ++ ":" ++ padded 2 (n / 60 % 60) ++
    (if n % 60 = 0 then "" else ":" ++ padded 2 (n % 60))

/-- Date and time of day joined by `T`. -/
def text (t : Timestamp) : String :=
  padded 4 t.year ++ "-" ++ padded 2 t.month ++ "-" ++ padded 2 t.day ++ "T" ++
    padded 2 t.hour ++ ":" ++ padded 2 t.minute ++ ":" ++ padded 2 t.second ++
    (if t.microsecond = 0 then "" else "." ++ padded 6 t.microsecond) ++
    (t.offset.map offsetText).getD ""

/-! ### Reading -/

/-- The number of a text of ASCII digits of the given length. -/
def number? (width : Nat) (cs : List Char) : Option Nat :=
  if cs.length = width ∧ cs.all Char.isDigit then
    some (cs.foldl (fun n c => 10 * n + (c.toNat - 48)) 0)
  else none

/-- How many days a month has. -/
def daysIn (year month : Nat) : Nat :=
  if month = 2 then
    if year % 4 = 0 ∧ (year % 100 ≠ 0 ∨ year % 400 = 0) then 29 else 28
  else if month = 4 ∨ month = 6 ∨ month = 9 ∨ month = 11 then 30 else 31

/-- Hours, minutes, seconds and microseconds; missing ones are zero. -/
def clock? (cs : List Char) : Option (Nat × Nat × Nat × Nat) := do
  let (whole, fraction) := Text.cutAt '.' cs
  let micro ← match fraction with
    | none => some 0
    | some f =>
      if f.isEmpty then none
      else number? 6 ((f ++ List.replicate (6 - f.length) '0').take 6)
  let parts ← (Text.splitAt ':' whole).mapM (number? 2)
  match parts with
  | [h] => if fraction.isNone ∧ h < 24 then some (h, 0, 0, 0) else none
  | [h, m] => if fraction.isNone ∧ h < 24 ∧ m < 60 then some (h, m, 0, 0) else none
  | [h, m, s] => if h < 24 ∧ m < 60 ∧ s < 60 then some (h, m, s, micro) else none
  | _ => none

/-- The date in front of a text, with what follows it. -/
def date? : List Char → Option ((Nat × Nat × Nat) × List Char)
  | y1 :: y2 :: y3 :: y4 :: '-' :: m1 :: m2 :: '-' :: d1 :: d2 :: rest => do
    let year ← number? 4 [y1, y2, y3, y4]
    let month ← number? 2 [m1, m2]
    let day ← number? 2 [d1, d2]
    if 1 ≤ year ∧ 1 ≤ month ∧ month ≤ 12 ∧ 1 ≤ day ∧ day ≤ daysIn year month then
      some ((year, month, day), rest)
    else none
  | _ => none

/-- The offset that a text ends in, after its sign. -/
def offset? (negative : Bool) (cs : List Char) : Option Int := do
  let (h, m, s, _) ← clock? cs
  let n : Int := h * 3600 + m * 60 + s
  return if negative then -n else n

/-- The point in time that a text spells. -/
def parse? (s : String) : Option Timestamp := do
  let ((year, month, day), rest) ← date? s.toList
  match rest with
  | [] => some { year, month, day }
  | _ :: rest =>
    let body := rest.takeWhile fun c => c ≠ '+' ∧ c ≠ '-' ∧ c ≠ 'Z'
    let (hour, minute, second, microsecond) ← clock? body
    let offset ← match rest.drop body.length with
      | [] => some none
      | ['Z'] => some (some 0)
      | '+' :: more => (offset? false more).map some
      | '-' :: more => (offset? true more).map some
      | _ => none
    some { year, month, day, hour, minute, second, microsecond, offset }

end Timestamp
end Enrollment
