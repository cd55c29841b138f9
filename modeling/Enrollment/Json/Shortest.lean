/-
The shortest decimal text of a floating-point number: the fewest digits that read back as the
same number, and among those the nearest.

A finite number is `m · 2 ^ q`.  Every real closer to it than to its neighbours reads back as it,
the two end points included when `m` is even; `Span` holds that interval.  For 1, 2, … 17 digits
the two points of the decimal grid around the number are tested, in whole numbers, and the first
grid with a hit decides.  Main definitions: `shortestDigits`, `floatText`.
-/
namespace Enrollment.Json

/-- A finite positive number `m · 2 ^ q`.  Below a power of two the neighbour is half as far away,
which `atPower` records. -/
structure Span where
  m : Nat
  q : Int
  atPower : Bool

/-- The number of whole steps between two neighbouring powers of two. -/
def steps : Nat := 0x10000000000000

/-- The number of exponents. -/
def exponents : Nat := 0x800

/-- The span of a finite number that is not zero, its sign left out. -/
def Span.ofFloat (x : Float) : Span :=
  let bits : Nat := x.toBits.toNat
  let exponent : Nat := bits / steps % exponents
  let fraction : Nat := bits % steps
  if exponent = 0 then ⟨fraction, -1074, false⟩
  else ⟨fraction + steps, (exponent : Int) - 1075, fraction = 0 ∧ 1 < exponent⟩

/-- The power `base ^ e` as a fraction of whole numbers. -/
def powerRatio (base : Nat) (e : Int) : Nat × Nat :=
  if 0 ≤ e then (base.pow e.toNat, 1) else (1, base.pow (-e).toNat)

/-- Whether the decimal `d · 10 ^ k` reads back as the number. -/
def Span.reads (s : Span) (d : Nat) (k : Int) : Bool :=
  let (tn, td) := powerRatio 10 k
  let (bn, bd) := powerRatio 2 (s.q - 2)
  -- all three in units of `2 ^ (q - 2) / (td * bd)`
  let point := d * tn * bd
  let lower := (4 * s.m - (if s.atPower then 1 else 2)) * bn * td
  let upper := (4 * s.m + 2) * bn * td
  if s.m % 2 = 0 then lower ≤ point ∧ point ≤ upper else lower < point ∧ point < upper

/-- The distance of `d · 10 ^ k` from the number, in units that do not depend on `d`. -/
def Span.distance (s : Span) (d : Nat) (k : Int) : Nat :=
  let (tn, td) := powerRatio 10 k
  let (bn, bd) := powerRatio 2 s.q
  let a := d * tn * bd
  let b := s.m * bn * td
  if a ≤ b then b - a else a - b

/-- How many decimal digits a whole number has. -/
def decimalLength (n : Nat) : Nat := (toString n).length

/-- The exponent of ten of the first digit. -/
def Span.leading (s : Span) : Int :=
  let (bn, bd) := powerRatio 2 s.q
  let n := s.m * bn
  if bd ≤ n then (decimalLength (n / bd) : Int) - 1 else -(decimalLength ((bd - 1) / n) : Int)

/-- The decimal on the grid `10 ^ k` that reads back, the nearer one of two; a tie goes to the
even digit. -/
def Span.onGrid? (s : Span) (k : Int) : Option Nat :=
  let (tn, td) := powerRatio 10 k
  let (bn, bd) := powerRatio 2 s.q
  let d := s.m * bn * td / (bd * tn)
  match s.reads d k, s.reads (d + 1) k with
  | false, false => none
  | true, false => some d
  | false, true => some (d + 1)
  | true, true =>
    if s.distance d k < s.distance (d + 1) k then some d
    else if s.distance (d + 1) k < s.distance d k then some (d + 1)
    else if d % 2 = 0 then some d else some (d + 1)

/-- The digits and the exponent of ten of the last digit. -/
def Span.shortest (s : Span) : Nat × Int :=
  let top := s.leading
  match (List.range 18).findSome? fun (n : Nat) =>
      (s.onGrid? (top - n)).bind fun d => if d = 0 then none else some (d, top - (n : Int)) with
  | some r => r
  | none => (s.m, s.q)

/-- The digits without zeros at the end, and the exponent of ten of the first digit. -/
def shortestDigits (x : Float) : List Char × Int :=
  let (d, k) := (Span.ofFloat x).shortest
  let digits := (toString d).toList
  ((digits.reverse.dropWhile (· = '0')).reverse, k + digits.length - 1)

/-- A number is written positionally when its first digit stands from `10 ^ -4` to `10 ^ 15`, and
otherwise with an exponent of at least two digits; a whole number keeps one zero after the point. -/
def floatText (x : Float) : String :=
  if x.isNaN then "nan"
  else
    let sign := if x.toBits.toNat / (steps * exponents) = 1 then "-" else ""
    if x.isInf then sign ++ "inf"
    else if x == 0.0 then sign ++ "0.0"
    else
      let (digits, e) := shortestDigits x
      let body :=
        if e < -4 ∨ 15 < e then
          let mantissa := match digits with
            | [] => []
            | [c] => [c]
            | c :: rest => c :: '.' :: rest
          let magnitude := toString e.natAbs
          String.ofList mantissa ++ (if e < 0 then "e-" else "e+") ++
            (if magnitude.length < 2 then "0" else "") ++ magnitude
        else if e < 0 then
          "0." ++ String.ofList (List.replicate ((-e).toNat - 1) '0' ++ digits)
        else
          let whole := e.toNat + 1
          if digits.length ≤ whole then
            String.ofList (digits ++ List.replicate (whole - digits.length) '0') ++ ".0"
          else String.ofList (digits.take whole ++ '.' :: digits.drop whole)
      sign ++ body

end Enrollment.Json
