/-
The reading of one setting from a value given by an environment variable or a caller.

Texts are read generously where a number or a truth value is wanted: `yes`, `ON` and `1` are true,
`6.0` and `+6` are six.  `Fault` says why a value was refused; its code goes into the report.
-/
import Enrollment.Json.Basic
import Enrollment.Text.Digit

namespace Enrollment.Settings

/-- Why the value of a setting is refused. -/
inductive Fault where
  | boolParsing
  | boolType
  | intParsing
  | intSize
  | intFromFloat
  | intType
  | notFinite
  | belowMinimum
  | notAChoice
  | stringType
deriving DecidableEq

/-- The code of a fault in a report. -/
def Fault.code : Fault → String
  | .boolParsing => "bool_parsing"
  | .boolType => "bool_type"
  | .intParsing => "int_parsing"
  | .intSize => "int_parsing_size"
  | .intFromFloat => "int_from_float"
  | .intType => "int_type"
  | .notFinite => "finite_number"
  | .belowMinimum => "greater_than_equal"
  | .notAChoice => "literal_error"
  | .stringType => "string_type"

/-! ### Whole numbers -/

/-- The blanks that may stand around a number in a setting: white space, but none of the
information separators. -/
def isSpacing (c : Char) : Bool := Text.isBlank c && !(0x1c ≤ c.toNat && c.toNat ≤ 0x1f)

/-- What is left of a number after the zeros and underscores in front, one zero being kept before
a point and at the end; nothing where another character follows them. -/
def dropZeros : (last : Char) → List Char → Option (List Char)
  | last, [] => some [last]
  | last, c :: rest =>
    if c = '0' ∨ c = '_' then dropZeros c rest
    else if c = '.' then some (last :: c :: rest)
    else if '1' ≤ c ∧ c ≤ '9' then some (c :: rest)
    else none

/-- A number without its point when only zeros, at least one, follow the point. -/
def dropFraction (cs : List Char) : List Char :=
  match Text.cutAt '.' cs with
  | (whole, some fraction) =>
    if !fraction.isEmpty && fraction.all (· = '0') then whole else cs
  | (_, none) => cs

/-- Whether two underscores stand side by side. -/
def doubleUnderscore : List Char → Bool
  | '_' :: '_' :: _ => true
  | _ :: rest => doubleUnderscore rest
  | [] => false

/-- A number without its underscores, where these stand singly and not at an end. -/
def dropUnderscores (cs : List Char) : List Char :=
  if cs.head? = some '_' ∨ cs.getLast? = some '_' ∨ doubleUnderscore cs then cs
  else cs.filter (· ≠ '_')

/-- The number of plain digits, without a zero in front of others. -/
def plainDigits (cs : List Char) : Except Fault Nat :=
  if cs.isEmpty || !cs.all Char.isDigit || (cs.head? = some '0' && cs.length ≠ 1) then
    .error .intParsing
  else if Text.maxDigits < cs.length then .error .intSize
  else .ok (cs.foldl (fun n c => 10 * n + (c.toNat - 48)) 0)

/-- The sign in front of a number has been read; the number without zeros and fraction. -/
def withoutDecoration (cs : List Char) : Option (List Char) :=
  (match cs with
  | '0' :: rest => dropZeros '0' rest
  | c :: _ => if c = '-' ∨ ('1' ≤ c ∧ c ≤ '9') then some cs else none
  | [] => none).map fun cs => dropUnderscores (dropFraction cs)

/-- The whole number that the text of a setting spells. -/
def wholeOfText (s : String) : Except Fault Int :=
  let cs := match Text.trimBoth isSpacing s.toList with
    | '+' :: '-' :: _ => none
    | '+' :: rest => withoutDecoration rest
    | cs => withoutDecoration cs
  match cs with
  | none => .error .intParsing
  | some ('-' :: rest) => (plainDigits rest).map fun n => -(n : Int)
  | some cs => (plainDigits cs).map Int.ofNat

/-- The whole number that a floating-point number is. -/
def wholeOfFloat (x : Float) : Except Fault Int :=
  if x.isNaN || x.isInf then .error .notFinite
  else if x.floor != x then .error .intFromFloat
  else if x.abs < 9.2e18 then .ok x.toInt64.toInt else .error .intSize

/-- A whole number. -/
def whole : Json → Except Fault Int
  | .int n => .ok n
  | .bool b => .ok (if b then 1 else 0)
  | .real x => wholeOfFloat x
  | .str s => wholeOfText s
  | _ => .error .intType

/-- A whole number of at least `least`. -/
def wholeFrom (least : Int) (j : Json) : Except Fault Int := do
  let n ← whole j
  if least ≤ n then return n else throw .belowMinimum

/-! ### Truth values, texts and choices -/

/-- A truth value as a number. -/
def flagOfWhole (n : Int) : Except Fault Bool :=
  if n = 0 then .ok false else if n = 1 then .ok true
  else if Text.fitsWord n then .error .boolParsing else .error .boolType

/-- A truth value as a word, letter case ignored. -/
def flagOfText (s : String) : Except Fault Bool :=
  let word := String.ofList (s.toList.map Char.toLower)
  if word ∈ ["1", "on", "t", "true", "y", "yes"] then .ok true
  else if word ∈ ["0", "off", "f", "false", "n", "no"] then .ok false
  else .error .boolParsing

/-- A truth value. -/
def flag : Json → Except Fault Bool
  | .bool b => .ok b
  | .int n => flagOfWhole n
  | .real x =>
    match wholeOfFloat x with
    | .ok n => flagOfWhole n
    | .error _ => .error .boolType
  | .str s => flagOfText s
  | _ => .error .boolType

/-- A text. -/
def text : Json → Except Fault String
  | .str s => .ok s
  | _ => .error .stringType

/-- A text or nothing. -/
def optionalText : Json → Except Fault (Option String)
  | .null => .ok none
  | j => (text j).map some

/-- One of a closed list of choices, given by its name. -/
def choice {α : Type} (name : α → String) (all : List α) (j : Json) : Except Fault α :=
  match j.text?.bind fun s => all.find? (name · = s) with
  | some a => .ok a
  | none => .error .notAChoice

end Enrollment.Settings
