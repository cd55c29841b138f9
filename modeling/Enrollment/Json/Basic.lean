/-
JSON values: what identity providers send, what log lines carry and what settings are given as.

Whole numbers have no bound; a number with a point or an exponent is a floating-point number, and
the two kinds stay apart.  Members keep their order, and of members with one name the last counts.
-/
import Enrollment.Json.Shortest

namespace Enrollment

/-- A JSON value. -/
inductive Json where
  | null
  | bool (b : Bool)
  | int (n : Int)
  | real (x : Float)
  | str (s : String)
  | arr (items : List Json)
  | obj (members : List (String × Json))

namespace Json

instance : Inhabited Json := ⟨.null⟩

/-- The floating-point number nearest to `m · 10 ^ e`.  Exponents beyond the range of such numbers
are cut to its edge, which changes no result. -/
def decimal (m : Nat) (e : Int) : Float :=
  if e < 0 then Float.ofScientific m true (min e.natAbs (m.log2 + 400))
  else Float.ofScientific m false (min e.natAbs 400)

/-- The last member of that name. -/
def member? (members : List (String × Json)) (name : String) : Option Json :=
  (members.reverse.find? (·.1 = name)).map (·.2)

/-- The member of an object; nothing for any other value. -/
def get? (j : Json) (name : String) : Option Json :=
  match j with
  | .obj members => member? members name
  | _ => none

/-- The member of an object, null when there is none. -/
def field (j : Json) (name : String) : Json := (j.get? name).getD .null

/-- The text of a string value. -/
def text? : Json → Option String
  | .str s => some s
  | _ => none

/-- The number of a whole-number value. -/
def int? : Json → Option Int
  | .int n => some n
  | _ => none

/-- The truth value of a Boolean value. -/
def bool? : Json → Option Bool
  | .bool b => some b
  | _ => none

/-- The items of an array; none for any other value. -/
def items : Json → List Json
  | .arr xs => xs
  | _ => []

/-- The members of an object; none for any other value. -/
def members : Json → List (String × Json)
  | .obj ms => ms
  | _ => []

/-- Null, false, zero, and the empty text, array and object count as absent. -/
def isPresent : Json → Bool
  | .null => false
  | .bool b => b
  | .int n => n ≠ 0
  | .real x => x != 0.0
  | .str s => s ≠ ""
  | .arr xs => !xs.isEmpty
  | .obj ms => !ms.isEmpty

/-- An optional text as a value. -/
def ofText? : Option String → Json
  | none => .null
  | some s => .str s

end Json
end Enrollment
