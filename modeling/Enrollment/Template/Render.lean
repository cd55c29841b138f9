/-
Rendering a template with values for its variables.

There are two modes.  In HTML mode every value is escaped as it is written, except markup: text that
has been escaped already or was declared safe.  In text mode values are written as they are.  Text
that is added to markup is escaped in both modes.
-/
import Enrollment.Template.Basic
import Enrollment.Text.Case
import Enrollment.Text.Blank

namespace Enrollment.Template

open Enrollment.Text

/-- Whether values are escaped as they are written. -/
inductive Mode where
  | html
  | text
deriving DecidableEq

/-- The values of the variables. -/
abbrev Variables := List (String × Json)

/-- The value of an expression. -/
inductive Value where
  | plain (j : Json)
  /-- Text that is not escaped again. -/
  | markup (s : String)
  /-- There is no value; using it is the given fault. -/
  | absent (why : Fault)

/-- A value, or the fault of one that is not there. -/
def Value.present : Value → Except Fault Value
  | .absent why => .error why
  | v => .ok v

/-- A value as text, as it is. -/
def Value.raw : Value → Except Fault String
  | .plain j => .ok j.plain
  | .markup s => .ok s
  | .absent why => .error why

/-- A value as HTML text. -/
def Value.escaped : Value → Except Fault String
  | .plain j => .ok (escapeHtml j.plain)
  | .markup s => .ok s
  | .absent why => .error why

/-- A value as it is written. -/
def Value.written (m : Mode) (v : Value) : Except Fault String :=
  match m with
  | .html => v.escaped
  | .text => v.raw

/-- Whether a value counts as true. -/
def Value.holds : Value → Except Fault Bool
  | .plain j => .ok j.isPresent
  | .markup s => .ok (s ≠ "")
  | .absent why => .error why

/-- Whether a value is markup. -/
def Value.isMarkup : Value → Bool
  | .markup _ => true
  | _ => false

/-- A value with its text changed; markup stays markup. -/
def Value.mapText (f : String → String) (v : Value) : Except Fault Value := do
  let s ← v.raw
  return if v.isMarkup then .markup (f s) else .plain (.str (f s))

/-- A value passed through a filter. -/
def Filter.apply (f : Filter) (v : Value) : Except Fault Value :=
  match f with
  | .upper => v.mapText Text.upper
  | .lower => v.mapText Text.lower
  | .strip => v.mapText Text.strip
  | .escape => v.escaped.map .markup
  | .safe => v.raw.map .markup

/-- Two values as texts, one after the other. -/
def joined (m : Mode) (a b : Value) : Except Fault Value :=
  if m = .html ∧ (a.isMarkup ∨ b.isMarkup) then do
    return .markup ((← a.escaped) ++ (← b.escaped))
  else do return .plain (.str ((← a.raw) ++ (← b.raw)))

/-- Whether a value is a text. -/
def Value.isText : Value → Bool
  | .plain (.str _) => true
  | .markup _ => true
  | _ => false

/-- The type of a value, as messages call it. -/
def Value.typeName : Value → String
  | .plain (.str _) => "str"
  | .plain (.int _) => "int"
  | .plain (.bool _) => "bool"
  | .plain (.real _) => "float"
  | .plain (.arr _) => "list"
  | .plain (.obj _) => "dict"
  | .plain .null => "NoneType"
  | .markup _ => "Markup"
  | .absent _ => "Undefined"

/-- The fault of two values that cannot be added.  Texts and lists say what they go together with;
of other values both types are named. -/
def unaddable (a b : Value) : Fault :=
  match a with
  | .plain (.str _) => onlyTo a
  | .plain (.arr _) => onlyTo a
  | _ => .mismatch ("unsupported operand type(s) for +: " ++ quoted a.typeName ++ " and " ++
      quoted b.typeName)
where
  /-- Something else is added to a text or to a list. -/
  onlyTo (a : Value) : Fault :=
    .mismatch ("can only concatenate " ++ a.typeName ++ " (not \"" ++ b.typeName ++ "\") to " ++
      a.typeName)

/-- A value as a whole number; truth counts as one. -/
def wholeOf? : Json → Option Int
  | .int n => some n
  | .bool b => some (if b then 1 else 0)
  | _ => none

/-- A value as a floating-point number. -/
def realOf? : Json → Option Float
  | .real x => some x
  | j => (wholeOf? j).map Float.ofInt

/-- The sum of two numbers, whole if both are. -/
def sumOfNumbers? (a b : Json) : Option Json :=
  match wholeOf? a, wholeOf? b with
  | some m, some n => some (.int (m + n))
  | _, _ => do return .real ((← realOf? a) + (← realOf? b))

/-- The sum of two values: numbers are added, texts and lists written one after the other. -/
def sum (a b : Value) : Except Fault Value := do
  match ← a.present, ← b.present with
  | .plain (.str s), .plain (.str t) => return .plain (.str (s ++ t))
  | .plain (.arr s), .plain (.arr t) => return .plain (.arr (s ++ t))
  | .plain x, .plain y =>
    match sumOfNumbers? x y with
    | some z => return .plain z
    | none => throw (unaddable (.plain x) (.plain y))
  | a, b =>
    if a.isText && b.isText then return .markup ((← a.escaped) ++ (← b.escaped))
    else throw (unaddable a b)

/-- Whether an attribute is an inner one, which templates may not see. -/
def isGuarded (member : String) : Bool :=
  member.toList.take 2 = ['_', '_'] && member.toList.reverse.take 2 = ['_', '_']

/-- An attribute of a value: the member of an object; other values have none that can be used. -/
def memberOf (v : Value) (name : String) : Value :=
  match v with
  | .absent why => .absent why
  | v =>
    if isGuarded name then
      .absent (.guarded ("access to attribute " ++ quoted name ++ " of " ++ quoted v.typeName ++
        " object is unsafe."))
    else
      match v with
      | .plain j => (j.get? name).elim (unknown v) .plain
      | v => unknown v
where
  /-- The value has no such attribute. -/
  unknown (v : Value) : Value :=
    .absent (.missing (quoted (v.typeName ++ " object") ++ " has no attribute " ++ quoted name))

/-- The value of an expression. -/
def Expr.value (m : Mode) (vars : Variables) : Expr → Except Fault Value
  | .name s =>
    match Json.member? vars s with
    | some j => .ok (.plain j)
    | none => .ok (.absent (undefined s))
  | .constant j => .ok (.plain j)
  | .member e a => do return memberOf (← e.value m vars) a
  | .filtered f e => do f.apply (← e.value m vars)
  | .isDefined e => do
    match ← e.value m vars with
    | .absent _ => return .plain (.bool false)
    | _ => return .plain (.bool true)
  | .negate e => do return .plain (.bool !(← (← e.value m vars).holds))
  | .both a b => do
    let x ← a.value m vars
    if ← x.holds then b.value m vars else return x
  | .either a b => do
    let x ← a.value m vars
    if ← x.holds then return x else b.value m vars
  | .equal a b => do
    let x ← (← a.value m vars).present
    let y ← (← b.value m vars).present
    return .plain (.bool ((← x.raw) = (← y.raw) && x.isText = y.isText))
  | .join a b => do joined m (← a.value m vars) (← b.value m vars)
  | .add a b => do sum (← a.value m vars) (← b.value m vars)
  | .choose test yes no => do
    if ← (← test.value m vars).holds then yes.value m vars else no.value m vars

mutual

/-- A node rendered. -/
def Node.render (m : Mode) (vars : Variables) : Node → Except Fault String
  | .text s => .ok s
  | .value e => do (← e.value m vars).written m
  | .choice test yes no => do
    if ← (← test.value m vars).holds then renderAll m vars yes else renderAll m vars no

/-- Nodes rendered one after the other. -/
def renderAll (m : Mode) (vars : Variables) : List Node → Except Fault String
  | [] => .ok ""
  | n :: rest => do return (← n.render m vars) ++ (← renderAll m vars rest)

end

end Enrollment.Template

namespace Enrollment

/-- A template rendered with values for its variables. -/
def Template.render (m : Template.Mode) (vars : Template.Variables) (t : Template) :
    Except Template.Fault String :=
  Template.renderAll m vars t

end Enrollment
