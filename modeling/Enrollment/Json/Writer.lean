/-
The two written forms of a JSON value.

* `render` is JSON text on one line.  Only the quotes, the backslash and the controls below the
  space are escaped.
* `plain` is the form a value takes inside running text: a text stands for itself at the top and
  in quotes inside another value, and the constants are written as words with a capital.
-/
import Enrollment.Json.Basic
import Enrollment.Text.Quoted

namespace Enrollment.Json

open Enrollment.Text

/-- One character inside a JSON string. -/
def stringChar (c : Char) : List Char :=
  match c with
  | '\x22' => ['\\', '\x22']
  | '\\' => ['\\', '\\']
  | '\n' => ['\\', 'n']
  | '\r' => ['\\', 'r']
  | '\t' => ['\\', 't']
  | c => if c.toNat < 0x20 then '\\' :: 'u' :: hexDigits 4 c.toNat else [c]

/-- A text as a JSON string. -/
def renderString (s : String) : String :=
  String.ofList ('\x22' :: s.toList.flatMap stringChar ++ ['\x22'])

mutual

/-- The value as JSON text. -/
def render : Json → String
  | .null => "null"
  | .bool b => if b then "true" else "false"
  | .int n => toString n
  | .real x => floatText x
  | .str s => renderString s
  | .arr xs => "[" ++ ",".intercalate (renderItems xs) ++ "]"
  | .obj ms => "\x7b" ++ ",".intercalate (renderMembers ms) ++ "\x7d"

/-- The items of an array as JSON text. -/
def renderItems : List Json → List String
  | [] => []
  | x :: xs => render x :: renderItems xs

/-- The members of an object as JSON text. -/
def renderMembers : List (String × Json) → List String
  | [] => []
  | (k, v) :: ms => (renderString k ++ ":" ++ render v) :: renderMembers ms

end

mutual

/-- The value inside another value, in running text. -/
def plainInner : Json → String
  | .null => "None"
  | .bool b => if b then "True" else "False"
  | .int n => toString n
  | .real x => floatText x
  | .str s => quoted s
  | .arr xs => "[" ++ ", ".intercalate (plainItems xs) ++ "]"
  | .obj ms => "\x7b" ++ ", ".intercalate (plainMembers ms) ++ "\x7d"

/-- The items of an array in running text. -/
def plainItems : List Json → List String
  | [] => []
  | x :: xs => plainInner x :: plainItems xs

/-- The members of an object in running text. -/
def plainMembers : List (String × Json) → List String
  | [] => []
  | (k, v) :: ms => (quoted k ++ ": " ++ plainInner v) :: plainMembers ms

end

/-- The value as running text. -/
def plain : Json → String
  | .str s => s
  | j => plainInner j

end Enrollment.Json
