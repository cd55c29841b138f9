/-
Templates for messages: text with places where values are put in.

A template is a list of nodes: text, an expression whose value is written, or a choice between two
lists of nodes.  `Fault` is what can be wrong with a template or with its variables; every fault is
reported, so that no message goes out with a hole in it.
-/
import Enrollment.Text.Html
import Enrollment.Json.Writer

namespace Enrollment.Template

/-- What can be wrong with a template or with its use. -/
inductive Fault where
  /-- The source is no template. -/
  | malformed (message : String)
  /-- The source names a filter or a test that there is not. -/
  | unknownName (message : String)
  /-- A value is used that is not there. -/
  | missing (message : String)
  /-- An attribute is asked for that templates may not see. -/
  | guarded (message : String)
  /-- Two values cannot be added. -/
  | mismatch (message : String)
deriving DecidableEq

/-- How a fault reads. -/
def Fault.message : Fault → String
  | .malformed m => m
  | .unknownName m => m
  | .missing m => m
  | .guarded m => m
  | .mismatch m => m

/-- The fault of a variable that is not there. -/
def undefined (name : String) : Fault := .missing (Text.quoted name ++ " is undefined")

/-- What a value may be passed through. -/
inductive Filter where
  | upper
  | lower
  | strip
  | escape
  | safe
deriving DecidableEq

/-- The filter of that name. -/
def Filter.ofName? (name : String) : Option Filter :=
  if name = "upper" then some .upper
  else if name = "lower" then some .lower
  else if name = "trim" then some .strip
  else if name = "e" ∨ name = "escape" then some .escape
  else if name = "safe" then some .safe
  else none

/-- An expression. -/
inductive Expr where
  | name (s : String)
  | constant (j : Json)
  | member (e : Expr) (name : String)
  | filtered (f : Filter) (e : Expr)
  | isDefined (e : Expr)
  | negate (e : Expr)
  | both (a b : Expr)
  | either (a b : Expr)
  | equal (a b : Expr)
  /-- Two values as texts, one after the other. -/
  | join (a b : Expr)
  | add (a b : Expr)
  | choose (test yes no : Expr)

/-- A piece of a template. -/
inductive Node where
  | text (s : String)
  | value (e : Expr)
  | choice (test : Expr) (yes no : List Node)

end Enrollment.Template

namespace Enrollment

/-- A template. -/
abbrev Template := List Template.Node

end Enrollment
