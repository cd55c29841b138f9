/-
The shape of a login name: not empty, of a minimum length, without blanks and control characters.
-/
import Enrollment.Text.Blank

namespace Enrollment.Login

/-- What is wrong with a login. -/
inductive Problem where
  | missing
  | tooShort (minimum : Int)
  | forbiddenCharacter
deriving DecidableEq

/-- The code of a problem, for programs. -/
def Problem.code : Problem → String
  | .missing => "login_empty"
  | .tooShort _ => "login_too_short"
  | .forbiddenCharacter => "login_invalid_characters"

/-- The wording of a problem, for people. -/
def Problem.message : Problem → String
  | .missing => "Login is required"
  | .tooShort minimum => "Login must be at least " ++ toString minimum ++ " characters"
  | .forbiddenCharacter => "Login must not contain whitespace or control characters"

/-- A character that no login may hold: a blank, a control below the space, or delete. -/
def isForbidden (c : Char) : Bool := Text.isBlank c || c.toNat < 0x20 || c.toNat = 0x7f

/-- Everything that is wrong with a login; a missing login has no further problems. -/
def problems (minimum : Int) (login : String) : List Problem :=
  if login = "" then [.missing]
  else
    (if (login.length : Int) < minimum then [.tooShort minimum] else []) ++
      (if login.toList.any isForbidden then [.forbiddenCharacter] else [])

/-- Whether a login is there and has the minimum length. -/
def isLongEnough (minimum : Int) (login : String) : Bool :=
  login ≠ "" && minimum ≤ (login.length : Int)

/-- Whether nothing is wrong with a login. -/
def isValid (minimum : Int) (login : String) : Bool := (problems minimum login).isEmpty

end Enrollment.Login
