/-
Reading a policy: the stored text wins, and the settings of the installation stand in where there
is none.

A stored text that is no truth value, no whole number or a number below the least allowed is
ignored with a warning, so no stored text can make a policy unreadable.  The decisions are the
functions `flag` and `whole`; the programs below them look the text up and log the warning.
-/
import Enrollment.Policy.Key
import Enrollment.Settings.BaseUrl
import Enrollment.Text.Case
import Enrollment.Text.Digit
import Enrollment.Workflow.Program

namespace Enrollment.Policy

open Enrollment.Text

/-- Why a stored text is ignored. -/
inductive Warning where
  | notFlag (value : String)
  | notWhole (value : String)
  | outOfRange (value minimum : Int)
deriving DecidableEq

/-- The log event of a warning about a key. -/
def Warning.event (key : String) : Warning → Log.Event
  | .notFlag value =>
    Log.warning "Ignoring non-boolean configuration value" [("key", .str key), ("value", .str value)]
  | .notWhole value =>
    Log.warning "Ignoring non-integer configuration value" [("key", .str key), ("value", .str value)]
  | .outOfRange value minimum =>
    Log.warning "Ignoring out-of-range configuration value"
      [("key", .str key), ("value", .int value), ("minimum", .int minimum)]

/-- What a stored text amounts to: a value, or the fallback together with a warning. -/
structure Verdict (α : Type) where
  value : α
  warning : Option Warning := none

/-- The words for true. -/
def trueWords : List String := ["true", "1", "yes", "on"]

/-- The words for false. -/
def falseWords : List String := ["false", "0", "no", "off"]

/-- A truth value from a stored text, letter case and blanks around it ignored. -/
def flag (fallback : Bool) : Option String → Verdict Bool
  | none => ⟨fallback, none⟩
  | some text =>
    if lower (strip text) ∈ trueWords then ⟨true, none⟩
    else if lower (strip text) ∈ falseWords then ⟨false, none⟩
    else ⟨fallback, some (.notFlag text)⟩

/-- A whole number from a stored text, not below `minimum` if there is one. -/
def whole (fallback : Int) (minimum : Option Int) : Option String → Verdict Int
  | none => ⟨fallback, none⟩
  | some text =>
    match readInteger? text, minimum with
    | none, _ => ⟨fallback, some (.notWhole text)⟩
    | some n, some least => if n < least then ⟨fallback, some (.outOfRange n least)⟩ else ⟨n, none⟩
    | some n, none => ⟨n, none⟩

/-- A text that is stored and not empty, else the fallback. -/
def textOr (fallback : String) : Option String → String
  | none => fallback
  | some text => if text = "" then fallback else text

/-! ### Reading from the stored configuration -/

/-- A value, its warning written to the log. -/
def Verdict.settle {α : Type} (bound : Log.Context) (key : String) (v : Verdict α) : Program α := do
  match v.warning with
  | none => pure ()
  | some w => Program.log bound (w.event key)
  return v.value

/-- The text under a key, `fallback` where there is none. -/
def readText (key : String) (fallback : Option String) : Program (Option String) := do
  return (← Program.configValue key).or fallback

/-- The truth value under a key. -/
def readFlag (bound : Log.Context) (key : String) (fallback : Bool) : Program Bool := do
  (flag fallback (← Program.configValue key)).settle bound key

/-- The whole number under a key. -/
def readWhole (bound : Log.Context) (key : String) (fallback : Int) (minimum : Option Int) :
    Program Int := do
  (whole fallback minimum (← Program.configValue key)).settle bound key

/-! ### The policies -/

/-- The public base URL, given what is stored: empty, or ending in a slash. -/
def baseUrlOf (s : Settings) (stored : Option String) : String :=
  normaliseBaseUrl (stored.getD s.baseUrl)

/-- The public base URL. -/
def baseUrl (s : Settings) : Program String := do
  return baseUrlOf s (← Program.configValue Key.baseUrl.name)

/-- Whether new accounts have to confirm their email. -/
def emailVerification (s : Settings) (bound : Log.Context) : Program Bool :=
  readFlag bound Key.emailVerification.name s.verifyEmail

/-- Whether people may register themselves. -/
def selfRegistration (s : Settings) (bound : Log.Context) : Program Bool :=
  readFlag bound Key.selfRegistration.name s.selfRegistration

/-- The id of the group that new accounts join. -/
def defaultGroup (s : Settings) : Program (Option String) := do
  return (← readText Key.defaultGroup.name s.defaultGroup).filter (· ≠ "")

/-- The language id of accounts that name none. -/
def defaultLanguage (s : Settings) (bound : Log.Context) : Program Int :=
  readWhole bound Key.defaultLanguage.name s.defaultLanguage none

/-- The time zone of accounts that name none. -/
def defaultTimezone (s : Settings) : Program String := do
  return textOr s.defaultTimezone (← readText Key.defaultTimezone.name (some s.defaultTimezone))

/-- The least length of a login. -/
def loginLength (s : Settings) (bound : Log.Context) : Program Int :=
  readWhole bound Key.loginLength.name s.minLoginLength (some leastLoginLength)

/-- The length of a password that nobody is to know. -/
def passwordLength (s : Settings) (bound : Log.Context) : Program Int :=
  readWhole bound Key.passwordLength.name s.passwordLength (some leastPasswordLength)

end Enrollment.Policy
