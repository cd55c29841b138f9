/-
The outcome of a workflow: the account that was created or linked, or the reason why there is none.

The one overlap is an account that still has to be confirmed: it exists, so the outcome carries it
together with `pendingConfirmation`.
-/
import Enrollment.Account.User

namespace Enrollment

/-- Why a workflow produced no account that can be used. -/
inductive Rejection where
  | registrationDisabled
  | loginTooShort
  | invalidLogin
  | loginInUse
  | emailInUse
  | emailConflict
  | pendingConfirmation
  | unknown
deriving DecidableEq

namespace Rejection

/-- The code under which callers look up what to tell their users. -/
def code : Rejection → String
  | .registrationDisabled => "error.reg.disabled"
  | .loginTooShort => "error.short.login"
  | .invalidLogin => "error.login.invalid"
  | .loginInUse => "error.login.inuse"
  | .emailInUse => "error.email.inuse"
  | .emailConflict => "error.email.conflict"
  | .pendingConfirmation => "registration.pending.confirmation"
  | .unknown => "error.unknown"

/-- The rejection of that code. -/
def ofCode? (s : String) : Option Rejection :=
  [registrationDisabled, loginTooShort, invalidLogin, loginInUse, emailInUse, emailConflict,
    pendingConfirmation, unknown].find? (·.code = s)

end Rejection

/-- What a workflow came to; `notificationError` says why no email went out although one was
due. -/
structure Outcome where
  user : Option User := none
  rejection : Option Rejection := none
  notificationError : Option String := none
deriving DecidableEq

namespace Outcome

/-- A usable account was produced. -/
def success (u : User) : Outcome := { user := some u }

/-- No account was produced. -/
def reject (r : Rejection) : Outcome := { rejection := some r }

/-- An account was produced and waits for its confirmation. -/
def pending (u : User) : Outcome := { user := some u, rejection := some .pendingConfirmation }

/-- Whether a usable account was produced. -/
def ok (o : Outcome) : Bool := o.user.isSome && o.rejection.isNone

/-- Whether the account waits for its confirmation. -/
def isPending (o : Outcome) : Bool := o.rejection = some .pendingConfirmation

end Outcome
end Enrollment
