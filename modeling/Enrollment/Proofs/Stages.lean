/-
The stages of the workflows.

A registration comes by a token, drafts the account and writes it, and goes on as the write was
answered; self-service then asks once more whether the account waits for its confirmation.  A linking
puts the account together, and goes on as the write was answered too.  Each of these stages is a
program of its own here, so that what is proved of every run is proved of one stage after the other.

* `Registration.answered`, `Linking.answered` — how a run goes on when the write has been answered;
* `Registration.storeAs` — storing the account with a token; `Registration.store_eq` — storing it is
  to come by a token and to do that;
* `Registration.announce` — what self-service makes of the outcome;
* `Linking.store` — storing the account of an assertion whose email is free.
-/
import Enrollment.Workflow.Linking

namespace Enrollment

namespace Registration

/-- The write has been answered: the account is completed, or the run says why there is none. -/
def answered (bound : Log.Context) (candidate : User) (token : String) (confirm : Bool) :
    Except Failure (Option User) → Program Outcome
  | .ok stored => complete bound candidate token confirm stored
  | .error (.duplicate field _) => do
    Program.log bound (Log.info "Registration lost a concurrent write" [("field", .str field)])
    return .reject (lostTo field)
  | .error e => .fail e

/-- Stores the account with a token. -/
def storeAs (site : Installation) (bound : Log.Context) (candidate : User)
    (password : Option String) (token : String) : Program Outcome := do
  let confirm ← confirmationRequired site bound
  let user ← Program.ofExcept (toStore candidate token confirm).build
  (Program.persist user (password.filter (· ≠ "")) none).outcome >>=
    answered bound candidate token confirm

/-- The token is the one that is given, or a fresh one where none is. -/
theorem store_eq (site : Installation) (bound : Log.Context) (candidate : User)
    (password token : Option String) :
    store site bound candidate password token =
      match token.filter (· ≠ "") with
      | some given => storeAs site bound candidate password given
      | none => Program.freshToken >>= storeAs site bound candidate password := by
  rw [store]
  cases token.filter (· ≠ "") <;> rfl

/-- What self-service makes of an outcome: a new account is pending if it must be confirmed. -/
def announce (site : Installation) (bound : Log.Context) (o : Outcome) : Program Outcome := do
  if o.ok then
    if ← confirmationRequired site bound then return asPending o else return o
  else return o

end Registration

namespace Linking

/-- The write has been answered: the account is completed, or the failure is followed up. -/
def answered (bound : Log.Context) (a : Assertion) (created : Bool)
    (again : Option (Program Outcome)) : Except Failure (Option User) → Program Outcome
  | .ok stored => complete bound created stored
  | .error e => afterFailure bound a created again e

/-- Puts the account of an assertion together, given the one that was found, and stores it. -/
def store (site : Installation) (bound : Log.Context) (a : Assertion) (provider : String)
    (again : Option (Program Outcome)) (existing : Option User) : Program Outcome := do
  let resolver ← site.resolver bound
  let base ← baseDraft site a provider resolver existing
  let now ← Program.clock
  let draft := { withLocale base (resolver.resolveTag? a.locale) with lastLogin := some now }
  let length ← Policy.passwordLength site.settings bound
  let password ← Program.randomPassword length
  let user ← Program.ofExcept draft.build
  (Program.persist user (some password) (some systemActor)).outcome >>=
    answered bound a existing.isNone again

end Linking
end Enrollment
