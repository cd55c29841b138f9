/-
Registration of accounts.

* `registerUser` creates the account that a trusted caller describes: the login must be long
  enough, login and email must be free, the account is stored and committed, and only then an email
  goes out.  A collaborator that fails makes the run fail, after a rollback.
* `register` is what people reach themselves: it is open only where the policy allows it, fills in
  locale and default group, and never fails.

Where accounts have to be confirmed, the account is stored without the right to sign in.
-/
import Enrollment.Account.Login
import Enrollment.Account.Outcome
import Enrollment.Workflow.Defaults

namespace Enrollment.Registration

/-- Whether new accounts must be confirmed: the policy asks for it and there is a base URL that an
activation link can be built on. -/
def confirmationRequired (site : Installation) (bound : Log.Context) : Program Bool := do
  let url ← Policy.baseUrl site.settings
  if url = "" then return false else Policy.emailVerification site.settings bound

/-- An account that an integration provisions is external, whatever kind it was described as. -/
def storedType (candidate : User) : UserType :=
  if given candidate.externalType then .external else candidate.type

/-- Whether an email is due to the account: it has an address, and no integration looks after it. -/
def emailDue (candidate : User) : Bool := !given candidate.externalType && given candidate.email

/-- The account as it is to be stored. -/
def toStore (candidate : User) (token : String) (confirm : Bool) : Draft :=
  let d : Draft :=
    { Draft.ofUser candidate with type := storedType candidate, activationToken := some token }
  if confirm then d.revoke .login else d

/-- The rejection that stands for a write lost on a key. -/
def lostTo (field : String) : Rejection := if field = "email" then .emailInUse else .loginInUse

/-- What is reported when a provider declines a message without giving a reason. -/
def declined : String := "Email provider did not accept the message"

/-- Sends the registration email; the result says what went wrong, if anything did. -/
def sendNotice (bound : Log.Context) (user : User) (token : String) (confirm : Bool) :
    Program (Option String) := do
  let sent ← (Program.notify
    { login := user.login, email := user.email, token, confirm,
      languageId := user.languageId }).outcome
  match sent with
  | .ok true => return none
  | .ok false =>
    Program.log bound
      (Log.error "Email provider did not accept message" [("user_id", .ofText? user.id)])
    return some declined
  | .error e =>
    Program.log bound (Log.error "Failed to send registration email"
      [("user_id", .ofText? user.id), ("email", .ofText? user.email), ("error", .str e.report)])
    return some e.description

/-- The account has been stored: commits it and sends the email that is due. -/
def complete (bound : Log.Context) (candidate : User) (token : String) (confirm : Bool) :
    Option User → Program Outcome
  | none => unidentified
  | some user =>
    if user.id.isNone then unidentified
    else do
      Program.commit
      Program.log bound (Log.info "User registered"
        [("user_id", .ofText? user.id), ("login", .str candidate.login),
          ("user_type", .str (storedType candidate).name), ("confirmation_required", .bool confirm)])
      let problem ←
        if emailDue candidate then sendNotice bound user token confirm else pure none
      return { user := some user, notificationError := problem }
where
  /-- The directory gave no account with an id back. -/
  unidentified : Program Outcome := do
    Program.rollback
    Program.log bound (Log.error "User directory returned no identifier")
    return .reject .unknown

/-- Login and email are free: stores the account. -/
def store (site : Installation) (bound : Log.Context) (candidate : User)
    (password token : Option String) : Program Outcome := do
  let token ← match token.filter (· ≠ "") with
    | some t => pure t
    | none => Program.freshToken
  let confirm ← confirmationRequired site bound
  let user ← Program.ofExcept (toStore candidate token confirm).build
  match ← (Program.persist user (password.filter (· ≠ "")) none).outcome with
  | .ok stored => complete bound candidate token confirm stored
  | .error (.duplicate field _) =>
    Program.log bound (Log.info "Registration lost a concurrent write" [("field", .str field)])
    return .reject (lostTo field)
  | .error e => .fail e

/-- Rejects an account, with a line in the log. -/
def turnDown (bound : Log.Context) (reason : String) (r : Rejection) : Program Outcome := do
  Program.log bound (Log.info ("Registration rejected: " ++ reason))
  return .reject r

/-- The steps of a registration; what a collaborator reports is passed on as it is. -/
def steps (site : Installation) (bound : Log.Context) (candidate : User)
    (password token : Option String) : Program Outcome := do
  let minimum ← Policy.loginLength site.settings bound
  if !Login.isLongEnough minimum candidate.login then
    turnDown bound "login too short" .loginTooShort
  else
    let scope : Scope := ⟨storedType candidate, candidate.domain⟩
    let loginFree ← Program.loginFree candidate.login scope none
    let emailFree ← Program.emailFree candidate.email scope none
    if !loginFree then turnDown bound "login in use" .loginInUse
    else if !emailFree then turnDown bound "email in use" .emailInUse
    else store site bound candidate password token

/-- A failure is passed on in the words of the workflow, after a rollback, unless a collaborator has
already put it into its own. -/
def wrapFailure (bound : Log.Context) (event purpose : String) (e : Failure) :
    Program Outcome :=
  if e.isCollaborator then .fail e
  else do
    Program.rollback
    Program.log bound (Log.error event [("error", .str e.report)])
    .fail (.caused ("Failed to " ++ purpose ++ ": " ++ e.report) e)

/-- Creates the account that the candidate describes. -/
def registerUser (site : Installation) (outer : Log.Context) (candidate : User)
    (password token : Option String) : Program Outcome :=
  Program.within outer "registration" ⟨[("login", .str candidate.login)]⟩ fun bound =>
    (steps site bound candidate password token).recover
      (wrapFailure bound "Registration failed" ("register '" ++ candidate.login ++ "'"))

/-- What a person enters to register. -/
structure Form where
  login : String
  password : Option String := none
  lastName : Option String := none
  firstName : Option String := none
  email : Option String := none
  country : Option String := none
  languageId : Option Int := none
  timezone : Option String := none
deriving DecidableEq

/-- The account that a form describes. -/
def Form.draft (f : Form) (locale : Locale.Resolved) (group : Option Group) : Draft :=
  ({ login := f.login, firstName := f.firstName, lastName := f.lastName, email := f.email,
     country := f.country, languageId := some locale.language,
     timezone := some locale.timezone } : Draft).join group

/-- An account that must still be confirmed is reported as such. -/
def asPending (o : Outcome) : Outcome := { o with rejection := some .pendingConfirmation }

/-- The steps of a self-service registration. -/
def selfSteps (site : Installation) (bound : Log.Context) (form : Form) : Program Outcome := do
  if !(← Policy.selfRegistration site.settings bound) then
    Program.log bound (Log.info "Self registration is disabled")
    return .reject .registrationDisabled
  else
    let resolver ← site.resolver bound
    let locale := resolver.resolve form.timezone form.languageId
    let group ← site.defaultGroup
    let candidate ← Program.ofExcept (form.draft locale group).build
    let outcome ← registerUser site bound candidate form.password none
    if outcome.ok then
      if ← confirmationRequired site bound then return asPending outcome else return outcome
    else return outcome

/-- Self-service registration; nothing when a collaborator failed. -/
def register (site : Installation) (outer : Log.Context) (form : Form) :
    Program (Option Outcome) :=
  Program.within outer "self_registration" ⟨[("login", .str form.login)]⟩ fun bound =>
    (do return some (← selfSteps site bound form)).recover fun _ => do
      Program.log bound (Log.error "Self registration failed")
      return none

end Enrollment.Registration
