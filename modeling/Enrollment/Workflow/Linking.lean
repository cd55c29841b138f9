/-
Linking of identities: an assertion of an identity provider is mapped to the account of its login
in the provider's scope.

The account is found or provisioned, its locale brought up to date, its last login stamped, and its
password replaced by one that nobody knows.  A provisioned account may not sign in by itself; linking
an account again changes none of its rights.  Where another run creates the account first, the
steps are taken once more and find it.
-/
import Enrollment.Account.Assertion
import Enrollment.Workflow.Registration

namespace Enrollment.Linking

/-- Who is recorded as having changed a linked account. -/
def systemActor : String := "system"

/-- The accounts of a provider. -/
def scope (provider : String) : Scope := ⟨.oauth, some provider⟩

/-- A new account for an assertion. -/
def newDraft (a : Assertion) (provider : String) (defaults : Locale.Resolved)
    (group : Option Group) : Draft :=
  let d : Draft := {
    login := a.uid, type := .oauth, domain := some provider, firstName := a.firstName,
    lastName := a.lastName, email := a.email, languageId := some defaults.language,
    timezone := some defaults.timezone, showContactData := true,
    picture := a.picture.filter (· ≠ "") }
  (d.revoke .login).join group

/-- The account that an assertion is linked to: the existing one, or a new one. -/
def baseDraft (site : Installation) (a : Assertion) (provider : String)
    (resolver : Locale.Resolver) : Option User → Program Draft
  | some u => return Draft.ofUser u
  | none => return newDraft a provider (resolver.resolve none none) (← site.defaultGroup)

/-- An account with the locale of a tag; a tag without a region keeps the country. -/
def withLocale (d : Draft) : Option (Int × Option String) → Draft
  | none => d
  | some (language, region) =>
    { d with
      languageId := some language
      country := if given region then region else d.country }

/-- The account has been stored: commits it. -/
def complete (bound : Log.Context) (created : Bool) (stored : Option User) : Program Outcome := do
  Program.commit
  match stored with
  | none => .fail .accountLost
  | some user =>
    Program.log bound
      (Log.info "Identity linked" [("user_id", .ofText? user.id), ("created", .bool created)])
    return .success user

/-- What follows where the account could not be stored.  A new one whose key is taken has been
created meanwhile: the workflow goes on with `again`, if it may. -/
def afterFailure (bound : Log.Context) (a : Assertion) (created : Bool)
    (again : Option (Program Outcome)) (e : Failure) : Program Outcome :=
  match e, created, again with
  | .duplicate _ _, true, some again => do
    Program.log bound (Log.info "Account created concurrently, linking again")
    again
  | .duplicate _ _, _, _ => .fail (.caused ("Could not store linked account '" ++ a.uid ++ "'") e)
  | e, _, _ => .fail e

/-- One attempt at linking; `again` is what may be tried after it. -/
def attempt (site : Installation) (bound : Log.Context) (a : Assertion) (provider : String)
    (again : Option (Program Outcome)) : Program Outcome := do
  let minimum ← Policy.loginLength site.settings bound
  if !Login.isValid minimum a.uid then
    Program.log bound (Log.error "Invalid login from identity provider")
    return .reject .invalidLogin
  else
    let existing ← Program.accountByLogin a.uid (scope provider)
    let emailFree ← Program.emailFree a.email (scope provider) (existing.bind fun u => u.id)
    if !emailFree then
      Program.log bound (Log.error "Another user with the same email exists")
      return .reject .emailConflict
    else
      let resolver ← site.resolver bound
      let base ← baseDraft site a provider resolver existing
      let now ← Program.clock
      let draft := { withLocale base (resolver.resolveTag? a.locale) with lastLogin := some now }
      let length ← Policy.passwordLength site.settings bound
      let password ← Program.randomPassword length
      let user ← Program.ofExcept draft.build
      match ← (Program.persist user (some password) (some systemActor)).outcome with
      | .ok stored => complete bound existing.isNone stored
      | .error e => afterFailure bound a existing.isNone again e

/-- The steps of linking; the number says how often they may be taken again after the account turned
out to have been created meanwhile. -/
def steps (site : Installation) (bound : Log.Context) (a : Assertion) (provider : String) :
    Nat → Program Outcome
  | 0 => attempt site bound a provider none
  | retries + 1 => attempt site bound a provider (some (steps site bound a provider retries))

/-- Links an assertion to its account, creating the account if there is none. -/
def linkOrCreate (site : Installation) (outer : Log.Context) (a : Assertion) (provider : String) :
    Program Outcome :=
  Program.within outer "link" ⟨[("uid", .str a.uid), ("provider_id", .str provider)]⟩ fun bound =>
    (steps site bound a provider 1).recover
      (Registration.wrapFailure bound "Identity linking failed" ("link '" ++ a.uid ++ "'"))

end Enrollment.Linking
