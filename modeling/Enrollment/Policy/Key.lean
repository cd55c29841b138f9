/-
The policies that can be configured while the program runs, and the keys they are stored under.
-/
namespace Enrollment.Policy

/-- A policy. -/
inductive Key where
  | emailVerification
  | selfRegistration
  | baseUrl
  | defaultGroup
  | defaultLanguage
  | defaultTimezone
  | loginLength
  | passwordLength
deriving DecidableEq

/-- The key that a policy is stored under. -/
def Key.name : Key → String
  | .emailVerification => "email.verification"
  | .selfRegistration => "allow.soap.register"
  | .baseUrl => "application.base.url"
  | .defaultGroup => "default.group.id"
  | .defaultLanguage => "default.lang.id"
  | .defaultTimezone => "default.timezone"
  | .loginLength => "user.login.minimum.length"
  | .passwordLength => "user.random.password.length"

/-- What a policy settles, in a few words. -/
def Key.description : Key → String
  | .emailVerification => "Require email confirmation before login"
  | .selfRegistration => "Allow self-service registration"
  | .baseUrl => "Public base URL used in activation links"
  | .defaultGroup => "Group new users join"
  | .defaultLanguage => "Language id used when none is given"
  | .defaultTimezone => "Timezone used when none is given"
  | .loginLength => "Minimum login length"
  | .passwordLength => "Length of generated throwaway passwords"

/-- All policies. -/
def Key.all : List Key :=
  [.emailVerification, .selfRegistration, .baseUrl, .defaultGroup, .defaultLanguage,
    .defaultTimezone, .loginLength, .passwordLength]

/-- The policy stored under a key. -/
def Key.ofName? (name : String) : Option Key := Key.all.find? (·.name = name)

end Enrollment.Policy
