/-
The message of a registration email.

Where the account has to be confirmed the message carries the activation link: the base URL,
`activate?u=` and the token, percent-encoded.  A welcome message mentions neither.
-/
import Enrollment.Locale.Language
import Enrollment.Mail.Message
import Enrollment.Notice.Wording
import Enrollment.Settings.BaseUrl
import Enrollment.Settings.Basic
import Enrollment.Template.Render
import Enrollment.Workflow.Call

namespace Enrollment.Notice

/-- The link that activates the account of a token; empty without a base URL. -/
def activationUrl (baseUrl token : String) : String :=
  if baseUrl = "" then "" else withSlash baseUrl ++ "activate?u=" ++ Text.percentEncode token

/-- A rendered email. -/
structure Rendered where
  subject : String
  html : String
  text : String
deriving DecidableEq

/-- An email's templates rendered: subject first, then the two bodies. -/
def Templates.render (t : Templates) (vars : Template.Variables) :
    Except Template.Fault Rendered := do
  let subject ← t.subject.render .text vars
  let html ← t.html.render .html vars
  let text ← t.text.render .text vars
  return { subject, html, text }

/-- The kind of email that a notice calls for. -/
def kind (n : Notice) : Kind := if n.confirm then .activation else .welcome

/-- The values of the variables that every template may use. -/
def values (s : Settings) (baseUrl : String) (n : Notice) : Template.Variables := [
  ("app_name", .str s.appName), ("login", .str n.login), ("email", .ofText? n.email),
  ("token", .str n.token), ("activation_url", .str (activationUrl baseUrl n.token))]

/-- A fault of a template as a failure. -/
def faultFailure (e : Template.Fault) : Failure := .foreign "UndefinedError" e.message

/-- The message of a notice. -/
def compose (s : Settings) (catalog : Locale.Catalog) (baseUrl : String) (n : Notice) :
    Except Failure Mail.Message := do
  let t := templates (kind n) (catalog.codeOf n.languageId "en")
  match t.render (values s baseUrl n) with
  | .error e => throw (faultFailure e)
  | .ok r => return {
      recipient := n.email.getD "", subject := r.subject, html := r.html, text := r.text,
      fromEmail := s.mailFrom, fromName := s.mailFromName }

end Enrollment.Notice
