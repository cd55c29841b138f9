/-
The wording of registration emails in the languages that have one, and the templates made of it.

There are two kinds of email: one that asks for the confirmation of the address and carries the
activation link, and one that only says welcome.  A language without a wording gets the English
one.
-/
import Enrollment.Template.Basic

namespace Enrollment.Notice

/-- The kind of a registration email. -/
inductive Kind where
  | activation
  | welcome
deriving DecidableEq

/-- The name of a kind. -/
def Kind.name : Kind → String
  | .activation => "activation"
  | .welcome => "registration_notice"

/-- The kind of that name. -/
def Kind.ofName? (s : String) : Option Kind := [Kind.activation, .welcome].find? (·.name = s)

/-- What registration emails say in one language. -/
structure Wording where
  greeting : String
  confirmTitle : String
  /-- What follows the program's name in the subject. -/
  confirmSubject : String
  confirmLead : String
  confirmClose : String
  welcomeTitle : String
  welcomeSubject : String
  /-- What precedes the login. -/
  welcomeLead : String
  /-- What follows the login. -/
  welcomeTail : String

/-- The English wording. -/
def english : Wording where
  greeting := "Hello "
  confirmTitle := "Confirm your account"
  confirmSubject := ": confirm your account"
  confirmLead :=
    "Your account has been created. Please confirm your email address to be able to sign in:"
  confirmClose := "If you did not register, you can ignore this email."
  welcomeTitle := "Welcome"
  welcomeSubject := ": welcome"
  welcomeLead := "Your account has been created. You can sign in with the login "
  welcomeTail := "."

/-- The German wording. -/
def german : Wording where
  greeting := "Hallo "
  confirmTitle := "Konto bestätigen"
  confirmSubject := ": Konto bestätigen"
  confirmLead :=
    "Ihr Konto wurde angelegt. Bitte bestätigen Sie Ihre E-Mail-Adresse, um sich anmelden zu können:"
  confirmClose := "Falls Sie sich nicht registriert haben, ignorieren Sie diese E-Mail."
  welcomeTitle := "Willkommen"
  welcomeSubject := ": Willkommen"
  welcomeLead := "Ihr Konto wurde angelegt. Sie können sich mit dem Login "
  welcomeTail := " anmelden."

/-- The French wording. -/
def french : Wording where
  greeting := "Bonjour "
  confirmTitle := "Confirmez votre compte"
  confirmSubject := " : confirmez votre compte"
  confirmLead :=
    "Votre compte a été créé. Confirmez votre adresse e-mail pour pouvoir vous connecter :"
  confirmClose := "Si vous ne vous êtes pas inscrit, ignorez cet e-mail."
  welcomeTitle := "Bienvenue"
  welcomeSubject := " : bienvenue"
  welcomeLead := "Votre compte a été créé. Vous pouvez vous connecter avec l'identifiant "
  welcomeTail := "."

/-- The wording for a language code. -/
def Wording.ofCode (code : String) : Wording :=
  if code = "de" then german else if code = "fr" then french else english

/-! ### The templates -/

/-- A place for a variable. -/
def hole (name : String) : Template.Node := .value (.name name)

/-- Fixed text. -/
def fixed (s : String) : Template.Node := .text s

/-- The templates of one email. -/
structure Templates where
  subject : Template
  html : Template
  text : Template

/-- An HTML page with a title and a content. -/
def page (title : String) (content : Template) : Template :=
  fixed ("<!DOCTYPE html>\n<html>\n<head><meta charset=\"UTF-8\"><title>" ++ title ++
      "</title></head>\n<body style=\"margin: 0; padding: 24px; font-family: Arial, sans-serif; " ++
      "background-color: #f4f7fa;\">\n  <div style=\"max-width: 600px; margin: 0 auto; " ++
      "background: #ffffff; border-radius: 8px; padding: 32px;\">\n" ++
      "    <h1 style=\"margin: 0 0 24px 0; color: #2c3e50;\">") ::
    hole "app_name" :: fixed "</h1>\n    " ::
      (content ++ [fixed "\n  </div>\n</body>\n</html>"])

/-- The email that asks for confirmation. -/
def Wording.confirmation (w : Wording) : Templates where
  subject := [hole "app_name", fixed w.confirmSubject]
  html := page w.confirmTitle [
    fixed ("<p>" ++ w.greeting), hole "login",
    fixed (",</p>\n    <p>" ++ w.confirmLead ++ "</p>\n    <p><a href=\""), hole "activation_url",
    fixed "\" style=\"color: #3498db;\">", hole "activation_url",
    fixed ("</a></p>\n    <p style=\"color: #718096;\">" ++ w.confirmClose ++ "</p>")]
  text := [
    fixed w.greeting, hole "login", fixed (",\n\n" ++ w.confirmLead ++ "\n\n"),
    hole "activation_url", fixed ("\n\n" ++ w.confirmClose)]

/-- The email that says welcome. -/
def Wording.welcome (w : Wording) : Templates where
  subject := [hole "app_name", fixed w.welcomeSubject]
  html := page w.welcomeTitle [
    fixed ("<p>" ++ w.greeting), hole "login",
    fixed (",</p>\n    <p>" ++ w.welcomeLead ++ "<strong>"), hole "login",
    fixed ("</strong>" ++ w.welcomeTail ++ "</p>")]
  text := [
    fixed w.greeting, hole "login", fixed (",\n\n" ++ w.welcomeLead), hole "login",
    fixed w.welcomeTail]

/-- The templates of a kind of email in a language. -/
def templates (kind : Kind) (code : String) : Templates :=
  match kind with
  | .activation => (Wording.ofCode code).confirmation
  | .welcome => (Wording.ofCode code).welcome

end Enrollment.Notice
