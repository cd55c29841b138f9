/-
Messages as the program hands them over for delivery, and the form of a sender.
-/
import Enrollment.Account.Failure
import Enrollment.Mail.EncodedWord

namespace Enrollment.Mail

/-- A message to one recipient, with a text and an HTML body. -/
structure Message where
  recipient : String
  subject : String
  html : String
  text : String
  fromEmail : String
  fromName : String
  replyTo : Option String := none
deriving DecidableEq

/-- The characters that a display name may only hold in quotes. -/
def nameSpecials : List Char :=
  ['(', ')', '<', '>', '@', ',', ':', ';', '.', '[', ']', '\x22', '\\']

/-- A display name with its quotes and backslashes escaped. -/
def escapeName (name : String) : String :=
  String.ofList (name.toList.flatMap fun c => if c = '\x22' ∨ c = '\\' then ['\\', c] else [c])

/-- A display name: encoded when it is not ASCII, quoted when it has to be. -/
def displayName (name : String) : String :=
  if (Text.notAscii? name).isSome then EncodedWord.encode name
  else if name.toList.any (· ∈ nameSpecials) then "\"" ++ escapeName name ++ "\""
  else escapeName name

/-- The sender of a message: an address, which must be ASCII, and a name in front unless it is
empty. -/
def sender (email : String) (name : String) : Except Failure String :=
  match Text.notAscii? email with
  | some run => .error (.notAscii run)
  | none => .ok (if name = "" then email else displayName name ++ " <" ++ email ++ ">")

end Enrollment.Mail
