/-
The questions that the workflows put to the directory of accounts.

Only active accounts answer.  Whether an email is free is asked by comparing it, all in small
letters, with the stored emails, whose ASCII capitals alone are made small.
-/
import Enrollment.Directory.Tables

namespace Enrollment.Directory

/-- Whether an active account belongs to a scope; an empty domain is no domain. -/
def Row.inScope (r : Row) (s : Scope) : Bool :=
  r.active && r.fields.type = s.type && r.fields.domain = filled s.domain

/-- Whether a row is another account than the excluded one. -/
def Row.counts (r : Row) (exclude : Option String) : Bool := exclude ≠ some r.id

namespace Tables

/-- Whether no active account of the scope, but for the excluded one, has the login. -/
def loginFree (t : Tables) (login : String) (s : Scope) (exclude : Option String) : Bool :=
  !t.users.any fun r => r.inScope s && r.fields.login = login && r.counts exclude

/-- Whether a stored email is the one asked about, which is in small letters. -/
def hasEmail (r : Row) (small : String) : Bool :=
  r.fields.email.any fun e => Text.asciiLower e = small

/-- Whether no active account of the scope, but for the excluded one, has the email; no email is
always free. -/
def emailFree (t : Tables) (email : Option String) (s : Scope) (exclude : Option String) : Bool :=
  match filled email with
  | none => true
  | some e => !t.users.any fun r => r.inScope s && hasEmail r (Text.lower e) && r.counts exclude

/-- The active account of the scope with the login. -/
def accountByLogin (t : Tables) (login : String) (s : Scope) : Except Failure (Option User) :=
  t.only fun r => r.inScope s && r.fields.login = login

/-- The active account that holds an activation token; without a token, the one that holds none. -/
def accountByToken (t : Tables) (token : Option String) : Except Failure (Option User) :=
  t.only fun r => r.active && r.fields.activationToken = token

/-- The account with an id, deleted or not. -/
def accountById (t : Tables) (id : String) : Option User := (t.row? id).map t.user

end Tables
end Enrollment.Directory
