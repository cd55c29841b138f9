/-
What a workflow asks of its collaborators.

The directory of accounts, the groups, the stored configuration, the notifier, the session that
writes belong to, the sources of randomness and time, and the log are all reached by a `Call`;
`Call.Reply` is what a call that does not fail is answered with.
-/
import Enrollment.Account.User
import Enrollment.Log.Event

namespace Enrollment

/-- The accounts among which a login and an email have to be unique. -/
structure Scope where
  type : UserType
  domain : Option String := none
deriving DecidableEq

/-- The scope that an account belongs to. -/
def Draft.scope (d : Draft) : Scope := ⟨d.type, d.domain⟩

/-- A registration email that is due. -/
structure Notice where
  login : String
  email : Option String
  token : String
  /-- Whether the account has to be confirmed before it can be used. -/
  confirm : Bool
  languageId : Option Int
deriving DecidableEq

/-- One thing asked of a collaborator. -/
inductive Call where
  /-- The text stored under a configuration key. -/
  | configValue (key : String)
  /-- Whether no active account of the scope, but for the excluded one, has the login. -/
  | loginFree (login : String) (scope : Scope) (exclude : Option String)
  /-- Whether no active account of the scope, but for the excluded one, has the email. -/
  | emailFree (email : Option String) (scope : Scope) (exclude : Option String)
  /-- The active account of the scope with the login. -/
  | accountByLogin (login : String) (scope : Scope)
  /-- Stores an account and gives it back as stored. -/
  | persist (user : User) (password : Option String) (actor : Option String)
  /-- The group with the id. -/
  | group (id : String)
  /-- A password that nobody knows. -/
  | randomPassword (length : Int)
  /-- An activation token that was never given out before. -/
  | freshToken
  /-- The id of a new run. -/
  | freshRun
  /-- The present time. -/
  | clock
  /-- Sends a registration email; the answer is whether it was accepted. -/
  | notify (notice : Notice)
  /-- Makes the writes of the session lasting. -/
  | commit
  /-- Drops the writes of the session that are not lasting. -/
  | rollback
  /-- Writes to the log. -/
  | log (event : Log.Event)

/-- What a call is answered with. -/
@[reducible] def Call.Reply : Call → Type
  | .configValue _ => Option String
  | .loginFree _ _ _ => Bool
  | .emailFree _ _ _ => Bool
  | .accountByLogin _ _ => Option User
  | .persist _ _ _ => Option User
  | .group _ => Option Group
  | .randomPassword _ => String
  | .freshToken => String
  | .freshRun => String
  | .clock => Timestamp
  | .notify _ => Bool
  | .commit => Unit
  | .rollback => Unit
  | .log _ => Unit

end Enrollment
