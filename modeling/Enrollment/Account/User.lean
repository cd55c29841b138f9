/-
Accounts.

A `Draft` is a collection of account fields that may still be changed; a `User` is a draft that
passed the one rule an account has to keep: an account of an identity provider names the provider.
`Draft.build` is the only way from a draft to a user, and `Draft.ofUser` leads back, so every change
of an account is a change of its draft that is built again.  Both take over every field.
-/
import Enrollment.Account.Group
import Enrollment.Account.Right
import Enrollment.Account.Timestamp

namespace Enrollment

/-- Whether an optional text is there and not empty. -/
def given : Option String → Bool
  | none => false
  | some s => s ≠ ""

/-- The fields of an account. -/
structure Draft where
  login : String := ""
  type : UserType := .user
  id : Option String := none
  /-- The identity provider that the login belongs to. -/
  domain : Option String := none
  /-- The integration that provisioned the account. -/
  externalType : Option String := none
  passwordHash : Option String := none
  activationToken : Option String := none
  firstName : Option String := none
  lastName : Option String := none
  email : Option String := none
  country : Option String := none
  languageId : Option Int := none
  timezone : Option String := none
  picture : Option String := none
  showContactData : Bool := false
  rights : Rights := Rights.standard
  groups : List Membership := []
  lastLogin : Option Timestamp := none
  createdAt : Option Timestamp := none
  updatedAt : Option Timestamp := none
  updatedBy : Option String := none
  deleted : Bool := false
deriving DecidableEq

/-- An account of an identity provider names the provider. -/
def Draft.Valid (d : Draft) : Prop := d.type = .oauth → given d.domain = true

instance (d : Draft) : Decidable d.Valid := inferInstanceAs (Decidable (_ → _))

/-- An account. -/
structure User extends Draft where
  valid : toDraft.Valid
deriving DecidableEq

/-- Whether the account may sign in. -/
def Draft.canLogin (d : Draft) : Bool := d.rights.contains .login

/-- The ids of the groups of an account, in order. -/
def Draft.groupIds (d : Draft) : List String := d.groups.map (·.groupId)

/-- A draft with all fields of an account. -/
def Draft.ofUser (u : User) : Draft := {
  login := u.login, type := u.type, id := u.id, domain := u.domain, externalType := u.externalType,
  passwordHash := u.passwordHash, activationToken := u.activationToken, firstName := u.firstName,
  lastName := u.lastName, email := u.email, country := u.country, languageId := u.languageId,
  timezone := u.timezone, picture := u.picture, showContactData := u.showContactData,
  rights := u.rights, groups := u.groups, lastLogin := u.lastLogin, createdAt := u.createdAt,
  updatedAt := u.updatedAt, updatedBy := u.updatedBy, deleted := u.deleted }

@[simp] theorem Draft.ofUser_eq (u : User) : Draft.ofUser u = u.toDraft := rfl

/-- The account that a draft describes. -/
def Draft.build (d : Draft) : Except Failure User :=
  if h : d.Valid then .ok {
    login := d.login, type := d.type, id := d.id, domain := d.domain,
    externalType := d.externalType, passwordHash := d.passwordHash,
    activationToken := d.activationToken, firstName := d.firstName, lastName := d.lastName,
    email := d.email, country := d.country, languageId := d.languageId, timezone := d.timezone,
    picture := d.picture, showContactData := d.showContactData, rights := d.rights,
    groups := d.groups, lastLogin := d.lastLogin, createdAt := d.createdAt,
    updatedAt := d.updatedAt, updatedBy := d.updatedBy, deleted := d.deleted,
    valid := h }
  else .error .domainRequired

/-! ### Changes to a draft -/

/-- A draft joins a group unless it is a member already. -/
def Draft.addGroup (d : Draft) (g : Group) : Draft :=
  if g.id ∈ d.groupIds then d else { d with groups := d.groups ++ [g.membership] }

/-- A draft is given a right. -/
def Draft.grant (d : Draft) (r : Right) : Draft := { d with rights := d.rights.insert r }

/-- A right is taken from a draft. -/
def Draft.revoke (d : Draft) (r : Right) : Draft := { d with rights := d.rights.erase r }

end Enrollment
