/-
Account kinds and the rights that an account may hold.

A `Rights` value is a set: which of the six rights it holds is all there is to it, so two sets with
the same members are equal.  `toList` gives the members in the order of their names.
-/
namespace Enrollment

/-- How an account came to exist. -/
inductive UserType where
  | user
  | external
  | oauth
deriving DecidableEq

/-- The name that an account kind is stored and shown under. -/
def UserType.name : UserType → String
  | .user => "user"
  | .external => "external"
  | .oauth => "oauth"

/-- The account kind of that name. -/
def UserType.ofName? (s : String) : Option UserType :=
  [UserType.user, .external, .oauth].find? (·.name = s)

/-- What an account may do. -/
inductive Right where
  | admin
  | dashboard
  | groupAdmin
  | login
  | room
  | soap
deriving DecidableEq

namespace Right

/-- The name that a right is stored and shown under. -/
def name : Right → String
  | .admin => "Admin"
  | .dashboard => "Dashboard"
  | .groupAdmin => "GroupAdmin"
  | .login => "Login"
  | .room => "Room"
  | .soap => "Soap"

/-- All rights, in the order of their names. -/
def all : List Right := [.admin, .dashboard, .groupAdmin, .login, .room, .soap]

/-- The right of that name. -/
def ofName? (s : String) : Option Right := all.find? (·.name = s)

end Right

/-- A set of rights. -/
structure Rights where
  admin : Bool := false
  dashboard : Bool := false
  groupAdmin : Bool := false
  login : Bool := false
  room : Bool := false
  soap : Bool := false
deriving DecidableEq

namespace Rights

/-- Whether the set holds a right. -/
def contains (rs : Rights) : Right → Bool
  | .admin => rs.admin
  | .dashboard => rs.dashboard
  | .groupAdmin => rs.groupAdmin
  | .login => rs.login
  | .room => rs.room
  | .soap => rs.soap

/-- The set with the membership of one right settled. -/
def set (rs : Rights) (r : Right) (held : Bool) : Rights :=
  match r with
  | .admin => { rs with admin := held }
  | .dashboard => { rs with dashboard := held }
  | .groupAdmin => { rs with groupAdmin := held }
  | .login => { rs with login := held }
  | .room => { rs with room := held }
  | .soap => { rs with soap := held }

/-- The set with a right added. -/
def insert (rs : Rights) (r : Right) : Rights := rs.set r true

/-- The set without a right. -/
def erase (rs : Rights) (r : Right) : Rights := rs.set r false

/-- The members, in the order of their names. -/
def toList (rs : Rights) : List Right := Right.all.filter rs.contains

/-- The set of the members of a list. -/
def ofList (l : List Right) : Rights := l.foldl insert {}

/-- What a new account may do unless something else is said: enter rooms, see the dashboard and
sign in. -/
def standard : Rights := { dashboard := true, login := true, room := true }

end Rights

@[simp] theorem Rights.contains_set (rs : Rights) (r s : Right) (held : Bool) :
    (rs.set r held).contains s = if s = r then held else rs.contains s := by
  cases r <;> cases s <;> rfl

@[simp] theorem Rights.mem_toList (rs : Rights) (r : Right) :
    r ∈ rs.toList ↔ rs.contains r = true := by
  cases r <;> simp [Rights.toList, Right.all]

end Enrollment
