/-
Groups of accounts, and the membership of an account in a group.
-/
import Enrollment.Account.Failure

namespace Enrollment

/-- A group; accounts refer to it by id. -/
structure Group where
  id : String
  name : String
  description : Option String := none
deriving DecidableEq

/-- A group has an id and a name. -/
def Group.make (id name : String) (description : Option String) : Except Failure Group :=
  if id = "" then .error .groupIdRequired
  else if name = "" then .error .groupNameRequired
  else .ok ⟨id, name, description⟩

/-- The membership of an account in a group, with the group's name where it is known. -/
structure Membership where
  groupId : String
  groupName : Option String := none
deriving DecidableEq

/-- The membership in a given group. -/
def Group.membership (g : Group) : Membership := ⟨g.id, some g.name⟩

end Enrollment
