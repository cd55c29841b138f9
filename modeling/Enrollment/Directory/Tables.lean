/-
The stored accounts, groups, memberships and configuration.

Accounts are never removed: a deleted account keeps its row and no longer counts as active.  Among
active accounts login, kind and domain are unique together, and so are email, kind and domain where
there is an email; emails are compared with their ASCII capitals made small.  Memberships are kept
in the order in which they were added.

Main definitions: `Tables.write`, the only way accounts and memberships change, which refuses a
write that would break a rule; `Tables.user`, the account that a row is read back as.
-/
import Enrollment.Policy.Configuration
import Enrollment.Text.Case
import Enrollment.Text.Digit
import Enrollment.Workflow.Call

namespace Enrollment

/-- A text that is not empty. -/
def filled (s : Option String) : Option String := s.filter (· ≠ "")

theorem given_filled (s : Option String) : given (filled s) = given s := by
  cases s with
  | none => rfl
  | some t => by_cases h : t = "" <;> simp [filled, given, Option.filter, h]

namespace Directory

/-- The fields that an account's row holds: neither its id nor its groups, no empty domain, and no
time zone offset. -/
def storedFields (d : Draft) : Draft :=
  { d with
    id := none
    groups := []
    domain := filled d.domain
    lastLogin := d.lastLogin.map Timestamp.withoutOffset }

theorem storedFields_valid {d : Draft} (h : d.Valid) : (storedFields d).Valid := fun ht =>
  (given_filled d.domain).trans (h ht)

/-- The row of an account. -/
structure Row where
  id : String
  fields : Draft
  valid : fields.Valid

theorem Row.eq_iff (a b : Row) : a = b ↔ a.id = b.id ∧ a.fields = b.fields := by
  cases a; cases b; simp

instance : DecidableEq Row := fun a b => decidable_of_iff _ (Row.eq_iff a b).symm

/-- The membership of an account in a group. -/
structure Member where
  account : String
  group : String
deriving DecidableEq

/-- Everything that is stored. -/
structure Tables where
  users : List Row := []
  groups : List Group := []
  members : List Member := []
  configuration : Policy.Configuration := []
deriving DecidableEq

/-! ### The unique keys of an account -/

/-- What may belong to one active account only. -/
structure Key where
  text : String
  type : UserType
  domain : Option String
deriving DecidableEq

/-- Whether an account takes part in the rules of uniqueness. -/
def Row.active (r : Row) : Bool := !r.fields.deleted

/-- The key that the login of an active account occupies. -/
def Row.loginKey? (r : Row) : Option Key :=
  if r.active then some ⟨r.fields.login, r.fields.type, r.fields.domain⟩ else none

/-- The key that the email of an active account occupies, if it has one. -/
def Row.emailKey? (r : Row) : Option Key :=
  if r.active then
    (filled r.fields.email).map fun e => ⟨Text.asciiLower e, r.fields.type, r.fields.domain⟩
  else none

/-- Whether two accounts occupy one key. -/
def clash (a b : Option Key) : Bool := a.isSome && a = b

/-- The rule that a row would break beside other rows; of two, the one on emails is named. -/
def brokenRule? (others : List Row) (r : Row) : Option Constraint :=
  if others.any fun o => clash r.emailKey? o.emailKey? then some .emailTaken
  else if others.any fun o => clash r.loginKey? o.loginKey? then some .loginTaken
  else none

namespace Tables

/-! ### Reading -/

/-- The row of an account. -/
def row? (t : Tables) (id : String) : Option Row := t.users.find? (·.id = id)

/-- The group with an id. -/
def group? (t : Tables) (id : String) : Option Group := t.groups.find? (·.id = id)

/-- The group with a name. -/
def groupNamed? (t : Tables) (name : String) : Option Group := t.groups.find? (·.name = name)

/-- The ids of the groups of an account, in the order in which it joined. -/
def groupsOf (t : Tables) (account : String) : List String :=
  (t.members.filter (·.account = account)).map (·.group)

/-- A membership with the group's name. -/
def membership (t : Tables) (group : String) : Membership :=
  ⟨group, (t.group? group).map (·.name)⟩

/-- The account that a row is read back as. -/
def user (t : Tables) (r : Row) : User :=
  { r.fields with
    id := some r.id
    groups := (t.groupsOf r.id).map t.membership
    valid := r.valid }

/-- All accounts, deleted ones included, in the order in which they came. -/
def everyUser (t : Tables) : List User := t.users.map t.user

/-- The one account among the rows that satisfy a condition; more than one is a failure. -/
def only (t : Tables) (p : Row → Bool) : Except Failure (Option User) :=
  match t.users.filter p with
  | [] => .ok none
  | [r] => .ok (some (t.user r))
  | _ => .error .ambiguous

/-! ### Writing -/

/-- A row to be stored, with the groups that the account is to be a member of. -/
structure Write where
  row : Row
  groups : List String
  /-- Whether the account is new. -/
  fresh : Bool
deriving DecidableEq

/-- The groups that an account joins by a write: those it is not a member of yet. -/
def joining (t : Tables) (w : Write) : List String :=
  w.groups.filter fun g => g ∉ t.groupsOf w.row.id

/-- The memberships after a write: those of the account that are still wanted, in their old order,
then those that it joins. -/
def membersAfter (t : Tables) (w : Write) : List Member :=
  t.members.filter (fun m => m.account ≠ w.row.id ∨ m.group ∈ w.groups) ++
    (t.joining w).map (⟨w.row.id, ·⟩)

/-- The rows after a write. -/
def usersAfter (t : Tables) (w : Write) : List Row :=
  if w.fresh then t.users ++ [w.row]
  else t.users.map fun r => if r.id = w.row.id then w.row else r

/-- Whether a text occurs twice in a list. -/
def hasTwice : List String → Bool
  | [] => false
  | a :: rest => a ∈ rest || hasTwice rest

/-- The rows beside which a written row has to keep the rules: all of them where the account is new,
the other ones where it is known. -/
def beside (t : Tables) (w : Write) : List Row :=
  if w.fresh then t.users else t.users.filter (·.id ≠ w.row.id)

/-- Why a write is refused. -/
def refusal? (t : Tables) (w : Write) : Option Failure :=
  if (w.row.fields.languageId.map Text.fitsWord).getD true = false then some .integerTooLarge
  else match brokenRule? (t.beside w) w.row with
  | some rule => some (.refused rule)
  | none =>
    if w.fresh && (t.row? w.row.id).isSome then some (.refused .accountId)
    else if hasTwice (t.joining w) then some (.refused .membershipTwice)
    else if (t.joining w).any fun g => (t.group? g).isNone then some (.refused .groupMissing)
    else none

/-- The tables after a write, unless it breaks a rule. -/
def write (t : Tables) (w : Write) : Except Failure Tables :=
  match t.refusal? w with
  | some e => .error e
  | none => .ok { t with users := t.usersAfter w, members := t.membersAfter w }

/-- The tables with a group added; name and id must be new. -/
def addGroup (t : Tables) (g : Group) : Except Failure Tables :=
  if (t.groupNamed? g.name).isSome then .error (.refused .groupName)
  else if (t.group? g.id).isSome then .error (.refused .groupId)
  else .ok { t with groups := t.groups ++ [g] }

end Tables
end Directory
end Enrollment
