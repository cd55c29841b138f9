/-
Sessions: writes that become lasting together or not at all.

A session sees the lasting tables changed by its own writes.  A write is staged first and reaches
the tables when the session is flushed; a flush that is refused drops everything since the last
commit.  `Session.persist` stores an account and reads it back.

A password that cannot be hashed leaves the account staged: it is up to the caller to roll back.
-/
import Enrollment.Directory.Lookup

namespace Enrollment.Directory

/-- A session. -/
structure Session where
  lasting : Tables := {}
  working : Tables := lasting
  staged : List Tables.Write := []
deriving DecidableEq

namespace Session

/-- The session without the writes that are not lasting. -/
def rollback (s : Session) : Session := { lasting := s.lasting }

/-- The tables after writes, those to known accounts before those of new ones. -/
def settled (t : Tables) (staged : List Tables.Write) : Except Failure Tables :=
  (staged.filter (!·.fresh) ++ staged.filter (·.fresh)).foldlM Tables.write t

/-- Brings the staged writes and one more change to the tables. -/
def flushWith {α : Type} (s : Session) (change : Tables → Except Failure (α × Tables)) :
    Except Failure α × Session :=
  match settled s.working s.staged >>= change with
  | .ok (a, t) => (.ok a, { s with working := t, staged := [] })
  | .error e => (.error e, s.rollback)

/-- Brings the staged writes to the tables. -/
def flush (s : Session) : Except Failure Unit × Session := s.flushWith fun t => .ok ((), t)

/-- Makes the writes of the session lasting. -/
def commit (s : Session) : Except Failure Unit × Session :=
  match s.flush with
  | (.ok (), s) => (.ok (), { s with lasting := s.working })
  | (.error e, s) => (.error e, s)

/-! ### Storing an account -/

/-- What storing an account needs from outside. -/
structure Clerk where
  /-- The id that a new account gets. -/
  freshId : String
  /-- The present time. -/
  now : Timestamp
  /-- The hash of a password. -/
  hash : String → Except Failure String

/-- The write that stores an account: `old` is its present row, if it has one. -/
def writeOf (clerk : Clerk) (old : Option Row) (u : User) (password : Option String)
    (actor : Option String) : Tables.Write where
  row := {
    id := (old.map (·.id)).getD clerk.freshId
    fields := { storedFields u.toDraft with
      passwordHash := password.or u.passwordHash
      createdAt := (old.bind fun r => r.fields.createdAt).or (some clerk.now.withoutOffset)
      updatedAt := some clerk.now.withoutOffset
      updatedBy := actor }
    valid := storedFields_valid u.valid }
  groups := u.groupIds
  fresh := old.isNone

/-- How the session reports a write that broke a rule. -/
def reported : Failure → Failure
  | .refused rule => .duplicateOf rule.field
  | e => e

/-- Stores an account under its present row, or as a new account. -/
def store (s : Session) (clerk : Clerk) (old : Option Row) (u : User) (password : Option String)
    (actor : Option String) : Except Failure User × Session :=
  match (filled password).mapM clerk.hash with
  | .error e =>
    let staged := writeOf clerk old u none (old.bind fun r => r.fields.updatedBy)
    (.error e, { s with staged := s.staged ++ [staged] })
  | .ok hashed =>
    let w := writeOf clerk old u hashed actor
    match { s with staged := s.staged ++ [w] : Session }.flush with
    | (.ok (), s) => (.ok (s.working.user w.row), s)
    | (.error e, s) => (.error (reported e), s)

/-- Stores an account and gives it back as stored; an id must be that of a known account. -/
def persist (s : Session) (clerk : Clerk) (u : User) (password actor : Option String) :
    Except Failure User × Session :=
  match u.id with
  | none => s.store clerk none u password actor
  | some id =>
    match s.working.row? id with
    | none => (.error (.accountMissing id), s)
    | some old => s.store clerk (some old) u password actor

/-! ### Groups and configuration -/

/-- Adds a group. -/
def createGroup (s : Session) (g : Group) : Except Failure Group × Session :=
  s.flushWith fun t => return (g, ← t.addGroup g)

/-- Stores a text under a key and gives the entry. -/
def configure (s : Session) (key : String) (value description : Option String) :
    Except Failure (Option Policy.Entry) × Session :=
  s.flushWith fun t =>
    let c := t.configuration.set key value description
    .ok (c.entry? key, { t with configuration := c })

/-- Removes a key; the answer is whether it was there. -/
def unset (s : Session) (key : String) : Except Failure Bool × Session :=
  if (s.working.configuration.entry? key).isNone then (.ok false, s)
  else s.flushWith fun t => .ok (true, { t with configuration := t.configuration.erase key })

end Session
end Enrollment.Directory
