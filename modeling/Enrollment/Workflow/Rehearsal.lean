/-
Rehearsals: a workflow runs against collaborators that follow scripts, and every call is noted.

The configuration answers from a list of texts, a key of which may fail instead; tokens and run ids
are numbered.  Calls to the configuration, the sources of names and time, and the log are not noted.
-/
import Enrollment.Workflow.Program
import Enrollment.Workflow.Script

namespace Enrollment.Workflow

/-- What a scripted directory gives back for an account it was to store. -/
inductive Stored where
  /-- The account, with an id and the actor if it had no id. -/
  | assigned
  /-- The account, unchanged. -/
  | unchanged
  /-- Nothing. -/
  | nothing

/-- The id that a scripted directory assigns. -/
def assignedId : String := "new-id"

/-- The account that a scripted directory gives back. -/
def Stored.give (user : User) (actor : Option String) : Stored → Option User
  | .assigned =>
    if user.id.isNone then
      some { user.toDraft with id := some assignedId, updatedBy := actor, valid := user.valid }
    else some user
  | .unchanged => some user
  | .nothing => none

/-- The scripts of all collaborators. -/
structure Cast where
  values : List (String × Option String) := []
  failures : List (String × Failure) := []
  loginFree : Script Bool := .always (.ok true)
  emailFree : Script Bool := .always (.ok true)
  accountByLogin : Script (Option User) := .always (.ok none)
  persist : Script Stored := .always (.ok .assigned)
  group : Script (Option Group) := .always (.ok none)
  notify : Script Bool := .always (.ok true)
  now : Timestamp
  token : Nat → String
  runId : Nat → String

/-- The text under a key; of two for one key the later counts. -/
def Cast.value (c : Cast) (key : String) : Except Failure (Option String) :=
  match c.failures.reverse.find? (·.1 = key) with
  | some (_, e) => .error e
  | none => .ok ((c.values.reverse.find? (·.1 = key)).bind (·.2))

/-- A rehearsal: the scripts as they are left, and what has been noted. -/
structure Rehearsal where
  cast : Cast
  calls : List Call := []
  log : List Log.Event := []
  tokens : Nat := 0
  runs : Nat := 0

namespace Rehearsal

/-- A call is noted. -/
def note (r : Rehearsal) (c : Call) : Rehearsal := { r with calls := r.calls ++ [c] }

/-- The answer to a call. -/
def answer : Handler Rehearsal
  | .configValue key, r => (r.cast.value key, r)
  | .loginFree login scope exclude, r =>
    let (a, s) := r.cast.loginFree.next
    (a, { r.note (.loginFree login scope exclude) with cast := { r.cast with loginFree := s } })
  | .emailFree email scope exclude, r =>
    let (a, s) := r.cast.emailFree.next
    (a, { r.note (.emailFree email scope exclude) with cast := { r.cast with emailFree := s } })
  | .accountByLogin login scope, r =>
    let (a, s) := r.cast.accountByLogin.next
    (a, { r.note (.accountByLogin login scope) with cast := { r.cast with accountByLogin := s } })
  | .persist user password actor, r =>
    let (a, s) := r.cast.persist.next
    (a.map (Stored.give user actor),
      { r.note (.persist user password actor) with cast := { r.cast with persist := s } })
  | .group id, r =>
    let (a, s) := r.cast.group.next
    (a, { r.note (.group id) with cast := { r.cast with group := s } })
  | .randomPassword length, r =>
    (.ok ("random:" ++ toString length), r.note (.randomPassword length))
  | .freshToken, r => (.ok (r.cast.token r.tokens), { r with tokens := r.tokens + 1 })
  | .freshRun, r => (.ok (r.cast.runId r.runs), { r with runs := r.runs + 1 })
  | .clock, r => (.ok r.cast.now, r)
  | .notify notice, r =>
    let (a, s) := r.cast.notify.next
    (a, { r.note (.notify notice) with cast := { r.cast with notify := s } })
  | .commit, r => (.ok (), r.note .commit)
  | .rollback, r => (.ok (), r.note .rollback)
  | .log event, r => (.ok (), { r with log := r.log ++ [event] })

end Rehearsal
end Enrollment.Workflow
