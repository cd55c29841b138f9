/-
The collaborators of an installation: the directory behind a session, the outbox, the counters that
fresh ids are drawn from, and the log.

`Service.answer` answers the calls of the workflows from a `World`; `Service.run` runs a workflow.
While the storage is closed every question to it fails, and so does every write.
-/
import Enrollment.Directory.Session
import Enrollment.Mail.Outbox
import Enrollment.Notice.Compose
import Enrollment.Workflow.Linking

namespace Enrollment

/-- What an installation draws on: fresh names, the time, and the handling of passwords. -/
structure Surroundings where
  freshId : Nat → String
  token : Nat → String
  runId : Nat → String
  now : Timestamp
  hash : String → Except Failure String
  randomPassword : Int → Except Failure String

/-- An installation and its surroundings. -/
structure Service where
  site : Installation := {}
  around : Surroundings

/-- What the calls of the workflows see and change. -/
structure World where
  session : Directory.Session := {}
  /-- Whether the storage can be reached. -/
  isOpen : Bool := true
  outbox : Mail.Outbox := {}
  ids : Nat := 0
  tokens : Nat := 0
  runs : Nat := 0
  log : List Log.Event := []

namespace World

/-- The tables as the session sees them. -/
def tables (w : World) : Directory.Tables := w.session.working

/-- An answer from the tables. -/
def ask {α : Type} (w : World) (question : Directory.Tables → Except Failure α) :
    Except Failure α × World :=
  if w.isOpen then (question w.tables, w) else (.error .storageClosed, w)

/-- A step of the session. -/
def step {α : Type} (w : World)
    (change : Directory.Session → Except Failure α × Directory.Session) :
    Except Failure α × World :=
  if w.isOpen then
    let (r, session) := change w.session
    (r, { w with session })
  else (.error .storageClosed, w)

/-- Makes the writes of the session lasting. -/
def commit (w : World) : Except Failure Unit × World :=
  if w.isOpen then w.step Directory.Session.commit else (.ok (), w)

/-- Drops the writes of the session that are not lasting. -/
def rollback (w : World) : World := { w with session := w.session.rollback }

end World

namespace Service

/-- The clerk who stores the next account. -/
def clerk (sv : Service) (w : World) : Directory.Session.Clerk where
  freshId := sv.around.freshId w.ids
  now := sv.around.now
  hash := sv.around.hash

/-- Stores an account. -/
def persist (sv : Service) (w : World) (u : User) (password actor : Option String) :
    Except Failure User × World :=
  let (r, w') := w.step fun s => s.persist (sv.clerk w) u password actor
  (r, { w' with ids := w.ids + 1 })

/-- Sends a registration email. -/
def notify (sv : Service) (w : World) (n : Notice) : Except Failure Bool × World :=
  match w.ask fun t => .ok (t.configuration.value? Policy.Key.baseUrl.name) with
  | (.error e, w) => (.error e, w)
  | (.ok stored, w) =>
    match Notice.compose sv.site.settings sv.site.catalog
        (Policy.baseUrlOf sv.site.settings stored) n with
    | .error e => (.error e, w)
    | .ok m =>
      let (r, outbox) := w.outbox.post m
      (r, { w with outbox })

/-- The answer to a call. -/
def answer (sv : Service) : Handler World
  | .configValue key, w => w.ask fun t => .ok (t.configuration.value? key)
  | .loginFree login scope exclude, w => w.ask fun t => .ok (t.loginFree login scope exclude)
  | .emailFree email scope exclude, w => w.ask fun t => .ok (t.emailFree email scope exclude)
  | .accountByLogin login scope, w => w.ask fun t => t.accountByLogin login scope
  | .persist user password actor, w =>
    let (r, w) := sv.persist w user password actor
    (r.map some, w)
  | .group id, w => w.ask fun t => .ok (t.group? id)
  | .randomPassword length, w => (sv.around.randomPassword length, w)
  | .freshToken, w => (.ok (sv.around.token w.tokens), { w with tokens := w.tokens + 1 })
  | .freshRun, w => (.ok (sv.around.runId w.runs), { w with runs := w.runs + 1 })
  | .clock, w => (.ok sv.around.now, w)
  | .notify notice, w => sv.notify w notice
  | .commit, w => w.commit
  | .rollback, w => (.ok (), w.rollback)
  | .log event, w => (.ok (), { w with log := w.log ++ [event] })

/-- Runs a workflow. -/
def run {α : Type} (sv : Service) (p : Program α) (w : World) : Except Failure α × World :=
  p.run sv.answer w

end Service
end Enrollment
