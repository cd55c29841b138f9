/-
The outbox: messages that were handed over are recorded instead of being sent.

What a transport would have answered follows a script: it accepts a message, declines it, or fails,
in which case nothing is recorded.
-/
import Enrollment.Mail.Message
import Enrollment.Workflow.Script

namespace Enrollment.Mail

/-- A recorded message. -/
structure Posted where
  message : Message
  /-- The sender as written in the header. -/
  sender : String
deriving DecidableEq

/-- The answers of the transport, and the messages recorded so far. -/
structure Outbox where
  answers : Workflow.Script Bool := .always (.ok true)
  posted : List Posted := []

/-- Hands a message over. -/
def Outbox.post (o : Outbox) (m : Message) : Except Failure Bool × Outbox :=
  let (answer, answers) := o.answers.next
  let o := { o with answers }
  match answer with
  | .error e => (.error e, o)
  | .ok accepted =>
    match sender m.fromEmail m.fromName with
    | .error e => (.error e, o)
    | .ok from' => (.ok accepted, { o with posted := o.posted ++ [⟨m, from'⟩] })

end Enrollment.Mail
