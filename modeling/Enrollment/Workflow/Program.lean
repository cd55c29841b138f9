/-
Workflows as trees of calls.

A `Program` is either finished, or it has failed, or it makes a call and goes on in a way that
depends on the answer; a failed call is an answer too.  A `Handler` answers calls, changing a state
of its own, and `Program.run` runs a program against it.  The same program runs against the
directory and against collaborators that follow a script.
-/
import Enrollment.Workflow.Call

namespace Enrollment

/-- A workflow that comes to an `α`. -/
inductive Program (α : Type) where
  | done (a : α)
  | fail (e : Failure)
  | call (c : Call) (next : Except Failure c.Reply → Program α)

namespace Program

variable {α β : Type}

/-- One program after the other; a failure ends both. -/
def bind : Program α → (α → Program β) → Program β
  | .done a, k => k a
  | .fail e, _ => .fail e
  | .call c next, k => .call c fun r => (next r).bind k

instance : Monad Program where
  pure := .done
  bind := bind

/-- What a program that failed goes on with. -/
def recover : Program α → (Failure → Program α) → Program α
  | .done a, _ => .done a
  | .fail e, handle => handle e
  | .call c next, handle => .call c fun r => (next r).recover handle

/-- Makes a call; a failed call fails the program. -/
def perform (c : Call) : Program c.Reply :=
  .call c fun
    | .ok r => .done r
    | .error e => .fail e

/-- A result that may be a failure. -/
def ofExcept : Except Failure α → Program α
  | .ok a => .done a
  | .error e => .fail e

/-- The outcome of a program as a value, so that the program goes on after a failure. -/
def outcome : Program α → Program (Except Failure α)
  | .done a => .done (.ok a)
  | .fail e => .done (.error e)
  | .call c next => .call c fun r => (next r).outcome

end Program

/-- Answers calls, changing a state. -/
abbrev Handler (σ : Type) := (c : Call) → σ → Except Failure c.Reply × σ

/-- Runs a program against a handler. -/
def Program.run {α σ : Type} (h : Handler σ) : Program α → σ → Except Failure α × σ
  | .done a, s => (.ok a, s)
  | .fail e, s => (.error e, s)
  | .call c next, s =>
    let (r, s) := h c s
    (next r).run h s

namespace Program

/-! ### The calls as programs -/

def configValue (key : String) : Program (Option String) := perform (.configValue key)

def loginFree (login : String) (scope : Scope) (exclude : Option String) : Program Bool :=
  perform (.loginFree login scope exclude)

def emailFree (email : Option String) (scope : Scope) (exclude : Option String) : Program Bool :=
  perform (.emailFree email scope exclude)

def accountByLogin (login : String) (scope : Scope) : Program (Option User) :=
  perform (.accountByLogin login scope)

def persist (user : User) (password actor : Option String) : Program (Option User) :=
  perform (.persist user password actor)

def group (id : String) : Program (Option Group) := perform (.group id)

def randomPassword (length : Int) : Program String := perform (.randomPassword length)

def freshToken : Program String := perform .freshToken

def freshRun : Program String := perform .freshRun

def clock : Program Timestamp := perform .clock

def notify (notice : Notice) : Program Bool := perform (.notify notice)

def commit : Program Unit := perform .commit

def rollback : Program Unit := perform .rollback

/-- Writes an event to the log, with the bound fields. -/
def log (bound : Log.Context) (event : Log.Event) : Program Unit :=
  perform (.log (event.within bound))

/-- Runs a program inside a block, under the id of the run that it belongs to. -/
def within {α : Type} (outer : Log.Context) (workflow : String) (fields : Log.Context)
    (body : Log.Context → Program α) : Program α :=
  match outer.run? with
  | some run => body (outer.enter workflow run fields)
  | none => do body (outer.enter workflow (.str (← freshRun)) fields)

end Program
end Enrollment
