/-
Stale readers: collaborators that do not yet see what other runs have committed.

The first answers of such a reader say that a login and an email are free and that no account is
known; how many of each is counted by `Staleness`.  It is how a run can lose a race.
-/
import Enrollment.Workflow.Program

namespace Enrollment.Workflow

/-- How many answers are still stale. -/
structure Staleness where
  loginFree : Nat := 0
  emailFree : Nat := 0
  accountByLogin : Nat := 0

/-- A handler whose first answers are stale. -/
def stale {σ : Type} (h : Handler σ) : Handler (Staleness × σ)
  | .loginFree login scope exclude, (⟨n + 1, e, a⟩, s) =>
    let (r, s) := h (.loginFree login scope exclude) s
    (r.map fun _ => true, (⟨n, e, a⟩, s))
  | .emailFree email scope exclude, (⟨l, n + 1, a⟩, s) =>
    let (r, s) := h (.emailFree email scope exclude) s
    (r.map fun _ => true, (⟨l, n, a⟩, s))
  | .accountByLogin login scope, (⟨l, e, n + 1⟩, s) =>
    let (r, s) := h (.accountByLogin login scope) s
    (r.map fun _ => none, (⟨l, e, n⟩, s))
  | c, (old, s) =>
    let (r, s) := h c s
    (r, (old, s))

end Enrollment.Workflow
