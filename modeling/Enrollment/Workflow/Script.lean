/-
Scripts: what a collaborator answers to one call after the other.

A script has an answer for each call in turn, and the last answer is repeated.  An answer is a value
or a failure.
-/
import Enrollment.Account.Failure

namespace Enrollment.Workflow

/-- The answers of a collaborator: the next one, and those after it. -/
structure Script (α : Type) where
  first : Except Failure α
  rest : List (Except Failure α) := []

namespace Script

variable {α : Type}

/-- One answer, always. -/
def always (a : Except Failure α) : Script α := ⟨a, []⟩

/-- The script of a list of answers; without any, the fallback. -/
def ofList (fallback : Except Failure α) : List (Except Failure α) → Script α
  | [] => always fallback
  | a :: rest => ⟨a, rest⟩

/-- The next answer, and the script that is left. -/
def next (s : Script α) : Except Failure α × Script α :=
  match s.rest with
  | [] => (s.first, s)
  | a :: rest => (s.first, ⟨a, rest⟩)

end Script
end Enrollment.Workflow
