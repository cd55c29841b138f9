/-
Runs of programs, told along the program.

`Program.Leads h p s Q` says that the run of `p` from `s` ends in a result and a state of which `Q`
holds.  A run is never unfolded whole: `Leads.bind`, `Leads.recover` and `Leads.outcome` follow the
way the program is put together, and `leads_perform` hands a single call to the handler.

* `run_bind`, `run_recover`, `run_outcome` — how the run of a program is put together from those of
  its parts;
* `run_keeps`, `run_congr` — what every answer of a handler keeps, every run keeps, and handlers that
  answer alike run every program alike.
-/
import Mathlib
import Enrollment.Workflow.Program

namespace Enrollment

variable {α β σ : Type} {h : Handler σ}

namespace Program

/-! ### How runs are put together -/

theorem run_call (c : Call) (next : Except Failure c.Reply → Program α) (s : σ) :
    (Program.call c next).run h s = (next (h c s).1).run h (h c s).2 := rfl

/-- A run of two programs in turn: the second starts where the first ended, unless that failed. -/
theorem run_bind (p : Program α) (k : α → Program β) (s : σ) :
    (p >>= k).run h s =
      match p.run h s with
      | (.ok a, s) => (k a).run h s
      | (.error e, s) => (.error e, s) := by
  change (p.bind k).run h s = _
  -- The first call is answered alike in both runs, and the rest is a shorter first program.
  induction p generalizing s with
  | done a => rfl
  | fail e => rfl
  | call c next ih =>
    rw [Program.bind, run_call, run_call]
    exact ih _ _

/-- A run that goes on after a failure. -/
theorem run_recover (p : Program α) (handle : Failure → Program α) (s : σ) :
    (p.recover handle).run h s =
      match p.run h s with
      | (.ok a, s) => (.ok a, s)
      | (.error e, s) => (handle e).run h s := by
  induction p generalizing s with
  | done a => rfl
  | fail e => rfl
  | call c next ih =>
    rw [Program.recover, run_call, run_call]
    exact ih _ _

/-- A run whose result is taken as a value ends where the run itself ends, and does not fail. -/
theorem run_outcome (p : Program α) (s : σ) :
    p.outcome.run h s = (.ok (p.run h s).1, (p.run h s).2) := by
  induction p generalizing s with
  | done a => rfl
  | fail e => rfl
  | call c next ih =>
    rw [Program.outcome, run_call, run_call]
    exact ih _ _

theorem run_perform (c : Call) (s : σ) : (perform c).run h s = h c s := by
  rw [perform, run_call]
  rcases h c s with ⟨r, s'⟩
  cases r <;> rfl

/-- A call that is answered comes first. -/
theorem run_perform_bind {c : Call} {k : c.Reply → Program α} {a : c.Reply} {s : σ}
    (ha : (h c s).1 = .ok a) : (perform c >>= k).run h s = (k a).run h (h c s).2 := by
  rw [run_bind, run_perform, show h c s = (.ok a, (h c s).2) from Prod.ext ha rfl]

/-! ### What a run leads to -/

/-- The run of a program from a state ends in a result and a state of which `Q` holds. -/
def Leads (h : Handler σ) (p : Program α) (s : σ) (Q : Except Failure α → σ → Prop) : Prop :=
  Q (p.run h s).1 (p.run h s).2

variable {s : σ} {p : Program α}

@[simp] theorem leads_pure {Q : Except Failure α → σ → Prop} (a : α) :
    (pure a : Program α).Leads h s Q ↔ Q (.ok a) s := Iff.rfl

theorem leads_perform {c : Call} {Q : Except Failure c.Reply → σ → Prop} :
    (perform c).Leads h s Q ↔ Q (h c s).1 (h c s).2 := by
  rw [Leads, run_perform]

theorem Leads.mono {Q Q' : Except Failure α → σ → Prop} (hp : p.Leads h s Q)
    (hQ : ∀ r s', Q r s' → Q' r s') : p.Leads h s Q' :=
  hQ _ _ hp

/-- What the first program leads to is where the second begins; its failure is the end. -/
theorem Leads.bind {k : α → Program β} {R : Except Failure α → σ → Prop}
    {Q : Except Failure β → σ → Prop} (hp : p.Leads h s R)
    (hok : ∀ a s', R (.ok a) s' → (k a).Leads h s' Q)
    (herror : ∀ e s', R (.error e) s' → Q (.error e) s') : (p >>= k).Leads h s Q := by
  rw [Leads] at hp ⊢
  rw [run_bind]
  revert hp
  rcases p.run h s with ⟨r, s'⟩
  intro hp
  cases r with
  | ok a => exact hok a s' hp
  | error e => exact herror e s' hp

/-- What a program leads to is the end where it succeeds, and where the handling of its failure
begins otherwise. -/
theorem Leads.recover {handle : Failure → Program α} {R Q : Except Failure α → σ → Prop}
    (hp : p.Leads h s R) (hok : ∀ a s', R (.ok a) s' → Q (.ok a) s')
    (herror : ∀ e s', R (.error e) s' → (handle e).Leads h s' Q) :
    (p.recover handle).Leads h s Q := by
  rw [Leads] at hp ⊢
  rw [run_recover]
  revert hp
  rcases p.run h s with ⟨r, s'⟩
  intro hp
  cases r with
  | ok a => exact hok a s' hp
  | error e => exact herror e s' hp

theorem Leads.outcome {R : Except Failure α → σ → Prop}
    {Q : Except Failure (Except Failure α) → σ → Prop} (hp : p.Leads h s R)
    (hok : ∀ r s', R r s' → Q (.ok r) s') : p.outcome.Leads h s Q := by
  rw [Leads, run_outcome]
  exact hok _ _ hp

/-! ### What every run keeps -/

/-- What every answer of a handler keeps, the run of any program keeps. -/
theorem run_keeps {I : σ → Prop} (hI : ∀ c s, I s → I (h c s).2) (p : Program α) (s : σ)
    (hs : I s) : I (p.run h s).2 := by
  induction p generalizing s with
  | done a => exact hs
  | fail e => exact hs
  | call c next ih =>
    rw [run_call]
    exact ih _ _ (hI c s hs)

/-- Handlers that answer alike wherever runs come to run every program alike. -/
theorem run_congr {h' : Handler σ} {I : σ → Prop} (hsame : ∀ c s, I s → h' c s = h c s)
    (hI : ∀ c s, I s → I (h c s).2) (p : Program α) (s : σ) (hs : I s) :
    p.run h' s = p.run h s := by
  induction p generalizing s with
  | done a => rfl
  | fail e => rfl
  | call c next ih =>
    rw [run_call, run_call, hsame c s hs]
    exact ih _ _ (hI c s hs)

end Program
end Enrollment
