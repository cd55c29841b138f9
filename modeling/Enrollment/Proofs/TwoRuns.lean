/-
Two runs side by side.

Two programs run against handlers of their own, from states of their own.  `Program.Together` says
that they end alike: both fail with one failure, or they come to values and states that are related.
As with a single run, nothing is unfolded: `Together.bind` and `Together.recover` follow the way the
programs are put together.

* `Matched` — two results that are alike, whatever the states;
* `Together.matched` — the results of two runs that end alike.
-/
import Enrollment.Proofs.Run

namespace Enrollment

variable {α β γ δ σ τ : Type}

/-- Two results are alike: they are one failure, or values that are related. -/
inductive Matched (R : α → β → Prop) : Except Failure α → Except Failure β → Prop where
  | ok {a : α} {b : β} (h : R a b) : Matched R (.ok a) (.ok b)
  | error (e : Failure) : Matched R (.error e) (.error e)

namespace Matched

variable {R : α → β → Prop} {r : Except Failure α} {r' : Except Failure β}

/-- The values are those of the two results. -/
theorem values (h : Matched R r r') : Matched (fun a b => r = .ok a ∧ r' = .ok b) r r' := by
  cases h with
  | ok => exact .ok ⟨rfl, rfl⟩
  | error e => exact .error e

theorem map {Q : γ → δ → Prop} (h : Matched R r r') {f : α → γ} {g : β → δ}
    (hQ : ∀ a b, R a b → Q (f a) (g b)) : Matched Q (r.map f) (r'.map g) := by
  cases h with
  | ok h => exact .ok (hQ _ _ h)
  | error e => exact .error e

theorem bind {Q : γ → δ → Prop} (h : Matched R r r') {f : α → Except Failure γ}
    {g : β → Except Failure δ} (hQ : ∀ a b, R a b → Matched Q (f a) (g b)) :
    Matched Q (r >>= f) (r' >>= g) := by
  cases h with
  | ok h => exact hQ _ _ h
  | error e => exact .error e

end Matched

namespace Program

variable {h₁ : Handler σ} {h₂ : Handler τ} {p₁ : Program α} {p₂ : Program β} {s : σ} {t : τ}

/-- Two runs have ended alike: what is left of the states counts only where there is a value. -/
inductive EndedAlike (R : α → σ → β → τ → Prop) :
    Except Failure α × σ → Except Failure β × τ → Prop where
  | ok {a : α} {s : σ} {b : β} {t : τ} (h : R a s b t) : EndedAlike R (.ok a, s) (.ok b, t)
  | error (e : Failure) (s : σ) (t : τ) : EndedAlike R (.error e, s) (.error e, t)

/-- The runs of two programs end alike. -/
def Together (h₁ : Handler σ) (h₂ : Handler τ) (p₁ : Program α) (s : σ) (p₂ : Program β) (t : τ)
    (R : α → σ → β → τ → Prop) : Prop :=
  EndedAlike R (p₁.run h₁ s) (p₂.run h₂ t)

variable {R : α → σ → β → τ → Prop}

theorem together_pure {a : α} {b : β} (h : R a s b t) :
    Together h₁ h₂ (pure a) s (pure b) t R := .ok h

theorem together_fail (e : Failure) : Together h₁ h₂ (.fail e) s (.fail e) t R := .error e s t

theorem together_perform {c₁ c₂ : Call} {R : c₁.Reply → σ → c₂.Reply → τ → Prop}
    (h : EndedAlike R (h₁ c₁ s) (h₂ c₂ t)) : Together h₁ h₂ (perform c₁) s (perform c₂) t R := by
  rw [Together, run_perform, run_perform]
  exact h

/-- Two calls whose results are taken as values end alike if the results are related. -/
theorem together_outcome {c₁ c₂ : Call}
    {R : Except Failure c₁.Reply → σ → Except Failure c₂.Reply → τ → Prop}
    (h : R (h₁ c₁ s).1 (h₁ c₁ s).2 (h₂ c₂ t).1 (h₂ c₂ t).2) :
    Together h₁ h₂ (perform c₁).outcome s (perform c₂).outcome t R := by
  rw [Together, run_outcome, run_outcome, run_perform, run_perform]
  exact .ok h

/-- The second programs begin where the first ones ended, unless these failed. -/
theorem Together.bind {k₁ : α → Program γ} {k₂ : β → Program δ} {Q : γ → σ → δ → τ → Prop}
    (hp : Together h₁ h₂ p₁ s p₂ t R)
    (hk : ∀ a s b t, R a s b t → Together h₁ h₂ (k₁ a) s (k₂ b) t Q) :
    Together h₁ h₂ (p₁ >>= k₁) s (p₂ >>= k₂) t Q := by
  rw [Together] at hp ⊢
  rw [run_bind, run_bind]
  revert hp
  rcases p₁.run h₁ s with ⟨r₁, s'⟩
  rcases p₂.run h₂ t with ⟨r₂, t'⟩
  intro hp
  cases hp with
  | ok h => exact hk _ _ _ _ h
  | error e => exact .error e _ _

/-- Two programs that fail go on in ways that end alike. -/
theorem Together.recover {p₁ : Program α} {p₂ : Program β} {handle₁ : Failure → Program α}
    {handle₂ : Failure → Program β} {Q : α → σ → β → τ → Prop}
    (hp : Together h₁ h₂ p₁ s p₂ t R) (hok : ∀ a s b t, R a s b t → Q a s b t)
    (herror : ∀ e s t, Together h₁ h₂ (handle₁ e) s (handle₂ e) t Q) :
    Together h₁ h₂ (p₁.recover handle₁) s (p₂.recover handle₂) t Q := by
  rw [Together] at hp ⊢
  rw [run_recover, run_recover]
  revert hp
  rcases p₁.run h₁ s with ⟨r₁, s'⟩
  rcases p₂.run h₂ t with ⟨r₂, t'⟩
  intro hp
  cases hp with
  | ok h => exact .ok (hok _ _ _ _ h)
  | error e => exact herror e _ _

/-- Two programs that are put together from one result. -/
theorem together_ofExcept_bind {r₁ : Except Failure α} {r₂ : Except Failure β} {S : α → β → Prop}
    (hr : Matched S r₁ r₂) {k₁ : α → Program γ} {k₂ : β → Program δ} {Q : γ → σ → δ → τ → Prop}
    (hk : ∀ a b, S a b → Together h₁ h₂ (k₁ a) s (k₂ b) t Q) :
    Together h₁ h₂ (ofExcept r₁ >>= k₁) s (ofExcept r₂ >>= k₂) t Q := by
  cases hr with
  | ok h => exact hk _ _ h
  | error e => exact .error e s t

/-- Runs that end alike have results that are alike. -/
theorem Together.matched {S : α → β → Prop}
    (hp : Together h₁ h₂ p₁ s p₂ t fun a _ b _ => S a b) :
    Matched S (p₁.run h₁ s).1 (p₂.run h₂ t).1 := by
  rw [Together] at hp
  revert hp
  rcases p₁.run h₁ s with ⟨r₁, s'⟩
  rcases p₂.run h₂ t with ⟨r₂, t'⟩
  intro hp
  cases hp with
  | ok h => exact .ok h
  | error e => exact .error e

end Program
end Enrollment
