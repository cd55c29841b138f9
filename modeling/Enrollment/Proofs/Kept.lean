/-
What is read off the groups and the configuration stays as it is while a workflow runs.

Accounts are written, committed and dropped meanwhile, but no call of a workflow adds a group or
stores a text under a key.

* `Tables.ReadsFixed` — what is read off the groups and the configuration alone;
* `Session.Kept` — it is the same as the session sees it, and as it is lasting;
* `Service.answer_kept` — no call changes it.
-/
import Enrollment.Proofs.Endings

namespace Enrollment

open Directory

variable {α β : Type} {sv : Service} {w : World} {f : Tables → β} {b : β}

/-- What is read off the groups and the configuration alone. -/
def Directory.Tables.ReadsFixed (f : Tables → β) : Prop :=
  ∀ ⦃t t' : Tables⦄, t'.groups = t.groups → t'.configuration = t.configuration → f t' = f t

namespace Directory.Session

variable {s : Session}

/-- What is read off the tables is the same as the session sees them, and as they are lasting. -/
structure Kept (f : Tables → β) (b : β) (s : Session) : Prop where
  working : f s.working = b
  lasting : f s.lasting = b

namespace Kept

theorem flush (hf : Tables.ReadsFixed f) (h : s.Kept f b) : s.flush.2.Kept f b := by
  rw [Session.flush]
  rcases flushWith_cases s fun t => .ok ((), t) with
    ⟨t, _, t', hdue, hsame, hflush⟩ | ⟨e, -, hflush⟩
  · cases hsame
    obtain ⟨hgroups, hconfiguration⟩ := settled_keeps hdue
    rw [hflush]
    exact ⟨(hf hgroups hconfiguration).trans h.working, h.lasting⟩
  · rw [hflush]
    exact ⟨h.lasting, h.lasting⟩

theorem commit (hf : Tables.ReadsFixed f) (h : s.Kept f b) : s.commit.2.Kept f b := by
  have hflush := h.flush hf
  rw [Session.commit]
  revert hflush
  rcases s.flush with ⟨e | _, s'⟩
  · exact fun h => h
  · exact fun h => ⟨h.working, h.working⟩

theorem store (hf : Tables.ReadsFixed f) (h : s.Kept f b) (clerk : Clerk) (old : Option Row)
    (u : User) (password actor : Option String) :
    (s.store clerk old u password actor).2.Kept f b := by
  rw [Session.store]
  cases (filled password).mapM clerk.hash with
  | error e => exact ⟨h.working, h.lasting⟩
  | ok hashed =>
    let staged : Session := { s with staged := s.staged ++ [writeOf clerk old u hashed actor] }
    have hflush : staged.flush.2.Kept f b := flush hf ⟨h.working, h.lasting⟩
    dsimp only
    revert hflush
    rcases staged.flush with ⟨e | _, s'⟩
    · exact fun h => h
    · exact fun h => h

theorem persist (hf : Tables.ReadsFixed f) (h : s.Kept f b) (clerk : Clerk) (u : User)
    (password actor : Option String) : (s.persist clerk u password actor).2.Kept f b := by
  rw [Session.persist]
  split
  · exact h.store hf clerk none u password actor
  · split
    · exact h
    · exact h.store hf clerk _ u password actor

end Kept
end Directory.Session

theorem World.step_kept (h : w.session.Kept f b) {g : Session → Except Failure α × Session}
    (hg : (g w.session).2.Kept f b) : (w.step g).2.session.Kept f b := by
  rw [World.step]
  split
  · exact hg
  · exact h

/-- **No call of a workflow changes what is read off the groups and the configuration.** -/
theorem Service.answer_kept (hf : Tables.ReadsFixed f) (sv : Service) (c : Call) (w : World)
    (h : w.session.Kept f b) : (sv.answer c w).2.session.Kept f b := by
  by_cases hsilent : c.Silent
  · rw [(sv.answer_sameStorage hsilent w).session]
    exact h
  · cases c with
    | persist user password actor =>
      exact World.step_kept (g := fun s => s.persist (sv.clerk w) user password actor) h
        (h.persist hf _ user password actor)
    | commit =>
      change w.commit.2.session.Kept f b
      rw [World.commit]
      split
      · exact World.step_kept h (h.commit hf)
      · exact h
    | rollback => exact ⟨h.lasting, h.lasting⟩
    | _ => exact absurd trivial hsilent

end Enrollment
