/-
Runs that come to nothing leave nothing behind.

A workflow that fails, gives nothing or rejects the account for good leaves the tables as they were
and nothing in the session that a later commit could make lasting: it leaves the session alone or
brings it back to what lasts (`Session.Left`), and in a clean session that is the same.

* `Session.Clean` — the session holds no write that is not lasting;
* `failed_runs_leave_nothing` — no workflow leaves anything behind that came to nothing.

Of the hasher it is relied on that it does not report its failures as those of a workflow or of a
lost write (`Surroundings.PlainHasher`): the workflows do not roll these back.
-/
import Enrollment.Proofs.Closing
import Enrollment.Proofs.History

namespace Enrollment

open Directory

variable {sv : Service} {w w' : World}

/-! ### Clean sessions -/

/-- Nothing is stored that is not lasting, and nothing waits to be flushed. -/
structure Directory.Session.Clean (s : Session) : Prop where
  working : s.working = s.lasting
  staged : s.staged = []

namespace Directory.Session

variable {s s' : Session}

theorem Clean.eq (h : s.Clean) : s = { lasting := s.lasting } := by
  rcases s with ⟨lasting, working, staged⟩
  have hworking : working = lasting := h.working
  have hstaged : staged = [] := h.staged
  rw [hworking, hstaged]

theorem Clean.rollback_eq (h : s.Clean) : s.rollback = s := h.eq.symm

/-- Where nothing was stored, a clean session is as it was. -/
theorem Left.eq_of_clean (h : s.Left s') (hs : s.Clean) : s' = s := by
  cases h with
  | kept => rfl
  | dropped => exact hs.rollback_eq

end Directory.Session

/-! ### Runs that come to nothing -/

/-- A run failed, gave nothing, or rejected the account for good. -/
def CameToNothing : Except Failure (Option Outcome) → Prop
  | .error _ => True
  | .ok none => True
  | .ok (some o) => ∃ r, o.rejection = some r ∧ r ≠ .pendingConfirmation

theorem CameToNothing.not_succeeded {r : Except Failure Outcome} (h : CameToNothing (r.map some)) :
    ¬ Succeeded r := by
  cases r with
  | error e => exact fun hr => hr
  | ok o =>
    obtain ⟨x, hx, -⟩ := h
    simp [Succeeded, Outcome.ok, hx]

theorem CameToNothing.not_created {r : Except Failure (Option Outcome)} (h : CameToNothing r) :
    ¬ Registration.Created r := by
  rcases r with e | _ | o
  · exact fun hr => hr
  · exact fun hr => hr
  · obtain ⟨x, hx, hne⟩ := h
    simp [Registration.Created, hx, hne]

/-- Everything is as it was, and a commit would change nothing. -/
structure World.Untouched (w w' : World) : Prop where
  lasting : w'.session.lasting = w.session.lasting
  working : w'.session.working = w.session.working
  staged : w'.session.staged = []
  commit : w'.commit.2.session.lasting = w.session.lasting

theorem World.untouched_of_session (hw : w.session.Clean) (h : w'.session = w.session) :
    w.Untouched w' := by
  refine ⟨by rw [h], by rw [h], by rw [h, hw.staged], ?_⟩
  have hclean : w'.session.Clean := h ▸ hw
  cases hopen : w'.isOpen with
  | true => rw [World.commit_of_flushed hopen hclean.staged, h, hw.working]
  | false =>
    rw [World.commit, if_neg (by simp [hopen]), h]

theorem Registration.registerUser_session (hw : w.session.Clean) (hhash : sv.around.PlainHasher)
    (outer : Log.Context) (candidate : User) (password token : Option String) :
    (registerUser sv.site outer candidate password token).Leads sv.answer w fun r w' =>
      CameToNothing (r.map some) → w'.session = w.session :=
  (registerUser_left hw.staged hhash outer candidate password token).mono
    fun _ _ hleft hnothing => (hleft hnothing.not_succeeded).eq_of_clean hw

theorem Registration.register_session (hw : w.session.Clean) (hhash : sv.around.PlainHasher)
    (outer : Log.Context) (form : Form) :
    (register sv.site outer form).Leads sv.answer w fun r w' =>
      CameToNothing r → w'.session = w.session :=
  (register_left hw.staged hhash outer form).mono
    fun _ _ hleft hnothing => (hleft hnothing.not_created).eq_of_clean hw

theorem Linking.linkOrCreate_session (hw : w.session.Clean) (hhash : sv.around.PlainHasher)
    (outer : Log.Context) (a : Assertion) (provider : String) :
    (linkOrCreate sv.site outer a provider).Leads sv.answer w fun r w' =>
      CameToNothing (r.map some) → w'.session = w.session :=
  (linkOrCreate_left hw.staged hhash outer a provider).mono
    fun _ _ hleft hnothing => (hleft hnothing.not_succeeded).eq_of_clean hw

/-- **A run that comes to nothing leaves nothing behind**: whatever the tables and the input, a
registration, a self-service registration or a linking that fails, gives nothing or rejects the
account for good leaves the tables as they were and nothing that a commit could make lasting. -/
theorem failed_runs_leave_nothing (sv : Service) (outer : Log.Context) (w : World)
    (hw : w.session.Clean) (hhash : sv.around.PlainHasher) :
    (∀ candidate password token,
      let run := sv.run (Registration.registerUser sv.site outer candidate password token) w
      CameToNothing (run.1.map some) → w.Untouched run.2) ∧
    (∀ form,
      let run := sv.run (Registration.register sv.site outer form) w
      CameToNothing run.1 → w.Untouched run.2) ∧
    (∀ assertion provider,
      let run := sv.run (Linking.linkOrCreate sv.site outer assertion provider) w
      CameToNothing (run.1.map some) → w.Untouched run.2) := by
  refine ⟨fun candidate password token => ?_, fun form => ?_, fun assertion provider => ?_⟩
  · intro run hnothing
    exact World.untouched_of_session hw
      (Registration.registerUser_session hw hhash outer candidate password token hnothing)
  · intro run hnothing
    exact World.untouched_of_session hw
      (Registration.register_session hw hhash outer form hnothing)
  · intro run hnothing
    exact World.untouched_of_session hw
      (Linking.linkOrCreate_session hw hhash outer assertion provider hnothing)

/-- Beside an account, another one is to be registered whose password cannot be hashed. -/
theorem failed_runs_leave_nothing_unhashed :
    let alice : User := { login := "alice", valid := by decide }
    let bruno : User := { login := "bruno", valid := by decide }
    let lost : Failure := .foreign "HashingError" "out of memory"
    let sv : Service := { around := { Surroundings.numbered with hash := fun _ => .error lost } }
    let w := World.after .numbered [.persist alice (some "secret") none, .commit]
    let run := sv.run (Registration.registerUser sv.site {} bruno (some "secret") none) w
    run.1 = .error (.caused "Failed to register 'bruno': out of memory" lost) ∧
      w.Untouched run.2 := by
  intro alice bruno lost sv w run
  have hclean : w.session.Clean := ⟨by decide +kernel, World.staged_after_numbered _⟩
  have hhash : sv.around.PlainHasher := by
    intro password e h
    cases h
    exact ⟨rfl, fun field message h => nomatch h⟩
  have hrun : run.1 = .error (.caused "Failed to register 'bruno': out of memory" lost) := by
    decide +kernel
  refine ⟨hrun, (failed_runs_leave_nothing sv {} w hclean hhash).1 bruno (some "secret") none ?_⟩
  change CameToNothing (run.1.map some)
  rw [hrun]
  trivial

end Enrollment
