/-
What a run leaves of the session.

A run that comes to no account leaves the session as it was, or brings it back to what lasts; a run
that comes to one has stored it and made everything lasting.

* `Session.Left` — nothing has been stored: the session was left alone or rolled back;
* `registerUser_left`, `register_left`, `linkOrCreate_left` — the runs that come to no account;
* `Linking.Ended.stored_of_ok` — the linkings that come to one, however often the steps were taken;
  where they were taken twice, the session had been left in between.

Nothing may wait to be flushed when the run begins, and of the hasher it is relied on that it reports
neither a lost write nor the failure of a workflow.
-/
import Enrollment.Proofs.SelfService

namespace Enrollment

open Directory

variable {sv : Service} {w w' : World}

namespace Directory.Session

variable {s s' s'' : Session} {clerk : Clerk} {u : User} {password actor : Option String}
  {e : Failure}

/-- Nothing has been stored: the session is as it was, or is back at what lasts. -/
inductive Left (s : Session) : Session → Prop where
  | kept : Left s s
  | dropped : Left s s.rollback

namespace Left

theorem lasting (h : Left s s') : s'.lasting = s.lasting := by
  cases h <;> rfl

theorem working (h : Left s s') : s'.working = s.working ∨ s'.working = s.lasting := by
  cases h with
  | kept => exact .inl rfl
  | dropped => exact .inr rfl

theorem staged (h : Left s s') (hs : s.staged = []) : s'.staged = [] := by
  cases h with
  | kept => exact hs
  | dropped => rfl

theorem rollback_eq (h : Left s s') : s'.rollback = s.rollback := by
  rw [Session.rollback, h.lasting, Session.rollback]

theorem trans (h : Left s s') (h' : Left s' s'') : Left s s'' := by
  cases h' with
  | kept => exact h
  | dropped =>
    rw [h.rollback_eq]
    exact .dropped

end Left

/-- An account that cannot be stored is not, unless its password cannot be hashed: then it is staged
until the session is rolled back. -/
theorem persist_left (hs : s.staged = []) (h : (s.persist clerk u password actor).1 = .error e) :
    Left s (s.persist clerk u password actor).2 ∨
      (∃ p, clerk.hash p = .error e) ∧
        (s.persist clerk u password actor).2.rollback = s.rollback := by
  have hstoring := persist_storing hs clerk u password actor
  revert hstoring
  generalize (s.persist clerk u password actor).2 = s'
  rw [h]
  intro hstoring
  cases hstoring with
  | missing => exact .inl .kept
  | unhashed _ hhash =>
    obtain ⟨p, -, hp⟩ := hash_eq_error hhash
    exact .inr ⟨⟨p, hp⟩, rfl⟩
  | refused => exact .inl .dropped

end Directory.Session

open Directory.Session

/-! ### Endings without an account -/

/-- What the steps of a workflow that stored nothing leave of the session. -/
inductive Unstored (sv : Service) (s : Session) : Except Failure Outcome → Session → Prop where
  | left {r : Except Failure Outcome} {s' : Session} (h : s.Left s') : Unstored sv s r s'
  /-- An account is staged whose password could not be hashed. -/
  | unhashed {e : Failure} {s' : Session} {p : String} (hp : sv.around.hash p = .error e)
      (h : s'.rollback = s.rollback) : Unstored sv s (.error e) s'

theorem Unstored.of_persist (hs : w.session.staged = []) {u : User}
    {password actor : Option String} {e : Failure}
    (h : (sv.persist w u password actor).1 = .error e) :
    Unstored sv w.session (.error e) (sv.persist w u password actor).2.session := by
  cases hopen : w.isOpen with
  | false =>
    rw [(Service.persist_of_closed hopen).2]
    exact .left .kept
  | true =>
    rw [(Service.persist_of_open hopen).1] at h
    rw [(Service.persist_of_open hopen).2]
    rcases persist_left hs h with hleft | ⟨⟨p, hp⟩, hrollback⟩
    · exact .left hleft
    · exact .unhashed hp hrollback

theorem Unstored.of_left {s s' s'' : Session} {r : Except Failure Outcome} (h : s.Left s')
    (h' : Unstored sv s' r s'') : Unstored sv s r s'' := by
  cases h' with
  | left h' => exact .left (h.trans h')
  | unhashed hp hrollback => exact .unhashed hp (hrollback.trans h.rollback_eq)

/-- What is staged without its password is dropped by the rollback of the workflow. -/
theorem Unstored.wrapped (hhash : sv.around.PlainHasher) {s : Session}
    {r₀ r : Except Failure Outcome} {w₀ : World} (h : Unstored sv s r₀ w₀.session)
    (hwrapped : Wrapped r₀ w₀ r w') : s.Left w'.session := by
  cases hwrapped with
  | ok o =>
    cases h with
    | left h => exact h
  | passed he =>
    cases h with
    | left h => exact h
    | unhashed hp => rw [(hhash _ _ hp).1] at he; cases he
  | caused message he hw' =>
    have hrollback : w₀.session.rollback = s.rollback := by
      cases h with
      | left h => exact h.rollback_eq
      | unhashed _ h => exact h
    rw [hw'.session]
    change s.Left w₀.session.rollback
    rw [hrollback]
    exact .dropped

/-- A write that is lost leaves the session back at what lasts. -/
theorem Service.left_of_duplicate (hs : w.session.staged = []) (hhash : sv.around.PlainHasher)
    {u : User} {password actor : Option String} {field message : String}
    (h : (sv.persist w u password actor).1 = .error (.duplicate field message)) :
    w.session.Left (sv.persist w u password actor).2.session := by
  obtain ⟨-, -, hdropped⟩ := Service.persist_eq_duplicate hs hhash h
  rw [hdropped]
  exact .dropped

theorem Wrapped.succeeded {r₀ r : Except Failure Outcome} {w₀ : World} (h : Wrapped r₀ w₀ r w')
    (hr₀ : Succeeded r₀) : Succeeded r := by
  cases h with
  | ok => exact hr₀
  | passed => exact hr₀
  | caused => exact hr₀.elim

namespace Registration

variable {candidate : User} {password token : Option String}

theorem Ended.unstored (hs : w.session.staged = []) (hhash : sv.around.PlainHasher)
    {r : Except Failure Outcome} (h : Ended sv w candidate password token r w')
    (hr : ¬ Succeeded r) : Unstored sv w.session r w'.session := by
  have hsame : ∀ {w'}, World.SameStorage w w' → Unstored sv w.session r w'.session :=
    fun hw => .left (hw.session ▸ .kept)
  cases h with
  | closed hw => exact hsame hw
  | tooShort hw => exact hsame hw
  | loginInUse hw => exact hsame hw
  | emailInUse hw => exact hsame hw
  | lost x hstored hw =>
    have hs' : x.before.session.staged = [] := x.same.session ▸ hs
    rw [hw.session, ← x.same.session]
    exact .left (Service.left_of_duplicate hs' hhash hstored)
  | refused x hstored =>
    have hs' : x.before.session.staged = [] := x.same.session ▸ hs
    rw [← x.same.session]
    exact Unstored.of_persist hs' hstored
  | stored => exact absurd rfl hr

/-- A registration that comes to no account stores nothing. -/
theorem registerUser_left (hs : w.session.staged = []) (hhash : sv.around.PlainHasher)
    (outer : Log.Context) (candidate : User) (password token : Option String) :
    (registerUser sv.site outer candidate password token).Leads sv.answer w fun r w' =>
      ¬ Succeeded r → w.session.Left w'.session := by
  refine (registerUser_ended sv w outer candidate password token).mono ?_
  rintro r w' ⟨r₀, w₀, hended, hwrapped⟩ hr
  exact (hended.unstored hs hhash (mt hwrapped.succeeded hr)).wrapped hhash hwrapped

/-- There is an account, which can be used or waits for its confirmation. -/
def Created : Except Failure (Option Outcome) → Prop
  | .ok (some o) =>
    o.user.isSome = true ∧ (o.rejection = none ∨ o.rejection = some .pendingConfirmation)
  | _ => False

theorem Created.exists_user {r : Except Failure (Option Outcome)} (h : Created r) :
    ∃ o u, r = .ok (some o) ∧ o.user = some u := by
  rcases r with e | _ | o
  · exact h.elim
  · exact h.elim
  · obtain ⟨u, hu⟩ := Option.isSome_iff_exists.mp h.1
    exact ⟨o, u, rfl, hu⟩

/-- What is reported of a registration that succeeded comes with its account. -/
theorem created_of_succeeded {r : Except Failure Outcome} (hr : Succeeded r) (confirm : Bool) :
    Created (.ok (r.map (announced confirm)).toOption) := by
  cases r with
  | error e => exact hr.elim
  | ok o =>
    have hok : o.user.isSome = true ∧ o.rejection.isNone = true := by
      rwa [← Bool.and_eq_true]
    change Created (.ok (some (announced confirm o)))
    rw [announced]
    split
    · exact ⟨hok.1, .inr rfl⟩
    · exact ⟨hok.1, .inl (Option.isNone_iff_eq_none.mp hok.2)⟩

/-- A self-service registration that gives no account stores nothing. -/
theorem register_left (hs : w.session.staged = []) (hhash : sv.around.PlainHasher)
    (outer : Log.Context) (form : Form) :
    (register sv.site outer form).Leads sv.answer w fun r w' =>
      ¬ Created r → w.session.Left w'.session := by
  refine (register_ended sv w outer form).mono ?_
  rintro r w' ⟨r₀, w₀, hended, rfl, hw'⟩ hr
  rw [hw'.session]
  cases hended with
  | closed hw => exact hw.session ▸ .kept
  | disabled hw => exact hw.session ▸ .kept
  | groupMissing hw => exact hw.session ▸ .kept
  | registered _ _ h hwrapped hw =>
    rw [hw.session]
    refine (h.unstored hs hhash (mt hwrapped.succeeded fun hr' => ?_)).wrapped hhash hwrapped
    exact hr (created_of_succeeded hr' _)

end Registration

namespace Linking

variable {a : Assertion} {provider : String}

/-- After a write that was lost, the steps begin with what lasts. -/
theorem Attempt.left_of_duplicate (x : Attempt sv w a provider) (hs : w.session.staged = [])
    (hhash : sv.around.PlainHasher) {field message : String}
    (h : x.stored.1 = .error (.duplicate field message)) : w.session.Left x.stored.2.session := by
  have hleft := Service.left_of_duplicate (x.same.session ▸ hs) hhash h
  rwa [x.same.session] at hleft

theorem Ended.unstored (hs : w.session.staged = []) (hhash : sv.around.PlainHasher)
    {r : Except Failure Outcome} (h : Ended sv a provider w r w') (hr : ¬ Succeeded r) :
    Unstored sv w.session r w'.session := by
  -- By induction on the attempts: the next one begins with what the lost write left.
  induction h with
  | closed hw => exact .left (hw.session ▸ .kept)
  | invalidLogin hw => exact .left (hw.session ▸ .kept)
  | unanswered hw => exact .left (hw.session ▸ .kept)
  | emailConflict hw => exact .left (hw.session ▸ .kept)
  | hindered hw => exact .left (hw.session ▸ .kept)
  | refused x hstored =>
    have hs' : x.before.session.staged = [] := x.same.session ▸ hs
    rw [← x.same.session]
    exact Unstored.of_persist hs' hstored
  | lost x hstored => exact .left (x.left_of_duplicate hs hhash hstored)
  | again x hstored _ hw₁ _ ih =>
    have hleft := x.left_of_duplicate hs hhash hstored
    rw [← hw₁.session] at hleft
    exact .of_left hleft (ih (hleft.staged hs) hr)
  | stored => exact absurd rfl hr

/-- A linking that comes to no account stores nothing. -/
theorem linkOrCreate_left (hs : w.session.staged = []) (hhash : sv.around.PlainHasher)
    (outer : Log.Context) (a : Assertion) (provider : String) :
    (linkOrCreate sv.site outer a provider).Leads sv.answer w fun r w' =>
      ¬ Succeeded r → w.session.Left w'.session := by
  refine (linkOrCreate_ended sv w outer a provider).mono ?_
  rintro r w' ⟨r₀, w₀, hended, hwrapped⟩ hr
  exact (hended.unstored hs hhash (mt hwrapped.succeeded hr)).wrapped hhash hwrapped

/-- The account of a linking that succeeded has been stored, and is lasting: in the first attempt,
or in one that began after a lost write. -/
theorem Ended.stored_of_ok (hs : w.session.staged = []) (hhash : sv.around.PlainHasher)
    {r : Except Failure Outcome} (h : Ended sv a provider w r w') (hr : Succeeded r) :
    ∃ (w₁ : World) (x : Attempt sv w₁ a provider) (u : User) (s : Session),
      w.session.Left w₁.session ∧ w₁.isOpen = w.isOpen ∧ r = .ok (.success u) ∧
        w'.session = { s with lasting := s.working } ∧
        Session.Stored w₁.session (sv.clerk w₁) x.account (some x.password) (some systemActor) u
          s := by
  induction h with
  | closed => exact hr.elim
  | invalidLogin => cases hr
  | unanswered => exact hr.elim
  | emailConflict => cases hr
  | hindered => exact hr.elim
  | refused => exact hr.elim
  | lost => exact hr.elim
  | again x hstored _ hw₁ _ ih =>
    have hleft := x.left_of_duplicate hs hhash hstored
    rw [← hw₁.session] at hleft
    obtain ⟨w₂, x₂, u, s, hleft₂, hopen, hstored₂⟩ := ih (hleft.staged hs) hr
    have hopen₁ := hw₁.isOpen.trans ((sv.persist_isOpen _ _ _ _).trans x.same.isOpen)
    exact ⟨w₂, x₂, u, s, hleft.trans hleft₂, hopen.trans hopen₁, hstored₂⟩
  | @stored w w' x u hstored hw' =>
    obtain ⟨s, hs, hsession⟩ := Service.persist_commit hstored hw'
    rw [x.same.session, x.same.clerk sv] at hs
    exact ⟨w, x, u, s, .kept, rfl, rfl, hsession, hs⟩

end Linking
end Enrollment
