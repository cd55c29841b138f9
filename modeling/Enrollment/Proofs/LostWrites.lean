/-
What a lost write says.

A write that breaks a rule of the tables is reported as lost on one of the two keys of an account.
Where another active account holds a key, that is what happened; but the rules on ids and on
memberships are reported in the same words as those on logins.

* `Service.NamesCollisions` — a lost write is put down to a key that another account holds, and an
  account whose key is held is lost;
* `lost_writes_named` — exactly when that is so of an account, and exactly when a registration is
  answered with a login or an email in use;
* `lost_write_unnamed` — a group that does not exist is reported as a taken login.
-/
import Enrollment.Proofs.Endings
import Enrollment.Proofs.History

namespace Enrollment

open Directory Directory.Session

variable {sv : Service} {w w' : World}

/-! ### Lost writes -/

/-- Another active account holds the key that an account has for a field. -/
def Directory.Session.KeyHeld (t : Tables) (u : User) (field : String) : Prop :=
  field = "login" ∧ LoginHeld t u ∨ field = "email" ∧ EmailHeld t u

namespace Service

variable {u : User} {password actor : Option String}

/-- What storing an account promises about collisions. -/
structure NamesCollisions (sv : Service) (w : World) (u : User) (password actor : Option String) :
    Prop where
  /-- A lost write is put down to a key that another active account holds. -/
  named : ∀ field message,
    (sv.persist w u password actor).1 = .error (.duplicate field message) →
      KeyHeld w.tables u field
  /-- An active account of which another one holds a key is not stored. -/
  raised : u.deleted = false → LoginHeld w.tables u ∨ EmailHeld w.tables u → w.isOpen = true →
    Storable w.tables (sv.clerk w) u password → ∃ field message,
      (sv.persist w u password actor).1 = .error (.duplicate field message)

/-- What a lost write comes to is what the tables decided. -/
theorem decided_of_duplicate (hs : w.session.staged = []) (hhash : sv.around.PlainHasher)
    {field message : String}
    (h : (sv.persist w u password actor).1 = .error (.duplicate field message)) :
    Decided w.tables (sv.clerk w) u (.error (.duplicate field message)) := by
  obtain ⟨hopen, hstorable, -⟩ := persist_eq_duplicate hs hhash h
  have hdecided := persist_decided hopen hs hstorable actor
  rwa [h] at hdecided

/-- An active account of which another one holds a key is lost. -/
theorem persist_of_held (hs : w.session.staged = []) (hopen : w.isOpen = true)
    (hstorable : Storable w.tables (sv.clerk w) u password) (hdeleted : u.deleted = false)
    (hheld : LoginHeld w.tables u ∨ EmailHeld w.tables u) (actor : Option String) :
    ∃ field message, (sv.persist w u password actor).1 = .error (.duplicate field message) := by
  have hdecided := persist_decided hopen hs hstorable actor
  revert hdecided
  generalize (sv.persist w u password actor).1 = r
  intro hdecided
  cases hdecided with
  | email => exact ⟨_, _, rfl⟩
  | login => exact ⟨_, _, rfl⟩
  | unjoined => exact ⟨_, _, rfl⟩
  | stored hemail hlogin =>
    rcases hheld with hheld | hheld
    · exact absurd ⟨hdeleted, hheld⟩ hlogin
    · exact absurd ⟨hdeleted, hheld⟩ hemail

/-- Collisions are named exactly if the account joins what it is to join, unless a key is held. -/
theorem namesCollisions_iff (hs : w.session.staged = []) (hhash : sv.around.PlainHasher) :
    sv.NamesCollisions w u password actor ↔
      (w.isOpen = true → Storable w.tables (sv.clerk w) u password →
        Joins w.tables (sv.clerk w) u ∨ LoginHeld w.tables u ∨
          u.deleted = false ∧ EmailHeld w.tables u) := by
  constructor
  · intro h hopen hstorable
    have hdecided := persist_decided hopen hs hstorable actor
    generalize hr : (sv.persist w u password actor).1 = r at hdecided
    cases hdecided with
    | email hdeleted hheld => exact .inr (.inr ⟨hdeleted, hheld⟩)
    | login _ _ hheld => exact .inr (.inl hheld)
    | unjoined =>
      -- A login is named, so the promise says that it is held.
      rcases h.named _ _ hr with ⟨-, hheld⟩ | ⟨hfield, -⟩
      · exact .inr (.inl hheld)
      · exact absurd hfield (by decide)
    | stored _ _ hjoins => exact .inl hjoins
  · intro h
    refine ⟨fun field message hlost => ?_, fun hdeleted hheld hopen hstorable => ?_⟩
    · obtain ⟨hopen, hstorable, -⟩ := persist_eq_duplicate hs hhash hlost
      have hdecided := decided_of_duplicate hs hhash hlost
      generalize hr : Except.error (Failure.duplicate field message) = r at hdecided
      cases hdecided with
      | email _ hheld =>
        cases hr
        exact .inr ⟨rfl, hheld⟩
      | login _ _ hheld =>
        cases hr
        exact .inl ⟨rfl, hheld⟩
      | unjoined hemail _ hjoins =>
        cases hr
        rcases h hopen hstorable with h | h | h
        · exact absurd h hjoins
        · exact .inl ⟨rfl, h⟩
        · exact absurd h hemail
      | stored => cases hr
    · exact persist_of_held hs hopen hstorable hdeleted hheld actor

end Service

/-! ### Accounts that the tables treat alike -/

/-- Two drafts agree on all that the tables look at. -/
structure Draft.Alike (d d' : Draft) : Prop extends Draft.SameKeys d d' where
  languageId : d'.languageId = d.languageId
  groups : d'.groupIds = d.groupIds

namespace Draft.Alike

variable {u v : User} {t : Tables} {clerk : Clerk}

theorem scope_eq (h : Alike u.toDraft v.toDraft) : v.scope = u.scope := by
  rw [Draft.scope, Draft.scope, h.type, h.domain]

theorem loginHeld (h : Alike u.toDraft v.toDraft) : LoginHeld t v ↔ LoginHeld t u := by
  rw [LoginHeld, LoginHeld, h.scope_eq, h.login, h.id]

theorem emailHeld (h : Alike u.toDraft v.toDraft) : EmailHeld t v ↔ EmailHeld t u := by
  rw [EmailHeld, EmailHeld, h.scope_eq, h.email, h.id]

theorem place?_eq (h : Alike u.toDraft v.toDraft) : place? t v = place? t u := by
  rw [place?, place?, h.id]

theorem joins (h : Alike u.toDraft v.toDraft) : Joins t clerk v ↔ Joins t clerk u := by
  have hjoining : ∀ old, t.joining (writeOf clerk old v none none) =
      t.joining (writeOf clerk old u none none) := by
    intro old
    change v.groupIds.filter _ = u.groupIds.filter _
    rw [h.groups]
    rfl
  rw [Joins, Joins, h.place?_eq]
  refine forall_congr' fun old => imp_congr_right fun _ => ?_
  constructor
  · rintro ⟨hid, honce, hgroups⟩
    exact ⟨hid, hjoining old ▸ honce, hjoining old ▸ hgroups⟩
  · rintro ⟨hid, honce, hgroups⟩
    exact ⟨hid, (hjoining old).symm ▸ honce, (hjoining old).symm ▸ hgroups⟩

theorem storable (h : Alike u.toDraft v.toDraft) {password : Option String} :
    Storable t clerk v password ↔ Storable t clerk u password := by
  constructor
  · rintro ⟨hknown, hhashed, hfits⟩
    exact ⟨h.place?_eq ▸ hknown, hhashed, h.languageId ▸ hfits⟩
  · rintro ⟨hknown, hhashed, hfits⟩
    exact ⟨h.place?_eq.symm ▸ hknown, hhashed, h.languageId.symm ▸ hfits⟩

end Draft.Alike

/-! ### Registrations that are turned down for a key -/

namespace Registration

variable {candidate : User} {password token : Option String}

/-- The candidate, with the kind that it is to be stored with. -/
def asStored (candidate : User) : User :=
  { candidate with
    type := storedType candidate
    valid := toStore_valid candidate "" false }

/-- What is stored differs from the candidate in nothing that the tables look at. -/
theorem Attempt.alike (x : Attempt sv w candidate token) :
    Draft.Alike (asStored candidate).toDraft x.account.toDraft := by
  rw [x.draft]
  refine ⟨toStore_sameKeys candidate _ _, ?_, ?_⟩
  · cases w.tables.confirmationRequired sv.site.settings <;> rfl
  · cases w.tables.confirmationRequired sv.site.settings <;> rfl

/-- An active account where the candidate has to be unique has its login. -/
def LoginTaken (t : Tables) (candidate : User) : Prop :=
  ∃ o ∈ t.users, o.HoldsLogin (scopeOf candidate) candidate.login

theorem loginFree_eq_false_iff {t : Tables} :
    t.loginFree candidate.login (scopeOf candidate) none = false ↔ LoginTaken t candidate := by
  rw [Tables.loginFree_eq_false, LoginTaken]
  simp [Row.counts]

/-- Nothing stands in the way of storing the candidate but a rule that no key is about. -/
structure Unjoined (sv : Service) (w : World) (candidate : User) (password : Option String) :
    Prop where
  emailFree : w.tables.emailFree candidate.email (scopeOf candidate) none = true
  storable : Storable w.tables (sv.clerk w) (asStored candidate) (password.filter (· ≠ ""))
  emailUnheld : ¬ (candidate.deleted = false ∧ EmailHeld w.tables (asStored candidate))
  joins : ¬ Joins w.tables (sv.clerk w) (asStored candidate)

/-- The candidate's email is not free, or another account turns out to have it when the candidate
is stored. -/
def EmailTaken (sv : Service) (w : World) (candidate : User) (password : Option String) : Prop :=
  w.tables.emailFree candidate.email (scopeOf candidate) none = false ∨
    Storable w.tables (sv.clerk w) (asStored candidate) (password.filter (· ≠ "")) ∧
      candidate.deleted = false ∧ EmailHeld w.tables (asStored candidate)

namespace Attempt

variable (x : Attempt sv w candidate token)

include x in
theorem not_loginTaken : ¬ LoginTaken w.tables candidate := by
  rw [← loginFree_eq_false_iff, x.loginFree]
  simp

include x in
theorem not_loginHeld : ¬ LoginHeld w.tables (asStored candidate) := by
  rintro ⟨o, ho, hholds, -⟩
  exact x.not_loginTaken ⟨o, ho, hholds⟩

theorem staged (hs : w.session.staged = []) : x.before.session.staged = [] := by
  rw [x.same.session, hs]

/-- What the tables decide on the candidate is what storing the account comes to. -/
theorem decided (hs : w.session.staged = [])
    (h : Storable w.tables (sv.clerk w) (asStored candidate) (password.filter (· ≠ ""))) :
    Decided w.tables (sv.clerk w) x.account (x.stored password).1 := by
  rw [← x.alike.storable, ← x.same.tables, ← x.same.clerk sv] at h
  have hdecided := Service.persist_decided (x.same.isOpen.trans x.isOpen) (x.staged hs) h none
  rwa [x.same.tables, x.same.clerk sv] at hdecided

/-- A candidate whose login was found to be free is lost on its email, or because it does not join
what it is to join. -/
theorem lost (hs : w.session.staged = []) (hhash : sv.around.PlainHasher)
    {field message : String} (h : (x.stored password).1 = .error (.duplicate field message)) :
    Storable w.tables (sv.clerk w) (asStored candidate) (password.filter (· ≠ "")) ∧
      (field = "email" ∧ candidate.deleted = false ∧ EmailHeld w.tables (asStored candidate) ∨
        field = "login" ∧ Unjoined sv w candidate password) := by
  obtain ⟨-, hstorable, -⟩ := Service.persist_eq_duplicate (x.staged hs) hhash h
  rw [x.same.tables, x.same.clerk sv, x.alike.storable] at hstorable
  refine ⟨hstorable, ?_⟩
  have hdecided := x.decided hs hstorable
  rw [h] at hdecided
  have hdeleted : x.account.deleted = candidate.deleted := x.alike.deleted
  generalize hr : Except.error (Failure.duplicate field message) = r at hdecided
  cases hdecided with
  | email hactive hheld =>
    cases hr
    exact .inl ⟨rfl, hdeleted ▸ hactive, x.alike.emailHeld.mp hheld⟩
  | login _ _ hheld => exact absurd (x.alike.loginHeld.mp hheld) x.not_loginHeld
  | unjoined hemail _ hjoins =>
    cases hr
    refine .inr ⟨rfl, x.emailFree, hstorable, ?_, mt x.alike.joins.mpr hjoins⟩
    rw [← hdeleted, ← x.alike.emailHeld]
    exact hemail
  | stored => cases hr

theorem lost_of_emailHeld (hs : w.session.staged = [])
    (hstorable : Storable w.tables (sv.clerk w) (asStored candidate) (password.filter (· ≠ "")))
    (hdeleted : candidate.deleted = false) (hheld : EmailHeld w.tables (asStored candidate)) :
    (x.stored password).1 = .error (.duplicateOf "email") := by
  have hemail : x.account.deleted = false ∧ EmailHeld w.tables x.account :=
    ⟨x.alike.deleted.trans hdeleted, x.alike.emailHeld.mpr hheld⟩
  have hdecided := x.decided hs hstorable
  generalize (x.stored password).1 = r at hdecided ⊢
  cases hdecided with
  | email => rfl
  | login hunheld => exact absurd hemail hunheld
  | unjoined hunheld => exact absurd hemail hunheld
  | stored hunheld => exact absurd hemail hunheld

theorem lost_of_unjoined (hs : w.session.staged = []) (h : Unjoined sv w candidate password) :
    (x.stored password).1 = .error (.duplicateOf "login") := by
  have hdecided := x.decided hs h.storable
  generalize (x.stored password).1 = r at hdecided ⊢
  cases hdecided with
  | email hdeleted hheld =>
    exact absurd ⟨x.alike.deleted.symm.trans hdeleted, x.alike.emailHeld.mp hheld⟩ h.emailUnheld
  | login => rfl
  | unjoined => rfl
  | stored _ _ hjoins => exact absurd (x.alike.joins.mp hjoins) h.joins

end Attempt

/-- Where a login is in use, the run ends. -/
theorem Ended.loginInUse_iff (hs : w.session.staged = []) (hhash : sv.around.PlainHasher)
    {r : Except Failure Outcome} (h : Ended sv w candidate password token r w') :
    r = .ok (.reject .loginInUse) ↔
      w.isOpen = true ∧
        Login.isLongEnough (w.tables.loginLength sv.site.settings) candidate.login = true ∧
        (LoginTaken w.tables candidate ∨ Unjoined sv w candidate password) := by
  cases h with
  | closed _ hclosed =>
    refine iff_of_false (fun h => nomatch h) ?_
    rintro ⟨hopen, -⟩
    rw [hclosed] at hopen
    cases hopen
  | tooShort _ hshort =>
    refine iff_of_false (fun h => nomatch h) ?_
    rintro ⟨-, hlong, -⟩
    rw [hshort] at hlong
    cases hlong
  | loginInUse _ hopen hlong htaken =>
    exact iff_of_true rfl ⟨hopen, hlong, .inl (loginFree_eq_false_iff.mp htaken)⟩
  | emailInUse _ _ _ hlogin htaken =>
    refine iff_of_false (fun h => nomatch h) ?_
    rintro ⟨-, -, hheld | hunjoined⟩
    · rw [← loginFree_eq_false_iff, hlogin] at hheld
      cases hheld
    · rw [hunjoined.emailFree] at htaken
      cases htaken
  | lost x hstored =>
    obtain ⟨-, ⟨rfl, hdeleted, hheld⟩ | ⟨rfl, hunjoined⟩⟩ := x.lost hs hhash hstored
    · refine iff_of_false (fun h => nomatch h) ?_
      rintro ⟨-, -, htaken | hunjoined⟩
      · exact x.not_loginTaken htaken
      · exact hunjoined.emailUnheld ⟨hdeleted, hheld⟩
    · exact iff_of_true rfl ⟨x.isOpen, x.long, .inr hunjoined⟩
  | refused x hstored he =>
    refine iff_of_false (fun h => nomatch h) ?_
    rintro ⟨-, -, htaken | hunjoined⟩
    · exact x.not_loginTaken htaken
    · rw [x.lost_of_unjoined hs hunjoined] at hstored
      cases hstored
      exact he _ _ rfl
  | stored x hstored =>
    refine iff_of_false (fun h => nomatch h) ?_
    rintro ⟨-, -, htaken | hunjoined⟩
    · exact x.not_loginTaken htaken
    · rw [x.lost_of_unjoined hs hunjoined] at hstored
      cases hstored

/-- Where an email is in use, the run ends. -/
theorem Ended.emailInUse_iff (hs : w.session.staged = []) (hhash : sv.around.PlainHasher)
    {r : Except Failure Outcome} (h : Ended sv w candidate password token r w') :
    r = .ok (.reject .emailInUse) ↔
      w.isOpen = true ∧
        Login.isLongEnough (w.tables.loginLength sv.site.settings) candidate.login = true ∧
        ¬ LoginTaken w.tables candidate ∧ EmailTaken sv w candidate password := by
  -- What an attempt came to, where the email was found to be free and is held all the same.
  have hattempt : ∀ x : Attempt sv w candidate token, EmailTaken sv w candidate password →
      (x.stored password).1 = .error (.duplicateOf "email") := by
    rintro x (hasked | ⟨hstorable, hdeleted, hheld⟩)
    · rw [x.emailFree] at hasked
      cases hasked
    · exact x.lost_of_emailHeld hs hstorable hdeleted hheld
  cases h with
  | closed _ hclosed =>
    refine iff_of_false (fun h => nomatch h) ?_
    rintro ⟨hopen, -⟩
    rw [hclosed] at hopen
    cases hopen
  | tooShort _ hshort =>
    refine iff_of_false (fun h => nomatch h) ?_
    rintro ⟨-, hlong, -⟩
    rw [hshort] at hlong
    cases hlong
  | loginInUse _ _ _ htaken =>
    refine iff_of_false (fun h => nomatch h) ?_
    rintro ⟨-, -, hfree, -⟩
    exact hfree (loginFree_eq_false_iff.mp htaken)
  | emailInUse _ hopen hlong hlogin htaken =>
    refine iff_of_true rfl ⟨hopen, hlong, ?_, .inl htaken⟩
    rw [← loginFree_eq_false_iff, hlogin]
    simp
  | lost x hstored =>
    obtain ⟨hstorable, ⟨rfl, hdeleted, hheld⟩ | ⟨rfl, -⟩⟩ := x.lost hs hhash hstored
    · exact iff_of_true rfl
        ⟨x.isOpen, x.long, x.not_loginTaken, .inr ⟨hstorable, hdeleted, hheld⟩⟩
    · refine iff_of_false (fun h => nomatch h) ?_
      rintro ⟨-, -, -, htaken⟩
      rw [hattempt x htaken] at hstored
      simp [Failure.duplicateOf] at hstored
  | refused x hstored he =>
    refine iff_of_false (fun h => nomatch h) ?_
    rintro ⟨-, -, -, htaken⟩
    rw [hattempt x htaken] at hstored
    cases hstored
    exact he _ _ rfl
  | stored x hstored =>
    refine iff_of_false (fun h => nomatch h) ?_
    rintro ⟨-, -, -, htaken⟩
    rw [hattempt x htaken] at hstored
    cases hstored

end Registration

/-- **What a lost write says**, while nothing else waits to be flushed.  Storing an account names
its collisions exactly if the account joins what it is to join or one of its keys is held; a
registration is answered with a login in use exactly where the login is taken or the candidate does
not join what it is to join, and with an email in use exactly where the email is taken. -/
theorem lost_writes_named (sv : Service) (w : World) (hs : w.session.staged = [])
    (hhash : sv.around.PlainHasher) (outer : Log.Context) (u : User)
    (password actor token : Option String) :
    (sv.NamesCollisions w u password actor ↔
      (w.isOpen = true → Storable w.tables (sv.clerk w) u password →
        Joins w.tables (sv.clerk w) u ∨ LoginHeld w.tables u ∨
          u.deleted = false ∧ EmailHeld w.tables u)) ∧
    ((sv.run (Registration.registerUser sv.site outer u password token) w).1 =
        .ok (.reject .loginInUse) ↔
      w.isOpen = true ∧
        Login.isLongEnough (w.tables.loginLength sv.site.settings) u.login = true ∧
        (Registration.LoginTaken w.tables u ∨ Registration.Unjoined sv w u password)) ∧
    ((sv.run (Registration.registerUser sv.site outer u password token) w).1 =
        .ok (.reject .emailInUse) ↔
      w.isOpen = true ∧
        Login.isLongEnough (w.tables.loginLength sv.site.settings) u.login = true ∧
        ¬ Registration.LoginTaken w.tables u ∧ Registration.EmailTaken sv w u password) := by
  obtain ⟨r₀, w₀, hended, hwrapped⟩ :=
    Registration.registerUser_ended sv w outer u password token
  refine ⟨Service.namesCollisions_iff hs hhash, ?_, ?_⟩
  · rw [← hended.loginInUse_iff hs hhash, ← hwrapped.eq_ok_iff]
    rfl
  · rw [← hended.emailInUse_iff hs hhash, ← hwrapped.eq_ok_iff]
    rfl

/-- A second account with a login that is held. -/
theorem lost_writes_named_held :
    let alice : User := { login := "alice", valid := by decide }
    let sv : Service := .numbered
    let w := World.after sv [.persist alice none none, .commit]
    w.session.staged = [] ∧ sv.around.PlainHasher ∧ sv.NamesCollisions w alice none none ∧
      (sv.run (Registration.registerUser sv.site {} alice none none) w).1 =
        .ok (.reject .loginInUse) := by
  intro alice sv w
  have hs : w.session.staged = [] := World.staged_after_numbered _
  have hhash : sv.around.PlainHasher := fun password e h => nomatch h
  have hnamed := lost_writes_named sv w hs hhash {} alice none none none
  have hfree : w.tables.loginFree "alice" ⟨.user, none⟩ none = false := by decide +kernel
  refine ⟨hs, hhash, hnamed.1.mpr fun _ _ => ?_, hnamed.2.1.mpr ⟨by decide +kernel, ?_, .inl ?_⟩⟩
  · exact .inr (.inl (Tables.loginFree_eq_false.mp hfree))
  · decide +kernel
  · exact Registration.loginFree_eq_false_iff.mp hfree

/-- Where nothing is stored, an account that is to join an unknown group is reported as one whose
login is taken. -/
theorem lost_write_unnamed :
    let alice : User :=
      { login := "alice", groups := [⟨"staff", some "Staff"⟩], valid := by decide }
    let sv : Service := .numbered
    ¬ sv.NamesCollisions {} alice none none ∧
      (sv.run (Registration.registerUser sv.site {} alice none none) {}).1 =
        .ok (.reject .loginInUse) := by
  intro alice sv
  refine ⟨fun h => ?_, by decide +kernel⟩
  rcases h.named "login" "Duplicate login" (by decide +kernel) with ⟨-, o, ho, -⟩ | ⟨hfield, -⟩
  · cases ho
  · exact absurd hfield (by decide)

end Enrollment
