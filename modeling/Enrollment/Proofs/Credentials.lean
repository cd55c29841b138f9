/-
The credential that a registration stores.

A password that is given is hashed, and its hash is stored.  Where none is given nothing is hashed,
and the account keeps what its candidate brought along: the hash that a caller put there.

* `Stored.passwordHash` — the hash that is stored is that of the password, and without one that of
  the account that was handed over;
* `registered_credential` — so it is for every registration that succeeds, from every state.
-/
import Enrollment.Proofs.NewAccounts
import Enrollment.Proofs.ReadBack

namespace Enrollment

open Directory

variable {sv : Service} {w w' : World}

namespace Directory.Session

variable {s s' : Session} {clerk : Clerk} {u stored : User} {password actor : Option String}

/-- The hash of the password is stored, and where there is none the hash that the account had. -/
theorem Stored.passwordHash (h : Stored s clerk u password actor stored s') :
    ∃ hashed, (filled password).mapM clerk.hash = .ok hashed ∧
      stored.passwordHash = hashed.or u.passwordHash := by
  cases h with
  | intro _ hhash => exact ⟨_, hhash, rfl⟩

end Directory.Session

namespace Registration

variable {candidate : User} {password token : Option String}

/-- The account of a registration that succeeds is the one that was stored and made lasting. -/
theorem registerUser_gives (sv : Service) (w : World) (outer : Log.Context) (candidate : User)
    (password token : Option String) :
    (registerUser sv.site outer candidate password token).Leads sv.answer w fun r w' =>
      Succeeded r → ∃ (o : Outcome) (x : Attempt sv w candidate token) (u : User) (s : Session),
        r = .ok o ∧ o.user = some u ∧ w'.session = { s with lasting := s.working } ∧
          Session.Stored w.session (sv.clerk w) x.account (password.filter (· ≠ "")) none u s := by
  refine (registerUser_ended sv w outer candidate password token).mono ?_
  rintro r w' ⟨r₀, w₀, hended, hwrapped⟩ hsucceeded
  obtain ⟨o, rfl, ho, rfl, rfl⟩ := hwrapped.of_succeeded hsucceeded
  obtain ⟨x, u, s, hu, hsession, hstored⟩ := hended.stored_of_ok ho
  exact ⟨o, x, u, s, rfl, hu, hsession, hstored⟩

/-- What is stored for a candidate has the candidate's hash. -/
theorem Attempt.account_passwordHash (x : Attempt sv w candidate token) :
    x.account.passwordHash = candidate.passwordHash := by
  rw [x.draft, toStore]
  split <;> rfl

end Registration

/-- **The credential of a registered account**: whatever the tables hold and whatever waits to be
flushed, the account that a registration gives is lasting, and is found under its id.  Where there
was a password its hash is that password's; where there was none, or an empty one, its hash is the
one that the candidate brought along, so that it has none exactly if the candidate had none. -/
theorem registered_credential (sv : Service) (outer : Log.Context) (w : World) (candidate : User)
    (password token : Option String) :
    let run := sv.run (Registration.registerUser sv.site outer candidate password token) w
    Succeeded run.1 → ∃ (o : Outcome) (u : User) (id : String),
      run.1 = .ok o ∧ o.user = some u ∧ u.id = some id ∧
      run.2.session.lasting.accountById id = some u ∧
      (∀ p, password = some p → p ≠ "" →
        ∃ hash, sv.around.hash p = .ok hash ∧ u.passwordHash = some hash) ∧
      (password = none ∨ password = some "" → u.passwordHash = candidate.passwordHash) := by
  intro run hsucceeded
  obtain ⟨o, x, u, s, hrun, hu, (hsession : run.2.session = _), hstored⟩ :=
    Registration.registerUser_gives sv w outer candidate password token hsucceeded
  obtain ⟨id, hid, hfound⟩ := hstored.accountById
  obtain ⟨hashed, hhash, hpassword⟩ := hstored.passwordHash
  change (filled (filled password)).mapM (sv.clerk w).hash = .ok hashed at hhash
  rw [filled_filled] at hhash
  rw [x.account_passwordHash] at hpassword
  refine ⟨o, u, id, hrun, hu, hid, by rw [hsession]; exact hfound, ?_, fun hnone => ?_⟩
  · rintro p rfl hp
    obtain ⟨hash, rfl, hash_p⟩ := Session.hash_eq_ok hp hhash
    exact ⟨hash, hash_p, hpassword⟩
  · rw [hpassword, (Session.hash_eq_none_iff hhash).mpr hnone, Option.none_or]

/-- Beside an account that is still staged, since its password could not be hashed, another one is
registered with a password, whose candidate brought a hash along. -/
theorem registered_credential_beside_staged :
    let alice : User := { login := "alice", valid := by decide }
    let bruno : User := { login := "bruno", passwordHash := some "stolen", valid := by decide }
    let failing : Service :=
      { around := { Surroundings.numbered with hash := fun _ => .error .storageClosed } }
    let w := (Operation.persist alice (some "secret") none).perform failing {} {}
    let sv : Service := .numbered
    let run := sv.run (Registration.registerUser sv.site {} bruno (some "secret") none) w
    w.session.staged ≠ [] ∧ ∃ (u : User) (id : String), u.id = some id ∧
      run.2.session.lasting.accountById id = some u ∧
      u.passwordHash = some "hashed:secret" := by
  intro alice bruno failing w sv run
  have hsucceeded : Succeeded run.1 := by decide +kernel
  obtain ⟨o, u, id, -, -, hid, hfound, hhashed, -⟩ :=
    registered_credential sv {} w bruno (some "secret") none hsucceeded
  obtain ⟨hash, heq, hhash⟩ := hhashed "secret" rfl (by decide)
  cases heq
  exact ⟨by decide +kernel, u, id, hid, hfound, hhash⟩

/-- Without a password, and with an empty one, an account is stored with the hash that its candidate
brought along. -/
theorem registered_credential_carried :
    let alice : User := { login := "alice", passwordHash := some "stolen", valid := by decide }
    let bruno : User := { login := "bruno", passwordHash := some "stolen", valid := by decide }
    let sv : Service := .numbered
    let w := World.after sv [.registerUser alice none none, .registerUser bruno (some "") none]
    w.session.lasting.users.map (fun r => (r.fields.login, r.fields.passwordHash)) =
      [("alice", some "stolen"), ("bruno", some "stolen")] := by
  decide +kernel

end Enrollment
