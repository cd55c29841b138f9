/-
What a registration that succeeds adds.

A trusted caller hands over a whole account to be registered, its id included.  Where it has none, a
row and its memberships are added, and nothing that was there before is touched; where it names an
id, the account of that id is what the registration ends up writing.  What people enter themselves
never names an id, so their registrations only ever add.

* `Tables.AddsAccount` — one account is added, and everything else is as it was;
* `Session.Stored.addsAccount_iff` — an account that has been stored was added exactly if it came
  without an id, whatever else was waiting to be flushed;
* `registration_adds_iff` — so is the account of a registration that succeeds;
* `registration_overwrites` — a registration under the id of another account replaces that account;
* `Form.fields`, `self_registration_creates` — the whole record that a self-service registration
  adds, and the account that it gives back.
-/
import Enrollment.Proofs.Atomicity
import Enrollment.Proofs.Consistency

namespace Enrollment

open Directory

variable {sv : Service} {w w' : World}

namespace Directory

variable {t t' : Tables}

/-- The tables have gained one account, with memberships of its own. -/
def Tables.AddsAccount (t t' : Tables) : Prop :=
  ∃ (r : Row) (groups : List String), t.row? r.id = none ∧
    t' = { t with
      users := t.users ++ [r]
      members := t.members ++ groups.map (⟨r.id, ·⟩) }

theorem Tables.AddsAccount.length (h : t.AddsAccount t') : t'.ids.length = t.ids.length + 1 := by
  obtain ⟨r, groups, -, rfl⟩ := h
  simp [Tables.ids]

namespace Session

variable {s s' : Session} {clerk : Clerk} {u stored : User} {password actor : Option String}

/-- Storing a known account leaves as many accounts as there would have been without it. -/
theorem settled_length_of_known {w : Tables.Write} (hw : w.fresh = false) (hdue : s.due = .ok t)
    (h : settled s.working (s.staged ++ [w]) = .ok t') : t'.ids.length = t.ids.length := by
  rw [settled_ids h, settled_ids hdue]
  simp [hw]

/-- **An account has been added exactly if it came without an id.** -/
theorem Stored.addsAccount_iff (hs : ∀ t, s.due = .ok t → t.Consistent)
    (h : Stored s clerk u password actor stored s') :
    (∃ t, s.due = .ok t ∧ t.AddsAccount s'.working) ↔ u.id = none := by
  cases h with
  | @intro old hashed t' hplace _ hsettled =>
    constructor
    · rintro ⟨t, hdue, hadds⟩
      by_contra hid
      -- An id that is named leads to a row, and that row is written.
      obtain ⟨id, hid⟩ := Option.ne_none_iff_exists'.mp hid
      have hknown : (writeOf clerk old u hashed actor).fresh = false := by
        simp only [place?, hid] at hplace
        obtain ⟨r, -, rfl⟩ := Option.map_eq_some_iff.mp hplace
        rfl
      have hsame := settled_length_of_known hknown hdue hsettled
      have hmore : t'.ids.length = t.ids.length + 1 := hadds.length
      omega
    · intro hid
      have hold : old = none := by
        simp only [place?, hid] at hplace
        exact (Option.some.inj hplace).symm
      subst hold
      rw [settled_append_fresh rfl] at hsettled
      obtain ⟨t, hdue, hwrite⟩ := bind_eq_ok.mp hsettled
      obtain ⟨hnew, hadded⟩ := (hs t hdue).write_fresh rfl hwrite
      exact ⟨t, hdue, _, _, hnew, hadded⟩

/-- Nothing is hashed exactly where there is no password, or an empty one. -/
theorem hash_eq_none_iff {hash : Option String}
    (h : (filled password).mapM clerk.hash = .ok hash) :
    hash = none ↔ password = none ∨ password = some "" := by
  cases password with
  | none =>
    cases h
    simp
  | some p =>
    by_cases hp : p = ""
    · subst hp
      cases h
      simp
    · obtain ⟨hashed, rfl, -⟩ := hash_eq_ok hp h
      simp [hp]

end Session
end Directory

namespace Registration

variable {candidate : User} {password token : Option String}

theorem registerUser_stored (sv : Service) (w : World) (outer : Log.Context) (candidate : User)
    (password token : Option String) :
    (registerUser sv.site outer candidate password token).Leads sv.answer w fun r w' =>
      Succeeded r → ∃ (x : Attempt sv w candidate token) (u : User) (s : Session),
        w'.session = { s with lasting := s.working } ∧
          Session.Stored w.session (sv.clerk w) x.account (password.filter (· ≠ "")) none u s := by
  refine (registerUser_ended sv w outer candidate password token).mono ?_
  rintro r w' ⟨r₀, w₀, hended, hwrapped⟩ hsucceeded
  obtain ⟨o, -, ho, rfl, rfl⟩ := hwrapped.of_succeeded hsucceeded
  obtain ⟨x, u, s, -, hsession, hstored⟩ := hended.stored_of_ok ho
  exact ⟨x, u, s, hsession, hstored⟩

theorem Attempt.account_id (x : Attempt sv w candidate token) : x.account.id = candidate.id := by
  rw [x.draft]
  exact (toStore_sameKeys candidate _ _).id

end Registration

/-- **A registration that succeeds adds an account exactly if the candidate has no id**: from every
state that can be reached, whatever was waiting to be flushed, the tables that last afterwards are
those of a flush before it with one account more, and with nothing else that is different. -/
theorem registration_adds_iff (sv : Service) (outer : Log.Context) (w : World) (hw : w.Reachable)
    (candidate : User) (password token : Option String) :
    let run := sv.run (Registration.registerUser sv.site outer candidate password token) w
    Succeeded run.1 → run.2.session.Clean ∧
      ((∃ t, w.session.due = .ok t ∧ t.AddsAccount run.2.tables) ↔ candidate.id = none) := by
  intro run hsucceeded
  obtain ⟨x, u, s, (hsession : run.2.session = _), hstored⟩ :=
    Registration.registerUser_stored sv w outer candidate password token hsucceeded
  have htables : run.2.tables = s.working := by rw [World.tables, hsession]
  have hdue : ∀ t, w.session.due = .ok t → t.Consistent := fun t h => (hw.grown.due h).consistent
  rw [hsession, htables, ← x.account_id]
  exact ⟨⟨rfl, hstored.flushed.1⟩, hstored.addsAccount_iff hdue⟩

/-- Beside an account that is still staged, since its password could not be hashed, another one is
registered. -/
theorem registration_adds_beside_staged :
    let alice : User := { login := "alice", valid := by decide }
    let bruno : User := { login := "bruno", valid := by decide }
    let failing : Service :=
      { around := { Surroundings.numbered with hash := fun _ => .error .storageClosed } }
    let w := (Operation.persist alice (some "secret") none).perform failing {} {}
    let sv : Service := .numbered
    let run := sv.run (Registration.registerUser sv.site {} bruno none none) w
    w.session.staged ≠ [] ∧ (∃ t, w.session.due = .ok t ∧ t.AddsAccount run.2.tables) := by
  intro alice bruno failing w sv run
  have hw : w.Reachable := .step (.start rfl) failing {} _
  have hsucceeded : Succeeded run.1 := by decide +kernel
  have hadds := registration_adds_iff sv {} w hw bruno none none hsucceeded
  exact ⟨by decide +kernel, hadds.2.mpr rfl⟩

/-- A registration under the id of an account that is there replaces the account, and answers with a
new one. -/
theorem registration_overwrites :
    let alice : User := { login := "alice", email := some "alice@x.org", valid := by decide }
    let mallory : User :=
      { login := "mallory", id := some "user-0", valid := by simp [Draft.Valid] }
    let sv : Service := .numbered
    let w := World.after sv [.registerUser alice none none]
    let run := sv.run (Registration.registerUser sv.site {} mallory none none) w
    w.Reachable ∧ Succeeded run.1 ∧
      w.tables.users.map (fun r => (r.id, r.fields.login, r.fields.email)) =
        [("user-0", "alice", some "alice@x.org")] ∧
      run.2.tables.users.map (fun r => (r.id, r.fields.login, r.fields.email)) =
        [("user-0", "mallory", none)] ∧
      ¬ ∃ t, w.session.due = .ok t ∧ t.AddsAccount run.2.tables := by
  intro alice mallory sv w run
  refine ⟨World.reachable_after sv _, by decide +kernel, by decide +kernel, by decide +kernel, ?_⟩
  rintro ⟨t, hdue, hadds⟩
  have hflushed : w.session.staged = [] := World.staged_after_numbered _
  rw [Session.due_of_flushed hflushed] at hdue
  cases hdue
  have hone : w.session.working.ids.length = 1 := by decide +kernel
  have htwo : run.2.tables.ids.length = 1 := by decide +kernel
  have hlength := hadds.length
  omega

/-! ### Accounts that people register themselves -/

namespace Registration

variable {form : Form}

/-- The fields of the account that a form leads to. -/
def Form.fields (form : Form) (locale : Locale.Resolved) (confirm : Bool) (token : String)
    (hash : Option String) (now : Timestamp) : Draft where
  login := form.login
  type := .user
  domain := none
  externalType := none
  passwordHash := hash
  activationToken := some token
  firstName := form.firstName
  lastName := form.lastName
  email := form.email
  country := form.country
  languageId := some locale.language
  timezone := some locale.timezone
  rights :=
    if confirm then { dashboard := true, room := true }
    else { dashboard := true, room := true, login := true }
  createdAt := some now
  updatedAt := some now

/-- What is written for the account of a form. -/
theorem writeOf_candidate (clerk : Session.Clerk) (site : Installation) (t : Tables)
    (group : Option Group) (token : String) (confirm : Bool) (hash : Option String) {u : User}
    (hu : u.toDraft = toStore (form.candidate site t group) token confirm) :
    (Session.writeOf clerk none u hash none).row.fields =
        form.fields ((t.resolver site).resolve form.timezone form.languageId) confirm token hash
          clerk.now.withoutOffset ∧
      (Session.writeOf clerk none u hash none).groups = group.toList.map (·.id) := by
  simp only [Session.writeOf, hu, Draft.groupIds]
  cases group with
  | none => cases confirm <;> cases hash <;> exact ⟨rfl, rfl⟩
  | some g => cases confirm <;> cases hash <;> exact ⟨rfl, rfl⟩

/-- An account that comes with a registration is one that could be used. -/
theorem Ended.ok_of_user {o : Outcome} {u : User}
    (h : Ended sv w candidate password token (.ok o) w') (hu : o.user = some u) :
    o.ok = true := by
  cases h with
  | stored => rfl
  | _ => cases hu

/-- A self-service registration that gives an account has stored and committed it. -/
theorem register_stored (sv : Service) (w : World) (outer : Log.Context) (form : Form) :
    (register sv.site outer form).Leads sv.answer w fun r w' =>
      ∀ o u, r = .ok (some o) → o.user = some u →
        ∃ (group : Option Group) (s : Session)
          (x : Attempt sv w (form.candidate sv.site w.tables group) none),
          w.tables.defaultGroup sv.site.settings = .ok group ∧
            w'.session = { s with lasting := s.working } ∧
            Session.Stored w.session (sv.clerk w) x.account (filled form.password) none u s := by
  refine (register_ended sv w outer form).mono ?_
  rintro r w' ⟨r₀, w₀, hended, rfl, hw'⟩ o u hr hu
  have hr₀ : r₀ = .ok o := by
    cases r₀ with
    | error e => cases hr
    | ok o₀ =>
      cases hr
      rfl
  subst hr₀
  generalize hr₁ : Except.ok o = r₁ at hended
  cases hended with
  | closed => cases hr₁
  | disabled =>
    cases hr₁
    cases hu
  | groupMissing => cases hr₁
  | @registered _ w₁ _ group _ r _ hgroup h hwrapped hw₁ =>
    cases hwrapped with
    | passed => cases hr₁
    | caused => cases hr₁
    | ok o₁ =>
      cases hr₁
      rw [announced_user] at hu
      obtain ⟨x, u', s, hu', hsession, hstored⟩ := h.stored_of_ok (h.ok_of_user hu)
      cases hu.symm.trans hu'
      exact ⟨group, s, x, hgroup, by rw [hw'.session, hw₁.session, hsession], hstored⟩

end Registration

/-- **What a self-service registration that gives an account has done**: one row has been added,
with what was entered, the locale that it resolves to, a fresh activation token and the hash of the
password if there was one; the account has joined the default group if there is one; nothing else is
different, everything is lasting, and the account that is given is the one that can be read back. -/
theorem self_registration_creates (sv : Service) (outer : Log.Context) (w : World)
    (hw : w.tables.Consistent) (hs : w.session.staged = []) (htokens : ∀ n, sv.around.token n ≠ "")
    (form : Registration.Form) (o : Outcome) (u : User) :
    let run := sv.run (Registration.register sv.site outer form) w
    run.1 = .ok (some o) → o.user = some u →
      ∃ (group : Option Group) (r : Row) (token : String) (hash : Option String),
        w.tables.defaultGroup sv.site.settings = .ok group ∧
        w.tables.row? r.id = none ∧
        run.2.session = { lasting := { w.tables with
          users := w.tables.users ++ [r]
          members := w.tables.members ++ group.toList.map fun g => ⟨r.id, g.id⟩ } } ∧
        r.fields = form.fields
          ((w.tables.resolver sv.site).resolve form.timezone form.languageId)
          (w.tables.confirmationRequired sv.site.settings) token hash
          sv.around.now.withoutOffset ∧
        token ≠ "" ∧
        (filled form.password).mapM sv.around.hash = .ok hash ∧
        (hash = none ↔ form.password = none ∨ form.password = some "") ∧
        run.2.tables.accountById r.id = some u := by
  intro run hrun hu
  obtain ⟨group, s, x, hgroup, (hsession : run.2.session = _), hstored⟩ :=
    Registration.register_stored sv w outer form o u hrun hu
  have hplace : Session.place? w.session.working x.account = some none := by
    rw [Session.place?, x.account_id, (form.candidate_sameKeys _ _ _).id]
  obtain ⟨hash, t, hhash, hwrite, rfl, rfl⟩ := hstored.write hs hplace
  rw [filled_filled] at hhash
  obtain ⟨hfields, hgroups⟩ := Registration.writeOf_candidate (sv.clerk w) sv.site w.tables group
    x.drawn _ hash x.draft
  obtain ⟨hnew, rfl⟩ := hw.write_fresh rfl hwrite
  obtain ⟨n, hdrawn⟩ := x.fresh rfl
  refine ⟨group, _, x.drawn, hash, hgroup, hnew, ?_, hfields, hdrawn ▸ htokens n, hhash, ?_, ?_⟩
  · rw [hsession, hgroups, List.map_map, hs]
    rfl
  · exact Session.hash_eq_none_iff hhash
  · rw [World.tables, hsession, Tables.accountById, Tables.row?, List.find?_append,
      show w.tables.users.find? _ = none from hnew]
    simp

/-- The tokens of concrete runs are not empty. -/
theorem Surroundings.numbered_token (n : Nat) : Surroundings.numbered.token n ≠ "" := by
  intro h
  have hlength : ("token-" ++ toString n).length = "".length := congrArg String.length h
  rw [String.length_append] at hlength
  cases Nat.eq_zero_of_add_eq_zero_right hlength

/-- Where a group is configured and accounts must be confirmed, somebody registers. -/
theorem self_registration_creates_pending :
    let staff : Group := ⟨"staff", "Staff", none⟩
    let sv : Service := .numbered
    let w := World.after sv
      [.createGroup staff, .configure Policy.Key.selfRegistration.name (some "yes") none,
        .configure Policy.Key.defaultGroup.name (some "staff") none,
        .configure Policy.Key.baseUrl.name (some "https://x.org") none,
        .configure Policy.Key.emailVerification.name (some "yes") none]
    let form : Registration.Form := { login := "alice", password := some "secret" }
    let run := sv.run (Registration.register sv.site {} form) w
    ∃ (o : Outcome) (u : User) (r : Row),
      run.1 = .ok (some o) ∧ o.user = some u ∧ o.isPending = true ∧
        run.2.session.lasting.members = [⟨r.id, "staff"⟩] ∧
        run.2.tables.accountById r.id = some u := by
  intro staff sv w form run
  have hw : w.Reachable := World.reachable_after sv _
  have hs : w.session.staged = [] := by decide +kernel
  let o : Outcome := (run.1.toOption.bind id).getD {}
  have hrun : run.1 = .ok (some o) := by decide +kernel
  have hpending : o.isPending = true := by decide +kernel
  obtain ⟨u, hu⟩ : ∃ u, o.user = some u := Option.isSome_iff_exists.mp (by decide +kernel)
  obtain ⟨group, r, token, hash, hgroup, -, hsession, -, -, -, -, hback⟩ :=
    self_registration_creates sv {} w hw.consistent.2 hs Surroundings.numbered_token form o u hrun
      hu
  refine ⟨o, u, r, hrun, hu, hpending, ?_, hback⟩
  have hstaff : w.tables.defaultGroup sv.site.settings = .ok (some staff) := by decide +kernel
  have hmembers : w.tables.members = [] := by decide +kernel
  cases hgroup.symm.trans hstaff
  rw [hsession]
  simp [hmembers, staff]

end Enrollment
