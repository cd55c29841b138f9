/-
What linking an account once more changes.

An assertion of a known account updates that account and nothing else: the row is read into a draft,
the draft brought up to date and built again, and the account written back under its id with the
groups that it had.

* `Linking.relinked` — the account as it is then, written down as one change of its fields: the
  assertion contributes the locale of its tag, and nothing else;
* `writeOf_relinked` — this is what is written, for every account and every assertion;
* `relinking_updates` — a linking of a known account that succeeds writes this, makes it lasting and
  gives it back, and every other row of every table is as it was.
-/
import Enrollment.Proofs.Consistency
import Enrollment.Proofs.Endings

namespace Enrollment

open Directory

variable {sv : Service} {w w' : World}

namespace Linking

variable {a : Assertion} {provider : String}

/-- An account after it was linked once more, at a time and with a password of which only the hash
is known; the tag is that of the assertion's locale, if it could be read. -/
def relinked (d : Draft) (tag : Option (Int × Option String)) (hash : String) (now : Timestamp) :
    Draft :=
  { d with
    languageId := (tag.map (·.1)).or d.languageId
    country := (filled (tag.bind (·.2))).or d.country
    passwordHash := some hash
    lastLogin := some now
    updatedAt := some now
    updatedBy := some systemActor }

/-- What a tag says about locale: a language, and a country where the tag has a region. -/
theorem withLocale_eq (d : Draft) (tag : Option (Int × Option String)) :
    withLocale d tag =
      { d with
        languageId := (tag.map (·.1)).or d.languageId
        country := (filled (tag.bind (·.2))).or d.country } := by
  rcases tag with _ | ⟨language, _ | region⟩
  · rfl
  · rfl
  · by_cases hregion : region = ""
    · subst hregion
      rfl
    · simp [withLocale, given, filled_of_ne hregion, hregion]

/-- The account of a known row, on its way to the storage. -/
theorem draftFor_known (site : Installation) (t : Tables) (a : Assertion) (provider : String)
    (u : User) (group : Option Group) (now : Timestamp) :
    draftFor site t a provider (some u) group now =
      { withLocale u.toDraft ((t.resolver site).resolveTag? a.locale) with
        lastLogin := some now } :=
  rfl

/-- An account that is read back is a member of the groups that it joined. -/
theorem groupIds_user (t : Tables) (r : Row) : (t.user r).groupIds = t.groupsOf r.id := by
  change ((t.groupsOf r.id).map t.membership).map (·.groupId) = _
  rw [List.map_map]
  exact List.map_id _

/-- **What is written for an account that is linked once more** keeps everything that is not said of
it: read back, it is the account that the row was before, relinked. -/
theorem writeOf_relinked {site : Installation} {t : Tables} (ht : t.Consistent) {r : Row}
    (hr : r ∈ t.users) (clerk : Session.Clerk) {u : User} {group : Option Group} {now : Timestamp}
    (hu : u.toDraft = draftFor site t a provider (some (t.user r)) group now) (hash : String)
    (hnow : clerk.now = now) :
    let wr := Session.writeOf clerk (some r) u (some hash) (some systemActor)
    wr.row.id = r.id ∧ wr.groups = t.groupsOf r.id ∧
      (t.user wr.row).toDraft = relinked (t.user r).toDraft
        ((t.resolver site).resolveTag? a.locale) hash now.withoutOffset := by
  intro wr
  have hdomain : filled r.fields.domain = r.fields.domain := ht.domains r hr
  obtain ⟨created, hcreated⟩ := Option.isSome_iff_exists.mp (ht.created r hr)
  rw [draftFor_known, withLocale_eq] at hu
  refine ⟨rfl, ?_, ?_⟩
  · have hgroups : u.groupIds = (t.user r).groupIds := by rw [hu]; rfl
    exact hgroups.trans (groupIds_user t r)
  · have hfields : wr.row.fields = { storedFields u.toDraft with
        passwordHash := some hash
        createdAt := r.fields.createdAt
        updatedAt := some now.withoutOffset
        updatedBy := some systemActor } := by
      simp only [wr, Session.writeOf, hnow, hcreated, Option.bind_some, Option.some_or]
    change { wr.row.fields with id := some r.id, groups := (t.groupsOf r.id).map t.membership } = _
    rw [hfields, hu]
    simp only [storedFields, relinked, Tables.user, hdomain, Option.map_some]

/-- A linking of a known account that succeeded has stored that account, and committed it: a write
that is lost is not tried again. -/
theorem Ended.stored_of_known {u₀ : User} {o : Outcome} (h : Ended sv a provider w (.ok o) w')
    (ho : o.ok = true) (hfound : w.tables.accountByLogin a.uid (scope provider) = .ok (some u₀)) :
    ∃ (x : Attempt sv w a provider) (u : User) (s : Session),
      x.existing = some u₀ ∧ o = .success u ∧ w'.session = { s with lasting := s.working } ∧
        Session.Stored w.session (sv.clerk w) x.account (some x.password) (some systemActor) u
          s := by
  have hknown : ∀ x : Attempt sv w a provider, x.existing = some u₀ := fun x =>
    Except.ok.inj (x.found.symm.trans hfound)
  generalize hr : Except.ok o = r at h
  cases h with
  | closed => cases hr
  | invalidLogin =>
    cases hr
    cases ho
  | unanswered => cases hr
  | emailConflict =>
    cases hr
    cases ho
  | hindered => cases hr
  | refused => cases hr
  | lost => cases hr
  | again x _ hnew =>
    rw [hknown x] at hnew
    cases hnew
  | stored x hstored hw' =>
    cases hr
    obtain ⟨s, hs, hsession⟩ := Service.persist_commit hstored hw'
    rw [x.same.session, x.same.clerk sv] at hs
    exact ⟨x, _, s, hknown x, rfl, hsession, hs⟩

theorem linkOrCreate_stored_of_known (sv : Service) (w : World) (outer : Log.Context) {u₀ : User}
    (hfound : w.tables.accountByLogin a.uid (scope provider) = .ok (some u₀)) :
    (linkOrCreate sv.site outer a provider).Leads sv.answer w fun r w' =>
      Succeeded r → ∃ (x : Attempt sv w a provider) (u : User) (s : Session),
        x.existing = some u₀ ∧ r = .ok (.success u) ∧
          w'.session = { s with lasting := s.working } ∧
          Session.Stored w.session (sv.clerk w) x.account (some x.password) (some systemActor) u
            s := by
  refine (linkOrCreate_ended sv w outer a provider).mono ?_
  rintro r w' ⟨r₀, w₀, hended, hwrapped⟩ hsucceeded
  obtain ⟨o, rfl, ho, rfl, rfl⟩ := hwrapped.of_succeeded hsucceeded
  obtain ⟨x, u, s, hexisting, rfl, hsession, hstored⟩ := hended.stored_of_known ho hfound
  exact ⟨x, u, s, hexisting, rfl, hsession, hstored⟩

/-- A known account is stored under the row that it was read from. -/
theorem Attempt.place?_of_known (x : Attempt sv w a provider) (hw : w.tables.Sound) {r : Row}
    (hr : r ∈ w.tables.users) (hexisting : x.existing = some (w.tables.user r)) :
    Session.place? w.session.working x.account = some (some r) := by
  have hid : x.account.id = some r.id := by
    have hkeys := draftFor_sameKeys sv.site w.tables a provider x.existing x.group sv.around.now
    rw [← x.draft, hexisting] at hkeys
    exact hkeys.id
  have hrow : w.session.working.row? r.id = some r := hw.row?_of_mem hr
  simp only [Session.place?, hid, hrow, Option.map_some]

/-- **A known account that is stored** replaces its row, and is then the account before it,
relinked. -/
theorem Attempt.relinks (x : Attempt sv w a provider) (hw : w.tables.Consistent)
    (hs : w.session.staged = []) {r : Row} (hr : r ∈ w.tables.users)
    (hexisting : x.existing = some (w.tables.user r)) (hpassword : x.password ≠ "") {u : User}
    {s : Session} (hstored : Session.Stored w.session (sv.clerk w) x.account (some x.password)
      (some systemActor) u s) :
    ∃ (r' : Row) (hash : String), sv.around.hash x.password = .ok hash ∧ r'.id = r.id ∧
      s = { w.session with working := { w.tables with
        users := w.tables.users.map fun o => if o.id = r.id then r' else o } } ∧
      u = s.working.user r' ∧
      u.toDraft = relinked (w.tables.user r).toDraft ((w.tables.resolver sv.site).resolveTag? a.locale)
        hash sv.around.now.withoutOffset := by
  have hdraft := x.draft
  rw [hexisting] at hdraft
  have hplace := x.place?_of_known hw.toSound hr hexisting
  obtain ⟨hashed, t, hhashed, hwrite, rfl, rfl⟩ := hstored.write hs hplace
  obtain ⟨hash, rfl, hhash⟩ := Session.hash_eq_ok hpassword hhashed
  obtain ⟨hid, hgroups, hfields⟩ := writeOf_relinked hw hr (sv.clerk w) hdraft hash rfl
  rw [← hid] at hgroups
  have ht := Tables.write_known rfl hgroups hwrite
  refine ⟨_, hash, hhash, hid, by rw [ht]; rfl, rfl, ?_⟩
  rw [ht]
  exact hfields

end Linking

/-- **Linking a known account changes that account, and of it only what is said**: where the tables
hold an active account of the login and the provider, a linking that succeeds replaces its row under
its id, leaves every other row of every table as it was, makes this lasting and gives the account
back, which is the one before it with the locale of the tag, the hash of a password drawn for it,
the time and the actor of the change. -/
theorem relinking_updates (sv : Service) (outer : Log.Context) (w : World)
    (hw : w.tables.Consistent) (hs : w.session.staged = [])
    (hdrawn : ∀ p, sv.around.randomPassword (w.tables.passwordLength sv.site.settings) = .ok p →
      p ≠ "")
    (a : Assertion) (provider : String) (r : Row) (hr : r ∈ w.tables.users)
    (hscope : r.inScope (Linking.scope provider) = true) (hlogin : r.fields.login = a.uid) :
    let run := sv.run (Linking.linkOrCreate sv.site outer a provider) w
    Succeeded run.1 → ∃ (r' : Row) (password hash : String),
      sv.around.randomPassword (w.tables.passwordLength sv.site.settings) = .ok password ∧
      sv.around.hash password = .ok hash ∧
      r'.id = r.id ∧
      run.2.session = { lasting := { w.tables with
        users := w.tables.users.map fun o => if o.id = r.id then r' else o } } ∧
      run.1 = .ok (.success (run.2.tables.user r')) ∧
      (run.2.tables.user r').toDraft = Linking.relinked (w.tables.user r).toDraft
        ((w.tables.resolver sv.site).resolveTag? a.locale) hash sv.around.now.withoutOffset := by
  intro run hsucceeded
  have hfound : w.tables.accountByLogin a.uid (Linking.scope provider) =
      .ok (some (w.tables.user r)) := hlogin ▸ hw.toSound.accountByLogin_of_mem hr hscope
  obtain ⟨x, u, s, hexisting, (ho : run.1 = _), (hsession : run.2.session = _), hstored⟩ :=
    Linking.linkOrCreate_stored_of_known sv w outer hfound hsucceeded
  obtain ⟨r', hash, hhash, hid, hs', rfl, hfields⟩ :=
    x.relinks hw hs hr hexisting (hdrawn _ x.random) hstored
  have htables : run.2.tables = s.working := by rw [World.tables, hsession]
  refine ⟨r', x.password, hash, x.random, hhash, hid, ?_, ?_, ?_⟩
  · rw [hsession, hs', hs]
  · rw [ho, htables]
  · rw [htables]
    exact hfields

/-- An account that was given a group and other rights is linked once more, by an assertion of another
name, another email and an Italian locale. -/
theorem relinking_updates_promoted :
    let first : Assertion := { uid := "alice", email := some "alice@x.org", locale := some "de-CH" }
    let again : Assertion :=
      { uid := "alice", email := some "new@x.org", firstName := some "Eve", locale := some "it" }
    let promoted : User :=
      { login := "alice", type := .oauth, domain := some "google", id := some "user-0",
        email := some "alice@x.org", country := some "CH", rights := { admin := true },
        groups := [⟨"staff", some "Staff"⟩], valid := by decide }
    let sv : Service := .numbered
    let w := World.after sv
      [.createGroup ⟨"staff", "Staff", none⟩, .link first "google", .persist promoted none none]
    let run := sv.run (Linking.linkOrCreate sv.site {} again "google") w
    ∃ u : User, run.1 = .ok (.success u) ∧ u.id = some "user-0" ∧ u.email = some "alice@x.org" ∧
      u.country = some "CH" ∧ u.rights = { admin := true } ∧ u.groupIds = ["staff"] ∧
      u.updatedBy = some "system" := by
  intro first again promoted sv w run
  have hw : w.Reachable := World.reachable_after sv _
  have hs : w.session.staged = [] := World.staged_after_numbered _
  have hdrawn : ∀ p, sv.around.randomPassword (w.tables.passwordLength sv.site.settings) = .ok p →
      p ≠ "" := by
    intro p hp
    have hlength : w.tables.passwordLength sv.site.settings = 25 := by decide +kernel
    rw [hlength] at hp
    cases hp
    decide
  have hsucceeded : Succeeded run.1 := by decide +kernel
  have hregion : ((w.tables.resolver sv.site).resolveTag? again.locale).bind (·.2) = none := by
    decide +kernel
  have hrow : (w.tables.row? "user-0").any (fun r =>
      r.inScope (Linking.scope "google") && r.fields.login = "alice" &&
        (w.tables.user r).email = some "alice@x.org" && (w.tables.user r).country = some "CH" &&
        (w.tables.user r).rights = { admin := true } &&
        (w.tables.user r).groupIds = ["staff"]) = true := by
    decide +kernel
  obtain ⟨r, hr, hfacts⟩ := (Option.any_eq_true _ _).mp hrow
  simp only [Bool.and_eq_true, decide_eq_true_eq, and_assoc] at hfacts
  obtain ⟨hscope, hlogin, hemail, hcountry, hrights, hgroups⟩ := hfacts
  obtain ⟨hmem, hid⟩ := Tables.mem_of_row? hr
  have hid' : (w.tables.user r).id = some "user-0" := by rw [← hid]; rfl
  -- From here on it does not matter how the state came about.
  clear_value w
  obtain ⟨r', password, hash, -, -, -, -, hrun, hfields⟩ :=
    relinking_updates sv {} w hw.consistent.2 hs hdrawn again "google" r hmem hscope hlogin
      hsucceeded
  refine ⟨_, hrun, ?_⟩
  rw [hfields, Linking.relinked, hregion]
  exact ⟨hid', hemail, hcountry, hrights, hgroups, rfl⟩

end Enrollment
