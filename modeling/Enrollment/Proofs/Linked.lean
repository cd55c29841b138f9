/-
What a linking that succeeds has done.

* `Linking.Linked` — the row of an account as every linking leaves it, be the account new or known;
* `Linking.Enters` — how the row comes into the tables: beside all others, without the right to sign
  in, or in the place of the account's row, with the rights that it had;
* `linkOrCreate_linked` — a linking that succeeds has brought such a row into the tables that its
  last attempt began with, has made it lasting, and gives back what the row is read as.
-/
import Enrollment.Proofs.Closing
import Enrollment.Proofs.Relinking

namespace Enrollment

open Directory

variable {sv : Service} {w w' : World}

namespace Directory.Tables

variable {t t' : Tables} {scope : Scope}

/-- An email that is free stays so, where no account is asked about that was not before. -/
theorem emailFree_of_subset {email exclude exclude' : Option String}
    (h : t.emailFree email scope exclude = true)
    (hsubset : ∀ o ∈ t'.users, o.counts exclude' = true → o ∈ t.users ∧ o.counts exclude = true) :
    t'.emailFree email scope exclude' = true := by
  rw [emailFree] at h ⊢
  cases hfilled : filled email with
  | none => rfl
  | some e =>
    simp only [hfilled, Bool.not_eq_true', List.any_eq_false, Bool.and_eq_true, not_and] at h ⊢
    intro o ho hmatch hcounts
    obtain ⟨hmem, hcounted⟩ := hsubset o ho hcounts
    exact h o hmem hmatch hcounted

end Directory.Tables

/-- The passwords that are drawn have characters. -/
def Surroundings.DrawsPasswords (around : Surroundings) : Prop :=
  ∀ length p, around.randomPassword length = .ok p → p ≠ ""

namespace Linking

variable {a : Assertion} {provider : String}

/-! ### The row of a linked account -/

/-- The row of an account as a linking leaves it, where the tables were as they were. -/
structure Linked (site : Installation) (t : Tables) (a : Assertion) (provider : String) (r : Row) :
    Prop where
  login : r.fields.login = a.uid
  scope : r.inScope (scope provider) = true
  /-- The locale of the assertion has been taken over. -/
  locale : withLocale r.fields ((t.resolver site).resolveTag? a.locale) = r.fields
  actor : r.fields.updatedBy = some systemActor
  fits : (r.fields.languageId.map Text.fitsWord).getD true = true

/-- How the row of a linked account comes into the tables. -/
inductive Enters (t : Tables) (a : Assertion) (provider : String) (r : Row) : Tables → Prop where
  | provisioned {groups : List String} (hnew : t.row? r.id = none)
      (hrights : r.fields.rights = Rights.standard.erase .login) :
    Enters t a provider r { t with
      users := t.users ++ [r]
      members := t.members ++ groups.map (⟨r.id, ·⟩) }
  | relinked {r₀ : Row} (hr₀ : r₀ ∈ t.users) (hscope : r₀.inScope (scope provider) = true)
      (hlogin : r₀.fields.login = a.uid) (hid : r.id = r₀.id)
      (hrights : r.fields.rights = r₀.fields.rights) :
    Enters t a provider r { t with users := t.users.map fun o => if o.id = r.id then r else o }

namespace Enters

variable {t t' : Tables} {r : Row}

theorem configuration (h : Enters t a provider r t') : t'.configuration = t.configuration := by
  cases h <;> rfl

theorem mem (h : Enters t a provider r t') : r ∈ t'.users := by
  cases h with
  | provisioned => simp
  | relinked hr₀ _ _ hid => exact List.mem_map.mpr ⟨_, hr₀, if_pos hid.symm⟩

/-- All other rows were there before. -/
theorem mem_of_ne (h : Enters t a provider r t') {o : Row} (ho : o ∈ t'.users)
    (hne : o.id ≠ r.id) : o ∈ t.users := by
  cases h with
  | provisioned =>
    rcases List.mem_append.mp ho with ho | ho
    · exact ho
    · rw [List.mem_singleton] at ho
      exact absurd (congrArg Row.id ho) hne
  | relinked =>
    obtain ⟨o', ho', rfl⟩ := List.mem_map.mp ho
    by_cases hsame : o'.id = r.id
    · rw [if_pos hsame] at hne
      exact absurd rfl hne
    · rwa [if_neg hsame]

end Enters

/-- Taking over a locale that has been taken over changes nothing. -/
theorem withLocale_of_taken {d d₀ : Draft} {tag : Option (Int × Option String)}
    (hlanguage : d.languageId = (withLocale d₀ tag).languageId)
    (hcountry : d.country = (withLocale d₀ tag).country) : withLocale d tag = d := by
  rw [withLocale_eq] at hlanguage hcountry ⊢
  have hlanguage' : (tag.map (·.1)).or d.languageId = d.languageId := by
    rw [hlanguage, ← Option.or_assoc, Option.or_self]
  have hcountry' : (filled (tag.bind (·.2))).or d.country = d.country := by
    rw [hcountry, ← Option.or_assoc, Option.or_self]
  rw [hlanguage', hcountry']

namespace Attempt

variable (x : Attempt sv w a provider)

/-- The keys of the account that is stored are those of the assertion. -/
theorem sameKeys (hw : w.tables.Sound) :
    x.account.login = a.uid ∧ x.account.type = .oauth ∧
      filled x.account.domain = filled (some provider) ∧ x.account.deleted = false := by
  have hkeys := draftFor_sameKeys sv.site w.tables a provider x.existing x.group sv.around.now
  rw [← x.draft] at hkeys
  cases hexisting : x.existing with
  | none =>
    rw [hexisting] at hkeys
    exact ⟨hkeys.login, hkeys.type, congrArg filled hkeys.domain, hkeys.deleted⟩
  | some u =>
    obtain ⟨r, -, hscope, hlogin, rfl⟩ := hw.of_accountByLogin (hexisting ▸ x.found)
    rw [hexisting] at hkeys
    obtain ⟨hactive, htype, hdomain⟩ := Row.inScope_eq_true.mp hscope
    have hdomain' : x.account.domain = r.fields.domain := hkeys.domain
    have hdeleted : x.account.deleted = r.fields.deleted := hkeys.deleted
    refine ⟨hkeys.login.trans hlogin, hkeys.type.trans htype, ?_, ?_⟩
    · rw [hdomain', hdomain, filled_filled]
      rfl
    · simpa [hdeleted, Row.active] using hactive

/-- What is written for the account is its row as a linking leaves it. -/
theorem linked_writeOf (hw : w.tables.Sound) {clerk : Session.Clerk} {old : Option Row}
    {hashed : Option String} {t' : Tables}
    (hwrite : w.tables.write (Session.writeOf clerk old x.account hashed (some systemActor)) =
      .ok t') :
    Linked sv.site w.tables a provider
      (Session.writeOf clerk old x.account hashed (some systemActor)).row := by
  obtain ⟨hlogin, htype, hdomain, hdeleted⟩ := x.sameKeys hw
  have hscope : (Session.writeOf clerk old x.account hashed (some systemActor)).row.inScope
      x.account.scope = true := Session.writeOf_inScope hdeleted
  rw [Row.inScope_eq_true] at hscope
  obtain ⟨hactive, htype', hdomain'⟩ := hscope
  refine ⟨hlogin, ?_, ?_, rfl, ?_⟩
  · exact Row.inScope_eq_true.mpr ⟨hactive, htype'.trans htype, hdomain'.trans hdomain⟩
  · -- Whether the account is new or known, the locale was the last thing to be taken over.
    obtain ⟨base, hbase⟩ : ∃ base, x.account.toDraft =
        { withLocale base ((w.tables.resolver sv.site).resolveTag? a.locale) with
          lastLogin := some sv.around.now } := ⟨_, x.draft⟩
    generalize (w.tables.resolver sv.site).resolveTag? a.locale = tag at hbase ⊢
    have hlanguage : x.account.languageId = (withLocale base tag).languageId := by rw [hbase]
    have hcountry : x.account.country = (withLocale base tag).country := by rw [hbase]
    exact withLocale_of_taken hlanguage hcountry
  · have hrefusal := w.tables.refusal
      (Session.writeOf clerk old x.account hashed (some systemActor))
    rw [(Tables.write_eq_ok.mp hwrite).1] at hrefusal
    cases hrefusal with
    | none hfits => exact hfits

/-- A new account may do what accounts may, but for signing in. -/
theorem rights_of_new (hnew : x.existing = none) :
    x.account.rights = Rights.standard.erase .login := by
  rw [x.draft, hnew, draftFor, withLocale_eq]
  cases x.group <;> rfl

/-- The account is stored beside all others where it is new, and under its row where it is known. -/
theorem enters (hw : w.tables.Consistent) {clerk : Session.Clerk} {old : Option Row}
    {hashed : Option String} {t' : Tables}
    (hplace : Session.place? w.tables x.account = some old)
    (hwrite : w.tables.write (Session.writeOf clerk old x.account hashed (some systemActor)) =
      .ok t') :
    Enters w.tables a provider
      (Session.writeOf clerk old x.account hashed (some systemActor)).row t' := by
  cases hexisting : x.existing with
  | none =>
    have hkeys := draftFor_sameKeys sv.site w.tables a provider x.existing x.group sv.around.now
    rw [← x.draft, hexisting] at hkeys
    have hid : x.account.id = none := hkeys.id
    simp only [Session.place?, hid, Option.some.injEq] at hplace
    subst hplace
    obtain ⟨hnew, rfl⟩ := hw.write_fresh rfl hwrite
    exact .provisioned hnew (x.rights_of_new hexisting)
  | some u =>
    obtain ⟨r, hr, hscope, hlogin, rfl⟩ := hw.toSound.of_accountByLogin (hexisting ▸ x.found)
    cases hplace.symm.trans (x.place?_of_known hw.toSound hr hexisting)
    have hdraft := x.draft
    rw [hexisting, draftFor_known, withLocale_eq] at hdraft
    have hgroups : x.account.groupIds = (w.tables.user r).groupIds := by rw [hdraft]; rfl
    have hrights : x.account.rights = r.fields.rights := by rw [hdraft]; rfl
    have ht' := Tables.write_known rfl (hgroups.trans (groupIds_user w.tables r)) hwrite
    rw [ht']
    exact .relinked hr hscope hlogin rfl hrights

end Attempt

/-- What a linking that succeeds has done, in an attempt that began in `w₁`: the tables were
brought to `t'`, of which `r` is the row of the account. -/
structure Done (sv : Service) (w w₁ : World) (a : Assertion) (provider : String) (r : Row)
    (t' : Tables) : Prop where
  left : w.session.Left w₁.session
  valid : Login.isValid (w₁.tables.loginLength sv.site.settings) a.uid = true
  enters : Enters w₁.tables a provider r t'
  linked : Linked sv.site w₁.tables a provider r
  drawn : ∃ p, sv.around.randomPassword (w₁.tables.passwordLength sv.site.settings) = .ok p
  /-- No other account has the email of the assertion. -/
  emailFree : t'.emailFree a.email (scope provider) (some r.id) = true
  hashed : sv.around.DrawsPasswords → r.fields.passwordHash.isSome = true
  consistent : t'.Consistent

/-- Other rows than the one that is written are those of other accounts. -/
theorem counts_of_ne {t : Tables} {u : User} {clerk : Session.Clerk} {old : Option Row}
    {hashed actor : Option String} (hplace : Session.place? t u = some old) {o : Row}
    (ho : o.id ≠ (Session.writeOf clerk old u hashed actor).row.id) : o.counts u.id = true := by
  cases old with
  | none => simp [Row.counts, Session.new_of_place? hplace]
  | some r =>
    have hne : r.id ≠ o.id := Ne.symm ho
    simpa [Row.counts, (Session.known_of_place? hplace).2] using hne

/-- The account that an attempt stored has come into the tables. -/
theorem Attempt.done {w₁ : World} (x : Attempt sv w₁ a provider)
    (hleft : w.session.Left w₁.session) (hw : w₁.tables.Consistent) (hs : w₁.session.staged = [])
    {u : User} {s : Session}
    (hstored : Session.Stored w₁.session (sv.clerk w₁) x.account (some x.password)
      (some systemActor) u s) :
    ∃ (r : Row) (t' : Tables), Done sv w w₁ a provider r t' ∧
      s = { w₁.session with working := t' } ∧ u = t'.user r := by
  obtain ⟨old, hplace⟩ : ∃ old, Session.place? w₁.session.working x.account = some old := by
    cases hstored with
    | intro hplace => exact ⟨_, hplace⟩
  obtain ⟨hashed, t', hhashed, hwrite, hu, hs'⟩ := hstored.write hs hplace
  have henters := x.enters hw hplace hwrite
  have hold : ∀ r ∈ old, r ∈ w₁.tables.users := by
    rintro r rfl
    exact (Session.known_of_place? hplace).1
  refine ⟨_, t', ⟨hleft, x.login, henters, x.linked_writeOf hw.toSound hwrite, ⟨_, x.random⟩, ?_, ?_,
    ?_⟩, hs', hu⟩
  · -- The check excluded the account that was found, which is the one that has been written.
    refine Tables.emailFree_of_subset x.emailFree fun o ho hcounts => ?_
    have hne : o.id ≠ (Session.writeOf (sv.clerk w₁) old x.account hashed
        (some systemActor)).row.id := by
      intro hsame
      rw [Row.counts, hsame] at hcounts
      simp at hcounts
    have hid : (x.existing.bind fun u => u.id) = x.account.id := by
      have hkeys := draftFor_sameKeys sv.site w₁.tables a provider x.existing x.group sv.around.now
      rw [x.draft, hkeys.id]
      cases x.existing <;> rfl
    exact ⟨henters.mem_of_ne ho hne, hid ▸ counts_of_ne hplace hne⟩
  · intro hdrawn
    obtain ⟨hash, rfl, -⟩ := Session.hash_eq_ok (hdrawn _ _ x.random) hhashed
    rfl
  · exact hw.write (Session.writeOf_due hold _ _) hwrite

end Linking

/-! ### Every linking that succeeds -/

namespace Linking

/-- The account of a linking that succeeds has been written in its last attempt, which began with the
tables as they were or with those that last, and is lasting. -/
theorem linkOrCreate_written (hs : w.session.staged = []) (hhash : sv.around.PlainHasher)
    (outer : Log.Context) (a : Assertion) (provider : String) :
    let run := sv.run (linkOrCreate sv.site outer a provider) w
    Succeeded run.1 → ∃ (w₁ : World) (x : Attempt sv w₁ a provider) (old : Option Row)
        (hashed : Option String) (t' : Tables),
      w.session.Left w₁.session ∧ Session.place? w₁.tables x.account = some old ∧
        w₁.tables.write (Session.writeOf (sv.clerk w₁) old x.account hashed (some systemActor)) =
          .ok t' ∧
        run.2.session = { lasting := t' } ∧
        run.1 = .ok (.success (t'.user
          (Session.writeOf (sv.clerk w₁) old x.account hashed (some systemActor)).row)) := by
  intro run hsucceeded
  obtain ⟨r₀, w₀, hended, hwrapped⟩ := linkOrCreate_ended sv w outer a provider
  obtain ⟨o, hr, ho, rfl, rfl⟩ := hwrapped.of_succeeded hsucceeded
  obtain ⟨w₁, x, u, s, hleft, -, hu, hsession, hstored⟩ := hended.stored_of_ok hs hhash ho
  have hs₁ : w₁.session.staged = [] := hleft.staged hs
  obtain ⟨old, hplace⟩ : ∃ old, Session.place? w₁.session.working x.account = some old := by
    cases hstored with
    | intro hplace => exact ⟨_, hplace⟩
  obtain ⟨hashed, t', -, hwrite, rfl, rfl⟩ := hstored.write hs₁ hplace
  refine ⟨w₁, x, old, hashed, t', hleft, hplace, hwrite, ?_, hr.trans hu⟩
  change run.2.session = _ at hsession
  rw [hsession, hs₁]

/-- **What every linking that succeeds has done**: the account of the assertion has come into the
tables that its last attempt began with, everything is lasting, and what is given back is what the
row of the account is read as. -/
theorem linkOrCreate_linked (hlasting : w.session.lasting.Consistent)
    (hworking : w.session.working.Consistent) (hs : w.session.staged = [])
    (hhash : sv.around.PlainHasher) (outer : Log.Context) (a : Assertion) (provider : String) :
    let run := sv.run (linkOrCreate sv.site outer a provider) w
    Succeeded run.1 → ∃ (w₁ : World) (r : Row) (t' : Tables), Done sv w w₁ a provider r t' ∧
      run.2.session = { lasting := t' } ∧ run.2.isOpen = true ∧
      run.1 = .ok (.success (t'.user r)) := by
  intro run hsucceeded
  obtain ⟨r₀, w₀, hended, hwrapped⟩ := linkOrCreate_ended sv w outer a provider
  obtain ⟨o, hr, ho, rfl, rfl⟩ := hwrapped.of_succeeded hsucceeded
  obtain ⟨w₁, x, u, s, hleft, hopen, hu, hsession, hstored⟩ := hended.stored_of_ok hs hhash ho
  have hs₁ : w₁.session.staged = [] := hleft.staged hs
  have hw₁ : w₁.tables.Consistent := by
    rw [World.tables]
    rcases hleft.working with h | h
    · rw [h]
      exact hworking
    · rw [h]
      exact hlasting
  obtain ⟨r, t', hdone, rfl, rfl⟩ := x.done hleft hw₁ hs₁ hstored
  refine ⟨w₁, r, t', hdone, ?_, ?_, hr.trans hu⟩
  · change run.2.session = _ at hsession
    rw [hsession, hs₁]
  · rw [sv.run_isOpen, ← hopen]
    exact x.isOpen

end Linking
end Enrollment
