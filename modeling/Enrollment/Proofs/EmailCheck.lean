/-
The check whether an email is free, and the index that refuses a taken one.

Both compare emails without regard to case, but not in the same way: the index makes the ASCII
capitals of both emails small, the check the ASCII capitals of the stored email and every capital of
the email it is asked about.

* `EmailChecked` — what the check promises of an email: it passes exactly when the index has room, a
  write after it does not collide, and linking reports a taken email as a conflict;
* `emailChecked_iff` — the promise is kept of an email exactly if its two small forms are the same;
* `emailChecked_counterexample` — so it is of every email in ASCII (`lower_eq_asciiLower`), and it is
  broken by an email with another capital.
-/
import Enrollment.Proofs.Ascii
import Enrollment.Proofs.LostWrites

namespace Enrollment

open Directory Directory.Session

variable {sv : Service} {w w' : World}

/-! ### The check and the index -/

namespace Directory.Tables

variable {t : Tables} {e : String} {s : Scope}

/-- A write is refused for its email exactly where the rows beside it have the email. -/
theorem refusal?_eq_emailTaken {w : Write} :
    t.refusal? w = some (.refused .emailTaken) ↔
      w.Fits ∧ emailTakenBy (t.beside w) w.row = true := by
  have hrefusal := t.refusal w
  generalize t.refusal? w = r at hrefusal
  cases hrefusal with
  | tooLarge hfits => exact iff_of_false (fun h => nomatch h) (fun h => hfits h.1)
  | emailTaken hfits hemail => exact iff_of_true rfl ⟨hfits, hemail⟩
  | loginTaken _ hemail => exact iff_of_false (fun h => nomatch h) (fun h => by simp [hemail] at h)
  | unjoinable _ hemail _ _ hrule =>
    refine iff_of_false (fun h => ?_) (fun h => by simp [hemail] at h)
    cases h
    exact absurd hrule (by decide)
  | none _ hemail => exact iff_of_false (fun h => nomatch h) (fun h => by simp [hemail] at h)

/-- The index has room for a further active account of the scope with the email: no such account is
refused for its email, whatever else it is. -/
def AdmitsEmail (t : Tables) (e : String) (s : Scope) : Prop :=
  ∀ w : Write, w.fresh = true → w.row.inScope s = true → w.row.fields.email = some e →
    t.refusal? w ≠ some (.refused .emailTaken)

/-- The index has room for the email exactly where no account holds it. -/
theorem admitsEmail_iff (he : e ≠ "") :
    t.AdmitsEmail e s ↔ ¬ ∃ o ∈ t.users, o.HoldsEmail s e := by
  constructor
  · rintro h ⟨o, ho, hholds⟩
    -- The account that holds the email, as a new one with the spelling asked about.
    let w : Write :=
      { row := { o with
          fields := { o.fields with email := some e, languageId := none }
          valid := o.valid }
        groups := []
        fresh := true }
    refine h w rfl hholds.scope rfl (refusal?_eq_emailTaken.mpr ⟨rfl, ?_⟩)
    exact (emailTakenBy_iff (r := w.row) hholds.scope rfl he).mpr ⟨o, ho, hholds⟩
  · intro h w hfresh hscope hemail hrefused
    obtain ⟨-, htaken⟩ := refusal?_eq_emailTaken.mp hrefused
    rw [beside, if_pos hfresh] at htaken
    exact h ((emailTakenBy_iff hscope hemail he).mp htaken)

/-- Of an email with one small form, the check finds the accounts that hold it. -/
theorem emailFree_eq_false_of_lower {exclude : Option String} (he : e ≠ "")
    (hlower : Text.lower e = Text.asciiLower e) :
    t.emailFree (some e) s exclude = false ↔
      ∃ o ∈ t.users, o.HoldsEmail s e ∧ o.counts exclude = true := by
  rw [emailFree_eq_false he, hlower]
  refine exists_congr fun o => and_congr_right fun _ => ?_
  rw [hasEmail_eq_true]
  exact ⟨fun ⟨hs, hf, hc⟩ => ⟨⟨hs, hf⟩, hc⟩, fun ⟨⟨hs, hf⟩, hc⟩ => ⟨hs, hf, hc⟩⟩

/-- The check and the index agree on an email with one small form. -/
theorem emailFree_iff_admitsEmail (he : e ≠ "") (hlower : Text.lower e = Text.asciiLower e) :
    t.emailFree (some e) s none = true ↔ t.AdmitsEmail e s := by
  rw [admitsEmail_iff he, ← Bool.not_eq_false, emailFree_eq_false_of_lower he hlower]
  simp [Row.counts]

end Directory.Tables

/-! ### What follows a passed check -/

namespace Service

variable {u : User} {password actor : Option String} {message : String}

/-- An active account is lost on its email only where another one holds the email. -/
theorem emailHeld_of_duplicate (hs : w.session.staged = []) (hhash : sv.around.PlainHasher)
    (h : (sv.persist w u password actor).1 = .error (.duplicate "email" message)) :
    u.deleted = false ∧ EmailHeld w.tables u := by
  have hdecided := decided_of_duplicate hs hhash h
  generalize hr : Except.error (Failure.duplicate "email" message) = r at hdecided
  cases hdecided with
  | email hdeleted hheld => exact ⟨hdeleted, hheld⟩
  | login => simp [Failure.duplicateOf] at hr
  | unjoined => simp [Failure.duplicateOf] at hr
  | stored => cases hr

/-- After a passed check of an email with one small form, the write is not lost on it. -/
theorem persist_ne_emailDuplicate (hs : w.session.staged = []) (hhash : sv.around.PlainHasher)
    {e : String} (hlower : Text.lower e = Text.asciiLower e) (hemail : u.email = some e)
    (hfree : w.tables.emailFree u.email u.scope u.id = true) :
    (sv.persist w u password actor).1 ≠ .error (.duplicate "email" message) := by
  intro h
  obtain ⟨-, e', he', hne, o, ho, hholds, hcounts⟩ := emailHeld_of_duplicate hs hhash h
  cases hemail.symm.trans he'
  rw [hemail] at hfree
  rw [(Tables.emailFree_eq_false_of_lower hne hlower).mpr ⟨o, ho, hholds, hcounts⟩] at hfree
  cases hfree

/-- What goes wrong in storing an account is not in the words of a workflow yet. -/
theorem persist_isCollaborator (hs : w.session.staged = []) (hhash : sv.around.PlainHasher)
    {e : Failure} (h : (sv.persist w u password actor).1 = .error e) :
    e.isCollaborator = false := by
  cases hopen : w.isOpen with
  | false =>
    rw [(persist_of_closed hopen).1] at h
    cases h
    rfl
  | true =>
    rw [(persist_of_open hopen).1] at h
    have hstoring := persist_storing hs (sv.clerk w) u password actor
    rw [h] at hstoring
    generalize (w.session.persist (sv.clerk w) u password actor).2 = s' at hstoring
    cases hstoring with
    | missing => rfl
    | unhashed _ hfailed =>
      obtain ⟨p, -, hp⟩ := hash_eq_error hfailed
      exact (hhash p e hp).1
    | @refused old hashed e _ _ hrefusal =>
      have hrefusal' := w.tables.refusal (writeOf (sv.clerk w) old u hashed actor)
      rw [World.tables, hrefusal] at hrefusal'
      cases hrefusal' <;> rfl

end Service

/-! ### Linking -/

/-- Neither the hasher nor the generator of passwords reports what goes wrong as a failure of a
workflow or as a lost write. -/
structure Surroundings.Plain (around : Surroundings) : Prop where
  hasher : around.PlainHasher
  random : ∀ length e, around.randomPassword length = .error e → e.Plain

/-- A failure speaks of an email that was lost. -/
def Failure.OnEmail (e : Failure) : Prop :=
  ∃ message, e = .duplicate "email" message ∨ ∃ words, e = .caused words (.duplicate "email" message)

theorem Failure.Plain.not_onEmail {e : Failure} (h : e.Plain) : ¬ e.OnEmail := by
  rintro ⟨message, rfl | ⟨words, rfl⟩⟩
  · exact h.2 _ _ rfl
  · cases h.1

namespace Linking

variable {a : Assertion} {provider e : String}

/-- The check overlooks no other account that holds the email, even where the login has an account
already. -/
theorem emailFree_of_holder (hsound : w.tables.Sound) (he : e ≠ "")
    (hlower : Text.lower e = Text.asciiLower e) {existing : Option User}
    (hfound : w.tables.accountByLogin a.uid (scope provider) = .ok existing) {o : Row}
    (ho : o ∈ w.tables.users) (hholds : o.HoldsEmail (scope provider) e)
    (hlogin : o.fields.login ≠ a.uid) :
    w.tables.emailFree (some e) (scope provider) (existing.bind fun u => u.id) = false := by
  refine (Tables.emailFree_eq_false_of_lower he hlower).mpr ⟨o, ho, hholds, ?_⟩
  cases existing with
  | none => rfl
  | some u =>
    -- The account of the login is another one: it has the login, and `o` has not.
    obtain ⟨r, hr, -, hr', rfl⟩ := hsound.of_accountByLogin hfound
    have hid : r.id ≠ o.id := by
      intro hid
      rw [hsound.eq_of_id_eq hr ho hid] at hr'
      exact hlogin hr'
    simpa [Row.counts, Tables.user] using hid

/-- An account that is linked again belongs to the scope of its row, and every other row stands apart
from that row. -/
theorem apart_of_known (hsound : w.tables.Sound) {r : Row} (hr : r ∈ w.tables.users) {u : User}
    (hkeys : Draft.SameKeys (w.tables.user r).toDraft u.toDraft) (hdeleted : u.deleted = false) :
    r.inScope u.scope = true ∧ ∀ o ∈ w.tables.users, o.counts u.id = true → r.Apart o := by
  constructor
  · have hactive : r.active = true := by
      have hr' : u.deleted = r.fields.deleted := hkeys.deleted
      rw [Row.active, ← hr', hdeleted]
      rfl
    have hdomain : u.domain = r.fields.domain := hkeys.domain
    refine Row.inScope_eq_true.mpr ⟨hactive, hkeys.type.symm, ?_⟩
    change r.fields.domain = filled u.domain
    rw [hdomain, hsound.domains r hr]
  · intro o ho hcounts
    have hid : u.id = some r.id := hkeys.id
    refine hsound.apart.forall hr ho ?_
    rintro rfl
    simp [Row.counts, hid] at hcounts

/-- An account that is linked again keeps its email, and no other account holds it. -/
theorem not_emailHeld_of_known (hsound : w.tables.Sound) {r : Row} (hr : r ∈ w.tables.users)
    {u : User} (hkeys : Draft.SameKeys (w.tables.user r).toDraft u.toDraft) :
    ¬ (u.deleted = false ∧ EmailHeld w.tables u) := by
  rintro ⟨hdeleted, e, hemail, he, o, ho, hholds, hcounts⟩
  obtain ⟨hscope, hapart⟩ := apart_of_known hsound hr hkeys hdeleted
  have hr' : r.fields.email = some e := hkeys.email.symm.trans hemail
  have htaken := (emailTakenBy_iff hscope hr' he).mpr ⟨o, List.mem_singleton_self o, hholds⟩
  rw [emailTakenBy, List.any_cons, (hapart o ho hcounts).emails] at htaken
  cases htaken

/-- An account whose email was found to be free does not collide on it. -/
theorem Attempt.not_emailHeld (x : Attempt sv w a provider) (hsound : w.tables.Sound)
    (hlower : Text.lower e = Text.asciiLower e) (hemail : a.email = some e) :
    ¬ (x.account.deleted = false ∧ EmailHeld w.tables x.account) := by
  have hkeys := draftFor_sameKeys sv.site w.tables a provider x.existing x.group sv.around.now
  rw [← x.draft] at hkeys
  cases hexisting : x.existing with
  | some u =>
    rw [hexisting] at hkeys
    obtain ⟨r, hr, -, -, rfl⟩ := hsound.of_accountByLogin (hexisting ▸ x.found)
    exact not_emailHeld_of_known hsound hr hkeys
  | none =>
    rw [hexisting] at hkeys
    rintro ⟨-, e', hemail', he', o, ho, hholds, -⟩
    have hscope : x.account.scope = scope provider := by
      rw [Draft.scope, hkeys.type, hkeys.domain]
      rfl
    cases (hkeys.email.symm.trans hemail').symm.trans hemail
    have htaken : w.tables.emailFree (some e) (scope provider) none = false :=
      (Tables.emailFree_eq_false_of_lower he' hlower).mpr
        ⟨o, ho, hscope ▸ hholds, by simp [Row.counts]⟩
    have hfree := x.emailFree
    rw [hexisting, hemail] at hfree
    exact absurd (hfree.symm.trans htaken) (by simp)

/-- Nor is it lost on it. -/
theorem Attempt.not_lost_onEmail (x : Attempt sv w a provider) (hsound : w.tables.Sound)
    (hs : w.session.staged = []) (hhash : sv.around.PlainHasher)
    (hlower : Text.lower e = Text.asciiLower e) (hemail : a.email = some e) (message : String) :
    x.stored.1 ≠ .error (.duplicate "email" message) := by
  intro h
  have hheld := Service.emailHeld_of_duplicate (x.same.session ▸ hs) hhash h
  rw [x.same.tables] at hheld
  exact x.not_emailHeld hsound hlower hemail hheld

/-- What hinders an account from being put together is no lost write. -/
theorem Hindered.not_onEmail {existing : Option User} {failure : Failure}
    (h : Hindered sv w.tables existing failure) (hplain : sv.around.Plain) :
    ¬ failure.OnEmail := by
  cases h with
  | group _ hgroup =>
    rw [Tables.defaultGroup] at hgroup
    split at hgroup
    · cases hgroup
    · split at hgroup
      · cases hgroup
        rintro ⟨message, h | ⟨words, h⟩⟩ <;> cases h
      · cases hgroup
  | password hrandom => exact (hplain.random _ _ hrandom).not_onEmail
  | domain => rintro ⟨message, h | ⟨words, h⟩⟩ <;> cases h

/-- No run of the steps of linking fails on an email with one small form. -/
theorem Ended.not_onEmail {r : Except Failure Outcome} (h : Ended sv a provider w r w')
    (hsound : w.session.Sound) (hs : w.session.staged = []) (hplain : sv.around.Plain)
    (hlower : Text.lower e = Text.asciiLower e) (hemail : a.email = some e) {failure : Failure}
    (hr : r = .error failure) : ¬ failure.OnEmail := by
  induction h with
  | closed =>
    cases hr
    rintro ⟨message, h | ⟨words, h⟩⟩ <;> cases h
  | invalidLogin => cases hr
  | unanswered _ hfound =>
    obtain ⟨found, hanswer, -⟩ := hsound.working.accountByLogin a.uid (scope provider)
    rw [World.tables, hanswer] at hfound
    cases hfound
  | emailConflict => cases hr
  | hindered _ _ _ hhindered =>
    cases hr
    exact hhindered.not_onEmail hplain
  | refused x hstored he =>
    cases hr
    have hcollaborator :=
      Service.persist_isCollaborator (x.same.session ▸ hs) hplain.hasher hstored
    exact Failure.Plain.not_onEmail ⟨hcollaborator, he⟩
  | lost x hstored =>
    cases hr
    rintro ⟨message, h | ⟨words, h⟩⟩
    · cases h
    · injection h with _ hcause
      rw [hcause] at hstored
      exact x.not_lost_onEmail hsound.working hs hplain.hasher hlower hemail message hstored
  | again x hstored _ hw₁ _ ih =>
    -- The session has been rolled back: it is as sound, and nothing is staged in it.
    obtain ⟨-, -, hdropped⟩ :=
      Service.persist_eq_duplicate (x.same.session ▸ hs) hplain.hasher hstored
    have hsession := hw₁.session.trans (hdropped.trans (congrArg Session.rollback x.same.session))
    refine ih ?_ ?_ hr
    · rw [hsession]
      exact hsound.rollback
    · rw [hsession, Session.rollback]
  | stored => cases hr

/-- An email that another account holds ends the steps of linking. -/
theorem Ended.emailConflict_of_holder {r : Except Failure Outcome}
    (h : Ended sv a provider w r w') (hsound : w.tables.Sound) (hopen : w.isOpen = true)
    (hlogin : Login.isValid (w.tables.loginLength sv.site.settings) a.uid = true) (he : e ≠ "")
    (hlower : Text.lower e = Text.asciiLower e) (hemail : a.email = some e) {o : Row}
    (ho : o ∈ w.tables.users) (hholds : o.HoldsEmail (scope provider) e)
    (hother : o.fields.login ≠ a.uid) : r = .ok (.reject .emailConflict) := by
  -- Where the email was found to be free, the holder was overlooked.
  have hfree : ∀ existing, w.tables.accountByLogin a.uid (scope provider) = .ok existing →
      w.tables.emailFree a.email (scope provider) (existing.bind fun u => u.id) ≠ true := by
    intro existing hfound h
    rw [hemail, emailFree_of_holder hsound he hlower hfound ho hholds hother] at h
    cases h
  cases h with
  | closed _ hclosed =>
    rw [hopen] at hclosed
    cases hclosed
  | invalidLogin _ hinvalid =>
    rw [hlogin] at hinvalid
    cases hinvalid
  | unanswered _ hfound =>
    obtain ⟨found, hanswer, -⟩ := hsound.accountByLogin a.uid (scope provider)
    rw [hanswer] at hfound
    cases hfound
  | emailConflict => rfl
  | hindered _ hfound hpassed => exact absurd hpassed (hfree _ hfound)
  | refused x => exact absurd x.emailFree (hfree _ x.found)
  | lost x => exact absurd x.emailFree (hfree _ x.found)
  | again x => exact absurd x.emailFree (hfree _ x.found)
  | stored x => exact absurd x.emailFree (hfree _ x.found)

end Linking
/-! ### What the check promises -/

/-- What the check promises of an email, in every state that can be reached. -/
structure EmailChecked (sv : Service) (outer : Log.Context) (e : String) : Prop where
  /-- The check passes exactly where the index has room for the email. -/
  agrees : ∀ w : World, w.Reachable → ∀ scope : Scope,
    w.tables.emailFree (some e) scope none = true ↔ w.tables.AdmitsEmail e scope
  /-- An account whose email was found to be free is not lost on its email. -/
  unlost : ∀ w : World, w.Reachable → w.session.staged = [] →
    ∀ (u : User) (password actor : Option String) (message : String), u.email = some e →
      w.tables.emailFree u.email u.scope u.id = true →
        (sv.persist w u password actor).1 ≠ .error (.duplicate "email" message)
  /-- Linking reports an email that another account holds as a conflict. -/
  conflict : ∀ w : World, w.Reachable → w.isOpen = true →
    ∀ (a : Assertion) (provider : String), a.email = some e →
      Login.isValid (w.tables.loginLength sv.site.settings) a.uid = true →
      (∃ o ∈ w.tables.users, o.HoldsEmail (Linking.scope provider) e ∧ o.fields.login ≠ a.uid) →
        (sv.run (Linking.linkOrCreate sv.site outer a provider) w).1 =
          .ok (.reject .emailConflict)
  /-- Linking never fails on the email. -/
  unfailing : ∀ w : World, w.Reachable → w.session.staged = [] →
    ∀ (a : Assertion) (provider : String) (failure : Failure), a.email = some e →
      (sv.run (Linking.linkOrCreate sv.site outer a provider) w).1 = .error failure →
        ¬ failure.OnEmail

/-- The promise is kept of every email with one small form. -/
theorem EmailChecked.of_lower (hplain : sv.around.Plain) (outer : Log.Context) {e : String}
    (he : e ≠ "") (hlower : Text.lower e = Text.asciiLower e) : EmailChecked sv outer e where
  agrees w _ scope := Tables.emailFree_iff_admitsEmail he hlower
  unlost w _ hs u password actor message hemail hfree :=
    Service.persist_ne_emailDuplicate hs hplain.hasher hlower hemail hfree
  conflict w hw hopen a provider hemail hlogin := by
    rintro ⟨o, ho, hholds, hother⟩
    obtain ⟨r₀, w₀, hended, hwrapped⟩ := Linking.linkOrCreate_ended sv w outer a provider
    refine hwrapped.eq_ok_iff.mpr ?_
    exact hended.emailConflict_of_holder hw.sound.working hopen hlogin he hlower hemail ho hholds
      hother
  unfailing w hw hs a provider failure hemail hfailed := by
    obtain ⟨r₀, w₀, hended, hwrapped⟩ := Linking.linkOrCreate_ended sv w outer a provider
    have hsteps : ∀ e₀, r₀ = .error e₀ → ¬ e₀.OnEmail := fun e₀ =>
      hended.not_onEmail hw.sound hs hplain hlower hemail
    rw [Service.run] at hfailed
    rw [hfailed] at hwrapped
    cases hwrapped with
    | passed => exact hsteps _ rfl
    | caused words =>
      rintro ⟨message, h | ⟨words', h⟩⟩
      · cases h
      · injection h with _ hcause
        exact hsteps _ rfl ⟨message, .inl hcause⟩

/-- The state in which one account has the email. -/
theorem exists_reachable_holder (e : String) :
    ∃ w : World, w.Reachable ∧ ∃ o, w.tables.users = [o] ∧ o.fields.email = some e ∧
      o.inScope ⟨.user, none⟩ = true := by
  let u : User := { login := "a", email := some e, valid := by simp [Draft.Valid] }
  exact ⟨.after .numbered [.persist u none none], World.reachable_after _ _, _, rfl, rfl, rfl⟩

/-- **The check keeps what it promises of an email exactly if both ways of making its capitals small
come to the same.** -/
theorem emailChecked_iff (sv : Service) (hplain : sv.around.Plain) (outer : Log.Context)
    {e : String} (he : e ≠ "") :
    EmailChecked sv outer e ↔ Text.lower e = Text.asciiLower e := by
  refine ⟨fun h => ?_, EmailChecked.of_lower hplain outer he⟩
  -- Beside an account with the email the index has no room, so the check has to find the account.
  obtain ⟨w, hw, o, husers, hemail, hscope⟩ := exists_reachable_holder e
  have ho : o ∈ w.tables.users := by simp [husers]
  have hfull : ¬ w.tables.AdmitsEmail e ⟨.user, none⟩ := by
    rw [Tables.admitsEmail_iff he, not_not]
    exact ⟨o, ho, hscope, e, hemail, rfl⟩
  have htaken : w.tables.emailFree (some e) ⟨.user, none⟩ none = false := by
    rw [← Bool.not_eq_true, h.agrees w hw]
    exact hfull
  obtain ⟨o', ho', -, hfound, -⟩ := (Tables.emailFree_eq_false he).mp htaken
  rw [husers, List.mem_singleton] at ho'
  subst ho'
  obtain ⟨f, hf, hsmall⟩ := Tables.hasEmail_eq_true.mp hfound
  cases hf.symm.trans hemail
  exact hsmall.symm

/-- An email in ASCII, with a capital. -/
theorem emailChecked_ascii :
    Service.numbered.around.Plain ∧ "Ann@x.org" ≠ "" ∧
      EmailChecked .numbered {} "Ann@x.org" := by
  have hplain : Service.numbered.around.Plain :=
    ⟨fun password e h => (nomatch h), fun length e h => (nomatch h)⟩
  refine ⟨hplain, by decide, (emailChecked_iff .numbered hplain {} (by decide)).mpr ?_⟩
  exact Text.lower_eq_asciiLower (by simp)

/-- Two identities with one email that has another capital than the ASCII ones: the check finds the
email free although it is held, and linking the second identity fails. -/
theorem emailChecked_counterexample :
    let first : Assertion := { uid := "alice", email := some "É@x.org" }
    let second : Assertion := { uid := "bruno", email := some "É@x.org" }
    let w := World.after .numbered [.link first "google"]
    w.tables.emailFree (some "É@x.org") (Linking.scope "google") none = true ∧
      (Service.numbered.run (Linking.linkOrCreate {} {} second "google") w).1 =
        .error (.caused "Could not store linked account 'bruno'"
          (.duplicate "email" "Duplicate email")) ∧
      ¬ EmailChecked .numbered {} "É@x.org" := by
  intro first second w
  have hfailed : (Service.numbered.run (Linking.linkOrCreate {} {} second "google") w).1 =
      .error (.caused "Could not store linked account 'bruno'"
        (.duplicate "email" "Duplicate email")) := by
    decide +kernel
  refine ⟨by decide +kernel, hfailed, fun h => ?_⟩
  have hs : w.session.staged = [] := World.staged_after_numbered _
  have hw : w.Reachable := World.reachable_after _ _
  exact h.unfailing w hw hs second "google" _ rfl hfailed ⟨_, .inr ⟨_, rfl⟩⟩

end Enrollment
