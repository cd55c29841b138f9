/-
What decides a self-service registration.

A registration that people reach themselves can be turned down for five reasons, and more than one
of them may apply.  `Decision.order` is the order in which they are asked, with the account that is
created at its end; the first decision that applies is the one that is taken, whatever applies after
it.

* `FirstOf` — the first element of a list that has a property;
* `Decision.Applies`, `Decision.Answers` — when a decision applies, as a statement about the tables
  and what was entered, and what is answered where it is taken;
* `Form.Prepared` — nothing outside stands in the way: the storage is open and keeps its rules, the
  password can be hashed, the new id is unused, and language ids fit their column;
* `self_registration_decided` — every such run answers by the first decision that applies.
-/
import Enrollment.Proofs.LostWrites
import Enrollment.Proofs.NewAccounts
import Enrollment.Proofs.Trimming

namespace Enrollment

open Directory Directory.Session

variable {sv : Service} {w w' : World}

/-! ### The first that applies -/

/-- The first element of a list that has a property. -/
inductive FirstOf {α : Type} (P : α → Prop) : List α → α → Prop where
  | here {a : α} {rest : List α} (h : P a) : FirstOf P (a :: rest) a
  | later {a b : α} {rest : List α} (ha : ¬ P a) (h : FirstOf P rest b) : FirstOf P (a :: rest) b

theorem FirstOf.unique {α : Type} {P : α → Prop} {l : List α} {a b : α} (ha : FirstOf P l a)
    (hb : FirstOf P l b) : a = b := by
  induction ha with
  | here h =>
    cases hb with
    | here => rfl
    | later hn => exact absurd h hn
  | later hn _ ih =>
    cases hb with
    | here h => exact absurd h hn
    | later _ hb => exact ih hb

/-! ### Whether accounts must be confirmed -/

namespace Text

theorem strip_eq_empty {s : String} : strip s = "" ↔ ∀ c ∈ s.toList, isBlank c = true := by
  rw [strip, ← trimBoth_eq_nil]
  simp

end Text

theorem normaliseBaseUrl_eq_empty {url : String} :
    normaliseBaseUrl url = "" ↔ ∀ c ∈ url.toList, Text.isBlank c = true := by
  rw [← Text.strip_eq_empty, normaliseBaseUrl, withSlash]
  split
  · rfl
  · rename_i h
    refine iff_of_false (fun hempty => ?_) fun hempty => h (.inl hempty)
    have hlength := congrArg String.length hempty
    simp [String.length_append] at hlength

/-- New accounts must be confirmed: there is a base URL that is not blank, and it is asked for. -/
structure Directory.Tables.MustConfirm (t : Tables) (s : Settings) : Prop where
  url : ∃ c ∈ ((t.stored? .baseUrl).getD s.baseUrl).toList, Text.isBlank c = false
  asked : (Policy.flag s.verifyEmail (t.stored? .emailVerification)).value = true

theorem Directory.Tables.confirmationRequired_iff {t : Tables} {s : Settings} :
    t.confirmationRequired s = true ↔ t.MustConfirm s := by
  have hurl : Policy.baseUrlOf s (t.stored? .baseUrl) ≠ "" ↔
      ∃ c ∈ ((t.stored? .baseUrl).getD s.baseUrl).toList, Text.isBlank c = false := by
    rw [Policy.baseUrlOf, ne_eq, normaliseBaseUrl_eq_empty]
    simp
  rw [confirmationRequired, Bool.and_eq_true, decide_eq_true_eq, hurl]
  constructor
  · rintro ⟨url, asked⟩
    exact ⟨url, asked⟩
  · rintro ⟨url, asked⟩
    exact ⟨url, asked⟩

/-! ### The default group -/

namespace Directory.Tables

variable {t : Tables} {s : Settings}

/-- A default group is configured, and there is no group of that id. -/
def GroupMissing (t : Tables) (s : Settings) : Prop :=
  ∃ id, (t.stored? .defaultGroup).or s.defaultGroup = some id ∧ id ≠ "" ∧ t.group? id = none

theorem groupMissing_of_error {e : Failure} (h : t.defaultGroup s = .error e) :
    t.GroupMissing s := by
  rw [defaultGroup] at h
  split at h
  · cases h
  · rename_i id hid
    obtain ⟨hconfigured, hne⟩ := Option.filter_eq_some_iff.mp hid
    split at h
    · rename_i hgroup
      exact ⟨id, hconfigured, by simpa using hne, hgroup⟩
    · cases h

theorem not_groupMissing_of_ok {group : Option Group} (h : t.defaultGroup s = .ok group) :
    ¬ t.GroupMissing s := by
  rintro ⟨id, hconfigured, hne, hgroup⟩
  have hfilter : ((t.stored? .defaultGroup).or s.defaultGroup).filter (· ≠ "") = some id := by
    rw [hconfigured]
    exact filled_of_ne hne
  rw [defaultGroup, hfilter] at h
  simp only [hgroup] at h
  cases h

/-- The group that new accounts join is there. -/
theorem group?_of_default {g : Group} (h : t.defaultGroup s = .ok (some g)) :
    (t.group? g.id).isSome = true := by
  rw [defaultGroup] at h
  split at h
  · cases h
  · split at h
    · cases h
    · rename_i hfound
      cases h
      have hmem : g ∈ t.groups := List.mem_of_find?_eq_some hfound
      exact group?_isSome.mpr (List.mem_map_of_mem (f := (·.id)) hmem)

end Directory.Tables

namespace Registration

variable {form : Form}

/-! ### Decisions -/

/-- What a self-service registration can be decided to be. -/
inductive Decision where
  | disabled
  | groupMissing
  | loginTooShort
  | loginInUse
  | emailInUse
  | created
deriving DecidableEq

namespace Decision

/-- The decisions, in the order in which they are asked. -/
def order : List Decision :=
  [.disabled, .groupMissing, .loginTooShort, .loginInUse, .emailInUse, .created]

/-- Where people's own accounts have to be unique. -/
def scope : Scope := ⟨.user, none⟩

/-- An active account has the email of a form: for the question that is asked in advance, which
makes all of the entered email small, or for the index, which makes only its ASCII capitals
small. -/
def EmailTaken (t : Tables) (form : Form) : Prop :=
  ∃ e, form.email = some e ∧ e ≠ "" ∧ ∃ o ∈ t.users, o.inScope scope = true ∧
    ∃ f, o.fields.email = some f ∧
      (Text.asciiLower f = Text.lower e ∨ Text.asciiLower f = Text.asciiLower e)

/-- When a decision applies. -/
def Applies (s : Settings) (t : Tables) (form : Form) : Decision → Prop
  | .disabled => t.selfRegistration s = false
  | .groupMissing => t.GroupMissing s
  | .loginTooShort => form.login = "" ∨ (form.login.length : Int) < t.loginLength s
  | .loginInUse => ∃ o ∈ t.users, o.inScope scope = true ∧ o.fields.login = form.login
  | .emailInUse => EmailTaken t form
  | .created => True

/-- What is answered where a decision is taken. -/
def Answers (s : Settings) (t : Tables) (r : Except Failure (Option Outcome)) (session : Session) :
    Decision → Prop
  | .disabled => r = .ok (some (.reject .registrationDisabled))
  | .groupMissing => r = .ok none
  | .loginTooShort => r = .ok (some (.reject .loginTooShort))
  | .loginInUse => r = .ok (some (.reject .loginInUse))
  | .emailInUse => r = .ok (some (.reject .emailInUse))
  | .created =>
    session.Clean ∧ t.AddsAccount session.working ∧
      ∃ o, r = .ok (some o) ∧ o.user.isSome = true ∧ (o.isPending = true ↔ t.MustConfirm s) ∧
        (o.ok = true ↔ ¬ t.MustConfirm s)

end Decision

/-- Nothing outside stands in the way of a registration. -/
structure Form.Prepared (form : Form) (sv : Service) (w : World) : Prop where
  isOpen : w.isOpen = true
  flushed : w.session.staged = []
  consistent : w.tables.Consistent
  /-- The id of the next new account is not in use. -/
  freshId : w.tables.row? (sv.around.freshId w.ids) = none
  hash : ∀ p, form.password = some p → p ≠ "" → ∃ hash, sv.around.hash p = .ok hash
  /-- The default language and the languages on offer fit their column. -/
  language : Text.fitsWord (w.tables.resolver sv.site).language = true
  catalog : ∀ l ∈ sv.site.catalog, Text.fitsWord l.id = true

/-! ### When a decision applies -/

section Applies

variable {t : Tables} {s : Settings}

theorem Form.scopeOf_candidate {site : Installation} {group : Option Group} :
    scopeOf (form.candidate site t group) = Decision.scope := by
  rw [scopeOf, storedType_candidate, (form.candidate_sameKeys site t group).domain]
  rfl

theorem applies_loginTooShort :
    Decision.Applies s t form .loginTooShort ↔
      Login.isLongEnough (t.loginLength s) form.login = false := by
  rw [Decision.Applies, Login.isLongEnough, Bool.and_eq_false_iff]
  simp

theorem applies_loginInUse (site : Installation) (group : Option Group) :
    Decision.Applies s t form .loginInUse ↔
      t.loginFree (form.candidate site t group).login (scopeOf (form.candidate site t group)) none =
        false := by
  rw [form.scopeOf_candidate, (form.candidate_sameKeys site t group).login,
    Tables.loginFree_eq_false, Decision.Applies]
  refine exists_congr fun o => and_congr_right fun _ => ?_
  constructor
  · rintro ⟨hscope, hlogin⟩
    exact ⟨⟨hscope, hlogin⟩, rfl⟩
  · rintro ⟨⟨hscope, hlogin⟩, -⟩
    exact ⟨hscope, hlogin⟩

/-- The email of a form is taken where the question in advance or the index says so. -/
theorem applies_emailInUse (site : Installation) (group : Option Group) :
    Decision.Applies s t form .emailInUse ↔
      t.emailFree (form.candidate site t group).email (scopeOf (form.candidate site t group)) none =
          false ∨
        EmailHeld t (asStored (form.candidate site t group)) := by
  have hkeys := form.candidate_sameKeys site t group
  have hemail : (asStored (form.candidate site t group)).email = form.email := hkeys.email
  have hid : (asStored (form.candidate site t group)).id = none := hkeys.id
  have hscope : (asStored (form.candidate site t group)).scope = Decision.scope :=
    form.scopeOf_candidate
  rw [form.scopeOf_candidate, hkeys.email, EmailHeld, hemail, hid, hscope, Decision.Applies,
    Decision.EmailTaken]
  constructor
  · rintro ⟨e, he, hne, o, ho, hin, f, hf, hsame | hsame⟩
    · refine .inl ?_
      rw [he, Tables.emailFree_eq_false hne]
      exact ⟨o, ho, hin, Tables.hasEmail_eq_true.mpr ⟨f, hf, hsame⟩, rfl⟩
    · exact .inr ⟨e, he, hne, o, ho, ⟨hin, f, hf, hsame⟩, rfl⟩
  · rintro (hfree | ⟨e, he, hne, o, ho, ⟨hin, f, hf, hsame⟩, -⟩)
    · cases he : form.email with
      | none =>
        rw [he] at hfree
        cases hfree
      | some e =>
        by_cases hne : e = ""
        · rw [he, hne] at hfree
          cases hfree
        · rw [he, Tables.emailFree_eq_false hne] at hfree
          obtain ⟨o, ho, hin, hhas, -⟩ := hfree
          obtain ⟨f, hf, hsame⟩ := Tables.hasEmail_eq_true.mp hhas
          exact ⟨e, rfl, hne, o, ho, hin, f, hf, .inl hsame⟩
    · exact ⟨e, he, hne, o, ho, hin, f, hf, .inr hsame⟩

end Applies

/-! ### What a prepared form can be relied on -/

namespace Form.Prepared

variable {group : Option Group}

theorem languageId_fits (h : form.Prepared sv w) (id : Option Int) :
    Text.fitsWord ((w.tables.resolver sv.site).languageId id) = true := by
  cases id with
  | none => exact h.language
  | some n =>
    rw [Locale.Resolver.languageId]
    split
    · exact h.language
    split
    · -- A language that is known is one of those on offer.
      rename_i hknown
      obtain ⟨l, hl⟩ := Option.isSome_iff_exists.mp hknown
      have hid : l.id = n := by simpa using List.find?_some hl
      exact hid ▸ h.catalog l (List.mem_reverse.mp (List.mem_of_find?_eq_some hl))
    · exact h.language

/-- Only the tables decide whether the account of the form is stored. -/
theorem storable (h : form.Prepared sv w) :
    Storable w.tables (sv.clerk w) (asStored (form.candidate sv.site w.tables group))
      (filled form.password) where
  known := by
    have hid : (asStored (form.candidate sv.site w.tables group)).id = none :=
      (form.candidate_sameKeys sv.site w.tables group).id
    rw [place?, hid]
    rfl
  hashed := by
    cases hp : form.password with
    | none => exact ⟨none, rfl⟩
    | some p =>
      by_cases hne : p = ""
      · subst hne
        exact ⟨none, rfl⟩
      · obtain ⟨hash, hhash⟩ := h.hash p hp hne
        refine ⟨some hash, ?_⟩
        rw [filled_of_ne hne, filled_of_ne hne, Option.mapM_some]
        change some <$> sv.around.hash p = _
        rw [hhash]
        rfl
  fits := by
    have hlanguage : (asStored (form.candidate sv.site w.tables group)).languageId = _ :=
      form.candidate_language
    rw [hlanguage]
    exact h.languageId_fits form.languageId

/-- The new account has an id of its own, and joins a group that is there. -/
theorem joins (h : form.Prepared sv w)
    (hgroup : w.tables.defaultGroup sv.site.settings = .ok group) :
    Joins w.tables (sv.clerk w) (asStored (form.candidate sv.site w.tables group)) := by
  intro old hplace
  have hid : (asStored (form.candidate sv.site w.tables group)).id = none :=
    (form.candidate_sameKeys sv.site w.tables group).id
  rw [place?, hid] at hplace
  cases hplace
  have hgroups : (writeOf (sv.clerk w) none (asStored (form.candidate sv.site w.tables group)) none
      none).groups = group.toList.map (·.id) := form.candidate_groups
  refine ⟨fun _ => h.freshId, ?_, fun g hg => ?_⟩
  · rw [Tables.hasTwice_eq_false, Tables.joining, hgroups]
    refine List.Nodup.filter _ ?_
    cases group <;> simp
  · have hwanted := (Tables.mem_joining.mp hg).1
    rw [hgroups] at hwanted
    cases group with
    | none => cases hwanted
    | some g' =>
      rw [List.mem_singleton.mp hwanted]
      exact Tables.group?_of_default hgroup

end Form.Prepared


/-! ### The decision that is taken -/

/-- An account that was stored is answered as one that was created. -/
theorem answers_created {o : Outcome} {u : User} (hu : o.user = some u) (ho : o.ok = true)
    {t : Tables} {s : Settings} {session : Session} (hclean : session.Clean)
    (hadds : t.AddsAccount session.working) :
    Decision.Answers s t (.ok (some (announced (t.confirmationRequired s) o))) session
      .created := by
  have hrejection : o.rejection = none := by
    rw [Outcome.ok, Bool.and_eq_true] at ho
    simpa using ho.2
  refine ⟨hclean, hadds, _, rfl, ?_⟩
  rw [← Tables.confirmationRequired_iff, announced, ho, Bool.true_and]
  cases t.confirmationRequired s with
  | true => simp [asPending, Outcome.isPending, Outcome.ok, hu]
  | false => simp [Outcome.isPending, Outcome.ok, hu, hrejection]

/-- The account of a prepared form is stored, or lost on an email that the index finds taken. -/
theorem Attempt.prepared {group : Option Group} (hp : form.Prepared sv w)
    (hgroup : w.tables.defaultGroup sv.site.settings = .ok group)
    (x : Attempt sv w (form.candidate sv.site w.tables group) none) :
    (x.stored form.password).1 = .error (.duplicateOf "email") ∧
        Decision.Applies sv.site.settings w.tables form .emailInUse ∨
      (∃ u, (x.stored form.password).1 = .ok u) ∧
        ¬ Decision.Applies sv.site.settings w.tables form .emailInUse := by
  have hdeleted : x.account.deleted = false :=
    x.alike.deleted.trans (form.candidate_sameKeys sv.site w.tables group).deleted
  have hdecided := x.decided hp.flushed hp.storable
  generalize (x.stored form.password).1 = r at hdecided ⊢
  cases hdecided with
  | email _ hheld =>
    exact .inl ⟨rfl, (applies_emailInUse _ _).mpr (.inr (x.alike.emailHeld.mp hheld))⟩
  | login _ _ hheld => exact absurd (x.alike.loginHeld.mp hheld) x.not_loginHeld
  | unjoined _ _ hjoins => exact absurd (x.alike.joins.mpr (hp.joins hgroup)) hjoins
  | @stored u hemail =>
    refine .inr ⟨⟨u, rfl⟩, fun htaken => ?_⟩
    rcases (applies_emailInUse _ _).mp htaken with hfree | hheld
    · rw [x.emailFree] at hfree
      cases hfree
    · exact hemail ⟨hdeleted, x.alike.emailHeld.mpr hheld⟩

/-- What the registration of a prepared form came to is what was decided first, of the decisions
that are left to it. -/
theorem Ended.decided {group : Option Group} {r : Except Failure Outcome}
    (hp : form.Prepared sv w) (hgroup : w.tables.defaultGroup sv.site.settings = .ok group)
    (h : Ended sv w (form.candidate sv.site w.tables group) form.password none r w') :
    ∃ d o, r = .ok o ∧
      FirstOf (Decision.Applies sv.site.settings w.tables form)
        [.loginTooShort, .loginInUse, .emailInUse, .created] d ∧
      d.Answers sv.site.settings w.tables
        (.ok (some (announced (w.tables.confirmationRequired sv.site.settings) o))) w'.session := by
  have hlogin : (form.candidate sv.site w.tables group).login = form.login :=
    (form.candidate_sameKeys sv.site w.tables group).login
  have hlongEnough : Login.isLongEnough (w.tables.loginLength sv.site.settings)
      (form.candidate sv.site w.tables group).login = true →
        ¬ Decision.Applies sv.site.settings w.tables form .loginTooShort := by
    intro hlong hshort
    rw [hlogin, applies_loginTooShort.mp hshort] at hlong
    cases hlong
  have hloginFree : w.tables.loginFree (form.candidate sv.site w.tables group).login
      (scopeOf (form.candidate sv.site w.tables group)) none = true →
        ¬ Decision.Applies sv.site.settings w.tables form .loginInUse := by
    intro hfree htaken
    rw [(applies_loginInUse _ _).mp htaken] at hfree
    cases hfree
  cases h with
  | closed _ hclosed =>
    rw [hp.isOpen] at hclosed
    cases hclosed
  | tooShort _ hshort =>
    rw [hlogin] at hshort
    exact ⟨_, _, rfl, .here (applies_loginTooShort.mpr hshort), rfl⟩
  | loginInUse _ _ hlong htaken =>
    exact ⟨_, _, rfl, .later (hlongEnough hlong) (.here ((applies_loginInUse _ _).mpr htaken)), rfl⟩
  | emailInUse _ _ hlong hfree htaken =>
    exact ⟨_, _, rfl, .later (hlongEnough hlong) (.later (hloginFree hfree)
      (.here ((applies_emailInUse _ _).mpr (.inl htaken)))), rfl⟩
  | lost x hstored =>
    rcases x.prepared hp hgroup with ⟨hlost, htaken⟩ | ⟨⟨u, hok⟩, -⟩
    · cases hstored.symm.trans hlost
      exact ⟨_, _, rfl, .later (hlongEnough x.long) (.later (hloginFree x.loginFree)
        (.here htaken)), rfl⟩
    · cases hstored.symm.trans hok
  | refused x hstored he =>
    rcases x.prepared hp hgroup with ⟨hlost, -⟩ | ⟨⟨u, hok⟩, -⟩
    · cases hstored.symm.trans hlost
      exact absurd rfl (he _ _)
    · cases hstored.symm.trans hok
  | stored x hstored hw' =>
    rcases x.prepared hp hgroup with ⟨hlost, -⟩ | ⟨-, hfree⟩
    · cases hstored.symm.trans hlost
    · refine ⟨.created, _, rfl, .later (hlongEnough x.long) (.later (hloginFree x.loginFree)
        (.later hfree (.here trivial))), ?_⟩
      obtain ⟨s, hs, hsession⟩ := x.commit hstored hw'
      have hconsistent : ∀ t, w.session.due = .ok t → t.Consistent := by
        intro t ht
        rw [due_of_flushed hp.flushed] at ht
        cases ht
        exact hp.consistent
      have hid : x.account.id = none :=
        x.account_id.trans (form.candidate_sameKeys sv.site w.tables group).id
      obtain ⟨t, ht, hadds⟩ := (hs.addsAccount_iff hconsistent).mpr hid
      rw [due_of_flushed hp.flushed] at ht
      cases ht
      rw [hsession]
      exact answers_created rfl rfl ⟨rfl, hs.flushed.1⟩ hadds

end Registration

/-- **A self-service registration is decided by the first decision that applies**, in the order in
which they are asked, and answers by it: whatever is stored, configured and entered, as long as
nothing outside stands in the way. -/
theorem self_registration_decided (sv : Service) (outer : Log.Context) (w : World)
    (form : Registration.Form) (hp : form.Prepared sv w) :
    let run := sv.run (Registration.register sv.site outer form) w
    ∃ d : Registration.Decision,
      FirstOf (Registration.Decision.Applies sv.site.settings w.tables form)
        Registration.Decision.order d ∧
      d.Answers sv.site.settings w.tables run.1 run.2.session := by
  intro run
  obtain ⟨r₀, w₀, hended, (hr : run.1 = _), (hw' : World.SameStorage w₀ run.2)⟩ :=
    Registration.register_ended sv w outer form
  rw [hr, hw'.session]
  cases hended with
  | closed _ hclosed =>
    rw [hp.isOpen] at hclosed
    cases hclosed
  | disabled _ hdisabled => exact ⟨.disabled, .here hdisabled, rfl⟩
  | groupMissing _ hallowed hgroup =>
    refine ⟨.groupMissing, .later ?_ (.here (Tables.groupMissing_of_error hgroup)), rfl⟩
    rw [Registration.Decision.Applies, hallowed]
    simp
  | registered hallowed hgroup h hwrapped hw₁ =>
    obtain ⟨d, o, rfl, hfirst, hanswers⟩ := h.decided hp hgroup
    cases hwrapped
    refine ⟨d, .later ?_ (.later (Tables.not_groupMissing_of_ok hgroup) hfirst), ?_⟩
    · rw [Registration.Decision.Applies, hallowed]
      simp
    · rw [hw₁.session]
      exact hanswers

/-- Somebody registers with a login and an email that are both taken. -/
theorem self_registration_decided_both_taken :
    let alice : User := { login := "alice", email := some "alice@x.org", valid := by decide }
    let sv : Service := .numbered
    let w := World.after sv
      [.configure Policy.Key.selfRegistration.name (some "yes") none, .registerUser alice none none]
    let form : Registration.Form := { login := "alice", email := some "ALICE@x.org" }
    let run := sv.run (Registration.register sv.site {} form) w
    form.Prepared sv w ∧
      Registration.Decision.Applies sv.site.settings w.tables form .emailInUse ∧
      run.1 = .ok (some (.reject .loginInUse)) := by
  intro alice sv w form run
  have hw : w.Reachable := World.reachable_after sv _
  have hp : form.Prepared sv w :=
    { isOpen := by decide +kernel
      flushed := World.staged_after_numbered _
      consistent := hw.consistent.2
      freshId := by decide +kernel
      hash := fun p hp => nomatch hp
      language := by decide +kernel
      catalog := by decide +kernel }
  have hgroup : w.tables.defaultGroup sv.site.settings = .ok none := by decide +kernel
  have hemail : Registration.Decision.Applies sv.site.settings w.tables form .emailInUse :=
    (Registration.applies_emailInUse sv.site none).mpr (.inl (by decide +kernel))
  have hlogin : Registration.Decision.Applies sv.site.settings w.tables form .loginInUse :=
    (Registration.applies_loginInUse sv.site none).mpr (by decide +kernel)
  have hshort : ¬ Registration.Decision.Applies sv.site.settings w.tables form .loginTooShort := by
    rw [Registration.applies_loginTooShort]
    decide +kernel
  have hdisabled : ¬ Registration.Decision.Applies sv.site.settings w.tables form .disabled := by
    rw [Registration.Decision.Applies]
    decide +kernel
  obtain ⟨d, hfirst, hanswers⟩ := self_registration_decided sv {} w form hp
  have htaken : FirstOf (Registration.Decision.Applies sv.site.settings w.tables form)
      Registration.Decision.order .loginInUse :=
    .later hdisabled (.later (Tables.not_groupMissing_of_ok hgroup) (.later hshort (.here hlogin)))
  cases hfirst.unique htaken
  exact ⟨hp, hemail, hanswers⟩

end Enrollment
