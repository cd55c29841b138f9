/-
Linking the same identity again, at once or much later.

* `Linking.Ready.again` — an account that a linking left behind is linked again: no check
  stands in the way, and nothing but password and times is changed;
* `Linking.holders` — the active accounts of an identity: one at most in an orderly session;
* `Deed.keeps` — whatever an operation makes of the accounts, short of a registration under the very
  id, the account of an identity stays where it is;
* `linking_idempotent` — two linkings of an identity that succeed, and all that may lie between them.
-/
import Enrollment.Proofs.EmailCheck
import Enrollment.Proofs.Provenance

namespace Enrollment

open Directory Directory.Session

variable {sv : Service} {w w' : World}

/-- Of whatever length one installation can draw a password, the other one can draw one too, and
hash it. -/
def Surroundings.Redraws (around around' : Surroundings) : Prop :=
  ∀ length p, around.randomPassword length = .ok p →
    ∃ p' hash, around'.randomPassword length = .ok p' ∧ p' ≠ "" ∧ around'.hash p' = .ok hash

/-- What the program draws on can always be drawn on again. -/
theorem Cli.Supply.redraws (s s' : Supply) : s.surroundings.Redraws s'.surroundings := by
  intro length p h
  obtain ⟨hpositive, -⟩ := Credential.random_eq_ok h
  have hdrawn : s'.surroundings.randomPassword length = .ok _ := if_neg (Int.not_lt.mpr hpositive)
  exact ⟨_, _, hdrawn, s'.surroundings_proper.2 _ _ hdrawn, rfl⟩

namespace Linking

variable {a : Assertion} {provider : String} {r : Row}

/-! ### A linked account is linked again -/

/-- An account that is linked again keeps its login, and no other account holds it. -/
theorem not_loginHeld_of_known (hsound : w.tables.Sound) (hr : r ∈ w.tables.users) {u : User}
    (hkeys : Draft.SameKeys (w.tables.user r).toDraft u.toDraft) :
    ¬ (u.deleted = false ∧ LoginHeld w.tables u) := by
  rintro ⟨hdeleted, o, ho, hholds, hcounts⟩
  obtain ⟨hscope, hapart⟩ := apart_of_known hsound hr hkeys hdeleted
  have hlogin : u.login = r.fields.login := hkeys.login
  rw [hlogin] at hholds
  have htaken := (loginTakenBy_iff hscope).mpr ⟨o, List.mem_singleton_self o, hholds⟩
  rw [loginTakenBy, List.any_cons, (hapart o ho hcounts).logins] at htaken
  cases htaken

/-- An account that was linked has taken over the locale of the assertion. -/
theorem Linked.taken {t : Tables} (h : Linked sv.site t a provider r) :
    withLocale (t.user r).toDraft ((t.resolver sv.site).resolveTag? a.locale) =
      (t.user r).toDraft := by
  have hlocale := h.locale
  rw [withLocale_eq] at hlocale ⊢
  have hlanguage := congrArg Draft.languageId hlocale
  have hcountry := congrArg Draft.country hlocale
  dsimp only at hlanguage hcountry
  simp only [Tables.user, hlanguage, hcountry]

/-- The locale of a linked account is the one it is linked with again. -/
theorem Linked.draftFor {t : Tables} (h : Linked sv.site t a provider r) (group : Option Group)
    (now : Timestamp) :
    draftFor sv.site t a provider (some (t.user r)) group now =
      { (t.user r).toDraft with lastLogin := some now } := by
  rw [draftFor_known, h.taken]

/-- Linking a linked account again changes nothing but its password and the times. -/
theorem Linked.relinked {t : Tables} (h : Linked sv.site t a provider r) (hash : String)
    (now : Timestamp) :
    relinked (t.user r).toDraft ((t.resolver sv.site).resolveTag? a.locale) hash now =
      { (t.user r).toDraft with
        passwordHash := some hash, lastLogin := some now, updatedAt := some now } := by
  have hactor : (t.user r).updatedBy = some systemActor := h.actor
  have htaken := h.taken
  rw [withLocale_eq] at htaken
  have hlanguage := congrArg Draft.languageId htaken
  have hcountry := congrArg Draft.country htaken
  dsimp only at hlanguage hcountry
  rw [Linking.relinked, hlanguage, hcountry, ← hactor]

/-- A known account can be stored again, if the password that was drawn for it can be hashed. -/
theorem Attempt.storable_of_known (x : Attempt sv w a provider) (hw : w.tables.Sound)
    (hr : r ∈ w.tables.users) (hexisting : x.existing = some (w.tables.user r))
    (hfits : (x.account.languageId.map Text.fitsWord).getD true = true)
    {hash : String} (hhash : sv.around.hash x.password = .ok hash) :
    Storable w.tables (sv.clerk x.before) x.account (some x.password) := by
  refine ⟨by rw [World.tables, x.place?_of_known hw hr hexisting]; rfl, ?_, hfits⟩
  by_cases hempty : x.password = ""
  · rw [hempty]
    exact ⟨none, rfl⟩
  · refine ⟨some hash, ?_⟩
    rw [filled_of_ne hempty, Option.mapM_some]
    change (sv.around.hash x.password).map some = _
    rw [hhash]
    rfl

/-- A known account that is linked joins no group that it was not in. -/
theorem Attempt.joins_of_known (x : Attempt sv w a provider) (hw : w.tables.Sound)
    (hr : r ∈ w.tables.users) (hexisting : x.existing = some (w.tables.user r)) :
    Joins w.tables (sv.clerk x.before) x.account := by
  intro old hold
  cases (x.place?_of_known hw hr hexisting).symm.trans hold
  have hdraft := x.draft
  rw [hexisting, draftFor_known, withLocale_eq] at hdraft
  have hgroups : x.account.groupIds = w.tables.groupsOf r.id := by
    rw [← groupIds_user, hdraft]
    rfl
  have hjoining := Tables.joining_eq_nil (t := w.tables)
    (w := writeOf (sv.clerk x.before) (some r) x.account none none) hgroups
  exact ⟨by simp [writeOf], by rw [hjoining]; rfl, by simp [hjoining]⟩

/-- No rule of the tables stands in the way of an account that is linked again. -/
theorem Attempt.stored_of_known (x : Attempt sv w a provider) (hw : w.session.Orderly)
    (hr : r ∈ w.tables.users) (hexisting : x.existing = some (w.tables.user r))
    (hfits : (x.account.languageId.map Text.fitsWord).getD true = true)
    {hash : String} (hhash : sv.around.hash x.password = .ok hash) : ∃ u, x.stored.1 = .ok u := by
  have hsound : w.tables.Sound := hw.working.toSound
  have hkeys := draftFor_sameKeys sv.site w.tables a provider x.existing x.group sv.around.now
  rw [← x.draft, hexisting] at hkeys
  have hstorable := x.storable_of_known hsound hr hexisting hfits hhash
  rw [← x.same.tables] at hstorable
  have hdecided := Service.persist_decided (x.same.isOpen.trans x.isOpen)
    ((congrArg Session.staged x.same.session).trans hw.staged) hstorable (some systemActor)
  rw [x.same.tables] at hdecided
  change Decided _ _ _ x.stored.1 at hdecided
  generalize x.stored.1 = result at hdecided
  -- Of the refusals, the keys rule out the first two, and the groups the last one.
  cases hdecided with
  | email hdeleted hheld => exact absurd ⟨hdeleted, hheld⟩ (not_emailHeld_of_known hsound hr hkeys)
  | login _ hdeleted hheld =>
    exact absurd ⟨hdeleted, hheld⟩ (not_loginHeld_of_known hsound hr hkeys)
  | unjoined _ _ hunjoined => exact absurd (x.joins_of_known hsound hr hexisting) hunjoined
  | stored => exact ⟨_, rfl⟩

/-- What the tables say of an account that can be linked again with an assertion. -/
structure Ready (sv : Service) (w : World) (a : Assertion) (provider : String) (r : Row) : Prop where
  isOpen : w.isOpen = true
  orderly : w.session.Orderly
  valid : Login.isValid (w.tables.loginLength sv.site.settings) a.uid = true
  mem : r ∈ w.tables.users
  linked : Linked sv.site w.tables a provider r
  emailFree : w.tables.emailFree a.email (scope provider) (some r.id) = true
  drawn : ∃ p hash, sv.around.randomPassword (w.tables.passwordLength sv.site.settings) = .ok p ∧
    p ≠ "" ∧ sv.around.hash p = .ok hash

namespace Ready

theorem found (h : Ready sv w a provider r) :
    w.tables.accountByLogin a.uid (scope provider) = .ok (some (w.tables.user r)) :=
  h.linked.login ▸ h.orderly.working.toSound.accountByLogin_of_mem h.mem h.linked.scope

theorem stored (h : Ready sv w a provider r) (x : Attempt sv w a provider) :
    ∃ u, x.stored.1 = .ok u := by
  have hexisting := Except.ok.inj (x.found.symm.trans h.found)
  obtain ⟨p, hash, hrandom, -, hhash⟩ := h.drawn
  cases x.random.symm.trans hrandom
  have hdraft := x.draft
  rw [hexisting, h.linked.draftFor] at hdraft
  refine x.stored_of_known h.orderly h.mem hexisting ?_ hhash
  rw [hdraft]
  exact h.linked.fits

/-- Such an account is linked again: no other ending is left. -/
theorem succeeded (h : Ready sv w a provider r) {result : Except Failure Outcome}
    (hended : Ended sv a provider w result w') : Succeeded result := by
  cases hended with
  | closed _ hclosed => rw [h.isOpen] at hclosed; cases hclosed
  | invalidLogin _ hinvalid => rw [h.valid] at hinvalid; cases hinvalid
  | unanswered _ hfound => cases hfound.symm.trans h.found
  | emailConflict _ hfound htaken =>
    cases hfound.symm.trans h.found
    cases htaken.symm.trans h.emailFree
  | hindered _ hfound _ hhindered =>
    cases hfound.symm.trans h.found
    cases hhindered with
    | group hnew => cases hnew
    | domain hnew => cases hnew
    | password hrandom =>
      obtain ⟨p, -, hdrawn, -⟩ := h.drawn
      cases hrandom.symm.trans hdrawn
  | refused x hstored =>
    obtain ⟨u, hu⟩ := h.stored x
    cases hstored.symm.trans hu
  | lost x hstored =>
    obtain ⟨u, hu⟩ := h.stored x
    cases hstored.symm.trans hu
  | again x hstored =>
    obtain ⟨u, hu⟩ := h.stored x
    cases hstored.symm.trans hu
  | stored => rfl

/-- Linked again, the account is the one it was, but for its password and the times. -/
theorem again (h : Ready sv w a provider r) (outer : Log.Context) :
    let run := sv.run (linkOrCreate sv.site outer a provider) w
    ∃ u', run.1 = .ok (.success u') ∧ u'.id = some r.id ∧
      run.2.session.lasting.accountById r.id = some u' ∧
      u'.toDraft = { (w.tables.user r).toDraft with
        passwordHash := u'.passwordHash, lastLogin := u'.lastLogin, updatedAt := u'.updatedAt } := by
  intro run
  have hsucceeded : Succeeded run.1 := by
    obtain ⟨r₀, w₀, hended, hwrapped⟩ := linkOrCreate_ended sv w outer a provider
    exact hwrapped.succeeded (h.succeeded hended)
  obtain ⟨x, u, s, hexisting, (hrun : run.1 = _), (hsession : run.2.session = _), hstored⟩ :=
    linkOrCreate_stored_of_known sv w outer h.found hsucceeded
  obtain ⟨p, hash, hrandom, hp, hhash⟩ := h.drawn
  cases x.random.symm.trans hrandom
  obtain ⟨r', hash', -, hid, hs, hu, hdraft⟩ :=
    x.relinks h.orderly.working h.orderly.staged h.mem hexisting hp hstored
  rw [h.linked.relinked] at hdraft
  refine ⟨u, hrun, ?_, ?_, ?_⟩
  · rw [hu, ← hid]
    rfl
  · rw [hsession, hu]
    change (s.working.row? r.id).map s.working.user = _
    rw [hs, Tables.row?_replaced h.mem hid]
    rfl
  · rw [hdraft]

end Ready

/-- An account that a linking left behind can be linked again. -/
theorem Done.ready {w₁ : World} {t' : Tables} (h : Done sv w w₁ a provider r t')
    (hsession : w'.session = { lasting := t' }) (hopen : w'.isOpen = true) {around : Surroundings}
    (hredraws : sv.around.Redraws around) : Ready { sv with around } w' a provider r := by
  have htables : w'.tables = t' := by rw [World.tables, hsession]
  have hconfiguration := h.enters.configuration
  refine ⟨hopen, hsession ▸ .of_lasting h.consistent, ?_, ?_, ⟨h.linked.login, h.linked.scope, ?_,
    h.linked.actor, h.linked.fits⟩, ?_, ?_⟩
  · rw [htables, Tables.loginLength_congr hconfiguration]
    exact h.valid
  · rw [htables]
    exact h.enters.mem
  · rw [htables, Tables.resolver_congr hconfiguration]
    exact h.linked.locale
  · rw [htables]
    exact h.emailFree
  · obtain ⟨p, hp⟩ := h.drawn
    rw [htables, Tables.passwordLength_congr hconfiguration]
    exact hredraws _ p hp

/-! ### The account of an identity -/

/-- The active accounts of an identity. -/
def holders (t : Tables) (uid provider : String) : List Row :=
  t.users.filter fun r => r.inScope (scope provider) && r.fields.login = uid

/-- The tables have the account of an identity. -/
def Holds (t : Tables) (uid provider id : String) : Prop := ∃ r ∈ holders t uid provider, r.id = id

variable {t t' : Tables} {uid id : String}

theorem mem_holders : r ∈ holders t uid provider ↔
    r ∈ t.users ∧ r.inScope (scope provider) = true ∧ r.fields.login = uid := by
  simp [holders]

/-- There is one such account at most, since the question for it is always answered. -/
theorem holders_cases (ht : t.Sound) (uid provider : String) :
    holders t uid provider = [] ∨ ∃ r, holders t uid provider = [r] := by
  obtain ⟨found, hanswer, -⟩ := ht.accountByLogin uid (scope provider)
  rw [Tables.accountByLogin, Tables.only] at hanswer
  split at hanswer
  · rename_i hnone
    exact .inl hnone
  · rename_i r hone
    exact .inr ⟨r, hone⟩
  · cases hanswer

theorem length_holders_le (ht : t.Sound) (uid provider : String) :
    (holders t uid provider).length ≤ 1 := by
  rcases holders_cases ht uid provider with h | ⟨r, h⟩ <;> simp [h]

theorem holders_of_mem (ht : t.Sound) (hr : r ∈ holders t uid provider) :
    holders t uid provider = [r] := by
  rcases holders_cases ht uid provider with h | ⟨r', h⟩
  · rw [h] at hr
    cases hr
  · rw [h, List.mem_singleton] at hr
    rw [h, hr]

theorem Holds.ids_eq (h : Holds t uid provider id) (ht : t.Sound) :
    (holders t uid provider).map (·.id) = [id] := by
  obtain ⟨r, hr, rfl⟩ := h
  rw [holders_of_mem ht hr]
  rfl

theorem Holds.congr (h : Holds t uid provider id) (husers : t'.users = t.users) :
    Holds t' uid provider id := by
  rw [Holds, holders, husers]
  exact h

theorem Holds.append (h : Holds t uid provider id) (husers : t'.users = t.users ++ [r]) :
    Holds t' uid provider id := by
  obtain ⟨q, hq, rfl⟩ := h
  obtain ⟨hmem, hq⟩ := mem_holders.mp hq
  exact ⟨q, mem_holders.mpr ⟨husers ▸ List.mem_append_left _ hmem, hq⟩, rfl⟩

theorem Holds.replace (h : Holds t uid provider id)
    (husers : t'.users = t.users.map fun o => if o.id = r.id then r else o) (hne : r.id ≠ id) :
    Holds t' uid provider id := by
  obtain ⟨q, hq, rfl⟩ := h
  obtain ⟨hmem, hq⟩ := mem_holders.mp hq
  refine ⟨q, mem_holders.mpr ⟨?_, hq⟩, rfl⟩
  rw [husers]
  exact List.mem_map.mpr ⟨q, hmem, if_neg hne.symm⟩

/-- The account of an identity stays where it is when a linked account comes into the tables, be it
that very account or another one. -/
theorem Holds.enters (h : Holds t uid provider id) (ht : t.Sound) {b : Assertion}
    {provider' : String} (henters : Enters t b provider' r t')
    (hlinked : Linked sv.site t b provider' r) : Holds t' uid provider id := by
  cases henters with
  | provisioned => exact h.append rfl
  | @relinked r₀ hr₀ hscope₀ hlogin₀ hid =>
    by_cases hsame : r.id = id
    · subst hsame
      obtain ⟨q, hq, hsame⟩ := h
      obtain ⟨hmem, hscope, hlogin⟩ := mem_holders.mp hq
      cases ht.eq_of_id_eq hmem hr₀ (hsame.trans hid)
      -- The identity is the one that was linked: its row is in the scope of both providers.
      have hr : r.inScope (scope provider) = true := by
        obtain ⟨-, -, hdomain⟩ := Row.inScope_eq_true.mp hscope
        obtain ⟨-, -, hdomain₀⟩ := Row.inScope_eq_true.mp hscope₀
        obtain ⟨hactive, htype, hdomain'⟩ := Row.inScope_eq_true.mp hlinked.scope
        exact Row.inScope_eq_true.mpr
          ⟨hactive, htype, hdomain'.trans (hdomain₀.symm.trans hdomain)⟩
      have huid : r.fields.login = uid := hlinked.login.trans (hlogin₀.symm.trans hlogin)
      exact ⟨r, mem_holders.mpr ⟨List.mem_map.mpr ⟨_, hr₀, if_pos hsame⟩, hr, huid⟩, rfl⟩
    · exact h.replace rfl hsame

/-- The account that a linking gives back is the account of the identity. -/
theorem Done.holds {w₁ : World} (h : Done sv w w₁ a provider r t') :
    Holds t' a.uid provider r.id :=
  ⟨r, mem_holders.mpr ⟨h.enters.mem, h.linked.scope, h.linked.login⟩, rfl⟩

/-- What lasts and what is seen have the account of an identity. -/
structure Keeps (s : Session) (uid provider id : String) : Prop where
  lasting : Holds s.lasting uid provider id
  working : Holds s.working uid provider id

theorem Keeps.of_lasting (h : Holds t uid provider id) : Keeps { lasting := t } uid provider id :=
  ⟨h, h⟩

theorem Done.keeps {w₁ : World} {b : Assertion} {provider' : String}
    (h : Done sv w w₁ b provider' r t') (hw : w.session.Orderly)
    (hkeeps : Keeps w.session uid provider id) : Holds t' uid provider id := by
  have hsound : w₁.tables.Sound := (hw.of_left h.left).working.toSound
  refine Holds.enters ?_ hsound h.enters h.linked
  rcases h.left.working with hworking | hworking
  · exact hkeeps.working.congr (congrArg Tables.users hworking)
  · exact hkeeps.lasting.congr (congrArg Tables.users hworking)

end Linking

/-- The operation stores no account as it stands, and registers nobody under an id. -/
def Operation.Spares (id : String) : Operation → Prop
  | .persist _ _ _ => False
  | .registerUser candidate _ _ => candidate.id ≠ some id
  | _ => True

theorem Operation.Spares.worked {op : Operation} {id : String} (h : op.Spares id) : op.Worked := by
  cases op with
  | persist => exact h
  | _ => trivial

/-- **The account of an identity stays where it is**, whatever an operation makes of the accounts
that spares its id. -/
theorem Deed.keeps {op : Operation} {uid provider id : String} (h : Deed sv w w' op)
    (hop : op.Spares id) (hw : w.session.Orderly)
    (hkeeps : Linking.Keeps w.session uid provider id) :
    Linking.Keeps w'.session uid provider id := by
  have hboth : w'.session.lasting = w'.session.working →
      Linking.Holds w'.tables uid provider id → Linking.Keeps w'.session uid provider id :=
    fun hlasting hholds => ⟨hlasting ▸ hholds, hholds⟩
  cases h with
  | unstored h =>
    constructor
    · exact h.lasting.elim hkeeps.lasting.congr hkeeps.working.congr
    · exact h.working.elim hkeeps.working.congr hkeeps.lasting.congr
  | handed husers hlasting => exact hboth hlasting (hkeeps.working.append husers)
  | registered _ husers _ _ hlasting => exact hboth hlasting (hkeeps.working.append husers)
  | overwritten hid husers hlasting =>
    refine hboth hlasting (hkeeps.working.replace husers fun h => hop ?_)
    rw [hid, h]
  | linked h hsession => exact hsession ▸ .of_lasting (h.keeps hw hkeeps)

/-! ### Histories -/

/-- An operation that stores no account as it stands leaves the session orderly, so a history of
such operations does. -/
theorem World.through_orderly {history : List Turn}
    (hhistory : ∀ x ∈ history, x.operation.Worked ∧ x.service.around.PlainHasher)
    (hw : w.session.Orderly) : (w.through history).session.Orderly := by
  induction history generalizing w with
  | nil => exact hw
  | cons x history ih =>
    obtain ⟨⟨hop, hhash⟩, hrest⟩ := List.forall_mem_cons.mp hhistory
    exact ih hrest (x.operation.deed hw hhash x.outer hop).1

/-- A history leaves the account of an identity where it is, if it spares its id. -/
theorem World.through_keeps {history : List Turn} {uid provider id : String}
    (hhistory : ∀ x ∈ history, x.operation.Spares id ∧ x.service.around.PlainHasher)
    (hw : w.session.Orderly) (hkeeps : Linking.Keeps w.session uid provider id) :
    Linking.Keeps (w.through history).session uid provider id := by
  -- By induction on the history, for all states that it may begin in.
  induction history generalizing w with
  | nil => exact hkeeps
  | cons x history ih =>
    obtain ⟨⟨hop, hhash⟩, hrest⟩ := List.forall_mem_cons.mp hhistory
    obtain ⟨horderly, hdeed⟩ := x.operation.deed hw hhash x.outer hop.worked
    exact ih hrest horderly (hdeed.keeps hop hw hkeeps)

/-- **Linking is idempotent.**  From every orderly session, and whatever the workflows did since, an
identity has one active account at most.  If it is linked with success, then linking it again at
once, by the same assertion and under the same configuration, gives the same account, of which
nothing but password and times is changed; and whatever happens in between, short of a registration
under the very id of the account, a later linking of the identity that succeeds gives the account of
the same id, which is the one active account that the identity has. -/
theorem linking_idempotent (sv : Service) (outer : Log.Context) (w : World)
    (hw : w.session.Orderly) (hhash : sv.around.PlainHasher) (a : Assertion) (provider : String) :
    let first := sv.run (Linking.linkOrCreate sv.site outer a provider) w
    (∀ history : List Turn,
      (∀ x ∈ history, x.operation.Worked ∧ x.service.around.PlainHasher) →
        (Linking.holders (w.through history).tables a.uid provider).length ≤ 1) ∧
    (Succeeded first.1 → ∃ (u : User) (id : String),
      first.1 = .ok (.success u) ∧ u.id = some id ∧
      first.2.session.lasting.accountById id = some u ∧
      (∀ (around : Surroundings) (outer' : Log.Context), sv.around.Redraws around →
        let again := Service.run { sv with around }
          (Linking.linkOrCreate sv.site outer' a provider) first.2
        ∃ u' : User, again.1 = .ok (.success u') ∧ u'.id = some id ∧
          again.2.session.lasting.accountById id = some u' ∧
          u'.toDraft = { u.toDraft with
            passwordHash := u'.passwordHash
            lastLogin := u'.lastLogin
            updatedAt := u'.updatedAt }) ∧
      ∀ history : List Turn,
        (∀ x ∈ history, x.operation.Spares id ∧ x.service.around.PlainHasher) →
          let later := first.2.through history
          (Linking.holders later.tables a.uid provider).map (·.id) = [id] ∧
          (Linking.holders later.session.lasting a.uid provider).map (·.id) = [id] ∧
          ∀ (sv' : Service) (outer' : Log.Context) (b : Assertion), sv'.around.PlainHasher →
            b.uid = a.uid →
            let second := sv'.run (Linking.linkOrCreate sv'.site outer' b provider) later
            Succeeded second.1 →
              ∃ u' : User, second.1 = .ok (.success u') ∧ u'.id = some id) := by
  intro first
  refine ⟨fun history h => ?_, fun hsucceeded => ?_⟩
  · exact Linking.length_holders_le (World.through_orderly h hw).working.toSound _ _
  obtain ⟨w₁, r, t', hdone, hsession, hopen, hrun⟩ := Linking.linkOrCreate_linked hw.lasting
    hw.working hw.staged hhash outer a provider hsucceeded
  have horderly : first.2.session.Orderly := hsession ▸ .of_lasting hdone.consistent
  have hkeeps : Linking.Keeps first.2.session a.uid provider r.id :=
    hsession ▸ .of_lasting hdone.holds
  have htables : first.2.tables = t' := by rw [World.tables, hsession]
  refine ⟨t'.user r, r.id, hrun, rfl, ?_, fun around outer' hredraws => ?_, fun history h => ?_⟩
  · rw [hsession, Tables.accountById, hdone.consistent.toSound.row?_of_mem hdone.enters.mem]
    rfl
  · have hready := hdone.ready hsession hopen hredraws
    obtain ⟨u', hrun', hid, hlasting, hdraft⟩ := hready.again outer'
    rw [htables] at hdraft
    exact ⟨u', hrun', hid, hlasting, hdraft⟩
  · intro later
    have horderly' : later.session.Orderly :=
      World.through_orderly (fun x hx => ⟨(h x hx).1.worked, (h x hx).2⟩) horderly
    have hlater : Linking.Keeps later.session a.uid provider r.id :=
      World.through_keeps h horderly hkeeps
    refine ⟨hlater.working.ids_eq horderly'.working.toSound,
      hlater.lasting.ids_eq horderly'.lasting.toSound, fun sv' outer' b hhash' huid => ?_⟩
    intro second hsecond
    obtain ⟨w₂, r', t₂, hdone', -, -, hrun'⟩ := Linking.linkOrCreate_linked horderly'.lasting
      horderly'.working horderly'.staged hhash' outer' b provider hsecond
    refine ⟨t₂.user r', hrun', congrArg some ?_⟩
    -- Both accounts are the one that the identity has after the second linking.
    have hfirst := (hdone'.keeps horderly' hlater).ids_eq hdone'.consistent.toSound
    have hholds := hdone'.holds.ids_eq hdone'.consistent.toSound
    rw [huid, hfirst] at hholds
    exact (List.singleton_injective hholds).symm

/-- Carol is linked, and linked again a year later; then a group comes up that new accounts join,
others are registered and linked, Carol is linked from another provider, and once more from the
first one, with another email. -/
theorem linking_idempotent_between_others :
    let carol : Assertion := { uid := "carol", email := some "carol@x.org", locale := some "de-CH" }
    let renamed : Assertion := { uid := "carol", email := some "carol@y.org" }
    let alice : User := { login := "alice", valid := by decide }
    let sv : Service := .numbered
    let around : Surroundings := { Surroundings.numbered with
      now := { year := 2025, month := 1, day := 1 }, hash := fun p => .ok ("again:" ++ p) }
    let first := sv.run (Linking.linkOrCreate sv.site {} carol "google") {}
    let again := Service.run { sv with around } (Linking.linkOrCreate sv.site {} carol "google")
      first.2
    let history := [.createGroup ⟨"staff", "Staff", none⟩,
      .configure Policy.Key.defaultGroup.name (some "staff") none, .registerUser alice none none,
      .link { uid := "bruno" } "google", .link carol "github"].map
        fun operation => ({ service := sv, operation } : Turn)
    let second := sv.run (Linking.linkOrCreate sv.site {} renamed "google")
      (first.2.through history)
    ∃ (id : String) (u u' u'' : User), first.1 = .ok (.success u) ∧ again.1 = .ok (.success u') ∧
      second.1 = .ok (.success u'') ∧ u.id = some id ∧ u'.id = some id ∧ u''.id = some id ∧
      u'.country = u.country := by
  intro carol renamed alice sv around first again history second
  have hredraws : sv.around.Redraws around := fun length p hp =>
    ⟨p, _, hp, Service.numbered_proper.2 length p hp, rfl⟩
  obtain ⟨-, hfirst⟩ :=
    linking_idempotent sv {} {} .empty Service.numbered_proper.1 carol "google"
  obtain ⟨u, id, hu, hid, -, hagain, hlater⟩ := hfirst (by decide +kernel)
  obtain ⟨u', hu', hid', -, hdraft⟩ := hagain around {} hredraws
  have hspared : ∀ x ∈ history, x.operation.Spares id ∧ x.service.around.PlainHasher := by
    simp [history, Operation.Spares, alice, sv, Service.numbered_proper.1]
  obtain ⟨-, -, hreached⟩ := hlater history hspared
  obtain ⟨u'', hu'', hid''⟩ :=
    hreached sv {} renamed Service.numbered_proper.1 rfl (by decide +kernel)
  exact ⟨id, u, u', u'', hu, hu', hu'', hid, hid', hid'', by rw [hdraft]⟩

end Enrollment
