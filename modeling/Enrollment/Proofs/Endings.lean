/-
How the workflows end.

A workflow asks and draws in silence until it stores an account; what happens then is decided by
how storing ends.  `Registration.Ended` and `Linking.Ended` list the endings, each with what is
known of the state that it began in, and every later statement about a workflow is a case analysis
over them.

* `Registration.steps_ended`, `Linking.steps_ended` — no run ends in another way;
* `Wrapped`, `registerUser_ended`, `linkOrCreate_ended` — what the workflow that people call makes
  of an ending: a failure that is not yet in its own words is rolled back first.
-/
import Enrollment.Proofs.Answers
import Enrollment.Proofs.Stages
import Enrollment.Proofs.Storing

namespace Enrollment

open Directory

variable {α β : Type} {sv : Service} {w w' : World}

/-! ### Drafts with the same keys -/

/-- Two drafts agree on the account they describe and on its keys. -/
structure Draft.SameKeys (d d' : Draft) : Prop where
  id : d'.id = d.id
  login : d'.login = d.login
  type : d'.type = d.type
  domain : d'.domain = d.domain
  email : d'.email = d.email
  deleted : d'.deleted = d.deleted

namespace Draft.SameKeys

variable {d d' d'' : Draft}

theorem trans (h : SameKeys d d') (h' : SameKeys d' d'') : SameKeys d d'' :=
  ⟨h'.id.trans h.id, h'.login.trans h.login, h'.type.trans h.type, h'.domain.trans h.domain,
    h'.email.trans h.email, h'.deleted.trans h.deleted⟩

theorem join (d : Draft) (g : Option Group) : SameKeys d (d.join g) := by
  cases g with
  | none => exact ⟨rfl, rfl, rfl, rfl, rfl, rfl⟩
  | some g =>
    rw [Draft.join, Draft.addGroup]
    split <;> exact ⟨rfl, rfl, rfl, rfl, rfl, rfl⟩

theorem withLocale (d : Draft) (locale : Option (Int × Option String)) :
    SameKeys d (Linking.withLocale d locale) := by
  cases locale <;> exact ⟨rfl, rfl, rfl, rfl, rfl, rfl⟩

end Draft.SameKeys

/-! ### Storing from within a workflow -/

theorem Draft.build_eq_ok {d : Draft} {u : User} : d.build = .ok u ↔ u.toDraft = d := by
  rw [Draft.build]
  split
  · refine ⟨fun h => ?_, fun h => ?_⟩
    · cases h
      rfl
    · subst h
      rfl
  · rename_i hd
    refine ⟨fun h => (nomatch h), fun h => absurd u.valid ?_⟩
    rwa [h]

theorem Draft.build_eq_error {d : Draft} {e : Failure} (h : d.build = .error e) :
    e = .domainRequired := by
  rw [Draft.build] at h
  split at h
  · cases h
  · cases h
    rfl

theorem World.step_of_open {f : Session → Except Failure α × Session} (hw : w.isOpen = true) :
    w.step f = ((f w.session).1, { w with session := (f w.session).2 }) := by
  rw [World.step, if_pos hw]

theorem World.step_of_closed {f : Session → Except Failure α × Session} (hw : w.isOpen = false) :
    w.step f = (.error .storageClosed, w) := by
  rw [World.step, if_neg (by simp [hw])]

/-- A failure that is neither in the words of a workflow nor a lost write. -/
def Failure.Plain (e : Failure) : Prop :=
  e.isCollaborator = false ∧ ∀ field message, e ≠ .duplicate field message

/-- A password that cannot be hashed is reported as a failure of the hasher: neither as one that a
workflow has put into its words, nor as a write that was lost. -/
def Surroundings.PlainHasher (around : Surroundings) : Prop :=
  ∀ password e, around.hash password = .error e → e.Plain

namespace Service

variable {u stored : User} {password actor : Option String}

theorem persist_of_open (hw : w.isOpen = true) :
    (sv.persist w u password actor).1 = (w.session.persist (sv.clerk w) u password actor).1 ∧
      (sv.persist w u password actor).2.session =
        (w.session.persist (sv.clerk w) u password actor).2 := by
  rw [persist, World.step_of_open hw]
  exact ⟨rfl, rfl⟩

theorem persist_of_closed (hw : w.isOpen = false) :
    (sv.persist w u password actor).1 = .error .storageClosed ∧
      (sv.persist w u password actor).2.session = w.session := by
  rw [persist, World.step_of_closed hw]
  exact ⟨rfl, rfl⟩

theorem persist_isOpen (sv : Service) (w : World) (u : User) (password actor : Option String) :
    (sv.persist w u password actor).2.isOpen = w.isOpen := by
  rw [persist]
  cases hw : w.isOpen with
  | true => simp [World.step_of_open hw, hw]
  | false => simp [World.step_of_closed hw, hw]

/-- No call opens or closes the storage. -/
theorem answer_isOpen (sv : Service) (c : Call) (w : World) :
    (sv.answer c w).2.isOpen = w.isOpen := by
  by_cases hc : c.Silent
  · exact (sv.answer_sameStorage hc w).isOpen
  · cases c with
    | persist user password actor => exact sv.persist_isOpen w user password actor
    | commit =>
      change w.commit.2.isOpen = w.isOpen
      rw [World.commit, World.step]
      split
      · rfl
      · rfl
    | rollback => rfl
    | _ => exact absurd trivial hc

theorem run_isOpen (sv : Service) (p : Program α) (w : World) : (sv.run p w).2.isOpen = w.isOpen :=
  p.run_keeps (I := fun w' => w'.isOpen = w.isOpen)
    (fun c w' h => (sv.answer_isOpen c w').trans h) w rfl

/-- An account that has been stored has an id, and can be committed. -/
theorem persist_eq_ok (h : (sv.persist w u password actor).1 = .ok stored) :
    w.isOpen = true ∧ (sv.persist w u password actor).2.session.staged = [] ∧
      stored.id.isSome = true := by
  cases hw : w.isOpen with
  | false =>
    rw [(persist_of_closed hw).1] at h
    cases h
  | true =>
    rw [(persist_of_open hw).1] at h
    rw [(persist_of_open hw).2]
    exact ⟨rfl, (Session.persist_eq_ok h).flushed⟩

/-- What the tables decide on an account that can be stored is what storing it comes to. -/
theorem persist_decided (hw : w.isOpen = true) (hs : w.session.staged = [])
    (h : Session.Storable w.tables (sv.clerk w) u password) (actor : Option String) :
    Session.Decided w.tables (sv.clerk w) u (sv.persist w u password actor).1 := by
  rw [(persist_of_open hw).1]
  exact Session.persist_decided hs h actor

/-- A lost write could be stored, and has been dropped. -/
theorem persist_eq_duplicate (hs : w.session.staged = []) (hhash : sv.around.PlainHasher)
    {field message : String}
    (h : (sv.persist w u password actor).1 = .error (.duplicate field message)) :
    w.isOpen = true ∧ Session.Storable w.tables (sv.clerk w) u password ∧
      (sv.persist w u password actor).2.session = w.session.rollback := by
  cases hw : w.isOpen with
  | false =>
    rw [(persist_of_closed hw).1] at h
    cases h
  | true =>
    rw [(persist_of_open hw).1] at h
    rw [(persist_of_open hw).2]
    exact ⟨rfl, Session.persist_eq_duplicate hs (fun p e he => (hhash p e he).2) h⟩

end Service

theorem World.commit_of_flushed (hw : w.isOpen = true) (hs : w.session.staged = []) :
    w.commit = (.ok (), { w with session := { w.session with lasting := w.session.working } }) := by
  rw [World.commit, if_pos hw, World.step_of_open hw, Session.commit_of_flushed hs]

/-- An account that has been stored and committed is lasting, with all that was staged before it. -/
theorem Service.persist_commit {u stored : User} {password actor : Option String}
    (h : (sv.persist w u password actor).1 = .ok stored)
    (hw : World.SameStorage (sv.persist w u password actor).2.commit.2 w') :
    ∃ s, Session.Stored w.session (sv.clerk w) u password actor stored s ∧
      w'.session = { s with lasting := s.working } := by
  obtain ⟨hopen, hflushed, -⟩ := persist_eq_ok h
  have hopen' : (sv.persist w u password actor).2.isOpen = true :=
    (sv.persist_isOpen w u password actor).trans hopen
  rw [hw.session, World.commit_of_flushed hopen' hflushed, (persist_of_open hopen).2]
  rw [(persist_of_open hopen).1] at h
  exact ⟨_, Session.persist_eq_ok h, rfl⟩

namespace Program

/-- A workflow that stores an account goes on with the result, whatever it is. -/
theorem leads_persist_bind {u : User} {password actor : Option String}
    {k : Except Failure (Option User) → Program β} {Q : Except Failure β → World → Prop}
    (hk : (k ((sv.persist w u password actor).1.map some)).Leads sv.answer
      (sv.persist w u password actor).2 Q) :
    ((Program.persist u password actor).outcome >>= k).Leads sv.answer w Q := by
  rw [Leads, run_bind, run_outcome, Program.persist, run_perform]
  exact hk

theorem leads_ofExcept_bind {r : Except Failure α} {k : α → Program β}
    {Q : Except Failure β → World → Prop} (hok : ∀ a, r = .ok a → (k a).Leads sv.answer w Q)
    (herror : ∀ e, r = .error e → Q (.error e) w) : (ofExcept r >>= k).Leads sv.answer w Q := by
  cases r with
  | ok a => exact hok a rfl
  | error e => exact herror e rfl

theorem leads_rollback_bind {k : Unit → Program β} {Q : Except Failure β → World → Prop}
    (hk : (k ()).Leads sv.answer w.rollback Q) : (rollback >>= k).Leads sv.answer w Q := hk

theorem leads_commit_bind {k : Unit → Program β} {Q : Except Failure β → World → Prop}
    (hw : w.isOpen = true) (hs : w.session.staged = [])
    (hk : (k ()).Leads sv.answer w.commit.2 Q) : (commit >>= k).Leads sv.answer w Q := by
  have hcommit : (sv.answer .commit w).1 = .ok () := by
    change w.commit.1 = _
    rw [World.commit_of_flushed hw hs]
  refine (leads_perform (Q := fun r w' => r = .ok () ∧ w' = w.commit.2) (c := .commit)).mpr
    ⟨hcommit, rfl⟩ |>.bind ?_ ?_
  · rintro ⟨⟩ w' ⟨-, rfl⟩
    exact hk
  · rintro e w' ⟨h, -⟩
    cases h

end Program

/-- What a workflow makes of how its steps ended: a failure that is not in its own words yet is put
into them, after a rollback. -/
inductive Wrapped : Except Failure Outcome → World → Except Failure Outcome → World → Prop where
  | ok {w : World} (o : Outcome) : Wrapped (.ok o) w (.ok o) w
  | passed {w : World} {e : Failure} (he : e.isCollaborator = true) :
    Wrapped (.error e) w (.error e) w
  | caused {w w' : World} {e : Failure} (message : String) (he : e.isCollaborator = false)
      (hw : World.SameStorage w.rollback w') :
    Wrapped (.error e) w (.error (.caused message e)) w'

/-- A workflow comes to what its steps came to, unless they failed. -/
theorem Wrapped.eq_ok_iff {r₀ r : Except Failure Outcome} (h : Wrapped r₀ w r w') {o : Outcome} :
    r = .ok o ↔ r₀ = .ok o := by
  cases h with
  | ok => exact Iff.rfl
  | passed => exact Iff.rfl
  | caused => exact iff_of_false (fun h => nomatch h) (fun h => nomatch h)

/-- A run has come to an account that can be used. -/
def Succeeded : Except Failure Outcome → Prop
  | .ok o => o.ok = true
  | .error _ => False

instance : DecidablePred Succeeded
  | .ok o => inferInstanceAs (Decidable (o.ok = true))
  | .error _ => inferInstanceAs (Decidable False)

/-- A workflow that succeeded has nothing to add to its steps. -/
theorem Wrapped.of_succeeded {r₀ r : Except Failure Outcome} (h : Wrapped r₀ w r w')
    (hr : Succeeded r) : ∃ o, r = .ok o ∧ o.ok = true ∧ r₀ = .ok o ∧ w = w' := by
  cases h with
  | ok o => exact ⟨o, rfl, hr, rfl, rfl⟩
  | passed => exact hr.elim
  | caused => exact hr.elim

theorem recover_wrapped {p : Program Outcome} {R : Except Failure Outcome → World → Prop}
    (hp : p.Leads sv.answer w R) (bound : Log.Context) (event purpose : String) :
    (p.recover (Registration.wrapFailure bound event purpose)).Leads sv.answer w
      fun r w' => ∃ r₀ w₀, R r₀ w₀ ∧ Wrapped r₀ w₀ r w' := by
  refine hp.recover (fun o w₀ h => ⟨_, _, h, .ok o⟩) (fun e w₀ h => ?_)
  rw [Registration.wrapFailure]
  by_cases he : e.isCollaborator = true
  · rw [if_pos he]
    exact ⟨_, _, h, .passed he⟩
  · rw [if_neg he]
    refine Program.leads_rollback_bind (Program.leads_log_bind _ _ fun w' hw' => ?_)
    exact ⟨_, _, h, .caused _ (by simpa using he) hw'⟩

/-! ### Registration -/

namespace Registration

variable {candidate : User} {password token : Option String}

/-- Where a candidate has to be unique: an integration's accounts are external. -/
def scopeOf (candidate : User) : Scope := ⟨storedType candidate, candidate.domain⟩

/-- An account on its way to the storage, after login and email were found to be free. -/
structure Attempt (sv : Service) (w : World) (candidate : User) (token : Option String) where
  /-- The state in which the account is to be stored. -/
  before : World
  account : User
  /-- The activation token: the given one, or a fresh one. -/
  drawn : String
  same : World.SameStorage w before
  isOpen : w.isOpen = true
  long : Login.isLongEnough (w.tables.loginLength sv.site.settings) candidate.login = true
  loginFree : w.tables.loginFree candidate.login (scopeOf candidate) none = true
  emailFree : w.tables.emailFree candidate.email (scopeOf candidate) none = true
  given : ∀ t ∈ token.filter (· ≠ ""), drawn = t
  fresh : token.filter (· ≠ "") = none → ∃ n, drawn = sv.around.token n
  draft : account.toDraft =
    toStore candidate drawn (w.tables.confirmationRequired sv.site.settings)

/-- What storing the account comes to. -/
def Attempt.stored (x : Attempt sv w candidate token) (password : Option String) :
    Except Failure User × World :=
  sv.persist x.before x.account (password.filter (· ≠ "")) none

/-- What is stored has the candidate's keys, in the scope where they were found to be free. -/
theorem toStore_sameKeys (candidate : User) (token : String) (confirm : Bool) :
    Draft.SameKeys { candidate.toDraft with type := storedType candidate }
      (toStore candidate token confirm) := by
  cases confirm <;> exact ⟨rfl, rfl, rfl, rfl, rfl, rfl⟩

/-- How the steps of a registration can end. -/
inductive Ended (sv : Service) (w : World) (candidate : User) (password token : Option String) :
    Except Failure Outcome → World → Prop where
  | closed {w' : World} (hw : World.SameStorage w w') (hclosed : w.isOpen = false) :
    Ended sv w candidate password token (.error .storageClosed) w'
  | tooShort {w' : World} (hw : World.SameStorage w w')
      (hlong : Login.isLongEnough (w.tables.loginLength sv.site.settings) candidate.login = false) :
    Ended sv w candidate password token (.ok (.reject .loginTooShort)) w'
  | loginInUse {w' : World} (hw : World.SameStorage w w') (hopen : w.isOpen = true)
      (hlong : Login.isLongEnough (w.tables.loginLength sv.site.settings) candidate.login = true)
      (htaken : w.tables.loginFree candidate.login (scopeOf candidate) none = false) :
    Ended sv w candidate password token (.ok (.reject .loginInUse)) w'
  | emailInUse {w' : World} (hw : World.SameStorage w w') (hopen : w.isOpen = true)
      (hlong : Login.isLongEnough (w.tables.loginLength sv.site.settings) candidate.login = true)
      (hlogin : w.tables.loginFree candidate.login (scopeOf candidate) none = true)
      (htaken : w.tables.emailFree candidate.email (scopeOf candidate) none = false) :
    Ended sv w candidate password token (.ok (.reject .emailInUse)) w'
  /-- The write collided on a key. -/
  | lost {w' : World} (x : Attempt sv w candidate token) {field message : String}
      (hstored : (x.stored password).1 = .error (.duplicate field message))
      (hw : World.SameStorage (x.stored password).2 w') :
    Ended sv w candidate password token (.ok (.reject (lostTo field))) w'
  /-- The account could not be stored for another reason. -/
  | refused (x : Attempt sv w candidate token) {e : Failure}
      (hstored : (x.stored password).1 = .error e)
      (he : ∀ field message, e ≠ .duplicate field message) :
    Ended sv w candidate password token (.error e) (x.stored password).2
  /-- The account has been stored and committed. -/
  | stored {w' : World} (x : Attempt sv w candidate token) {u : User} {problem : Option String}
      (hstored : (x.stored password).1 = .ok u)
      (hw : World.SameStorage (x.stored password).2.commit.2 w') :
    Ended sv w candidate password token (.ok { user := some u, notificationError := problem }) w'

/-- An account that has been stored is committed, and nothing after that undoes it. -/
theorem complete_leads (bound : Log.Context) (drawn : String) (confirm : Bool)
    (x : Attempt sv w candidate token) {u : User} (hstored : (x.stored password).1 = .ok u) :
    (complete bound candidate drawn confirm (some u)).Leads sv.answer (x.stored password).2
      (Ended sv w candidate password token) := by
  obtain ⟨hopen, hflushed, hid⟩ := Service.persist_eq_ok hstored
  have hopen' : (x.stored password).2.isOpen = true :=
    (sv.persist_isOpen _ _ _ _).trans hopen
  rw [complete, if_neg (by simp [Option.isSome_iff_ne_none.mp hid])]
  refine Program.leads_commit_bind hopen' hflushed (Program.leads_log_bind _ _ fun w₁ hw₁ => ?_)
  by_cases hdue : emailDue candidate = true
  · rw [if_pos hdue]
    refine (Program.leads_sendNotice bound u drawn confirm w₁).bind ?_ ?_
    · rintro problem w₂ ⟨hw₂, -⟩
      exact .stored x hstored (hw₁.trans hw₂)
    · rintro e w₂ ⟨-, problem, he⟩
      cases he
  · rw [if_neg hdue]
    exact .stored x hstored hw₁

/-- A candidate can be built with the type it is to be stored with. -/
theorem toStore_valid (candidate : User) (token : String) (confirm : Bool) :
    (toStore candidate token confirm).Valid := by
  have h : storedType candidate = .oauth → given candidate.domain = true := by
    intro h
    rw [storedType] at h
    split at h
    · cases h
    · exact candidate.valid h
  cases confirm <;> exact h

/-- How storing the account ends, the run ends. -/
theorem Attempt.ended (x : Attempt sv w candidate token) (bound : Log.Context) (drawn : String)
    (confirm : Bool) :
    ((Program.persist x.account (password.filter (· ≠ "")) none).outcome >>=
      answered bound candidate drawn confirm).Leads sv.answer x.before
        (Ended sv w candidate password token) := by
  refine Program.leads_persist_bind ?_
  change Program.Leads _ (answered bound candidate drawn confirm ((x.stored password).1.map some))
    (x.stored password).2 _
  cases hstored : (x.stored password).1 with
  | ok u => exact complete_leads bound drawn confirm x hstored
  | error e =>
    cases e with
    | duplicate field message =>
      exact Program.leads_log_bind _ _ fun w' hw' => .lost x hstored hw'
    | _ => exact .refused x hstored fun _ _ h => nomatch h

/-- However the token was come by, the rest of the run is the same. -/
theorem storeAs_ended (bound : Log.Context) {token : Option String} {drawn : String} {w₁ : World}
    (given : ∀ t ∈ token.filter (· ≠ ""), drawn = t)
    (fresh : token.filter (· ≠ "") = none → ∃ n, drawn = sv.around.token n)
    (same : World.SameStorage w w₁) (isOpen : w.isOpen = true)
    (long : Login.isLongEnough (w.tables.loginLength sv.site.settings) candidate.login = true)
    (loginFree : w.tables.loginFree candidate.login (scopeOf candidate) none = true)
    (emailFree : w.tables.emailFree candidate.email (scopeOf candidate) none = true) :
    (storeAs sv.site bound candidate password drawn).Leads sv.answer w₁
      (Ended sv w candidate password token) := by
  have hopen : w₁.isOpen = true := same.isOpen.trans isOpen
  refine (Program.answers_confirmationRequired sv.site bound).leads_bind_ok ?_ ?_
  · intro w₂ hw₂ _
    refine Program.leads_ofExcept_bind (fun user huser => ?_) (fun e he => ?_)
    · rw [same.tables] at huser
      exact Attempt.ended ⟨w₂, user, drawn, same.trans hw₂, isOpen, long, loginFree, emailFree,
        given, fresh, Draft.build_eq_ok.mp huser⟩ bound drawn _
    · rw [Draft.build, dif_pos (toStore_valid candidate drawn _)] at he
      cases he
  · intro w₂ _ hclosed
    rw [hopen] at hclosed
    cases hclosed

theorem store_ended (bound : Log.Context) (token : Option String) {w₁ : World}
    (same : World.SameStorage w w₁) (isOpen : w.isOpen = true)
    (long : Login.isLongEnough (w.tables.loginLength sv.site.settings) candidate.login = true)
    (loginFree : w.tables.loginFree candidate.login (scopeOf candidate) none = true)
    (emailFree : w.tables.emailFree candidate.email (scopeOf candidate) none = true) :
    (store sv.site bound candidate password token).Leads sv.answer w₁
      (Ended sv w candidate password token) := by
  rw [store_eq]
  split
  · rename_i drawn hdrawn
    refine storeAs_ended bound (fun t ht => ?_) (fun hnone => ?_) same isOpen long loginFree emailFree
    · rw [hdrawn] at ht
      exact Option.some.inj ht
    · rw [hdrawn] at hnone
      cases hnone
  · rename_i hnone
    refine Program.leads_freshToken_bind fun w₂ hw₂ => ?_
    refine storeAs_ended bound (fun t ht => ?_) (fun _ => ⟨_, rfl⟩) (same.trans hw₂) isOpen long
      loginFree emailFree
    rw [hnone] at ht
    cases ht

theorem turnDown_leads (bound : Log.Context) (reason : String) (r : Rejection) {w₁ : World}
    {Q : Except Failure Outcome → World → Prop}
    (hQ : ∀ w', World.SameStorage w₁ w' → Q (.ok (.reject r)) w') :
    (turnDown bound reason r).Leads sv.answer w₁ Q :=
  Program.leads_log_bind _ _ fun w' hw' => hQ w' hw'

/-- **Every run of the steps of a registration** ends in one of the listed ways. -/
theorem steps_ended (bound : Log.Context) (token : Option String) {w₁ : World}
    (same : World.SameStorage w w₁) :
    (steps sv.site bound candidate password token).Leads sv.answer w₁
      (Ended sv w candidate password token) := by
  have hclosed : ∀ w₂ w', World.SameStorage w w₂ → World.SameStorage w₂ w' →
      w₂.isOpen = false → Ended sv w candidate password token (.error .storageClosed) w' :=
    fun w₂ w' hw₂ hw' h => .closed (hw₂.trans hw') (hw₂.isOpen ▸ h)
  rw [steps]
  refine (Program.answers_loginLength _ bound).leads_bind_ok (fun w₂ hw₂ hopen => ?_)
    (hclosed w₁ · same)
  have same₂ := same.trans hw₂
  have hopen₁ : w.isOpen = true := same.isOpen ▸ hopen
  rw [same.tables]
  by_cases hlong : Login.isLongEnough (w.tables.loginLength sv.site.settings) candidate.login = true
  · rw [if_neg (by simp [hlong])]
    refine (Program.answers_loginFree _ _ _).leads_bind_ok (fun w₃ hw₃ _ => ?_)
      (hclosed w₂ · same₂)
    have same₃ := same₂.trans hw₃
    refine (Program.answers_emailFree _ _ _).leads_bind_ok (fun w₄ hw₄ _ => ?_)
      (hclosed w₃ · same₃)
    have same₄ := same₃.trans hw₄
    rw [same₂.tables, same₃.tables]
    by_cases hlogin : w.tables.loginFree candidate.login (scopeOf candidate) none = true
    · rw [if_neg (by simpa [scopeOf] using hlogin)]
      by_cases hemail : w.tables.emailFree candidate.email (scopeOf candidate) none = true
      · rw [if_neg (by simpa [scopeOf] using hemail)]
        exact store_ended bound token same₄ hopen₁ hlong hlogin hemail
      · rw [if_pos (by simpa [scopeOf] using hemail)]
        exact turnDown_leads _ _ _ fun w' hw' =>
          .emailInUse (same₄.trans hw') hopen₁ hlong hlogin (by simpa using hemail)
    · rw [if_pos (by simpa [scopeOf] using hlogin)]
      exact turnDown_leads _ _ _ fun w' hw' =>
        .loginInUse (same₄.trans hw') hopen₁ hlong (by simpa using hlogin)
  · rw [if_pos (by simpa using hlong)]
    exact turnDown_leads _ _ _ fun w' hw' => .tooShort (same₂.trans hw') (by simpa using hlong)

theorem registerUser_ended_of_same (outer : Log.Context) (candidate : User)
    (password token : Option String) {w₁ : World} (same : World.SameStorage w w₁) :
    (registerUser sv.site outer candidate password token).Leads sv.answer w₁ fun r w' =>
      ∃ r₀ w₀, Ended sv w candidate password token r₀ w₀ ∧ Wrapped r₀ w₀ r w' :=
  Program.leads_within _ _ _ fun bound _ hw =>
    recover_wrapped (steps_ended bound token (same.trans hw)) _ _ _

theorem registerUser_ended (sv : Service) (w : World) (outer : Log.Context) (candidate : User)
    (password token : Option String) :
    (registerUser sv.site outer candidate password token).Leads sv.answer w fun r w' =>
      ∃ r₀ w₀, Ended sv w candidate password token r₀ w₀ ∧ Wrapped r₀ w₀ r w' :=
  registerUser_ended_of_same outer candidate password token (.refl w)

/-! ### Registrations that succeed -/

/-- A registration that produced an account has not closed the storage. -/
theorem Ended.isOpen_of_ok {o : Outcome} (h : Ended sv w candidate password token (.ok o) w')
    (ho : o.ok = true) : w'.isOpen = true := by
  cases h with
  | stored x hstored hw' =>
    obtain ⟨hopen, hflushed, -⟩ := Service.persist_eq_ok hstored
    have hopen' : (x.stored password).2.isOpen = true :=
      (sv.persist_isOpen _ _ _ _).trans hopen
    rw [hw'.isOpen, World.commit_of_flushed hopen' hflushed]
    exact hopen'
  | _ => cases ho

/-- An account that has been stored and committed is lasting. -/
theorem Attempt.commit (x : Attempt sv w candidate token) {u : User}
    (hstored : (x.stored password).1 = .ok u)
    (hw : World.SameStorage (x.stored password).2.commit.2 w') :
    ∃ s, Session.Stored w.session (sv.clerk w) x.account (password.filter (· ≠ "")) none u s ∧
      w'.session = { s with lasting := s.working } := by
  obtain ⟨s, hs, hsession⟩ := Service.persist_commit hstored hw
  rw [x.same.session, x.same.clerk sv] at hs
  exact ⟨s, hs, hsession⟩

/-- The account of a registration that succeeded has been stored, and is lasting. -/
theorem Ended.stored_of_ok {o : Outcome} (h : Ended sv w candidate password token (.ok o) w')
    (ho : o.ok = true) :
    ∃ (x : Attempt sv w candidate token) (u : User) (s : Session),
      o.user = some u ∧ w'.session = { s with lasting := s.working } ∧
        Session.Stored w.session (sv.clerk w) x.account (password.filter (· ≠ "")) none u s := by
  cases h with
  | stored x hstored hw' =>
    obtain ⟨s, hs, hsession⟩ := x.commit hstored hw'
    exact ⟨x, _, s, rfl, hsession, hs⟩
  | _ => cases ho

end Registration

/-! ### Linking -/

namespace Linking

variable {a : Assertion} {provider : String}

/-- The account that an assertion is linked to: the existing one or a new one, with its locale and
its last login brought up to date. -/
def draftFor (site : Installation) (t : Tables) (a : Assertion) (provider : String)
    (existing : Option User) (group : Option Group) (now : Timestamp) : Draft :=
  let new := newDraft a provider ((t.resolver site).resolve none none) group
  { withLocale (existing.elim new (·.toDraft)) ((t.resolver site).resolveTag? a.locale) with
    lastLogin := some now }

/-- A new account has the keys of the assertion, an existing one its own. -/
theorem base_sameKeys (a : Assertion) (provider : String) (existing : Option User)
    (defaults : Locale.Resolved) (group : Option Group) :
    Draft.SameKeys
      (existing.elim
        { login := a.uid, type := .oauth, domain := some provider, email := a.email } (·.toDraft))
      (existing.elim (newDraft a provider defaults group) (·.toDraft)) := by
  cases existing with
  | some u => exact ⟨rfl, rfl, rfl, rfl, rfl, rfl⟩
  | none =>
    refine Draft.SameKeys.trans ?_ (Draft.SameKeys.join _ group)
    exact ⟨rfl, rfl, rfl, rfl, rfl, rfl⟩

theorem stamped_sameKeys (d : Draft) (tag : Option (Int × Option String)) (now : Timestamp) :
    Draft.SameKeys d { withLocale d tag with lastLogin := some now } :=
  (Draft.SameKeys.withLocale d tag).trans ⟨rfl, rfl, rfl, rfl, rfl, rfl⟩

/-- Linking changes no key: a new account has those of the assertion, an existing one its own. -/
theorem draftFor_sameKeys (site : Installation) (t : Tables) (a : Assertion) (provider : String)
    (existing : Option User) (group : Option Group) (now : Timestamp) :
    Draft.SameKeys
      (existing.elim
        { login := a.uid, type := .oauth, domain := some provider, email := a.email } (·.toDraft))
      (draftFor site t a provider existing group now) :=
  (base_sameKeys a provider existing _ group).trans (stamped_sameKeys _ _ now)

/-- An account on its way to the storage, after the email was found to be free. -/
structure Attempt (sv : Service) (w : World) (a : Assertion) (provider : String) where
  /-- The state in which the account is to be stored. -/
  before : World
  existing : Option User
  /-- The group that a new account joins. -/
  group : Option Group
  account : User
  password : String
  same : World.SameStorage w before
  isOpen : w.isOpen = true
  login : Login.isValid (w.tables.loginLength sv.site.settings) a.uid = true
  found : w.tables.accountByLogin a.uid (scope provider) = .ok existing
  emailFree : w.tables.emailFree a.email (scope provider) (existing.bind fun u => u.id) = true
  joined : existing = none → w.tables.defaultGroup sv.site.settings = .ok group
  random : sv.around.randomPassword (w.tables.passwordLength sv.site.settings) = .ok password
  draft : account.toDraft =
    draftFor sv.site w.tables a provider existing group sv.around.now

/-- What storing the account comes to. -/
def Attempt.stored (x : Attempt sv w a provider) : Except Failure User × World :=
  sv.persist x.before x.account (some x.password) (some systemActor)

/-- Why an account may not even be put together, its email being free. -/
inductive Hindered (sv : Service) (t : Tables) (existing : Option User) : Failure → Prop where
  /-- The configured default group does not exist. -/
  | group {e : Failure} (hnew : existing = none) (hgroup : t.defaultGroup sv.site.settings = .error e) :
    Hindered sv t existing e
  | password {e : Failure}
      (hrandom : sv.around.randomPassword (t.passwordLength sv.site.settings) = .error e) :
    Hindered sv t existing e
  /-- The provider of a new account has no name. -/
  | domain (hnew : existing = none) : Hindered sv t existing .domainRequired

/-- How the steps of linking can end. -/
inductive Ended (sv : Service) (a : Assertion) (provider : String) :
    World → Except Failure Outcome → World → Prop where
  | closed {w w' : World} (hw : World.SameStorage w w') (hclosed : w.isOpen = false) :
    Ended sv a provider w (.error .storageClosed) w'
  | invalidLogin {w w' : World} (hw : World.SameStorage w w')
      (hlogin : Login.isValid (w.tables.loginLength sv.site.settings) a.uid = false) :
    Ended sv a provider w (.ok (.reject .invalidLogin)) w'
  /-- There is more than one account of the login. -/
  | unanswered {w w' : World} {e : Failure} (hw : World.SameStorage w w')
      (hfound : w.tables.accountByLogin a.uid (scope provider) = .error e) :
    Ended sv a provider w (.error e) w'
  | emailConflict {w w' : World} {existing : Option User} (hw : World.SameStorage w w')
      (hfound : w.tables.accountByLogin a.uid (scope provider) = .ok existing)
      (htaken : w.tables.emailFree a.email (scope provider) (existing.bind fun u => u.id) = false) :
    Ended sv a provider w (.ok (.reject .emailConflict)) w'
  | hindered {w w' : World} {e : Failure} {existing : Option User} (hw : World.SameStorage w w')
      (hfound : w.tables.accountByLogin a.uid (scope provider) = .ok existing)
      (hfree : w.tables.emailFree a.email (scope provider) (existing.bind fun u => u.id) = true)
      (he : Hindered sv w.tables existing e) : Ended sv a provider w (.error e) w'
  /-- The account could not be stored, for another reason than a key. -/
  | refused {w : World} (x : Attempt sv w a provider) {e : Failure}
      (hstored : x.stored.1 = .error e) (he : ∀ field message, e ≠ .duplicate field message) :
    Ended sv a provider w (.error e) x.stored.2
  /-- The write collided on a key, and nothing is tried any more. -/
  | lost {w : World} (x : Attempt sv w a provider) {field message message' : String}
      (hstored : x.stored.1 = .error (.duplicate field message)) :
    Ended sv a provider w (.error (.caused message' (.duplicate field message))) x.stored.2
  /-- The write of a new account collided on a key, and the steps were taken once more. -/
  | again {w w₁ w' : World} {r : Except Failure Outcome} (x : Attempt sv w a provider)
      {field message : String} (hstored : x.stored.1 = .error (.duplicate field message))
      (hnew : x.existing = none) (hw : World.SameStorage x.stored.2 w₁)
      (rest : Ended sv a provider w₁ r w') : Ended sv a provider w r w'
  /-- The account has been stored and committed. -/
  | stored {w w' : World} (x : Attempt sv w a provider) {u : User} (hstored : x.stored.1 = .ok u)
      (hw : World.SameStorage x.stored.2.commit.2 w') :
    Ended sv a provider w (.ok (.success u)) w'

theorem complete_leads (bound : Log.Context) (created : Bool) (x : Attempt sv w a provider)
    {u : User} (hstored : x.stored.1 = .ok u) :
    (complete bound created (some u)).Leads sv.answer x.stored.2 (Ended sv a provider w) := by
  obtain ⟨hopen, hflushed, -⟩ := Service.persist_eq_ok hstored
  have hopen' : x.stored.2.isOpen = true := (sv.persist_isOpen _ _ _ _).trans hopen
  rw [complete]
  refine Program.leads_commit_bind hopen' hflushed (Program.leads_log_bind _ _ fun w' hw' => ?_)
  exact .stored x hstored hw'

/-- How storing the account fails, the run ends, unless what may be tried again is `Ended`. -/
theorem afterFailure_leads (bound : Log.Context) (x : Attempt sv w a provider) {e : Failure}
    (hstored : x.stored.1 = .error e) {again : Option (Program Outcome)}
    (hagain : ∀ p ∈ again, ∀ w₁, p.Leads sv.answer w₁ (Ended sv a provider w₁)) :
    (afterFailure bound a x.existing.isNone again e).Leads sv.answer x.stored.2
      (Ended sv a provider w) := by
  unfold afterFailure
  split
  · rename_i field message p hnew
    refine Program.leads_log_bind _ _ fun w₁ hw₁ => ?_
    refine (hagain p rfl w₁).mono fun r w' h => ?_
    exact .again x hstored (by simpa using hnew) hw₁ h
  · exact .lost x hstored
  · rename_i hne _
    exact .refused x hstored fun field message h => hne field message h

/-- How storing the account ends, the run ends. -/
theorem Attempt.ended (x : Attempt sv w a provider) (bound : Log.Context)
    {again : Option (Program Outcome)}
    (hagain : ∀ p ∈ again, ∀ w₁, p.Leads sv.answer w₁ (Ended sv a provider w₁)) :
    ((Program.persist x.account (some x.password) (some systemActor)).outcome >>=
      answered bound a x.existing.isNone again).Leads sv.answer x.before
        (Ended sv a provider w) := by
  refine Program.leads_persist_bind ?_
  change Program.Leads _ (answered bound a x.existing.isNone again (x.stored.1.map some))
    x.stored.2 _
  cases hstored : x.stored.1 with
  | ok u => exact complete_leads bound _ x hstored
  | error e => exact afterFailure_leads bound x hstored hagain

/-- Only a new account has to be put together, and only its group may be missing. -/
theorem baseDraft_leads (sv : Service) (a : Assertion) (provider : String)
    (resolver : Locale.Resolver) (existing : Option User) (hw : w.isOpen = true) :
    (baseDraft sv.site a provider resolver existing).Leads sv.answer w fun r w' =>
      World.SameStorage w w' ∧
        ((∃ group, (existing = none → w.tables.defaultGroup sv.site.settings = .ok group) ∧
          r = .ok (existing.elim (newDraft a provider (resolver.resolve none none) group)
            (·.toDraft))) ∨
        ∃ e, existing = none ∧ w.tables.defaultGroup sv.site.settings = .error e ∧ r = .error e) := by
  cases existing with
  | some u => exact ⟨.refl w, .inl ⟨none, fun h => (nomatch h), rfl⟩⟩
  | none =>
    refine (Program.answers_defaultGroup sv.site).leads_bind (fun group w' hw' _ hgroup => ?_)
      (fun e w' hw' _ hgroup => ?_) (fun w' _ hclosed => ?_)
    · exact ⟨hw', .inl ⟨group, fun _ => hgroup, rfl⟩⟩
    · exact ⟨hw', .inr ⟨e, rfl, hgroup, rfl⟩⟩
    · rw [hw] at hclosed
      cases hclosed

/-- An account that is there can be built again. -/
theorem isNew_of_build_eq_error {new : Draft} {existing : Option User}
    {tag : Option (Int × Option String)} {now : Timestamp} {e : Failure}
    (h : ({ withLocale (existing.elim new (·.toDraft)) tag with
      lastLogin := some now } : Draft).build = .error e) : existing = none := by
  cases existing with
  | none => rfl
  | some u =>
    have hkeys := Draft.SameKeys.withLocale u.toDraft tag
    have hvalid : ({ withLocale u.toDraft tag with lastLogin := some now } : Draft).Valid := by
      intro htype
      have hdomain := u.valid (hkeys.type.symm.trans htype)
      rwa [← hkeys.domain] at hdomain
    rw [Option.elim_some, Draft.build, dif_pos hvalid] at h
    cases h

/-- The email is free: what comes before storing the account leaves the storage alone, and how
storing it ends, the run ends. -/
theorem stored_ended (bound : Log.Context) {again : Option (Program Outcome)}
    (hagain : ∀ p ∈ again, ∀ w₁, p.Leads sv.answer w₁ (Ended sv a provider w₁)) {w₁ : World}
    {existing : Option User} (same : World.SameStorage w w₁) (isOpen : w.isOpen = true)
    (login : Login.isValid (w.tables.loginLength sv.site.settings) a.uid = true)
    (found : w.tables.accountByLogin a.uid (scope provider) = .ok existing)
    (emailFree : w.tables.emailFree a.email (scope provider) (existing.bind fun u => u.id) = true) :
    (store sv.site bound a provider again existing).Leads sv.answer w₁ (Ended sv a provider w) := by
  have hopen : ∀ w₂ w', World.SameStorage w w₂ → w₂.isOpen = false →
      Ended sv a provider w (.error .storageClosed) w' := by
    intro w₂ w' hw₂ hclosed
    rw [hw₂.isOpen, isOpen] at hclosed
    cases hclosed
  refine (Program.answers_resolver sv.site bound).leads_bind_ok (fun w₂ hw₂ _ => ?_)
    (fun w' _ => hopen w₁ w' same)
  have same₂ := same.trans hw₂
  have hbase := baseDraft_leads sv a provider (w₁.tables.resolver sv.site) existing
    (same₂.isOpen.trans isOpen)
  rw [same₂.tables] at hbase
  rw [same.tables] at hbase ⊢
  refine hbase.bind ?_ ?_
  · rintro base w₃ ⟨hw₃, ⟨group, joined, hok⟩ | ⟨e, _, _, he⟩⟩
    · cases hok
      have same₃ := same₂.trans hw₃
      refine Program.leads_clock_bind ?_
      refine (Program.answers_passwordLength _ bound).leads_bind_ok (fun w₄ hw₄ _ => ?_)
        (fun w' _ => hopen w₃ w' same₃)
      have same₄ := same₃.trans hw₄
      rw [same₃.tables]
      refine Program.leads_randomPassword_bind (fun password random => ?_) (fun e he => ?_)
      · refine Program.leads_ofExcept_bind (fun user huser => ?_) (fun e he => ?_)
        · exact Attempt.ended ⟨w₄, existing, group, user, password, same₄, isOpen, login, found,
            emailFree, joined, random, Draft.build_eq_ok.mp huser⟩ bound hagain
        · cases Draft.build_eq_error he
          exact .hindered same₄ found emailFree (.domain (isNew_of_build_eq_error he))
      · exact .hindered same₄ found emailFree (.password he)
    · cases he
  · rintro e w₃ ⟨hw₃, ⟨group, _, hok⟩ | ⟨e', hnew, hgroup, he⟩⟩
    · cases hok
    · cases he
      exact .hindered (same₂.trans hw₃) found emailFree (.group hnew hgroup)

/-- One attempt at linking ends in one of the listed ways, if what may be tried after it does. -/
theorem attempt_ended (bound : Log.Context) {again : Option (Program Outcome)}
    (hagain : ∀ p ∈ again, ∀ w₁, p.Leads sv.answer w₁ (Ended sv a provider w₁)) {w₁ : World}
    (same : World.SameStorage w w₁) :
    (attempt sv.site bound a provider again).Leads sv.answer w₁ (Ended sv a provider w) := by
  have hclosed : ∀ w₂ w', World.SameStorage w w₂ → World.SameStorage w₂ w' →
      w₂.isOpen = false → Ended sv a provider w (.error .storageClosed) w' :=
    fun w₂ w' hw₂ hw' h => .closed (hw₂.trans hw') (hw₂.isOpen ▸ h)
  rw [attempt]
  refine (Program.answers_loginLength _ bound).leads_bind_ok (fun w₂ hw₂ hopen => ?_)
    (hclosed w₁ · same)
  have same₂ := same.trans hw₂
  have hopen₁ : w.isOpen = true := same.isOpen ▸ hopen
  rw [same.tables]
  by_cases hlogin : Login.isValid (w.tables.loginLength sv.site.settings) a.uid = true
  · rw [if_neg (by simp [hlogin])]
    refine (Program.answers_accountByLogin _ _).leads_bind (fun existing w₃ hw₃ _ hfound => ?_)
      (fun e w₃ hw₃ _ hfound => ?_) (hclosed w₂ · same₂)
    · have same₃ := same₂.trans hw₃
      rw [same₂.tables] at hfound
      refine (Program.answers_emailFree _ _ _).leads_bind_ok (fun w₄ hw₄ _ => ?_)
        (hclosed w₃ · same₃)
      have same₄ := same₃.trans hw₄
      rw [same₃.tables]
      by_cases hfree : w.tables.emailFree a.email (scope provider)
          (existing.bind fun u => u.id) = true
      · rw [if_neg (by simp [hfree])]
        exact stored_ended bound hagain same₄ hopen₁ hlogin hfound hfree
      · rw [if_pos (by simpa using hfree)]
        refine Program.leads_log_bind _ _ fun w' hw' => ?_
        exact .emailConflict (same₄.trans hw') hfound (by simpa using hfree)
    · exact .unanswered (same₂.trans hw₃) (same₂.tables ▸ hfound)
  · rw [if_pos (by simpa using hlogin)]
    refine Program.leads_log_bind _ _ fun w' hw' => ?_
    exact .invalidLogin (same₂.trans hw') (by simpa using hlogin)

/-- **Every run of the steps of linking** ends in one of the listed ways, however often they may be
taken again. -/
theorem steps_ended (bound : Log.Context) (retries : Nat) {w₁ : World}
    (same : World.SameStorage w w₁) :
    (steps sv.site bound a provider retries).Leads sv.answer w₁ (Ended sv a provider w) := by
  induction retries generalizing w w₁ with
  | zero => exact attempt_ended bound (by simp) same
  | succ n ih =>
    -- What may be tried again is the steps with one retry less, from whatever state is reached.
    refine attempt_ended bound (fun p hp w₂ => ?_) same
    cases hp
    exact ih (.refl w₂)

theorem linkOrCreate_ended (sv : Service) (w : World) (outer : Log.Context) (a : Assertion)
    (provider : String) :
    (linkOrCreate sv.site outer a provider).Leads sv.answer w fun r w' =>
      ∃ r₀ w₀, Ended sv a provider w r₀ w₀ ∧ Wrapped r₀ w₀ r w' :=
  Program.leads_within _ _ _ fun bound _ hw => recover_wrapped (steps_ended bound 1 hw) _ _ _

end Linking
end Enrollment
