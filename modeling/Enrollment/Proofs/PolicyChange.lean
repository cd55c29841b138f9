/-
Self-service registration while the configuration is being changed.

Whether an account has to be confirmed is asked twice.  The first answer takes the right to sign in
from the account that is stored, the second one, given when the account is already lasting, decides
what is reported.  In between others may have changed the configuration.

* `registerUser_walked` — how a registration can end, and how many answers it has taken then;
* `Told`, `register_told` — all that a self-service registration can come to;
* `register_agrees_iff` — what is reported agrees with what is stored exactly where nothing was
  stored or both answers were the same.
-/
import Enrollment.Proofs.Atomicity
import Enrollment.Proofs.Consulting
import Enrollment.Proofs.ReadBack

namespace Enrollment

open Directory

variable {α β : Type} {sv : Service} {read : Nat → String → Except Failure (Option String)}
  {n m k : Nat} {w w' : World}

namespace Registration

/-! ### Storing an account -/

variable {candidate : User} {password token : Option String}

/-- How a registration can end that begins with the n-th answer; `Left` says what is left of the
session where nothing has been stored. -/
inductive Walked (Left : Except Failure Outcome → Session → Prop) (sv : Service)
    (read : Nat → String → Except Failure (Option String)) (n : Nat) (w : World) (candidate : User)
    (password : Option String) : Except Failure Outcome → Nat × World → Prop where
  | unstored {r : Except Failure Outcome} {s : Nat × World} (hleft : Left r s.2.session)
      (hr : ∀ o, r = .ok o → o.user = none) : Walked Left sv read n w candidate password r s
  /-- The account has been stored with the rights that the first decision left it, and committed. -/
  | stored {w₁ : World} {account u : User} {drawn : String} {confirm : Bool} {next : Nat}
      {problem : Option String} {s : Nat × World} (same : World.SameStorage w w₁)
      (hconfirm : confirmationFrom sv.site.settings read (n + 1) = .ok (confirm, next))
      (hdraft : account.toDraft = toStore candidate drawn confirm)
      (hstored : (sv.persist w₁ account (password.filter (· ≠ "")) none).1 = .ok u)
      (hw : World.SameStorage
        (sv.persist w₁ account (password.filter (· ≠ "")) none).2.commit.2 s.2)
      (hs : s.1 = next + if emailDue candidate then 1 else 0) :
    Walked Left sv read n w candidate password
      (.ok { user := some u, notificationError := problem }) s

/-- An email that cannot be sent is reported; it takes one answer whether or not it is sent. -/
theorem sendNotice_leads (bound : Log.Context) (user : User) (token : String) (confirm : Bool)
    (n : Nat) (w : World) :
    (sendNotice bound user token confirm).Leads (sv.consulting read) (n, w) fun r s =>
      World.SameStorage w s.2 ∧ s.1 = n + 1 ∧ ∃ problem, r = .ok problem := by
  have hsent : ∀ notice : Notice, (Program.notify notice).outcome.Leads (sv.consulting read) (n, w)
      fun r s => World.SameStorage w s.2 ∧ s.1 = n + 1 ∧ ∃ sent, r = .ok sent := by
    intro notice
    have hnotify : (Program.notify notice).Leads (sv.consulting read) (n, w)
        fun _ s => World.SameStorage w s.2 ∧ s.1 = n + 1 := by
      refine Program.leads_perform.mpr ?_
      cases hurl : read n Policy.Key.baseUrl.name with
      | error e =>
        simp only [Service.consulting, hurl]
        exact ⟨.refl w, trivial⟩
      | ok stored =>
        simp only [Service.consulting, hurl, Service.send]
        split <;> exact ⟨⟨rfl, rfl, rfl⟩, trivial⟩
    exact hnotify.outcome fun r s h => ⟨h.1, h.2, r, rfl⟩
  refine (hsent _).bind ?_ ?_
  · rintro sent ⟨m, w'⟩ ⟨hw', hm, -⟩
    cases hm
    rcases sent with e | accepted
    · exact ⟨⟨hw'.session, hw'.isOpen, hw'.ids⟩, rfl, _, rfl⟩
    · cases accepted with
      | true => exact ⟨hw', rfl, none, rfl⟩
      | false => exact ⟨⟨hw'.session, hw'.isOpen, hw'.ids⟩, rfl, _, rfl⟩
  · rintro e s ⟨-, -, sent, he⟩
    cases he

variable {Left : Except Failure Outcome → Session → Prop}

/-- An account that has been stored is committed, and nothing after that undoes it. -/
theorem complete_walked (bound : Log.Context) {drawn : String} {confirm : Bool} {next : Nat}
    {w₁ : World} {account u : User} (same : World.SameStorage w w₁)
    (hconfirm : confirmationFrom sv.site.settings read (n + 1) = .ok (confirm, next))
    (hdraft : account.toDraft = toStore candidate drawn confirm)
    (hstored : (sv.persist w₁ account (password.filter (· ≠ "")) none).1 = .ok u) :
    (complete bound candidate drawn confirm (some u)).Leads (sv.consulting read)
      (next, (sv.persist w₁ account (password.filter (· ≠ "")) none).2)
      (Walked Left sv read n w candidate password) := by
  obtain ⟨hopen, hflushed, hid⟩ := Service.persist_eq_ok hstored
  have hopen' := (sv.persist_isOpen w₁ account (password.filter (· ≠ "")) none).trans hopen
  rw [complete, if_neg (by simp [Option.isSome_iff_ne_none.mp hid])]
  refine Program.leads_commit_consulting_bind hopen' hflushed ?_
  refine Program.leads_log_consulting_bind bound _ fun w₂ hw₂ => ?_
  by_cases hdue : emailDue candidate = true
  · rw [if_pos hdue]
    refine (sendNotice_leads bound u drawn confirm next w₂).bind ?_ ?_
    · rintro problem s ⟨hs, htaken, -⟩
      exact .stored same hconfirm hdraft hstored (hw₂.trans hs) (by rw [if_pos hdue]; exact htaken)
    · rintro e s ⟨-, -, problem, he⟩
      cases he
  · rw [if_neg hdue]
    exact .stored same hconfirm hdraft hstored hw₂ (by rw [if_neg hdue]; rfl)

/-- How storing the account ends, the run ends. -/
theorem stored_walked (hs : w.session.staged = []) (hhash : sv.around.PlainHasher)
    (bound : Log.Context) {drawn : String} {confirm : Bool} {next : Nat} {w₁ : World}
    {account : User} (same : World.SameStorage w w₁)
    (hconfirm : confirmationFrom sv.site.settings read (n + 1) = .ok (confirm, next))
    (hdraft : account.toDraft = toStore candidate drawn confirm) :
    (answered bound candidate drawn confirm
      ((sv.persist w₁ account (password.filter (· ≠ "")) none).1.map some)).Leads (sv.consulting read)
        (next, (sv.persist w₁ account (password.filter (· ≠ "")) none).2)
        (Walked (Unstored sv w.session) sv read n w candidate password) := by
  have hs₁ : w₁.session.staged = [] := by rw [same.session, hs]
  cases hstored : (sv.persist w₁ account (password.filter (· ≠ "")) none).1 with
  | ok u => exact complete_walked bound same hconfirm hdraft hstored
  | error e =>
    have hunstored := Unstored.of_persist hs₁ hstored
    rw [same.session] at hunstored
    cases e with
    | duplicate field message =>
      have hleft := Service.left_of_duplicate hs₁ hhash hstored
      rw [same.session] at hleft
      refine Program.leads_log_consulting_bind bound _ fun w₂ hw₂ => ?_
      refine .unstored (.left ?_) fun o h => by cases h; rfl
      exact hw₂.session ▸ hleft
    | _ => exact .unstored hunstored fun _ h => nomatch h

/-- However the token was come by, the rest of the run is the same. -/
theorem storeAs_walked (hs : w.session.staged = []) (hhash : sv.around.PlainHasher)
    (bound : Log.Context) (drawn : String) {w₁ : World} (same : World.SameStorage w w₁) :
    (storeAs sv.site bound candidate password drawn).Leads (sv.consulting read) (n + 1, w₁)
      (Walked (Unstored sv w.session) sv read n w candidate password) := by
  refine (confirmationRequired_leads sv read bound (n + 1) w₁).bind ?_ ?_
  · rintro confirm ⟨m, w₂⟩ ⟨hw₂, hr, hnext⟩
    obtain ⟨⟨confirm, next⟩, hconfirm, rfl⟩ : ∃ c, confirmationFrom sv.site.settings read (n + 1) =
        .ok c ∧ c.1 = confirm := by
      cases hc : confirmationFrom sv.site.settings read (n + 1) with
      | error e => rw [hc] at hr; cases hr
      | ok c => rw [hc] at hr; cases hr; exact ⟨c, rfl, rfl⟩
    cases hnext confirm next hconfirm
    have hbuild : (toStore candidate drawn confirm).build =
        .ok ⟨toStore candidate drawn confirm, toStore_valid candidate drawn confirm⟩ :=
      dif_pos _
    rw [hbuild]
    generalize haccount : (⟨toStore candidate drawn confirm, _⟩ : User) = account
    have hdraft : account.toDraft = toStore candidate drawn confirm := by rw [← haccount]
    refine Program.leads_persist_consulting_bind ?_
    exact stored_walked hs hhash bound (same.trans hw₂) hconfirm hdraft
  · rintro e ⟨m, w₂⟩ ⟨hw₂, -⟩
    exact .unstored (.left (by rw [(same.trans hw₂).session]; exact .kept)) fun _ h => by cases h

theorem store_walked (hs : w.session.staged = []) (hhash : sv.around.PlainHasher)
    (bound : Log.Context) (token : Option String) {w₁ : World} (same : World.SameStorage w w₁) :
    (store sv.site bound candidate password token).Leads (sv.consulting read) (n + 1, w₁)
      (Walked (Unstored sv w.session) sv read n w candidate password) := by
  rw [store_eq]
  split
  · exact storeAs_walked hs hhash bound _ same
  · have same₂ : World.SameStorage w { w₁ with tokens := w₁.tokens + 1 } :=
      same.trans ⟨rfl, rfl, rfl⟩
    exact storeAs_walked hs hhash bound _ same₂

theorem turnDown_walked (bound : Log.Context) (reason : String) (r : Rejection) {w₁ : World}
    (same : World.SameStorage w w₁) :
    (turnDown bound reason r).Leads (sv.consulting read) (m, w₁)
      (Walked (Unstored sv w.session) sv read n w candidate password) := by
  refine Program.leads_log_consulting_bind bound _ fun w₂ hw₂ => ?_
  exact .unstored (.left ((same.trans hw₂).session ▸ .kept)) fun o h => by cases h; rfl

/-- **Every run of the steps of a registration**, whatever the configuration answers. -/
theorem steps_walked (hs : w.session.staged = []) (hhash : sv.around.PlainHasher)
    (bound : Log.Context) (token : Option String) {w₁ : World} (same : World.SameStorage w w₁) :
    (steps sv.site bound candidate password token).Leads (sv.consulting read) (n, w₁)
      (Walked (Unstored sv w.session) sv read n w candidate password) := by
  have hfailed : ∀ (e : Failure) {w₂ : World} (s : Nat × World), World.SameStorage w w₂ →
      World.SameStorage w₂ s.2 →
      Walked (Unstored sv w.session) sv read n w candidate password (.error e) s :=
    fun e _ s h h' => .unstored (.left ((h.trans h').session ▸ .kept)) fun _ h => nomatch h
  rw [steps]
  refine (Program.takes_readWhole bound _ _ _).leads_bind (fun minimum w₂ hw₂ => ?_)
    fun e s => hfailed e s same
  have same₂ := same.trans hw₂
  by_cases hlong : Login.isLongEnough minimum candidate.login = true
  · rw [if_neg (by simp [hlong])]
    refine (Program.takes_loginFree _ _ _).leads_bind (fun loginFree w₃ hw₃ => ?_)
      fun e s => hfailed e s same₂
    have same₃ := same₂.trans hw₃
    refine (Program.takes_emailFree _ _ _).leads_bind (fun emailFree w₄ hw₄ => ?_)
      fun e s => hfailed e s same₃
    have same₄ := same₃.trans hw₄
    cases loginFree with
    | false => exact turnDown_walked bound _ _ same₄
    | true =>
      cases emailFree with
      | false => exact turnDown_walked bound _ _ same₄
      | true => exact store_walked hs hhash bound token same₄
  · rw [if_pos (by simpa using hlong)]
    exact turnDown_walked bound _ _ same₂

/-- What a registration that stored nothing leaves of the session. -/
theorem registerUser_walked (hs : w.session.staged = []) (hhash : sv.around.PlainHasher)
    (outer : Log.Context) (candidate : User) (password token : Option String) {w₁ : World}
    (same : World.SameStorage w w₁) :
    (registerUser sv.site outer candidate password token).Leads (sv.consulting read) (n, w₁)
      (Walked (fun _ s => w.session.Left s) sv read n w candidate password) := by
  refine Program.leads_within_consulting _ _ _ fun bound w₂ hw₂ => ?_
  refine (steps_walked hs hhash bound token (same.trans hw₂)).recover ?_ ?_
  · intro o s h
    cases h with
    | unstored h ho =>
      have hwrapped : Wrapped (.ok o) s.2 (.ok o) s.2 := .ok o
      exact .unstored (h.wrapped hhash hwrapped) ho
    | stored same hconfirm hdraft hstored hw hs =>
      exact .stored same hconfirm hdraft hstored hw hs
  · rintro e ⟨m, w₃⟩ h
    cases h with
    | unstored h =>
      rw [wrapFailure]
      by_cases he : e.isCollaborator = true
      · rw [if_pos he]
        have hwrapped : Wrapped (.error e) w₃ (.error e) w₃ := .passed he
        exact .unstored (h.wrapped hhash hwrapped) fun _ h => by cases h
      · rw [if_neg he]
        refine Program.leads_log_consulting_bind (w := w₃.rollback) bound _ fun w₄ hw₄ => ?_
        have hwrapped : Wrapped (.error e) w₃ (.error (.caused "" e)) w₄ :=
          .caused _ (by simpa using he) hw₄
        exact .unstored (h.wrapped hhash hwrapped) fun _ h => by cases h

/-! ### Self-service -/

variable {form : Form}

/-- All that a self-service registration can come to. -/
inductive Told (sv : Service) (read : Nat → String → Except Failure (Option String)) (form : Form)
    (w : World) : Option Outcome → World → Prop where
  | unstored {o : Option Outcome} {w' : World} (hleft : w.session.Left w'.session)
      (ho : ∀ x ∈ o, x.user = none) : Told sv read form w o w'
  /-- The account has been stored with the rights that the first decision left it, and is reported
  as the second decision says. -/
  | stored {w₁ w' : World} {account u : User} {first : Bool} {next : Nat} {problem : Option String}
      (same : World.SameStorage w w₁)
      (hfirst : confirmationFrom sv.site.settings read 5 = .ok (first, next))
      (hnew : account.id = none) (hrights : account.canLogin = !first)
      (hstored : (sv.persist w₁ account (form.password.filter (· ≠ "")) none).1 = .ok u)
      (hw : World.SameStorage
        (sv.persist w₁ account (form.password.filter (· ≠ "")) none).2.commit.2 w') :
    Told sv read form w
      ((confirmationFrom sv.site.settings read (next + if given form.email then 1 else 0)).map
        fun later => announced later.1 { user := some u, notificationError := problem }).toOption w'

theorem Told.of_sameStorage {o : Option Outcome} {w'' : World} (h : Told sv read form w o w')
    (hw : World.SameStorage w' w'') : Told sv read form w o w'' := by
  cases h with
  | unstored hleft ho => exact .unstored (hw.session ▸ hleft) ho
  | stored same hfirst hnew hrights hstored hw' =>
    exact .stored same hfirst hnew hrights hstored (hw'.trans hw)

/-- What is told is what the policy, asked again, comes to. -/
theorem Told.of_asked {s : Settings} {o : Outcome}
    (h : Told sv read form w ((confirmationFrom s read n).map fun later =>
      announced later.1 o).toOption w') {r : Except Failure Bool}
    (hr : r = (confirmationFrom s read n).map (·.1)) :
    Told sv read form w (r.map fun later => announced later o).toOption w' := by
  rw [hr]
  cases hlater : confirmationFrom s read n with
  | error e => rwa [hlater] at h
  | ok later => rwa [hlater] at h

/-- What the candidate of a form is stored as may sign in unless it has to be confirmed. -/
theorem Form.canLogin_toStore {locale : Locale.Resolved} {group : Option Group}
    (hcandidate : candidate.toDraft = form.draft locale group) (drawn : String) (confirm : Bool) :
    (toStore candidate drawn confirm).canLogin = !confirm := by
  have hrights : candidate.rights = Rights.standard := by
    rw [hcandidate]
    cases group <;> rfl
  cases confirm with
  | true => rfl
  | false =>
    change candidate.rights.contains .login = true
    rw [hrights]
    rfl

theorem Form.emailDue_candidate {locale : Locale.Resolved} {group : Option Group}
    (hcandidate : candidate.toDraft = form.draft locale group) :
    emailDue candidate = given form.email := by
  rw [emailDue, hcandidate]
  cases group <;> exact Bool.true_and _

/-- The candidate of a form is registered, and if that succeeded the policy is asked again. -/
theorem announced_told (hs : w.session.staged = []) (hhash : sv.around.PlainHasher)
    (bound : Log.Context) {locale : Locale.Resolved} {group : Option Group} {w₁ : World}
    (hcandidate : candidate.toDraft = form.draft locale group) (same : World.SameStorage w w₁) :
    (registerUser sv.site bound candidate form.password none >>=
      announce sv.site bound).Leads (sv.consulting read) (4, w₁)
        fun r s => Told sv read form w r.toOption s.2 := by
  refine (registerUser_walked hs hhash bound candidate form.password none same).bind ?_ ?_
  · intro o s h
    cases h with
    | unstored hleft ho =>
      have hok : o.ok = false := by rw [Outcome.ok, ho o rfl]; rfl
      rw [announce, if_neg (by simp [hok])]
      exact .unstored hleft fun x hx => by cases hx; exact ho o rfl
    | @stored _ account u drawn first next problem _ same hfirst hdraft hstored hw hn =>
      obtain ⟨m, w₂⟩ := s
      cases hn
      have hnew : account.id = none := by
        rw [hdraft, (toStore_sameKeys candidate drawn first).id]
        change candidate.id = none
        rw [hcandidate]
        exact (Draft.SameKeys.join _ group).id
      have hrights : account.canLogin = !first := by
        rw [hdraft]
        exact Form.canLogin_toStore hcandidate drawn first
      have htold : ∀ (r : Except Failure Bool) (w₃ : World), World.SameStorage w₂ w₃ →
          r = (confirmationFrom sv.site.settings read
            (next + if emailDue candidate then 1 else 0)).map (·.1) →
          Told sv read form w
            (r.map fun later => announced later { user := some u, notificationError := problem }
              ).toOption w₃ := by
        intro r w₃ hw₃ hr
        rw [Form.emailDue_candidate hcandidate] at hr
        exact .of_asked (.stored same hfirst hnew hrights hstored (hw.trans hw₃)) hr
      refine (confirmationRequired_leads sv read bound _ w₂).bind ?_ ?_
      · rintro later ⟨_, w₃⟩ ⟨hw₃, hr, -⟩
        cases later with
        | true => exact htold _ w₃ hw₃ hr
        | false => exact htold _ w₃ hw₃ hr
      · rintro e ⟨_, w₃⟩ ⟨hw₃, hr, -⟩
        exact htold _ w₃ hw₃ hr
  · intro e s h
    cases h with
    | unstored hleft => exact .unstored hleft fun _ h => by cases h

theorem selfSteps_told (hs : w.session.staged = []) (hhash : sv.around.PlainHasher)
    (bound : Log.Context) {w₁ : World} (same : World.SameStorage w w₁) :
    (selfSteps sv.site bound form).Leads (sv.consulting read) (0, w₁)
      fun r s => Told sv read form w r.toOption s.2 := by
  have hfailed : ∀ (e : Failure) {w₂ : World} (s : Nat × World), World.SameStorage w w₂ →
      World.SameStorage w₂ s.2 →
      Told sv read form w (Except.error e : Except Failure Outcome).toOption s.2 :=
    fun e _ s h h' => .unstored ((h.trans h').session ▸ .kept) fun _ h => nomatch h
  rw [selfSteps]
  refine (Program.takes_readFlag bound _ _).leads_bind (fun allowed w₂ hw₂ => ?_)
    fun e s => hfailed e s same
  have same₂ := same.trans hw₂
  cases allowed with
  | false =>
    refine Program.leads_log_consulting_bind bound _ fun w₃ hw₃ => ?_
    exact .unstored ((same₂.trans hw₃).session ▸ .kept) fun o h => by cases h; rfl
  | true =>
    refine (Program.takes_resolver sv.site bound).leads_bind (fun resolver w₃ hw₃ => ?_)
      fun e s => hfailed e s same₂
    have same₃ := same₂.trans hw₃
    refine (Program.takes_defaultGroup sv.site).leads_bind (fun group w₄ hw₄ => ?_)
      fun e s => hfailed e s same₃
    have hbuild : (form.draft (resolver.resolve form.timezone form.languageId) group).build =
        .ok ⟨_, form.draft_valid _ group⟩ := dif_pos _
    rw [hbuild]
    exact announced_told hs hhash bound rfl (same₃.trans hw₄)

/-- **Every self-service registration** comes to what is listed, whatever the configuration
answers. -/
theorem register_told (hs : w.session.staged = []) (hhash : sv.around.PlainHasher)
    (outer : Log.Context) (form : Form) :
    (register sv.site outer form).Leads (sv.consulting read) (0, w)
      fun r s => ∃ o, r = .ok o ∧ Told sv read form w o s.2 := by
  refine Program.leads_within_consulting _ _ _ fun bound w₁ same => ?_
  have hsteps : (do return some (← selfSteps sv.site bound form) : Program (Option Outcome)).Leads
      (sv.consulting read) (0, w₁)
      fun r s => ∃ r₀ : Except Failure Outcome, r = r₀.map some ∧
        Told sv read form w r₀.toOption s.2 :=
    (selfSteps_told hs hhash bound same).bind (fun o s h => ⟨.ok o, rfl, h⟩)
      fun e s h => ⟨.error e, rfl, h⟩
  refine hsteps.recover ?_ ?_
  · rintro o s ⟨r₀, hr, h⟩
    cases r₀ with
    | error e => cases hr
    | ok o₀ =>
      cases hr
      exact ⟨_, rfl, h⟩
  · rintro e ⟨m, w₂⟩ ⟨r₀, hr, h⟩
    cases r₀ with
    | error e₀ =>
      exact Program.leads_log_consulting_bind bound _ fun w₃ hw₃ =>
        ⟨none, rfl, h.of_sameStorage hw₃⟩
    | ok o => cases hr

/-- What is reported agrees with what is stored: where nothing is given nothing has become lasting,
and an account that is given is lasting, and is reported as pending exactly if it may not sign in. -/
def Agrees (before after : Tables) : Option Outcome → Prop
  | none => after = before
  | some o => ∀ u ∈ o.user, ∃ id stored, u.id = some id ∧ after.accountById id = some stored ∧
      (o.isPending = true ↔ stored.canLogin = false)

/-- The policy was steady: neither decision failed, and both came to the same.  The first one is read
off the answers from the sixth on, the second one off those after the email that may be due. -/
def SteadyPolicy (sv : Service) (read : Nat → String → Except Failure (Option String))
    (form : Form) : Prop :=
  ∃ confirm next m, confirmationFrom sv.site.settings read 5 = .ok (confirm, next) ∧
    confirmationFrom sv.site.settings read (next + if given form.email then 1 else 0) =
      .ok (confirm, m)

theorem steadyPolicy_iff {first : Bool} {next : Nat}
    (hfirst : confirmationFrom sv.site.settings read 5 = .ok (first, next)) :
    SteadyPolicy sv read form ↔ ∃ m, confirmationFrom sv.site.settings read
      (next + if given form.email then 1 else 0) = .ok (first, m) := by
  constructor
  · rintro ⟨confirm, next', m, hconfirm, hlater⟩
    cases hfirst.symm.trans hconfirm
    exact ⟨m, hlater⟩
  · rintro ⟨m, hlater⟩
    exact ⟨first, next, m, hfirst, hlater⟩

/-- An account that has been stored and made lasting was not there before, and is found with the
rights it was stored with. -/
theorem lasting_of_stored (hw : w.session.Clean) {w₁ : World} {account u : User}
    {password : Option String} (same : World.SameStorage w w₁) (hnew : account.id = none)
    (hstored : (sv.persist w₁ account password none).1 = .ok u)
    (hcommit : World.SameStorage (sv.persist w₁ account password none).2.commit.2 w') :
    w'.session.lasting ≠ w.session.lasting ∧ u.canLogin = account.canLogin ∧
      ∃ id, u.id = some id ∧ w'.session.lasting.accountById id = some u := by
  obtain ⟨s, hs, hsession⟩ := Service.persist_commit hstored hcommit
  obtain ⟨id, hid, hfound⟩ := hs.accountById
  have hplace : Session.place? w₁.session.working account = some none := by
    rw [Session.place?, hnew]
  obtain ⟨hashed, t, -, hwrite, hu, rfl⟩ := hs.write (same.session ▸ hw.staged) hplace
  obtain ⟨-, rfl⟩ := Tables.write_eq_ok.mp hwrite
  rw [hsession]
  refine ⟨fun heq => ?_, by rw [hu]; rfl, id, hid, hfound⟩
  have husers : w₁.session.working.users ++ [_] = w.session.lasting.users :=
    congrArg Tables.users heq
  rw [same.session, hw.working] at husers
  simpa using congrArg List.length husers

/-- What is announced of a lasting account agrees with it if it is pending exactly where it may not
sign in. -/
theorem agrees_announced {before after : Tables} {u : User} {id : String}
    {problem : Option String} (hid : u.id = some id) (hfound : after.accountById id = some u)
    (confirm : Bool) :
    Agrees before after (some (announced confirm { user := some u, notificationError := problem })) ↔
      (confirm = true ↔ u.canLogin = false) := by
  have huser : (announced confirm { user := some u, notificationError := problem }).user = some u := by
    cases confirm <;> rfl
  have hpending : (announced confirm { user := some u, notificationError := problem }).isPending =
      confirm := by
    cases confirm <;> rfl
  rw [Agrees, huser, hpending]
  constructor
  · intro h
    obtain ⟨id', stored, hid', hfound', hiff⟩ := h u rfl
    cases hid.symm.trans hid'
    cases hfound.symm.trans hfound'
    exact hiff
  · rintro h u' hu'
    cases hu'
    exact ⟨id, u, hid, hfound, h⟩

/-- What is told agrees with what is stored exactly where nothing was stored or the policy was
steady. -/
theorem Told.agrees_iff (hw : w.session.Clean) {o : Option Outcome} (h : Told sv read form w o w') :
    Agrees w.session.lasting w'.session.lasting o ↔
      w'.session.lasting = w.session.lasting ∨ SteadyPolicy sv read form := by
  cases h with
  | unstored hleft ho =>
    have hsame : w'.session.lasting = w.session.lasting := by rw [hleft.eq_of_clean hw]
    refine iff_of_true ?_ (.inl hsame)
    cases o with
    | none => exact hsame
    | some o =>
      intro u hu
      rw [ho o rfl] at hu
      cases hu
  | @stored _ _ account u first next problem same hfirst hnew hrights hstored hcommit =>
    obtain ⟨hne, hlogin, id, hid, hfound⟩ := lasting_of_stored hw same hnew hstored hcommit
    rw [or_iff_right hne, steadyPolicy_iff hfirst]
    cases hlater : confirmationFrom sv.site.settings read
        (next + if given form.email then 1 else 0) with
    | error e => exact iff_of_false hne fun ⟨m, h⟩ => nomatch h
    | ok later =>
      obtain ⟨later, m⟩ := later
      have hagrees : Agrees w.session.lasting w'.session.lasting
          (some (announced later { user := some u, notificationError := problem })) ↔
            (later = true ↔ u.canLogin = false) := agrees_announced hid hfound later
      rw [hlogin, hrights] at hagrees
      refine hagrees.trans ⟨fun h => ⟨m, ?_⟩, fun ⟨m', h⟩ => ?_⟩
      · rw [show later = first by simpa using h]
      · cases h
        simp

/-- **What a self-service registration reports agrees with what it stored exactly where nothing was
stored or the policy was steady**, whatever the configuration answers from one question to the
next. -/
theorem register_agrees_iff (sv : Service)
    (read : Nat → String → Except Failure (Option String)) (outer : Log.Context) (form : Form)
    (w : World) (hw : w.session.Clean) (hhash : sv.around.PlainHasher) :
    let run := (register sv.site outer form).run (sv.consulting read) (0, w)
    ∃ o, run.1 = .ok o ∧
      (Agrees w.session.lasting run.2.2.session.lasting o ↔
        run.2.2.session.lasting = w.session.lasting ∨ SteadyPolicy sv read form) := by
  intro run
  obtain ⟨o, ho, htold⟩ : ∃ o, run.1 = .ok o ∧ Told sv read form w o run.2.2 :=
    register_told hw.staged hhash outer form
  exact ⟨o, ho, htold.agrees_iff hw⟩

/-- The policy asks for confirmation throughout: the account is stored without the right to sign in,
and reported as pending. -/
theorem register_agrees_where_steady :
    let sv : Service := .numbered
    let form : Form := { login := "alice", password := some "secret", email := some "alice@x.org" }
    let policies : Policy.Configuration :=
      [⟨Policy.Key.selfRegistration.name, some "true", none⟩,
        ⟨Policy.Key.baseUrl.name, some "https://x.org", none⟩,
        ⟨Policy.Key.emailVerification.name, some "true", none⟩]
    let read : Nat → String → Except Failure (Option String) := fun _ key =>
      .ok (policies.value? key)
    let run := (register sv.site {} form).run (sv.consulting read) (0, {})
    run.2.2.session.lasting.users.map (·.fields.canLogin) = [false] ∧
      ∃ o, run.1 = .ok o ∧ Agrees {} run.2.2.session.lasting o := by
  intro sv form policies read run
  have hsteady : SteadyPolicy sv read form := ⟨true, 7, 10, by decide +kernel, by decide +kernel⟩
  have hhash : sv.around.PlainHasher := fun _ _ h => nomatch h
  obtain ⟨o, ho, hiff⟩ := register_agrees_iff sv read {} form {} ⟨rfl, rfl⟩ hhash
  exact ⟨by decide +kernel, o, ho, hiff.mpr (.inr hsteady)⟩

/-- Once the account is lasting, confirmation is asked for, or no longer asked for, or the
configuration can no longer be read: an account that may sign in is reported as pending, one that may
not as one that can be used, or as none. -/
theorem register_disagrees_where_changed :
    let form : Form := { login := "alice", password := some "secret" }
    let policies (confirm : String) : Policy.Configuration :=
      [⟨Policy.Key.selfRegistration.name, some "true", none⟩,
        ⟨Policy.Key.baseUrl.name, some "https://x.org", none⟩,
        ⟨Policy.Key.emailVerification.name, some confirm, none⟩]
    let steady (confirm : String) (key : String) : Except Failure (Option String) :=
      .ok ((policies confirm).value? key)
    -- Seven texts have been read when the account is lasting.
    let changing (before later : String → Except Failure (Option String)) :
        Nat → String → Except Failure (Option String) := fun m key =>
      if m < 7 then before key else later key
    let run (read : Nat → String → Except Failure (Option String)) :=
      (register Service.numbered.site {} form).run (Service.numbered.consulting read) (0, {})
    let reported (r : Except Failure (Option Outcome)) :=
      r.map fun o => o.map fun o => (o.user.isSome, o.isPending)
    let on := run (changing (steady "false") (steady "true"))
    let off := run (changing (steady "true") (steady "false"))
    let unread := run (changing (steady "true") fun _ => .error .storageClosed)
    reported on.1 = .ok (some (true, true)) ∧
      on.2.2.session.lasting.users.map (·.fields.canLogin) = [true] ∧
    reported off.1 = .ok (some (true, false)) ∧
      off.2.2.session.lasting.users.map (·.fields.canLogin) = [false] ∧
    unread.1 = .ok none ∧
      unread.2.2.session.lasting.users.map (·.fields.login) = ["alice"] := by
  decide +kernel

end Registration
end Enrollment
