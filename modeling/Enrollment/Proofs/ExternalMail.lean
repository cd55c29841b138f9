/-
Which external accounts are written to.

What an account is stored as and whether an email is due to it are worked out apart from each other:
the type from the integration that is named and from the candidate's own type, the email from the
integration alone.  A candidate that calls itself external and names no integration is stored as
external and is written to.

* `Program.Makes` — runs in which a call of a kind is made;
* `registerUser_only` — what a registration stores has the type that was derived, and what it sends
  is due;
* `external_emailed_iff` — the candidates whose registration may store an external account and write
  to it, over all collaborators.
-/
import Enrollment.Proofs.Endings
import Enrollment.Proofs.History
import Enrollment.Proofs.Transcript

namespace Enrollment

variable {α β σ : Type} {h : Handler σ} {s t : σ}

namespace Program

variable {P : Call → Prop} {p : Program α}

/-! ### Runs that make a call -/

theorem run_pure (a : α) (s : σ) : (pure a : Program α).run h s = (.ok a, s) := rfl

/-- In the run of a program from a state there is a call of which `P` holds. -/
def Makes (h : Handler σ) (p : Program α) (s : σ) (P : Call → Prop) : Prop :=
  ∃ x ∈ p.transcript h s, P x.call

theorem makes_perform {c : Call} (hc : P c) : (perform c).Makes h s P :=
  ⟨_, List.mem_cons_self, hc⟩

theorem Makes.of_next {c : Call} {next : Except Failure c.Reply → Program α}
    (hnext : (next (h c s).1).Makes h (h c s).2 P) : (Program.call c next).Makes h s P := by
  obtain ⟨x, hx, hP⟩ := hnext
  exact ⟨x, List.mem_cons_of_mem _ hx, hP⟩

/-- A call that is made by the first of two programs, or by the second one where the first ended. -/
theorem Makes.bind {k : α → Program β} (hp : p.Makes h s P) : (p >>= k).Makes h s P := by
  change (p.bind k).Makes h s P
  induction p generalizing s with
  | done a => simp [Makes, transcript] at hp
  | fail e => simp [Makes, transcript] at hp
  | call c next ih =>
    obtain ⟨x, hx, hP⟩ := hp
    rcases List.mem_cons.mp hx with rfl | hx
    · exact ⟨_, List.mem_cons_self, hP⟩
    · exact .of_next (ih _ ⟨x, hx, hP⟩)

theorem makes_bind {k : α → Program β} {a : α} (hrun : p.run h s = (.ok a, t))
    (hk : (k a).Makes h t P) : (p >>= k).Makes h s P := by
  change (p.bind k).Makes h s P
  induction p generalizing s with
  | done b =>
    cases hrun
    exact hk
  | fail e => cases hrun
  | call c next ih => exact .of_next (ih _ hrun)

theorem Makes.recover {handle : Failure → Program α} (hp : p.Makes h s P) :
    (p.recover handle).Makes h s P := by
  induction p generalizing s with
  | done a => simp [Makes, transcript] at hp
  | fail e => simp [Makes, transcript] at hp
  | call c next ih =>
    obtain ⟨x, hx, hP⟩ := hp
    rcases List.mem_cons.mp hx with rfl | hx
    · exact ⟨_, List.mem_cons_self, hP⟩
    · exact .of_next (ih _ ⟨x, hx, hP⟩)

theorem Makes.outcome (hp : p.Makes h s P) : p.outcome.Makes h s P := by
  induction p generalizing s with
  | done a => simp [Makes, transcript] at hp
  | fail e => simp [Makes, transcript] at hp
  | call c next ih =>
    obtain ⟨x, hx, hP⟩ := hp
    rcases List.mem_cons.mp hx with rfl | hx
    · exact ⟨_, List.mem_cons_self, hP⟩
    · exact .of_next (ih _ ⟨x, hx, hP⟩)

end Program

namespace Registration

variable {candidate : User}

/-! ### What a registration may store and send -/

/-- An account is stored as the type that was derived for it, if it has a login at all, and an email
is sent only where one is due. -/
def Warranted (candidate : User) : Call → Prop
  | .persist u _ _ => candidate.login ≠ "" ∧ u.type = storedType candidate
  | .notify _ => emailDue candidate = true
  | _ => True

theorem confirmationRequired_only (site : Installation) (bound : Log.Context) :
    (confirmationRequired site bound).Only (Warranted candidate) := by
  have hurl : (Policy.baseUrl site.settings).Only (Warranted candidate) :=
    (Program.only_perform trivial).bind fun _ => Program.only_pure _
  refine hurl.bind fun url => ?_
  split
  · exact Program.only_pure _
  · exact (Program.only_perform trivial).bind fun _ => Program.only_settle (fun _ => trivial) _ _ _

theorem sendNotice_only (bound : Log.Context) (user : User) (token : String) (confirm : Bool)
    (hdue : emailDue candidate = true) :
    (sendNotice bound user token confirm).Only (Warranted candidate) := by
  have hnotify : ∀ n, (Program.notify n).Only (Warranted candidate) := fun n =>
    Program.only_perform (c := .notify n) hdue
  refine (hnotify _).outcome.bind fun sent => ?_
  match sent with
  | .ok true => exact Program.only_pure _
  | .ok false => exact (Program.only_perform trivial).bind fun _ => Program.only_pure _
  | .error e => exact (Program.only_perform trivial).bind fun _ => Program.only_pure _

theorem complete_only (bound : Log.Context) (token : String) (confirm : Bool)
    (stored : Option User) :
    (complete bound candidate token confirm stored).Only (Warranted candidate) := by
  have hunidentified : (complete.unidentified bound).Only (Warranted candidate) :=
    (Program.only_perform trivial).bind fun _ => (Program.only_perform trivial).bind fun _ =>
      Program.only_pure _
  match stored with
  | none => exact hunidentified
  | some user =>
    rw [complete]
    split
    · exact hunidentified
    · refine (Program.only_perform trivial).bind fun _ => (Program.only_perform trivial).bind
        fun _ => ?_
      split
      · rename_i hdue
        exact (sendNotice_only bound user token confirm hdue).bind fun _ => Program.only_pure _
      · exact Program.only_pure _

theorem answered_only (bound : Log.Context) (token : String) (confirm : Bool)
    (r : Except Failure (Option User)) :
    (answered bound candidate token confirm r).Only (Warranted candidate) := by
  cases r with
  | ok stored => exact complete_only bound token confirm stored
  | error e =>
    cases e with
    | duplicate field message =>
      exact (Program.only_perform trivial).bind fun _ => Program.only_pure _
    | _ => trivial

theorem storeAs_only (site : Installation) (bound : Log.Context) (password : Option String)
    (token : String) (hlogin : candidate.login ≠ "") :
    (storeAs site bound candidate password token).Only (Warranted candidate) := by
  refine (confirmationRequired_only site bound).bind fun confirm => ?_
  cases hbuild : (toStore candidate token confirm).build with
  | error e => trivial
  | ok user =>
    have htype : user.type = storedType candidate := by
      rw [Draft.build_eq_ok.mp hbuild]
      exact (toStore_sameKeys candidate token confirm).type
    have hpersist : (Program.persist user (password.filter (· ≠ "")) none).Only
        (Warranted candidate) :=
      Program.only_perform (c := .persist user _ none) ⟨hlogin, htype⟩
    exact hpersist.outcome.bind (answered_only bound token confirm)

theorem store_only (site : Installation) (bound : Log.Context) (password token : Option String)
    (hlogin : candidate.login ≠ "") :
    (store site bound candidate password token).Only (Warranted candidate) := by
  rw [store_eq]
  split
  · exact storeAs_only site bound password _ hlogin
  · exact (Program.only_perform trivial).bind fun drawn =>
      storeAs_only site bound password drawn hlogin

/-- **What a registration stores** has the type that was derived for it, and what it sends is due. -/
theorem registerUser_only (site : Installation) (outer : Log.Context) (candidate : User)
    (password token : Option String) :
    (registerUser site outer candidate password token).Only (Warranted candidate) := by
  have hturnDown : ∀ bound reason r, (turnDown bound reason r).Only (Warranted candidate) :=
    fun _ _ _ => (Program.only_perform trivial).bind fun _ => Program.only_pure _
  have hsteps : ∀ bound, (steps site bound candidate password token).Only (Warranted candidate) := by
    intro bound
    have hlength : (Policy.loginLength site.settings bound).Only (Warranted candidate) :=
      (Program.only_perform trivial).bind fun _ => Program.only_settle (fun _ => trivial) _ _ _
    refine hlength.bind fun minimum => ?_
    by_cases hlong : Login.isLongEnough minimum candidate.login = true
    · have hlogin : candidate.login ≠ "" := by
        simp only [Login.isLongEnough, Bool.and_eq_true, decide_eq_true_eq] at hlong
        exact hlong.1
      rw [if_neg (by simp [hlong])]
      refine (Program.only_perform trivial).bind fun loginFree => (Program.only_perform trivial).bind
        fun emailFree => ?_
      split
      · exact hturnDown _ _ _
      · split
        · exact hturnDown _ _ _
        · exact store_only site bound password token hlogin
    · rw [if_pos (by simpa using hlong)]
      exact hturnDown _ _ _
  have hbody : ∀ bound event purpose, ((steps site bound candidate password token).recover
      (wrapFailure bound event purpose)).Only (Warranted candidate) := by
    refine fun bound event purpose => (hsteps bound).recover fun e => ?_
    rw [wrapFailure]
    split
    · trivial
    · exact (Program.only_perform trivial).bind fun _ => (Program.only_perform trivial).bind
        fun _ => trivial
  rw [registerUser, Program.within]
  split
  · exact hbody _ _ _
  · exact (Program.only_perform trivial).bind fun _ => hbody _ _ _

/-! ### Collaborators that grant everything -/

/-- Every login and email is free, every account is stored, and every email is accepted; a single
character is long enough. -/
def granting : Handler Unit
  | .configValue _, s => (.ok (some "1"), s)
  | .loginFree _ _ _, s => (.ok true, s)
  | .emailFree _ _ _, s => (.ok true, s)
  | .accountByLogin _ _, s => (.ok none, s)
  | .persist u _ _, s => (.ok (some { u with id := some "1", valid := u.valid }), s)
  | .group _, s => (.ok none, s)
  | .randomPassword _, s => (.ok "1", s)
  | .freshToken, s => (.ok "1", s)
  | .freshRun, s => (.ok "1", s)
  | .clock, s => (.ok { year := 2024, month := 1, day := 1 }, s)
  | .notify _, s => (.ok true, s)
  | .commit, s => (.ok (), s)
  | .rollback, s => (.ok (), s)
  | .log _, s => (.ok (), s)

theorem run_granting_settle {α : Type} (bound : Log.Context) (key : String)
    (v : Policy.Verdict α) : (v.settle bound key).run granting () = (.ok v.value, ()) := by
  rw [Policy.Verdict.settle]
  cases v.warning <;> rfl

theorem run_granting_loginLength (s : Settings) (bound : Log.Context) :
    (Policy.loginLength s bound).run granting () = (.ok 1, ()) := by
  have hone : Policy.whole s.minLoginLength (some leastLoginLength) (some "1") = ⟨1, none⟩ := by
    cbv
  rw [Policy.loginLength, Policy.readWhole, Program.run_bind, Program.configValue,
    Program.run_perform]
  simp only [granting, hone, run_granting_settle]

theorem run_granting_confirmationRequired (site : Installation) (bound : Log.Context) :
    ∃ confirm, (confirmationRequired site bound).run granting () = (.ok confirm, ()) := by
  rw [confirmationRequired, Program.run_bind, Policy.baseUrl, Program.run_bind,
    Program.configValue, Program.run_perform]
  generalize Policy.baseUrlOf site.settings = urlOf
  simp only [granting, Program.run_pure]
  split
  · exact ⟨false, rfl⟩
  · rw [Policy.emailVerification, Policy.readFlag, Program.run_bind, Program.configValue,
      Program.run_perform]
    simp only [granting]
    exact ⟨_, run_granting_settle _ _ _⟩

/-- An account that was stored is written to, if an email is due to it. -/
theorem complete_granting (bound : Log.Context) {candidate : User} (token : String)
    (confirm : Bool) {v : User} (hid : v.id = some "1") (hdue : emailDue candidate = true) :
    (complete bound candidate token confirm (some v)).Makes granting ()
      fun c => c.isNotify = true := by
  rw [complete, if_neg (by simp [hid])]
  refine Program.makes_bind (t := ()) rfl (Program.makes_bind (t := ()) rfl ?_)
  rw [if_pos hdue]
  have hnotify : ∀ n, (Program.notify n).Makes granting () fun c => c.isNotify = true :=
    fun n => Program.makes_perform (c := .notify n) rfl
  exact (hnotify _).outcome.bind.bind

/-- A call that stores an account of a type. -/
def stores (type : UserType) : Call → Prop
  | .persist u _ _ => u.type = type
  | _ => False

theorem storeAs_granting (site : Installation) (bound : Log.Context) (candidate : User)
    (password : Option String) (token : String) :
    (storeAs site bound candidate password token).Makes granting () (stores (storedType candidate)) ∧
      (emailDue candidate = true → (storeAs site bound candidate password token).Makes granting ()
        fun c => c.isNotify = true) := by
  obtain ⟨confirm, hconfirm⟩ := run_granting_confirmationRequired site bound
  have hbuild : (Program.ofExcept (toStore candidate token confirm).build).run granting () =
      (.ok ⟨toStore candidate token confirm, toStore_valid candidate token confirm⟩, ()) := by
    rw [Draft.build, dif_pos (toStore_valid candidate token confirm)]
    rfl
  have hpersist : ∀ u : User, u.type = storedType candidate →
      (Program.persist u (password.filter (· ≠ "")) none).Makes granting ()
        (stores (storedType candidate)) :=
    fun u hu => Program.makes_perform (c := .persist u _ none) hu
  refine ⟨Program.makes_bind hconfirm (Program.makes_bind hbuild ?_),
    fun hdue => Program.makes_bind hconfirm (Program.makes_bind hbuild
      (Program.makes_bind (t := ()) rfl ?_))⟩
  · exact (hpersist _ (toStore_sameKeys candidate token confirm).type).outcome.bind
  · rw [answered]
    exact complete_granting bound token confirm rfl hdue

/-- Where everything is granted, the account is stored, and written to if an email is due. -/
theorem store_granting (site : Installation) (bound : Log.Context) (candidate : User)
    (password token : Option String) :
    (store site bound candidate password token).Makes granting () (stores (storedType candidate)) ∧
      (emailDue candidate = true → (store site bound candidate password token).Makes granting ()
        fun c => c.isNotify = true) := by
  rw [store_eq]
  split
  · exact storeAs_granting site bound candidate password _
  · exact ⟨Program.makes_bind rfl (storeAs_granting site bound candidate password _).1,
      fun hdue => Program.makes_bind rfl ((storeAs_granting site bound candidate password _).2 hdue)⟩

theorem registerUser_granting (site : Installation) (outer : Log.Context) (candidate : User)
    (password token : Option String) (hlogin : candidate.login ≠ "") {P : Call → Prop}
    (hP : ∀ bound, (store site bound candidate password token).Makes granting () P) :
    (registerUser site outer candidate password token).Makes granting () P := by
  have hlong : Login.isLongEnough 1 candidate.login = true := by
    have hpositive : candidate.login.length ≠ 0 := by simpa using hlogin
    simp only [Login.isLongEnough, Bool.and_eq_true, decide_eq_true_eq]
    exact ⟨hlogin, by omega⟩
  have hsteps : ∀ bound, (steps site bound candidate password token).Makes granting () P := by
    intro bound
    refine Program.makes_bind (run_granting_loginLength site.settings bound) ?_
    rw [if_neg (by simp [hlong])]
    exact Program.makes_bind (t := ()) rfl (Program.makes_bind (t := ()) rfl (hP bound))
  rw [registerUser, Program.within]
  split
  · exact (hsteps _).recover
  · exact Program.makes_bind rfl (hsteps _).recover

/-- **An external account is written to exactly where the candidate calls itself external and names no
integration**: over all collaborators and all states of theirs, these are the candidates with an
email and a login whose registration may store an external account and send an email. -/
theorem external_emailed_iff (site : Installation) (outer : Log.Context) (candidate : User)
    (password token : Option String) :
    (∃ (σ : Type) (h : Handler σ) (s : σ),
      (registerUser site outer candidate password token).Makes h s (stores .external) ∧
      (registerUser site outer candidate password token).Makes h s fun c => c.isNotify = true) ↔
    candidate.type = .external ∧ given candidate.externalType = false ∧
      given candidate.email = true ∧ candidate.login ≠ "" := by
  constructor
  · rintro ⟨σ, h, s, ⟨x, hx, hstores⟩, ⟨y, hy, hsends⟩⟩
    have honly := registerUser_only site outer candidate password token
    have hwritten := honly.mem_transcript s x hx
    have hsent := honly.mem_transcript s y hy
    obtain ⟨hlogin, htype⟩ : candidate.login ≠ "" ∧ storedType candidate = .external := by
      cases hcall : x.call with
      | persist u p actor =>
        rw [hcall] at hwritten hstores
        exact ⟨hwritten.1, hwritten.2.symm.trans hstores⟩
      | _ => rw [hcall] at hstores; exact hstores.elim
    have hdue : emailDue candidate = true := by
      cases hcall : y.call with
      | notify n => rwa [hcall] at hsent
      | _ => rw [hcall] at hsends; cases hsends
    simp only [emailDue, Bool.and_eq_true, Bool.not_eq_true'] at hdue
    rw [storedType, if_neg (by simp [hdue.1])] at htype
    exact ⟨htype, hdue.1, hdue.2, hlogin⟩
  · rintro ⟨htype, hexternal, hemail, hlogin⟩
    have hstored : storedType candidate = .external := by
      rw [storedType, if_neg (by simp [hexternal]), htype]
    have hdue : emailDue candidate = true := by simp [emailDue, hexternal, hemail]
    refine ⟨Unit, granting, (), registerUser_granting site outer candidate password token hlogin
      fun bound => ?_, registerUser_granting site outer candidate password token hlogin
      fun bound => ?_⟩
    · rw [← hstored]
      exact (store_granting site bound candidate password token).1
    · exact (store_granting site bound candidate password token).2 hdue

/-- A candidate that calls itself external is stored as external, and asked to confirm its email. -/
theorem external_emailed :
    let candidate : User := {
      login := "alice", type := .external, email := some "alice@x.org", valid := by decide }
    let sv : Service := .numbered
    let w := World.after sv
      [.configure Policy.Key.baseUrl.name (some "https://x.org") none,
        .configure Policy.Key.emailVerification.name (some "true") none, .commit]
    let run := sv.run (registerUser sv.site {} candidate none none) w
    Succeeded run.1 ∧
      run.2.session.lasting.users.map (fun r => (r.fields.type, r.fields.externalType)) =
        [(.external, none)] ∧
      run.2.outbox.posted.map (fun p => (p.message.recipient, p.message.subject)) =
        [("alice@x.org", "Onboard: confirm your account")] := by
  intro candidate sv w run
  exact ⟨by decide +kernel, by decide +kernel, by decide +kernel⟩

end Registration
end Enrollment
