/-
What becomes of the failures of collaborators.

Registration and linking pass them on, after a rollback; an email that cannot be sent is reported
beside the account, and self-service passes none on.

* `Program.Candid` — programs that fail exactly where an answer is fatal;
* `register_candid` — self-service has nothing to report exactly where an answer is fatal;
* `faults_contained` — each failure of a collaborator ends in the way that is meant for it.
-/
import Enrollment.Proofs.Heeding
import Enrollment.Proofs.Reports
import Enrollment.Proofs.Stages
import Enrollment.Workflow.Rehearsal

namespace Enrollment

variable {α β σ : Type} {h : Handler σ} {s : σ} {c : Call} {e : Failure}

/-- Whether a call writes to the log. -/
def Call.isLog : Call → Bool
  | .log _ => true
  | _ => false

/-! ### Programs that fail exactly where an answer is fatal -/

/-- Whether self-service has nothing to report after an answer: a call has failed, other than on a key
that is taken or on an email, or the group that is configured does not exist. -/
def Exchange.isFatal : Exchange → Bool
  | ⟨.notify _, _⟩ => false
  | ⟨.persist _ _ _, .error (.duplicate _ _)⟩ => false
  | ⟨.group _, .ok none⟩ => true
  | ⟨_, .error _⟩ => true
  | ⟨_, .ok _⟩ => false

/-- Every call is noted; the log takes every line, and every run gets an id. -/
def fullWatch : Watch where
  notes _ := true
  calm
    | .log _ => true
    | .freshRun => true
    | _ => false

namespace Program

variable {p : Program α}

/-- The program fails exactly where an answer is fatal. -/
def Candid (p : Program α) : Prop :=
  p.Tells fullWatch fun log r => (∃ x ∈ log, x.isFatal = true) ↔ ∃ e, r = .error e

theorem candid_pure (a : α) : (pure a : Program α).Candid := by
  refine iff_of_false ?_ ?_
  · simp
  · exact nofun

theorem Candid.bind {k : α → Program β} (hp : p.Candid) (hk : ∀ a, (k a).Candid) :
    (p >>= k).Candid := by
  refine Tells.bind hp (fun log a ha => (hk a).mono fun rest r hr => ?_) fun log e he => ?_
  · -- The first program has succeeded, so that no answer to it was fatal.
    have hnone : ¬∃ x ∈ log, x.isFatal = true := by simp [ha]
    simp only [List.mem_append, or_and_right, exists_or, hnone, false_or]
    exact hr
  · exact iff_of_true (he.mpr ⟨e, rfl⟩) ⟨e, rfl⟩

/-- Whatever is done about a failure, the program still fails. -/
theorem Candid.recover {handle : Failure → Program α} (hp : p.Candid)
    (hh : ∀ e, (handle e).Tells fullWatch fun _ r => ∃ e', r = .error e') :
    (p.recover handle).Candid := by
  refine Tells.recover hp (fun log a ha => ha) fun log e he => (hh e).mono ?_
  rintro rest _ ⟨e', rfl⟩
  obtain ⟨x, hx, hfatal⟩ := he.mpr ⟨e, rfl⟩
  exact iff_of_true ⟨x, List.mem_append_left rest hx, hfatal⟩ ⟨e', rfl⟩

/-- An answer that is not fatal comes first. -/
theorem fatal_cons {x : Exchange} (hx : x.isFatal = false) (log : List Exchange) :
    (∃ y ∈ fullWatch.note x log, y.isFatal = true) ↔ ∃ y ∈ log, y.isFatal = true := by
  change (∃ y ∈ x :: log, y.isFatal = true) ↔ _
  simp [hx]

theorem fatal_head {x : Exchange} (hx : x.isFatal = true) (log : List Exchange) :
    ∃ y ∈ fullWatch.note x log, y.isFatal = true := ⟨x, List.mem_cons_self, hx⟩

theorem candid_perform (hok : ∀ a, (⟨c, .ok a⟩ : Exchange).isFatal = false)
    (herror : ∀ e, (⟨c, .error e⟩ : Exchange).isFatal = true) : (perform c).Candid := by
  rintro (e | a) -
  · exact iff_of_true (fatal_head (herror e) []) ⟨e, rfl⟩
  · exact (fatal_cons (hok a) []).trans (candid_pure a)

/-- A call whose failure is a value comes first: where it is fatal the program fails. -/
theorem candid_outcome_bind {k : Except Failure c.Reply → Program β}
    (hfatal : ∀ r, (⟨c, r⟩ : Exchange).isFatal = true → ∃ e, k r = .fail e)
    (hk : ∀ r, (⟨c, r⟩ : Exchange).isFatal = false → (k r).Candid) :
    ((perform c).outcome >>= k).Candid := by
  refine tells_outcome_bind fun reply _ => ?_
  cases hreply : (⟨c, reply⟩ : Exchange).isFatal with
  | true =>
    obtain ⟨e, he⟩ := hfatal reply hreply
    rw [he]
    exact iff_of_true (fatal_head hreply []) ⟨e, rfl⟩
  | false =>
    refine (hk reply hreply).mono fun rest r hr => ?_
    rwa [fatal_cons hreply]

theorem Reads.candid (hp : p.Reads) : p.Candid := by
  induction p with
  | done a => exact candid_pure a
  | fail e => exact hp.elim
  | call c next ih =>
    obtain ⟨hc, hfail, hnext⟩ := hp
    have hreading : ∀ r, (⟨c, r⟩ : Exchange).isFatal = !r.isOk := by
      intro r
      cases c with
      | configValue key => cases r <;> rfl
      | log event => cases r <;> rfl
      | _ => cases hc
    rintro (e | a) -
    · rw [hfail e]
      exact iff_of_true (fatal_head (hreading (.error e)) []) ⟨e, rfl⟩
    · have hok : (⟨c, .ok a⟩ : Exchange).isFatal = false := hreading (.ok a)
      exact (ih _ (hnext a)).mono fun rest r hr => (fatal_cons hok rest).trans hr

theorem candid_defaultGroup (site : Installation) : site.defaultGroup.Candid := by
  have hid : (Policy.defaultGroup site.settings).Reads :=
    (reads_readText _ _).bind fun _ => reads_pure _
  refine hid.candid.bind fun id => ?_
  cases id with
  | none => exact candid_pure _
  | some id =>
    refine tells_perform_bind (fun found => ?_) fun e _ => ?_
    · cases found with
      | none => exact iff_of_true (fatal_head rfl []) ⟨_, rfl⟩
      | some g => exact (fatal_cons rfl []).trans (candid_pure (some g))
    · exact iff_of_true (fatal_head rfl []) ⟨e, rfl⟩

theorem wrapFailure_fails (v : Watch) (bound : Log.Context) (event purpose : String) (e : Failure) :
    (Registration.wrapFailure bound event purpose e).Tells v fun _ r => ∃ e', r = .error e' := by
  rw [Registration.wrapFailure]
  split
  · exact ⟨e, rfl⟩
  · exact tells_perform_bind (fun _ => tells_perform_bind (fun _ => ⟨_, rfl⟩) fun e' _ => ⟨e', rfl⟩)
      fun e' _ => ⟨e', rfl⟩

theorem candid_within (outer : Log.Context) (workflow : String) (fields : Log.Context)
    {body : Log.Context → Program α} (hbody : ∀ bound, (body bound).Candid) :
    (within outer workflow fields body).Candid := by
  rw [within]
  split
  · exact hbody _
  · exact Candid.bind (candid_perform (fun _ => rfl) fun _ => rfl) fun _ => hbody _

end Program

namespace Registration

variable {candidate : User}

theorem sendNotice_candid (bound : Log.Context) (user : User) (token : String) (confirm : Bool) :
    (sendNotice bound user token confirm).Candid := by
  refine Program.candid_outcome_bind (fun _ h => nomatch h) fun sent _ => ?_
  match sent with
  | .ok true => exact Program.candid_pure _
  | .ok false => exact (Program.reads_line bound _ _).candid
  | .error e => exact (Program.reads_line bound _ _).candid

theorem complete_candid (bound : Log.Context) (token : String) (confirm : Bool)
    (back : Option User) : (complete bound candidate token confirm back).Candid := by
  have hunidentified : (complete.unidentified bound).Candid :=
    Program.Candid.bind (Program.candid_perform (fun _ => rfl) fun _ => rfl) fun _ =>
      (Program.reads_line bound _ _).candid
  cases back with
  | none => exact hunidentified
  | some user =>
    rw [complete]
    split
    · exact hunidentified
    · refine Program.Candid.bind (Program.candid_perform (fun _ => rfl) fun _ => rfl) fun _ => ?_
      refine Program.Candid.bind (Program.candid_perform (fun _ => rfl) fun _ => rfl) fun _ => ?_
      split
      · exact (sendNotice_candid bound user token confirm).bind fun _ => Program.candid_pure _
      · exact Program.candid_pure _

theorem stored_candid (bound : Log.Context) (token : String) (confirm : Bool) (u : User)
    (password : Option String) :
    ((Program.persist u password none).outcome >>=
      answered bound candidate token confirm).Candid := by
  refine Program.candid_outcome_bind (fun reply hfatal => ?_) fun reply hreply => ?_
  · cases reply with
    | ok back => cases hfatal
    | error e =>
      cases e with
      | duplicate field message => cases hfatal
      | _ => exact ⟨_, rfl⟩
  · cases reply with
    | ok back => exact complete_candid bound token confirm back
    | error e =>
      cases e with
      | duplicate field message => exact (Program.reads_line bound _ _).candid
      | _ => cases hreply

theorem storeAs_candid (site : Installation) (bound : Log.Context) (password : Option String)
    (token : String) : (storeAs site bound candidate password token).Candid := by
  refine (Program.reads_confirmationRequired site bound).candid.bind fun confirm => ?_
  rw [Draft.build, dif_pos (toStore_valid candidate token confirm)]
  exact stored_candid bound token confirm _ _

theorem steps_candid (site : Installation) (bound : Log.Context) (password token : Option String) :
    (steps site bound candidate password token).Candid := by
  refine (Program.reads_readWhole bound _ _ _).candid.bind fun minimum => ?_
  split
  · exact (Program.reads_line bound _ _).candid
  refine Program.Candid.bind (Program.candid_perform (fun _ => rfl) fun _ => rfl) fun loginFree => ?_
  refine Program.Candid.bind (Program.candid_perform (fun _ => rfl) fun _ => rfl) fun emailFree => ?_
  split
  · exact (Program.reads_line bound _ _).candid
  split
  · exact (Program.reads_line bound _ _).candid
  rw [store_eq]
  split
  · exact storeAs_candid site bound password _
  · exact Program.Candid.bind (Program.candid_perform (fun _ => rfl) fun _ => rfl) fun drawn =>
      storeAs_candid site bound password drawn

/-- A registration fails exactly where an answer is fatal. -/
theorem registerUser_candid (site : Installation) (outer : Log.Context) (candidate : User)
    (password token : Option String) :
    (registerUser site outer candidate password token).Candid :=
  Program.candid_within _ _ _ fun bound =>
    (steps_candid site bound password token).recover fun e =>
      Program.wrapFailure_fails fullWatch bound _ _ e

theorem selfSteps_candid (site : Installation) (bound : Log.Context) (form : Form) :
    (selfSteps site bound form).Candid := by
  refine (Program.reads_readFlag bound _ _).candid.bind fun allowed => ?_
  split
  · exact (Program.reads_line bound _ _).candid
  refine (Program.reads_resolver site bound).candid.bind fun resolver => ?_
  refine (Program.candid_defaultGroup site).bind fun group => ?_
  rw [Draft.build, dif_pos (form.draft_valid _ group)]
  refine (registerUser_candid site bound _ form.password none).bind fun o => ?_
  split
  · refine (Program.reads_confirmationRequired site bound).candid.bind fun confirm => ?_
    split
    · exact Program.candid_pure _
    · exact Program.candid_pure _
  · exact Program.candid_pure _

/-- **Self-service does not fail**, and has nothing to report exactly where an answer was fatal. -/
theorem register_candid (site : Installation) (outer : Log.Context) (form : Form) :
    (register site outer form).Tells fullWatch fun log r =>
      ∃ o, r = .ok o ∧ (o = none ↔ ∃ x ∈ log, x.isFatal = true) := by
  have hbody : ∀ bound, ((do return some (← selfSteps site bound form) :
      Program (Option Outcome)).recover fun _ => do
        Program.log bound (Log.error "Self registration failed")
        return none).Tells fullWatch fun log r =>
          ∃ o, r = .ok o ∧ (o = none ↔ ∃ x ∈ log, x.isFatal = true) := by
    intro bound
    have hsteps : (do return some (← selfSteps site bound form) :
        Program (Option Outcome)).Tells fullWatch fun log r =>
          ∃ r₀ : Except Failure Outcome, r = r₀.map some ∧
            ((∃ x ∈ log, x.isFatal = true) ↔ ∃ e, r₀ = .error e) := by
      refine Program.Tells.bind (selfSteps_candid site bound form) (fun log o h => ?_)
        fun log e h => ⟨.error e, rfl, h⟩
      exact ⟨.ok o, rfl, by rwa [List.append_nil]⟩
    refine hsteps.recover ?_ ?_
    · rintro log o ⟨r₀, hr, h⟩
      cases r₀ with
      | error e => cases hr
      | ok o₀ =>
        cases hr
        exact ⟨_, rfl, iff_of_false nofun (by simp [h])⟩
    · rintro log e ⟨r₀, hr, h⟩
      cases r₀ with
      | ok o₀ => cases hr
      | error e₀ =>
        obtain ⟨x, hx, hfatal⟩ := h.mpr ⟨e₀, rfl⟩
        refine Program.tells_perform_bind (fun _ => ?_) fun e' he' => ?_
        · exact ⟨none, rfl, iff_of_true rfl ⟨x, List.mem_append_left _ hx, hfatal⟩⟩
        · obtain ⟨_, h⟩ := he' rfl
          cases h
  rw [register, Program.within]
  split
  · exact hbody _
  · refine Program.tells_perform_bind (fun run => (hbody _).mono fun log r hr => ?_) fun e he => ?_
    · rwa [Program.fatal_cons rfl]
    · obtain ⟨_, h⟩ := he rfl
      cases h

/-- An email that could not be sent is reported beside the account that was stored. -/
theorem Report.of_unsent {calm : Call → Bool} {talk : List Exchange} {r : Except Failure Outcome}
    (hreport : Report calm candidate talk r) (hcalm : ∀ event, calm (.log event) = true) {n : Notice}
    (hunsent : ⟨.notify n, .error e⟩ ∈ talk) :
    ∃ u password v, ⟨.persist u password none, .ok (some v)⟩ ∈ talk ∧
      r = .ok { user := some v, notificationError := some e.description } := by
  cases hreport with
  | unasked => cases hunsent
  | refused => simp at hunsent
  | unidentified => simp at hunsent
  | uncommitted => simp at hunsent
  | unannounced => simp at hunsent
  | @announced u v password n' sent _ _ _ hr hok =>
    obtain ⟨-, rfl⟩ : n = n' ∧ .error e = sent := by simpa using hunsent
    obtain ⟨o, rfl⟩ := hok hcalm
    exact ⟨u, password, v, List.mem_cons_self, by rw [hr o rfl]; rfl⟩

end Registration

/-- **The failures of collaborators**, whatever their answers are, as long as the log takes every line.
Where a call fails in a registration or a linking that is to stop it, nothing has been committed and
nothing is; the failure of a collaborator that is in the words of a workflow is passed on, and any
other one becomes, after a rollback, the cause of one that is.  Where the notifier fails, the account
has been stored and is reported with a text that is not empty.  Self-service never fails, and reports
nothing exactly where an answer was fatal. -/
theorem faults_contained (h : Handler σ) (hlog : ∀ event s, (h (.log event) s).1 = .ok ())
    (s : σ) (site : Installation) (outer : Log.Context) :
    (∀ (candidate : User) (password token : Option String) (before after : List Exchange)
      (c : Call) (e : Failure),
      let register := Registration.registerUser site outer candidate password token
      register.transcript h s = before ++ ⟨c, .error e⟩ :: after → c.stops e = true →
        Abandoned ("register '" ++ candidate.login ++ "'") e before after (register.run h s).1) ∧
    (∀ (a : Assertion) (provider : String) (before after : List Exchange) (c : Call) (e : Failure),
      let link := Linking.linkOrCreate site outer a provider
      link.transcript h s = before ++ ⟨c, .error e⟩ :: after → c.stops e = true →
        Abandoned ("link '" ++ a.uid ++ "'") e before after (link.run h s).1) ∧
    (∀ (candidate : User) (password token : Option String) (n : Notice) (e : Failure),
      let register := Registration.registerUser site outer candidate password token
      let talk := register.transcript h s
      ⟨.notify n, .error e⟩ ∈ talk →
        ∃ u given v, ⟨.persist u given none, .ok (some v)⟩ ∈ talk ∧
          (register.run h s).1 = .ok { user := some v, notificationError := some e.description } ∧
          e.description ≠ "") ∧
    ((∀ s, ∃ id, (h .freshRun s).1 = .ok id) → ∀ form,
      let register := Registration.register site outer form
      ∃ o, (register.run h s).1 = .ok o ∧
        (o = none ↔ ∃ x ∈ register.transcript h s, x.isFatal = true)) := by
  refine ⟨?_, ?_, ?_, ?_⟩
  · intro candidate password token before after c e register hx hc
    refine Program.abandoned_within outer _ _ (fun bound s before after hx => ?_) hc hx
    exact (Registration.steps_heeds site bound candidate password token).abandoned hlog bound _ _ hx hc
  · intro a provider before after c e link hx hc
    refine Program.abandoned_within outer _ _ (fun bound s before after hx => ?_) hc hx
    exact (Linking.steps_heeds site bound a provider).abandoned hlog bound _ _ hx hc
  · intro candidate password token n e register talk hx
    have hadmits : (reportWatch Call.isLog).Admits h := by
      intro c s hcalm
      cases c with
      | log event => exact ⟨(), hlog event s⟩
      | _ => cases hcalm
    have hreport : Registration.Report Call.isLog candidate
        (register.noted (reportWatch Call.isLog) h s) (register.run h s).1 :=
      (Registration.registerUser_reports site outer candidate password token).noted hadmits s
    obtain ⟨u, given, v, hstored, hresult⟩ :=
      hreport.of_unsent (fun _ => rfl) ((Program.mem_noted rfl).mpr hx)
    exact ⟨u, given, v, (Program.mem_noted rfl).mp hstored, hresult, e.description_ne_empty⟩
  · intro hrun form register
    have hadmits : fullWatch.Admits h := by
      intro c s hcalm
      cases c with
      | log event => exact ⟨(), hlog event s⟩
      | freshRun => exact hrun s
      | _ => cases hcalm
    obtain ⟨o, ho, hnone⟩ := (Registration.register_candid site outer form).noted hadmits s
    simp only [Program.mem_noted (v := fullWatch) rfl] at hnone
    exact ⟨o, ho, hnone⟩

/-- The storage is closed when the account is to be stored. -/
theorem faults_contained_unstored :
    let candidate : User := { login := "alice", valid := by decide }
    let cast : Workflow.Cast := {
      persist := .always (.error .storageClosed)
      now := { year := 2026, month := 1, day := 1 }
      token := fun _ => "token"
      runId := fun _ => "run" }
    let register := Registration.registerUser {} {} candidate none none
    let rehearsal : Workflow.Rehearsal := { cast := cast }
    (∀ event s, (Workflow.Rehearsal.answer (.log event) s).1 = .ok ()) ∧
      ∃ before after c e,
        register.transcript Workflow.Rehearsal.answer rehearsal = before ++ ⟨c, .error e⟩ :: after ∧
        c.stops e = true ∧ e.isCollaborator = false ∧
        Abandoned "register 'alice'" e before after
          (register.run Workflow.Rehearsal.answer rehearsal).1 := by
  intro candidate cast register rehearsal
  have hlog : ∀ event s, (Workflow.Rehearsal.answer (.log event) s).1 = .ok () := fun _ _ => rfl
  have hstopped : ((register.transcript Workflow.Rehearsal.answer rehearsal).any fun x =>
      match x.reply with
      | .ok _ => false
      | .error e => x.call.stops e && !e.isCollaborator) = true := by decide +kernel
  obtain ⟨⟨c, reply⟩, hmem, hx⟩ := List.any_eq_true.mp hstopped
  cases reply with
  | ok a => cases hx
  | error e =>
    obtain ⟨hc, he⟩ : c.stops e = true ∧ e.isCollaborator = false := by simpa using hx
    obtain ⟨before, after, htalk⟩ := List.append_of_mem hmem
    exact ⟨hlog, before, after, c, e, htalk, hc, he,
      (faults_contained Workflow.Rehearsal.answer hlog rehearsal {} {}).1 candidate none none
        before after c e htalk hc⟩

end Enrollment
