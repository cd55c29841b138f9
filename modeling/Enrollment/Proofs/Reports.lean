/-
What the workflows report, and what they have done by then.

Of all calls four are reported: a password is drawn, an account is stored, the session is committed,
an email is sent.  `Registration.Report` and `Linking.Report` list these calls of a run together with
what the run comes to, whatever any collaborator answers.

* `Program.tells_line_bind`, `Program.tells_line_pure` — a line in the log is not reported, and the
  run may fail on it;
* `registerUser_reports`, `register_reports`, `linkOrCreate_reports` — every run is of this kind.
-/
import Enrollment.Proofs.PolicyChange
import Enrollment.Proofs.Stages
import Enrollment.Proofs.Transcript

namespace Enrollment

variable {α σ : Type} {h : Handler σ} {calm : Call → Bool} {talk : List Exchange}

/-! ### Failures have something to say -/

theorem Constraint.message_ne_empty (rule : Constraint) : rule.message ≠ "" := by
  cases rule <;> decide

/-- A failure without words is called by the name of its kind, and every kind has one. -/
theorem Failure.description_ne_empty (e : Failure) : e.description ≠ "" := by
  by_cases hempty : e.report = ""
  · rw [Failure.description, if_pos hempty]
    cases e with
    | foreign kind message => exact kind.named
    | duplicate field message => simp [label]
    | collaborator message => simp [label]
    | caused message cause => simp [label]
    | notAHash => simp [label]
    -- All other failures have words of their own.
    | refused rule => exact absurd hempty rule.message_ne_empty
    | unknownName set name =>
      change Text.quoted name ++ " is not a valid " ++ set = "" at hempty
      rw [String.append_eq_empty_iff, String.append_eq_empty_iff] at hempty
      exact absurd hempty.1.2 (by decide)
    | notATimestamp text =>
      change _ ++ Text.quoted text = "" at hempty
      exact absurd (String.append_eq_empty_iff.mp hempty).1 (by decide)
    | accountMissing id =>
      change _ ++ "' not found" = "" at hempty
      exact absurd (String.append_eq_empty_iff.mp hempty).2 (by decide)
    | notAscii run =>
      change run.message = "" at hempty
      rw [Text.NotAscii.message, String.append_eq_empty_iff] at hempty
      exact absurd hempty.2 (by decide)
    | _ => exact absurd hempty (by decide)
  · rwa [Failure.description, if_neg hempty]

/-! ### Calls that are reported -/

/-- Whether a call is reported: it draws a password, or leaves something behind. -/
def Call.isReported : Call → Bool
  | .randomPassword _ => true
  | .persist _ _ _ => true
  | .commit => true
  | .notify _ => true
  | _ => false

/-- The calls that are reported are noted; which calls never fail is left open. -/
def reportWatch (calm : Call → Bool) : Watch := ⟨Call.isReported, calm⟩

/-- Without a call that never fails, every handler may be watched. -/
theorem reportWatch_admits (h : Handler σ) : (reportWatch fun _ => false).Admits h :=
  fun _ _ hcalm => nomatch hcalm

/-- A line in the log comes first, and it is not noted; the log may keep what follows from being
done. -/
theorem Program.tells_line_bind (bound : Log.Context) (e : Log.Event) {k : Unit → Program α}
    {Q : List Exchange → Except Failure α → Prop} (hk : (k ()).Tells (reportWatch calm) Q)
    (herror : (¬∀ e, calm (.log e) = true) → ∀ e, Q [] (.error e)) :
    (Program.log bound e >>= k).Tells (reportWatch calm) Q := by
  refine Program.tells_perform_bind (fun _ => hk) fun e' he' => herror (fun hcalm => ?_) e'
  obtain ⟨_, ha⟩ := he' (hcalm _)
  cases ha

/-- A line in the log and then a result: only the log can keep the program from it. -/
theorem Program.tells_line_pure (bound : Log.Context) (e : Log.Event) (a : α) :
    (do Program.log bound e; return a : Program α).Tells (reportWatch calm) fun log r =>
      log = [] ∧ (∀ b, r = .ok b → b = a) ∧ ((∀ e, calm (.log e) = true) → r = .ok a) := by
  refine Program.tells_line_bind bound e ⟨rfl, fun b hb => ?_, fun _ => rfl⟩ fun hnot e' =>
    ⟨rfl, fun b hb => ?_, fun hcalm => absurd hcalm hnot⟩
  · cases hb
    rfl
  · cases hb

namespace Registration

variable {candidate : User}

/-! ### What a registration reports -/

/-- What is reported of an email, given what the notifier answered. -/
def problemOf : Except Failure Bool → Option String
  | .ok true => none
  | .ok false => some declined
  | .error e => some e.description

theorem problemOf_ne_empty {sent : Except Failure Bool} {text : String}
    (htext : problemOf sent = some text) : text ≠ "" := by
  match sent with
  | .ok true => cases htext
  | .ok false =>
    cases htext
    decide
  | .error e =>
    cases htext
    exact e.description_ne_empty

theorem problemOf_isSome (sent : Except Failure Bool) :
    (problemOf sent).isSome = true ↔ sent ≠ .ok true := by
  match sent with
  | .ok true => simp [problemOf]
  | .ok false => simp [problemOf]
  | .error e => simp [problemOf]

/-- The calls of a registration that are reported, and what it comes to. -/
inductive Report (calm : Call → Bool) (candidate : User) :
    List Exchange → Except Failure Outcome → Prop where
  /-- Nothing is handed over to be stored. -/
  | unasked {r : Except Failure Outcome}
      (hr : ∀ o, r = .ok o →
        ∃ j ∈ [Rejection.loginTooShort, .loginInUse, .emailInUse], o = .reject j) :
      Report calm candidate [] r
  | refused {u : User} {password : Option String} {e : Failure} {r : Except Failure Outcome}
      (hr : ∀ o, r = .ok o → ∃ j ∈ [Rejection.loginInUse, .emailInUse], o = .reject j) :
      Report calm candidate [⟨.persist u password none, .error e⟩] r
  /-- No account with an id is given back. -/
  | unidentified {u : User} {password : Option String} {back : Option User}
      {r : Except Failure Outcome} (hback : (back.bind fun v => v.id) = none)
      (hr : ∀ o, r = .ok o → o = .reject .unknown) :
      Report calm candidate [⟨.persist u password none, .ok back⟩] r
  | uncommitted {u v : User} {password : Option String} {e e' : Failure}
      (hid : v.id.isSome = true) :
      Report calm candidate
        [⟨.persist u password none, .ok (some v)⟩, ⟨.commit, .error e⟩] (.error e')
  | unannounced {u v : User} {password : Option String} {r : Except Failure Outcome}
      (hid : v.id.isSome = true)
      (hr : ∀ o, r = .ok o → emailDue candidate = false ∧ o = .success v) :
      Report calm candidate
        [⟨.persist u password none, .ok (some v)⟩, ⟨.commit, .ok ()⟩] r
  /-- An email was due; only the log can keep the run from its result. -/
  | announced {u v : User} {password : Option String} {n : Notice} {sent : Except Failure Bool}
      {r : Except Failure Outcome} (hid : v.id.isSome = true) (hdue : emailDue candidate = true)
      (hr : ∀ o, r = .ok o → o = { user := some v, notificationError := problemOf sent })
      (hok : (∀ e, calm (.log e) = true) → ∃ o, r = .ok o) :
      Report calm candidate
        [⟨.persist u password none, .ok (some v)⟩, ⟨.commit, .ok ()⟩, ⟨.notify n, sent⟩] r

theorem Report.wrapped {e : Failure} (hreport : Report calm candidate talk (.error e))
    (e' : Failure) : Report calm candidate talk (.error e') := by
  generalize hr : Except.error e = r at hreport
  cases hreport with
  | unasked => exact .unasked fun _ h => nomatch h
  | refused => exact .refused fun _ h => nomatch h
  | unidentified hback => exact .unidentified hback fun _ h => nomatch h
  | uncommitted hid => exact .uncommitted hid
  | unannounced hid => exact .unannounced hid fun _ h => nomatch h
  | announced hid hdue _ hok =>
    refine .announced hid hdue (fun _ h => nomatch h) fun hcalm => ?_
    obtain ⟨o, ho⟩ := hok hcalm
    cases hr.trans ho

/-! Every run is of this kind. -/

theorem sendNotice_reports (bound : Log.Context) (user : User) (token : String) (confirm : Bool) :
    (sendNotice bound user token confirm).Tells (reportWatch calm) fun log r =>
      ∃ n sent, log = [⟨.notify n, sent⟩] ∧ (∀ problem, r = .ok problem → problem = problemOf sent) ∧
        ((∀ e, calm (.log e) = true) → r = .ok (problemOf sent)) := by
  refine Program.tells_outcome_bind fun sent _ => ?_
  match sent with
  | .ok true => exact ⟨_, _, rfl, fun _ h => by cases h; rfl, fun _ => rfl⟩
  | .ok false =>
    refine (Program.tells_line_pure bound _ _).mono ?_
    rintro _ r ⟨rfl, hr⟩
    exact ⟨_, _, rfl, hr⟩
  | .error e =>
    refine (Program.tells_line_pure bound _ _).mono ?_
    rintro _ r ⟨rfl, hr⟩
    exact ⟨_, _, rfl, hr⟩

theorem unidentified_reports (bound : Log.Context) :
    (complete.unidentified bound).Tells (reportWatch calm) fun log r =>
      log = [] ∧ ∀ o, r = .ok o → o = .reject .unknown := by
  refine (Program.quiet_perform rfl).tells_bind (fun _ _ => ?_) fun _ => ⟨rfl, fun _ h => nomatch h⟩
  exact (Program.tells_line_pure bound _ _).mono fun _ _ ⟨hlog, hr, _⟩ => ⟨hlog, hr⟩

/-- What was given back is committed if it has an id, and written to if an email is due. -/
theorem complete_reports (bound : Log.Context) (token : String) (confirm : Bool) (u : User)
    (password : Option String) (back : Option User) :
    (complete bound candidate token confirm back).Tells (reportWatch calm) fun log r =>
      Report calm candidate (⟨.persist u password none, .ok back⟩ :: log) r := by
  cases back with
  | none =>
    refine (unidentified_reports bound).mono ?_
    rintro _ r ⟨rfl, hr⟩
    exact .unidentified rfl hr
  | some v =>
    rw [complete]
    by_cases hid : v.id.isNone = true
    · rw [if_pos hid]
      refine (unidentified_reports bound).mono ?_
      rintro _ r ⟨rfl, hr⟩
      exact .unidentified (Option.isNone_iff_eq_none.mp hid) hr
    · rw [if_neg hid]
      have hsome : v.id.isSome = true := by simpa [Option.isSome_iff_ne_none] using hid
      refine Program.tells_perform_bind (fun _ => ?_) fun e _ => .uncommitted hsome
      refine Program.tells_line_bind bound _ ?_ fun _ _ => .unannounced hsome fun _ h => by cases h
      by_cases hdue : emailDue candidate = true
      · rw [if_pos hdue]
        refine (sendNotice_reports bound v token confirm).bind ?_ ?_
        · rintro _ problem ⟨n, sent, rfl, hproblem, -⟩
          rw [hproblem problem rfl]
          exact .announced hsome hdue (fun o h => by cases h; rfl) fun _ => ⟨_, rfl⟩
        · rintro _ e ⟨n, sent, rfl, -, hok⟩
          exact .announced hsome hdue (fun o h => by cases h) fun hcalm => by cases hok hcalm
      · rw [if_neg hdue]
        exact .unannounced hsome fun o h => by cases h; exact ⟨by simpa using hdue, rfl⟩

/-- How storing the account is answered, the run goes on. -/
theorem stored_reports (bound : Log.Context) (token : String) (confirm : Bool) (u : User)
    (password : Option String) :
    ((Program.persist u password none).outcome >>=
      answered bound candidate token confirm).Tells (reportWatch calm)
        (Report calm candidate) := by
  refine Program.tells_outcome_bind fun reply _ => ?_
  cases reply with
  | ok back => exact complete_reports bound token confirm u password back
  | error e =>
    cases e with
    | duplicate field message =>
      refine (Program.tells_line_pure bound _ _).mono ?_
      rintro _ r ⟨rfl, hr, -⟩
      refine .refused fun o ho => ⟨lostTo field, ?_, hr o ho⟩
      rw [lostTo]
      split <;> decide
    | _ => exact .refused fun _ h => nomatch h

/-- Nothing is handed over before the need for a confirmation is known. -/
theorem storeAs_reports (site : Installation) (bound : Log.Context) (password : Option String)
    (token : String) :
    (storeAs site bound candidate password token).Tells (reportWatch calm)
      (Report calm candidate) := by
  have hfailed : ∀ e, Report calm candidate [] (.error e) := fun e => .unasked fun _ h => nomatch h
  refine (Program.quiet_confirmationRequired (fun _ => rfl) rfl rfl site bound).tells_bind
    (fun confirm _ => ?_) hfailed
  refine (Program.quiet_ofExcept _).tells_bind (fun u _ => ?_) hfailed
  exact stored_reports bound token confirm u _

theorem store_reports (site : Installation) (bound : Log.Context) (password token : Option String) :
    (store site bound candidate password token).Tells (reportWatch calm)
      (Report calm candidate) := by
  rw [store_eq]
  split
  · exact storeAs_reports site bound password _
  · exact (Program.quiet_perform rfl).tells_bind
      (fun drawn _ => storeAs_reports site bound password drawn) fun _ => .unasked fun _ h => nomatch h

theorem turnDown_reports (bound : Log.Context) (reason : String) {j : Rejection}
    (hj : j ∈ [Rejection.loginTooShort, .loginInUse, .emailInUse]) :
    (turnDown bound reason j).Tells (reportWatch calm) (Report calm candidate) := by
  refine (Program.tells_line_pure bound _ _).mono ?_
  rintro _ r ⟨rfl, hr, -⟩
  exact .unasked fun o ho => ⟨j, hj, hr o ho⟩

theorem steps_reports (site : Installation) (bound : Log.Context) (password token : Option String) :
    (steps site bound candidate password token).Tells (reportWatch calm)
      (Report calm candidate) := by
  have hfailed : ∀ e, Report calm candidate [] (.error e) := fun e => .unasked fun _ h => nomatch h
  rw [steps]
  refine (Program.quiet_readWhole (fun _ => rfl) rfl bound _ _).tells_bind (fun minimum _ => ?_)
    hfailed
  split
  · exact turnDown_reports bound _ (by decide)
  refine (Program.quiet_perform rfl).tells_bind (fun loginFree _ => ?_) hfailed
  refine (Program.quiet_perform rfl).tells_bind (fun emailFree _ => ?_) hfailed
  split
  · exact turnDown_reports bound _ (by decide)
  split
  · exact turnDown_reports bound _ (by decide)
  · exact store_reports site bound password token

/-- **Every run of a registration** is reported like this. -/
theorem registerUser_reports (site : Installation) (outer : Log.Context) (candidate : User)
    (password token : Option String) :
    (registerUser site outer candidate password token).Tells (reportWatch calm)
      (Report calm candidate) := by
  refine Program.tells_within rfl _ _ _ (fun bound => ?_) fun _ => .unasked fun _ h => nomatch h
  refine (steps_reports site bound password token).recover (fun _ _ h => h) fun log e h => ?_
  refine (Program.wrapFailure_tells rfl (fun _ => rfl) _ _ _ e).mono ?_
  rintro _ _ ⟨rfl, e', rfl, -⟩
  rw [List.append_nil]
  exact h.wrapped e'

/-- What a run reports that comes to `r`, whatever the handler is. -/
theorem registerUser_report {site : Installation} {outer : Log.Context}
    {password token : Option String} {s : σ} {r : Except Failure Outcome}
    (hr : ((registerUser site outer candidate password token).run h s).1 = r) :
    Report (fun _ => false) candidate
      ((registerUser site outer candidate password token).noted (reportWatch fun _ => false) h s) r :=
  hr ▸ (registerUser_reports site outer candidate password token).noted (reportWatch_admits h) s

/-- The calls of a self-service registration that are reported are those of the registration it
makes, if any. -/
inductive SelfReport (calm : Call → Bool) (form : Form) :
    List Exchange → Except Failure (Option Outcome) → Prop where
  | unasked {r : Except Failure (Option Outcome)}
      (hr : ∀ o, r = .ok (some o) → o = .reject .registrationDisabled) : SelfReport calm form [] r
  | registered {candidate : User} {talk : List Exchange} {r₀ : Except Failure Outcome}
      {r : Except Failure (Option Outcome)} (hdue : emailDue candidate = given form.email)
      (h : Report calm candidate talk r₀)
      (hr : ∀ o, r = .ok (some o) → ∃ confirm o₀, r₀ = .ok o₀ ∧ o = announced confirm o₀) :
      SelfReport calm form talk r

variable {form : Form}

/-- What came of the registration is reported, or that it waits for its confirmation. -/
theorem announced_reports (site : Installation) (bound : Log.Context) (o : Outcome) :
    (announce site bound o).Quiet (reportWatch calm) fun o' =>
      ∃ confirm, o' = announced confirm o := by
  rw [announce]
  by_cases hok : o.ok = true
  · rw [if_pos hok]
    refine (Program.quiet_confirmationRequired (fun _ => rfl) rfl rfl site bound).bind
      fun confirm _ => ?_
    cases confirm with
    | true => exact Program.quiet_pure ⟨true, by simp [announced, hok]⟩
    | false => exact Program.quiet_pure ⟨false, by simp [announced]⟩
  · rw [if_neg hok]
    exact Program.quiet_pure ⟨false, by simp [announced]⟩

theorem selfSteps_reports (site : Installation) (bound : Log.Context) (form : Form) :
    (selfSteps site bound form).Tells (reportWatch calm) fun log r =>
      SelfReport calm form log (r.map some) := by
  have hfailed : ∀ e : Failure, SelfReport calm form [] ((Except.error e).map some) :=
    fun e => .unasked fun _ h => nomatch h
  have hallowed : (Policy.selfRegistration site.settings bound).Quiet (reportWatch calm)
      fun _ => True :=
    Program.quiet_readFlag (fun _ => rfl) rfl _ _
  rw [selfSteps]
  refine hallowed.tells_bind (fun allowed _ => ?_) hfailed
  split
  · refine (Program.tells_line_pure bound _ _).mono ?_
    rintro _ r ⟨rfl, hr, -⟩
    refine .unasked fun o ho => ?_
    cases r with
    | error e => cases ho
    | ok b =>
      cases ho
      exact hr _ rfl
  refine (Program.quiet_resolver (fun _ => rfl) (fun _ => rfl) site bound).tells_bind
    (fun resolver _ => ?_) hfailed
  refine (Program.quiet_defaultGroup (fun _ => rfl) (fun _ => rfl) site).tells_bind
    (fun group _ => ?_) hfailed
  refine (Program.quiet_ofExcept _).tells_bind (fun candidate hbuild => ?_) hfailed
  have hdue : emailDue candidate = given form.email :=
    Form.emailDue_candidate (Draft.build_eq_ok.mp hbuild)
  refine (registerUser_reports site bound candidate form.password none).bind ?_ ?_
  · intro log o h
    refine (announced_reports site bound o).mono ?_
    rintro _ r ⟨rfl, hr⟩
    rw [List.append_nil]
    refine .registered hdue h fun o' ho' => ?_
    cases r with
    | error e => cases ho'
    | ok o'' =>
      cases ho'
      obtain ⟨confirm, ho⟩ := hr _ rfl
      exact ⟨confirm, o, rfl, ho⟩
  · exact fun log e h => .registered hdue h fun _ h => nomatch h

/-- **Every run of a self-service registration** is reported like this. -/
theorem register_reports (site : Installation) (outer : Log.Context) (form : Form) :
    (register site outer form).Tells (reportWatch calm) (SelfReport calm form) := by
  refine Program.tells_within rfl _ _ _ (fun bound => ?_) fun _ => .unasked fun _ h => nomatch h
  have hsteps : (do return some (← selfSteps site bound form) : Program (Option Outcome)).Tells
      (reportWatch calm) (SelfReport calm form) := by
    refine (selfSteps_reports site bound form).bind (fun log o h => ?_) fun _ _ h => h
    rw [← List.append_nil log] at h
    exact h
  refine hsteps.recover (fun _ _ h => h) fun log e h => ?_
  -- Whatever was done before it, a failure is reported as nothing.
  have hnone : ∀ r : Except Failure (Option Outcome), (∀ o, r ≠ .ok (some o)) →
      SelfReport calm form log r := by
    intro r hr
    cases h with
    | unasked => exact .unasked fun o ho => absurd ho (hr o)
    | registered hdue h _ => exact .registered hdue h fun o ho => absurd ho (hr o)
  refine (Program.tells_line_pure bound _ none).mono ?_
  rintro _ r ⟨rfl, hr, -⟩
  rw [List.append_nil]
  exact hnone r fun o ho => nomatch hr _ ho

/-- What a run reports that comes to `r`, whatever the handler is. -/
theorem register_report {site : Installation} {outer : Log.Context} {s : σ}
    {r : Except Failure (Option Outcome)} (hr : ((register site outer form).run h s).1 = r) :
    SelfReport (fun _ => false) form
      ((register site outer form).noted (reportWatch fun _ => false) h s) r :=
  hr ▸ (register_reports site outer form).noted (reportWatch_admits h) s

end Registration

namespace Linking

/-- A length of passwords that the policy can come to, whatever is stored. -/
def PasswordLength (s : Settings) (n : Int) : Prop :=
  ∃ stored, n = (Policy.whole s.passwordLength (some leastPasswordLength) stored).value

/-- An account is handed over, with a password that has just been drawn. -/
def handed (n : Int) (password : String) (u : User) (reply : Except Failure (Option User)) :
    List Exchange :=
  [⟨.randomPassword n, .ok password⟩, ⟨.persist u (some password) (some systemActor), reply⟩]

/-- The calls of a linking that are reported, and what it comes to. -/
inductive Report (s : Settings) : List Exchange → Except Failure Outcome → Prop where
  | unasked {r : Except Failure Outcome}
      (hr : ∀ o, r = .ok o → ∃ j ∈ [Rejection.invalidLogin, .emailConflict], o = .reject j) :
      Report s [] r
  /-- Nothing is handed over once the password is drawn, or it cannot be drawn. -/
  | unhanded {n : Int} {reply : Except Failure String} {e : Failure} (hn : PasswordLength s n) :
      Report s [⟨.randomPassword n, reply⟩] (.error e)
  /-- The account cannot be stored; that may not be the end. -/
  | refused {n : Int} {password : String} {u : User} {e : Failure} {talk : List Exchange}
      {r : Except Failure Outcome} (hn : PasswordLength s n) (rest : Report s talk r) :
      Report s (handed n password u (.error e) ++ talk) r
  | uncommitted {n : Int} {password : String} {u : User} {back : Option User} {e e' : Failure}
      (hn : PasswordLength s n) :
      Report s (handed n password u (.ok back) ++ [⟨.commit, .error e⟩]) (.error e')
  /-- Whatever was given back is committed. -/
  | committed {n : Int} {password : String} {u : User} {back : Option User}
      {r : Except Failure Outcome} (hn : PasswordLength s n)
      (hr : ∀ o, r = .ok o → ∃ v, back = some v ∧ o = .success v) :
      Report s (handed n password u (.ok back) ++ [⟨.commit, .ok ()⟩]) r

variable {s : Settings}

theorem Report.failed (e : Failure) : Report s [] (.error e) := .unasked fun _ h => nomatch h

theorem Report.wrapped {e : Failure} (hreport : Report s talk (.error e)) (e' : Failure) :
    Report s talk (.error e') := by
  generalize hr : Except.error e = r at hreport
  induction hreport with
  | unasked => exact .failed e'
  | unhanded hn => exact .unhanded hn
  | refused hn _ ih => exact .refused hn (ih hr)
  | uncommitted hn => exact .uncommitted hn
  | committed hn => exact .committed hn fun _ h => nomatch h

section Handed

variable {n : Int} (hn : PasswordLength s n)
include hn

theorem complete_reports (bound : Log.Context) (created : Bool) (password : String) (u : User)
    (back : Option User) :
    (complete bound created back).Tells (reportWatch calm) fun log r =>
      Report s (handed n password u (.ok back) ++ log) r := by
  refine Program.tells_perform_bind (fun _ => ?_) fun _ _ => .uncommitted hn
  cases back with
  | none => exact .committed hn fun _ h => nomatch h
  | some v =>
    refine (Program.tells_line_pure bound _ _).mono ?_
    rintro _ r ⟨rfl, hr, -⟩
    exact .committed hn fun o ho => ⟨v, rfl, hr o ho⟩

theorem afterFailure_reports (bound : Log.Context) {a : Assertion} (created : Bool)
    {again : Option (Program Outcome)}
    (hagain : ∀ p ∈ again, p.Tells (reportWatch calm) (Report s)) (password : String) (u : User)
    (e : Failure) :
    (afterFailure bound a created again e).Tells (reportWatch calm) fun log r =>
      Report s (handed n password u (.error e) ++ log) r := by
  unfold afterFailure
  split
  · rename_i field message p
    refine Program.tells_line_bind bound _ ?_ fun _ _ => .refused hn (.failed _)
    exact (hagain p rfl).mono fun log r h => .refused hn h
  · exact .refused hn (.failed _)
  · exact .refused hn (.failed _)

end Handed

theorem attempt_reports (site : Installation) (bound : Log.Context) (a : Assertion)
    (provider : String) {again : Option (Program Outcome)}
    (hagain : ∀ p ∈ again, p.Tells (reportWatch calm) (Report site.settings)) :
    (attempt site bound a provider again).Tells (reportWatch calm) (Report site.settings) := by
  have hturnedDown : ∀ (e : Log.Event) (j : Rejection), j ∈ [Rejection.invalidLogin, .emailConflict] →
      (do Program.log bound e; return .reject j : Program Outcome).Tells (reportWatch calm)
        (Report site.settings) := by
    intro e j hj
    refine (Program.tells_line_pure bound e _).mono ?_
    rintro _ r ⟨rfl, hr, -⟩
    exact .unasked fun o ho => ⟨j, hj, hr o ho⟩
  rw [attempt]
  refine (Program.quiet_readWhole (fun _ => rfl) rfl _ _ _).tells_bind (fun minimum _ => ?_)
    Report.failed
  split
  · exact hturnedDown _ _ (by decide)
  refine (Program.quiet_perform rfl).tells_bind (fun found _ => ?_) Report.failed
  refine (Program.quiet_perform rfl).tells_bind (fun free _ => ?_) Report.failed
  split
  · exact hturnedDown _ _ (by decide)
  refine (Program.quiet_resolver (fun _ => rfl) (fun _ => rfl) site bound).tells_bind
    (fun resolver _ => ?_) Report.failed
  refine (Program.quiet_baseDraft (fun _ => rfl) (fun _ => rfl) site a provider resolver
    found).tells_bind (fun base _ => ?_) Report.failed
  refine (Program.quiet_perform rfl).tells_bind (fun now _ => ?_) Report.failed
  -- From here on the password is drawn: its length is known, and each ending says so.
  refine (Program.quiet_readWhole (fun _ => rfl) rfl _ _ _).tells_bind (fun length hlength => ?_)
    Report.failed
  refine Program.tells_perform_bind (fun password => ?_) fun e _ => .unhanded hlength
  refine (Program.quiet_ofExcept _).tells_bind (fun u _ => ?_) fun e => .unhanded hlength
  refine Program.tells_outcome_bind fun reply _ => ?_
  cases reply with
  | ok back => exact complete_reports hlength bound _ password u back
  | error e => exact afterFailure_reports hlength bound _ hagain password u e

/-- **Every run of linking** is reported like this. -/
theorem linkOrCreate_reports (site : Installation) (outer : Log.Context) (a : Assertion)
    (provider : String) :
    (linkOrCreate site outer a provider).Tells (reportWatch calm) (Report site.settings) := by
  refine Program.tells_within rfl _ _ _ (fun bound => ?_) Report.failed
  -- The last attempt has none to follow it, the first one has the last.
  have hlast : (steps site bound a provider 0).Tells (reportWatch calm) (Report site.settings) :=
    attempt_reports site bound a provider (by simp)
  have hsteps : (steps site bound a provider 1).Tells (reportWatch calm) (Report site.settings) :=
    attempt_reports site bound a provider fun p hp => by cases hp; exact hlast
  refine hsteps.recover (fun _ _ h => h) fun log e h => ?_
  refine (Program.wrapFailure_tells rfl (fun _ => rfl) _ _ _ e).mono ?_
  rintro _ _ ⟨rfl, e', rfl, -⟩
  rw [List.append_nil]
  exact h.wrapped e'

/-- What a run reports that comes to `r`, whatever the handler is. -/
theorem linkOrCreate_report {site : Installation} {outer : Log.Context} {a : Assertion}
    {provider : String} {s : σ} {r : Except Failure Outcome}
    (hr : ((linkOrCreate site outer a provider).run h s).1 = r) :
    Report site.settings
      ((linkOrCreate site outer a provider).noted (reportWatch fun _ => false) h s) r :=
  hr ▸ (linkOrCreate_reports site outer a provider).noted (reportWatch_admits h) s

end Linking

end Enrollment
