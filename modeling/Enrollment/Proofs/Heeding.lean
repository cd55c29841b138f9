/-
Programs that heed the failures of collaborators.

A failure ends the steps of a workflow, unless it is one that the workflow goes on after: a key that
is taken where an account is to be stored, an email that cannot be sent.  The session is then rolled
back, and the failure is passed on as the cause of another one.

* `Program.Reads` — programs that read the configuration, such as most policies;
* `Program.Heeds` — programs that end with the first failure they are to heed, and have committed
  nothing by then (`Heeds.stopped`);
* `Abandoned`, `Heeds.abandoned` — how a run ends that was stopped;
* `Registration.steps_heeds`, `Linking.steps_heeds` — the steps of both workflows heed failures.
-/
import Enrollment.Proofs.Stages
import Enrollment.Proofs.Transcript

namespace Enrollment

variable {α β σ : Type} {h : Handler σ} {s : σ} {c : Call} {e : Failure}

/-! ### Programs that read the configuration -/

/-- Whether a call reads the configuration or writes to the log. -/
def Call.isReading : Call → Bool
  | .configValue _ => true
  | .log _ => true
  | _ => false

namespace Program

variable {p : Program α}

/-- The program reads the configuration and writes to the log, and fails only where that fails. -/
def Reads : Program α → Prop
  | .done _ => True
  | .fail _ => False
  | .call c next =>
    c.isReading = true ∧ (∀ e, next (.error e) = .fail e) ∧ ∀ a, (next (.ok a)).Reads

theorem Reads.bind {k : α → Program β} (hp : p.Reads) (hk : ∀ a, (k a).Reads) :
    (p >>= k).Reads := by
  change (p.bind k).Reads
  induction p with
  | done a => exact hk a
  | fail e => exact hp.elim
  | call c next ih =>
    obtain ⟨hc, hfail, hnext⟩ := hp
    refine ⟨hc, fun e => ?_, fun a => ih _ (hnext a)⟩
    change (next (.error e)).bind k = .fail e
    rw [hfail e]
    rfl

theorem reads_pure (a : α) : (pure a : Program α).Reads := trivial

theorem reads_perform (hc : c.isReading = true) : (perform c).Reads :=
  ⟨hc, fun _ => rfl, fun _ => trivial⟩

/-- A line in the log and then a result. -/
theorem reads_line (bound : Log.Context) (event : Log.Event) (a : α) :
    (do Program.log bound event; return a : Program α).Reads :=
  (reads_perform rfl).bind fun _ => reads_pure a

theorem reads_settle (bound : Log.Context) (key : String) (v : Policy.Verdict α) :
    (v.settle bound key).Reads := by
  rw [Policy.Verdict.settle]
  cases v.warning with
  | none => exact reads_pure _
  | some w => exact reads_line bound _ _

theorem reads_readFlag (bound : Log.Context) (key : String) (fallback : Bool) :
    (Policy.readFlag bound key fallback).Reads :=
  (reads_perform rfl).bind fun _ => reads_settle bound key _

theorem reads_readWhole (bound : Log.Context) (key : String) (fallback : Int)
    (minimum : Option Int) : (Policy.readWhole bound key fallback minimum).Reads :=
  (reads_perform rfl).bind fun _ => reads_settle bound key _

theorem reads_readText (key : String) (fallback : Option String) :
    (Policy.readText key fallback).Reads :=
  (reads_perform rfl).bind fun _ => reads_pure _

theorem reads_resolver (site : Installation) (bound : Log.Context) :
    (site.resolver bound).Reads := by
  refine (reads_readWhole bound _ _ none).bind fun language => ?_
  exact ((reads_readText _ _).bind fun _ => reads_pure _).bind fun _ => reads_pure _

theorem reads_confirmationRequired (site : Installation) (bound : Log.Context) :
    (Registration.confirmationRequired site bound).Reads := by
  have hurl : (Policy.baseUrl site.settings).Reads :=
    (reads_perform rfl).bind fun _ => reads_pure _
  refine hurl.bind fun url => ?_
  by_cases h : url = ""
  · rw [if_pos h]
    exact reads_pure _
  · rw [if_neg h]
    exact reads_readFlag bound _ _

end Program

/-! ### Programs that heed failures -/

/-- Whether a workflow has to end where a call fails so.  It goes on without an email and without a
line in the log, and where a key is taken there is more to be done. -/
def Call.stops : Call → Failure → Bool
  | .notify _, _ => false
  | .rollback, _ => false
  | .log _, _ => false
  | .freshRun, _ => false
  | .persist _ _ _, .duplicate _ _ => false
  | _, _ => true

/-- A call whose failure stops no workflow. -/
def Call.Harmless (c : Call) : Prop := ∀ e, c.stops e = false

namespace Program

variable {p : Program α}

/-- The program fails as soon as a call fails that stops it; once it has committed, none can. -/
def Heeds : Program α → Prop
  | .done _ => True
  | .fail _ => True
  | .call c next =>
    (∀ e, c.stops e = true → next (.error e) = .fail e) ∧
      (c.isCommit = true → ∀ r, (next r).Only Call.Harmless) ∧ ∀ r, (next r).Heeds

/-- The program heeds failures, and commits nothing. -/
def Asks (p : Program α) : Prop := p.Heeds ∧ p.Only (·.isCommit = false)

theorem heeds_of_harmless (hp : p.Only Call.Harmless) : p.Heeds := by
  induction p with
  | done a => trivial
  | fail e => trivial
  | call c next ih =>
    refine ⟨fun e he => ?_, fun _ => hp.2, fun r => ih r (hp.2 r)⟩
    rw [hp.1 e] at he
    cases he

theorem Asks.bind_heeds {k : α → Program β} (hp : p.Asks) (hk : ∀ a, (k a).Heeds) :
    (p >>= k).Heeds := by
  change (p.bind k).Heeds
  induction p with
  | done a => exact hk a
  | fail e => trivial
  | call c next ih =>
    obtain ⟨⟨hstops, -, hheeds⟩, hc, honly⟩ := hp
    refine ⟨fun e he => ?_, fun h => absurd h (by simp [hc]), fun r => ih r ⟨hheeds r, honly r⟩⟩
    change (next (.error e)).bind k = .fail e
    rw [hstops e he]
    rfl

theorem Asks.bind {k : α → Program β} (hp : p.Asks) (hk : ∀ a, (k a).Asks) : (p >>= k).Asks :=
  ⟨hp.bind_heeds fun a => (hk a).1, hp.2.bind fun a => (hk a).2⟩

theorem asks_pure (a : α) : (pure a : Program α).Asks := ⟨trivial, trivial⟩

theorem asks_fail (e : Failure) : (Program.fail e : Program α).Asks := ⟨trivial, trivial⟩

theorem asks_ofExcept (r : Except Failure α) : (ofExcept r).Asks := by
  cases r with
  | ok a => exact asks_pure a
  | error e => exact asks_fail e

theorem asks_perform (hc : c.isCommit = false) : (perform c).Asks := by
  refine ⟨⟨fun _ _ => rfl, fun h => absurd h (by simp [hc]), ?_⟩, only_perform hc⟩
  rintro (e | a)
  · trivial
  · trivial

/-- A call whose failure is a value comes first: the program must go on where it is not stopped. -/
theorem heeds_outcome_bind {k : Except Failure c.Reply → Program β} (hc : c.isCommit = false)
    (hstops : ∀ e, c.stops e = true → k (.error e) = .fail e) (hk : ∀ r, (k r).Heeds) :
    ((perform c).outcome >>= k).Heeds := by
  refine ⟨hstops, fun h => absurd h (by simp [hc]), ?_⟩
  rintro (e | a)
  · exact hk _
  · exact hk _

/-- A commit comes first: what follows cannot be stopped. -/
theorem heeds_commit_bind {k : Unit → Program β} (hk : (k ()).Only Call.Harmless) :
    (Program.commit >>= k).Heeds := by
  refine ⟨fun e _ => rfl, ?_, ?_⟩
  · rintro - (e | a)
    · trivial
    · exact hk
  · rintro (e | a)
    · trivial
    · exact heeds_of_harmless hk

theorem Reads.asks (hp : p.Reads) : p.Asks := by
  induction p with
  | done a => exact asks_pure a
  | fail e => exact hp.elim
  | call c next ih =>
    obtain ⟨hc, hfail, hnext⟩ := hp
    have hrest : ∀ r, (next r).Asks := by
      rintro (e | a)
      · rw [hfail e]
        exact asks_fail e
      · exact ih _ (hnext a)
    have hcommit : c.isCommit = false := by
      cases c with
      | commit => cases hc
      | _ => rfl
    exact ⟨⟨fun e _ => hfail e, fun h => absurd h (by simp [hcommit]), fun r => (hrest r).1⟩,
      hcommit, fun r => (hrest r).2⟩

theorem asks_defaultGroup (site : Installation) : site.defaultGroup.Asks := by
  have hid : (Policy.defaultGroup site.settings).Reads :=
    (reads_readText _ _).bind fun _ => reads_pure _
  refine hid.asks.bind fun id => ?_
  cases id with
  | none => exact asks_pure _
  | some id =>
    refine (asks_perform rfl).bind fun found => ?_
    cases found with
    | none => exact asks_fail _
    | some g => exact asks_pure _

/-! ### How a program ends that heeds failures -/

/-- With the failure that stops it the program ends, and it has committed nothing. -/
theorem Heeds.stopped (hp : p.Heeds) {before after : List Exchange}
    (hx : p.transcript h s = before ++ ⟨c, .error e⟩ :: after) (hc : c.stops e = true) :
    after = [] ∧ (p.run h s).1 = .error e ∧ ∀ x ∈ before, x.call.isCommit = false := by
  -- Induction on the program: what comes before the failure grows shorter, what comes after it stays.
  induction p generalizing s before with
  | done a => simp [transcript] at hx
  | fail e => simp [transcript] at hx
  | call c' next ih =>
    obtain ⟨hstops, hcommit, hheeds⟩ := hp
    rw [transcript] at hx
    rw [run_call]
    rcases List.cons_eq_append_iff.mp hx with ⟨rfl, hcons⟩ | ⟨before, rfl, hrest⟩
    · obtain ⟨hfirst, hrest⟩ := List.cons.inj hcons
      obtain ⟨rfl, hreply⟩ := Exchange.mk.inj hfirst
      have hnext := hstops e hc
      rw [← eq_of_heq hreply, hnext] at hrest ⊢
      exact ⟨hrest, rfl, by simp⟩
    · obtain ⟨hafter, hrun, huncommitted⟩ := ih _ (hheeds _) hrest
      refine ⟨hafter, hrun, fun x hx => ?_⟩
      rcases List.mem_cons.mp hx with rfl | hx
      · -- After a commit nothing could have stopped the program.
        by_contra hcommitted
        have hharmless := (hcommit (by simpa using hcommitted) _).mem_transcript _ _
          (hrest ▸ List.mem_append_cons_self)
        rw [hharmless e] at hc
        cases hc
      · exact huncommitted x hx

end Program

/-- How a run ends in which a call was stopped: nothing has been committed.  The failure of a
collaborator that is already in the words of a workflow is passed on, any other one is put into them
after a rollback. -/
structure Abandoned (purpose : String) (e : Failure) (before after : List Exchange)
    (r : Except Failure Outcome) : Prop where
  uncommitted : ∀ x ∈ before ++ after, x.call ≠ .commit
  passedOn : e.isCollaborator = true → after = [] ∧ r = .error e
  rolledBack : e.isCollaborator = false → ∃ done later,
    after = ⟨.rollback, done⟩ :: later ∧ (∀ x ∈ later, ∃ event, x.call = .log event) ∧
      (done = .ok () → r = .error (.caused ("Failed to " ++ purpose ++ ": " ++ e.report) e))

namespace Program

/-- A failure that no workflow has put into words yet is met with a rollback, after which only the log
is written to. -/
theorem wrapFailure_transcript (bound : Log.Context) (event purpose : String)
    (he : e.isCollaborator = false) (s : σ) :
    ∃ later, (Registration.wrapFailure bound event purpose e).transcript h s =
        ⟨.rollback, (h .rollback s).1⟩ :: later ∧
      ∀ x ∈ later, ∃ event, x.call = .log event := by
  rw [Registration.wrapFailure, if_neg (by simp [he])]
  refine ⟨_, rfl, ?_⟩
  refine Only.mem_transcript (P := fun c => ∃ event, c = .log event) ?_ _
  cases (h .rollback s).1 with
  | error e' => trivial
  | ok done => exact (only_perform ⟨_, rfl⟩).bind fun _ => trivial

/-- Where rollback and log do not fail, the failure is passed on as the cause of another one. -/
theorem wrapFailure_run (hlog : ∀ event s, (h (.log event) s).1 = .ok ()) (bound : Log.Context)
    (event purpose : String) (he : e.isCollaborator = false)
    (hdone : (h .rollback s).1 = .ok ()) :
    ((Registration.wrapFailure bound event purpose e).run h s).1 =
      .error (.caused ("Failed to " ++ purpose ++ ": " ++ e.report) e) := by
  rw [Registration.wrapFailure, if_neg (by simp [he]), Program.rollback, run_perform_bind hdone,
    Program.log, run_perform_bind (hlog _ _)]
  rfl

/-- What the handling of a failure adds to a run that was stopped by it. -/
theorem wrapFailure_abandoned (hlog : ∀ event s, (h (.log event) s).1 = .ok ())
    (bound : Log.Context) (event purpose : String) (e : Failure) {before : List Exchange}
    (hbefore : ∀ x ∈ before, x.call.isCommit = false) (s : σ) :
    Abandoned purpose e before ((Registration.wrapFailure bound event purpose e).transcript h s)
      ((Registration.wrapFailure bound event purpose e).run h s).1 := by
  have hne : ∀ x ∈ before, x.call ≠ .commit := fun x hx hcall => by
    have hx := hbefore x hx
    rw [hcall] at hx
    cases hx
  by_cases he : e.isCollaborator = true
  · rw [Registration.wrapFailure, if_pos he]
    exact ⟨by simpa [transcript] using hne, fun _ => ⟨rfl, rfl⟩, fun he' => by simp [he] at he'⟩
  · rw [Bool.not_eq_true] at he
    obtain ⟨later, htranscript, hlater⟩ := wrapFailure_transcript (h := h) bound event purpose he s
    refine ⟨fun x hx => ?_, fun he' => by simp [he] at he', fun _ =>
      ⟨_, later, htranscript, hlater, wrapFailure_run hlog bound event purpose he⟩⟩
    rw [htranscript] at hx
    rcases List.mem_append.mp hx with hx | hx
    · exact hne x hx
    · rcases List.mem_cons.mp hx with rfl | hx
      · intro hcall
        cases hcall
      · obtain ⟨event, hlogged⟩ := hlater x hx
        rw [hlogged]
        intro hcall
        cases hcall

/-- **Steps that heed failures**, with the handling that both workflows give to them. -/
theorem Heeds.abandoned {p : Program Outcome} (hp : p.Heeds)
    (hlog : ∀ event s, (h (.log event) s).1 = .ok ()) (bound : Log.Context)
    (event purpose : String) {before after : List Exchange}
    (hx : (p.recover (Registration.wrapFailure bound event purpose)).transcript h s =
      before ++ ⟨c, .error e⟩ :: after) (hc : c.stops e = true) :
    Abandoned purpose e before after
      ((p.recover (Registration.wrapFailure bound event purpose)).run h s).1 := by
  have hharmless : ∀ e', (Registration.wrapFailure bound event purpose e').Only Call.Harmless := by
    intro e'
    rw [Registration.wrapFailure]
    split
    · trivial
    · exact (only_perform fun _ => rfl).bind fun _ => (only_perform fun _ => rfl).bind fun _ => trivial
  rw [transcript_recover] at hx
  rw [run_recover]
  rcases hrun : p.run h s with ⟨a | a, s'⟩
  -- The steps have failed: what stopped them is the last of their calls.
  · rw [hrun] at hx
    change p.transcript h s ++ (Registration.wrapFailure bound event purpose a).transcript h s' =
      before ++ ⟨c, .error e⟩ :: after at hx
    -- What stopped the steps is not among the calls that handle it.
    have hnot : ⟨c, .error e⟩ ∉ (Registration.wrapFailure bound event purpose a).transcript h s' := by
      intro hmem
      rw [(hharmless a).mem_transcript _ _ hmem e] at hc
      cases hc
    rcases List.append_eq_append_iff.mp hx with ⟨later, -, hlater⟩ | ⟨later, hsteps, hlater⟩
    · exact absurd (hlater ▸ List.mem_append_cons_self) hnot
    rcases List.cons_eq_append_iff.mp hlater with ⟨-, hhandled⟩ | ⟨later, rfl, rfl⟩
    · exact absurd (hhandled ▸ List.mem_cons_self) hnot
    obtain ⟨rfl, hfailed, hbefore⟩ := hp.stopped hsteps hc
    rw [hrun] at hfailed
    cases hfailed
    exact wrapFailure_abandoned hlog bound event purpose e hbefore s'
  -- They have not failed, so that none of their calls can have stopped them.
  · rw [hrun, List.append_nil] at hx
    obtain ⟨-, hfailed, -⟩ := hp.stopped hx hc
    rw [hrun] at hfailed
    cases hfailed

/-- A block adds the id of the run to what comes first. -/
theorem abandoned_within (outer : Log.Context) (workflow : String) (fields : Log.Context)
    {body : Log.Context → Program Outcome} {purpose : String}
    (hbody : ∀ bound (s : σ) before after,
      (body bound).transcript h s = before ++ ⟨c, .error e⟩ :: after →
        Abandoned purpose e before after ((body bound).run h s).1)
    (hc : c.stops e = true) {before after : List Exchange}
    (hx : (within outer workflow fields body).transcript h s = before ++ ⟨c, .error e⟩ :: after) :
    Abandoned purpose e before after ((within outer workflow fields body).run h s).1 := by
  rw [within] at hx ⊢
  cases hrun : outer.run? with
  | some run =>
    rw [hrun] at hx
    exact hbody _ _ _ _ hx
  | none =>
    rw [hrun] at hx
    rcases List.cons_eq_append_iff.mp hx with ⟨-, hfirst⟩ | ⟨before, rfl, hrest⟩
    · cases (Exchange.mk.inj (List.cons.inj hfirst).1).1
      cases hc
    · cases hid : (h .freshRun s).1 with
      | error e' =>
        rw [hid] at hrest
        simp [transcript, Program.bind] at hrest
      | ok id =>
        rw [hid] at hrest
        obtain ⟨huncommitted, hpassed, hrolled⟩ := hbody _ _ _ _ hrest
        change Abandoned purpose e _ after ((freshRun >>= fun run =>
          body (outer.enter workflow (.str run) fields)).run h s).1
        rw [freshRun, run_perform_bind hid]
        refine ⟨fun x hx => ?_, hpassed, hrolled⟩
        rcases List.mem_cons.mp hx with rfl | hx
        · intro hcall
          cases hcall
        · exact huncommitted x hx

end Program

/-! ### The steps of the workflows heed failures -/

namespace Registration

theorem sendNotice_harmless (bound : Log.Context) (user : User) (token : String) (confirm : Bool) :
    (sendNotice bound user token confirm).Only Call.Harmless := by
  have hnotify : ∀ n, (Program.notify n).Only Call.Harmless := fun n =>
    Program.only_perform fun _ => rfl
  refine (hnotify _).outcome.bind fun sent => ?_
  match sent with
  | .ok true => exact Program.only_pure _
  | .ok false => exact (Program.only_perform fun _ => rfl).bind fun _ => Program.only_pure _
  | .error e => exact (Program.only_perform fun _ => rfl).bind fun _ => Program.only_pure _

/-- Once the account has been stored, only the commit can stop the registration. -/
theorem complete_heeds (bound : Log.Context) (candidate : User) (token : String) (confirm : Bool)
    (back : Option User) : (complete bound candidate token confirm back).Heeds := by
  have hunidentified : (complete.unidentified bound).Heeds :=
    Program.heeds_of_harmless ((Program.only_perform fun _ => rfl).bind fun _ =>
      (Program.only_perform fun _ => rfl).bind fun _ => Program.only_pure _)
  cases back with
  | none => exact hunidentified
  | some user =>
    rw [complete]
    split
    · exact hunidentified
    · refine Program.heeds_commit_bind ((Program.only_perform fun _ => rfl).bind fun _ => ?_)
      split
      · exact (sendNotice_harmless bound user token confirm).bind fun _ => Program.only_pure _
      · exact Program.only_pure _

theorem stored_heeds (bound : Log.Context) (candidate : User) (token : String) (confirm : Bool)
    (u : User) (password : Option String) :
    ((Program.persist u password none).outcome >>=
      answered bound candidate token confirm).Heeds := by
  refine Program.heeds_outcome_bind rfl (fun e he => ?_) fun reply => ?_
  · cases e with
    | duplicate field message => cases he
    | _ => rfl
  · cases reply with
    | ok back => exact complete_heeds bound candidate token confirm back
    | error e =>
      cases e with
      | duplicate field message => exact (Program.reads_line bound _ _).asks.1
      | _ => trivial

theorem storeAs_heeds (site : Installation) (bound : Log.Context) (candidate : User)
    (password : Option String) (token : String) :
    (storeAs site bound candidate password token).Heeds := by
  refine (Program.reads_confirmationRequired site bound).asks.bind_heeds fun confirm => ?_
  refine (Program.asks_ofExcept _).bind_heeds fun u => ?_
  exact stored_heeds bound candidate token confirm u _

theorem steps_heeds (site : Installation) (bound : Log.Context) (candidate : User)
    (password token : Option String) : (steps site bound candidate password token).Heeds := by
  refine (Program.reads_readWhole bound _ _ _).asks.bind_heeds fun minimum => ?_
  split
  · exact (Program.reads_line bound _ _).asks.1
  refine (Program.asks_perform rfl).bind_heeds fun loginFree => ?_
  refine (Program.asks_perform rfl).bind_heeds fun emailFree => ?_
  split
  · exact (Program.reads_line bound _ _).asks.1
  split
  · exact (Program.reads_line bound _ _).asks.1
  rw [store_eq]
  split
  · exact storeAs_heeds site bound candidate password _
  · exact (Program.asks_perform rfl).bind_heeds fun drawn =>
      storeAs_heeds site bound candidate password drawn

end Registration

namespace Linking

variable {a : Assertion} {provider : String}

theorem complete_heeds (bound : Log.Context) (created : Bool) (back : Option User) :
    (complete bound created back).Heeds := by
  refine Program.heeds_commit_bind ?_
  cases back with
  | none => trivial
  | some user => exact (Program.only_perform fun _ => rfl).bind fun _ => Program.only_pure _

/-- A write that is not lost on a key stops the linking, one that is lost on a key may be tried
again. -/
theorem afterFailure_heeds (bound : Log.Context) (created : Bool) {again : Option (Program Outcome)}
    (hagain : ∀ p ∈ again, p.Heeds) (e : Failure) :
    (afterFailure bound a created again e).Heeds := by
  unfold afterFailure
  split
  · exact (Program.asks_perform rfl).bind_heeds fun _ => hagain _ rfl
  · trivial
  · trivial

theorem attempt_heeds (site : Installation) (bound : Log.Context) {again : Option (Program Outcome)}
    (hagain : ∀ p ∈ again, p.Heeds) : (attempt site bound a provider again).Heeds := by
  refine (Program.reads_readWhole bound _ _ _).asks.bind_heeds fun minimum => ?_
  split
  · exact (Program.reads_line bound _ _).asks.1
  refine (Program.asks_perform rfl).bind_heeds fun found => ?_
  refine (Program.asks_perform rfl).bind_heeds fun free => ?_
  split
  · exact (Program.reads_line bound _ _).asks.1
  refine (Program.reads_resolver site bound).asks.bind_heeds fun resolver => ?_
  have hbase : (baseDraft site a provider resolver found).Asks := by
    cases found with
    | some u => exact Program.asks_pure _
    | none => exact (Program.asks_defaultGroup site).bind fun _ => Program.asks_pure _
  refine hbase.bind_heeds fun base => ?_
  refine (Program.asks_perform rfl).bind_heeds fun now => ?_
  refine (Program.reads_readWhole bound _ _ _).asks.bind_heeds fun length => ?_
  refine (Program.asks_perform rfl).bind_heeds fun password => ?_
  refine (Program.asks_ofExcept _).bind_heeds fun u => ?_
  -- All the rest asks; the write may fail on a key that is taken without ending the steps.
  refine Program.heeds_outcome_bind rfl (fun e he => ?_) fun reply => ?_
  · cases e with
    | duplicate field message => cases he
    | _ => rfl
  · cases reply with
    | ok back => exact complete_heeds bound _ back
    | error e => exact afterFailure_heeds bound _ hagain e

theorem steps_heeds (site : Installation) (bound : Log.Context) (a : Assertion) (provider : String) :
    (steps site bound a provider 1).Heeds := by
  have hlast : (steps site bound a provider 0).Heeds := attempt_heeds site bound (by simp)
  exact attempt_heeds site bound fun p hp => by cases hp; exact hlast

end Linking

end Enrollment
