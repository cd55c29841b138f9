/-
What an outcome says, and what it says of accounts and emails.

* `outcomes_shaped` — an outcome has an account or a rejection, both only where an account waits for
  its confirmation, and it tells of a problem with the email exactly where there was one;
* `unidentified_accounts` — a registration that is given no account with an id commits nothing, while
  linking commits whatever it is given.
-/
import Enrollment.Proofs.EffectOrder
import Enrollment.Proofs.Reports
import Enrollment.Workflow.Rehearsal

namespace Enrollment

variable {α σ : Type} {h : Handler σ} {calm : Call → Bool} {talk : List Exchange}

/-! ### The shape of an outcome -/

/-- An account and no rejection, or one of these rejections and no account. -/
def Outcome.Shaped (rejections : List Rejection) (o : Outcome) : Prop :=
  (o.user.isSome = true ∧ o.rejection = none) ∨
    (o.user = none ∧ ∃ j ∈ rejections, o.rejection = some j)

theorem Outcome.shaped_reject {rejections : List Rejection} {j : Rejection} (hj : j ∈ rejections) :
    (Outcome.reject j).Shaped rejections := .inr ⟨rfl, j, hj, rfl⟩

theorem Outcome.Shaped.mono {js js' : List Rejection} {o : Outcome} (ho : o.Shaped js)
    (hjs : js ⊆ js') : o.Shaped js' :=
  ho.imp_right fun ⟨huser, j, hj, hrejection⟩ => ⟨huser, j, hjs hj, hrejection⟩

/-- What an outcome tells of the email of a run, where one is due or not. -/
structure Outcome.TellsOfEmail (due : Bool) (talk : List Exchange) (o : Outcome) : Prop where
  withAccount : o.notificationError.isSome = true → o.user.isSome = true
  notEmpty : ∀ text, o.notificationError = some text → text ≠ ""
  told : o.notificationError.isSome = true ↔
    due = true ∧ ∃ n sent, ⟨.notify n, sent⟩ ∈ talk ∧ sent ≠ .ok true

namespace Outcome.TellsOfEmail

/-- Without a problem to tell of, no email may have been sent in vain. -/
theorem of_silent {due : Bool} {o : Outcome} (hnone : o.notificationError = none)
    (hsilent : due = true → ∀ n sent, ⟨.notify n, sent⟩ ∉ talk) : o.TellsOfEmail due talk where
  withAccount h := by simp [hnone] at h
  notEmpty text h := by simp [hnone] at h
  told := by
    rw [hnone]
    exact iff_of_false Bool.false_ne_true fun ⟨hdue, n, sent, hmem, _⟩ => hsilent hdue n sent hmem

/-- Nothing is lost on the way from the noted calls of a run to all of them. -/
theorem of_noted {due : Bool} {p : Program α} {s : σ} {o : Outcome}
    (hnoted : o.TellsOfEmail due (p.noted (reportWatch calm) h s)) :
    o.TellsOfEmail due (p.transcript h s) where
  withAccount := hnoted.withAccount
  notEmpty := hnoted.notEmpty
  told := by
    refine hnoted.told.trans (and_congr_right fun _ => ?_)
    simp only [Program.mem_noted (v := reportWatch calm) (x := ⟨.notify _, _⟩) rfl]

end Outcome.TellsOfEmail

namespace Registration

variable {candidate : User} {o : Outcome}

/-- The rejections of a registration. -/
def rejections : List Rejection := [.loginTooShort, .loginInUse, .emailInUse, .unknown]

theorem Report.shaped (hreport : Report calm candidate talk (.ok o)) : o.Shaped rejections := by
  cases hreport with
  | unasked hr =>
    obtain ⟨j, hj, rfl⟩ := hr o rfl
    have hsubset : [Rejection.loginTooShort, .loginInUse, .emailInUse] ⊆ rejections := by decide
    exact Outcome.shaped_reject (hsubset hj)
  | refused hr =>
    obtain ⟨j, hj, rfl⟩ := hr o rfl
    have hsubset : [Rejection.loginInUse, .emailInUse] ⊆ rejections := by decide
    exact Outcome.shaped_reject (hsubset hj)
  | unidentified _ hr =>
    cases hr o rfl
    exact Outcome.shaped_reject (by decide)
  | unannounced _ hr =>
    cases (hr o rfl).2
    exact .inl ⟨rfl, rfl⟩
  | announced _ _ hr =>
    cases hr o rfl
    exact .inl ⟨rfl, rfl⟩

theorem Report.tellsOfEmail (hreport : Report calm candidate talk (.ok o)) :
    o.TellsOfEmail (emailDue candidate) talk := by
  cases hreport with
  | unasked hr =>
    obtain ⟨j, -, rfl⟩ := hr o rfl
    exact .of_silent rfl (by simp)
  | refused hr =>
    obtain ⟨j, -, rfl⟩ := hr o rfl
    exact .of_silent rfl (by simp)
  | unidentified _ hr =>
    cases hr o rfl
    exact .of_silent rfl (by simp)
  | unannounced _ hr =>
    obtain ⟨hdue, rfl⟩ := hr o rfl
    exact .of_silent rfl (by simp)
  | @announced _ _ _ n sent _ _ hdue hr =>
    cases hr o rfl
    refine ⟨fun _ => rfl, fun text => problemOf_ne_empty, ?_⟩
    rw [problemOf_isSome, and_iff_right hdue]
    constructor
    · exact fun hsent => ⟨n, sent, by simp, hsent⟩
    · rintro ⟨n', sent', hmem, hsent'⟩
      obtain ⟨rfl, rfl⟩ : n' = n ∧ sent' = sent := by simpa using hmem
      exact hsent'

theorem announced_shaped {rejections : List Rejection} (confirm : Bool)
    (hshaped : o.Shaped rejections) :
    (announced confirm o).Shaped rejections ∨
      (announced confirm o).user.isSome = true ∧
        (announced confirm o).rejection = some .pendingConfirmation := by
  rw [announced]
  split
  · rename_i hok
    simp only [Bool.and_eq_true, Outcome.ok] at hok
    exact .inr ⟨hok.1.1, rfl⟩
  · exact .inl hshaped

theorem SelfReport.shaped (hreport : SelfReport calm form talk (.ok (some o))) :
    o.Shaped (.registrationDisabled :: rejections) ∨
      o.user.isSome = true ∧ o.rejection = some .pendingConfirmation := by
  cases hreport with
  | unasked hr =>
    cases hr o rfl
    exact .inl (Outcome.shaped_reject List.mem_cons_self)
  | registered _ h hr =>
    obtain ⟨confirm, o₀, rfl, rfl⟩ := hr o rfl
    exact announced_shaped confirm (h.shaped.mono (List.subset_cons_self _ _))

theorem SelfReport.tellsOfEmail (hreport : SelfReport calm form talk (.ok (some o))) :
    o.TellsOfEmail (given form.email) talk := by
  cases hreport with
  | unasked hr =>
    cases hr o rfl
    exact .of_silent rfl (by simp)
  | registered hdue h hr =>
    obtain ⟨confirm, o₀, rfl, rfl⟩ := hr o rfl
    obtain ⟨haccount, hempty, htold⟩ := h.tellsOfEmail
    rw [hdue] at htold
    exact ⟨by simpa using haccount, by simpa using hempty, by simpa using htold⟩

/-- Where no account with an id is given back, nothing is committed and no account is reported. -/
theorem Report.of_unidentified {r : Except Failure Outcome} (hreport : Report calm candidate talk r)
    {u : User} {password actor : Option String} {back : Option User}
    (hstored : ⟨.persist u password actor, .ok back⟩ ∈ talk)
    (hback : (back.bind fun v => v.id) = none) :
    (∀ done, ⟨.commit, done⟩ ∉ talk) ∧ ∀ o, r = .ok o → o.user = none := by
  -- An account that was given back with an id is not the one in question.
  have hidentified : ∀ {v : User}, v.id.isSome = true → back ≠ some v := by
    rintro v hid rfl
    rw [show v.id = none from hback] at hid
    cases hid
  cases hreport with
  | unasked => cases hstored
  | refused => simp at hstored
  | unidentified _ hr =>
    refine ⟨by simp, fun o ho => ?_⟩
    rw [hr o ho]
    rfl
  | uncommitted hid => simp [hidentified hid] at hstored
  | unannounced hid => simp [hidentified hid] at hstored
  | announced hid => simp [hidentified hid] at hstored

end Registration

namespace Linking

variable {s : Settings} {o : Outcome} {r : Except Failure Outcome}

/-- The rejections of a linking. -/
def rejections : List Rejection := [.invalidLogin, .emailConflict]

/-- A linking comes to one of its rejections, or to an account and nothing beside it. -/
theorem Report.of_ok (hreport : Report s talk (.ok o)) :
    (∃ j ∈ rejections, o = .reject j) ∨ ∃ v, o = .success v := by
  generalize hr : Except.ok o = r at hreport
  induction hreport with
  | unasked hunasked => exact .inl (hunasked o hr.symm)
  | unhanded => cases hr
  | refused _ _ ih => exact ih hr
  | uncommitted => cases hr
  | committed _ hcommitted =>
    obtain ⟨v, -, rfl⟩ := hcommitted o hr.symm
    exact .inr ⟨v, rfl⟩

theorem Report.shaped (hreport : Report s talk (.ok o)) : o.Shaped rejections := by
  rcases hreport.of_ok with ⟨j, hj, rfl⟩ | ⟨v, rfl⟩
  · exact Outcome.shaped_reject hj
  · exact .inl ⟨rfl, rfl⟩

/-- No problem with an email is told of. -/
theorem Report.notificationError (hreport : Report s talk (.ok o)) :
    o.notificationError = none := by
  rcases hreport.of_ok with ⟨j, -, rfl⟩ | ⟨v, rfl⟩
  · rfl
  · rfl

/-- Once an account is given back, with or without an id, the session is committed, unless the
commit fails and with it the run. -/
theorem Report.of_stored (hreport : Report s talk r) {u : User} {password actor : Option String}
    {back : Option User} (hstored : ⟨.persist u password actor, .ok back⟩ ∈ talk) :
    (⟨.commit, .ok ()⟩ ∈ talk ∧ ∀ e, ⟨.commit, .error e⟩ ∉ talk) ∨
      (⟨.commit, .ok ()⟩ ∉ talk ∧ (∃ e, ⟨.commit, .error e⟩ ∈ talk) ∧ ∃ e, r = .error e) := by
  induction hreport with
  | unasked => cases hstored
  | unhanded => simp at hstored
  -- An attempt that was refused was given nothing back: the account came from a later one.
  | refused _ _ ih => simpa [handed] using ih (by simpa [handed] using hstored)
  | @uncommitted _ _ _ _ e => exact .inr ⟨by simp [handed], ⟨e, by simp⟩, _, rfl⟩
  | committed => exact .inl ⟨by simp, by simp [handed]⟩

end Linking

/-- **The shape of an outcome.**  Whatever the collaborators answer, what the workflows come to is an
account without a rejection or a rejection without an account, and each workflow has its own
rejections; only a self-service registration comes to an account that waits for its confirmation.
An outcome tells of a problem with the email exactly where one was due and it was not accepted, only
beside an account, and never without words. -/
theorem outcomes_shaped (h : Handler σ) (s : σ) (site : Installation) (outer : Log.Context) :
    (∀ (candidate : User) (password token : Option String) (o : Outcome),
      let register := Registration.registerUser site outer candidate password token
      (register.run h s).1 = .ok o →
        o.Shaped [.loginTooShort, .loginInUse, .emailInUse, .unknown] ∧
        o.TellsOfEmail (Registration.emailDue candidate) (register.transcript h s)) ∧
    (∀ (form : Registration.Form) (o : Outcome),
      let register := Registration.register site outer form
      (register.run h s).1 = .ok (some o) →
        (o.Shaped [.registrationDisabled, .loginTooShort, .loginInUse, .emailInUse, .unknown] ∨
          o.user.isSome = true ∧ o.rejection = some .pendingConfirmation) ∧
        o.TellsOfEmail (given form.email) (register.transcript h s)) ∧
    ∀ (a : Assertion) (provider : String) (o : Outcome),
      let link := Linking.linkOrCreate site outer a provider
      (link.run h s).1 = .ok o →
        o.Shaped [.invalidLogin, .emailConflict] ∧
        o.TellsOfEmail false (link.transcript h s) := by
  refine ⟨?_, ?_, ?_⟩
  · intro candidate password token o register ho
    have hreport := Registration.registerUser_report ho
    exact ⟨hreport.shaped, hreport.tellsOfEmail.of_noted⟩
  · intro form o register ho
    have hreport := Registration.register_report ho
    exact ⟨hreport.shaped, hreport.tellsOfEmail.of_noted⟩
  · intro a provider o link ho
    have hreport := Linking.linkOrCreate_report ho
    exact ⟨hreport.shaped, .of_silent hreport.notificationError fun hdue => nomatch hdue⟩

/-- The provider declines the message to an account that has to be confirmed. -/
theorem outcomes_shaped_pending :
    let cast : Workflow.Cast := {
      values := [(Policy.Key.selfRegistration.name, some "true"),
        (Policy.Key.baseUrl.name, some "https://x.org"),
        (Policy.Key.emailVerification.name, some "true")]
      notify := .always (.ok false)
      now := { year := 2026, month := 1, day := 1 }
      token := fun _ => "token"
      runId := fun _ => "run" }
    let register := Registration.register {} {} { login := "alice", email := some "alice@x.org" }
    ∃ o, (register.run Workflow.Rehearsal.answer { cast := cast }).1 = .ok (some o) ∧
      (∀ text, o.notificationError = some text → text ≠ "") ∧
      o.isPending = true ∧ o.notificationError.isSome = true := by
  intro cast register
  have hrun : ((register.run Workflow.Rehearsal.answer { cast := cast }).1.toOption.bind id).map
      (fun o => (o.isPending, o.notificationError.isSome)) = some (true, true) := by
    decide +kernel
  cases hresult : (register.run Workflow.Rehearsal.answer { cast := cast }).1 with
  | error e => rw [hresult] at hrun; cases hrun
  | ok o =>
    rw [hresult] at hrun
    obtain ⟨o, rfl, ho⟩ := Option.map_eq_some_iff.mp hrun
    have hshaped := (outcomes_shaped Workflow.Rehearsal.answer { cast := cast } {} {}).2.1 _ o hresult
    exact ⟨o, rfl, hshaped.2.notEmpty, congrArg Prod.fst ho, congrArg Prod.snd ho⟩

/-! ### Accounts without an id -/

/-- An account was handed over, and none with an id was given back. -/
def Exchange.isUnidentified : Exchange → Bool
  | ⟨.persist _ _ _, .ok back⟩ => (back.bind fun v => v.id).isNone
  | _ => false

theorem Exchange.isUnidentified_iff {x : Exchange} :
    x.isUnidentified = true ↔ ∃ u password actor back,
      x = ⟨.persist u password actor, .ok back⟩ ∧ (back.bind fun v => v.id) = none := by
  constructor
  · intro hx
    obtain ⟨c, reply⟩ := x
    cases c with
    | persist u password actor =>
      cases reply with
      | ok back => exact ⟨u, password, actor, back, rfl, Option.isNone_iff_eq_none.mp hx⟩
      | error e => cases hx
    | _ => cases hx
  · rintro ⟨u, password, actor, back, rfl, hback⟩
    exact Option.isNone_iff_eq_none.mpr hback

/-- **Accounts without an id.**  Where the directory stores an account and gives none with an id
back, a registration commits nothing and comes to no account.  A linking looks at the id of no
account: it commits and reports what it was given, and is kept from it only where the commit itself
fails. -/
theorem unidentified_accounts (h : Handler σ) (s : σ) (site : Installation) (outer : Log.Context) :
    (∀ (candidate : User) (password token : Option String),
      let register := Registration.registerUser site outer candidate password token
      let talk := register.transcript h s
      (∃ x ∈ talk, x.isUnidentified = true) →
        (∀ done, ⟨.commit, done⟩ ∉ talk) ∧ ∀ o, (register.run h s).1 = .ok o → o.user = none) ∧
    ∀ (a : Assertion) (provider : String),
      let link := Linking.linkOrCreate site outer a provider
      let talk := link.transcript h s
      (∃ x ∈ talk, x.isUnidentified = true) →
        ((⟨.commit, .ok ()⟩ ∉ talk ∧ ∀ o, (link.run h s).1 = .ok o → o.user = none) ↔
          ∃ e, ⟨.commit, .error e⟩ ∈ talk) := by
  refine ⟨?_, ?_⟩
  · rintro candidate password token register talk ⟨x, hmem, hx⟩
    obtain ⟨u, given, actor, back, rfl, hback⟩ := Exchange.isUnidentified_iff.mp hx
    have hunidentified := (Registration.registerUser_report rfl).of_unidentified
      ((Program.mem_noted rfl).mpr hmem) hback
    exact ⟨fun done hdone => hunidentified.1 done ((Program.mem_noted rfl).mpr hdone),
      hunidentified.2⟩
  · rintro a provider link talk ⟨x, hmem, hx⟩
    obtain ⟨u, given, actor, back, rfl, -⟩ := Exchange.isUnidentified_iff.mp hx
    have hcommit : ∀ done, (⟨.commit, done⟩ ∈ link.noted (reportWatch fun _ => false) h s) ↔
        ⟨.commit, done⟩ ∈ talk := fun done => Program.mem_noted rfl
    rcases (Linking.linkOrCreate_report rfl).of_stored ((Program.mem_noted rfl).mpr hmem) with
      ⟨hdone, hnot⟩ | ⟨hnot, ⟨e, he⟩, e', hresult⟩
    · rw [hcommit] at hdone
      exact iff_of_false (fun hclaim => hclaim.1 hdone) fun ⟨e, he⟩ => hnot e ((hcommit _).mpr he)
    · refine iff_of_true ⟨fun hdone => hnot ((hcommit _).mpr hdone), fun o ho => ?_⟩
        ⟨e, (hcommit _).mp he⟩
      rw [hresult] at ho
      cases ho

/-- A directory that gives nothing back is met with a rejection. -/
theorem unidentified_accounts_rejected :
    let candidate : User := { login := "alice", valid := by decide }
    let cast : Workflow.Cast := {
      persist := .always (.ok .nothing)
      now := { year := 2026, month := 1, day := 1 }
      token := fun _ => "token"
      runId := fun _ => "run" }
    let register := Registration.registerUser {} {} candidate none none
    let talk := register.transcript Workflow.Rehearsal.answer { cast := cast }
    (∃ x ∈ talk, x.isUnidentified = true) ∧ ∀ done, ⟨.commit, done⟩ ∉ talk := by
  intro candidate cast register talk
  have hunidentified : ∃ x ∈ talk, x.isUnidentified = true :=
    List.any_eq_true.mp (by decide +kernel)
  exact ⟨hunidentified, ((unidentified_accounts Workflow.Rehearsal.answer { cast := cast } {} {}).1
    candidate none none hunidentified).1⟩

/-- An account that is given back without an id is committed and linked, and where nothing is given
back that is committed too. -/
theorem unidentified_accounts_linked :
    let cast (back : Workflow.Stored) : Workflow.Cast := {
      persist := .always (.ok back)
      now := { year := 2026, month := 1, day := 1 }
      token := fun _ => "token"
      runId := fun _ => "run" }
    let link := Linking.linkOrCreate {} {} { uid := "alice", email := some "alice@x.org" } "google"
    let talk (back : Workflow.Stored) :=
      link.transcript Workflow.Rehearsal.answer { cast := cast back }
    let result := (link.run Workflow.Rehearsal.answer { cast := cast .unchanged }).1
    (∃ x ∈ talk .unchanged, x.isUnidentified = true) ∧ ⟨.commit, .ok ()⟩ ∈ talk .unchanged ∧
      (∃ o, result = .ok o ∧ o.user.isSome = true) ∧
    (∃ x ∈ talk .nothing, x.isUnidentified = true) ∧ ⟨.commit, .ok ()⟩ ∈ talk .nothing := by
  intro cast link talk result
  have hresult : (result.toOption.map fun o => o.user.isSome) = some true := by decide +kernel
  refine ⟨List.any_eq_true.mp (by decide +kernel),
    Registration.committed_mem (by decide +kernel), ?_,
    List.any_eq_true.mp (by decide +kernel), Registration.committed_mem (by decide +kernel)⟩
  cases h : result with
  | error e => rw [h] at hresult; cases hresult
  | ok o =>
    rw [h] at hresult
    exact ⟨o, rfl, Option.some.inj hresult⟩

end Enrollment
