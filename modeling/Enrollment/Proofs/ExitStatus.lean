/-
The exit status of the commands that register and link tells what has become of the database.

* `Linking.Settled` — a linking whose commit was accepted has an account to show for it, unless the
  directory gave none back; `linkOrCreate_settled` — every run is of this kind.
* `register_status`, `link_status` — the status of the two commands, and what is lasting then.
* `exit_status_tells` — the same for command lines, whatever is stored and whatever the words are.
-/
import Enrollment.Proofs.CommandLines
import Enrollment.Proofs.Linked
import Enrollment.Proofs.NewAccounts
import Enrollment.Proofs.Outcomes

namespace Enrollment

open Directory

variable {sv : Service} {w : World} {t : Tables}

/-! ### Commits of a linking -/

namespace Linking

variable {a : Assertion} {provider : String}

/-- Writes and commits are noted; the log never fails. -/
def commitWatch : Watch where
  notes c := c.isPersist || c.isCommit
  calm
    | .log _ => true
    | _ => false

theorem commitWatch_admits (sv : Service) : commitWatch.Admits sv.answer := by
  intro c w hcalm
  cases c with
  | log event => exact ⟨(), rfl⟩
  | _ => cases hcalm

/-- Where a commit was accepted, there is an account to show for it, unless the directory gave none
back for the one that was stored. -/
def Settled (log : List Exchange) (r : Except Failure Outcome) : Prop :=
  ⟨.commit, .ok ()⟩ ∈ log →
    Succeeded r ∨ ∃ u password actor, ⟨.persist u password actor, .ok none⟩ ∈ log

theorem settled_nil {r : Except Failure Outcome} : Settled [] r := fun h => nomatch h

theorem complete_settled (bound : Log.Context) (created : Bool) (u : User)
    (password actor : Option String) (back : Option User) :
    (complete bound created back).Tells commitWatch fun log r =>
      Settled (⟨.persist u password actor, .ok back⟩ :: log) r := by
  refine Program.tells_perform_bind (fun _ => ?_) fun e _ h => ?_
  · cases back with
    | none => exact fun _ => .inr ⟨u, password, actor, List.mem_cons_self⟩
    | some v =>
      exact Program.tells_log_bind (fun _ => rfl) (fun _ => rfl) _ _ fun _ => .inl rfl
  · simp [Watch.note, commitWatch, Call.isCommit] at h

/-- What follows a write that failed settles by itself. -/
theorem afterFailure_settled (bound : Log.Context) (created : Bool)
    {again : Option (Program Outcome)} (hagain : ∀ p ∈ again, p.Tells commitWatch Settled) (u : User)
    (password actor : Option String) (e : Failure) :
    (afterFailure bound a created again e).Tells commitWatch fun log r =>
      Settled (⟨.persist u password actor, .error e⟩ :: log) r := by
  have hlater : ∀ {log r}, Settled log r →
      Settled (⟨.persist u password actor, .error e⟩ :: log) r := by
    intro log r h hmem
    have hmem' : (⟨.commit, .ok ()⟩ : Exchange) ∈ log := by simpa using hmem
    refine (h hmem').imp_right ?_
    rintro ⟨u', password', actor', hnone⟩
    exact ⟨u', password', actor', List.mem_cons_of_mem _ hnone⟩
  unfold afterFailure
  split
  · rename_i p
    refine Program.tells_log_bind (fun _ => rfl) (fun _ => rfl) _ _ ?_
    exact (hagain p rfl).mono fun _ _ h => hlater h
  · exact hlater settled_nil
  · exact hlater settled_nil

theorem attempt_settled (site : Installation) (bound : Log.Context) (a : Assertion)
    (provider : String) {again : Option (Program Outcome)}
    (hagain : ∀ p ∈ again, p.Tells commitWatch Settled) :
    (attempt site bound a provider again).Tells commitWatch Settled := by
  have hfailed : ∀ e : Failure, Settled [] (.error e) := fun _ => settled_nil
  rw [attempt]
  refine (Program.quiet_readWhole (fun _ => rfl) rfl _ _ _).tells_bind (fun minimum _ => ?_) hfailed
  split
  · exact Program.tells_log_bind (fun _ => rfl) (fun _ => rfl) _ _ settled_nil
  refine (Program.quiet_perform rfl).tells_bind (fun found _ => ?_) hfailed
  refine (Program.quiet_perform rfl).tells_bind (fun free _ => ?_) hfailed
  split
  · exact Program.tells_log_bind (fun _ => rfl) (fun _ => rfl) _ _ settled_nil
  refine (Program.quiet_resolver (fun _ => rfl) (fun _ => rfl) site bound).tells_bind
    (fun resolver _ => ?_) hfailed
  refine (Program.quiet_baseDraft (fun _ => rfl) (fun _ => rfl) site a provider resolver
    found).tells_bind (fun base _ => ?_) hfailed
  refine (Program.quiet_perform rfl).tells_bind (fun now _ => ?_) hfailed
  refine (Program.quiet_readWhole (fun _ => rfl) rfl _ _ _).tells_bind (fun length _ => ?_) hfailed
  refine (Program.quiet_perform rfl).tells_bind (fun password _ => ?_) hfailed
  refine (Program.quiet_ofExcept _).tells_bind (fun u _ => ?_) hfailed
  refine Program.tells_outcome_bind fun reply _ => ?_
  cases reply with
  | ok back => exact complete_settled bound _ u _ _ back
  | error e => exact afterFailure_settled bound _ hagain u _ _ e

/-- **Every run of linking** whose commit was accepted has an account to show for it. -/
theorem linkOrCreate_settled (site : Installation) (outer : Log.Context) (a : Assertion)
    (provider : String) : (linkOrCreate site outer a provider).Tells commitWatch Settled := by
  refine Program.tells_within rfl _ _ _ (fun bound => ?_) fun _ => settled_nil
  have hlast : (steps site bound a provider 0).Tells commitWatch Settled :=
    attempt_settled site bound a provider (by simp)
  have hsteps : (steps site bound a provider 1).Tells commitWatch Settled :=
    attempt_settled site bound a provider fun p hp => by cases hp; exact hlast
  refine hsteps.recover (fun _ _ h => h) fun log e h => ?_
  refine (Program.wrapFailure_tells rfl (fun _ => rfl) _ _ _ e).mono ?_
  rintro _ _ ⟨rfl, e', rfl, -⟩ hmem
  rw [List.append_nil] at hmem ⊢
  exact (h hmem).imp_left fun h => h.elim

/-- The directory of an installation always gives the account back, so an accepted commit is a
success. -/
theorem succeeded_of_commit {outer : Log.Context}
    (h : ⟨.commit, .ok ()⟩ ∈ (linkOrCreate sv.site outer a provider).transcript sv.answer w) :
    Succeeded (sv.run (linkOrCreate sv.site outer a provider) w).1 := by
  have hsettled := (linkOrCreate_settled sv.site outer a provider).noted (commitWatch_admits sv) w
  refine (hsettled ((Program.mem_noted rfl).mpr h)).resolve_right ?_
  rintro ⟨u, password, actor, hnone⟩
  obtain ⟨w', hreply⟩ := Program.reply_of_mem_transcript ((Program.mem_noted rfl).mp hnone)
  change Except.ok none = ((sv.persist w' u password actor).1.map some) at hreply
  cases hstored : (sv.persist w' u password actor).1 with
  | error e => rw [hstored] at hreply; cases hreply
  | ok v => rw [hstored] at hreply; cases hreply

/-- What succeeded has been committed. -/
theorem Report.committed_of_ok {s : Settings} {talk : List Exchange} {u : User}
    (hreport : Report s talk (.ok (.success u))) : ⟨.commit, .ok ()⟩ ∈ talk := by
  generalize hr : Except.ok (Outcome.success u) = r at hreport
  induction hreport with
  | unasked hunasked =>
    obtain ⟨j, -, hj⟩ := hunasked _ hr.symm
    cases hj
  | unhanded => cases hr
  | refused _ _ ih => exact List.mem_append_right _ (ih hr)
  | uncommitted => cases hr
  | committed => exact List.mem_append_right _ List.mem_cons_self

/-- A linking has committed, and the account of the assertion has come into the tables: a new one, or
the one that was there. -/
structure Commits (sv : Service) (w : World) (a : Assertion) (provider : String) (t' : Tables) :
    Prop where
  committed : ⟨.commit, .ok ()⟩ ∈ (linkOrCreate sv.site {} a provider).transcript sv.answer w
  entered : ∃ r, Enters w.tables a provider r t' ∧ Linked sv.site w.tables a provider r

end Linking

/-! ### The commands -/

namespace Cli

variable (hw : w.session = { lasting := t }) (ht : t.Consistent) (hhash : sv.around.PlainHasher)
include hw ht hhash

/-- **The command that registers** comes to status zero exactly when a new account has been made
lasting; otherwise nothing has changed. -/
theorem register_status (form : Registration.Form) :
    let out := Command.run sv w (.register form)
    (out.1.status = 0 ↔ t.AddsAccount out.2.session.lasting) ∧
      (out.1.status ≠ 0 → out.2.session = w.session) := by
  intro out
  have hs : w.session.staged = [] := by rw [hw]
  have hworking : w.tables = t := by rw [World.tables, hw]
  have hunchanged : ¬ t.AddsAccount t := fun h => absurd h.length (by simp)
  let run := sv.run (Registration.register sv.site {} form) w
  rcases register_ends sv form w with ⟨hstatus, hout⟩ | ⟨hout, hstatus⟩
  · have hsession : out.2.session = w.session := by
      change (inSession (register sv form) w).2.session = _
      rw [hout]
      change w.session.rollback = w.session
      rw [hw]
      rfl
    refine ⟨⟨fun h => absurd h hstatus, fun h => ?_⟩, fun _ => hsession⟩
    rw [hsession, hw] at h
    exact absurd h hunchanged
  · change out.2 = run.2.rollback at hout
    change out.1.status = 0 ↔ ∃ o, run.1 = .ok o ∧ (Ended.ofOutcome o).status = 0 at hstatus
    -- The status is zero where there is an account, if one that waits for its confirmation.
    have hcreated : out.1.status = 0 ↔ Registration.Created run.1 := by
      rw [hstatus]
      refine ⟨?_, fun h => ?_⟩
      · rintro ⟨o, hrun, ho⟩
        obtain ⟨x, rfl, hx⟩ := (Ended.ofOutcome_status o).mp ho
        rw [hrun]
        refine ⟨?_, hx⟩
        rcases (Registration.register_report hrun).shaped with (⟨huser, -⟩ | ⟨-, j, hj, hj'⟩) | h
        · exact huser
        · rw [hj'] at hx
          rcases hx with hx | hx
          · cases hx
          · cases hx
            simp [Registration.rejections] at hj
        · exact h.1
      · obtain ⟨o, u, hrun, hu⟩ := h.exists_user
        rw [hrun] at h
        exact ⟨some o, hrun, (Ended.ofOutcome_status _).mpr ⟨o, rfl, h.2⟩⟩
    have hlasting : out.2.session = { lasting := run.2.session.lasting } := by
      rw [hout]
      rfl
    by_cases h : Registration.Created run.1
    · obtain ⟨o, u, hrun, hu⟩ := h.exists_user
      obtain ⟨group, s, x, -, (hsession : run.2.session = _), hstored⟩ :=
        Registration.register_stored sv w {} form o u hrun hu
      have hplace : Session.place? w.session.working x.account = some none := by
        rw [Session.place?, x.account_id, (form.candidate_sameKeys _ _ _).id]
      obtain ⟨hash, t', -, hwrite, -, rfl⟩ := hstored.write hs hplace
      have hadded := (hworking ▸ ht : w.tables.Consistent).write_fresh rfl hwrite
      refine ⟨⟨fun _ => ?_, fun _ => hcreated.mpr h⟩, fun hne => absurd (hcreated.mpr h) hne⟩
      rw [hlasting, hsession, ← hworking]
      exact ⟨_, _, hadded.1, hadded.2⟩
    · have hleft : w.session.Left run.2.session :=
        Registration.register_left hs hhash {} form h
      have hsession : out.2.session = w.session := by rw [hlasting, hleft.lasting, hw]
      refine ⟨⟨fun h' => absurd (hcreated.mp h') h, fun h' => ?_⟩, fun _ => hsession⟩
      rw [hsession, hw] at h'
      exact absurd h' hunchanged

/-- **The command that links** comes to status zero exactly when it has committed the account of the
assertion, created or linked again; otherwise nothing has changed. -/
theorem link_status (a : Assertion) (provider : String) :
    let out := Command.run sv w (.link a provider)
    (out.1.status = 0 ↔ Linking.Commits sv w a provider out.2.session.lasting) ∧
      (out.1.status ≠ 0 → out.2.session = w.session) := by
  intro out
  have hs : w.session.staged = [] := by rw [hw]
  let run := sv.run (Linking.linkOrCreate sv.site {} a provider) w
  obtain ⟨hout, hstatus⟩ := link_ends sv a provider w
  change out.2 = run.2.rollback at hout
  change out.1.status = 0 ↔ ∃ o, run.1 = .ok o ∧ (Ended.ofOutcome (some o)).status = 0 at hstatus
  have hlasting : out.2.session = { lasting := run.2.session.lasting } := by
    rw [hout]
    rfl
  have hsucceeded : out.1.status = 0 ↔ Succeeded run.1 := by
    rw [hstatus]
    refine ⟨?_, fun h => ?_⟩
    · rintro ⟨o, hrun, ho⟩
      obtain ⟨x, hx, hrejection⟩ := (Ended.ofOutcome_status _).mp ho
      cases hx
      rw [hrun]
      rcases (Linking.linkOrCreate_report hrun).of_ok with ⟨j, hj, rfl⟩ | ⟨v, rfl⟩
      · rcases hrejection with h | h
        · cases h
        · cases h
          simp [Linking.rejections] at hj
      · rfl
    · cases hrun : run.1 with
      | error e =>
        rw [hrun] at h
        exact h.elim
      | ok o =>
        rw [hrun] at h
        have hok : o.user.isSome = true ∧ o.rejection.isNone = true := by
          rwa [← Bool.and_eq_true]
        exact ⟨o, rfl, (Ended.ofOutcome_status _).mpr
          ⟨o, rfl, .inl (Option.isNone_iff_eq_none.mp hok.2)⟩⟩
  refine ⟨⟨fun h => ?_, fun h => hsucceeded.mpr (Linking.succeeded_of_commit h.committed)⟩,
    fun hne => ?_⟩
  · have hclean : w.session.Clean := by rw [hw]; exact ⟨rfl, rfl⟩
    obtain ⟨w₁, r, t', hdone, hsession, -, hrun⟩ := Linking.linkOrCreate_linked
      (by rw [hw]; exact ht) (by rw [hw]; exact ht) hs hhash {} a provider (hsucceeded.mp h)
    have htables : w₁.tables = w.tables := by
      rw [World.tables, hdone.left.eq_of_clean hclean, World.tables]
    rw [hlasting, show run.2.session = _ from hsession]
    refine ⟨?_, r, htables ▸ hdone.enters, htables ▸ hdone.linked⟩
    exact (Program.mem_noted rfl).mp (Linking.linkOrCreate_report hrun).committed_of_ok
  · have hleft : w.session.Left run.2.session :=
      Linking.linkOrCreate_left hs hhash {} a provider (mt hsucceeded.mpr hne)
    rw [hlasting, hleft.lasting, hw]

end Cli

/-- **The exit status tells what has become of the database**, for every command line, environment
and prepared database.  One that registers exits with zero exactly when one new account has been
made lasting, be it that it waits for its confirmation or that the email could not be sent; one that
links does when it has committed the account of the assertion, created or linked again; and where
they exit with anything else, nothing has changed.  A command line that spells no command changes
nothing either, and exits with zero only to show help or the version. -/
theorem exit_status_tells (environment : List (String × String)) (around : Surroundings)
    (hhash : around.PlainHasher) (w : World) (t : Tables) (hw : w.session = { lasting := t })
    (ht : t.Consistent) (words : List String) (input : String) :
    let out := Cli.run environment around words input w
    let t' := out.2.session.lasting
    (∀ form, Cli.spelled words input = .ok (.register form) →
      (out.1.status = 0 ↔ t.AddsAccount t') ∧
        (out.1.status ≠ 0 → out.2.session = w.session)) ∧
    (∀ a provider, Cli.spelled words input = .ok (.link a provider) →
      (out.1.status = 0 ↔ ∃ settings, Settings.read { environment } = .ok settings ∧
        Linking.Commits { site := { settings }, around } w a provider t') ∧
        (out.1.status ≠ 0 → out.2.session = w.session)) ∧
    ∀ stop, Cli.spelled words input = .error stop →
      out.2 = w ∧ (out.1.status = 0 → stop.Informs) := by
  intro out t'
  have hunchanged : ¬ t.AddsAccount t := fun h => absurd h.length (by simp)
  have hsame : out.2 = w → t' = t := fun h => by
    change out.2.session.lasting = t
    rw [h, hw]
  rcases Cli.run_ends environment around words input w with
    ⟨settings, command, hsettings, hspelled, hstatus, hworld⟩ | ⟨hworld, hnone, hstatus⟩
  · change out.1.status = _ at hstatus
    change out.2 = _ at hworld
    refine ⟨fun form h => ?_, fun a provider h => ?_, fun stop h => ?_⟩
    · cases hspelled.symm.trans h
      rw [hstatus, show t' = out.2.session.lasting from rfl, hworld]
      exact Cli.register_status hw ht hhash form
    · cases hspelled.symm.trans h
      have hlink := @Cli.link_status { site := { settings }, around } w t hw ht hhash a provider
      rw [hstatus, show t' = out.2.session.lasting from rfl, hworld]
      refine ⟨⟨fun h0 => ⟨settings, hsettings, hlink.1.mp h0⟩, ?_⟩, hlink.2⟩
      rintro ⟨settings', hsettings', hcommits⟩
      cases hsettings.symm.trans hsettings'
      exact hlink.1.mpr hcommits
    · cases hspelled.symm.trans h
  · change out.2 = w at hworld
    have hfailed : ∀ command, Cli.spelled words input = .ok command → out.1.status ≠ 0 := by
      intro command h h0
      obtain ⟨stop, hstop, -⟩ := hstatus h0
      cases h.symm.trans hstop
    refine ⟨fun form h => ⟨⟨fun h0 => absurd h0 (hfailed _ h), fun h' => ?_⟩, fun _ => ?_⟩,
      fun a provider h => ⟨⟨fun h0 => absurd h0 (hfailed _ h), fun h' => ?_⟩, fun _ => ?_⟩,
      fun stop h => ⟨hworld, fun h0 => ?_⟩⟩
    · rw [hsame hworld] at h'
      exact absurd h' hunchanged
    · rw [hworld]
    · obtain ⟨settings, hsettings, -⟩ := h'
      rcases hnone with ⟨stop, hstop⟩ | ⟨problems, hproblems⟩
      · cases h.symm.trans hstop
      · cases hsettings.symm.trans hproblems
    · rw [hworld]
    · obtain ⟨stop', hstop, hinforms⟩ := hstatus h0
      cases h.symm.trans hstop
      exact hinforms

/-- Somebody registers whose email cannot be sent, an account is linked again, and a login that is
taken is turned down. -/
theorem exit_status_tells_pending :
    let t := (World.after .numbered
      [.configure Policy.Key.selfRegistration.name (some "yes") none,
        .configure Policy.Key.baseUrl.name (some "https://x.org") none,
        .configure Policy.Key.emailVerification.name (some "yes") none,
        .link { uid := "bruno" } "google", .registerUser
          { login := "clara", valid := by decide } none none, .commit]).session.lasting
    let down : Failure := .foreign "SMTPException" "down"
    let w : World :=
      { session := { lasting := t }, outbox := { answers := .always (.error down) }, ids := 2 }
    let out (words : List String) := Cli.run [] .numbered words "" w
    let alice := out ["register", "--login", "alice", "--password", "x", "--email", "alice@x.org"]
    let bruno := out ["link", "--uid", "bruno", "--provider", "google"]
    let clara := out ["register", "--login", "clara", "--password", "x"]
    alice.1.status = 0 ∧ t.AddsAccount alice.2.session.lasting ∧
      bruno.1.status = 0 ∧ (∃ settings, Linking.Commits { site := { settings }, around := .numbered }
        w { uid := "bruno" } "google" bruno.2.session.lasting) ∧
      clara.1.status = 1 ∧ clara.2.session = w.session := by
  intro t down w out alice bruno clara
  have ht : t.Consistent := (World.reachable_after _ _).consistent.1
  have hhash : Surroundings.numbered.PlainHasher := fun _ _ h => nomatch h
  have htells (words : List String) :=
    exit_status_tells [] .numbered hhash w t rfl ht words ""
  have halice : alice.1.status = 0 := by decide +kernel
  have hbruno : bruno.1.status = 0 := by decide +kernel
  have hclara : clara.1.status = 1 := by decide +kernel
  refine ⟨halice, ?_, hbruno, ?_, hclara, ?_⟩
  · exact ((htells _).1 { login := "alice", password := some "x", email := some "alice@x.org" }
      (by decide +kernel)).1.mp halice
  · obtain ⟨settings, -, hcommits⟩ :=
      ((htells _).2.1 { uid := "bruno" } "google" (by decide +kernel)).1.mp hbruno
    exact ⟨settings, hcommits⟩
  · refine ((htells _).1 { login := "clara", password := some "x" } (by decide +kernel)).2 ?_
    rw [show (Cli.run [] .numbered _ "" w).1.status = 1 from hclara]
    exact Nat.one_ne_zero

end Enrollment
