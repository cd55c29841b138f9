/-
Two runs that create one account at the same time, seen from the one that comes too late.

The directory may answer anything: other runs write between any two calls.  `Linking.Talk` lists
what the steps of linking can say to the directory and what they come to; every run is of this kind
(`linkOrCreate_talk`).

* `linkOrCreate_lost_race` — an account is stored at most twice; it is stored a second time only
  after a lost creation, a fresh lookup and a fresh check of the email, and then as the account that
  was found; a write that is lost once more is the failure of the run; every run ends.
-/
import Enrollment.Proofs.Relinking
import Enrollment.Proofs.Transcript
import Enrollment.Workflow.Rehearsal

namespace Enrollment.Linking

variable {a : Assertion} {provider : String} {retry : Bool} {talk log : List Exchange}
  {r : Except Failure Outcome}

/-- The lookups, the email checks, the writes and their commits are noted.  Neither the session nor
the log fails. -/
def raceWatch : Watch where
  notes
    | .accountByLogin _ _ => true
    | .emailFree _ _ _ => true
    | .persist _ _ _ => true
    | .commit => true
    | _ => false
  calm
    | .commit => true
    | .log _ => true
    | _ => false

/-- The account of the login is looked up. -/
def lookup (a : Assertion) (provider : String) (found : Option User) : Exchange :=
  ⟨.accountByLogin a.uid (scope provider), .ok found⟩

/-- What is asked before an account is stored: its login is looked up, and no other account than the
one that was found has its email. -/
def asked (a : Assertion) (provider : String) (found : Option User) : List Exchange :=
  [lookup a provider found,
    ⟨.emailFree a.email (scope provider) (found.bind fun u => u.id), .ok true⟩]

/-- What is stored is the account that was found: its id, its rights and its groups are kept. -/
def Carries (found : Option User) (u : User) : Prop :=
  ∀ v, found = some v → u.id = v.id ∧ u.rights = v.rights ∧ u.groups = v.groups

/-- The failure of a linking whose write was lost. -/
def lostWrite (a : Assertion) (field message : String) : Failure :=
  .caused ("Could not store linked account '" ++ a.uid ++ "'") (.duplicate field message)

/-- What the steps of linking say to the directory, and what they come to.  The flag says whether
they may be taken once more. -/
inductive Talk (a : Assertion) (provider : String) :
    Bool → List Exchange → Except Failure Outcome → Prop where
  /-- Nothing is stored. -/
  | unstored {retry : Bool} {log : List Exchange} {r : Except Failure Outcome}
      (hlog : ∀ x ∈ log, x.call.isPersist = false ∧ x.call ≠ .commit) : Talk a provider retry log r
  | stored {retry : Bool} {found : Option User} {u : User} {password actor : Option String}
      {v : Option User} {r : Except Failure Outcome} (hu : Carries found u)
      (hr : ∀ u', v = some u' → r = .ok (.success u')) :
      Talk a provider retry
        (asked a provider found ++ [⟨.persist u password actor, .ok v⟩, ⟨.commit, .ok ()⟩]) r
  /-- The account cannot be stored, for another reason than a key. -/
  | refused {retry : Bool} {found : Option User} {u : User} {password actor : Option String}
      {e : Failure} {r : Except Failure Outcome} (hu : Carries found u)
      (he : ∀ field message, e ≠ .duplicate field message) :
      Talk a provider retry (asked a provider found ++ [⟨.persist u password actor, .error e⟩]) r
  /-- The write is lost, and nothing is tried any more. -/
  | lost {retry : Bool} {found : Option User} {u : User} {password actor : Option String}
      {field message : String} (hu : Carries found u) (hlast : found ≠ none ∨ retry = false) :
      Talk a provider retry
        (asked a provider found ++
          [⟨.persist u password actor, .error (.duplicate field message)⟩])
        (.error (lostWrite a field message))
  /-- A creation is lost, and the steps are taken once more. -/
  | again {u : User} {password actor : Option String} {field message : String}
      {log : List Exchange} {r : Except Failure Outcome} (rest : Talk a provider false log r) :
      Talk a provider true
        (asked a provider none ++
          ⟨.persist u password actor, .error (.duplicate field message)⟩ :: log) r

namespace Talk

/-- A failure that is put into the words of the workflow changes nothing of what was said. -/
theorem wrapped {e e' : Failure} (h : Talk a provider retry log (.error e))
    (he : e.isCollaborator = true → e' = e) : Talk a provider retry log (.error e') := by
  generalize hr : Except.error e = r at h
  induction h with
  | unstored hlog => exact .unstored hlog
  | stored hu hv => exact .stored hu fun u' h => by rw [← hr] at hv; cases hv u' h
  | refused hu hne => exact .refused hu hne
  | lost hu hlast =>
    cases hr
    rw [he rfl]
    exact .lost hu hlast
  | again _ ih => exact .again (ih hr)

/-- The steps store the account once, and once more if they may be taken again. -/
theorem persists_le (h : Talk a provider retry talk r) :
    (talk.filter (·.call.isPersist)).length ≤ 1 + retry.toNat := by
  induction h with
  | unstored hlog =>
    rw [List.filter_eq_nil_iff.mpr fun x hx => by simp [(hlog x hx).1]]
    exact Nat.zero_le _
  | stored => exact Nat.le_add_right 1 _
  | refused => exact Nat.le_add_right 1 _
  | lost => exact Nat.le_add_right 1 _
  | again _ ih => exact Nat.succ_le_succ ih

/-- Where an account is stored, its login and its email have been asked for just before.  Only the
write of a creation that may be tried again is lost without being the failure of the run. -/
theorem persist_at (h : Talk a provider retry talk r) {before after : List Exchange} {u : User}
    {password actor : Option String} {reply : Except Failure (Option User)}
    (hx : talk = before ++ ⟨.persist u password actor, reply⟩ :: after) :
    ∃ found, Carries found u ∧
      (∀ u', reply = .ok (some u') → r = .ok (.success u')) ∧
      (∀ field message, reply = .error (.duplicate field message) →
        r = .error (lostWrite a field message) ∨
          retry = true ∧ found = none ∧ before = asked a provider none) ∧
      (before = asked a provider found ∨
        retry = true ∧ ∃ u₀ password₀ actor₀ field message,
          before = asked a provider none ++
            ⟨.persist u₀ password₀ actor₀, .error (.duplicate field message)⟩ ::
              asked a provider found) := by
  have hasked : ∀ found, (⟨.persist u password actor, reply⟩ : Exchange) ∉
      asked a provider found := by
    simp [asked, lookup]
  induction h generalizing before with
  | unstored hlog =>
    have hpersist := (hlog ⟨.persist u password actor, reply⟩ (by simp [hx])).1
    cases hpersist
  | @stored _ found _ _ _ v _ hu hr =>
    obtain ⟨rfl, hy, -⟩ := (List.append_cons_inj_of_notMem (hasked found) (by simp)).mp hx
    cases hy
    refine ⟨found, hu, fun u' h => ?_, fun _ _ h => (nomatch h), .inl rfl⟩
    cases h
    exact hr u' rfl
  | @refused _ found _ _ _ e _ hu he =>
    obtain ⟨rfl, hy, -⟩ := (List.append_cons_inj_of_notMem (hasked found) (by simp)).mp hx
    cases hy
    refine ⟨found, hu, fun _ h => (nomatch h), fun field message h => ?_, .inl rfl⟩
    cases h
    exact absurd rfl (he field message)
  | @lost _ found _ _ _ _ _ hu hlast =>
    obtain ⟨rfl, hy, -⟩ := (List.append_cons_inj_of_notMem (hasked found) (by simp)).mp hx
    cases hy
    refine ⟨found, hu, fun _ h => (nomatch h), fun field message h => ?_, .inl rfl⟩
    cases h
    exact .inl rfl
  | again rest ih =>
    rcases eq_or_later (hasked none) hx with ⟨rfl, hy, -⟩ | ⟨later, rfl, hrest⟩
    · cases hy
      exact ⟨none, fun _ h => (nomatch h), fun _ h => (nomatch h),
        fun field message h => .inr ⟨rfl, rfl, rfl⟩, .inl rfl⟩
    · -- The steps are not taken a third time, so what was said in the second is all of it.
      obtain ⟨found, hu, hok, hlost, hbefore⟩ := ih hrest
      refine ⟨found, hu, hok, fun field message h => ?_, .inr ⟨rfl, ?_⟩⟩
      · rcases hlost field message h with hr | ⟨h, -⟩
        · exact .inl hr
        · cases h
      · rcases hbefore with rfl | ⟨h, -⟩
        · exact ⟨_, _, _, _, _, rfl⟩
        · cases h

/-- What is committed has just been stored. -/
theorem commit_at (h : Talk a provider retry talk r) {before after : List Exchange}
    {reply : Except Failure Unit} (hx : talk = before ++ ⟨.commit, reply⟩ :: after) :
    ∃ front u password actor v, before = front ++ [⟨.persist u password actor, .ok v⟩] := by
  have hasked : ∀ found, (⟨.commit, reply⟩ : Exchange) ∉ asked a provider found := by
    simp [asked, lookup]
  induction h generalizing before with
  | unstored hlog => exact absurd rfl (hlog ⟨.commit, reply⟩ (by simp [hx])).2
  | @stored _ found _ _ _ v _ hu hr =>
    rcases eq_or_later (hasked found) hx with ⟨-, hy, -⟩ | ⟨later, rfl, hrest⟩
    · cases hy
    · cases later with
      | nil => exact ⟨_, _, _, _, v, rfl⟩
      | cons x later => simp at hrest
  | @refused _ found =>
    cases ((List.append_cons_inj_of_notMem (hasked found) (by simp)).mp hx).2.1
  | @lost _ found =>
    cases ((List.append_cons_inj_of_notMem (hasked found) (by simp)).mp hx).2.1
  | again rest ih =>
    rcases eq_or_later (hasked none) hx with ⟨-, hy, -⟩ | ⟨later, rfl, hrest⟩
    · cases hy
    · obtain ⟨front, u, password, actor, v, rfl⟩ := ih hrest
      exact ⟨asked a provider none ++ _ :: front, u, password, actor, v, by
        rw [List.append_assoc]; rfl⟩

end Talk

/-! ### Every run is of this kind -/

/-- Only the locale of an account that was found is brought up to date. -/
theorem carries_draft {found : Option User} {base : Draft} {locale : Option (Int × Option String)}
    {now : Timestamp} {u : User} (hbase : ∀ v, found = some v → base = v.toDraft)
    (hu : { withLocale base locale with lastLogin := some now }.build = .ok u) :
    Carries found u := by
  rintro v hv
  have hdraft := Draft.build_eq_ok.mp hu
  rw [hbase v hv, withLocale_eq] at hdraft
  rw [hdraft]
  exact ⟨rfl, rfl, rfl⟩

/-- A write that is lost is tried again where a new account is created, and only if it may be. -/
theorem afterFailure_talk (bound : Log.Context) {again : Option (Program Outcome)}
    (hagain : ∀ p ∈ again, p.Tells raceWatch (Talk a provider false)) {found : Option User}
    {u : User} (hu : Carries found u) (password actor : Option String) (e : Failure) :
    (afterFailure bound a found.isNone again e).Tells raceWatch fun rest r =>
      Talk a provider again.isSome
        (asked a provider found ++ ⟨.persist u password actor, .error e⟩ :: rest) r := by
  generalize hcreated : found.isNone = created
  unfold afterFailure
  split
  · rename_i field message p
    refine Program.tells_log_bind (fun _ => rfl) (fun _ => rfl) _ _ ?_
    rw [Option.isNone_iff_eq_none] at hcreated
    subst hcreated
    exact (hagain p rfl).mono fun log r h => .again h
  · rename_i field message hmay
    refine .lost hu ?_
    by_contra hlast
    rw [not_or, not_not, Bool.not_eq_false, Option.isSome_iff_exists] at hlast
    obtain ⟨rfl, p, hp⟩ := hlast
    exact hmay p hcreated.symm hp
  · rename_i hne _
    exact .refused hu fun field message h => hne field message h

/-- What follows the write. -/
theorem written_talk (bound : Log.Context) {again : Option (Program Outcome)}
    (hagain : ∀ p ∈ again, p.Tells raceWatch (Talk a provider false)) {found : Option User}
    {u : User} (hu : Carries found u) (password : String) :
    ((Program.persist u (some password) (some systemActor)).outcome >>=
      answered bound a found.isNone again).Tells raceWatch
        fun rest r => Talk a provider again.isSome (asked a provider found ++ rest) r := by
  refine Program.tells_outcome_bind fun reply _ => ?_
  match reply with
  | .error e => exact afterFailure_talk bound hagain hu _ _ e
  | .ok stored =>
    refine Program.tells_perform_bind (fun _ => ?_) fun e he => ?_
    · match stored with
      | none => exact .stored hu fun _ h => nomatch h
      | some u' =>
        refine Program.tells_log_bind (fun _ => rfl) (fun _ => rfl) _ _ ?_
        exact .stored hu fun _ h => by cases h; rfl
    · obtain ⟨_, h⟩ := he rfl
      cases h

theorem attempt_talk (site : Installation) (bound : Log.Context) {again : Option (Program Outcome)}
    (hagain : ∀ p ∈ again, p.Tells raceWatch (Talk a provider false)) :
    (attempt site bound a provider again).Tells raceWatch (Talk a provider again.isSome) := by
  have hquiet : ∀ {r}, Talk a provider again.isSome [] r := .unstored (by simp)
  rw [attempt]
  refine (Program.quiet_readWhole (fun _ => rfl) rfl _ _ _).tells_bind (fun minimum _ => ?_)
    fun _ => hquiet
  split
  · exact Program.tells_log_bind (fun _ => rfl) (fun _ => rfl) _ _ hquiet
  refine Program.tells_perform_bind (fun found => ?_) fun e _ => .unstored ?_
  · refine Program.tells_perform_bind (fun free => ?_) fun e _ => .unstored ?_
    · cases free with
      | false =>
        refine Program.tells_log_bind (fun _ => rfl) (fun _ => rfl) _ _ (.unstored ?_)
        simp [Watch.note, raceWatch, Call.isPersist]
      | true =>
        have hasked : ∀ {r}, Talk a provider again.isSome (asked a provider found) r :=
          .unstored (by simp [asked, lookup, Call.isPersist])
        refine (Program.quiet_resolver (fun _ => rfl) (fun _ => rfl) site bound).tells_bind
          (fun resolver _ => ?_) fun _ => hasked
        refine (Program.quiet_baseDraft (fun _ => rfl) (fun _ => rfl) site a provider resolver
          found).tells_bind (fun base hbase => ?_) fun _ => hasked
        refine (Program.quiet_perform rfl).tells_bind (fun now _ => ?_) fun _ => hasked
        refine (Program.quiet_readWhole (fun _ => rfl) rfl _ _ _).tells_bind (fun length _ => ?_)
          fun _ => hasked
        refine (Program.quiet_perform rfl).tells_bind (fun password _ => ?_) fun _ => hasked
        refine (Program.quiet_ofExcept _).tells_bind (fun u hu => ?_) fun _ => hasked
        exact written_talk bound hagain (carries_draft hbase hu) password
    · simp [Watch.note, raceWatch, Call.isPersist]
  · simp [Watch.note, raceWatch, Call.isPersist]

theorem steps_talk (site : Installation) (bound : Log.Context) (a : Assertion)
    (provider : String) :
    (steps site bound a provider 1).Tells raceWatch (Talk a provider true) := by
  have hlast : (steps site bound a provider 0).Tells raceWatch (Talk a provider false) :=
    attempt_talk site bound (by simp)
  exact attempt_talk site bound fun p hp => by cases hp; exact hlast

/-- **Every run of linking** says to the directory what is listed, whatever it answers. -/
theorem linkOrCreate_talk (site : Installation) (outer : Log.Context) (a : Assertion)
    (provider : String) :
    (linkOrCreate site outer a provider).Tells raceWatch (Talk a provider true) := by
  have hquiet : ∀ {r}, Talk a provider true [] r := .unstored (by simp)
  refine Program.tells_within rfl _ _ _ (fun bound => ?_) fun _ => hquiet
  refine (steps_talk site bound a provider).recover (fun _ _ h => h) fun log e h => ?_
  refine (Program.wrapFailure_tells rfl (fun _ => rfl) _ _ _ e).mono ?_
  rintro _ _ ⟨rfl, e', rfl, he'⟩
  rw [List.append_nil]
  exact h.wrapped he'

/-! ### How long a run is -/

theorem afterFailure_endsWithin (bound : Log.Context) (created : Bool)
    {again : Option (Program Outcome)} {n : Nat} (hagain : ∀ p ∈ again, p.EndsWithin n)
    (e : Failure) : (afterFailure bound a created again e).EndsWithin (1 + n) := by
  unfold afterFailure
  split
  · exact (Program.perform_endsWithin _).bind fun _ => hagain _ rfl
  · exact (Program.fail_endsWithin _).mono (Nat.zero_le _)
  · exact (Program.fail_endsWithin _).mono (Nat.zero_le _)

theorem complete_endsWithin (bound : Log.Context) (created : Bool) (stored : Option User) :
    (complete bound created stored).EndsWithin 2 := by
  refine Program.EndsWithin.bind (n := 1) (m := 1) (Program.perform_endsWithin _) fun _ => ?_
  cases stored with
  | none => exact (Program.fail_endsWithin _).mono (Nat.zero_le _)
  | some u => exact (Program.perform_endsWithin _).bind fun _ => Program.pure_endsWithin _

theorem baseDraft_endsWithin (site : Installation) (resolver : Locale.Resolver)
    (found : Option User) : (baseDraft site a provider resolver found).EndsWithin 2 := by
  cases found with
  | some u => exact (Program.pure_endsWithin _).mono (Nat.zero_le _)
  | none => exact (Program.defaultGroup_endsWithin site).bind fun _ => Program.pure_endsWithin _

theorem attempt_endsWithin (site : Installation) (bound : Log.Context)
    {again : Option (Program Outcome)} {n : Nat} (hagain : ∀ p ∈ again, p.EndsWithin n) :
    (attempt site bound a provider again).EndsWithin (n + 16) := by
  have hwritten : ∀ (found : Option User) (reply : Except Failure (Option User)),
      (answered bound a found.isNone again reply).EndsWithin (n + 2) := by
    rintro found (e | stored)
    · exact (afterFailure_endsWithin bound _ hagain e).mono (by omega)
    · exact (complete_endsWithin bound _ stored).mono (by omega)
  have hturnedDown : ∀ (e : Log.Event) (o : Outcome),
      (do Program.log bound e; return o : Program Outcome).EndsWithin 1 := fun e o =>
    (Program.perform_endsWithin _).bind fun _ => Program.pure_endsWithin o
  refine Program.EndsWithin.mono ((Program.readWhole_endsWithin _ _ _ _).bind fun minimum =>
    (hturnedDown _ _).ite <|
    (Program.perform_endsWithin _).bind fun found =>
    (Program.perform_endsWithin _).bind fun free =>
    (hturnedDown _ _).ite <|
    (Program.resolver_endsWithin site bound).bind fun resolver =>
    (baseDraft_endsWithin site resolver found).bind fun base =>
    (Program.perform_endsWithin _).bind fun now =>
    (Program.readWhole_endsWithin _ _ _ _).bind fun length =>
    (Program.perform_endsWithin _).bind fun password =>
    (Program.ofExcept_endsWithin _).bind fun u =>
    (Program.perform_endsWithin _).outcome.bind fun reply => hwritten found reply) ?_
  omega

/-- Whatever its calls are answered with, a run of linking ends, after 35 calls at the latest. -/
theorem linkOrCreate_endsWithin (site : Installation) (outer : Log.Context) (a : Assertion)
    (provider : String) : (linkOrCreate site outer a provider).EndsWithin 35 := by
  have hlast : ∀ bound, (steps site bound a provider 0).EndsWithin 16 := fun bound =>
    attempt_endsWithin (n := 0) site bound (by simp)
  have hsteps : ∀ bound, (steps site bound a provider 1).EndsWithin 32 := fun bound =>
    attempt_endsWithin site bound fun p hp => by cases hp; exact hlast bound
  exact Program.within_endsWithin _ _ _ fun bound =>
    (hsteps bound).recover fun e => Program.wrapFailure_endsWithin _ _ _ e

/-- **A lost creation.**  Whatever the directory answers, and whatever else fails but the session
and the log: linking stores an account at most twice.  It stores one a second time only when none
was found at first and the first write was lost, after a fresh lookup and a fresh check of the email
that excludes the account found; then that account keeps its id, rights and groups, and if it is
given back, the run succeeds with it.  A second write that is lost, or that of an account that was
found, is the failure of the run.  What is committed has just been stored, and every run ends. -/
theorem linkOrCreate_lost_race {σ : Type} (h : Handler σ) (hcommit : ∀ s, (h .commit s).1 = .ok ())
    (hlog : ∀ event s, (h (.log event) s).1 = .ok ()) (site : Installation) (outer : Log.Context)
    (a : Assertion) (provider : String) (s : σ) :
    let link := linkOrCreate site outer a provider
    let talk := link.noted raceWatch h s
    let result := (link.run h s).1
    (talk.filter (·.call.isPersist)).length ≤ 2 ∧
    (∀ (before after : List Exchange) (u : User) (password actor : Option String)
      (reply : Except Failure (Option User)),
      talk = before ++ ⟨.persist u password actor, reply⟩ :: after →
      (∃ x ∈ before, x.call.isPersist = true) →
      ∃ (u₀ : User) (password₀ actor₀ : Option String) (field message : String)
        (found : Option User),
        before = asked a provider none ++
          ⟨.persist u₀ password₀ actor₀, .error (.duplicate field message)⟩ ::
            asked a provider found ∧
        (∀ v, found = some v → u.id = v.id ∧ u.rights = v.rights ∧ u.groups = v.groups) ∧
        ∀ u', reply = .ok (some u') → result = .ok (.success u')) ∧
    (∀ (before after : List Exchange) (u : User) (password actor : Option String)
      (field message : String),
      talk = before ++ ⟨.persist u password actor, .error (.duplicate field message)⟩ :: after →
      (∃ x ∈ before, x.call.isPersist = true) ∨ (∃ v, lookup a provider (some v) ∈ before) →
      result = .error (lostWrite a field message)) ∧
    (∀ (before after : List Exchange) (reply : Except Failure Unit),
      talk = before ++ ⟨.commit, reply⟩ :: after →
      ∃ (front : List Exchange) (u : User) (password actor : Option String) (v : Option User),
        before = front ++ [⟨.persist u password actor, .ok v⟩]) ∧
    (link.transcript h s).length ≤ 35 := by
  intro link talk result
  have hadmits : raceWatch.Admits h := by
    intro c s hcalm
    cases c with
    | commit => exact ⟨(), hcommit s⟩
    | log event => exact ⟨(), hlog event s⟩
    | _ => cases hcalm
  have htalk : Talk a provider true talk result :=
    (linkOrCreate_talk site outer a provider).noted hadmits s
  -- Nothing is stored by what is asked before a write.
  have hasked : ∀ found x, x ∈ asked a provider found → x.call.isPersist = false := by
    simp [asked, lookup, Call.isPersist]
  refine ⟨htalk.persists_le, ?_, ?_, fun before after reply hx => htalk.commit_at hx,
    (linkOrCreate_endsWithin site outer a provider).transcript_length_le h s⟩
  · rintro before after u password actor reply hx ⟨x, hmem, hpersist⟩
    obtain ⟨found, hu, hok, -, hbefore⟩ := htalk.persist_at hx
    rcases hbefore with rfl | ⟨-, u₀, password₀, actor₀, field, message, rfl⟩
    · rw [hasked found x hmem] at hpersist
      cases hpersist
    · exact ⟨u₀, password₀, actor₀, field, message, found, rfl, hu, hok⟩
  · intro before after u password actor field message hx hlast
    obtain ⟨found, -, -, hlost, -⟩ := htalk.persist_at hx
    rcases hlost field message rfl with hr | ⟨-, -, rfl⟩
    · exact hr
    · rcases hlast with ⟨x, hmem, hpersist⟩ | ⟨v, hmem⟩
      · rw [hasked none x hmem] at hpersist
        cases hpersist
      · simp [asked, lookup] at hmem

/-- The account is created by another run between the lookup and the write. -/
theorem linkOrCreate_lost_race_once :
    let stored : User := {
      login := "alice", type := .oauth, id := some "7", domain := some "google"
      valid := by decide }
    let cast : Workflow.Cast := {
      accountByLogin := ⟨.ok none, [.ok (some stored)]⟩
      persist := ⟨.error (.duplicateOf "login"), [.ok .unchanged]⟩
      now := { year := 2026, month := 1, day := 1 }
      token := fun _ => "token"
      runId := fun _ => "run" }
    let link := linkOrCreate {} {} { uid := "alice" } "google"
    let talk := link.noted raceWatch Workflow.Rehearsal.answer { cast := cast }
    (∀ s, (Workflow.Rehearsal.answer .commit s).1 = .ok ()) ∧
      (∀ event s, (Workflow.Rehearsal.answer (.log event) s).1 = .ok ()) ∧
      (talk.filter (·.call.isPersist)).length = 2 := by
  intro stored cast link talk
  have hcommit : ∀ s, (Workflow.Rehearsal.answer .commit s).1 = .ok () := fun _ => rfl
  have hlog : ∀ event s, (Workflow.Rehearsal.answer (.log event) s).1 = .ok () := fun _ _ => rfl
  have hrace := linkOrCreate_lost_race Workflow.Rehearsal.answer hcommit hlog {} {}
    { uid := "alice" } "google" { cast := cast }
  exact ⟨hcommit, hlog, le_antisymm hrace.1 (by decide +kernel)⟩

end Enrollment.Linking
