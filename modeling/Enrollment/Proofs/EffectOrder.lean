/-
The order in which a registration makes its calls.

Every collaborator may answer anything and fail at any call.  `Registration.Course` lists what a
registration can say to the directory, to the groups, to the session and to the notifier, and
`Registration.Aftermath` what it says once the account has been handed over to be stored.

* `registerUser_course` — every run is of this kind;
* `registerUser_effect_order` — checks before the write, the write before its commit, and the commit
  before the one email that is due.
-/
import Enrollment.Proofs.Endings
import Enrollment.Proofs.Transcript
import Enrollment.Workflow.Rehearsal

namespace Enrollment.Registration

variable {candidate : User} {talk log rest : List Exchange}

/-- All calls to the directory, to the groups and to the notifier are noted, as are the commits and
the question for the least length of a login.  The log takes every line. -/
def orderWatch : Watch where
  notes
    | .configValue key => key = Policy.Key.loginLength.name
    | .loginFree _ _ _ => true
    | .emailFree _ _ _ => true
    | .accountByLogin _ _ => true
    | .persist _ _ _ => true
    | .group _ => true
    | .notify _ => true
    | .commit => true
    | _ => false
  calm
    | .log _ => true
    | _ => false

/-- The least length of a login is asked for, and a text or nothing is stored for it. -/
def minimumRead (stored : Option String) : Exchange :=
  ⟨.configValue Policy.Key.loginLength.name, .ok stored⟩

/-- What the stored text makes of the least length of a login. -/
def minimumOf (s : Settings) (stored : Option String) : Int :=
  (Policy.whole s.minLoginLength (some leastLoginLength) stored).value

/-- What is asked before an account is stored, and how it has to be answered: the login and the
email are free among the accounts of the scope. -/
def checks (candidate : User) (scope : Scope) (stored : Option String) : List Exchange :=
  [minimumRead stored, ⟨.loginFree candidate.login scope none, .ok true⟩,
    ⟨.emailFree candidate.email scope none, .ok true⟩]

/-- What is said after an account was handed over to be stored, given the answer to that. -/
inductive Aftermath (candidate : User) (token : String) (confirm : Bool) :
    Except Failure (Option User) → List Exchange → Prop where
  /-- No account with an id was given back. -/
  | unstored {reply : Except Failure (Option User)}
      (hreply : ∀ v, reply = .ok (some v) → v.id = none) :
      Aftermath candidate token confirm reply []
  | uncommitted {v : User} {e : Failure} (hid : v.id.isSome = true) :
      Aftermath candidate token confirm (.ok (some v)) [⟨.commit, .error e⟩]
  | unannounced {v : User} (hid : v.id.isSome = true) (hdue : emailDue candidate = false) :
      Aftermath candidate token confirm (.ok (some v)) [⟨.commit, .ok ()⟩]
  | announced {v : User} {languageId : Option Int} {sent : Except Failure Bool}
      (hid : v.id.isSome = true) (hdue : emailDue candidate = true) :
      Aftermath candidate token confirm (.ok (some v))
        [⟨.commit, .ok ()⟩,
          ⟨.notify { login := v.login, email := v.email, token, confirm, languageId }, sent⟩]

/-- What a registration says. -/
inductive Course (s : Settings) (candidate : User) : List Exchange → Prop where
  /-- At most the least length of a login is asked for. -/
  | unasked {log : List Exchange} (hlog : ∀ x ∈ log, ∃ key, x.call = .configValue key) :
      Course s candidate log
  /-- The login is long enough, and nothing is done but ask whether login and email are free. -/
  | unstored {stored : Option String} {log : List Exchange}
      (hlong : Login.isLongEnough (minimumOf s stored) candidate.login = true)
      (hlog : ∀ x ∈ log, ∃ scope, x.call = .loginFree candidate.login scope none ∨
        x.call = .emailFree candidate.email scope none) :
      Course s candidate (minimumRead stored :: log)
  | handed {stored : Option String} {u : User} {password : Option String} {token : String}
      {confirm : Bool} {reply : Except Failure (Option User)} {rest : List Exchange}
      (hlong : Login.isLongEnough (minimumOf s stored) candidate.login = true)
      (hu : u.toDraft = toStore candidate token confirm)
      (hrest : Aftermath candidate token confirm reply rest) :
      Course s candidate
        (checks candidate u.scope stored ++ ⟨.persist u password none, reply⟩ :: rest)

/-! ### Every run is of this kind -/

theorem sendNotice_tells (bound : Log.Context) (user : User) (token : String) (confirm : Bool) :
    (sendNotice bound user token confirm).Tells orderWatch fun log _ =>
      ∃ languageId sent, log = [⟨.notify
        { login := user.login, email := user.email, token, confirm, languageId }, sent⟩] := by
  refine Program.tells_outcome_bind fun sent _ => ?_
  match sent with
  | .ok true => exact ⟨_, _, rfl⟩
  | .ok false => exact Program.tells_log_bind (fun _ => rfl) (fun _ => rfl) _ _ ⟨_, _, rfl⟩
  | .error e => exact Program.tells_log_bind (fun _ => rfl) (fun _ => rfl) _ _ ⟨_, _, rfl⟩

theorem unidentified_tells (bound : Log.Context) :
    (complete.unidentified bound).Tells orderWatch fun log _ => log = [] := by
  refine (Program.quiet_perform rfl).tells_bind (fun _ _ => ?_) fun _ => rfl
  exact Program.tells_log_bind (fun _ => rfl) (fun _ => rfl) _ _ rfl

/-- An account that was given back with an id is committed, and then its email goes out if one is
due. -/
theorem complete_tells (bound : Log.Context) (candidate : User) (token : String) (confirm : Bool)
    (stored : Option User) :
    (complete bound candidate token confirm stored).Tells orderWatch fun log _ =>
      Aftermath candidate token confirm (.ok stored) log := by
  match stored with
  | none => exact (unidentified_tells bound).mono fun _ _ h => h ▸ .unstored fun _ h => nomatch h
  | some v =>
    rw [complete]
    by_cases hid : v.id.isNone = true
    · rw [if_pos hid]
      refine (unidentified_tells bound).mono fun _ _ h => h ▸ .unstored fun v' hv' => ?_
      cases hv'
      exact Option.isNone_iff_eq_none.mp hid
    · rw [if_neg hid]
      have hsome : v.id.isSome = true := by simpa [Option.isSome_iff_ne_none] using hid
      refine Program.tells_perform_bind (fun _ => ?_) fun e _ => .uncommitted hsome
      refine Program.tells_log_bind (fun _ => rfl) (fun _ => rfl) _ _ ?_
      by_cases hdue : emailDue candidate = true
      · rw [if_pos hdue]
        refine (sendNotice_tells bound v token confirm).bind ?_ ?_
        · rintro _ _ ⟨languageId, sent, rfl⟩
          exact .announced hsome hdue
        · rintro _ _ ⟨languageId, sent, rfl⟩
          exact .announced hsome hdue
      · rw [if_neg hdue]
        exact .unannounced hsome (by simpa using hdue)

/-- What is stored belongs to the scope in which login and email were found to be free. -/
theorem scope_of_toStore {u : User} {token : String} {confirm : Bool}
    (hu : u.toDraft = toStore candidate token confirm) : u.scope = scopeOf candidate := by
  have hkeys := toStore_sameKeys candidate token confirm
  rw [Draft.scope, hu, hkeys.type, hkeys.domain]
  rfl

/-- Only a refused write is answered in a way of its own, and then nothing more is said. -/
theorem answered_tells (bound : Log.Context) (candidate : User) (token : String) (confirm : Bool)
    (e : Failure) : (answered bound candidate token confirm (.error e)).Tells orderWatch
      fun rest _ => rest = [] := by
  cases e with
  | duplicate field message => exact Program.tells_log_bind (fun _ => rfl) (fun _ => rfl) _ _ rfl
  | _ => exact rfl

/-- Login and email are free: what follows is the write and its aftermath. -/
theorem storeAs_tells (site : Installation) (bound : Log.Context) (candidate : User)
    (password : Option String) (drawn : String) (stored : Option String) {s : Settings}
    (hlong : Login.isLongEnough (minimumOf s stored) candidate.login = true) :
    (storeAs site bound candidate password drawn).Tells orderWatch fun rest _ =>
      Course s candidate (checks candidate (scopeOf candidate) stored ++ rest) := by
  have hunstored : Course s candidate (checks candidate (scopeOf candidate) stored ++ []) := by
    rw [List.append_nil]
    exact .unstored hlong (by simp)
  refine (Program.quiet_confirmationRequired (fun _ => rfl) (by decide) (by decide) site
    bound).tells_bind (fun confirm _ => ?_) fun _ => hunstored
  refine (Program.quiet_ofExcept _).tells_bind (fun u hu => ?_) fun _ => hunstored
  have hdraft := Draft.build_eq_ok.mp hu
  rw [← scope_of_toStore hdraft]
  refine Program.tells_outcome_bind fun reply _ => ?_
  cases reply with
  | ok back =>
    exact (complete_tells bound candidate drawn confirm back).mono fun _ _ h =>
      .handed hlong hdraft h
  | error e =>
    refine (answered_tells bound candidate drawn confirm e).mono ?_
    rintro _ _ rfl
    exact .handed hlong hdraft (.unstored (by simp))

theorem store_tells (site : Installation) (bound : Log.Context) (candidate : User)
    (password token stored : Option String) {s : Settings}
    (hlong : Login.isLongEnough (minimumOf s stored) candidate.login = true) :
    (store site bound candidate password token).Tells orderWatch fun rest _ =>
      Course s candidate (checks candidate (scopeOf candidate) stored ++ rest) := by
  rw [store_eq]
  split
  · exact storeAs_tells site bound candidate password _ stored hlong
  · refine (Program.quiet_perform rfl).tells_bind (fun drawn _ => ?_) fun _ => ?_
    · exact storeAs_tells site bound candidate password drawn stored hlong
    · rw [List.append_nil]
      exact .unstored hlong (by simp)

/-- The least length of a login is asked for once, and is what the stored text makes of it. -/
theorem loginLength_tells (s : Settings) (bound : Log.Context) :
    (Policy.loginLength s bound).Tells orderWatch fun log r =>
      (∃ e e', log = [⟨.configValue Policy.Key.loginLength.name, .error e⟩] ∧ r = .error e') ∨
        ∃ stored, log = [minimumRead stored] ∧ ∀ n, r = .ok n → n = minimumOf s stored := by
  refine Program.tells_perform_bind (fun stored => ?_) fun e _ => .inl ⟨e, e, rfl, rfl⟩
  refine (Program.quiet_settle (fun _ => rfl) bound _ _).mono ?_
  rintro _ r ⟨rfl, hr⟩
  exact .inr ⟨stored, rfl, hr⟩

theorem turnDown_tells (bound : Log.Context) (reason : String) (r : Rejection)
    {Q : List Exchange → Except Failure Outcome → Prop} (hQ : Q [] (.ok (.reject r))) :
    (turnDown bound reason r).Tells orderWatch Q :=
  Program.tells_log_bind (fun _ => rfl) (fun _ => rfl) _ _ hQ

theorem steps_course (site : Installation) (bound : Log.Context) (candidate : User)
    (password token : Option String) :
    (steps site bound candidate password token).Tells orderWatch fun log _ =>
      Course site.settings candidate log := by
  rw [steps]
  refine (loginLength_tells site.settings bound).bind ?_ ?_
  · rintro _ minimum (⟨e, e', -, he⟩ | ⟨stored, rfl, hminimum⟩)
    · cases he
    cases hminimum minimum rfl
    by_cases hlong : Login.isLongEnough (minimumOf site.settings stored) candidate.login = true
    · rw [if_neg (by simp [hlong])]
      refine Program.tells_perform_bind (fun loginFree => ?_) fun e _ => .unstored hlong ?_
      · refine Program.tells_perform_bind (fun emailFree => ?_) fun e _ => .unstored hlong ?_
        · have hturnedDown : Course site.settings candidate
              (minimumRead stored ::
                [⟨.loginFree candidate.login (scopeOf candidate) none, .ok loginFree⟩,
                  ⟨.emailFree candidate.email (scopeOf candidate) none, .ok emailFree⟩]) :=
            .unstored hlong (by simp)
          cases loginFree with
          | false => exact turnDown_tells _ _ _ hturnedDown
          | true =>
            cases emailFree with
            | false => exact turnDown_tells _ _ _ hturnedDown
            | true => exact store_tells site bound candidate password token stored hlong
        · simp [Watch.note, orderWatch]
      · simp [Watch.note, orderWatch]
    · rw [if_pos (by simpa using hlong)]
      exact turnDown_tells _ _ _ (.unasked (by simp [minimumRead]))
  · rintro _ e' (⟨e, -, rfl, -⟩ | ⟨stored, rfl, -⟩)
    · exact .unasked (by simp)
    · exact .unasked (by simp [minimumRead])

/-- **Every run of a registration** says what is listed, whatever it is answered. -/
theorem registerUser_course (site : Installation) (outer : Log.Context) (candidate : User)
    (password token : Option String) :
    (registerUser site outer candidate password token).Tells orderWatch fun log _ =>
      Course site.settings candidate log := by
  refine Program.tells_within rfl _ _ _ (fun bound => ?_) fun _ => .unasked (by simp)
  refine (steps_course site bound candidate password token).recover (fun _ _ h => h)
    fun log e h => ?_
  refine (Program.wrapFailure_tells rfl (fun _ => rfl) _ _ _ e).mono ?_
  rintro _ _ ⟨rfl, -⟩
  rwa [List.append_nil]

/-! ### What the list says about each call -/

namespace Aftermath

variable {token : String} {confirm : Bool} {reply : Except Failure (Option User)}

theorem isPersist_eq_false (h : Aftermath candidate token confirm reply rest) :
    ∀ x ∈ rest, x.call.isPersist = false := by
  cases h <;> simp [Call.isPersist]

theorem not_minimumRead (h : Aftermath candidate token confirm reply rest)
    (stored : Option String) : minimumRead stored ∉ rest := by
  cases h <;> simp [minimumRead]

/-- Only an account that was given back with an id is committed, and at once. -/
theorem commit_at (h : Aftermath candidate token confirm reply rest) {before after : List Exchange}
    {done : Except Failure Unit} (hx : rest = before ++ ⟨.commit, done⟩ :: after) :
    before = [] ∧ ∃ v, reply = .ok (some v) ∧ v.id.isSome = true := by
  have hfirst : ∀ {x : Exchange} {tail : List Exchange}, (⟨.commit, done⟩ : Exchange) ∉ tail →
      x :: tail = before ++ ⟨.commit, done⟩ :: after → before = [] := by
    intro x tail htail h
    exact ((List.append_cons_inj_of_notMem List.not_mem_nil htail).mp h).1.symm
  cases h with
  | unstored => simp at hx
  | @uncommitted v _ hid => exact ⟨hfirst (by simp) hx, v, rfl, hid⟩
  | @unannounced v hid => exact ⟨hfirst (by simp) hx, v, rfl, hid⟩
  | @announced v _ _ hid => exact ⟨hfirst (by simp) hx, v, rfl, hid⟩

/-- The email is the last thing said, and comes right after a commit. -/
theorem notify_at (h : Aftermath candidate token confirm reply rest) {before after : List Exchange}
    {n : Notice} {sent : Except Failure Bool} (hx : rest = before ++ ⟨.notify n, sent⟩ :: after) :
    before = [⟨.commit, .ok ()⟩] ∧ after = [] ∧ n.token = token ∧ n.confirm = confirm ∧
      ∃ v, reply = .ok (some v) ∧ v.id.isSome = true := by
  cases h with
  | unstored => simp at hx
  | uncommitted hid => simp [List.cons_eq_append_iff] at hx
  | unannounced hid => simp [List.cons_eq_append_iff] at hx
  | @announced v languageId sent' hid =>
    change [⟨.commit, .ok ()⟩] ++ (⟨.notify _, sent'⟩ : Exchange) :: [] = _ at hx
    obtain ⟨rfl, hn, rfl⟩ := (List.append_cons_inj_of_notMem (by simp) (by simp)).mp hx
    cases hn
    exact ⟨rfl, rfl, rfl, rfl, v, rfl, hid⟩

/-- After a commit, one email goes out if one is due. -/
theorem notified (h : Aftermath candidate token confirm reply rest)
    (hcommit : ⟨.commit, .ok ()⟩ ∈ rest) :
    (rest.filter (·.call.isNotify)).length = if emailDue candidate = true then 1 else 0 := by
  cases h with
  | unstored => simp at hcommit
  | uncommitted hid => simp at hcommit
  | unannounced hid hdue =>
    rw [if_neg (by simp [hdue])]
    rfl
  | announced hid hdue =>
    rw [if_pos hdue]
    rfl

end Aftermath

namespace Course

variable {s : Settings}

/-- The questions before a write store nothing and send nothing. -/
theorem not_mem_checks {c : Call} {reply : Except Failure c.Reply}
    (hc : c.isPersist = true ∨ c.isNotify = true ∨ c = .commit) (scope : Scope)
    (stored : Option String) : (⟨c, reply⟩ : Exchange) ∉ checks candidate scope stored := by
  intro hmem
  have hcall : ∃ x ∈ checks candidate scope stored, x.call = c := ⟨_, hmem, rfl⟩
  simp only [checks, minimumRead, List.mem_cons, List.not_mem_nil, or_false, exists_eq_or_imp,
    exists_eq_left] at hcall
  rcases hcall with rfl | rfl | rfl <;> simp [Call.isPersist, Call.isNotify] at hc

/-- A call that stores, commits or sends is the write or comes after it. -/
theorem handed_of (h : Course s candidate talk) {before after : List Exchange} {c : Call}
    {done : Except Failure c.Reply} (hx : talk = before ++ ⟨c, done⟩ :: after)
    (hc : c.isPersist = true ∨ c.isNotify = true ∨ c = .commit) :
    ∃ (stored : Option String) (u : User) (password : Option String) (token : String)
      (confirm : Bool) (reply : Except Failure (Option User)) (rest : List Exchange),
      Login.isLongEnough (minimumOf s stored) candidate.login = true ∧
      u.toDraft = toStore candidate token confirm ∧
      Aftermath candidate token confirm reply rest ∧
      talk = checks candidate u.scope stored ++ ⟨.persist u password none, reply⟩ :: rest := by
  have hmem : (⟨c, done⟩ : Exchange) ∈ talk := by simp [hx]
  cases h with
  | unasked hlog =>
    obtain ⟨key, rfl⟩ := hlog _ hmem
    simp [Call.isPersist, Call.isNotify] at hc
  | unstored hlong hlog =>
    rcases List.mem_cons.mp hmem with h | h
    · cases h
      simp [Call.isPersist, Call.isNotify] at hc
    · obtain ⟨scope, rfl | rfl⟩ := hlog _ h
      · simp [Call.isPersist, Call.isNotify] at hc
      · simp [Call.isPersist, Call.isNotify] at hc
  | handed hlong hu hrest => exact ⟨_, _, _, _, _, _, _, hlong, hu, hrest, rfl⟩

/-- The least length that is read is the one that counts. -/
theorem of_tooShort (h : Course s candidate talk) {stored : Option String}
    (hread : minimumRead stored ∈ talk)
    (hshort : Login.isLongEnough (minimumOf s stored) candidate.login = false) :
    ∀ x ∈ talk, ∃ key, x.call = .configValue key := by
  have hlong : ∀ {stored' : Option String},
      Login.isLongEnough (minimumOf s stored') candidate.login = true →
      minimumRead stored ≠ minimumRead stored' := by
    intro stored' hlong heq
    cases heq
    rw [hshort] at hlong
    cases hlong
  cases h with
  | unasked hlog => exact hlog
  | unstored hlong' hlog =>
    rcases List.mem_cons.mp hread with heq | hmem
    · exact absurd heq (hlong hlong')
    · obtain ⟨scope, h | h⟩ := hlog _ hmem <;> cases h
  | @handed stored' u _ _ _ reply rest hlong' hu hrest =>
    have hmem : minimumRead stored = minimumRead stored' ∨ minimumRead stored ∈ rest := by
      simpa [checks, minimumRead] using hread
    rcases hmem with heq | hmem
    · exact absurd heq (hlong hlong')
    · exact absurd hmem (hrest.not_minimumRead stored)

/-- An account is stored at most once. -/
theorem persists_le (h : Course s candidate talk) :
    (talk.filter (·.call.isPersist)).length ≤ 1 := by
  have hnone : ∀ {log : List Exchange}, (∀ x ∈ log, x.call.isPersist = false) →
      log.filter (·.call.isPersist) = [] := fun hlog =>
    List.filter_eq_nil_iff.mpr fun x hx => by simp [hlog x hx]
  cases h with
  | unasked hlog =>
    rw [hnone fun x hx => by obtain ⟨key, h⟩ := hlog x hx; rw [h]; rfl]
    exact Nat.zero_le 1
  | unstored hlong hlog =>
    rw [List.filter_cons_of_neg (by simp [minimumRead, Call.isPersist]),
      hnone fun x hx => by obtain ⟨scope, h | h⟩ := hlog x hx <;> rw [h] <;> rfl]
    exact Nat.zero_le 1
  | handed hlong hu hrest =>
    rw [List.filter_append, List.filter_cons_of_pos rfl, hnone hrest.isPersist_eq_false]
    exact le_rfl

/-- What is stored has the candidate's keys, and login and email were found to be free just before
that. -/
theorem persist_at (h : Course s candidate talk) {before after : List Exchange} {u : User}
    {password actor : Option String} {reply : Except Failure (Option User)}
    (hx : talk = before ++ ⟨.persist u password actor, reply⟩ :: after) :
    (∃ stored, Login.isLongEnough (minimumOf s stored) candidate.login = true ∧
      before = checks candidate u.scope stored) ∧
    Draft.SameKeys { candidate.toDraft with type := storedType candidate } u.toDraft := by
  obtain ⟨stored, u', password', token, confirm, reply', rest, hlong, hu, hrest, htalk⟩ :=
    h.handed_of hx (.inl rfl)
  have hrest' : (⟨.persist u password actor, reply⟩ : Exchange) ∉ rest := fun hmem => by
    have hpersist := hrest.isPersist_eq_false _ hmem
    cases hpersist
  obtain ⟨rfl, hwrite, -⟩ := (List.append_cons_inj_of_notMem
    (not_mem_checks (.inl rfl) _ _) hrest').mp (htalk.symm.trans hx)
  cases hwrite
  exact ⟨⟨stored, hlong, rfl⟩, hu ▸ toStore_sameKeys candidate token confirm⟩

/-- The session is committed right after an account with an id was given back. -/
theorem commit_at (h : Course s candidate talk) {before after : List Exchange}
    {reply : Except Failure Unit} (hx : talk = before ++ ⟨.commit, reply⟩ :: after) :
    ∃ (front : List Exchange) (u : User) (password : Option String) (v : User),
      v.id.isSome = true ∧ before = front ++ [⟨.persist u password none, .ok (some v)⟩] := by
  obtain ⟨stored, u, password, token, confirm, reply', rest, -, -, hrest, htalk⟩ :=
    h.handed_of hx (.inr (.inr rfl))
  rcases eq_or_later (not_mem_checks (.inr (.inr rfl)) _ _) (htalk.symm.trans hx) with
    ⟨-, hwrite, -⟩ | ⟨later, rfl, hlater⟩
  · cases hwrite
  · obtain ⟨rfl, v, rfl, hid⟩ := hrest.commit_at hlater
    exact ⟨_, u, password, v, hid, rfl⟩

/-- An email is sent right after the commit, with the token and the rights that were stored. -/
theorem notify_at (h : Course s candidate talk) {before after : List Exchange} {n : Notice}
    {sent : Except Failure Bool} (hx : talk = before ++ ⟨.notify n, sent⟩ :: after) :
    ∃ (front : List Exchange) (u : User) (password : Option String) (v : User),
      v.id.isSome = true ∧
      before = front ++ [⟨.persist u password none, .ok (some v)⟩, ⟨.commit, .ok ()⟩] ∧
      u.activationToken = some n.token ∧
      u.rights = if n.confirm then candidate.rights.erase .login else candidate.rights := by
  obtain ⟨stored, u, password, token, confirm, reply, rest, -, hu, hrest, htalk⟩ :=
    h.handed_of hx (.inr (.inl rfl))
  rcases eq_or_later (not_mem_checks (.inr (.inl rfl)) _ _) (htalk.symm.trans hx) with
    ⟨-, hwrite, -⟩ | ⟨later, rfl, hlater⟩
  · cases hwrite
  · obtain ⟨rfl, -, rfl, rfl, v, rfl, hid⟩ := hrest.notify_at hlater
    refine ⟨_, u, password, v, hid, rfl, ?_, ?_⟩
    · rw [hu]
      cases n.confirm <;> rfl
    · rw [hu]
      cases n.confirm <;> rfl

/-- After a commit, one email goes out if one is due. -/
theorem notified (h : Course s candidate talk) (hcommit : ⟨.commit, .ok ()⟩ ∈ talk) :
    (talk.filter (·.call.isNotify)).length = if emailDue candidate = true then 1 else 0 := by
  obtain ⟨before, after, hx⟩ := List.append_of_mem hcommit
  obtain ⟨stored, u, password, token, confirm, reply, rest, -, -, hrest, htalk⟩ :=
    h.handed_of hx (.inr (.inr rfl))
  have hmem : ⟨.commit, .ok ()⟩ ∈ rest := by
    rw [htalk] at hcommit
    simpa [not_mem_checks] using hcommit
  have hchecks : (checks candidate u.scope stored).filter (·.call.isNotify) = [] := rfl
  have hwrite : Call.isNotify (.persist u password none) = false := rfl
  rw [htalk, List.filter_append, hchecks, List.nil_append,
    List.filter_cons_of_neg (by simp [hwrite]), hrest.notified hmem]

end Course

/-- **The order of effects in a registration**, whatever its calls are answered with, as long as the
log takes every line.  A login that is too short ends the run before anything else is asked.  An
account is stored at most once, after its login and its email were found to be free in the very
scope that it is stored in.  The session is committed only right after an account with an id was
given back, and an email is sent only right after that commit: once if one is due, and not at all
otherwise, with the token that was stored and with the decision that took the right to sign in. -/
theorem registerUser_effect_order {σ : Type} (h : Handler σ)
    (hlog : ∀ event s, (h (.log event) s).1 = .ok ()) (site : Installation) (outer : Log.Context)
    (candidate : User) (password token : Option String) (s : σ) :
    let talk := (registerUser site outer candidate password token).noted orderWatch h s
    (∀ stored, minimumRead stored ∈ talk →
      Login.isLongEnough (minimumOf site.settings stored) candidate.login = false →
      ∀ x ∈ talk, ∃ key, x.call = .configValue key) ∧
    (talk.filter (·.call.isPersist)).length ≤ 1 ∧
    (∀ (before after : List Exchange) (u : User) (password actor : Option String)
      (reply : Except Failure (Option User)),
      talk = before ++ ⟨.persist u password actor, reply⟩ :: after →
      (∃ stored, Login.isLongEnough (minimumOf site.settings stored) candidate.login = true ∧
        before = [minimumRead stored, ⟨.loginFree candidate.login u.scope none, .ok true⟩,
          ⟨.emailFree candidate.email u.scope none, .ok true⟩]) ∧
      u.login = candidate.login ∧ u.email = candidate.email ∧ u.domain = candidate.domain ∧
      u.type = if given candidate.externalType then .external else candidate.type) ∧
    (∀ (before after : List Exchange) (reply : Except Failure Unit),
      talk = before ++ ⟨.commit, reply⟩ :: after →
      ∃ (front : List Exchange) (u : User) (password : Option String) (v : User),
        v.id.isSome = true ∧
        before = front ++ [⟨.persist u password none, .ok (some v)⟩]) ∧
    (∀ (before after : List Exchange) (n : Notice) (sent : Except Failure Bool),
      talk = before ++ ⟨.notify n, sent⟩ :: after →
      ∃ (front : List Exchange) (u : User) (password : Option String) (v : User),
        v.id.isSome = true ∧
        before = front ++ [⟨.persist u password none, .ok (some v)⟩, ⟨.commit, .ok ()⟩] ∧
        u.activationToken = some n.token ∧
        u.rights = if n.confirm then candidate.rights.erase .login else candidate.rights) ∧
    (⟨.commit, .ok ()⟩ ∈ talk →
      (talk.filter (·.call.isNotify)).length =
        if given candidate.externalType = false ∧ given candidate.email = true then 1 else 0) := by
  intro talk
  have hadmits : orderWatch.Admits h := by
    intro c s hcalm
    cases c with
    | log event => exact ⟨(), hlog event s⟩
    | _ => cases hcalm
  have hcourse : Course site.settings candidate talk :=
    (registerUser_course site outer candidate password token).noted hadmits s
  refine ⟨fun stored hread hshort => hcourse.of_tooShort hread hshort, hcourse.persists_le,
    ?_, fun before after reply hx => hcourse.commit_at hx,
    fun before after n sent hx => hcourse.notify_at hx, fun hcommit => ?_⟩
  · intro before after u password actor reply hx
    obtain ⟨hchecks, hkeys⟩ := hcourse.persist_at hx
    exact ⟨hchecks, hkeys.login, hkeys.email, hkeys.domain, hkeys.type⟩
  · rw [hcourse.notified hcommit]
    simp [emailDue]

/-- A commit that did not fail. -/
def isCommitted (x : Exchange) : Bool :=
  (match x.call with
    | .commit => true
    | _ => false) && x.reply.isOk

theorem committed_mem (h : talk.any isCommitted = true) : ⟨.commit, .ok ()⟩ ∈ talk := by
  obtain ⟨⟨c, reply⟩, hmem, hx⟩ := List.any_eq_true.mp h
  cases c with
  | commit =>
    cases reply with
    | ok done => exact hmem
    | error e => cases hx
  | _ => cases hx

/-- An account that must be confirmed is stored, committed and written to. -/
theorem registerUser_effect_order_confirmed :
    let candidate : User := {
      login := "alice", email := some "alice@example.org", valid := by decide }
    let cast : Workflow.Cast := {
      values := [("application.base.url", some "portal")]
      now := { year := 2026, month := 1, day := 1 }
      token := fun _ => "token"
      runId := fun _ => "run" }
    let talk := (registerUser {} {} candidate none none).noted orderWatch Workflow.Rehearsal.answer
      { cast := cast }
    (∀ event s, (Workflow.Rehearsal.answer (.log event) s).1 = .ok ()) ∧
      ⟨.commit, .ok ()⟩ ∈ talk ∧ (talk.filter (·.call.isNotify)).length = 1 := by
  intro candidate cast talk
  have hlog : ∀ event s, (Workflow.Rehearsal.answer (.log event) s).1 = .ok () := fun _ _ => rfl
  have hcommit : ⟨.commit, .ok ()⟩ ∈ talk := committed_mem (by decide +kernel)
  obtain ⟨-, -, -, -, -, hnotified⟩ := registerUser_effect_order Workflow.Rehearsal.answer hlog
    {} {} candidate none none { cast := cast }
  exact ⟨hlog, hcommit, hnotified hcommit⟩

end Enrollment.Registration
