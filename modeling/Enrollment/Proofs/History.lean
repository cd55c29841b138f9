/-
The states that a history of operations can lead to, and the keys of the accounts in them.

* `Operation` — what can be asked of an installation: storing an account as it stands, the three
  workflows, groups and configuration, `commit` and `rollback`;
* `World.Reachable` — the states reached from an empty storage by operations in any order, whether
  they succeed or fail, each under an installation of its own;
* `Reachable.uniquelyKeyed` — in each of them no two active accounts have one login or one email
  in one scope, and the question for the account of a login is answered.

The invariant is `Session.Grown`.  One answer keeps it (`Service.answer_grown`), so every run does,
and so does every operation (`Operation.perform_grown`).  In the same way every operation leaves
nothing that waits to be flushed, as long as passwords can be hashed (`Operation.perform_staged`), so
nothing waits after any number of them (`World.staged_after`).
-/
import Enrollment.Proofs.Growth
import Enrollment.Proofs.Silent

namespace Enrollment

open Directory

/-! ### Histories -/

/-- One thing asked of an installation. -/
inductive Operation where
  /-- Stores an account as it stands: a new one, a change, a deletion, or a deletion taken back. -/
  | persist (user : User) (password actor : Option String)
  | registerUser (candidate : User) (password token : Option String)
  | register (form : Registration.Form)
  | link (assertion : Assertion) (provider : String)
  | createGroup (group : Group)
  | configure (key : String) (value description : Option String)
  | unset (key : String)
  | commit
  | rollback

/-- The state after an operation, however it ended. -/
def Operation.perform (sv : Service) (outer : Log.Context) (w : World) : Operation → World
  | .persist user password actor => (sv.persist w user password actor).2
  | .registerUser candidate password token =>
    (sv.run (Registration.registerUser sv.site outer candidate password token) w).2
  | .register form => (sv.run (Registration.register sv.site outer form) w).2
  | .link assertion provider =>
    (sv.run (Linking.linkOrCreate sv.site outer assertion provider) w).2
  | .createGroup group => (w.step fun s => s.createGroup group).2
  | .configure key value description => (w.step fun s => s.configure key value description).2
  | .unset key => (w.step fun s => s.unset key).2
  | .commit => w.commit.2
  | .rollback => w.rollback

/-- The states that operations lead to from an empty storage. -/
inductive World.Reachable : World → Prop where
  | start {w : World} (h : w.session = {}) : Reachable w
  | step {w : World} (h : Reachable w) (sv : Service) (outer : Log.Context) (op : Operation) :
    Reachable (op.perform sv outer w)

/-- The state after a list of operations of one installation. -/
def World.after (sv : Service) (ops : List Operation) : World :=
  ops.foldl (fun w op => op.perform sv {} w) {}

theorem World.reachable_after (sv : Service) (ops : List Operation) : (after sv ops).Reachable :=
  List.foldlRecOn ops _ (.start rfl) fun _ hw op _ => hw.step sv {} op

/-- Surroundings for concrete runs: names are numbered, and a password is stored with a mark. -/
def Surroundings.numbered : Surroundings where
  freshId n := "user-" ++ toString n
  token n := "token-" ++ toString n
  runId n := "run-" ++ toString n
  now := { year := 2024, month := 1, day := 1 }
  hash p := .ok ("hashed:" ++ p)
  randomPassword n := .ok ("random:" ++ toString n)

/-- An installation for concrete runs. -/
def Service.numbered : Service := { around := .numbered }

/-! ### What every operation keeps -/

variable {w : World}

theorem World.step_grown {α : Type} (hw : w.session.Grown)
    {f : Session → Except Failure α × Session} (hf : w.session.Grown → (f w.session).2.Grown) :
    (w.step f).2.session.Grown := by
  rw [World.step]
  split
  · exact hf hw
  · exact hw

theorem World.commit_grown (hw : w.session.Grown) : w.commit.2.session.Grown := by
  rw [World.commit]
  split
  · exact World.step_grown hw Session.Grown.commit
  · exact hw

theorem Service.persist_grown (sv : Service) (hw : w.session.Grown) (u : User)
    (password actor : Option String) : (sv.persist w u password actor).2.session.Grown :=
  World.step_grown (f := fun s => s.persist (sv.clerk w) u password actor) hw
    fun h => h.persist _ u password actor

/-- Every answer to a call leaves a session whose tables have grown. -/
theorem Service.answer_grown (sv : Service) (c : Call) (w : World) (hw : w.session.Grown) :
    (sv.answer c w).2.session.Grown := by
  by_cases hc : c.Silent
  · rw [(sv.answer_sameStorage hc w).session]
    exact hw
  · cases c with
    | persist user password actor => exact sv.persist_grown hw user password actor
    | commit => exact World.commit_grown hw
    | rollback => exact hw.rollback
    | _ => exact absurd trivial hc

theorem Service.run_grown {α : Type} (sv : Service) (p : Program α) (hw : w.session.Grown) :
    (sv.run p w).2.session.Grown :=
  p.run_keeps (I := fun w => w.session.Grown) sv.answer_grown w hw

/-- Every operation leaves a session whose tables have grown. -/
theorem Operation.perform_grown (sv : Service) (outer : Log.Context) (op : Operation)
    (hw : w.session.Grown) : (op.perform sv outer w).session.Grown := by
  cases op with
  | persist user password actor => exact sv.persist_grown hw user password actor
  | registerUser candidate password token => exact sv.run_grown _ hw
  | register form => exact sv.run_grown _ hw
  | link assertion provider => exact sv.run_grown _ hw
  | createGroup group => exact World.step_grown hw fun h => h.createGroup group
  | configure key value description => exact World.step_grown hw fun h => h.configure _ _ _
  | unset key => exact World.step_grown hw fun h => h.unset key
  | commit => exact World.commit_grown hw
  | rollback => exact hw.rollback

/-- The tables of every state that can be reached have grown. -/
theorem World.Reachable.grown (h : w.Reachable) : w.session.Grown := by
  induction h with
  | start h =>
    rw [h]
    exact Session.Grown.empty
  | step _ sv outer op ih => exact op.perform_grown sv outer ih

/-- Every state that can be reached has a sound session. -/
theorem World.Reachable.sound (h : w.Reachable) : w.session.Sound := h.grown.sound

/-! ### What waits to be flushed -/

namespace Directory.Session

variable {s : Session} {clerk : Clerk}

/-- Storing an account leaves nothing staged, if its password can be hashed. -/
theorem persist_staged (hs : s.staged = []) (hhash : ∀ p e, clerk.hash p ≠ .error e) (u : User)
    (password actor : Option String) : (s.persist clerk u password actor).2.staged = [] := by
  have hstoring := persist_storing hs clerk u password actor
  generalize (s.persist clerk u password actor).1 = r at hstoring
  generalize (s.persist clerk u password actor).2 = s' at hstoring ⊢
  cases hstoring with
  | missing => exact hs
  | unhashed _ hfailed =>
    obtain ⟨p, -, hp⟩ := hash_eq_error hfailed
    exact absurd hp (hhash p _)
  | refused => rfl
  | stored => exact hs

theorem flushWith_staged {α : Type} (s : Session)
    (change : Tables → Except Failure (α × Tables)) : (s.flushWith change).2.staged = [] := by
  rcases s.flushWith_cases change with ⟨t, a, t', -, -, heq⟩ | ⟨e, -, heq⟩
  · rw [heq]
  · rw [heq]
    rfl

theorem unset_staged (hs : s.staged = []) (key : String) : (s.unset key).2.staged = [] := by
  rw [Session.unset]
  split
  · exact hs
  · exact flushWith_staged _ _

end Directory.Session

theorem World.step_staged {α : Type} (hs : w.session.staged = [])
    {f : Session → Except Failure α × Session} (hf : (f w.session).2.staged = []) :
    (w.step f).2.session.staged = [] := by
  rw [World.step]
  split
  · exact hf
  · exact hs

theorem World.commit_staged (hs : w.session.staged = []) : w.commit.2.session.staged = [] := by
  rw [World.commit]
  split
  · refine World.step_staged hs ?_
    rw [Session.commit_of_flushed hs]
    exact hs
  · exact hs

theorem Service.persist_staged (sv : Service) (hhash : ∀ p e, sv.around.hash p ≠ .error e)
    (hs : w.session.staged = []) (u : User) (password actor : Option String) :
    (sv.persist w u password actor).2.session.staged = [] :=
  World.step_staged (f := fun s => s.persist (sv.clerk w) u password actor) hs
    (Session.persist_staged hs hhash u password actor)

theorem Service.answer_staged (sv : Service) (hhash : ∀ p e, sv.around.hash p ≠ .error e) (c : Call)
    (w : World) (hs : w.session.staged = []) : (sv.answer c w).2.session.staged = [] := by
  by_cases hc : c.Silent
  · rw [(sv.answer_sameStorage hc w).session]
    exact hs
  · cases c with
    | persist user password actor => exact sv.persist_staged hhash hs user password actor
    | commit => exact World.commit_staged hs
    | rollback => rfl
    | _ => exact absurd trivial hc

/-- **No operation leaves a write behind that waits to be flushed**, where passwords can be
hashed. -/
theorem Operation.perform_staged (sv : Service) (hhash : ∀ p e, sv.around.hash p ≠ .error e)
    (outer : Log.Context) (op : Operation) (hs : w.session.staged = []) :
    (op.perform sv outer w).session.staged = [] := by
  have hrun : ∀ {α : Type} (p : Program α), (sv.run p w).2.session.staged = [] := fun p =>
    p.run_keeps (I := fun w => w.session.staged = []) (sv.answer_staged hhash) w hs
  cases op with
  | persist user password actor => exact sv.persist_staged hhash hs user password actor
  | registerUser candidate password token => exact hrun _
  | register form => exact hrun _
  | link assertion provider => exact hrun _
  | createGroup group => exact World.step_staged hs (Session.flushWith_staged _ _)
  | configure key value description => exact World.step_staged hs (Session.flushWith_staged _ _)
  | unset key => exact World.step_staged hs (Session.unset_staged hs key)
  | commit => exact World.commit_staged hs
  | rollback => rfl

/-- After operations of an installation that hashes every password nothing waits to be flushed. -/
theorem World.staged_after (sv : Service) (hhash : ∀ p e, sv.around.hash p ≠ .error e)
    (ops : List Operation) : (after sv ops).session.staged = [] :=
  List.foldlRecOn (motive := fun w : World => w.session.staged = []) ops _ rfl
    fun _ hs op _ => op.perform_staged sv hhash {} hs

theorem World.staged_after_numbered (ops : List Operation) :
    (after .numbered ops).session.staged = [] :=
  World.staged_after .numbered (fun _ _ h => nomatch h) ops

/-! ### The keys of the accounts -/

namespace Directory

/-- Two active accounts with one login in one scope, where an empty domain is no domain. -/
structure Row.SharesLogin (a b : Row) : Prop where
  active : a.fields.deleted = false ∧ b.fields.deleted = false
  login : a.fields.login = b.fields.login
  type : a.fields.type = b.fields.type
  domain : filled a.fields.domain = filled b.fields.domain

/-- Two active accounts with one email in one scope, ASCII capitals made small. -/
structure Row.SharesEmail (a b : Row) : Prop where
  active : a.fields.deleted = false ∧ b.fields.deleted = false
  email : ∃ e f, a.fields.email = some e ∧ b.fields.email = some f ∧ e ≠ "" ∧ f ≠ "" ∧
    Text.asciiLower e = Text.asciiLower f
  type : a.fields.type = b.fields.type
  domain : filled a.fields.domain = filled b.fields.domain

/-- Tables in which keys are unique, and in which every login leads to one account at most. -/
structure Tables.UniquelyKeyed (t : Tables) : Prop where
  logins : t.users.Pairwise fun a b => ¬ a.SharesLogin b
  emails : t.users.Pairwise fun a b => ¬ a.SharesEmail b
  /-- The account of a login is found where there is one, and the question never fails. -/
  found : ∀ login scope, ∃ found : Option Row,
    t.accountByLogin login scope = .ok (found.map t.user) ∧
      ∀ r, r ∈ t.users ∧ (r.inScope scope && r.fields.login = login) = true ↔ found = some r

theorem Row.SharesLogin.clash {a b : Row} (h : a.SharesLogin b)
    (ha : filled a.fields.domain = a.fields.domain)
    (hb : filled b.fields.domain = b.fields.domain) :
    clash a.loginKey? b.loginKey? = true := by
  rw [clash_eq_true]
  refine ⟨⟨a.fields.login, a.fields.type, a.fields.domain⟩, ?_, ?_⟩
  · rw [Row.loginKey?, Row.active, h.active.1]
    rfl
  · rw [Row.loginKey?, Row.active, h.active.2, h.login, h.type, ← ha, h.domain, hb]
    rfl

theorem Row.SharesEmail.clash {a b : Row} (h : a.SharesEmail b)
    (ha : filled a.fields.domain = a.fields.domain)
    (hb : filled b.fields.domain = b.fields.domain) :
    clash a.emailKey? b.emailKey? = true := by
  obtain ⟨e, f, hae, hbf, he, hf, hef⟩ := h.email
  rw [clash_eq_true]
  refine ⟨⟨Text.asciiLower e, a.fields.type, a.fields.domain⟩, ?_, ?_⟩
  · rw [Row.emailKey?, Row.active, h.active.1, hae, filled_of_ne he]
    rfl
  · rw [Row.emailKey?, Row.active, h.active.2, hbf, filled_of_ne hf, hef, h.type, ← ha, h.domain,
      hb]
    rfl

theorem Tables.UniquelyKeyed.of_sound {t : Tables} (ht : t.Sound) : t.UniquelyKeyed where
  logins := ht.apart.imp_of_mem fun ha hb hab hshared =>
    absurd (hshared.clash (ht.domains _ ha) (ht.domains _ hb)) (by rw [hab.logins]; simp)
  emails := ht.apart.imp_of_mem fun ha hb hab hshared =>
    absurd (hshared.clash (ht.domains _ ha) (ht.domains _ hb)) (by rw [hab.emails]; simp)
  found := ht.accountByLogin

end Directory

/-- **Keys are unique in every state that can be reached**, in what is lasting and in what the
session sees. -/
theorem World.Reachable.uniquelyKeyed (h : w.Reachable) :
    w.session.lasting.UniquelyKeyed ∧ w.session.working.UniquelyKeyed :=
  ⟨.of_sound h.sound.lasting, .of_sound h.sound.working⟩

/-- An account is deleted, its login taken by another one, and the deletion cannot be taken back. -/
theorem uniquelyKeyed_after_reuse :
    let alice : User := { login := "alice", email := some "Alice@x.org", valid := by decide }
    let first (deleted : Bool) : User :=
      { login := "alice", email := some "Alice@x.org", id := some "user-0", deleted,
        valid := by simp [Draft.Valid] }
    let w := World.after .numbered
      [.persist alice none none, .persist (first true) none none, .persist alice none none,
        .commit, .persist (first false) none none]
    w.session.working.users.map (fun r => (r.id, r.active)) = [("user-0", false), ("user-2", true)] ∧
      w.session.lasting.UniquelyKeyed ∧ w.session.working.UniquelyKeyed := by
  intro alice first w
  have hw : w.Reachable := World.reachable_after _ _
  exact ⟨by decide +kernel, hw.uniquelyKeyed⟩

end Enrollment
