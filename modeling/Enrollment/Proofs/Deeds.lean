/-
What the operations of a history make of the accounts.

* `Turn`, `World.through` — a history: operations in turn, each asked of an installation of its own;
* `Operation.Worked` — the operations that store no account as it stands: the workflows, and
  everything about groups and configuration;
* `Session.Orderly` — a session whose tables keep the rules, with nothing that waits to be flushed;
* `Deed` — what such an operation has made of the accounts: nothing, an account added or written over
  by a registration, or an account linked;
* `Operation.deed` — it is one of these from every orderly session, and leaves an orderly one.
-/
import Enrollment.Proofs.Linked
import Enrollment.Proofs.NewAccounts

namespace Enrollment

open Directory

variable {sv : Service} {w w' : World} {op : Operation}

/-! ### Histories of several installations -/

/-- An operation that is asked of an installation, within a context of the log. -/
structure Turn where
  service : Service
  outer : Log.Context := {}
  operation : Operation

/-- The state after a turn. -/
def Turn.take (x : Turn) (w : World) : World := x.operation.perform x.service x.outer w

/-- The state after a history. -/
def World.through (w : World) (history : List Turn) : World :=
  history.foldl (fun w x => x.take w) w

theorem World.through_append (w : World) (before later : List Turn) :
    w.through (before ++ later) = (w.through before).through later :=
  List.foldl_append

theorem World.through_concat (w : World) (before : List Turn) (x : Turn) :
    w.through (before ++ [x]) = x.take (w.through before) :=
  w.through_append before [x]

/-- The operation stores no account as it stands. -/
def Operation.Worked : Operation → Prop
  | .persist _ _ _ => False
  | _ => True

/-! ### Orderly sessions -/

namespace Directory.Session

variable {s s' : Session}

/-- What lasts and what is seen keep the rules, and nothing waits to be flushed. -/
structure Orderly (s : Session) : Prop where
  lasting : s.lasting.Consistent
  working : s.working.Consistent
  staged : s.staged = []

theorem Orderly.empty : Orderly {} :=
  ⟨Tables.consistent_empty, Tables.consistent_empty, rfl⟩

theorem Orderly.of_lasting {t : Tables} (ht : t.Consistent) : Orderly { lasting := t } :=
  ⟨ht, ht, rfl⟩

theorem Orderly.of_left (hs : s.Orderly) (h : s.Left s') : s'.Orderly := by
  cases h with
  | kept => exact hs
  | dropped => exact .of_lasting hs.lasting

/-- No account has been stored: the accounts are those that were seen, or those that last. -/
structure SameRows (s s' : Session) : Prop where
  lasting : s'.lasting.users = s.lasting.users ∨ s'.lasting.users = s.working.users
  working : s'.working.users = s.working.users ∨ s'.working.users = s.lasting.users

theorem SameRows.of_left (h : s.Left s') : s.SameRows s' where
  lasting := .inl (congrArg Tables.users h.lasting)
  working := h.working.imp (congrArg Tables.users) (congrArg Tables.users)

/-- A change that leaves the rows alone stores no account when it is flushed. -/
theorem Orderly.flushWith {α : Type} (hs : s.Orderly)
    {change : Tables → Except Failure (α × Tables)}
    (hchange : ∀ t a t', change t = .ok (a, t') → t.Step t' ∧ t'.users = t.users) :
    (s.flushWith change).2.Orderly ∧ s.SameRows (s.flushWith change).2 := by
  rcases s.flushWith_cases change with ⟨t, a, t', hsettled, hok, heq⟩ | ⟨e, -, heq⟩
  · rw [hs.staged, settled_nil] at hsettled
    cases hsettled
    obtain ⟨hstep, husers⟩ := hchange _ a t' hok
    rw [heq]
    exact ⟨⟨hs.lasting, hstep.consistent hs.working, rfl⟩, .inl rfl, .inl husers⟩
  · rw [heq]
    exact ⟨hs.of_left .dropped, .of_left .dropped⟩

theorem Orderly.unset (hs : s.Orderly) (key : String) :
    (s.unset key).2.Orderly ∧ s.SameRows (s.unset key).2 := by
  rw [Session.unset]
  split
  · exact ⟨hs, .of_left .kept⟩
  · refine hs.flushWith fun t a t' h => ?_
    cases h
    exact ⟨.unset key, rfl⟩

theorem Orderly.commit (hs : s.Orderly) : s.commit.2.Orderly ∧ s.SameRows s.commit.2 := by
  rw [commit_of_flushed hs.staged]
  exact ⟨⟨hs.working, hs.working, hs.staged⟩, .inr rfl, .inl rfl⟩

/-- An account that has been stored and committed leaves the session orderly, and is written beside
all others or in the place of its row. -/
theorem Stored.orderly {clerk : Clerk} {u stored : User} {password actor : Option String}
    (h : Stored s clerk u password actor stored s') (hs : s.Orderly) :
    Orderly { s' with lasting := s'.working } ∧ ∃ old hash, place? s.working u = some old ∧
      s.working.write (writeOf clerk old u hash actor) = .ok s'.working := by
  have hplaced : ∃ old, place? s.working u = some old := by
    cases h with
    | intro hplace => exact ⟨_, hplace⟩
  obtain ⟨old, hplace⟩ := hplaced
  obtain ⟨hash, t, -, hwrite, -, rfl⟩ := h.write hs.staged hplace
  have hold : ∀ r ∈ old, r ∈ s.working.users := by
    rintro r rfl
    exact (known_of_place? hplace).1
  have ht := hs.working.write (writeOf_due hold _ _) hwrite
  exact ⟨⟨ht, ht, hs.staged⟩, old, hash, hplace, hwrite⟩

end Directory.Session

/-! ### What an operation has made of the accounts -/

/-- What an operation that stores no account as it stands has made of the accounts. -/
inductive Deed (sv : Service) (w w' : World) : Operation → Prop where
  /-- No account has been stored: the accounts are those that were seen, or those that last. -/
  | unstored {op : Operation} (h : w.session.SameRows w'.session) : Deed sv w w' op
  /-- A candidate has been added. -/
  | handed {candidate : User} {password token : Option String} {r : Row}
      (husers : w'.tables.users = w.tables.users ++ [r])
      (hlasting : w'.session.lasting = w'.session.working) :
    Deed sv w w' (.registerUser candidate password token)
  /-- A candidate has been written over the account whose id it has. -/
  | overwritten {candidate : User} {password token : Option String} {r : Row}
      (hid : candidate.id = some r.id)
      (husers : w'.tables.users = w.tables.users.map fun o => if o.id = r.id then r else o)
      (hlasting : w'.session.lasting = w'.session.working) :
    Deed sv w w' (.registerUser candidate password token)
  /-- Somebody has registered. -/
  | registered {form : Registration.Form} {r : Row} (hnew : w.tables.row? r.id = none)
      (husers : w'.tables.users = w.tables.users ++ [r]) (htype : r.fields.type = .user)
      (hlogin : r.fields.canLogin = true ↔
        w.tables.confirmationRequired sv.site.settings = false)
      (hlasting : w'.session.lasting = w'.session.working) : Deed sv w w' (.register form)
  /-- An account has been linked. -/
  | linked {a : Assertion} {provider : String} {w₁ : World} {r : Row} {t' : Tables}
      (h : Linking.Done sv w w₁ a provider r t') (hsession : w'.session = { lasting := t' }) :
    Deed sv w w' (.link a provider)

/-- Nothing has been stored. -/
theorem Deed.of_left (hw : w.session.Orderly) (h : w.session.Left w'.session) :
    w'.session.Orderly ∧ Deed sv w w' op :=
  ⟨hw.of_left h, .unstored (.of_left h)⟩

/-- A step of the session that stores no account. -/
theorem Deed.of_step {α : Type} (hw : w.session.Orderly)
    {f : Session → Except Failure α × Session}
    (hf : (f w.session).2.Orderly ∧ w.session.SameRows (f w.session).2)
    (hw' : w' = (w.step f).2) : w'.session.Orderly ∧ Deed sv w w' op := by
  subst hw'
  rw [World.step]
  split
  · exact ⟨hf.1, .unstored hf.2⟩
  · exact Deed.of_left hw .kept

/-- A registration that succeeds adds its account, or writes it over the one whose id it has. -/
theorem Registration.registerUser_deed (hw : w.session.Orderly) (hhash : sv.around.PlainHasher)
    (outer : Log.Context) (candidate : User) (password token : Option String) :
    let w' := (sv.run (registerUser sv.site outer candidate password token) w).2
    w'.session.Orderly ∧ Deed sv w w' (.registerUser candidate password token) := by
  intro w'
  by_cases hsucceeded :
      Succeeded (sv.run (registerUser sv.site outer candidate password token) w).1
  · obtain ⟨x, u, s, (hsession : w'.session = _), hstored⟩ :=
      registerUser_stored sv w outer candidate password token hsucceeded
    obtain ⟨horderly, old, hash, hplace, hwrite⟩ := hstored.orderly hw
    have hlasting : w'.session.lasting = w'.session.working := by rw [hsession]
    have husers : w'.tables.users = w.tables.usersAfter _ :=
      (congrArg (fun s : Session => s.working.users) hsession).trans
        (congrArg Tables.users (Tables.write_eq_ok.mp hwrite).2)
    rw [← hsession] at horderly
    refine ⟨horderly, ?_⟩
    -- A candidate without an id is new; one with an id takes the place of that row.
    cases old with
    | none => exact .handed husers hlasting
    | some r₀ =>
      refine .overwritten ?_ husers hlasting
      rw [← x.account_id]
      exact (Session.known_of_place? hplace).2
  · exact Deed.of_left hw
      (registerUser_left hw.staged hhash outer candidate password token hsucceeded)

/-- A self-service registration that gives an account adds it. -/
theorem Registration.register_deed (hw : w.session.Orderly) (hhash : sv.around.PlainHasher)
    (outer : Log.Context) (form : Form) :
    let w' := (sv.run (register sv.site outer form) w).2
    w'.session.Orderly ∧ Deed sv w w' (.register form) := by
  intro w'
  by_cases hcreated : Created (sv.run (register sv.site outer form) w).1
  · obtain ⟨o, u, hrun, hu⟩ := hcreated.exists_user
    obtain ⟨group, s, x, -, (hsession : w'.session = _), hstored⟩ :=
      register_stored sv w outer form o u hrun hu
    obtain ⟨horderly, old, hash, hplace, hwrite⟩ := hstored.orderly hw
    have hid : x.account.id = none := x.account_id.trans (form.candidate_sameKeys _ _ _).id
    simp only [Session.place?, hid, Option.some.injEq] at hplace
    subst hplace
    obtain ⟨hnew, htables⟩ := hw.working.write_fresh rfl hwrite
    obtain ⟨hfields, -⟩ := writeOf_candidate (sv.clerk w) sv.site w.tables group x.drawn _ hash
      x.draft
    rw [← hsession] at horderly
    refine ⟨horderly, .registered hnew ?_ ?_ ?_ ?_⟩
    · rw [World.tables, hsession]
      exact congrArg Tables.users htables
    · rw [hfields]
      rfl
    · rw [hfields]
      cases w.tables.confirmationRequired sv.site.settings <;> simp [Form.fields, Draft.canLogin,
        Rights.contains]
    · rw [hsession]
  · exact Deed.of_left hw (register_left hw.staged hhash outer form hcreated)

/-- **What an operation makes of the accounts** is one of the listed deeds, if it stores none as it
stands, and the session stays orderly. -/
theorem Operation.deed (hw : w.session.Orderly) (hhash : sv.around.PlainHasher)
    (outer : Log.Context) (op : Operation) (hop : op.Worked) :
    (op.perform sv outer w).session.Orderly ∧ Deed sv w (op.perform sv outer w) op := by
  cases op with
  | persist user password actor => exact hop.elim
  | registerUser candidate password token =>
    exact Registration.registerUser_deed hw hhash outer candidate password token
  | register form => exact Registration.register_deed hw hhash outer form
  | link a provider =>
    by_cases hsucceeded : Succeeded (sv.run (Linking.linkOrCreate sv.site outer a provider) w).1
    · obtain ⟨w₁, r, t', hdone, hsession, -⟩ := Linking.linkOrCreate_linked hw.lasting hw.working
        hw.staged hhash outer a provider hsucceeded
      exact ⟨hsession ▸ .of_lasting hdone.consistent, .linked hdone hsession⟩
    · exact Deed.of_left hw (Linking.linkOrCreate_left hw.staged hhash outer a provider hsucceeded)
  | createGroup group =>
    refine Deed.of_step hw (hw.flushWith fun t a t' h => ?_) rfl
    obtain ⟨t₁, hadd, heq⟩ := bind_eq_ok.mp h
    cases heq
    refine ⟨.addGroup hadd, ?_⟩
    obtain ⟨-, -, rfl⟩ := Tables.addGroup_eq_ok.mp hadd
    rfl
  | configure key value description =>
    refine Deed.of_step hw (hw.flushWith fun t a t' h => ?_) rfl
    cases h
    exact ⟨.configure key value description, rfl⟩
  | unset key => exact Deed.of_step hw (hw.unset key) rfl
  | commit =>
    change w.commit.2.session.Orderly ∧ Deed sv w w.commit.2 .commit
    rw [World.commit]
    split
    · exact Deed.of_step hw hw.commit rfl
    · exact Deed.of_left hw .kept
  | rollback => exact Deed.of_left hw .dropped

end Enrollment
