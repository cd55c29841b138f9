/-
What the operations of a session do to its tables.

* `flushWith_cases` — a flush brings everything that is staged to the tables, or drops everything
  since the last commit;
* `Stored`, `persist_eq_ok` — what an account that has been stored has come to, whatever else was
  staged;
* `Storing`, `persist_storing` — the four ways in which storing an account can end while nothing
  else waits to be flushed.

Storing an account is never unfolded again: what it does to atomicity, and which failures it
reports, is read off these cases.
-/
import Enrollment.Directory.Session
import Enrollment.Proofs.Keys

namespace Enrollment.Directory

/-- Of two steps in turn, the second goes on with what the first came to. -/
theorem bind_eq_ok {ε α β : Type} {x : Except ε α} {f : α → Except ε β} {b : β} :
    x >>= f = .ok b ↔ ∃ a, x = .ok a ∧ f a = .ok b := by
  cases x with
  | error e => simp [bind, Except.bind]
  | ok a => simp [bind, Except.bind]

namespace Session

variable {α : Type} {s s' : Session} {t t' : Tables} {clerk : Clerk}

/-! ### Flushing -/

theorem settled_nil (t : Tables) : settled t [] = .ok t := rfl

theorem settled_singleton (t : Tables) (w : Tables.Write) : settled t [w] = t.write w := by
  have h : [w].filter (!·.fresh) ++ [w].filter (·.fresh) = [w] := by
    cases hw : w.fresh <;> simp [hw]
  rw [settled, h]
  cases hw : t.write w <;> simp [List.foldlM, hw, pure, Except.pure, bind, Except.bind]

/-- A flush either brings the staged writes and the change to the tables, or drops everything since
the last commit. -/
theorem flushWith_cases (s : Session) (change : Tables → Except Failure (α × Tables)) :
    (∃ t a t', settled s.working s.staged = .ok t ∧ change t = .ok (a, t') ∧
      s.flushWith change = (.ok a, { s with working := t', staged := [] })) ∨
    (∃ e, (settled s.working s.staged >>= change) = .error e ∧
      s.flushWith change = (.error e, s.rollback)) := by
  rw [flushWith]
  cases hsettled : settled s.working s.staged with
  | error e => exact .inr ⟨e, rfl, rfl⟩
  | ok t =>
    rcases hchange : change t with e | ⟨a, t'⟩
    · refine .inr ⟨e, hchange, ?_⟩
      simp [bind, Except.bind, hchange]
    · refine .inl ⟨t, a, t', rfl, hchange, ?_⟩
      simp [bind, Except.bind, hchange]

/-- A session in which nothing waits to be flushed can always be committed. -/
theorem commit_of_flushed (hs : s.staged = []) :
    s.commit = (.ok (), { s with lasting := s.working }) := by
  rw [commit, flush, flushWith, hs, settled_nil]
  change (Except.ok (), { s with lasting := s.working, staged := [] }) = _
  rw [← hs]

/-- The tables that a flush would bring the session to. -/
def due (s : Session) : Except Failure Tables := settled s.working s.staged

theorem due_of_flushed (hs : s.staged = []) : s.due = .ok s.working := by
  rw [due, hs, settled_nil]

/-- The write of a new account comes after everything that is staged. -/
theorem settled_append_fresh {w : Tables.Write} (hw : w.fresh = true) (ws : List Tables.Write) :
    settled t (ws ++ [w]) = settled t ws >>= fun t' => t'.write w := by
  have hknown : (ws ++ [w]).filter (!·.fresh) = ws.filter (!·.fresh) := by simp [hw]
  have hfresh : (ws ++ [w]).filter (·.fresh) = ws.filter (·.fresh) ++ [w] := by simp [hw]
  rw [settled, hknown, hfresh, ← List.append_assoc, List.foldlM_append, settled]
  refine bind_congr fun t' => ?_
  rw [List.foldlM_cons]
  exact bind_pure _

/-- Writes leave groups and configuration alone. -/
theorem settled_keeps {staged : List Tables.Write} (h : settled t staged = .ok t') :
    t'.groups = t.groups ∧ t'.configuration = t.configuration := by
  rw [settled] at h
  generalize staged.filter (!·.fresh) ++ staged.filter (·.fresh) = ws at h
  induction ws generalizing t with
  | nil =>
    cases h
    exact ⟨rfl, rfl⟩
  | cons w ws ih =>
    rw [List.foldlM_cons] at h
    obtain ⟨t₁, hw, hws⟩ := bind_eq_ok.mp h
    obtain ⟨-, rfl⟩ := Tables.write_eq_ok.mp hw
    have hrest := ih hws
    exact hrest

/-! ### What is written for an account, and beside which rows -/

/-- The row under which an account is to be stored: its present one, or none where it is new.  An
account that names an unknown id has no place. -/
def place? (t : Tables) (u : User) : Option (Option Row) :=
  match u.id with
  | none => some none
  | some id => (t.row? id).map some

/-- An account that is to be stored under no row has no id. -/
theorem new_of_place? {t : Tables} {u : User} (h : place? t u = some none) : u.id = none := by
  rw [place?] at h
  split at h
  · assumption
  · simp at h

/-- The row under which an account is to be stored is a row of its id. -/
theorem known_of_place? {t : Tables} {u : User} {r : Row} (h : place? t u = some (some r)) :
    r ∈ t.users ∧ u.id = some r.id := by
  rw [place?] at h
  split at h
  · cases h
  · rename_i id hid
    obtain ⟨o, ho, hsome⟩ := Option.map_eq_some_iff.mp h
    cases hsome
    obtain ⟨hr, rfl⟩ := Tables.mem_of_row? ho
    exact ⟨hr, hid⟩

/-- Another active account of the account's scope has its login. -/
def LoginHeld (t : Tables) (u : User) : Prop :=
  ∃ o ∈ t.users, o.HoldsLogin u.scope u.login ∧ o.counts u.id = true

/-- Another active account of the account's scope has its email, if there is one. -/
def EmailHeld (t : Tables) (u : User) : Prop :=
  ∃ e, u.email = some e ∧ e ≠ "" ∧ ∃ o ∈ t.users, o.HoldsEmail u.scope e ∧ o.counts u.id = true

variable {old : Option Row} {u : User} {hashed actor : Option String}

/-- The rows beside which an account has to keep the rules are those of other accounts. -/
theorem mem_beside_writeOf (hplace : place? t u = some old) {o : Row} :
    o ∈ t.beside (writeOf clerk old u hashed actor) ↔ o ∈ t.users ∧ o.counts u.id = true := by
  rw [place?] at hplace
  split at hplace
  · rename_i hid
    cases hplace
    rw [Tables.beside, if_pos (by rfl), Row.counts, hid]
    simp
  · rename_i id hid
    obtain ⟨r, hr, rfl⟩ := Option.map_eq_some_iff.mp hplace
    obtain ⟨-, rfl⟩ := Tables.mem_of_row? hr
    have hrow : (writeOf clerk (some r) u hashed actor).row.id = r.id := rfl
    rw [Tables.beside, if_neg (by simp [writeOf]), List.mem_filter, Row.counts, hid, hrow]
    simp only [decide_eq_true_eq, ne_eq, Option.some.injEq]
    exact and_congr_right fun _ => ne_comm

theorem writeOf_active : (writeOf clerk old u hashed actor).row.active = !u.deleted := rfl

/-- An account that is not deleted is stored in the scope that it belongs to. -/
theorem writeOf_inScope (hu : u.deleted = false) :
    (writeOf clerk old u hashed actor).row.inScope u.scope = true :=
  Row.inScope_eq_true.mpr ⟨by rw [writeOf_active, hu]; rfl, rfl, rfl⟩

/-- An account that is not deleted collides on its login exactly where another one has it. -/
theorem loginTakenBy_writeOf (hplace : place? t u = some old) :
    loginTakenBy (t.beside (writeOf clerk old u hashed actor))
        (writeOf clerk old u hashed actor).row = true ↔ u.deleted = false ∧ LoginHeld t u := by
  constructor
  · intro h
    have hu : u.deleted = false := by simpa [writeOf_active] using active_of_loginTakenBy h
    obtain ⟨o, ho, hholds⟩ := (loginTakenBy_iff (writeOf_inScope hu)).mp h
    obtain ⟨hmem, hcounts⟩ := (mem_beside_writeOf hplace).mp ho
    exact ⟨hu, o, hmem, hholds, hcounts⟩
  · rintro ⟨hu, o, hmem, hholds, hcounts⟩
    refine (loginTakenBy_iff (writeOf_inScope hu)).mpr ⟨o, ?_, hholds⟩
    exact (mem_beside_writeOf hplace).mpr ⟨hmem, hcounts⟩

/-- It collides on its email exactly where another one has it. -/
theorem emailTakenBy_writeOf (hplace : place? t u = some old) :
    emailTakenBy (t.beside (writeOf clerk old u hashed actor))
        (writeOf clerk old u hashed actor).row = true ↔ u.deleted = false ∧ EmailHeld t u := by
  constructor
  · intro h
    obtain ⟨hactive, e, hemail, hne⟩ := email_of_emailTakenBy h
    have hu : u.deleted = false := by simpa [writeOf_active] using hactive
    obtain ⟨o, ho, hholds⟩ := (emailTakenBy_iff (writeOf_inScope hu) hemail hne).mp h
    obtain ⟨hmem, hcounts⟩ := (mem_beside_writeOf hplace).mp ho
    exact ⟨hu, e, hemail, hne, o, hmem, hholds, hcounts⟩
  · rintro ⟨hu, e, hemail, hne, o, hmem, hholds, hcounts⟩
    refine (emailTakenBy_iff (writeOf_inScope hu) hemail hne).mpr ⟨o, ?_, hholds⟩
    exact (mem_beside_writeOf hplace).mpr ⟨hmem, hcounts⟩

/-! ### Accounts that have been stored -/

/-- What storing an account has come to where it succeeded: the write took its turn among all that
was staged, and the account is what its row is read back as. -/
inductive Stored (s : Session) (clerk : Clerk) (u : User) (password actor : Option String) :
    User → Session → Prop where
  | intro {old : Option Row} {hashed : Option String} {t : Tables}
      (hplace : place? s.working u = some old)
      (hhash : (filled password).mapM clerk.hash = .ok hashed)
      (hsettled : settled s.working (s.staged ++ [writeOf clerk old u hashed actor]) = .ok t) :
    Stored s clerk u password actor (t.user (writeOf clerk old u hashed actor).row)
      { s with working := t, staged := [] }

theorem store_eq_ok {stored : User} {password : Option String}
    (hplace : place? s.working u = some old)
    (h : (s.store clerk old u password actor).1 = .ok stored) :
    Stored s clerk u password actor stored (s.store clerk old u password actor).2 := by
  rw [store] at h ⊢
  cases hhash : (filled password).mapM clerk.hash with
  | error e =>
    rw [hhash] at h
    cases h
  | ok hashed =>
    rw [hhash] at h
    simp only [flush] at h ⊢
    generalize hs' : { s with staged := s.staged ++ [writeOf clerk old u hashed actor] } = s' at h ⊢
    rcases s'.flushWith_cases fun t => .ok ((), t) with
      ⟨t, _, _, hsettled, ht, heq⟩ | ⟨e, -, heq⟩
    · rw [heq] at h ⊢
      cases ht
      cases h
      subst hs'
      exact .intro hplace hhash hsettled
    · rw [heq] at h
      cases h

/-- **An account is stored** only under its present row or as a new one, with every write that was
staged before it. -/
theorem persist_eq_ok {stored : User} {password : Option String}
    (h : (s.persist clerk u password actor).1 = .ok stored) :
    Stored s clerk u password actor stored (s.persist clerk u password actor).2 := by
  rw [persist] at h ⊢
  split at h
  · rename_i hid
    exact store_eq_ok (by simp only [place?, hid]) h
  · rename_i id hid
    split at h
    · cases h
    · rename_i old hrow
      exact store_eq_ok (by simp only [place?, hid, hrow, Option.map_some]) h

/-- While nothing else is staged, the account is all that is written. -/
theorem Stored.write {stored : User} {password : Option String} (hs : s.staged = [])
    (hplace : place? s.working u = some old)
    (h : Stored s clerk u password actor stored s') :
    ∃ hashed t, (filled password).mapM clerk.hash = .ok hashed ∧
      s.working.write (writeOf clerk old u hashed actor) = .ok t ∧
      stored = t.user (writeOf clerk old u hashed actor).row ∧
      s' = { s with working := t } := by
  cases h with
  | intro hplace' hhash hsettled =>
    cases hplace.symm.trans hplace'
    rw [hs, List.nil_append, settled_singleton] at hsettled
    exact ⟨_, _, hhash, hsettled, rfl, by rw [hs]⟩

/-- Storing an account leaves groups and configuration alone. -/
theorem Stored.keeps {stored : User} {password : Option String}
    (h : Stored s clerk u password actor stored s') :
    s'.working.groups = s.working.groups ∧ s'.working.configuration = s.working.configuration := by
  cases h with
  | intro _ _ hsettled => exact settled_keeps hsettled

/-- An account that has been stored has an id, and nothing waits to be flushed. -/
theorem Stored.flushed {stored : User} {password : Option String}
    (h : Stored s clerk u password actor stored s') :
    s'.staged = [] ∧ stored.id.isSome = true := by
  cases h
  exact ⟨rfl, rfl⟩

/-! ### Storing an account while nothing else is staged -/

/-- What storing an account comes to, as a result and as a session. -/
inductive Storing (s : Session) (clerk : Clerk) (u : User) (password actor : Option String) :
    Except Failure User → Session → Prop where
  /-- The account names an id that is not known. -/
  | missing {id : String} (hplace : place? s.working u = none) (hid : u.id = some id) :
    Storing s clerk u password actor (.error (.accountMissing id)) s
  /-- The password could not be hashed: the account is staged without it. -/
  | unhashed {old : Option Row} {e : Failure} (hplace : place? s.working u = some old)
      (hhash : (filled password).mapM clerk.hash = .error e) {w : Tables.Write} :
    Storing s clerk u password actor (.error e) { s with staged := [w] }
  /-- The write broke a rule: everything since the last commit is dropped. -/
  | refused {old : Option Row} {hashed : Option String} {e : Failure}
      (hplace : place? s.working u = some old)
      (hhash : (filled password).mapM clerk.hash = .ok hashed)
      (hrefusal : s.working.refusal? (writeOf clerk old u hashed actor) = some e) :
    Storing s clerk u password actor (.error (reported e)) s.rollback
  /-- The account has been stored. -/
  | stored {old : Option Row} {hashed : Option String} {t : Tables}
      (hplace : place? s.working u = some old)
      (hhash : (filled password).mapM clerk.hash = .ok hashed)
      (hwrite : s.working.write (writeOf clerk old u hashed actor) = .ok t) :
    Storing s clerk u password actor (.ok (t.user (writeOf clerk old u hashed actor).row))
      { s with working := t }

theorem store_storing (hs : s.staged = []) {password : Option String}
    (hplace : place? s.working u = some old) :
    Storing s clerk u password actor (s.store clerk old u password actor).1
      (s.store clerk old u password actor).2 := by
  rw [store]
  cases hhash : (filled password).mapM clerk.hash with
  | error e =>
    simp only [hs, List.nil_append]
    exact .unhashed hplace hhash
  | ok hashed =>
    simp only [flush, flushWith, hs, List.nil_append, settled_singleton]
    cases hwrite : s.working.write (writeOf clerk old u hashed actor) with
    | error e => exact .refused hplace hhash (Tables.write_eq_error.mp hwrite)
    | ok t =>
      have hsame : { s with working := t, staged := [] } = { s with working := t } := by rw [hs]
      simp only [bind, Except.bind, hsame]
      exact .stored hplace hhash hwrite

/-- **The four ways in which storing an account ends** while nothing else is staged. -/
theorem persist_storing (hs : s.staged = []) (clerk : Clerk) (u : User)
    (password actor : Option String) :
    Storing s clerk u password actor (s.persist clerk u password actor).1
      (s.persist clerk u password actor).2 := by
  rw [persist]
  split
  · rename_i hid
    exact store_storing hs (by simp only [place?, hid])
  · rename_i id hid
    split
    · rename_i hrow
      exact .missing (by simp only [place?, hid, hrow, Option.map_none]) hid
    · rename_i old hrow
      exact store_storing hs (by simp only [place?, hid, hrow, Option.map_some])

/-! ### Which failures storing an account reports -/

/-- Only the tables decide whether the account is stored: an id that it names is known, its password
can be hashed, and its numbers fit their columns. -/
structure Storable (t : Tables) (clerk : Clerk) (u : User) (password : Option String) : Prop where
  known : (place? t u).isSome = true
  hashed : ∃ hashed, (filled password).mapM clerk.hash = .ok hashed
  fits : (u.languageId.map Text.fitsWord).getD true = true

/-- The id of a new account is its own, and the groups that the account newly joins exist and are
named once. -/
def Joins (t : Tables) (clerk : Clerk) (u : User) : Prop :=
  ∀ old, place? t u = some old → t.Joinable (writeOf clerk old u none none)

/-- What the tables decide on an account that can be stored. -/
inductive Decided (t : Tables) (clerk : Clerk) (u : User) : Except Failure User → Prop where
  | email (hdeleted : u.deleted = false) (hheld : EmailHeld t u) :
    Decided t clerk u (.error (.duplicateOf "email"))
  | login (hemail : ¬ (u.deleted = false ∧ EmailHeld t u)) (hdeleted : u.deleted = false)
      (hheld : LoginHeld t u) : Decided t clerk u (.error (.duplicateOf "login"))
  /-- No key is held, and still a login is named. -/
  | unjoined (hemail : ¬ (u.deleted = false ∧ EmailHeld t u))
      (hlogin : ¬ (u.deleted = false ∧ LoginHeld t u)) (hjoins : ¬ Joins t clerk u) :
    Decided t clerk u (.error (.duplicateOf "login"))
  | stored {stored : User} (hemail : ¬ (u.deleted = false ∧ EmailHeld t u))
      (hlogin : ¬ (u.deleted = false ∧ LoginHeld t u)) (hjoins : Joins t clerk u) :
    Decided t clerk u (.ok stored)

variable {password : Option String} {e : Failure}

theorem joins_iff (hplace : place? t u = some old) :
    Joins t clerk u ↔ t.Joinable (writeOf clerk old u hashed actor) := by
  constructor
  · intro h
    have hjoinable := h old hplace
    exact ⟨hjoinable.id, hjoinable.once, hjoinable.groups⟩
  · intro h old' hplace'
    cases hplace.symm.trans hplace'
    exact ⟨h.id, h.once, h.groups⟩

theorem not_emailHeld_iff (hplace : place? t u = some old) :
    emailTakenBy (t.beside (writeOf clerk old u hashed actor))
        (writeOf clerk old u hashed actor).row = false ↔
      ¬ (u.deleted = false ∧ EmailHeld t u) := by
  rw [← emailTakenBy_writeOf hplace, Bool.not_eq_true]

theorem not_loginHeld_iff (hplace : place? t u = some old) :
    loginTakenBy (t.beside (writeOf clerk old u hashed actor))
        (writeOf clerk old u hashed actor).row = false ↔
      ¬ (u.deleted = false ∧ LoginHeld t u) := by
  rw [← loginTakenBy_writeOf hplace, Bool.not_eq_true]

/-- A refusal of the tables names the key that is held, and a login where no key is. -/
theorem decided_of_refusal? (hplace : place? t u = some old)
    (hfits : (u.languageId.map Text.fitsWord).getD true = true)
    (h : t.refusal? (writeOf clerk old u hashed actor) = some e) :
    Decided t clerk u (.error (reported e)) := by
  have hrefusal := t.refusal (writeOf clerk old u hashed actor)
  rw [h] at hrefusal
  cases hrefusal with
  | tooLarge hlarge => exact absurd hfits hlarge
  | emailTaken _ hemail =>
    obtain ⟨hdeleted, hheld⟩ := (emailTakenBy_writeOf hplace).mp hemail
    exact .email hdeleted hheld
  | loginTaken _ hemail hlogin =>
    obtain ⟨hdeleted, hheld⟩ := (loginTakenBy_writeOf hplace).mp hlogin
    exact .login ((not_emailHeld_iff hplace).mp hemail) hdeleted hheld
  | unjoinable _ hemail hlogin hjoinable hrule =>
    rw [reported, hrule]
    exact .unjoined ((not_emailHeld_iff hplace).mp hemail) ((not_loginHeld_iff hplace).mp hlogin)
      (mt (joins_iff hplace).mp hjoinable)

/-- **The tables decide** whether an account that can be stored is. -/
theorem persist_decided (hs : s.staged = []) (h : Storable s.working clerk u password)
    (actor : Option String) :
    Decided s.working clerk u (s.persist clerk u password actor).1 := by
  have hstoring := persist_storing hs clerk u password actor
  generalize (s.persist clerk u password actor).2 = s' at hstoring
  generalize (s.persist clerk u password actor).1 = r at hstoring ⊢
  cases hstoring with
  | missing hplace =>
    have hknown := h.known
    rw [hplace] at hknown
    cases hknown
  | unhashed _ hfailed =>
    obtain ⟨hashed, hhash⟩ := h.hashed
    rw [hhash] at hfailed
    cases hfailed
  | refused hplace _ hrefusal => exact decided_of_refusal? hplace h.fits hrefusal
  | @stored old hashed t' hplace _ hwrite =>
    have hrefusal := s.working.refusal (writeOf clerk old u hashed actor)
    rw [(Tables.write_eq_ok.mp hwrite).1] at hrefusal
    cases hrefusal with
    | none _ hemail hlogin hjoinable =>
      exact .stored ((not_emailHeld_iff hplace).mp hemail) ((not_loginHeld_iff hplace).mp hlogin)
        ((joins_iff hplace).mpr hjoinable)

theorem hash_eq_error (h : (filled password).mapM clerk.hash = .error e) :
    ∃ p, filled password = some p ∧ clerk.hash p = .error e := by
  cases hp : filled password with
  | none =>
    rw [hp] at h
    cases h
  | some p =>
    rw [hp, Option.mapM_some] at h
    cases hh : clerk.hash p with
    | ok hashed =>
      rw [hh] at h
      cases h
    | error e' =>
      rw [hh] at h
      cases h
      exact ⟨p, rfl, hh⟩

theorem hash_eq_ok {p : String} (hp : p ≠ "") (h : (filled (some p)).mapM clerk.hash = .ok hashed) :
    ∃ hash, hashed = some hash ∧ clerk.hash p = .ok hash := by
  rw [filled_of_ne hp, Option.mapM_some] at h
  cases hh : clerk.hash p with
  | error e =>
    rw [hh] at h
    cases h
  | ok hash =>
    rw [hh] at h
    cases h
    exact ⟨hash, rfl, rfl⟩

/-- Only a broken rule is reported as a lost write, and only of a row that fits. -/
theorem fits_of_duplicate {w : Tables.Write} {field message : String} (h : t.refusal? w = some e)
    (he : .duplicate field message = reported e) : w.Fits := by
  have hrefusal := t.refusal w
  rw [h] at hrefusal
  cases hrefusal with
  | tooLarge => cases he
  | emailTaken hfits => exact hfits
  | loginTaken hfits => exact hfits
  | unjoinable hfits => exact hfits

/-- A lost write could be stored, if the hasher reports none, and has been dropped. -/
theorem persist_eq_duplicate (hs : s.staged = [])
    (hhash : ∀ p e, clerk.hash p = .error e → ∀ field message, e ≠ .duplicate field message)
    {field message : String}
    (h : (s.persist clerk u password actor).1 = .error (.duplicate field message)) :
    Storable s.working clerk u password ∧ (s.persist clerk u password actor).2 = s.rollback := by
  have hstoring := persist_storing hs clerk u password actor
  revert hstoring
  generalize (s.persist clerk u password actor).2 = s'
  rw [h]
  intro hstoring
  generalize hr : Except.error (Failure.duplicate field message) = r at hstoring
  cases hstoring with
  | missing => cases hr
  | unhashed _ hfailed =>
    cases hr
    obtain ⟨p, -, hp⟩ := hash_eq_error hfailed
    exact absurd rfl (hhash p _ hp field message)
  | @refused old hashed e hplace hok hrefusal =>
    injection hr with he
    exact ⟨⟨by rw [hplace]; rfl, ⟨hashed, hok⟩, fits_of_duplicate hrefusal he⟩, rfl⟩
  | stored => cases hr

end Session
end Enrollment.Directory
