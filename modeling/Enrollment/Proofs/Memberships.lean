/-
How the memberships of an account change when it is stored.

The storage keeps a membership under a key, and reads the memberships of an account by their keys.  A
key is given out again once the rows from it on are gone, and still the order of the keys is always
that in which the memberships were added: a row that is kept keeps its key, and a new one gets a key
beyond all that are in use.

* `rejoin` — the groups that an account was in and still wants, then those that it wants besides;
* `Roster.update` — how the rows change when an account is stored, `rows_update` what they are then;
* `Roster.Lists.write` — the memberships of the tables are those of the rows, by their keys;
* `memberships_rejoined` — after any sequence of updates, one more update makes the memberships of
  its account the `rejoin` of the old and the wanted ones, and touches those of no other account.
-/
import Enrollment.Proofs.Deeds
import Enrollment.Proofs.ReadBack

namespace Enrollment

open Directory

/-! ### Old groups and wanted ones -/

/-- The groups that an account was in and still wants, in their old order, then those that it wants
besides. -/
def rejoin (old wanted : List String) : List String :=
  old.filter (· ∈ wanted) ++ wanted.filter (· ∉ old)

section Rejoin

variable {old wanted : List String} {g : String}

/-- No wanted group is lost, and no other one is kept. -/
@[simp] theorem mem_rejoin : g ∈ rejoin old wanted ↔ g ∈ wanted := by
  by_cases hold : g ∈ old
  · simp [rejoin, hold]
  · simp [rejoin, hold]

/-- No group comes to be there twice. -/
theorem nodup_rejoin (hold : old.Nodup) (hwanted : wanted.Nodup) : (rejoin old wanted).Nodup := by
  refine List.nodup_append.mpr ⟨hold.filter _, hwanted.filter _, ?_⟩
  rintro a ha b hb rfl
  have hnot : a ∉ old := by simpa using List.of_mem_filter hb
  exact hnot (List.mem_of_mem_filter ha)

theorem rejoin_perm (hold : old.Nodup) (hwanted : wanted.Nodup) : (rejoin old wanted).Perm wanted :=
  (List.perm_ext_iff_of_nodup (nodup_rejoin hold hwanted) hwanted).mpr fun _ => mem_rejoin

end Rejoin

namespace Directory

/-- No account is a member of a group twice. -/
theorem Tables.Consistent.nodup_groupsOf {t : Tables} (ht : t.Consistent) (account : String) :
    (t.groupsOf account).Nodup := by
  refine List.Nodup.map_on (fun m hm o ho hgroup => ?_) (ht.once.filter _)
  have hmine : m.account = account := by simpa using List.of_mem_filter hm
  have hothers : o.account = account := by simpa using List.of_mem_filter ho
  exact congrArg₂ Member.mk (hmine.trans hothers.symm) hgroup

/-! ### Rows under their keys -/

/-- A membership as the storage has it. -/
structure KeyedMember where
  key : Nat
  member : Member
deriving DecidableEq

/-- The memberships as the storage has them, listed by their keys. -/
structure Roster where
  rows : List KeyedMember
  byKey : rows.Pairwise (·.key < ·.key)

namespace Roster

variable {p : Roster} {m : Member} {account : String} {wanted : List String}

/-- The rows of an account, by their keys. -/
def of (p : Roster) (account : String) : List KeyedMember :=
  p.rows.filter (·.member.account = account)

/-- The groups of an account, as its rows are read. -/
def groupsOf (p : Roster) (account : String) : List String := (p.of account).map (·.member.group)

/-- The key that a new row gets: one more than the greatest that is in use. -/
def nextKey (p : Roster) : Nat := (p.rows.map (·.key)).foldr max 0 + 1

theorem lt_nextKey {r : KeyedMember} (hr : r ∈ p.rows) : r.key < p.nextKey := by
  have hkey : r.key ∈ p.rows.map (·.key) := List.mem_map_of_mem hr
  exact Nat.lt_succ_of_le (List.le_max_of_le' 0 hkey le_rfl)

/-- The rows with a membership added. -/
def insert (p : Roster) (m : Member) : Roster where
  rows := p.rows ++ [⟨p.nextKey, m⟩]
  byKey := by
    refine List.pairwise_append.mpr ⟨p.byKey, List.pairwise_singleton _ _, fun r hr o ho => ?_⟩
    rw [List.mem_singleton] at ho
    exact ho ▸ lt_nextKey hr

/-- The rows without some of them. -/
def remove (p : Roster) (gone : List KeyedMember) : Roster where
  rows := p.rows.filter (· ∉ gone)
  byKey := p.byKey.filter _

/-- The rows after an account has been stored with the groups that it wants: a row is added for each
that it has no row for, and then its rows for groups that it does not want are removed. -/
def update (p : Roster) (account : String) (wanted : List String) : Roster :=
  let kept := (p.of account).filter (·.member.group ∈ wanted)
  let added := wanted.filter (· ∉ kept.map (·.member.group))
  ((added.map (⟨account, ·⟩)).foldl insert p).remove ((p.of account).filter (· ∉ kept))

/-- Rows that are added come after all others, and have greater keys. -/
theorem rows_foldl_insert (ms : List Member) (p : Roster) :
    ∃ joined, (ms.foldl insert p).rows = p.rows ++ joined ∧ joined.map (·.member) = ms ∧
      ∀ r ∈ joined, ∀ o ∈ p.rows, o.key < r.key := by
  -- Over the rows to come, for all rosters: each is added to what those before it have led to.
  induction ms generalizing p with
  | nil => exact ⟨[], by simp⟩
  | cons m ms ih =>
    obtain ⟨joined, hrows, hmembers, hkeys⟩ := ih (p.insert m)
    refine ⟨⟨p.nextKey, m⟩ :: joined, ?_, by rw [List.map_cons, hmembers], fun r hr o ho => ?_⟩
    · rw [List.foldl_cons, hrows, insert, List.append_assoc]
      rfl
    · rcases List.mem_cons.mp hr with rfl | hr
      · exact lt_nextKey ho
      · exact hkeys r hr o (List.mem_append_left _ ho)

/-- The row is that of another account, or of a group that is wanted. -/
def Stays (account : String) (wanted : List String) (r : KeyedMember) : Prop :=
  r.member.account ≠ account ∨ r.member.group ∈ wanted

instance (account : String) (wanted : List String) : DecidablePred (Stays account wanted) :=
  fun _ => inferInstanceAs (Decidable (_ ∨ _))

/-- **What an update makes of the rows**: all that are to stay are left as they are, and those of the
groups that the account was not in come after them. -/
theorem rows_update (p : Roster) (account : String) (wanted : List String) :
    ∃ joined, (p.update account wanted).rows = p.rows.filter (Stays account wanted) ++ joined ∧
      joined.map (·.member) = (wanted.filter (· ∉ p.groupsOf account)).map (⟨account, ·⟩) ∧
      ∀ r ∈ joined, ∀ o ∈ p.rows, o.key < r.key := by
  have hadded : wanted.filter (· ∉ ((p.of account).filter (·.member.group ∈ wanted)).map
      (·.member.group)) = wanted.filter (· ∉ p.groupsOf account) := by
    refine List.filter_congr fun g hg => ?_
    simp only [groupsOf, List.mem_map, List.mem_filter, decide_eq_true_eq, decide_eq_decide]
    refine not_congr (exists_congr fun r => ⟨fun ⟨⟨hr, _⟩, hrg⟩ => ⟨hr, hrg⟩, ?_⟩)
    -- A wanted group that the account has a row for is that of a row which is kept.
    rintro ⟨hr, rfl⟩
    exact ⟨⟨hr, hg⟩, rfl⟩
  obtain ⟨joined, hrows, hmembers, hkeys⟩ := rows_foldl_insert
    ((wanted.filter (· ∉ p.groupsOf account)).map (⟨account, ·⟩)) p
  refine ⟨joined, ?_, hmembers, hkeys⟩
  rw [update, remove]
  dsimp only
  rw [hadded, hrows, List.filter_append]
  congr 1
  · refine List.filter_congr fun r hr => ?_
    simp only [of, Stays, List.mem_filter, hr]
    by_cases haccount : r.member.account = account
    · simp [haccount]
    · simp [haccount]
  · -- No row that has just been added is one of those that were there.
    refine List.filter_eq_self.mpr fun r hr => ?_
    have hnew : r ∉ p.of account := fun hold =>
      (hkeys r hr r (List.mem_of_mem_filter hold)).false
    simp [hnew]

/-! ### Rows and tables -/

/-- The rows, by their keys, are the memberships of the tables in the order in which they were
added. -/
def Lists (p : Roster) (t : Tables) : Prop := p.rows.map (·.member) = t.members

instance (p : Roster) (t : Tables) : Decidable (p.Lists t) := inferInstanceAs (Decidable (_ = _))

variable {t t' : Tables}

/-- The memberships of all tables are there as rows, if they are added one after the other. -/
theorem exists_lists (t : Tables) : ∃ p : Roster, p.Lists t := by
  obtain ⟨joined, hrows, hmembers, -⟩ := rows_foldl_insert t.members ⟨[], .nil⟩
  refine ⟨t.members.foldl insert ⟨[], .nil⟩, ?_⟩
  rw [Lists, hrows, List.nil_append, hmembers]

/-- What is read from the rows of an account is what the tables say. -/
theorem Lists.groupsOf (h : p.Lists t) (account : String) :
    p.groupsOf account = t.groupsOf account := by
  rw [Roster.groupsOf, of, Tables.groupsOf, ← h, List.filter_map, List.map_map]
  rfl

/-- **A write changes the memberships of the tables as it changes the rows.** -/
theorem Lists.write (h : p.Lists t) {x : Tables.Write} (hwrite : t.write x = .ok t') :
    (p.update x.row.id x.groups).Lists t' := by
  obtain ⟨joined, hrows, hmembers, -⟩ := p.rows_update x.row.id x.groups
  obtain ⟨-, rfl⟩ := Tables.write_eq_ok.mp hwrite
  have hkept : (p.rows.filter (Stays x.row.id x.groups)).map (·.member) =
      t.members.filter (fun m => m.account ≠ x.row.id ∨ m.group ∈ x.groups) := by
    rw [← h, List.filter_map]
    rfl
  rw [Lists, hrows, List.map_append, hkept, hmembers, h.groupsOf]
  rfl

end Roster

/-- The rows as a session sees them, and as they last. -/
structure Ledger where
  seen : Roster
  lasting : Roster

/-- The rows are the memberships of the session's tables. -/
structure Ledger.Lists (l : Ledger) (s : Session) : Prop where
  seen : l.seen.Lists s.working
  lasting : l.lasting.Lists s.lasting

end Directory

/-! ### Updates -/

/-- A change of a known account, which is stored as it stands. -/
structure Update where
  service : Service
  user : User
  id : String
  known : user.id = some id
  password : Option String := none
  actor : Option String := none
  /-- Whether the change is made lasting at once. -/
  commits : Bool := true

namespace Update

/-- What storing the account comes to. -/
def result (x : Update) (w : World) : Except Failure User :=
  (x.service.persist w x.user x.password x.actor).1

/-- The state after an update; what fails is rolled back. -/
def perform (x : Update) (w : World) : World :=
  let after := (x.service.persist w x.user x.password x.actor).2
  match x.result w with
  | .ok _ => if x.commits then after.commit.2 else after
  | .error _ => after.rollback

/-- The rows after an update that came to the result. -/
def record (x : Update) (l : Ledger) : Except Failure User → Ledger
  | .ok _ =>
    let seen := l.seen.update x.id x.user.groupIds
    ⟨seen, if x.commits then seen else l.lasting⟩
  | .error _ => ⟨l.lasting, l.lasting⟩

end Update

/-- The state and the rows after a sequence of updates. -/
def World.updated (w : World) (l : Ledger) (updates : List Update) : World × Ledger :=
  updates.foldl (fun (w, l) x => (x.perform w, x.record l (x.result w))) (w, l)

/-- How an update ends: the account is stored, or what was not lasting is dropped. -/
inductive Update.Performed (x : Update) (w : World) : Except Failure User → Session → Prop where
  | stored {old : Row} {hashed : Option String} {t : Tables}
      (hplace : Session.place? w.tables x.user = some (some old)) (hid : old.id = x.id)
      (hwrite : w.tables.write
        (Session.writeOf (x.service.clerk w) (some old) x.user hashed x.actor) = .ok t) :
    Performed x w
      (.ok (t.user (Session.writeOf (x.service.clerk w) (some old) x.user hashed x.actor).row))
      { w.session with working := t, lasting := if x.commits then t else w.session.lasting }
  | failed (e : Failure) : Performed x w (.error e) w.session.rollback

section Steps

variable {w : World} {l : Ledger} {x : Update}

/-- The place of an account that is updated is a row of its id. -/
theorem Update.row_of_place? (x : Update) {t : Tables} {old : Option Row}
    (hplace : Session.place? t x.user = some old) : ∃ r, old = some r ∧ r.id = x.id := by
  cases old with
  | none =>
    have hnew := Session.new_of_place? hplace
    rw [x.known] at hnew
    cases hnew
  | some r =>
    have hid := (Session.known_of_place? hplace).2
    rw [x.known, Option.some.injEq] at hid
    exact ⟨r, rfl, hid.symm⟩

theorem Update.performed (hopen : w.isOpen = true) (hstaged : w.session.staged = []) :
    x.Performed w (x.result w) (x.perform w).session ∧ (x.perform w).isOpen = true := by
  have hafter := (x.service.persist_isOpen w x.user x.password x.actor).trans hopen
  have hsession : (x.service.persist w x.user x.password x.actor).1 =
        (w.session.persist (x.service.clerk w) x.user x.password x.actor).1 ∧
      (x.service.persist w x.user x.password x.actor).2.session =
        (w.session.persist (x.service.clerk w) x.user x.password x.actor).2 :=
    Service.persist_of_open hopen
  have hstoring := Session.persist_storing hstaged (x.service.clerk w) x.user x.password x.actor
  rw [← hsession.1, ← hsession.2] at hstoring
  rw [perform, result]
  generalize x.service.persist w x.user x.password x.actor = after at hafter hstoring
  obtain ⟨r, w'⟩ := after
  dsimp only at hafter hstoring ⊢
  generalize hs' : w'.session = s' at hstoring
  have hrollback : w'.rollback.session = s'.rollback := congrArg Session.rollback hs'
  cases hstoring with
  | missing | unhashed | refused =>
    -- However the update fails, the same tables last as before.
    refine ⟨?_, hafter⟩
    rw [hrollback]
    exact .failed _
  | @stored old hashed t hplace _ hwrite =>
    obtain ⟨r, rfl, hid⟩ := x.row_of_place? hplace
    have hperformed := Performed.stored hplace hid hwrite
    cases hcommits : x.commits with
    | true =>
      rw [hcommits] at hperformed
      dsimp only
      rw [if_pos rfl, World.commit_of_flushed hafter (by rw [hs']; exact hstaged)]
      refine ⟨?_, hafter⟩
      rw [hs']
      exact hperformed
    | false =>
      rw [hcommits] at hperformed
      dsimp only
      rw [if_neg Bool.false_ne_true, hs']
      exact ⟨hperformed, hafter⟩

/-- The state between two updates: nothing waits to be flushed, and the rows are the memberships. -/
structure World.Recorded (w : World) (l : Ledger) : Prop where
  isOpen : w.isOpen = true
  orderly : w.session.Orderly
  lists : l.Lists w.session

/-- **An update leads from recorded states to recorded states.** -/
theorem World.Recorded.perform (h : w.Recorded l) (x : Update) :
    (x.perform w).Recorded (x.record l (x.result w)) := by
  obtain ⟨hperformed, hopen⟩ := Update.performed (x := x) h.isOpen h.orderly.staged
  generalize x.result w = r at hperformed ⊢
  generalize hs' : (x.perform w).session = s' at hperformed
  suffices hs : s'.Orderly ∧ (x.record l r).Lists s' by
    exact ⟨hopen, hs' ▸ hs.1, hs' ▸ hs.2⟩
  cases hperformed with
  | failed e => exact ⟨.of_lasting h.orderly.lasting, h.lists.lasting, h.lists.lasting⟩
  | @stored old hashed t hplace hid hwrite =>
    have ht : t.Consistent := h.orderly.working.write (Session.due_of_place? hplace) hwrite
    have hseen : (l.seen.update x.id x.user.groupIds).Lists t := hid ▸ h.lists.seen.write hwrite
    cases hcommits : x.commits with
    | true => 
      simp only [Update.record, hcommits]
      exact ⟨⟨ht, ht, h.orderly.staged⟩, hseen, hseen⟩
    | false =>
      simp only [Update.record, hcommits]
      exact ⟨⟨h.orderly.lasting, ht, h.orderly.staged⟩, hseen, h.lists.lasting⟩

theorem World.Recorded.updated (h : w.Recorded l) (updates : List Update) :
    (w.updated l updates).1.Recorded (w.updated l updates).2 := by
  induction updates generalizing w l with
  | nil => exact h
  | cons x updates ih => exact ih (h.perform x)

/-- What has been written where an update succeeds. -/
theorem World.Recorded.written (h : w.Recorded l) {stored : User} (hx : x.result w = .ok stored) :
    ∃ (old : Row) (hashed : Option String),
      let write := Session.writeOf (x.service.clerk w) (some old) x.user hashed x.actor
      Session.place? w.tables x.user = some (some old) ∧ write.row.id = x.id ∧
        w.tables.write write = .ok (x.perform w).tables ∧
        stored = (x.perform w).tables.user write.row := by
  have hperformed := (Update.performed (x := x) h.isOpen h.orderly.staged).1
  rw [hx] at hperformed
  rw [show (x.perform w).tables = (x.perform w).session.working from rfl]
  generalize hr : Except.ok stored = r at hperformed
  generalize (x.perform w).session = s' at hperformed ⊢
  cases hperformed with
  | failed => cases hr
  | @stored old hashed t hplace hid hwrite =>
    cases hr
    exact ⟨old, hashed, hplace, hid, hwrite, rfl⟩

/-- The memberships of every account after an update that succeeds. -/
theorem World.Recorded.groupsOf_perform (h : w.Recorded l) {stored : User}
    (hx : x.result w = .ok stored) (id : String) :
    (x.perform w).tables.groupsOf id =
      if x.id = id then rejoin (w.tables.groupsOf id) x.user.groupIds
      else w.tables.groupsOf id := by
  obtain ⟨old, hashed, -, hid, hwrite, -⟩ := h.written hx
  split
  · rename_i hsame
    rw [← hsame, ← hid]
    exact Tables.groupsOf_write hwrite
  · rename_i hne
    exact Tables.groupsOf_write_of_ne hwrite (hid ▸ Ne.symm hne)

/-- The account is found as it was given back, and every other one as it was. -/
theorem World.Recorded.accountById_perform (h : w.Recorded l) {stored : User}
    (hx : x.result w = .ok stored) :
    (x.perform w).tables.accountById x.id = some stored ∧
      ∀ id, id ≠ x.id → (x.perform w).tables.accountById id = w.tables.accountById id := by
  obtain ⟨old, hashed, hplace, hid, hwrite, rfl⟩ := h.written hx
  have hrow := Tables.row?_written hwrite (Session.due_of_place? hplace).known
  refine ⟨?_, fun id hne => Tables.accountById_write_of_ne hwrite (hid ▸ hne)⟩
  rw [← hid, Tables.accountById, hrow]
  rfl

/-- An update is refused only for a key that another account holds, if its groups exist and are named
once. -/
theorem World.Recorded.accepts (h : w.Recorded l) (honce : x.user.groupIds.Nodup)
    (hgroups : ∀ g ∈ x.user.groupIds, (w.tables.group? g).isSome = true)
    (hstorable : Session.Storable w.tables (x.service.clerk w) x.user x.password)
    (hlogin : ¬ (x.user.deleted = false ∧ Session.LoginHeld w.tables x.user))
    (hemail : ¬ (x.user.deleted = false ∧ Session.EmailHeld w.tables x.user)) :
    ∃ stored, x.result w = .ok stored := by
  have hjoins : Session.Joins w.tables (x.service.clerk w) x.user := by
    intro old hplace
    refine ⟨fun hfresh => ?_, ?_, fun g hg => hgroups g (List.mem_of_mem_filter hg)⟩
    · obtain ⟨r, rfl, -⟩ := x.row_of_place? hplace
      cases hfresh
    · exact Tables.hasTwice_eq_false.mpr (honce.filter _)
  have hdecided := Session.persist_decided h.orderly.staged hstorable x.actor
  rw [Update.result, (Service.persist_of_open h.isOpen).1]
  generalize (w.session.persist (x.service.clerk w) x.user x.password x.actor).1 = r at hdecided ⊢
  cases hdecided with
  | email hdeleted hheld => exact absurd ⟨hdeleted, hheld⟩ hemail
  | login _ hdeleted hheld => exact absurd ⟨hdeleted, hheld⟩ hlogin
  | unjoined _ _ hunjoined => exact absurd hjoins hunjoined
  | stored => exact ⟨_, rfl⟩

/-- Every update of a sequence succeeds. -/
def World.Accepts (w : World) : List Update → Prop
  | [] => True
  | x :: rest => (∃ stored, x.result w = .ok stored) ∧ (x.perform w).Accepts rest

/-- The memberships of an account after a sequence of updates that succeed. -/
theorem World.Recorded.groupsOf_updated (h : w.Recorded l) {updates : List Update}
    (hupdates : w.Accepts updates) (id : String) :
    (w.updated l updates).1.tables.groupsOf id =
      (updates.filter (·.id = id)).foldl (fun old x => rejoin old x.user.groupIds)
        (w.tables.groupsOf id) := by
  induction updates generalizing w l with
  | nil => rfl
  | cons x updates ih =>
    obtain ⟨⟨stored, hx⟩, hrest⟩ := hupdates
    refine (ih (h.perform x) hrest).trans ?_
    rw [h.groupsOf_perform hx, List.filter_cons]
    by_cases hid : x.id = id
    · simp [hid]
    · simp [hid]

end Steps

/-- **Storing an account makes its memberships those that it wants.**  After any sequence of updates,
the rows by their keys are the memberships in the order in which they were added.  One more update of
a known account whose groups exist and are named once is refused only for a key that another account
holds.  Where it is stored, the groups that the account was in and still wants come first, in their
old order and in their old rows, and then those that it wants besides, in rows with greater keys;
every other account is as it was.  And where an update fails, everything is as it lasts. -/
theorem memberships_rejoined (w : World) (hw : w.Reachable) (hopen : w.isOpen = true)
    (hstaged : w.session.staged = []) :
    (∃ l : Ledger, l.Lists w.session) ∧
    ∀ l : Ledger, l.Lists w.session → ∀ (before : List Update) (x : Update),
    let w₁ := (w.updated l before).1
    let l₁ := (w.updated l before).2
    let w₂ := x.perform w₁
    let l₂ := x.record l₁ (x.result w₁)
    let old := w₁.tables.groupsOf x.id
    let wanted := x.user.groupIds
    (w.Accepts before → ∀ id, w₁.tables.groupsOf id =
      (before.filter (·.id = id)).foldl (fun old y => rejoin old y.user.groupIds)
        (w.tables.groupsOf id)) ∧
    l₁.Lists w₁.session ∧ l₂.Lists w₂.session ∧
    (wanted.Nodup → (∀ g ∈ wanted, (w₁.tables.group? g).isSome = true) →
      Session.Storable w₁.tables (x.service.clerk w₁) x.user x.password →
      ¬ (x.user.deleted = false ∧ Session.LoginHeld w₁.tables x.user) →
      ¬ (x.user.deleted = false ∧ Session.EmailHeld w₁.tables x.user) →
      ∃ stored, x.result w₁ = .ok stored) ∧
    (∀ stored, x.result w₁ = .ok stored →
      stored.groupIds = rejoin old wanted ∧
      (wanted.Nodup → (rejoin old wanted).Nodup ∧ (rejoin old wanted).Perm wanted) ∧
      w₂.tables.accountById x.id = some stored ∧
      (∀ id, id ≠ x.id → w₂.tables.accountById id = w₁.tables.accountById id) ∧
      ∃ joined, l₂.seen.rows = l₁.seen.rows.filter (Roster.Stays x.id wanted) ++ joined ∧
        ∀ r ∈ joined, r.member.account = x.id ∧ ∀ o ∈ l₁.seen.rows, o.key < r.key) ∧
    ∀ e, x.result w₁ = .error e → w₂.tables = w₁.session.lasting := by
  obtain ⟨seen, hseen⟩ := Roster.exists_lists w.session.working
  obtain ⟨lasting, hlasting⟩ := Roster.exists_lists w.session.lasting
  refine ⟨⟨⟨seen, lasting⟩, hseen, hlasting⟩, fun l hl before x => ?_⟩
  intro w₁ l₁ w₂ l₂ old wanted
  have h₀ : w.Recorded l := ⟨hopen, ⟨hw.consistent.1, hw.consistent.2, hstaged⟩, hl⟩
  have h : w₁.Recorded l₁ := h₀.updated before
  -- What is said of one update holds of this one, since all before it led to a recorded state.
  refine ⟨h₀.groupsOf_updated, h.lists, (h.perform x).lists, h.accepts, fun stored hx => ?_,
    fun e hx => ?_⟩
  · obtain ⟨joinedRows, hrows, hmembers, hkeys⟩ := l₁.seen.rows_update x.id wanted
    obtain ⟨hfound, hothers⟩ := h.accountById_perform hx
    have hold : old.Nodup := h.orderly.working.nodup_groupsOf x.id
    refine ⟨?_, fun hwanted => ⟨nodup_rejoin hold hwanted, rejoin_perm hold hwanted⟩, hfound,
      hothers, joinedRows, ?_, fun r hr => ⟨?_, hkeys r hr⟩⟩
    · obtain ⟨_, _, -, hid, -, rfl⟩ := h.written hx
      rw [Linking.groupIds_user, hid, h.groupsOf_perform hx, if_pos rfl]
    · rw [show l₂ = x.record l₁ (.ok stored) from congrArg (x.record l₁) hx]
      exact hrows
    · have hmember : r.member ∈ joinedRows.map (·.member) := List.mem_map_of_mem hr
      rw [hmembers] at hmember
      obtain ⟨g, -, hg⟩ := List.mem_map.mp hmember
      exact (congrArg Member.account hg).symm
  · have hperformed := (Update.performed (x := x) h.isOpen h.orderly.staged).1
    rw [hx] at hperformed
    change (x.perform w₁).session.working = w₁.session.lasting
    generalize hr : Except.error e = r at hperformed
    generalize (x.perform w₁).session = s' at hperformed ⊢
    cases hperformed with
    | stored => cases hr
    | failed => rfl

/-- An account leaves two groups, and comes back to the first of them under the key of the other. -/
theorem memberships_rejoined_after_leaving :
    let account (login : String) (id : Option String) (groups : List String) : User :=
      { login, id, groups := groups.map fun g => ⟨g, none⟩, valid := by simp [Draft.Valid] }
    let w := World.after .numbered [.createGroup ⟨"a", "A", none⟩, .createGroup ⟨"b", "B", none⟩,
      .createGroup ⟨"c", "C", none⟩, .persist (account "bruno" none ["b"]) none none,
      .persist (account "alice" none ["a", "b"]) none none, .commit]
    let rows : Roster :=
      { rows := [⟨1, "user-0", "b"⟩, ⟨2, "user-1", "a"⟩, ⟨3, "user-1", "b"⟩], byKey := by decide }
    let update (groups : List String) : Update :=
      { service := .numbered, user := account "alice" (some "user-1") groups, id := "user-1"
        known := rfl }
    let run := w.updated ⟨rows, rows⟩ [update ["b", "c"], update ["b"]]
    let x := update ["a", "b"]
    run.1.tables.groupsOf "user-1" = ["b"] ∧
      ∃ stored, x.result run.1 = .ok stored ∧ stored.groupIds = ["b", "a"] ∧
        (x.perform run.1).tables.accountById "user-1" = some stored ∧
        (x.perform run.1).tables.accountById "user-0" = run.1.tables.accountById "user-0" ∧
        (x.record run.2 (x.result run.1)).seen.rows =
          [⟨1, "user-0", "b"⟩, ⟨3, "user-1", "b"⟩, ⟨4, "user-1", "a"⟩] := by
  intro account w rows update run x
  have hlists : Ledger.Lists ⟨rows, rows⟩ w.session := ⟨by decide +kernel, by decide +kernel⟩
  have h := (memberships_rejoined w (World.reachable_after _ _) (by decide +kernel)
    (by decide +kernel)).2 ⟨rows, rows⟩ hlists [update ["b", "c"], update ["b"]] x
  obtain ⟨-, -, -, haccepts, hstored, -⟩ := h
  have hothers : ∀ o ∈ run.1.tables.users, o.fields.login = "alice" →
      o.counts (some "user-1") = false := by decide +kernel
  have hold : run.1.tables.groupsOf "user-1" = ["b"] := by decide +kernel
  obtain ⟨stored, hx⟩ : ∃ stored, x.result run.1 = .ok stored := by
    refine haccepts (by decide) (by decide +kernel) ⟨by decide +kernel, ⟨none, rfl⟩, rfl⟩ ?_ ?_
    · rintro ⟨-, o, ho, hholds, hcounts⟩
      have hmine := hothers o ho hholds.login
      rw [hcounts] at hmine
      cases hmine
    · rintro ⟨-, e, hemail, -⟩
      cases hemail
  obtain ⟨hids, -, hfound, hkept, -⟩ := hstored stored hx
  rw [hold] at hids
  exact ⟨hold, stored, hx, hids, hfound, hkept "user-0" (by decide), by decide +kernel⟩

end Enrollment
