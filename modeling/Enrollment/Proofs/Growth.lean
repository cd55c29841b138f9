/-
How tables come to be what they are.

Tables change in four ways only: an account is written, a group is added, and a text of the
configuration is set or erased.  `Tables.Grown` are the tables that such changes lead to from empty
ones, so an invariant of the tables is a statement about one change.

* `Tables.ids_write`, `settled_ids` — no id is ever lost, and only a new account brings one;
* `Session.Grown` — the lasting and the working tables of a session have grown, and what is staged
  is due to be written;
* `Grown.flushWith`, `Grown.commit`, `Grown.persist`, … — every operation of a session keeps this,
  also where it fails.
-/
import Enrollment.Proofs.Storing

namespace Enrollment.Directory

namespace Tables

variable {t t' : Tables} {w : Write} {ws : List Write}

/-! ### The ids of the accounts -/

/-- The ids of all accounts, in the order in which they came. -/
def ids (t : Tables) : List String := t.users.map (·.id)

theorem row?_isSome {id : String} : (t.row? id).isSome = true ↔ id ∈ t.ids := by
  simp [row?, ids]

theorem row?_eq_none {id : String} : t.row? id = none ↔ id ∉ t.ids := by
  rw [← row?_isSome, Option.not_isSome_iff_eq_none]

/-- A write brings the id of a new account, and leaves all others where they were. -/
theorem ids_write (h : t.write w = .ok t') :
    t'.ids = t.ids ++ if w.fresh then [w.row.id] else [] := by
  obtain ⟨-, rfl⟩ := write_eq_ok.mp h
  rw [ids, ids, usersAfter]
  by_cases hfresh : w.fresh = true
  · rw [if_pos hfresh, if_pos hfresh, List.map_append]
    rfl
  · rw [if_neg hfresh, if_neg hfresh, List.append_nil, List.map_map]
    refine List.map_congr_left fun r _ => ?_
    -- A row is only ever replaced by one of its own id.
    by_cases hid : r.id = w.row.id
    · simp [hid]
    · simp [hid]

theorem ids_foldlM (h : ws.foldlM write t = .ok t') :
    t'.ids = t.ids ++ (ws.filter (·.fresh)).map (·.row.id) := by
  induction ws generalizing t with
  | nil =>
    cases h
    simp
  | cons w ws ih =>
    rw [List.foldlM_cons] at h
    obtain ⟨t₁, hw, hws⟩ := bind_eq_ok.mp h
    rw [ih hws, ids_write hw]
    cases hfresh : w.fresh <;> simp [hfresh]

/-! ### Changes of the tables -/

/-- A write that an account is due to: it brings no empty domain, says when the account was created
and changed, and has a row to replace unless the account is new. -/
structure Write.Due (w : Write) (t : Tables) : Prop where
  normal : w.Normal
  created : w.row.fields.createdAt.isSome = true
  updated : w.row.fields.updatedAt.isSome = true
  known : w.fresh = false → w.row.id ∈ t.ids

/-- One change of the tables. -/
inductive Step (t : Tables) : Tables → Prop where
  | write {w : Write} {t' : Tables} (hdue : w.Due t) (h : t.write w = .ok t') : Step t t'
  | addGroup {g : Group} {t' : Tables} (h : t.addGroup g = .ok t') : Step t t'
  | configure (key : String) (value description : Option String) :
    Step t { t with configuration := t.configuration.set key value description }
  | unset (key : String) : Step t { t with configuration := t.configuration.erase key }

/-- Tables that changes have led to from empty ones. -/
inductive Grown : Tables → Prop where
  | empty : Grown {}
  | step {t t' : Tables} (h : Grown t) (hstep : t.Step t') : Grown t'

theorem Write.Due.after_write {w' : Write} (hw' : w'.Due t) (h : t.write w = .ok t') :
    w'.Due t' := by
  refine ⟨hw'.normal, hw'.created, hw'.updated, fun hknown => ?_⟩
  rw [ids_write h]
  exact List.mem_append_left _ (hw'.known hknown)

theorem Grown.foldlM (ht : t.Grown) (hdue : ∀ w ∈ ws, w.Due t)
    (h : ws.foldlM Tables.write t = .ok t') : t'.Grown := by
  -- Over the writes, for all tables: what is due stays due after the writes before it.
  induction ws generalizing t with
  | nil =>
    cases h
    exact ht
  | cons w ws ih =>
    rw [List.foldlM_cons] at h
    obtain ⟨t₁, hw, hws⟩ := bind_eq_ok.mp h
    have ht₁ : t₁.Grown := ht.step (.write (hdue w List.mem_cons_self) hw)
    exact ih ht₁ (fun w' hw' => (hdue w' (List.mem_cons_of_mem w hw')).after_write hw) hws

theorem addGroup_eq_ok {g : Group} :
    t.addGroup g = .ok t' ↔
      t.groupNamed? g.name = none ∧ t.group? g.id = none ∧
        t' = { t with groups := t.groups ++ [g] } := by
  rw [addGroup]
  cases t.groupNamed? g.name with
  | some _ => simp
  | none =>
    cases t.group? g.id with
    | some _ => simp
    | none => simp [eq_comm]

/-- Every change keeps the rules on the keys of accounts. -/
theorem Step.sound (hstep : t.Step t') (ht : t.Sound) : t'.Sound := by
  cases hstep with
  | write hdue h => exact ht.write hdue.normal h
  | addGroup h =>
    obtain ⟨-, -, rfl⟩ := addGroup_eq_ok.mp h
    exact ht.of_users rfl
  | configure => exact ht.of_users rfl
  | unset => exact ht.of_users rfl

theorem Grown.sound (h : t.Grown) : t.Sound := by
  induction h with
  | empty => exact sound_empty
  | step _ hstep ih => exact hstep.sound ih

end Tables

namespace Session

variable {α : Type} {s : Session} {t t' : Tables} {clerk : Clerk}

theorem settled_ids {staged : List Tables.Write} (h : settled t staged = .ok t') :
    t'.ids = t.ids ++ (staged.filter (·.fresh)).map (·.row.id) := by
  rw [settled] at h
  rw [Tables.ids_foldlM h]
  simp [List.filter_append]

/-! ### Sessions whose tables have grown -/

/-- The tables of a session have grown, and what is staged is due to be written. -/
protected structure Grown (s : Session) : Prop where
  lasting : s.lasting.Grown
  working : s.working.Grown
  staged : ∀ w ∈ s.staged, w.Due s.working

/-- What is stored for an account has no empty domain and both its times, and is stored under the
account's row where there is one. -/
theorem writeOf_due {old : Option Row} {u : User} (hold : ∀ r ∈ old, r ∈ t.users)
    (password actor : Option String) : (writeOf clerk old u password actor).Due t where
  normal := filled_filled u.domain
  created := by simp [writeOf]
  updated := rfl
  known := by
    intro hknown
    cases old with
    | none => cases hknown
    | some r =>
      have hr : r ∈ t.users := hold r rfl
      exact List.mem_map_of_mem (f := (·.id)) hr

/-- What is written for an account that has its place is due. -/
theorem due_of_place? {old : Option Row} {u : User} {hashed actor : Option String}
    (hplace : place? t u = some old) : (writeOf clerk old u hashed actor).Due t := by
  refine writeOf_due (fun r hr => ?_) hashed actor
  cases hr
  exact (known_of_place? hplace).1

namespace Grown

theorem empty : Session.Grown {} := ⟨.empty, .empty, by simp⟩

theorem rollback (hs : s.Grown) : s.rollback.Grown :=
  ⟨hs.lasting, hs.lasting, by simp [Session.rollback]⟩

theorem settled (hs : s.Grown) {staged : List Tables.Write} (hdue : ∀ w ∈ staged, w.Due s.working)
    (h : Session.settled s.working staged = .ok t) : t.Grown := by
  refine hs.working.foldlM (fun w hw => hdue w ?_) h
  rcases List.mem_append.mp hw with hw | hw
  · exact List.mem_of_mem_filter hw
  · exact List.mem_of_mem_filter hw

/-- What a flush would lead to has grown. -/
theorem due (hs : s.Grown) (h : s.due = .ok t) : t.Grown := hs.settled hs.staged h

theorem flushWith (hs : s.Grown) {change : Tables → Except Failure (α × Tables)}
    (hc : ∀ t a t', t.Grown → change t = .ok (a, t') → t'.Grown) :
    (s.flushWith change).2.Grown := by
  rcases s.flushWith_cases change with ⟨t, a, t', hsettled, hchange, heq⟩ | ⟨e, -, heq⟩
  · rw [heq]
    exact ⟨hs.lasting, hc t a t' (hs.due hsettled) hchange, by simp⟩
  · rw [heq]
    exact hs.rollback

theorem flush (hs : s.Grown) : s.flush.2.Grown := by
  refine hs.flushWith fun t _ t' ht h => ?_
  cases h
  exact ht

theorem commit (hs : s.Grown) : s.commit.2.Grown := by
  have hflush := hs.flush
  rw [Session.commit]
  split
  · rename_i s' h
    rw [h] at hflush
    exact ⟨hflush.working, hflush.working, hflush.staged⟩
  · rename_i e s' h
    rw [h] at hflush
    exact hflush

theorem stage (hs : s.Grown) {w : Tables.Write} (hw : w.Due s.working) :
    Session.Grown { s with staged := s.staged ++ [w] } := by
  refine ⟨hs.lasting, hs.working, fun w' hw' => ?_⟩
  rcases List.mem_append.mp hw' with hw' | hw'
  · exact hs.staged w' hw'
  · rw [List.mem_singleton] at hw'
    exact hw' ▸ hw

theorem store (hs : s.Grown) (clerk : Clerk) {old : Option Row}
    (hold : ∀ r ∈ old, r ∈ s.working.users) (u : User) (password actor : Option String) :
    (s.store clerk old u password actor).2.Grown := by
  rw [Session.store]
  split
  · exact hs.stage (writeOf_due hold _ _)
  · rename_i hashed _
    have hdue : (writeOf clerk old u hashed actor).Due s.working := writeOf_due hold hashed actor
    have hflush := (hs.stage hdue).flush
    dsimp only
    split
    · rename_i s' h
      rwa [h] at hflush
    · rename_i e s' h
      rwa [h] at hflush

theorem persist (hs : s.Grown) (clerk : Clerk) (u : User) (password actor : Option String) :
    (s.persist clerk u password actor).2.Grown := by
  rw [Session.persist]
  split
  · exact hs.store clerk (by simp) u password actor
  · split
    · exact hs
    · rename_i old hrow
      refine hs.store clerk (fun r hr => ?_) u password actor
      cases hr
      exact (Tables.mem_of_row? hrow).1

theorem createGroup (hs : s.Grown) (g : Group) : (s.createGroup g).2.Grown := by
  refine hs.flushWith fun t _ t' ht h => ?_
  obtain ⟨t₁, hadd, heq⟩ := bind_eq_ok.mp h
  cases heq
  exact ht.step (.addGroup hadd)

theorem configure (hs : s.Grown) (key : String) (value description : Option String) :
    (s.configure key value description).2.Grown := by
  refine hs.flushWith fun t _ t' ht h => ?_
  cases h
  exact ht.step (.configure key value description)

theorem unset (hs : s.Grown) (key : String) : (s.unset key).2.Grown := by
  rw [Session.unset]
  split
  · exact hs
  · refine hs.flushWith fun t _ t' ht h => ?_
    cases h
    exact ht.step (.unset key)

end Grown

/-! ### Sound sessions -/

/-- The tables of a session are sound, and so will be what is staged. -/
protected structure Sound (s : Session) : Prop where
  lasting : s.lasting.Sound
  working : s.working.Sound
  staged : ∀ w ∈ s.staged, w.Normal

theorem Grown.sound (hs : s.Grown) : s.Sound :=
  ⟨hs.lasting.sound, hs.working.sound, fun w hw => (hs.staged w hw).normal⟩

theorem Sound.rollback (hs : s.Sound) : s.rollback.Sound :=
  ⟨hs.lasting, hs.lasting, by simp [Session.rollback]⟩

end Session
end Enrollment.Directory
