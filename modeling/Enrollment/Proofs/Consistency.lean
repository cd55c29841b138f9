/-
The rules of the tables, and how much of them one write touches.

`Tables.Consistent` says that the tables keep every rule of their layout: keys are unique, accounts
have the columns that must be filled, and memberships point to accounts and groups that exist.

* `Step.consistent`, `World.Reachable.consistent` — one change keeps the rules, so they hold in
  every state that can be reached;
* `Consistent.write_fresh` — the write of a new account adds its row and its memberships, and
  touches nothing else;
* `write_known` — the write of a known account that keeps its groups replaces its row, and touches
  nothing else.
-/
import Enrollment.Proofs.History

namespace Enrollment

/-- One more element with a key of its own leaves the keys distinct. -/
theorem nodup_map_append {α : Type} {key : α → String} {l : List α} {a : α}
    (hl : (l.map key).Nodup) (ha : key a ∉ l.map key) : ((l ++ [a]).map key).Nodup := by
  rw [List.map_append, List.map_singleton, ← List.concat_eq_append, List.nodup_concat]
  exact ⟨ha, hl⟩

namespace Directory.Tables

variable {t t' : Tables} {w : Write} {g : Group} {account group : String}

/-! ### The rules -/

/-- The tables keep the rules of their layout. -/
structure Consistent (t : Tables) : Prop extends t.Sound where
  created : ∀ r ∈ t.users, r.fields.createdAt.isSome = true
  updated : ∀ r ∈ t.users, r.fields.updatedAt.isSome = true
  /-- Memberships are those of known accounts, … -/
  accounts : ∀ m ∈ t.members, m.account ∈ t.ids
  /-- … in known groups, … -/
  groups : ∀ m ∈ t.members, m.group ∈ t.groups.map (·.id)
  /-- … and none is there twice. -/
  once : t.members.Nodup
  groupIds : (t.groups.map (·.id)).Nodup
  groupNames : (t.groups.map (·.name)).Nodup
  keys : (t.configuration.map (·.key)).Nodup

theorem consistent_empty : Consistent {} :=
  { sound_empty with
    created := by simp
    updated := by simp
    accounts := by simp
    groups := by simp
    once := by simp
    groupIds := by simp
    groupNames := by simp
    keys := by simp }

/-! ### Memberships -/

theorem hasTwice_eq_false {l : List String} : hasTwice l = false ↔ l.Nodup := by
  induction l with
  | nil => simp [hasTwice]
  | cons a l ih => simp [hasTwice, ih]

theorem mem_groupsOf : group ∈ t.groupsOf account ↔ ⟨account, group⟩ ∈ t.members := by
  simp only [groupsOf, List.mem_map, List.mem_filter, decide_eq_true_eq]
  constructor
  · rintro ⟨m, ⟨hm, rfl⟩, rfl⟩
    exact hm
  · intro hm
    exact ⟨_, ⟨hm, rfl⟩, rfl⟩

theorem mem_joining : group ∈ t.joining w ↔ group ∈ w.groups ∧ ⟨w.row.id, group⟩ ∉ t.members := by
  rw [joining, List.mem_filter, ← mem_groupsOf]
  simp

/-- A membership after a write was there before, or is one of those that the account joins by. -/
theorem mem_membersAfter {m : Member} (hm : m ∈ t.membersAfter w) :
    m ∈ t.members ∨ m.account = w.row.id ∧ m.group ∈ t.joining w := by
  rw [membersAfter] at hm
  rcases List.mem_append.mp hm with hm | hm
  · exact .inl (List.mem_of_mem_filter hm)
  · obtain ⟨group, hgroup, rfl⟩ := List.mem_map.mp hm
    exact .inr ⟨rfl, hgroup⟩

/-- An account that wants every group it is a member of keeps its memberships. -/
theorem membersAfter_of_kept
    (hkept : ∀ m ∈ t.members, m.account = w.row.id → m.group ∈ w.groups) :
    t.membersAfter w = t.members ++ (t.joining w).map (⟨w.row.id, ·⟩) := by
  have hfilter :
      t.members.filter (fun m => m.account ≠ w.row.id ∨ m.group ∈ w.groups) = t.members := by
    rw [List.filter_eq_self]
    intro m hm
    by_cases haccount : m.account = w.row.id
    · simp [hkept m hm haccount]
    · simp [haccount]
  rw [membersAfter, hfilter]

theorem nodup_membersAfter (ht : t.members.Nodup) (hw : t.Joinable w) :
    (t.membersAfter w).Nodup := by
  rw [membersAfter, List.nodup_append]
  have hjoining : (t.joining w).Nodup := hasTwice_eq_false.mp hw.once
  refine ⟨ht.filter _, hjoining.map fun a b h => ?_, ?_⟩
  · exact (Member.mk.inj h).2
  · rintro m hm _ hm' rfl
    -- What an account joins it was not a member of.
    obtain ⟨group, hgroup, rfl⟩ := List.mem_map.mp hm'
    exact (mem_joining.mp hgroup).2 (List.mem_of_mem_filter hm)

/-! ### What one change keeps -/

theorem group?_isSome {id : String} : (t.group? id).isSome = true ↔ id ∈ t.groups.map (·.id) := by
  simp [group?]

theorem joinable_of_write (h : t.write w = .ok t') : t.Joinable w := by
  have hrefusal := t.refusal w
  rw [(write_eq_ok.mp h).1] at hrefusal
  cases hrefusal with
  | none _ _ _ hjoinable => exact hjoinable

/-- The account that is written is known afterwards. -/
theorem mem_ids_of_write (hdue : w.Due t) (h : t.write w = .ok t') : w.row.id ∈ t'.ids := by
  rw [ids_write h]
  cases hfresh : w.fresh with
  | true => simp
  | false => exact List.mem_append_left _ (hdue.known hfresh)

theorem Consistent.write (ht : t.Consistent) (hdue : w.Due t) (h : t.write w = .ok t') :
    t'.Consistent := by
  have hids := ids_write h
  have hid := mem_ids_of_write hdue h
  have hjoinable := joinable_of_write h
  have hsound := ht.toSound.write hdue.normal h
  obtain ⟨-, rfl⟩ := write_eq_ok.mp h
  refine { hsound, ht with created := ?_, updated := ?_, accounts := ?_, groups := ?_, once := ?_ }
  · intro r hr
    rcases mem_usersAfter hr with hr | rfl
    · exact ht.created r hr
    · exact hdue.created
  · intro r hr
    rcases mem_usersAfter hr with hr | rfl
    · exact ht.updated r hr
    · exact hdue.updated
  · intro m hm
    rcases mem_membersAfter hm with hm | ⟨hm, -⟩
    · rw [hids]
      exact List.mem_append_left _ (ht.accounts m hm)
    · rw [hm]
      exact hid
  · intro m hm
    rcases mem_membersAfter hm with hm | ⟨-, hm⟩
    · exact ht.groups m hm
    · exact group?_isSome.mp (hjoinable.groups _ hm)
  · exact nodup_membersAfter ht.once hjoinable

theorem Consistent.addGroup (ht : t.Consistent) (h : t.addGroup g = .ok t') : t'.Consistent := by
  obtain ⟨hname, hid, rfl⟩ := addGroup_eq_ok.mp h
  have hsound : Sound { t with groups := t.groups ++ [g] } := ht.toSound.of_users rfl
  refine { hsound, ht with groups := ?_, groupIds := ?_, groupNames := ?_ }
  · intro m hm
    rw [List.map_append]
    exact List.mem_append_left _ (ht.groups m hm)
  · refine nodup_map_append ht.groupIds fun hmem => ?_
    rw [← group?_isSome, hid] at hmem
    cases hmem
  · refine nodup_map_append ht.groupNames fun hmem => ?_
    obtain ⟨o, ho, hsame⟩ := List.mem_map.mp hmem
    exact List.find?_eq_none.mp hname o ho (by simpa using hsame)

end Directory.Tables

namespace Policy.Configuration

theorem nodup_set {c : Configuration} (hc : (c.map (·.key)).Nodup) (key : String)
    (value description : Option String) :
    ((c.set key value description).map (·.key)).Nodup := by
  rw [set]
  split
  · -- A text is replaced under the key that it has.
    have hkeys :
        (c.map fun e => if e.key = key then e.revise value description else e).map (·.key) =
          c.map (·.key) := by
      rw [List.map_map]
      refine List.map_congr_left fun e _ => ?_
      by_cases he : e.key = key
      · simp [he, Entry.revise]
      · simp [he]
    rw [hkeys]
    exact hc
  · rename_i hnew
    refine nodup_map_append hc fun hmem => ?_
    obtain ⟨e, he, hkey⟩ := List.mem_map.mp hmem
    exact hnew (List.any_eq_true.mpr ⟨e, he, by simpa using hkey⟩)

theorem nodup_erase {c : Configuration} (hc : (c.map (·.key)).Nodup) (key : String) :
    ((c.erase key).map (·.key)).Nodup :=
  hc.sublist (List.filter_sublist.map _)

end Policy.Configuration

namespace Directory.Tables

variable {t t' : Tables} {w : Write}

/-- **One change keeps the rules.** -/
theorem Step.consistent (hstep : t.Step t') (ht : t.Consistent) : t'.Consistent := by
  cases hstep with
  | write hdue h => exact ht.write hdue h
  | addGroup h => exact ht.addGroup h
  | configure key value description =>
    exact { ht.toSound.of_users rfl, ht with
      keys := Policy.Configuration.nodup_set ht.keys key value description }
  | unset key =>
    exact { ht.toSound.of_users rfl, ht with
      keys := Policy.Configuration.nodup_erase ht.keys key }

theorem Grown.consistent (h : t.Grown) : t.Consistent := by
  induction h with
  | empty => exact consistent_empty
  | step _ hstep ih => exact hstep.consistent ih

/-! ### What one write touches -/

theorem Sound.row?_of_mem (ht : t.Sound) {r : Row} (hr : r ∈ t.users) : t.row? r.id = some r := by
  have hsome : (t.row? r.id).isSome = true :=
    row?_isSome.mpr (List.mem_map_of_mem (f := (·.id)) hr)
  obtain ⟨o, ho⟩ := Option.isSome_iff_exists.mp hsome
  obtain ⟨hmem, hid⟩ := mem_of_row? ho
  rw [ho, ht.eq_of_id_eq hmem hr hid]

theorem row?_congr (h : t'.users = t.users) (id : String) : t'.row? id = t.row? id := by
  rw [row?, row?, h]

/-- The row that replaces another one under its id is found under it. -/
theorem row?_replaced {r r' : Row} (hr : r ∈ t.users) (hid : r'.id = r.id) :
    ({ t with users := t.users.map fun o => if o.id = r.id then r' else o } : Tables).row? r.id =
      some r' := by
  have hsame : ∀ o : Row, decide ((if o.id = r.id then r' else o).id = r.id) =
      decide (o.id = r.id) := by
    intro o
    by_cases ho : o.id = r.id
    · simp [ho, hid]
    · simp [ho]
  obtain ⟨o, ho⟩ := Option.isSome_iff_exists.mp (row?_isSome.mpr (List.mem_map_of_mem hr))
  obtain ⟨-, hid'⟩ := mem_of_row? ho
  rw [row?] at ho ⊢
  rw [List.find?_map]
  simp only [Function.comp_def, hsame, ho, Option.map_some, if_pos hid']

/-- **A new account is added** with its memberships, and everything else is as it was. -/
theorem Consistent.write_fresh (ht : t.Consistent) (hw : w.fresh = true) (h : t.write w = .ok t') :
    t.row? w.row.id = none ∧
      t' = { t with
        users := t.users ++ [w.row]
        members := t.members ++ w.groups.map (⟨w.row.id, ·⟩) } := by
  have hnone : t.row? w.row.id = none := (joinable_of_write h).id hw
  -- No membership points to an account that is not there.
  have hother : ∀ m ∈ t.members, m.account ≠ w.row.id := by
    intro m hm hid
    exact row?_eq_none.mp hnone (hid ▸ ht.accounts m hm)
  have hjoining : t.joining w = w.groups := by
    rw [joining, List.filter_eq_self]
    intro group _
    have hmem : group ∉ t.groupsOf w.row.id := fun hg => hother _ (mem_groupsOf.mp hg) rfl
    simpa using hmem
  have hmembers := membersAfter_of_kept fun m hm hid => absurd hid (hother m hm)
  obtain ⟨-, rfl⟩ := write_eq_ok.mp h
  refine ⟨hnone, ?_⟩
  rw [hmembers, hjoining, usersAfter, if_pos hw]

/-- An account that keeps its groups joins none. -/
theorem joining_eq_nil (hgroups : w.groups = t.groupsOf w.row.id) : t.joining w = [] := by
  rw [joining, List.filter_eq_nil_iff]
  intro group hg
  rw [hgroups] at hg
  simp [hg]

/-- **A known account that keeps its groups** has its row replaced, and everything else is as it
was. -/
theorem write_known (hw : w.fresh = false) (hgroups : w.groups = t.groupsOf w.row.id)
    (h : t.write w = .ok t') :
    t' = { t with users := t.users.map fun r => if r.id = w.row.id then w.row else r } := by
  have hmembers : t.membersAfter w = t.members ++ (t.joining w).map (⟨w.row.id, ·⟩) := by
    refine membersAfter_of_kept fun m hm haccount => ?_
    rw [hgroups, mem_groupsOf, ← haccount]
    exact hm
  obtain ⟨-, rfl⟩ := write_eq_ok.mp h
  rw [hmembers, joining_eq_nil hgroups, usersAfter, if_neg (by simp [hw]), List.map_nil,
    List.append_nil]

end Directory.Tables

/-- **The rules hold in every state that can be reached**, in what is lasting and in what the
session sees. -/
theorem World.Reachable.consistent {w : World} (h : w.Reachable) :
    w.session.lasting.Consistent ∧ w.session.working.Consistent :=
  ⟨h.grown.lasting.consistent, h.grown.working.consistent⟩

end Enrollment
