/-
What is read back of an account that has been stored.

An account is given back as its row is read after everything that was staged has been written.  The
row is still there then: later writes of the same flush are those of new accounts, which have ids of
their own.

* `row?_write_fresh`, `row?_foldlM_fresh` — rows of known accounts survive the writes of new ones;
* `Stored.row`, `Stored.accountById` — the row that was written and the account that was given back
  are the ones found under their id;
* `groupsOf_write` — the memberships that a write leaves its account;
* `accountById_write_of_ne`, `Stored.accountById_of_ne` — other accounts are read back as before.
-/
import Enrollment.Proofs.Consistency

namespace Enrollment.Directory

namespace Tables

variable {t t' : Tables} {w : Write} {ws : List Write} {id : String} {r : Row}

/-! ### Rows that survive -/

/-- The row of a known account is still found after the write of a new one. -/
theorem row?_write_fresh (hw : w.fresh = true) (h : t.write w = .ok t') (hr : t.row? id = some r) :
    t'.row? id = some r := by
  obtain ⟨-, rfl⟩ := write_eq_ok.mp h
  rw [row?] at hr ⊢
  simp only [usersAfter, if_pos hw, List.find?_append, hr, Option.some_or]

theorem row?_foldlM_fresh (hws : ∀ w ∈ ws, w.fresh = true) (h : ws.foldlM write t = .ok t')
    (hr : t.row? id = some r) : t'.row? id = some r := by
  induction ws generalizing t with
  | nil =>
    cases h
    exact hr
  | cons w ws ih =>
    rw [List.foldlM_cons] at h
    obtain ⟨t₁, hw, hrest⟩ := bind_eq_ok.mp h
    exact ih (fun w' hw' => hws w' (List.mem_cons_of_mem w hw')) hrest
      (row?_write_fresh (hws w List.mem_cons_self) hw hr)

/-- A row that is written is found under its id, if it is new or replaces one. -/
theorem row?_written (h : t.write w = .ok t') (hid : w.fresh = false → w.row.id ∈ t.ids) :
    t'.row? w.row.id = some w.row := by
  have hjoinable := joinable_of_write h
  obtain ⟨-, rfl⟩ := write_eq_ok.mp h
  cases hfresh : w.fresh with
  | true =>
    have hnone := hjoinable.id hfresh
    rw [row?] at hnone ⊢
    simp only [usersAfter, if_pos hfresh, List.find?_append, hnone, Option.none_or]
    simp
  | false =>
    obtain ⟨o, ho⟩ := Option.isSome_iff_exists.mp (row?_isSome.mpr (hid hfresh))
    obtain ⟨hmem, hsame⟩ := mem_of_row? ho
    have hreplaced := row?_replaced hmem (show w.row.id = o.id from hsame.symm)
    rw [hsame] at hreplaced
    rw [usersAfter, if_neg (by simp [hfresh])]
    exact hreplaced

/-! ### Memberships that are read back -/

/-- A write leaves its account the memberships that are still wanted, in their old order, and then
those by which it joins. -/
theorem groupsOf_write (h : t.write w = .ok t') :
    t'.groupsOf w.row.id = (t.groupsOf w.row.id).filter (· ∈ w.groups) ++ t.joining w := by
  obtain ⟨-, rfl⟩ := write_eq_ok.mp h
  have hkept : (t.members.filter fun m => m.account ≠ w.row.id ∨ m.group ∈ w.groups).filter
        (·.account = w.row.id) =
      (t.members.filter (·.account = w.row.id)).filter (·.group ∈ w.groups) := by
    rw [List.filter_filter, List.filter_filter]
    refine List.filter_congr fun m _ => ?_
    by_cases hm : m.account = w.row.id
    · simp [hm]
    · simp [hm]
  have hjoined : ((t.joining w).map fun g => (⟨w.row.id, g⟩ : Member)).filter
      (·.account = w.row.id) = (t.joining w).map (⟨w.row.id, ·⟩) := by
    simp
  rw [groupsOf, groupsOf]
  simp only [membersAfter, List.filter_append, hkept, hjoined, List.map_append, List.map_map]
  rw [List.filter_map]
  simp [Function.comp_def]

/-! ### Other accounts -/

/-- A write leaves the rows of other accounts alone. -/
theorem row?_write_of_ne (h : t.write w = .ok t') (hne : id ≠ w.row.id) :
    t'.row? id = t.row? id := by
  obtain ⟨-, rfl⟩ := write_eq_ok.mp h
  have hwritten : ¬ w.row.id = id := Ne.symm hne
  rw [row?, row?]
  dsimp only
  rw [usersAfter]
  split
  · simp [List.find?_append, hwritten]
  · have hsame : ∀ o : Row, decide ((if o.id = w.row.id then w.row else o).id = id) =
        decide (o.id = id) := by
      intro o
      by_cases ho : o.id = w.row.id
      · simp [ho, hwritten]
      · simp [ho]
    rw [List.find?_map]
    simp only [Function.comp_def, hsame]
    cases hfound : t.users.find? (·.id = id) with
    | none => rfl
    | some o =>
      have ho : o.id = id := by simpa using List.find?_some hfound
      rw [Option.map_some, if_neg (ho ▸ hne)]

theorem groupsOf_write_of_ne (h : t.write w = .ok t') (hne : id ≠ w.row.id) :
    t'.groupsOf id = t.groupsOf id := by
  obtain ⟨-, rfl⟩ := write_eq_ok.mp h
  have hwritten : ¬ w.row.id = id := Ne.symm hne
  have hkept : (t.members.filter fun m => m.account ≠ w.row.id ∨ m.group ∈ w.groups).filter
      (·.account = id) = t.members.filter (·.account = id) := by
    rw [List.filter_filter]
    refine List.filter_congr fun m _ => ?_
    by_cases hm : m.account = id
    · simp [hm, hne]
    · simp [hm]
  have hjoined : ((t.joining w).map fun g => (⟨w.row.id, g⟩ : Member)).filter
      (·.account = id) = [] := by
    simp [hwritten]
  rw [groupsOf, groupsOf]
  simp only [membersAfter, List.filter_append, hkept, hjoined, List.append_nil]

/-- Other accounts are read back as before. -/
theorem accountById_write_of_ne (h : t.write w = .ok t') (hne : id ≠ w.row.id) :
    t'.accountById id = t.accountById id := by
  have hmembership : t'.membership = t.membership := by
    obtain ⟨-, rfl⟩ := write_eq_ok.mp h
    rfl
  rw [accountById, accountById, row?_write_of_ne h hne]
  cases hr : t.row? id with
  | none => rfl
  | some r =>
    have hid : r.id = id := (mem_of_row? hr).2
    simp only [Option.map_some, user, hid, groupsOf_write_of_ne h hne, hmembership]

end Tables

namespace Session

variable {s s' : Session} {clerk : Clerk} {u stored : User} {password actor : Option String}
  {t t' : Tables} {w : Tables.Write} {id : String}

/-- A write that took its turn among all that was staged is still to be read afterwards. -/
theorem row?_settled {staged : List Tables.Write}
    (h : settled t (staged ++ [w]) = .ok t') (hid : w.fresh = false → w.row.id ∈ t.ids) :
    t'.row? w.row.id = some w.row := by
  cases hfresh : w.fresh with
  | true =>
    -- The write of a new account is the last one.
    rw [settled_append_fresh hfresh] at h
    obtain ⟨t₁, -, hwrite⟩ := bind_eq_ok.mp h
    exact Tables.row?_written hwrite fun h => by rw [hfresh] at h; cases h
  | false =>
    -- Only the writes of new accounts come after it.
    have hknown : (staged ++ [w]).filter (!·.fresh) = staged.filter (!·.fresh) ++ [w] := by
      simp [hfresh]
    have hnew : (staged ++ [w]).filter (·.fresh) = staged.filter (·.fresh) := by simp [hfresh]
    rw [settled, hknown, hnew, List.append_assoc, List.foldlM_append, List.singleton_append] at h
    obtain ⟨t₁, hbefore, hrest⟩ := bind_eq_ok.mp h
    rw [List.foldlM_cons] at hrest
    obtain ⟨t₂, hwrite, hafter⟩ := bind_eq_ok.mp hrest
    have hids : w.row.id ∈ t₁.ids := by
      rw [Tables.ids_foldlM hbefore]
      exact List.mem_append_left _ (hid hfresh)
    refine Tables.row?_foldlM_fresh (fun w' hw' => ?_) hafter
      (Tables.row?_written hwrite fun _ => hids)
    simpa using (List.mem_filter.mp hw').2

/-- The id of a new account was not in use before anything was flushed. -/
theorem row?_eq_none_of_fresh {staged : List Tables.Write} (hfresh : w.fresh = true)
    (h : settled t (staged ++ [w]) = .ok t') : t.row? w.row.id = none := by
  rw [settled_append_fresh hfresh] at h
  obtain ⟨t₁, hsettled, hwrite⟩ := bind_eq_ok.mp h
  have hnone := (Tables.joinable_of_write hwrite).id hfresh
  rw [← Option.not_isSome_iff_eq_none, Tables.row?_isSome] at hnone ⊢
  intro hmem
  rw [settled_ids hsettled] at hnone
  exact hnone (List.mem_append_left _ hmem)

/-- The row that was written is the one found under its id, and the account was read back from it.
A new account has an id of its own. -/
theorem Stored.row (h : Stored s clerk u password actor stored s') :
    ∃ r, s'.working.row? r.id = some r ∧ stored = s'.working.user r ∧
      (u.id = none → s.working.row? r.id = none) ∧
      ∃ old hashed, r = (writeOf clerk old u hashed actor).row := by
  cases h with
  | @intro old hashed t hplace _ hsettled =>
    have hknown : (writeOf clerk old u hashed actor).fresh = false →
        (writeOf clerk old u hashed actor).row.id ∈ s.working.ids := by
      intro hknown
      cases old with
      | none => cases hknown
      | some r => exact List.mem_map_of_mem (f := (·.id)) (known_of_place? hplace).1
    refine ⟨_, row?_settled hsettled hknown, rfl, fun hid => ?_, old, hashed, rfl⟩
    simp only [place?, hid, Option.some.injEq] at hplace
    exact row?_eq_none_of_fresh (by rw [← hplace]; rfl) hsettled

/-- **The account that was given back is the one found under its id**, whatever else was staged. -/
theorem Stored.accountById (h : Stored s clerk u password actor stored s') :
    ∃ id, stored.id = some id ∧ s'.working.accountById id = some stored := by
  obtain ⟨r, hrow, rfl, -⟩ := h.row
  refine ⟨r.id, rfl, ?_⟩
  rw [Tables.accountById, hrow]
  rfl

/-- Every other account is read back as it was, where nothing else was staged. -/
theorem Stored.accountById_of_ne (hs : s.staged = [])
    (h : Stored s clerk u password actor stored s') (hne : some id ≠ stored.id) :
    s'.working.accountById id = s.working.accountById id := by
  cases h with
  | intro hplace hhash hsettled =>
    rw [hs, List.nil_append, settled_singleton] at hsettled
    exact Tables.accountById_write_of_ne hsettled fun hid => hne (congrArg some hid)

end Session
end Enrollment.Directory
