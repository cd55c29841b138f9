/-
What becomes of a draft that is changed step by step and then built.

Groups may be joined, and rights given and taken away, in any order and any number of times.

* `Draft.groups_after` — the groups are those of the start, and behind them every group that was
  joined and is none of them, where it was joined first and under the name that it had then;
* `Draft.contains_after` — a right is held if the last change that is about it gave it, and as at
  the start if none is;
* `Draft.rest_after` — all other fields are as at the start;
* `draft_runs` — so is the account that is built, and building fails exactly if an account of an
  identity provider names no provider.
-/
import Mathlib
import Enrollment.Account.User

namespace Enrollment

/-! ### The groups that are new -/

/-- The groups of a list that have none of the ids at hand, each where its id comes first. -/
def newcomers (present : List String) (joined : List Group) : List Group :=
  (joined.zipIdx.filter fun p =>
    p.1.id ∉ present ∧ p.1.id ∉ (joined.take p.2).map (·.id)).map (·.1)

theorem newcomers_concat (present : List String) (joined : List Group) (g : Group) :
    newcomers present (joined ++ [g]) =
      newcomers present joined ++
        if g.id ∈ present ∨ g.id ∈ joined.map (·.id) then [] else [g] := by
  have hfront : (joined.zipIdx.filter fun p =>
        p.1.id ∉ present ∧ p.1.id ∉ ((joined ++ [g]).take p.2).map (·.id)) =
      joined.zipIdx.filter fun p => p.1.id ∉ present ∧ p.1.id ∉ (joined.take p.2).map (·.id) := by
    refine List.filter_congr fun p hp => ?_
    -- What stands before a group of the front is not changed by one at the end.
    have hlt : p.2 < joined.length := by
      have := List.snd_lt_of_mem_zipIdx hp
      omega
    rw [List.take_append_of_le_length hlt.le]
  have htaken : (joined ++ [g]).take (0 + joined.length) = joined := by simp
  rw [newcomers, List.zipIdx_append, List.filter_append, List.map_append, hfront, newcomers,
    List.zipIdx_singleton, List.filter_singleton, htaken]
  dsimp only
  by_cases hknown : g.id ∈ present ∨ g.id ∈ joined.map (·.id)
  · rw [if_pos hknown, decide_eq_false fun hnew => not_or.mpr hnew hknown]
    rfl
  · rw [if_neg hknown, decide_eq_true (not_or.mp hknown)]
    rfl

/-- The ids of the newcomers are those that were joined and were not at hand. -/
theorem mem_newcomers_ids {present : List String} {joined : List Group} {id : String} :
    id ∈ (newcomers present joined).map (·.id) ↔ id ∈ joined.map (·.id) ∧ id ∉ present := by
  induction joined using List.reverseRecOn with
  | nil => simp [newcomers]
  | append_singleton joined g ih =>
    rw [newcomers_concat, List.map_append, List.map_append, List.mem_append, List.mem_append, ih,
      List.map_singleton, List.mem_singleton]
    split
    · rename_i hknown
      rw [List.map_nil]
      grind
    · rename_i hnew
      rw [List.map_singleton, List.mem_singleton]
      grind

/-! ### Changes -/

namespace Draft

/-- A change of a draft: a group is joined, or a right is given or taken away. -/
inductive Change where
  | join (g : Group)
  | grant (r : Right)
  | revoke (r : Right)

/-- The draft with a change made. -/
def change (d : Draft) : Change → Draft
  | .join g => d.addGroup g
  | .grant r => d.grant r
  | .revoke r => d.revoke r

/-- The draft after changes, made one after the other. -/
def after (d : Draft) (changes : List Change) : Draft := changes.foldl change d

/-- The group that a change joins. -/
def Change.group? : Change → Option Group
  | .join g => some g
  | _ => none

/-- Whether a change gives a right or takes it away, if it is about that right. -/
def Change.says? (r : Right) : Change → Option Bool
  | .grant s => if s = r then some true else none
  | .revoke s => if s = r then some false else none
  | .join _ => none

/-- The groups that changes join, in order. -/
def joined (changes : List Change) : List Group := changes.filterMap Change.group?

/-- What the last change that is about a right says of it. -/
def lastSaid (r : Right) (changes : List Change) : Option Bool :=
  changes.reverse.findSome? (Change.says? r)

theorem after_concat (d : Draft) (changes : List Change) (last : Change) :
    d.after (changes ++ [last]) = (d.after changes).change last := by
  rw [after, List.foldl_append, ← after]
  rfl

theorem joined_concat (changes : List Change) (last : Change) :
    joined (changes ++ [last]) = joined changes ++ last.group?.toList := by
  rw [joined, List.filterMap_append, ← joined]
  cases last <;> rfl

theorem lastSaid_concat (r : Right) (changes : List Change) (last : Change) :
    lastSaid r (changes ++ [last]) = (last.says? r).or (lastSaid r changes) := by
  rw [lastSaid, List.reverse_append, List.reverse_singleton, List.singleton_append,
    List.findSome?_cons, ← lastSaid]
  cases last.says? r with
  | none => rfl
  | some held => rfl

/-! ### One change -/

theorem groups_change (d : Draft) (c : Change) :
    (d.change c).groups =
      d.groups ++ (c.group?.toList.filter (·.id ∉ d.groupIds)).map Group.membership := by
  cases c with
  | join g =>
    rw [change, addGroup, Change.group?, Option.toList_some, List.filter_singleton]
    by_cases hmember : g.id ∈ d.groupIds
    · rw [if_pos hmember, decide_eq_false (not_not.mpr hmember)]
      exact (List.append_nil _).symm
    · rw [if_neg hmember, decide_eq_true hmember]
      rfl
  | grant r => exact (List.append_nil _).symm
  | revoke r => exact (List.append_nil _).symm

theorem contains_change (d : Draft) (c : Change) (r : Right) :
    (d.change c).rights.contains r = (c.says? r).getD (d.rights.contains r) := by
  have hset : ∀ s held, (d.rights.set s held).contains r =
      (if s = r then some held else none).getD (d.rights.contains r) := fun s held => by
    rw [Rights.contains_set]
    by_cases hs : r = s
    · rw [if_pos hs, if_pos hs.symm, Option.getD_some]
    · rw [if_neg hs, if_neg (Ne.symm hs), Option.getD_none]
  cases c with
  | join g =>
    rw [change, addGroup]
    split
    · rfl
    · rfl
  | grant s => exact hset s true
  | revoke s => exact hset s false

theorem rest_change (d : Draft) (c : Change) (groups : List Membership) (rights : Rights) :
    { d.change c with groups, rights } = { d with groups, rights } := by
  cases c with
  | join g =>
    rw [change, addGroup]
    split
    · rfl
    · rfl
  | grant r => rfl
  | revoke r => rfl

/-! ### Changes one after the other -/

/-- **The groups** are those of the start and the newcomers. -/
theorem groups_after (d : Draft) (changes : List Change) :
    (d.after changes).groups =
      d.groups ++ (newcomers d.groupIds (joined changes)).map Group.membership := by
  induction changes using List.reverseRecOn with
  | nil => exact (List.append_nil _).symm
  | append_singleton changes last ih =>
    have hids : (d.after changes).groupIds =
        d.groupIds ++ (newcomers d.groupIds (joined changes)).map (·.id) := by
      rw [groupIds, ih, List.map_append, List.map_map]
      rfl
    rw [after_concat, groups_change, joined_concat, ih, hids]
    cases last.group? with
    | none => simp
    | some g =>
      -- What is at hand after the changes is what was at hand before them or has been joined since.
      have hmember : g.id ∈ d.groupIds ++ (newcomers d.groupIds (joined changes)).map (·.id) ↔
          g.id ∈ d.groupIds ∨ g.id ∈ (joined changes).map (·.id) := by
        rw [List.mem_append, mem_newcomers_ids]
        tauto
      rw [Option.toList_some, newcomers_concat, List.map_append, ← List.append_assoc]
      by_cases hknown : g.id ∈ d.groupIds ∨ g.id ∈ (joined changes).map (·.id)
      · rw [if_pos hknown, List.filter_singleton,
          decide_eq_false (not_not.mpr (hmember.mpr hknown))]
        rfl
      · rw [if_neg hknown, List.filter_singleton, decide_eq_true (mt hmember.mp hknown)]
        rfl

/-- **A right is held** as the last change says that is about it. -/
theorem contains_after (d : Draft) (changes : List Change) (r : Right) :
    (d.after changes).rights.contains r =
      (lastSaid r changes).getD (d.rights.contains r) := by
  induction changes using List.reverseRecOn with
  | nil => rfl
  | append_singleton changes last ih =>
    rw [after_concat, contains_change, lastSaid_concat, ih, Option.getD_or]

/-- **All other fields** are as at the start. -/
theorem rest_after (d : Draft) (changes : List Change) (groups : List Membership)
    (rights : Rights) : { d.after changes with groups, rights } = { d with groups, rights } := by
  induction changes using List.reverseRecOn with
  | nil => rfl
  | append_singleton changes last ih => rw [after_concat, rest_change, ih]

theorem type_after (d : Draft) (changes : List Change) : (d.after changes).type = d.type :=
  (congrArg Draft.type (d.rest_after changes d.groups d.rights) :)

theorem domain_after (d : Draft) (changes : List Change) : (d.after changes).domain = d.domain :=
  (congrArg Draft.domain (d.rest_after changes d.groups d.rights) :)

/-! ### Building -/

/-- Building fails exactly if an account of an identity provider names no provider. -/
theorem build_cases (d : Draft) :
    (d.type = .oauth ∧ (d.domain = none ∨ d.domain = some "")) ∧ d.build = .error .domainRequired ∨
      ¬ (d.type = .oauth ∧ (d.domain = none ∨ d.domain = some "")) ∧
        ∃ u : User, d.build = .ok u ∧ u.toDraft = d := by
  have hgiven : given d.domain = true ↔ ¬ (d.domain = none ∨ d.domain = some "") := by
    cases d.domain with
    | none => simp [given]
    | some s => simp [given]
  have hvalid : d.Valid ↔ ¬ (d.type = .oauth ∧ (d.domain = none ∨ d.domain = some "")) := by
    rw [Valid, hgiven, not_and]
  by_cases h : d.Valid
  · refine .inr ⟨hvalid.mp h, ⟨d, h⟩, ?_, rfl⟩
    rw [build, dif_pos h]
  · refine .inl ⟨not_not.mp (mt hvalid.mpr h), ?_⟩
    rw [build, dif_neg h]

/-- What an account is that was built from a draft after changes. -/
structure Became (d : Draft) (changes : List Change) (u : User) : Prop where
  /-- Its groups are those of the draft, and behind them those that were joined and are none of
  them, each once, where it was joined first and under the name that it had then. -/
  groups : u.groups =
    d.groups ++ (newcomers d.groupIds (joined changes)).map fun g => ⟨g.id, some g.name⟩
  /-- It holds a right if the last change that is about it gave it, and as the draft if none is. -/
  rights : ∀ r, u.rights.contains r = (lastSaid r changes).getD (d.rights.contains r)
  /-- All other fields are those of the draft. -/
  rest : { u.toDraft with groups := d.groups, rights := d.rights } = d

theorem became_of_toDraft {d : Draft} {changes : List Change} {u : User}
    (h : u.toDraft = d.after changes) : d.Became changes u where
  groups := by
    rw [h, groups_after]
    rfl
  rights r := by rw [h, contains_after]
  rest := by
    rw [h]
    exact rest_after d changes d.groups d.rights

end Draft

/-- **Accounts are built as they were drafted.**  An account whose draft is built again is the same
account.  After any changes of a draft, building it fails exactly if it is an account of an identity
provider and the draft names none, and else gives what the changes have made of the draft; an
account that is changed can be built always. -/
theorem draft_runs (u : User) (d : Draft) (changes : List Draft.Change) :
    (Draft.ofUser u).build = .ok u ∧
      (∃ v, ((Draft.ofUser u).after changes).build = .ok v ∧
        (Draft.ofUser u).Became changes v) ∧
      ((d.type = .oauth ∧ (d.domain = none ∨ d.domain = some "")) ∧
          (d.after changes).build = .error .domainRequired ∨
        ¬ (d.type = .oauth ∧ (d.domain = none ∨ d.domain = some "")) ∧
          ∃ v, (d.after changes).build = .ok v ∧ d.Became changes v) := by
  have hvalid : ((Draft.ofUser u).after changes).Valid := by
    rw [Draft.Valid, Draft.type_after, Draft.domain_after]
    exact u.valid
  refine ⟨dif_pos u.valid, ⟨⟨_, hvalid⟩, dif_pos hvalid, Draft.became_of_toDraft rfl⟩, ?_⟩
  have hcases := (d.after changes).build_cases
  rw [Draft.type_after, Draft.domain_after] at hcases
  obtain hfails | ⟨hnamed, v, hbuilt, hv⟩ := hcases
  · exact .inl hfails
  · exact .inr ⟨hnamed, v, hbuilt, Draft.became_of_toDraft hv⟩

/-- A group that is joined twice keeps its first name, and one that was there its old one. -/
example :
    let d : Draft := { groups := [⟨"g1", none⟩] }
    (d.after [.join ⟨"g2", "Staff", none⟩, .revoke .login, .join ⟨"g1", "All", none⟩,
      .join ⟨"g2", "Crew", none⟩, .grant .soap]).groups = [⟨"g1", none⟩, ⟨"g2", some "Staff"⟩] := by
  decide

end Enrollment
