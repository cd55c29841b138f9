/-
Tables that agree on a scope.

Whether a login or an email is free, and whether the write of an account is refused, is decided by
the active accounts of the account's own scope.  So tables that agree on these, on the groups and on
the configuration answer alike, whatever other accounts they hold, and store an account alike.  Where
an account is looked up, its memberships come with it, and the tables have to agree on these too.

* `Tables.View`, `Tables.AgreeOn` — what of two tables is compared, and is the same;
* `AgreeOn.loginFree`, `AgreeOn.emailFree`, `AgreeOn.accountByLogin` — questions to the directory;
* `Draft.Twins` — two accounts that differ in nothing but what was drawn for them;
* `persist_twins` — twins are stored as twins, or refused for one reason.
-/
import Enrollment.Proofs.ReadBack
import Enrollment.Proofs.TwoRuns

namespace Enrollment

open Directory

namespace Directory.Tables

variable {t₁ t₂ : Tables} {v : View} {r : Row}

/-! ### Agreement -/

/-- What of the accounts in two tables is compared: the active ones of a scope, with or without their
memberships. -/
structure View where
  scope : Scope
  members : Bool

/-- Two tables have the same texts configured, the same groups, and the same accounts in a view. -/
structure AgreeOn (v : View) (t₁ t₂ : Tables) : Prop where
  configuration : ∀ key, t₂.configuration.value? key = t₁.configuration.value? key
  groups : ∀ id, t₂.group? id = t₁.group? id
  rows : ∀ r : Row, r.inScope v.scope = true → (r ∈ t₂.users ↔ r ∈ t₁.users)
  members : v.members = true →
    ∀ r ∈ t₁.users, r.inScope v.scope = true → t₂.groupsOf r.id = t₁.groupsOf r.id

namespace AgreeOn

/-- Accounts that are deleted or belong to other scopes may be there besides. -/
theorem of_others {t : Tables} {others : List Row} (h : ∀ r ∈ others, r.inScope v.scope = false) :
    AgreeOn v t { t with users := t.users ++ others } where
  configuration _ := rfl
  groups _ := rfl
  rows r hr := by
    refine List.mem_append.trans (or_iff_left fun hmem => ?_)
    rw [h r hmem] at hr
    cases hr
  members _ _ _ _ := rfl

/-- Only the kind and the domain of a scope count, and an empty domain is none. -/
theorem of_scope {s : Scope} (h : AgreeOn v t₁ t₂) (htype : s.type = v.scope.type)
    (hdomain : filled s.domain = filled v.scope.domain) :
    AgreeOn { scope := s, members := false } t₁ t₂ := by
  have hsame : ∀ r : Row, r.inScope s = r.inScope v.scope := by
    intro r
    rw [Row.inScope, Row.inScope, htype, hdomain]
  exact ⟨h.configuration, h.groups, fun r hr => h.rows r (hsame r ▸ hr),
    fun hmembers => (Bool.false_ne_true hmembers).elim⟩

/-- A condition that only active accounts of the scope satisfy is satisfied in both or in
neither. -/
theorem exists_iff (h : AgreeOn v t₁ t₂) {P : Row → Prop}
    (hP : ∀ r, P r → r.inScope v.scope = true) :
    (∃ r ∈ t₂.users, P r) ↔ ∃ r ∈ t₁.users, P r :=
  exists_congr fun r => and_congr_left fun hr => h.rows r (hP r hr)

theorem any_eq (h : AgreeOn v t₁ t₂) {p : Row → Bool}
    (hp : ∀ r, p r = true → r.inScope v.scope = true) : t₂.users.any p = t₁.users.any p := by
  rw [Bool.eq_iff_iff, List.any_eq_true, List.any_eq_true]
  exact h.exists_iff hp

theorem loginFree (h : AgreeOn v t₁ t₂) (login : String) (exclude : Option String) :
    t₂.loginFree login v.scope exclude = t₁.loginFree login v.scope exclude := by
  rw [Tables.loginFree, Tables.loginFree, h.any_eq]
  intro r hr
  simp only [Bool.and_eq_true] at hr
  exact hr.1.1

theorem emailFree (h : AgreeOn v t₁ t₂) (email exclude : Option String) :
    t₂.emailFree email v.scope exclude = t₁.emailFree email v.scope exclude := by
  rw [Tables.emailFree, Tables.emailFree]
  cases filled email with
  | none => rfl
  | some e =>
    dsimp only
    rw [h.any_eq]
    intro r hr
    simp only [Bool.and_eq_true] at hr
    exact hr.1.1

/-- An active account of the scope is read back alike. -/
theorem user_eq (h : AgreeOn v t₁ t₂) (hv : v.members = true) (hr : r ∈ t₁.users)
    (hscope : r.inScope v.scope = true) : t₂.user r = t₁.user r := by
  have hmembership : t₂.membership = t₁.membership := by
    funext g
    rw [membership, membership, h.groups]
  simp only [Tables.user, h.members hv r hr hscope, hmembership]

/-- The question for the account of a login has one answer. -/
theorem accountByLogin (h : AgreeOn v t₁ t₂) (hv : v.members = true) (ht₁ : t₁.Sound)
    (ht₂ : t₂.Sound) (login : String) :
    t₂.accountByLogin login v.scope = t₁.accountByLogin login v.scope := by
  obtain ⟨found₁, hanswer₁, hrow₁⟩ := ht₁.accountByLogin login v.scope
  obtain ⟨found₂, hanswer₂, hrow₂⟩ := ht₂.accountByLogin login v.scope
  have hscope : ∀ r : Row, (r.inScope v.scope && r.fields.login = login) = true →
      r.inScope v.scope = true := fun r hr => (Bool.and_eq_true _ _ ▸ hr).1
  have hfound : found₂ = found₁ := by
    refine Option.ext fun r => ?_
    rw [← hrow₁, ← hrow₂]
    exact and_congr_left fun hr => h.rows r (hscope r hr)
  rw [hanswer₁, hanswer₂, hfound]
  cases hcase : found₁ with
  | none => rfl
  | some r =>
    obtain ⟨hr, hmatch⟩ := (hrow₁ r).mpr hcase
    rw [Option.map_some, Option.map_some, h.user_eq hv hr (hscope r hmatch)]

end AgreeOn

/-! ### Writes that are refused for one reason -/

theorem Consistent.groupsOf_eq_nil {t : Tables} (ht : t.Consistent) {id : String}
    (hid : id ∉ t.ids) : t.groupsOf id = [] := by
  rw [List.eq_nil_iff_forall_not_mem]
  intro group hgroup
  exact hid (ht.accounts _ (mem_groupsOf.mp hgroup))

/-- Whether a write is refused, and why, depends on what is asked about it. -/
theorem refusal?_congr {w₁ w₂ : Write} (hgroups : ∀ id, t₂.group? id = t₁.group? id)
    (hlanguage : w₂.row.fields.languageId = w₁.row.fields.languageId)
    (hemail : emailTakenBy (t₂.beside w₂) w₂.row = emailTakenBy (t₁.beside w₁) w₁.row)
    (hlogin : loginTakenBy (t₂.beside w₂) w₂.row = loginTakenBy (t₁.beside w₁) w₁.row)
    (hid : (w₂.fresh && (t₂.row? w₂.row.id).isSome) = (w₁.fresh && (t₁.row? w₁.row.id).isSome))
    (hjoining : t₂.joining w₂ = t₁.joining w₁) : t₂.refusal? w₂ = t₁.refusal? w₁ := by
  have hrule : brokenRule? (t₂.beside w₂) w₂.row = brokenRule? (t₁.beside w₁) w₁.row := by
    rw [brokenRule?, brokenRule?, ← emailTakenBy, ← loginTakenBy, ← emailTakenBy, ← loginTakenBy,
      hemail, hlogin]
  rw [refusal?, refusal?, hlanguage, hrule, hid, hjoining]
  simp only [hgroups]

end Directory.Tables

/-! ### Accounts that differ in what was drawn -/

/-- What is drawn anew for an account: its id, its hash, its token and the times it bears. -/
structure Sources where
  id : String → Prop
  hash : String → Prop
  token : String → Prop
  time : Timestamp → Prop
  /-- A time is stored without its offset. -/
  stored : ∀ t, time t → time t.withoutOffset

/-- Two values are one value, or both have been drawn anew. -/
inductive Drawn {α : Type} (p q : α → Prop) : Option α → Option α → Prop where
  | same (x : Option α) : Drawn p q x x
  | anew {a b : α} (ha : p a) (hb : q b) : Drawn p q (some a) (some b)

namespace Drawn

variable {α : Type} {p q : α → Prop} {x y x' y' : Option α}

theorem map {f : α → α} (h : Drawn p q x y) (hp : ∀ a, p a → p (f a)) (hq : ∀ a, q a → q (f a)) :
    Drawn p q (x.map f) (y.map f) := by
  cases h with
  | same => exact .same _
  | anew ha hb => exact .anew (hp _ ha) (hq _ hb)

theorem or (h : Drawn p q x y) (h' : Drawn p q x' y') : Drawn p q (x.or x') (y.or y') := by
  cases h with
  | anew ha hb => exact .anew ha hb
  | same =>
    cases x with
    | none => exact h'
    | some a => exact .same (some a)

end Drawn

/-- An account without anything that may have been drawn for it. -/
def Draft.bare (d : Draft) : Draft :=
  { d with
    id := none, passwordHash := none, activationToken := none, lastLogin := none,
    createdAt := none, updatedAt := none }

/-- Two accounts differ in nothing but what was drawn for them. -/
structure Draft.Twins (g g' : Sources) (d d' : Draft) : Prop where
  id : Drawn g.id g'.id d.id d'.id
  passwordHash : Drawn g.hash g'.hash d.passwordHash d'.passwordHash
  activationToken : Drawn g.token g'.token d.activationToken d'.activationToken
  lastLogin : Drawn g.time g'.time d.lastLogin d'.lastLogin
  createdAt : Drawn g.time g'.time d.createdAt d'.createdAt
  updatedAt : Drawn g.time g'.time d.updatedAt d'.updatedAt
  bare : d'.bare = d.bare

namespace Draft.Twins

variable {g g' : Sources} {d d' : Draft}

/-- Twins have the same of everything that is not drawn. -/
theorem congr {β : Type} (h : Twins g g' d d') (f : Draft → β) (hf : ∀ d, f d.bare = f d) :
    f d' = f d := by
  rw [← hf d', ← hf d, h.bare]

end Draft.Twins

/-! ### Storing twins -/

namespace Directory.Session

variable {t₁ t₂ : Tables} {s₁ s₂ : Session} {c₁ c₂ : Clerk} {u₁ u₂ : User} {old : Option Row}
  {h₁ h₂ p₁ p₂ actor : Option String} {g g' : Sources}

/-- Two accounts are on their way into tables that agree on their scope, and have one place
there. -/
structure Placed (t₁ t₂ : Tables) (c₁ c₂ : Clerk) (u₁ u₂ : User) (old : Option Row) : Prop where
  agree : Tables.AgreeOn { scope := u₁.scope, members := false } t₁ t₂
  place₁ : place? t₁ u₁ = some old
  place₂ : place? t₂ u₂ = some old
  /-- A known account has the same memberships in both. -/
  members : ∀ r ∈ old, t₂.groupsOf r.id = t₁.groupsOf r.id
  consistent₁ : t₁.Consistent
  consistent₂ : t₂.Consistent
  fresh₁ : c₁.freshId ∉ t₁.ids
  fresh₂ : c₂.freshId ∉ t₂.ids

namespace Placed

variable (h : Placed t₁ t₂ c₁ c₂ u₁ u₂ old)
include h

/-- A known account has its id in both. -/
theorem id_eq : u₂.id = u₁.id := by
  cases old with
  | none => rw [new_of_place? h.place₁, new_of_place? h.place₂]
  | some r => rw [(known_of_place? h.place₁).2, (known_of_place? h.place₂).2]

/-- The account is a member of the same groups in both: of none if it is new. -/
theorem groupsOf : t₂.groupsOf (writeOf c₂ old u₂ h₂ actor).row.id =
    t₁.groupsOf (writeOf c₁ old u₁ h₁ actor).row.id := by
  cases old with
  | none =>
    exact (h.consistent₂.groupsOf_eq_nil h.fresh₂).trans
      (h.consistent₁.groupsOf_eq_nil h.fresh₁).symm
  | some r => exact h.members r rfl

theorem loginHeld_iff (hu : Draft.Twins g g' u₁.toDraft u₂.toDraft) :
    LoginHeld t₂ u₂ ↔ LoginHeld t₁ u₁ := by
  rw [LoginHeld, LoginHeld, h.id_eq, hu.congr Draft.scope fun _ => rfl,
    hu.congr Draft.login fun _ => rfl]
  exact h.agree.exists_iff fun o ho => ho.1.scope

theorem emailHeld_iff (hu : Draft.Twins g g' u₁.toDraft u₂.toDraft) :
    EmailHeld t₂ u₂ ↔ EmailHeld t₁ u₁ := by
  rw [EmailHeld, EmailHeld, h.id_eq, hu.congr Draft.scope fun _ => rfl,
    hu.congr Draft.email fun _ => rfl]
  refine exists_congr fun e => and_congr_right fun _ => and_congr_right fun _ => ?_
  exact h.agree.exists_iff fun o ho => ho.1.scope

theorem joining (hu : Draft.Twins g g' u₁.toDraft u₂.toDraft) :
    t₂.joining (writeOf c₂ old u₂ h₂ actor) = t₁.joining (writeOf c₁ old u₁ h₁ actor) := by
  have hgroups : u₂.groupIds = u₁.groupIds := hu.congr Draft.groupIds fun _ => rfl
  rw [Tables.joining, Tables.joining, h.groupsOf]
  change u₂.groupIds.filter _ = u₁.groupIds.filter _
  rw [hgroups]

/-- Twins are refused for one reason, or for none. -/
theorem refusal? (hu : Draft.Twins g g' u₁.toDraft u₂.toDraft) :
    t₂.refusal? (writeOf c₂ old u₂ h₂ actor) = t₁.refusal? (writeOf c₁ old u₁ h₁ actor) := by
  have hdeleted : u₂.deleted = u₁.deleted := hu.congr Draft.deleted fun _ => rfl
  refine Tables.refusal?_congr h.agree.groups (hu.congr Draft.languageId fun _ => rfl) ?_ ?_ ?_
    (h.joining hu)
  · rw [Bool.eq_iff_iff, emailTakenBy_writeOf h.place₂, emailTakenBy_writeOf h.place₁,
      h.emailHeld_iff hu, hdeleted]
  · rw [Bool.eq_iff_iff, loginTakenBy_writeOf h.place₂, loginTakenBy_writeOf h.place₁,
      h.loginHeld_iff hu, hdeleted]
  · cases old with
    | none =>
      have hnone : ∀ {t : Tables} {c : Clerk}, c.freshId ∉ t.ids → t.row? c.freshId = none :=
        fun h => Tables.row?_eq_none.mpr h
      change (true && (t₂.row? c₂.freshId).isSome) = (true && (t₁.row? c₁.freshId).isSome)
      rw [hnone h.fresh₁, hnone h.fresh₂]
    | some r => rfl

end Placed

/-- What a clerk draws is among what may be drawn. -/
structure Clerk.Draws (clerk : Clerk) (g : Sources) : Prop where
  id : g.id clerk.freshId
  time : g.time clerk.now.withoutOffset

/-- Twins that have been stored are read back as twins. -/
theorem Placed.user (h : Placed t₁ t₂ c₁ c₂ u₁ u₂ old)
    (hu : Draft.Twins g g' u₁.toDraft u₂.toDraft) (hhashed : Drawn g.hash g'.hash h₁ h₂)
    (hc₁ : c₁.Draws g) (hc₂ : c₂.Draws g') {t₁' t₂' : Tables}
    (hwrite₁ : t₁.write (writeOf c₁ old u₁ h₁ actor) = .ok t₁')
    (hwrite₂ : t₂.write (writeOf c₂ old u₂ h₂ actor) = .ok t₂') :
    Draft.Twins g g' (t₁'.user (writeOf c₁ old u₁ h₁ actor).row).toDraft
      (t₂'.user (writeOf c₂ old u₂ h₂ actor).row).toDraft := by
  have hwanted : u₂.groupIds = u₁.groupIds := hu.congr Draft.groupIds fun _ => rfl
  have hgroups : t₂'.groupsOf (writeOf c₂ old u₂ h₂ actor).row.id =
      t₁'.groupsOf (writeOf c₁ old u₁ h₁ actor).row.id := by
    rw [Tables.groupsOf_write hwrite₁, Tables.groupsOf_write hwrite₂, h.joining hu, h.groupsOf]
    change List.filter (· ∈ u₂.groupIds) _ ++ _ = List.filter (· ∈ u₁.groupIds) _ ++ _
    rw [hwanted]
  have hmembership : t₂'.membership = t₁'.membership := by
    obtain ⟨-, rfl⟩ := Tables.write_eq_ok.mp hwrite₁
    obtain ⟨-, rfl⟩ := Tables.write_eq_ok.mp hwrite₂
    funext group
    exact congrArg (fun g => Membership.mk group (g.map (·.name))) (h.agree.groups group)
  have hstored : ∀ {g : Sources} (t : Timestamp), g.time t → g.time t.withoutOffset :=
    fun {g} t => g.stored t
  refine ⟨?_, hhashed.or hu.passwordHash, hu.activationToken, hu.lastLogin.map hstored hstored, ?_,
    .anew hc₁.time hc₂.time, ?_⟩
  · cases old with
    | none => exact .anew hc₁.id hc₂.id
    | some r => exact .same (some r.id)
  · cases old with
    | none => exact .anew hc₁.time hc₂.time
    | some r =>
      change Drawn g.time g'.time (r.fields.createdAt.or _) (r.fields.createdAt.or _)
      exact (Drawn.same r.fields.createdAt).or (.anew hc₁.time hc₂.time)
  · -- What is not drawn is read off the account, its groups and who stored it.
    have hread : ∀ (t : Tables) (c : Clerk) (u : User) (hashed : Option String),
        (t.user (writeOf c old u hashed actor).row).toDraft.bare =
          { storedFields u.toDraft.bare with
            updatedBy := actor
            groups := (t.groupsOf (writeOf c old u hashed actor).row.id).map t.membership } :=
      fun _ _ _ _ => rfl
    rw [hread, hread, hu.bare, hgroups, hmembership]

/-- What storing an account in a known place comes to, while nothing else is staged. -/
theorem persist_eq {s : Session} {clerk : Clerk} {u : User} {password : Option String}
    (hs : s.staged = []) (hplace : place? s.working u = some old) :
    (s.persist clerk u password actor).1 =
      (filled password).mapM clerk.hash >>= fun hashed =>
        match s.working.write (writeOf clerk old u hashed actor) with
        | .ok t => .ok (t.user (writeOf clerk old u hashed actor).row)
        | .error e => .error (reported e) := by
  have hstoring := persist_storing hs clerk u password actor
  revert hstoring
  generalize (s.persist clerk u password actor).1 = r
  generalize (s.persist clerk u password actor).2 = s'
  intro hstoring
  cases hstoring with
  | missing hmissing => cases hplace.symm.trans hmissing
  | unhashed _ hhash =>
    rw [hhash]
    rfl
  | refused hplace' hhash hrefusal =>
    cases hplace.symm.trans hplace'
    rw [hhash]
    simp only [bind, Except.bind, Tables.write_eq_error.mpr hrefusal]
  | stored hplace' hhash hwrite =>
    cases hplace.symm.trans hplace'
    rw [hhash]
    simp only [bind, Except.bind, hwrite]

/-- **Twins are stored as twins**, or fail to be stored for one reason, in tables that agree on
their scope. -/
theorem persist_twins (hs₁ : s₁.staged = []) (hs₂ : s₂.staged = [])
    (h : Placed s₁.working s₂.working c₁ c₂ u₁ u₂ old)
    (hu : Draft.Twins g g' u₁.toDraft u₂.toDraft)
    (hhash : Matched (Drawn g.hash g'.hash) ((filled p₁).mapM c₁.hash) ((filled p₂).mapM c₂.hash))
    (hc₁ : c₁.Draws g) (hc₂ : c₂.Draws g') (actor : Option String) :
    Matched (fun v₁ v₂ : User => Draft.Twins g g' v₁.toDraft v₂.toDraft)
      (s₁.persist c₁ u₁ p₁ actor).1 (s₂.persist c₂ u₂ p₂ actor).1 := by
  rw [persist_eq hs₁ h.place₁, persist_eq hs₂ h.place₂]
  refine hhash.bind fun hashed₁ hashed₂ hhashed => ?_
  have hrefusal : s₂.working.refusal? (writeOf c₂ old u₂ hashed₂ actor) =
      s₁.working.refusal? (writeOf c₁ old u₁ hashed₁ actor) := h.refusal? hu
  cases hwrite₁ : s₁.working.write (writeOf c₁ old u₁ hashed₁ actor) with
  | error e =>
    rw [Tables.write_eq_error] at hwrite₁
    have hwrite₂ := Tables.write_eq_error.mpr (hrefusal.trans hwrite₁)
    simp only [hwrite₂]
    exact .error _
  | ok t₁' =>
    have hnone := (Tables.write_eq_ok.mp hwrite₁).1
    have hwrite₂ := Tables.write_eq_ok.mpr ⟨hrefusal.trans hnone, rfl⟩
    simp only [hwrite₂]
    exact .ok (h.user hu hhashed hc₁ hc₂ hwrite₁ hwrite₂)

end Directory.Session
end Enrollment
