/-
An account that is stored is read back as it was handed over.

In the storage the row of an account is made of plain columns: the kind and the rights are names
there, an account without a domain has an empty one, and times have no offset.  An account is written
to its columns field by field, and read from them field by field.

* `Columns.filled`, `Columns.stored` — how an account is written to the columns of its row;
* `Columns.user` — how it is read from them, which fails on a name that is none;
* `columns_writeOf`, `columns_user` — rows are written and read as their columns are;
* `stored_accounts_read_back` — every row of a state that can be reached is read, and a new account is
  read back with what was handed over, but for what storing it sets.
-/
import Enrollment.Proofs.Provenance
import Enrollment.Proofs.ReadBack

namespace Enrollment

open Directory

variable {sv : Service} {w : World}

/-! ### Names -/

theorem UserType.ofName?_name (type : UserType) : ofName? type.name = some type := by
  cases type <;> rfl

theorem Right.ofName?_name (r : Right) : ofName? r.name = some r := by
  cases r <;> rfl

/-- The rights that are listed are those of the set. -/
theorem Rights.ofList_toList (rights : Rights) : ofList rights.toList = rights := by
  obtain ⟨admin, dashboard, groupAdmin, login, room, soap⟩ := rights
  cases admin <;> cases dashboard <;> cases groupAdmin <;> cases login <;> cases room <;>
    cases soap <;> rfl

namespace Directory

/-- What a name stands for; a name that is none of the set is a failure. -/
def named {α : Type} (set : String) (ofName? : String → Option α) (name : String) :
    Except Failure α :=
  match ofName? name with
  | some a => .ok a
  | none => .error (.unknownName set name)

/-! ### Columns -/

/-- The row of an account as the storage has it. -/
structure Columns where
  id : String
  login : String := ""
  type : String := ""
  /-- The identity provider; empty where there is none. -/
  domain : String := ""
  externalType : Option String := none
  passwordHash : Option String := none
  activationToken : Option String := none
  firstName : Option String := none
  lastName : Option String := none
  email : Option String := none
  country : Option String := none
  languageId : Option Int := none
  timezone : Option String := none
  picture : Option String := none
  showContactData : Bool := false
  rights : List String := []
  lastLogin : Option Timestamp := none
  createdAt : Option Timestamp := none
  updatedAt : Option Timestamp := none
  updatedBy : Option String := none
  deleted : Bool := false
deriving DecidableEq

namespace Columns

/-- The columns with the fields of an account. -/
def filled (c : Columns) (u : User) : Columns :=
  { c with
    login := u.login
    type := u.type.name
    domain := u.domain.getD ""
    externalType := u.externalType
    passwordHash := u.passwordHash
    activationToken := u.activationToken
    firstName := u.firstName
    lastName := u.lastName
    email := u.email
    country := u.country
    languageId := u.languageId
    timezone := u.timezone
    picture := u.picture
    showContactData := u.showContactData
    rights := u.rights.toList.map Right.name
    lastLogin := u.lastLogin.map Timestamp.withoutOffset
    deleted := u.deleted }

/-- The columns in which a clerk stores an account: those of its row, or new ones. -/
def stored (clerk : Session.Clerk) (old : Option Columns) (u : User)
    (hashed actor : Option String) : Columns :=
  let now := some clerk.now.withoutOffset
  let c := (old.getD { id := clerk.freshId, createdAt := now }).filled u
  { c with
    passwordHash := hashed.or c.passwordHash
    updatedAt := now
    updatedBy := actor }

/-- The account that is read from columns, with its memberships. -/
def user (c : Columns) (memberships : List Membership) : Except Failure User := do
  let type ← named "UserType" UserType.ofName? c.type
  let rights ← c.rights.mapM (named "Right" Right.ofName?)
  Draft.build {
    id := some c.id
    login := c.login
    type
    domain := Enrollment.filled (some c.domain)
    externalType := c.externalType
    passwordHash := c.passwordHash
    activationToken := c.activationToken
    firstName := c.firstName
    lastName := c.lastName
    email := c.email
    country := c.country
    languageId := c.languageId
    timezone := c.timezone
    picture := c.picture
    showContactData := c.showContactData
    rights := .ofList rights
    groups := memberships
    lastLogin := c.lastLogin
    createdAt := c.createdAt
    updatedAt := c.updatedAt
    updatedBy := c.updatedBy
    deleted := c.deleted }

end Columns

/-- The columns of a row. -/
def Row.columns (r : Row) : Columns where
  id := r.id
  login := r.fields.login
  type := r.fields.type.name
  domain := r.fields.domain.getD ""
  externalType := r.fields.externalType
  passwordHash := r.fields.passwordHash
  activationToken := r.fields.activationToken
  firstName := r.fields.firstName
  lastName := r.fields.lastName
  email := r.fields.email
  country := r.fields.country
  languageId := r.fields.languageId
  timezone := r.fields.timezone
  picture := r.fields.picture
  showContactData := r.fields.showContactData
  rights := r.fields.rights.toList.map Right.name
  lastLogin := r.fields.lastLogin
  createdAt := r.fields.createdAt
  updatedAt := r.fields.updatedAt
  updatedBy := r.fields.updatedBy
  deleted := r.fields.deleted

theorem getD_filled (s : Option String) : (filled s).getD "" = s.getD "" := by
  cases s with
  | none => rfl
  | some text =>
    by_cases h : text = ""
    · subst h
      rfl
    · rw [filled_of_ne h]

theorem filled_getD (s : Option String) : filled (some (s.getD "")) = filled s := by
  cases s <;> rfl

/-- **What is written for an account has the columns that its clerk stores.** -/
theorem columns_writeOf (clerk : Session.Clerk) (old : Option Row)
    (hold : ∀ r ∈ old, r.fields.createdAt.isSome = true) (u : User) (hashed actor : Option String) :
    (Session.writeOf clerk old u hashed actor).row.columns =
      Columns.stored clerk (old.map Row.columns) u hashed actor := by
  have hdomain : (filled u.domain).getD "" = u.domain.getD "" := getD_filled u.domain
  cases old with
  | none =>
    simp [Session.writeOf, Row.columns, Columns.stored, Columns.filled, storedFields, hdomain]
  | some r =>
    obtain ⟨created, hcreated⟩ := Option.isSome_iff_exists.mp (hold r rfl)
    simp [Session.writeOf, Row.columns, Columns.stored, Columns.filled, storedFields, hdomain,
      hcreated]

/-- The rights of a row are read from their names. -/
theorem mapM_named_rights (l : List Right) :
    (l.map Right.name).mapM (named "Right" Right.ofName?) = .ok l := by
  induction l with
  | nil => rfl
  | cons r l ih =>
    have hr : named "Right" Right.ofName? r.name = .ok r := by rw [named, Right.ofName?_name]
    rw [List.map_cons, List.mapM_cons, hr, ih]
    rfl

/-- **A row is read as its columns are**, and they can be read. -/
theorem columns_user (t : Tables) {r : Row} (hr : filled r.fields.domain = r.fields.domain) :
    r.columns.user ((t.groupsOf r.id).map t.membership) = .ok (t.user r) := by
  have htype : named "UserType" UserType.ofName? r.columns.type = .ok r.fields.type := by
    rw [named, Row.columns, UserType.ofName?_name]
  have hrights : r.columns.rights.mapM (named "Right" Right.ofName?) = .ok r.fields.rights.toList :=
    mapM_named_rights _
  have hdomain : filled (some r.columns.domain) = r.fields.domain :=
    (filled_getD _).trans hr
  rw [Columns.user, htype, hrights]
  refine Draft.build_eq_ok.mpr ?_
  rw [Rights.ofList_toList, hdomain]
  rfl

/-! ### New accounts -/

/-- A new account that the tables have room for: its groups exist and are named once, its numbers fit
their columns, and no active account has its keys. -/
structure Tables.HasRoomFor (t : Tables) (u : User) : Prop where
  new : u.id = none
  once : u.groupIds.Nodup
  groups : ∀ g ∈ u.groupIds, (t.group? g).isSome = true
  fits : (u.languageId.map Text.fitsWord).getD true = true
  login : ¬ (u.deleted = false ∧ Session.LoginHeld t u)
  email : ¬ (u.deleted = false ∧ Session.EmailHeld t u)

/-- The account that a new one is read back as: what was handed over, but for its id and what storing
it sets, the names of its groups as the tables have them, an empty domain and the time zone. -/
def Tables.readBack (t : Tables) (u : User) (id : String) (now : Timestamp)
    (hashed actor : Option String) : Draft :=
  { u.toDraft with
    id := some id
    domain := filled u.domain
    passwordHash := hashed.or u.passwordHash
    groups := u.groupIds.map t.membership
    lastLogin := u.lastLogin.map Timestamp.withoutOffset
    createdAt := some now.withoutOffset
    updatedAt := some now.withoutOffset
    updatedBy := actor }

section New

variable {t t' : Tables} {u : User} {clerk : Session.Clerk} {hashed actor : Option String}

/-- Nobody is a member of a group before there is an account of the id. -/
theorem Tables.Consistent.groupsOf_of_unknown (ht : t.Consistent) {id : String} (hid : id ∉ t.ids) :
    t.groupsOf id = [] := by
  refine List.eq_nil_iff_forall_not_mem.mpr fun g hg => ?_
  exact hid (ht.accounts _ (Tables.mem_groupsOf.mp hg))

/-- An account of an id that is not known joins all its groups. -/
theorem Tables.Consistent.joining_of_unknown (ht : t.Consistent) (hid : clerk.freshId ∉ t.ids) :
    t.joining (Session.writeOf clerk none u hashed actor) = u.groupIds := by
  refine List.filter_eq_self.mpr fun g _ => ?_
  change decide (g ∉ t.groupsOf clerk.freshId) = true
  rw [ht.groupsOf_of_unknown hid]
  simp

/-- No rule of the tables is broken by an account that there is room for. -/
theorem Tables.HasRoomFor.refusal? (h : t.HasRoomFor u) (ht : t.Consistent)
    (hid : clerk.freshId ∉ t.ids) :
    t.refusal? (Session.writeOf clerk none u hashed actor) = none := by
  have hplace : Session.place? t u = some none := by rw [Session.place?, h.new]
  have hjoinable : t.Joinable (Session.writeOf clerk none u hashed actor) := by
    refine ⟨fun _ => Tables.row?_eq_none.mpr hid, ?_, ?_⟩
    · rw [ht.joining_of_unknown hid]
      exact Tables.hasTwice_eq_false.mpr h.once
    · rw [ht.joining_of_unknown hid]
      exact h.groups
  have hrefusal := t.refusal (Session.writeOf clerk none u hashed actor)
  generalize t.refusal? (Session.writeOf clerk none u hashed actor) = refused at hrefusal
  cases hrefusal with
  | tooLarge hlarge => exact absurd h.fits hlarge
  | emailTaken _ htaken => exact absurd ((Session.emailTakenBy_writeOf hplace).mp htaken) h.email
  | loginTaken _ _ htaken => exact absurd ((Session.loginTakenBy_writeOf hplace).mp htaken) h.login
  | unjoinable _ _ _ hunjoinable => exact absurd hjoinable hunjoinable
  | none => rfl

/-- An account that there is room for can be written. -/
theorem Tables.HasRoomFor.write (h : t.HasRoomFor u) (ht : t.Consistent)
    (hid : clerk.freshId ∉ t.ids) (hashed actor : Option String) :
    ∃ t', t.write (Session.writeOf clerk none u hashed actor) = .ok t' ∧ t'.groups = t.groups :=
  ⟨_, Tables.write_eq_ok.mpr ⟨h.refusal? ht hid, rfl⟩, rfl⟩

/-- A new account is written after everything that waits to be flushed. -/
theorem Session.persist_new {s : Session} {password : Option String} (hnew : u.id = none)
    (hdue : s.due = .ok t) (hhash : (filled password).mapM clerk.hash = .ok hashed)
    (hwrite : t.write (writeOf clerk none u hashed actor) = .ok t') :
    s.persist clerk u password actor =
      (.ok (t'.user (writeOf clerk none u hashed actor).row),
        { s with working := t', staged := [] }) := by
  -- The new account comes last, into the tables that all the rest has led to.
  have hsettled : settled s.working (s.staged ++ [writeOf clerk none u hashed actor]) = .ok t' := by
    rw [settled_append_fresh rfl, ← due, hdue]
    exact hwrite
  rw [persist, hnew]
  simp only [store, hhash, flush, flushWith, hsettled]
  rfl

/-- The account that was written is read back with what was handed over. -/
theorem Tables.Consistent.user_writeOf (ht : t.Consistent) (hid : clerk.freshId ∉ t.ids)
    (hwrite : t.write (Session.writeOf clerk none u hashed actor) = .ok t') :
    (t'.user (Session.writeOf clerk none u hashed actor).row).toDraft =
      t'.readBack u clerk.freshId clerk.now hashed actor := by
  have hgroups : t'.groupsOf clerk.freshId = u.groupIds := by
    refine (Tables.groupsOf_write hwrite).trans ?_
    rw [ht.joining_of_unknown hid]
    change (t.groupsOf clerk.freshId).filter _ ++ _ = _
    rw [ht.groupsOf_of_unknown hid]
    rfl
  have hmemberships : (t'.groupsOf (Session.writeOf clerk none u hashed actor).row.id).map
      t'.membership = u.groupIds.map t'.membership := congrArg (List.map t'.membership) hgroups
  simp only [Tables.user, hmemberships]
  rfl

end New

end Directory

/-- **What is stored is read back.**  In every state that can be reached, every row is read, from its
columns, under its id and, if the account is active, under its login.  And a new account that there
is room for, once what waits to be flushed is written, is stored, and is found under its id and, if
it is active, under its login, with what was handed over. -/
theorem stored_accounts_read_back (w : World) (hw : w.Reachable) :
    (∀ t, t = w.session.working ∨ t = w.session.lasting → ∀ r ∈ t.users,
      r.columns.user ((t.groupsOf r.id).map t.membership) = .ok (t.user r) ∧
        t.accountById r.id = some (t.user r) ∧
        (r.active = true → t.accountByLogin r.fields.login ⟨r.fields.type, r.fields.domain⟩ =
          .ok (some (t.user r)))) ∧
    ∀ (sv : Service) (u : User) (password actor hashed : Option String) (t : Tables),
      w.isOpen = true → w.session.due = .ok t → t.HasRoomFor u → sv.around.freshId w.ids ∉ t.ids →
        (filled password).mapM sv.around.hash = .ok hashed →
      let after := (sv.persist w u password actor).2
      ∃ stored, (sv.persist w u password actor).1 = .ok stored ∧
        stored.toDraft = after.tables.readBack u (sv.around.freshId w.ids) sv.around.now hashed
          actor ∧
        after.tables.groups = t.groups ∧
        after.tables.accountById (sv.around.freshId w.ids) = some stored ∧
        (u.deleted = false → after.tables.accountByLogin u.login u.scope = .ok (some stored)) := by
  constructor
  · intro t ht r hr
    have hconsistent : t.Consistent := by
      rcases ht with rfl | rfl
      · exact hw.consistent.2
      · exact hw.consistent.1
    have hdomain := hconsistent.domains r hr
    refine ⟨columns_user t hdomain, ?_, fun hactive => ?_⟩
    · rw [Tables.accountById, hconsistent.toSound.row?_of_mem hr]
      rfl
    · exact hconsistent.toSound.accountByLogin_of_mem hr
        (Row.inScope_eq_true.mpr ⟨hactive, rfl, hdomain.symm⟩)
  · -- The tables that the new account is written into can be reached as well, so they keep the rules.
    intro sv u password actor hashed t hopen hdue hroom hid hhash after
    have ht : t.Consistent := (hw.grown.due hdue).consistent
    have hid' : (sv.clerk w).freshId ∉ t.ids := hid
    obtain ⟨t', hwrite, hgroups⟩ := hroom.write ht hid' hashed actor
    have hpersist := Session.persist_new hroom.new hdue hhash hwrite
    have hafter : after.tables = t' := by
      rw [World.tables, (Service.persist_of_open hopen).2, hpersist]
    have ht' : t'.Consistent := ht.write (Session.writeOf_due (by simp) hashed actor) hwrite
    have hrow := Tables.row?_written hwrite (by simp [Session.writeOf])
    refine ⟨_, by rw [(Service.persist_of_open hopen).1, hpersist], ?_⟩
    rw [hafter]
    refine ⟨ht.user_writeOf hid' hwrite, hgroups, ?_, fun hactive => ?_⟩
    · exact congrArg (Option.map t'.user) hrow
    · exact ht'.toSound.accountByLogin_of_mem (Tables.mem_of_row? hrow).1
        (Session.writeOf_inScope hactive)

/-- A linked account is read, and an account of another type is stored beside it, in the group that it
names. -/
theorem stored_accounts_read_back_in_group :
    let dora : User :=
      { login := "dora", type := .external, domain := some "", email := some "dora@x.org"
        rights := { admin := true }, groups := [⟨"staff", none⟩]
        lastLogin := some { year := 2024, month := 2, day := 3, offset := some 3600 }
        valid := by decide }
    let w := World.after .numbered
      [.createGroup ⟨"staff", "Staff", none⟩, .link { uid := "carol" } "google"]
    let after := (Service.numbered.persist w dora (some "secret") none).2
    (∀ r ∈ w.tables.users, w.tables.accountById r.id = some (w.tables.user r)) ∧
      ∃ stored, (Service.numbered.persist w dora (some "secret") none).1 = .ok stored ∧
        after.tables.accountById "user-1" = some stored ∧ stored.domain = none ∧
        stored.groups = [⟨"staff", some "Staff"⟩] ∧ stored.passwordHash = some "hashed:secret" ∧
        stored.lastLogin = some { year := 2024, month := 2, day := 3 } := by
  intro dora w after
  have h := stored_accounts_read_back w (World.reachable_after _ _)
  refine ⟨fun r hr => (h.1 _ (.inl rfl) r hr).2.1, ?_⟩
  have hdue : w.session.due = .ok w.tables := Session.due_of_flushed (World.staged_after_numbered _)
  have hscope : ∀ o ∈ w.tables.users, o.inScope dora.scope = false := by decide +kernel
  have hroom : w.tables.HasRoomFor dora := by
    refine ⟨rfl, by decide, by decide +kernel, by decide, ?_, ?_⟩
    · rintro ⟨-, o, ho, hholds, -⟩
      exact absurd hholds.scope (by simp [hscope o ho])
    · rintro ⟨-, e, -, -, o, ho, hholds, -⟩
      exact absurd hholds.scope (by simp [hscope o ho])
  obtain ⟨stored, hstored, hdraft, -, hfound, -⟩ := h.2 .numbered dora (some "secret") none
    (some "hashed:secret") w.tables (by decide +kernel) hdue hroom (by decide +kernel) (by decide)
  have hstaff : after.tables.membership "staff" = ⟨"staff", some "Staff"⟩ := by decide +kernel
  have hid : Service.numbered.around.freshId w.ids = "user-1" := by decide +kernel
  refine ⟨stored, hstored, hid ▸ hfound, ?_, ?_, ?_, ?_⟩
  · rw [hdraft]
    rfl
  · rw [hdraft]
    exact congrArg (fun m => [m]) hstaff
  · rw [hdraft]
    rfl
  · rw [hdraft]
    rfl

end Enrollment
