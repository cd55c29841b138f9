/-
Where the accounts of an installation come from, and who of them may sign in.

People register themselves and are linked from identity providers, again and again and in any
order, while groups and configuration change.

* `Operation.SelfServed` — what can happen without anybody who hands accounts over;
* `Came` — how a row has come into the tables with one such operation;
* `ProviderAccount`, `OwnAccount` — what is known of an account after a history: with which turn it
  entered, what was in force then, and what has been kept since;
* `accounts_traced` — every account is one or the other, and no turn ever gives the right to sign in
  to an account that was there.

The step is `Deed.came`; `Provenance` is the invariant that it keeps, `provenance_through` the run.
-/
import Enrollment.Cli.Supply
import Enrollment.Proofs.Deeds

namespace Enrollment

open Directory

variable {sv : Service} {w w' : World} {op : Operation} {r : Row}

/-- No account is handed over: people register themselves and are linked, and groups and
configuration change. -/
def Operation.SelfServed : Operation → Prop
  | .persist _ _ _ => False
  | .registerUser _ _ _ => False
  | _ => True

theorem Operation.SelfServed.worked (h : op.SelfServed) : op.Worked := by
  cases op with
  | persist => exact h
  | registerUser => exact h.elim
  | _ => trivial

/-! ### One turn -/

/-- How a row has come into the tables with an operation. -/
inductive Came (sv : Service) (w w' : World) (op : Operation) (r : Row) : Prop where
  | kept (h : r ∈ w.tables.users)
  | registered {form : Registration.Form} (hop : op = .register form)
      (hnew : w.tables.row? r.id = none) (htype : r.fields.type = .user)
      (hlogin : r.fields.canLogin = true ↔
        w.tables.confirmationRequired sv.site.settings = false)
  | provisioned {a : Assertion} {provider : String} (hop : op = .link a provider)
      (hnew : w.tables.row? r.id = none) (htype : r.fields.type = .oauth)
      (hlogin : r.fields.canLogin = false) (hhash : r.fields.passwordHash.isSome = true)
      (huid : r.fields.login = a.uid)
      (hvalid : Login.isValid (w'.tables.loginLength sv.site.settings) a.uid = true)
  | relinked {a : Assertion} {provider : String} {r₀ : Row} (hop : op = .link a provider)
      (hr₀ : r₀ ∈ w.tables.users) (hid : r.id = r₀.id)
      (htype : r.fields.type = .oauth ∧ r₀.fields.type = .oauth)
      (hrights : r.fields.rights = r₀.fields.rights)
      (hhash : r.fields.passwordHash.isSome = true) (huid : r.fields.login = r₀.fields.login)

/-- The row of a linked account. -/
theorem Linking.Done.came {a : Assertion} {provider : String} {w₁ : World} {r o : Row} {t' : Tables}
    (h : Done sv w w₁ a provider r t') (hsettled : w.session.lasting.users = w.tables.users)
    (hdrawn : sv.around.DrawsPasswords) (htables : w'.tables = t') (ho : o ∈ t'.users) :
    Came sv w w' (.link a provider) o := by
  -- Whether or not the steps were taken twice, they met the rows that were there before.
  have husers : w₁.tables.users = w.tables.users := by
    rcases h.left.working with hworking | hworking
    · exact congrArg Tables.users hworking
    · exact (congrArg Tables.users hworking).trans hsettled
  by_cases hne : o.id = r.id
  · cases h.consistent.toSound.eq_of_id_eq ho h.enters.mem hne
    have htype := (Row.inScope_eq_true.mp h.linked.scope).2.1
    cases henters : h.enters with
    | provisioned hnew hrights =>
      rw [Tables.row?_congr husers] at hnew
      refine .provisioned rfl hnew htype ?_ (h.hashed hdrawn) h.linked.login ?_
      · rw [Draft.canLogin, hrights]
        rfl
      · rw [htables, Tables.loginLength_congr h.enters.configuration]
        exact h.valid
    | relinked hr₀ hscope hlogin hid hrights =>
      have htype₀ := (Row.inScope_eq_true.mp hscope).2.1
      exact .relinked rfl (husers ▸ hr₀) hid ⟨htype, htype₀⟩ hrights (h.hashed hdrawn)
        (h.linked.login.trans hlogin.symm)
  · exact .kept (husers ▸ h.enters.mem_of_ne ho hne)

/-- **Where the rows after an operation come from**, if every account that was seen lasted. -/
theorem Deed.came (h : Deed sv w w' op) (hop : op.SelfServed)
    (hsettled : w.session.lasting.users = w.tables.users) (hdrawn : sv.around.DrawsPasswords) :
    w'.session.lasting.users = w'.tables.users ∧ ∀ r ∈ w'.tables.users, Came sv w w' op r := by
  cases h with
  | unstored h =>
    have hlasting : w'.session.lasting.users = w.tables.users := by
      rcases h.lasting with h | h
      · exact h.trans hsettled
      · exact h
    have hworking : w'.tables.users = w.tables.users := by
      rcases h.working with h | h
      · exact h
      · exact h.trans hsettled
    exact ⟨hlasting.trans hworking.symm, fun r hr => .kept (hworking ▸ hr)⟩
  | handed => exact hop.elim
  | overwritten => exact hop.elim
  | @registered form r hnew husers htype hlogin hlasting =>
    refine ⟨congrArg Tables.users hlasting, fun o ho => ?_⟩
    rw [husers, List.mem_append, List.mem_singleton] at ho
    rcases ho with ho | rfl
    · exact .kept ho
    · exact .registered rfl hnew htype hlogin
  | @linked a provider w₁ r t' h hsession =>
    have htables : w'.tables = t' := by rw [World.tables, hsession]
    refine ⟨by rw [World.tables, hsession], fun o ho => ?_⟩
    exact h.came hsettled hdrawn htables (htables ▸ ho)

/-- No operation gives the right to sign in to an account that was there without it. -/
theorem Came.canLogin (h : Came sv w w' op r) (hlogin : r.fields.canLogin = true) :
    (∃ r₀ ∈ w.tables.users, r₀.id = r.id ∧ r₀.fields.canLogin = true) ∨
      (∃ form, op = .register form) ∧ w.tables.row? r.id = none := by
  cases h with
  | kept hr => exact .inl ⟨r, hr, rfl, hlogin⟩
  | registered hop hnew => exact .inr ⟨⟨_, hop⟩, hnew⟩
  | provisioned _ _ _ hlogin' =>
    rw [hlogin'] at hlogin
    cases hlogin
  | @relinked _ _ r₀ _ hr₀ hid _ hrights =>
    refine .inl ⟨r₀, hr₀, hid.symm, ?_⟩
    rwa [Draft.canLogin, ← hrights]

/-! ### Histories -/

/-- The account of a row entered with a turn: it was not there before it, and was there after it. -/
structure Entered (start : World) (history before : List Turn) (x : Turn) (r : Row) : Prop where
  taken : ∃ later, history = before ++ x :: later
  absent : (start.through before).tables.row? r.id = none
  present : r.id ∈ (start.through (before ++ [x])).tables.ids

/-- An account that entered with a linking, as it is after the history. -/
structure ProviderAccount (start : World) (history : List Turn) (r : Row) : Prop where
  noLogin : r.fields.canLogin = false
  hashed : r.fields.passwordHash.isSome = true
  domain : given r.fields.domain = true
  /-- Its login was valid by the configuration of the time when it entered. -/
  entered : ∃ (before : List Turn) (x : Turn) (a : Assertion) (provider : String),
    Entered start history before x r ∧ x.operation = .link a provider ∧ r.fields.login = a.uid ∧
      Login.isValid ((start.through (before ++ [x])).tables.loginLength x.service.site.settings)
        r.fields.login = true

/-- An account that somebody registered, as it is after the history: it may sign in exactly if it
did not have to be confirmed when it entered. -/
def OwnAccount (start : World) (history : List Turn) (r : Row) : Prop :=
  ∃ (before : List Turn) (x : Turn) (form : Registration.Form),
    Entered start history before x r ∧ x.operation = .register form ∧
      (r.fields.canLogin = true ↔
        (start.through before).tables.confirmationRequired x.service.site.settings = false)

section Trace

variable {start : World} {history before : List Turn} {x : Turn}

theorem Entered.concat (h : Entered start history before x r) (y : Turn) :
    Entered start (history ++ [y]) before x r := by
  obtain ⟨⟨later, rfl⟩, habsent, hpresent⟩ := h
  exact ⟨⟨later ++ [y], by simp⟩, habsent, hpresent⟩

theorem Entered.last (hnew : (start.through history).tables.row? r.id = none)
    (hr : r ∈ (start.through (history ++ [x])).tables.users) :
    Entered start (history ++ [x]) history x r :=
  ⟨⟨[], rfl⟩, hnew, List.mem_map_of_mem hr⟩

/-- What is known of a row, by the type of its account. -/
inductive Traced (start : World) (history : List Turn) (r : Row) : Prop where
  | provider (htype : r.fields.type = .oauth) (h : ProviderAccount start history r)
  | own (htype : r.fields.type = .user) (h : OwnAccount start history r)

theorem Traced.concat (h : Traced start history r) (y : Turn) :
    Traced start (history ++ [y]) r := by
  cases h with
  | provider htype h =>
    obtain ⟨before, x, a, provider, hentered, h'⟩ := h.entered
    exact .provider htype ⟨h.noLogin, h.hashed, h.domain,
      ⟨before, x, a, provider, hentered.concat y, h'⟩⟩
  | own htype h =>
    obtain ⟨before, x, form, hentered, h'⟩ := h
    exact .own htype ⟨before, x, form, hentered.concat y, h'⟩

/-- The row of an account that is linked again is traced as the row before it. -/
theorem Traced.relinked {r₀ : Row} (h : Traced start history r₀) (hid : r.id = r₀.id)
    (htype : r.fields.type = .oauth ∧ r₀.fields.type = .oauth)
    (hrights : r.fields.rights = r₀.fields.rights) (hhash : r.fields.passwordHash.isSome = true)
    (huid : r.fields.login = r₀.fields.login) : Traced start history r := by
  cases h with
  | own htype₀ =>
    rw [htype.2] at htype₀
    cases htype₀
  | provider _ h =>
    obtain ⟨before, x, a, provider, ⟨htaken, habsent, hpresent⟩, hop, hlogin, hvalid⟩ := h.entered
    refine .provider htype.1 ⟨?_, hhash, r.valid htype.1, before, x, a, provider, ?_, hop, ?_, ?_⟩
    · rw [Draft.canLogin, hrights]
      exact h.noLogin
    · rw [← hid] at habsent hpresent
      exact ⟨htaken, habsent, hpresent⟩
    · exact huid.trans hlogin
    · rwa [huid]

/-- The invariant of histories: the session is orderly, and every account that is seen lasts and is
traced. -/
structure Provenance (start : World) (history : List Turn) : Prop where
  orderly : (start.through history).session.Orderly
  settled : (start.through history).session.lasting.users = (start.through history).tables.users
  traced : ∀ r ∈ (start.through history).tables.users, Traced start history r

/-- A row that came with the next turn is traced, if all rows before it are. -/
theorem Came.traced
    (h : Came x.service (start.through history) (start.through (history ++ [x])) x.operation r)
    (hr : r ∈ (start.through (history ++ [x])).tables.users)
    (htraced : ∀ r₀ ∈ (start.through history).tables.users, Traced start history r₀) :
    Traced start (history ++ [x]) r := by
  cases h with
  | kept hkept => exact (htraced r hkept).concat x
  | registered hop hnew htype hlogin =>
    exact .own htype ⟨history, x, _, .last hnew hr, hop, hlogin⟩
  | provisioned hop hnew htype hlogin hhash huid hvalid =>
    exact .provider htype ⟨hlogin, hhash, r.valid htype, history, x, _, _, .last hnew hr, hop, huid,
      huid ▸ hvalid⟩
  | relinked hop hr₀ hid htype hrights hhash huid =>
    exact ((htraced _ hr₀).relinked hid htype hrights hhash huid).concat x

/-- Where the rows come from after one more turn. -/
theorem Provenance.turn (h : Provenance start history) (hself : x.operation.SelfServed)
    (hhash : x.service.around.PlainHasher) (hdrawn : x.service.around.DrawsPasswords) :
    let w := start.through history
    let w' := start.through (history ++ [x])
    w'.session.Orderly ∧ w'.session.lasting.users = w'.tables.users ∧
      ∀ r ∈ w'.tables.users, Came x.service w w' x.operation r := by
  intro w w'
  obtain ⟨horderly, hdeed⟩ := x.operation.deed h.orderly hhash x.outer hself.worked
  have hw' : w' = x.operation.perform x.service x.outer w := start.through_concat history x
  rw [← hw'] at horderly hdeed
  exact ⟨horderly, hdeed.came hself h.settled hdrawn⟩

/-- Every history from an empty storage keeps the invariant. -/
theorem provenance_through (hstart : start.session = {})
    (hself : ∀ x ∈ history, x.operation.SelfServed)
    (hhash : ∀ x ∈ history, x.service.around.PlainHasher)
    (hdrawn : ∀ x ∈ history, x.service.around.DrawsPasswords) : Provenance start history := by
  -- By induction on the history, its last turn last: what was known before it is carried on.
  induction history using List.reverseRecOn with
  | nil =>
    have htables : start.tables = {} := by rw [World.tables, hstart]
    refine ⟨?_, ?_, fun r hr => ?_⟩
    · change start.session.Orderly
      rw [hstart]
      exact .empty
    · change start.session.lasting.users = start.session.working.users
      rw [hstart]
    · change r ∈ start.tables.users at hr
      rw [htables] at hr
      cases hr
  | append_singleton history x ih =>
    simp only [List.forall_mem_append, List.forall_mem_singleton] at hself hhash hdrawn
    have h := ih hself.1 hhash.1 hdrawn.1
    obtain ⟨horderly, hsettled, hcame⟩ := h.turn hself.2 hhash.2 hdrawn.2
    exact ⟨horderly, hsettled, fun r hr => (hcame r hr).traced hr h.traced⟩

end Trace

/-- The passwords that an installation draws are such as can be drawn, and its hasher never fails. -/
theorem Cli.Supply.surroundings_proper (s : Supply) :
    s.surroundings.PlainHasher ∧ s.surroundings.DrawsPasswords := by
  refine ⟨fun password e h => (nomatch h), fun length p h => ?_⟩
  obtain ⟨hpositive, hlength, -⟩ := Credential.random_eq_ok h
  rintro rfl
  rw [String.length_empty] at hlength
  omega

/-- **No linking lets anybody sign in.**  After every history of an installation that began empty
and to which no account was handed over, each account is of one of two kinds.  An account of a
provider may not sign in, has a hash for a password, names its provider and has a login that was
valid when the account entered; an account that somebody registered may sign in exactly if it did
not have to be confirmed then.  And no turn gives the right to sign in to an account that was there
without it. -/
theorem accounts_traced (start : World) (hstart : start.session = {}) (history : List Turn)
    (hself : ∀ x ∈ history, x.operation.SelfServed)
    (hhash : ∀ x ∈ history, x.service.around.PlainHasher)
    (hdrawn : ∀ x ∈ history, x.service.around.DrawsPasswords) :
    let w := start.through history
    w.session.lasting.users = w.tables.users ∧
      (∀ r ∈ w.tables.users, r.fields.type = .oauth ∨ r.fields.type = .user) ∧
      (∀ r ∈ w.tables.users, r.fields.type = .oauth → ProviderAccount start history r) ∧
      (∀ r ∈ w.tables.users, r.fields.type = .user → OwnAccount start history r) ∧
      ∀ (before : List Turn) (x : Turn) (later : List Turn), history = before ++ x :: later →
        ∀ r ∈ (start.through (before ++ [x])).tables.users, r.fields.canLogin = true →
          (∃ r₀ ∈ (start.through before).tables.users,
            r₀.id = r.id ∧ r₀.fields.canLogin = true) ∨
          (∃ form, x.operation = .register form) ∧
            (start.through before).tables.row? r.id = none := by
  intro w
  have h := provenance_through hstart hself hhash hdrawn
  refine ⟨h.settled, fun r hr => ?_, fun r hr htype => ?_, fun r hr htype => ?_, ?_⟩
  · cases h.traced r hr with
    | provider htype => exact .inl htype
    | own htype => exact .inr htype
  · cases h.traced r hr with
    | provider _ h => exact h
    | own htype' => rw [htype] at htype'; cases htype'
  · cases h.traced r hr with
    | provider htype' => rw [htype] at htype'; cases htype'
    | own _ h => exact h
  · rintro before x later rfl r hr hlogin
    simp only [List.forall_mem_append, List.forall_mem_cons] at hself hhash hdrawn
    have hbefore := provenance_through hstart hself.1 hhash.1 hdrawn.1
    obtain ⟨-, -, hcame⟩ := hbefore.turn hself.2.1 hhash.2.1 hdrawn.2.1
    exact (hcame r hr).canLogin hlogin

/-- The passwords of concrete runs have characters. -/
theorem Service.numbered_proper :
    Service.numbered.around.PlainHasher ∧ Service.numbered.around.DrawsPasswords := by
  refine ⟨fun password e h => (nomatch h), fun length p h => ?_⟩
  change Except.ok ("random:" ++ toString length) = .ok p at h
  cases h
  simp

/-- Two people register, the second when accounts have to be confirmed; a third is linked, twice. -/
theorem accounts_traced_after_relinking :
    let carol : Assertion := { uid := "carol", email := some "carol@x.org" }
    let history := [.createGroup ⟨"staff", "Staff", none⟩,
      .configure Policy.Key.selfRegistration.name (some "yes") none,
      .register { login := "alice", password := some "secret" },
      .configure Policy.Key.baseUrl.name (some "https://x.org") none,
      .configure Policy.Key.emailVerification.name (some "yes") none,
      .configure Policy.Key.defaultGroup.name (some "staff") none,
      .register { login := "bruno", password := some "secret" },
      .link carol "google", .link carol "google"].map
        fun operation => ({ service := .numbered, operation } : Turn)
    let w := World.through {} history
    w.tables.users.map (fun r => (r.fields.login, r.fields.canLogin)) =
        [("alice", true), ("bruno", false), ("carol", false)] ∧
      ∀ r ∈ w.tables.users, r.fields.type = .oauth → ProviderAccount {} history r := by
  intro carol history w
  have hself : ∀ x ∈ history, x.operation.SelfServed := by simp [history, Operation.SelfServed]
  have hservice : ∀ x ∈ history, x.service = .numbered := by simp [history]
  have hhash : ∀ x ∈ history, x.service.around.PlainHasher := fun x hx => by
    rw [hservice x hx]
    exact Service.numbered_proper.1
  have hdrawn : ∀ x ∈ history, x.service.around.DrawsPasswords := fun x hx => by
    rw [hservice x hx]
    exact Service.numbered_proper.2
  have h := accounts_traced {} rfl history hself hhash hdrawn
  exact ⟨by decide +kernel, h.2.2.1⟩

end Enrollment
