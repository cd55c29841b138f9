/-
Accounts of different scopes do not interfere.

Two workflows run side by side over tables that agree on one scope, as peers do.  Everything that
they ask is answered alike, the accounts that they store are twins, and a write that is lost in one
is lost in both, so that they go on as peers.  The walks below follow the workflows once, on both
sides at the same time.

* `Registration.registerUser_together`, `Registration.register_together` — registrations of one
  candidate, and of one form;
* `Linking.linkOrCreate_together` — linkings of one assertion, with the attempt after a lost write;
* `scopes_do_not_interfere` — what is given and what is stored, from every two states that can be
  reached and agree on the scope.
-/
import Enrollment.Proofs.NewAccounts
import Enrollment.Proofs.PeerStoring

namespace Enrollment

open Directory

variable {sv sv₁ sv₂ : Service} {v : Tables.View} {members : Bool} {n₁ n₂ : Nat} {t₁ t₂ : Tables}
  {w w' w₁ w₂ : World} {g g' : Sources}

/-! ### Outcomes with twins -/

/-- Two outcomes differ in nothing but what was drawn for their accounts. -/
structure Outcome.Twins (g g' : Sources) (o o' : Outcome) : Prop where
  user : Option.Rel (fun u v : User => Draft.Twins g g' u.toDraft v.toDraft) o.user o'.user
  rejection : o'.rejection = o.rejection
  notificationError : o'.notificationError = o.notificationError

namespace Outcome.Twins

variable {o o' : Outcome}

theorem reject (r : Rejection) : Twins g g' (.reject r) (.reject r) := ⟨.none, rfl, rfl⟩

theorem ok_eq (h : Twins g g' o o') : o'.ok = o.ok := by
  have hisSome : ∀ {x y : Option User} {R : User → User → Prop}, Option.Rel R x y →
      y.isSome = x.isSome := by
    intro x y R h
    cases h <;> rfl
  rw [Outcome.ok, Outcome.ok, hisSome h.user, h.rejection]

end Outcome.Twins

/-- Twins can be built where one of them can. -/
theorem Draft.Twins.build {d d' : Draft} (h : Draft.Twins g g' d d') :
    Matched (fun u v : User => u.toDraft = d ∧ v.toDraft = d') d.build d'.build := by
  have hvalid : d'.Valid = d.Valid := h.congr Draft.Valid fun _ => rfl
  rw [Draft.build, Draft.build]
  by_cases hd : d.Valid
  · rw [dif_pos hd, dif_pos (hvalid ▸ hd)]
    exact .ok ⟨rfl, rfl⟩
  · rw [dif_neg hd, dif_neg (hvalid ▸ hd)]
    exact .error _

/-! ### Registration -/

namespace Registration

variable {candidate : User} {password token : Option String}

/-- What registrations that were begun with ids from the n-th on may draw for an account. -/
def sources (sv : Service) (n : Nat) : Sources := sv.sources n fun s => ∃ m, sv.around.token m = s

/-- Two registrations have come to the same, and policies do not tell their worlds apart. -/
def Same (sv₁ sv₂ : Service) (n₁ n₂ : Nat) (o : Outcome) (w₁ : World) (o' : Outcome) (w₂ : World) :
    Prop :=
  Outcome.Twins (sources sv₁ n₁) (sources sv₂ n₂) o o' ∧ w₁.SamePolicies w₂

theorem turnDown_together (b₁ b₂ : Log.Context) (reason : String) (r : Rejection)
    (hw : World.Peers v sv₁ sv₂ n₁ n₂ t₁ t₂ w₁ w₂) :
    Program.Together sv₁.answer sv₂.answer (turnDown b₁ reason r) w₁ (turnDown b₂ reason r) w₂
      (Same sv₁ sv₂ n₁ n₂) :=
  (Program.alike_log World.steady_peers b₁ b₂ _ _).together_bind hw fun _ _ _ _ _ hw' =>
    Program.together_pure ⟨.reject r, hw'.samePolicies⟩

/-- Twins that have been stored are committed, and the email that is due is accepted or not in
both. -/
theorem complete_together (hsite : sv₂.site = sv₁.site) (b₁ b₂ : Log.Context)
    (token₁ token₂ : String) (confirm : Bool) {v₁ v₂ : User}
    (htwins : Draft.Twins (sources sv₁ n₁) (sources sv₂ n₂) v₁.toDraft v₂.toDraft)
    (hid₁ : v₁.id.isSome = true) (hid₂ : v₂.id.isSome = true) (hopen : w₁.isOpen = true)
    (hstaged₁ : w₁.session.staged = []) (hstaged₂ : w₂.session.staged = [])
    (hw : w₁.SamePolicies w₂) :
    Program.Together sv₁.answer sv₂.answer (complete b₁ candidate token₁ confirm (some v₁)) w₁
      (complete b₂ candidate token₂ confirm (some v₂)) w₂ (Same sv₁ sv₂ n₁ n₂) := by
  have hgiven : ∀ (problem : Option String) (w₁ w₂ : World), w₁.SamePolicies w₂ →
      Same sv₁ sv₂ n₁ n₂ { user := some v₁, notificationError := problem } w₁
        { user := some v₂, notificationError := problem } w₂ :=
    fun problem w₁ w₂ hw => ⟨⟨.some htwins, rfl, rfl⟩, hw⟩
  have hsome₁ : ¬ v₁.id.isNone = true := by simp [Option.isSome_iff_ne_none.mp hid₁]
  have hsome₂ : ¬ v₂.id.isNone = true := by simp [Option.isSome_iff_ne_none.mp hid₂]
  rw [complete, complete, if_neg hsome₁, if_neg hsome₂]
  refine Program.together_commit_bind hw hopen hstaged₁ hstaged₂ fun w₁ w₂ hw => ?_
  refine (Program.alike_log World.steady_samePolicies b₁ b₂ _ _).together_bind hw
    fun _ _ w₁ w₂ _ hw => ?_
  by_cases hdue : emailDue candidate = true
  · rw [if_pos hdue, if_pos hdue]
    refine (Program.together_sendNotice hsite hw b₁ b₂ v₁ v₂ token₁ token₂ confirm confirm).bind ?_
    rintro problem w₁ _ w₂ ⟨rfl, hw⟩
    exact Program.together_pure (hgiven _ _ _ hw)
  · rw [if_neg hdue, if_neg hdue]
    exact Program.together_pure (hgiven _ _ _ hw)

/-- What is stored for one candidate differs in its token only. -/
theorem toStore_twins {token₁ token₂ : String} (confirm : Bool)
    (htoken : Drawn (sources sv₁ n₁).token (sources sv₂ n₂).token (some token₁) (some token₂)) :
    Draft.Twins (sources sv₁ n₁) (sources sv₂ n₂) (toStore candidate token₁ confirm)
      (toStore candidate token₂ confirm) := by
  cases confirm <;>
    exact ⟨.same _, .same _, htoken, .same _, .same _, .same _, rfl⟩

/-- How storing twins ends, the runs end. -/
theorem stored_together (hsite : sv₂.site = sv₁.site) (b₁ b₂ : Log.Context)
    (token₁ token₂ : String) (confirm : Bool) (r₁ : Except Failure (Option User)) (w₁ : World)
    (r₂ : Except Failure (Option User)) (w₂ : World)
    (h : World.Persisted v sv₁ sv₂ n₁ n₂ (sources sv₁ n₁) (sources sv₂ n₂) r₁ w₁ r₂ w₂) :
    Program.Together sv₁.answer sv₂.answer (answered b₁ candidate token₁ confirm r₁) w₁
      (answered b₂ candidate token₂ confirm r₂) w₂ (Same sv₁ sv₂ n₁ n₂) := by
  cases h with
  | stored htwins hid₁ hid₂ hopen hstaged₁ hstaged₂ hw =>
    exact complete_together hsite b₁ b₂ token₁ token₂ confirm htwins hid₁ hid₂ hopen hstaged₁
      hstaged₂ hw
  | @lost field _ _ _ _ _ hw =>
    exact (Program.alike_log World.steady_peers b₁ b₂ _ _).together_bind hw fun _ _ _ _ _ hw =>
      Program.together_pure ⟨.reject _, hw.samePolicies⟩
  | @refused e _ _ he =>
    cases e with
    | duplicate field message => exact absurd rfl (he field message)
    | _ => exact Program.together_fail _

/-- However the tokens were come by, the rest is the same. -/
theorem storeAs_together (halike : sv₁.Alike sv₂) (b₁ b₂ : Log.Context) (hnew : candidate.id = none)
    {token₁ token₂ : String}
    (htoken : Drawn (sources sv₁ n₁).token (sources sv₂ n₂).token (some token₁) (some token₂))
    (hw : World.Peers ⟨scopeOf candidate, members⟩ sv₁ sv₂ n₁ n₂ t₁ t₂ w₁ w₂) :
    Program.Together sv₁.answer sv₂.answer (storeAs sv₁.site b₁ candidate password token₁) w₁
      (storeAs sv₁.site b₂ candidate password token₂) w₂ (Same sv₁ sv₂ n₁ n₂) := by
  refine (Program.alike_confirmationRequired World.steady_peers b₁ b₂
    sv₁.site).together_bind_eq hw fun confirm w₁ w₂ hw => ?_
  have htwins : Draft.Twins (sources sv₁ n₁) (sources sv₂ n₂)
      (toStore candidate token₁ confirm) (toStore candidate token₂ confirm) :=
    toStore_twins confirm htoken
  refine Program.together_ofExcept_bind htwins.build ?_
  rintro u₁ u₂ ⟨hu₁, hu₂⟩
  rw [← hu₁, ← hu₂] at htwins
  have hkeys₁ := toStore_sameKeys candidate token₁ confirm
  have hkeys₂ := toStore_sameKeys candidate token₂ confirm
  rw [← hu₁] at hkeys₁
  rw [← hu₂] at hkeys₂
  have hplaced : Session.Placed t₁ t₂ (sv₁.clerk w₁) (sv₂.clerk w₂) u₁ u₂ none :=
    hw.placed_new hkeys₁.type (congrArg filled hkeys₁.domain) (hkeys₁.id.trans hnew)
      (hkeys₂.id.trans hnew)
  refine (hw.persisted halike hplaced htwins (halike.drawn_filled password) none).bind ?_
  exact stored_together halike.site b₁ b₂ token₁ token₂ confirm

theorem store_together (halike : sv₁.Alike sv₂) (b₁ b₂ : Log.Context) (hnew : candidate.id = none)
    (hw : World.Peers ⟨scopeOf candidate, members⟩ sv₁ sv₂ n₁ n₂ t₁ t₂ w₁ w₂) :
    Program.Together sv₁.answer sv₂.answer (store sv₁.site b₁ candidate password token) w₁
      (store sv₁.site b₂ candidate password token) w₂ (Same sv₁ sv₂ n₁ n₂) := by
  rw [store_eq, store_eq]
  split
  · exact storeAs_together halike b₁ b₂ hnew (.same _) hw
  · refine (Program.alike_freshToken World.steady_peers).together_bind hw ?_
    rintro token₁ token₂ w₁ w₂ ⟨h₁, h₂⟩ hw
    exact storeAs_together halike b₁ b₂ hnew (.anew h₁ h₂) hw

/-- **The steps of a registration**, side by side. -/
theorem steps_together (halike : sv₁.Alike sv₂) (b₁ b₂ : Log.Context) (hnew : candidate.id = none)
    (hw : World.Peers ⟨scopeOf candidate, members⟩ sv₁ sv₂ n₁ n₂ t₁ t₂ w₁ w₂) :
    Program.Together sv₁.answer sv₂.answer (steps sv₁.site b₁ candidate password token) w₁
      (steps sv₁.site b₂ candidate password token) w₂ (Same sv₁ sv₂ n₁ n₂) := by
  rw [steps, steps]
  refine (Program.alike_readWhole World.steady_peers b₁ b₂ _ _ _).together_bind_eq hw
    fun minimum w₁ w₂ hw => ?_
  by_cases hlong : Login.isLongEnough minimum candidate.login = true
  · rw [if_neg (by simp [hlong]), if_neg (by simp [hlong])]
    refine (Program.alike_loginFree _ _).together_bind_eq hw fun loginFree w₁ w₂ hw => ?_
    refine (Program.alike_emailFree _ _).together_bind_eq hw fun emailFree w₁ w₂ hw => ?_
    cases loginFree with
    | false => exact turnDown_together b₁ b₂ _ _ hw
    | true =>
      cases emailFree with
      | false => exact turnDown_together b₁ b₂ _ _ hw
      | true => exact store_together halike b₁ b₂ hnew hw
  · rw [if_pos (by simpa using hlong), if_pos (by simpa using hlong)]
    exact turnDown_together b₁ b₂ _ _ hw

/-- **Registrations of one candidate** come to the same in peers. -/
theorem registerUser_together (halike : sv₁.Alike sv₂) (outer₁ outer₂ : Log.Context)
    (hnew : candidate.id = none)
    (hw : World.Peers ⟨scopeOf candidate, members⟩ sv₁ sv₂ n₁ n₂ t₁ t₂ w₁ w₂) :
    Program.Together sv₁.answer sv₂.answer
      (registerUser sv₁.site outer₁ candidate password token) w₁
      (registerUser sv₁.site outer₂ candidate password token) w₂ (Same sv₁ sv₂ n₁ n₂) := by
  refine Program.together_within World.steady_peers hw _ _ _ _ _ _ fun b₁ b₂ w₁ w₂ hw => ?_
  exact (steps_together halike b₁ b₂ hnew hw).recover (fun _ _ _ _ h => h) fun e w₁ w₂ =>
    Program.together_wrapFailure b₁ b₂ _ _ e w₁ w₂

/-! ### Self-service -/

variable {form : Form}

/-- The account of a form can always be put together. -/
theorem Form.build (form : Form) (locale : Locale.Resolved) (group : Option Group) :
    ∃ candidate : User, (form.draft locale group).build = .ok candidate ∧
      candidate.toDraft = form.draft locale group :=
  ⟨⟨_, form.draft_valid locale group⟩, dif_pos _, rfl⟩

theorem Form.scopeOf_draft {locale : Locale.Resolved} {group : Option Group}
    (hcandidate : candidate.toDraft = form.draft locale group) :
    scopeOf candidate = ⟨.user, none⟩ := by
  have hkeys := form.draft_sameKeys locale group
  have hexternal : candidate.externalType = none := by
    rw [hcandidate]
    cases group <;> rfl
  rw [scopeOf, storedType, hexternal, if_neg (by decide), hcandidate, hkeys.type, hkeys.domain]

/-- What is reported of twins is the same: the policy is asked again, and answers alike. -/
theorem announced_together (b₁ b₂ : Log.Context) {o o' : Outcome}
    (h : Same sv₁ sv₂ n₁ n₂ o w₁ o' w₂) :
    Program.Together sv₁.answer sv₂.answer (announce sv₁.site b₁ o) w₁ (announce sv₁.site b₂ o') w₂
      fun o _ o' _ => Outcome.Twins (sources sv₁ n₁) (sources sv₂ n₂) o o' := by
  obtain ⟨htwins, hw⟩ := h
  have hok : o'.ok = o.ok := htwins.ok_eq
  rw [announce, announce, hok]
  by_cases ho : o.ok = true
  · rw [if_pos ho, if_pos ho]
    refine (Program.alike_confirmationRequired World.steady_samePolicies b₁ b₂
      sv₁.site).together_bind_eq hw fun confirm w₁ w₂ _ => ?_
    cases confirm with
    | true => exact Program.together_pure ⟨htwins.user, rfl, htwins.notificationError⟩
    | false => exact Program.together_pure htwins
  · rw [if_neg ho, if_neg ho]
    exact Program.together_pure htwins

/-- **The steps of a self-service registration**, side by side. -/
theorem selfSteps_together (halike : sv₁.Alike sv₂) (b₁ b₂ : Log.Context)
    (hw : World.Peers ⟨⟨.user, none⟩, members⟩ sv₁ sv₂ n₁ n₂ t₁ t₂ w₁ w₂) :
    Program.Together sv₁.answer sv₂.answer (selfSteps sv₁.site b₁ form) w₁
      (selfSteps sv₁.site b₂ form) w₂
      fun o _ o' _ => Outcome.Twins (sources sv₁ n₁) (sources sv₂ n₂) o o' := by
  rw [selfSteps, selfSteps]
  refine (Program.alike_readFlag World.steady_peers b₁ b₂ _ _).together_bind_eq hw
    fun allowed w₁ w₂ hw => ?_
  cases allowed with
  | false =>
    exact (Program.alike_log World.steady_peers b₁ b₂ _ _).together_bind hw fun _ _ _ _ _ _ =>
      Program.together_pure (.reject _)
  | true =>
    refine (Program.alike_resolver World.steady_peers b₁ b₂ sv₁.site).together_bind_eq hw
      fun resolver w₁ w₂ hw => ?_
    refine (Program.alike_defaultGroup sv₁.site).together_bind_eq hw fun group w₁ w₂ hw => ?_
    obtain ⟨candidate, hbuild, hcandidate⟩ :=
      form.build (resolver.resolve form.timezone form.languageId) group
    rw [hbuild]
    have hnew : candidate.id = none := by
      rw [hcandidate]
      exact (form.draft_sameKeys _ group).id
    rw [← Form.scopeOf_draft hcandidate] at hw
    refine (registerUser_together halike b₁ b₂ hnew hw).bind fun o w₁ o' w₂ h => ?_
    exact announced_together b₁ b₂ h

/-- **Self-service registrations with one form** come to the same in peers. -/
theorem register_together (halike : sv₁.Alike sv₂) (outer₁ outer₂ : Log.Context)
    (hw : World.Peers ⟨⟨.user, none⟩, members⟩ sv₁ sv₂ n₁ n₂ t₁ t₂ w₁ w₂) :
    Program.Together sv₁.answer sv₂.answer (register sv₁.site outer₁ form) w₁
      (register sv₂.site outer₂ form) w₂
      fun o _ o' _ => Option.Rel (Outcome.Twins (sources sv₁ n₁) (sources sv₂ n₂)) o o' := by
  rw [halike.site]
  refine Program.together_within World.steady_peers hw _ _ _ _ _ _ fun b₁ b₂ w₁ w₂ hw => ?_
  have hsteps : Program.Together sv₁.answer sv₂.answer
      (do return some (← selfSteps sv₁.site b₁ form)) w₁
      (do return some (← selfSteps sv₁.site b₂ form)) w₂
      fun o _ o' _ => Option.Rel (Outcome.Twins (sources sv₁ n₁) (sources sv₂ n₂)) o o' :=
    (selfSteps_together halike b₁ b₂ hw).bind fun _ _ _ _ h => Program.together_pure (.some h)
  exact hsteps.recover (fun _ _ _ _ h => h) fun e w₁ w₂ => .ok .none

end Registration

/-! ### Linking -/

namespace Linking

variable {a : Assertion} {provider : String}

/-- What linkings that were begun with ids from the n-th on may draw for an account: they draw no
token. -/
def sources (sv : Service) (n : Nat) : Sources := sv.sources n fun _ => False

/-- The outcome of one linking is that of the other one, but for what was drawn. -/
def Same (sv₁ sv₂ : Service) (n₁ n₂ : Nat) (o : Outcome) (_ : World) (o' : Outcome) (_ : World) :
    Prop :=
  Outcome.Twins (sources sv₁ n₁) (sources sv₂ n₂) o o'

/-- What may be tried after a lost write comes to the same in peers. -/
def Again (provider : String) (sv₁ sv₂ : Service) (n₁ n₂ : Nat) :
    Option (Program Outcome) → Option (Program Outcome) → Prop :=
  Option.Rel fun p₁ p₂ => ∀ t₁ t₂ w₁ w₂,
    World.Peers ⟨scope provider, true⟩ sv₁ sv₂ n₁ n₂ t₁ t₂ w₁ w₂ →
    Program.Together sv₁.answer sv₂.answer p₁ w₁ p₂ w₂ (Same sv₁ sv₂ n₁ n₂)

theorem reject_together (b₁ b₂ : Log.Context) (e : Log.Event) (r : Rejection)
    (hw : World.Peers v sv₁ sv₂ n₁ n₂ t₁ t₂ w₁ w₂) :
    Program.Together sv₁.answer sv₂.answer
      (do Program.log b₁ e; return .reject r) w₁ (do Program.log b₂ e; return .reject r) w₂
      (Same sv₁ sv₂ n₁ n₂) :=
  (Program.alike_log World.steady_peers b₁ b₂ _ _).together_bind hw fun _ _ _ _ _ _ =>
    Program.together_pure (.reject r)

/-- The account to begin with is one and the same in both. -/
theorem alike_baseDraft (site : Installation) (a : Assertion) (provider : String)
    (resolver : Locale.Resolver) (existing : Option User) :
    Program.Alike sv₁ sv₂ (World.Peers v sv₁ sv₂ n₁ n₂ t₁ t₂)
      (baseDraft site a provider resolver existing) (baseDraft site a provider resolver existing)
      fun d d' => d = d' ∧ ∃ group, d =
        existing.elim (newDraft a provider (resolver.resolve none none) group) (·.toDraft) := by
  cases existing with
  | some u => exact Program.alike_pure ⟨rfl, none, rfl⟩
  | none =>
    exact (Program.alike_defaultGroup site).bind_eq fun group =>
      Program.alike_pure ⟨rfl, group, rfl⟩

/-- An account with the keys of the one that the assertion belongs to has one place in both. -/
theorem exists_placed (hw : World.Peers ⟨scope provider, true⟩ sv₁ sv₂ n₁ n₂ t₁ t₂ w₁ w₂)
    {existing : Option User} (hfound : t₁.accountByLogin a.uid (scope provider) = .ok existing)
    {base : Draft} {u₁ u₂ : User}
    (hbase : Draft.SameKeys
      (existing.elim
        { login := a.uid, type := .oauth, domain := some provider, email := a.email } (·.toDraft))
      base)
    (hkeys₁ : Draft.SameKeys base u₁.toDraft) (hkeys₂ : Draft.SameKeys base u₂.toDraft) :
    ∃ old, Session.Placed t₁ t₂ (sv₁.clerk w₁) (sv₂.clerk w₂) u₁ u₂ old := by
  have hkeys₁ := hbase.trans hkeys₁
  have hkeys₂ := hbase.trans hkeys₂
  cases existing with
  | none =>
    have hdomain := congrArg filled hkeys₁.domain
    exact ⟨none, hw.placed_new hkeys₁.type hdomain hkeys₁.id hkeys₂.id⟩
  | some u =>
    obtain ⟨r, hr, hscope, -, rfl⟩ := hw.consistent₁.toSound.of_accountByLogin hfound
    obtain ⟨-, htype, hdomain⟩ := Row.inScope_eq_true.mp hscope
    have hdomain' : filled u₁.domain = filled (scope provider).domain := by
      have hsame : u₁.domain = r.fields.domain := hkeys₁.domain
      rw [hsame, hdomain, filled_filled]
    exact ⟨some r, hw.placed_known rfl (hkeys₁.type.trans htype) hdomain' hr hscope hkeys₁.id
      hkeys₂.id⟩

/-- Twins that have been stored are committed in both. -/
theorem complete_together (b₁ b₂ : Log.Context) (created : Bool) {v₁ v₂ : User}
    (htwins : Draft.Twins (sources sv₁ n₁) (sources sv₂ n₂) v₁.toDraft v₂.toDraft)
    (hopen : w₁.isOpen = true) (hstaged₁ : w₁.session.staged = [])
    (hstaged₂ : w₂.session.staged = []) (hw : w₁.SamePolicies w₂) :
    Program.Together sv₁.answer sv₂.answer (complete b₁ created (some v₁)) w₁
      (complete b₂ created (some v₂)) w₂ (Same sv₁ sv₂ n₁ n₂) := by
  rw [complete, complete]
  refine Program.together_commit_bind hw hopen hstaged₁ hstaged₂ fun w₁ w₂ hw => ?_
  exact (Program.alike_log World.steady_samePolicies b₁ b₂ _ _).together_bind hw
    fun _ _ _ _ _ _ => Program.together_pure ⟨.some htwins, rfl, rfl⟩

/-- A write that was lost in both is followed alike. -/
theorem lost_together (b₁ b₂ : Log.Context) (created : Bool) (field message : String)
    {again₁ again₂ : Option (Program Outcome)}
    (hagain : Again provider sv₁ sv₂ n₁ n₂ again₁ again₂)
    (hw : World.Peers ⟨scope provider, true⟩ sv₁ sv₂ n₁ n₂ t₁ t₂ w₁ w₂) :
    Program.Together sv₁.answer sv₂.answer
      (afterFailure b₁ a created again₁ (.duplicate field message)) w₁
      (afterFailure b₂ a created again₂ (.duplicate field message)) w₂ (Same sv₁ sv₂ n₁ n₂) := by
  cases created with
  | false => cases hagain <;> exact Program.together_fail _
  | true =>
    cases hagain with
    | none => exact Program.together_fail _
    | some hp =>
      exact (Program.alike_log World.steady_peers b₁ b₂ _ _).together_bind hw
        fun _ _ w₁ w₂ _ hw => hp _ _ w₁ w₂ hw

theorem afterFailure_of_ne {bound : Log.Context} {created : Bool}
    {again : Option (Program Outcome)} {e : Failure}
    (he : ∀ field message, e ≠ .duplicate field message) :
    afterFailure bound a created again e = .fail e := by
  unfold afterFailure
  split
  · exact absurd rfl (he _ _)
  · exact absurd rfl (he _ _)
  · rfl

/-- How storing twins ends, the attempts end. -/
theorem stored_together (b₁ b₂ : Log.Context) (created : Bool)
    {again₁ again₂ : Option (Program Outcome)}
    (hagain : Again provider sv₁ sv₂ n₁ n₂ again₁ again₂)
    (r₁ : Except Failure (Option User)) (w₁ : World)
    (r₂ : Except Failure (Option User)) (w₂ : World)
    (h : World.Persisted ⟨scope provider, true⟩ sv₁ sv₂ n₁ n₂ (sources sv₁ n₁) (sources sv₂ n₂)
      r₁ w₁ r₂ w₂) :
    Program.Together sv₁.answer sv₂.answer (answered b₁ a created again₁ r₁) w₁
      (answered b₂ a created again₂ r₂) w₂ (Same sv₁ sv₂ n₁ n₂) := by
  cases h with
  | stored htwins _ _ hopen hstaged₁ hstaged₂ hw =>
    exact complete_together b₁ b₂ created htwins hopen hstaged₁ hstaged₂ hw
  | @lost field message _ _ _ _ hw => exact lost_together b₁ b₂ created field message hagain hw
  | refused he =>
    rw [answered, answered, afterFailure_of_ne he, afterFailure_of_ne he]
    exact Program.together_fail _

/-- **One attempt at linking**, side by side. -/
theorem attempt_together (halike : sv₁.Alike sv₂) (b₁ b₂ : Log.Context)
    {again₁ again₂ : Option (Program Outcome)}
    (hagain : Again provider sv₁ sv₂ n₁ n₂ again₁ again₂)
    (hw : World.Peers ⟨scope provider, true⟩ sv₁ sv₂ n₁ n₂ t₁ t₂ w₁ w₂) :
    Program.Together sv₁.answer sv₂.answer (attempt sv₁.site b₁ a provider again₁) w₁
      (attempt sv₁.site b₂ a provider again₂) w₂ (Same sv₁ sv₂ n₁ n₂) := by
  rw [attempt, attempt]
  refine (Program.alike_readWhole World.steady_peers b₁ b₂ _ _ _).together_bind_eq hw
    fun minimum w₁ w₂ hw => ?_
  by_cases hvalid : Login.isValid minimum a.uid = true
  case neg =>
    rw [if_pos (by simpa using hvalid), if_pos (by simpa using hvalid)]
    exact reject_together b₁ b₂ _ _ hw
  rw [if_neg (by simp [hvalid]), if_neg (by simp [hvalid])]
  refine (Program.alike_accountByLogin rfl a.uid).together_bind hw
    fun existing existing' w₁ w₂ h hw => ?_
  obtain ⟨rfl, hfound⟩ := h
  refine (Program.alike_emailFree _ _).together_bind_eq hw fun emailFree w₁ w₂ hw => ?_
  cases emailFree with
  | false => exact reject_together b₁ b₂ _ _ hw
  | true =>
    refine (Program.alike_resolver World.steady_peers b₁ b₂ sv₁.site).together_bind_eq hw
      fun resolver w₁ w₂ hw => ?_
    refine (alike_baseDraft sv₁.site a provider resolver existing).together_bind hw
      fun base base' w₁ w₂ h hw => ?_
    obtain ⟨rfl, group, hgroup⟩ := h
    have hbase := base_sameKeys a provider existing (resolver.resolve none none) group
    rw [← hgroup] at hbase
    refine (Program.alike_clock World.steady_peers).together_bind hw
      fun now₁ now₂ w₁ w₂ h hw => ?_
    obtain ⟨rfl, rfl⟩ := h
    refine (Program.alike_readWhole World.steady_peers b₁ b₂ _ _ _).together_bind_eq hw
      fun length w₁ w₂ hw => ?_
    refine (Program.alike_randomPassword World.steady_peers halike length).together_bind hw
      fun password₁ password₂ w₁ w₂ hfare hw => ?_
    let tag := resolver.resolveTag? a.locale
    have htwins : Draft.Twins (sources sv₁ n₁) (sources sv₂ n₂)
        { withLocale base tag with lastLogin := some sv₁.around.now }
        { withLocale base tag with lastLogin := some sv₂.around.now } :=
      ⟨.same _, .same _, .same _, .anew (.inl rfl) (.inl rfl), .same _, .same _, rfl⟩
    refine Program.together_ofExcept_bind htwins.build ?_
    rintro u₁ u₂ ⟨hu₁, hu₂⟩
    have hkeys₁ := stamped_sameKeys base tag sv₁.around.now
    have hkeys₂ := stamped_sameKeys base tag sv₂.around.now
    rw [← hu₁] at hkeys₁ htwins
    rw [← hu₂] at hkeys₂ htwins
    obtain ⟨old, hplaced⟩ := exists_placed hw hfound hbase hkeys₁ hkeys₂
    refine (hw.persisted halike hplaced htwins hfare.drawn (some systemActor)).bind ?_
    exact stored_together b₁ b₂ existing.isNone hagain

/-- **The steps of linking**, side by side. -/
theorem steps_together (halike : sv₁.Alike sv₂) (b₁ b₂ : Log.Context) (retries : Nat)
    (hw : World.Peers ⟨scope provider, true⟩ sv₁ sv₂ n₁ n₂ t₁ t₂ w₁ w₂) :
    Program.Together sv₁.answer sv₂.answer (steps sv₁.site b₁ a provider retries) w₁
      (steps sv₁.site b₂ a provider retries) w₂ (Same sv₁ sv₂ n₁ n₂) := by
  -- By induction on how often they may be taken again, for all peers: a lost write changes what the
  -- sessions see.
  induction retries generalizing t₁ t₂ w₁ w₂ with
  | zero => exact attempt_together halike b₁ b₂ .none hw
  | succ retries ih => exact attempt_together halike b₁ b₂ (.some fun _ _ _ _ hw => ih hw) hw

/-- **Linkings of one assertion** come to the same in peers. -/
theorem linkOrCreate_together (halike : sv₁.Alike sv₂) (outer₁ outer₂ : Log.Context)
    (hw : World.Peers ⟨scope provider, true⟩ sv₁ sv₂ n₁ n₂ t₁ t₂ w₁ w₂) :
    Program.Together sv₁.answer sv₂.answer (linkOrCreate sv₁.site outer₁ a provider) w₁
      (linkOrCreate sv₂.site outer₂ a provider) w₂ (Same sv₁ sv₂ n₁ n₂) := by
  rw [halike.site]
  refine Program.together_within World.steady_peers hw _ _ _ _ _ _ fun b₁ b₂ w₁ w₂ hw => ?_
  exact (steps_together halike b₁ b₂ 1 hw).recover (fun _ _ _ _ h => h) fun e w₁ w₂ =>
    Program.together_wrapFailure b₁ b₂ _ _ e w₁ w₂

end Linking

/-! ### What is stored -/

/-- The account that a run has given. -/
def accountGiven : Except Failure (Option Outcome) → Option User
  | .ok (some o) => o.user
  | _ => none

theorem accountGiven_eq_some {r : Except Failure (Option Outcome)} {u : User} :
    accountGiven r = some u ↔ ∃ o, r = .ok (some o) ∧ o.user = some u := by
  rcases r with e | _ | o <;> simp [accountGiven]

/-- What a run has made lasting, by the account that it has given. -/
inductive Directory.Session.Wrote (s : Session) : Option User → Session → Prop where
  | nothing {s' : Session} (h : s'.lasting = s.lasting) : Wrote s none s'
  /-- The account is read back as it was given, and every other one as the session saw it, or as it
  was lasting where a lost write came first. -/
  | account {s₀ s' : Session} {u : User} {id : String} (hleft : s.Left s₀) (hid : u.id = some id)
      (h : s'.lasting.accountById id = some u)
      (hother : ∀ other, other ≠ id →
        s'.lasting.accountById other = s₀.working.accountById other) : Wrote s (some u) s'

theorem Directory.Session.Stored.wrote {s s₀ s₁ s' : Session} {clerk : Session.Clerk} {u v : User}
    {password actor : Option String} (h : Stored s₀ clerk u password actor v s₁)
    (hs : s.staged = []) (hleft : s.Left s₀) (hs' : s'.lasting = s₁.working) :
    s.Wrote (some v) s' := by
  obtain ⟨id, hid, hback⟩ := h.accountById
  refine .account hleft hid (hs'.symm ▸ hback) fun other hother => ?_
  rw [hs']
  refine h.accountById_of_ne (hleft.staged hs) ?_
  rw [hid]
  exact fun hsame => hother (Option.some.inj hsame)

namespace Linking

variable {a : Assertion} {provider : String}

/-- An account that comes with a linking is one that could be used. -/
theorem Ended.ok_of_user {r : Except Failure Outcome} (h : Ended sv a provider w r w') {o : Outcome}
    (hr : r = .ok o) {u : User} (hu : o.user = some u) : o.ok = true := by
  induction h with
  | again _ _ _ _ _ ih => exact ih hr
  | stored =>
    cases hr
    rfl
  | invalidLogin =>
    cases hr
    cases hu
  | emailConflict =>
    cases hr
    cases hu
  | _ => cases hr

/-- What a linking has made lasting is the account that it gives. -/
theorem linkOrCreate_wrote (hs : w.session.staged = []) (hhash : sv.around.PlainHasher)
    (outer : Log.Context) (a : Assertion) (provider : String) :
    (linkOrCreate sv.site outer a provider).Leads sv.answer w fun r w' =>
      w.session.Wrote (accountGiven (r.map some)) w'.session := by
  refine (linkOrCreate_ended sv w outer a provider).mono ?_
  rintro r w' ⟨r₀, w₀, hended, hwrapped⟩
  by_cases hr : Succeeded r
  · obtain ⟨o, rfl, ho, rfl, rfl⟩ := hwrapped.of_succeeded hr
    obtain ⟨w₁, x, u, s, hleft, -, hr', hsession, hstored⟩ := hended.stored_of_ok hs hhash hr
    cases hr'
    exact hstored.wrote hs hleft (congrArg Session.lasting hsession)
  · have hleft := (hended.unstored hs hhash (mt hwrapped.succeeded hr)).wrapped hhash hwrapped
    have hnone : accountGiven (r.map some) = none := by
      cases hr' : r with
      | error e => rfl
      | ok o =>
        refine Option.eq_none_iff_forall_ne_some.mpr fun u hu => hr ?_
        rw [hr']
        exact hended.ok_of_user (hwrapped.eq_ok_iff.mp hr') hu
    rw [hnone]
    exact .nothing hleft.lasting

end Linking

/-- What a self-service registration has made lasting is the account that it gives. -/
theorem Registration.register_wrote (hs : w.session.staged = []) (hhash : sv.around.PlainHasher)
    (outer : Log.Context) (form : Form) :
    (register sv.site outer form).Leads sv.answer w fun r w' =>
      w.session.Wrote (accountGiven r) w'.session := by
  have hleft := register_left hs hhash outer form
  have hstored := register_stored sv w outer form
  rw [Program.Leads] at hleft hstored ⊢
  generalize ((register sv.site outer form).run sv.answer w).1 = r at hleft hstored ⊢
  cases hgiven : accountGiven r with
  | none =>
    refine .nothing (hleft fun hcreated => ?_).lasting
    obtain ⟨o, u, rfl, hu⟩ := hcreated.exists_user
    cases hgiven.symm.trans hu
  | some u =>
    obtain ⟨o, rfl, hu⟩ := accountGiven_eq_some.mp hgiven
    obtain ⟨group, s, x, -, hsession, hstored⟩ := hstored o u rfl hu
    exact hstored.wrote hs .kept (congrArg Session.lasting hsession)

/-! ### Scopes -/

/-- Two sessions agree in a view, in what they see and in what is lasting. -/
structure Directory.Session.AgreeOn (v : Tables.View) (s₁ s₂ : Session) : Prop where
  working : Tables.AgreeOn v s₁.working s₂.working
  lasting : Tables.AgreeOn v s₁.lasting s₂.lasting

/-- The ids that will be drawn are those of no account yet. -/
def World.DrawsFresh (sv : Service) (w : World) : Prop :=
  ∀ n, w.ids ≤ n →
    sv.around.freshId n ∉ w.session.working.ids ∧ sv.around.freshId n ∉ w.session.lasting.ids

/-- Ids are fresh that begin with another character than those of the accounts. -/
theorem World.drawsFresh_of_head {c d : Char} (hne : c ≠ d)
    (hdrawn : ∀ n, (sv.around.freshId n).toList.head? = some c)
    (hids : ∀ id ∈ w.session.working.ids ++ w.session.lasting.ids, id.toList.head? = some d) :
    w.DrawsFresh sv := by
  intro n _
  have hnot : sv.around.freshId n ∉ w.session.working.ids ++ w.session.lasting.ids := by
    intro hmem
    exact hne (Option.some.inj ((hdrawn n).symm.trans (hids _ hmem)))
  exact not_or.mp (mt List.mem_append.mpr hnot)

/-- A state in which runs may begin: it can be reached, nothing waits to be flushed, and the ids to
be drawn are fresh. -/
structure World.Begins (sv : Service) (w : World) : Prop where
  reachable : w.Reachable
  staged : w.session.staged = []
  fresh : w.DrawsFresh sv

theorem World.Begins.ready (h : w.Begins sv) : w.Ready sv w.ids :=
  ⟨h.staged, h.reachable.consistent.2, h.reachable.consistent.1, le_rfl, h.fresh⟩

/-- **Scopes do not interfere.**  Take any two states that can be reached, of two installations that
are alike, whose storage and mail servers behave alike.  If they agree on the accounts of a
provider, then linking an assertion of the provider has one outcome in both, and the account that it
gives, which is the one that it has stored, is one and the same but for ids, hashes and times that
were drawn.  So has a self-service registration, but for its token too, if they agree on the accounts
that people registered themselves.  What other accounts there are, deleted or of other scopes, does
not matter. -/
theorem scopes_do_not_interfere (sv₁ sv₂ : Service) (halike : sv₁.Alike sv₂)
    (outer₁ outer₂ : Log.Context) (w₁ w₂ : World) (hw₁ : w₁.Begins sv₁) (hw₂ : w₂.Begins sv₂)
    (hopen : w₂.isOpen = w₁.isOpen) (hmail : w₂.outbox.answers = w₁.outbox.answers) :
    (∀ assertion provider,
      let run₁ := sv₁.run (Linking.linkOrCreate sv₁.site outer₁ assertion provider) w₁
      let run₂ := sv₂.run (Linking.linkOrCreate sv₂.site outer₂ assertion provider) w₂
      w₁.session.AgreeOn { scope := Linking.scope provider, members := true } w₂.session →
        Matched (Outcome.Twins (Linking.sources sv₁ w₁.ids) (Linking.sources sv₂ w₂.ids))
            run₁.1 run₂.1 ∧
          w₁.session.Wrote (accountGiven (run₁.1.map some)) run₁.2.session ∧
          w₂.session.Wrote (accountGiven (run₂.1.map some)) run₂.2.session) ∧
    (∀ form,
      let run₁ := sv₁.run (Registration.register sv₁.site outer₁ form) w₁
      let run₂ := sv₂.run (Registration.register sv₂.site outer₂ form) w₂
      w₁.session.AgreeOn { scope := ⟨.user, none⟩, members := false } w₂.session →
        Matched (Option.Rel
            (Outcome.Twins (Registration.sources sv₁ w₁.ids) (Registration.sources sv₂ w₂.ids)))
            run₁.1 run₂.1 ∧
          w₁.session.Wrote (accountGiven run₁.1) run₁.2.session ∧
          w₂.session.Wrote (accountGiven run₂.1) run₂.2.session) := by
  have hpeers : ∀ v, w₁.session.AgreeOn v w₂.session →
      World.Peers v sv₁ sv₂ w₁.ids w₂.ids w₁.session.working w₂.session.working w₁ w₂ :=
    fun v h => ⟨hopen, hmail, rfl, rfl, h.working, h.lasting, hw₁.ready, hw₂.ready⟩
  constructor
  · intro assertion provider run₁ run₂ hagree
    refine ⟨?_, ?_, ?_⟩
    · exact (Linking.linkOrCreate_together halike outer₁ outer₂ (hpeers _ hagree)).matched
    · exact Linking.linkOrCreate_wrote hw₁.staged halike.plain₁ outer₁ assertion provider
    · exact Linking.linkOrCreate_wrote hw₂.staged halike.plain₂ outer₂ assertion provider
  · intro form run₁ run₂ hagree
    refine ⟨?_, ?_, ?_⟩
    · exact (Registration.register_together halike outer₁ outer₂ (hpeers _ hagree)).matched
    · exact Registration.register_wrote hw₁.staged halike.plain₁ outer₁ form
    · exact Registration.register_wrote hw₂.staged halike.plain₂ outer₂ form

/-- A login that is taken by a deleted account of the provider, by one of another provider and by a
deleted one of a person is as free as where nobody has it. -/
theorem scopes_do_not_interfere_beside_others :
    let account (login : String) (type : UserType) (domain : Option String) (deleted : Bool)
        (valid : type = .oauth → given domain = true) : User :=
      { login, type, domain, email := some (login ++ "@x.org"), deleted, valid }
    let shared : List Operation :=
      [.configure Policy.Key.selfRegistration.name (some "yes") none,
        .persist (account "bruno" .oauth (some "acme") false (by decide)) none none, .commit]
    let others : List Operation :=
      [.persist (account "alice" .oauth (some "acme") true (by decide)) (some "old") none,
        .persist (account "alice" .oauth (some "globex") false (by decide)) none none,
        .persist (account "alice" .user none true (by decide)) none none, .commit]
    let sv₁ : Service :=
      { around := { Surroundings.numbered with freshId := fun n => "new-" ++ toString n } }
    let sv₂ : Service :=
      { around := { Surroundings.numbered with
          freshId := fun n => "added-" ++ toString n
          hash := fun p => .ok ("salted:" ++ p)
          now := { year := 2025, month := 1, day := 1 } } }
    let w₁ := World.after .numbered shared
    let w₂ := World.after .numbered (shared ++ others)
    let a : Assertion := { uid := "alice", email := some "alice@x.org" }
    let form : Registration.Form := { login := "alice", email := some "alice@x.org" }
    let linked (sv : Service) (w : World) :=
      (sv.run (Linking.linkOrCreate sv.site {} a "acme") w).1
    let registered (sv : Service) (w : World) :=
      (sv.run (Registration.register sv.site {} form) w).1
    w₁.tables.ids.length = 1 ∧ w₂.tables.ids.length = 4 ∧
      (accountGiven ((linked sv₁ w₁).map some)).isSome = true ∧
      Matched (Outcome.Twins (Linking.sources sv₁ 1) (Linking.sources sv₂ 4))
        (linked sv₁ w₁) (linked sv₂ w₂) ∧
      (accountGiven (registered sv₁ w₁)).isSome = true ∧
      Matched (Option.Rel
          (Outcome.Twins (Registration.sources sv₁ 1) (Registration.sources sv₂ 4)))
        (registered sv₁ w₁) (registered sv₂ w₂) := by
  intro account shared others sv₁ sv₂ w₁ w₂ a form linked registered
  have halike : sv₁.Alike sv₂ :=
    ⟨rfl, fun _ => ⟨Iff.rfl, .ok trivial⟩, fun _ => .ok ⟨Iff.rfl, .ok trivial⟩,
      fun _ _ h => (nomatch h), fun _ _ h => (nomatch h)⟩
  have hw₁ : w₁.Begins sv₁ := by
    refine ⟨World.reachable_after _ _, World.staged_after_numbered _, ?_⟩
    exact World.drawsFresh_of_head (show 'n' ≠ 'u' by decide) (fun n => by simp [sv₁])
      (by decide +kernel)
  have hw₂ : w₂.Begins sv₂ := by
    refine ⟨World.reachable_after _ _, by decide +kernel, ?_⟩
    exact World.drawsFresh_of_head (show 'a' ≠ 'u' by decide) (fun n => by simp [sv₂])
      (by decide +kernel)
  have hagree : ∀ v : Tables.View, (∀ r ∈ w₂.tables.users.drop 1, r.inScope v.scope = false) →
      w₁.session.AgreeOn v w₂.session := by
    intro v hothers
    have hworking : w₂.session.working =
        { w₁.session.working with users := w₁.tables.users ++ w₂.tables.users.drop 1 } := by
      decide +kernel
    have hlasting : w₂.session.lasting =
        { w₁.session.lasting with
          users := w₁.session.lasting.users ++ w₂.tables.users.drop 1 } := by
      decide +kernel
    refine ⟨?_, ?_⟩
    · rw [hworking]
      exact .of_others hothers
    · rw [hlasting]
      exact .of_others hothers
  have hids₁ : w₁.ids = 1 := by decide +kernel
  have hids₂ : w₂.ids = 4 := by decide +kernel
  have hmail : w₂.outbox.answers = w₁.outbox.answers := by
    have hfirst : w₂.outbox.answers.first = w₁.outbox.answers.first := by decide +kernel
    have hrest : w₂.outbox.answers.rest = w₁.outbox.answers.rest := by decide +kernel
    have hscript : ∀ s s' : Workflow.Script Bool, s.first = s'.first → s.rest = s'.rest →
        s = s' := by
      rintro ⟨_, _⟩ ⟨_, _⟩ rfl rfl
      rfl
    exact hscript _ _ hfirst hrest
  obtain ⟨hlinking, hregistering⟩ :=
    scopes_do_not_interfere sv₁ sv₂ halike {} {} w₁ w₂ hw₁ hw₂ (by decide +kernel) hmail
  have hlinked := (hlinking a "acme" (hagree _ (by decide +kernel))).1
  have hregistered := (hregistering form (hagree _ (by decide +kernel))).1
  rw [hids₁, hids₂] at hlinked hregistered
  exact ⟨by decide +kernel, by decide +kernel, by decide +kernel, hlinked, by decide +kernel,
    hregistered⟩

end Enrollment
