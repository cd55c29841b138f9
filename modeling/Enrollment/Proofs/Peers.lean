/-
Two installations whose tables agree on a scope.

Two workflows run side by side, each in a world of its own.  What the worlds have in common is a
relation between them; `Program.Alike` says of two programs that they come to related values and
leave the worlds related.  Questions to the directory and policies are of this kind, whatever block
they are asked from.

* `World.SamePolicies` — the worlds have one configuration, and their mail servers answer alike;
* `World.Peers` — beyond that, the tables agree in a view, and nothing waits to be flushed;
* `alike_confirmationRequired`, `alike_accountByLogin`, … — the questions of the workflows.
-/
import Enrollment.Proofs.Endings
import Enrollment.Proofs.Scopes

namespace Enrollment

open Directory

variable {α β γ δ : Type} {sv sv₁ sv₂ : Service} {v : Tables.View} {n n₁ n₂ : Nat}
  {t₁ t₂ : Tables} {w w' w₁ w₂ w₁' w₂' : World}

/-! ### Worlds that differ in what they have logged -/

/-- Nothing but log lines and the names of tokens and runs differ. -/
structure World.Beside (w w' : World) : Prop extends World.SameStorage w w' where
  outbox : w'.outbox = w.outbox

theorem World.Beside.refl (w : World) : w.Beside w := ⟨.refl w, rfl⟩

/-- Every call but a message and those that change what is stored leaves the world as it was. -/
theorem Service.answer_beside (sv : Service) {c : Call} (hc : c.Silent)
    (hnotify : ∀ notice, c ≠ .notify notice) (w : World) : w.Beside (sv.answer c w).2 := by
  refine ⟨sv.answer_sameStorage hc w, ?_⟩
  cases c with
  | notify notice => exact absurd rfl (hnotify notice)
  | persist user password actor => exact hc.elim
  | commit => exact hc.elim
  | rollback => exact hc.elim
  | freshToken => rfl
  | freshRun => rfl
  | randomPassword length => rfl
  | clock => rfl
  | log event => rfl
  | _ => exact congrArg World.outbox (World.ask_snd w _)

/-! ### What two worlds have in common -/

/-- Two worlds that policies and messages do not tell apart. -/
structure World.SamePolicies (w₁ w₂ : World) : Prop where
  isOpen : w₂.isOpen = w₁.isOpen
  configuration : ∀ key, w₂.tables.configuration.value? key = w₁.tables.configuration.value? key
  mail : w₂.outbox.answers = w₁.outbox.answers

/-- Nothing waits to be flushed, the tables keep their rules, and no account has an id that may be
drawn from the n-th on. -/
structure World.Ready (sv : Service) (n : Nat) (w : World) : Prop where
  staged : w.session.staged = []
  working : w.session.working.Consistent
  lasting : w.session.lasting.Consistent
  ids : n ≤ w.ids
  fresh : ∀ m, n ≤ m → sv.around.freshId m ∉ w.session.working.ids ∧
    sv.around.freshId m ∉ w.session.lasting.ids

/-- Two worlds agree in a view, in what their sessions see, which is `t₁` and `t₂`, and in what is
lasting. -/
structure World.Peers (v : Tables.View) (sv₁ sv₂ : Service) (n₁ n₂ : Nat) (t₁ t₂ : Tables)
    (w₁ w₂ : World) : Prop where
  isOpen : w₂.isOpen = w₁.isOpen
  mail : w₂.outbox.answers = w₁.outbox.answers
  tables₁ : w₁.session.working = t₁
  tables₂ : w₂.session.working = t₂
  working : Tables.AgreeOn v t₁ t₂
  lasting : Tables.AgreeOn v w₁.session.lasting w₂.session.lasting
  ready₁ : w₁.Ready sv₁ n₁
  ready₂ : w₂.Ready sv₂ n₂

/-- A relation between worlds that is kept while both only ask. -/
structure World.Steady (I : World → World → Prop) : Prop where
  policies : ∀ {w₁ w₂}, I w₁ w₂ → w₁.SamePolicies w₂
  beside : ∀ {w₁ w₂ w₁' w₂'}, I w₁ w₂ → w₁.Beside w₁' → w₂.Beside w₂' → I w₁' w₂'

namespace World

theorem steady_samePolicies : Steady SamePolicies where
  policies h := h
  beside {w₁ w₂ w₁' w₂'} h h₁ h₂ := by
    refine ⟨?_, ?_, ?_⟩
    · rw [h₁.isOpen, h₂.isOpen, h.isOpen]
    · rw [h₁.tables, h₂.tables]
      exact h.configuration
    · rw [h₁.outbox, h₂.outbox, h.mail]

theorem Ready.beside (h : w.Ready sv n) (hw : w.Beside w') : w'.Ready sv n where
  staged := hw.session ▸ h.staged
  working := hw.session ▸ h.working
  lasting := hw.session ▸ h.lasting
  ids := hw.ids ▸ h.ids
  fresh := hw.session ▸ h.fresh

theorem Peers.samePolicies (h : Peers v sv₁ sv₂ n₁ n₂ t₁ t₂ w₁ w₂) : w₁.SamePolicies w₂ := by
  refine ⟨h.isOpen, ?_, h.mail⟩
  rw [World.tables, World.tables, h.tables₁, h.tables₂]
  exact h.working.configuration

theorem steady_peers : Steady (Peers v sv₁ sv₂ n₁ n₂ t₁ t₂) where
  policies h := h.samePolicies
  beside {w₁ w₂ w₁' w₂'} h h₁ h₂ := by
    refine ⟨?_, ?_, h₁.session ▸ h.tables₁, h₂.session ▸ h.tables₂, h.working, ?_,
      h.ready₁.beside h₁, h.ready₂.beside h₂⟩
    · rw [h₁.isOpen, h₂.isOpen, h.isOpen]
    · rw [h₁.outbox, h₂.outbox, h.mail]
    · rw [h₁.session, h₂.session]
      exact h.lasting

/-- A question that both tables answer alike is answered alike, or fails since the storage is
closed. -/
theorem ask_matched {R : α → β → Prop} {q₁ : Tables → Except Failure α}
    {q₂ : Tables → Except Failure β} (hopen : w₂.isOpen = w₁.isOpen)
    (hq : Matched R (q₁ w₁.tables) (q₂ w₂.tables)) : Matched R (w₁.ask q₁).1 (w₂.ask q₂).1 := by
  rw [World.ask, World.ask, hopen]
  split
  · exact hq
  · exact .error _

namespace Peers

variable (h : Peers v sv₁ sv₂ n₁ n₂ t₁ t₂ w₁ w₂)
include h

theorem consistent₁ : t₁.Consistent := h.tables₁ ▸ h.ready₁.working

theorem consistent₂ : t₂.Consistent := h.tables₂ ▸ h.ready₂.working

/-- A question is put to the tables that the sessions see. -/
theorem ask_matched {R : α → β → Prop} {q₁ : Tables → Except Failure α}
    {q₂ : Tables → Except Failure β} (hq : Matched R (q₁ t₁) (q₂ t₂)) :
    Matched R (w₁.ask q₁).1 (w₂.ask q₂).1 := by
  refine World.ask_matched h.isOpen ?_
  rw [World.tables, World.tables, h.tables₁, h.tables₂]
  exact hq

end Peers
end World

/-! ### Programs that come to the same side by side -/

namespace Program

variable {I : World → World → Prop} {p₁ : Program α} {p₂ : Program β} {R : α → β → Prop}

/-- From related worlds the two programs come to related values, and leave the worlds related. -/
def Alike (sv₁ sv₂ : Service) (I : World → World → Prop) (p₁ : Program α) (p₂ : Program β)
    (R : α → β → Prop) : Prop :=
  ∀ w₁ w₂, I w₁ w₂ → Together sv₁.answer sv₂.answer p₁ w₁ p₂ w₂
    fun a w₁' b w₂' => R a b ∧ I w₁' w₂'

theorem alike_pure {a : α} {b : β} (h : R a b) : Alike sv₁ sv₂ I (pure a) (pure b) R :=
  fun _ _ hw => together_pure ⟨h, hw⟩

theorem alike_fail (e : Failure) : Alike sv₁ sv₂ I (.fail e) (.fail e) R :=
  fun _ _ _ => together_fail e

theorem Alike.bind {k₁ : α → Program γ} {k₂ : β → Program δ} {S : γ → δ → Prop}
    (hp : Alike sv₁ sv₂ I p₁ p₂ R) (hk : ∀ a b, R a b → Alike sv₁ sv₂ I (k₁ a) (k₂ b) S) :
    Alike sv₁ sv₂ I (p₁ >>= k₁) (p₂ >>= k₂) S :=
  fun w₁ w₂ hw => (hp w₁ w₂ hw).bind fun a _ b _ ⟨hab, hw'⟩ => hk a b hab _ _ hw'

/-- What comes to one value goes on with it on both sides. -/
theorem Alike.bind_eq {p₁ p₂ : Program α} {k₁ : α → Program γ} {k₂ : α → Program δ}
    {S : γ → δ → Prop} (hp : Alike sv₁ sv₂ I p₁ p₂ Eq)
    (hk : ∀ a, Alike sv₁ sv₂ I (k₁ a) (k₂ a) S) : Alike sv₁ sv₂ I (p₁ >>= k₁) (p₂ >>= k₂) S :=
  hp.bind fun a _ hab => hab ▸ hk a

/-- Two programs that ask come first: what follows begins in worlds that are still related. -/
theorem Alike.together_bind {k₁ : α → Program γ} {k₂ : β → Program δ}
    {Q : γ → World → δ → World → Prop} (hp : Alike sv₁ sv₂ I p₁ p₂ R) (hw : I w₁ w₂)
    (hk : ∀ a b w₁' w₂', R a b → I w₁' w₂' →
      Together sv₁.answer sv₂.answer (k₁ a) w₁' (k₂ b) w₂' Q) :
    Together sv₁.answer sv₂.answer (p₁ >>= k₁) w₁ (p₂ >>= k₂) w₂ Q :=
  (hp w₁ w₂ hw).bind fun a _ b _ ⟨hab, hw'⟩ => hk a b _ _ hab hw'

theorem Alike.together_bind_eq {p₁ p₂ : Program α} {k₁ : α → Program γ} {k₂ : α → Program δ}
    {Q : γ → World → δ → World → Prop} (hp : Alike sv₁ sv₂ I p₁ p₂ Eq) (hw : I w₁ w₂)
    (hk : ∀ a w₁' w₂', I w₁' w₂' → Together sv₁.answer sv₂.answer (k₁ a) w₁' (k₂ a) w₂' Q) :
    Together sv₁.answer sv₂.answer (p₁ >>= k₁) w₁ (p₂ >>= k₂) w₂ Q :=
  hp.together_bind hw fun a _ w₁' w₂' hab hw' => hab ▸ hk a w₁' w₂' hw'

/-! ### Calls that leave the worlds as they were -/

theorem alike_perform (hI : World.Steady I) {c₁ c₂ : Call} {R : c₁.Reply → c₂.Reply → Prop}
    (hc₁ : c₁.Silent) (hc₂ : c₂.Silent) (hn₁ : ∀ notice, c₁ ≠ .notify notice)
    (hn₂ : ∀ notice, c₂ ≠ .notify notice)
    (h : ∀ w₁ w₂, I w₁ w₂ → Matched R (sv₁.answer c₁ w₁).1 (sv₂.answer c₂ w₂).1) :
    Alike sv₁ sv₂ I (perform c₁) (perform c₂) R := by
  intro w₁ w₂ hw
  refine together_perform ?_
  have hmatched := h w₁ w₂ hw
  have hw' := hI.beside hw (sv₁.answer_beside hc₁ hn₁ w₁) (sv₂.answer_beside hc₂ hn₂ w₂)
  revert hmatched hw'
  rcases sv₁.answer c₁ w₁ with ⟨r₁, w₁'⟩
  rcases sv₂.answer c₂ w₂ with ⟨r₂, w₂'⟩
  intro hmatched hw'
  cases hmatched with
  | ok hab => exact .ok ⟨hab, hw'⟩
  | error e => exact .error e _ _

theorem alike_log (hI : World.Steady I) (b₁ b₂ : Log.Context) (e₁ e₂ : Log.Event) :
    Alike sv₁ sv₂ I (log b₁ e₁) (log b₂ e₂) fun _ _ => True :=
  alike_perform hI trivial trivial (fun _ h => nomatch h) (fun _ h => nomatch h)
    fun _ _ _ => .ok trivial

theorem alike_configValue (hI : World.Steady I) (key : String) :
    Alike sv₁ sv₂ I (configValue key) (configValue key) Eq := by
  refine alike_perform hI trivial trivial (fun _ h => nomatch h) (fun _ h => nomatch h)
    fun w₁ w₂ hw => ?_
  have hpolicies := hI.policies hw
  exact World.ask_matched hpolicies.isOpen (.ok (hpolicies.configuration key).symm)

/-! ### Policies -/

section Policies

variable (hI : World.Steady I) (b₁ b₂ : Log.Context)
include hI

theorem alike_settle (key : String) (verdict : Policy.Verdict α) :
    Alike sv₁ sv₂ I (verdict.settle b₁ key) (verdict.settle b₂ key) Eq := by
  rw [Policy.Verdict.settle, Policy.Verdict.settle]
  cases verdict.warning with
  | none => exact alike_pure rfl
  | some w => exact (alike_log hI b₁ b₂ _ _).bind fun _ _ _ => alike_pure rfl

theorem alike_readFlag (key : String) (fallback : Bool) :
    Alike sv₁ sv₂ I (Policy.readFlag b₁ key fallback) (Policy.readFlag b₂ key fallback) Eq :=
  (alike_configValue hI key).bind_eq fun _ => alike_settle hI b₁ b₂ key _

theorem alike_readWhole (key : String) (fallback : Int) (minimum : Option Int) :
    Alike sv₁ sv₂ I (Policy.readWhole b₁ key fallback minimum)
      (Policy.readWhole b₂ key fallback minimum) Eq :=
  (alike_configValue hI key).bind_eq fun _ => alike_settle hI b₁ b₂ key _

omit b₁ b₂ in
theorem alike_readText (key : String) (fallback : Option String) :
    Alike sv₁ sv₂ I (Policy.readText key fallback) (Policy.readText key fallback) Eq :=
  (alike_configValue hI key).bind_eq fun _ => alike_pure rfl

theorem alike_confirmationRequired (site : Installation) :
    Alike sv₁ sv₂ I (Registration.confirmationRequired site b₁)
      (Registration.confirmationRequired site b₂) Eq := by
  have hurl : Alike sv₁ sv₂ I (Policy.baseUrl site.settings) (Policy.baseUrl site.settings) Eq :=
    (alike_configValue hI _).bind_eq fun _ => alike_pure rfl
  refine hurl.bind_eq fun url => ?_
  by_cases h : url = ""
  · rw [if_pos h, if_pos h]
    exact alike_pure rfl
  · rw [if_neg h, if_neg h]
    exact alike_readFlag hI b₁ b₂ _ _

theorem alike_resolver (site : Installation) :
    Alike sv₁ sv₂ I (site.resolver b₁) (site.resolver b₂) Eq := by
  refine (alike_readWhole hI b₁ b₂ _ _ none).bind_eq fun language => ?_
  have htimezone : Alike sv₁ sv₂ I (Policy.defaultTimezone site.settings)
      (Policy.defaultTimezone site.settings) Eq :=
    (alike_readText hI _ _).bind_eq fun _ => alike_pure rfl
  exact htimezone.bind_eq fun _ => alike_pure rfl

end Policies

/-! ### Questions to directories that agree on a scope -/

theorem alike_loginFree (login : String) (exclude : Option String) :
    Alike sv₁ sv₂ (World.Peers v sv₁ sv₂ n₁ n₂ t₁ t₂) (loginFree login v.scope exclude)
      (loginFree login v.scope exclude) Eq :=
  alike_perform World.steady_peers trivial trivial (fun _ h => nomatch h) (fun _ h => nomatch h)
    fun _ _ hw => hw.ask_matched (.ok (hw.working.loginFree login exclude).symm)

theorem alike_emailFree (email exclude : Option String) :
    Alike sv₁ sv₂ (World.Peers v sv₁ sv₂ n₁ n₂ t₁ t₂) (emailFree email v.scope exclude)
      (emailFree email v.scope exclude) Eq :=
  alike_perform World.steady_peers trivial trivial (fun _ h => nomatch h) (fun _ h => nomatch h)
    fun _ _ hw => hw.ask_matched (.ok (hw.working.emailFree email exclude).symm)

/-- The account of a login is one and the same account in both. -/
theorem alike_accountByLogin (hv : v.members = true) (login : String) :
    Alike sv₁ sv₂ (World.Peers v sv₁ sv₂ n₁ n₂ t₁ t₂) (accountByLogin login v.scope)
      (accountByLogin login v.scope)
      fun a b => a = b ∧ t₁.accountByLogin login v.scope = .ok a := by
  refine alike_perform World.steady_peers trivial trivial (fun _ h => nomatch h)
    (fun _ h => nomatch h) fun w₁ w₂ hw => hw.ask_matched ?_
  rw [hw.working.accountByLogin hv hw.consistent₁.toSound hw.consistent₂.toSound]
  cases h : t₁.accountByLogin login v.scope with
  | ok a => exact .ok ⟨rfl, rfl⟩
  | error e => exact .error e

theorem alike_defaultGroup (site : Installation) :
    Alike sv₁ sv₂ (World.Peers v sv₁ sv₂ n₁ n₂ t₁ t₂) site.defaultGroup site.defaultGroup Eq := by
  have hid : Alike sv₁ sv₂ (World.Peers v sv₁ sv₂ n₁ n₂ t₁ t₂)
      (Policy.defaultGroup site.settings) (Policy.defaultGroup site.settings) Eq :=
    (alike_readText World.steady_peers _ _).bind_eq fun _ => alike_pure rfl
  refine hid.bind_eq fun id => ?_
  cases id with
  | none => exact alike_pure rfl
  | some id =>
    have hgroup : Alike sv₁ sv₂ (World.Peers v sv₁ sv₂ n₁ n₂ t₁ t₂) (group id) (group id) Eq :=
      alike_perform World.steady_peers trivial trivial (fun _ h => nomatch h)
        (fun _ h => nomatch h) fun _ _ hw => hw.ask_matched (.ok (hw.working.groups id).symm)
    refine hgroup.bind_eq fun found => ?_
    cases found with
    | none => exact alike_fail _
    | some g => exact alike_pure rfl

end Program

end Enrollment
