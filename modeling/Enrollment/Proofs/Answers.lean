/-
Questions whose answers can be read off the tables.

`Program.Answers sv p q` says that the program `p` comes to `q` of the tables while the storage is
open, that it fails while the storage is closed, and that it leaves the storage alone.  The
questions to the directory, all policies, the locale that accounts fall back to and the group that
they join are of this kind; what they come to is a function of the tables, such as
`Tables.loginLength`, `Tables.resolver` and `Tables.defaultGroup`.

* `Answers.bind` — a question goes on with what an open storage answers;
* `Answers.leads_bind`, `Answers.leads_bind_ok` — a workflow goes on with the answer.
-/
import Enrollment.Proofs.Silent

namespace Enrollment

open Directory

variable {α β : Type} {sv : Service} {w : World}

namespace Program

/-- The program comes to what `q` makes of the tables, and changes nothing that is stored. -/
def Answers (sv : Service) (p : Program α) (q : Tables → Except Failure α) : Prop :=
  ∀ w, p.Leads sv.answer w fun r w' => World.SameStorage w w' ∧ r = (w.ask q).1

variable {p : Program α} {q : Tables → Except Failure α}

/-- A question comes first: what follows begins with its answer, and with an open storage. -/
theorem Answers.leads_bind (hp : p.Answers sv q) {k : α → Program β}
    {Q : Except Failure β → World → Prop}
    (hok : ∀ a w', World.SameStorage w w' → w.isOpen = true → q w.tables = .ok a →
      (k a).Leads sv.answer w' Q)
    (herror : ∀ e w', World.SameStorage w w' → w.isOpen = true → q w.tables = .error e →
      Q (.error e) w')
    (hclosed : ∀ w', World.SameStorage w w' → w.isOpen = false → Q (.error .storageClosed) w') :
    (p >>= k).Leads sv.answer w Q := by
  refine (hp w).bind (fun a w' ⟨hw', ha⟩ => ?_) (fun e w' ⟨hw', he⟩ => ?_)
  · obtain ⟨hopen, hq⟩ := World.ask_eq_ok.mp ha.symm
    exact hok a w' hw' hopen hq
  · rcases World.ask_eq_error.mp he.symm with ⟨hopen, rfl⟩ | ⟨hopen, hq⟩
    · exact hclosed w' hw' hopen
    · exact herror e w' hw' hopen hq

/-- A question that always has an answer fails only while the storage is closed. -/
theorem Answers.leads_bind_ok {f : Tables → α} (hp : p.Answers sv fun t => .ok (f t))
    {k : α → Program β} {Q : Except Failure β → World → Prop}
    (hok : ∀ w', World.SameStorage w w' → w.isOpen = true →
      (k (f w.tables)).Leads sv.answer w' Q)
    (hclosed : ∀ w', World.SameStorage w w' → w.isOpen = false → Q (.error .storageClosed) w') :
    (p >>= k).Leads sv.answer w Q := by
  refine hp.leads_bind (fun a w' hw' hopen ha => ?_) (fun e w' _ _ he => ?_) hclosed
  · cases ha
    exact hok w' hw' hopen
  · cases he

/-- A question goes on with what an open storage answers. -/
theorem Answers.bind (hp : p.Answers sv q) {k : α → Program β}
    {f : α → Tables → Except Failure β}
    (hk : ∀ a w, w.isOpen = true →
      (k a).Leads sv.answer w fun r w' => World.SameStorage w w' ∧ r = f a w.tables) :
    (p >>= k).Answers sv fun t => q t >>= fun a => f a t := by
  intro w
  refine hp.leads_bind (fun a w' hw' hopen hq => ?_) (fun e w' hw' hopen hq => ⟨hw', ?_⟩)
    (fun w' hw' hopen => ⟨hw', ?_⟩)
  · refine (hk a w' (hw'.isOpen.trans hopen)).mono fun r w'' ⟨hw'', hr⟩ => ⟨hw'.trans hw'', ?_⟩
    rw [hr, hw'.tables, World.ask_of_open hopen, hq]
    rfl
  · rw [World.ask_of_open hopen, hq]
    rfl
  · exact (World.ask_eq_error.mpr (.inl ⟨hopen, rfl⟩)).symm

/-- A question whose answer is put into another form. -/
theorem Answers.map {f : Tables → α} (hp : p.Answers sv fun t => .ok (f t)) (g : α → β) :
    (p >>= fun a => pure (g a)).Answers sv fun t => .ok (g (f t)) :=
  hp.bind (f := fun a _ => .ok (g a)) fun _ w _ => ⟨.refl w, rfl⟩

/-- A question that is followed by another one. -/
theorem Answers.andThen {f : Tables → α} (hp : p.Answers sv fun t => .ok (f t))
    {k : α → Program β} {g : α → Tables → Except Failure β} (hk : ∀ a, (k a).Answers sv (g a)) :
    (p >>= k).Answers sv fun t => g (f t) t :=
  hp.bind (f := g) fun a w hw => (hk a w).mono fun _ _ ⟨hw', hr⟩ =>
    ⟨hw', hr.trans (World.ask_of_open hw (g a))⟩

/-! ### Questions to the directory -/

theorem answers_configValue (key : String) :
    (Program.configValue key).Answers sv fun t => .ok (t.configuration.value? key) :=
  fun w => leads_perform.mpr ⟨.of_ask w _, rfl⟩

theorem answers_loginFree (login : String) (scope : Scope) (exclude : Option String) :
    (Program.loginFree login scope exclude).Answers sv
      fun t => .ok (t.loginFree login scope exclude) :=
  fun w => leads_perform.mpr ⟨.of_ask w _, rfl⟩

theorem answers_emailFree (email : Option String) (scope : Scope) (exclude : Option String) :
    (Program.emailFree email scope exclude).Answers sv
      fun t => .ok (t.emailFree email scope exclude) :=
  fun w => leads_perform.mpr ⟨.of_ask w _, rfl⟩

theorem answers_accountByLogin (login : String) (scope : Scope) :
    (Program.accountByLogin login scope).Answers sv fun t => t.accountByLogin login scope :=
  fun w => leads_perform.mpr ⟨.of_ask w _, rfl⟩

theorem answers_group (id : String) :
    (Program.group id).Answers sv fun t => .ok (t.group? id) :=
  fun w => leads_perform.mpr ⟨.of_ask w _, rfl⟩

end Program

/-! ### The policies, as the tables have them -/

namespace Directory.Tables

/-- The text stored for a policy. -/
def stored? (t : Tables) (k : Policy.Key) : Option String := t.configuration.value? k.name

/-- The least length of a login. -/
def loginLength (t : Tables) (s : Settings) : Int :=
  (Policy.whole s.minLoginLength (some leastLoginLength) (t.stored? .loginLength)).value

/-- The length of a password that nobody is to know. -/
def passwordLength (t : Tables) (s : Settings) : Int :=
  (Policy.whole s.passwordLength (some leastPasswordLength) (t.stored? .passwordLength)).value

/-- Whether people may register themselves. -/
def selfRegistration (t : Tables) (s : Settings) : Bool :=
  (Policy.flag s.selfRegistration (t.stored? .selfRegistration)).value

/-- Whether new accounts must be confirmed. -/
def confirmationRequired (t : Tables) (s : Settings) : Bool :=
  Policy.baseUrlOf s (t.stored? .baseUrl) ≠ "" &&
    (Policy.flag s.verifyEmail (t.stored? .emailVerification)).value

/-- The resolver with the default language and time zone. -/
def resolver (t : Tables) (site : Installation) : Locale.Resolver where
  catalog := site.catalog
  language :=
    (Policy.whole site.settings.defaultLanguage none (t.stored? .defaultLanguage)).value
  timezone := Policy.textOr site.settings.defaultTimezone
    ((t.stored? .defaultTimezone).or (some site.settings.defaultTimezone))

/-- The group that new accounts join; a group that is configured has to exist. -/
def defaultGroup (t : Tables) (s : Settings) : Except Failure (Option Group) :=
  match ((t.stored? .defaultGroup).or s.defaultGroup).filter (· ≠ "") with
  | none => .ok none
  | some id =>
    match t.group? id with
    | none => .error (Installation.groupMissing id)
    | some g => .ok (some g)

/-! What is stored for the policies is read off the configuration. -/

section Congr

variable {t t' : Tables} (h : t'.configuration = t.configuration)
include h

theorem stored?_congr (k : Policy.Key) : t'.stored? k = t.stored? k := by
  rw [stored?, stored?, h]

theorem loginLength_congr (s : Settings) : t'.loginLength s = t.loginLength s := by
  rw [loginLength, loginLength, stored?_congr h]

theorem passwordLength_congr (s : Settings) : t'.passwordLength s = t.passwordLength s := by
  rw [passwordLength, passwordLength, stored?_congr h]

theorem confirmationRequired_congr (s : Settings) :
    t'.confirmationRequired s = t.confirmationRequired s := by
  rw [confirmationRequired, confirmationRequired, stored?_congr h, stored?_congr h]

theorem resolver_congr (site : Installation) : t'.resolver site = t.resolver site := by
  rw [resolver, resolver, stored?_congr h, stored?_congr h]

end Congr

end Directory.Tables

namespace Program

theorem answers_readFlag (bound : Log.Context) (key : String) (fallback : Bool) :
    (Policy.readFlag bound key fallback).Answers sv
      fun t => .ok (Policy.flag fallback (t.configuration.value? key)).value :=
  (answers_configValue key).bind (f := fun stored _ => .ok (Policy.flag fallback stored).value)
    fun _ w _ => leads_settle bound key _ w

theorem answers_readWhole (bound : Log.Context) (key : String) (fallback : Int)
    (minimum : Option Int) :
    (Policy.readWhole bound key fallback minimum).Answers sv
      fun t => .ok (Policy.whole fallback minimum (t.configuration.value? key)).value :=
  (answers_configValue key).bind
    (f := fun stored _ => .ok (Policy.whole fallback minimum stored).value)
    fun _ w _ => leads_settle bound key _ w

theorem answers_readText (key : String) (fallback : Option String) :
    (Policy.readText key fallback).Answers sv
      fun t => .ok ((t.configuration.value? key).or fallback) :=
  (answers_configValue key).map (·.or fallback)

theorem answers_loginLength (s : Settings) (bound : Log.Context) :
    (Policy.loginLength s bound).Answers sv fun t => .ok (t.loginLength s) :=
  answers_readWhole bound _ _ _

theorem answers_passwordLength (s : Settings) (bound : Log.Context) :
    (Policy.passwordLength s bound).Answers sv fun t => .ok (t.passwordLength s) :=
  answers_readWhole bound _ _ _

theorem answers_selfRegistration (s : Settings) (bound : Log.Context) :
    (Policy.selfRegistration s bound).Answers sv fun t => .ok (t.selfRegistration s) :=
  answers_readFlag bound _ _

theorem answers_confirmationRequired (site : Installation) (bound : Log.Context) :
    (Registration.confirmationRequired site bound).Answers sv
      fun t => .ok (t.confirmationRequired site.settings) := by
  have hurl : (Policy.baseUrl site.settings).Answers sv
      fun t => .ok (Policy.baseUrlOf site.settings (t.stored? .baseUrl)) :=
    (answers_configValue _).map (Policy.baseUrlOf site.settings)
  refine hurl.bind (f := fun url t => .ok (url ≠ "" &&
    (Policy.flag site.settings.verifyEmail (t.stored? .emailVerification)).value)) fun url w hw => ?_
  -- Without a base URL the other policy is not asked for at all.
  by_cases h : url = ""
  · rw [if_pos h, leads_pure]
    exact ⟨.refl w, by simp [h]⟩
  · rw [if_neg h]
    refine (answers_readFlag bound _ _ w).mono fun r w' ⟨hw', hr⟩ => ⟨hw', ?_⟩
    rw [hr, World.ask_of_open hw]
    simp [h, Tables.stored?]

theorem answers_resolver (site : Installation) (bound : Log.Context) :
    (site.resolver bound).Answers sv fun t => .ok (t.resolver site) := by
  refine (answers_readWhole bound _ _ none).andThen
    (g := fun language t => .ok { t.resolver site with language }) fun language => ?_
  have htimezone : (Policy.defaultTimezone site.settings).Answers sv
      fun t => .ok (t.resolver site).timezone :=
    (answers_readText _ _).map (Policy.textOr site.settings.defaultTimezone)
  exact htimezone.map fun timezone => (⟨site.catalog, language, timezone⟩ : Locale.Resolver)

theorem answers_defaultGroup (site : Installation) :
    site.defaultGroup.Answers sv fun t => t.defaultGroup site.settings := by
  have hid : (Policy.defaultGroup site.settings).Answers sv fun t =>
      .ok (((t.stored? .defaultGroup).or site.settings.defaultGroup).filter (· ≠ "")) :=
    (answers_readText _ _).map (·.filter (· ≠ ""))
  refine hid.bind (f := fun id t => match id with
    | none => .ok none
    | some id => match t.group? id with
      | none => .error (Installation.groupMissing id)
      | some g => .ok (some g)) fun id w hw => ?_
  cases id with
  | none => exact ⟨.refl w, rfl⟩
  | some id =>
    refine (answers_group id).leads_bind_ok (fun w' hw' _ => ?_) (fun w' _ hclosed => ?_)
    · cases hgroup : w.tables.group? id with
      | none => exact ⟨hw', by simp only [hgroup]; rfl⟩
      | some g => exact ⟨hw', by simp only [hgroup]; rfl⟩
    · rw [hw] at hclosed
      cases hclosed

end Program
end Enrollment
