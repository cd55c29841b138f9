/-
How a self-service registration ends.

What people reach themselves asks whether it is open at all, puts an account together from what was
entered and what is configured, and hands it to the registration.  An account that must be confirmed
is reported as such, and a failure as nothing.

* `Form.candidate` — the account that a form describes, which can always be built;
* `SelfEnded`, `register_ended` — no run ends in another way than those listed.
-/
import Enrollment.Proofs.Endings
import Enrollment.Proofs.Stages

namespace Enrollment

open Directory

variable {sv : Service} {w w' : World}

namespace Registration

variable {form : Form}

theorem Form.draft_valid (form : Form) (locale : Locale.Resolved) (group : Option Group) :
    (form.draft locale group).Valid := by
  intro htype
  rw [Form.draft, (Draft.SameKeys.join _ group).type] at htype
  cases htype

/-- The account of a form has the keys that were entered. -/
theorem Form.draft_sameKeys (form : Form) (locale : Locale.Resolved) (group : Option Group) :
    Draft.SameKeys { login := form.login, email := form.email } (form.draft locale group) := by
  refine Draft.SameKeys.trans ?_ (Draft.SameKeys.join _ group)
  exact ⟨rfl, rfl, rfl, rfl, rfl, rfl⟩

/-- The account that a form describes where the tables are as they are. -/
def Form.candidate (form : Form) (site : Installation) (t : Tables) (group : Option Group) :
    User where
  toDraft := form.draft ((t.resolver site).resolve form.timezone form.languageId) group
  valid := form.draft_valid _ group

/-! ### The account of a form -/

section Candidate

variable {site : Installation} {t : Tables} {group : Option Group}

theorem Form.candidate_sameKeys (form : Form) (site : Installation) (t : Tables)
    (group : Option Group) :
    Draft.SameKeys { login := form.login, email := form.email }
      (form.candidate site t group).toDraft :=
  form.draft_sameKeys _ group

theorem Form.candidate_language :
    (form.candidate site t group).languageId =
      some ((t.resolver site).languageId form.languageId) := by
  cases group <;> rfl

theorem Form.candidate_groups :
    (form.candidate site t group).groupIds = group.toList.map (·.id) := by
  cases group <;> rfl

/-- People's own accounts are not those of an integration. -/
theorem Form.storedType_candidate : storedType (form.candidate site t group) = .user := by
  have hexternal : (form.candidate site t group).externalType = none := by cases group <;> rfl
  rw [storedType, hexternal, if_neg (by decide)]
  exact (form.candidate_sameKeys site t group).type

end Candidate

/-! ### Endings -/

/-- What is reported of a registration, where accounts must be confirmed or need not be. -/
def announced (confirm : Bool) (o : Outcome) : Outcome :=
  if o.ok && confirm then asPending o else o

@[simp] theorem announced_user (confirm : Bool) (o : Outcome) :
    (announced confirm o).user = o.user := by
  rw [announced]
  split
  · rfl
  · rfl

@[simp] theorem announced_notificationError (confirm : Bool) (o : Outcome) :
    (announced confirm o).notificationError = o.notificationError := by
  rw [announced]
  split
  · rfl
  · rfl

/-- How the steps of a self-service registration can end. -/
inductive SelfEnded (sv : Service) (w : World) (form : Form) :
    Except Failure Outcome → World → Prop where
  | closed {w' : World} (hw : World.SameStorage w w') (hclosed : w.isOpen = false) :
    SelfEnded sv w form (.error .storageClosed) w'
  | disabled {w' : World} (hw : World.SameStorage w w')
      (hdisabled : w.tables.selfRegistration sv.site.settings = false) :
    SelfEnded sv w form (.ok (.reject .registrationDisabled)) w'
  /-- The configured default group does not exist. -/
  | groupMissing {w' : World} {e : Failure} (hw : World.SameStorage w w')
      (hallowed : w.tables.selfRegistration sv.site.settings = true)
      (hgroup : w.tables.defaultGroup sv.site.settings = .error e) :
    SelfEnded sv w form (.error e) w'
  /-- The account was handed to the registration. -/
  | registered {w₀ w₁ w' : World} {group : Option Group} {r₀ r : Except Failure Outcome}
      (hallowed : w.tables.selfRegistration sv.site.settings = true)
      (hgroup : w.tables.defaultGroup sv.site.settings = .ok group)
      (h : Ended sv w (form.candidate sv.site w.tables group) form.password none r₀ w₀)
      (hwrapped : Wrapped r₀ w₀ r w₁) (hw : World.SameStorage w₁ w') :
    SelfEnded sv w form
      (r.map (announced (w.tables.confirmationRequired sv.site.settings))) w'

/-- A registration that succeeded is reported, and nothing after it fails. -/
theorem announced_leads (bound : Log.Context) {candidate : User} {password token : Option String}
    {o : Outcome} (h : Ended sv w candidate password token (.ok o) w') :
    (announce sv.site bound o).Leads sv.answer w' fun r w'' =>
      World.SameStorage w' w'' ∧
        r = .ok (announced (w.tables.confirmationRequired sv.site.settings) o) := by
  rw [announce, announced]
  by_cases ho : o.ok = true
  · -- The account has been stored, which left the configuration as it was.
    have hopen : w'.isOpen = true := h.isOpen_of_ok ho
    obtain ⟨x, u, s, -, hsession, hstored⟩ := h.stored_of_ok ho
    have hconfirm : w'.tables.confirmationRequired sv.site.settings =
        w.tables.confirmationRequired sv.site.settings := by
      rw [World.tables, hsession]
      exact Tables.confirmationRequired_congr hstored.keeps.2 _
    rw [if_pos ho, ho, Bool.true_and]
    refine (Program.answers_confirmationRequired sv.site bound).leads_bind_ok
      (fun w'' hw'' _ => ?_) (fun w'' _ hclosed => ?_)
    · rw [hconfirm]
      cases w.tables.confirmationRequired sv.site.settings with
      | true => exact ⟨hw'', rfl⟩
      | false => exact ⟨hw'', rfl⟩
    · rw [hopen] at hclosed
      cases hclosed
  · rw [if_neg ho, if_neg (by simp [ho])]
    exact ⟨.refl w', rfl⟩

/-- **Every run of the steps of a self-service registration** ends in one of the listed ways. -/
theorem selfSteps_ended (bound : Log.Context) {w₁ : World} (same : World.SameStorage w w₁) :
    (selfSteps sv.site bound form).Leads sv.answer w₁ (SelfEnded sv w form) := by
  have hclosed : ∀ w₂ w', World.SameStorage w w₂ → World.SameStorage w₂ w' →
      w₂.isOpen = false → SelfEnded sv w form (.error .storageClosed) w' :=
    fun w₂ w' hw₂ hw' h => .closed (hw₂.trans hw') (hw₂.isOpen ▸ h)
  rw [selfSteps]
  refine (Program.answers_selfRegistration _ bound).leads_bind_ok (fun w₂ hw₂ _ => ?_)
    (hclosed w₁ · same)
  have same₂ := same.trans hw₂
  rw [same.tables]
  by_cases hallowed : w.tables.selfRegistration sv.site.settings = true
  · rw [if_neg (by simp [hallowed])]
    refine (Program.answers_resolver sv.site bound).leads_bind_ok (fun w₃ hw₃ _ => ?_)
      (hclosed w₂ · same₂)
    have same₃ := same₂.trans hw₃
    refine (Program.answers_defaultGroup sv.site).leads_bind (fun group w₄ hw₄ _ hgroup => ?_)
      (fun e w₄ hw₄ _ hgroup => ?_) (hclosed w₃ · same₃)
    · rw [same₃.tables] at hgroup
      rw [same₂.tables]
      have hbuild : (form.draft ((w.tables.resolver sv.site).resolve form.timezone form.languageId)
          group).build = .ok (form.candidate sv.site w.tables group) :=
        Draft.build_eq_ok.mpr rfl
      rw [hbuild]
      refine (registerUser_ended_of_same bound _ form.password none (same₃.trans hw₄)).bind ?_ ?_
      · rintro o w₅ ⟨r₀, w₀, hended, hwrapped⟩
        cases hwrapped
        refine (announced_leads bound hended).mono ?_
        rintro r w' ⟨hw', rfl⟩
        exact .registered hallowed hgroup hended (.ok o) hw'
      · rintro e w₅ ⟨r₀, w₀, hended, hwrapped⟩
        exact .registered hallowed hgroup hended hwrapped (.refl w₅)
    · exact .groupMissing (same₃.trans hw₄) hallowed (same₃.tables ▸ hgroup)
  · rw [if_pos (by simpa using hallowed)]
    exact Program.leads_log_bind _ _ fun w' hw' =>
      .disabled (same₂.trans hw') (by simpa using hallowed)

/-- A self-service registration comes to what its steps came to, and to nothing where they
failed. -/
theorem register_ended (sv : Service) (w : World) (outer : Log.Context) (form : Form) :
    (register sv.site outer form).Leads sv.answer w fun r w' =>
      ∃ r₀ w₀, SelfEnded sv w form r₀ w₀ ∧ r = .ok r₀.toOption ∧ World.SameStorage w₀ w' := by
  refine Program.leads_within _ _ _ fun bound w₁ same => ?_
  have hsteps : (do return some (← selfSteps sv.site bound form) : Program (Option Outcome)).Leads
      sv.answer w₁ fun r w₀ => ∃ r₀, SelfEnded sv w form r₀ w₀ ∧ r = r₀.map some :=
    (selfSteps_ended bound same).bind (fun o w₀ h => ⟨_, h, rfl⟩) (fun e w₀ h => ⟨_, h, rfl⟩)
  refine hsteps.recover ?_ ?_
  · rintro o w₀ ⟨r₀, hended, hr⟩
    cases r₀ with
    | error e => cases hr
    | ok o₀ =>
      cases hr
      exact ⟨_, w₀, hended, rfl, .refl w₀⟩
  · rintro e w₀ ⟨r₀, hended, hr⟩
    cases r₀ with
    | error e₀ => exact Program.leads_log_bind _ _ fun w' hw' => ⟨_, w₀, hended, rfl, hw'⟩
    | ok o => cases hr

end Registration
end Enrollment
