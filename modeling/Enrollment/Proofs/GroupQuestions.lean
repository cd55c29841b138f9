/-
Which groups the workflows ask for.

A workflow asks for a group only under the id that it has just read as the default one, so where the
default group exists no question for a group is answered with nothing.

* `AskedByDefault` — the questions for groups are those for the default group;
* `Program.AsksByDefault` — so it is in every run of a program; this is kept by putting programs
  together, and every other call may be made freely;
* `register_asksByDefault`, `linkOrCreate_asksByDefault` — both workflows are of this kind;
* `AsksByDefault.found` — where the default group exists, whatever group is asked for is found.
-/
import Enrollment.Proofs.Answers
import Enrollment.Proofs.Kept
import Enrollment.Proofs.Stages
import Enrollment.Proofs.Transcript

namespace Enrollment

open Directory

variable {α β σ : Type} {h : Handler σ} {s : Settings} {log rest : List Exchange}

/-- What the workflows take as the id of the default group, given what is stored. -/
def Settings.defaultGroupId (s : Settings) (stored : Option String) : Option String :=
  (stored.or s.defaultGroup).filter (· ≠ "")

/-- Whether a call asks for a group. -/
def Call.isGroup : Call → Bool
  | .group _ => true
  | _ => false

/-- Whoever asked for a group has read its id as that of the default group. -/
def AskedByDefault (s : Settings) (log : List Exchange) : Prop :=
  ∀ id reply, ⟨.group id, reply⟩ ∈ log →
    ∃ stored, ⟨.configValue Policy.Key.defaultGroup.name, .ok stored⟩ ∈ log ∧
      s.defaultGroupId stored = some id

theorem AskedByDefault.append (hlog : AskedByDefault s log) (hrest : AskedByDefault s rest) :
    AskedByDefault s (log ++ rest) := by
  intro id reply hmem
  rcases List.mem_append.mp hmem with hmem | hmem
  · obtain ⟨stored, hread, hid⟩ := hlog id reply hmem
    exact ⟨stored, List.mem_append_left _ hread, hid⟩
  · obtain ⟨stored, hread, hid⟩ := hrest id reply hmem
    exact ⟨stored, List.mem_append_right _ hread, hid⟩

theorem askedByDefault_single {c : Call} (hc : c.isGroup = false)
    (reply : Except Failure c.Reply) : AskedByDefault s [⟨c, reply⟩] := by
  intro id reply' hmem
  cases List.mem_singleton.mp hmem
  cases hc

/-- Every call is noted, and any may fail. -/
def everyCall : Watch := ⟨fun _ => true, fun _ => false⟩

namespace Program

variable {p : Program α}

/-- In every run the questions for groups are those for the default group. -/
def AsksByDefault (s : Settings) (p : Program α) : Prop :=
  p.Tells everyCall fun log _ => AskedByDefault s log

theorem AsksByDefault.transcript (hp : p.AsksByDefault s) (h : Handler σ) (a : σ) :
    AskedByDefault s (p.transcript h a) := by
  have hnoted : p.noted everyCall h a = p.transcript h a := List.filter_eq_self.mpr fun _ _ => rfl
  rw [← hnoted]
  exact hp.noted (fun _ _ hcalm => nomatch hcalm) a

theorem asksByDefault_pure (a : α) : (pure a : Program α).AsksByDefault s :=
  fun _ _ hmem => nomatch hmem

theorem asksByDefault_fail (e : Failure) : (fail e : Program α).AsksByDefault s :=
  fun _ _ hmem => nomatch hmem

theorem asksByDefault_ofExcept (r : Except Failure α) : (ofExcept r).AsksByDefault s := by
  cases r with
  | ok a => exact asksByDefault_pure a
  | error e => exact asksByDefault_fail e

/-- Every other call may be made freely. -/
theorem asksByDefault_perform {c : Call} (hc : c.isGroup = false) :
    (perform c).AsksByDefault s := by
  intro r _
  cases r with
  | ok a => exact askedByDefault_single hc _
  | error e => exact askedByDefault_single hc _

theorem AsksByDefault.bind {k : α → Program β} (hp : p.AsksByDefault s)
    (hk : ∀ a, (k a).AsksByDefault s) : (p >>= k).AsksByDefault s :=
  Tells.bind hp (fun _ a hlog => (hk a).mono fun _ _ hrest => hlog.append hrest)
    fun _ _ hlog => hlog

theorem AsksByDefault.recover {handle : Failure → Program α} (hp : p.AsksByDefault s)
    (hh : ∀ e, (handle e).AsksByDefault s) : (p.recover handle).AsksByDefault s :=
  Tells.recover hp (fun _ _ hlog => hlog)
    fun _ e hlog => (hh e).mono fun _ _ hrest => hlog.append hrest

theorem AsksByDefault.perform_outcome {c : Call} (hc : c.isGroup = false)
    {k : Except Failure c.Reply → Program β} (hk : ∀ r, (k r).AsksByDefault s) :
    ((perform c).outcome >>= k).AsksByDefault s :=
  tells_outcome_bind fun r _ => (hk r).mono fun _ _ hrest =>
    (askedByDefault_single hc r).append hrest

/-- Which group is the default one is read off what is stored. -/
theorem policyDefaultGroup_tells (s : Settings) :
    (Policy.defaultGroup s).Tells everyCall fun log r =>
      ∃ reply, log = [⟨.configValue Policy.Key.defaultGroup.name, reply⟩] ∧
        ∀ id, r = .ok (some id) → ∃ stored, reply = .ok stored ∧ s.defaultGroupId stored = some id := by
  rintro (e | stored) -
  · exact ⟨_, rfl, fun id hid => by cases hid⟩
  · exact ⟨_, rfl, fun id hid => ⟨stored, rfl, Except.ok.inj hid⟩⟩

/-- The default group is asked for after its id was read. -/
theorem defaultGroup_asksByDefault (site : Installation) :
    site.defaultGroup.AsksByDefault site.settings := by
  have hread : ∀ reply : Except Failure (Option String),
      AskedByDefault site.settings [⟨.configValue Policy.Key.defaultGroup.name, reply⟩] :=
    askedByDefault_single (c := .configValue Policy.Key.defaultGroup.name) rfl
  refine Tells.bind (policyDefaultGroup_tells site.settings) ?_ ?_
  · rintro _ (_ | id) ⟨reply, rfl, hchosen⟩
    · exact hread _
    obtain ⟨stored, rfl, hid⟩ := hchosen id rfl
    have hasked : ∀ reply, AskedByDefault site.settings
        [⟨.configValue Policy.Key.defaultGroup.name, .ok stored⟩, ⟨.group id, reply⟩] := by
      intro reply id' reply' hmem
      refine ⟨stored, List.mem_cons_self, ?_⟩
      rcases List.mem_cons.mp hmem with hmem | hmem
      · cases hmem
      · cases List.mem_singleton.mp hmem
        exact hid
    rintro (e | _ | g) - <;> exact hasked _
  · rintro _ e ⟨reply, rfl, -⟩
    exact hread _

/-! ### Policies, and what surrounds a workflow -/

theorem asksByDefault_log (bound : Log.Context) (e : Log.Event) :
    (Program.log bound e).AsksByDefault s :=
  asksByDefault_perform rfl

theorem asksByDefault_settle (bound : Log.Context) (key : String) (v : Policy.Verdict α) :
    (v.settle bound key).AsksByDefault s := by
  rw [Policy.Verdict.settle]
  split
  · exact asksByDefault_pure _
  · exact (asksByDefault_log _ _).bind fun _ => asksByDefault_pure _

theorem asksByDefault_configValue (key : String) : (Program.configValue key).AsksByDefault s :=
  asksByDefault_perform rfl

theorem asksByDefault_readFlag (bound : Log.Context) (key : String) (fallback : Bool) :
    (Policy.readFlag bound key fallback).AsksByDefault s :=
  (asksByDefault_configValue key).bind fun _ => asksByDefault_settle _ _ _

theorem asksByDefault_readWhole (bound : Log.Context) (key : String) (fallback : Int)
    (minimum : Option Int) : (Policy.readWhole bound key fallback minimum).AsksByDefault s :=
  (asksByDefault_configValue key).bind fun _ => asksByDefault_settle _ _ _

theorem asksByDefault_resolver (site : Installation) (bound : Log.Context) :
    (site.resolver bound).AsksByDefault s := by
  have htimezone : (Policy.defaultTimezone site.settings).AsksByDefault s :=
    ((asksByDefault_configValue _).bind fun _ => asksByDefault_pure _).bind
      fun _ => asksByDefault_pure _
  exact (asksByDefault_readWhole _ _ _ _).bind fun _ => htimezone.bind fun _ => asksByDefault_pure _

theorem asksByDefault_confirmationRequired (site : Installation) (bound : Log.Context) :
    (Registration.confirmationRequired site bound).AsksByDefault s := by
  have hurl : (Policy.baseUrl site.settings).AsksByDefault s :=
    (asksByDefault_configValue _).bind fun _ => asksByDefault_pure _
  refine hurl.bind fun url => ?_
  split
  · exact asksByDefault_pure _
  · exact asksByDefault_readFlag _ _ _

theorem asksByDefault_within (outer : Log.Context) (workflow : String) (fields : Log.Context)
    {body : Log.Context → Program α} (hbody : ∀ bound, (body bound).AsksByDefault s) :
    (within outer workflow fields body).AsksByDefault s := by
  rw [within]
  split
  · exact hbody _
  · exact (asksByDefault_perform rfl).bind fun _ => hbody _

theorem asksByDefault_wrapFailure (bound : Log.Context) (event purpose : String) (e : Failure) :
    (Registration.wrapFailure bound event purpose e).AsksByDefault s := by
  rw [Registration.wrapFailure]
  split
  · exact asksByDefault_fail _
  · exact (asksByDefault_perform rfl).bind fun _ =>
      (asksByDefault_log _ _).bind fun _ => asksByDefault_fail _

end Program

open Program

/-! ### Registration -/

namespace Registration

variable {candidate : User}

theorem sendNotice_asksByDefault (bound : Log.Context) (user : User) (token : String)
    (confirm : Bool) : (sendNotice bound user token confirm).AsksByDefault s := by
  refine .perform_outcome rfl fun sent => ?_
  match sent with
  | .ok true => exact asksByDefault_pure _
  | .ok false => exact (asksByDefault_log _ _).bind fun _ => asksByDefault_pure _
  | .error e => exact (asksByDefault_log _ _).bind fun _ => asksByDefault_pure _

theorem complete_asksByDefault (bound : Log.Context) (token : String) (confirm : Bool)
    (stored : Option User) :
    (complete bound candidate token confirm stored).AsksByDefault s := by
  have hunidentified : (complete.unidentified bound).AsksByDefault s :=
    (asksByDefault_perform rfl).bind fun _ =>
      (asksByDefault_log _ _).bind fun _ => asksByDefault_pure _
  match stored with
  | none => exact hunidentified
  | some user =>
    rw [complete]
    split
    · exact hunidentified
    · refine (asksByDefault_perform rfl).bind fun _ =>
        (asksByDefault_log _ _).bind fun _ => ?_
      split
      · exact (sendNotice_asksByDefault bound user token confirm).bind fun _ => asksByDefault_pure _
      · exact asksByDefault_pure _

/-- How storing the account is answered, the run goes on. -/
theorem stored_asksByDefault (bound : Log.Context) (token : String) (confirm : Bool) (u : User)
    (password : Option String) :
    ((Program.persist u password none).outcome >>=
      answered bound candidate token confirm).AsksByDefault s := by
  refine .perform_outcome rfl fun reply => ?_
  cases reply with
  | ok back => exact complete_asksByDefault bound token confirm back
  | error e =>
    cases e with
    | duplicate field message => exact (asksByDefault_log _ _).bind fun _ => asksByDefault_pure _
    | _ => exact asksByDefault_fail _

theorem storeAs_asksByDefault (site : Installation) (bound : Log.Context)
    (password : Option String) (token : String) :
    (storeAs site bound candidate password token).AsksByDefault s := by
  refine (asksByDefault_confirmationRequired site bound).bind fun confirm => ?_
  refine (asksByDefault_ofExcept _).bind fun u => ?_
  exact stored_asksByDefault bound token confirm u _

theorem store_asksByDefault (site : Installation) (bound : Log.Context)
    (password token : Option String) :
    (store site bound candidate password token).AsksByDefault s := by
  rw [store_eq]
  split
  · exact storeAs_asksByDefault site bound password _
  · exact (asksByDefault_perform rfl).bind fun drawn =>
      storeAs_asksByDefault site bound password drawn

theorem registerUser_asksByDefault (site : Installation) (outer : Log.Context) (candidate : User)
    (password token : Option String) :
    (registerUser site outer candidate password token).AsksByDefault s := by
  have hturnDown : ∀ bound reason r, (turnDown bound reason r).AsksByDefault s :=
    fun _ _ _ => (asksByDefault_log _ _).bind fun _ => asksByDefault_pure _
  refine asksByDefault_within _ _ _ fun bound => .recover ?_ (asksByDefault_wrapFailure _ _ _)
  refine (asksByDefault_readWhole _ _ _ _).bind fun minimum => ?_
  split
  · exact hturnDown _ _ _
  refine (asksByDefault_perform rfl).bind fun loginFree =>
    (asksByDefault_perform rfl).bind fun emailFree => ?_
  split
  · exact hturnDown _ _ _
  split
  · exact hturnDown _ _ _
  · exact store_asksByDefault site bound password token

/-- **A self-service registration** asks for no other group than the default one. -/
theorem register_asksByDefault (site : Installation) (outer : Log.Context) (form : Form) :
    (register site outer form).AsksByDefault site.settings := by
  refine asksByDefault_within _ _ _ fun bound => .recover (.bind ?_ fun _ => asksByDefault_pure _)
    fun _ => (asksByDefault_log _ _).bind fun _ => asksByDefault_pure _
  refine (asksByDefault_readFlag _ _ _).bind fun allowed => ?_
  split
  · exact (asksByDefault_log _ _).bind fun _ => asksByDefault_pure _
  refine (asksByDefault_resolver site bound).bind fun resolver =>
    (defaultGroup_asksByDefault site).bind fun group => (asksByDefault_ofExcept _).bind
      fun candidate => (registerUser_asksByDefault site _ candidate _ _).bind fun o => ?_
  split
  · refine (asksByDefault_confirmationRequired site bound).bind fun confirm => ?_
    split
    · exact asksByDefault_pure _
    · exact asksByDefault_pure _
  · exact asksByDefault_pure _

end Registration

/-! ### Linking -/

namespace Linking

variable {a : Assertion} {provider : String}

theorem complete_asksByDefault (bound : Log.Context) (created : Bool) (stored : Option User) :
    (complete bound created stored).AsksByDefault s := by
  refine (asksByDefault_perform rfl).bind fun _ => ?_
  cases stored with
  | none => exact asksByDefault_fail _
  | some u => exact (asksByDefault_log _ _).bind fun _ => asksByDefault_pure _

theorem afterFailure_asksByDefault (bound : Log.Context) (created : Bool)
    {again : Option (Program Outcome)} (hagain : ∀ p ∈ again, p.AsksByDefault s) (e : Failure) :
    (afterFailure bound a created again e).AsksByDefault s := by
  unfold afterFailure
  split
  · exact (asksByDefault_log _ _).bind fun _ => hagain _ rfl
  · exact asksByDefault_fail _
  · exact asksByDefault_fail _

theorem attempt_asksByDefault (site : Installation) (bound : Log.Context) (a : Assertion)
    (provider : String) {again : Option (Program Outcome)}
    (hagain : ∀ p ∈ again, p.AsksByDefault site.settings) :
    (attempt site bound a provider again).AsksByDefault site.settings := by
  refine (asksByDefault_readWhole _ _ _ _).bind fun minimum => ?_
  split
  · exact (asksByDefault_log _ _).bind fun _ => asksByDefault_pure _
  refine (asksByDefault_perform rfl).bind fun existing =>
    (asksByDefault_perform rfl).bind fun free => ?_
  split
  · exact (asksByDefault_log _ _).bind fun _ => asksByDefault_pure _
  have hbase : ∀ resolver, (baseDraft site a provider resolver existing).AsksByDefault
      site.settings := by
    intro resolver
    cases existing with
    | some u => exact asksByDefault_pure _
    | none => exact (defaultGroup_asksByDefault site).bind fun _ => asksByDefault_pure _
  refine (asksByDefault_resolver site bound).bind fun resolver => (hbase resolver).bind fun base =>
    (asksByDefault_perform rfl).bind fun now =>
      (asksByDefault_readWhole _ _ _ _).bind fun length =>
        (asksByDefault_perform rfl).bind fun password =>
          (asksByDefault_ofExcept _).bind fun u => .perform_outcome rfl
            fun reply => ?_
  cases reply with
  | ok stored => exact complete_asksByDefault bound _ stored
  | error e => exact afterFailure_asksByDefault bound _ hagain e

/-- **A linking** asks for no other group than the default one. -/
theorem linkOrCreate_asksByDefault (site : Installation) (outer : Log.Context) (a : Assertion)
    (provider : String) : (linkOrCreate site outer a provider).AsksByDefault site.settings := by
  refine asksByDefault_within _ _ _ fun bound => .recover ?_ (asksByDefault_wrapFailure _ _ _)
  have hlast : (steps site bound a provider 0).AsksByDefault site.settings :=
    attempt_asksByDefault site bound a provider (by simp)
  exact attempt_asksByDefault site bound a provider fun p hp => by cases hp; exact hlast

end Linking

/-! ### The answers -/

/-- What was answered was answered in a state of which everything holds that the calls keep. -/
theorem Program.reply_of_mem_transcript_of_kept {I : σ → Prop} (hI : ∀ c a, I a → I (h c a).2)
    {p : Program α} {a : σ} (ha : I a) {x : Exchange} (hx : x ∈ p.transcript h a) :
    ∃ a', I a' ∧ x.reply = (h x.call a').1 := by
  induction p generalizing a with
  | done => cases hx
  | fail => cases hx
  | call c next ih =>
    rcases List.mem_cons.mp hx with rfl | hx
    · exact ⟨a, ha, rfl⟩
    · exact ih _ (hI c a ha) hx

/-- The groups and the configuration. -/
def Directory.Tables.groupsAndConfiguration (t : Tables) : List Group × Policy.Configuration :=
  (t.groups, t.configuration)

theorem Directory.Tables.readsFixed_groupsAndConfiguration :
    Tables.ReadsFixed groupsAndConfiguration :=
  fun _ _ hgroups hconfiguration => by
    rw [groupsAndConfiguration, hgroups, hconfiguration, groupsAndConfiguration]

/-- **Where the default group exists**, whatever group a run asks for is found. -/
theorem Program.AsksByDefault.found {sv : Service} {p : Program α}
    (hp : p.AsksByDefault sv.site.settings) {w : World} {t : Tables}
    (hw : w.session = { lasting := t })
    (ht : ∀ id, sv.site.settings.defaultGroupId (t.stored? .defaultGroup) = some id →
      (t.group? id).isSome = true) (id : String) :
    ⟨.group id, .ok none⟩ ∉ p.transcript sv.answer w := by
  intro hmem
  have hkept : w.session.Kept Tables.groupsAndConfiguration t.groupsAndConfiguration := by
    rw [hw]
    exact ⟨rfl, rfl⟩
  have hreply {x : Exchange} (hx : x ∈ p.transcript sv.answer w) :
      ∃ w', w'.tables.groupsAndConfiguration = t.groupsAndConfiguration ∧
        x.reply = (sv.answer x.call w').1 := by
    obtain ⟨w', hw', hreply⟩ := Program.reply_of_mem_transcript_of_kept
      (sv.answer_kept Tables.readsFixed_groupsAndConfiguration) hkept hx
    exact ⟨w', hw'.working, hreply⟩
  -- The id was read from the stored configuration, which is still what it was …
  obtain ⟨stored, hread, hid⟩ := hp.transcript sv.answer w id _ hmem
  obtain ⟨w₁, hw₁, hstored⟩ := hreply hread
  obtain ⟨-, hstored⟩ := World.ask_eq_ok.mp hstored.symm
  cases hstored
  have hgroup := ht id (by rw [← hid, Tables.stored?, (Prod.mk.inj hw₁).2])
  -- … and so are the groups in which it was looked up.
  obtain ⟨w₂, hw₂, hnone⟩ := hreply hmem
  obtain ⟨-, hnone⟩ := World.ask_eq_ok.mp hnone.symm
  rw [Tables.group?, (Prod.mk.inj hw₂).1] at hnone
  rw [Tables.group?, Except.ok.inj hnone] at hgroup
  cases hgroup

end Enrollment
