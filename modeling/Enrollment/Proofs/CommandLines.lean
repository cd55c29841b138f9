/-
What a command line comes down to.

* `spelled` — the command that the words spell, or why they spell none.
* `run_ends` — a command line runs that command with the settings of its environment, or it leaves
  everything as it was, and then its status is zero only where help or the version is asked for.
* `inSession_committed` — what a command has done and committed lasts.
* `configure_run`, `unset_run`, `createGroup_ends` — what the commands that change the configuration
  and the groups make lasting.
-/
import Enrollment.Cli.Run
import Enrollment.Proofs.ConfigurationMap
import Enrollment.Proofs.Endings

namespace Enrollment

open Directory

variable {sv : Service} {w w' : World} {t : Tables}

/-- A group has an id and a name. -/
theorem Group.make_eq_ok {id name : String} {description : Option String} {g : Group} :
    Group.make id name description = .ok g ↔ id ≠ "" ∧ name ≠ "" ∧ g = ⟨id, name, description⟩ := by
  rw [Group.make]
  split
  · simp [*]
  · split
    · simp [*]
    · simp [*, eq_comm]

namespace Cli

/-! ### Words -/

/-- The command that the words of a command line spell, the answers to questions being in the
input, or why they spell none. -/
def spelled (words : List String) (input : String) : Except Stop Command :=
  match readVerb words (.ofInput input) with
  | (.error stop, _) => .error stop
  | (.ok (_, verb, rest), d) => (verb.read rest d).1

/-- Whether somebody asks for help or for the version. -/
def Stop.Informs : Stop → Prop
  | .help asked => asked = true
  | .version => True
  | _ => False

theorem Ended.ofStop_status {stop : Stop} (h : (ofStop stop).status = 0) : stop.Informs := by
  cases stop with
  | refused => cases h
  | aborted => cases h
  | help asked =>
    cases asked with
    | false => cases h
    | true => rfl
  | version => trivial

/-- **A command line** runs the command that it spells, with the settings of its environment, or it
leaves everything as it was: it spells none, or its environment has no settings.  Then its status is
not zero, unless it asks for help or for the version. -/
theorem run_ends (environment : List (String × String)) (around : Surroundings)
    (words : List String) (input : String) (w : World) :
    let out := run environment around words input w
    (∃ settings command, Settings.read { environment } = .ok settings ∧
      spelled words input = .ok command ∧
      out.1.status = (command.run { site := { settings }, around } w).1.status ∧
      out.2 = (command.run { site := { settings }, around } w).2) ∨
    out.2 = w ∧
      ((∃ stop, spelled words input = .error stop) ∨
        ∃ problems, Settings.read { environment } = .error problems) ∧
      (out.1.status = 0 → ∃ stop, spelled words input = .error stop ∧ stop.Informs) := by
  intro out
  have hout : out = run environment around words input w := rfl
  rw [run] at hout
  rw [spelled]
  cases hverb : readVerb words (.ofInput input) with
  | mk read d =>
    rw [hverb] at hout
    cases read with
    | error stop =>
      rw [hout]
      exact .inr ⟨rfl, .inl ⟨stop, rfl⟩, fun h => ⟨stop, rfl, Ended.ofStop_status h⟩⟩
    | ok found =>
      obtain ⟨level, verb, rest⟩ := found
      cases hsettings : Settings.read { environment } with
      | error problems =>
        simp only [hsettings] at hout
        rw [hout]
        exact .inr ⟨rfl, .inr ⟨problems, rfl⟩, fun h => nomatch h⟩
      | ok settings =>
        simp only [hsettings] at hout
        cases hread : verb.read rest d with
        | mk read d' =>
          rw [hread] at hout
          cases read with
          | error stop =>
            rw [hout]
            have hspelled : (verb.read rest d).1 = .error stop := by rw [hread]
            exact .inr ⟨rfl, .inl ⟨stop, hspelled⟩, fun h =>
              ⟨stop, hspelled, Ended.ofStop_status h⟩⟩
          | ok command =>
            rw [hout]
            have hspelled : (verb.read rest d).1 = .ok command := by rw [hread]
            exact .inl ⟨settings, command, rfl, hspelled, rfl, rfl⟩

/-! ### Work -/

namespace Work

variable {α β : Type}

theorem bind_ok {x : Work α} {f : α → Work β} {a : α} (h : x w = (.ok a, w')) :
    (x >>= f) w = f a w' := by
  change ExceptT.bindCont f (x w).1 (x w).2 = _
  rw [h]
  rfl

theorem bind_error {x : Work α} {f : α → Work β} {e : Failure} (h : x w = (.error e, w')) :
    (x >>= f) w = (.error e, w') := by
  change ExceptT.bindCont f (x w).1 (x w).2 = _
  rw [h]
  rfl

end Work

theorem inSession_ok {work : Work Ended} {e : Ended} (h : work w = (.ok e, w')) :
    inSession work w = (e, w'.rollback) := by
  rw [inSession, h]

theorem inSession_error {work : Work Ended} {e : Failure} (h : work w = (.error e, w')) :
    inSession work w = (.escape (.failure e), w'.rollback) := by
  rw [inSession, h]

/-! ### The commands that change the configuration and the groups -/

section Steps

variable {α : Type} {f : Session → Except Failure α × Session} {a : α} {t' : Tables}
  (hopen : w.isOpen = true)
include hopen

theorem stepped_ok (h : f w.session = (.ok a, { w.session with working := t' })) :
    stepped f w = (.ok a, { w with session := { w.session with working := t' } }) := by
  rw [stepped, World.step_of_open hopen, h]

theorem committed_ok (hs : w.session.staged = []) :
    committed w = (.ok (), { w with session := { w.session with lasting := w.session.working } }) :=
  World.commit_of_flushed hopen hs

/-- A step that is committed lasts. -/
theorem inSession_committed (hs : w.session.staged = [])
    (h : f w.session = (.ok a, { w.session with working := t' })) (e : α → Ended) :
    inSession (do let a ← stepped f; committed; return e a) w =
      (e a, { w with session := { lasting := t' } }) := by
  have hcommit : (committed >>= fun _ => pure (e a) : Work Ended)
      { w with session := { w.session with working := t' } } =
      (.ok (e a), { w with session := { w.session with working := t', lasting := t' } }) :=
    Work.bind_ok (committed_ok hopen hs)
  rw [inSession_ok ((Work.bind_ok (stepped_ok hopen h)).trans hcommit)]
  rfl

end Steps

section Commands

variable (hopen : w.isOpen = true) (hw : w.session = { lasting := t })
include hopen hw

/-- `configure` stores the text under the key. -/
theorem configure_run (key value : String) :
    let description := (Policy.Key.ofName? key).map (·.description)
    inSession (configure key value) w = (.success (key ++ " = " ++ value ++ "\n"),
      { w with session := { lasting :=
        { t with configuration := t.configuration.set key (some value) description } } }) := by
  intro description
  have hs : w.session.staged = [] := by rw [hw]
  have hworking : w.session.working = t := by rw [hw]
  have hstep : w.session.configure key (some value) description =
      (.ok <| Policy.Configuration.entry? (t.configuration.set key (some value) description) key,
        { w.session with working :=
          { t with configuration := t.configuration.set key (some value) description } }) := by
    rw [Session.configure, Session.flushWith_ok hs rfl, hworking]
  exact inSession_committed hopen hs hstep _

/-- `unset` removes the key. -/
theorem unset_run (key : String) :
    ∃ e, e.status = 0 ∧ inSession (unset key) w =
      (e, { w with session := { lasting :=
        { t with configuration := t.configuration.erase key } } }) := by
  have hs : w.session.staged = [] := by rw [hw]
  have hworking : w.session.working = t := by rw [hw]
  cases hentry : t.configuration.entry? key with
  | none =>
    refine ⟨_, ?_, inSession_committed hopen hs (a := false) ?_ _⟩
    · rfl
    · rw [Session.unset_of_absent (hworking ▸ hentry),
        Policy.Configuration.erase_of_absent hentry, ← hworking]
  | some e =>
    refine ⟨_, ?_, inSession_committed hopen hs (a := true) ?_ _⟩
    · rfl
    · rw [Session.unset_of_present (hworking ▸ hentry), Session.flushWith_ok hs rfl, hworking]

/-- The tables with a group added, and the entry that makes it the default if so desired. -/
def withGroup (t : Tables) (g : Group) (makeDefault : Bool) : Tables :=
  let key := Policy.Key.defaultGroup
  { t with
    groups := t.groups ++ [g]
    configuration :=
      if makeDefault then t.configuration.set key.name (some g.id) (some key.description)
      else t.configuration }

/-- What `createGroup` does once there is a group to add. -/
def addition (g : Group) (makeDefault : Bool) : Work Ended := do
  let group ← stepped fun s => s.createGroup g
  if makeDefault then
    let key := Policy.Key.defaultGroup
    let _ ← stepped fun s => s.configure key.name (some group.id) (some key.description)
  committed
  return .success ("Group ID: " ++ group.id ++ "\n")

/-- A group that is refused changes nothing. -/
theorem addition_error {g : Group} {e : Failure} (h : t.addGroup g = .error e)
    (makeDefault : Bool) : addition g makeDefault w = (.error e, w) := by
  have hs : w.session.staged = [] := by rw [hw]
  have hrollback : w.session.rollback = w.session := by rw [hw]; rfl
  have hchange : (do return (g, ← w.session.working.addGroup g) : Except Failure (Group × Tables)) =
      .error e := by
    rw [hw, h]
    rfl
  refine Work.bind_error ?_
  rw [stepped, World.step_of_open hopen, Session.createGroup, Session.flushWith_error hs hchange,
    hrollback]

/-- A group that can be added is there, together with the entry that may name it. -/
theorem addition_ok {g : Group} {t' : Tables} (h : t.addGroup g = .ok t') (makeDefault : Bool) :
    addition g makeDefault w = (.ok (.success ("Group ID: " ++ g.id ++ "\n")), { w with session :=
      { lasting := withGroup t g makeDefault } }) := by
  have hs : w.session.staged = [] := by rw [hw]
  obtain ⟨-, -, rfl⟩ := Tables.addGroup_eq_ok.mp h
  let w₁ : World := { w with session :=
    { lasting := t, working := { t with groups := t.groups ++ [g] } } }
  have hgroup : stepped (fun s => s.createGroup g) w = (.ok g, w₁) := by
    have hchange : (do return (g, ← w.session.working.addGroup g) :
        Except Failure (Group × Tables)) = .ok (g, { t with groups := t.groups ++ [g] }) := by
      rw [hw, h]
      rfl
    rw [stepped_ok hopen (f := fun s => s.createGroup g)
      (by rw [Session.createGroup, Session.flushWith_ok hs hchange]), hw]
  refine (Work.bind_ok hgroup).trans ?_
  cases makeDefault with
  | false => exact Work.bind_ok (committed_ok hopen rfl)
  | true =>
    have hdefault := stepped_ok (w := w₁) hopen
      (f := fun s => s.configure Policy.Key.defaultGroup.name (some g.id)
        (some Policy.Key.defaultGroup.description))
      (Session.flushWith_ok (s := w₁.session) rfl rfl)
    exact (Work.bind_ok hdefault).trans (Work.bind_ok (committed_ok hopen rfl))

/-- `createGroup` adds a group of the name, or it fails and leaves the session as it was.  It fails
where the name is empty or taken. -/
theorem createGroup_ends (sv : Service) (name : String) (description : Option String)
    (makeDefault : Bool) :
    let out := inSession (createGroup sv name description makeDefault) w
    out.2.isOpen = true ∧
      ((out.1.status ≠ 0 ∧ out.2.session = w.session) ∨
        out.1.status = 0 ∧ name ≠ "" ∧ t.groupNamed? name = none ∧
          ∃ id, id ≠ "" ∧ t.group? id = none ∧
            out.2.session = { lasting := withGroup t ⟨id, name, description⟩ makeDefault }) := by
  intro out
  have hrollback : w.session.rollback = w.session := by rw [hw]; rfl
  let w₁ : World := { w with ids := w.ids + 1 }
  have hask : (fun w => w.ask fun t => .ok (t.groupNamed? name) : Work (Option Group)) w =
      (.ok (t.groupNamed? name), w) := by
    change w.ask _ = _
    rw [World.ask, if_pos hopen, World.tables, hw]
  cases hknown : t.groupNamed? name with
  | some g =>
    have hwork : createGroup sv name description makeDefault w =
        (.ok (.failed ("Error: group '" ++ name ++ "' already exists\n")), w) := by
      rw [createGroup, Work.bind_ok hask, hknown]
      rfl
    have hout : out = (_, w.rollback) := inSession_ok hwork
    rw [hout]
    exact ⟨hopen, .inl ⟨Nat.one_ne_zero, hrollback⟩⟩
  | none =>
    -- The name is free: what is left depends on the group that is made under a fresh id.
    have hmade : createGroup sv name description makeDefault w =
        ((Group.make (sv.around.freshId w.ids) name description : Except Failure Group) >>=
          fun g => addition g makeDefault : Work Ended) w₁ := by
      rw [createGroup, Work.bind_ok hask, hknown]
      rfl
    have hfailed : ∀ {e : Failure}, createGroup sv name description makeDefault w = (.error e, w₁) →
        out.2.isOpen = true ∧ out.1.status ≠ 0 ∧ out.2.session = w.session := by
      intro e hwork
      have hout : out = (.escape (.failure e), w₁.rollback) := inSession_error hwork
      rw [hout]
      exact ⟨hopen, Nat.one_ne_zero, hrollback⟩
    cases hmake : Group.make (sv.around.freshId w.ids) name description with
    | error e =>
      obtain ⟨h₁, h₂⟩ := hfailed (hmade.trans (Work.bind_error (by rw [hmake]; rfl)))
      exact ⟨h₁, .inl h₂⟩
    | ok g =>
      have hadded : createGroup sv name description makeDefault w = addition g makeDefault w₁ :=
        hmade.trans (Work.bind_ok (by rw [hmake]; rfl))
      obtain ⟨hid, hname, rfl⟩ := Group.make_eq_ok.mp hmake
      cases hadd : t.addGroup ⟨sv.around.freshId w.ids, name, description⟩ with
      | error e =>
        obtain ⟨h₁, h₂⟩ := hfailed (hadded.trans (addition_error (w := w₁) hopen hw hadd makeDefault))
        exact ⟨h₁, .inl h₂⟩
      | ok t' =>
        have hout := inSession_ok (hadded.trans (addition_ok (w := w₁) hopen hw hadd makeDefault))
        obtain ⟨-, hfree, -⟩ := Tables.addGroup_eq_ok.mp hadd
        change out = _ at hout
        rw [hout]
        exact ⟨hopen, .inr ⟨rfl, hname, rfl, _, hid, hfree, rfl⟩⟩

end Commands

/-! ### The commands that run a workflow -/

/-- What is shown of an outcome is a success where an account came of it, even one that waits for
its confirmation. -/
theorem Ended.ofOutcome_status (o : Option Outcome) :
    (ofOutcome o).status = 0 ↔
      ∃ x, o = some x ∧ (x.rejection = none ∨ x.rejection = some .pendingConfirmation) := by
  cases o with
  | none => exact ⟨fun h => (nomatch h), fun ⟨_, h, _⟩ => (nomatch h)⟩
  | some x =>
    rw [ofOutcome]
    cases hr : x.rejection with
    | none => simp [hr, success]
    | some r => cases r <;> simp [hr, success, failed]

/-- `register` runs the self-service registration, unless messages cannot be sent at all; its status
is that of the outcome. -/
theorem register_ends (sv : Service) (form : Registration.Form) (w : World) :
    let out := inSession (register sv form) w
    let run := sv.run (Registration.register sv.site {} form) w
    out.1.status ≠ 0 ∧ out.2 = w.rollback ∨
      out.2 = run.2.rollback ∧
        (out.1.status = 0 ↔ ∃ o, run.1 = .ok o ∧ (Ended.ofOutcome o).status = 0) := by
  intro out run
  cases hcarrier : Mail.Carrier.ofSettings sv.site.settings with
  | error e =>
    have hout : out = (.escape (.failure e), w.rollback) :=
      inSession_error (Work.bind_error (by rw [hcarrier]; rfl))
    rw [hout]
    exact .inl ⟨Nat.one_ne_zero, rfl⟩
  | ok carrier =>
    have hwork : register sv form w =
        (sv.run (Registration.register sv.site {} form) >>= fun o => pure (.ofOutcome o) :
          Work Ended) w := Work.bind_ok (by rw [hcarrier]; rfl)
    refine .inr ?_
    cases hrun : run with
    | mk r w' =>
      cases r with
      | error e =>
        have hout : out = (.escape (.failure e), w'.rollback) :=
          inSession_error (hwork.trans (Work.bind_error hrun))
        rw [hout]
        exact ⟨rfl, fun h => (nomatch h), fun ⟨_, h, _⟩ => (nomatch h)⟩
      | ok o =>
        have hout : out = (.ofOutcome o, w'.rollback) :=
          inSession_ok (hwork.trans (Work.bind_ok hrun))
        rw [hout]
        exact ⟨rfl, fun h => ⟨o, rfl, h⟩, fun ⟨_, h, hstatus⟩ => by cases h; exact hstatus⟩

theorem link_of_ok {a : Assertion} {provider : String} {o : Outcome}
    (h : sv.run (Linking.linkOrCreate sv.site {} a provider) w = (.ok o, w')) :
    link sv a provider w = (.ok (.ofOutcome (some o)), w') := by
  rw [link, h]

theorem link_of_error {a : Assertion} {provider : String} {e : Failure}
    (h : sv.run (Linking.linkOrCreate sv.site {} a provider) w = (.error e, w')) :
    link sv a provider w = (.ok (.failed ("Error: " ++ e.message ++ "\n")), w') ∨
      link sv a provider w = (.error e, w') := by
  rw [link, h]
  by_cases he : e.isCollaborator = true
  · exact .inl (if_pos he)
  · exact .inr (if_neg he)

/-- `link` runs the linking; its status is that of the outcome. -/
theorem link_ends (sv : Service) (a : Assertion) (provider : String) (w : World) :
    let out := inSession (link sv a provider) w
    let run := sv.run (Linking.linkOrCreate sv.site {} a provider) w
    out.2 = run.2.rollback ∧
      (out.1.status = 0 ↔ ∃ o, run.1 = .ok o ∧ (Ended.ofOutcome (some o)).status = 0) := by
  intro out run
  cases hrun : run with
  | mk r w' =>
    cases r with
    | error e =>
      have hout : out.1.status ≠ 0 ∧ out.2 = w'.rollback := by
        rcases link_of_error hrun with hwork | hwork
        · rw [show out = (_, w'.rollback) from inSession_ok hwork]
          exact ⟨Nat.one_ne_zero, rfl⟩
        · rw [show out = (_, w'.rollback) from inSession_error hwork]
          exact ⟨Nat.one_ne_zero, rfl⟩
      exact ⟨hout.2, fun h => absurd h hout.1, fun ⟨_, h, _⟩ => (nomatch h)⟩
    | ok o =>
      rw [show out = (_, w'.rollback) from inSession_ok (link_of_ok hrun)]
      exact ⟨rfl, fun h => ⟨o, rfl, h⟩, fun ⟨_, h, hstatus⟩ => by cases h; exact hstatus⟩

end Cli
end Enrollment
