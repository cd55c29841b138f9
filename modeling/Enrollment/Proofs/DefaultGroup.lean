/-
The default group that command lines set always exists.

The id of the default group stands in the configuration, the group among the groups; one command
writes both.

* `Tables.GroupsInOrder` — the default group exists, and no two groups have one name;
* `Command.run_groupsInOrder` — every command keeps this, unless it writes the id of the default
  group by hand;
* `default_group_exists` — so it holds after any uses of the program on an empty database, and no
  registration or linking looks for a group in vain.
-/
import Enrollment.Proofs.CommandLines
import Enrollment.Proofs.GroupQuestions

namespace Enrollment

open Directory

variable {sv : Service} {w : World} {t t' : Tables}

/-! ### The invariant -/

namespace Directory.Tables

/-- The default group exists, and no two groups have one name. -/
structure GroupsInOrder (t : Tables) : Prop where
  default : ∀ id, t.stored? .defaultGroup = some id → (t.group? id).isSome = true
  names : (t.groups.map (·.name)).Nodup

namespace GroupsInOrder

theorem empty : GroupsInOrder {} := ⟨fun _ h => (nomatch h), List.nodup_nil⟩

theorem of_same (ht : t.GroupsInOrder) (hgroups : t'.groups = t.groups)
    (hdefault : t'.stored? .defaultGroup = t.stored? .defaultGroup) : t'.GroupsInOrder where
  default id hid := by
    rw [group?, hgroups]
    exact ht.default id (hdefault ▸ hid)
  names := hgroups ▸ ht.names

variable {key : String} {value description : Option String}

theorem configure (ht : t.GroupsInOrder) (hkey : key ≠ Policy.Key.defaultGroup.name) :
    GroupsInOrder { t with configuration := t.configuration.set key value description } := by
  refine ht.of_same rfl ?_
  rw [stored?, Policy.Configuration.value?, Policy.Configuration.entry?_set, if_neg (Ne.symm hkey)]
  rfl

theorem unset (ht : t.GroupsInOrder) (hkey : key ≠ Policy.Key.defaultGroup.name) :
    GroupsInOrder { t with configuration := t.configuration.erase key } := by
  refine ht.of_same rfl ?_
  rw [stored?, Policy.Configuration.value?, Policy.Configuration.entry?_erase,
    if_neg (Ne.symm hkey)]
  rfl

/-- A group that is added has a name of its own, and may be made the default one. -/
theorem withGroup (ht : t.GroupsInOrder) {g : Group} (hname : t.groupNamed? g.name = none)
    (makeDefault : Bool) : (Cli.withGroup t g makeDefault).GroupsInOrder := by
  have hkept : ∀ id, (t.group? id).isSome = true →
      ((Cli.withGroup t g makeDefault).group? id).isSome = true := by
    intro id h
    rw [Tables.group?, Cli.withGroup, List.find?_append, Option.isSome_or]
    exact Bool.or_eq_true_iff.mpr (.inl h)
  have hnew : ((Cli.withGroup t g makeDefault).group? g.id).isSome = true :=
    List.find?_isSome.mpr ⟨g, by simp [Cli.withGroup], by simp⟩
  refine ⟨fun id hid => ?_, nodup_map_append ht.names fun hmem => ?_⟩
  · cases makeDefault with
    | false => exact hkept id (ht.default id hid)
    | true =>
      have hstored : (Cli.withGroup t g true).stored? .defaultGroup = some g.id := by
        rw [stored?, Cli.withGroup, if_pos rfl, Policy.Configuration.value?,
          Policy.Configuration.entry?_set, if_pos rfl]
        cases t.configuration.entry? Policy.Key.defaultGroup.name <;> rfl
      cases hid.symm.trans hstored
      exact hnew
  · obtain ⟨o, ho, hsame⟩ := List.mem_map.mp hmem
    exact List.find?_eq_none.mp hname o ho (by simpa using hsame)

end GroupsInOrder
end Directory.Tables

/-! ### Commands -/

namespace Cli

/-- The id of the default group is written by hand. -/
def Command.NamesDefault : Command → Prop
  | .configure key _ => key = Policy.Key.defaultGroup.name
  | .unset key => key = Policy.Key.defaultGroup.name
  | _ => False

/-- A command that runs a workflow leaves the groups and the configuration as they are. -/
theorem groupsInOrder_of_run (hw : w.session = { lasting := t }) (ht : t.GroupsInOrder)
    {α : Type} (p : Program α) :
    (sv.run p w).2.session.lasting.GroupsInOrder := by
  have hkept : (sv.run p w).2.session.Kept Tables.groupsAndConfiguration
      t.groupsAndConfiguration := by
    refine Program.run_keeps (I := fun w => w.session.Kept Tables.groupsAndConfiguration
      t.groupsAndConfiguration) (sv.answer_kept Tables.readsFixed_groupsAndConfiguration) p w ?_
    rw [hw]
    exact ⟨rfl, rfl⟩
  obtain ⟨hgroups, hconfiguration⟩ := Prod.mk.inj hkept.lasting
  exact ht.of_same hgroups (Tables.stored?_congr hconfiguration _)

/-- **Every command keeps the groups in order**, unless it writes the id of the default group by
hand. -/
theorem Command.run_groupsInOrder (hopen : w.isOpen = true) (hw : w.session = { lasting := t })
    (ht : t.GroupsInOrder) {command : Command} (hcommand : ¬ command.NamesDefault) :
    let w' := (command.run sv w).2
    w'.isOpen = true ∧ ∃ t', w'.session = { lasting := t' } ∧ t'.GroupsInOrder := by
  intro w'
  -- A workflow is run in a session that is then closed.
  have hrun : ∀ {α : Type} (p : Program α), w' = (sv.run p w).2.rollback →
      w'.isOpen = true ∧ ∃ t', w'.session = { lasting := t' } ∧ t'.GroupsInOrder := by
    intro α p h
    rw [h]
    exact ⟨(sv.run_isOpen p w).trans hopen, _, rfl, groupsInOrder_of_run hw ht p⟩
  cases command with
  | prepare force =>
    change (Cli.prepare sv.site.settings force w).2.isOpen = true ∧
      ∃ t', (Cli.prepare sv.site.settings force w).2.session = { lasting := t' } ∧ _
    rw [Cli.prepare]
    split
    · exact ⟨hopen, t, hw, ht⟩
    · exact ⟨rfl, t, hw, ht⟩
  | configure key value =>
    have h : w' = (inSession (Cli.configure key value) w).2 := rfl
    rw [h, configure_run hopen hw key value]
    exact ⟨hopen, _, rfl, ht.configure hcommand⟩
  | unset key =>
    obtain ⟨e, -, hout⟩ := unset_run hopen hw key
    have h : w' = (inSession (Cli.unset key) w).2 := rfl
    rw [h, hout]
    exact ⟨hopen, _, rfl, ht.unset hcommand⟩
  | createGroup name description makeDefault =>
    obtain ⟨hopen', h⟩ := createGroup_ends hopen hw sv name description makeDefault
    rcases h with ⟨-, hsession⟩ | ⟨-, -, hname, id, -, -, hsession⟩
    · exact ⟨hopen', t, hsession.trans hw, ht⟩
    · exact ⟨hopen', _, hsession, ht.withGroup hname makeDefault⟩
  | register form =>
    rcases register_ends sv form w with ⟨-, hout⟩ | ⟨hout, -⟩
    · have h : w' = w.rollback := hout
      refine ⟨h ▸ hopen, t, ?_, ht⟩
      rw [h]
      change w.session.rollback = _
      rw [hw]
      rfl
    · exact hrun _ hout
  | link a provider => exact hrun _ (link_ends sv a provider w).1
  | info => exact ⟨hopen, t, hw, ht⟩

end Cli

/-! ### Uses of the program -/

/-- One use of the program. -/
structure Use where
  environment : List (String × String)
  around : Surroundings
  words : List String
  input : String := ""

namespace Use

/-- What comes of a use. -/
def run (x : Use) (w : World) : Cli.Ended × World :=
  Cli.run x.environment x.around x.words x.input w

/-- The settings name no default group, and the command does not write its id by hand. -/
structure Ordinary (x : Use) : Prop where
  unset : ∀ s, Settings.read { environment := x.environment } = .ok s →
    s.defaultGroup.filter (· ≠ "") = none
  notByHand : ∀ command, Cli.spelled x.words x.input = .ok command → ¬ command.NamesDefault

end Use

/-- The world after uses of the program, one after the other. -/
def World.using (w : World) (uses : List Use) : World := uses.foldl (fun w x => (x.run w).2) w

/-- **Every use of the program keeps the groups in order.** -/
theorem Use.run_groupsInOrder {x : Use} (hx : x.Ordinary) (hopen : w.isOpen = true)
    (hw : w.session = { lasting := t }) (ht : t.GroupsInOrder) :
    let w' := (x.run w).2
    w'.isOpen = true ∧ ∃ t', w'.session = { lasting := t' } ∧ t'.GroupsInOrder := by
  intro w'
  rcases Cli.run_ends x.environment x.around x.words x.input w with
    ⟨settings, command, -, hspelled, -, hworld⟩ | ⟨hworld, -⟩
  · change w' = _ at hworld
    rw [hworld]
    exact Cli.Command.run_groupsInOrder hopen hw ht (hx.notByHand command hspelled)
  · change w' = w at hworld
    rw [hworld]
    exact ⟨hopen, t, hw, ht⟩

/-- **Every sequence of uses keeps the groups in order.** -/
theorem World.using_groupsInOrder {uses : List Use} (huses : ∀ x ∈ uses, x.Ordinary)
    (hopen : w.isOpen = true) (hw : w.session = { lasting := t }) (ht : t.GroupsInOrder) :
    (w.using uses).isOpen = true ∧
      ∃ t', (w.using uses).session = { lasting := t' } ∧ t'.GroupsInOrder := by
  induction uses generalizing w t with
  | nil => exact ⟨hopen, t, hw, ht⟩
  | cons x uses ih =>
    obtain ⟨hopen', t', hw', ht'⟩ :=
      Use.run_groupsInOrder (huses x List.mem_cons_self) hopen hw ht
    exact ih (fun y hy => huses y (List.mem_cons_of_mem _ hy)) hopen' hw' ht'

/-- **The default group always exists.**  The program is used in whatever way on an empty database,
again and again, each time with other surroundings; only no default group is given in the settings,
and its id is not written by hand.  Then the stored default group, if any, is one of the stored
groups, no two groups have one name, and no registration or linking looks for a group in vain.  A
command that is to create a group and fails changes nothing; it fails where the name is empty or
taken. -/
theorem default_group_exists (w : World) (hopen : w.isOpen = true) (hw : w.session = {})
    (uses : List Use) (huses : ∀ x ∈ uses, x.Ordinary) :
    let w' := w.using uses
    w'.session.lasting.GroupsInOrder ∧
      ∀ x : Use, x.Ordinary →
        (∀ settings, Settings.read { environment := x.environment } = .ok settings →
          let sv : Service := { site := { settings }, around := x.around }
          (∀ form id, ⟨.group id, .ok none⟩ ∉
            (Registration.register sv.site {} form).transcript sv.answer w') ∧
          ∀ a provider id, ⟨.group id, .ok none⟩ ∉
            (Linking.linkOrCreate sv.site {} a provider).transcript sv.answer w') ∧
        ∀ name description makeDefault,
          Cli.spelled x.words x.input = .ok (.createGroup name description makeDefault) →
            ((x.run w').1.status ≠ 0 → (x.run w').2.session = w'.session) ∧
            (name = "" ∨ (w'.session.lasting.groupNamed? name).isSome = true →
              (x.run w').1.status ≠ 0) := by
  intro w'
  obtain ⟨hopen', t, hw', ht⟩ : w'.isOpen = true ∧ ∃ t, w'.session = { lasting := t } ∧
      t.GroupsInOrder := World.using_groupsInOrder huses hopen hw .empty
  have hlasting : w'.session.lasting = t := by rw [hw']
  rw [hlasting]
  refine ⟨ht, fun x hx => ⟨fun settings hsettings => ?_, fun name description makeDefault h => ?_⟩⟩
  · intro sv
    have hdefault : ∀ id, sv.site.settings.defaultGroupId (t.stored? .defaultGroup) = some id →
        (t.group? id).isSome = true := by
      intro id hid
      have hnone : settings.defaultGroup.filter (· ≠ "") = none := hx.unset settings hsettings
      refine ht.default id ?_
      cases hstored : t.stored? .defaultGroup with
      | none =>
        rw [hstored] at hid
        cases hnone.symm.trans hid
      | some id' =>
        rw [hstored] at hid
        exact (Option.filter_eq_some_iff.mp hid).1
    exact ⟨fun form id => (Registration.register_asksByDefault sv.site {} form).found hw' hdefault id,
      fun a provider id =>
        (Linking.linkOrCreate_asksByDefault sv.site {} a provider).found hw' hdefault id⟩
  · rcases Cli.run_ends x.environment x.around x.words x.input w' with
      ⟨settings, command, -, hspelled, hstatus, hworld⟩ | ⟨hworld, -, hstatus⟩
    · cases hspelled.symm.trans h
      have hends := (Cli.createGroup_ends hopen' hw' { site := { settings }, around := x.around } name
        description makeDefault).2
      change (x.run w').1.status = _ at hstatus
      change (x.run w').2 = _ at hworld
      rw [hstatus, hworld]
      rcases hends with ⟨hne, hsession⟩ | ⟨hzero, hname, hfree, -⟩
      · exact ⟨fun _ => hsession, fun _ => hne⟩
      · refine ⟨fun hne => absurd hzero hne, ?_⟩
        rintro (hempty | htaken)
        · exact absurd hempty hname
        · rw [hfree] at htaken
          cases htaken
    · change (x.run w').2 = w' at hworld
      rw [hworld]
      refine ⟨fun _ => rfl, fun _ hzero => ?_⟩
      obtain ⟨stop, hstop, -⟩ := hstatus hzero
      cases h.symm.trans hstop

/-- A group is created twice under one name, and another one is made the default in its place; then
an account is linked. -/
theorem default_group_exists_replaced :
    let use (words : List String) : Use := { environment := [], around := .numbered, words }
    let uses := [
      use ["create-group", "Staff", "--default"], use ["create-group", "Staff"],
      use ["config-set", "default.timezone", "Europe/Paris"],
      use ["create-group", "Guests", "--default", "--description", "for now"],
      use ["link", "--uid", "alice", "--provider", "google"]]
    let t := (World.using {} uses).session.lasting
    t.stored? .defaultGroup = some "user-1" ∧ (t.group? "user-1").isSome = true ∧
      t.groups.map (·.name) = ["Staff", "Guests"] ∧
      t.members.map (·.group) = ["user-1"] := by
  intro use uses t
  have hsettings : (Settings.read { environment := [] }).toOption.map (·.defaultGroup) =
      some none := by decide +kernel
  have hordinary : ∀ (words : List String) (command : Cli.Command),
      Cli.spelled words "" = .ok command → ¬ command.NamesDefault → (use words).Ordinary := by
    intro words command hspelled hcommand
    refine ⟨fun s hs => ?_, fun command' h => ?_⟩
    · change Settings.read { environment := [] } = .ok s at hs
      rw [hs] at hsettings
      have hnone : s.defaultGroup = none := Option.some.inj hsettings
      rw [hnone]
      rfl
    · cases hspelled.symm.trans h
      exact hcommand
  have huses : ∀ x ∈ uses, x.Ordinary := by
    intro x hx
    simp only [uses, List.mem_cons, List.not_mem_nil, or_false] at hx
    rcases hx with rfl | rfl | rfl | rfl | rfl
    · exact hordinary _ (.createGroup "Staff" none true) (by decide +kernel) id
    · exact hordinary _ (.createGroup "Staff" none false) (by decide +kernel) id
    · exact hordinary _ (.configure "default.timezone" "Europe/Paris") (by decide +kernel)
        (by simp [Cli.Command.NamesDefault, Policy.Key.name])
    · exact hordinary _ (.createGroup "Guests" (some "for now") true) (by decide +kernel) id
    · exact hordinary _ (.link { uid := "alice" } "google") (by decide +kernel) id
  have hstored : t.stored? .defaultGroup = some "user-1" := by decide +kernel
  have hgroups := (default_group_exists {} rfl rfl uses huses).1
  exact ⟨hstored, hgroups.default "user-1" hstored, by decide +kernel, by decide +kernel⟩

end Enrollment
