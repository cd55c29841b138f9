/-
What is bound inside nested blocks, and after them.

Fields that are bound again stand behind the others, so what is bound is compared name by name.

* `Context.get?_override`, `Context.get?_unbind`, `Context.get?_restrict` — what is found under a
  name;
* `Block.observe_agrees` — after a block, left at its end or by a failure, everything is bound as it
  was before;
* `Block.transcript` — what is to be seen of a block by its place in the tree alone: one id for all
  blocks, and in each the fields of the blocks around it, from outside in, covered by its own;
* `Block.observe_shows` — that is what is seen of a block inside another one;
* `workflow_blocks_nest` — both, for blocks one after the other and in one another, each outermost
  one with an id of its own unless one is bound already.
-/
import Mathlib
import Enrollment.Log.Context

namespace Enrollment

namespace Json

variable {members : List (String × Json)} {name : String}

/-- Of two lists of members the later one is asked first. -/
theorem member?_append (a b : List (String × Json)) (name : String) :
    member? (a ++ b) name = (member? b name).or (member? a name) := by
  rw [member?, List.reverse_append, List.find?_append, Option.map_or, member?, member?]

theorem member?_filter (members : List (String × Json)) (p : String → Bool) (name : String) :
    member? (members.filter fun f => p f.1) name =
      if p name = true then member? members name else none := by
  rw [member?, ← List.filter_reverse, List.find?_filter]
  split
  · rename_i hp
    rw [member?]
    congr 2
    funext f
    by_cases hf : f.1 = name
    · simp [hf, hp]
    · simp [hf]
  · rename_i hp
    rw [List.find?_eq_none.mpr, Option.map_none]
    rintro f - hf
    simp only [Bool.decide_and, Bool.decide_eq_true, Bool.and_eq_true, decide_eq_true_eq] at hf
    exact hp (hf.2 ▸ hf.1)

theorem member?_eq_none : member? members name = none ↔ name ∉ members.map (·.1) := by
  simp only [member?, Option.map_eq_none_iff, List.find?_eq_none, List.mem_reverse,
    decide_eq_true_eq, List.mem_map, not_exists, not_and]

end Json

namespace Log

/-! ### What is bound to a name -/

namespace Context

variable {c c' d : Context} {name : String}

theorem get?_eq_none : c.get? name = none ↔ name ∉ c.names := Json.member?_eq_none

theorem get?_unbind (c : Context) (names : List String) (name : String) :
    (c.unbind names).get? name = if name ∈ names then none else c.get? name := by
  rw [get?, unbind, Json.member?_filter c.fields (fun n => decide (n ∉ names))]
  simp [get?]

theorem get?_restrict (c : Context) (names : List String) (name : String) :
    (c.restrict names).get? name = if name ∈ names then c.get? name else none := by
  rw [get?, restrict, Json.member?_filter c.fields (fun n => decide (n ∈ names))]
  simp [get?]

/-- A field that covers another one is found in its place. -/
theorem get?_override (c more : Context) (name : String) :
    (c.override more).get? name = (more.get? name).or (c.get? name) := by
  rw [get?, override, Json.member?_append]
  change (more.get? name).or ((c.unbind more.names).get? name) = _
  rw [get?_unbind]
  split
  · rename_i hname
    obtain ⟨j, hj⟩ := Option.ne_none_iff_exists'.mp (mt get?_eq_none.mp (not_not.mpr hname))
    rw [hj, Option.some_or, Option.some_or]
  · rfl

/-- The same is bound in both. -/
def Agrees (c d : Context) : Prop := ∀ name, c.get? name = d.get? name

theorem Agrees.trans (h : c.Agrees c') (h' : c'.Agrees d) : c.Agrees d :=
  fun name => (h name).trans (h' name)

theorem Agrees.override (h : c.Agrees d) (more : Context) :
    (c.override more).Agrees (d.override more) := fun name => by
  rw [get?_override, get?_override, h name]

theorem Agrees.run? (h : c.Agrees d) : c.run? = d.run? := by
  rw [Context.run?, Context.run?, h runKey]

/-! ### Entering and leaving -/

/-- What is bound once a run has begun, of which the workflow and the id are known. -/
def started (c : Context) (workflow run : Json) : Context :=
  c.override ⟨[(workflowKey, workflow), (runKey, run)]⟩

/-- Inside a block its fields cover what the run began with. -/
theorem enter_agrees (c : Context) (workflow : String) (run : Json) (fields : Context) :
    (c.enter workflow run fields).Agrees
      ((c.started ((c.get? workflowKey).getD (.str workflow)) run).override fields) := by
  intro name
  rw [enter, bindings, started, get?_override, get?_override, get?_override, get?_override,
    Option.or_assoc]

/-- **Leaving a block restores what was bound before**, provided that under the names that the block
did not bind nothing has changed. -/
theorem leave_agrees {outer inner : Context} {names : List String}
    (h : ∀ name ∉ names, inner.get? name = outer.get? name) :
    (outer.leave names inner).Agrees outer := fun name => by
  rw [leave, get?_override, get?_restrict, get?_unbind]
  by_cases hname : name ∈ names
  · rw [if_pos hname, if_pos hname, Option.or_none]
  · rw [if_neg hname, if_neg hname, Option.none_or, h name hname]

/-- Under the names that a block does not bind, what is bound inside is what is bound outside. -/
theorem get?_enter_of_notMem {c : Context} {workflow : String} {run : Json} {fields : Context}
    (h : name ∉ (c.bindings workflow run fields).names) :
    (c.enter workflow run fields).get? name = c.get? name := by
  rw [enter, get?_override, get?_eq_none.mpr h, Option.none_or]

/-- A run is under way: its workflow and its id are bound. -/
structure Runs (c : Context) (workflow run : Json) : Prop where
  workflow : c.get? workflowKey = some workflow
  run : c.get? runKey = some run

theorem started_runs (c : Context) (workflow run : Json) :
    (c.started workflow run).Runs workflow run where
  workflow := by
    rw [started, get?_override]
    rfl
  run := by
    rw [started, get?_override]
    rfl

variable {workflow run : Json}

theorem Runs.of_agrees (h : d.Runs workflow run) (hc : c.Agrees d) : c.Runs workflow run :=
  ⟨(hc _).trans h.workflow, (hc _).trans h.run⟩

/-- A run goes on under fields that are none of its own two. -/
theorem Runs.override (h : c.Runs workflow run) {fields : Context} (hrun : runKey ∉ fields.names)
    (hworkflow : workflowKey ∉ fields.names) : (c.override fields).Runs workflow run where
  workflow := by rw [get?_override, get?_eq_none.mpr hworkflow, Option.none_or, h.workflow]
  run := by rw [get?_override, get?_eq_none.mpr hrun, Option.none_or, h.run]

/-- What a run that is under way began with is bound already. -/
theorem Runs.started_agrees (h : c.Runs workflow run) : (c.started workflow run).Agrees c :=
  fun name => by
  rw [started, get?_override]
  by_cases hrun : name = runKey
  · subst hrun
    exact h.run.symm
  · by_cases hworkflow : name = workflowKey
    · subst hworkflow
      exact h.workflow.symm
    · rw [get?_eq_none.mpr, Option.none_or]
      simp [names, hrun, hworkflow]

theorem Runs.run? (h : c.Runs workflow run) (hpresent : run.isPresent = true) :
    c.run? = some run := by
  rw [Context.run?, h.run, Option.filter_some, if_pos hpresent]

end Context

/-! ### After a block -/

section Observing

variable (fresh : Nat → Json)

theorem Block.observe_mk (workflow : String) (fields : Context) (nested : List Block)
    (fails guarded : Bool) (outer : Context) (t : Trace) :
    (Block.mk workflow fields nested fails guarded).observe fresh (outer, t) =
      let begun := t.runFor fresh outer
      let inside := outer.enter workflow begun.1 fields
      let ends := observeAll fresh nested
        (inside, (begun.2.note (.entered begun.1)).note (.bound inside))
      (outer.leave (outer.bindings workflow begun.1 fields).names ends.1,
        { ends.2.note (.bound ends.1) with
          failing := (ends.2.failing || fails) && !guarded }) := by
  rw [Block.observe]

mutual

/-- **After a block everything is bound as it was before**, whether it was left at its end or by a
failure. -/
theorem Block.observe_agrees (b : Block) (c : Context) (t : Trace) :
    (b.observe fresh (c, t)).1.Agrees c := by
  match b with
  | .mk workflow fields nested fails guarded =>
    rw [Block.observe_mk]
    refine Context.leave_agrees fun name hname => ?_
    rw [observeAll_agrees nested _ _ name, Context.get?_enter_of_notMem hname]

theorem observeAll_agrees (blocks : List Block) (c : Context) (t : Trace) :
    (observeAll fresh blocks (c, t)).1.Agrees c := by
  match blocks with
  | [] =>
    rw [observeAll]
    exact fun _ => rfl
  | b :: rest =>
    have hb := b.observe_agrees c t
    rw [observeAll]
    split
    · exact hb
    · exact (observeAll_agrees rest _ _).trans hb

end

end Observing

/-! ### What is to be seen of a tree of blocks -/

mutual

/-- Whether a failure leaves a block: one of its own, or one that left a block inside. -/
def Block.escapes : Block → Bool
  | .mk _ _ nested fails guarded => (anyEscapes nested || fails) && !guarded

/-- Whether a failure leaves one of the blocks. -/
def anyEscapes : List Block → Bool
  | [] => false
  | b :: rest => b.escapes || anyEscapes rest

end

mutual

/-- What is to be seen of a block of the given run that stands where `around` is bound: at its entry
the id of the run and then the fields around it, covered by its own; what is to be seen of the
blocks inside; and at the end the same fields as at the entry. -/
def Block.transcript (run : Json) (around : Context) : Block → List Observation
  | .mk _ fields nested _ _ =>
    [.entered run, .bound (around.override fields)] ++
      transcriptAll run (around.override fields) nested ++ [.bound (around.override fields)]

/-- What is to be seen of blocks beside one another, up to the one that a failure leaves. -/
def transcriptAll (run : Json) (around : Context) : List Block → List Observation
  | [] => []
  | b :: rest =>
    b.transcript run around ++ if b.escapes then [] else transcriptAll run around rest

end

mutual

/-- Neither a block nor one inside it binds the names of the workflow and of the run as fields. -/
def Block.Plain : Block → Prop
  | .mk _ fields nested _ _ =>
    Context.workflowKey ∉ fields.names ∧ Context.runKey ∉ fields.names ∧ AllPlain nested

/-- Neither do several blocks. -/
def AllPlain : List Block → Prop
  | [] => True
  | b :: rest => b.Plain ∧ AllPlain rest

end

/-- The same was observed, up to the order of the fields. -/
inductive Observation.Agrees : Observation → Observation → Prop where
  | entered (run : Json) : Agrees (.entered run) (.entered run)
  | bound {c d : Context} (h : c.Agrees d) : Agrees (.bound c) (.bound d)

namespace Trace

variable {t t₁ t₂ : Trace} {a b : List Observation} {o o' : Observation} {escapes escapes' : Bool}

/-- From one trace to another one no id was drawn and a transcript was seen, and in the end a
failure is under way or not. -/
structure Shows (t t' : Trace) (transcript : List Observation) (escapes : Bool) : Prop where
  nextRun : t'.nextRun = t.nextRun
  seen : ∃ seen, t'.seen = t.seen ++ seen ∧ List.Forall₂ Observation.Agrees seen transcript
  failing : t'.failing = escapes

theorem Shows.trans (h : t.Shows t₁ a escapes) (h' : t₁.Shows t₂ b escapes') :
    t.Shows t₂ (a ++ b) escapes' := by
  obtain ⟨seen, hseen, hagrees⟩ := h.seen
  obtain ⟨seen', hseen', hagrees'⟩ := h'.seen
  refine ⟨h'.nextRun.trans h.nextRun, ⟨seen ++ seen', ?_, List.rel_append hagrees hagrees'⟩,
    h'.failing⟩
  rw [hseen', hseen, List.append_assoc]

theorem shows_note (t : Trace) (h : o.Agrees o') : t.Shows (t.note o) [o'] t.failing :=
  ⟨rfl, ⟨[o], rfl, .cons h .nil⟩, rfl⟩

theorem Shows.ending (h : t.Shows t₁ a escapes) (failing : Bool) :
    t.Shows { t₁ with failing } a failing :=
  ⟨h.nextRun, h.seen, rfl⟩

end Trace

section Observing

variable {fresh : Nat → Json} {around : Context} {c : Context} {t : Trace} {workflow run : Json}

/-- A block shows its transcript if the blocks inside it show theirs. -/
theorem Block.shows_of_nested {name : String} {fields : Context} {nested : List Block}
    (fails guarded : Bool) (ht : t.failing = false)
    (hinside : (c.enter name (t.runFor fresh c).1 fields).Agrees (around.override fields))
    (hnested : ∀ {c' : Context} {t' : Trace}, c'.Agrees (around.override fields) →
      t'.failing = false → t'.Shows (observeAll fresh nested (c', t')).2
        (transcriptAll (t.runFor fresh c).1 (around.override fields) nested) (anyEscapes nested)) :
    let b := Block.mk name fields nested fails guarded
    (t.runFor fresh c).2.Shows (b.observe fresh (c, t)).2
      (b.transcript (t.runFor fresh c).1 around) b.escapes := by
  intro b
  rw [Block.observe_mk, Block.transcript, Block.escapes]
  have hbegun : (t.runFor fresh c).2.failing = false := by
    rw [Trace.runFor]
    split
    · exact ht
    · exact ht
  generalize t.runFor fresh c = begun at *
  let entered := begun.2.note (.entered begun.1)
  let opened := entered.note (.bound (c.enter name begun.1 fields))
  let ends := observeAll fresh nested (c.enter name begun.1 fields, opened)
  have hentered : begun.2.Shows entered [.entered begun.1] begun.2.failing :=
    begun.2.shows_note (.entered begun.1)
  have hopened : entered.Shows opened [.bound (around.override fields)] entered.failing :=
    entered.shows_note (.bound hinside)
  have hends : opened.Shows ends.2 (transcriptAll begun.1 (around.override fields) nested)
      (anyEscapes nested) := hnested hinside hbegun
  have hafter : ends.1.Agrees (around.override fields) :=
    (observeAll_agrees fresh nested _ opened).trans hinside
  have hclosed := ends.2.shows_note (.bound hafter)
  rw [← hends.failing]
  exact (((hentered.trans hopened).trans hends).trans hclosed).ending _

mutual

/-- **Inside a run a block shows its transcript**, and no id is drawn for it. -/
theorem Block.observe_shows (hpresent : run.isPresent = true) (b : Block) (hb : b.Plain)
    {around : Context} (hruns : around.Runs workflow run) {c : Context} (hc : c.Agrees around)
    {t : Trace} (ht : t.failing = false) :
    t.Shows (b.observe fresh (c, t)).2 (b.transcript run around) b.escapes := by
  match b with
  | .mk name fields nested fails guarded =>
    obtain ⟨hworkflow, hrun, hnested⟩ := hb
    have hcruns := hruns.of_agrees hc
    have hbegun : t.runFor fresh c = (run, t) := by
      rw [Trace.runFor, hcruns.run? hpresent]
    -- The workflow and the id that the block binds are bound already.
    have hinside : (c.enter name run fields).Agrees (around.override fields) := by
      refine (c.enter_agrees name run fields).trans (Context.Agrees.override ?_ fields)
      rw [hcruns.workflow, Option.getD_some]
      exact hcruns.started_agrees.trans hc
    have hshows := Block.shows_of_nested fails guarded ht
      (by rwa [hbegun]) fun hc' ht' => by
        rw [hbegun]
        exact observeAll_shows hpresent nested hnested (hruns.override hrun hworkflow) hc' ht'
    rwa [hbegun] at hshows

theorem observeAll_shows (hpresent : run.isPresent = true) (blocks : List Block)
    (hblocks : AllPlain blocks) {around : Context} (hruns : around.Runs workflow run)
    {c : Context} (hc : c.Agrees around) {t : Trace} (ht : t.failing = false) :
    t.Shows (observeAll fresh blocks (c, t)).2 (transcriptAll run around blocks)
      (anyEscapes blocks) := by
  match blocks with
  | [] =>
    rw [observeAll]
    exact ⟨rfl, ⟨[], (List.append_nil _).symm, .nil⟩, ht⟩
  | b :: rest =>
    have hshows := b.observe_shows hpresent hblocks.1 hruns hc ht
    have hafter := (b.observe_agrees fresh c t).trans hc
    rw [observeAll, transcriptAll, anyEscapes, hshows.failing]
    cases hescapes : b.escapes with
    | true =>
      rw [hescapes] at hshows
      rw [if_pos rfl, if_pos rfl, List.append_nil, Bool.true_or]
      exact hshows
    | false =>
      rw [hescapes] at hshows
      rw [if_neg Bool.false_ne_true, if_neg Bool.false_ne_true, Bool.false_or]
      exact hshows.trans (observeAll_shows hpresent rest hblocks.2 hruns hafter hshows.failing)

end

end Observing

/-! ### Blocks that stand in no other ones -/

/-- The workflow that a block is for. -/
def Block.workflow : Block → String
  | .mk workflow _ _ _ _ => workflow

/-- The workflow of the run that an outermost block begins or goes on with: one that is bound, else
its own. -/
def Block.workflowIn (c : Context) (b : Block) : Json :=
  (c.get? Context.workflowKey).getD (.str b.workflow)

/-- What is to be seen of outermost blocks: each is a run, under the id that is bound or else under
the next fresh one. -/
def outermost (fresh : Nat → Json) (c : Context) : Nat → List Block → List Observation
  | _, [] => []
  | n, b :: rest =>
    let run := c.run?.getD (fresh n)
    b.transcript run (c.started (b.workflowIn c) run) ++
      if b.escapes then [] else outermost fresh c (if c.run?.isSome then n else n + 1) rest

section Outermost

variable {fresh : Nat → Json} {c : Context} {t : Trace}

theorem Trace.runFor_eq (t : Trace) (fresh : Nat → Json) (c : Context) :
    t.runFor fresh c = (c.run?.getD (fresh t.nextRun),
      { t with nextRun := if c.run?.isSome then t.nextRun else t.nextRun + 1 }) := by
  rw [Trace.runFor]
  cases c.run? with
  | none => rfl
  | some run => rfl

/-- **An outermost block shows its transcript**, and draws an id unless one is bound. -/
theorem Block.outermost_shows (hfresh : ∀ n, (fresh n).isPresent = true) (b : Block)
    (hb : b.Plain) {c₀ : Context} (hc : c.Agrees c₀) (ht : t.failing = false) :
    (t.runFor fresh c).2.Shows (b.observe fresh (c, t)).2
      (b.transcript (t.runFor fresh c).1 (c₀.started (b.workflowIn c₀) (t.runFor fresh c).1))
      b.escapes := by
  have hpresent : (t.runFor fresh c).1.isPresent = true := by
    rw [Trace.runFor]
    cases hrun : c.run? with
    | none => exact hfresh _
    | some run => exact (Option.filter_eq_some_iff.mp hrun).2
  match b with
  | .mk name fields nested fails guarded =>
    obtain ⟨hworkflow, hrun, hnested⟩ := hb
    refine Block.shows_of_nested fails guarded ht ?_ fun hc' ht' => ?_
    · refine (c.enter_agrees name _ fields).trans (Context.Agrees.override ?_ fields)
      rw [hc Context.workflowKey]
      exact Context.Agrees.override hc _
    · exact observeAll_shows hpresent nested hnested
        ((c₀.started_runs _ _).override hrun hworkflow) hc' ht'

theorem observeAll_outermost (hfresh : ∀ n, (fresh n).isPresent = true) (blocks : List Block)
    (hblocks : AllPlain blocks) {c₀ : Context} (hc : c.Agrees c₀) (ht : t.failing = false) :
    (observeAll fresh blocks (c, t)).2.failing = anyEscapes blocks ∧
      ∃ seen, (observeAll fresh blocks (c, t)).2.seen = t.seen ++ seen ∧
        List.Forall₂ Observation.Agrees seen (outermost fresh c₀ t.nextRun blocks) := by
  induction blocks generalizing c t with
  | nil =>
    rw [observeAll]
    exact ⟨ht, [], (List.append_nil _).symm, .nil⟩
  | cons b rest ih =>
    have hshows := b.outermost_shows hfresh hblocks.1 hc ht
    have hafter := (b.observe_agrees fresh c t).trans hc
    obtain ⟨seen, hseen, hagrees⟩ := hshows.seen
    have hnext := hshows.nextRun
    rw [Trace.runFor_eq, hc.run?] at hseen hagrees hnext
    rw [observeAll, outermost, anyEscapes, hshows.failing]
    cases hescapes : b.escapes with
    | true =>
      refine ⟨?_, seen, hseen, ?_⟩
      · rw [if_pos rfl, Bool.true_or, hshows.failing, hescapes]
      · rw [if_pos rfl, List.append_nil]
        exact hagrees
    | false =>
      obtain ⟨hfailing, later, hlater, hlateragrees⟩ :=
        ih hblocks.2 hafter (hshows.failing.trans hescapes)
      rw [hnext] at hlateragrees
      rw [if_neg Bool.false_ne_true, if_neg Bool.false_ne_true, Bool.false_or]
      refine ⟨hfailing, seen ++ later, ?_, List.rel_append hagrees hlateragrees⟩
      rw [hlater, hseen, List.append_assoc]

end Outermost

/-- **Blocks nest and unwind.**  Whatever is bound before, the blocks show what their places in the
tree say: one id in all blocks of an outermost one, the one that is bound or else one fresh one; the
workflow that is bound or else the outermost block's; and the fields that were bound before, covered
by those of the blocks around, from outside in, and by those of the block itself.  After them, and
after any block, left at its end or by a failure, everything is bound as it was before it. -/
theorem workflow_blocks_nest (digits : Nat → String) (c : Context) (n : Nat) (blocks : List Block)
    (hplain : AllPlain blocks) :
    let fresh (k : Nat) : Json := .str ("wf_" ++ digits k)
    let ends := observeAll fresh blocks (c, { nextRun := n })
    List.Forall₂ Observation.Agrees ends.2.seen (outermost fresh c n blocks) ∧
      ends.2.failing = anyEscapes blocks ∧
      ends.1.Agrees c ∧
      ∀ (b : Block) (before : Context) (t : Trace),
        (b.observe fresh (before, t)).1.Agrees before := by
  intro fresh ends
  have hfresh : ∀ k, (fresh k).isPresent = true := fun k => by
    have hne : "wf_" ++ digits k ≠ "" := fun h => by
      have := congrArg String.length h
      simp at this
    exact decide_eq_true hne
  have hstart : c.Agrees c := fun _ => rfl
  have hidle : ({ nextRun := n } : Trace).failing = false := rfl
  obtain ⟨hfailing, seen, hseen, hagrees⟩ :=
    observeAll_outermost hfresh blocks hplain hstart hidle
  rw [List.nil_append] at hseen
  exact ⟨hseen ▸ hagrees, hfailing, observeAll_agrees fresh blocks c _,
    fun b before t => b.observe_agrees fresh before t⟩

/-- Where an empty id is bound, two blocks have two ids; a guarded failure ends one block inside the
first, beside which another one is run, and a failure that is not guarded ends the second. -/
theorem workflow_blocks_nest_failing :
    let login (s : String) : Context := ⟨[("login", .str s)]⟩
    let blocks : List Block := [
      .mk "link" (login "a") [.mk "registration" (login "b") [] true true, .mk "mail" {} []],
      .mk "registration" {} [.mk "mail" (login "c") [] true, .mk "mail" {} []],
      .mk "link" {} []]
    let c : Context := ⟨[("request", .int 1), ("workflow_id", .str "")]⟩
    let run (k : Nat) : Json := .str ("wf_" ++ toString k)
    let first : Context := (c.started (.str "link") (run 0)).override (login "a")
    let second : Context := (c.started (.str "registration") (run 1)).override {}
    let expected : List Observation := [
      .entered (run 0), .bound first,
        .entered (run 0), .bound (first.override (login "b")), .bound (first.override (login "b")),
        .entered (run 0), .bound (first.override {}), .bound (first.override {}),
      .bound first,
      .entered (run 1), .bound second,
        .entered (run 1), .bound (second.override (login "c")),
        .bound (second.override (login "c")),
      .bound second]
    AllPlain blocks ∧ (observeAll run blocks (c, {})).1.Agrees c ∧
      (observeAll run blocks (c, {})).2.failing = true ∧
      List.Forall₂ Observation.Agrees (observeAll run blocks (c, {})).2.seen expected := by
  intro login blocks c run first second expected
  have hplain : AllPlain blocks := by
    simp [blocks, login, AllPlain, Block.Plain, Context.names, Context.workflowKey, Context.runKey]
  have hrun : c.run? = none := Option.isNone_iff_eq_none.mp (by decide +kernel)
  have hworkflow : c.get? Context.workflowKey = none :=
    Option.isNone_iff_eq_none.mp (by decide +kernel)
  have hescapes : anyEscapes blocks = true := by simp [blocks, anyEscapes, Block.escapes]
  have hexpected : outermost run c 0 blocks = expected := by
    simp only [blocks, outermost, hrun, Block.workflowIn, hworkflow, Block.transcript,
      transcriptAll, Block.escapes, anyEscapes]
    rfl
  obtain ⟨hseen, hfailing, hafter, -⟩ := workflow_blocks_nest toString c 0 blocks hplain
  rw [hescapes] at hfailing
  rw [hexpected] at hseen
  -- With more unfolded the blocks would be run.
  with_reducible exact ⟨hplain, hafter, hfailing, hseen⟩

end Log
end Enrollment
