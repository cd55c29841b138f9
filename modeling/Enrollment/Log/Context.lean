/-
The fields bound while a workflow runs, which every log line written meanwhile carries.

A block binds the workflow's name, the id of the run and fields of its own.  A name or an id that
an outer block has bound stays, so a workflow started from another one shares its run; the fields
of a block cover those of the blocks around it until the block is left.

* `Context.enter` gives the bound fields inside a block.
* `Context.leave` gives those after it: what the block bound is unbound, and what it covered is
  bound again.
* `Block.observe` runs a tree of blocks, in which failures may arise, and records what is bound at
  every entry and exit.
-/
import Enrollment.Json.Basic

namespace Enrollment.Log

/-- The bound fields, each name once. -/
structure Context where
  fields : List (String × Json) := []

namespace Context

/-- The value bound to a name. -/
def get? (c : Context) (name : String) : Option Json := Json.member? c.fields name

/-- The names that are bound. -/
def names (c : Context) : List String := c.fields.map (·.1)

/-- The fields without those of the given names. -/
def unbind (c : Context) (names : List String) : Context :=
  ⟨c.fields.filter fun f => f.1 ∉ names⟩

/-- The fields of the given names only. -/
def restrict (c : Context) (names : List String) : Context :=
  ⟨c.fields.filter fun f => f.1 ∈ names⟩

/-- The fields of `c`, covered by those of `more`. -/
def override (c more : Context) : Context := ⟨(c.unbind more.names).fields ++ more.fields⟩

/-- The name that a run's id is bound to. -/
def runKey : String := "workflow_id"

/-- The name that a workflow's name is bound to. -/
def workflowKey : String := "workflow"

/-- The id of the run that an outer block has bound. -/
def run? (c : Context) : Option Json := (c.get? runKey).filter Json.isPresent

/-- What a block binds. -/
def bindings (c : Context) (workflow : String) (run : Json) (fields : Context) : Context :=
  (⟨[(workflowKey, (c.get? workflowKey).getD (.str workflow)), (runKey, run)]⟩ : Context).override
    fields

/-- The bound fields inside a block. -/
def enter (c : Context) (workflow : String) (run : Json) (fields : Context) : Context :=
  c.override (c.bindings workflow run fields)

/-- The bound fields after a block that was entered from `outer` and bound the given names. -/
def leave (outer : Context) (names : List String) (inner : Context) : Context :=
  (inner.unbind names).override (outer.restrict names)

end Context

/-- A block: a workflow, the fields it binds, and the blocks inside it.  When these have run, the
block may fail.  A failure leaves the block, and the blocks around it, until it has left one that is
guarded. -/
inductive Block where
  | mk (workflow : String) (fields : Context) (nested : List Block) (fails guarded : Bool := false)

instance : Inhabited Block := ⟨.mk "" {} []⟩

/-- What can be seen of a run: the id that a block was given, or the bound fields at one point. -/
inductive Observation where
  | entered (run : Json)
  | bound (fields : Context)

/-- The ids that runs are given, and what has been observed so far. -/
structure Trace where
  nextRun : Nat := 0
  seen : List Observation := []
  /-- Whether a failure is leaving one block after the other. -/
  failing : Bool := false

/-- The id of the run that a block belongs to: the one bound outside, else a fresh one. -/
def Trace.runFor (t : Trace) (fresh : Nat → Json) (c : Context) : Json × Trace :=
  match c.run? with
  | some run => (run, t)
  | none => (fresh t.nextRun, { t with nextRun := t.nextRun + 1 })

/-- One more observation. -/
def Trace.note (t : Trace) (o : Observation) : Trace := { t with seen := t.seen ++ [o] }

mutual

/-- A block is entered, its inner blocks run, and it is left, at its end or by a failure. -/
def Block.observe (fresh : Nat → Json) : Block → Context × Trace → Context × Trace
  | .mk workflow fields nested fails guarded, (outer, t) =>
    let (run, t) := t.runFor fresh outer
    let inside := outer.enter workflow run fields
    let (inner, t) :=
      observeAll fresh nested (inside, (t.note (.entered run)).note (.bound inside))
    (outer.leave (outer.bindings workflow run fields).names inner,
      { t.note (.bound inner) with failing := (t.failing || fails) && !guarded })

/-- Blocks run one after the other, until a failure leaves one of them. -/
def observeAll (fresh : Nat → Json) : List Block → Context × Trace → Context × Trace
  | [], s => s
  | b :: rest, s =>
    let s := b.observe fresh s
    if s.2.failing then s else observeAll fresh rest s

end

end Enrollment.Log
