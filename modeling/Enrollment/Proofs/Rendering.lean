/-
What a rendered template consists of, and what it depends on.

A template of texts and variables is rendered to its texts with the values in between; a template may
also choose, compare and join, and whatever it does, it looks at the variables only that it names.

* `Template.Filled` — a text is a template with something put in the place of each variable;
* `Template.filled_of_render` — what a template of texts and variables is rendered to: in HTML mode
  every value is escaped, in text mode it stands as it is;
* `Template.render_congr` — rendering depends on the variables that a template names.
-/
import Enrollment.Proofs.Storing
import Enrollment.Template.Render

namespace Enrollment

/-- A member that is found is there. -/
theorem Json.mem_of_member? {members : List (String × Json)} {name : String} {j : Json}
    (h : Json.member? members name = some j) : (name, j) ∈ members := by
  rw [Json.member?, Option.map_eq_some_iff] at h
  obtain ⟨found, hfind, rfl⟩ := h
  have hname := List.find?_some hfind
  obtain rfl : found.1 = name := of_decide_eq_true hname
  exact List.mem_reverse.mp (List.mem_of_find?_eq_some hfind)

namespace Template

variable {m : Mode} {vars vars₁ vars₂ : Variables} {t : Template} {s : String}

/-! ### What stands in a rendered template -/

/-- A text is a template with a piece in the place of each variable; which pieces may stand for a
variable, `put` tells. -/
inductive Filled (put : String → String → Prop) : Template → String → Prop where
  | nil : Filled put [] ""
  | text {rest : Template} {s : String} (fixed : String) (h : Filled put rest s) :
    Filled put (.text fixed :: rest) (fixed ++ s)
  | place {rest : Template} {s name piece : String} (hput : put name piece)
      (h : Filled put rest s) : Filled put (.value (.name name) :: rest) (piece ++ s)

theorem Filled.mono {put put' : String → String → Prop} (h : t.Filled put s)
    (himp : ∀ name piece, put name piece → put' name piece) : t.Filled put' s := by
  induction h with
  | nil => exact .nil
  | text fixed _ ih => exact .text fixed ih
  | place hput _ ih => exact .place (himp _ _ hput) ih

/-- A text, or a variable. -/
def Node.isFlat : Node → Bool
  | .text _ => true
  | .value (.name _) => true
  | _ => false

/-- What is written for a value. -/
def Mode.written (m : Mode) (j : Json) : String :=
  match m with
  | .html => Text.escapeHtml j.plain
  | .text => j.plain

/-- **What a template of texts and variables is rendered to** is the template with the values in the
places of the variables. -/
theorem filled_of_render (hflat : t.all Node.isFlat = true) (h : t.render m vars = .ok s) :
    t.Filled (fun name piece => ∃ j, Json.member? vars name = some j ∧ piece = m.written j) s := by
  rw [Template.render] at h
  induction t generalizing s with
  | nil =>
    cases h
    exact .nil
  | cons node rest ih =>
    rw [List.all_cons, Bool.and_eq_true] at hflat
    rw [renderAll] at h
    obtain ⟨a, ha, h⟩ := Directory.bind_eq_ok.mp h
    obtain ⟨b, hb, h⟩ := Directory.bind_eq_ok.mp h
    cases h
    have hrest := ih hflat.2 hb
    match node with
    | .text fixed =>
      cases ha
      exact .text _ hrest
    | .value (.name name) =>
      refine .place ?_ hrest
      rw [Node.render, Expr.value] at ha
      cases hmember : Json.member? vars name with
      | none =>
        -- A value that is not there cannot be written.
        rw [hmember] at ha
        cases m <;> cases ha
      | some j =>
        rw [hmember] at ha
        refine ⟨j, rfl, ?_⟩
        cases m <;> cases ha <;> rfl

/-! ### What rendering depends on -/

/-- The variables that an expression names. -/
def Expr.names : Expr → List String
  | .name s => [s]
  | .constant _ => []
  | .member e _ => e.names
  | .filtered _ e => e.names
  | .isDefined e => e.names
  | .negate e => e.names
  | .both a b => a.names ++ b.names
  | .either a b => a.names ++ b.names
  | .equal a b => a.names ++ b.names
  | .join a b => a.names ++ b.names
  | .add a b => a.names ++ b.names
  | .choose test yes no => test.names ++ (yes.names ++ no.names)

mutual

/-- The variables that a node names. -/
def Node.names : Node → List String
  | .text _ => []
  | .value e => e.names
  | .choice test yes no => test.names ++ (namesOf yes ++ namesOf no)

/-- The variables that nodes name. -/
def namesOf : List Node → List String
  | [] => []
  | n :: rest => n.names ++ namesOf rest

end

/-- The variables of these names have the same values. -/
def Agree (names : List String) (vars₁ vars₂ : Variables) : Prop :=
  ∀ name ∈ names, Json.member? vars₁ name = Json.member? vars₂ name

theorem agree_append {a b : List String} :
    Agree (a ++ b) vars₁ vars₂ ↔ Agree a vars₁ vars₂ ∧ Agree b vars₁ vars₂ :=
  List.forall_mem_append

/-- The value of an expression depends on the variables that it names. -/
theorem Expr.value_congr (e : Expr) (h : Agree e.names vars₁ vars₂) :
    e.value m vars₁ = e.value m vars₂ := by
  induction e with
  | name s => rw [Expr.value, Expr.value, h s (List.mem_singleton_self s)]
  | constant j => rfl
  | member e a ih => rw [Expr.value, Expr.value, ih h]
  | filtered f e ih => rw [Expr.value, Expr.value, ih h]
  | isDefined e ih => rw [Expr.value, Expr.value, ih h]
  | negate e ih => rw [Expr.value, Expr.value, ih h]
  | both a b iha ihb =>
    obtain ⟨ha, hb⟩ := agree_append.mp h
    rw [Expr.value, Expr.value, iha ha, ihb hb]
  | either a b iha ihb =>
    obtain ⟨ha, hb⟩ := agree_append.mp h
    rw [Expr.value, Expr.value, iha ha, ihb hb]
  | equal a b iha ihb =>
    obtain ⟨ha, hb⟩ := agree_append.mp h
    rw [Expr.value, Expr.value, iha ha, ihb hb]
  | join a b iha ihb =>
    obtain ⟨ha, hb⟩ := agree_append.mp h
    rw [Expr.value, Expr.value, iha ha, ihb hb]
  | add a b iha ihb =>
    obtain ⟨ha, hb⟩ := agree_append.mp h
    rw [Expr.value, Expr.value, iha ha, ihb hb]
  | choose test yes no ihtest ihyes ihno =>
    obtain ⟨htest, h⟩ := agree_append.mp h
    obtain ⟨hyes, hno⟩ := agree_append.mp h
    rw [Expr.value, Expr.value, ihtest htest, ihyes hyes, ihno hno]

mutual

theorem Node.render_congr (n : Node) (h : Agree n.names vars₁ vars₂) :
    n.render m vars₁ = n.render m vars₂ := by
  match n with
  | .text s => rfl
  | .value e => rw [Node.render, Node.render, e.value_congr h]
  | .choice test yes no =>
    rw [Node.names, agree_append, agree_append] at h
    rw [Node.render, Node.render, test.value_congr h.1, renderAll_congr yes h.2.1,
      renderAll_congr no h.2.2]

theorem renderAll_congr (nodes : List Node) (h : Agree (namesOf nodes) vars₁ vars₂) :
    renderAll m vars₁ nodes = renderAll m vars₂ nodes := by
  match nodes with
  | [] => rfl
  | n :: rest =>
    rw [namesOf, agree_append] at h
    rw [renderAll, renderAll, n.render_congr h.1, renderAll_congr rest h.2]

end

/-- **Rendering depends on the variables that a template names**, and on no others. -/
theorem render_congr (t : Template) (h : Agree (namesOf t) vars₁ vars₂) :
    t.render m vars₁ = t.render m vars₂ :=
  renderAll_congr t h

end Template
end Enrollment
