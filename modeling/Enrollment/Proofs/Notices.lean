/-
Whether a notice is accepted does not depend on what it says.

The templates of the registration emails name three variables only, and each of them always has a
text.  So no wording, no settings and no notice make rendering fail, and the sender of the message is
the one that is set up; nothing else of a message is looked at when it is handed over.

* `compose_eq_ok` — the message of a notice, whatever the notice says;
* `Outbox.post_congr` — messages of one sender are answered alike.
-/
import Mathlib
import Enrollment.Mail.Outbox
import Enrollment.Notice.Compose

namespace Enrollment

/-- Messages of one sender are answered alike where the transports are to answer alike. -/
theorem Mail.Outbox.post_congr {o₁ o₂ : Outbox} {m₁ m₂ : Message} (ho : o₂.answers = o₁.answers)
    (hemail : m₂.fromEmail = m₁.fromEmail) (hname : m₂.fromName = m₁.fromName) :
    (o₂.post m₂).1 = (o₁.post m₁).1 ∧ (o₂.post m₂).2.answers = (o₁.post m₁).2.answers := by
  rw [Outbox.post, Outbox.post, ho, hemail, hname]
  rcases o₁.answers.next with ⟨answer, answers⟩
  cases answer with
  | error e => exact ⟨rfl, rfl⟩
  | ok accepted => cases sender m₁.fromEmail m₁.fromName <;> exact ⟨rfl, rfl⟩

namespace Notice

open Template

variable {m : Mode} {s : Settings} {baseUrl : String} {n : Notice} {node : Node} {nodes : Template}

/-- A node that is text, or one of the variables that a registration email uses. -/
def isPlain : Node → Bool
  | .text _ => true
  | .value (.name name) => name = "app_name" || name = "login" || name = "activation_url"
  | _ => false

theorem templates_plain (kind : Kind) (code : String) :
    (templates kind code).subject.all isPlain = true ∧ (templates kind code).html.all isPlain = true ∧
      (templates kind code).text.all isPlain = true := by
  cases kind <;> exact ⟨rfl, rfl, rfl⟩

/-- A variable that is used has a text. -/
theorem exists_value {name : String} (h : isPlain (.value (.name name)) = true) :
    ∃ text, Json.member? (values s baseUrl n) name = some (.str text) := by
  simp only [isPlain, Bool.or_eq_true, decide_eq_true_eq] at h
  rcases h with (rfl | rfl) | rfl
  · exact ⟨s.appName, by simp [Json.member?, values]⟩
  · exact ⟨n.login, by simp [Json.member?, values]⟩
  · exact ⟨activationUrl baseUrl n.token, by simp [Json.member?, values]⟩

theorem render_of_plain (h : isPlain node = true) :
    ∃ text, node.render m (values s baseUrl n) = .ok text := by
  match node with
  | .text text => exact ⟨text, by rw [Node.render]⟩
  | .value (.name name) =>
    obtain ⟨text, htext⟩ : ∃ text, Json.member? (values s baseUrl n) name = some (.str text) :=
      exists_value h
    rw [Node.render, Expr.value, htext]
    cases m <;> exact ⟨_, rfl⟩

theorem render_all_plain (h : nodes.all isPlain = true) :
    ∃ text, nodes.render m (values s baseUrl n) = .ok text := by
  induction nodes with
  | nil => exact ⟨"", by rw [Template.render, renderAll]⟩
  | cons node rest ih =>
    rw [List.all_cons, Bool.and_eq_true] at h
    obtain ⟨a, ha⟩ := render_of_plain h.1
    obtain ⟨b, hb⟩ := ih h.2
    refine ⟨a ++ b, ?_⟩
    rw [Template.render] at hb ⊢
    rw [renderAll, ha, hb]
    rfl

/-- **Every notice can be put into a message**, whose sender is the one that is set up. -/
theorem compose_eq_ok (s : Settings) (catalog : Locale.Catalog) (baseUrl : String) (n : Notice) :
    ∃ message, compose s catalog baseUrl n = .ok message ∧ message.fromEmail = s.mailFrom ∧
      message.fromName = s.mailFromName := by
  obtain ⟨hsubject, hhtml, htext⟩ := templates_plain (kind n) (catalog.codeOf n.languageId "en")
  obtain ⟨subject, hsubject⟩ := render_all_plain (m := .text) (s := s) (n := n) hsubject
  obtain ⟨html, hhtml⟩ := render_all_plain (m := .html) (s := s) (n := n) hhtml
  obtain ⟨text, htext⟩ := render_all_plain (m := .text) (s := s) (n := n) htext
  have hrender : (templates (kind n) (catalog.codeOf n.languageId "en")).render
      (values s baseUrl n) = .ok { subject, html, text } := by
    rw [Templates.render, hsubject, hhtml, htext]
    rfl
  refine ⟨{
    recipient := n.email.getD "", subject, html, text, fromEmail := s.mailFrom,
    fromName := s.mailFromName }, ?_, rfl, rfl⟩
  rw [compose, hrender]
  rfl

end Notice
end Enrollment
