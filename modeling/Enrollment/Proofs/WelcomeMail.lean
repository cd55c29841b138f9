/-
A welcome message reveals no token.

Every template gets the values of all variables, also the token and the link; but the templates of a
welcome message name neither of them, so that it is the same message whatever they are.

* `Notice.welcome_names` — the variables that the templates of a welcome message name;
* `Notice.compose_welcome_congr` — two welcome notices that differ in nothing but token and base URL
  have the same message;
* `welcome_email_hides_token` — what is handed over depends on neither.
-/
import Enrollment.Proofs.Mailing
import Enrollment.Proofs.Rendering

namespace Enrollment

namespace Notice

variable {s₁ s₂ : Settings} {baseUrl₁ baseUrl₂ : String} {n₁ n₂ : Notice}

/-- Templates rendered with values that agree on what they name are the same. -/
theorem Templates.render_congr {t : Templates} {vars₁ vars₂ : Template.Variables}
    (h : ∀ part ∈ [t.subject, t.html, t.text],
      Template.Agree (Template.namesOf part) vars₁ vars₂) : t.render vars₁ = t.render vars₂ := by
  rw [render, render, t.subject.render_congr (h _ (by simp)), t.html.render_congr (h _ (by simp)),
    t.text.render_congr (h _ (by simp))]

/-- In every language, the templates of a welcome message name the program and the login only. -/
theorem welcome_names (code : String) :
    ∀ part ∈ [(templates .welcome code).subject, (templates .welcome code).html,
      (templates .welcome code).text],
      ∀ name ∈ Template.namesOf part, name = "app_name" ∨ name = "login" := by
  have hsubject : Template.namesOf (templates .welcome code).subject = ["app_name"] := rfl
  have hhtml : Template.namesOf (templates .welcome code).html =
      ["app_name", "login", "login"] := rfl
  have htext : Template.namesOf (templates .welcome code).text = ["login", "login"] := rfl
  intro part hpart
  simp only [List.mem_cons, List.not_mem_nil, or_false] at hpart
  rcases hpart with rfl | rfl | rfl
  · simp [hsubject]
  · simp [hhtml]
  · simp [htext]

/-- Token and base URL are not seen in the variables that name the program and the login. -/
theorem values_agree (happ : s₂.appName = s₁.appName) (hlogin : n₂.login = n₁.login)
    {names : List String} (hnames : ∀ name ∈ names, name = "app_name" ∨ name = "login") :
    Template.Agree names (values s₂ baseUrl₂ n₂) (values s₁ baseUrl₁ n₁) := by
  intro name hname
  rcases hnames name hname with rfl | rfl
  · simp [Json.member?, values, happ]
  · simp [Json.member?, values, hlogin]

/-- **The message of a welcome notice** depends neither on its token nor on the base URL. -/
theorem compose_welcome_congr {n : Notice} (hconfirm : n.confirm = false) (token : String)
    (catalog : Locale.Catalog) (happ : s₂.appName = s₁.appName)
    (haddress : s₂.mailFrom = s₁.mailFrom) (hsender : s₂.mailFromName = s₁.mailFromName) :
    compose s₂ catalog baseUrl₂ { n with token } = compose s₁ catalog baseUrl₁ n := by
  have hlogin : ({ n with token } : Notice).login = n.login := rfl
  have hrender : ∀ code, (templates .welcome code).render (values s₂ baseUrl₂ { n with token }) =
      (templates .welcome code).render (values s₁ baseUrl₁ n) := fun code =>
    Templates.render_congr fun part hpart =>
      values_agree happ hlogin (welcome_names code part hpart)
  have hkind : kind n = .welcome := by rw [kind, hconfirm]; rfl
  have hkind' : kind { n with token } = .welcome := hkind
  rw [compose, compose, hkind, hkind', hrender, haddress, hsender]

end Notice

/-- **A welcome message reveals no token.**  For every installation, login, address and language there
is one message that is handed over in every run, whatever the token is, whatever base URL the settings
give, and whatever the state is, with the base URL that is stored there. -/
theorem welcome_email_hides_token (site : Installation) (login : String) (email : Option String)
    (languageId : Option Int) :
    ∃ m : Mail.Message, ∀ (baseUrl token : String) (around : Surroundings) (w : World),
      let sv : Service :=
        { site := { site with settings := { site.settings with baseUrl } }, around }
      sv.notify w { login, email, token, confirm := false, languageId } =
        if w.isOpen then ((w.outbox.post m).1, { w with outbox := (w.outbox.post m).2 })
        else (.error .storageClosed, w) := by
  -- The one message is that of the notice with an empty token, made of an empty base URL.
  let anonymous : Notice := { login, email, token := "", confirm := false, languageId }
  obtain ⟨m, hm, -⟩ := Notice.compose_eq_ok site.settings site.catalog "" anonymous
  refine ⟨m, ?_⟩
  intro baseUrl token around w sv
  refine Service.notify_of_compose ?_
  rw [← hm]
  exact Notice.compose_welcome_congr (n := anonymous) rfl token site.catalog rfl rfl rfl

end Enrollment
