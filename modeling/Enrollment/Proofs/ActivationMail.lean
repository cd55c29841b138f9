/-
The email by which an account is activated.

Where accounts must be confirmed, the account is stored with a token, and the email that is due
carries a link made of the base URL and of that token.  The base URL is read twice, once for the
decision and once for the link, and the link is written into the templates of a language, as it is in
the text and escaped in the HTML.

* `Template.render_infix` — what a node is rendered to stands in the whole;
* `Notice.compose_leadsTo` — the message of a notice that asks for a confirmation carries its link;
* `registerUser_announces` — a registration that succeeds hands over the message of the account that
  it stored, and no other one;
* `activation_email_identifies_account` — the message names the token in the row of the account.
-/
import Enrollment.Proofs.Decisions
import Enrollment.Proofs.Mailing
import Enrollment.Proofs.NewAccounts
import Enrollment.Proofs.ReadBack

namespace Enrollment

open Directory

/-! ### What stands in a message -/

/-- What a node is rendered to stands in what the whole is rendered to. -/
theorem Template.render_infix {m : Mode} {vars : Variables} {node : Node} {nodes : Template}
    (hnode : node ∈ nodes) {piece whole : String} (hpiece : node.render m vars = .ok piece)
    (hwhole : nodes.render m vars = .ok whole) : piece.toList <:+: whole.toList := by
  rw [Template.render] at hwhole
  induction nodes generalizing whole with
  | nil => cases hnode
  | cons first nodes ih =>
    rw [renderAll] at hwhole
    obtain ⟨a, ha, hwhole⟩ := bind_eq_ok.mp hwhole
    obtain ⟨b, hb, hwhole⟩ := bind_eq_ok.mp hwhole
    cases hwhole
    rw [String.toList_append]
    rcases List.mem_cons.mp hnode with rfl | hnode
    · cases hpiece.symm.trans ha
      exact List.infix_append [] _ _
    · exact (ih hnode hb).trans (List.suffix_append _ _).isInfix

theorem withSlash_withSlash (url : String) : withSlash (withSlash url) = withSlash url := by
  by_cases h : url = "" ∨ url.toList.getLast? = some '/'
  · have hkept : withSlash url = url := if_pos h
    rw [hkept, hkept]
  · have hadded : withSlash url = url ++ "/" := if_neg h
    rw [hadded]
    exact if_pos (.inr (by simp))

namespace Notice

variable {s : Settings} {baseUrl : String} {n : Notice} {catalog : Locale.Catalog}
  {message : Mail.Message}

/-- A message leads to a link: the link stands in the text as it is, and escaped in the HTML. -/
structure LeadsTo (message : Mail.Message) (link : String) : Prop where
  text : link.toList <:+: message.text.toList
  html : (Text.escapeHtml link).toList <:+: message.html.toList

theorem Templates.render_eq_ok {t : Templates} {vars : Template.Variables} {r : Rendered}
    (h : t.render vars = .ok r) :
    t.subject.render .text vars = .ok r.subject ∧ t.html.render .html vars = .ok r.html ∧
      t.text.render .text vars = .ok r.text := by
  obtain ⟨subject, hsubject, h⟩ := bind_eq_ok.mp h
  obtain ⟨html, hhtml, h⟩ := bind_eq_ok.mp h
  obtain ⟨text, htext, h⟩ := bind_eq_ok.mp h
  cases h
  exact ⟨hsubject, hhtml, htext⟩

/-- The place for the link is filled with it, escaped in the HTML. -/
theorem render_activationUrl (s : Settings) (baseUrl : String) (n : Notice) :
    (hole "activation_url").render .text (values s baseUrl n) =
        .ok (activationUrl baseUrl n.token) ∧
      (hole "activation_url").render .html (values s baseUrl n) =
        .ok (Text.escapeHtml (activationUrl baseUrl n.token)) := by
  have hvalue : Json.member? (values s baseUrl n) "activation_url" =
      some (.str (activationUrl baseUrl n.token)) := by simp [Json.member?, values]
  rw [hole, Template.Node.render, Template.Node.render, Template.Expr.value, Template.Expr.value,
    hvalue]
  exact ⟨rfl, rfl⟩

/-- Whatever the language, both bodies have a place for the link. -/
theorem activationUrl_mem (code : String) :
    hole "activation_url" ∈ (templates .activation code).html ∧
      hole "activation_url" ∈ (templates .activation code).text := by
  simp [templates, Wording.confirmation, page]

/-- **The message of a notice that asks for a confirmation** goes to the address of the account, and
leads to the link. -/
theorem compose_leadsTo (h : compose s catalog baseUrl n = .ok message)
    (hconfirm : n.confirm = true) :
    message.recipient = n.email.getD "" ∧
      LeadsTo message (activationUrl baseUrl n.token) := by
  simp only [compose, kind, hconfirm, if_true] at h
  split at h
  · cases h
  · rename_i r hr
    cases h
    obtain ⟨-, hhtml, htext⟩ := Templates.render_eq_ok hr
    obtain ⟨hplain, hescaped⟩ := render_activationUrl s baseUrl n
    obtain ⟨hinHtml, hinText⟩ := activationUrl_mem (catalog.codeOf n.languageId "en")
    exact ⟨rfl, Template.render_infix hinText hplain htext,
      Template.render_infix hinHtml hescaped hhtml⟩

end Notice

/-- The link that activates the account of a token, where the base URL is not blank. -/
theorem Notice.activationUrl_normalised {url : String} (hurl : normaliseBaseUrl url ≠ "")
    (token : String) :
    Notice.activationUrl (normaliseBaseUrl url) token =
      normaliseBaseUrl url ++ "activate?u=" ++ Text.percentEncode token := by
  rw [activationUrl, if_neg hurl, normaliseBaseUrl, withSlash_withSlash]

namespace Registration

variable {sv : Service} {w w₁ : World} {candidate : User} {password token : Option String}

/-! ### What a registration hands over -/

/-- The notice of an account that has been stored. -/
def noticeOf (u : User) (token : String) (confirm : Bool) : Notice where
  login := u.login
  email := u.email
  token := token
  confirm := confirm
  languageId := u.languageId

/-- An account is the candidate with an activation token, which is the given one or a fresh one. -/
structure Drafted (sv : Service) (w : World) (candidate : User) (token : Option String)
    (account : User) (drawn : String) : Prop where
  draft : account.toDraft =
    toStore candidate drawn (w.tables.confirmationRequired sv.site.settings)
  given : ∀ t ∈ token.filter (· ≠ ""), drawn = t
  fresh : token.filter (· ≠ "") = none → ∃ n, drawn = sv.around.token n

/-- An account has been stored and committed, and the message of its notice is all that has been
handed over. -/
inductive Announced (sv : Service) (w : World) (candidate : User) (password token : Option String)
    (u : User) : World → List Mail.Message → Prop where
  | intro {account : User} {drawn : String} {s : Session} {w' : World}
      (hdrafted : Drafted sv w candidate token account drawn)
      (hstored : Session.Stored w.session (sv.clerk w) account (password.filter (· ≠ "")) none u s)
      (hopen : w'.isOpen = true) (hsession : w'.session = { s with lasting := s.working }) :
      Announced sv w candidate password token u w'
        (sv.message? w'
          (noticeOf u drawn (w.tables.confirmationRequired sv.site.settings))).toList

/-- Where a run succeeds, the account it comes to has been announced. -/
def Announces (sv : Service) (w : World) (candidate : User) (password token : Option String)
    (r : Except Failure Outcome) (s : World × List Mail.Message) : Prop :=
  ∀ o, r = .ok o → o.ok = true →
    ∃ u, o.user = some u ∧ Announced sv w candidate password token u s.1 s.2

theorem announces_error (e : Failure) (s : World × List Mail.Message) :
    Announces sv w candidate password token (.error e) s :=
  fun _ h => nomatch h

theorem announces_reject (j : Rejection) (s : World × List Mail.Message) :
    Announces sv w candidate password token (.ok (.reject j)) s := by
  intro o ho hok
  cases ho
  cases hok

/-- The notice of an account is sent once, however that is answered. -/
theorem sendNotice_copying (bound : Log.Context) (u : User) (drawn : String) (confirm : Bool)
    (w : World) :
    (sendNotice bound u drawn confirm).Leads sv.copying (w, []) fun _ s =>
      World.SameStorage w s.1 ∧ s.2 = (sv.message? w (noticeOf u drawn confirm)).toList := by
  have hsame := sv.notify_sameStorage w (noticeOf u drawn confirm)
  refine Program.copying_outcome_bind (c := .notify (noticeOf u drawn confirm)) ?_
  rintro (e | accepted) -
  · exact Program.copying_log_bind _ _ fun w' hw' => ⟨hsame.trans hw', rfl⟩
  · cases accepted with
    | true => exact ⟨hsame, rfl⟩
    | false => exact Program.copying_log_bind _ _ fun w' hw' => ⟨hsame.trans hw', rfl⟩

/-- An account that has been stored is committed and announced. -/
theorem complete_copying (bound : Log.Context) (hdue : emailDue candidate = true)
    (same : World.SameStorage w w₁) {account u : User} {drawn : String}
    (hdrafted : Drafted sv w candidate token account drawn)
    (hstored : (sv.persist w₁ account (password.filter (· ≠ "")) none).1 = .ok u) :
    (complete bound candidate drawn (w.tables.confirmationRequired sv.site.settings)
      (some u)).Leads sv.copying
        ((sv.persist w₁ account (password.filter (· ≠ "")) none).2, [])
        (Announces sv w candidate password token) := by
  obtain ⟨hopen, hflushed, hid⟩ := Service.persist_eq_ok hstored
  have hopen₂ := (sv.persist_isOpen w₁ account (password.filter (· ≠ "")) none).trans hopen
  have hcommitted := World.commit_of_flushed hopen₂ hflushed
  have hcommit : Program.commit.Leads sv.answer
      (sv.persist w₁ account (password.filter (· ≠ "")) none).2 fun r w' => r = .ok () ∧
        w' = (sv.persist w₁ account (password.filter (· ≠ "")) none).2.commit.2 :=
    Program.leads_perform.mpr ⟨congrArg Prod.fst hcommitted, rfl⟩
  rw [complete, if_neg (by simp [Option.isSome_iff_ne_none.mp hid])]
  refine hcommit.copying_bind (Program.quiet_perform rfl) ?_ fun _ _ hfailed => by cases hfailed.1
  rintro _ _ ⟨-, rfl⟩
  refine Program.copying_log_bind _ _ fun w₃ hw₃ => ?_
  rw [if_pos hdue]
  refine (sendNotice_copying bound u drawn _ w₃).bind ?_ fun e s _ => announces_error e s
  rintro problem ⟨w', sent⟩ ⟨hw', hsent⟩ o ho -
  cases ho
  obtain ⟨s, hstored', hsession⟩ := Service.persist_commit hstored (hw₃.trans hw')
  rw [same.session, same.clerk] at hstored'
  have hopen' : w'.isOpen = true := by
    rw [hw'.isOpen, hw₃.isOpen, hcommitted]
    exact hopen₂
  have hannounced := Announced.intro hdrafted hstored' hopen' hsession
  rw [Service.message?_of_same hw', ← hsent] at hannounced
  exact ⟨u, rfl, hannounced⟩

/-- How storing the account ends, the run ends. -/
theorem stored_copying (bound : Log.Context) (hdue : emailDue candidate = true)
    (same : World.SameStorage w w₁) {account : User} {drawn : String}
    (hdrafted : Drafted sv w candidate token account drawn) (password : Option String) :
    ((Program.persist account (password.filter (· ≠ "")) none).outcome >>=
      answered bound candidate drawn
        (w.tables.confirmationRequired sv.site.settings)).Leads sv.copying (w₁, [])
          (Announces sv w candidate password token) := by
  refine Program.copying_outcome_bind (c := .persist account _ none) fun reply hreply => ?_
  change (sv.persist w₁ account (password.filter (· ≠ "")) none).1.map some = reply at hreply
  cases hstored : (sv.persist w₁ account (password.filter (· ≠ "")) none).1 with
  | ok u =>
    rw [hstored] at hreply
    cases hreply
    exact complete_copying bound hdue same hdrafted hstored
  | error e =>
    rw [hstored] at hreply
    cases hreply
    cases e with
    | duplicate field message =>
      exact Program.copying_log_bind _ _ fun w' _ => announces_reject _ (w', _)
    | _ => exact announces_error _ _

/-- However the token was come by, the rest of the run is the same. -/
theorem storeAs_copying (bound : Log.Context) (password : Option String)
    (hdue : emailDue candidate = true) {drawn : String}
    (given : ∀ t ∈ token.filter (· ≠ ""), drawn = t)
    (fresh : token.filter (· ≠ "") = none → ∃ n, drawn = sv.around.token n)
    (same : World.SameStorage w w₁) :
    (storeAs sv.site bound candidate password drawn).Leads sv.copying (w₁, [])
      (Announces sv w candidate password token) := by
  refine (Program.answers_confirmationRequired sv.site bound).copying_bind
    (Program.quiet_confirmationRequired (fun _ => rfl) rfl rfl sv.site bound)
    (fun confirm w₂ hw₂ hconfirm => ?_) announces_error
  rw [same.tables] at hconfirm
  cases hconfirm
  cases hbuild : (toStore candidate drawn (w.tables.confirmationRequired sv.site.settings)).build with
  | error e => exact announces_error e _
  | ok account =>
    exact stored_copying bound hdue (same.trans hw₂) ⟨Draft.build_eq_ok.mp hbuild, given, fresh⟩
      password

theorem store_copying (bound : Log.Context) (password token : Option String)
    (hdue : emailDue candidate = true) (same : World.SameStorage w w₁) :
    (store sv.site bound candidate password token).Leads sv.copying (w₁, [])
      (Announces sv w candidate password token) := by
  rw [store_eq]
  split
  · rename_i drawn hdrawn
    refine storeAs_copying bound password hdue (fun t ht => ?_) (fun hnone => ?_) same
    · rw [hdrawn] at ht
      exact Option.some.inj ht
    · rw [hdrawn] at hnone
      cases hnone
  · rename_i hnone
    have htoken : Program.freshToken.Leads sv.answer w₁ fun r w' =>
        World.SameStorage w₁ w' ∧ r = .ok (sv.around.token w₁.tokens) :=
      Program.leads_perform.mpr ⟨⟨rfl, rfl, rfl⟩, rfl⟩
    refine htoken.copying_bind (Program.quiet_perform rfl) ?_ fun _ _ hfailed => by cases hfailed.2
    rintro _ w₂ ⟨hw₂, hdrawn⟩
    cases hdrawn
    refine storeAs_copying bound password hdue (fun t ht => ?_) (fun _ => ⟨_, rfl⟩) (same.trans hw₂)
    rw [hnone] at ht
    cases ht

theorem turnDown_copying (bound : Log.Context) (reason : String) (j : Rejection) (w₁ : World) :
    (turnDown bound reason j).Leads sv.copying (w₁, [])
      (Announces sv w candidate password token) :=
  Program.copying_log_bind _ _ fun w' _ => announces_reject j (w', _)

theorem steps_copying (bound : Log.Context) (password token : Option String)
    (hdue : emailDue candidate = true) (same : World.SameStorage w w₁) :
    (steps sv.site bound candidate password token).Leads sv.copying (w₁, [])
      (Announces sv w candidate password token) := by
  rw [steps]
  refine (Program.answers_loginLength _ bound).copying_bind
    (Program.quiet_readWhole (fun _ => rfl) rfl bound _ _) (fun minimum w₂ hw₂ _ => ?_)
    announces_error
  split
  · exact turnDown_copying _ _ _ _
  refine (Program.answers_loginFree _ _ _).copying_bind (Program.quiet_perform rfl)
    (fun loginFree w₃ hw₃ _ => ?_) announces_error
  refine (Program.answers_emailFree _ _ _).copying_bind (Program.quiet_perform rfl)
    (fun emailFree w₄ hw₄ _ => ?_) announces_error
  split
  · exact turnDown_copying _ _ _ _
  split
  · exact turnDown_copying _ _ _ _
  · exact store_copying bound password token hdue (same.trans (hw₂.trans (hw₃.trans hw₄)))

/-- **A registration that succeeds** announces the account that it comes to, if an email is due. -/
theorem registerUser_announces (sv : Service) (w : World) (outer : Log.Context) (candidate : User)
    (password token : Option String) (hdue : emailDue candidate = true) :
    (registerUser sv.site outer candidate password token).Leads sv.copying (w, [])
      (Announces sv w candidate password token) := by
  have hbody : ∀ bound w', World.SameStorage w w' →
      ((steps sv.site bound candidate password token).recover (wrapFailure bound
        "Registration failed" ("register '" ++ candidate.login ++ "'"))).Leads sv.copying (w', [])
          (Announces sv w candidate password token) := by
    intro bound w' hw'
    refine (steps_copying bound password token hdue hw').recover (fun _ _ h => h) fun e s _ => ?_
    -- A failure stays one in whatever words it is passed on.
    obtain ⟨-, e', he', -⟩ := (Program.wrapFailure_tells (v := Program.notices) rfl (fun _ => rfl)
      bound "Registration failed" ("register '" ++ candidate.login ++ "'") e).noted
        (h := sv.copying) (fun _ _ hcalm => nomatch hcalm) s
    rw [Program.Leads, he']
    exact announces_error e' _
  rw [registerUser, Program.within]
  split
  · exact hbody _ w (.refl w)
  · exact hbody _ { w with runs := w.runs + 1 } ⟨rfl, rfl, rfl⟩

/-! ### What the message says -/

/-- The row of an account that was announced, and the one message that was handed over: it goes to
the address in the row, and leads to the link of the token in the row. -/
theorem Announced.activates {u : User} {w' : World} {sent : List Mail.Message}
    (h : Announced sv w candidate password token u w' sent) (hemail : given candidate.email = true)
    (hconfirm : w.tables.MustConfirm sv.site.settings) :
    ∃ (r : Row) (drawn : String) (m : Mail.Message),
      u.id = some r.id ∧ w'.session.lasting.row? r.id = some r ∧
      (candidate.id = none → w.tables.row? r.id = none) ∧
      r.fields.activationToken = some drawn ∧ (∀ t ∈ token.filter (· ≠ ""), drawn = t) ∧
      (token.filter (· ≠ "") = none → ∃ n, drawn = sv.around.token n) ∧
      sent = [m] ∧ r.fields.email = some m.recipient ∧
      Notice.LeadsTo m
        (normaliseBaseUrl ((w.tables.stored? .baseUrl).getD sv.site.settings.baseUrl) ++
          "activate?u=" ++ Text.percentEncode drawn) := by
  cases h with
  | @intro account drawn s _ hdrafted hstored hopen hsession =>
    have hdraft := hdrafted.draft
    rw [Tables.confirmationRequired_iff.mpr hconfirm] at hdraft ⊢
    have hkeys := toStore_sameKeys candidate drawn true
    obtain ⟨r, hrow, rfl, hnew, hwritten⟩ := hstored.row
    have htoken : r.fields.activationToken = some drawn := by
      obtain ⟨old, hashed, rfl⟩ := hwritten
      change account.activationToken = _
      rw [hdraft]
      rfl
    have haddress : r.fields.email = candidate.email := by
      obtain ⟨old, hashed, rfl⟩ := hwritten
      change account.email = _
      rw [hdraft, hkeys.email]
    -- The base URL is still the one by which the confirmation was decided.
    have hurl : w'.tables.stored? .baseUrl = w.tables.stored? .baseUrl := by
      refine Tables.stored?_congr ?_ _
      rw [World.tables, hsession]
      exact hstored.keeps.2
    have hnormalised : normaliseBaseUrl
        ((w.tables.stored? .baseUrl).getD sv.site.settings.baseUrl) ≠ "" := by
      obtain ⟨c, hc, hblank⟩ := hconfirm.url
      rw [ne_eq, normaliseBaseUrl_eq_empty]
      intro hall
      rw [hall c hc] at hblank
      cases hblank
    obtain ⟨m, hmessage, hcompose⟩ :=
      sv.message?_of_open hopen (noticeOf (s.working.user r) drawn true)
    obtain ⟨hrecipient, hleads⟩ := Notice.compose_leadsTo hcompose rfl
    rw [hurl, Policy.baseUrlOf, Notice.activationUrl_normalised hnormalised] at hleads
    refine ⟨r, drawn, m, rfl, ?_, fun hid => hnew ?_, htoken, hdrafted.given, hdrafted.fresh, ?_,
      ?_, hleads⟩
    · rw [hsession]
      exact hrow
    · rw [hdraft, hkeys.id]
      exact hid
    · rw [hmessage]
      rfl
    · change m.recipient = r.fields.email.getD "" at hrecipient
      rw [hrecipient, haddress]
      cases hnone : candidate.email with
      | none => simp [hnone, given] at hemail
      | some email => rfl

end Registration

open Registration

/-- **The activation email identifies the account.**  Whatever the state, the language, the login and
the token, a registration that succeeds where accounts must be confirmed hands over exactly one
message.  It goes to the email in the account's lasting row; its text carries the base URL in its
normal form, `activate?u=` and the percent-encoded token of that row, which is the one that the caller
gave or a fresh one; its HTML carries the same link escaped, and the link is not blank.  So it is
also where the transport declines the message or fails. -/
theorem activation_email_identifies_account (sv : Service) (w : World) (outer : Log.Context)
    (candidate : User) (password token : Option String)
    (hexternal : given candidate.externalType = false) (hemail : given candidate.email = true)
    (hconfirm : w.tables.MustConfirm sv.site.settings) :
    let workflow := registerUser sv.site outer candidate password token
    let run := sv.run workflow w
    Succeeded run.1 → ∃ (o : Outcome) (u : User) (r : Row) (drawn : String) (m : Mail.Message),
      run.1 = .ok o ∧ o.user = some u ∧ u.id = some r.id ∧
      run.2.session.lasting.row? r.id = some r ∧
      (candidate.id = none → w.tables.row? r.id = none) ∧
      r.fields.activationToken = some drawn ∧ (∀ t ∈ token.filter (· ≠ ""), drawn = t) ∧
      (token.filter (· ≠ "") = none → ∃ n, drawn = sv.around.token n) ∧
      sv.mailed workflow w = [m] ∧ run.2.outbox = (w.outbox.post m).2 ∧
      r.fields.email = some m.recipient ∧
      let link := normaliseBaseUrl ((w.tables.stored? .baseUrl).getD sv.site.settings.baseUrl) ++
        "activate?u=" ++ Text.percentEncode drawn
      link.toList <:+: m.text.toList ∧ (Text.escapeHtml link).toList <:+: m.html.toList ∧
      ∃ c ∈ link.toList, Text.isBlank c = false := by
  intro workflow run hsucceeded
  have hdue : emailDue candidate = true := by simp [emailDue, hexternal, hemail]
  obtain ⟨hresult, hworld⟩ := sv.run_copying workflow w []
  have hannounces : Announces sv w candidate password token run.1 (run.2, sv.mailed workflow w) := by
    rw [← hresult, ← hworld]
    exact registerUser_announces sv w outer candidate password token hdue
  cases hrun : run.1 with
  | error e =>
    rw [hrun] at hsucceeded
    exact hsucceeded.elim
  | ok o =>
    rw [hrun] at hsucceeded
    obtain ⟨u, hu, hannounced⟩ := hannounces o hrun hsucceeded
    obtain ⟨r, drawn, m, hid, hrow, hnew, htoken, hgiven, hfresh, hsent, haddress, hleads⟩ :=
      hannounced.activates hemail hconfirm
    have hmailed : sv.mailed workflow w = [m] := hsent
    have houtbox : run.2.outbox = (w.outbox.post m).2 := by
      rw [sv.run_outbox workflow w, hmailed]
      rfl
    exact ⟨o, u, r, drawn, m, rfl, hu, hid, hrow, hnew, htoken, hgiven, hfresh, hmailed, houtbox,
      haddress, hleads.text, hleads.html, 'a', by simp, by decide +kernel⟩

/-- A German text, a URL that HTML has to escape, and a token that a URL has to: the message is
declined, and still it leads to the account. -/
theorem activation_email_identifies_account_declined :
    let candidate : User := {
      login := "b<ö>b", email := some "Bob@X.org", languageId := some 2, valid := by decide }
    let sv : Service := .numbered
    let configured := World.after sv
      [.configure Policy.Key.baseUrl.name (some "  https://x.org/?a=1&b='2' ") none,
        .configure Policy.Key.emailVerification.name (some "true") none, .commit]
    let w := { configured with outbox := { answers := .always (.ok false) } }
    let workflow := registerUser sv.site {} candidate none (some "a b&\"ü")
    let run := sv.run workflow w
    let link := "https://x.org/?a=1&b='2'/activate?u=a%20b%26%22%C3%BC"
    let escaped := "https://x.org/?a=1&amp;b=&#39;2&#39;/activate?u=a%20b%26%22%C3%BC"
    w.tables.MustConfirm sv.site.settings ∧ Succeeded run.1 ∧ run.2.outbox.posted.length = 1 ∧
      ∃ (r : Row) (m : Mail.Message),
        run.2.session.lasting.row? r.id = some r ∧ r.fields.activationToken = some "a b&\"ü" ∧
        sv.mailed workflow w = [m] ∧ r.fields.email = some m.recipient ∧
        m.subject = "Onboard: Konto bestätigen" ∧ link.toList <:+: m.text.toList ∧
        escaped.toList <:+: m.html.toList := by
  intro candidate sv configured w workflow run link escaped
  have hconfirm : w.tables.MustConfirm sv.site.settings :=
    Tables.confirmationRequired_iff.mp (by decide +kernel)
  have hsucceeded : Succeeded run.1 := by decide +kernel
  obtain ⟨o, u, r, drawn, m, -, -, -, hrow, -, htoken, hgiven, -, hmailed, -, haddress, htext, hhtml,
    -⟩ := activation_email_identifies_account sv w {} candidate none (some "a b&\"ü") (by decide)
      (by decide) hconfirm hsucceeded
  cases hgiven "a b&\"ü" (by decide)
  have hlink : normaliseBaseUrl ((w.tables.stored? .baseUrl).getD sv.site.settings.baseUrl) ++
      "activate?u=" ++ Text.percentEncode "a b&\"ü" = link := by decide +kernel
  have hescaped : Text.escapeHtml link = escaped := by decide +kernel
  have hsubject : (sv.mailed workflow w).map (·.subject) = ["Onboard: Konto bestätigen"] := by
    decide +kernel
  rw [hmailed] at hsubject
  rw [hlink] at htext hhtml
  rw [hescaped] at hhtml
  exact ⟨hconfirm, hsucceeded, by decide +kernel, r, m, hrow, htoken, hmailed, haddress,
    (List.cons.inj hsubject).1, htext, hhtml⟩

end Enrollment
