/-
What is put into the HTML of a registration email cannot mark it up.

The wording of an email is marked up by whoever wrote it; the login, the address and the link are
whatever people have chosen.  They are escaped where they are put in, so the tags and attributes of
an email are those of its wording.  Subject and text are not marked up, and hold them as they are.

* `Text.marks` — the characters that open and close tags and the values of attributes;
* `Text.Spot` — where in a page one is: in its content, in a tag, or in the value of an attribute;
* `Text.marks_escapeHtml`, `Text.Spot.after_of_unmarked` — an escaped text has no marks, and what has
  none leads nowhere else;
* `Notice.compose_filled` — a message is its templates with the values in their places;
* `registration_email_keeps_markup` — every notice that is sent has the marks of its template.
-/
import Enrollment.Proofs.ActivationMail
import Enrollment.Proofs.Rendering

namespace Enrollment

/-! ### Marks -/

namespace Text

variable {s : String} {c d : Char}

/-- A character that can open or close a tag or the value of an attribute. -/
def isMark (c : Char) : Bool := c = '<' || c = '>' || c = '\x22' || c = '\x27'

/-- The marks of a text, in their order. -/
def marks (s : String) : List Char := s.toList.filter isMark

theorem marks_append (s t : String) : marks (s ++ t) = marks s ++ marks t := by
  rw [marks, String.toList_append, List.filter_append, marks, marks]

theorem isMark_of_mem_escapeHtmlChar (h : c ∈ escapeHtmlChar d) : isMark c = false := by
  have hreferences : ∀ r ∈ ["&amp;", "&lt;", "&gt;", "&#39;", "&#34;"],
      r.toList.all (fun c => !isMark c) = true := by decide +kernel
  have hreference : ∀ r ∈ ["&amp;", "&lt;", "&gt;", "&#39;", "&#34;"], c ∈ r.toList →
      isMark c = false := fun r hr hc => by
    simpa using List.all_eq_true.mp (hreferences r hr) c hc
  unfold escapeHtmlChar at h
  split at h
  · exact hreference "&amp;" (by simp) h
  · exact hreference "&lt;" (by simp) h
  · exact hreference "&gt;" (by simp) h
  · exact hreference "&#39;" (by simp) h
  · exact hreference "&#34;" (by simp) h
  · rename_i hless hgreater hsingle hdouble
    obtain rfl := List.mem_singleton.mp h
    simp only [isMark, Bool.or_eq_false_iff, decide_eq_false_iff_not]
    exact ⟨⟨⟨hless, hgreater⟩, hdouble⟩, hsingle⟩

/-- **An escaped text has no marks.** -/
theorem marks_escapeHtml (s : String) : marks (escapeHtml s) = [] := by
  rw [marks, escapeHtml, String.toList_ofList, List.filter_eq_nil_iff]
  intro c hc
  obtain ⟨d, -, hd⟩ := List.mem_flatMap.mp hc
  simp [isMark_of_mem_escapeHtmlChar hd]

example : escapeHtml "\"><b id='x'>&amp;" = "&#34;&gt;&lt;b id=&#39;x&#39;&gt;&amp;amp;" := by
  decide +kernel

/-! ### Spots of a page -/

/-- Where in a page one is. -/
inductive Spot where
  | content
  | tag
  /-- In the value of an attribute, between double quotes. -/
  | doublyQuoted
  /-- In the value of an attribute, between single quotes. -/
  | singlyQuoted
deriving DecidableEq

/-- Where one is after a character. -/
def Spot.next : Spot → Char → Spot
  | .content, '<' => .tag
  | .tag, '>' => .content
  | .tag, '\x22' => .doublyQuoted
  | .doublyQuoted, '\x22' => .tag
  | .tag, '\x27' => .singlyQuoted
  | .singlyQuoted, '\x27' => .tag
  | spot, _ => spot

/-- Where one is after a text. -/
def Spot.after (spot : Spot) (s : String) : Spot := s.toList.foldl Spot.next spot

theorem Spot.next_of_not_mark (spot : Spot) (h : isMark c = false) : spot.next c = spot := by
  simp only [isMark, Bool.or_eq_false_iff, decide_eq_false_iff_not] at h
  obtain ⟨⟨⟨hless, hgreater⟩, hdouble⟩, hsingle⟩ := h
  cases spot <;> simp [next, hless, hgreater, hdouble, hsingle]

/-- **A text without marks leads nowhere else.** -/
theorem Spot.after_of_unmarked (spot : Spot) (h : marks s = []) : spot.after s = spot := by
  rw [marks, List.filter_eq_nil_iff] at h
  rw [after]
  generalize s.toList = cs at h
  induction cs with
  | nil => rfl
  | cons c cs ih =>
    rw [List.forall_mem_cons] at h
    rw [List.foldl_cons, spot.next_of_not_mark (Bool.eq_false_iff.mpr h.1), ih h.2]

example : Spot.doublyQuoted.after "\"><b " = .tag ∧
    Spot.doublyQuoted.after (escapeHtml "\"><b ") = .doublyQuoted := by decide +kernel

end Text

/-! ### Templates with their places filled -/

namespace Template

variable {t : Template} {put put' : String → String → Prop} {s s' : String}

/-- A template of texts and variables can be filled with anything. -/
theorem exists_filled (hflat : t.all Node.isFlat = true) (piece : String → String) :
    ∃ s, t.Filled (fun name p => p = piece name) s := by
  induction t with
  | nil => exact ⟨_, .nil⟩
  | cons node rest ih =>
    rw [List.all_cons, Bool.and_eq_true] at hflat
    obtain ⟨s, hs⟩ := ih hflat.2
    match node with
    | .text fixed => exact ⟨_, .text fixed hs⟩
    | .value (.name name) => exact ⟨_, .place rfl hs⟩

/-- Filled with pieces of the same marks, a template has the same marks. -/
theorem Filled.marks_eq (h : t.Filled put s) (h' : t.Filled put' s')
    (hput : ∀ name piece piece', put name piece → put' name piece' →
      Text.marks piece = Text.marks piece') : Text.marks s = Text.marks s' := by
  -- Both are of the same template, so the first node says how either of them begins.
  induction h generalizing s' with
  | nil =>
    cases h'
    rfl
  | text fixed _ ih =>
    cases h' with
    | text _ h' => rw [Text.marks_append, Text.marks_append, ih h']
  | place hpiece _ ih =>
    cases h' with
    | place hpiece' h' =>
      rw [Text.marks_append, Text.marks_append, hput _ _ _ hpiece hpiece', ih h']

end Template

/-! ### Registration emails -/

namespace Notice

variable {s : Settings} {catalog : Locale.Catalog} {baseUrl email : String} {n : Notice}
  {message : Mail.Message}

theorem isFlat_of_isPlain {t : Template} (h : t.all isPlain = true) :
    t.all Template.Node.isFlat = true := by
  rw [List.all_eq_true] at h ⊢
  intro node hnode
  match node, h node hnode with
  | .text _, _ => rfl
  | .value (.name _), _ => rfl

/-- The variables of a registration email with their values. -/
def bindings (s : Settings) (login email token link : String) : List (String × String) :=
  [("app_name", s.appName), ("login", login), ("email", email), ("token", token),
    ("activation_url", link)]

/-- A variable that has a value is one of them. -/
theorem mem_bindings (hemail : n.email = some email) {name : String} {j : Json}
    (h : Json.member? (values s baseUrl n) name = some j) :
    ∃ v, (name, v) ∈ bindings s n.login email n.token (activationUrl baseUrl n.token) ∧
      j = .str v := by
  have hvalues : values s baseUrl n =
      (bindings s n.login email n.token (activationUrl baseUrl n.token)).map
        fun x => (x.1, Json.str x.2) := by
    rw [values, hemail]
    rfl
  have hmem := Json.mem_of_member? h
  rw [hvalues] at hmem
  obtain ⟨⟨_, v⟩, hv, heq⟩ := List.mem_map.mp hmem
  cases heq
  exact ⟨v, hv, rfl⟩

/-- **A message is its templates with the values in their places**: as they are in the subject and in
the text, and escaped in the HTML. -/
theorem compose_filled (h : compose s catalog baseUrl n = .ok message)
    (hemail : n.email = some email) :
    let t := templates (kind n) (catalog.codeOf n.languageId "en")
    let vars := bindings s n.login email n.token (activationUrl baseUrl n.token)
    t.subject.Filled (fun name piece => (name, piece) ∈ vars) message.subject ∧
      t.html.Filled (fun name piece => ∃ v, (name, v) ∈ vars ∧ piece = Text.escapeHtml v)
        message.html ∧
      t.text.Filled (fun name piece => (name, piece) ∈ vars) message.text := by
  intro t vars
  obtain ⟨hsubject, hhtml, htext⟩ := templates_plain (kind n) (catalog.codeOf n.languageId "en")
  rw [compose] at h
  split at h
  · cases h
  · rename_i r hr
    cases h
    obtain ⟨hsubject', hhtml', htext'⟩ := Templates.render_eq_ok hr
    refine ⟨?_, ?_, ?_⟩
    · refine (Template.filled_of_render (isFlat_of_isPlain hsubject) hsubject').mono ?_
      rintro name piece ⟨j, hj, rfl⟩
      obtain ⟨v, hv, rfl⟩ := mem_bindings hemail hj
      exact hv
    · refine (Template.filled_of_render (isFlat_of_isPlain hhtml) hhtml').mono ?_
      rintro name piece ⟨j, hj, rfl⟩
      obtain ⟨v, hv, rfl⟩ := mem_bindings hemail hj
      exact ⟨v, hv, rfl⟩
    · refine (Template.filled_of_render (isFlat_of_isPlain htext) htext').mono ?_
      rintro name piece ⟨j, hj, rfl⟩
      obtain ⟨v, hv, rfl⟩ := mem_bindings hemail hj
      exact hv

/-- A place as it is written in a template. -/
def placeText (name : String) : String := "\x7b\x7b " ++ name ++ " \x7d\x7d"

/-- No mark stands in the place of a variable before it is filled. -/
theorem marks_placeText {login token link name v : String}
    (h : (name, v) ∈ bindings s login email token link) : Text.marks (placeText name) = [] := by
  have hnames : ∀ name ∈ ["app_name", "login", "email", "token", "activation_url"],
      Text.marks (placeText name) = [] := by decide +kernel
  exact hnames name (List.mem_map_of_mem (f := Prod.fst) h)

end Notice

/-! ### Registration emails cannot be marked up -/

/-- **A registration email keeps the markup of its template.**  Whatever the settings, the state, the
kind of email, the language, the login, the address and the token, no variable is missing, and the
message is handed over to whatever transport there is, if the storage is open.  Written out with the
names of its variables, the HTML template has just the marks of the HTML that is sent; in the place
of each variable stands its value, escaped, and wherever it stands one is in the same spot after it
as before.  Subject and text are their templates with the values as they are. -/
theorem registration_email_keeps_markup (sv : Service) (w : World) (login email token : String)
    (confirm : Bool) (languageId : Option Int) :
    let n : Notice := { login, email := some email, token, confirm, languageId }
    let t := Notice.templates (Notice.kind n) (sv.site.catalog.codeOf languageId "en")
    let baseUrl := Policy.baseUrlOf sv.site.settings (w.tables.stored? .baseUrl)
    let vars := Notice.bindings sv.site.settings login email token
      (Notice.activationUrl baseUrl token)
    ∃ (m : Mail.Message) (source : String),
      (∀ outbox : Mail.Outbox, sv.notify { w with outbox } n = if w.isOpen
        then ((outbox.post m).1, { w with outbox := (outbox.post m).2 })
        else (.error .storageClosed, { w with outbox })) ∧
      t.html.Filled (fun name piece => piece = Notice.placeText name) source ∧
      Text.marks m.html = Text.marks source ∧
      t.html.Filled (fun name piece => ∃ v, (name, v) ∈ vars ∧ piece = Text.escapeHtml v ∧
        ∀ spot : Text.Spot, spot.after piece = spot) m.html ∧
      t.subject.Filled (fun name piece => (name, piece) ∈ vars) m.subject ∧
      t.text.Filled (fun name piece => (name, piece) ∈ vars) m.text := by
  intro n t baseUrl vars
  obtain ⟨m, hm, -⟩ := Notice.compose_eq_ok sv.site.settings sv.site.catalog baseUrl n
  obtain ⟨hsubject, hhtml, htext⟩ := Notice.compose_filled hm rfl
  obtain ⟨source, hsource⟩ := Template.exists_filled
    (Notice.isFlat_of_isPlain (Notice.templates_plain (Notice.kind n) _).2.1) Notice.placeText
  -- The message does not depend on the outbox, which is all that differs between the worlds.
  refine ⟨m, source, fun _ => Service.notify_of_compose hm, hsource, ?_, ?_, hsubject, htext⟩
  · refine hhtml.marks_eq hsource ?_
    rintro name _ _ ⟨v, hv, rfl⟩ rfl
    rw [Text.marks_escapeHtml, Notice.marks_placeText hv]
  · refine hhtml.mono ?_
    rintro name piece ⟨v, hv, rfl⟩
    exact ⟨v, hv, rfl, fun spot => spot.after_of_unmarked (Text.marks_escapeHtml v)⟩

end Enrollment
