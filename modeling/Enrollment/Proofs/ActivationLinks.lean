/-
Activation links, from the base URL that somebody wrote down.

The base URL is brought to its normal form where the settings are read, where the policy is read, and
once more where a link is made of it.  One normal form is left, wherever the URL was written down;
what follows it in a link is the token, which can be read off its end.

* `strip_normaliseBaseUrl`, `normaliseBaseUrl_normaliseBaseUrl` — a normal form is left as it is;
* `Settings.read_baseUrl` — settings that are accepted hold the base URL in its normal form;
* `Notice.activationUrl_token` — a link tells its token, whatever base URL it was made of;
* `activation_links` — all of this for a base URL that is stored or set.
-/
import Enrollment.Proofs.ActivationMail
import Enrollment.Proofs.PercentCoding
import Enrollment.Proofs.PolicyBounds

namespace Enrollment

open Directory

variable {url base base' token token' : String}

/-! ### The normal form of a base URL -/

theorem Text.strip_eq_self {s : String} (hhead : ∃ c ∈ s.toList.head?, isBlank c = false)
    (hlast : ∃ c ∈ s.toList.getLast?, isBlank c = false) : strip s = s := by
  have htrimmed : trimBoth isBlank (s.toList ++ []) = s.toList :=
    trimBoth_of_ends hhead hlast (by simp)
  rw [List.append_nil] at htrimmed
  rw [strip, htrimmed, String.ofList_toList]

/-- The ends of a stripped text are seen. -/
theorem Text.strip_ends {s : String} (h : strip s ≠ "") :
    (∃ c ∈ (strip s).toList.head?, isBlank c = false) ∧
      ∃ c ∈ (strip s).toList.getLast?, isBlank c = false := by
  rw [strip, String.toList_ofList]
  refine trimBoth_ends fun hempty => h ?_
  rw [strip, hempty]

theorem withSlash_eq (h : url ≠ "") :
    withSlash url = url ++ (if url.toList.getLast? = some '/' then "" else "/") := by
  rw [withSlash]
  by_cases hslash : url.toList.getLast? = some '/'
  · rw [if_pos (.inr hslash), if_pos hslash, String.append_empty]
  · rw [if_neg (not_or.mpr ⟨h, hslash⟩), if_neg hslash]

/-- A base URL in its normal form has no blanks at its ends. -/
theorem strip_normaliseBaseUrl (url : String) :
    Text.strip (normaliseBaseUrl url) = normaliseBaseUrl url := by
  rw [normaliseBaseUrl]
  by_cases hblank : Text.strip url = ""
  · rw [hblank]
    decide +kernel
  · obtain ⟨⟨c, hc, hhead⟩, hlast⟩ := Text.strip_ends hblank
    rw [withSlash_eq hblank]
    split
    · rw [String.append_empty]
      exact Text.strip_eq_self ⟨c, hc, hhead⟩ hlast
    · refine Text.strip_eq_self ⟨c, ?_, hhead⟩ ⟨'/', by simp, by decide +kernel⟩
      rw [String.toList_append]
      exact List.mem_head?_append_of_mem_head? hc

/-- **A normal form is left as it is.** -/
theorem normaliseBaseUrl_normaliseBaseUrl (url : String) :
    normaliseBaseUrl (normaliseBaseUrl url) = normaliseBaseUrl url := by
  rw [normaliseBaseUrl, strip_normaliseBaseUrl, normaliseBaseUrl, withSlash_withSlash]

/-- Whatever else is refused, the base URL is brought to its normal form. -/
theorem Settings.readAll_baseUrl {src : Settings.Source}
    (hgiven : src.value? "base_url" = some (.str url)) (problems : List Settings.Problem) :
    (src.readAll.run problems).1.baseUrl = normaliseBaseUrl url := by
  obtain ⟨before, hbase⟩ : ∃ before, (src.readAll.run problems).1.baseUrl =
      normaliseBaseUrl ((src.take "base_url" Settings.text "").run before).1 := by
    rw [Settings.Source.readAll]
    -- The normal form is of no matter here, and is not to be computed.
    generalize normaliseBaseUrl = normal
    exact ⟨_, rfl⟩
  rw [hbase, Settings.Source.take, hgiven]
  rfl

/-- **Settings that are accepted** hold the base URL that they were given in its normal form. -/
theorem Settings.read_baseUrl {src : Settings.Source} {s : Settings}
    (hread : Settings.read src = .ok s) (hgiven : src.value? "base_url" = some (.str url)) :
    s.baseUrl = normaliseBaseUrl url := by
  have hbase := Settings.readAll_baseUrl hgiven []
  rw [Settings.read] at hread
  split at hread
  · rename_i settings heq
    cases hread
    rwa [heq] at hbase
  · cases hread

/-- What the policy comes to. -/
theorem Program.answers_baseUrl {sv : Service} (s : Settings) :
    (Policy.baseUrl s).Answers sv fun t => .ok (Policy.baseUrlOf s (t.stored? .baseUrl)) :=
  (answers_configValue _).map (Policy.baseUrlOf s)

/-! ### The token in a link -/

/-- What follows the last occurrence of a character. -/
theorem takeWhile_reverse_append {c : Char} {rest : List Char} (h : c ∉ rest) (front : List Char) :
    ((front ++ c :: rest).reverse.takeWhile (· ≠ c)).reverse = rest := by
  have hkept : ∀ d ∈ rest.reverse, decide (d ≠ c) = true := by
    intro d hd
    refine decide_eq_true fun hsame => h ?_
    rw [← hsame]
    exact List.mem_reverse.mp hd
  rw [List.reverse_append, List.reverse_cons, List.append_assoc, List.takeWhile_append_of_pos hkept,
    List.singleton_append, List.takeWhile_cons_of_neg (by simp), List.append_nil,
    List.reverse_reverse]

namespace Notice

theorem activationUrl_eq_empty : activationUrl base token = "" ↔ base = "" := by
  rw [activationUrl]
  split
  · rename_i h
    exact iff_of_true rfl h
  · rename_i h
    refine iff_of_false (fun hempty => ?_) h
    have hlength := congrArg String.length hempty
    simp [String.length_append] at hlength

/-- The token is what follows the last equals sign of its link. -/
theorem activationUrl_end (h : base ≠ "") (token : String) :
    ((activationUrl base token).toList.reverse.takeWhile (· ≠ '=')).reverse =
      (Text.percentEncode token).toList := by
  have hlink : (activationUrl base token).toList =
      ((withSlash base).toList ++ "activate?u".toList) ++ '=' ::
        (Text.percentEncode token).toList := by
    rw [activationUrl, if_neg h, String.toList_append, String.toList_append]
    simp
  rw [hlink]
  exact takeWhile_reverse_append (Text.component_percentEncode token).equals_not_mem _

/-- **A link tells its token**, whatever base URL it was made of. -/
theorem activationUrl_token (h : activationUrl base token = activationUrl base' token')
    (hlink : activationUrl base token ≠ "") : token = token' := by
  have hbase : base ≠ "" := mt activationUrl_eq_empty.mpr hlink
  have hbase' : base' ≠ "" := by
    rw [h] at hlink
    exact mt activationUrl_eq_empty.mpr hlink
  have hcode : (Text.percentEncode token).toList = (Text.percentEncode token').toList := by
    rw [← activationUrl_end hbase, ← activationUrl_end hbase', h]
  exact Text.percentEncode_injective (String.toList_inj.mp hcode)

end Notice

/-! ### Links of one base URL -/

/-- **A base URL comes to the same links, whether it is stored or set, and every link tells its token.**
Read back from the settings it was given to, or from the table it was stored in, it is in its normal
form, which is left as it is.  Its links are empty, which is to say that there are none, exactly where
it is blank; else they are the URL without the blanks at its ends, a slash if it does not end in one,
and what leads to the token, percent-encoded.  No two tokens share a link, not even of two base
URLs. -/
theorem activation_links {u : String} {src : Settings.Source} {site : Installation}
    (hgiven : src.value? "base_url" = some (.str u))
    (hread : Settings.read src = .ok site.settings) (around : Surroundings) {w₁ : World}
    (hopen₁ : w₁.isOpen = true) (hnone : w₁.tables.stored? .baseUrl = none) (sv : Service)
    {w₂ : World} (hopen₂ : w₂.isOpen = true) (hstored : w₂.tables.stored? .baseUrl = some u) :
    ∃ url, (Service.run { site, around } (Policy.baseUrl site.settings) w₁).1 = .ok url ∧
      (sv.run (Policy.baseUrl sv.site.settings) w₂).1 = .ok url ∧
      (∀ other, normaliseBaseUrl (normaliseBaseUrl other) = normaliseBaseUrl other) ∧
      normaliseBaseUrl url = url ∧
      ∀ token,
        let link := Notice.activationUrl url token
        let stripped := Text.strip u
        (link = "" ↔ ∀ c ∈ u.toList, Text.isBlank c = true) ∧
        ((∃ c ∈ u.toList, Text.isBlank c = false) → ∃ code,
          link = stripped ++ (if stripped.toList.getLast? = some '/' then "" else "/") ++
            "activate?u=" ++ code ∧
          Text.Component code.toList ∧
          Text.percentDecode? code.toList = some (Text.utf8Bytes token)) ∧
        ∀ base token', token' ≠ token → link ≠ "" → Notice.activationUrl base token' ≠ link := by
  have hset : Policy.baseUrlOf site.settings (w₁.tables.stored? .baseUrl) = normaliseBaseUrl u := by
    rw [Policy.baseUrlOf, hnone, Option.getD_none, Settings.read_baseUrl hread hgiven,
      normaliseBaseUrl_normaliseBaseUrl]
  have hkept : Policy.baseUrlOf sv.site.settings (w₂.tables.stored? .baseUrl) =
      normaliseBaseUrl u := by
    rw [Policy.baseUrlOf, hstored, Option.getD_some]
  refine ⟨normaliseBaseUrl u, ?_, ?_, normaliseBaseUrl_normaliseBaseUrl,
    normaliseBaseUrl_normaliseBaseUrl u, fun token => ⟨?_, fun hseen => ?_, ?_⟩⟩
  · rw [(Program.answers_baseUrl site.settings).run_of_open hopen₁, hset]
  · rw [(Program.answers_baseUrl sv.site.settings).run_of_open hopen₂, hkept]
  · rw [Notice.activationUrl_eq_empty, normaliseBaseUrl_eq_empty]
  · obtain ⟨c, hc, hblank⟩ := hseen
    have hnotBlank : ¬ ∀ c ∈ u.toList, Text.isBlank c = true := fun hall => by
      rw [hall c hc] at hblank
      cases hblank
    refine ⟨Text.percentEncode token, ?_, Text.component_percentEncode token,
      Text.percentDecode?_percentEncode token⟩
    rw [Notice.activationUrl_normalised (mt normaliseBaseUrl_eq_empty.mp hnotBlank),
      normaliseBaseUrl, withSlash_eq (mt Text.strip_eq_empty.mp hnotBlank)]
  · intro base token' hne hlink hsame
    exact hne (Notice.activationUrl_token hsame (hsame ▸ hlink))

/-- A base URL with blanks around it, and a token that cannot stand in a URL as it is. -/
theorem activation_links_padded :
    let u := "\u00a0https://x.org/a \n"
    let src : Settings.Source := { values := [("base_url", .str u)] }
    let site : Installation := { settings := { baseUrl := "https://x.org/a/" } }
    let w : World := { session := { lasting := { configuration :=
      [⟨Policy.Key.baseUrl.name, some u, none⟩] } } }
    src.value? "base_url" = some (.str u) ∧ Settings.read src = .ok site.settings ∧
      World.isOpen {} = true ∧ (World.tables {}).stored? .baseUrl = none ∧
      w.isOpen = true ∧ w.tables.stored? .baseUrl = some u ∧
      ∃ url, (Service.run { site, around := .numbered } (Policy.baseUrl site.settings) {}).1 =
          .ok url ∧
        (Service.numbered.run (Policy.baseUrl {}) w).1 = .ok url ∧ url = "https://x.org/a/" ∧
        Notice.activationUrl url "ü=/" = "https://x.org/a/activate?u=%C3%BC%3D%2F" ∧
        Notice.activationUrl url "ü=" ≠ Notice.activationUrl url "ü=/" := by
  intro u src site w
  have hgiven : src.value? "base_url" = some (.str u) := by
    simp [src, Settings.Source.value?, Settings.folded]
  have hread : Settings.read src = .ok site.settings := by decide +kernel
  have hopen : World.isOpen {} = true := rfl
  have hnone : (World.tables {}).stored? .baseUrl = none := rfl
  have hstored : w.tables.stored? .baseUrl = some u := by decide +kernel
  obtain ⟨url, hset, hkept, -, -, hlinks⟩ :=
    activation_links hgiven hread Surroundings.numbered hopen hnone Service.numbered rfl hstored
  have hurl : url = "https://x.org/a/" := by
    have hrun : (Service.numbered.run (Policy.baseUrl {}) w).1 = .ok "https://x.org/a/" := by
      decide +kernel
    cases hkept.symm.trans hrun
    rfl
  subst hurl
  have hlink : Notice.activationUrl "https://x.org/a/" "ü=/" =
      "https://x.org/a/activate?u=%C3%BC%3D%2F" := by decide +kernel
  have hapart := (hlinks "ü=/").2.2 "https://x.org/a/" "ü=" (by decide) (by decide +kernel)
  exact ⟨hgiven, hread, hopen, hnone, rfl, hstored, _, hset, hkept, rfl, hlink, hapart⟩

end Enrollment
