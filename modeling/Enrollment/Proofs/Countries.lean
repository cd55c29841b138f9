/-
Which tags are well formed, and where the country of a linked account comes from.

The reader of tags lets one line feed stand at the end of every subtag.  Blanks are cut off at the
ends of the whole text only, so a subtag in the middle can keep its line feed, as part of the tag.

* `Tag.Canonical` — a tag whose parts are codes and whose text is read as the tag again;
* `Linking.linkOrCreate_country` — a linking takes the country from the region of its tag, or leaves
  it as it was;
* `canonical_iff` — a parsed tag is canonical exactly if there is no line feed in it, as in every tag
  of a text of one line, and the country that a linking takes from it is a region code likewise.
-/
import Enrollment.Proofs.LocaleTags
import Enrollment.Proofs.Provenance

namespace Enrollment

open Directory Enrollment.Locale

variable {sv : Service} {w : World}

/-! ### Canonical tags -/

namespace Locale

variable {s : String} {t : Tag}

/-- The parts of a tag are codes, and its text is read as the tag again. -/
structure Tag.Canonical (t : Tag) : Prop where
  coded : t.Coded id
  reread : Tag.parse? t.text = some t

theorem Tag.Coded.of_stem (h : t.Coded stem) (hclean : ∀ p ∈ t.parts, '\n' ∉ p) : t.Coded id :=
  h.congr fun p hp => stem_of_not_mem (hclean p hp)

/-- A tag whose parts are codes but for their line feeds is canonical exactly if it has none. -/
theorem Tag.Coded.canonical_iff (h : t.Coded stem) : t.Canonical ↔ ∀ p ∈ t.parts, '\n' ∉ p := by
  constructor
  · intro hcanonical
    exact hcanonical.coded.lineFeed_not_mem
  · intro hclean
    refine ⟨h.of_stem hclean, ?_⟩
    obtain ⟨front, last, hparts, -, hsame⟩ := t.trimmed_parts
    have hlast : stem last = last := stem_of_not_mem (hclean last (by simp [hparts]))
    rw [parse?_text h, hsame.mpr hlast]

/-- The region of the tag that a locale spells. -/
def region? (locale : Option String) : Option String :=
  (locale.bind Tag.parse?).bind (·.region)

/-- A region that is read is a region code exactly if it has no line feed. -/
theorem isRegionCode_iff {locale : Option String} {c : String} (h : region? locale = some c) :
    IsRegionCode (stem c.toList) ∧ (IsRegionCode c.toList ↔ '\n' ∉ c.toList) := by
  obtain ⟨t, ht, hc⟩ := Option.bind_eq_some_iff.mp h
  obtain ⟨s, -, hs⟩ := Option.bind_eq_some_iff.mp ht
  have hcode := (parse?_coded hs).region c hc
  refine ⟨hcode, fun hregion hmem => (hregion.plain.2 _ hmem).ne_lineFeed rfl, fun hclean => ?_⟩
  rwa [stem_of_not_mem hclean] at hcode

/-- The region that a tag is resolved to is not empty. -/
theorem Resolver.region_resolveTag? (resolver : Resolver) (locale : Option String) :
    filled ((resolver.resolveTag? locale).bind (·.2)) = region? locale := by
  have hregion : (resolver.resolveTag? locale).bind (·.2) = region? locale := by
    rw [resolveTag?, region?]
    cases locale.bind Tag.parse? <;> rfl
  rw [hregion]
  cases h : region? locale with
  | none => rfl
  | some c =>
    refine filled_of_ne fun hempty => ?_
    subst hempty
    exact (isRegionCode_iff h).1.plain.1 rfl

end Locale

/-! ### The country of a linked account -/

namespace Linking

variable {a : Assertion} {provider : String}

theorem Attempt.country (x : Attempt sv w a provider) :
    x.account.country = (region? a.locale).or (x.existing.bind fun u => u.country) := by
  have hdraft := x.draft
  rw [draftFor, withLocale_eq] at hdraft
  have hcountry := congrArg Draft.country hdraft
  dsimp only at hcountry
  rw [hcountry, Resolver.region_resolveTag?]
  cases x.existing with
  | none => cases x.group <;> rfl
  | some u => rfl

/-- A linking that succeeds gives its account the region of its tag as its country, or leaves it the
country that it had. -/
theorem linkOrCreate_country (hw : w.session.Orderly) (hhash : sv.around.PlainHasher)
    (outer : Log.Context) (a : Assertion) (provider : String) :
    let run := sv.run (linkOrCreate sv.site outer a provider) w
    Succeeded run.1 → ∃ (w₁ : World) (existing : Option User) (u : User),
      w.session.Left w₁.session ∧
        w₁.tables.accountByLogin a.uid (scope provider) = .ok existing ∧
        run.1 = .ok (.success u) ∧
        u.country = (region? a.locale).or (existing.bind fun known => known.country) := by
  intro run hsucceeded
  obtain ⟨w₁, x, old, hashed, t', hleft, -, -, -, hrun⟩ :=
    linkOrCreate_written hw.staged hhash outer a provider hsucceeded
  exact ⟨w₁, x.existing, _, hleft, x.found, hrun, x.country⟩

end Linking

/-! ### Tags that are parsed -/

namespace Locale

/-- What is read of a locale, by itself and in a linking. -/
structure TagsRead (sv : Service) : Prop where
  /-- The parts of a parsed tag are codes but for the line feeds at their ends, its text is read as
  the tag without the last of them, and without line feeds it is canonical. -/
  parsed : ∀ s t, Tag.parse? s = some t →
    t.Coded stem ∧ Tag.parse? t.text = some t.trimmed ∧
      (t.Canonical ↔ ∀ p ∈ t.parts, '\n' ∉ p)
  /-- In a text of one line there are none. -/
  oneLine : ∀ s t, Tag.parse? s = some t → '\n' ∉ (Text.strip s).toList → t.Canonical
  /-- The country that a linking takes from its locale is a region code but for a line feed at the
  end, and the country of an account whose locale has no region stays. -/
  linked : ∀ w : World, w.session.Orderly → ∀ outer a provider,
    let run := sv.run (Linking.linkOrCreate sv.site outer a provider) w
    Succeeded run.1 → ∃ (w₁ : World) (existing : Option User) (u : User),
      w.session.Left w₁.session ∧
        w₁.tables.accountByLogin a.uid (Linking.scope provider) = .ok existing ∧
        run.1 = .ok (.success u) ∧
        u.country = (region? a.locale).or (existing.bind fun known => known.country) ∧
        ∀ c, region? a.locale = some c →
          IsRegionCode (stem c.toList) ∧ (IsRegionCode c.toList ↔ '\n' ∉ c.toList)

/-- **A parsed tag is canonical exactly if no line feed stands in it**, and so is the country that a
linking takes from a locale a region code. -/
theorem parsed_canonical_iff (sv : Service) (hhash : sv.around.PlainHasher) : TagsRead sv where
  parsed s t h := ⟨parse?_coded h, parse?_text (parse?_coded h), (parse?_coded h).canonical_iff⟩
  oneLine s t h hs := (parse?_coded h).canonical_iff.mpr (lineFeed_not_mem_parts h hs)
  linked w hw outer a provider hsucceeded := by
    obtain ⟨w₁, existing, u, hleft, hfound, hrun, hcountry⟩ :=
      Linking.linkOrCreate_country hw hhash outer a provider hsucceeded
    exact ⟨w₁, existing, u, hleft, hfound, hrun, hcountry, fun c hc => isRegionCode_iff hc⟩

/-- A tag in other spelling, and an account that is linked with it. -/
theorem parsed_canonical_numbered :
    Service.numbered.around.PlainHasher ∧ TagsRead .numbered ∧
      Tag.parse? " zh_hANT-tw_x " = some ⟨"zh", some "Hant", some "TW"⟩ ∧
      (⟨"zh", some "Hant", some "TW"⟩ : Tag).Canonical := by
  have hhash := Service.numbered_proper.1
  have hread : Tag.parse? " zh_hANT-tw_x " = some ⟨"zh", some "Hant", some "TW"⟩ := by
    decide +kernel
  refine ⟨hhash, parsed_canonical_iff .numbered hhash, hread, ?_⟩
  exact (parsed_canonical_iff .numbered hhash).oneLine _ _ hread (by decide +kernel)

/-- A region in front of a further subtag keeps its line feed: the tag is not canonical, and the
country of the account that is linked with it is no region code. -/
theorem parsed_canonical_counterexample :
    let a : Assertion := { uid := "alice", locale := some "fr-FR\n-x" }
    let w := World.after .numbered [.link a "google"]
    Tag.parse? "fr-FR\n-x" = some ⟨"fr", none, some "FR\n"⟩ ∧
      ¬ (⟨"fr", none, some "FR\n"⟩ : Tag).Coded id ∧
      Tag.parse? (⟨"fr", none, some "FR\n"⟩ : Tag).text ≠ some ⟨"fr", none, some "FR\n"⟩ ∧
      w.session.lasting.users.map (·.fields.country) = [some "FR\n"] ∧
      ¬ IsRegionCode "FR\n".toList := by
  intro a w
  have hregion : ¬ IsRegionCode "FR\n".toList := fun h =>
    (h.plain.2 '\n' (by decide)).ne_lineFeed rfl
  exact ⟨by decide +kernel, fun h => hregion (h.region _ rfl), by decide +kernel,
    by decide +kernel, hregion⟩

end Locale
end Enrollment
