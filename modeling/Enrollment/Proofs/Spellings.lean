/-
The texts that are read as a tag.

A tag is read from its own text, and from every text that begins with it and goes on with further
subtags, as long as none of them is empty.  How a text is spelled plays no part: letters may be small
or capital, subtags may be separated by `-` or `_`, and blanks may stand around the whole.

* `tag_texts_extended` — reading a tag's text, further subtags behind it included;
* `Respelled` — two texts that differ in their spelling alone;
* `ofSubtags?_small`, `subtags_fold` — a tag is read from its subtags in small letters, and these do
  not depend on the spelling;
* `respelled_read_alike` — so two texts that differ in spelling give the same tag, or none, and are
  resolved in the same way against every catalog.
-/
import Enrollment.Locale.Resolver
import Enrollment.Proofs.LocaleTags

namespace Enrollment.Locale

open Enrollment.Text

variable {s s' : String} {t : Tag} {c d : Char} {cs : List Char} {ps rest : List (List Char)}

/-! ### Further subtags -/

/-- A tag of codes has no line feed to lose. -/
theorem Tag.Coded.of_id (h : t.Coded id) : t.Coded stem :=
  h.congr fun p hp => (stem_of_not_mem (h.lineFeed_not_mem p hp)).symm

theorem intercalate_append {sep : List Char} (hne : ps ≠ []) :
    sep.intercalate (sep.intercalate ps :: rest) = sep.intercalate (ps ++ rest) := by
  induction ps with
  | nil => exact absurd rfl hne
  | cons p ps ih =>
    rcases rest with _ | ⟨q, rest⟩
    · rw [List.append_nil, List.intercalate_singleton]
    cases ps with
    | nil => rw [List.intercalate_singleton, List.singleton_append]
    | cons p' ps =>
      have ih := ih (List.cons_ne_nil _ _)
      rw [List.intercalate_cons_cons] at ih ⊢
      rw [List.cons_append, List.cons_append, List.intercalate_cons_cons, List.intercalate_cons_cons,
        ← List.cons_append, ← ih]
      simp only [List.append_assoc]

/-- The text of a tag with further subtags is cut into the parts of the tag and these. -/
theorem subtags_extended (h : t.Coded id) {further : List String}
    (hfurther : ∀ e ∈ further, ∀ c ∈ e.toList, Plain c) :
    subtags ("-".intercalate (t.text :: further)) = t.parts ++ further.map String.toList := by
  have hplain : ∀ p ∈ t.parts ++ further.map String.toList, ∀ c ∈ p, Plain c := by
    intro p hp
    rcases List.mem_append.mp hp with hp | hp
    · exact (h.plain p hp).2
    · obtain ⟨e, he, rfl⟩ := List.mem_map.mp hp
      exact hfurther e he
  have hhead : ∃ p ∈ (t.parts ++ further.map String.toList).head?, stem p ≠ [] :=
    ⟨_, rfl, h.of_id.language.plain.1⟩
  have htext : ("-".intercalate (t.text :: further)).toList =
      ['-'].intercalate (t.parts ++ further.map String.toList) := by
    rw [String.toList_intercalate, List.map_cons, Tag.text_eq fun p hp => (h.plain p hp).1]
    exact intercalate_append (List.cons_ne_nil _ _)
  obtain ⟨front, last, hparts⟩ : ∃ front last,
      t.parts ++ further.map String.toList = front ++ [last] :=
    (List.eq_nil_or_concat' _).resolve_left (List.cons_ne_nil _ _)
  rw [hparts] at hplain hhead htext ⊢
  rw [subtags_intercalate htext hhead fun p hp c hc => hplain p hp c (mem_of_mem_stem hc),
    stem_of_not_mem fun hmem => (hplain last (by simp) _ hmem).ne_lineFeed rfl]

/-- A text that begins with a tag, with no subtags behind a tag without a region: they might be
taken for one. -/
theorem parse?_intercalate (h : t.Coded id) (further : List String)
    (hfurther : ∀ e ∈ further, ∀ c ∈ e.toList, Plain c) (hregion : t.region = none → further = []) :
    Tag.parse? ("-".intercalate (t.text :: further)) = if "" ∈ further then none else some t := by
  have hempty : ((further.map String.toList).any List.isEmpty = true) ↔ "" ∈ further := by
    simp [List.any_eq_true]
  rw [Tag.parse?, subtags_extended h hfurther,
    ofSubtags?_parts h.of_id _ fun hnone => by rw [hregion hnone, List.map_nil]]
  simp only [hempty]

/-- **The text of a tag is read as the tag**, and a text that goes on with further subtags is read as
it too, unless one of them is empty. -/
theorem tag_texts_extended (h : t.Coded id) (further : List String)
    (hfurther : ∀ e ∈ further, ∀ c ∈ e.toList, Plain c) :
    Tag.parse? t.text = some t ∧ (t.region ≠ none →
      Tag.parse? ("-".intercalate (t.text :: further)) =
        if "" ∈ further then none else some t) := by
  refine ⟨?_, fun hregion =>
    parse?_intercalate h further hfurther fun hnone => absurd hnone hregion⟩
  have htext := parse?_intercalate h [] (by simp) fun _ => rfl
  simpa using htext

/-- A tag with a variant behind it, and with a hyphen behind that. -/
theorem tag_texts_extended_variant :
    let t : Tag := ⟨"zh", some "Hant", some "TW"⟩
    t.Coded id ∧ (∀ e ∈ ["1901", ""], ∀ c ∈ e.toList, Plain c) ∧ t.region ≠ none ∧
      Tag.parse? "zh-Hant-TW" = some t ∧ Tag.parse? "zh-Hant-TW-1901" = some t ∧
      Tag.parse? "zh-Hant-TW-1901-" = none := by
  intro t
  have hcoded : t.Coded id := by
    refine ⟨?_, ?_, ?_⟩
    · simp [t, IsLanguageCode]
    · simp [t, IsScriptCode]
    · simp [t, IsRegionCode]
  have hplain : ∀ e ∈ ["1901", ""], ∀ c ∈ e.toList, Plain c := by
    have hdigits : "1901".toList.all isDecimalDigit = true := by decide +kernel
    have hyear : ∀ c ∈ "1901".toList, Plain c := fun c hc =>
      .of_isDecimalDigit (List.all_eq_true.mp hdigits c hc)
    simpa only [List.forall_mem_cons, List.not_mem_nil, false_imp_iff, implies_true, and_true,
      String.toList_empty] using hyear
  have hregion : t.region ≠ none := Option.some_ne_none _
  obtain ⟨htext, hone⟩ := tag_texts_extended hcoded ["1901"] fun e he =>
    hplain e (List.mem_append_left [""] he)
  have htwo := (tag_texts_extended hcoded ["1901", ""] hplain).2 hregion
  rw [show t.text = "zh-Hant-TW" by decide +kernel] at htext
  rw [show "-".intercalate [t.text, "1901"] = "zh-Hant-TW-1901" by decide +kernel] at hone
  rw [show "-".intercalate [t.text, "1901", ""] = "zh-Hant-TW-1901-" by decide +kernel] at htwo
  exact ⟨hcoded, hplain, hregion, htext, by simpa using hone hregion, by simpa using htwo⟩

/-! ### Spellings -/

/-- The one character that stands for all that are alike. -/
def fold (c : Char) : Char := if c = '_' then '-' else c.toLower

/-- Two characters are one letter in whatever case, or both separate subtags. -/
def Alike (c d : Char) : Prop :=
  c.toLower = d.toLower ∨ (c = '-' ∨ c = '_') ∧ (d = '-' ∨ d = '_')

/-- A text consists of the given characters, with blanks around them. -/
def Padded (s : String) (cs : List Char) : Prop :=
  ∃ before after, s.toList = before ++ cs ++ after ∧ (∀ c ∈ before, isBlank c = true) ∧
    ∀ c ∈ after, isBlank c = true

/-- Two texts differ in letter case, in their separators and in the blanks at their ends alone. -/
def Respelled (s s' : String) : Prop :=
  ∃ cs cs', Padded s cs ∧ Padded s' cs' ∧ List.Forall₂ Alike cs cs'

theorem Alike.fold_eq (h : Alike c d) : fold c = fold d := by
  rcases h with h | ⟨rfl | rfl, rfl | rfl⟩
  · -- No other character than `_` has `_` for its small form.
    by_cases hc : c = '_'
    · rw [hc, eq_of_toLower (c := d) (by decide) (h.symm.trans (congrArg Char.toLower hc))]
      rfl
    by_cases hd : d = '_'
    · exact absurd (eq_of_toLower (by decide) (h.trans (congrArg Char.toLower hd))) hc
    rw [fold, fold, if_neg hc, if_neg hd, h]
  all_goals rfl

theorem isBlank_fold (c : Char) : isBlank (fold c) = isBlank c := by
  rw [fold]
  split
  · rename_i hc
    rw [hc]
    decide +kernel
  · by_cases hletter : c.isAlpha = true
    · rw [(Plain.of_isAlpha hletter).visible, (Plain.of_isAlpha (c := c.toLower) ?_).visible]
      rwa [Char.isAlpha_toLower_eq_isAlpha]
    · rw [Char.toLower_eq_of_not_isUpper fun hupper => hletter (by simp [Char.isAlpha, hupper])]

theorem splitAt_map {sep : Char} {f : Char → Char} (hf : ∀ c, f c = sep ↔ c = sep) :
    splitAt sep (cs.map f) = (splitAt sep cs).map (List.map f) := by
  induction cs with
  | nil => rfl
  | cons c cs ih =>
    obtain ⟨hne, hcons⟩ := splitAt_cons sep c cs
    obtain ⟨piece, pieces, hpieces⟩ := List.exists_cons_of_ne_nil hne
    rw [List.map_cons, (splitAt_cons sep (f c) _).2, ih, hcons, hpieces]
    simp only [hf]
    split <;> rfl

/-- In small letters the subtags of a text are those of its folded characters. -/
theorem subtags_fold (s : String) :
    (subtags s).map small = splitAt '-' ((trimBoth isBlank s.toList).map fold) := by
  have hhyphen : ∀ c : Char, c.toLower = '-' ↔ c = '-' := fun c =>
    ⟨eq_of_toLower (by decide), by rintro rfl; rfl⟩
  have hfold : Char.toLower ∘ (fun c => if c = '_' then '-' else c) = fold := by
    funext c
    simp only [Function.comp_apply, fold]
    split <;> rfl
  -- No other character than the hyphen has it for its small form, so the cuts stay where they are.
  change (splitAt '-' _).map (List.map Char.toLower) = _
  rw [← splitAt_map hhyphen, List.map_map, hfold]

theorem Padded.fold_eq (h : Padded s cs) :
    (trimBoth isBlank s.toList).map fold = trimBoth isBlank (cs.map fold) := by
  obtain ⟨before, after, hs, hbefore, hafter⟩ := h
  rw [hs, trimBoth_padded hbefore hafter, trimBoth_map isBlank_fold]

theorem map_fold_eq {cs' : List Char} (h : List.Forall₂ Alike cs cs') :
    cs.map fold = cs'.map fold := by
  induction h with
  | nil => rfl
  | cons h _ ih => rw [List.map_cons, List.map_cons, h.fold_eq, ih]

theorem Respelled.subtags_eq (h : Respelled s s') :
    (subtags s).map small = (subtags s').map small := by
  obtain ⟨cs, cs', hs, hs', halike⟩ := h
  rw [subtags_fold, subtags_fold, hs.fold_eq, hs'.fold_eq, map_fold_eq halike]

/-! ### Subtags in small letters -/

theorem stem_small (cs : List Char) : stem (small cs) = small (stem cs) := by
  have hlast : (small cs).getLast? = some '\n' ↔ cs.getLast? = some '\n' := by
    rw [small, List.getLast?_map, Option.map_eq_some_iff]
    constructor
    · rintro ⟨c, hc, hfeed⟩
      rwa [eq_of_toLower (by decide) hfeed] at hc
    · exact fun h => ⟨_, h, rfl⟩
  simp only [stem, hlast]
  split
  · exact List.map_dropLast.symm
  · rfl

theorem all_isAsciiLetter_small (cs : List Char) :
    (small cs).all isAsciiLetter = cs.all isAsciiLetter := by
  have hletter : ∀ c : Char, isAsciiLetter c.toLower = isAsciiLetter c :=
    Char.isAlpha_toLower_eq_isAlpha
  simp [small, hletter, Function.comp_def]

theorem all_isDecimalDigit_small (cs : List Char) :
    (small cs).all isDecimalDigit = cs.all isDecimalDigit := by
  have hdigit : ∀ c : Char, isDecimalDigit c.toLower = isDecimalDigit c := by
    intro c
    by_cases hletter : c.isAlpha = true
    · rw [isDecimalDigit_of_isAlpha hletter,
        isDecimalDigit_of_isAlpha ((Char.isAlpha_toLower_eq_isAlpha c).trans hletter)]
    · rw [Char.toLower_eq_of_not_isUpper fun hupper => hletter (by simp [Char.isAlpha, hupper])]
  simp [small, hdigit, Function.comp_def]

theorem length_small (cs : List Char) : (small cs).length = cs.length := List.length_map _

theorem isLanguage_small (cs : List Char) : isLanguage (small cs) = isLanguage cs := by
  simp only [isLanguage, stem_small, length_small, all_isAsciiLetter_small]

theorem isScript_small (cs : List Char) : isScript (small cs) = isScript cs := by
  simp only [isScript, stem_small, length_small, all_isAsciiLetter_small]

theorem isRegion_small (cs : List Char) : isRegion (small cs) = isRegion cs := by
  simp only [isRegion, stem_small, length_small, all_isAsciiLetter_small, all_isDecimalDigit_small]

theorem small_small (cs : List Char) : small (small cs) = small cs := by
  simp [small]

theorem capital_small (cs : List Char) : capital (small cs) = capital cs := by
  simp [small, capital]

theorem capitalised_small (cs : List Char) : capitalised (small cs) = capitalised cs := by
  cases cs with
  | nil => rfl
  | cons c rest =>
    have hrest : small (c :: rest) = c.toLower :: small rest := rfl
    rw [hrest, capitalised, capitalised, small_small, Char.toUpper_toLower_eq_toUpper]

theorem takeSubtag_small {kind : List Char → Bool} (hkind : ∀ p, kind (small p) = kind p) :
    takeSubtag kind (ps.map small) =
      ((takeSubtag kind ps).1.map small, (takeSubtag kind ps).2.map small) := by
  cases ps with
  | nil => rfl
  | cons p ps =>
    rw [List.map_cons, takeSubtag, takeSubtag, hkind]
    split <;> rfl

/-- **A tag is read from its subtags in small letters.** -/
theorem ofSubtags?_small (ps : List (List Char)) :
    Tag.ofSubtags? (ps.map small) = Tag.ofSubtags? ps := by
  cases ps with
  | nil => rfl
  | cons first rest =>
    have hempty : ∀ ps : List (List Char), (ps.map small).any List.isEmpty = ps.any List.isEmpty :=
      fun ps => by simp [small, Function.comp_def]
    -- Every test and every change of case comes out the same for a subtag in small letters.
    simp only [List.map_cons, Tag.ofSubtags?, isLanguage_small, takeSubtag_small isScript_small,
      takeSubtag_small isRegion_small, hempty, Option.map_map, Function.comp_def, small_small,
      capitalised_small, capital_small]

/-- **Spelling does not matter**: texts that differ in it alone give the same tag, or none, and are
resolved alike whatever the catalog and the defaults are. -/
theorem respelled_read_alike (h : Respelled s s') : Tag.parse? s = Tag.parse? s' ∧
    ∀ r : Resolver, r.resolveTag? (some s) = r.resolveTag? (some s') := by
  have hparse : Tag.parse? s = Tag.parse? s' := by
    rw [Tag.parse?, Tag.parse?, ← ofSubtags?_small, h.subtags_eq, ofSubtags?_small]
  refine ⟨hparse, fun r => ?_⟩
  rw [Resolver.resolveTag?, Resolver.resolveTag?, Option.bind_some, Option.bind_some, hparse]

/-- Capitals for small letters, underscores for hyphens and blanks at the ends. -/
theorem respelled_read_alike_padded :
    Respelled " zh_hANT-tw_\u2029" "ZH-Hant_TW-" ∧
      Tag.parse? " zh_hANT-tw_\u2029" = Tag.parse? "ZH-Hant_TW-" ∧
      Tag.parse? "ZH-Hant_TW-" = none := by
  have hspelled : Respelled " zh_hANT-tw_\u2029" "ZH-Hant_TW-" := by
    refine ⟨"zh_hANT-tw_".toList, "ZH-Hant_TW-".toList, ⟨[' '], ['\u2029'], rfl, ?_, ?_⟩,
      ⟨[], [], rfl, ?_, ?_⟩, ?_⟩
    · exact List.forall_mem_singleton.mpr (by decide +kernel)
    · exact List.forall_mem_singleton.mpr (by decide +kernel)
    · exact List.forall_mem_nil _
    · exact List.forall_mem_nil _
    · simp [Alike]
  exact ⟨hspelled, (respelled_read_alike hspelled).1, by decide +kernel⟩

end Enrollment.Locale
