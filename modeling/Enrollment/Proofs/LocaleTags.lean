/-
What the parts of a parsed locale tag look like, and that a tag is read back from its text.

A subtag may carry a line feed at its end, so what is said of its shape is said of its stem.

* `Tag.Coded` — the parts of a tag are codes of language, script and region, read in a given way;
* `parse?_coded` — so are the parts of every tag that is parsed, but for line feeds at their ends;
* `subtags_intercalate` — parts that are put together with `-` are found again, the last one without
  its line feed;
* `parse?_text` — the text of a tag is read as the tag without the line feed of its last part.
-/
import Mathlib
import Enrollment.Locale.Tag
import Enrollment.Proofs.Ascii
import Enrollment.Proofs.Numerals
import Enrollment.Proofs.Splitting

namespace Enrollment.Locale

open Enrollment.Text

variable {s : String} {t : Tag} {c : Char} {cs : List Char} {ps rest : List (List Char)}

/-! ### Codes -/

/-- Two or three small ASCII letters. -/
def IsLanguageCode (cs : List Char) : Prop :=
  (cs.length = 2 ∨ cs.length = 3) ∧ ∀ c ∈ cs, c.isLower = true

/-- A capital ASCII letter and three small ones. -/
def IsScriptCode : List Char → Prop
  | [] => False
  | c :: rest => c.isUpper = true ∧ rest.length = 3 ∧ ∀ d ∈ rest, d.isLower = true

/-- Two capital ASCII letters, or three decimal digits. -/
def IsRegionCode (cs : List Char) : Prop :=
  (cs.length = 2 ∧ ∀ c ∈ cs, c.isUpper = true) ∨
    (cs.length = 3 ∧ ∀ c ∈ cs, isDecimalDigit c = true)

/-- The parts of a tag are codes of language, script and region when they are read by `read`. -/
structure Tag.Coded (read : List Char → List Char) (t : Tag) : Prop where
  language : IsLanguageCode (read t.language.toList)
  script : ∀ s ∈ t.script, IsScriptCode (read s.toList)
  region : ∀ r ∈ t.region, IsRegionCode (read r.toList)

/-- The parts of a tag, in the order in which they are written. -/
def Tag.parts (t : Tag) : List (List Char) :=
  t.language.toList :: (t.script.toList ++ t.region.toList).map String.toList

/-- A character that may stand in a part anywhere: neither a separator nor blank. -/
structure Plain (c : Char) : Prop where
  hyphen : c ≠ '-'
  underscore : c ≠ '_'
  visible : isBlank c = false

theorem Plain.ne_lineFeed (h : Plain c) : c ≠ '\n' := by
  rintro rfl
  exact absurd h.visible (by decide +kernel)

theorem Plain.of_isAlpha (h : c.isAlpha = true) : Plain c := by
  have hrange : (0x41 ≤ c.toNat ∧ c.toNat ≤ 0x5a) ∨ (0x61 ≤ c.toNat ∧ c.toNat ≤ 0x7a) := by
    simpa [Char.isAlpha, Char.isUpper, Char.isLower, Char.le_def, UInt32.le_iff_toNat_le] using h
  refine ⟨?_, ?_, isBlank_of_graphic (by omega) (by omega)⟩
  · rintro rfl
    exact absurd h (by decide)
  · rintro rfl
    exact absurd h (by decide)

theorem Plain.of_isDecimalDigit (h : isDecimalDigit c = true) : Plain c := by
  obtain ⟨d, hd⟩ := Option.isSome_iff_exists.mp h
  refine ⟨?_, ?_, isBlank_of_digit hd⟩
  · rintro rfl
    rw [digitValue?_sign.2] at hd
    cases hd
  · rintro rfl
    rw [digitValue?_underscore] at hd
    cases hd

theorem IsLanguageCode.plain (h : IsLanguageCode cs) : cs ≠ [] ∧ ∀ c ∈ cs, Plain c := by
  refine ⟨?_, fun c hc => .of_isAlpha (by simp [Char.isAlpha, h.2 c hc])⟩
  rintro rfl
  simp [IsLanguageCode] at h

theorem IsScriptCode.plain (h : IsScriptCode cs) : cs ≠ [] ∧ ∀ c ∈ cs, Plain c := by
  cases cs with
  | nil => exact h.elim
  | cons first rest =>
    refine ⟨List.cons_ne_nil _ _, fun c hc => .of_isAlpha ?_⟩
    rcases List.mem_cons.mp hc with rfl | hc
    · simp [Char.isAlpha, h.1]
    · simp [Char.isAlpha, h.2.2 c hc]

theorem IsRegionCode.plain (h : IsRegionCode cs) : cs ≠ [] ∧ ∀ c ∈ cs, Plain c := by
  rcases h with ⟨hlength, hcs⟩ | ⟨hlength, hcs⟩
  · refine ⟨by rintro rfl; simp at hlength, fun c hc => .of_isAlpha ?_⟩
    simp [Char.isAlpha, hcs c hc]
  · exact ⟨by rintro rfl; simp at hlength, fun c hc => .of_isDecimalDigit (hcs c hc)⟩

/-- The parts of a tag consist of plain characters, as far as they are read. -/
theorem Tag.Coded.plain {read : List Char → List Char} (h : t.Coded read) :
    ∀ p ∈ t.parts, read p ≠ [] ∧ ∀ c ∈ read p, Plain c := by
  intro p hp
  rcases List.mem_cons.mp hp with rfl | hp
  · exact h.language.plain
  · obtain ⟨q, hq, rfl⟩ := List.mem_map.mp hp
    rcases List.mem_append.mp hq with hq | hq
    · exact (h.script q (Option.mem_toList.mp hq)).plain
    · exact (h.region q (Option.mem_toList.mp hq)).plain

/-- A tag of codes has no line feed. -/
theorem Tag.Coded.lineFeed_not_mem (h : t.Coded id) : ∀ p ∈ t.parts, '\n' ∉ p :=
  fun p hp hmem => ((h.plain p hp).2 _ hmem).ne_lineFeed rfl

/-- It does not matter how parts are read that both ways of reading take alike. -/
theorem Tag.Coded.congr {read read' : List Char → List Char} (h : t.Coded read)
    (hread : ∀ p ∈ t.parts, read p = read' p) : t.Coded read' := by
  refine ⟨?_, fun s hs => ?_, fun r hr => ?_⟩
  · rw [← hread _ List.mem_cons_self]
    exact h.language
  · rw [← hread _ (by simp [Tag.parts, Option.mem_def.mp hs])]
    exact h.script s hs
  · rw [← hread _ (by simp [Tag.parts, Option.mem_def.mp hr])]
    exact h.region r hr

/-! ### Line feeds at the end -/

theorem stem_concat (cs : List Char) : stem (cs ++ ['\n']) = cs := by
  simp [stem]

/-- A subtag is its stem, or its stem and a line feed. -/
theorem stem_cases (cs : List Char) : cs = stem cs ∨ cs = stem cs ++ ['\n'] := by
  rw [stem]
  split
  · rename_i hlast
    obtain ⟨front, rfl⟩ := List.getLast?_eq_some_iff.mp hlast
    simp
  · exact .inl rfl

theorem stem_of_not_mem (h : '\n' ∉ cs) : stem cs = cs := by
  rcases stem_cases cs with hcs | hcs
  · exact hcs.symm
  · rw [hcs] at h
    simp at h

theorem mem_of_mem_stem (h : c ∈ stem cs) : c ∈ cs := by
  rcases stem_cases cs with hcs | hcs
  · rwa [hcs]
  · rw [hcs]
    exact List.mem_append_left _ h

/-- Where letters are recased and a line feed at the end stays, the stem is recased. -/
theorem stem_recased {recase : List Char → List Char}
    (hfeed : recase (stem cs ++ ['\n']) = recase (stem cs) ++ ['\n'])
    (hplain : ∀ c ∈ recase (stem cs), Plain c) : stem (recase cs) = recase (stem cs) := by
  rcases stem_cases cs with hcs | hcs
  · rw [← hcs] at hplain ⊢
    exact stem_of_not_mem fun h => (hplain _ h).ne_lineFeed rfl
  · rw [hcs, hfeed, stem_concat, stem_concat]

/-- A subtag whose stem is in canonical case is so itself. -/
theorem recased_eq_self {recase : List Char → List Char}
    (hfeed : recase (stem cs ++ ['\n']) = recase (stem cs) ++ ['\n'])
    (hstem : recase (stem cs) = stem cs) : recase cs = cs := by
  rcases stem_cases cs with hcs | hcs
  · rw [← hcs] at hstem
    exact hstem
  · rw [hcs, hfeed, hstem]

/-! ### Letter case -/

theorem small_concat (cs : List Char) : small (cs ++ ['\n']) = small cs ++ ['\n'] := by
  simp [small]

theorem capital_concat (cs : List Char) : capital (cs ++ ['\n']) = capital cs ++ ['\n'] := by
  simp [capital]

theorem capitalised_concat (h : cs ≠ []) :
    capitalised (cs ++ ['\n']) = capitalised cs ++ ['\n'] := by
  cases cs with
  | nil => exact absurd rfl h
  | cons c rest => simp [capitalised, small_concat]

theorem small_of_isLower (h : ∀ c ∈ cs, c.isLower = true) : small cs = cs := by
  refine (List.map_congr_left fun c hc => ?_).trans (List.map_id cs)
  exact Char.toLower_eq_of_not_isUpper (Char.not_isUpper_of_isLower (h c hc))

/-- Only letters change their case. -/
theorem eq_of_toLower {d : Char} (hd : d.isAlpha = false) (h : c.toLower = d) : c = d := by
  rw [← h, Char.isAlpha_toLower_eq_isAlpha, Char.isAlpha, Bool.or_eq_false_iff] at hd
  rwa [Char.toLower_eq_of_not_isUpper (by simp [hd.1])] at h

theorem eq_of_toUpper {d : Char} (hd : d.isAlpha = false) (h : c.toUpper = d) : c = d := by
  rw [← h, Char.isAlpha_toUpper_eq_isAlpha, Char.isAlpha, Bool.or_eq_false_iff] at hd
  rwa [Char.toUpper_eq_of_not_isLower (by simp [hd.2])] at h

/-- No letter is a decimal digit of any script. -/
theorem isDecimalDigit_of_isAlpha (h : c.isAlpha = true) : isDecimalDigit c = false := by
  -- The letters lie between the digits of ASCII and those of all other scripts.
  have hrange : 0x41 ≤ c.toNat ∧ c.toNat ≤ 0x7a := by
    have : (0x41 ≤ c.toNat ∧ c.toNat ≤ 0x5a) ∨ (0x61 ≤ c.toNat ∧ c.toNat ≤ 0x7a) := by
      simpa [Char.isAlpha, Char.isUpper, Char.isLower, Char.le_def, UInt32.le_iff_toNat_le] using h
    omega
  by_contra hdigit
  obtain ⟨d, hd⟩ := Option.isSome_iff_exists.mp (Bool.of_not_eq_false hdigit)
  obtain ⟨z, hz, -⟩ := Option.map_eq_some_iff.mp hd
  have hapart : ∀ z ∈ digitZeros.toList, z + 10 ≤ 0x41 ∨ 0x7a < z := by decide +kernel
  have := hapart z (by simpa using Array.mem_of_find?_eq_some hz)
  have hzero := Array.find?_some hz
  simp only [Bool.and_eq_true, decide_eq_true_eq] at hzero
  omega

theorem toUpper_of_isDecimalDigit (h : isDecimalDigit c = true) : c.toUpper = c := by
  refine Char.toUpper_eq_of_not_isLower fun hlower => ?_
  rw [isDecimalDigit_of_isAlpha (by simp [Char.isAlpha, hlower])] at h
  cases h

theorem IsScriptCode.capitalised_eq (h : IsScriptCode cs) : capitalised cs = cs := by
  cases cs with
  | nil => rfl
  | cons c rest =>
    rw [capitalised, small_of_isLower h.2.2,
      Char.toUpper_eq_of_not_isLower (Char.not_isLower_of_isUpper h.1)]

theorem IsRegionCode.capital_eq (h : IsRegionCode cs) : capital cs = cs := by
  refine (List.map_congr_left fun c hc => ?_).trans (List.map_id cs)
  rcases h with ⟨-, hcs⟩ | ⟨-, hcs⟩
  · exact Char.toUpper_eq_of_not_isLower (Char.not_isLower_of_isUpper (hcs c hc))
  · exact toUpper_of_isDecimalDigit (hcs c hc)

/-! ### What subtags are taken for -/

theorem isLanguage_iff : isLanguage cs = true ↔
    ((stem cs).length = 2 ∨ (stem cs).length = 3) ∧ ∀ c ∈ stem cs, c.isAlpha = true := by
  simp [isLanguage, isAsciiLetter]

theorem isScript_iff :
    isScript cs = true ↔ (stem cs).length = 4 ∧ ∀ c ∈ stem cs, c.isAlpha = true := by
  simp [isScript, isAsciiLetter]

theorem isRegion_iff : isRegion cs = true ↔
    ((stem cs).length = 2 ∧ ∀ c ∈ stem cs, c.isAlpha = true) ∨
      ((stem cs).length = 3 ∧ ∀ c ∈ stem cs, isDecimalDigit c = true) := by
  simp [isRegion, isAsciiLetter]

theorem IsLanguageCode.small (h : isLanguage cs = true) : IsLanguageCode (stem (small cs)) := by
  rw [isLanguage_iff] at h
  have hcode : IsLanguageCode (Locale.small (stem cs)) := by
    refine ⟨by simpa [Locale.small] using h.1, fun c hc => ?_⟩
    obtain ⟨d, hd, rfl⟩ := List.mem_map.mp hc
    rw [Char.isLower_toLower_eq_isAlpha]
    exact h.2 d hd
  rwa [stem_recased (small_concat _) hcode.plain.2]

theorem IsScriptCode.capitalised (h : isScript cs = true) :
    IsScriptCode (stem (capitalised cs)) := by
  rw [isScript_iff] at h
  have hne : stem cs ≠ [] := by
    intro hnil
    rw [hnil] at h
    simp at h
  have hcode : IsScriptCode (Locale.capitalised (stem cs)) := by
    generalize stem cs = body at h hne
    cases body with
    | nil => exact absurd rfl hne
    | cons c rest =>
      refine ⟨?_, by simpa [small] using h.1, fun d hd => ?_⟩
      · rw [Char.isUpper_toUpper_eq_isAlpha]
        exact h.2 c List.mem_cons_self
      · obtain ⟨e, he, rfl⟩ := List.mem_map.mp hd
        rw [Char.isLower_toLower_eq_isAlpha]
        exact h.2 e (List.mem_cons_of_mem c he)
  rwa [stem_recased (capitalised_concat hne) hcode.plain.2]

theorem IsRegionCode.capital (h : isRegion cs = true) : IsRegionCode (stem (capital cs)) := by
  rw [isRegion_iff] at h
  have hcode : IsRegionCode (Locale.capital (stem cs)) := by
    rcases h with ⟨hlength, hcs⟩ | ⟨hlength, hcs⟩
    · refine .inl ⟨by simpa [Locale.capital] using hlength, fun c hc => ?_⟩
      obtain ⟨d, hd, rfl⟩ := List.mem_map.mp hc
      rw [Char.isUpper_toUpper_eq_isAlpha]
      exact hcs d hd
    · refine .inr ⟨by simpa [Locale.capital] using hlength, fun c hc => ?_⟩
      obtain ⟨d, hd, rfl⟩ := List.mem_map.mp hc
      rw [toUpper_of_isDecimalDigit (hcs d hd)]
      exact hcs d hd
  rwa [stem_recased (capital_concat _) hcode.plain.2]

/-! ### Parts that are put together -/

theorem head?_stem (h : stem cs ≠ []) : cs.head? = (stem cs).head? := by
  obtain ⟨c, rest, hc⟩ := List.exists_cons_of_ne_nil h
  rcases stem_cases cs with hcs | hcs
  · rw [← hcs]
  · rw [hcs, stem_concat, hc]
    rfl

theorem plain_or_lineFeed (hplain : ∀ c ∈ stem cs, Plain c) : ∀ c ∈ cs, Plain c ∨ c = '\n' := by
  intro c hc
  rcases stem_cases cs with hcs | hcs
  · exact .inl (hplain c (hcs ▸ hc))
  · rw [hcs] at hc
    rcases List.mem_append.mp hc with hc | hc
    · exact .inl (hplain c hc)
    · exact .inr (List.mem_singleton.mp hc)

/-- A joined text begins as its first piece does. -/
theorem head?_intercalate {sep p : List Char} (h : p ≠ []) :
    (sep.intercalate (p :: ps)).head? = p.head? := by
  obtain ⟨c, rest, rfl⟩ := List.exists_cons_of_ne_nil h
  cases ps with
  | nil => rw [List.intercalate_singleton]
  | cons q ps =>
    rw [List.intercalate_cons_cons]
    rfl

/-- A joined text ends with a hyphen or as its last piece does, unless it is empty. -/
theorem getLast?_intercalate (front : List (List Char)) (last : List Char)
    (hne : front = [] → last ≠ []) :
    ∃ c ∈ (['-'].intercalate (front ++ [last])).getLast?, c = '-' ∨ c ∈ last := by
  rw [intercalate_concat, List.getLast?_append]
  rcases List.eq_nil_or_concat' last with rfl | ⟨body, c, rfl⟩
  · rcases List.eq_nil_or_concat' front with rfl | ⟨before, q, rfl⟩
    · exact absurd rfl (hne rfl)
    · exact ⟨'-', by simp, .inl rfl⟩
  · exact ⟨c, by simp, .inr (by simp)⟩

section Joined

variable {front : List (List Char)} {last : List Char}

/-- A joined text of plain parts begins and ends with a character that is seen, if its first part is
not empty. -/
theorem visible_ends (hfirst : ∃ p ∈ (front ++ [last]).head?, stem p ≠ [])
    (hplain : ∀ p ∈ front ++ [last], ∀ c ∈ stem p, Plain c) :
    (∃ c ∈ (['-'].intercalate (front ++ [stem last])).head?, isBlank c = false) ∧
      ∃ c ∈ (['-'].intercalate (front ++ [stem last])).getLast?, isBlank c = false := by
  obtain ⟨p, hp, hne⟩ := hfirst
  obtain ⟨c, rest, hc⟩ := List.exists_cons_of_ne_nil hne
  have hvisible : isBlank c = false :=
    (hplain p (List.mem_of_mem_head? hp) c (hc ▸ List.mem_cons_self)).visible
  obtain ⟨d, hd, hlast⟩ := getLast?_intercalate front (stem last) (by
    rintro rfl
    cases hp
    exact hne)
  refine ⟨⟨c, ?_, hvisible⟩, d, hd, ?_⟩
  · cases front with
    | nil =>
      -- The first part is the last one, of which the stem stands in the text.
      cases hp
      rw [List.nil_append, head?_intercalate hne, hc]
      rfl
    | cons q front =>
      cases hp
      rw [List.cons_append, head?_intercalate (fun h => hne (by rw [h]; rfl)), head?_stem hne, hc]
      rfl
  · rcases hlast with rfl | hlast
    · decide +kernel
    · exact (hplain last (by simp) d hlast).visible

/-- Of a joined text only the line feed of its last part is trimmed away. -/
theorem trimBoth_intercalate (hfirst : ∃ p ∈ (front ++ [last]).head?, stem p ≠ [])
    (hplain : ∀ p ∈ front ++ [last], ∀ c ∈ stem p, Plain c) :
    trimBoth isBlank (['-'].intercalate (front ++ [last])) =
      ['-'].intercalate (front ++ [stem last]) := by
  obtain ⟨hhead, hend⟩ := visible_ends hfirst hplain
  obtain ⟨after, hafter, hlast⟩ : ∃ after, (∀ c ∈ after, isBlank c = true) ∧
      last = stem last ++ after := by
    rcases stem_cases last with h | h
    · exact ⟨[], by simp, by rwa [List.append_nil]⟩
    · exact ⟨['\n'], fun c hc => List.mem_singleton.mp hc ▸ by decide +kernel, h⟩
  have hsplit : ['-'].intercalate (front ++ [last]) =
      ['-'].intercalate (front ++ [stem last]) ++ after := by
    rw [intercalate_concat, intercalate_concat, List.append_assoc, ← hlast]
  rw [hsplit, trimBoth_of_ends hhead hend hafter]

/-- **Parts that are put together with `-` are found again**, the last one without the line feed that
it may end in; the first one may not be empty. -/
theorem subtags_intercalate (hs : s.toList = ['-'].intercalate (front ++ [last]))
    (hfirst : ∃ p ∈ (front ++ [last]).head?, stem p ≠ [])
    (hplain : ∀ p ∈ front ++ [last], ∀ c ∈ stem p, Plain c) :
    subtags s = front ++ [stem last] := by
  have hparts : ∀ p ∈ front ++ [stem last], ∀ c ∈ p, Plain c ∨ c = '\n' := by
    intro p hp
    rcases List.mem_append.mp hp with hp | hp
    · exact plain_or_lineFeed (hplain p (List.mem_append_left _ hp))
    · rw [List.mem_singleton] at hp
      exact fun c hc => .inl (hplain last (by simp) c (hp ▸ hc))
  -- No underscore stands in the text, so replacing them changes nothing.
  have hhyphens : ∀ c ∈ ['-'].intercalate (front ++ [stem last]),
      (if c = '_' then '-' else c) = c := by
    intro c hc
    refine if_neg ?_
    rintro rfl
    rcases mem_intercalate hc with h | ⟨p, hp, hmem⟩
    · exact absurd h (by decide)
    · exact (hparts p hp _ hmem).elim (fun h => h.underscore rfl) (by decide)
  rw [subtags, hs, trimBoth_intercalate hfirst hplain, List.map_congr_left hhyphens, List.map_id']
  exact splitAt_intercalate (by simp) fun p hp hmem =>
    (hparts p hp _ hmem).elim (fun h => h.hyphen rfl) (by decide)

end Joined

/-! ### The text of a tag -/

/-- The tag without the line feed that its last part may end in. -/
def Tag.trimmed (t : Tag) : Tag :=
  match t.region, t.script with
  | some r, _ => { t with region := some (String.ofList (stem r.toList)) }
  | none, some s => { t with script := some (String.ofList (stem s.toList)) }
  | none, none => { t with language := String.ofList (stem t.language.toList) }

/-- The last part of a tag is the only one that trimming changes. -/
theorem Tag.trimmed_parts (t : Tag) :
    ∃ front last, t.parts = front ++ [last] ∧ t.trimmed.parts = front ++ [stem last] ∧
      (t.trimmed = t ↔ stem last = last) := by
  have hsame : ∀ s : String, String.ofList (stem s.toList) = s ↔ stem s.toList = s.toList :=
    fun s => ⟨fun h => by simpa using congrArg String.toList h,
      fun h => by rw [h, String.ofList_toList]⟩
  obtain ⟨language, script, region⟩ := t
  cases region with
  | some r =>
    cases script with
    | none => exact ⟨[_], r.toList, rfl, by simp [parts, trimmed], by simp [trimmed, hsame]⟩
    | some s => exact ⟨[_, _], r.toList, rfl, by simp [parts, trimmed], by simp [trimmed, hsame]⟩
  | none =>
    cases script with
    | none => exact ⟨[], language.toList, rfl, by simp [parts, trimmed], by simp [trimmed, hsame]⟩
    | some s => exact ⟨[_], s.toList, rfl, by simp [parts, trimmed], by simp [trimmed, hsame]⟩

theorem Tag.text_eq (h : ∀ p ∈ t.parts, p ≠ []) : t.text.toList = ['-'].intercalate t.parts := by
  have hne : ∀ s : String, s.toList ≠ [] → s ≠ "" := fun s hs h => hs (h ▸ rfl)
  obtain ⟨language, script, region⟩ := t
  have hlanguage := hne language (h _ List.mem_cons_self)
  rw [text, String.toList_intercalate]
  cases script with
  | none =>
    cases region with
    | none => simp [parts, hlanguage]
    | some r => simp [parts, hlanguage, hne r (h _ (by simp [parts]))]
  | some s =>
    have hscript := hne s (h _ (by simp [parts]))
    cases region with
    | none => simp [parts, hlanguage, hscript]
    | some r => simp [parts, hlanguage, hscript, hne r (h _ (by simp [parts]))]

/-! ### What is taken for a tag -/

theorem takeSubtag_eq {kind : List Char → Bool} {found : Option (List Char)}
    (h : takeSubtag kind ps = (found, rest)) :
    ps = found.toList ++ rest ∧ ∀ p ∈ found, kind p = true := by
  cases ps with
  | nil =>
    cases h
    exact ⟨rfl, nofun⟩
  | cons p ps =>
    rw [takeSubtag] at h
    split at h
    · rename_i hp
      cases h
      exact ⟨rfl, by rintro _ ⟨⟩; exact hp⟩
    · cases h
      exact ⟨rfl, nofun⟩

/-- The subtags that make up a tag, and those behind them, of which none is empty. -/
theorem ofSubtags?_eq_some (h : Tag.ofSubtags? ps = some t) :
    ∃ first script region rest,
      ps = first :: (Option.toList script ++ (Option.toList region ++ rest)) ∧
      isLanguage first = true ∧ (∀ s ∈ script, isScript s = true) ∧
      (∀ r ∈ region, isRegion r = true) ∧ [] ∉ rest ∧
      t = { language := String.ofList (small first)
            script := script.map fun s => String.ofList (capitalised s)
            region := region.map fun r => String.ofList (capital r) } := by
  cases ps with
  | nil => cases h
  | cons first ps =>
    rw [Tag.ofSubtags?] at h
    split at h
    · rename_i hfirst
      rcases hscript : takeSubtag isScript ps with ⟨script, ps'⟩
      rcases hregion : takeSubtag isRegion ps' with ⟨region, rest⟩
      simp only [hscript, hregion] at h
      split at h
      · cases h
      · rename_i hrest
        obtain ⟨rfl, hs⟩ := takeSubtag_eq hscript
        obtain ⟨rfl, hr⟩ := takeSubtag_eq hregion
        refine ⟨first, script, region, rest, rfl, hfirst, hs, hr, ?_, (Option.some.inj h).symm⟩
        simpa using hrest
    · cases h

/-- **The parts of a tag that is parsed are codes**, but for a line feed at the end of each. -/
theorem parse?_coded (h : Tag.parse? s = some t) : t.Coded stem := by
  obtain ⟨first, script, region, rest, -, hfirst, hscript, hregion, -, rfl⟩ := ofSubtags?_eq_some h
  refine ⟨?_, ?_, ?_⟩
  · rw [String.toList_ofList]
    exact .small hfirst
  · intro _ hs
    obtain ⟨p, hp, rfl⟩ := Option.map_eq_some_iff.mp hs
    rw [String.toList_ofList]
    exact .capitalised (hscript p hp)
  · intro _ hr
    obtain ⟨p, hp, rfl⟩ := Option.map_eq_some_iff.mp hr
    rw [String.toList_ofList]
    exact .capital (hregion p hp)

theorem lineFeed_not_mem_map {f : Char → Char} (hf : ∀ c, f c = '\n' → c = '\n') (h : '\n' ∉ cs) :
    '\n' ∉ cs.map f := by
  rintro hmem
  obtain ⟨c, hc, hfc⟩ := List.mem_map.mp hmem
  exact h (hf c hfc ▸ hc)

/-- Recasing letters makes no line feed. -/
theorem lineFeed_not_mem_recased (h : '\n' ∉ cs) :
    '\n' ∉ small cs ∧ '\n' ∉ capitalised cs ∧ '\n' ∉ capital cs := by
  refine ⟨lineFeed_not_mem_map (fun _ => eq_of_toLower (by decide)) h, ?_,
    lineFeed_not_mem_map (fun _ => eq_of_toUpper (by decide)) h⟩
  cases cs with
  | nil => exact h
  | cons c rest =>
    obtain ⟨hc, hrest⟩ := List.ne_and_not_mem_of_not_mem_cons h
    have hsmall : '\n' ∉ small rest :=
      lineFeed_not_mem_map (fun _ => eq_of_toLower (by decide)) hrest
    refine List.not_mem_cons_of_ne_of_not_mem (fun hfeed => ?_) hsmall
    exact hc (eq_of_toUpper (by decide) hfeed.symm).symm

/-- A text of one line gives a tag without line feeds. -/
theorem lineFeed_not_mem_parts (h : Tag.parse? s = some t) (hs : '\n' ∉ (strip s).toList) :
    ∀ p ∈ t.parts, '\n' ∉ p := by
  obtain ⟨first, script, region, rest, hsubtags, -, -, -, -, rfl⟩ := ofSubtags?_eq_some h
  have hclean : ∀ p ∈ subtags s, '\n' ∉ p := by
    intro p hp hmem
    obtain ⟨c, hc, hfeed⟩ := List.mem_map.mp (mem_of_mem_splitAt hp hmem)
    split at hfeed
    · exact absurd hfeed (by decide)
    · rw [strip, String.toList_ofList] at hs
      exact hs (hfeed ▸ hc)
  rw [hsubtags] at hclean
  intro p hp
  rcases List.mem_cons.mp hp with rfl | hp
  · rw [String.toList_ofList]
    exact (lineFeed_not_mem_recased (hclean first (by simp))).1
  · obtain ⟨q, hq, rfl⟩ := List.mem_map.mp hp
    rcases List.mem_append.mp hq with hq | hq
    · obtain ⟨raw, hraw, rfl⟩ := Option.map_eq_some_iff.mp (Option.mem_toList.mp hq)
      rw [String.toList_ofList]
      exact (lineFeed_not_mem_recased (hclean raw (by simp [hraw]))).2.1
    · obtain ⟨raw, hraw, rfl⟩ := Option.map_eq_some_iff.mp (Option.mem_toList.mp hq)
      rw [String.toList_ofList]
      exact (lineFeed_not_mem_recased (hclean raw (by simp [hraw]))).2.2

/-! ### A tag is read back -/

theorem IsLanguageCode.taken (h : IsLanguageCode (stem cs)) :
    isLanguage cs = true ∧ Locale.small cs = cs := by
  refine ⟨?_, recased_eq_self (small_concat _) (small_of_isLower h.2)⟩
  exact isLanguage_iff.mpr ⟨h.1, fun c hc => by simp [Char.isAlpha, h.2 c hc]⟩

theorem IsScriptCode.taken (h : IsScriptCode (stem cs)) :
    isScript cs = true ∧ Locale.capitalised cs = cs := by
  refine ⟨?_, recased_eq_self (capitalised_concat h.plain.1) h.capitalised_eq⟩
  rw [isScript_iff]
  generalize stem cs = body at h
  cases body with
  | nil => exact h.elim
  | cons c rest =>
    refine ⟨by simp [h.2.1], fun d hd => ?_⟩
    rcases List.mem_cons.mp hd with rfl | hd
    · simp [Char.isAlpha, h.1]
    · simp [Char.isAlpha, h.2.2 d hd]

/-- A region is never taken for a script, which is longer. -/
theorem IsRegionCode.taken (h : IsRegionCode (stem cs)) :
    isRegion cs = true ∧ isScript cs = false ∧ Locale.capital cs = cs := by
  refine ⟨?_, ?_, recased_eq_self (capital_concat _) h.capital_eq⟩
  · refine isRegion_iff.mpr (h.imp (And.imp_right fun hcs c hc => ?_) id)
    simp [Char.isAlpha, hcs c hc]
  · have hlength : (stem cs).length ≠ 4 := by
      rcases h with ⟨h, -⟩ | ⟨h, -⟩ <;> omega
    simp [isScript, hlength]

/-- The parts of a tag are taken for what they are, whatever stands behind its region. -/
theorem ofSubtags?_parts (h : t.Coded stem) (rest : List (List Char))
    (hrest : t.region = none → rest = []) :
    Tag.ofSubtags? (t.parts ++ rest) = if rest.any List.isEmpty then none else some t := by
  obtain ⟨language, script, region⟩ := t
  obtain ⟨hlanguage, hsmall⟩ := h.language.taken
  cases region with
  | none =>
    cases hrest rfl
    cases script with
    | none => simp [Tag.parts, Tag.ofSubtags?, takeSubtag, hlanguage, hsmall]
    | some s =>
      obtain ⟨hscript, hcapitalised⟩ := (h.script s rfl).taken
      simp [Tag.parts, Tag.ofSubtags?, takeSubtag, hlanguage, hsmall, hscript, hcapitalised]
  | some r =>
    obtain ⟨hregion, hnoScript, hcapital⟩ := (h.region r rfl).taken
    cases script with
    | none =>
      simp [Tag.parts, Tag.ofSubtags?, takeSubtag, hlanguage, hsmall, hregion, hnoScript, hcapital]
    | some s =>
      obtain ⟨hscript, hcapitalised⟩ := (h.script s rfl).taken
      simp [Tag.parts, Tag.ofSubtags?, takeSubtag, hlanguage, hsmall, hscript, hcapitalised,
        hregion, hcapital]

theorem stem_stem (hplain : ∀ c ∈ stem cs, Plain c) : stem (stem cs) = stem cs :=
  stem_of_not_mem fun h => (hplain _ h).ne_lineFeed rfl

theorem Tag.Coded.trimmed (h : t.Coded stem) : t.trimmed.Coded stem := by
  have hstem : ∀ s : String, (∀ c ∈ stem s.toList, Plain c) →
      stem (String.ofList (stem s.toList)).toList = stem s.toList := fun s hs => by
    rw [String.toList_ofList, stem_stem hs]
  obtain ⟨language, script, region⟩ := t
  cases region with
  | some r =>
    refine ⟨h.language, h.script, ?_⟩
    rintro _ ⟨⟩
    rw [hstem r (h.region r rfl).plain.2]
    exact h.region r rfl
  | none =>
    cases script with
    | some s =>
      refine ⟨h.language, ?_, h.region⟩
      rintro _ ⟨⟩
      rw [hstem s (h.script s rfl).plain.2]
      exact h.script s rfl
    | none =>
      refine ⟨?_, h.script, h.region⟩
      change IsLanguageCode (stem (String.ofList (stem language.toList)).toList)
      rw [hstem language h.language.plain.2]
      exact h.language

/-- **The text of a tag is read as the tag**, without the line feed that its last part may end in. -/
theorem parse?_text (h : t.Coded stem) : Tag.parse? t.text = some t.trimmed := by
  obtain ⟨front, last, hparts, htrimmed, -⟩ := t.trimmed_parts
  have hne : ∀ p ∈ t.parts, p ≠ [] := by
    rintro _ hp rfl
    exact (h.plain [] hp).1 rfl
  have hsubtags : subtags t.text = t.trimmed.parts := by
    rw [htrimmed]
    refine subtags_intercalate (hparts ▸ Tag.text_eq hne) ?_ fun p hp => (h.plain p (hparts ▸ hp)).2
    rw [← hparts]
    exact ⟨_, rfl, (h.plain _ List.mem_cons_self).1⟩
  have htaken := ofSubtags?_parts h.trimmed [] fun _ => rfl
  rw [Tag.parse?, hsubtags, ← List.append_nil t.trimmed.parts, htaken]
  rfl

end Enrollment.Locale
