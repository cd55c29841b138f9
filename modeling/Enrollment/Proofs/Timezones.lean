/-
Which time zones are found, and what a request for locale settings is resolved to.

* `timezone?_eq_some_iff` — a time zone is found by every text that is its name but for letter case
  and blanks around it, and by no other;
* `Resolver.Settled` — what can be relied on in the settings that a request is resolved to;
* `Resolver.resolve_settled` — every request is resolved so, if the default is a known time zone.

That no two names differ in letter case alone is worked out over the table of names, on what a small
letter and its capital have in common (`caseless`), and with the names in the order of that.
-/
import Enrollment.Proofs.Ascii
import Enrollment.Proofs.Languages
import Enrollment.Proofs.Trimming
import Enrollment.Locale.Resolver

namespace Enrollment

/-! ### Letters in either case -/

namespace Text

variable {s s' : String}

/-- What the bytes of two texts have in common that differ in letter case alone. -/
def caseless (s : String) : List Nat := (codes s).map (· % 32)

theorem caseless_eq_of_lower (hs : ∀ n ∈ codes s, n < 0x80) (hs' : ∀ n ∈ codes s', n < 0x80)
    (h : lower s = lower s') : caseless s = caseless s' := by
  have hascii : ∀ {s : String}, (∀ n ∈ codes s, n < 0x80) → ∀ c ∈ s.toList, c.toNat < 0x80 :=
    fun hs c hc => hs _ (codes_of_ascii hs ▸ List.mem_map_of_mem hc)
  have hfolded : ∀ {s : String}, (∀ n ∈ codes s, n < 0x80) →
      caseless s = (lower s).toList.map (·.toNat % 32) := by
    intro s hs
    rw [lower_eq_asciiLower (hascii hs), asciiLower, String.toList_ofList, List.map_map, caseless,
      codes_of_ascii hs, List.map_map]
    exact List.map_congr_left fun c _ => (toNat_toLower_mod c).symm
  rw [hfolded hs, hfolded hs', h]

end Text

namespace Locale

open Text

variable {name zone fallback : String}

/-! ### The table of names -/

/-- Every name is a text of ASCII characters that are seen. -/
theorem timezoneNames_graphic :
    ∀ zone ∈ timezoneNames, codes zone ≠ [] ∧ ∀ n ∈ codes zone, 0x20 < n ∧ n < 0x7f := by
  have htable : timezoneNames.all (fun zone => !(codes zone).isEmpty &&
      (codes zone).all fun n => 0x20 < n && n < 0x7f) = true := by decide +kernel
  intro zone hzone
  simpa using List.all_eq_true.mp htable zone hzone

theorem timezoneNames_ascii (zone : String) (hzone : zone ∈ timezoneNames) :
    ∀ n ∈ codes zone, n < 0x80 :=
  fun n hn => Nat.lt_succ_of_lt ((timezoneNames_graphic zone hzone).2 n hn).2

/-- No two names differ in letter case alone. -/
theorem nodup_caseless : (timezoneNames.map caseless).Nodup := by
  -- In order, each one is compared with the next only.
  have hsorted : ((timezoneNames.map caseless).insertionSort (· ≤ ·)).IsChain (· < ·) := by
    decide +kernel
  exact (List.perm_insertionSort _ _).nodup_iff.mp
    ((List.isChain_iff_pairwise.mp hsorted).imp ne_of_lt)

theorem lower_injective : ∀ zone ∈ timezoneNames, ∀ zone' ∈ timezoneNames,
    lower zone = lower zone' → zone = zone' := by
  intro zone hzone zone' hzone' h
  have hcaseless := caseless_eq_of_lower (timezoneNames_ascii zone hzone)
    (timezoneNames_ascii zone' hzone') h
  exact List.inj_on_of_nodup_map nodup_caseless hzone hzone' hcaseless

/-- A name has no blanks at its ends. -/
theorem strip_timezone (hzone : zone ∈ timezoneNames) : strip zone = zone := by
  have hgraphic := (timezoneNames_graphic zone hzone).2
  have hcodes := codes_of_ascii (timezoneNames_ascii zone hzone)
  rw [strip, trimBoth_eq_self fun c hc => ?_, String.ofList_toList]
  have hc := hgraphic c.toNat (hcodes ▸ List.mem_map_of_mem hc)
  exact isBlank_of_graphic hc.1 hc.2

/-! ### Finding a time zone -/

/-- Looking up in an index is looking for an entry with the key. -/
theorem find?_index {α β : Type} [DecidableEq β] (key : α → β) (k : β) (entries : List α) :
    ((entries.map fun a => (key a, a)).find? (·.1 = k)).map (·.2) =
      entries.find? fun a => key a = k := by
  rw [List.find?_map, Option.map_map]
  exact Option.map_id'

/-- **A time zone is found by its name**, in any letter case and with any blanks around it, and by
nothing else. -/
theorem timezone?_eq_some_iff :
    timezone? name = some zone ↔ zone ∈ timezoneNames ∧ lower (strip name) = lower zone := by
  rw [timezone?, timezoneIndex, find?_index, find?_key_eq_some lower_injective]
  exact and_congr_right fun _ => eq_comm

theorem timezone?_eq_none_iff :
    timezone? name = none ↔ ∀ zone ∈ timezoneNames, lower (strip name) ≠ lower zone := by
  rw [Option.eq_none_iff_forall_ne_some]
  simp only [ne_eq, timezone?_eq_some_iff, not_and]

/-- The empty text is looked up like every other, as it names no time zone. -/
theorem timezoneOr_some : timezoneOr fallback (some name) = (timezone? name).getD fallback := by
  rw [timezoneOr]
  split
  · rename_i hname
    subst hname
    rw [timezone?_eq_none_iff.mpr fun zone hzone h => ?_, Option.getD_none]
    have hcaseless : caseless "" = caseless zone :=
      caseless_eq_of_lower (by decide) (timezoneNames_ascii zone hzone) h
    exact (timezoneNames_graphic zone hzone).1 (List.map_eq_nil_iff.mp hcaseless.symm)
  · rfl

/-! ### Resolving a request -/

theorem Resolved.ext {out out' : Resolved} (htimezone : out.timezone = out'.timezone)
    (hlanguage : out.language = out'.language) : out = out' := by
  cases out
  cases out'
  cases htimezone
  cases hlanguage
  rfl

namespace Resolver

variable {r : Resolver} {timezone : Option String} {language : Option Int}

/-- What can be relied on in the settings that a request is resolved to. -/
structure Settled (r : Resolver) (timezone : Option String) (language : Option Int)
    (out : Resolved) : Prop where
  /-- The time zone is a known one. -/
  known : out.timezone ∈ timezoneNames
  /-- The language is one of the catalog, or the default. -/
  offered : (∃ l ∈ r.catalog, l.id = out.language) ∨ out.language = r.language
  /-- What has been resolved is resolved to itself. -/
  again : r.resolve (some out.timezone) (some out.language) = out
  /-- A time zone that is asked for by its name is the one that is taken. -/
  named : ∀ name zone, timezone = some name → zone ∈ timezoneNames →
    lower (strip name) = lower zone → out.timezone = zone
  /-- Where no time zone has the name, the default is taken. -/
  unnamed : (∀ name, timezone = some name → ∀ zone ∈ timezoneNames,
    lower (strip name) ≠ lower zone) → out.timezone = r.timezone
  /-- A language of the catalog that is asked for is taken, unless its id is zero. -/
  asked : ∀ id, language = some id → id ≠ 0 → (∃ l ∈ r.catalog, l.id = id) → out.language = id

theorem resolve_timezone (r : Resolver) (timezone : Option String) (language : Option Int) :
    (r.resolve timezone language).timezone = (timezone.bind timezone?).getD r.timezone := by
  rw [resolve]
  cases timezone with
  | none => rfl
  | some name => rw [timezoneOr_some, Option.bind_some]

theorem resolve_language (r : Resolver) (timezone : Option String) (language : Option Int) :
    (r.resolve timezone language).language = r.languageId language := rfl

theorem languageId_eq_of_knows {id : Int} (hid : id ≠ 0) (h : ∃ l ∈ r.catalog, l.id = id) :
    r.languageId (some id) = id := by
  simp [languageId, hid, Catalog.knows_iff.mpr h]

theorem languageId_cases (r : Resolver) (language : Option Int) :
    r.languageId language = r.language ∨ ∃ id, language = some id ∧ id ≠ 0 ∧
      (∃ l ∈ r.catalog, l.id = id) ∧ r.languageId language = id := by
  cases language with
  | none => exact .inl rfl
  | some id =>
    rw [languageId]
    split
    · exact .inl rfl
    · rename_i hid
      split
      · rename_i hknown
        exact .inr ⟨id, rfl, hid, Catalog.knows_iff.mp hknown, rfl⟩
      · exact .inl rfl

theorem languageId_again (r : Resolver) (language : Option Int) :
    r.languageId (some (r.languageId language)) = r.languageId language := by
  rcases r.languageId_cases language with h | ⟨id, -, hid, hknown, h⟩
  · rw [h]
    rcases r.languageId_cases (some r.language) with h | ⟨id, hid, -, -, h⟩
    · exact h
    · rw [h, Option.some.inj hid]
  · rw [h, languageId_eq_of_knows hid hknown]

/-- **Every request is settled** by a resolver whose default time zone is a known one. -/
theorem resolve_settled (r : Resolver) (hdefault : r.timezone ∈ timezoneNames)
    (timezone : Option String) (language : Option Int) :
    r.Settled timezone language (r.resolve timezone language) := by
  have hknown : (r.resolve timezone language).timezone ∈ timezoneNames := by
    rw [resolve_timezone]
    cases hfound : timezone.bind timezone? with
    | none => exact hdefault
    | some zone =>
      obtain ⟨name, -, hname⟩ := Option.bind_eq_some_iff.mp hfound
      exact (timezone?_eq_some_iff.mp hname).1
  refine ⟨hknown, ?_, ?_, ?_, ?_, ?_⟩
  · rcases r.languageId_cases language with h | ⟨id, -, -, hoffered, h⟩
    · exact .inr h
    · rw [resolve_language, h]
      exact .inl hoffered
  · -- A known name is found by itself.
    have hself := timezone?_eq_some_iff.mpr ⟨hknown, congrArg lower (strip_timezone hknown)⟩
    refine Resolved.ext ?_ (r.languageId_again language)
    rw [resolve_timezone, Option.bind_some, hself, Option.getD_some]
  · intro name zone htimezone hzone hname
    rw [resolve_timezone, htimezone, Option.bind_some, timezone?_eq_some_iff.mpr ⟨hzone, hname⟩,
      Option.getD_some]
  · intro hunnamed
    have hnone : timezone.bind timezone? = none :=
      Option.bind_eq_none_iff.mpr fun name hname =>
        timezone?_eq_none_iff.mpr (hunnamed name (Option.mem_def.mp hname))
    rw [resolve_timezone, hnone, Option.getD_none]
  · intro id hlanguage hid hoffered
    rw [resolve_language, hlanguage, languageId_eq_of_knows hid hoffered]

/-- A name in other letters with blanks around it, and a language that is not on offer. -/
theorem resolve_settled_standard :
    let r : Resolver := ⟨.standard, 1, "UTC"⟩
    r.timezone ∈ timezoneNames ∧
      r.Settled (some " europe/PARIS ") (some 99) (r.resolve (some " europe/PARIS ") (some 99)) ∧
      r.resolve (some " europe/PARIS ") (some 99) = ⟨"Europe/Paris", 1⟩ := by
  intro r
  have hdefault : r.timezone ∈ timezoneNames := by decide +kernel
  have hsettled := resolve_settled r hdefault (some " europe/PARIS ") (some 99)
  refine ⟨hdefault, hsettled, Resolved.ext ?_ (by decide)⟩
  exact hsettled.named _ "Europe/Paris" rfl (by decide +kernel) (by decide +kernel)

end Resolver
end Locale
end Enrollment
