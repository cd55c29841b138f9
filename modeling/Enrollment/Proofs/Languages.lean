/-
Which language of a catalog a tag is matched with.

A tag is matched in three passes over the catalog, each with a wider test than the one before.
Together they look for one thing, the entry of the language that stands closest to the tag, and of
several that are equally close the first.

* `Catalog.Closest` — what it is to be that entry, said without the passes;
* `Catalog.bestMatch?_eq_some_iff` — the three passes find exactly it;
* `Catalog.matches_closest` — its id is the answer, the default stands in only where no entry has the
  language, and where ids are not repeated the language is found again by the id.
-/
import Mathlib
import Enrollment.Locale.Language

namespace Enrollment.Locale

variable {c before after : Catalog} {t : Tag} {l m : Language} {id : Int}

/-! ### Entries by their keys -/

/-- Where no two entries have one key, an entry is found by its key, and by no other. -/
theorem find?_key_eq_some {α β : Type} [DecidableEq β] {key : α → β} {entries : List α}
    (hkey : ∀ a ∈ entries, ∀ b ∈ entries, key a = key b → a = b) {a : α} {k : β} :
    entries.find? (fun b => key b = k) = some a ↔ a ∈ entries ∧ key a = k := by
  constructor
  · intro h
    exact ⟨List.mem_of_find?_eq_some h, by simpa using List.find?_some h⟩
  · rintro ⟨ha, rfl⟩
    cases hfound : entries.find? fun b => key b = key a with
    | none => simpa using List.find?_eq_none.mp hfound a ha
    | some b =>
      have hb : key b = key a := by simpa using List.find?_some hfound
      rw [hkey b (List.mem_of_find?_eq_some hfound) a ha hb]

namespace Catalog

theorem knows_iff : c.knows id = true ↔ ∃ l ∈ c, l.id = id := by
  simp [knows, byId?]

/-- Where no id is repeated, an entry stands for its id. -/
theorem byId?_of_nodup (hids : (c.map (·.id)).Nodup) (hl : l ∈ c) : c.byId? l.id = some l := by
  refine (find?_key_eq_some fun m hm n hn => ?_).mpr ⟨List.mem_reverse.mpr hl, rfl⟩
  exact List.inj_on_of_nodup_map hids (List.mem_reverse.mp hm) (List.mem_reverse.mp hn)

end Catalog

/-! ### How close an entry is -/

/-- How far an entry of the language stands from a tag: it has the region of the tag, or no region,
or another one.  An empty region is a region, but never the one that a tag asks for. -/
def Tag.distance (t : Tag) (l : Language) : Nat :=
  if l.region = none then 1 else if l.region = t.region ∧ t.region ≠ some "" then 0 else 2

theorem Tag.distance_eq_zero :
    t.distance l = 0 ↔ ∃ r, r ≠ "" ∧ t.region = some r ∧ l.region = some r := by
  rw [distance]
  rcases t.region with _ | r
  · split <;> simp_all
  · rcases l.region with _ | r'
    · simp
    · simp [eq_comm, and_comm]

theorem Tag.distance_eq_one : t.distance l = 1 ↔ l.region = none := by
  rw [distance]
  split
  · simp_all
  · split <;> simp_all

theorem Tag.distance_le (t : Tag) (l : Language) : t.distance l ≤ 2 := by
  rw [distance]
  split
  · decide
  · split <;> decide

namespace Catalog

/-- The entry of the language of a tag that is closest to the tag, and the first of those. -/
structure Closest (c : Catalog) (t : Tag) (l : Language) : Prop where
  code : l.code = t.language
  first : ∃ before after, c = before ++ l :: after ∧
    (∀ m ∈ before, m.code = t.language → t.distance l < t.distance m) ∧
    ∀ m ∈ after, m.code = t.language → t.distance l ≤ t.distance m

/-- One pass over the catalog: the first entry of the language at a distance from the tag. -/
def atDistance? (c : Catalog) (t : Tag) (n : Nat) : Option Language :=
  c.find? fun l => l.code = t.language ∧ t.distance l = n

theorem atDistance?_eq_none {n : Nat} :
    c.atDistance? t n = none ↔ ∀ l ∈ c, l.code = t.language → t.distance l ≠ n := by
  simp [atDistance?]

/-- Where no pass up to a distance finds anything, no entry of the language is as close. -/
theorem le_distance {n : Nat} (hnone : ∀ k < n, c.atDistance? t k = none) (hl : l ∈ c)
    (hcode : l.code = t.language) : n ≤ t.distance l := by
  by_contra hlt
  exact atDistance?_eq_none.mp (hnone _ (by omega)) l hl hcode rfl

/-- What a pass finds is the closest entry, if the passes before found nothing. -/
theorem Closest.of_atDistance? {n : Nat} (h : c.atDistance? t n = some l)
    (hnone : ∀ k < n, c.atDistance? t k = none) : c.Closest t l := by
  obtain ⟨hl, before, after, rfl, hbefore⟩ := List.find?_eq_some_iff_append.mp h
  simp only [decide_eq_true_eq] at hl
  obtain ⟨hcode, hdistance⟩ := hl
  refine ⟨hcode, before, after, rfl, fun m hm hlanguage => ?_, fun m hm hlanguage => ?_⟩
  · have hne : t.distance m ≠ n := by simpa [hlanguage] using hbefore m hm
    have := le_distance hnone (l := m) (by simp [hm]) hlanguage
    omega
  · have := le_distance hnone (l := m) (by simp [hm]) hlanguage
    omega

/-- No two entries are both closest. -/
theorem Closest.unique (hl : c.Closest t l) (hm : c.Closest t m) : l = m := by
  obtain ⟨before, after, hc, hbefore, hafter⟩ := hl.first
  obtain ⟨before', after', hc', hbefore', hafter'⟩ := hm.first
  -- Of two entries at different places the later one is closer, and the earlier at least as close.
  rcases List.append_eq_append_iff.mp (hc.symm.trans hc') with ⟨mid, rfl, hmid⟩ | ⟨mid, rfl, hmid⟩
  · cases mid with
    | nil => exact (List.cons.inj hmid).1
    | cons x mid =>
      obtain ⟨rfl, rfl⟩ := List.cons.inj hmid
      have hcloser := hbefore' l (by simp) hl.code
      have hclose := hafter m (by simp) hm.code
      omega
  · cases mid with
    | nil => exact (List.cons.inj hmid).1.symm
    | cons x mid =>
      obtain ⟨rfl, rfl⟩ := List.cons.inj hmid
      have hcloser := hbefore m (by simp) hm.code
      have hclose := hafter' l (by simp) hl.code
      omega

/-! ### The three passes -/

theorem sameRegion?_eq : (c.ofCode t.language).sameRegion? t.region = c.atDistance? t 0 := by
  -- Without a region, or with an empty one, the tag is at distance zero from no entry.
  have hnone : (∀ r, r ≠ "" → t.region ≠ some r) → c.atDistance? t 0 = none := fun h => by
    rw [atDistance?_eq_none]
    intro l _ _ hl
    obtain ⟨r, hr, hregion, -⟩ := Tag.distance_eq_zero.mp hl
    exact h r hr hregion
  simp only [sameRegion?]
  split
  · rename_i hregion
    rw [hnone (by simp [hregion])]
  rename_i r hregion
  split
  · rename_i hr
    rw [hnone (by simp [hregion, hr, eq_comm])]
  · rename_i hr
    rw [ofCode, atDistance?, List.find?_filter]
    congr 1
    funext l
    simp [Tag.distance_eq_zero, hregion, hr]

theorem noRegion?_eq : (c.ofCode t.language).find? (·.region = none) = c.atDistance? t 1 := by
  rw [ofCode, atDistance?, List.find?_filter]
  congr 1
  funext l
  simp [Tag.distance_eq_one]

/-- The first entry of the language, where the passes before found nothing. -/
theorem head?_ofCode (hnone : ∀ k < 2, c.atDistance? t k = none) :
    (c.ofCode t.language).head? = c.atDistance? t 2 := by
  rw [ofCode, atDistance?, List.head?_filter]
  refine List.find?_congr fun l hl => ?_
  have hfar : l.code = t.language → t.distance l = 2 := fun hcode =>
    Nat.le_antisymm (t.distance_le l) (le_distance hnone hl hcode)
  simpa using hfar

/-- The passes look for one distance after the other. -/
theorem bestMatch?_eq : c.bestMatch? t =
    (c.atDistance? t 0).or ((c.atDistance? t 1).or (c.atDistance? t 2)) := by
  rw [bestMatch?, sameRegion?_eq, noRegion?_eq]
  -- The last pass takes any entry of the language, but it is made only after the other two.
  cases hzero : c.atDistance? t 0 with
  | some l => rfl
  | none =>
    cases hone : c.atDistance? t 1 with
    | some l => rfl
    | none => rw [head?_ofCode fun k hk => by interval_cases k <;> assumption]

theorem bestMatch?_eq_none : c.bestMatch? t = none ↔ ∀ l ∈ c, l.code ≠ t.language := by
  simp only [bestMatch?_eq, Option.or_eq_none_iff, atDistance?_eq_none]
  constructor
  · rintro ⟨hzero, hone, htwo⟩ l hl hcode
    have := t.distance_le l
    have := hzero l hl hcode
    have := hone l hl hcode
    have := htwo l hl hcode
    omega
  · intro h
    exact ⟨fun l hl hcode => absurd hcode (h l hl), fun l hl hcode => absurd hcode (h l hl),
      fun l hl hcode => absurd hcode (h l hl)⟩

theorem Closest.of_bestMatch? (h : c.bestMatch? t = some l) : c.Closest t l := by
  rw [bestMatch?_eq, Option.or_eq_some_iff, Option.or_eq_some_iff] at h
  rcases h with h | ⟨hzero, h | ⟨hone, h⟩⟩
  · exact .of_atDistance? h (by simp)
  · exact .of_atDistance? h fun k hk => by interval_cases k; exact hzero
  · exact .of_atDistance? h fun k hk => by interval_cases k <;> assumption

/-- **The three passes find the closest entry**, and nothing else. -/
theorem bestMatch?_eq_some_iff : c.bestMatch? t = some l ↔ c.Closest t l := by
  refine ⟨.of_bestMatch?, fun hl => ?_⟩
  cases hfound : c.bestMatch? t with
  | some m => rw [hl.unique (.of_bestMatch? hfound)]
  | none =>
    obtain ⟨before, after, rfl, -⟩ := hl.first
    exact absurd hl.code (bestMatch?_eq_none.mp hfound l (by simp))

/-! ### The language of a tag -/

/-- What id a catalog answers for a tag, and what language the id stands for. -/
structure MatchesClosest (c : Catalog) (t : Tag) : Prop where
  /-- The answer is the id of the closest entry, whatever the default is. -/
  closest : ∀ l, c.Closest t l → ∀ fallback, c.matchId t fallback = l.id
  /-- There is a closest entry as soon as an entry has the language. -/
  found : (∃ l ∈ c, l.code = t.language) → ∃ l, c.Closest t l
  /-- The default is the answer exactly if no entry has the language. -/
  fallback : (∀ fallback, c.matchId t fallback = fallback) ↔ ∀ l ∈ c, l.code ≠ t.language
  /-- Where no id is repeated, the answer leads back to the language. -/
  code : (c.map (·.id)).Nodup → (∃ l ∈ c, l.code = t.language) →
    ∀ fallback other, c.codeOf (some (c.matchId t fallback)) other = t.language

theorem Closest.matchId_eq (hl : c.Closest t l) (fallback : Int) : c.matchId t fallback = l.id := by
  rw [matchId, bestMatch?_eq_some_iff.mpr hl]
  rfl

theorem exists_closest (h : ∃ l ∈ c, l.code = t.language) : ∃ l, c.Closest t l := by
  obtain ⟨l, hl, hcode⟩ := h
  cases hfound : c.bestMatch? t with
  | some m => exact ⟨m, bestMatch?_eq_some_iff.mp hfound⟩
  | none => exact absurd hcode (bestMatch?_eq_none.mp hfound l hl)

theorem Closest.mem (hl : c.Closest t l) : l ∈ c := by
  obtain ⟨before, after, rfl, -⟩ := hl.first
  simp

/-- **A tag is matched with the closest entry of its language**, and with the default only if there
is none. -/
theorem matches_closest (c : Catalog) (t : Tag) : c.MatchesClosest t where
  closest _ hl := hl.matchId_eq
  found := exists_closest
  fallback := by
    constructor
    · intro h l hl hcode
      obtain ⟨m, hm⟩ := exists_closest ⟨l, hl, hcode⟩
      -- The id of the closest entry differs from some default.
      have := h (m.id + 1)
      rw [hm.matchId_eq] at this
      omega
    · intro h fallback
      rw [matchId, bestMatch?_eq_none.mpr h]
      rfl
  code hids h fallback other := by
    obtain ⟨l, hl⟩ := exists_closest h
    rw [hl.matchId_eq, codeOf, Option.bind_some, byId?_of_nodup hids hl.mem]
    exact hl.code

/-- Of two entries with the region of the tag the first is taken, before entries without a region. -/
theorem closest_among_repeated :
    let c : Catalog := [⟨5, "pt", "Português", none⟩, ⟨6, "pt", "Português Brasil", some "BR"⟩,
      ⟨7, "pt", "Brasileiro", some "BR"⟩, ⟨6, "en", "English", none⟩]
    c.Closest ⟨"pt", none, some "BR"⟩ ⟨6, "pt", "Português Brasil", some "BR"⟩ ∧
      c.matchId ⟨"pt", none, some "BR"⟩ 1 = 6 ∧
      ∀ fallback, c.matchId ⟨"fr", none, some "BR"⟩ fallback = fallback := by
  intro c
  have hclosest : c.Closest ⟨"pt", none, some "BR"⟩ ⟨6, "pt", "Português Brasil", some "BR"⟩ := by
    refine ⟨rfl, [_], [_, _], rfl, ?_, ?_⟩
    · decide
    · decide
  exact ⟨hclosest, (matches_closest c _).closest _ hclosest 1,
    (matches_closest c _).fallback.mpr (by decide)⟩

end Catalog
end Enrollment.Locale
