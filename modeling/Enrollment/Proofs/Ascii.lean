/-
ASCII text: its small form, and its bytes.

* `lower_eq_asciiLower` — the full mapping to small letters moves ASCII capitals only;
* `isBlank_of_graphic` — the blanks of ASCII stand before all characters that are seen;
* `codes_of_ascii` — its bytes are the code points of its characters.

Where a long table of texts is to be evaluated, the bytes of a text are at hand, and its characters
have to be decoded first; so what such a table is known to be is worked out on the bytes.
-/
import Mathlib
import Enrollment.Text.Blank
import Enrollment.Text.Case

namespace Enrollment.Text

variable {s : String} {c : Char} {cs : List Char}

/-! ### Small letters -/

theorem lowerAfter_of_ascii (h : ∀ c ∈ cs, c.toNat < 0x80) (before : List Char) :
    lowerAfter before cs = cs.map Char.toLower := by
  induction cs generalizing before with
  | nil => rfl
  | cons c cs ih =>
    have hc : c.toNat < 0x80 := h c List.mem_cons_self
    have hsigma : c ≠ 'Σ' := by
      rintro rfl
      exact absurd hc (by decide)
    rw [lowerAfter, if_neg hsigma, smallForm, if_pos hc,
      ih (fun c' hc' => h c' (List.mem_cons_of_mem c hc'))]
    rfl

/-- A text in ASCII has one small form. -/
theorem lower_eq_asciiLower (h : ∀ c ∈ s.toList, c.toNat < 0x80) : lower s = asciiLower s := by
  rw [lower, asciiLower, lowerAfter_of_ascii h]

theorem toNat_toLower_mod (c : Char) : c.toLower.toNat % 32 = c.toNat % 32 := by
  by_cases h : c.isUpper = true
  · have hrange : 0x41 ≤ c.toNat ∧ c.toNat ≤ 0x5a := by
      simpa [Char.isUpper, Char.le_def, UInt32.le_iff_toNat_le] using h
    rw [Char.toLower_eq_of_isUpper h, Char.toNat_ofNat, if_pos (.inl (by omega))]
    omega
  · rw [Char.toLower_eq_of_not_isUpper h]

/-! ### Blanks -/

theorem isBlank_of_graphic (h : 0x20 < c.toNat) (h' : c.toNat < 0x7f) : isBlank c = false := by
  have hapart : ∀ r ∈ blankRanges.toList, r.2 ≤ 0x20 ∨ 0x7f ≤ r.1 := by decide
  rw [isBlank, inRanges, Array.any_eq_false']
  intro r hr
  have := hapart r (by simpa using hr)
  simp only [Bool.and_eq_true, decide_eq_true_eq]
  omega

/-! ### Bytes -/

/-- The bytes of a text as numbers. -/
def codes (s : String) : List Nat := s.toByteArray.data.toList.map UInt8.toNat

theorem codes_eq_flatMap (s : String) :
    codes s = s.toList.flatMap fun c => (String.utf8EncodeChar c).map UInt8.toNat := by
  rw [codes, ← String.utf8Encode_toList, List.utf8Encode, List.toList_data_toByteArray,
    List.map_flatMap]

/-- A character whose bytes are all below 128 is one byte, its code point. -/
theorem utf8EncodeChar_of_ascii
    (h : ∀ n ∈ (String.utf8EncodeChar c).map UInt8.toNat, n < 0x80) :
    (String.utf8EncodeChar c).map UInt8.toNat = [c.toNat] := by
  have hcode : c.val.toNat = c.toNat := rfl
  rw [String.utf8EncodeChar, hcode] at h ⊢
  split at h
  · rename_i hc
    rw [if_pos hc]
    simpa using Nat.lt_of_le_of_lt hc (by decide)
  -- The first byte of every longer code is at least 0xc0.
  split at h
  · simp only [List.map_cons, List.forall_mem_cons, UInt8.toNat_ofNat'] at h
    omega
  split at h
  · simp only [List.map_cons, List.forall_mem_cons, UInt8.toNat_ofNat'] at h
    omega
  · simp only [List.map_cons, List.forall_mem_cons, UInt8.toNat_ofNat'] at h
    omega

/-- Bytes below 128 are the code points of the characters. -/
theorem codes_of_ascii (h : ∀ n ∈ codes s, n < 0x80) : codes s = s.toList.map Char.toNat := by
  rw [codes_eq_flatMap] at h ⊢
  generalize s.toList = cs at h
  induction cs with
  | nil => rfl
  | cons c cs ih =>
    rw [List.flatMap_cons, List.forall_mem_append] at h
    rw [List.flatMap_cons, utf8EncodeChar_of_ascii h.1, ih h.2]
    rfl

end Enrollment.Text
