/-
Texts as components of URLs.

Every byte of a text is written as one character that stands for itself, or as a percent sign and
two digits.  Neither piece is the beginning of the other, so the bytes can be told apart, and from
them the text.

* `Component` — the characters that a component is made of;
* `percentDecode?` — the reader of components;
* `percentDecode?_percentEncode` — what is written is read as the bytes of the text;
* `percentEncode_injective` — no two texts are written alike.
-/
import Mathlib
import Enrollment.Json.Reader
import Enrollment.Text.Percent

namespace Enrollment.Text

variable {c : Char} {cs rest : List Char} {s t : String} {b : UInt8}

/-! ### What is written -/

/-- A capital hexadecimal digit. -/
def isHexDigit (c : Char) : Bool := c.isDigit || ('A' ≤ c && c ≤ 'F')

/-- The characters of a component of a URL: those that stand for themselves, and triplets. -/
inductive Component : List Char → Prop where
  | nil : Component []
  | unreserved {c : Char} {rest : List Char} (hc : isUnreserved c = true) (h : Component rest) :
    Component (c :: rest)
  | triplet {high low : Char} {rest : List Char} (hhigh : isHexDigit high = true)
      (hlow : isHexDigit low = true) (h : Component rest) : Component ('%' :: high :: low :: rest)

theorem isHexDigit_hexDigit : ∀ n < 16, isHexDigit (hexDigit n) = true := by decide

theorem hexValue?_hexDigit : ∀ n < 16, Json.hexValue? (hexDigit n) = some n := by decide

/-- The two digits of a byte. -/
theorem digits_lt (b : UInt8) : b.toNat / 16 < 16 ∧ b.toNat % 16 < 16 := by
  have hb : b.toNat < 256 := b.toNat_lt_size
  omega

theorem component_percentByte (b : UInt8) (h : Component rest) :
    Component (percentByte b ++ rest) := by
  rw [percentByte]
  split
  · rename_i hc
    exact .unreserved hc h
  · obtain ⟨hhigh, hlow⟩ := digits_lt b
    exact .triplet (isHexDigit_hexDigit _ hhigh) (isHexDigit_hexDigit _ hlow) h

theorem component_percentBytes (bs : List UInt8) : Component (bs.flatMap percentByte) := by
  induction bs with
  | nil => exact .nil
  | cons b bs ih => exact component_percentByte b ih

theorem component_percentEncode (s : String) : Component (percentEncode s).toList := by
  rw [percentEncode, String.toList_ofList]
  exact component_percentBytes (utf8Bytes s)

/-- What sets components apart in a URL does not stand in them. -/
theorem Component.equals_not_mem (h : Component cs) : '=' ∉ cs := by
  induction h with
  | nil => exact List.not_mem_nil
  | unreserved hc _ ih =>
    rw [List.mem_cons, not_or]
    refine ⟨?_, ih⟩
    rintro rfl
    exact absurd hc (by decide)
  | triplet hhigh hlow _ ih =>
    simp only [List.mem_cons, not_or]
    refine ⟨by decide, ?_, ?_, ih⟩
    · rintro rfl
      exact absurd hhigh (by decide)
    · rintro rfl
      exact absurd hlow (by decide)

/-! ### What is read -/

/-- The bytes that a component of a URL stands for. -/
def percentDecode? : List Char → Option (List UInt8)
  | [] => some []
  | '%' :: high :: low :: rest => do
    let high ← Json.hexValue? high
    let low ← Json.hexValue? low
    return UInt8.ofNat (16 * high + low) :: (← percentDecode? rest)
  | c :: rest =>
    if isUnreserved c then (percentDecode? rest).map (UInt8.ofNat c.toNat :: ·) else none

theorem percentDecode?_unreserved (hc : isUnreserved c = true) (rest : List Char) :
    percentDecode? (c :: rest) = (percentDecode? rest).map (UInt8.ofNat c.toNat :: ·) := by
  have hsign : c ≠ '%' := by
    rintro rfl
    exact absurd hc (by decide)
  rw [percentDecode?.eq_3 _ _ fun _ _ _ h _ => hsign h, if_pos hc]

/-- The byte in front of what is written is read first. -/
theorem percentDecode?_percentByte (b : UInt8) (rest : List Char) :
    percentDecode? (percentByte b ++ rest) = (percentDecode? rest).map (b :: ·) := by
  have hb : b.toNat < 256 := b.toNat_lt_size
  rw [percentByte]
  split
  · rename_i hc
    have hcode : (Char.ofNat b.toNat).toNat = b.toNat := by
      rw [Char.toNat_ofNat, if_pos (.inl (by omega))]
    rw [List.singleton_append, percentDecode?_unreserved hc, hcode, UInt8.ofNat_toNat]
  · -- The two digits are put together again by division with remainder.
    obtain ⟨hhigh, hlow⟩ := digits_lt b
    have hvalue : UInt8.ofNat (16 * (b.toNat / 16) + b.toNat % 16) = b := by
      rw [Nat.div_add_mod, UInt8.ofNat_toNat]
    simp only [List.cons_append, List.nil_append, percentDecode?, hexValue?_hexDigit _ hhigh,
      hexValue?_hexDigit _ hlow]
    change (percentDecode? rest).bind _ = _
    rw [hvalue]
    cases percentDecode? rest <;> rfl

theorem percentDecode?_percentBytes (bs : List UInt8) :
    percentDecode? (bs.flatMap percentByte) = some bs := by
  induction bs with
  | nil => rfl
  | cons b bs ih => rw [List.flatMap_cons, percentDecode?_percentByte, ih, Option.map_some]

/-- **What is written is read as the bytes of the text.** -/
theorem percentDecode?_percentEncode (s : String) :
    percentDecode? (percentEncode s).toList = some (utf8Bytes s) := by
  rw [percentEncode, String.toList_ofList, percentDecode?_percentBytes]

/-- The bytes of a text tell which one it is. -/
theorem utf8Bytes_injective (h : utf8Bytes s = utf8Bytes t) : s = t := by
  have hbytes : ∀ s, utf8Bytes s = s.toByteArray.data.toList := fun s => by
    rw [← String.utf8Encode_toList, List.utf8Encode, List.toList_data_toByteArray, utf8Bytes]
  rw [hbytes, hbytes] at h
  exact String.toByteArray_inj.mp (ByteArray.ext (Array.toList_inj.mp h))

/-- **No two texts are written alike.** -/
theorem percentEncode_injective (h : percentEncode s = percentEncode t) : s = t := by
  have hbytes : some (utf8Bytes s) = some (utf8Bytes t) := by
    rw [← percentDecode?_percentEncode, ← percentDecode?_percentEncode, h]
  exact utf8Bytes_injective (Option.some.inj hbytes)

end Enrollment.Text
