/-
Which texts are password hashes, and what becomes of those that are none.

A hash has one written form; a hash of the first version has a second one, without its version.
The reading is strict: numbers have no leading zeros, base64 has neither filling nor stray bits, and
every field is within its bounds.  So a text is read as a hash exactly if it is a written form of
it.

* `number?_eq_some_iff`, `bytes?_eq_some_iff`, `field?_eq_some_iff` — the parts of a hash are read
  from what is written of them, and from no other text;
* `Hash.Written`, `read?_eq_some_iff` — the written forms of a hash, and that they are what is read;
* `verify_eq_error_iff`, `verify_eq_ok_iff` — when a verification fails, and what it answers;
* `malformed_never_verifies_iff` — a text that is no hash fits no password, unless a hash that the
  password fits stands before a NUL; and the verification fails exactly beyond ASCII.
-/
import Mathlib
import Enrollment.Credential.Password
import Enrollment.Proofs.Splitting

/-! ### Texts beyond ASCII -/

namespace Enrollment.Text

variable {text : String}

theorem notAscii?_eq_none_iff : notAscii? text = none ↔ ∀ c ∈ text.toList, isAscii c = true := by
  rw [notAscii?, ← List.dropWhile_eq_nil_iff]
  split
  · rename_i hnil
    simp [hnil]
  · rename_i hcons
    simp [hcons]

theorem notAscii?_isSome_iff :
    (∃ run, notAscii? text = some run) ↔ ∃ c ∈ text.toList, isAscii c = false := by
  rw [← Option.isSome_iff_exists, Option.isSome_iff_ne_none, Ne, notAscii?_eq_none_iff]
  simp

end Enrollment.Text

namespace Enrollment.Credential

open Enrollment.Text

variable {cs : List Char} {n : Nat}

/-! ### Numbers -/

/-- A digit is the one that is written for its value. -/
theorem toDigits_of_isDigit {c : Char} (h : c.isDigit = true) :
    c.toNat - 48 < 10 ∧ Nat.toDigits 10 (c.toNat - 48) = [c] := by
  have hrange : 48 ≤ c.toNat ∧ c.toNat ≤ 57 := by
    simpa [Char.isDigit, UInt32.le_iff_toNat_le] using h
  have hwritten : ∀ d < 10, Nat.toDigits 10 d = [Char.ofNat (48 + d)] := by decide
  refine ⟨by omega, ?_⟩
  rw [hwritten _ (by omega), Nat.add_sub_cancel' hrange.1, Char.ofNat_toNat]

/-- Digits without leading zeros are those that are written for their number. -/
theorem toDigits_ofDigitChars (hne : cs ≠ []) (hdigits : ∀ c ∈ cs, c.isDigit = true)
    (hhead : cs.head? = some '0' → cs.length = 1) :
    Nat.toDigits 10 (Nat.ofDigitChars 10 cs 0) = cs := by
  induction cs using List.reverseRecOn with
  | nil => exact absurd rfl hne
  | append_singleton front c ih =>
    obtain ⟨hlt, hc⟩ := toDigits_of_isDigit (hdigits c (by simp))
    have hvalue : Nat.ofDigitChars 10 (front ++ [c]) 0 =
        10 * Nat.ofDigitChars 10 front 0 + (c.toNat - 48) := by
      rw [Nat.ofDigitChars_append]
      rfl
    rw [hvalue]
    by_cases hfront : front = []
    · subst hfront
      rw [Nat.ofDigitChars_nil, Nat.mul_zero, Nat.zero_add, hc, List.nil_append]
    · have hlead : front.head? ≠ some '0' := fun h => by
        have := hhead (by rw [List.head?_append, h]; rfl)
        simp [hfront] at this
      have hwritten := ih hfront (fun d hd => hdigits d (by simp [hd])) fun h => absurd h hlead
      -- The digits before the last one are not those of zero.
      have hpos : 0 < Nat.ofDigitChars 10 front 0 := by
        refine Nat.pos_of_ne_zero fun hzero => hlead ?_
        rw [← hwritten, hzero]
        rfl
      rw [← Nat.toDigits_append_toDigits (by decide) hpos hlt, hwritten, hc]

/-- A number is written without leading zeros. -/
theorem length_toDigits_of_head? (h : (Nat.toDigits 10 n).head? = some '0') :
    (Nat.toDigits 10 n).length = 1 := by
  induction n using Nat.strong_induction_on with
  | _ n ih =>
    by_cases hn : n < 10
    · rw [Nat.toDigits_of_lt_base hn]
      rfl
    · rw [Nat.toDigits_of_base_le (by decide) (by omega)] at h
      have hfront : (Nat.toDigits 10 (n / 10)).head? = some '0' := by
        rw [List.head?_append_of_ne_nil _ Nat.toDigits_ne_nil] at h
        exact h
      -- The front would be a single zero, and so the number be less than ten.
      obtain ⟨c, hc⟩ := List.length_eq_one_iff.mp (ih (n / 10) (by omega) hfront)
      rw [hc, List.head?_singleton, Option.some_inj] at hfront
      have hzero : n / 10 = 0 := by
        rw [← Nat.ofDigitChars_ten_toDigits (n := n / 10), hc, hfront]
        rfl
      omega

/-- **A number is read from its decimal digits**, and from no other text. -/
theorem number?_eq_some_iff : number? cs = some n ↔ cs = Nat.toDigits 10 n ∧ n < 2 ^ 32 := by
  have hvalue : cs.foldl (fun n c => 10 * n + (c.toNat - 48)) 0 = Nat.ofDigitChars 10 cs 0 :=
    Nat.ofDigitChars_eq_foldl.symm
  have hguard : (cs.isEmpty || !cs.all Char.isDigit ||
      (cs.head? = some '0' && cs.length ≠ 1)) = false ↔
      cs ≠ [] ∧ (∀ c ∈ cs, c.isDigit = true) ∧ (cs.head? = some '0' → cs.length = 1) := by
    simp [and_assoc]
  rw [number?, hvalue]
  constructor
  · intro h
    split at h
    · cases h
    · rename_i hread
      obtain ⟨hne, hdigits, hhead⟩ := hguard.mp (Bool.eq_false_iff.mpr hread)
      dsimp only at h
      split at h
      · rename_i hlt
        cases h
        exact ⟨(toDigits_ofDigitChars hne hdigits hhead).symm, hlt⟩
      · cases h
  · rintro ⟨rfl, hlt⟩
    have hread := hguard.mpr ⟨Nat.toDigits_ne_nil,
      fun c hc => Nat.isDigit_of_mem_toDigits (by decide) (by decide) hc, length_toDigits_of_head?⟩
    rw [if_neg (Bool.eq_false_iff.mp hread), Nat.ofDigitChars_ten_toDigits]
    exact if_pos hlt

/-- A field is its name, an equals sign and a number. -/
theorem field?_eq_some_iff {name : Char} :
    field? name cs = some n ↔ cs = name :: '=' :: Nat.toDigits 10 n ∧ n < 2 ^ 32 := by
  rw [field?.eq_def]
  split
  · rename_i c rest
    split
    · rename_i hc
      rw [number?_eq_some_iff]
      simp [hc]
    · rename_i hc
      simp [hc]
  · rename_i hother
    refine ⟨fun h => (nomatch h), fun h => ?_⟩
    exact absurd h.1 (hother _ _)

/-! ### Bytes in base64 -/

/-- The six-bit values that bytes are written by. -/
def sixBits : List UInt8 → List Nat
  | [] => []
  | [a] => [a.toNat / 4, a.toNat % 4 * 16]
  | [a, b] => [a.toNat / 4, a.toNat % 4 * 16 + b.toNat / 16, b.toNat % 16 * 4]
  | a :: b :: c :: rest =>
    a.toNat / 4 :: (a.toNat % 4 * 16 + b.toNat / 16) :: (b.toNat % 16 * 4 + c.toNat / 64) ::
      (c.toNat % 64) :: sixBits rest

theorem sixBits_lt (bytes : List UInt8) : ∀ n ∈ sixBits bytes, n < 64 := by
  fun_induction sixBits bytes with
  | case1 => simp
  | case2 a =>
    have ha := a.toNat_lt
    simp only [List.forall_mem_cons, List.not_mem_nil, false_implies, implies_true, and_true]
    omega
  | case3 a b =>
    have ha := a.toNat_lt
    have hb := b.toNat_lt
    simp only [List.forall_mem_cons, List.not_mem_nil, false_implies, implies_true, and_true]
    omega
  | case4 a b c rest ih =>
    have ha := a.toNat_lt
    have hb := b.toNat_lt
    have hc := c.toNat_lt
    simp only [List.forall_mem_cons]
    exact ⟨by omega, by omega, by omega, by omega, ih⟩

theorem bytesOf_sixBits (bytes : List UInt8) : Base64.bytesOf (sixBits bytes) = bytes := by
  fun_induction sixBits bytes with
  | case1 => rfl
  | case2 a =>
    have ha := a.toNat_lt
    have hfirst : a.toNat / 4 * 4 + a.toNat % 4 * 16 / 16 = a.toNat := by omega
    rw [Base64.bytesOf, hfirst, UInt8.ofNat_toNat]
  | case3 a b =>
    have ha := a.toNat_lt
    have hb := b.toNat_lt
    have hfirst : a.toNat / 4 * 4 + (a.toNat % 4 * 16 + b.toNat / 16) / 16 = a.toNat := by omega
    have hsecond : (a.toNat % 4 * 16 + b.toNat / 16) % 16 * 16 + b.toNat % 16 * 4 / 4 =
        b.toNat := by omega
    rw [Base64.bytesOf, hfirst, hsecond, UInt8.ofNat_toNat, UInt8.ofNat_toNat]
  | case4 a b c rest ih =>
    have ha := a.toNat_lt
    have hb := b.toNat_lt
    have hc := c.toNat_lt
    have hfirst : a.toNat / 4 * 4 + (a.toNat % 4 * 16 + b.toNat / 16) / 16 = a.toNat := by omega
    have hsecond : (a.toNat % 4 * 16 + b.toNat / 16) % 16 * 16 +
        (b.toNat % 16 * 4 + c.toNat / 64) / 4 = b.toNat := by omega
    have hthird : (b.toNat % 16 * 4 + c.toNat / 64) % 4 * 64 + c.toNat % 64 = c.toNat := by omega
    rw [Base64.bytesOf, hfirst, hsecond, hthird, UInt8.ofNat_toNat, UInt8.ofNat_toNat,
      UInt8.ofNat_toNat, ih]

theorem value?_digit : ∀ n < 64, Base64.value? (Base64.digit n) = some n := by decide

theorem mapM_value?_digit {ns : List Nat} (h : ∀ n ∈ ns, n < 64) :
    (ns.map Base64.digit).mapM Base64.value? = some ns := by
  induction ns with
  | nil => rfl
  | cons n ns ih =>
    rw [List.map_cons, List.mapM_cons, value?_digit n (h n List.mem_cons_self),
      ih fun m hm => h m (List.mem_cons_of_mem n hm)]
    rfl

theorem digit_ne_filling : ∀ n < 64, Base64.digit n ≠ '=' := by decide

theorem encode_eq (bytes : List UInt8) :
    ∃ k, Base64.encode bytes = (sixBits bytes).map Base64.digit ++ List.replicate k '=' := by
  fun_induction sixBits bytes with
  | case1 => exact ⟨0, rfl⟩
  | case2 a => exact ⟨2, rfl⟩
  | case3 a b => exact ⟨1, rfl⟩
  | case4 a b c rest ih =>
    obtain ⟨k, hk⟩ := ih
    refine ⟨k, ?_⟩
    rw [Base64.encode, hk]
    rfl

/-- Bytes are written by their six-bit values. -/
theorem bare_eq (bytes : List UInt8) : bare bytes = (sixBits bytes).map Base64.digit := by
  obtain ⟨k, hk⟩ := encode_eq bytes
  rw [bare, hk, List.filter_append, List.filter_eq_self.mpr, List.filter_eq_nil_iff.mpr,
    List.append_nil]
  · intro c hc
    simp [List.eq_of_mem_replicate hc]
  · intro c hc
    obtain ⟨n, hn, rfl⟩ := List.mem_map.mp hc
    exact decide_eq_true (digit_ne_filling n (sixBits_lt bytes n hn))

theorem filling_not_mem_bare (bytes : List UInt8) : '=' ∉ bare bytes := by
  simp [bare]

/-- What is written of bytes is read as the bytes. -/
theorem decode?_bare (bytes : List UInt8) : Base64.decode? (bare bytes) = some bytes := by
  have hends : (bare bytes).reverse.dropWhile (· = '=') = (bare bytes).reverse := by
    rw [List.dropWhile_eq_self_iff]
    intro hpos hfilling
    exact filling_not_mem_bare bytes
      (List.mem_reverse.mp (of_decide_eq_true hfilling ▸ List.getElem_mem hpos))
  rw [Base64.decode?, hends, List.reverse_reverse, bare_eq, mapM_value?_digit (sixBits_lt bytes),
    Option.map_some, bytesOf_sixBits]

/-- **Bytes are read from what is written of them**, and from no other text. -/
theorem bytes?_eq_some_iff {bytes : List UInt8} : bytes? cs = some bytes ↔ cs = bare bytes := by
  rw [bytes?]
  constructor
  · intro h
    obtain ⟨b, -, hb⟩ := Option.bind_eq_some_iff.mp h
    split at hb
    · rename_i hbare
      cases hb
      exact hbare.symm
    · cases hb
  · rintro rfl
    rw [decode?_bare]
    exact if_pos rfl

/-! ### Hashes -/

/-- Every field of a hash is within its bounds. -/
structure Hash.Sized (h : Hash) : Prop where
  version : h.cost.version < 2 ^ 32
  memory : 8 ≤ h.cost.memory ∧ 8 * h.cost.lanes ≤ h.cost.memory ∧ h.cost.memory < 2 ^ 32
  time : 1 ≤ h.cost.time ∧ h.cost.time < 2 ^ 32
  lanes : 1 ≤ h.cost.lanes ∧ h.cost.lanes < 2 ^ 24
  salt : 8 ≤ h.salt.length
  tag : 4 ≤ h.tag.length

/-- A hash of the first version, written without its version. -/
def Hash.unversioned (h : Hash) : String :=
  "$" ++ h.cost.variant.name ++ "$m=" ++ toString h.cost.memory ++ ",t=" ++
    toString h.cost.time ++ ",p=" ++ toString h.cost.lanes ++ "$" ++ String.ofList (bare h.salt) ++
    "$" ++ String.ofList (bare h.tag)

/-- A text is a written form of a hash. -/
structure Hash.Written (s : String) (h : Hash) : Prop where
  sized : h.Sized
  text : s = h.text ∨ s = h.unversioned ∧ h.cost.version = firstVersion

theorem ofName?_eq_some_iff {s : String} {v : Variant} :
    Variant.ofName? s = some v ↔ s = v.name := by
  constructor
  · intro h
    have hname := List.find?_some h
    exact (of_decide_eq_true hname).symm
  · rintro rfl
    cases v <;> rfl

/-- The three costs of a hash, as fields. -/
def Cost.fields (c : Cost) : List (List Char) :=
  ['m' :: '=' :: Nat.toDigits 10 c.memory, 't' :: '=' :: Nat.toDigits 10 c.time,
    'p' :: '=' :: Nat.toDigits 10 c.lanes]

theorem mem_field {name x : Char} (hx : x ∈ name :: '=' :: Nat.toDigits 10 n) :
    x = name ∨ x = '=' ∨ x.isDigit = true := by
  rcases List.mem_cons.mp hx with h | hx
  · exact .inl h
  · rcases List.mem_cons.mp hx with h | hx
    · exact .inr (.inl h)
    · exact .inr (.inr (Nat.isDigit_of_mem_toDigits (by decide) (by decide) hx))

theorem mem_fields {c : Cost} {p : List Char} {x : Char} (hp : p ∈ c.fields) (hx : x ∈ p) :
    x ∈ ['m', 't', 'p', '='] ∨ x.isDigit = true := by
  simp only [Cost.fields, List.mem_cons, List.not_mem_nil, or_false] at hp
  rcases hp with rfl | rfl | rfl
  · rcases mem_field hx with rfl | rfl | hx <;> simp [*]
  · rcases mem_field hx with rfl | rfl | hx <;> simp [*]
  · rcases mem_field hx with rfl | rfl | hx <;> simp [*]

theorem ofFields?_eq_some_iff {name costs salt tag : List Char} {version : Nat} {h : Hash} :
    Hash.ofFields? name version costs salt tag = some h ↔
      (name = h.cost.variant.name.toList ∧ version = h.cost.version ∧
        costs = [','].intercalate h.cost.fields ∧ salt = bare h.salt ∧ tag = bare h.tag) ∧
      h.cost.memory < 2 ^ 32 ∧ h.cost.time < 2 ^ 32 ∧ h.cost.lanes < 2 ^ 32 := by
  constructor
  · intro hread
    rw [Hash.ofFields?] at hread
    obtain ⟨variant, hvariant, hread⟩ := Option.bind_eq_some_iff.mp hread
    split at hread
    · rename_i m t p hcosts
      obtain ⟨memory, hmemory, hread⟩ := Option.bind_eq_some_iff.mp hread
      obtain ⟨time, htime, hread⟩ := Option.bind_eq_some_iff.mp hread
      obtain ⟨lanes, hlanes, hread⟩ := Option.bind_eq_some_iff.mp hread
      obtain ⟨saltBytes, hsalt, hread⟩ := Option.bind_eq_some_iff.mp hread
      obtain ⟨tagBytes, htag, hread⟩ := Option.bind_eq_some_iff.mp hread
      cases hread
      rw [field?_eq_some_iff] at hmemory htime hlanes
      obtain ⟨rfl, hmemory⟩ := hmemory
      obtain ⟨rfl, htime⟩ := htime
      obtain ⟨rfl, hlanes⟩ := hlanes
      refine ⟨⟨?_, rfl, ((splitAt_eq_iff (by simp)).mp hcosts).1, bytes?_eq_some_iff.mp hsalt,
        bytes?_eq_some_iff.mp htag⟩, hmemory, htime, hlanes⟩
      rw [← ofName?_eq_some_iff.mp hvariant, String.toList_ofList]
    · cases hread
  · rintro ⟨⟨rfl, rfl, rfl, rfl, rfl⟩, hmemory, htime, hlanes⟩
    have hcosts : splitAt ',' ([','].intercalate h.cost.fields) = h.cost.fields := by
      refine splitAt_intercalate (by simp [Cost.fields]) fun p hp hcomma => ?_
      rcases mem_fields hp hcomma with h | h
      · exact absurd h (by decide)
      · exact absurd h (by decide)
    have hvariant : Variant.ofName? (String.ofList h.cost.variant.name.toList) =
        some h.cost.variant := by
      rw [String.ofList_toList, ofName?_eq_some_iff]
    have hfield : ∀ name n, n < 2 ^ 32 → field? name (name :: '=' :: Nat.toDigits 10 n) = some n :=
      fun name n hn => field?_eq_some_iff.mpr ⟨rfl, hn⟩
    rw [Hash.ofFields?, hvariant, hcosts, Cost.fields]
    simp only [Option.bind_eq_bind, Option.bind_some, hfield _ _ hmemory, hfield _ _ htime,
      hfield _ _ hlanes, bytes?_eq_some_iff.mpr rfl, Option.pure_def]

/-- The parts of a hash that stand behind its version. -/
def Hash.parts (h : Hash) : List (List Char) :=
  [[','].intercalate h.cost.fields, bare h.salt, bare h.tag]

theorem dollar_not_mem_digits (bytes : List UInt8) : '$' ∉ bare bytes := by
  have hdigit : ∀ n < 64, Base64.digit n ≠ '$' := by decide
  rw [bare_eq, List.mem_map]
  rintro ⟨n, hn, h⟩
  exact hdigit n (sixBits_lt bytes n hn) h

theorem dollar_not_mem_parts (h : Hash) :
    ∀ p ∈ [] :: h.cost.variant.name.toList :: ('v' :: '=' :: Nat.toDigits 10 h.cost.version) ::
      h.parts, '$' ∉ p := by
  intro p hp hdollar
  simp only [Hash.parts, List.mem_cons, List.not_mem_nil, or_false] at hp
  rcases hp with rfl | rfl | rfl | rfl | rfl | rfl
  · cases hdollar
  · revert hdollar
    cases h.cost.variant <;> decide
  · rcases mem_field hdollar with h | h | h
    · cases h
    · cases h
    · cases h
  · rcases mem_intercalate hdollar with h | ⟨p, hp, hmem⟩
    · cases h
    · rcases mem_fields hp hmem with h | h
      · exact absurd h (by decide)
      · cases h
  · exact dollar_not_mem_digits _ hdollar
  · exact dollar_not_mem_digits _ hdollar

theorem toList_text (h : Hash) : h.text.toList = ['$'].intercalate
    ([] :: h.cost.variant.name.toList :: ('v' :: '=' :: Nat.toDigits 10 h.cost.version) ::
      h.parts) := by
  unfold Hash.text
  simp only [Nat.toString_eq_repr, String.toList_append, String.toList_ofList, Nat.toList_repr]
  simp only [Hash.parts, Cost.fields, List.intercalate_cons_cons, List.intercalate_singleton]
  simp only [String.reduceToList, List.append_assoc, List.cons_append, List.nil_append]

theorem toList_unversioned (h : Hash) : h.unversioned.toList =
    ['$'].intercalate ([] :: h.cost.variant.name.toList :: h.parts) := by
  unfold Hash.unversioned
  simp only [Nat.toString_eq_repr, String.toList_append, String.toList_ofList, Nat.toList_repr]
  simp only [Hash.parts, Cost.fields, List.intercalate_cons_cons, List.intercalate_singleton]
  simp only [String.reduceToList, List.append_assoc, List.cons_append, List.nil_append]

theorem inBounds_iff {h : Hash} (hversion : h.cost.version < 2 ^ 32)
    (hmemory : h.cost.memory < 2 ^ 32) (htime : h.cost.time < 2 ^ 32) :
    h.inBounds = true ↔ h.Sized := by
  have hlanes : 0x1000000 = 2 ^ 24 := rfl
  simp only [Hash.inBounds, Bool.and_eq_true, decide_eq_true_eq, hlanes]
  constructor
  · rintro ⟨⟨⟨⟨⟨⟨hsalt, htag⟩, htime₁⟩, hlanes₁⟩, hlanes₂⟩, hmemory₁⟩, hmemory₂⟩
    exact ⟨hversion, ⟨hmemory₁, hmemory₂, hmemory⟩, ⟨htime₁, htime⟩, ⟨hlanes₁, hlanes₂⟩, hsalt,
      htag⟩
  · rintro ⟨-, ⟨hmemory₁, hmemory₂, -⟩, ⟨htime₁, -⟩, ⟨hlanes₁, hlanes₂⟩, hsalt, htag⟩
    exact ⟨⟨⟨⟨⟨⟨hsalt, htag⟩, htime₁⟩, hlanes₁⟩, hlanes₂⟩, hmemory₁⟩, hmemory₂⟩

/-- **A hash is read from its written forms**, and from no other text. -/
theorem read?_eq_some_iff {s : String} {h : Hash} : Hash.read? s = some h ↔ Hash.Written s h := by
  constructor
  · intro hread
    rw [Hash.read?] at hread
    split at hread
    · rename_i name version costs salt tag hsplit
      obtain ⟨v, hv, hread⟩ := Option.bind_eq_some_iff.mp hread
      obtain ⟨h', hfields, hread⟩ := Option.bind_eq_some_iff.mp hread
      dsimp only at hread
      split at hread
      · rename_i hbounds
        cases hread
        obtain ⟨⟨rfl, rfl, rfl, rfl, rfl⟩, hmemory, htime, hlanes⟩ :=
          ofFields?_eq_some_iff.mp hfields
        obtain ⟨rfl, hversion⟩ := field?_eq_some_iff.mp hv
        refine ⟨(inBounds_iff hversion hmemory htime).mp hbounds, .inl ?_⟩
        rw [← String.toList_inj, toList_text]
        exact ((splitAt_eq_iff (by simp)).mp hsplit).1
      · cases hread
    · rename_i name costs salt tag hsplit
      obtain ⟨h', hfields, hread⟩ := Option.bind_eq_some_iff.mp hread
      dsimp only at hread
      split at hread
      · rename_i hbounds
        cases hread
        obtain ⟨⟨rfl, hversion, rfl, rfl, rfl⟩, hmemory, htime, hlanes⟩ :=
          ofFields?_eq_some_iff.mp hfields
        refine ⟨(inBounds_iff (hversion ▸ by decide) hmemory htime).mp hbounds,
          .inr ⟨?_, hversion.symm⟩⟩
        rw [← String.toList_inj, toList_unversioned]
        exact ((splitAt_eq_iff (by simp)).mp hsplit).1
      · cases hread
    · cases hread
  · rintro ⟨hsized, htext⟩
    have hbounds := (inBounds_iff hsized.version hsized.memory.2.2 hsized.time.2).mpr hsized
    have hfields : ∀ version, version = h.cost.version →
        Hash.ofFields? h.cost.variant.name.toList version ([','].intercalate h.cost.fields)
          (bare h.salt) (bare h.tag) = some h := fun version hv =>
      ofFields?_eq_some_iff.mpr ⟨⟨rfl, hv, rfl, rfl, rfl⟩, hsized.memory.2.2, hsized.time.2,
        hsized.lanes.2.trans (by decide)⟩
    rcases htext with rfl | ⟨rfl, hversion⟩
    · have hsplit := (splitAt_eq_iff (by simp)).mpr ⟨toList_text h, dollar_not_mem_parts h⟩
      have hv : field? 'v' ('v' :: '=' :: Nat.toDigits 10 h.cost.version) = some h.cost.version :=
        field?_eq_some_iff.mpr ⟨rfl, hsized.version⟩
      rw [Hash.read?, hsplit]
      simp only [Hash.parts, hv, hfields _ rfl, Option.bind_eq_bind, Option.bind_some,
        if_pos hbounds]
    · have hsplit := (splitAt_eq_iff (by simp)).mpr ⟨toList_unversioned h, fun p hp =>
        dollar_not_mem_parts h p (by simp at hp ⊢; tauto)⟩
      rw [Hash.read?, hsplit]
      simp only [Hash.parts, hfields _ hversion.symm, Option.bind_eq_bind, Option.bind_some,
        if_pos hbounds]

theorem read?_eq_none_iff {s : String} : Hash.read? s = none ↔ ∀ h, ¬ Hash.Written s h := by
  simp only [Option.eq_none_iff_forall_ne_some, ne_eq, read?_eq_some_iff]

/-! ### Verification -/

variable {derive : Derivation} {password text : String}

/-- A text is a hash that a password fits. -/
def Fits (derive : Derivation) (password text : String) : Prop :=
  ∃ h, Hash.Written text h ∧ derive h.cost h.tag.length h.salt (utf8Bytes password) = h.tag

/-- A verification fails only over a text beyond ASCII, and reports its first such run. -/
theorem verify_eq_error_iff {e : Failure} :
    verify derive password text = .error e ↔
      ∃ run, notAscii? text = some run ∧ e = .notAscii run := by
  rw [verify]
  split
  · rename_i run hrun
    simp [hrun, eq_comm]
  · rename_i hascii
    split <;> simp [hascii]

/-- A verification answers for ASCII, and looks for the hash before the first NUL. -/
theorem verify_eq_ok_iff {b : Bool} :
    verify derive password text = .ok b ↔
      (∀ c ∈ text.toList, isAscii c = true) ∧
        (b = true ↔ Fits derive password (beforeNul text)) := by
  rw [verify, ← notAscii?_eq_none_iff]
  split
  · rename_i run hrun
    simp [hrun]
  · rename_i hascii
    split
    · rename_i hread
      have hfits : ¬ Fits derive password (beforeNul text) := by
        rintro ⟨h, hwritten, -⟩
        exact read?_eq_none_iff.mp hread h hwritten
      simp [hascii, hfits]
    · rename_i h hread
      have hfits : Fits derive password (beforeNul text) ↔
          derive h.cost h.tag.length h.salt (utf8Bytes password) = h.tag := by
        constructor
        · rintro ⟨h', hwritten, htag⟩
          cases hread.symm.trans (read?_eq_some_iff.mpr hwritten)
          exact htag
        · exact fun htag => ⟨h, read?_eq_some_iff.mp hread, htag⟩
      cases b <;> simp [hascii, hfits]

theorem beforeNul_eq_self (h : '\x00' ∉ text.toList) : beforeNul text = text := by
  have hall : text.toList.takeWhile (· ≠ '\x00') = text.toList :=
    List.takeWhile_eq_self_iff.mpr fun c hc => decide_eq_true fun hnul => h (hnul ▸ hc)
  rw [beforeNul, hall, String.ofList_toList]

/-- A text that is no hash can fit a password only by a hash that a NUL ends. -/
theorem nul_mem_of_fits (hmalformed : ∀ h, ¬ Hash.Written text h)
    (hfits : Fits derive password (beforeNul text)) : '\x00' ∈ text.toList := by
  by_contra hnul
  obtain ⟨h, hwritten, -⟩ := hfits
  exact hmalformed h (beforeNul_eq_self hnul ▸ hwritten)

/-- **A text that is no hash fits no password**, but for a hash that is followed by a NUL and more
text, and for texts beyond ASCII, over which the verification fails. -/
theorem malformed_never_verifies_iff (derive : Derivation) (password text : String)
    (hmalformed : ∀ h, ¬ Hash.Written text h) :
    (verify derive password text = .ok false ↔
      (∀ c ∈ text.toList, isAscii c = true) ∧
        ('\x00' ∈ text.toList → ¬ Fits derive password (beforeNul text))) ∧
    (verify derive password text = .ok true ↔
      (∀ c ∈ text.toList, isAscii c = true) ∧
        '\x00' ∈ text.toList ∧ Fits derive password (beforeNul text)) ∧
    ((∃ e, verify derive password text = .error e) ↔
      ∃ c ∈ text.toList, isAscii c = false) := by
  have hnul : Fits derive password (beforeNul text) → '\x00' ∈ text.toList :=
    nul_mem_of_fits hmalformed
  refine ⟨?_, ?_, ?_⟩
  · rw [verify_eq_ok_iff, and_congr_right_iff]
    intro
    constructor
    · exact fun h _ hfits => nomatch h.mpr hfits
    · exact fun h => ⟨fun hfalse => (nomatch hfalse), fun hfits => absurd hfits (h (hnul hfits))⟩
  · rw [verify_eq_ok_iff, and_congr_right_iff]
    intro
    exact ⟨fun h => ⟨hnul (h.mp rfl), h.mp rfl⟩, fun h => ⟨fun _ => h.2, fun _ => rfl⟩⟩
  · rw [← notAscii?_isSome_iff]
    constructor
    · rintro ⟨e, he⟩
      obtain ⟨run, hrun, -⟩ := verify_eq_error_iff.mp he
      exact ⟨run, hrun⟩
    · rintro ⟨run, hrun⟩
      exact ⟨_, verify_eq_error_iff.mpr ⟨run, hrun, rfl⟩⟩

/-- A leading zero in the memory is enough for a text to be no hash. -/
theorem malformed_never_verifies_leadingZero :
    (∀ h, ¬ Hash.Written "$argon2id$v=19$m=08,t=1,p=1$c29tZXNhbHQ$AAAAAAA" h) ∧
      verify argon2 "secret" "$argon2id$v=19$m=08,t=1,p=1$c29tZXNhbHQ$AAAAAAA" = .ok false := by
  have hmalformed : ∀ h, ¬ Hash.Written "$argon2id$v=19$m=08,t=1,p=1$c29tZXNhbHQ$AAAAAAA" h :=
    read?_eq_none_iff.mp (by decide +kernel)
  refine ⟨hmalformed, (malformed_never_verifies_iff argon2 "secret" _ hmalformed).1.mpr ⟨?_, ?_⟩⟩
  · exact notAscii?_eq_none_iff.mp (by decide +kernel)
  · exact fun hnul => absurd hnul (by decide +kernel)

/-- A single letter beyond ASCII is no hash, and the verification fails over it. -/
theorem malformed_never_verifies_counterexample :
    (∀ h, ¬ Hash.Written "ü" h) ∧ verify argon2 "x" "ü" = .error (.notAscii ⟨0, 'ü', 1⟩) := by
  have hrun : notAscii? "ü" = some ⟨0, 'ü', 1⟩ := by decide
  constructor
  · exact read?_eq_none_iff.mp (by decide +kernel)
  · exact verify_eq_error_iff.mpr ⟨_, hrun, rfl⟩

end Enrollment.Credential
