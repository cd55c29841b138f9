/-
What whole numbers look like, and that they are read as what they spell.

`Spells s n` says how a text is made up that stands for a number: blanks, a sign or none, digits of
any script, with single underscores between them, and blanks again.  It says nothing of how a text is
read.

* `readInteger?_eq_some_iff` — the reader gives exactly the number that a text spells;
* `spells_decimal` — the decimal text of a number spells it, with any blanks around it.
-/
import Mathlib
import Enrollment.Text.Digit
import Enrollment.Proofs.Trimming

namespace Enrollment.Text

variable {cs : List Char} {ds : List Nat} {c : Char} {d : Nat} {s : String} {n : Int}

/-! ### How numbers are spelled -/

/-- Digits, with single underscores between some of them, and their values. -/
inductive DigitRun : List Char → List Nat → Prop where
  | last {c : Char} {d : Nat} (hc : digitValue? c = some d) : DigitRun [c] [d]
  | next {c : Char} {d : Nat} {cs : List Char} {ds : List Nat} (hc : digitValue? c = some d)
      (rest : DigitRun cs ds) : DigitRun (c :: cs) (d :: ds)
  | spaced {c : Char} {d : Nat} {cs : List Char} {ds : List Nat} (hc : digitValue? c = some d)
      (rest : DigitRun cs ds) : DigitRun (c :: '_' :: cs) (d :: ds)

/-- A number without a sign, of as many digits as are read. -/
def Natural (cs : List Char) (n : Nat) : Prop :=
  ∃ ds, DigitRun cs ds ∧ ds.length ≤ maxDigits ∧ n = ofDigits ds

/-- A number with or without a sign. -/
inductive Numeral : List Char → Int → Prop where
  | plain {cs : List Char} {n : Nat} (h : Natural cs n) : Numeral cs n
  | positive {cs : List Char} {n : Nat} (h : Natural cs n) : Numeral ('+' :: cs) n
  | negative {cs : List Char} {n : Nat} (h : Natural cs n) : Numeral ('-' :: cs) (-n)

/-- A text spells a number: it is a numeral with blanks around it. -/
def Spells (s : String) (n : Int) : Prop :=
  ∃ before cs after, s.toList = before ++ cs ++ after ∧ (∀ c ∈ before, isBlank c = true) ∧
    (∀ c ∈ after, isBlank c = true) ∧ Numeral cs n

/-! ### Digits -/

theorem digitValue?_underscore : digitValue? '_' = none := by decide

theorem digitValue?_sign : digitValue? '+' = none ∧ digitValue? '-' = none := by decide

/-- No digit is blank. -/
theorem isBlank_of_digit (hc : digitValue? c = some d) : isBlank c = false := by
  -- The ten digits of a script lie apart from every range of blanks; both tables are short.
  have hdisjoint : ∀ z ∈ digitZeros.toList, ∀ r ∈ blankRanges.toList, r.2 < z ∨ z + 10 ≤ r.1 := by
    decide +kernel
  obtain ⟨z, hz, -⟩ := Option.map_eq_some_iff.mp hc
  have hmem := Array.mem_of_find?_eq_some hz
  have hrange := Array.find?_some hz
  simp only [Bool.and_eq_true, decide_eq_true_eq] at hrange
  rw [isBlank, inRanges, Array.any_eq_false']
  intro r hr
  have := hdisjoint z (by simpa using hmem) r (by simpa using hr)
  simp only [Bool.and_eq_true, decide_eq_true_eq]
  omega

theorem DigitRun.head (h : DigitRun cs ds) : ∃ c d rest, cs = c :: rest ∧ digitValue? c = some d := by
  cases h with
  | last hc => exact ⟨_, _, _, rfl, hc⟩
  | next hc => exact ⟨_, _, _, rfl, hc⟩
  | spaced hc => exact ⟨_, _, _, rfl, hc⟩

theorem DigitRun.getLast (h : DigitRun cs ds) :
    ∃ front c d, cs = front ++ [c] ∧ digitValue? c = some d := by
  induction h with
  | last hc => exact ⟨[], _, _, rfl, hc⟩
  | next _ _ ih =>
    obtain ⟨front, c, d, rfl, hc⟩ := ih
    exact ⟨_ :: front, c, d, rfl, hc⟩
  | spaced _ _ ih =>
    obtain ⟨front, c, d, rfl, hc⟩ := ih
    exact ⟨_ :: '_' :: front, c, d, rfl, hc⟩

/-! ### Reading -/

theorem digitRun?_eq_some_iff : digitRun? cs = some ds ↔ DigitRun cs ds := by
  constructor
  · intro h
    fun_induction digitRun? cs generalizing ds with
    | case1 => cases h
    | case2 c =>
      obtain ⟨d, hd, rfl⟩ := Option.map_eq_some_iff.mp h
      exact .last hd
    | case3 c rest ih =>
      simp only [Option.bind_eq_bind, Option.bind_eq_some_iff, Option.pure_def,
        Option.some.injEq] at h
      obtain ⟨d, hd, ds, hds, rfl⟩ := h
      exact .spaced hd (ih hds)
    | case4 c c' rest _ ih =>
      simp only [Option.bind_eq_bind, Option.bind_eq_some_iff, Option.pure_def,
        Option.some.injEq] at h
      obtain ⟨d, hd, ds, hds, rfl⟩ := h
      exact .next hd (ih hds)
  · intro h
    induction h with
    | last hc => simp [digitRun?, hc]
    | @next c d cs ds hc rest ih =>
      -- A run begins with a digit, which is no underscore.
      obtain ⟨c', d', tail, rfl, hc'⟩ := rest.head
      have hne : c' ≠ '_' := by
        rintro rfl
        rw [digitValue?_underscore] at hc'
        cases hc'
      rw [digitRun?]
      · simp [hc, ih]
      · simpa using hne
    | spaced hc _ ih => simp [digitRun?, hc, ih]

theorem readNatural?_eq_some_iff {n : Nat} : readNatural? cs = some n ↔ Natural cs n := by
  simp only [readNatural?, Natural, Option.bind_eq_bind, Option.bind_eq_some_iff,
    digitRun?_eq_some_iff]
  refine exists_congr fun ds => and_congr_right fun _ => ?_
  split
  · simp [*, eq_comm]
  · simp [*]

theorem Numeral.trimmed (h : Numeral cs n) :
    ∃ c rest front c', cs = c :: rest ∧ isBlank c = false ∧ cs = front ++ [c'] ∧
      isBlank c' = false := by
  have hrun : ∀ {cs : List Char} {n : Nat}, Natural cs n → ∃ c rest front c', cs = c :: rest ∧
      isBlank c = false ∧ cs = front ++ [c'] ∧ isBlank c' = false := by
    rintro cs n ⟨ds, hds, -⟩
    obtain ⟨c, d, rest, hcs, hc⟩ := hds.head
    obtain ⟨front, c', d', hcs', hc'⟩ := hds.getLast
    exact ⟨c, rest, front, c', hcs, isBlank_of_digit hc, hcs', isBlank_of_digit hc'⟩
  cases h with
  | plain h => exact hrun h
  | positive h =>
    obtain ⟨-, -, front, c', -, -, rfl, hc'⟩ := hrun h
    exact ⟨'+', _, '+' :: front, c', rfl, by decide +kernel, rfl, hc'⟩
  | negative h =>
    obtain ⟨-, -, front, c', -, -, rfl, hc'⟩ := hrun h
    exact ⟨'-', _, '-' :: front, c', rfl, by decide +kernel, rfl, hc'⟩

/-- **A text is read as the number that it spells**, and is refused if it spells none. -/
theorem readInteger?_eq_some_iff : readInteger? s = some n ↔ Spells s n := by
  have hcore : readInteger? s = some n ↔ Numeral (trimBoth isBlank s.toList) n := by
    rw [readInteger?]
    constructor
    · intro h
      split at h
      · rename_i rest hrest
        obtain ⟨m, hm, rfl⟩ : ∃ m, readNatural? rest = some m ∧ -(m : Int) = n := by
          simpa [Option.bind_eq_some_iff] using h
        rw [hrest]
        exact .negative (readNatural?_eq_some_iff.mp hm)
      · rename_i rest hrest
        obtain ⟨m, hm, rfl⟩ := Option.map_eq_some_iff.mp h
        rw [hrest]
        exact .positive (readNatural?_eq_some_iff.mp hm)
      · obtain ⟨m, hm, rfl⟩ := Option.map_eq_some_iff.mp h
        exact .plain (readNatural?_eq_some_iff.mp hm)
    · intro h
      generalize trimBoth isBlank s.toList = core at h ⊢
      cases h with
      | positive h => simp [readNatural?_eq_some_iff.mpr h]
      | negative h => simp [readNatural?_eq_some_iff.mpr h]
      | @plain cs m h =>
        -- What begins with a digit begins with no sign.
        obtain ⟨ds, hds, -⟩ := id h
        obtain ⟨c, d, rest, rfl, hc⟩ := hds.head
        split
        · rename_i heq
          cases heq
          rw [digitValue?_sign.2] at hc
          cases hc
        · rename_i heq
          cases heq
          rw [digitValue?_sign.1] at hc
          cases hc
        · rw [readNatural?_eq_some_iff.mpr h]
          rfl
  rw [hcore]
  constructor
  · intro h
    obtain ⟨before, after, hs, hbefore, hafter⟩ := trimBoth_spec isBlank s.toList
    exact ⟨before, _, after, hs, hbefore, hafter, h⟩
  · rintro ⟨before, cs, after, hs, hbefore, hafter, h⟩
    obtain ⟨c, rest, front, c', rfl, hc, hfront, hc'⟩ := h.trimmed
    rw [hs, trimBoth_append hbefore hafter hc hc' hfront]
    exact h

/-- No text spells two numbers. -/
theorem Spells.unique {m : Int} (h : Spells s n) (h' : Spells s m) : n = m := by
  rw [← readInteger?_eq_some_iff] at h h'
  exact Option.some.inj (h.symm.trans h')

/-! ### Decimal texts -/

theorem DigitRun.concat (h : DigitRun cs ds) (hc : digitValue? c = some d) :
    DigitRun (cs ++ [c]) (ds ++ [d]) := by
  induction h with
  | last hc' => exact .next hc' (.last hc)
  | next hc' _ ih => exact .next hc' ih
  | spaced hc' _ ih => exact .spaced hc' ih

theorem ofDigits_concat (ds : List Nat) (d : Nat) : ofDigits (ds ++ [d]) = 10 * ofDigits ds + d := by
  rw [ofDigits, List.foldl_append]
  rfl

theorem digitValue?_digitChar : ∀ d < 10, digitValue? d.digitChar = some d := by decide

/-- The decimal digits of a number are a run of digits that stands for it. -/
theorem digitRun_toDigits (n : Nat) :
    ∃ ds, DigitRun (Nat.toDigits 10 n) ds ∧ ds.length = (Nat.toDigits 10 n).length ∧
      n = ofDigits ds := by
  -- The last digit is put behind those of `n / 10`.
  induction n using Nat.strong_induction_on with
  | _ n ih =>
    by_cases hn : n < 10
    · rw [Nat.toDigits_of_lt_base hn]
      exact ⟨[n], .last (digitValue?_digitChar n hn), rfl, by simp [ofDigits]⟩
    · obtain ⟨ds, hrun, hlength, hvalue⟩ := ih (n / 10) (by omega)
      rw [Nat.toDigits_of_base_le (by decide) (by omega)]
      refine ⟨ds ++ [n % 10], hrun.concat (digitValue?_digitChar _ (by omega)), by simp [hlength], ?_⟩
      rw [ofDigits_concat, ← hvalue]
      omega

theorem natural_toDigits {n : Nat} (hn : (Nat.toDigits 10 n).length ≤ maxDigits) :
    Natural (Nat.toDigits 10 n) n := by
  obtain ⟨ds, hrun, hlength, hvalue⟩ := digitRun_toDigits n
  exact ⟨ds, hrun, hlength ▸ hn, hvalue⟩

/-- **The decimal text of a number spells it**, whatever blanks stand around it, unless it has more
digits than are read. -/
theorem spells_decimal {before after : String} (hbefore : ∀ c ∈ before.toList, isBlank c = true)
    (hafter : ∀ c ∈ after.toList, isBlank c = true) (n : Int)
    (hdigits : (toString n.natAbs).length ≤ maxDigits) :
    Spells (before ++ toString n ++ after) n := by
  have hnat : ∀ m : Nat, (toString m).toList = Nat.toDigits 10 m := fun m => by
    rw [Nat.toString_eq_repr, Nat.toList_repr]
  have hnatural : Natural (toString n.natAbs).toList n.natAbs := by
    rw [hnat]
    refine natural_toDigits ?_
    rwa [← hnat, String.length_toList]
  refine ⟨before.toList, (toString n).toList, after.toList, by simp, hbefore, hafter, ?_⟩
  cases n with
  | ofNat m => exact .plain hnatural
  | negSucc m =>
    rw [show toString (Int.negSucc m) = "-" ++ toString (m + 1) from rfl, String.toList_append]
    exact .negative hnatural

end Enrollment.Text
