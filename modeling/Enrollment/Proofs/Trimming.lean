/-
Trimming: what is left of a text without the characters of a class at its two ends.

* `trimBoth_spec` — nothing else is taken away;
* `trimBoth_append`, `trimBoth_ends` — what begins and ends with a character that is kept is left,
  and nothing else;
* `trimBoth_padded`, `trimBoth_map` — it does not matter how much is taken away, nor how the
  characters are written, as long as the same ones are kept.
-/
import Mathlib
import Enrollment.Text.Blank

namespace Enrollment.Text

variable {drop : Char → Bool} {cs before after : List Char}

theorem trimBoth_spec (drop : Char → Bool) (cs : List Char) :
    ∃ before after, cs = before ++ trimBoth drop cs ++ after ∧ (∀ c ∈ before, drop c = true) ∧
      ∀ c ∈ after, drop c = true := by
  refine ⟨cs.takeWhile drop, ((cs.dropWhile drop).reverse.takeWhile drop).reverse, ?_,
    fun c hc => List.mem_takeWhile_imp hc, fun c hc => ?_⟩
  · rw [trimBoth, List.append_assoc, ← List.reverse_append, List.takeWhile_append_dropWhile,
      List.reverse_reverse, List.takeWhile_append_dropWhile]
  · exact List.mem_takeWhile_imp (List.mem_reverse.mp hc)

theorem trimBoth_eq_nil : trimBoth drop cs = [] ↔ ∀ c ∈ cs, drop c = true := by
  rw [trimBoth, List.reverse_eq_nil_iff, List.dropWhile_eq_nil_iff]
  constructor
  · intro h
    -- What is left after trimming in front begins with a character that is kept.
    rcases hleft : cs.dropWhile drop with _ | ⟨c, rest⟩
    · exact List.dropWhile_eq_nil_iff.mp hleft
    · have hkept : drop c = false := by
        have hhead := List.head?_dropWhile_not drop cs
        rw [hleft] at hhead
        simpa using hhead
      rw [h c (by simp [hleft])] at hkept
      cases hkept
  · intro h
    rw [List.dropWhile_eq_nil_iff.mpr h]
    simp

/-- Characters that are dropped make no difference at the ends. -/
theorem trimBoth_padded (hbefore : ∀ c ∈ before, drop c = true)
    (hafter : ∀ c ∈ after, drop c = true) :
    trimBoth drop (before ++ cs ++ after) = trimBoth drop cs := by
  rw [trimBoth, List.append_assoc, List.dropWhile_append_of_pos hbefore, List.dropWhile_append]
  split
  · rename_i hempty
    rw [List.dropWhile_eq_nil_iff.mpr hafter, trimBoth, List.isEmpty_iff.mp hempty]
  · rw [List.reverse_append, List.dropWhile_append_of_pos (by simpa using hafter), trimBoth]

/-- What begins and ends with a character that is kept is what trimming leaves. -/
theorem trimBoth_append {front rest : List Char} {c c' : Char}
    (hbefore : ∀ c ∈ before, drop c = true) (hafter : ∀ c ∈ after, drop c = true)
    (hfirst : drop c = false) (hlast : drop c' = false) (hcs : c :: rest = front ++ [c']) :
    trimBoth drop (before ++ (c :: rest) ++ after) = c :: rest := by
  rw [trimBoth_padded hbefore hafter, trimBoth, List.dropWhile_cons_of_neg (by simp [hfirst]), hcs,
    List.reverse_append]
  simp [hlast]

/-- What neither begins nor ends with a character that is dropped is what trimming leaves. -/
theorem trimBoth_of_ends (hhead : ∃ c ∈ cs.head?, drop c = false)
    (hlast : ∃ c ∈ cs.getLast?, drop c = false) (hafter : ∀ c ∈ after, drop c = true) :
    trimBoth drop (cs ++ after) = cs := by
  obtain ⟨c, hc, hfirst⟩ := hhead
  obtain ⟨c', hc', hlast⟩ := hlast
  obtain ⟨rest, rfl⟩ := List.head?_eq_some_iff.mp hc
  obtain ⟨front, hfront⟩ := List.getLast?_eq_some_iff.mp hc'
  have hbefore : ∀ c ∈ ([] : List Char), drop c = true := by simp
  exact trimBoth_append hbefore hafter hfirst hlast hfront

theorem trimBoth_eq_self (h : ∀ c ∈ cs, drop c = false) : trimBoth drop cs = cs := by
  rcases hcs : cs with _ | ⟨c, rest⟩
  · rfl
  · obtain ⟨front, last, hlast⟩ := List.eq_nil_or_concat' (c :: rest) |>.resolve_left (by simp)
    have hfirst := h c (by simp [hcs])
    have hend := h last (by simp [hcs, hlast])
    have hkept : trimBoth drop ([] ++ (c :: rest) ++ []) = c :: rest :=
      trimBoth_append (by simp) (by simp) hfirst hend hlast
    simpa using hkept

/-- What trimming leaves begins and ends with a character that is kept. -/
theorem trimBoth_ends (h : trimBoth drop cs ≠ []) :
    (∃ c ∈ (trimBoth drop cs).head?, drop c = false) ∧
      ∃ c ∈ (trimBoth drop cs).getLast?, drop c = false := by
  constructor
  · obtain ⟨c, rest, hc⟩ := List.exists_cons_of_ne_nil h
    obtain ⟨after, hafter⟩ : trimBoth drop cs <+: cs.dropWhile drop :=
      List.rdropWhile_prefix drop _
    have hhead := List.head?_dropWhile_not drop cs
    rw [← hafter, hc] at hhead
    exact ⟨c, by rw [hc]; rfl, by simpa using hhead⟩
  · have hlast := List.rdropWhile_last_not drop (cs.dropWhile drop) h
    exact ⟨_, List.getLast?_eq_some_getLast h, Bool.eq_false_iff.mpr hlast⟩

/-- Characters may be written in another way before or after trimming, if the same ones are kept. -/
theorem trimBoth_map {f : Char → Char} (h : ∀ c, drop (f c) = drop c) :
    trimBoth drop (cs.map f) = (trimBoth drop cs).map f := by
  have hdrop : drop ∘ f = drop := funext h
  rw [trimBoth, trimBoth, List.dropWhile_map, ← List.map_reverse, List.dropWhile_map, hdrop,
    List.map_reverse]

end Enrollment.Text
