/-
Text cut at a separator, and pieces put together again.

* `splitAt_intercalate` — pieces without the separator are found again;
* `intercalate_splitAt` — what was cut is put together to the same text;
* `splitAt_eq_iff` — so a text is cut into given pieces exactly if it is these put together.
-/
import Mathlib
import Enrollment.Text.Blank

namespace Enrollment.Text

variable {sep c : Char} {cs : List Char} {ps : List (List Char)}

/-! ### Cutting -/

theorem splitAt_cons (sep c : Char) (cs : List Char) :
    splitAt sep cs ≠ [] ∧ splitAt sep (c :: cs) =
      if c = sep then [] :: splitAt sep cs else (splitAt sep cs).modifyHead (c :: ·) := by
  have hne : splitAt sep cs ≠ [] := by
    cases cs with
    | nil => exact List.cons_ne_nil _ _
    | cons d cs =>
      rw [splitAt]
      split
      · exact List.cons_ne_nil _ _
      · split <;> exact List.cons_ne_nil _ _
  refine ⟨hne, ?_⟩
  obtain ⟨piece, pieces, hpieces⟩ := List.exists_cons_of_ne_nil hne
  simp only [splitAt, hpieces, List.modifyHead_cons]

theorem splitAt_of_not_mem (h : sep ∉ cs) : splitAt sep cs = [cs] := by
  induction cs with
  | nil => rfl
  | cons c cs ih =>
    obtain ⟨hc, hcs⟩ := List.ne_and_not_mem_of_not_mem_cons h
    rw [(splitAt_cons sep c cs).2, if_neg (Ne.symm hc), ih hcs]
    rfl

theorem splitAt_append {after : List Char} (h : sep ∉ cs) :
    splitAt sep (cs ++ sep :: after) = cs :: splitAt sep after := by
  induction cs with
  | nil => rw [List.nil_append, (splitAt_cons sep sep after).2, if_pos rfl]
  | cons c cs ih =>
    obtain ⟨hc, hcs⟩ := List.ne_and_not_mem_of_not_mem_cons h
    rw [List.cons_append, (splitAt_cons sep c _).2, if_neg (Ne.symm hc), ih hcs]
    rfl

/-- Pieces without the separator are found again. -/
theorem splitAt_intercalate (hne : ps ≠ []) (h : ∀ p ∈ ps, sep ∉ p) :
    splitAt sep ([sep].intercalate ps) = ps := by
  induction ps with
  | nil => exact absurd rfl hne
  | cons p ps ih =>
    have hp := h p List.mem_cons_self
    cases ps with
    | nil => rw [List.intercalate_singleton, splitAt_of_not_mem hp]
    | cons q ps =>
      rw [List.intercalate_cons_cons, List.append_assoc, List.singleton_append, splitAt_append hp,
        ih (List.cons_ne_nil _ _) fun q hq => h q (List.mem_cons_of_mem p hq)]

/-- No piece has a character that is not in the text. -/
theorem mem_of_mem_splitAt {p : List Char} (hp : p ∈ splitAt sep cs) (hc : c ∈ p) :
    c ∈ cs := by
  induction cs generalizing p with
  | nil =>
    rw [splitAt, List.mem_singleton] at hp
    exact hp ▸ hc
  | cons d cs ih =>
    obtain ⟨hne, hcons⟩ := splitAt_cons sep d cs
    obtain ⟨piece, pieces, hpieces⟩ := List.exists_cons_of_ne_nil hne
    rw [hcons] at hp
    rw [hpieces] at hp ih
    split at hp
    · rcases List.mem_cons.mp hp with rfl | hp
      · cases hc
      · exact List.mem_cons_of_mem d (ih hp hc)
    · rw [List.modifyHead_cons] at hp
      rcases List.mem_cons.mp hp with rfl | hp
      · rcases List.mem_cons.mp hc with rfl | hc
        · exact List.mem_cons_self
        · exact List.mem_cons_of_mem d (ih List.mem_cons_self hc)
      · exact List.mem_cons_of_mem d (ih (List.mem_cons_of_mem piece hp) hc)

/-! ### Putting together -/

theorem intercalate_concat {sep : List Char} (front : List (List Char)) (last : List Char) :
    sep.intercalate (front ++ [last]) = (front.map (· ++ sep)).flatten ++ last := by
  induction front with
  | nil => exact List.intercalate_singleton
  | cons p front ih =>
    obtain ⟨q, qs, hqs⟩ : ∃ q qs, front ++ [last] = q :: qs :=
      List.exists_cons_of_ne_nil (by simp)
    rw [List.cons_append, hqs, List.intercalate_cons_cons, ← hqs, ih]
    simp

/-- What stands in a joined text is the separator, or stands in one of the pieces. -/
theorem mem_intercalate (h : c ∈ [sep].intercalate ps) :
    c = sep ∨ ∃ p ∈ ps, c ∈ p := by
  rcases List.eq_nil_or_concat' ps with rfl | ⟨front, last, rfl⟩
  · cases h
  rw [intercalate_concat, List.mem_append] at h
  rcases h with h | h
  · obtain ⟨q, hq, hc⟩ := List.mem_flatten.mp h
    obtain ⟨p, hp, rfl⟩ := List.mem_map.mp hq
    rcases List.mem_append.mp hc with hc | hc
    · exact .inr ⟨p, List.mem_append_left _ hp, hc⟩
    · exact .inl (List.mem_singleton.mp hc)
  · exact .inr ⟨last, by simp, h⟩

/-- What was cut is put together to the same text. -/
theorem intercalate_splitAt (sep : Char) (cs : List Char) :
    [sep].intercalate (splitAt sep cs) = cs := by
  induction cs with
  | nil => rfl
  | cons c cs ih =>
    obtain ⟨hne, hcons⟩ := splitAt_cons sep c cs
    obtain ⟨piece, pieces, hpieces⟩ := List.exists_cons_of_ne_nil hne
    rw [hcons]
    rw [hpieces] at ih ⊢
    split
    · rename_i hc
      rw [List.intercalate_cons_cons, ih, hc]
      rfl
    · rw [List.modifyHead_cons, ← ih]
      cases pieces with
      | nil => rw [List.intercalate_singleton, List.intercalate_singleton]
      | cons q qs =>
        rw [List.intercalate_cons_cons, List.intercalate_cons_cons]
        rfl

/-- No piece has the separator in it. -/
theorem not_mem_of_mem_splitAt {p : List Char} (hp : p ∈ splitAt sep cs) : sep ∉ p := by
  induction cs generalizing p with
  | nil =>
    rw [splitAt, List.mem_singleton] at hp
    exact hp ▸ List.not_mem_nil
  | cons c cs ih =>
    obtain ⟨hne, hcons⟩ := splitAt_cons sep c cs
    obtain ⟨piece, pieces, hpieces⟩ := List.exists_cons_of_ne_nil hne
    rw [hcons] at hp
    rw [hpieces] at hp ih
    split at hp
    · rcases List.mem_cons.mp hp with rfl | hp
      · exact List.not_mem_nil
      · exact ih hp
    · rename_i hc
      rw [List.modifyHead_cons] at hp
      rcases List.mem_cons.mp hp with rfl | hp
      · rw [List.mem_cons, not_or]
        exact ⟨Ne.symm hc, ih List.mem_cons_self⟩
      · exact ih (List.mem_cons_of_mem piece hp)

/-- **A text is cut into given pieces** exactly if it is these put together, and none of them has
the separator in it. -/
theorem splitAt_eq_iff (hne : ps ≠ []) :
    splitAt sep cs = ps ↔ cs = [sep].intercalate ps ∧ ∀ p ∈ ps, sep ∉ p := by
  constructor
  · rintro rfl
    exact ⟨(intercalate_splitAt sep cs).symm, fun p hp => not_mem_of_mem_splitAt hp⟩
  · rintro ⟨rfl, h⟩
    exact splitAt_intercalate hne h

end Enrollment.Text
