import DocViews.Text.Blank
import Mathlib.Data.List.DropRight

/-!
# Cutting texts

A reader takes the longest beginning of a text whose characters are of one kind, and trimming takes
blanks off both ends. What is cut off and what is left fit together, and the cut cannot lie
elsewhere.
-/

namespace DocViews

/-- A list is cut in just one way into elements that satisfy `p` and a rest that does not begin
    with one. -/
theorem span_eq_iff {p : α → Bool} {l a b : List α} :
    l.takeWhile p = a ∧ l.dropWhile p = b ↔
      l = a ++ b ∧ (∀ x ∈ a, p x = true) ∧ ∀ x, b.head? = some x → p x = false := by
  constructor
  · rintro ⟨rfl, rfl⟩
    refine ⟨List.takeWhile_append_dropWhile.symm, fun x hx => List.mem_takeWhile_imp hx, ?_⟩
    intro x hx
    have hnot := List.head?_dropWhile_not p l
    rwa [hx] at hnot
  · rintro ⟨rfl, ha, hb⟩
    rw [List.takeWhile_append_of_pos ha, List.dropWhile_append_of_pos ha]
    cases b with
    | nil => simp
    | cons x b =>
      have hx : ¬p x = true := by simp [hb x rfl]
      rw [List.takeWhile_cons_of_neg hx, List.dropWhile_cons_of_neg hx, List.append_nil]
      exact ⟨rfl, rfl⟩

/-- The cut before the first `d`. -/
theorem span_ne_iff [DecidableEq α] {d : α} {l a b : List α} :
    l.takeWhile (fun x => decide (x ≠ d)) = a ∧ l.dropWhile (fun x => decide (x ≠ d)) = b ↔
      l = a ++ b ∧ d ∉ a ∧ ∀ x, b.head? = some x → x = d := by
  have htaken : (∀ x ∈ a, decide (x ≠ d) = true) ↔ d ∉ a := by
    constructor
    · intro h hd
      simpa using h d hd
    · intro h x hx
      exact decide_eq_true fun heq => h (heq ▸ hx)
  have hleft : (∀ x, b.head? = some x → decide (x ≠ d) = false) ↔
      ∀ x, b.head? = some x → x = d := by
    simp only [ne_eq, decide_not, Bool.not_eq_false', decide_eq_true_eq]
  rw [span_eq_iff, htaken, hleft]

namespace Text

/-- A text that neither begins nor ends with what is trimmed stays as it is. -/
theorem trimBoth_eq_self {p : α → Bool} {l : List α} (hhead : ∀ x, l.head? = some x → p x = false)
    (hlast : ∀ x, l.getLast? = some x → p x = false) : trimBoth p l = l := by
  have hdrop : l.dropWhile p = l := (span_eq_iff.2 ⟨(List.nil_append l).symm, by simp, hhead⟩).2
  refine (congrArg (List.rdropWhile p) hdrop).trans (List.rdropWhile_eq_self_iff.2 fun hne => ?_)
  simp [hlast _ (List.getLast?_eq_some_getLast hne)]

/-- Trimmed text does not begin with what is trimmed. -/
theorem not_of_head?_trimBoth {p : α → Bool} {l : List α} {x : α}
    (h : (trimBoth p l).head? = some x) : p x = false := by
  obtain ⟨rest, hrest⟩ := List.rdropWhile_prefix p (l.dropWhile p)
  have hhead : (l.dropWhile p).head? = some x := by
    rw [← hrest, List.head?_append]
    change ((trimBoth p l).head?.or _) = _
    rw [h, Option.some_or]
  have hnot := List.head?_dropWhile_not p l
  rwa [hhead] at hnot

/-- Trimmed text does not end with what is trimmed. -/
theorem not_of_getLast?_trimBoth {p : α → Bool} {l : List α} {x : α}
    (h : (trimBoth p l).getLast? = some x) : p x = false := by
  have hne : trimBoth p l ≠ [] := by
    intro hnil
    simp [hnil] at h
  rw [List.getLast?_eq_some_getLast hne, Option.some.injEq] at h
  have hnot := List.rdropWhile_last_not p (l.dropWhile p) hne
  exact Bool.eq_false_iff.2 (h ▸ hnot)

end Text

end DocViews
