import DocViews.Text.Replace
import Mathlib.Data.List.Infix

/-!
# Replacing a placeholder that stands alone

A pattern begins only where its first character stands. So if this character stands nowhere else in
a text, the pattern occurs in it once, and replacing the pattern changes this one place, whatever is
put there.
-/

namespace DocViews.Text

/-- How often a pattern occurs in a text, that is, at how many places it begins. -/
def occurrences (pattern s : String) : Nat :=
  s.toList.tails.countP fun rest => pattern.toList.isPrefixOf rest

section Pattern
variable {c : Char} {cs replacement before rest : List Char}

theorem isPrefixOf_of_ne {d : Char} {ds : List Char} (h : d ≠ c) :
    (c :: cs).isPrefixOf (d :: ds) = false := by
  simp [List.isPrefixOf, Ne.symm h]

/-- Nothing is replaced where the pattern cannot begin. -/
theorem replaceChars_append (h : c ∉ before) :
    replaceChars (c :: cs) replacement (before ++ rest) =
      before ++ replaceChars (c :: cs) replacement rest := by
  induction before with
  | nil => rfl
  | cons d before ih =>
    obtain ⟨hd, hbefore⟩ := List.ne_and_not_mem_of_not_mem_cons h
    rw [List.cons_append, replaceChars, if_neg (by simp [isPrefixOf_of_ne hd.symm]), ih hbefore,
      List.cons_append]

/-- What was put in is not looked at again. -/
theorem replaceChars_pattern_append :
    replaceChars (c :: cs) replacement (c :: cs ++ rest) =
      replacement ++ replaceChars (c :: cs) replacement rest := by
  have hprefix : (c :: cs).isPrefixOf (c :: (cs ++ rest)) = true := by simp
  rw [List.cons_append, replaceChars, if_pos ⟨List.cons_ne_nil c cs, hprefix⟩]
  simp

theorem replaceChars_of_not_mem (h : c ∉ before) :
    replaceChars (c :: cs) replacement before = before := by
  have happend : replaceChars (c :: cs) replacement (before ++ []) =
      before ++ replaceChars (c :: cs) replacement [] := replaceChars_append h
  simpa [replaceChars] using happend

theorem countP_tails_append (h : c ∉ before) :
    (before ++ rest).tails.countP (fun t => (c :: cs).isPrefixOf t) =
      rest.tails.countP fun t => (c :: cs).isPrefixOf t := by
  induction before with
  | nil => rfl
  | cons d before ih =>
    obtain ⟨hd, hbefore⟩ := List.ne_and_not_mem_of_not_mem_cons h
    rw [List.cons_append, List.tails_cons, List.countP_cons_of_neg, ih hbefore]
    simp [isPrefixOf_of_ne hd.symm]

theorem countP_tails_of_not_mem (h : c ∉ before) :
    before.tails.countP (fun t => (c :: cs).isPrefixOf t) = 0 := by
  have happend : (before ++ []).tails.countP (fun t => (c :: cs).isPrefixOf t) =
      ([] : List Char).tails.countP fun t => (c :: cs).isPrefixOf t := countP_tails_append h
  simpa using happend

end Pattern

section Once
variable {c : Char} {cs : List Char} {pattern before after : String}
  (hpattern : pattern.toList = c :: cs) (hbefore : c ∉ before.toList) (hafter : c ∉ after.toList)
include hpattern hbefore hafter

theorem replace_once (replacement : String) :
    replace pattern replacement (before ++ pattern ++ after) = before ++ replacement ++ after := by
  apply String.toList_inj.1
  rw [replace, String.toList_ofList, String.toList_append, String.toList_append, hpattern,
    List.append_assoc, replaceChars_append hbefore, replaceChars_pattern_append,
    replaceChars_of_not_mem hafter, String.toList_append, String.toList_append, List.append_assoc]

theorem occurrences_once (hcs : c ∉ cs) : occurrences pattern (before ++ pattern ++ after) = 1 := by
  have hrest : c ∉ cs ++ after.toList := by simp [hcs, hafter]
  rw [occurrences, String.toList_append, String.toList_append, hpattern, List.append_assoc,
    countP_tails_append hbefore, List.cons_append, List.tails_cons, List.countP_cons_of_pos,
    countP_tails_of_not_mem hrest]
  simp

end Once

end DocViews.Text
