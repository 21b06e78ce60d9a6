/-!
# Replacing a placeholder

Every occurrence of a placeholder is replaced, from left to right and without overlaps; what was
put in is not looked at again.
-/

namespace DocViews.Text

/-- Replaces every occurrence of `pattern`; an empty pattern occurs nowhere. -/
def replaceChars (pattern replacement : List Char) : List Char → List Char
  | [] => []
  | c :: cs =>
    if pattern ≠ [] ∧ pattern.isPrefixOf (c :: cs) then
      replacement ++ replaceChars pattern replacement (cs.drop (pattern.length - 1))
    else c :: replaceChars pattern replacement cs
termination_by s => s.length

/-- The text in which `replacement` stands for every occurrence of `pattern`. -/
def replace (pattern replacement s : String) : String :=
  String.ofList (replaceChars pattern.toList replacement.toList s.toList)

end DocViews.Text
