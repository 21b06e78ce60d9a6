import DocViews.Numbering
import DocViews.View

/-!
# Splitting large views

A view shows no more than a fixed number of properties. A larger group is split into several views
that differ by a number at the end of the name; its properties go into them in the order of their
columns.
-/

namespace DocViews

/-- The largest number of properties in one view. -/
def maxColumns : Nat := 200

/-- Cuts a list into pieces of `n` elements; the last may be shorter. -/
def pieces (n : Nat) (l : List α) : List (List α) :=
  if l.isEmpty ∨ n = 0 then [] else l.take n :: pieces n (l.drop n)
termination_by l.length
decreasing_by
  rename_i h
  simp only [not_or, List.isEmpty_iff] at h
  have : 0 < l.length := List.length_pos_iff.2 h.1
  simp only [List.length_drop]
  omega

/-- The name of the part of a view with a number. -/
def partName (view : String) (n : Nat) : String := view ++ "_" ++ Nat.repr n

/-- The numbers of `count` parts: the smallest ones from `start` on whose names are not taken. -/
def partNumbers (view : String) (taken : List String) (start : Nat) : Nat → List Nat
  | 0 => []
  | count + 1 =>
    let n := firstFree (partName view) taken start
    n :: partNumbers view taken (n + 1) count

/-- The views that show the properties of a group: one if they fit, or else as many parts as it
    takes. -/
def planViews (table : String) (direct : List String) (taken : List String) (view : String)
    (roots : List Path) (properties : List ColumnProperty) : List ViewPlan :=
  if properties.length ≤ maxColumns then [⟨view, table, direct, roots, properties⟩]
  else
    let chunks := pieces maxColumns (properties.mergeSort fun a b => decide (a.column ≤ b.column))
    (partNumbers view taken 0 chunks.length).zipWith
      (fun n chunk => ⟨partName view n, table, direct, roots, chunk⟩) chunks

end DocViews
