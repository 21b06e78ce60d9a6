/-!
# Numbered names

Synthetic prefixes and parts of a split view are told apart by a number. Numbers are tried in
order until the name that belongs to one is not taken.
-/

namespace DocViews

/-- The smallest number from `start` on whose name is not taken. With distinct names for distinct
    numbers the search succeeds among the first `taken.length + 1` numbers. -/
def firstFree (name : Nat → String) (taken : List String) (start : Nat) : Nat :=
  ((List.range' start (taken.length + 1)).find? fun n => !taken.contains (name n)).getD start

end DocViews
