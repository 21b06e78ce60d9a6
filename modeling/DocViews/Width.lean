/-!
# Integers of limited width

Which integers can be written with a number of bits, with a sign or without.
-/

namespace DocViews

/-- Whether an integer fits into `bits` bits, one of which is for the sign. -/
def fitsSigned (bits : Nat) (i : Int) : Bool :=
  let limit : Int := Nat.pow 2 (bits - 1)
  decide (-limit ≤ i) && decide (i < limit)

/-- Whether an integer is not negative and fits into `bits` bits. -/
def fitsUnsigned (bits : Nat) (i : Int) : Bool :=
  decide (0 ≤ i) && decide (i < (Nat.pow 2 bits : Nat))

end DocViews
