import DocViews.Json
import DocViews.Text.Digits
import DocViews.Width

/-!
# Number literals

An integer of up to 64 bits is kept exactly, and every other number as a double: as many of its
digits as fit into 64 bits make an integer, and the double nearest to that is multiplied or divided
by a power of ten. So not all digits count, and the last bit need not be that of the nearest double.
A number too large for a double is none.
-/

namespace DocViews.Json

open Text (digitsValue? splitSign signed)

/-- A decimal literal: its sign, the digits on both sides of its point, and its exponent. -/
structure Literal where
  negative : Bool
  whole : List Nat
  fraction : List Nat := []
  exponent : Option Int := none
  deriving Repr

namespace Literal

/-! ## Syntax -/

/-- The digits that a text begins with. -/
def readDigits (cs : List Char) : List Nat × List Char :=
  ((cs.takeWhile Char.isDigit).map fun c => c.toNat - 48, cs.dropWhile Char.isDigit)

/-- Reads digits before a point: a zero stands by itself. -/
def readWhole : List Char → Option (List Nat × List Char)
  | '0' :: rest => if (rest.head?.map Char.isDigit).getD false then none else some ([0], rest)
  | cs =>
    let (digits, rest) := readDigits cs
    if digits.isEmpty then none else some (digits, rest)

/-- Reads a point and digits, if there is a point. -/
def readFraction : List Char → Option (List Nat × List Char)
  | '.' :: cs =>
    let (digits, rest) := readDigits cs
    if digits.isEmpty then none else some (digits, rest)
  | cs => some ([], cs)

/-- Reads an exponent, if there is one. -/
def readExponent (cs : List Char) : Option (Option Int × List Char) :=
  if cs.head? = some 'e' ∨ cs.head? = some 'E' then
    let (negative, cs) := splitSign (cs.drop 1)
    (digitsValue? 10 (cs.takeWhile Char.isDigit)).map fun n =>
      (some (signed negative n), cs.dropWhile Char.isDigit)
  else some (none, cs)

/-- Reads the literal that a text begins with. -/
def read (cs : List Char) : Option (Literal × List Char) := do
  let negative := cs.head? = some '-'
  let (whole, rest) ← readWhole (if negative then cs.drop 1 else cs)
  let (fraction, rest) ← readFraction rest
  let (exponent, rest) ← readExponent rest
  return ({ negative, whole, fraction, exponent }, rest)

/-! ## Value -/

/-- Appends digits to a number as long as it fits into 64 bits. The digits from the first one that
    does not fit are left. -/
def appendDigits (n : Nat) : List Nat → Nat × List Nat
  | [] => (n, [])
  | d :: ds =>
    if fitsUnsigned 64 (10 * n + d : Nat) then appendDigits (10 * n + d) ds else (n, d :: ds)

/-- The largest exponent of a power of ten among doubles. -/
def maxPower : Nat := 308

def powerOfTen (n : Nat) : Float := Float.ofScientific 1 false n

/-- Divides by a power of ten, in steps by the largest one among doubles. -/
def divide (x : Float) (n : Nat) : Float :=
  if n ≤ maxPower then x / powerOfTen n
  else if x == 0 then x
  else divide (x / powerOfTen maxPower) (n - maxPower)
termination_by n
decreasing_by simp_all [maxPower]; omega

/-- Multiplies by a power of ten, unless the product is out of range. -/
def multiply? (x : Float) (n : Nat) : Option Float :=
  if n ≤ maxPower then
    let product := x * powerOfTen n
    if product.isFinite then some product else none
  else if x == 0 then some x
  else none

/-- The number that a literal stands for. A zero with a minus is no integer. -/
def value? (l : Literal) : Option Number :=
  let (n, left) := appendDigits 0 l.whole
  let isInteger := l.fraction.isEmpty && l.exponent.isNone && left.isEmpty
  if isInteger ∧ (l.negative → n ≠ 0 ∧ fitsSigned 64 (-n)) then
    some (.int (signed l.negative n))
  else
    let (n, ignored) := appendDigits n l.fraction
    let exponent := l.exponent.getD 0 + left.length - (l.fraction.length - ignored.length : Nat)
    let x := n.toUInt64.toFloat
    let size :=
      if exponent < 0 then some (divide x exponent.natAbs) else multiply? x exponent.natAbs
    size.map fun x => .float (if l.negative then -x else x)

end Literal

end DocViews.Json
