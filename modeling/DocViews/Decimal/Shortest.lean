/-!
# Shortest decimals

A double is written with the fewest digits from which it can be read back; of several such
decimals the nearest one counts, and of two that are equally near the one that the format prefers.
The search is exact: the double is a fraction, the reals that round to it form an interval, and for
each number of digits the two neighbours of the double on that decimal grid are tried.
-/

namespace DocViews

/-- The digits of a positive number `0.d₁d₂… * 10 ^ point`. -/
structure Decimal where
  digits : String
  point : Int

namespace Decimal

/-- What the bits of a double stand for. -/
inductive Double where
  | nan
  | infinite (negative : Bool)
  /-- The number `mantissa * 2 ^ exponent`. The gap below it is half the gap above it if
      `narrow`. -/
  | finite (negative : Bool) (mantissa : Nat) (exponent : Int) (narrow : Bool)

def Double.ofBits (bits : UInt64) : Double :=
  let negative := bits >>> 63 == 1
  let field := ((bits >>> 52) &&& 0x7FF).toNat
  let fraction := (bits &&& 0xFFFFFFFFFFFFF).toNat
  if field = 0x7FF then
    if fraction = 0 then .infinite negative else .nan
  else if field = 0 then .finite negative fraction (-1074) false
  else .finite negative (0x10000000000000 + fraction) (field - 1075) (fraction = 0 ∧ 1 < field)

/-- Which of two neighbours counts for a number in the middle between them. -/
inductive Tie where
  | up
  | even
  deriving DecidableEq, Repr

/-- Whether the number in the middle between `n` and `n + 1` counts as `n + 1`. -/
def Tie.isUp (tie : Tie) (n : Nat) : Bool :=
  match tie with
  | .up => true
  | .even => n % 2 = 1

/-- The number of decimal digits of the integral part of a number. -/
def digitCount (n : Nat) : Nat := if n = 0 then 0 else (Nat.repr n).length

/-- The power of ten just above `num / den`: `10 ^ (p - 1) ≤ num / den < 10 ^ p`. -/
def magnitude (num den : Nat) : Int :=
  if den ≤ num then digitCount (num / den)
  else
    match (List.range 400).find? fun j => den ≤ num * Nat.pow 10 (j + 1) with
    | some j => -(j : Int)
    | none => -400

/-- The nearer of the two neighbours of `num / den` on the grid of `n` digits, if one of them lies
    between `low / den` and `high / den`. -/
def neighbour? (tie : Tie) (num low high den : Nat) (inclusive : Bool) (p : Int) (n : Nat) :
    Option Nat :=
  -- the grid has steps of `10 ^ (p - n)`
  let scale := (n : Int) - p
  let up := Nat.pow 10 scale.toNat
  let down := Nat.pow 10 (-scale).toNat
  let floor := num * up / (den * down)
  let fits (c : Nat) : Bool :=
    let c := c * den * down
    if inclusive then low * up ≤ c && c ≤ high * up else low * up < c && c < high * up
  let below := num * up - floor * den * down
  let above := (floor + 1) * den * down - num * up
  if fits floor && fits (floor + 1) then
    some (if above < below ∨ (above = below ∧ tie.isUp floor) then floor + 1 else floor)
  else if fits floor then some floor
  else if fits (floor + 1) then some (floor + 1)
  else none

/-- The shortest decimal of the positive double `mantissa * 2 ^ exponent`. -/
def shortest (tie : Tie) (mantissa : Nat) (exponent : Int) (narrow : Bool) : Decimal :=
  -- everything in quarters of the gap above
  let q := exponent - 2
  let up := Nat.pow 2 q.toNat
  let den := Nat.pow 2 (-q).toNat
  let num := 4 * mantissa * up
  let high := (4 * mantissa + 2) * up
  let low := (4 * mantissa - if narrow then 1 else 2) * up
  let p := magnitude num den
  let pick := (List.range' 1 17).findSome? fun n =>
    (neighbour? tie num low high den (mantissa % 2 = 0) p n).map fun c => (n, c)
  match pick with
  | some (n, c) => if c = Nat.pow 10 n then ⟨"1", p + 1⟩ else ⟨Nat.repr c, p⟩
  | none => ⟨Nat.repr (num / den), p⟩

def zeros (n : Int) : String := String.ofList (List.replicate n.toNat '0')

/-- A decimal without an exponent, and with a fraction even if it is zero. -/
def positional (d : Decimal) : String :=
  let count : Int := d.digits.length
  if d.point ≤ 0 then "0." ++ zeros (-d.point) ++ d.digits
  else if count ≤ d.point then d.digits ++ zeros (d.point - count) ++ ".0"
  else (d.digits.take d.point.toNat).copy ++ "." ++ (d.digits.drop d.point.toNat).copy

/-- A decimal with one digit before the point, and an exponent with its sign. -/
def scientific (d : Decimal) : String :=
  let fraction := (d.digits.drop 1).copy
  (d.digits.take 1).copy ++ (if fraction.isEmpty then "" else "." ++ fraction)
    ++ (if d.point < 1 then "e-" else "e+") ++ Nat.repr (d.point - 1).natAbs

/-- How doubles are written. -/
structure Format where
  tie : Tie
  /-- Which decimals are written without an exponent. -/
  isPositional : Decimal → Bool

def Format.render (f : Format) (x : Float) : String :=
  match Double.ofBits x.toBits with
  | .nan => "NaN"
  | .infinite negative => if negative then "-inf" else "inf"
  | .finite negative mantissa exponent narrow =>
    let text :=
      if mantissa = 0 then "0.0"
      else
        let d := shortest f.tie mantissa exponent narrow
        if f.isPositional d then positional d else scientific d
    if negative then "-" ++ text else text

/-- Every double without an exponent; what lies in the middle goes away from zero. -/
def plain : Format := ⟨.up, fun _ => true⟩

/-- An exponent for doubles from `10 ^ 16` on and below `10 ^ -5`; what lies in the middle goes to
    the even digit. -/
def compact : Format := ⟨.even, fun d => -5 < d.point ∧ d.point ≤ 16⟩

end Decimal

end DocViews
