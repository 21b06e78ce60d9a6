import DocViews.Text.Digits
import DocViews.Width

/-!
# Plain scalars

What a scalar without quotes stands for: nothing, a truth value, a number or its own text. Integers
may have a sign and be written in base 16, 8 or 2; digits that begin with an idle zero are a text.
An integer that no 128 bits can hold counts as a double.
-/

namespace DocViews.Yaml

open Text (digitsValue? splitSign)

/-! ## Words -/

/-- The words for nothing. -/
def isNullWord (s : String) : Bool := s == "null" || s == "Null" || s == "NULL" || s == "~"

/-- The truth value of a word. -/
def boolOfWord? (s : String) : Option Bool :=
  if s == "true" || s == "True" || s == "TRUE" then some true
  else if s == "false" || s == "False" || s == "FALSE" then some false
  else none

/-! ## Integers -/

/-- Whether digits begin with a zero that they do not need. -/
def hasIdleZero : List Char → Bool
  | '0' :: c :: cs => (c :: cs).all Char.isDigit
  | _ => false

/-- The value of an integer without its sign. -/
def magnitude? : List Char → Option Nat
  | '0' :: 'x' :: cs => digitsValue? 16 cs
  | '0' :: 'o' :: cs => digitsValue? 8 cs
  | '0' :: 'b' :: cs => digitsValue? 2 cs
  | cs => if hasIdleZero cs then none else digitsValue? 10 cs

/-- An integer of any size. -/
def integer? (s : String) : Option Int :=
  let (negative, cs) := splitSign s.toList
  (magnitude? cs).map (Text.signed negative)

/-- An integer of 64 bits without a minus. -/
def unsigned? (s : String) : Option Nat :=
  let (negative, cs) := splitSign s.toList
  if negative then none else (magnitude? cs).filter fun n => fitsUnsigned 64 n

/-- An integer of 64 bits, one of which is for the sign. -/
def signed? (s : String) : Option Int := (integer? s).filter (fitsSigned 64)

/-! ## Doubles -/

/-- The exponent at the end of a decimal. -/
def exponent? : List Char → Option Int
  | [] => some 0
  | c :: cs =>
    if c = 'e' ∨ c = 'E' then
      let (negative, digits) := splitSign cs
      (digitsValue? 10 digits).map (Text.signed negative)
    else none

/-- The nearest double to `mantissa * 10 ^ exponent`, unless it is out of range. -/
def finite? (mantissa : Nat) (exponent : Int) : Option Float :=
  let point := (Nat.repr mantissa).length + exponent
  if mantissa = 0 ∨ point < -400 then some 0.0
  else if 400 < point then none
  else
    let x := Float.ofScientific mantissa (exponent < 0) exponent.natAbs
    if x.isFinite then some x else none

/-- The double that a decimal without a sign stands for. -/
def decimal? (cs : List Char) : Option Float := do
  let whole := cs.takeWhile Char.isDigit
  let rest := cs.dropWhile Char.isDigit
  let (fraction, rest) :=
    match rest with
    | '.' :: rest => (rest.takeWhile Char.isDigit, rest.dropWhile Char.isDigit)
    | _ => ([], rest)
  let mantissa ← digitsValue? 10 (whole ++ fraction)
  let exponent ← exponent? rest
  finite? mantissa (exponent - fraction.length)

def isInfinityWord (cs : List Char) : Bool :=
  cs == ".inf".toList || cs == ".Inf".toList || cs == ".INF".toList

def isNanWord (s : String) : Bool := s == ".nan" || s == ".NaN" || s == ".NAN"

/-- The double that a scalar stands for. -/
def double? (s : String) : Option Float :=
  let (negative, cs) := splitSign s.toList
  let size := if isInfinityWord cs then some (1.0 / 0.0) else decimal? cs
  if isNanWord s then some (0.0 / 0.0) else if negative then size.map Float.neg else size

/-! ## Plain scalars -/

/-- What a plain scalar stands for. -/
inductive Plain where
  | nothing
  | bool (value : Bool)
  | integer (value : Int)
  /-- An integer that needs more than 64 bits, but no more than 128. -/
  | wide (value : Int)
  | float (value : Float)
  | text

/-- Whether a text consists of digits but is no number. -/
def isIdleNumber (s : String) : Bool := hasIdleZero (splitSign s.toList).2

/-- Integers of 64 bits, signed or not. -/
def isNarrow (i : Int) : Bool := fitsSigned 64 i || fitsUnsigned 64 i

/-- Integers of 128 bits, signed or not. -/
def isWide (i : Int) : Bool := fitsSigned 128 i || fitsUnsigned 128 i

/-- What an integer stands for, if it is of a size to be kept. -/
def Plain.ofInteger? (i : Int) : Option Plain :=
  if isNarrow i then some (.integer i) else if isWide i then some (.wide i) else none

def Plain.ofText (s : String) : Plain :=
  if s.isEmpty || isNullWord s then .nothing
  else
    let number := ((integer? s).bind ofInteger?).or
      (if isIdleNumber s then none else (double? s).map .float)
    ((boolOfWord? s).map .bool).or number |>.getD .text

end DocViews.Yaml
