import DocViews.Decimal.Shortest
import DocViews.Text.Quoted

/-!
# Values that do not fit

When a value is read as something that it is not, the message tells what was found and what was
expected. JSON and YAML differ only in how they call nothing and in how they write doubles.
-/

namespace DocViews

/-- What was found. -/
inductive Found where
  | nothing
  | bool (value : Bool)
  | integer (value : Int)
  /-- An integer that needs 128 bits. -/
  | wide (value : Int)
  | float (value : Float)
  | text (value : String)
  | sequence
  | mapping

/-- Why a value does not fit. -/
inductive Mismatch where
  /-- A value of the wrong type. -/
  | type (found : Found) (expected : String)
  /-- A value of the right type that is not allowed. -/
  | value (found : Found) (expected : String)
  /-- A sequence with the wrong number of elements. -/
  | length (count : Nat) (expected : String)
  /-- A name that is none of the known ones. -/
  | unknownVariant (name : String) (known : List String)
  | duplicateField (name : String)
  | missingField (name : String)

/-- How values are called in messages. -/
structure Vocabulary where
  nothing : String
  float : Float → String

def Found.describe (v : Vocabulary) : Found → String
  | .nothing => v.nothing
  | .bool b => "boolean \x60" ++ (if b then "true" else "false") ++ "\x60"
  | .integer i => "integer \x60" ++ i.repr ++ "\x60"
  | .wide i => "integer \x60" ++ i.repr ++ "\x60 as " ++ (if i < 0 then "i128" else "u128")
  | .float x => "floating point \x60" ++ v.float x ++ "\x60"
  | .text s => "string " ++ Text.quoted s
  | .sequence => "sequence"
  | .mapping => "map"

/-- A list of names to choose from. -/
def describeChoice (names : List String) : String :=
  match names.map fun n => "\x60" ++ n ++ "\x60" with
  | [] => "there are no variants"
  | [a] => "expected " ++ a
  | [a, b] => "expected " ++ a ++ " or " ++ b
  | ns => "expected one of " ++ String.intercalate ", " ns

def Mismatch.message (v : Vocabulary) : Mismatch → String
  | .type found expected => "invalid type: " ++ found.describe v ++ ", expected " ++ expected
  | .value found expected => "invalid value: " ++ found.describe v ++ ", expected " ++ expected
  | .length count expected => "invalid length " ++ count.repr ++ ", expected " ++ expected
  | .unknownVariant name known =>
    "unknown variant \x60" ++ name ++ "\x60, " ++ describeChoice known
  | .duplicateField name => "duplicate field \x60" ++ name ++ "\x60"
  | .missingField name => "missing field \x60" ++ name ++ "\x60"

end DocViews
