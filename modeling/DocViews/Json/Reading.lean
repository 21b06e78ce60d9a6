import DocViews.Dialect
import DocViews.ErrorCodes
import DocViews.Json
import DocViews.Mismatch
import DocViews.Scalar
import DocViews.Width

/-!
# Settings from JSON

Scalar types, dialects and tables of error codes can be given as JSON values. A name may be given
as a text or as the only field of an object, with null as its value; a table of error codes as an
object or as the list of its two parts.
-/

namespace DocViews.Json

def vocabulary : Vocabulary := ⟨"null", Decimal.compact.render⟩

def found : Json → Found
  | null => .nothing
  | bool b => .bool b
  | num (.int i) => .integer i
  | num (.float x) => .float x
  | str s => .text s
  | arr _ => .sequence
  | obj _ => .mapping

/-- Reads one of a list of named things. -/
def readVariant (all : List α) (nameOf : α → String) (j : Json) : Except Mismatch α :=
  let choose (name : String) : Except Mismatch α :=
    match all.find? fun a => nameOf a == name with
    | some a => .ok a
    | none => .error (.unknownVariant name (all.map nameOf))
  match j with
  | str name => choose name
  | obj [(name, value)] => do
    let a ← choose name
    match value with
    | null => return a
    | _ => .error (.type value.found "unit")
  | obj _ => .error (.value .mapping "map with a single key")
  | _ => .error (.type j.found "string or map")

def readScalar (j : Json) : Except Mismatch Scalar := readVariant Scalar.all Scalar.name j

def readDialect (j : Json) : Except Mismatch Dialect := readVariant Dialect.all Dialect.name j

/-- Reads an integer of 32 bits. -/
def readCode : Json → Except Mismatch Int
  | num (.int i) =>
    if fitsSigned 32 i then .ok i else .error (.value (.integer i) "i32")
  | j => .error (.type j.found "i32")

def readCodes : Json → Except Mismatch (List Int)
  | arr items => items.mapM readCode
  | j => .error (.type j.found "a sequence")

/-- Reads the fields of a table of error codes one after another; unknown ones are ignored. -/
def readCodeFields (whenExists whenMissing : Option (List Int)) :
    List (String × Json) → Except Mismatch ErrorCodes
  | [] =>
    match whenExists, whenMissing with
    | some e, some m => .ok ⟨e, m⟩
    | none, _ => .error (.missingField "exists")
    | _, none => .error (.missingField "missing")
  | (name, value) :: rest =>
    if name = "exists" then do readCodeFields (some (← readCodes value)) whenMissing rest
    else if name = "missing" then do readCodeFields whenExists (some (← readCodes value)) rest
    else readCodeFields whenExists whenMissing rest

def readErrorCodes : Json → Except Mismatch ErrorCodes
  | obj fields => readCodeFields none none fields
  | arr [] => .error (.length 0 "struct ErrorCodes with 2 elements")
  | arr [e] => do
    let _ ← readCodes e
    .error (.length 1 "struct ErrorCodes with 2 elements")
  | arr (e :: m :: rest) => do
    let codes : ErrorCodes := ⟨← readCodes e, ← readCodes m⟩
    if rest.isEmpty then return codes
    else .error (.length (rest.length + 2) "fewer elements in array")
  | j => .error (.type j.found "struct ErrorCodes")

end DocViews.Json
