import DocViews.TextMap

/-!
# JSON values

Values that documents hold and that answers are printed as. The fields of an object are listed by
ascending name.
-/

namespace DocViews

/-- A number is an integer of up to 64 bits, or else a double. -/
inductive Number where
  | int (value : Int)
  | float (value : Float)
  deriving Inhabited

inductive Json where
  | null
  | bool (value : Bool)
  | num (value : Number)
  | str (value : String)
  | arr (items : List Json)
  | obj (fields : List (String × Json))
  deriving Inhabited

namespace Json

/-- The integer `i` as a value. -/
def int (i : Int) : Json := num (.int i)

/-- The object with the given fields; of several with one name the last counts. -/
def object (fields : List (String × Json)) : Json := obj (TextMap.ofList fields).entries

/-- The list of texts as a value. -/
def texts (ss : List String) : Json := arr (ss.map str)

/-- The field of an object with a given name; nothing else has fields. -/
def field? : Json → String → Option Json
  | obj fields, name => fields.lookup name
  | _, _ => none

end Json

end DocViews
