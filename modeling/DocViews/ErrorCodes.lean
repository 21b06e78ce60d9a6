/-!
# Expected error codes

Setting up what is there already and tearing down what is not are no failures. A database reports
both by an error code; these tables tell which codes may be ignored in which situation.
-/

namespace DocViews

/-- Vendor codes for an object that exists already and for one that is missing. -/
structure ErrorCodes where
  whenExists : List Int
  whenMissing : List Int
  deriving DecidableEq, Repr

namespace ErrorCodes

/-- The codes that hold unless a document type brings its own: of views and tables, of
    materialized views, and of parameters or public synonyms. -/
def legacy : ErrorCodes where
  whenExists := [955, 12006, 44740]
  whenMissing := [942, 12003, 1432]

/-- Whether a code may be ignored when the object was expected to exist, or to be missing. -/
def isExpected (codes : ErrorCodes) (expectingExistence : Bool) (code : Int) : Bool :=
  if expectingExistence then codes.whenExists.contains code else codes.whenMissing.contains code

end ErrorCodes

/-- The standard states for a table, an object and a schema that exist already. -/
def statesWhenExists : List String := ["42P07", "42710", "42P06"]

/-- The standard states for a table, an object and a schema that are missing. -/
def statesWhenMissing : List String := ["42P01", "42704", "3F000"]

/-- Whether a standard state may be ignored; upper and lower case letters of ASCII are the same. -/
def isExpectedState (expectingExistence : Bool) (state : String) : Bool :=
  let states := if expectingExistence then statesWhenExists else statesWhenMissing
  states.any fun s => s.map Char.toUpper == state.map Char.toUpper

end DocViews
