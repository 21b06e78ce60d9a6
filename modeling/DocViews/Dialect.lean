/-!
# Dialects

A document type is stored either as markup or as JSON. The dialect decides how the payload column
is declared and bound, and how many leading segments of a root path say nothing about a view:
markup paths begin at the document element, JSON paths below it.
-/

namespace DocViews

/-- The encoding of a document's payload. -/
inductive Dialect where
  | xml
  | json
  deriving DecidableEq, Repr, Inhabited

namespace Dialect

def all : List Dialect := [xml, json]

/-- The name of a dialect in definitions. -/
def name : Dialect → String
  | xml => "xml"
  | json => "json"

def ofName? (s : String) : Option Dialect := all.find? fun d => d.name == s

/-- The SQL type of the payload column. -/
def payloadType : Dialect → String
  | xml => "XML NOT NULL"
  | json => "JSONB"

/-- The expression that binds a payload in the insert statement. -/
def payloadLiteral : Dialect → String
  | xml => "XMLPARSE(CONTENT ?)"
  | json => "CAST(? AS JSONB)"

/-- How many leading segments of the roots are left out of a view's name. -/
def skippedSegments : Dialect → Nat
  | xml => 1
  | json => 0

end Dialect

end DocViews
