/-!
# Scalar types

The types that a property of a document can have, and the SQL types that stand for them.
-/

namespace DocViews

/-- The type of a property. -/
inductive Scalar where
  | string
  | short
  | integer
  | long
  | decimal
  | float
  | double
  | boolean
  | date
  | dateTime
  | time
  | binary
  deriving DecidableEq, Repr, Inhabited

namespace Scalar

def all : List Scalar :=
  [string, short, integer, long, decimal, float, double, boolean, date, dateTime, time, binary]

/-- The name of a scalar type in definitions. -/
def name : Scalar → String
  | string => "string"
  | short => "short"
  | integer => "integer"
  | long => "long"
  | decimal => "decimal"
  | float => "float"
  | double => "double"
  | boolean => "boolean"
  | date => "date"
  | dateTime => "date_time"
  | time => "time"
  | binary => "binary"

def ofName? (s : String) : Option Scalar := all.find? fun t => t.name == s

end Scalar

/-- Gives the SQL type of a scalar type. -/
abbrev TypeNames := Scalar → String

/-- The SQL types of PostgreSQL. Bounded strings are limited to 4000 characters. -/
def postgresTypes (boundedStrings : Bool) : TypeNames
  | .string => if boundedStrings then "VARCHAR(4000)" else "TEXT"
  | .short => "SMALLINT"
  | .integer => "INTEGER"
  | .long => "BIGINT"
  | .decimal => "NUMERIC"
  | .float => "REAL"
  | .double => "DOUBLE PRECISION"
  | .boolean => "BOOLEAN"
  | .date => "DATE"
  | .dateTime => "TIMESTAMP"
  | .time => "TIME"
  | .binary => "BYTEA"

end DocViews
