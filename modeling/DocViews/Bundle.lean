import DocViews.Sql.Statement
import DocViews.TablePolicy
import DocViews.Text.Replace

/-!
# Bundles

A compiled document type: the statements that set it up, fill it, empty it and tear it down, the
objects that it consists of, and which path went into which column.
-/

namespace DocViews

/-- The columns of one projection view, each with the path of its values. -/
structure ViewMetadata where
  view : String
  columns : List (String × String)
  deriving DecidableEq, Repr

/-- The name of the raw table of a document type. -/
def rawTableName (base : String) : String := base ++ "_RAW"

structure Bundle (Document : Type) where
  /-- The name that the names of all objects begin with. -/
  base : String
  creation : List Sql.Statement
  drops : List Sql.Statement
  /-- Statements that give read access, with a placeholder for who gets it. -/
  grantTemplates : List String
  insert : Sql.Statement
  truncate : Sql.Statement
  /-- The objects, in the order in which they are created. -/
  objects : List Sql.DbObject
  metadata : List ViewMetadata
  table : TablePolicy Document

/-- Stands for the grantee in a grant. -/
def granteePlaceholder : String := "\x7bgrantee\x7d"

/-- The statement that gives read access to an object, before the grantee is known. -/
def grantTemplate (object : String) : String :=
  "GRANT SELECT ON " ++ object ++ " TO " ++ granteePlaceholder

namespace Bundle

variable {Document : Type}

def rawTable (b : Bundle Document) : String := rawTableName b.base

/-- The grants for one grantee. -/
def grants (b : Bundle Document) (grantee : String) : List String :=
  b.grantTemplates.map (Text.replace granteePlaceholder grantee)

/-- The values of one revision of a document, in the order of the columns of the raw table. -/
def row (b : Bundle Document) (id : String) (revision : Int) (deleted : Bool)
    (payload : Option String) (document : Document) : List Json :=
  [.str id, .int revision, .bool deleted, (payload.map Json.str).getD .null]
    ++ b.table.values document

end Bundle

end DocViews
