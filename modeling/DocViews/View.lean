import DocViews.Path
import DocViews.Scalar
import DocViews.Sql.Query

/-!
# Projection views

A projection view shows a part of every document as rows: the raw columns, and one column for each
property below the elements that its roots lead to.
-/

namespace DocViews

/-- A value below the roots of a view. -/
structure Property where
  path : Path
  scalar : Scalar
  deriving DecidableEq, Repr

/-- Roots, one below the other, and the properties to be shown of what they lead to. -/
structure ViewGroup where
  roots : List Path
  properties : List Property
  deriving DecidableEq, Repr

/-- The segments from the root of a document to what the roots of a group lead to. -/
def ViewGroup.rootPath (g : ViewGroup) : Path := g.roots.flatten

/-- A property with the column that it was given. -/
structure ColumnProperty where
  path : Path
  scalar : Scalar
  column : String
  deriving DecidableEq, Repr

/-- A projection view that is still to be written for a dialect. -/
structure ViewPlan where
  name : String
  table : String
  /-- The raw columns, selected as they are. -/
  direct : List String
  roots : List Path
  properties : List ColumnProperty
  deriving DecidableEq, Repr

def ViewPlan.rootPath (v : ViewPlan) : Path := v.roots.flatten

/-- A projection view: its query, and for each property the path from the root of a document, as
    the dialect writes it, and the column. -/
structure Projection where
  name : String
  query : Sql.Query
  mappings : List (String × String)
  deriving DecidableEq, Repr

end DocViews
