import DocViews.Json

/-!
# Additional columns

A raw table may have columns beside the fixed ones, to find documents by what is in them. A policy
names the columns with their SQL types and takes their values from a document.
-/

namespace DocViews

structure TablePolicy (Document : Type) where
  /-- Names and SQL types, in the order of the columns. -/
  columns : List (String × String)
  /-- One value for each column. -/
  values : Document → List Json

/-- Columns whose values are the fields of the same names; a missing field is null. -/
def staticColumns (columns : List (String × String)) : TablePolicy Json where
  columns := columns
  values document := columns.map fun (name, _) => (document.field? name).getD .null

end DocViews
