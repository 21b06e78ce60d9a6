import DocViews.Sql.Literal

/-!
# Queries behind views

The temporal views select revisions of the raw table, the projection views select parts of the
payload, and the metadata view lists which path went into which column. Texts in a query are kept
as they are meant; quoting happens when the query is written out.
-/

namespace DocViews.Sql

/-- The key of a document. -/
def idColumn : String := "ID"

/-- The number of a document's revision. -/
def revisionColumn : String := "REVISION"

/-- Whether a revision stands for the removal of its document. -/
def deletedColumn : String := "DELETED"

/-- The document itself. -/
def payloadColumn : String := "PAYLOAD"

/-- The columns that every raw table begins with. -/
def fixedColumns : List String := [idColumn, revisionColumn, deletedColumn, payloadColumn]

inductive Extreme where
  | min
  | max
  deriving DecidableEq, Repr

/-- The aggregate function of an extreme, which also ends the name of its view. -/
def Extreme.function : Extreme → String
  | .min => "MIN"
  | .max => "MAX"

/-- A column of an XML table: `path` leads to its value from the row's node. -/
structure XmlColumn where
  name : String
  sqlType : String
  path : String
  deriving DecidableEq, Repr

/-- Columns `direct` of a raw table next to an XML table with a row for each node at `root`. Each
    declaration is a namespace with its prefix. -/
structure XmlProjection where
  table : String
  direct : List String
  declarations : List (String × String)
  root : String
  columns : List XmlColumn
  deriving DecidableEq, Repr

/-- A value below an exploded element, found by one key after another. -/
structure JsonColumn where
  name : String
  sqlType : String
  keys : List String
  deriving DecidableEq, Repr

/-- Columns `direct` of a raw table next to the values of the elements that `root` finds. -/
structure JsonProjection where
  table : String
  direct : List String
  root : String
  columns : List JsonColumn
  deriving DecidableEq, Repr

/-- That `column` of `view` holds what `path` leads to. -/
structure Mapping where
  path : String
  view : String
  column : String
  deriving DecidableEq, Repr

inductive Query where
  /-- The extreme revision of each document. -/
  | extreme (e : Extreme) (table : String)
  /-- The last revision of each document that is not removed. -/
  | current (table : String)
  | xml (p : XmlProjection)
  | json (p : JsonProjection)
  /-- One row for each mapping. -/
  | mappings (rows : List Mapping)
  deriving DecidableEq, Repr

/-! ## Writing out -/

/-- An XML table needs a column; this one stands in for none and is not selected. -/
def ordinalityColumn : String := "XML_ORDINAL"

def XmlColumn.render (c : XmlColumn) : String :=
  c.name ++ " " ++ c.sqlType ++ " PATH " ++ literal c.path

def XmlProjection.columnList (p : XmlProjection) : String :=
  if p.columns.isEmpty then ordinalityColumn ++ " FOR ORDINALITY"
  else commaSeparated (p.columns.map (·.render))

/-- A namespace as a literal, with its prefix as a quoted identifier. -/
def renderDeclaration (d : String × String) : String :=
  literal d.1 ++ " AS \"" ++ d.2 ++ "\""

/-- The declarations of an XML table; there is no clause if there are none. -/
def XmlProjection.namespaceClause (p : XmlProjection) : String :=
  if p.declarations.isEmpty then ""
  else "XMLNAMESPACES(" ++ commaSeparated (p.declarations.map renderDeclaration) ++ "), "

def XmlProjection.render (p : XmlProjection) : String :=
  "SELECT " ++ commaSeparated (p.direct ++ p.columns.map (·.name))
    ++ " FROM " ++ p.table ++ ", XMLTABLE(" ++ p.namespaceClause ++ literal p.root
    ++ " PASSING " ++ payloadColumn ++ " COLUMNS " ++ p.columnList ++ ")"

/-- The value that an exploded element stands for. -/
def explodedValue : String := "EXPLODED.VALUE"

/-- Descends key by key; a value is a list of one, and its only element is read as text. -/
def JsonColumn.extraction (c : JsonColumn) : String :=
  explodedValue ++ String.join (c.keys.map fun k => "->" ++ literal k) ++ "->>0"

def JsonColumn.render (c : JsonColumn) : String :=
  "CAST(" ++ c.extraction ++ " AS " ++ c.sqlType ++ ") AS " ++ c.name

def JsonProjection.render (p : JsonProjection) : String :=
  "SELECT " ++ commaSeparated (p.direct ++ p.columns.map (·.render))
    ++ " FROM " ++ p.table ++ ", JSONB_PATH_QUERY(" ++ payloadColumn ++ ", " ++ literal p.root
    ++ ") AS EXPLODED(VALUE)"

/-- A row that never appears. It gives the view its columns even if there are no mappings. -/
def seedRow : String := "SELECT NULL AS PATH, NULL AS OBJECT, NULL AS NAME WHERE 0 = 1"

def Mapping.render (m : Mapping) : String :=
  "SELECT " ++ literal m.path ++ " AS PATH, " ++ literal m.view ++ " AS OBJECT, "
    ++ literal m.column ++ " AS NAME"

def Query.render : Query → String
  | .extreme e table =>
    "SELECT " ++ idColumn ++ ", " ++ e.function ++ "(" ++ revisionColumn ++ ") " ++ revisionColumn
      ++ " FROM " ++ table ++ " GROUP BY " ++ idColumn
  | .current table =>
    "SELECT " ++ idColumn ++ ", MAX(" ++ revisionColumn ++ ") " ++ revisionColumn
      ++ " FROM " ++ table ++ " GROUP BY " ++ idColumn
      ++ " INTERSECT SELECT " ++ idColumn ++ ", " ++ revisionColumn
      ++ " FROM " ++ table ++ " WHERE " ++ deletedColumn ++ " = false"
  | .xml p => p.render
  | .json p => p.render
  | .mappings rows => String.intercalate " UNION ALL " (seedRow :: rows.map (·.render))

end DocViews.Sql
