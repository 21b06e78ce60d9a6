import DocViews.Sql.Query

/-!
# Statements

The statements that set up, fill, empty and tear down the objects of a document type.
-/

namespace DocViews.Sql

/-- The kind of a database object, as it is named when the object is created or dropped. -/
inductive ObjectKind where
  | table
  | view
  deriving DecidableEq, Repr

def ObjectKind.keyword : ObjectKind → String
  | .table => "TABLE"
  | .view => "VIEW"

/-- A database object. -/
structure DbObject where
  name : String
  kind : ObjectKind
  deriving DecidableEq, Repr

inductive Statement where
  /-- A raw table, with the type of its payload, the names and types of its additional columns and
      the name of its primary key. -/
  | createTable (name payloadType : String) (additional : List (String × String)) (key : String)
  | createIndex (name table column : String)
  | createView (name : String) (query : Query)
  | createSynonym (name : String)
  | drop (object : DbObject)
  | dropSynonym (name : String)
  | insert (table : String) (columns values : List String)
  | truncate (table : String)
  /-- A statement given as text. -/
  | custom (text : String)
  deriving DecidableEq, Repr

def Statement.render : Statement → String
  | .createTable name payloadType additional key =>
    "CREATE TABLE " ++ name ++ " ("
      ++ idColumn ++ " VARCHAR(250) NOT NULL, "
      ++ revisionColumn ++ " BIGINT NOT NULL, "
      ++ deletedColumn ++ " BOOLEAN NOT NULL, "
      ++ payloadColumn ++ " " ++ payloadType ++ ", "
      ++ String.join (additional.map fun (column, type) => column ++ " " ++ type ++ ", ")
      ++ "CONSTRAINT " ++ key ++ " PRIMARY KEY (" ++ idColumn ++ ", " ++ revisionColumn ++ "))"
  | .createIndex name table column =>
    "CREATE INDEX " ++ name ++ " ON " ++ table ++ " (" ++ column ++ ")"
  | .createView name query => "CREATE VIEW " ++ name ++ " AS " ++ query.render
  | .createSynonym name => "CREATE PUBLIC SYNONYM " ++ name ++ " FOR " ++ name
  | .drop object => "DROP " ++ object.kind.keyword ++ " " ++ object.name
  | .dropSynonym name => "DROP PUBLIC SYNONYM " ++ name
  | .insert table columns values =>
    "INSERT INTO " ++ table ++ " (" ++ commaSeparated columns ++ ") VALUES ("
      ++ commaSeparated values ++ ")"
  | .truncate table => "TRUNCATE TABLE " ++ table
  | .custom text => text

end DocViews.Sql
