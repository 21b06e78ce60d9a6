import DocViews.Bundle
import DocViews.Config
import DocViews.View.Columns
import DocViews.View.Json
import DocViews.View.Partition
import DocViews.View.Xml

/-!
# Compiling a document type

A document type becomes a raw table with an index for each additional column, three views on its
revisions, one or more projection views for each group, and, if wanted, a view that lists all
mappings and a synonym for every object. Each step yields what it adds; only the names that are
taken so far are handed from group to group. The first name that is already taken, and the first
namespace that cannot be written, ends the compilation.
-/

namespace DocViews

/-! ## The raw table -/

/-- Names the indices of additional columns, all different from each other and from the name
    that belongs to the table itself. `reserved` holds the names that are taken. -/
def nameIndices (namer : Namer) (base : String) (reserved : List String) :
    List String → Except CompileError (List (String × String))
  | [] => .ok []
  | column :: columns =>
    let index := namer [base, column] reserved.contains
    if reserved.contains index then .error (.nameCollision .index index (rawTableName base))
    else do
      let rest ← nameIndices namer base (index :: reserved) columns
      return (index, column) :: rest

def indexStatement (base : String) (index : String × String) : Sql.Statement :=
  .createIndex (index.1 ++ "_IDX") (rawTableName base) index.2

/-- The views on revisions, with their queries. -/
def temporalViews (base : String) : List (String × Sql.Query) :=
  let raw := rawTableName base
  [(base ++ "_MIN", .extreme .min raw), (base ++ "_MAX", .extreme .max raw),
    (base ++ "_NOW", .current raw)]

/-- The columns of the raw table. -/
def directColumns (additional : List (String × String)) : List String :=
  Sql.fixedColumns ++ additional.map (·.1)

/-! ## Projection views -/

/-- Writes a planned view for the dialect of the configuration. -/
def project (config : Config) (v : ViewPlan) : Except CompileError Projection :=
  match config.dialect with
  | .xml => xmlProjection config.types config.namespaces v
  | .json => .ok (jsonProjection config.types v)

/-- The segments that a group's view is named after. -/
def viewSegments (dialect : Dialect) (base : String) (g : ViewGroup) : List String :=
  base :: (g.roots.flatMap Path.names).drop dialect.skippedSegments

/-- The projection views of one group. -/
def projectGroup (config : Config) (namer : Namer) (base : String) (direct taken : List String)
    (g : ViewGroup) : Except CompileError (List Projection) := do
  let view := namer (viewSegments config.dialect base g) taken.contains
  if taken.contains view then throw (.nameCollision .view view base)
  let properties ← nameColumns namer view direct [] g.properties
  (planViews (rawTableName base) direct taken view g.roots properties).mapM (project config)

/-- The projection views of all groups; `taken` holds the names of the objects so far. -/
def projectGroups (config : Config) (namer : Namer) (base : String) (direct : List String)
    (taken : List String) : List ViewGroup → Except CompileError (List Projection)
  | [] => .ok []
  | g :: gs => do
    let views ← projectGroup config namer base direct taken g
    let rest ← projectGroups config namer base direct (taken ++ views.map (·.name)) gs
    return views ++ rest

def Projection.metadata (p : Projection) : ViewMetadata := ⟨p.name, p.mappings⟩

/-! ## The metadata view -/

def ViewMetadata.mappings (m : ViewMetadata) : List Sql.Mapping :=
  m.columns.map fun (path, column) => ⟨path, m.view, column⟩

/-- The query that lists all mappings. -/
def metadataQuery (metadata : List ViewMetadata) : Sql.Query :=
  .mappings (metadata.flatMap (·.mappings))

/-- The metadata view, if the configuration wants one. -/
def metadataViews (config : Config) (base : String) (taken : List String)
    (metadata : List ViewMetadata) : Except CompileError (List (String × Sql.Query)) :=
  if config.metadataView then
    let name := base ++ "_MTA"
    if taken.contains name then .error (.nameCollision .view name base)
    else .ok [(name, metadataQuery metadata)]
  else .ok []

/-! ## The bundle -/

/-- The objects of a document type with the given views. -/
def objectsOf (base : String) (views : List (String × Sql.Query)) : List Sql.DbObject :=
  ⟨rawTableName base, .table⟩ :: views.map fun (name, _) => ⟨name, .view⟩

def creationStatements (config : Config) (base : String) (additional : List (String × String))
    (indices : List (String × String)) (views : List (String × Sql.Query)) : List Sql.Statement :=
  [.createTable (rawTableName base) config.dialect.payloadType additional (base ++ "_PK")]
    ++ indices.map (indexStatement base)
    ++ views.map (fun (name, query) => .createView name query)
    ++ (if config.synonym then (objectsOf base views).map (.createSynonym ·.name) else [])
    ++ config.onCreation.flatMap fun hook => (hook (rawTableName base)).map .custom

def dropStatements (config : Config) (base : String) (objects : List Sql.DbObject) :
    List Sql.Statement :=
  objects.map .drop
    ++ (if config.synonym then objects.map (.dropSynonym ·.name) else [])
    ++ config.onDrop.flatMap fun hook => (hook (rawTableName base)).map .custom

/-- One value for each column of the raw table. -/
def placeholders (dialect : Dialect) (additional : List (String × String)) : List String :=
  ["?", "?", "?", dialect.payloadLiteral] ++ additional.map fun _ => "?"

/-- Compiles a document type under a name. -/
def compile {Document : Type} (config : Config) (name : String) (groups : List ViewGroup)
    (namer : Namer) (table : TablePolicy Document) : Except CompileError (Bundle Document) := do
  let base := namer [name] fun _ => false
  let direct := directColumns table.columns
  let indices ← nameIndices namer base [base ++ "_IDX"] (table.columns.map (·.1))
  let temporal := temporalViews base
  let taken := rawTableName base :: temporal.map (·.1)
  let projections ← projectGroups config namer base direct taken groups
  let metadata := projections.map (·.metadata)
  let listing ← metadataViews config base (taken ++ projections.map (·.name)) metadata
  let views := temporal ++ projections.map (fun p => (p.name, p.query)) ++ listing
  let objects := objectsOf base views
  return {
    base
    creation := creationStatements config base table.columns indices views
    drops := dropStatements config base objects
    grantTemplates := objects.map fun o => grantTemplate o.name
    insert := .insert (rawTableName base) direct (placeholders config.dialect table.columns)
    truncate := .truncate (rawTableName base)
    objects
    metadata
    table }

end DocViews
