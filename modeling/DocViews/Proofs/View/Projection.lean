import DocViews.Compile
import DocViews.Proofs.Outcome

/-!
# Views as they are written

A written view takes every column from its plan, and from there alone: what is selected, what the
XML table declares and what the metadata say about a property name the same column.
-/

namespace DocViews

/-! ## Parts of the text of a query -/

/-- The clause with which an XML table declares namespaces, each as a literal and its prefix as a
    quoted identifier. There is no clause if there is nothing to declare. -/
def Sql.declarationClause (ds : List (String × String)) : String :=
  if ds.isEmpty then ""
  else "XMLNAMESPACES("
    ++ Sql.commaSeparated (ds.map fun d => Sql.literal d.1 ++ " AS \"" ++ d.2 ++ "\"") ++ "), "

theorem Sql.XmlProjection.namespaceClause_eq (q : Sql.XmlProjection) :
    q.namespaceClause = Sql.declarationClause q.declarations := rfl

/-- The entry for a column in the list of columns of an XML table. -/
def markupEntry (types : TypeNames) (prefixes : Prefixes) (c : ColumnProperty) : String :=
  c.column ++ " " ++ types c.scalar ++ " PATH " ++ Sql.literal (xmlStep prefixes c.path)

/-- The list of columns of an XML table. It must not be empty, so a hidden column stands in. -/
def markupEntries (types : TypeNames) (prefixes : Prefixes) (cs : List ColumnProperty) : String :=
  if cs.isEmpty then "XML_ORDINAL FOR ORDINALITY"
  else Sql.commaSeparated (cs.map (markupEntry types prefixes))

/-- The item for a column in the selection of a JSON view. -/
def jsonItem (types : TypeNames) (c : ColumnProperty) : String :=
  "CAST(EXPLODED.VALUE" ++ String.join (c.path.names.map fun k => "->" ++ Sql.literal k)
    ++ "->>0 AS " ++ types c.scalar ++ ") AS " ++ c.column

/-- The view `p` is the plan `v`, written for the dialect of the configuration: each column is
    selected, declared and documented for its own property, in the order of the plan. -/
structure Writes (config : Config) (v : ViewPlan) (p : Projection) : Prop where
  name_eq : p.name = v.name
  markup : config.dialect = .xml → ∃ prefixes q,
    resolvePrefixes config.namespaces v.uris = .ok prefixes ∧
    p.query = .xml q ∧ q.declarations = declarations prefixes ∧
    q.root = xmlRoot prefixes v.rootPath ∧
    p.query.render =
      "SELECT " ++ Sql.commaSeparated (v.direct ++ v.properties.map (·.column))
        ++ " FROM " ++ v.table ++ ", XMLTABLE(" ++ Sql.declarationClause q.declarations
        ++ Sql.literal q.root ++ " PASSING PAYLOAD COLUMNS "
        ++ markupEntries config.types prefixes v.properties ++ ")" ∧
    p.mappings = v.properties.map fun c => (xmlPath prefixes (v.rootPath ++ c.path), c.column)
  json : config.dialect = .json →
    p.query.render =
      "SELECT " ++ Sql.commaSeparated (v.direct ++ v.properties.map (jsonItem config.types))
        ++ " FROM " ++ v.table ++ ", JSONB_PATH_QUERY(PAYLOAD, " ++ Sql.literal (jsonRoot v.roots)
        ++ ") AS EXPLODED(VALUE)" ∧
    p.mappings = v.properties.map fun c => (jsonSteps "$" (v.rootPath ++ c.path), c.column)

/-- There is one mapping for each property, with its column. -/
theorem Writes.mapped_columns {config : Config} {v : ViewPlan} {p : Projection}
    (h : Writes config v p) : p.mappings.map (·.2) = v.properties.map (·.column) := by
  cases hdialect : config.dialect with
  | xml =>
    obtain ⟨_, _, _, _, _, _, _, hmappings⟩ := h.markup hdialect
    rw [hmappings, List.map_map]
    rfl
  | json =>
    obtain ⟨_, hmappings⟩ := h.json hdialect
    rw [hmappings, List.map_map]
    rfl

/-! ## Writing -/

theorem columnList_eq_markupEntries {types : TypeNames} {prefixes : Prefixes}
    {cs : List ColumnProperty} {table root : String} {direct : List String}
    {decls : List (String × String)} :
    Sql.XmlProjection.columnList ⟨table, direct, decls, root,
        cs.map fun c => ⟨c.column, types c.scalar, xmlStep prefixes c.path⟩⟩ =
      markupEntries types prefixes cs := by
  unfold Sql.XmlProjection.columnList markupEntries
  cases cs with
  | nil => rfl
  | cons c cs =>
    rw [List.map_map]
    rfl

theorem jsonColumn_render {types : TypeNames} {c : ColumnProperty} :
    Sql.JsonColumn.render ⟨c.column, types c.scalar, c.path.names⟩ = jsonItem types c := by
  unfold Sql.JsonColumn.render Sql.JsonColumn.extraction jsonItem
  have hopen : "CAST(EXPLODED.VALUE" = "CAST(" ++ Sql.explodedValue := rfl
  have hclose : "->>0 AS " = "->>0" ++ " AS " := rfl
  simp only [hopen, hclose, String.append_assoc]

theorem xmlProjection_render (q : Sql.XmlProjection) :
    q.render = "SELECT " ++ Sql.commaSeparated (q.direct ++ q.columns.map (·.name))
      ++ " FROM " ++ q.table ++ ", XMLTABLE(" ++ Sql.declarationClause q.declarations
      ++ Sql.literal q.root ++ " PASSING PAYLOAD COLUMNS " ++ q.columnList ++ ")" := by
  have hpassing : " PASSING PAYLOAD COLUMNS " =
      " PASSING " ++ Sql.payloadColumn ++ " COLUMNS " := rfl
  unfold Sql.XmlProjection.render
  simp only [hpassing, q.namespaceClause_eq, String.append_assoc]

theorem jsonProjection_render (q : Sql.JsonProjection) :
    q.render = "SELECT " ++ Sql.commaSeparated (q.direct ++ q.columns.map (·.render))
      ++ " FROM " ++ q.table ++ ", JSONB_PATH_QUERY(PAYLOAD, " ++ Sql.literal q.root
      ++ ") AS EXPLODED(VALUE)" := by
  have hpayload : ", JSONB_PATH_QUERY(PAYLOAD, " =
      ", JSONB_PATH_QUERY(" ++ Sql.payloadColumn ++ ", " := rfl
  unfold Sql.JsonProjection.render
  simp only [hpayload, String.append_assoc]

/-- Writing a plan succeeds only with a view of that plan. -/
theorem project_writes {config : Config} {v : ViewPlan} {p : Projection}
    (h : project config v = .ok p) : Writes config v p := by
  unfold project at h
  cases hdialect : config.dialect with
  | xml =>
    rw [hdialect] at h
    obtain ⟨prefixes, hprefixes, h⟩ := bind_eq_ok.1 h
    rw [← pure_eq_ok.1 h]
    refine ⟨rfl, fun _ => ⟨prefixes, _, hprefixes, rfl, rfl, rfl, ?_, rfl⟩,
      fun hjson => by simp [hdialect] at hjson⟩
    refine (xmlProjection_render _).trans ?_
    rw [columnList_eq_markupEntries, List.map_map]
    rfl
  | json =>
    rw [hdialect] at h
    cases h
    refine ⟨rfl, fun hxml => by simp [hdialect] at hxml, fun _ => ⟨?_, rfl⟩⟩
    refine (jsonProjection_render _).trans ?_
    rw [List.map_map]
    simp only [Function.comp_def, jsonColumn_render]

end DocViews
