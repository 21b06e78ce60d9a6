import DocViews.Proofs.View.JsonPath
import DocViews.Proofs.View.Markup

/-!
# Paths in the metadata

A view finds the value of a column in two stages: it lists the elements that the roots lead to, and
from each it goes on to the value. The metadata of a view tell the whole way in one path, which
starts at the root of a document. The three are written apart, with a slash in front in one place
and with a dot in another, but what the metadata tell is always the first stage and then the second.
-/

namespace DocViews

/-! ## Paths of markup -/

theorem Path.qualified_append (prefixOf : String → String) (p q : Path) :
    Path.qualified prefixOf (p ++ q) = p.qualified prefixOf ++ q.qualified prefixOf := by
  unfold Path.qualified
  rw [List.map_append, String.join_append]

/-- A slash in front and slashes between names are a slash in front of each, if there is a name. -/
theorem Path.qualified_eq_intercalate (prefixOf : String → String) {p : Path} (hp : p ≠ []) :
    p.qualified prefixOf =
      "/" ++ String.intercalate "/" (p.map (·.qualified prefixOf)) := by
  induction p with
  | nil => exact absurd rfl hp
  | cons s p ih =>
    have hcons : Path.qualified prefixOf (s :: p) =
        "/" ++ s.qualified prefixOf ++ Path.qualified prefixOf p := by
      simp [Path.qualified]
    cases p with
    | nil => simp [Path.qualified]
    | cons t p =>
      rw [hcons, ih (List.cons_ne_nil t p)]
      simp only [List.map_cons, String.intercalate_cons_cons, String.append_assoc]

/-- The paths of a markup view, where `prefixOf` gives the prefix of each namespace. The literal of
    the root is that of `q.root`, and a column is read from `.` and a path `s` below it. The
    metadata give `s` behind the root. A root without names is the document itself, and `s` starts
    there. -/
structure MarkupPaths (types : TypeNames) (v : ViewPlan) (q : Sql.XmlProjection)
    (prefixOf : String → String) (mappings : List (String × String)) : Prop where
  text_eq : q.render = "SELECT " ++ Sql.commaSeparated (q.direct ++ q.columns.map (·.name))
    ++ " FROM " ++ q.table ++ ", XMLTABLE(" ++ Sql.declarationClause q.declarations
    ++ Sql.literal q.root ++ " PASSING PAYLOAD COLUMNS " ++ (if q.columns.isEmpty then "XML_ORDINAL FOR ORDINALITY"
      else Sql.commaSeparated (q.columns.map fun c =>
        c.name ++ " " ++ c.sqlType ++ " PATH " ++ Sql.literal c.path)) ++ ")"
  declared : ∀ uri, v.Uses uri → prefixOf uri ≠ "" ∧ (uri, prefixOf uri) ∈ q.declarations
  root_eq : q.root = "/" ++ String.intercalate "/" (v.rootPath.map (·.qualified prefixOf))
  columns_eq : q.columns = v.properties.map fun c =>
    ⟨c.column, types c.scalar, "." ++ c.path.qualified prefixOf⟩
  mappings_eq : mappings = v.properties.map fun c =>
    let s := c.path.qualified prefixOf
    (if v.rootPath = [] then s else q.root ++ s, c.column)

theorem xmlProjection_paths {types : TypeNames} {policy : NamespacePolicy} {v : ViewPlan}
    {p : Projection} (h : xmlProjection types policy v = .ok p) :
    ∃ q prefixOf, p.query = .xml q ∧ MarkupPaths types v q prefixOf p.mappings := by
  obtain ⟨prefixes, hprefixes, h⟩ := bind_eq_ok.1 h
  rw [← pure_eq_ok.1 h]
  have hget := fun uri (huri : v.Uses uri) => huri.get? hprefixes
  have hroot : xmlRoot prefixes v.rootPath =
      "/" ++ String.intercalate "/" (v.rootPath.map (·.qualified (prefixIn prefixes))) :=
    xmlRoot_eq_qualified fun uri huri => hget uri (.inl huri)
  refine ⟨_, prefixIn prefixes, rfl, ?_⟩
  constructor
  case text_eq => exact xmlProjection_render _
  case declared => exact fun _ huri => huri.declared hprefixes
  case root_eq => exact hroot
  case columns_eq =>
    refine List.map_congr_left fun c hc => ?_
    rw [xmlStep, chained_eq_qualified fun uri huri => hget uri (.inr ⟨c, hc, huri⟩)]
  case mappings_eq =>
    refine List.map_congr_left fun c hc => ?_
    have hpath := ViewPlan.uses_of_mem_uris hc
    rw [xmlPath, chained_eq_qualified fun uri huri => hget uri (hpath uri huri),
      String.empty_append, Path.qualified_append]
    split
    · rename_i hnil
      rw [hnil, Path.qualified, List.map_nil, String.join_nil, String.empty_append]
    · rename_i hroots
      rw [hroot, Path.qualified_eq_intercalate _ hroots]

/-! ## Paths of JSON -/

/-- Keys as steps of a path, one behind the other. -/
def keySteps (names : List String) : String := String.join (names.map fun key => "." ++ jsonKey key)

theorem keySteps_append (names rest : List String) :
    keySteps (names ++ rest) = keySteps names ++ keySteps rest := by
  unfold keySteps
  rw [List.map_append, String.join_append]

theorem jsonSteps_eq_keySteps (start : String) (p : Path) :
    jsonSteps start p = start ++ keySteps p.names := by
  have hrender : ∀ s : Segment, s.render jsonKey (fun _ => none) = jsonKey s.name := by
    simp [Segment.render]
  unfold jsonSteps Path.chained keySteps Path.names
  simp only [hrender, List.map_map, Function.comp_def]

theorem keySteps_flatten (roots : List Path) :
    keySteps (Path.names roots.flatten) =
      String.join (roots.map fun root => keySteps root.names) := by
  induction roots with
  | nil => rfl
  | cons root roots ih =>
    rw [List.flatten_cons, Path.names_append, keySteps_append, ih, List.map_cons, String.join_cons]

/-- The steps to the elements of a view are the keys of its roots once wildcards are left out. -/
theorem filter_rootSteps (roots : List Path) :
    (rootSteps roots).filter (· ≠ .elements) = (Path.names roots.flatten).map .key := by
  have hkeys : ∀ names : List String,
      (names.map JsonStep.key).filter (· ≠ .elements) = names.map .key := by
    intro names
    rw [List.filter_eq_self]
    intro step hstep
    obtain ⟨name, _, rfl⟩ := List.mem_map.1 hstep
    rfl
  induction roots with
  | nil => rfl
  | cons root roots ih =>
    have hwildcard : [JsonStep.elements].filter (· ≠ .elements) = [] := rfl
    rw [rootSteps, List.flatMap_cons, ← rootSteps, List.filter_append, List.filter_append, hkeys,
      hwildcard, List.append_nil, ih, List.flatten_cons, Path.names_append, List.map_append]

/-- The paths of a JSON view. The path of the elements has a wildcard behind each root, and an
    extraction has an arrow in front of each key. The metadata give the keys of both, one behind the
    other. -/
structure JsonPaths (types : TypeNames) (v : ViewPlan) (q : Sql.JsonProjection)
    (mappings : List (String × String)) : Prop where
  text_eq : q.render = "SELECT " ++ Sql.commaSeparated (q.direct ++ q.columns.map fun c =>
      "CAST(" ++ c.extraction ++ " AS " ++ c.sqlType ++ ") AS " ++ c.name)
    ++ " FROM " ++ q.table ++ ", JSONB_PATH_QUERY(PAYLOAD, " ++ Sql.literal q.root
    ++ ") AS EXPLODED(VALUE)"
  root_eq : q.root = "$" ++ String.join (v.roots.map fun root => keySteps root.names ++ "[*]")
  columns_eq : q.columns = v.properties.map fun c => ⟨c.column, types c.scalar, c.path.names⟩
  extraction_eq : ∀ c ∈ q.columns, c.extraction =
    "EXPLODED.VALUE" ++ String.join (c.keys.map fun key => "->" ++ Sql.literal key) ++ "->>0"
  mappings_eq : mappings = v.properties.map fun c =>
    ("$" ++ String.join (v.roots.map fun root => keySteps root.names) ++ keySteps c.path.names,
      c.column)
  /-- All three can be read back, and then the wildcards are all that the metadata leave out. -/
  read_back : List.Forall₂ (fun c m => ∃ steps keys,
    readJsonPath q.root = some steps ∧ readExtraction c.extraction = some keys ∧
    readJsonPath m.1 = some (steps.filter (· ≠ .elements) ++ keys.map .key) ∧ m.2 = c.name)
    q.columns mappings

theorem jsonProjection_paths (types : TypeNames) (v : ViewPlan) :
    ∃ q, (jsonProjection types v).query = .json q ∧
      JsonPaths types v q (jsonProjection types v).mappings := by
  refine ⟨_, rfl, ?_⟩
  constructor
  case text_eq => exact jsonProjection_render _
  case root_eq =>
    unfold jsonRoot
    simp only [jsonSteps_eq_keySteps, String.empty_append]
  case columns_eq => rfl
  case extraction_eq => exact fun _ _ => rfl
  case mappings_eq =>
    refine List.map_congr_left fun c _ => ?_
    rw [jsonSteps_eq_keySteps, Path.names_append, keySteps_append, ViewPlan.rootPath,
      keySteps_flatten, String.append_assoc]
  case read_back =>
    rw [jsonProjection, List.forall₂_map_left_iff, List.forall₂_map_right_iff, List.forall₂_same]
    intro c _
    refine ⟨_, _, readJsonPath_jsonRoot v.roots, readExtraction_extraction _, ?_, rfl⟩
    rw [readJsonPath_jsonSteps, Path.names_append, List.map_append, filter_rootSteps]
    rfl

/-! ## Written views -/

/-- What the metadata say about a column leads to the value that the view takes it from. -/
theorem project_paths {config : Config} {v : ViewPlan} {p : Projection}
    (h : project config v = .ok p) :
    (config.dialect = .xml →
      ∃ q prefixOf, p.query = .xml q ∧ MarkupPaths config.types v q prefixOf p.mappings) ∧
    (config.dialect = .json → ∃ q, p.query = .json q ∧ JsonPaths config.types v q p.mappings) := by
  unfold project at h
  constructor
  · intro hdialect
    rw [hdialect] at h
    exact xmlProjection_paths h
  · intro hdialect
    rw [hdialect] at h
    cases h
    exact jsonProjection_paths config.types v

/-- A view with two roots, where a namespace occurs in a root and in a property. -/
def ordersView : ViewPlan where
  name := "DOC_LINES"
  table := "DOC_RAW"
  direct := ["ID"]
  roots := [[⟨"order", some "urn:o"⟩], [⟨"line items", none⟩, ⟨"line", none⟩]]
  properties := [⟨[⟨"net", none⟩, ⟨"price", some "urn:o"⟩], .double, "NET_PRICE"⟩]

/-- In either dialect the metadata say that `NET_PRICE` is below the lines. -/
theorem ordersView_paths :
    (∃ p q s, project .xml ordersView = .ok p ∧ p.query = .xml q ∧
      q.columns.map (·.path) = ["." ++ s] ∧ p.mappings = [(q.root ++ s, "NET_PRICE")]) ∧
    ∃ p q, project .json ordersView = .ok p ∧ p.query = .json q ∧
      q.root = "$.order[*].\"line items\".line[*]" ∧
      p.mappings = [("$.order.\"line items\".line.net.price", "NET_PRICE")] := by
  constructor
  · obtain ⟨p, hp⟩ : ∃ p, project .xml ordersView = .ok p :=
      toOption_isSome_iff.1 (by decide +kernel)
    obtain ⟨q, prefixOf, hquery, hpaths⟩ := (project_paths hp).1 rfl
    refine ⟨p, q, Path.qualified prefixOf [⟨"net", none⟩, ⟨"price", some "urn:o"⟩], hp, hquery,
      ?_, ?_⟩
    · rw [hpaths.columns_eq]
      rfl
    · rw [hpaths.mappings_eq]
      rfl
  · obtain ⟨p, hp⟩ : ∃ p, project .json ordersView = .ok p := ⟨_, rfl⟩
    obtain ⟨q, hquery, hpaths⟩ := (project_paths hp).2 rfl
    refine ⟨p, q, hp, hquery, ?_, ?_⟩
    · rw [hpaths.root_eq]
      decide
    · rw [hpaths.mappings_eq]
      decide

end DocViews
