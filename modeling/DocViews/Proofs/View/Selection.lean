import DocViews.Proofs.View.Projection

/-!
# What a view selects

A projection view selects from two items, the raw table and what the payload is taken apart into.
The raw columns are taken as they are; whatever else is selected gets a name of its own. So the
names that a view shows and the names that its second item brings along can both be read off its
query, and both come from the plan, except for one column that the dialect brings along by itself.
-/

namespace DocViews

namespace Sql

/-! ## Selections -/

/-- Columns `direct` of a table, as they are, and values under the names `named`, next to an item
    with the columns `joined`. -/
structure Selection where
  table : String
  direct : List String
  named : List String
  joined : List String
  deriving DecidableEq, Repr

/-- An XML table has the columns that it declares, and these are what is selected. It must have a
    column, so one is declared if there are none; that one is not selected. -/
def XmlProjection.selection (q : XmlProjection) : Selection where
  table := q.table
  direct := q.direct
  named := q.columns.map (·.name)
  joined := if q.columns.isEmpty then ["XML_ORDINAL"] else q.columns.map (·.name)

/-- The elements of JSON are called `EXPLODED`, with one column for their value. -/
def JsonProjection.selection (q : JsonProjection) : Selection where
  table := q.table
  direct := q.direct
  named := q.columns.map (·.name)
  joined := ["VALUE"]

/-- Only projections select from two items. -/
def Query.selection? : Query → Option Selection
  | .xml q => some q.selection
  | .json q => some q.selection
  | _ => none

/-- A name in capitals. Names without quotes are the same if they are in capitals, since the case of
    ASCII letters does not matter in them. -/
def capitals (name : String) : String := String.ofList (name.toList.map Char.toUpper)

end Sql

/-! ## Views -/

/-- The columns of what the payload of a view is taken apart into. An XML table must have a column
    and brings along one if the view has no properties; the elements of JSON are values. -/
def ViewPlan.joinedColumns (dialect : Dialect) (v : ViewPlan) : List String :=
  match dialect with
  | .xml => if v.properties.isEmpty then ["XML_ORDINAL"] else v.properties.map (·.column)
  | .json => ["VALUE"]

/-- The view `p` is the plan `v`, written for the dialect of the configuration. It selects the
    columns `direct` of `table` as they are and the columns of its plan by name. -/
structure Selects (config : Config) (v : ViewPlan) (p : Projection) (table : String)
    (direct : List String) : Prop where
  written : Writes config v p
  table_eq : v.table = table
  direct_eq : v.direct = direct
  selection_eq : p.query.selection? =
    some ⟨table, direct, v.properties.map (·.column), v.joinedColumns config.dialect⟩

theorem project_selects {config : Config} {v : ViewPlan} {p : Projection}
    (h : project config v = .ok p) : Selects config v p v.table v.direct := by
  refine ⟨project_writes h, rfl, rfl, ?_⟩
  unfold project at h
  cases hdialect : config.dialect with
  | xml =>
    rw [hdialect] at h
    -- Prefixes only show in paths, and what is selected does not depend on those.
    obtain ⟨prefixes, _, h⟩ := bind_eq_ok.1 h
    rw [← pure_eq_ok.1 h]
    simp [Sql.Query.selection?, Sql.XmlProjection.selection, ViewPlan.joinedColumns,
      Function.comp_def]
  | json =>
    rw [hdialect] at h
    cases h
    simp [jsonProjection, Sql.Query.selection?, Sql.JsonProjection.selection,
      ViewPlan.joinedColumns, Function.comp_def]

end DocViews
