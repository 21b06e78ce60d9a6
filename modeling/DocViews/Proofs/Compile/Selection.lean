import DocViews.Proofs.Compile.Columns
import DocViews.Proofs.Naming
import DocViews.Proofs.View.Selection

/-!
# Columns as a database sees them

The columns of properties are kept apart from the raw columns by comparing texts, and only those of
properties are. A database looks at more: a raw column must not be called like any column of the
second item that a view selects from, and in names without quotes the case of letters does not
matter. So there is one name in either dialect that an additional column must not have, and the
columns of a view are the same to a database just in case an additional column, in capitals, is the
column of a property.
-/

namespace DocViews

open Sql (capitals)

theorem mem_directColumns {additional : List (String × String)} {column : String}
    (h : column ∉ Sql.fixedColumns) :
    column ∈ directColumns additional ↔ column ∈ additional.map (·.1) := by
  rw [directColumns, List.mem_append]
  exact or_iff_right h

/-! ## Columns of two items -/

section Joined
variable {config : Config} {namer : Namer} {base : String} {additional : List (String × String)}
  {taken : List String} {g : ViewGroup} {r : GroupResult}
  (h : GroupStep config namer base (directColumns additional) taken g r) {v : ViewPlan}
  (hv : v ∈ r.plans)
include h hv

theorem GroupStep.selects {p : Projection} (hp : project config v = .ok p) :
    Selects config v p (rawTableName base) (directColumns additional) := by
  obtain ⟨htable, hdirect⟩ := h.columnsKept.raw_columns v hv
  rw [← htable, ← hdirect]
  exact project_selects hp

/-- A raw column has the name of a column of the second item only if it is an additional one and
    called like the column that the dialect brings along. -/
theorem GroupStep.joined_iff (column : String) :
    column ∈ directColumns additional ∧ column ∈ v.joinedColumns config.dialect ↔
      column ∈ additional.map (·.1) ∧
        (config.dialect = .xml ∧ v.properties = [] ∧ column = "XML_ORDINAL" ∨
          config.dialect = .json ∧ column = "VALUE") := by
  have hown : ∀ own ∉ Sql.fixedColumns, (column ∈ directColumns additional ∧ column ∈ [own] ↔
      column ∈ additional.map (·.1) ∧ column = own) := by
    intro own hfixed
    rw [List.mem_singleton]
    refine and_congr_left ?_
    rintro rfl
    exact mem_directColumns hfixed
  cases hdialect : config.dialect with
  | xml =>
    cases hproperties : v.properties with
    | nil => simpa [ViewPlan.joinedColumns, hproperties] using hown "XML_ORDINAL" (by decide)
    | cons c cs =>
      have hjoined : v.joinedColumns .xml = v.properties.map (·.column) := by
        simp [ViewPlan.joinedColumns, hproperties]
      have hnew := (h.view_columns hv).2.new column
      rw [hjoined]
      refine iff_of_false (fun hboth => hnew hboth.2 hboth.1) ?_
      simp
  | json => simpa [ViewPlan.joinedColumns] using hown "VALUE" (by decide)

end Joined

section Bundles
variable {Document : Type} {config : Config} {name : String} {groups : List ViewGroup}
  {namer : Namer} {table : TablePolicy Document} {b : Bundle Document}

/-- Raw columns are selected without a qualifier. This is ambiguous just in case an additional
    column is called like the column that the dialect brings along: the one that stands in for none
    in an XML table, or the value of an element of JSON. -/
theorem compile_ambiguous_iff (h : compile config name groups namer table = .ok b) :
    EachView config b groups fun v p =>
      Selects config v p b.rawTable
        (["ID", "REVISION", "DELETED", "PAYLOAD"] ++ table.columns.map (·.1)) ∧
      ∀ column,
        column ∈ ["ID", "REVISION", "DELETED", "PAYLOAD"] ++ table.columns.map (·.1) ∧
            column ∈ v.joinedColumns config.dialect ↔
          column ∈ table.columns.map (·.1) ∧
            (config.dialect = .xml ∧ v.properties = [] ∧ column = "XML_ORDINAL" ∨
              config.dialect = .json ∧ column = "VALUE") :=
  compile_eachView_of_step h fun hstep _ hv _ hp => ⟨hstep.selects hv hp, hstep.joined_iff hv⟩

/-- A column with the name that XML tables bring along does no harm beside the elements of JSON. -/
theorem ordinal_beside_elements :
    ∃ b, compile Config.json "doc" [⟨[[⟨"lines", none⟩]], []⟩]
        (fun segments _ => String.intercalate "_" segments)
        (staticColumns [("XML_ORDINAL", "INTEGER")]) = .ok b ∧
      EachView Config.json b [⟨[[⟨"lines", none⟩]], []⟩] fun v _ =>
        ∀ column ∈ ["ID", "REVISION", "DELETED", "PAYLOAD", "XML_ORDINAL"],
          column ∉ v.joinedColumns .json := by
  obtain ⟨b, hb⟩ : ∃ b, compile Config.json "doc" [⟨[[⟨"lines", none⟩]], []⟩]
      (fun segments _ => String.intercalate "_" segments)
      (staticColumns [("XML_ORDINAL", "INTEGER")]) = .ok b := ⟨_, rfl⟩
  refine ⟨b, hb, (compile_ambiguous_iff hb).imp fun v p ⟨_, hambiguous⟩ column hraw hjoined => ?_⟩
  obtain ⟨hadditional, hown⟩ := (hambiguous column).1 ⟨hraw, hjoined⟩
  rw [List.mem_singleton.1 hadditional] at hown
  rcases hown with ⟨hxml, _⟩ | ⟨_, hvalue⟩
  · exact absurd hxml (by decide)
  · exact absurd hvalue (by decide)

/-- A column called `VALUE` is ambiguous beside the elements of JSON, and one called `XML_ORDINAL`
    beside an XML table without columns. -/
theorem raw_columns_ambiguous :
    (∃ b query, compile Config.json "doc" [⟨[[⟨"lines", none⟩]], []⟩] (PlainNamer.resolve ⟨50⟩)
        (staticColumns [("VALUE", "TEXT")]) = .ok b ∧
      ("DOC_LINES", query) ∈ b.creation.filterMap (·.view?) ∧
      query.render = "SELECT ID, REVISION, DELETED, PAYLOAD, VALUE FROM DOC_RAW, " ++
        "JSONB_PATH_QUERY(PAYLOAD, '$.lines[*]') AS EXPLODED(VALUE)" ∧
      query.selection? =
        some ⟨"DOC_RAW", ["ID", "REVISION", "DELETED", "PAYLOAD", "VALUE"], [], ["VALUE"]⟩) ∧
    ∃ b query, compile Config.xml "doc" [⟨[[⟨"return", none⟩]], []⟩] (PlainNamer.resolve ⟨50⟩)
        (staticColumns [("XML_ORDINAL", "INTEGER")]) = .ok b ∧
      ("DOC", query) ∈ b.creation.filterMap (·.view?) ∧
      query.render = "SELECT ID, REVISION, DELETED, PAYLOAD, XML_ORDINAL FROM DOC_RAW, " ++
        "XMLTABLE('/return' PASSING PAYLOAD COLUMNS XML_ORDINAL FOR ORDINALITY)" ∧
      query.selection? = some ⟨"DOC_RAW", ["ID", "REVISION", "DELETED", "PAYLOAD", "XML_ORDINAL"],
        [], ["XML_ORDINAL"]⟩ := by
  constructor
  · have h : ((compile Config.json "doc" [⟨[[⟨"lines", none⟩]], []⟩] (PlainNamer.resolve ⟨50⟩)
        (staticColumns [("VALUE", "TEXT")])).toOption.bind fun b =>
          (b.creation.filterMap (·.view?))[3]?) = some ("DOC_LINES", .json
            ⟨"DOC_RAW", ["ID", "REVISION", "DELETED", "PAYLOAD", "VALUE"], "$.lines[*]", []⟩) := by
      decide +kernel
    obtain ⟨b, hb, hview⟩ := exists_view h
    exact ⟨b, _, hb, hview, by decide +kernel, rfl⟩
  · have h : ((compile Config.xml "doc" [⟨[[⟨"return", none⟩]], []⟩] (PlainNamer.resolve ⟨50⟩)
        (staticColumns [("XML_ORDINAL", "INTEGER")])).toOption.bind fun b =>
          (b.creation.filterMap (·.view?))[3]?) = some ("DOC", .xml
            ⟨"DOC_RAW", ["ID", "REVISION", "DELETED", "PAYLOAD", "XML_ORDINAL"], [], "/return",
              []⟩) := by
      decide +kernel
    obtain ⟨b, hb, hview⟩ := exists_view h
    exact ⟨b, _, hb, hview, by decide +kernel, rfl⟩

end Bundles

/-! ## Names without quotes -/

theorem capitals_of_plain {name : String} (h : ∀ c ∈ name.toList, PlainNamer.isPlain c = true) :
    capitals name = name := by
  rw [capitals, List.map_congr_left fun c hc => PlainNamer.toUpper_of_isPlain (h c hc),
    List.map_id', String.ofList_toList]

section Plain
variable {config : Config} {spell : String → String} {n : PlainNamer} {base : String}
  {additional : List (String × String)}
  {taken : List String} {g : ViewGroup} {r : GroupResult}
  (h : GroupStep config (n.resolveBy spell) base (directColumns additional) taken g r) {v : ViewPlan}
  (hv : v ∈ r.plans)
include h hv

/-- The columns of properties are in capitals already. -/
theorem GroupStep.columns_capitals :
    (v.properties.map (·.column)).map capitals = v.properties.map (·.column) := by
  rw [List.map_map]
  refine List.map_congr_left fun c hc => ?_
  obtain ⟨reserved, hcolumn⟩ := nameColumns_named h.columns_ok c ((h.view_columns hv).1 hc)
  rw [Function.comp_apply, hcolumn]
  exact capitals_of_plain fun _ => n.resolveBy_plain spell _ reserved

variable (hraw : ((directColumns additional).map capitals).Nodup)
include hraw

/-- With raw columns that differ, the columns of a view differ unless an additional column becomes
    that of a property when it is put in capitals. -/
theorem GroupStep.capitals_nodup_iff :
    ((directColumns additional ++ v.properties.map (·.column)).map capitals).Nodup ↔
      ∀ column ∈ additional.map (·.1), capitals column ∉ v.properties.map (·.column) := by
  have hfresh := (h.view_columns hv).2
  rw [List.map_append, h.columns_capitals hv, List.nodup_append]
  constructor
  · intro ⟨_, _, hapart⟩ column hcolumn hmem
    have hdirect : column ∈ directColumns additional := List.mem_append_right _ hcolumn
    exact hapart _ (List.mem_map_of_mem hdirect) _ hmem rfl
  · intro hcolumns
    refine ⟨hraw, hfresh.nodup, ?_⟩
    intro name hname column hcolumn heq
    subst heq
    obtain ⟨direct, hdirect, rfl⟩ := List.mem_map.1 hname
    rcases List.mem_append.1 hdirect with hfixed | hadditional
    · -- The fixed columns are in capitals, so comparing texts is enough for them.
      have hsame : ∀ f ∈ Sql.fixedColumns, capitals f = f := by decide
      rw [hsame direct hfixed] at hcolumn
      exact hfresh.new direct hcolumn hdirect
    · exact hcolumns direct hadditional hcolumn

/-- If all additional columns are in capitals as well, comparing texts is always enough. -/
theorem GroupStep.capitals_nodup (hcapitals : ∀ column ∈ additional.map (·.1),
    capitals column = column) :
    ((directColumns additional ++ v.properties.map (·.column)).map capitals).Nodup := by
  refine (h.capitals_nodup_iff hv hraw).2 fun column hcolumn hmem => ?_
  rw [hcapitals column hcolumn] at hmem
  exact (h.view_columns hv).2.new column hmem (List.mem_append_right _ hcolumn)

end Plain

/-- The columns of a view, raw ones and those of properties, stand in it without quotes. Given that
    the raw columns differ in capitals, all of them do just in case no additional column, in
    capitals, is the column of a property. This is so if the additional columns are in capitals
    themselves. -/
theorem compile_capitals_nodup_iff {Document : Type} {config : Config} {name : String}
    {groups : List ViewGroup} {spell : String → String} {n : PlainNamer}
    {table : TablePolicy Document} {b : Bundle Document}
    (h : compile config name groups (n.resolveBy spell) table = .ok b)
    (hraw : ((["ID", "REVISION", "DELETED", "PAYLOAD"] ++ table.columns.map (·.1)).map
      capitals).Nodup) :
    EachView config b groups fun v p =>
      Selects config v p b.rawTable
        (["ID", "REVISION", "DELETED", "PAYLOAD"] ++ table.columns.map (·.1)) ∧
      (((["ID", "REVISION", "DELETED", "PAYLOAD"] ++ table.columns.map (·.1)
            ++ v.properties.map (·.column)).map capitals).Nodup ↔
        ∀ column ∈ table.columns.map (·.1), capitals column ∉ v.properties.map (·.column)) ∧
      ((∀ column ∈ table.columns.map (·.1), capitals column = column) →
        ((["ID", "REVISION", "DELETED", "PAYLOAD"] ++ table.columns.map (·.1)
            ++ v.properties.map (·.column)).map capitals).Nodup) :=
  compile_eachView_of_step h fun hstep _ hv _ hp =>
    ⟨hstep.selects hv hp, hstep.capitals_nodup_iff hv hraw, hstep.capitals_nodup hv hraw⟩

/-- A property that is called like an additional column in capitals gets another column. -/
theorem tenant_property_renamed :
    ∃ b, compile Config.json "doc" [⟨[[⟨"lines", none⟩]], [⟨[⟨"tenant", none⟩], .string⟩]⟩]
        (PlainNamer.resolve ⟨50⟩) (staticColumns [("TENANT", "TEXT")]) = .ok b ∧
      (["ID", "REVISION", "DELETED", "PAYLOAD", "TENANT"].map capitals).Nodup ∧
      EachView Config.json b [⟨[[⟨"lines", none⟩]], [⟨[⟨"tenant", none⟩], .string⟩]⟩] fun v _ =>
        ((["ID", "REVISION", "DELETED", "PAYLOAD", "TENANT"]
          ++ v.properties.map (·.column)).map capitals).Nodup := by
  obtain ⟨b, h⟩ : ∃ b, compile Config.json "doc"
      [⟨[[⟨"lines", none⟩]], [⟨[⟨"tenant", none⟩], .string⟩]⟩] (PlainNamer.resolve ⟨50⟩)
      (staticColumns [("TENANT", "TEXT")]) = .ok b := toOption_isSome_iff.1 (by decide +kernel)
  have hraw : (["ID", "REVISION", "DELETED", "PAYLOAD", "TENANT"].map capitals).Nodup := by decide
  refine ⟨b, h, hraw, (compile_capitals_nodup_iff h hraw).imp fun v p hcolumns => ?_⟩
  exact hcolumns.2.2 (by decide)

/-- A property is not kept apart from an additional column in small letters, although their names
    are the same without quotes. -/
theorem tenant_column_shown_twice :
    (["ID", "REVISION", "DELETED", "PAYLOAD", "tenant"].map capitals).Nodup ∧
    ∃ b query, compile Config.json "doc"
        [⟨[[⟨"lines", none⟩]], [⟨[⟨"tenant", none⟩], .string⟩]⟩] (PlainNamer.resolve ⟨50⟩)
        (staticColumns [("tenant", "TEXT")]) = .ok b ∧
      ("DOC_LINES", query) ∈ b.creation.filterMap (·.view?) ∧
      query.render = "SELECT ID, REVISION, DELETED, PAYLOAD, tenant, " ++
        "CAST(EXPLODED.VALUE->'tenant'->>0 AS VARCHAR(4000)) AS TENANT FROM DOC_RAW, " ++
        "JSONB_PATH_QUERY(PAYLOAD, '$.lines[*]') AS EXPLODED(VALUE)" ∧
      query.selection? = some ⟨"DOC_RAW", ["ID", "REVISION", "DELETED", "PAYLOAD", "tenant"],
        ["TENANT"], ["VALUE"]⟩ ∧
      ¬(["ID", "REVISION", "DELETED", "PAYLOAD", "tenant", "TENANT"].map capitals).Nodup := by
  have h : ((compile Config.json "doc"
      [⟨[[⟨"lines", none⟩]], [⟨[⟨"tenant", none⟩], .string⟩]⟩] (PlainNamer.resolve ⟨50⟩)
      (staticColumns [("tenant", "TEXT")])).toOption.bind fun b =>
        (b.creation.filterMap (·.view?))[3]?) = some ("DOC_LINES", .json
          ⟨"DOC_RAW", ["ID", "REVISION", "DELETED", "PAYLOAD", "tenant"], "$.lines[*]",
            [⟨"TENANT", "VARCHAR(4000)", ["tenant"]⟩]⟩) := by
    decide +kernel
  obtain ⟨b, hb, hview⟩ := exists_view h
  exact ⟨by decide, b, _, hb, hview, by decide +kernel, rfl, by decide⟩

end DocViews
