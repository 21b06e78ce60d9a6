import DocViews.Proofs.Compile.Provisioning
import DocViews.Proofs.Compile.Selection

/-!
# Columns, placeholders and values

The columns of the raw table are listed where it is created, where a row is inserted and in every
projection view, and a row lists their values without naming them. Only the order says which value
belongs to which column, so all of these lists must have one order: the fixed columns and then the
additional ones.
-/

namespace DocViews

open Sql (commaSeparated)

/-! ## Columns in statements -/

/-- Items with a comma after each of them, in front of a last one. -/
theorem commaSeparated_concat (items : List String) (last : String) :
    commaSeparated (items ++ [last]) = String.join (items.map (· ++ ", ")) ++ last := by
  unfold commaSeparated
  induction items with
  | nil => simp
  | cons item items ih =>
    rw [List.cons_append, String.intercalate_cons_of_ne_nil (by simp), ih, List.map_cons,
      String.join_cons]
    simp only [String.append_assoc]

/-- The SQL types of the columns of a raw table. -/
def columnTypes (dialect : Dialect) (additional : List (String × String)) : List String :=
  ["VARCHAR(250) NOT NULL", "BIGINT NOT NULL", "BOOLEAN NOT NULL", dialect.payloadType]
    ++ additional.map (·.2)

/-- A raw table declares its columns one by one, each with its type, and then its key. -/
theorem tableStatement_render {Document : Type} (config : Config) (table : TablePolicy Document)
    (base : String) :
    (tableStatement config table base).render =
      "CREATE TABLE " ++ rawTableName base ++ " (" ++ commaSeparated
        (List.zipWith (fun column type => column ++ " " ++ type) (directColumns table.columns)
            (columnTypes config.dialect table.columns)
          ++ ["CONSTRAINT " ++ base ++ "_PK PRIMARY KEY (ID, REVISION)"]) ++ ")" := by
  have hid : " VARCHAR(250) NOT NULL, " = " " ++ "VARCHAR(250) NOT NULL" ++ ", " := rfl
  have hrevision : " BIGINT NOT NULL, " = " " ++ "BIGINT NOT NULL" ++ ", " := rfl
  have hdeleted : " BOOLEAN NOT NULL, " = " " ++ "BOOLEAN NOT NULL" ++ ", " := rfl
  have hkey : "_PK PRIMARY KEY (ID, REVISION)" =
      "_PK" ++ " PRIMARY KEY (" ++ "ID" ++ ", " ++ "REVISION" ++ ")" := rfl
  have hend : "))" = ")" ++ ")" := rfl
  rw [commaSeparated_concat, List.map_zipWith]
  unfold tableStatement Sql.Statement.render
  simp only [directColumns, columnTypes, Sql.fixedColumns, List.cons_append, List.nil_append,
    List.zipWith_cons_cons, List.zipWith_map, List.zipWith_self, String.join_cons, Sql.idColumn,
    Sql.revisionColumn, Sql.deletedColumn, Sql.payloadColumn, hid, hrevision, hdeleted, hkey,
    hend, String.append_assoc]

theorem placeholders_length (dialect : Dialect) (additional : List (String × String)) :
    (placeholders dialect additional).length = 4 + additional.length := by
  rw [placeholders, List.length_append, List.length_map]
  rfl

/-- Each placeholder has one place for a value. -/
theorem placeholders_count (dialect : Dialect) (additional : List (String × String)) :
    ∀ value ∈ placeholders dialect additional, value.toList.count '?' = 1 := by
  have hpayload : dialect.payloadLiteral.toList.count '?' = 1 := by cases dialect <;> decide
  have hplace : "?".toList.count '?' = 1 := by decide
  rw [placeholders, List.forall_mem_append, List.forall_mem_map]
  simp only [List.forall_mem_cons]
  exact ⟨⟨hplace, hplace, hplace, hpayload, by simp⟩, fun _ _ => hplace⟩

/-! ## Values in rows -/

/-- What the column `name` holds for a document: the first field of that name, or null if the
    document is an object without it or no object at all. -/
inductive ColumnValue (document : Json) (name : String) : Json → Prop
  | field {before after : List (String × Json)} {value : Json} :
    document = .obj (before ++ (name, value) :: after) → name ∉ before.map (·.1) →
    ColumnValue document name value
  | missing {fields : List (String × Json)} : document = .obj fields → name ∉ fields.map (·.1) →
    ColumnValue document name .null
  | noObject : (∀ fields, document ≠ .obj fields) → ColumnValue document name .null

theorem columnValue_field? (document : Json) (name : String) :
    ColumnValue document name ((document.field? name).getD .null) := by
  cases document with
  | obj fields =>
    rw [Json.field?]
    cases hfield : fields.lookup name with
    | none =>
      refine .missing rfl fun hname => ?_
      obtain ⟨f, hf, rfl⟩ := List.mem_map.1 hname
      simpa using List.lookup_eq_none_iff.1 hfield f hf
    | some value =>
      obtain ⟨before, after, rfl, hbefore⟩ := List.lookup_eq_some_iff.1 hfield
      refine .field rfl fun hname => ?_
      obtain ⟨f, hf, rfl⟩ := List.mem_map.1 hname
      simpa using hbefore f hf
  | _ => exact .noObject (by simp)

/-! ## Bundles -/

/-- All parts of a bundle go by one sequence of columns: the fixed ones and then `columns`. -/
structure Aligned (config : Config) (columns : List (String × String)) (groups : List ViewGroup)
    (b : Bundle Json) (sequence : List String) : Prop where
  /-- The first statement declares them as the columns of the raw table, each with its type. -/
  table : (columnTypes config.dialect columns).length = sequence.length ∧
    b.creation.head?.map (·.render) = some ("CREATE TABLE " ++ b.rawTable ++ " (" ++ commaSeparated
      (List.zipWith (fun column type => column ++ " " ++ type) sequence
          (columnTypes config.dialect columns)
        ++ ["CONSTRAINT " ++ b.base ++ "_PK PRIMARY KEY (ID, REVISION)"]) ++ ")")
  /-- Every view selects them before the columns of its own. -/
  views : EachView config b groups fun v p =>
    Selects config v p b.rawTable sequence
  /-- A new row has one place for each of them. -/
  insert : ∃ values : List String, values.length = 4 + columns.length ∧
    (∀ value ∈ values, value.toList.count '?' = 1) ∧
    values[3]? = some config.dialect.payloadLiteral ∧
    b.insert.render = "INSERT INTO " ++ b.rawTable ++ " (" ++ commaSeparated sequence ++
      ") VALUES (" ++ commaSeparated values ++ ")"
  /-- What is put there are the values of the fixed columns and then those of the others. -/
  rows : ∀ id revision deleted payload document, ∃ values,
    b.row id revision deleted payload document =
      [.str id, .int revision, .bool deleted, payload.elim .null .str] ++ values ∧
    (b.row id revision deleted payload document).length = 4 + columns.length ∧
    List.Forall₂ (ColumnValue document) (columns.map (·.1)) values

theorem staticColumns_values (columns : List (String × String)) (document : Json) :
    List.Forall₂ (ColumnValue document) (columns.map (·.1))
      ((staticColumns columns).values document) := by
  rw [staticColumns, List.forall₂_map_left_iff, List.forall₂_map_right_iff, List.forall₂_same]
  exact fun c _ => columnValue_field? document c.1

/-- The statement for the table, every view, the statement for new rows and the rows themselves
    have one sequence of columns, so each value goes where it belongs. -/
theorem compile_aligned {config : Config} {name : String} {groups : List ViewGroup} {namer : Namer}
    {columns : List (String × String)} {b : Bundle Json}
    (h : compile config name groups namer (staticColumns columns) = .ok b) :
    Aligned config columns groups b
      (["ID", "REVISION", "DELETED", "PAYLOAD"] ++ columns.map (·.1)) := by
  have hinsert := (compile_derived h).insert_eq
  obtain ⟨indices, rs, listing, _, _, _, hb⟩ := compile_eq_ok.1 h
  constructor
  case table =>
    refine ⟨by simp [columnTypes], ?_⟩
    have hrender := tableStatement_render config (staticColumns columns) b.base
    subst hb
    exact congrArg some hrender
  case views => exact compile_eachView_of_step h fun hstep _ hv _ hp => hstep.selects hv hp
  case insert =>
    refine ⟨placeholders config.dialect columns, placeholders_length .., ?_, rfl, ?_⟩
    · exact placeholders_count config.dialect columns
    · rw [hinsert]
      rfl
  case rows =>
    intro id revision deleted payload document
    have hvalues := staticColumns_values columns document
    have hrow : b.row id revision deleted payload document =
        [.str id, .int revision, .bool deleted, payload.elim .null .str] ++
          (staticColumns columns).values document := by
      subst hb
      cases payload <;> rfl
    refine ⟨_, hrow, ?_, hvalues⟩
    rw [hrow, List.length_append, ← hvalues.length_eq, List.length_map]
    rfl

/-- A document that has one of two fields, in a table with a column for both. -/
theorem yearless_row_aligned :
    ∃ b, compile Config.json "doc" [⟨[[⟨"lines", none⟩]], [⟨[⟨"price", none⟩], .decimal⟩]⟩]
        (PlainNamer.resolve ⟨50⟩) (staticColumns [("YEAR", "INTEGER"), ("TENANT", "TEXT")]) =
          .ok b ∧
      b.insert.render = "INSERT INTO DOC_RAW (ID, REVISION, DELETED, PAYLOAD, YEAR, TENANT) " ++
        "VALUES (?, ?, ?, CAST(? AS JSONB), ?, ?)" ∧
      b.row "7" 1 false none (.object [("TENANT", .str "acme")]) =
        [.str "7", .int 1, .bool false, .null, .null, .str "acme"] ∧
      Aligned Config.json [("YEAR", "INTEGER"), ("TENANT", "TEXT")]
        [⟨[[⟨"lines", none⟩]], [⟨[⟨"price", none⟩], .decimal⟩]⟩] b
        ["ID", "REVISION", "DELETED", "PAYLOAD", "YEAR", "TENANT"] := by
  have h : compile Config.json "doc" [⟨[[⟨"lines", none⟩]], [⟨[⟨"price", none⟩], .decimal⟩]⟩]
      (PlainNamer.resolve ⟨50⟩) (staticColumns [("YEAR", "INTEGER"), ("TENANT", "TEXT")]) =
        .ok _ := rfl
  exact ⟨_, h, rfl, rfl, compile_aligned h⟩

end DocViews
