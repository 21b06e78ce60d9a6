import DocViews.Proofs.Compile.Relations
import DocViews.Proofs.Sql.Database

/-!
# Setting up and tearing down

Every object that a bundle creates is registered, and every registered object is dropped. So the
statements that drop undo the ones that create, if those run through. They do on a database where
all names are free, since no two tables or views have one name and no two indices do. A database
that does not keep the names of indices apart from the others asks for more: there no view may be
called like an index, and nothing in the compiler sees to that.
-/

namespace DocViews

open Sql (Statement DbObject Database Relation IndexNames)

/-! ## Statements -/

/-- Whether a statement is one of the compiler's own and not from a hook. -/
def Sql.Statement.isGenerated : Statement → Bool
  | .custom _ => false
  | _ => true

/-- The statements of a list that are not from hooks. -/
def generated (ss : List Statement) : List Statement := ss.filter (·.isGenerated)

theorem generated_append (ss ts : List Statement) :
    generated (ss ++ ts) = generated ss ++ generated ts :=
  List.filter_append ..

theorem generated_map {f : α → Statement} (h : ∀ a, (f a).isGenerated) (l : List α) :
    generated (l.map f) = l.map f := by
  refine List.filter_eq_self.2 fun s hs => ?_
  obtain ⟨a, _, rfl⟩ := List.mem_map.1 hs
  exact h a

theorem generated_synonyms {synonym : Bool} {f : α → Statement} (h : ∀ a, (f a).isGenerated)
    (l : List α) :
    generated (if synonym then l.map f else []) = if synonym then l.map f else [] := by
  cases synonym with
  | false => rfl
  | true => exact generated_map h l

theorem generated_hooks (hooks : List Hook) (raw : String) :
    generated (hooks.flatMap fun hook => (hook raw).map .custom) = [] := by
  refine List.filter_eq_nil_iff.2 fun s hs => ?_
  obtain ⟨hook, _, hs⟩ := List.mem_flatMap.1 hs
  obtain ⟨text, _, rfl⟩ := List.mem_map.1 hs
  exact Bool.false_ne_true

/-- The statement that creates the raw table. -/
def tableStatement {Document : Type} (config : Config) (table : TablePolicy Document)
    (base : String) : Statement :=
  .createTable (rawTableName base) config.dialect.payloadType table.columns (base ++ "_PK")

/-! ## Objects of statements -/

theorem creationStatements_created (config : Config) (base : String)
    (additional indices : List (String × String)) (views : List (String × Sql.Query)) :
    (creationStatements config base additional indices views).filterMap (·.created?) =
      objectsOf base views := by
  rw [List.filterMap_eq_flatMap_toList, creationStatements_flatMap (fun _ => rfl) fun _ => rfl]
  have hindices : (indices.flatMap fun index => (indexStatement base index).created?.toList) = [] :=
    List.flatMap_eq_nil_iff.2 fun _ _ => rfl
  rw [hindices, List.append_nil, objectsOf, List.map_eq_flatMap]
  rfl

theorem dropStatements_dropped (config : Config) (base : String) (objects : List DbObject) :
    (dropStatements config base objects).filterMap (·.dropped?) = objects := by
  rw [List.filterMap_eq_flatMap_toList, dropStatements_flatMap (fun _ => rfl) fun _ => rfl]
  exact List.flatMap_singleton' objects

/-! ## Texts -/

theorem map_render_hooks (hooks : List Hook) (raw : String) :
    (hooks.flatMap fun hook => (hook raw).map Statement.custom).map (·.render) =
      hooks.flatMap fun hook => hook raw := by
  rw [List.map_flatMap]
  refine List.flatMap_congr fun hook _ => ?_
  rw [List.map_map]
  exact List.map_id _

theorem map_render_synonyms {synonym : Bool} (f : DbObject → Statement) (objects : List DbObject) :
    (if synonym then objects.map f else []).map (·.render) =
      if synonym then objects.map fun o => (f o).render else [] := by
  cases synonym with
  | false => rfl
  | true => exact List.map_map

theorem render_createTable (dialect : Dialect) (base : String)
    (additional : List (String × String)) :
    (Statement.createTable (rawTableName base) dialect.payloadType additional
        (base ++ "_PK")).render =
      "CREATE TABLE " ++ rawTableName base ++ " (ID VARCHAR(250) NOT NULL, "
        ++ "REVISION BIGINT NOT NULL, DELETED BOOLEAN NOT NULL, PAYLOAD "
        ++ (match dialect with | .xml => "XML NOT NULL" | .json => "JSONB") ++ ", "
        ++ String.join (additional.map fun c => c.1 ++ " " ++ c.2 ++ ", ")
        ++ "CONSTRAINT " ++ base ++ "_PK PRIMARY KEY (ID, REVISION))" := by
  -- The names of the fixed columns are definitions, so the literals are cut where they stand.
  have hid : " (ID VARCHAR(250) NOT NULL, " = " (" ++ "ID" ++ " VARCHAR(250) NOT NULL, " := rfl
  have hpayload : "REVISION BIGINT NOT NULL, DELETED BOOLEAN NOT NULL, PAYLOAD " =
      "REVISION" ++ " BIGINT NOT NULL, " ++ "DELETED" ++ " BOOLEAN NOT NULL, " ++ "PAYLOAD"
        ++ " " := rfl
  have hkey : "_PK PRIMARY KEY (ID, REVISION))" =
      "_PK" ++ " PRIMARY KEY (" ++ "ID" ++ ", " ++ "REVISION" ++ "))" := rfl
  have htype : dialect.payloadType =
      match dialect with | .xml => "XML NOT NULL" | .json => "JSONB" := rfl
  unfold Statement.render
  simp only [← htype, hid, hpayload, hkey, Sql.idColumn, Sql.revisionColumn, Sql.deletedColumn,
    Sql.payloadColumn, String.append_assoc]

theorem creationStatements_text (config : Config) (base : String)
    (additional indices : List (String × String)) (views : List (String × Sql.Query)) :
    (creationStatements config base additional indices views).map (·.render) =
      ("CREATE TABLE " ++ rawTableName base ++ " (ID VARCHAR(250) NOT NULL, "
          ++ "REVISION BIGINT NOT NULL, DELETED BOOLEAN NOT NULL, PAYLOAD "
          ++ (match config.dialect with | .xml => "XML NOT NULL" | .json => "JSONB") ++ ", "
          ++ String.join (additional.map fun c => c.1 ++ " " ++ c.2 ++ ", ")
          ++ "CONSTRAINT " ++ base ++ "_PK PRIMARY KEY (ID, REVISION))")
        :: (indices.map fun i => (i.1 ++ "_IDX", i.2)).map (fun i =>
          "CREATE INDEX " ++ i.1 ++ " ON " ++ rawTableName base ++ " (" ++ i.2 ++ ")")
        ++ views.map (fun v => "CREATE VIEW " ++ v.1 ++ " AS " ++ v.2.render)
        ++ (if config.synonym then (objectsOf base views).map fun o =>
            "CREATE PUBLIC SYNONYM " ++ o.name ++ " FOR " ++ o.name else [])
        ++ config.onCreation.flatMap fun hook => hook (rawTableName base) := by
  rw [creationStatements]
  simp only [List.map_append, List.map_map, List.map_singleton, map_render_hooks,
    map_render_synonyms, render_createTable]
  rfl

theorem dropStatements_text (config : Config) (base : String) (views : List (String × Sql.Query)) :
    (dropStatements config base (objectsOf base views)).map (·.render) =
      ("DROP TABLE " ++ rawTableName base) :: views.map (fun v => "DROP VIEW " ++ v.1)
        ++ (if config.synonym then (objectsOf base views).map fun o =>
            "DROP PUBLIC SYNONYM " ++ o.name else [])
        ++ config.onDrop.flatMap fun hook => hook (rawTableName base) := by
  have hdrops : ((objectsOf base views).map Statement.drop).map (·.render) =
      ("DROP TABLE " ++ rawTableName base) :: views.map fun v => "DROP VIEW " ++ v.1 := by
    rw [objectsOf, List.map_cons, List.map_cons, List.map_map, List.map_map]
    rfl
  rw [dropStatements, List.map_append, List.map_append, hdrops, map_render_hooks,
    map_render_synonyms]
  rfl

/-! ## Running -/

section Running
variable {x : IndexNames} {db db' : Database} {raw payloadType key : String}
  {additional : List (String × String)} {is : List (String × String)}
  {vs : List (String × Sql.Query)} {synonym : Bool}

/-- What a raw table with indices and views are in a database. -/
def relationsOf (raw key : String) (is : List (String × String)) (vs : List (String × Sql.Query)) :
    List Relation :=
  .table raw key (is.map (·.1)) :: vs.map fun v => .view v.1

theorem relationsOf_names : (relationsOf raw key is vs).map (·.name) = raw :: vs.map (·.1) := by
  simp [relationsOf]

theorem relationsOf_indices :
    (relationsOf raw key is vs).flatMap (·.indices) = key :: is.map (·.1) := by
  have hviews : (vs.map fun v => Relation.view v.1).flatMap (·.indices) = [] := by
    simp [List.flatMap_map]
  rw [relationsOf, List.flatMap_cons, hviews, List.append_nil, Relation.indices_table]

theorem relationsOf_keys :
    (relationsOf raw key is vs).flatMap (·.keys x) =
      [.relation raw, x.key key] ++ is.map (fun i => x.key i.1)
        ++ vs.map fun v => .relation v.1 := by
  have hviews : (vs.map fun v => Relation.view v.1).flatMap (·.keys x) =
      vs.map fun v => .relation v.1 := by
    rw [List.flatMap_map, List.map_eq_flatMap]
    rfl
  rw [relationsOf, List.flatMap_cons, hviews, Relation.keys_table, List.map_map]
  rfl

theorem run_synonyms {relations : List Relation} {synonyms ns : List String}
    (hns : ∀ n ∈ ns, n ∈ relations.map (·.name)) :
    Database.run x ⟨relations, synonyms⟩ (if synonym then ns.map .createSynonym else []) =
        some db' ↔
      (synonym → Fresh synonyms ns) ∧
        db' = ⟨relations, synonyms ++ if synonym then ns else []⟩ := by
  cases synonym with
  | false => simp [Database.run_nil, eq_comm]
  | true => simpa using Database.run_createSynonym hns

/-- The statements that create everything run through if all names are new, and add just that. -/
theorem run_creation :
    db.run x (.createTable raw payloadType additional key
        :: is.map (fun (index, column) => .createIndex index raw column)
        ++ vs.map (fun (view, query) => .createView view query)
        ++ (if synonym then (raw :: vs.map (·.1)).map .createSynonym else [])) = some db' ↔
      Fresh (db.keys x) ((relationsOf raw key is vs).flatMap (·.keys x)) ∧
        (synonym → Fresh db.synonyms (raw :: vs.map (·.1))) ∧
        db' = ⟨db.relations ++ relationsOf raw key is vs,
          db.synonyms ++ if synonym then raw :: vs.map (·.1) else []⟩ := by
  have hkeys : ∀ others, Database.keys x ⟨db.relations ++ [.table raw key others], db.synonyms⟩ =
      db.keys x ++ ([.relation raw, x.key key] ++ others.map x.key) := by
    simp [Database.keys]
  have hraw : Fresh (db.keys x) [.relation raw, x.key key] → raw ∉ db.relations.map (·.name) :=
    fun hfresh hmem => hfresh.new (.relation raw) (by simp) (Database.relation_mem_keys hmem)
  -- Synonyms come last, when everything that they are for is there.
  have hnames : ∀ n ∈ raw :: vs.map (·.1),
      n ∈ (db.relations ++ [Relation.table raw key (is.map (·.1))]
        ++ vs.map fun v => Relation.view v.1).map (·.name) := by
    intro n hn
    simpa using Or.inr hn
  simp only [relationsOf_keys, fresh_append, Database.run_append_eq_some,
    Database.run_cons_eq_some, Database.execute, Database.create_eq_some, Relation.keys_table,
    List.map_nil]
  constructor
  · rintro ⟨_, ⟨_, ⟨_, ⟨htable, rfl⟩, hruni⟩, hrunv⟩, hruns⟩
    obtain ⟨hindices, rfl⟩ := (Database.run_createIndex (hraw htable)).1 hruni
    obtain ⟨hviews, rfl⟩ := Database.run_createView.1 hrunv
    obtain ⟨hsynonyms, rfl⟩ := (run_synonyms hnames).1 hruns
    refine ⟨⟨⟨htable, ?_⟩, ?_⟩, hsynonyms, ?_⟩
    · simpa [hkeys] using hindices
    · simpa [hkeys, Function.comp_def] using hviews
    · simp [relationsOf]
  · -- Stage by stage, each one starts from what the one before has left.
    rintro ⟨⟨⟨htable, hindices⟩, hviews⟩, hsynonyms, rfl⟩
    refine ⟨_, ⟨_, ⟨_, ⟨htable, rfl⟩, (Database.run_createIndex (hraw htable)).2 ⟨?_, rfl⟩⟩,
      Database.run_createView.2 ⟨?_, rfl⟩⟩, (run_synonyms hnames).2 ⟨hsynonyms, ?_⟩⟩
    · simpa [hkeys] using hindices
    · simpa [hkeys, Function.comp_def] using hviews
    · simp [relationsOf]

/-- Dropping what was added leads back. -/
theorem run_drops {db : Database}
    (hkeys : Fresh (db.keys x) ((relationsOf raw key is vs).flatMap (·.keys x)))
    (hsynonyms : synonym → Fresh db.synonyms (raw :: vs.map (·.1))) :
    Database.run x ⟨db.relations ++ relationsOf raw key is vs,
          db.synonyms ++ if synonym then raw :: vs.map (·.1) else []⟩
        ((relationsOf raw key is vs).map (.drop ·.object)
          ++ (if synonym then (raw :: vs.map (·.1)).map .dropSynonym else [])) = some db := by
  rw [Database.run_append_eq_some]
  refine ⟨_, Database.run_drop (Database.fresh_names hkeys), ?_⟩
  cases synonym with
  | false => simp [Database.run_nil]
  | true => exact Database.run_dropSynonym (hsynonyms rfl)

end Running

/-! ## Bundles -/

section Bundles
variable {Document : Type} {config : Config} {name : String} {groups : List ViewGroup}
  {namer : Namer} {table : TablePolicy Document} {b : Bundle Document}

/-- What a bundle is in a database. -/
def addedRelations (base : String) (indices : List (String × String))
    (views : List (String × Sql.Query)) : List Relation :=
  relationsOf (rawTableName base) (base ++ "_PK") (indices.map fun i => (i.1 ++ "_IDX", i.2)) views

section Added
variable {base : String} {indices : List (String × String)} {views : List (String × Sql.Query)}

theorem addedRelations_objects :
    (addedRelations base indices views).map (·.object) = objectsOf base views := by
  simp [addedRelations, relationsOf, objectsOf]

theorem addedRelations_names :
    (addedRelations base indices views).map (·.name) = (objectsOf base views).map (·.name) :=
  relationsOf_names.trans (objectsOf_names ..).symm

theorem indexNames_eq :
    indexNames base (indices.map (·.1)) =
      (base ++ "_PK") :: (indices.map fun i => (i.1 ++ "_IDX", i.2)).map (·.1) := by
  rw [indexNames, List.map_map, List.map_map]
  rfl

theorem addedRelations_indices :
    (addedRelations base indices views).flatMap (·.indices) =
      indexNames base (indices.map (·.1)) :=
  relationsOf_indices.trans indexNames_eq.symm

end Added

/-- Without hooks, creation is the table, its indices, the views and the synonyms. -/
theorem generated_creation (config : Config) (base : String)
    (additional is : List (String × String)) (views : List (String × Sql.Query)) :
    generated (creationStatements config base additional is views) =
      .createTable (rawTableName base) config.dialect.payloadType additional (base ++ "_PK")
        :: (is.map fun i => (i.1 ++ "_IDX", i.2)).map
          (fun (index, column) => .createIndex index (rawTableName base) column)
        ++ views.map (fun (view, query) => .createView view query)
        ++ (if config.synonym then (rawTableName base :: views.map (·.1)).map .createSynonym
            else []) := by
  rw [creationStatements, generated_append, generated_hooks, List.append_nil, generated_append,
    generated_append, generated_append, generated_map fun _ => rfl, generated_map fun _ => rfl,
    generated_synonyms fun _ => rfl, ← objectsOf_names, List.map_map, List.map_map]
  rfl

/-- Without hooks, what is dropped are the relations and the synonyms. -/
theorem generated_drops (config : Config) (base : String) (indices : List (String × String))
    (views : List (String × Sql.Query)) :
    generated (dropStatements config base (objectsOf base views)) =
      (addedRelations base indices views).map (.drop ·.object)
        ++ (if config.synonym then (rawTableName base :: views.map (·.1)).map .dropSynonym
            else []) := by
  have hobjects : (addedRelations base indices views).map (·.object) = objectsOf base views :=
    addedRelations_objects
  rw [dropStatements, generated_append, generated_hooks, List.append_nil, generated_append,
    generated_map fun _ => rfl, generated_synonyms fun _ => rfl, ← objectsOf_names, ← hobjects,
    List.map_map, List.map_map (g := Statement.dropSynonym)]
  rfl

/-- What is set up under free names can be torn down, and only then can it be set up at all. -/
theorem run_creation_drops {x : IndexNames} {db : Database} {base : String}
    {additional indices : List (String × String)} {views : List (String × Sql.Query)}
    (hnames : ((objectsOf base views).map (·.name)).Nodup) :
    db.run x (generated (creationStatements config base additional indices views)
        ++ generated (dropStatements config base (objectsOf base views))) = some db ↔
      Fresh (db.keys x) ((addedRelations base indices views).flatMap (·.keys x)) ∧
        (config.synonym → ∀ o ∈ objectsOf base views, o.name ∉ db.synonyms) := by
  rw [generated_creation, generated_drops config base indices, Database.run_append_eq_some,
    ← fresh_map_iff hnames, objectsOf_names]
  constructor
  · rintro ⟨_, hcreation, _⟩
    obtain ⟨hnew, hnewSynonyms, _⟩ := run_creation.1 hcreation
    exact ⟨hnew, hnewSynonyms⟩
  · rintro ⟨hnew, hnewSynonyms⟩
    exact ⟨_, run_creation.2 ⟨hnew, hnewSynonyms, rfl⟩, run_drops hnew hnewSynonyms⟩

section Readings
variable {db : Database} {base : String} {additional indices : List (String × String)}
  {views : List (String × Sql.Query)} (hnames : ((objectsOf base views).map (·.name)).Nodup)
include hnames

theorem run_apart_iff (hindices : (indices.map (·.1)).Nodup) :
    db.run .apart (generated (creationStatements config base additional indices views)
        ++ generated (dropStatements config base (objectsOf base views))) = some db ↔
      (∀ o ∈ objectsOf base views, o.name ∉ db.names) ∧
      (∀ index ∈ indexNames base (indices.map (·.1)), index ∉ db.indices) ∧
      (config.synonym → ∀ o ∈ objectsOf base views, o.name ∉ db.synonyms) := by
  rw [run_creation_drops hnames, Database.fresh_keys_apart, addedRelations_names,
    addedRelations_indices, fresh_map_iff hnames,
    fresh_iff_of_nodup (indexNames_nodup base hindices), and_assoc]

theorem run_shared_iff :
    let relations := (creationStatements config base additional indices views).flatMap
      (·.relationNames)
    db.run .shared (generated (creationStatements config base additional indices views)
        ++ generated (dropStatements config base (objectsOf base views))) = some db ↔
      relations.Nodup ∧ (∀ relation ∈ relations, relation ∉ db.names ++ db.indices) ∧
      (config.synonym → ∀ o ∈ objectsOf base views, o.name ∉ db.synonyms) := by
  intro relations
  have hrelations : relations =
      rawTableName base :: indexNames base (indices.map (·.1)) ++ views.map (·.1) :=
    creationStatements_relationNames ..
  have hperm : ((objectsOf base views).map (·.name) ++ indexNames base (indices.map (·.1))).Perm
      relations := by
    rw [objectsOf_names, hrelations]
    exact List.perm_append_comm.cons _
  rw [run_creation_drops hnames, Database.fresh_keys_shared, addedRelations_names,
    addedRelations_indices, fresh_perm hperm, ← and_assoc]
  exact and_congr_left fun _ => ⟨fun h => ⟨h.nodup, h.new⟩, fun h => ⟨h.1, h.2⟩⟩

end Readings

/-- The bundle `b` sets up its raw table with `indices`, the names of indices with the columns that
    they are for, and `views`, and tears all of it down again. -/
structure Provisions (config : Config) (table : TablePolicy Document) (b : Bundle Document)
    (indices : List (String × String)) (views : List (String × Sql.Query)) : Prop where
  indices_columns : indices.map (·.2) = table.columns.map (·.1)
  objects_eq : b.objects = ⟨b.rawTable, .table⟩ :: views.map fun v => ⟨v.1, .view⟩
  creation_eq : b.creation =
    tableStatement config table b.base
      :: indices.map (fun (index, column) => .createIndex index b.rawTable column)
      ++ views.map (fun (view, query) => .createView view query)
      ++ (if config.synonym then b.objects.map (.createSynonym ·.name) else [])
      ++ config.onCreation.flatMap (fun hook => (hook b.rawTable).map .custom)
  drops_eq : b.drops =
    b.objects.map .drop
      ++ (if config.synonym then b.objects.map (.dropSynonym ·.name) else [])
      ++ config.onDrop.flatMap (fun hook => (hook b.rawTable).map .custom)
  /-- Every object is created once, in the order of the objects, with an index for each additional
      column and, if wanted, a synonym for each object. What hooks add comes last. -/
  creation_text : b.creation.map (·.render) =
    ("CREATE TABLE " ++ b.rawTable ++ " (ID VARCHAR(250) NOT NULL, "
        ++ "REVISION BIGINT NOT NULL, DELETED BOOLEAN NOT NULL, PAYLOAD "
        ++ (match config.dialect with | .xml => "XML NOT NULL" | .json => "JSONB") ++ ", "
        ++ String.join (table.columns.map fun c => c.1 ++ " " ++ c.2 ++ ", ")
        ++ "CONSTRAINT " ++ b.base ++ "_PK PRIMARY KEY (ID, REVISION))")
      :: indices.map (fun i => "CREATE INDEX " ++ i.1 ++ " ON " ++ b.rawTable ++ " (" ++ i.2 ++ ")")
      ++ views.map (fun v => "CREATE VIEW " ++ v.1 ++ " AS " ++ v.2.render)
      ++ (if config.synonym then
          b.objects.map fun o => "CREATE PUBLIC SYNONYM " ++ o.name ++ " FOR " ++ o.name else [])
      ++ config.onCreation.flatMap fun hook => hook b.rawTable
  /-- Every object is dropped as what it was created, in the same order. -/
  drops_text : b.drops.map (·.render) =
    ("DROP TABLE " ++ b.rawTable) :: views.map (fun v => "DROP VIEW " ++ v.1)
      ++ (if config.synonym then b.objects.map fun o => "DROP PUBLIC SYNONYM " ++ o.name else [])
      ++ config.onDrop.flatMap fun hook => hook b.rawTable
  /-- The statements for tables and views begin with the objects that they create. -/
  creates : List.Forall₂ Statement.Creates (b.creation.filter (·.created?.isSome)) b.objects
  /-- A database with a set of its own for the names of indices runs through if all names are
      free, and is left as it was. -/
  run_apart : ∀ db : Database,
    db.run .apart (generated b.creation ++ generated b.drops) = some db ↔
      (∀ o ∈ b.objects, o.name ∉ db.names) ∧
      (∀ index ∈ (b.base ++ "_PK") :: indices.map (·.1), index ∉ db.indices) ∧
      (config.synonym → ∀ o ∈ b.objects, o.name ∉ db.synonyms)
  /-- With one set of names for all, the relations that are added must also differ by themselves. -/
  run_shared : ∀ db : Database,
    db.run .shared (generated b.creation ++ generated b.drops) = some db ↔
      b.relationNames.Nodup ∧
      (∀ relation ∈ b.relationNames, relation ∉ db.names ++ db.indices) ∧
      (config.synonym → ∀ o ∈ b.objects, o.name ∉ db.synonyms)

/-- A bundle creates every registered object once, with an index for each additional column and,
    if wanted, a synonym for each object, and drops them again in the same order. What hooks add
    comes last. Where the names are free, all of it runs through and leaves nothing behind. -/
theorem compile_provisions (h : compile config name groups namer table = .ok b) :
    ∃ indices views, Provisions config table b indices views := by
  obtain ⟨is, rs, listing, his, hrun, hlisting, rfl⟩ := compile_eq_ok.1 h
  obtain ⟨hcolumns, hindices⟩ := nameIndices_spec his
  have hnames : ((bundleOf config table (baseName namer name) is (rs.flatMap (·.views))
      listing).objects.map (·.name)).Nodup := by
    rw [bundleOf_object_names]
    exact registered_nodup hrun hlisting
  refine ⟨is.map fun i => (i.1 ++ "_IDX", i.2),
    viewsOf (baseName namer name) (rs.flatMap (·.views)) listing, ?_⟩
  constructor
  case indices_columns =>
    rw [List.map_map, ← hcolumns]
    rfl
  case objects_eq => rfl
  case creation_eq =>
    simp only [bundleOf, creationStatements, List.map_map]
    rfl
  case drops_eq => rfl
  case creation_text => exact creationStatements_text ..
  case drops_text => exact dropStatements_text ..
  case creates =>
    -- Tables and views are the only statements with an object, and those are all objects there are.
    have hcreates := Statement.forall₂_creates
      (creationStatements config (baseName namer name) table.columns is
        (viewsOf (baseName namer name) (rs.flatMap (·.views)) listing))
    rwa [creationStatements_created] at hcreates
  case run_apart =>
    intro db
    -- The index of the key comes with the table; no statement names it alone.
    rw [← indexNames_eq]
    exact run_apart_iff hnames hindices.nodup
  case run_shared => exact fun db => run_shared_iff hnames

end Bundles

/-- With synonyms and a hook, next to a view that was there before. -/
theorem synonyms_and_hook_provision :
    ∃ b, compile ((Config.json.withSynonym true).withOnCreation fun raw => ["ANALYZE " ++ raw])
        "doc" [⟨[[⟨"lines", none⟩]], [⟨[⟨"price", none⟩], .decimal⟩]⟩]
        (fun _ _ => "X") (staticColumns [("TENANT", "TEXT")]) = .ok b ∧
      Database.run .apart ⟨[.view "OTHER"], ["OTHER"]⟩ (generated b.creation ++ generated b.drops) =
        some ⟨[.view "OTHER"], ["OTHER"]⟩ := by
  have h : compile ((Config.json.withSynonym true).withOnCreation fun raw => ["ANALYZE " ++ raw])
      "doc" [⟨[[⟨"lines", none⟩]], [⟨[⟨"price", none⟩], .decimal⟩]⟩]
      (fun _ _ => "X") (staticColumns [("TENANT", "TEXT")]) = .ok _ := rfl
  obtain ⟨indices, views, hprovisions⟩ := compile_provisions h
  refine ⟨_, h, (hprovisions.run_apart _).2 ⟨by decide, ?_, by decide⟩⟩
  exact fun index _ => List.not_mem_nil

end DocViews
