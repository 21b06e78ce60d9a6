import DocViews.Proofs.Compile.Run

/-!
# The registry of a bundle

The objects of a bundle are the raw table, the views on revisions, the views of the groups and, if
there is one, the metadata view. All their names are different, whatever the namer proposes: it
may ignore which names are taken and even give the same name every time. The indices of additional
columns are named apart from the objects, and differ from each other.
-/

namespace DocViews

theorem initialNames_eq (base : String) :
    initialNames base = [base ++ "_RAW", base ++ "_MIN", base ++ "_MAX", base ++ "_NOW"] := rfl

/-- The table and the views on revisions differ in the endings of their names. -/
theorem initialNames_nodup (base : String) : (initialNames base).Nodup := by
  rw [initialNames_eq]
  simp

/-! ## Indices -/

/-- Every additional column gets one index; their names are new and different. -/
theorem nameIndices_spec {namer : Namer} {base : String} {reserved columns : List String}
    {is : List (String × String)} (h : nameIndices namer base reserved columns = .ok is) :
    is.map (·.2) = columns ∧ Fresh reserved (is.map (·.1)) := by
  induction columns generalizing reserved is with
  | nil =>
    cases h
    exact ⟨rfl, fresh_nil⟩
  | cons column columns ih =>
    simp only [nameIndices, guard_eq_ok, List.contains_iff_mem] at h
    obtain ⟨hnew, h⟩ := h
    obtain ⟨rest, hrest, h⟩ := bind_eq_ok.1 h
    obtain ⟨hcolumns, hfresh⟩ := ih hrest
    rw [← pure_eq_ok.1 h]
    exact ⟨congrArg _ hcolumns, fresh_cons.2 ⟨hnew, hfresh⟩⟩

/-! ## Objects -/

theorem objectsOf_names (base : String) (views : List (String × Sql.Query)) :
    (objectsOf base views).map (·.name) = rawTableName base :: views.map (·.1) := by
  simp [objectsOf]

section Registry
variable {Document : Type} {config : Config} {name : String} {groups : List ViewGroup}
  {namer : Namer} {table : TablePolicy Document} {b : Bundle Document}
  {base : String} {indices : List (String × String)} {rs : List GroupResult}
  {listing : List (String × Sql.Query)}

/-- The objects in the order in which they are registered. -/
theorem bundleOf_object_names :
    (bundleOf config table base indices (rs.flatMap (·.views)) listing).objects.map (·.name) =
      initialNames base ++ rs.flatMap (·.names) ++ listing.map (·.1) := by
  simp only [bundleOf, objectsOf, viewsOf, initialNames, List.map_cons, List.map_append,
    List.map_map, List.cons_append, ← flatMap_views_name]
  rfl

theorem bundleOf_metadata_view :
    (bundleOf config table base indices (rs.flatMap (·.views)) listing).metadata.map (·.view) =
      rs.flatMap (·.names) := by
  rw [← flatMap_views_name, bundleOf, List.map_map]
  rfl

/-- The metadata view, too, gets a name that is not registered yet. -/
theorem registered_nodup {direct : List String} {metadata : List ViewMetadata}
    (hrun : GroupsRun config namer base direct (initialNames base) groups rs)
    (hlisting : metadataViews config base (initialNames base ++ rs.flatMap (·.names)) metadata =
      .ok listing) :
    (initialNames base ++ rs.flatMap (·.names) ++ listing.map (·.1)).Nodup := by
  obtain ⟨hmta, rfl⟩ := metadataViews_eq_ok.1 hlisting
  refine Fresh.nodup_append ?_ (hrun.names_nodup (initialNames_nodup base))
  cases hview : config.metadataView with
  | false => exact fresh_nil
  | true => exact fresh_singleton.2 (hmta hview)

/-- The registry lists the raw table, the views on revisions, every projection view and the
    metadata view if there is one, and no name in it stands for two objects. -/
theorem compile_names_nodup (h : compile config name groups namer table = .ok b) :
    b.objects.map (·.name) =
        [b.base ++ "_RAW", b.base ++ "_MIN", b.base ++ "_MAX", b.base ++ "_NOW"]
          ++ b.metadata.map (·.view) ++ (if config.metadataView then [b.base ++ "_MTA"] else []) ∧
      (b.objects.map (·.name)).Nodup := by
  obtain ⟨indices, rs, listing, _, hrun, hlisting, rfl⟩ := compile_eq_ok.1 h
  rw [bundleOf_object_names, bundleOf_metadata_view]
  refine ⟨?_, registered_nodup hrun hlisting⟩
  obtain ⟨_, rfl⟩ := metadataViews_eq_ok.1 hlisting
  rw [initialNames_eq, apply_ite (List.map _)]
  rfl

end Registry

/-! ## What follows from the registry -/

section Derived
variable {Document : Type} {config config' : Config} {name : String} {groups : List ViewGroup}
  {namer : Namer} {table : TablePolicy Document} {b b' : Bundle Document}

/-- The objects of a bundle in front of the metadata view: the table, the views on revisions and
    the views of the groups. -/
def Bundle.coreObjects (b : Bundle Document) : List Sql.DbObject :=
  ⟨b.rawTable, .table⟩ ::
    ((temporalViews b.base).map (·.1) ++ b.metadata.map (·.view)).map fun view => ⟨view, .view⟩

theorem Bundle.coreObjects_names (b : Bundle Document) :
    b.coreObjects.map (·.name) = initialNames b.base ++ b.metadata.map (·.view) := by
  simp [Bundle.coreObjects, initialNames, Bundle.rawTable, Function.comp_def]

theorem Bundle.coreObjects_congr (hbase : b.base = b'.base)
    (hviews : b.metadata.map (·.view) = b'.metadata.map (·.view)) :
    b.coreObjects = b'.coreObjects := by
  rw [Bundle.coreObjects, Bundle.coreObjects, Bundle.rawTable, Bundle.rawTable, hbase, hviews]

/-- All that a bundle has beside its metadata and the statements that create it. It follows from
    the name of the bundle and the names of the views in the metadata. -/
structure Derived (config : Config) (table : TablePolicy Document) (b : Bundle Document) :
    Prop where
  objects_eq : b.objects =
    b.coreObjects ++ if config.metadataView then [⟨b.base ++ "_MTA", .view⟩] else []
  drops_eq : b.drops = dropStatements config b.base b.objects
  grants_eq : b.grantTemplates = b.objects.map fun o => grantTemplate o.name
  insert_eq : b.insert =
    .insert b.rawTable (directColumns table.columns) (placeholders config.dialect table.columns)
  truncate_eq : b.truncate = .truncate b.rawTable

theorem compile_derived (h : compile config name groups namer table = .ok b) :
    Derived config table b := by
  obtain ⟨indices, rs, listing, _, _, hlisting, rfl⟩ := compile_eq_ok.1 h
  obtain ⟨_, rfl⟩ := metadataViews_eq_ok.1 hlisting
  refine ⟨?_, rfl, rfl, rfl, rfl⟩
  simp only [bundleOf, Bundle.coreObjects, Bundle.rawTable, objectsOf, viewsOf, List.map_append,
    List.map_map, List.cons_append, apply_ite (List.map _), List.map_cons, List.map_nil]
  rfl

/-- Two bundles consist of the same objects, under the same name. -/
structure SameObjects (b b' : Bundle Document) : Prop where
  base_eq : b.base = b'.base
  objects_eq : b.objects = b'.objects
  grants_eq : b.grantTemplates = b'.grantTemplates
  insert_eq : b.insert = b'.insert
  truncate_eq : b.truncate = b'.truncate

/-- Bundles of one name with views of the same names consist of the same objects. -/
theorem Derived.sameObjects (h : Derived config table b) (h' : Derived config' table b')
    (hdialect : config.dialect = config'.dialect)
    (hlisting : config.metadataView = config'.metadataView) (hbase : b.base = b'.base)
    (hviews : b.metadata.map (·.view) = b'.metadata.map (·.view)) : SameObjects b b' := by
  have hraw : b.rawTable = b'.rawTable := congrArg rawTableName hbase
  have hobjects : b.objects = b'.objects := by
    rw [h.objects_eq, h'.objects_eq, Bundle.coreObjects_congr hbase hviews, hbase, hlisting]
  constructor
  case base_eq => exact hbase
  case objects_eq => exact hobjects
  case grants_eq => rw [h.grants_eq, h'.grants_eq, hobjects]
  case insert_eq => rw [h.insert_eq, h'.insert_eq, hraw, hdialect]
  case truncate_eq => rw [h.truncate_eq, h'.truncate_eq, hraw]

end Derived

/-- A namer that gives the same name to everything leads to no clash here: what it names lies in
    different scopes or gets different endings. -/
theorem constant_namer_names_nodup :
    ∃ b, compile Config.json "doc" [⟨[[⟨"lines", none⟩]], [⟨[⟨"price", none⟩], .decimal⟩]⟩]
        (fun _ _ => "X") (staticColumns [("TENANT", "TEXT")]) = .ok b ∧
      b.objects.map (·.name) = ["X_RAW", "X_MIN", "X_MAX", "X_NOW", "X", "X_MTA"] ∧
      (b.objects.map (·.name)).Nodup := by
  have h : compile Config.json "doc" [⟨[[⟨"lines", none⟩]], [⟨[⟨"price", none⟩], .decimal⟩]⟩]
      (fun _ _ => "X") (staticColumns [("TENANT", "TEXT")]) = .ok _ := rfl
  exact ⟨_, h, rfl, (compile_names_nodup h).2⟩

end DocViews
