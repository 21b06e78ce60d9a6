import DocViews.Proofs.Compile.Provisioning

/-!
# Adding groups

Groups are compiled one after another, and a group is never looked at again when others come behind
it. So a document type to which groups are added keeps all that it had: what the first groups
compile to is the beginning of what all of them compile to, and what keeps the first groups from
being compiled is reported in the same way. Only the metadata view stands behind all groups.
-/

namespace DocViews

open Sql (Statement DbObject)

section Groups
variable {config : Config} {namer : Namer} {base : String} {direct taken : List String}
  {vs ws : List ViewGroup}

/-- Groups behind others start from the names that the others have left. -/
theorem projectGroups_append :
    projectGroups config namer base direct taken (vs ++ ws) = do
      let views ← projectGroups config namer base direct taken vs
      let rest ← projectGroups config namer base direct (taken ++ views.map (·.name)) ws
      return views ++ rest := by
  induction vs generalizing taken with
  | nil =>
    have hnil : projectGroups config namer base direct taken [] = pure [] := rfl
    simp only [List.nil_append, hnil, pure_bind, List.map_nil, List.append_nil, bind_pure]
  | cons g gs ih =>
    simp only [List.cons_append, projectGroups, ih, bind_assoc, pure_bind, List.map_append,
      List.append_assoc]

/-- A run through all groups is a run through the first ones, and one through the others behind
    it. -/
theorem groupsRun_append {rs : List GroupResult} :
    GroupsRun config namer base direct taken (vs ++ ws) rs ↔
      ∃ first rest, rs = first ++ rest ∧ GroupsRun config namer base direct taken vs first ∧
        GroupsRun config namer base direct (taken ++ first.flatMap (·.names)) ws rest := by
  induction vs generalizing taken rs with
  | nil =>
    constructor
    · intro h
      exact ⟨[], rs, rfl, .nil taken, by simpa using h⟩
    · intro ⟨first, rest, heq, hfirst, hrest⟩
      cases hfirst
      simpa [heq] using hrest
  | cons g gs ih =>
    constructor
    · intro h
      cases h with
      | @cons _ _ _ r rs hstep hrun =>
        obtain ⟨first, rest, rfl, hfirst, hrest⟩ := ih.1 hrun
        refine ⟨r :: first, rest, rfl, .cons hstep hfirst, ?_⟩
        rwa [List.flatMap_cons, ← List.append_assoc]
    · intro ⟨first, rest, heq, hfirst, hrest⟩
      cases hfirst with
      | @cons _ _ _ r first hstep hfirst =>
        rw [List.flatMap_cons, ← List.append_assoc] at hrest
        rw [heq]
        exact .cons hstep (ih.2 ⟨first, rest, rfl, hfirst, hrest⟩)

/-- What becomes of the groups does not depend on whether there is to be a metadata view. -/
theorem projectGroups_withMetadataView (wanted : Bool) :
    projectGroups (config.withMetadataView wanted) namer base direct taken vs =
      projectGroups config namer base direct taken vs := by
  induction vs generalizing taken with
  | nil => rfl
  | cons g gs ih =>
    have hgroup : projectGroup (config.withMetadataView wanted) namer base direct taken g =
        projectGroup config namer base direct taken g := rfl
    simp only [projectGroups, hgroup, ih]

end Groups

/-! ## Failures -/

section Whole
variable {Document : Type} {config : Config} {name : String} {vs ws groups : List ViewGroup}
  {namer : Namer} {table : TablePolicy Document} {b b' : Bundle Document} {e : CompileError}

/-- A compilation fails where the indices cannot be named, or else with the first group that fails,
    or else because of the metadata view. -/
theorem compile_eq_error :
    compile config name groups namer table = .error e ↔
      nameIndices namer (baseName namer name) [baseName namer name ++ "_IDX"]
          (table.columns.map (·.1)) = .error e ∨
        ∃ indices, nameIndices namer (baseName namer name) [baseName namer name ++ "_IDX"]
            (table.columns.map (·.1)) = .ok indices ∧
          (projectGroups config namer (baseName namer name) (directColumns table.columns)
              (initialNames (baseName namer name)) groups = .error e ∨
            ∃ views, projectGroups config namer (baseName namer name)
                (directColumns table.columns) (initialNames (baseName namer name)) groups =
                  .ok views ∧
              metadataViews config (baseName namer name)
                (initialNames (baseName namer name) ++ views.map (·.name))
                (views.map (·.metadata)) = .error e) := by
  rw [compile_eq_bind]
  simp only [bind_eq_error, pure_ne_error, and_false, exists_false, or_false]

/-- Groups that fail without a metadata view fail in the same way with others behind them. -/
theorem compile_append_eq_error
    (h : compile (config.withMetadataView false) name vs namer table = .error e) (wanted : Bool) :
    compile (config.withMetadataView wanted) name (vs ++ ws) namer table = .error e := by
  rcases compile_eq_error.1 h with hindices | ⟨indices, hindices, hgroups | ⟨views, _, hlisting⟩⟩
  · exact compile_eq_error.2 (.inl hindices)
  · refine compile_eq_error.2 (.inr ⟨indices, hindices, .inl ?_⟩)
    rw [projectGroups_withMetadataView] at hgroups ⊢
    rw [projectGroups_append]
    exact bind_eq_error.2 (.inl hgroups)
  · -- There is no metadata view that could fail.
    cases hlisting

/-! ## Bundles -/

/-- The statements that create a table, its indices and views. -/
def coreStatements (config : Config) (table : TablePolicy Document) (base : String)
    (indices : List (String × String)) (views : List (String × Sql.Query)) : List Statement :=
  tableStatement config table base
    :: indices.map (indexStatement base)
    ++ views.map fun (view, query) => .createView view query

/-- The bundle `b` is what the bundle `b'` begins with. -/
structure Extends (config : Config) (table : TablePolicy Document) (b b' : Bundle Document) :
    Prop where
  base_eq : b'.base = b.base
  insert_eq : b'.insert = b.insert
  truncate_eq : b'.truncate = b.truncate
  metadata : b.metadata <+: b'.metadata
  /-- All objects but the metadata view are kept, in front of those that are added. -/
  objects : b.objects =
      b.coreObjects ++ (if config.metadataView then [⟨b.base ++ "_MTA", .view⟩] else []) ∧
    b.coreObjects <+: b'.objects
  /-- So are the statements that create the table, its indices and all views but that one. -/
  creation : ∃ indices views,
    b.creation = coreStatements config table b.base indices views
      ++ (if config.metadataView then
            [.createView (b.base ++ "_MTA") (metadataQuery b.metadata)] else [])
      ++ (if config.synonym then b.objects.map (.createSynonym ·.name) else [])
      ++ config.onCreation.flatMap (fun hook => (hook b.rawTable).map .custom) ∧
    coreStatements config table b.base indices views <+: b'.creation

/-- The views in front of the metadata view. -/
def coreViews (base : String) (projections : List Projection) : List (String × Sql.Query) :=
  temporalViews base ++ projections.map fun p => (p.name, p.query)

/-- The metadata view that goes with projections, if it is wanted. -/
def listingOf (config : Config) (base : String) (projections : List Projection) :
    List (String × Sql.Query) :=
  if config.metadataView then [(base ++ "_MTA", metadataQuery (projections.map (·.metadata)))]
  else []

/-- The views of the first groups come first. -/
theorem viewsOf_append (base : String) (first rest : List Projection)
    (listing : List (String × Sql.Query)) :
    viewsOf base (first ++ rest) listing =
      coreViews base first ++ (rest.map (fun p => (p.name, p.query)) ++ listing) := by
  unfold viewsOf coreViews
  rw [List.map_append, List.append_assoc, List.append_assoc, List.append_assoc]

theorem objectsOf_append (base : String) (views listing : List (String × Sql.Query)) :
    objectsOf base (views ++ listing) =
      objectsOf base views ++ listing.map fun v => ⟨v.1, .view⟩ := by
  unfold objectsOf
  rw [List.map_append]
  rfl

theorem creationStatements_append (base : String) (indices : List (String × String))
    (views listing : List (String × Sql.Query)) :
    creationStatements config base table.columns indices (views ++ listing) =
      coreStatements config table base indices views
        ++ listing.map (fun (view, query) => .createView view query)
        ++ (if config.synonym then
              (objectsOf base (views ++ listing)).map (.createSynonym ·.name) else [])
        ++ config.onCreation.flatMap (fun hook => (hook (rawTableName base)).map .custom) := by
  unfold creationStatements
  rw [List.map_append, ← List.append_assoc]
  rfl

section Bundles
variable {base : String} {indices : List (String × String)} {first rest projections : List Projection}
  {listing : List (String × Sql.Query)}

theorem bundleOf_coreObjects :
    (bundleOf config table base indices projections listing).coreObjects =
      objectsOf base (coreViews base projections) := by
  have hviews : (projections.map (·.metadata)).map (·.view) =
      (projections.map fun p => (p.name, p.query)).map (·.1) := by
    rw [List.map_map, List.map_map]
    rfl
  unfold Bundle.coreObjects bundleOf
  rw [hviews, ← List.map_append, List.map_map]
  rfl

/-- With more projections a bundle has more to show, but all of it comes later. -/
theorem bundleOf_extends :
    Extends config table (bundleOf config table base indices first (listingOf config base first))
      (bundleOf config table base indices (first ++ rest) listing) where
  base_eq := rfl
  insert_eq := rfl
  truncate_eq := rfl
  metadata := by
    unfold bundleOf
    rw [List.map_append]
    exact List.prefix_append ..
  objects := by
    rw [bundleOf_coreObjects]
    constructor
    · refine (objectsOf_append ..).trans ?_
      unfold listingOf
      cases config.metadataView <;> rfl
    · unfold bundleOf
      rw [viewsOf_append, objectsOf_append]
      exact List.prefix_append ..
  creation := by
    refine ⟨indices, coreViews base first, ?_, ?_⟩
    · refine (creationStatements_append ..).trans ?_
      unfold listingOf
      cases config.metadataView <;> rfl
    · unfold bundleOf
      rw [viewsOf_append, creationStatements_append, List.append_assoc, List.append_assoc]
      exact List.prefix_append ..

end Bundles

/-- What a document type compiles to is kept when groups are added to it, and so is the error that
    it fails with. -/
theorem compile_append (config : Config) (name : String) (vs ws : List ViewGroup) (namer : Namer)
    (table : TablePolicy Document) :
    (∀ b', compile config name (vs ++ ws) namer table = .ok b' →
      ∃ b, compile config name vs namer table = .ok b ∧ Extends config table b b') ∧
    ∀ e, compile (config.withMetadataView false) name vs namer table = .error e →
      ∀ wanted,
        compile (config.withMetadataView wanted) name (vs ++ ws) namer table = .error e := by
  constructor
  · intro b' h
    obtain ⟨indices, rs, listing, hindices, hrun, hlisting, rfl⟩ := compile_eq_ok.1 h
    obtain ⟨first, rest, rfl, hfirst, _⟩ := groupsRun_append.1 hrun
    obtain ⟨hmta, _⟩ := metadataViews_eq_ok.1 hlisting
    -- The name of the metadata view is not taken by fewer groups, either.
    have hfirstMta : config.metadataView → baseName namer name ++ "_MTA" ∉
        initialNames (baseName namer name) ++ first.flatMap (·.names) := by
      intro hwanted hmem
      apply hmta hwanted
      rw [List.flatMap_append, ← List.append_assoc]
      exact List.mem_append_left _ hmem
    refine ⟨_, compile_eq_ok.2 ⟨indices, first, _, hindices, hfirst,
      metadataViews_eq_ok.2 ⟨hfirstMta, rfl⟩, rfl⟩, ?_⟩
    rw [List.flatMap_append]
    exact bundleOf_extends ..
  · intro e h wanted
    exact compile_append_eq_error h wanted

end Whole

/-- Notes are added behind lines, whose view keeps its name and its statements. Behind a group that
    maps a path twice they make no difference. -/
theorem notes_behind_lines :
    (∃ b b', compile Config.json "doc" [⟨[[⟨"lines", none⟩]], [⟨[⟨"price", none⟩], .decimal⟩]⟩]
        (fun segments _ => String.intercalate "_" segments) (staticColumns [("TENANT", "TEXT")]) =
          .ok b ∧
      compile Config.json "doc" ([⟨[[⟨"lines", none⟩]], [⟨[⟨"price", none⟩], .decimal⟩]⟩] ++
        [⟨[[⟨"notes", none⟩]], [⟨[⟨"text", none⟩], .string⟩]⟩])
        (fun segments _ => String.intercalate "_" segments) (staticColumns [("TENANT", "TEXT")]) =
          .ok b' ∧
      Extends Config.json (staticColumns [("TENANT", "TEXT")]) b b') ∧
    compile (Config.json.withMetadataView true) "doc"
        ([⟨[], [⟨[⟨"price", none⟩], .decimal⟩, ⟨[⟨"price", none⟩], .string⟩]⟩] ++
          [⟨[[⟨"notes", none⟩]], []⟩])
        (fun segments _ => String.intercalate "_" segments) (staticColumns []) =
      .error (.repeatedProperty [⟨"price", none⟩] "doc") := by
  constructor
  · have h : compile Config.json "doc" ([⟨[[⟨"lines", none⟩]], [⟨[⟨"price", none⟩], .decimal⟩]⟩] ++
        [⟨[[⟨"notes", none⟩]], [⟨[⟨"text", none⟩], .string⟩]⟩])
        (fun segments _ => String.intercalate "_" segments) (staticColumns [("TENANT", "TEXT")]) =
          .ok _ := rfl
    obtain ⟨b, hb, hextends⟩ := (compile_append ..).1 _ h
    exact ⟨b, _, hb, h, hextends⟩
  · exact (compile_append ..).2 _ rfl true

end DocViews
