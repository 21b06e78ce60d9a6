import DocViews.Proofs.Compile.Extension

/-!
# Optional settings

Types, synonyms, hooks and error codes have no part in what a document type consists of. Whatever
they are, it compiles or fails in the same way, to the same objects with the same metadata. A
metadata view is one more object behind all others; the only thing that can go wrong with it is that
its name is taken.
-/

namespace DocViews

/-! ## Groups -/

section Groups
variable {config config' : Config} (hdialect : config.dialect = config'.dialect)
  (hnamespaces : config.namespaces = config'.namespaces)
include hdialect hnamespaces

/-- What a view is called and what goes into its columns is up to the dialect and the namespaces. -/
theorem project_agree (v : ViewPlan) :
    Agree (fun p q => p.metadata = q.metadata) (project config v) (project config' v) := by
  unfold project
  rw [hdialect, hnamespaces]
  cases config'.dialect with
  | xml =>
    apply (Agree.refl (resolvePrefixes config'.namespaces v.uris)).bind
    rintro prefixes _ rfl
    exact .ok rfl
  | json => exact .ok rfl

variable {namer : Namer} {base : String} {direct taken : List String}

theorem projectGroup_agree (g : ViewGroup) :
    Agree (fun ps qs => ps.map (·.metadata) = qs.map (·.metadata))
      (projectGroup config namer base direct taken g)
      (projectGroup config' namer base direct taken g) := by
  simp only [projectGroup, hdialect]
  split
  · exact .error _
  · apply (Agree.refl (nameColumns namer _ direct [] g.properties)).bind
    rintro columns _ rfl
    exact .mapM (project_agree hdialect hnamespaces) _

omit hdialect hnamespaces in
/-- Views of the same metadata have the same names. -/
theorem projections_names {ps qs : List Projection}
    (h : ps.map (·.metadata) = qs.map (·.metadata)) : ps.map (·.name) = qs.map (·.name) := by
  have hviews := congrArg (List.map (·.view)) h
  simpa [Projection.metadata, Function.comp_def] using hviews

theorem projectGroups_agree (groups : List ViewGroup) :
    Agree (fun ps qs => ps.map (·.metadata) = qs.map (·.metadata))
      (projectGroups config namer base direct taken groups)
      (projectGroups config' namer base direct taken groups) := by
  induction groups generalizing taken with
  | nil => exact .ok rfl
  | cons g gs ih =>
    apply (projectGroup_agree hdialect hnamespaces g).bind
    intro ps qs hpq
    -- The same names are taken for the groups that are left.
    rw [projections_names hpq]
    apply ih.bind
    intro ps' qs' hpq'
    apply Agree.ok
    rw [List.map_append, List.map_append, hpq, hpq']

end Groups

/-! ## Bundles -/

/-- Two bundles differ at most in the statements that create and drop their objects. -/
structure SameSchema {Document : Type} (b b' : Bundle Document) : Prop extends
    SameObjects b b' where
  metadata_eq : b.metadata = b'.metadata

/-- The bundle `b'` is the bundle `b` with a metadata view behind its objects. -/
structure AddsMetadataView {Document : Type} (b b' : Bundle Document) : Prop where
  base_eq : b'.base = b.base
  objects_eq : b'.objects = b.objects ++ [⟨b.base ++ "_MTA", .view⟩]
  metadata_eq : b'.metadata = b.metadata
  grants_eq : b'.grantTemplates = b.grantTemplates ++ [grantTemplate (b.base ++ "_MTA")]
  insert_eq : b'.insert = b.insert
  truncate_eq : b'.truncate = b.truncate

/-- Nothing can be wrong with the metadata view but that its name is taken. -/
theorem metadataViews_eq_error {config : Config} {base : String} {taken : List String}
    {metadata : List ViewMetadata} {e : CompileError} (hlisting : config.metadataView = true) :
    metadataViews config base taken metadata = .error e ↔
      e = .nameCollision .view (base ++ "_MTA") base ∧ base ++ "_MTA" ∈ taken := by
  simp only [metadataViews, hlisting, if_true, List.contains_iff_mem]
  split
  case isTrue htaken => simp [htaken, eq_comm]
  case isFalse hfree => simp [hfree]

/-- A compilation that succeeds names its indices, goes through its groups and finds the name of the
    metadata view free, if there is to be one. -/
theorem compile_eq_ok_listing {Document : Type} {config : Config} {name : String}
    {groups : List ViewGroup} {namer : Namer} {table : TablePolicy Document} {b : Bundle Document} :
    compile config name groups namer table = .ok b ↔
      ∃ indices views,
        nameIndices namer (baseName namer name) [baseName namer name ++ "_IDX"]
          (table.columns.map (·.1)) = .ok indices ∧
        projectGroups config namer (baseName namer name) (directColumns table.columns)
          (initialNames (baseName namer name)) groups = .ok views ∧
        (config.metadataView → baseName namer name ++ "_MTA" ∉
          initialNames (baseName namer name) ++ views.map (·.name)) ∧
        b = bundleOf config table (baseName namer name) indices views
          (listingOf config (baseName namer name) views) := by
  rw [compile_eq_bind]
  simp only [bind_eq_ok, pure_eq_ok, metadataViews_eq_ok]
  constructor
  · rintro ⟨indices, hindices, views, hviews, _, ⟨hfree, rfl⟩, rfl⟩
    exact ⟨indices, views, hindices, hviews, hfree, rfl⟩
  · rintro ⟨indices, views, hindices, hviews, hfree, rfl⟩
    exact ⟨indices, hindices, views, hviews, _, ⟨hfree, rfl⟩, rfl⟩

section Bundles
variable {Document : Type} {config config' : Config}
  (hdialect : config.dialect = config'.dialect)
  (hnamespaces : config.namespaces = config'.namespaces) {name : String}
  {groups : List ViewGroup} {namer : Namer} {table : TablePolicy Document}
include hdialect hnamespaces

/-- Settings that say nothing about metadata views make no difference to what is compiled. -/
theorem compile_agree (hlisting : config.metadataView = config'.metadataView) :
    Agree SameSchema (compile config name groups namer table)
      (compile config' name groups namer table) := by
  have hsame : Agree (fun b b' : Bundle Document => b.base = b'.base ∧ b.metadata = b'.metadata)
      (compile config name groups namer table) (compile config' name groups namer table) := by
    rw [compile_eq_bind, compile_eq_bind]
    apply (Agree.refl (nameIndices namer ..)).bind
    rintro indices _ rfl
    apply (projectGroups_agree hdialect hnamespaces groups).bind
    intro ps qs hpq
    have hnames : ps.map (·.name) = qs.map (·.name) := projections_names hpq
    have hviews : ∀ taken, metadataViews config (baseName namer name) taken (ps.map (·.metadata)) =
        metadataViews config' (baseName namer name) taken (qs.map (·.metadata)) := by
      intro taken
      rw [metadataViews, metadataViews, hlisting, hpq]
    rw [hnames, hviews]
    apply (Agree.refl (metadataViews config' ..)).bind
    rintro listing _ rfl
    exact .ok ⟨rfl, hpq⟩
  apply hsame.mono
  rintro b b' hb hb' ⟨hbase, hmetadata⟩
  have hviews : b.metadata.map (·.view) = b'.metadata.map (·.view) := by rw [hmetadata]
  exact ⟨(compile_derived hb).sameObjects (compile_derived hb') hdialect hlisting hbase hviews,
    hmetadata⟩

/-! ## With and without a metadata view -/

variable (hwithout : config.metadataView = false) (hwith : config'.metadataView = true)
include hwithout hwith

omit hnamespaces in
theorem Derived.addsMetadataView {b b' : Bundle Document} (h : Derived config table b)
    (h' : Derived config' table b') (hbase : b'.base = b.base)
    (hmetadata : b'.metadata = b.metadata) : AddsMetadataView b b' := by
  have hraw : b'.rawTable = b.rawTable := congrArg rawTableName hbase
  have hobjects : b'.objects = b.objects ++ [⟨b.base ++ "_MTA", .view⟩] := by
    have hcore : b'.coreObjects = b.coreObjects :=
      Bundle.coreObjects_congr hbase (by rw [hmetadata])
    rw [h.objects_eq, h'.objects_eq, hwithout, hwith, hcore, hbase]
    simp
  constructor
  case base_eq => exact hbase
  case objects_eq => exact hobjects
  case metadata_eq => exact hmetadata
  case grants_eq =>
    rw [h.grants_eq, h'.grants_eq, hobjects, List.map_append]
    rfl
  case insert_eq => rw [h.insert_eq, h'.insert_eq, hraw, hdialect]
  case truncate_eq => rw [h.truncate_eq, h'.truncate_eq, hraw]

/-- What compiles with a metadata view compiles without it, too. -/
theorem compile_without {b' : Bundle Document}
    (hb' : compile config' name groups namer table = .ok b') :
    ∃ b, compile config name groups namer table = .ok b ∧ AddsMetadataView b b' := by
  obtain ⟨indices, qs, hindices, hqs, _, rfl⟩ := compile_eq_ok_listing.1 hb'
  obtain ⟨ps, hps, hpq⟩ := (projectGroups_agree hdialect hnamespaces groups).exists_ok_left hqs
  have hb := compile_eq_ok_listing.2 ⟨indices, ps, hindices, hps, by simp [hwithout], rfl⟩
  refine ⟨_, hb, ?_⟩
  exact (compile_derived hb).addsMetadataView hdialect hwithout hwith (compile_derived hb') rfl
    hpq.symm

/-- What compiles without a metadata view fails with it just in case an object has its name. -/
theorem compile_with_eq_error {b : Bundle Document} {e : CompileError}
    (hb : compile config name groups namer table = .ok b) :
    compile config' name groups namer table = .error e ↔
      e = .nameCollision .view (b.base ++ "_MTA") b.base ∧
        ∃ o ∈ b.objects, o.name = b.base ++ "_MTA" := by
  have hobjects := (compile_derived hb).objects_eq
  rw [hwithout, if_neg Bool.false_ne_true, List.append_nil] at hobjects
  obtain ⟨indices, ps, hindices, hps, _, rfl⟩ := compile_eq_ok_listing.1 hb
  obtain ⟨qs, hqs, hpq⟩ := (projectGroups_agree hdialect hnamespaces groups).exists_ok_right hps
  have htaken : ∀ n, n ∈ initialNames (baseName namer name) ++ qs.map (·.name) ↔
      ∃ o ∈ (bundleOf config table (baseName namer name) indices ps
        (listingOf config (baseName namer name) ps)).objects, o.name = n := by
    intro n
    rw [hobjects, ← List.mem_map, Bundle.coreObjects_names, ← projections_names hpq]
    simp [bundleOf, Projection.metadata, Function.comp_def]
  rw [compile_eq_error, hindices, hqs]
  simp only [reduceCtorEq, false_or, Except.ok.injEq, exists_eq_left', metadataViews_eq_error hwith,
    htaken]
  rfl

omit hwithout hwith in
/-- Of configurations that agree in dialect and namespaces, those that agree in the metadata view
    as well compile everything to the same schema or fail in the same way. Where only one of them
    wants a metadata view, this view is added behind the objects of the other, and the compilation
    fails just in case one of those objects has its name. -/
theorem compile_settings (name : String) (groups : List ViewGroup) (namer : Namer)
    (table : TablePolicy Document) :
    (config.metadataView = config'.metadataView →
      Agree SameSchema (compile config name groups namer table)
        (compile config' name groups namer table)) ∧
    (config.metadataView = false → config'.metadataView = true →
      (∀ b', compile config' name groups namer table = .ok b' →
        ∃ b, compile config name groups namer table = .ok b ∧ AddsMetadataView b b') ∧
      ∀ b, compile config name groups namer table = .ok b → ∀ e,
        (compile config' name groups namer table = .error e ↔
          e = .nameCollision .view (b.base ++ "_MTA") b.base ∧
            ∃ o ∈ b.objects, o.name = b.base ++ "_MTA")) := by
  constructor
  · intro hlisting
    exact compile_agree hdialect hnamespaces hlisting
  · intro hwithout hwith
    constructor
    · intro b' hb'
      exact compile_without hdialect hnamespaces hwithout hwith hb'
    · intro b hb e
      exact compile_with_eq_error hdialect hnamespaces hwithout hwith hb

end Bundles

/-- JSON documents with every optional setting but a metadata view. -/
def settledConfig : Config :=
  (((Config.json.withMetadataView false).withTypes (postgresTypes false)).withSynonym true)
    |>.withOnCreation fun raw => ["ANALYZE " ++ raw]

/-- A group that is called like the metadata view if the words of a name are just joined. -/
def mtaGroup : ViewGroup := ⟨[[⟨"MTA", none⟩]], [⟨[⟨"price", none⟩], .string⟩]⟩

/-- Its documents compile to the same objects whatever the settings, and with a metadata view they
    do not compile at all. Under another name they do, and the view is added. -/
theorem mtaGroup_settled :
    (∃ b b', compile (Config.json.withMetadataView false) "doc" [mtaGroup]
        (fun segments _ => String.intercalate "_" segments) (staticColumns []) = .ok b ∧
      compile settledConfig "doc" [mtaGroup]
        (fun segments _ => String.intercalate "_" segments) (staticColumns []) = .ok b' ∧
      SameSchema b b') ∧
    compile Config.json "doc" [mtaGroup] (fun segments _ => String.intercalate "_" segments)
        (staticColumns []) = .error (.nameCollision .view "doc_MTA" "doc") ∧
    ∃ b b', compile settledConfig "doc" [mtaGroup]
        (fun segments _ => String.intercalate "-" segments) (staticColumns []) = .ok b ∧
      compile Config.json "doc" [mtaGroup] (fun segments _ => String.intercalate "-" segments)
        (staticColumns []) = .ok b' ∧
      AddsMetadataView b b' := by
  have hdialect : settledConfig.dialect = Config.json.dialect := rfl
  have hnamespaces : settledConfig.namespaces = Config.json.namespaces := rfl
  refine ⟨?_, ?_, ?_⟩
  · have hwithout : (Config.json.withMetadataView false).dialect = settledConfig.dialect := rfl
    have hb : compile (Config.json.withMetadataView false) "doc" [mtaGroup]
        (fun segments _ => String.intercalate "_" segments) (staticColumns []) = .ok _ := rfl
    have hagree := (compile_settings hwithout rfl "doc" [mtaGroup]
      (fun segments _ => String.intercalate "_" segments) (staticColumns [])).1 rfl
    obtain ⟨b', hb', hsame⟩ := hagree.exists_ok_right hb
    exact ⟨_, b', hb, hb', hsame⟩
  · have hb : compile settledConfig "doc" [mtaGroup]
        (fun segments _ => String.intercalate "_" segments) (staticColumns []) = .ok _ := rfl
    refine (((compile_settings hdialect hnamespaces ..).2 rfl rfl).2 _ hb _).2 ⟨rfl, ?_⟩
    decide
  · have hb' : compile Config.json "doc" [mtaGroup]
        (fun segments _ => String.intercalate "-" segments) (staticColumns []) = .ok _ := rfl
    obtain ⟨b, hb, hadds⟩ := ((compile_settings hdialect hnamespaces ..).2 rfl rfl).1 _ hb'
    exact ⟨b, _, hb, hb', hadds⟩

end DocViews
