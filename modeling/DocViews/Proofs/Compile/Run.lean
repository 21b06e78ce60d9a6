import DocViews.Proofs.View.Partition
import DocViews.Proofs.View.Projection

/-!
# Runs of the compiler

A compilation that succeeds goes through the groups one after another. One step gives a group its
name, its columns and its views; the names of the views are registered before the next group. What
a step guarantees is stated once here, and every property of a bundle is read off its run.
-/

namespace DocViews

/-- What became of a group: the name and the columns that it was given, and its views as they were
    planned and as they were written. -/
structure GroupResult where
  view : String
  columns : List ColumnProperty
  plans : List ViewPlan
  views : List Projection

/-- The names that a group registers. -/
def GroupResult.names (r : GroupResult) : List String := r.views.map (·.name)

/-- The name that the names of all objects of a document type begin with. -/
def baseName (namer : Namer) (name : String) : String := namer [name] fun _ => false

/-- The names that are registered before the first group. -/
def initialNames (base : String) : List String :=
  rawTableName base :: (temporalViews base).map (·.1)

/-- `r` becomes of the group `g` when the names `taken` are registered before it. -/
structure GroupStep (config : Config) (namer : Namer) (base : String) (direct taken : List String)
    (g : ViewGroup) (r : GroupResult) : Prop where
  view_eq : r.view = namer (viewSegments config.dialect base g) taken.contains
  view_new : r.view ∉ taken
  columns_ok : nameColumns namer r.view direct [] g.properties = .ok r.columns
  plans_eq : r.plans = planViews (rawTableName base) direct taken r.view g.roots r.columns
  views_ok : r.plans.mapM (project config) = .ok r.views

/-- Groups are compiled one after another; each registers its names before the next. -/
inductive GroupsRun (config : Config) (namer : Namer) (base : String) (direct : List String) :
    List String → List ViewGroup → List GroupResult → Prop
  | nil (taken : List String) : GroupsRun config namer base direct taken [] []
  | cons {taken : List String} {g : ViewGroup} {gs : List ViewGroup} {r : GroupResult}
      {rs : List GroupResult} : GroupStep config namer base direct taken g r →
      GroupsRun config namer base direct (taken ++ r.names) gs rs →
      GroupsRun config namer base direct taken (g :: gs) (r :: rs)

section Groups
variable {config : Config} {namer : Namer} {base : String} {direct taken : List String}
  {g : ViewGroup} {gs : List ViewGroup} {r : GroupResult} {rs : List GroupResult}
  {ps : List Projection}

/-! ## One group -/

/-- A group is compiled successfully just in case there is a step for it. -/
theorem projectGroup_eq_ok :
    projectGroup config namer base direct taken g = .ok ps ↔
      ∃ r, GroupStep config namer base direct taken g r ∧ r.views = ps := by
  simp only [projectGroup]
  constructor
  · intro h
    split at h
    · obtain ⟨_, hthrow, _⟩ := bind_eq_ok.1 h
      cases hthrow
    · rename_i hview
      obtain ⟨columns, hcolumns, hviews⟩ := bind_eq_ok.1 h
      exact ⟨⟨_, columns, _, ps⟩, ⟨rfl, by simpa using hview, hcolumns, rfl, hviews⟩, rfl⟩
  · rintro ⟨r, ⟨hview, hnew, hcolumns, hplans, hviews⟩, rfl⟩
    rw [← hview, if_neg (by simpa using hnew)]
    exact bind_eq_ok.2 ⟨r.columns, hcolumns, hplans ▸ hviews⟩

namespace GroupStep

variable (h : GroupStep config namer base direct taken g r)
include h

theorem assigned : Assigned direct [] g.properties r.columns := nameColumns_assigned h.columns_ok

theorem names_eq : r.names = r.plans.map (·.name) :=
  map_eq_of_mapM_eq_ok h.views_ok fun _ _ hp => (project_writes hp).name_eq

/-- A step registers fresh names. -/
theorem names_fresh : Fresh taken r.names := by
  rw [h.names_eq, h.plans_eq]
  exact planViews_names_fresh h.view_new

theorem written : List.Forall₂ (Writes config) r.plans r.views :=
  (mapM_eq_ok.1 h.views_ok).imp fun _ _ => project_writes

end GroupStep

/-! ## All groups -/

/-- All groups are compiled successfully just in case there is a run through them. -/
theorem projectGroups_eq_ok :
    projectGroups config namer base direct taken gs = .ok ps ↔
      ∃ rs, GroupsRun config namer base direct taken gs rs ∧ rs.flatMap (·.views) = ps := by
  induction gs generalizing taken ps with
  | nil =>
    constructor
    · intro h
      cases h
      exact ⟨[], .nil taken, rfl⟩
    · rintro ⟨rs, h, rfl⟩
      cases h
      rfl
  | cons g gs ih =>
    constructor
    · intro h
      obtain ⟨views, hviews, h⟩ := bind_eq_ok.1 h
      obtain ⟨rest, hrest, h⟩ := bind_eq_ok.1 h
      obtain ⟨r, hstep, rfl⟩ := projectGroup_eq_ok.1 hviews
      obtain ⟨rs, hrun, rfl⟩ := ih.1 hrest
      exact ⟨r :: rs, .cons hstep hrun, pure_eq_ok.1 h⟩
    · rintro ⟨rs, h, rfl⟩
      cases h with
      | @cons _ _ _ r rs hstep hrun =>
        refine bind_eq_ok.2 ⟨r.views, projectGroup_eq_ok.2 ⟨r, hstep, rfl⟩, ?_⟩
        exact bind_eq_ok.2 ⟨_, ih.2 ⟨rs, hrun, rfl⟩, rfl⟩

namespace GroupsRun

theorem length_eq (h : GroupsRun config namer base direct taken gs rs) : rs.length = gs.length := by
  induction h with
  | nil => rfl
  | cons _ _ ih => rw [List.length_cons, List.length_cons, ih]

/-- At each group, the run takes a step from the names registered at the start and those of the
    groups before. -/
theorem step (h : GroupsRun config namer base direct taken gs rs) {i : Nat}
    (hg : gs[i]? = some g) (hr : rs[i]? = some r) :
    GroupStep config namer base direct (taken ++ (rs.take i).flatMap (·.names)) g r := by
  induction h generalizing i with
  | nil => simp at hg
  | cons hstep _ ih =>
    cases i with
    | zero =>
      -- The first group is where the run starts, so nothing has been added yet.
      cases hg
      cases hr
      simpa using hstep
    | succ i =>
      rw [List.take_succ_cons, List.flatMap_cons, ← List.append_assoc]
      exact ih hg hr

/-- Whatever is registered along a run is new and registered once. -/
theorem names_nodup (h : GroupsRun config namer base direct taken gs rs) (htaken : taken.Nodup) :
    (taken ++ rs.flatMap (·.names)).Nodup := by
  -- By induction on the run: what a step registers is taken for the rest of the run.
  induction h with
  | nil => simpa using htaken
  | cons hstep _ ih =>
    rw [List.flatMap_cons, ← List.append_assoc]
    exact ih (hstep.names_fresh.nodup_append htaken)

/-- Along a run, every view is written from its plan. -/
theorem written (h : GroupsRun config namer base direct taken gs rs) :
    ∀ r ∈ rs, List.Forall₂ (Writes config) r.plans r.views := by
  induction h with
  | nil => simp
  | cons hstep _ ih => exact List.forall_mem_cons.2 ⟨hstep.written, ih⟩

end GroupsRun

end Groups

/-! ## The whole document type -/

/-- The views of a document type with the given projections and metadata views. -/
def viewsOf (base : String) (projections : List Projection) (listing : List (String × Sql.Query)) :
    List (String × Sql.Query) :=
  temporalViews base ++ projections.map (fun p => (p.name, p.query)) ++ listing

/-- The bundle of a document type with the given indices, projections and metadata views. -/
def bundleOf {Document : Type} (config : Config) (table : TablePolicy Document) (base : String)
    (indices : List (String × String)) (projections : List Projection)
    (listing : List (String × Sql.Query)) : Bundle Document where
  base := base
  creation :=
    creationStatements config base table.columns indices (viewsOf base projections listing)
  drops := dropStatements config base (objectsOf base (viewsOf base projections listing))
  grantTemplates :=
    (objectsOf base (viewsOf base projections listing)).map fun o => grantTemplate o.name
  insert := .insert (rawTableName base) (directColumns table.columns)
    (placeholders config.dialect table.columns)
  truncate := .truncate (rawTableName base)
  objects := objectsOf base (viewsOf base projections listing)
  metadata := projections.map (·.metadata)
  table := table

theorem flatMap_views_name (rs : List GroupResult) :
    (rs.flatMap (·.views)).map (·.name) = rs.flatMap (·.names) := by
  rw [List.map_flatMap]
  rfl

section Whole
variable {Document : Type} {config : Config} {name : String} {groups : List ViewGroup}
  {namer : Namer} {table : TablePolicy Document} {b : Bundle Document}

/-- The metadata view is left out, or its name must not be registered. -/
theorem metadataViews_eq_ok {base : String} {taken : List String} {metadata : List ViewMetadata}
    {listing : List (String × Sql.Query)} :
    metadataViews config base taken metadata = .ok listing ↔
      (config.metadataView → base ++ "_MTA" ∉ taken) ∧
        listing = if config.metadataView then [(base ++ "_MTA", metadataQuery metadata)] else [] := by
  unfold metadataViews
  cases config.metadataView with
  | false => simp [eq_comm]
  | true =>
    simp only [if_true, guard_eq_ok, List.contains_iff_mem, Except.ok.injEq]
    exact and_congr (by simp) eq_comm

/-- A bundle is put together from what three steps yield: the indices, the views of the groups, and
    the metadata view. -/
theorem compile_eq_bind :
    compile config name groups namer table = do
      let indices ← nameIndices namer (baseName namer name) [baseName namer name ++ "_IDX"]
        (table.columns.map (·.1))
      let views ← projectGroups config namer (baseName namer name) (directColumns table.columns)
        (initialNames (baseName namer name)) groups
      let listing ← metadataViews config (baseName namer name)
        (initialNames (baseName namer name) ++ views.map (·.name)) (views.map (·.metadata))
      return bundleOf config table (baseName namer name) indices views listing := rfl

/-- A compilation succeeds just in case the indices can be named, there is a run through the
    groups, and the metadata view is left out or its name is not registered. -/
theorem compile_eq_ok :
    compile config name groups namer table = .ok b ↔
      ∃ indices rs listing,
        nameIndices namer (baseName namer name) [baseName namer name ++ "_IDX"]
          (table.columns.map (·.1)) = .ok indices ∧
        GroupsRun config namer (baseName namer name) (directColumns table.columns)
          (initialNames (baseName namer name)) groups rs ∧
        metadataViews config (baseName namer name)
          (initialNames (baseName namer name) ++ rs.flatMap (·.names))
          ((rs.flatMap (·.views)).map (·.metadata)) = .ok listing ∧
        b = bundleOf config table (baseName namer name) indices (rs.flatMap (·.views)) listing := by
  rw [compile_eq_bind]
  constructor
  · intro h
    obtain ⟨indices, hindices, h⟩ := bind_eq_ok.1 h
    obtain ⟨projections, hprojections, h⟩ := bind_eq_ok.1 h
    obtain ⟨listing, hlisting, h⟩ := bind_eq_ok.1 h
    obtain ⟨rs, hrun, rfl⟩ := projectGroups_eq_ok.1 hprojections
    rw [flatMap_views_name] at hlisting
    exact ⟨indices, rs, listing, hindices, hrun, hlisting, (pure_eq_ok.1 h).symm⟩
  · rintro ⟨indices, rs, listing, hindices, hrun, hlisting, rfl⟩
    refine bind_eq_ok.2 ⟨indices, hindices, ?_⟩
    refine bind_eq_ok.2 ⟨_, projectGroups_eq_ok.2 ⟨rs, hrun, rfl⟩, ?_⟩
    refine bind_eq_ok.2 ⟨listing, ?_, rfl⟩
    rw [flatMap_views_name]
    exact hlisting

end Whole

/-! ## What a bundle shows of a run -/

/-- The view that a statement creates, with its query. -/
def Sql.Statement.view? : Sql.Statement → Option (String × Sql.Query)
  | .createView name query => some (name, query)
  | _ => none

section Amount
variable {φ : Sql.Statement → List α}

/-- Statements of hooks amount to nothing if statements given as text do. -/
theorem hookStatements_flatMap (hcustom : ∀ text, φ (.custom text) = []) (hooks : List Hook)
    (raw : String) :
    (hooks.flatMap fun hook => (hook raw).map Sql.Statement.custom).flatMap φ = [] := by
  rw [List.flatMap_assoc]
  refine List.flatMap_eq_nil_iff.2 fun hook _ => ?_
  rw [List.flatMap_map]
  exact List.flatMap_eq_nil_iff.2 fun text _ => hcustom text

theorem synonymStatements_flatMap {f : β → Sql.Statement} (hsynonym : ∀ b, φ (f b) = [])
    (wanted : Bool) (l : List β) : (if wanted then l.map f else []).flatMap φ = [] := by
  cases wanted with
  | false => rfl
  | true =>
    rw [if_pos rfl, List.flatMap_map]
    exact List.flatMap_eq_nil_iff.2 fun b _ => hsynonym b

/-- What statements amount to that neither synonyms nor hooks have a part in comes from the table,
    its indices and the views. -/
theorem creationStatements_flatMap (hsynonym : ∀ object, φ (.createSynonym object) = [])
    (hcustom : ∀ text, φ (.custom text) = []) (config : Config) (base : String)
    (additional indices : List (String × String)) (views : List (String × Sql.Query)) :
    (creationStatements config base additional indices views).flatMap φ =
      φ (.createTable (rawTableName base) config.dialect.payloadType additional (base ++ "_PK"))
        ++ indices.flatMap (fun index => φ (indexStatement base index))
        ++ views.flatMap fun (name, query) => φ (.createView name query) := by
  unfold creationStatements
  rw [List.flatMap_append, List.flatMap_append, List.flatMap_append, List.flatMap_append,
    hookStatements_flatMap hcustom, synonymStatements_flatMap fun _ => hsynonym _,
    List.flatMap_map, List.flatMap_map, List.flatMap_singleton, List.append_nil, List.append_nil]

/-- And what those amount to that drop comes from the objects. -/
theorem dropStatements_flatMap (hsynonym : ∀ object, φ (.dropSynonym object) = [])
    (hcustom : ∀ text, φ (.custom text) = []) (config : Config) (base : String)
    (objects : List Sql.DbObject) :
    (dropStatements config base objects).flatMap φ = objects.flatMap fun o => φ (.drop o) := by
  unfold dropStatements
  rw [List.flatMap_append, List.flatMap_append, hookStatements_flatMap hcustom,
    synonymStatements_flatMap fun _ => hsynonym _, List.flatMap_map, List.append_nil,
    List.append_nil]

end Amount

/-- Creation creates the views that it is given, and no others. -/
theorem creationStatements_views (config : Config) (base : String)
    (additional indices : List (String × String)) (views : List (String × Sql.Query)) :
    (creationStatements config base additional indices views).filterMap (·.view?) = views := by
  rw [List.filterMap_eq_flatMap_toList,
    creationStatements_flatMap (fun _ => rfl) fun _ => rfl]
  have hindices : (indices.flatMap fun index => (indexStatement base index).view?.toList) = [] :=
    List.flatMap_eq_nil_iff.2 fun _ _ => rfl
  rw [hindices]
  exact List.flatMap_singleton' views

/-- A bundle shows the groups as they became: its projection views and its metadata are those of
    the groups, one group after another and view by view. -/
structure Shows {Document : Type} (config : Config) (b : Bundle Document)
    (groups : List ViewGroup) (rs : List GroupResult) : Prop where
  length_eq : rs.length = groups.length
  metadata_eq : b.metadata = (rs.flatMap (·.views)).map (·.metadata)
  views_eq : b.creation.filterMap (·.view?) =
    temporalViews b.base ++ (rs.flatMap (·.views)).map (fun p => (p.name, p.query))
      ++ if config.metadataView then [(b.base ++ "_MTA", metadataQuery b.metadata)] else []

section Shown
variable {Document : Type} {config : Config} {name : String} {groups : List ViewGroup}
  {namer : Namer} {table : TablePolicy Document} {b : Bundle Document}

/-- Every successful compilation is a run that its bundle shows. -/
theorem compile_run (h : compile config name groups namer table = .ok b) :
    ∃ rs, Shows config b groups rs ∧
      GroupsRun config namer b.base (directColumns table.columns) (initialNames b.base) groups rs := by
  obtain ⟨indices, rs, listing, _, hrun, hlisting, rfl⟩ := compile_eq_ok.1 h
  obtain ⟨_, rfl⟩ := metadataViews_eq_ok.1 hlisting
  exact ⟨rs, ⟨hrun.length_eq, rfl, creationStatements_views ..⟩, hrun⟩

/-- A view that is found at a place of a bundle is one of its views. -/
theorem exists_view {x : Except CompileError (Bundle Document)} {i : Nat}
    {view : String × Sql.Query}
    (h : (x.toOption.bind fun b => (b.creation.filterMap (·.view?))[i]?) = some view) :
    ∃ b, x = .ok b ∧ view ∈ b.creation.filterMap (·.view?) := by
  obtain ⟨b, hb, hview⟩ := Option.bind_eq_some_iff.1 h
  exact ⟨b, toOption_eq_some.1 hb, List.mem_of_getElem? hview⟩

/-- `P` holds of every view that the bundle `b` shows and of the plan that it is written from. The
    plans of a group have its roots, and share out its properties. -/
def EachView (config : Config) (b : Bundle Document) (groups : List ViewGroup)
    (P : ViewPlan → Projection → Prop) : Prop :=
  ∃ rs, Shows config b groups rs ∧
    ∀ (i : Nat) (g : ViewGroup) (r : GroupResult), groups[i]? = some g → rs[i]? = some r →
    (r.plans.flatMap fun v => v.properties.map (·.property)).Perm g.properties ∧
    List.Forall₂ (fun v p => v.roots = g.roots ∧ P v p) r.plans r.views

theorem EachView.imp {P Q : ViewPlan → Projection → Prop} (h : EachView config b groups P)
    (hPQ : ∀ v p, P v p → Q v p) : EachView config b groups Q := by
  obtain ⟨rs, hshows, hgroups⟩ := h
  refine ⟨rs, hshows, fun i g r hg hr => ?_⟩
  obtain ⟨hproperties, hviews⟩ := hgroups i g r hg hr
  exact ⟨hproperties, hviews.imp fun v p => And.imp_right (hPQ v p)⟩

/-- What each step makes sure of its views holds of every view of the bundle. -/
theorem compile_eachView_of_step {P : ViewPlan → Projection → Prop}
    (h : compile config name groups namer table = .ok b)
    (hstep : ∀ {taken g r}, GroupStep config namer b.base (directColumns table.columns) taken g r →
      ∀ v ∈ r.plans, ∀ p, project config v = .ok p → P v p) : EachView config b groups P := by
  obtain ⟨rs, hshows, hrun⟩ := compile_run h
  refine ⟨rs, hshows, fun i g r hg hr => ?_⟩
  have hgroup := hrun.step hg hr
  constructor
  · rw [← List.map_flatMap, ← hgroup.assigned.properties, hgroup.plans_eq]
    exact planViews_properties_perm.map _
  · have hroots : ∀ v ∈ r.plans, v.roots = g.roots := by
      intro v hv
      rw [hgroup.plans_eq] at hv
      exact (of_mem_planViews hv).2.2
    have hviews := mapM_eq_ok.1 hgroup.views_ok
    refine List.forall₂_iff_zip.2 ⟨hviews.length_eq, fun {v p} hmem => ?_⟩
    have hv := (List.of_mem_zip hmem).1
    exact ⟨hroots v hv, hstep hgroup v hv p (List.forall₂_iff_zip.1 hviews |>.2 hmem)⟩

/-- What holds of every plan that is written holds of every view of the bundle. -/
theorem compile_eachView {P : ViewPlan → Projection → Prop}
    (hwritten : ∀ v p, project config v = .ok p → P v p)
    (h : compile config name groups namer table = .ok b) : EachView config b groups P :=
  compile_eachView_of_step h fun _ v _ p hp => hwritten v p hp

end Shown

end DocViews
