import DocViews.Proofs.Compile.Partitioning
import DocViews.Proofs.Compile.Registry
import DocViews.Proofs.Naming
import DocViews.Proofs.Namespaces
import Mathlib.Algebra.GroupWithZero.Nat

/-!
# Causes of failure

Under a standard configuration and with plain names, a document type that is not too large fails to
compile for two causes alone: a group maps a path twice, or the name of the metadata view is taken
by a view of a group. Plain names never clash as long as fewer names are taken than there are
numbers to try, and the sizes of a document type bound how many names are taken at each step.
-/

namespace DocViews

open PlainNamer (maxAttempts)

/-! ## Steps that stop at a repeated path -/

/-- A step goes through if `good` holds, and otherwise stops at a path that is mapped twice. -/
structure StopsUnless (good : Prop) (x : Except CompileError α) : Prop where
  goes : good → ∃ a, x = .ok a
  stops : ¬good → ∃ path view, x = .error (.repeatedProperty path view)

namespace StopsUnless

variable {p q : Prop} {x : Except CompileError α} {f : α → Except CompileError β}

theorem of_ok (h : ∃ a, x = .ok a) : StopsUnless True x where
  goes _ := h
  stops hfalse := absurd trivial hfalse

theorem congr (hx : StopsUnless p x) (h : p ↔ q) : StopsUnless q x := propext h ▸ hx

/-- One step after another goes through if both are good. -/
theorem bind (hx : StopsUnless p x) (hf : ∀ a, x = .ok a → StopsUnless q (f a)) :
    StopsUnless (p ∧ q) (x >>= f) := by
  by_cases hp : p
  · obtain ⟨a, ha⟩ := hx.goes hp
    have hq := hf a ha
    subst ha
    -- The first step goes through, so the second one decides.
    constructor
    · intro h
      exact hq.goes h.2
    · intro hbad
      exact hq.stops fun hgood => hbad ⟨hp, hgood⟩
  · obtain ⟨path, view, herror⟩ := hx.stops hp
    subst herror
    constructor
    · intro h
      exact absurd h.1 hp
    · intro _
      exact ⟨path, view, rfl⟩

/-- Nothing can go wrong in what is done with the result of the last step. -/
theorem bind_pure (hx : StopsUnless p x) {g : α → β} :
    StopsUnless p (x >>= fun a => pure (g a)) :=
  (hx.bind fun a _ => of_ok ⟨g a, rfl⟩).congr (iff_of_eq (and_true p))

end StopsUnless

/-! ## Names of indices and columns -/

section Names
variable (spell : String → String) (n : PlainNamer)

/-- Every additional column gets an index as long as there are numbers left. -/
theorem exists_nameIndices (base : String) {reserved columns : List String}
    (h : reserved.length + columns.length ≤ maxAttempts) :
    ∃ is, nameIndices (n.resolveBy spell) base reserved columns = .ok is := by
  induction columns generalizing reserved with
  | nil => exact ⟨[], rfl⟩
  | cons column columns ih =>
    rw [List.length_cons] at h
    have hnew : n.resolveBy spell [base, column] reserved.contains ∉ reserved :=
      n.resolveBy_not_mem spell _ (by omega)
    have hlength : (n.resolveBy spell [base, column] reserved.contains :: reserved).length
        + columns.length ≤ maxAttempts := by
      rw [List.length_cons]
      omega
    -- The name that was found is reserved for the rest, which is one column shorter.
    obtain ⟨is, his⟩ := ih hlength
    refine ⟨_, guard_eq_ok.2 ⟨?_, bind_eq_ok.2 ⟨is, his, rfl⟩⟩⟩
    simpa using hnew

/-- Every property gets a column as long as there are numbers left, unless a path comes twice. -/
theorem nameColumns_stopsUnless (view : String) {reserved : List String} {mapped : List Path}
    {ps : List Property} (h : reserved.length + ps.length ≤ maxAttempts) :
    StopsUnless (Fresh mapped (ps.map (·.path)))
      (nameColumns (n.resolveBy spell) view reserved mapped ps) := by
  induction ps generalizing reserved mapped with
  | nil => exact (StopsUnless.of_ok ⟨[], rfl⟩).congr (iff_of_true trivial fresh_nil)
  | cons p ps ih =>
    rw [List.length_cons] at h
    have hnew : n.resolveBy spell p.path.names reserved.contains ∉ reserved :=
      n.resolveBy_not_mem spell _ (by omega)
    have hlength : (n.resolveBy spell p.path.names reserved.contains :: reserved).length
        + ps.length ≤ maxAttempts := by
      rw [List.length_cons]
      omega
    simp only [nameColumns, List.map_cons, fresh_cons]
    split
    case isTrue hmapped =>
      -- The path has a column already, so this is where naming stops.
      constructor
      · intro hfresh
        exact absurd (List.contains_iff_mem.1 hmapped) hfresh.1
      · intro _
        exact ⟨_, _, rfl⟩
    case isFalse hmapped =>
      rw [if_neg (by simpa using hnew)]
      -- The path is new, so all depends on the paths that are left.
      refine (ih hlength).bind_pure.congr (iff_and_self.2 ?_)
      intro _
      exact List.contains_iff_mem.not.1 hmapped

end Names

/-! ## Views of the standard configurations -/

/-- A standard configuration, whatever its types, views, synonyms, hooks and error codes. -/
def Config.IsStandard (c : Config) : Prop :=
  ∃ standard ∈ [Config.xml, Config.json],
    c.dialect = standard.dialect ∧ c.namespaces = standard.namespaces

/-- Every planned view can be written: markup has numbered prefixes, and JSON needs none. -/
theorem exists_project {config : Config} (hconfig : config.IsStandard) (v : ViewPlan) :
    ∃ p, project config v = .ok p := by
  obtain ⟨standard, hmem, hdialect, hnamespaces⟩ := hconfig
  unfold project
  rw [hdialect, hnamespaces]
  rcases List.mem_pair.1 hmem with rfl | rfl
  · -- Whether there are namespaces or not, the policy leaves none without a prefix.
    obtain ⟨prefixes, hprefixes⟩ := SyntheticPolicy.exists_resolved (p := {}) rfl v.uris
    exact ⟨_, bind_eq_ok.2 ⟨prefixes, hprefixes, rfl⟩⟩
  · exact ⟨_, rfl⟩

theorem exists_mapM_project {config : Config} (hconfig : config.IsStandard) (vs : List ViewPlan) :
    ∃ ps, vs.mapM (project config) = .ok ps := by
  induction vs with
  | nil => exact ⟨[], rfl⟩
  | cons v vs ih =>
    obtain ⟨p, hp⟩ := exists_project hconfig v
    obtain ⟨ps, hps⟩ := ih
    exact ⟨p :: ps, mapM_eq_ok.2 (.cons hp (mapM_eq_ok.1 hps))⟩

/-! ## Groups -/

namespace ViewGroup

/-- No path is mapped twice. -/
def PathsDiffer (g : ViewGroup) : Prop := (g.properties.map (·.path)).Nodup

/-- How many views it takes to show a group. -/
def viewCount (g : ViewGroup) : Nat := max 1 ((g.properties.length + 199) / 200)

end ViewGroup

section Groups
variable {config : Config} {base : String} {direct taken : List String} {g : ViewGroup}
  {gs : List ViewGroup} {spell : String → String} {n : PlainNamer}

theorem GroupStep.length_names {namer : Namer} {r : GroupResult}
    (h : GroupStep config namer base direct taken g r) : r.names.length = g.viewCount := by
  rw [h.names_eq, List.length_map, ViewGroup.viewCount]
  rcases Nat.lt_or_ge 200 g.properties.length with hlarge | hsmall
  · rw [(h.partitioned.parts hlarge).count, h.assigned.length_eq]
    omega
  · have hone : r.plans.length = 1 := by
      rw [← List.length_map, (h.partitioned.whole hsmall).1, List.length_singleton]
    omega

/-- A group is shown as long as there are names left, unless it maps a path twice. -/
theorem projectGroup_stopsUnless (hconfig : config.IsStandard) (htaken : taken.length < maxAttempts)
    (hcolumns : direct.length + g.properties.length ≤ maxAttempts) :
    StopsUnless g.PathsDiffer (projectGroup config (n.resolveBy spell) base direct taken g) := by
  have hnew : n.resolveBy spell (viewSegments config.dialect base g) taken.contains ∉ taken :=
    n.resolveBy_not_mem spell _ htaken
  rw [projectGroup, if_neg (by simpa using hnew)]
  refine ((nameColumns_stopsUnless spell n _ hcolumns).bind fun cs _ =>
    .of_ok (exists_mapM_project hconfig _)).congr ?_
  rw [and_true, ViewGroup.PathsDiffer]
  constructor
  · intro hfresh
    exact hfresh.nodup
  · intro hnodup
    exact ⟨hnodup, fun _ _ => List.not_mem_nil⟩

/-- All groups are shown as long as there are names left for all their views, unless some group
    maps a path twice. -/
theorem projectGroups_stopsUnless (hconfig : config.IsStandard)
    (hcolumns : ∀ g ∈ gs, direct.length + g.properties.length ≤ maxAttempts)
    (hviews : taken.length + (gs.map (·.viewCount)).sum < maxAttempts) :
    StopsUnless (∀ g ∈ gs, g.PathsDiffer)
      (projectGroups config (n.resolveBy spell) base direct taken gs) := by
  induction gs generalizing taken with
  | nil => exact (StopsUnless.of_ok ⟨[], rfl⟩).congr (iff_of_true trivial (by simp))
  | cons g gs ih =>
    rw [List.map_cons, List.sum_cons] at hviews
    obtain ⟨hg, hgs⟩ := List.forall_mem_cons.1 hcolumns
    refine StopsUnless.congr ?_ List.forall_mem_cons.symm
    refine (projectGroup_stopsUnless hconfig (by omega) hg).bind fun views hstep => ?_
    -- The views of this group are taken for the groups after it.
    obtain ⟨r, hr, rfl⟩ := projectGroup_eq_ok.1 hstep
    have hcount : (r.views.map (·.name)).length = g.viewCount := hr.length_names
    refine (ih hgs ?_).bind_pure
    rw [List.length_append, hcount]
    omega

end Groups

/-! ## The metadata view -/

/-- The metadata view has another name than the table and the views on revisions. -/
theorem listing_not_mem_initialNames (base : String) : base ++ "_MTA" ∉ initialNames base := by
  rw [initialNames_eq]
  simp

theorem metadataViews_of_taken {config : Config} {base : String} {taken : List String}
    {metadata : List ViewMetadata} (hlisting : config.metadataView = true)
    (htaken : base ++ "_MTA" ∈ taken) :
    metadataViews config base taken metadata =
      .error (.nameCollision .view (base ++ "_MTA") base) := by
  rw [metadataViews, if_pos hlisting]
  exact if_pos (List.contains_iff_mem.2 htaken)

/-- The metadata view is wanted, but one of the views of the groups has its name. -/
def ListingTaken (config : Config) (namer : Namer) (base : String) (direct : List String)
    (groups : List ViewGroup) : Prop :=
  config.metadataView = true ∧
    ∃ views, projectGroups config namer base direct (initialNames base) groups = .ok views ∧
      base ++ "_MTA" ∈ views.map (·.name)

/-! ## The whole document type -/

/-- What becomes of a document type once its indices are named. -/
theorem compile_of_indices {Document : Type} {config : Config} {namer : Namer} {name : String}
    {groups : List ViewGroup} {table : TablePolicy Document} {indices : List (String × String)}
    (h : nameIndices namer (baseName namer name) [baseName namer name ++ "_IDX"]
      (table.columns.map (·.1)) = .ok indices) :
    compile config name groups namer table = do
      let views ← projectGroups config namer (baseName namer name) (directColumns table.columns)
        (initialNames (baseName namer name)) groups
      let listing ← metadataViews config (baseName namer name)
        (initialNames (baseName namer name) ++ views.map (·.name)) (views.map (·.metadata))
      return bundleOf config table (baseName namer name) indices views listing := by
  rw [compile_eq_bind, h]
  rfl

/-- A document type for whose names there are enough numbers. -/
structure FitsPlainNames {Document : Type} (groups : List ViewGroup)
    (table : TablePolicy Document) : Prop where
  indices : table.columns.length ≤ 9999
  columns : ∀ g ∈ groups, 4 + table.columns.length + g.properties.length ≤ 10000
  views : 4 + (groups.map (·.viewCount)).sum < 10000

section Whole
variable {Document : Type} {config : Config} {spell : String → String} {n : PlainNamer}
  {name : String} {groups : List ViewGroup} {table : TablePolicy Document}
  (hconfig : config.IsStandard) (hsize : FitsPlainNames groups table)
include hsize

theorem FitsPlainNames.exists_indices (spell : String → String) (n : PlainNamer) (base : String) :
    ∃ is, nameIndices (n.resolveBy spell) base [base ++ "_IDX"] (table.columns.map (·.1)) =
      .ok is := by
  refine exists_nameIndices spell n base ?_
  rw [List.length_singleton, List.length_map]
  exact Nat.add_le_of_le_sub' (by decide) hsize.indices

/-- A view with the name of the metadata view ends the compilation. -/
theorem compile_of_listing_taken
    (htaken : ListingTaken config (n.resolveBy spell) (baseName (n.resolveBy spell) name)
      (directColumns table.columns) groups) :
    compile config name groups (n.resolveBy spell) table =
      .error (.nameCollision .view (baseName (n.resolveBy spell) name ++ "_MTA")
        (baseName (n.resolveBy spell) name)) := by
  obtain ⟨indices, hindices⟩ := hsize.exists_indices spell n (baseName (n.resolveBy spell) name)
  obtain ⟨hlisting, views, hviews, hmem⟩ := htaken
  rw [compile_of_indices hindices, hviews]
  change (metadataViews .. >>= _) = _
  rw [metadataViews_of_taken hlisting (List.mem_append_right _ hmem)]
  rfl

include hconfig

theorem FitsPlainNames.groups_stopUnless (base : String) :
    StopsUnless (∀ g ∈ groups, g.PathsDiffer)
      (projectGroups config (n.resolveBy spell) base (directColumns table.columns)
        (initialNames base) groups) := by
  refine projectGroups_stopsUnless hconfig (fun g hg => ?_) hsize.views
  have hdirect : (directColumns table.columns).length = 4 + table.columns.length := by
    rw [directColumns, List.length_append, List.length_map]
    rfl
  rw [hdirect]
  exact hsize.columns g hg

/-- A repeated path ends the compilation. -/
theorem compile_of_repeated_path (hpaths : ¬∀ g ∈ groups, g.PathsDiffer) :
    ∃ path view, compile config name groups (n.resolveBy spell) table =
      .error (.repeatedProperty path view) := by
  obtain ⟨indices, hindices⟩ := hsize.exists_indices spell n (baseName (n.resolveBy spell) name)
  obtain ⟨path, view, herror⟩ := (hsize.groups_stopUnless hconfig _).stops hpaths
  refine ⟨path, view, ?_⟩
  rw [compile_of_indices hindices, herror]
  rfl

/-- Nothing else can fail. -/
theorem exists_compile (hpaths : ∀ g ∈ groups, g.PathsDiffer)
    (hfree : ¬ListingTaken config (n.resolveBy spell) (baseName (n.resolveBy spell) name)
      (directColumns table.columns) groups) :
    ∃ b, compile config name groups (n.resolveBy spell) table = .ok b := by
  obtain ⟨indices, hindices⟩ := hsize.exists_indices spell n (baseName (n.resolveBy spell) name)
  obtain ⟨views, hviews⟩ := (hsize.groups_stopUnless hconfig _).goes hpaths
  have hlisting : config.metadataView →
      baseName (n.resolveBy spell) name ++ "_MTA" ∉
        initialNames (baseName (n.resolveBy spell) name) ++ views.map (·.name) := by
    intro hwanted hmem
    rcases List.mem_append.1 hmem with hmem | hmem
    · exact listing_not_mem_initialNames _ hmem
    · exact hfree ⟨hwanted, views, hviews, hmem⟩
  rw [compile_of_indices hindices, hviews]
  exact ⟨_, bind_eq_ok.2 ⟨views, rfl, bind_eq_ok.2
    ⟨_, metadataViews_eq_ok.2 ⟨hlisting, rfl⟩, rfl⟩⟩⟩

/-- Under a standard configuration and with plain names, however they are spelled, a document type
    fails to compile just in case a group maps a path twice, or else the name of the metadata view
    is taken by a view of a group. No other error is reported. -/
theorem compile_fails_for_two_causes (spell : String → String) (n : PlainNamer) (name : String) :
    let base := baseName (n.resolveBy spell) name
    let outcome := compile config name groups (n.resolveBy spell) table
    let taken := ListingTaken config (n.resolveBy spell) base (directColumns table.columns) groups
    ((∃ path view, outcome = .error (.repeatedProperty path view)) ↔
        ∃ g ∈ groups, ¬g.PathsDiffer) ∧
      ((∀ g ∈ groups, g.PathsDiffer) →
        (outcome = .error (.nameCollision .view (base ++ "_MTA") base) ↔ taken) ∧
        (¬taken → ∃ b, outcome = .ok b)) ∧
      ∀ e, outcome = .error e →
        (∃ path view, e = .repeatedProperty path view) ∨
          e = .nameCollision .view (base ++ "_MTA") base := by
  intro base outcome taken
  by_cases hpaths : ∀ g ∈ groups, g.PathsDiffer
  · have hnone : ¬∃ g ∈ groups, ¬g.PathsDiffer := by
      rintro ⟨g, hg, hrepeated⟩
      exact hrepeated (hpaths g hg)
    by_cases htaken : taken
    · have houtcome : outcome = .error (.nameCollision .view (base ++ "_MTA") base) :=
        compile_of_listing_taken hsize htaken
      rw [houtcome]
      simp [hnone, htaken]
    · obtain ⟨b, houtcome⟩ : ∃ b, outcome = .ok b := exists_compile hconfig hsize hpaths htaken
      rw [houtcome]
      simp [hnone, htaken]
  · have hsome : ∃ g ∈ groups, ¬g.PathsDiffer := by simpa using hpaths
    obtain ⟨path, view, houtcome⟩ : ∃ path view, outcome = .error (.repeatedProperty path view) :=
      compile_of_repeated_path hconfig hsize hpaths
    rw [houtcome]
    simp [hpaths, hsome]

end Whole

/-- Documents with a view that comes to be called like the metadata view. -/
def listedGroup : ViewGroup := ⟨[[⟨"mta", none⟩]], []⟩

/-- Such a document compiles only if no metadata view is wanted, and no document compiles with one
    price in two columns. -/
theorem listedGroup_clashes :
    compile Config.json "doc" [listedGroup] (PlainNamer.resolve ⟨50⟩) (staticColumns []) =
        .error (.nameCollision .view "DOC_MTA" "DOC") ∧
      (∃ b, compile (Config.json.withMetadataView false) "doc" [listedGroup]
        (PlainNamer.resolve ⟨50⟩) (staticColumns []) = .ok b) ∧
      ∃ path view, compile Config.xml "doc"
          [⟨[], [⟨[⟨"price", some "urn:a"⟩], .decimal⟩, ⟨[⟨"price", some "urn:a"⟩], .string⟩]⟩]
          (PlainNamer.resolve ⟨50⟩) (staticColumns []) =
        .error (.repeatedProperty path view) := by
  have hbase : baseName (PlainNamer.resolveBy Naming.shoutySnake ⟨50⟩) "doc" = "DOC" := by
    decide +kernel
  have hsize : FitsPlainNames [listedGroup] (staticColumns []) := ⟨by decide, by decide, by decide⟩
  have hpaths : ∀ g ∈ [listedGroup], g.PathsDiffer := by simp [listedGroup, ViewGroup.PathsDiffer]
  refine ⟨?_, ?_, ?_⟩
  · have hjson : Config.json.IsStandard := ⟨Config.json, by simp, rfl, rfl⟩
    have hclash :=
      (compile_fails_for_two_causes hjson hsize Naming.shoutySnake ⟨50⟩ "doc").2.1 hpaths
    rw [hbase] at hclash
    refine hclash.1.2 ⟨rfl, [jsonProjection (postgresTypes true)
      ⟨"DOC_MTA", "DOC_RAW", Sql.fixedColumns, [[⟨"mta", none⟩]], []⟩], ?_, by decide⟩
    decide +kernel
  · have hjson : (Config.json.withMetadataView false).IsStandard :=
      ⟨Config.json, by simp, rfl, rfl⟩
    refine ((compile_fails_for_two_causes hjson hsize Naming.shoutySnake ⟨50⟩ "doc").2.1 hpaths).2 ?_
    exact fun htaken => Bool.false_ne_true htaken.1
  · have hxml : Config.xml.IsStandard := ⟨Config.xml, by simp, rfl, rfl⟩
    refine (compile_fails_for_two_causes hxml ⟨by decide, by decide, by decide⟩
      Naming.shoutySnake ⟨50⟩ "doc").1.2 ?_
    exact ⟨_, List.mem_singleton_self _, by simp [ViewGroup.PathsDiffer]⟩

end DocViews
