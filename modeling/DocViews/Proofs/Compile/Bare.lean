import DocViews.Proofs.Compile.Causes
import DocViews.Proofs.View.Bare

/-!
# Names do not depend on namespaces

Two document types that differ only in the namespaces of their paths get the same names for
everything. In JSON, where namespaces are not written, they are compiled to the same bundle or fail
in the same way. In markup the namespaces decide what the views read, and one of the two may even
fail for want of a prefix, but whatever is created, dropped or filled is called the same.
-/

namespace DocViews

/-! ## Groups -/

/-- A group is named after its roots, whatever their namespaces. -/
theorem viewSegments_bare (dialect : Dialect) (base : String) (g : ViewGroup) :
    viewSegments dialect base g.bare = viewSegments dialect base g := by
  simp [viewSegments, ViewGroup.bare, List.flatMap_map]

/-- What of a view does not depend on namespaces: its name and its columns. -/
def ViewMetadata.outline (m : ViewMetadata) : String × List String :=
  (m.view, m.columns.map (·.2))

section Groups
variable {config : Config} {namer : Namer} {base : String} {direct taken : List String}
  {g h : ViewGroup} {vs ws : List ViewGroup} {r s : GroupResult} {rs ss : List GroupResult}

theorem viewSegments_congr (hbare : g.bare = h.bare) :
    viewSegments config.dialect base g = viewSegments config.dialect base h := by
  rw [← viewSegments_bare, hbare, viewSegments_bare]

/-- Groups that agree in their columns up to namespaces are planned in the same way. -/
theorem planViews_congr {table view : String} {cs ds : List ColumnProperty}
    (hbare : g.bare = h.bare) (hcs : cs.map (·.bare) = ds.map (·.bare)) :
    (planViews table direct taken view g.roots cs).map (·.bare) =
      (planViews table direct taken view h.roots ds).map (·.bare) := by
  obtain ⟨hroots, _⟩ := ViewGroup.mk.inj hbare
  rw [← planViews_bare, ← planViews_bare, hroots, hcs]

/-- The views of a JSON group do not depend on its namespaces, and neither do its failures. -/
theorem projectGroup_json (hjson : config.dialect = .json) (hbare : g.bare = h.bare)
    (hg : g.PathsDiffer) (hh : h.PathsDiffer) :
    projectGroup config namer base direct taken g =
      projectGroup config namer base direct taken h := by
  obtain ⟨_, hproperties⟩ := ViewGroup.mk.inj hbare
  have hproject : ∀ plans : List ViewPlan,
      (plans.map (·.bare)).mapM (project config) = plans.mapM (project config) := by
    intro plans
    have hbare : project config ∘ (·.bare) = project config := by
      funext v
      simp only [Function.comp_apply, project, hjson, jsonProjection_bare]
    rw [List.mapM_map, hbare]
  simp only [projectGroup, viewSegments_congr hbare]
  split
  · rfl
  · apply Agree.eq
    apply (nameColumns_bare hproperties ⟨hg, by simp⟩ ⟨hh, by simp⟩).bind
    intro cs ds hcs
    rw [← hproject, planViews_congr hbare hcs, hproject]
    exact .refl _

/-- All groups of JSON documents come to the same, one after another. -/
theorem projectGroups_json (hjson : config.dialect = .json) (hbare : vs.map (·.bare) = ws.map (·.bare))
    (hvs : ∀ g ∈ vs, g.PathsDiffer) (hws : ∀ g ∈ ws, g.PathsDiffer) :
    projectGroups config namer base direct taken vs =
      projectGroups config namer base direct taken ws := by
  induction vs generalizing taken ws with
  | nil =>
    obtain rfl := List.map_eq_nil_iff.1 hbare.symm
    rfl
  | cons g gs ih =>
    cases ws with
    | nil => cases hbare
    | cons h hs =>
      obtain ⟨hgh, hbare⟩ := List.cons.inj hbare
      obtain ⟨hg, hgs⟩ := List.forall_mem_cons.1 hvs
      obtain ⟨hh, hhs⟩ := List.forall_mem_cons.1 hws
      simp only [projectGroups, projectGroup_json hjson hgh hg hh, ih hbare hgs hhs]

/-! ## Groups of any dialect -/

/-- The views of a group are outlined by its plans, and these by what they are without
    namespaces. -/
theorem GroupStep.outlines (hr : GroupStep config namer base direct taken g r) :
    r.views.map (·.metadata.outline) =
      (r.plans.map (·.bare)).map fun v => (v.name, v.properties.map (·.column)) := by
  have houtline : ∀ v p, project config v = .ok p →
      p.metadata.outline = (v.name, v.properties.map (·.column)) := by
    intro v p hp
    have hwrites := project_writes hp
    rw [← hwrites.name_eq, ← hwrites.mapped_columns]
    rfl
  rw [map_eq_of_mapM_eq_ok hr.views_ok houtline, List.map_map]
  simp [ViewPlan.bare, ColumnProperty.bare, Function.comp_def]

/-- Two groups that are the same up to namespaces get views of the same names and columns. -/
theorem GroupStep.outlines_congr (hr : GroupStep config namer base direct taken g r)
    (hs : GroupStep config namer base direct taken h s) (hbare : g.bare = h.bare) :
    r.views.map (·.metadata.outline) = s.views.map (·.metadata.outline) := by
  obtain ⟨_, hproperties⟩ := ViewGroup.mk.inj hbare
  have hview : r.view = s.view := by rw [hr.view_eq, hs.view_eq, viewSegments_congr hbare]
  have hcolumns : r.columns.map (·.bare) = s.columns.map (·.bare) := by
    have hagree : Agree (fun cs ds : List ColumnProperty => cs.map (·.bare) = ds.map (·.bare))
        (nameColumns namer r.view direct [] g.properties)
        (nameColumns namer r.view direct [] h.properties) :=
      nameColumns_bare hproperties (hr.assigned.paths_eq ▸ hr.assigned.paths)
        (hs.assigned.paths_eq ▸ hs.assigned.paths)
    rw [hr.columns_ok, hview, hs.columns_ok] at hagree
    cases hagree with
    | ok hcolumns => exact hcolumns
  rw [hr.outlines, hs.outlines, hr.plans_eq, hs.plans_eq, hview, planViews_congr hbare hcolumns]

theorem GroupResult.names_eq_outlines (r : GroupResult) :
    r.names = (r.views.map (·.metadata.outline)).map (·.1) := by
  rw [GroupResult.names, List.map_map]
  rfl

/-- So runs through such groups stay side by side: what one registers, the other does as well. -/
theorem GroupsRun.outlines_congr (hr : GroupsRun config namer base direct taken vs rs)
    (hs : GroupsRun config namer base direct taken ws ss)
    (hbare : vs.map (·.bare) = ws.map (·.bare)) :
    (rs.flatMap (·.views)).map (·.metadata.outline) =
      (ss.flatMap (·.views)).map (·.metadata.outline) := by
  induction hr generalizing ws ss with
  | nil =>
    obtain rfl := List.map_eq_nil_iff.1 hbare.symm
    cases hs
    rfl
  | @cons taken g gs r rs hstep _ ih =>
    cases hs with
    | nil => cases hbare
    | @cons _ h hs s ss hstep' hrun' =>
      obtain ⟨hgh, hbare⟩ := List.cons.inj hbare
      have hviews := hstep.outlines_congr hstep' hgh
      -- The next groups start from the same names.
      have hnames : r.names = s.names := by
        rw [r.names_eq_outlines, s.names_eq_outlines, hviews]
      rw [← hnames] at hrun'
      rw [List.flatMap_cons, List.flatMap_cons, List.map_append, List.map_append, hviews,
        ih hrun' hbare]

end Groups

/-! ## Bundles -/

/-- Two bundles differ at most in what their views read: everything is called the same, and the
    metadata are the same up to the paths. -/
structure SameNames {Document : Type} (b b' : Bundle Document) : Prop extends SameObjects b b' where
  drops_eq : b.drops = b'.drops
  metadata_eq : b.metadata.map (·.outline) = b'.metadata.map (·.outline)

section Bundles
variable {Document : Type} {config : Config} {name : String} {vs ws : List ViewGroup}
  {namer : Namer} {table : TablePolicy Document} {b b' : Bundle Document}

theorem compile_outlines (hb : compile config name vs namer table = .ok b)
    (hb' : compile config name ws namer table = .ok b')
    (hbare : vs.map (·.bare) = ws.map (·.bare)) :
    b.base = b'.base ∧ b.metadata.map (·.outline) = b'.metadata.map (·.outline) := by
  obtain ⟨_, rs, _, _, hrun, _, rfl⟩ := compile_eq_ok.1 hb
  obtain ⟨_, ss, _, _, hrun', _, rfl⟩ := compile_eq_ok.1 hb'
  have houtlines := hrun.outlines_congr hrun' hbare
  exact ⟨rfl, by simpa [bundleOf, Function.comp_def] using houtlines⟩

/-- Namespaces make no difference to names. JSON documents compile to the same whatever their
    namespaces, and fail in the same way; documents of any dialect, if they compile at all, get the
    same objects, the same statements apart from creation, and views of the same names and
    columns. -/
theorem compile_ignores_namespaces (hbare : vs.map (·.bare) = ws.map (·.bare))
    (hvs : ∀ g ∈ vs, g.PathsDiffer) (hws : ∀ g ∈ ws, g.PathsDiffer) (config : Config)
    (name : String) (namer : Namer) (table : TablePolicy Document) :
    (config.dialect = .json →
      compile config name vs namer table = compile config name ws namer table) ∧
    ∀ b b', compile config name vs namer table = .ok b →
      compile config name ws namer table = .ok b' → SameNames b b' := by
  constructor
  · intro hjson
    rw [compile_eq_bind, compile_eq_bind, projectGroups_json hjson hbare hvs hws]
  · intro b b' hb hb'
    obtain ⟨hbase, hmetadata⟩ := compile_outlines hb hb' hbare
    have hderived := compile_derived hb
    have hderived' := compile_derived hb'
    have hviews : b.metadata.map (·.view) = b'.metadata.map (·.view) := by
      have hfirst := congrArg (List.map (·.1)) hmetadata
      simpa [ViewMetadata.outline, Function.comp_def] using hfirst
    have hobjects := hderived.sameObjects hderived' rfl rfl hbase hviews
    refine ⟨hobjects, ?_, hmetadata⟩
    rw [hderived.drops_eq, hderived'.drops_eq, hbase, hobjects.objects_eq]

end Bundles

/-- Documents with two prices, which may be told apart by nothing but their namespaces. -/
def twoPrices (first second : Option String) : List ViewGroup :=
  [⟨[[⟨"lines", first⟩]], [⟨[⟨"price", first⟩], .decimal⟩, ⟨[⟨"price", second⟩], .string⟩]⟩]

/-- Markup in which three namespaces have prefixes. -/
def pricesConfig : Config :=
  .xmlWith (fixedPolicy (.ofList [("urn:a", "a"), ("urn:b", "b"), ("urn:c", "c")]))

/-- Prices of two namespaces go into the same two columns as prices of others, one of which need
    not be in a namespace at all. In markup they are read by other paths. -/
theorem twoPrices_named :
    compile Config.json "doc" (twoPrices (some "urn:a") (some "urn:b")) (PlainNamer.resolve ⟨50⟩)
        (staticColumns []) =
      compile Config.json "doc" (twoPrices none (some "urn:c")) (PlainNamer.resolve ⟨50⟩)
        (staticColumns []) ∧
    ∃ b b', compile pricesConfig "doc" (twoPrices (some "urn:a") (some "urn:b"))
        (PlainNamer.resolve ⟨50⟩) (staticColumns []) = .ok b ∧
      compile pricesConfig "doc" (twoPrices none (some "urn:c")) (PlainNamer.resolve ⟨50⟩)
        (staticColumns []) = .ok b' ∧
      SameNames b b' ∧
      b.metadata = [⟨"DOC", [("/a:lines/a:price", "PRICE"), ("/a:lines/b:price", "PRICE_1")]⟩] ∧
      b'.metadata = [⟨"DOC", [("/lines/price", "PRICE"), ("/lines/c:price", "PRICE_1")]⟩] := by
  have hbare : (twoPrices (some "urn:a") (some "urn:b")).map (·.bare) =
      (twoPrices none (some "urn:c")).map (·.bare) := rfl
  have hvs : ∀ g ∈ twoPrices (some "urn:a") (some "urn:b"), g.PathsDiffer := by
    simp [twoPrices, ViewGroup.PathsDiffer]
  have hws : ∀ g ∈ twoPrices none (some "urn:c"), g.PathsDiffer := by
    simp [twoPrices, ViewGroup.PathsDiffer]
  constructor
  · exact (compile_ignores_namespaces hbare hvs hws ..).1 rfl
  · have h : (compile pricesConfig "doc" (twoPrices (some "urn:a") (some "urn:b"))
        (PlainNamer.resolve ⟨50⟩) (staticColumns [])).toOption.map (·.metadata) =
          some [⟨"DOC", [("/a:lines/a:price", "PRICE"), ("/a:lines/b:price", "PRICE_1")]⟩] := by
      decide +kernel
    have h' : (compile pricesConfig "doc" (twoPrices none (some "urn:c"))
        (PlainNamer.resolve ⟨50⟩) (staticColumns [])).toOption.map (·.metadata) =
          some [⟨"DOC", [("/lines/price", "PRICE"), ("/lines/c:price", "PRICE_1")]⟩] := by
      decide +kernel
    obtain ⟨b, hb, hmetadata⟩ := Option.map_eq_some_iff.1 h
    obtain ⟨b', hb', hmetadata'⟩ := Option.map_eq_some_iff.1 h'
    rw [toOption_eq_some] at hb hb'
    have hsame := (compile_ignores_namespaces hbare hvs hws ..).2 b b' hb hb'
    exact ⟨b, b', hb, hb', hsame, hmetadata, hmetadata'⟩

end DocViews
