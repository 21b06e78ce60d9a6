import DocViews.Proofs.Compile.Run
import DocViews.Proofs.Text.ByteOrder

/-!
# Groups and their parts

Each group is shown by one view, or by as many numbered parts as it takes if it has more than 200
properties. Either way its properties are all shown, each of them once. The numbers of the parts
depend on the names that are registered before the group, and there is always one that is free.
-/

namespace DocViews

/-! ## Parts -/

/-- Plans for the columns `cs` of a group that is too large for one view: full parts and a last
    one, in the order of the columns, with the smallest numbers whose names are not registered. -/
structure Parts (registered : List String) (view : String) (cs : List ColumnProperty)
    (plans : List ViewPlan) : Prop where
  count : plans.length = (cs.length + 199) / 200
  full : ∀ v ∈ plans.dropLast, v.properties.length = 200
  complete : (plans.flatMap (·.properties)).Perm cs
  ascending : (plans.flatMap (·.properties)).Pairwise fun a b =>
    Text.bytes a.column < Text.bytes b.column
  numbers : ∃ ks, SmallestFree (partName view) registered 0 ks ∧
    plans.map (·.name) = ks.map (partName view)

theorem planViews_parts {table : String} {direct registered : List String} {view : String}
    {roots : List Path} {cs : List ColumnProperty} (hcolumns : (cs.map (·.column)).Nodup)
    (hsize : 200 < cs.length) :
    Parts registered view cs (planViews table direct registered view roots cs) := by
  have hproperties : (planViews table direct registered view roots cs).map (·.properties) =
      pieces maxColumns (sortByColumn cs) := planViews_map_properties hsize
  refine ⟨?_, ?_, planViews_properties_perm, ?_,
    ⟨_, partNumbers_smallestFree .., planViews_map_name hsize⟩⟩
  · calc (planViews table direct registered view roots cs).length
        = (pieces maxColumns (sortByColumn cs)).length := by rw [← hproperties, List.length_map]
      _ = (cs.length + 199) / 200 := by
          rw [length_pieces (by decide), (sortByColumn_perm cs).length_eq]
          rfl
  · intro v hv
    refine length_of_mem_dropLast_pieces (n := maxColumns) (l := sortByColumn cs) (by decide) ?_
    rw [← hproperties, ← List.map_dropLast]
    exact List.mem_map_of_mem hv
  · rw [planViews_flatMap_properties hsize]
    exact (sortByColumn_ascending hcolumns).imp Text.lt_iff_bytes_lt.1

/-! ## Groups -/

/-- How the group `g` is shown when the names `registered` stand before it. -/
structure Partitioned (config : Config) (namer : Namer) (base : String) (registered : List String)
    (g : ViewGroup) (r : GroupResult) : Prop where
  view_eq : r.view = namer (viewSegments config.dialect base g) registered.contains
  view_new : r.view ∉ registered
  properties_eq : r.columns.map (·.property) = g.properties
  /-- Each plan is projected to one view, which has its name and shows just its columns. -/
  written : List.Forall₂ (fun v p => project config v = .ok p ∧ Writes config v p) r.plans r.views
  /-- A group that fits is one view under its own name, in the given order. -/
  whole : g.properties.length ≤ 200 →
    r.plans.map (·.name) = [r.view] ∧ r.plans.map (·.properties) = [r.columns]
  parts : 200 < g.properties.length → Parts registered r.view r.columns r.plans
  /-- The search for the number of a part ends wherever it begins. -/
  search_ends : ∀ start, ∃ k, start ≤ k ∧ k ≤ start + registered.length ∧
    partName r.view k ∉ registered

theorem GroupStep.partitioned {config : Config} {namer : Namer} {base : String}
    {direct registered : List String} {g : ViewGroup} {r : GroupResult}
    (h : GroupStep config namer base direct registered g r) :
    Partitioned config namer base registered g r where
  view_eq := h.view_eq
  view_new := h.view_new
  properties_eq := h.assigned.properties
  written := (mapM_eq_ok.1 h.views_ok).imp fun _ _ hp => ⟨hp, project_writes hp⟩
  whole hsize := by
    rw [← h.assigned.length_eq] at hsize
    rw [h.plans_eq, planViews_of_le hsize]
    exact ⟨rfl, rfl⟩
  parts hsize := by
    rw [← h.assigned.length_eq] at hsize
    rw [h.plans_eq]
    exact planViews_parts h.assigned.columns.nodup hsize
  search_ends := exists_free (partName_injective r.view) registered

/-- Every group of a compiled document type is shown whole or in parts, in the place of the group
    and under names that were not registered before. -/
theorem compile_partitions {Document : Type} {config : Config} {name : String}
    {groups : List ViewGroup} {namer : Namer} {table : TablePolicy Document} {b : Bundle Document}
    (h : compile config name groups namer table = .ok b) :
    ∃ rs, Shows config b groups rs ∧
      ∀ i g r, groups[i]? = some g → rs[i]? = some r →
        Partitioned config namer b.base
          (initialNames b.base ++ (rs.take i).flatMap (·.names)) g r := by
  obtain ⟨rs, hshows, hrun⟩ := compile_run h
  exact ⟨rs, hshows, fun i g r hg hr => (hrun.step hg hr).partitioned⟩

/-- One group compiles as long as what the namer gives is fresh. -/
theorem exists_compile_eq_ok {config : Config} {name : String} {f : List String → String}
    {g : ViewGroup} (hdialect : config.dialect = .json) (hlisting : config.metadataView = false)
    (hview : f (viewSegments config.dialect (f [name]) g) ∉ initialNames (f [name]))
    (hpaths : Fresh [] (g.properties.map (·.path)))
    (hcolumns : Fresh (directColumns []) (g.properties.map fun p => f p.path.names)) :
    ∃ b, compile config name [g] (fun segments _ => f segments) (staticColumns []) = .ok b := by
  have hviews : ∀ vs : List ViewPlan, ∃ ps, vs.mapM (project config) = .ok ps := by
    intro vs
    refine ⟨vs.map (jsonProjection config.types), mapM_eq_ok.2 ?_⟩
    refine List.forall₂_map_right_iff.2 (List.forall₂_same.2 fun v _ => ?_)
    rw [project, hdialect]
  have hgroup : ∃ ps, projectGroup config (fun segments _ => f segments) (f [name])
      (directColumns []) (initialNames (f [name])) g = .ok ps := by
    obtain ⟨ps, hps⟩ := hviews _
    refine ⟨ps, ?_⟩
    rw [projectGroup, if_neg (by simpa using hview)]
    exact bind_eq_ok.2 ⟨_, nameColumns_of_fresh (fun _ _ _ => rfl) hpaths hcolumns, hps⟩
  obtain ⟨_, hgroup⟩ := hgroup
  obtain ⟨r, hstep, _⟩ := projectGroup_eq_ok.1 hgroup
  refine ⟨_, compile_eq_ok.2 ⟨[], [r], [], rfl, .cons hstep (.nil _), ?_, rfl⟩⟩
  simp [metadataViews, hlisting]

/-- A group with one property too many for one view. -/
def largeGroup : ViewGroup where
  roots := [[⟨"lines", none⟩]]
  properties := (List.range 201).map fun i => ⟨[⟨Nat.repr i, none⟩], .decimal⟩

theorem largeGroup_paths : Fresh [] (largeGroup.properties.map (·.path)) := by
  refine ⟨?_, fun _ _ => List.not_mem_nil⟩
  rw [largeGroup, List.map_map]
  refine List.Nodup.map (fun i j h => repr_injective ?_) List.nodup_range
  simpa using h

theorem largeGroup_columns : Fresh (directColumns [])
    (largeGroup.properties.map fun p => String.intercalate "_" p.path.names) := by
  have hcolumns : (largeGroup.properties.map fun p => String.intercalate "_" p.path.names) =
      (List.range 201).map Nat.repr := by
    rw [largeGroup, List.map_map]
    rfl
  rw [hcolumns, fresh_map_iff (List.nodup_range.map repr_injective)]
  decide +kernel

/-- It becomes two views. -/
theorem largeGroup_partitions :
    ∃ b, compile (Config.json.withMetadataView false) "doc" [largeGroup]
        (fun segments _ => String.intercalate "_" segments) (staticColumns []) = .ok b ∧
      b.metadata.length = 2 := by
  have hok : ∃ b, compile (Config.json.withMetadataView false) "doc" [largeGroup]
      (fun segments _ => String.intercalate "_" segments) (staticColumns []) = .ok b :=
    exists_compile_eq_ok rfl rfl (by decide) largeGroup_paths largeGroup_columns
  obtain ⟨b, h⟩ := hok
  refine ⟨b, h, ?_⟩
  obtain ⟨rs, hshows, hgroups⟩ := compile_partitions h
  obtain ⟨r, rfl⟩ := List.length_eq_one_iff.1 hshows.length_eq
  have hr := hgroups 0 largeGroup r rfl rfl
  -- 201 properties are one more than a view holds.
  have hsize : largeGroup.properties.length = 201 := by simp [largeGroup]
  have hcolumns : r.columns.length = 201 := by
    rw [← hsize, ← hr.properties_eq, List.length_map]
  rw [hshows.metadata_eq, List.length_map, List.flatMap_singleton, ← hr.written.length_eq,
    (hr.parts (by omega)).count, hcolumns]

end DocViews
