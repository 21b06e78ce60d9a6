import DocViews.Proofs.Compile.Run

/-!
# From properties to columns

Every property of a group has one column, in whichever part of the group it ends up, and its view
selects, declares and documents it under that column.
-/

namespace DocViews

/-- How the properties of the group `g` become columns next to the raw columns `direct`. -/
structure ColumnsKept (config : Config) (raw : String) (direct : List String) (g : ViewGroup)
    (r : GroupResult) : Prop where
  paths_nodup : (g.properties.map (·.path)).Nodup
  /-- Each property gets one column. -/
  properties_eq : r.columns.map (·.property) = g.properties
  columns_nodup : (r.columns.map (·.column)).Nodup
  columns_new : ∀ c ∈ r.columns, c.column ∉ direct
  /-- A look-up by the path of a property finds its column. -/
  lookup : ∀ p ∈ g.properties, ∃ c ∈ r.columns, c.property = p ∧
    columnOf? r.columns p.path = some c.column
  /-- Sorting a large group by the columns that are looked up never meets a missing one. -/
  sorted : 200 < g.properties.length → ∀ missing,
    (r.plans.flatMap (·.properties)).map (·.property) = g.properties.mergeSort fun a b =>
      decide ((columnOf? r.columns a.path).getD missing ≤ (columnOf? r.columns b.path).getD missing)
  /-- Each column goes into one of the views. -/
  split : (r.plans.flatMap (·.properties)).Perm r.columns
  /-- A look-up by the path of a property of a view finds the column that the view uses. -/
  lookup_view : ∀ v ∈ r.plans, ∀ c ∈ v.properties, columnOf? r.columns c.path = some c.column
  raw_columns : ∀ v ∈ r.plans, v.table = raw ∧ v.direct = direct
  written : List.Forall₂ (Writes config) r.plans r.views

theorem GroupStep.columnsKept {config : Config} {namer : Namer} {base : String}
    {direct registered : List String} {g : ViewGroup} {r : GroupResult}
    (h : GroupStep config namer base direct registered g r) :
    ColumnsKept config (rawTableName base) direct g r := by
  obtain ⟨hproperties, hpaths, hcolumns⟩ := h.assigned
  have hsplit : (r.plans.flatMap (·.properties)).Perm r.columns := by
    rw [h.plans_eq]
    exact planViews_properties_perm
  -- All look-ups go by path, and no path occurs twice in a group.
  have hlookup : ∀ c ∈ r.columns, columnOf? r.columns c.path = some c.column :=
    fun c hc => columnOf?_of_mem hpaths.nodup hc
  constructor
  case paths_nodup =>
    rw [← h.assigned.paths_eq]
    exact hpaths.nodup
  case properties_eq => exact hproperties
  case columns_nodup => exact hcolumns.nodup
  case columns_new => exact fun c hc => hcolumns.new c.column (List.mem_map_of_mem hc)
  case lookup =>
    intro p hp
    rw [← hproperties] at hp
    obtain ⟨c, hc, rfl⟩ := List.mem_map.1 hp
    exact ⟨c, hc, rfl, hlookup c hc⟩
  case sorted =>
    intro hsize missing
    rw [← h.assigned.length_eq] at hsize
    rw [h.plans_eq, planViews_flatMap_properties hsize, ← hproperties]
    exact sortByColumn_lookup hpaths.nodup missing
  case split => exact hsplit
  case lookup_view =>
    intro v hv c hc
    exact hlookup c (hsplit.mem_iff.1 (List.mem_flatMap.2 ⟨v, hv, hc⟩))
  case raw_columns =>
    intro v hv
    rw [h.plans_eq] at hv
    obtain ⟨htable, hdirect, _⟩ := of_mem_planViews hv
    exact ⟨htable, hdirect⟩
  case written => exact h.written

/-- The columns of a single view of a group differ from each other and from the raw columns. -/
theorem GroupStep.view_columns {config : Config} {namer : Namer} {base : String}
    {direct registered : List String} {g : ViewGroup} {r : GroupResult}
    (h : GroupStep config namer base direct registered g r) {v : ViewPlan} (hv : v ∈ r.plans) :
    v.properties ⊆ r.columns ∧ Fresh direct (v.properties.map (·.column)) := by
  have hkept := h.columnsKept
  have hsub : v.properties ⊆ r.columns := fun c hc =>
    hkept.split.mem_iff.1 (List.mem_flatMap.2 ⟨v, hv, hc⟩)
  refine ⟨hsub, ?_, ?_⟩
  · have hnodup := (hkept.split.map (·.column)).nodup_iff.2 hkept.columns_nodup
    rw [List.map_flatMap, List.nodup_flatMap] at hnodup
    exact hnodup.1 v hv
  · intro name hname
    obtain ⟨c, hc, rfl⟩ := List.mem_map.1 hname
    exact hkept.columns_new c (hsub hc)

end DocViews
