import DocViews.Proofs.View.Partition
import DocViews.Proofs.View.Projection

/-!
# Views without namespaces

Namespaces tell paths apart, and views of markup are written with them. But nothing is named after
a namespace, and nothing is sorted or split by one: it makes no difference whether namespaces are
left out before a view is planned or after it. Views of JSON are written without them anyway.
-/

namespace DocViews

/-! ## Leaving out namespaces -/

/-- The segment of the same name that is in no namespace. -/
def Segment.bare (s : Segment) : Segment := ⟨s.name, none⟩

def Path.bare (p : Path) : Path := p.map (·.bare)

def Property.bare (p : Property) : Property := ⟨p.path.bare, p.scalar⟩

def ViewGroup.bare (g : ViewGroup) : ViewGroup :=
  ⟨g.roots.map Path.bare, g.properties.map (·.bare)⟩

def ColumnProperty.bare (c : ColumnProperty) : ColumnProperty := ⟨c.path.bare, c.scalar, c.column⟩

def ViewPlan.bare (v : ViewPlan) : ViewPlan :=
  { v with roots := v.roots.map Path.bare, properties := v.properties.map (·.bare) }

@[simp]
theorem Path.bare_names (p : Path) : p.bare.names = p.names := by
  simp [Path.bare, Path.names, Segment.bare]

theorem Path.names_congr {p q : Path} (h : p.bare = q.bare) : p.names = q.names := by
  rw [← p.bare_names, h, q.bare_names]

theorem Path.bare_append (p q : Path) : Path.bare (p ++ q) = p.bare ++ q.bare := List.map_append

theorem ViewPlan.bare_rootPath (v : ViewPlan) : v.bare.rootPath = v.rootPath.bare := by
  unfold ViewPlan.rootPath
  exact (List.map_flatten ..).symm

/-! ## Names of columns -/

/-- As long as paths differ with their namespaces, columns are named as if there were none. -/
theorem nameColumns_bare {namer : Namer} {view : String} {reserved : List String}
    {mapped mapped' : List Path} {ps qs : List Property} (h : ps.map (·.bare) = qs.map (·.bare))
    (hps : Fresh mapped (ps.map (·.path))) (hqs : Fresh mapped' (qs.map (·.path))) :
    Agree (fun cs ds : List ColumnProperty => cs.map (·.bare) = ds.map (·.bare))
      (nameColumns namer view reserved mapped ps) (nameColumns namer view reserved mapped' qs) := by
  induction ps generalizing reserved mapped mapped' qs with
  | nil =>
    obtain rfl := List.map_eq_nil_iff.1 h.symm
    exact .ok rfl
  | cons p ps ih =>
    cases qs with
    | nil => cases h
    | cons q qs =>
      obtain ⟨hpath, hps⟩ := fresh_cons.1 hps
      obtain ⟨hpath', hqs⟩ := fresh_cons.1 hqs
      obtain ⟨hbare, h⟩ := List.cons.inj h
      obtain ⟨hpq, hscalar⟩ := Property.mk.inj hbare
      -- Neither path is mapped yet, and both propose the same column.
      simp only [nameColumns, List.contains_iff_mem, if_neg hpath, if_neg hpath',
        Path.names_congr hpq]
      split
      · exact .error _
      · apply (ih h hps hqs).bind
        intro cs ds hcs
        apply Agree.ok
        rw [List.map_cons, List.map_cons, hcs]
        simp only [ColumnProperty.bare, hpq, hscalar]

/-! ## Parts -/

theorem pieces_map (f : α → β) (n : Nat) (l : List α) :
    pieces n (l.map f) = (pieces n l).map (List.map f) := by
  fun_induction pieces n l with
  | case1 l h =>
    rw [pieces, if_pos (by simpa using h)]
    rfl
  | case2 l h ih =>
    rw [pieces, if_neg (by simpa using h), ← List.map_take, ← List.map_drop, ih]
    rfl

/-- Columns are sorted by their names alone. -/
theorem sortByColumn_bare (cs : List ColumnProperty) :
    sortByColumn (cs.map (·.bare)) = (sortByColumn cs).map (·.bare) := by
  unfold sortByColumn
  rw [List.map_mergeSort]
  intro c _ d _
  rfl

/-- Leaving out namespaces before planning or after it comes to the same. -/
theorem planViews_bare (table : String) (direct taken : List String) (view : String)
    (roots : List Path) (cs : List ColumnProperty) :
    planViews table direct taken view (roots.map Path.bare) (cs.map (·.bare)) =
      (planViews table direct taken view roots cs).map (·.bare) := by
  rcases Nat.lt_or_ge maxColumns cs.length with h | h
  · rw [planViews_of_lt h, planViews_of_lt (by rwa [List.length_map]), planNumbers, planNumbers,
      sortByColumn_bare, pieces_map, List.length_map, List.zip_map_right, List.map_map,
      List.map_map]
    rfl
  · rw [planViews_of_le h, planViews_of_le (by rwa [List.length_map])]
    rfl

/-! ## Views of JSON -/

/-- Where no namespace has a prefix, only the name of a segment is written. -/
theorem Segment.render_name (quote : String → String) (s : Segment) :
    s.render quote (fun _ => none) = quote s.name := by
  unfold Segment.render
  cases s.uri <;> rfl

theorem jsonSteps_bare (start : String) (p : Path) : jsonSteps start p.bare = jsonSteps start p := by
  simp only [jsonSteps, Path.chained, Path.bare, Segment.render_name, List.map_map]
  rfl

theorem jsonRoot_bare (roots : List Path) : jsonRoot (roots.map Path.bare) = jsonRoot roots := by
  simp only [jsonRoot, List.map_map, Function.comp_def, jsonSteps_bare]

theorem jsonProjection_bare (types : TypeNames) (v : ViewPlan) :
    jsonProjection types v.bare = jsonProjection types v := by
  have hcolumns : v.bare.properties.map (fun c => (⟨c.column, types c.scalar, c.path.names⟩ :
      Sql.JsonColumn)) = v.properties.map fun c => ⟨c.column, types c.scalar, c.path.names⟩ := by
    simp [ViewPlan.bare, ColumnProperty.bare]
  have hmappings : v.bare.properties.map (fun c => (jsonSteps "$" (v.bare.rootPath ++ c.path),
      c.column)) = v.properties.map fun c => (jsonSteps "$" (v.rootPath ++ c.path), c.column) := by
    rw [v.bare_rootPath, ViewPlan.bare, List.map_map]
    simp only [Function.comp_def, ColumnProperty.bare, ← Path.bare_append, jsonSteps_bare]
  unfold jsonProjection
  rw [hcolumns, hmappings]
  simp only [ViewPlan.bare, jsonRoot_bare]

end DocViews
