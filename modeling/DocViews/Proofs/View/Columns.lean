import DocViews.Proofs.Fresh
import DocViews.Proofs.Outcome
import DocViews.View.Columns

/-!
# Columns of a group

Whatever names the namer proposes, naming succeeds only with columns that are all different and
apart from those reserved, one for each property. So the columns can be looked up by path, and
every look-up finds the column of just that property.
-/

namespace DocViews

/-- The property that a column was given to. -/
def ColumnProperty.property (c : ColumnProperty) : Property := ⟨c.path, c.scalar⟩

/-! ## Naming -/

section Naming
variable {namer : Namer} {view : String} {reserved : List String} {mapped : List Path}
  {p : Property} {ps : List Property} {cs : List ColumnProperty}

theorem nameColumns_nil_eq_ok : nameColumns namer view reserved mapped [] = .ok cs ↔ cs = [] := by
  simp [nameColumns, eq_comm]

/-- One step of naming: path and column are new, and both are taken from then on. -/
theorem nameColumns_cons_eq_ok :
    nameColumns namer view reserved mapped (p :: ps) = .ok cs ↔
      p.path ∉ mapped ∧ namer p.path.names reserved.contains ∉ reserved ∧
        ∃ rest, nameColumns namer view (namer p.path.names reserved.contains :: reserved)
            (p.path :: mapped) ps = .ok rest ∧
          cs = ⟨p.path, p.scalar, namer p.path.names reserved.contains⟩ :: rest := by
  simp only [nameColumns, guard_eq_ok, bind_eq_ok, pure_eq_ok, List.contains_iff_mem]
  constructor
  · rintro ⟨hpath, hcolumn, rest, hrest, rfl⟩
    exact ⟨hpath, hcolumn, rest, hrest, rfl⟩
  · rintro ⟨hpath, hcolumn, rest, hrest, rfl⟩
    exact ⟨hpath, hcolumn, rest, hrest, rfl⟩

/-- Columns `cs` for the properties `ps`: one for each, in order, with fresh paths and columns. -/
structure Assigned (reserved : List String) (mapped : List Path) (ps : List Property)
    (cs : List ColumnProperty) : Prop where
  properties : cs.map (·.property) = ps
  paths : Fresh mapped (cs.map (·.path))
  columns : Fresh reserved (cs.map (·.column))

/-- Naming that succeeds assigns columns, whatever the namer proposed. -/
theorem nameColumns_assigned (h : nameColumns namer view reserved mapped ps = .ok cs) :
    Assigned reserved mapped ps cs := by
  induction ps generalizing reserved mapped cs with
  | nil =>
    rw [nameColumns_nil_eq_ok] at h
    subst h
    exact ⟨rfl, fresh_nil, fresh_nil⟩
  | cons p ps ih =>
    obtain ⟨hpath, hcolumn, rest, hrest, rfl⟩ := nameColumns_cons_eq_ok.1 h
    -- The rest is fresh even with the path and the column of `p` taken.
    obtain ⟨hproperties, hpaths, hcolumns⟩ := ih hrest
    refine ⟨?_, fresh_cons.2 ⟨hpath, hpaths⟩, fresh_cons.2 ⟨hcolumn, hcolumns⟩⟩
    rw [List.map_cons, hproperties]
    rfl

/-- Each column is what the namer gave for the path, with some names taken. -/
theorem nameColumns_named (h : nameColumns namer view reserved mapped ps = .ok cs) :
    ∀ c ∈ cs, ∃ taken, c.column = namer c.path.names taken := by
  induction ps generalizing reserved mapped cs with
  | nil =>
    rw [nameColumns_nil_eq_ok] at h
    subst h
    simp
  | cons p ps ih =>
    obtain ⟨_, _, rest, hrest, rfl⟩ := nameColumns_cons_eq_ok.1 h
    exact List.forall_mem_cons.2 ⟨⟨_, rfl⟩, ih hrest⟩

/-- A namer that gives a name of its own choice wherever it is free succeeds as long as all of these
    names are fresh. -/
theorem nameColumns_of_fresh {f : List String → String}
    (hnamer : ∀ segments taken, taken (f segments) = false → namer segments taken = f segments)
    (hpaths : Fresh mapped (ps.map (·.path)))
    (hcolumns : Fresh reserved (ps.map fun p => f p.path.names)) :
    nameColumns namer view reserved mapped ps =
      .ok (ps.map fun p => ⟨p.path, p.scalar, f p.path.names⟩) := by
  induction ps generalizing reserved mapped with
  | nil => rfl
  | cons p ps ih =>
    obtain ⟨hpath, hpaths⟩ := fresh_cons.1 hpaths
    obtain ⟨hcolumn, hcolumns⟩ := fresh_cons.1 hcolumns
    have hfree : namer p.path.names reserved.contains = f p.path.names :=
      hnamer _ _ (by simpa using hcolumn)
    rw [nameColumns_cons_eq_ok, hfree]
    exact ⟨hpath, hcolumn, _, ih hpaths hcolumns, rfl⟩

theorem Assigned.length_eq (h : Assigned reserved mapped ps cs) : cs.length = ps.length := by
  rw [← h.properties, List.length_map]

theorem Assigned.paths_eq (h : Assigned reserved mapped ps cs) :
    cs.map (·.path) = ps.map (·.path) := by
  rw [← h.properties, List.map_map]
  rfl

end Naming

/-! ## Looking up -/

/-- The column of a path among the columns of a group. -/
def columnOf? (cs : List ColumnProperty) (path : Path) : Option String :=
  (cs.find? (·.path == path)).map (·.column)

/-- Where all paths differ, a look-up by path finds the column of that very property. -/
theorem columnOf?_of_mem {cs : List ColumnProperty} (hpaths : (cs.map (·.path)).Nodup)
    {c : ColumnProperty} (hc : c ∈ cs) : columnOf? cs c.path = some c.column := by
  induction cs with
  | nil => simp at hc
  | cons d cs ih =>
    obtain ⟨hd, hcs⟩ := List.nodup_cons.1 hpaths
    rcases List.mem_cons.1 hc with rfl | hc
    · simp [columnOf?]
    · have hne : d.path ≠ c.path := by
        intro heq
        exact hd (List.mem_map.2 ⟨c, hc, heq.symm⟩)
      have hih := ih hcs hc
      simp only [columnOf?] at hih ⊢
      rw [List.find?_cons_of_neg (by simpa using hne), hih]

end DocViews
