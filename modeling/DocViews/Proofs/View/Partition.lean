import DocViews.Proofs.Numbering
import DocViews.Proofs.View.Columns

/-!
# Parts of a view

A group that does not fit into one view is cut into full parts and a last one, in the order of its
columns. Nothing is lost or shown twice, and every part has a name of its own that was free.
-/

namespace DocViews

/-! ## Pieces of a list -/

theorem pieces_eq_nil_iff {n : Nat} (hn : 0 < n) {l : List α} : pieces n l = [] ↔ l = [] := by
  rw [pieces]
  split
  · rename_i h
    simpa [Nat.ne_of_gt hn] using h
  · rename_i h
    simp only [not_or, List.isEmpty_iff] at h
    simp [h.1]

theorem flatten_pieces {n : Nat} (hn : 0 < n) (l : List α) : (pieces n l).flatten = l := by
  fun_induction pieces n l with
  | case1 l h =>
    have hl : l = [] := by simpa [Nat.ne_of_gt hn] using h
    rw [hl, List.flatten_nil]
  | case2 l h ih => rw [List.flatten_cons, ih, List.take_append_drop]

/-- As many pieces as it takes, and no more. -/
theorem length_pieces {n : Nat} (hn : 0 < n) (l : List α) :
    (pieces n l).length = (l.length + n - 1) / n := by
  fun_induction pieces n l with
  | case1 l h =>
    have hl : l = [] := by simpa [Nat.ne_of_gt hn] using h
    subst hl
    exact (Nat.div_eq_of_lt (by simp only [List.length_nil]; omega)).symm
  | case2 l h ih =>
    have hl : 0 < l.length := by
      simp only [not_or, List.isEmpty_iff] at h
      exact List.length_pos_iff.2 h.1
    rw [List.length_cons, ih, List.length_drop, ← Nat.add_div_right _ hn]
    rcases Nat.lt_or_ge l.length n with hlt | hge
    · rw [Nat.div_eq_of_lt_le (k := 1), Nat.div_eq_of_lt_le (k := 1)] <;> omega
    · congr 1
      omega

/-- All pieces but the last are full. -/
theorem length_of_mem_dropLast_pieces {n : Nat} (hn : 0 < n) {l piece : List α}
    (h : piece ∈ (pieces n l).dropLast) : piece.length = n := by
  fun_induction pieces n l with
  | case1 l hl => simp at h
  | case2 l hl ih =>
    rcases List.eq_nil_or_concat (pieces n (l.drop n)) with hrest | ⟨_, _, hrest⟩
    · simp [hrest] at h
    · -- More pieces follow, so the list is longer than this one.
      have hne : pieces n (l.drop n) ≠ [] := by simp [hrest]
      rw [List.dropLast_cons_of_ne_nil hne] at h
      rcases List.mem_cons.1 h with rfl | h
      · have hdrop := (pieces_eq_nil_iff hn).not.1 hne
        have hlen := List.length_pos_iff.2 hdrop
        rw [List.length_drop] at hlen
        rw [List.length_take]
        omega
      · exact ih h

/-! ## The order of the columns -/

/-- Columns in the order in which they go into parts. -/
def sortByColumn (cs : List ColumnProperty) : List ColumnProperty :=
  cs.mergeSort fun a b => decide (a.column ≤ b.column)

theorem sortByColumn_perm (cs : List ColumnProperty) : (sortByColumn cs).Perm cs :=
  List.mergeSort_perm cs _

/-- It is the order in which the properties are sorted by the columns that are looked up for them,
    whatever would stand for a column that is missing. -/
theorem sortByColumn_lookup {cs : List ColumnProperty} (hpaths : (cs.map (·.path)).Nodup)
    (missing : String) :
    (sortByColumn cs).map (·.property) = (cs.map (·.property)).mergeSort fun a b =>
      decide ((columnOf? cs a.path).getD missing ≤ (columnOf? cs b.path).getD missing) := by
  refine List.map_mergeSort fun a ha b hb => ?_
  have hlookup : ∀ c ∈ cs, columnOf? cs c.property.path = some c.column :=
    fun c hc => columnOf?_of_mem hpaths hc
  rw [hlookup a ha, hlookup b hb, Option.getD_some, Option.getD_some]

/-- Different columns end up in strictly ascending order. -/
theorem sortByColumn_ascending {cs : List ColumnProperty} (hcs : (cs.map (·.column)).Nodup) :
    (sortByColumn cs).Pairwise fun a b => a.column < b.column := by
  have hle : (sortByColumn cs).Pairwise fun a b => a.column ≤ b.column := by
    have hsorted : (sortByColumn cs).Pairwise fun a b => decide (a.column ≤ b.column) :=
      List.pairwise_mergeSort (fun a b c => by simpa using String.le_trans)
        (fun a b => by simpa using String.le_total a.column b.column) cs
    exact hsorted.imp fun h => by simpa using h
  have hne : (sortByColumn cs).Pairwise fun a b => a.column ≠ b.column :=
    List.pairwise_map.1 (((sortByColumn_perm cs).map _).nodup_iff.2 hcs)
  exact hle.imp₂ (fun _ _ h h' => Std.lt_of_le_of_ne h h') hne

/-- So there is one order for them, whatever order they come in. -/
theorem sortByColumn_of_perm {cs ds : List ColumnProperty} (h : cs.Perm ds)
    (hcs : (cs.map (·.column)).Nodup) : sortByColumn cs = sortByColumn ds := by
  have hds : (ds.map (·.column)).Nodup := (h.map _).nodup_iff.1 hcs
  have hsorted : (sortByColumn cs).Perm (sortByColumn ds) :=
    (sortByColumn_perm cs).trans (h.trans (sortByColumn_perm ds).symm)
  refine hsorted.eq_of_pairwise (fun a b _ _ hab hba => ?_) (sortByColumn_ascending hcs)
    (sortByColumn_ascending hds)
  exact absurd hab (String.lt_asymm hba)

/-! ## Planned views -/

section Plans
variable {table : String} {direct taken : List String} {view : String} {roots : List Path}
  {cs : List ColumnProperty} {p : ViewPlan}

/-- A group that fits is one view under the name of the group. -/
theorem planViews_of_le (h : cs.length ≤ maxColumns) :
    planViews table direct taken view roots cs = [⟨view, table, direct, roots, cs⟩] := by
  rw [planViews, if_pos h]

/-- The numbers of the parts of a group. -/
def planNumbers (taken : List String) (view : String) (cs : List ColumnProperty) : List Nat :=
  partNumbers view taken 0 (pieces maxColumns (sortByColumn cs)).length

/-- A larger group is cut in the order of its columns, and its parts are numbered. -/
theorem planViews_of_lt (h : maxColumns < cs.length) :
    planViews table direct taken view roots cs =
      ((planNumbers taken view cs).zip (pieces maxColumns (sortByColumn cs))).map
        fun (n, piece) => ⟨partName view n, table, direct, roots, piece⟩ := by
  rw [planViews, if_neg (Nat.not_le.2 h), List.map_zip_eq_zipWith]
  rfl

/-- The plans of a larger group do not depend on the order in which its columns are given. -/
theorem planViews_of_perm {ds : List ColumnProperty} (hsize : maxColumns < cs.length)
    (hcs : (cs.map (·.column)).Nodup) (h : cs.Perm ds) :
    planViews table direct taken view roots cs = planViews table direct taken view roots ds := by
  have hsort := sortByColumn_of_perm h hcs
  rw [planViews_of_lt hsize, planViews_of_lt (h.length_eq ▸ hsize), planNumbers, planNumbers, hsort]

theorem length_planNumbers :
    (planNumbers taken view cs).length = (pieces maxColumns (sortByColumn cs)).length :=
  length_partNumbers ..

theorem planViews_map_name (h : maxColumns < cs.length) :
    (planViews table direct taken view roots cs).map (·.name) =
      (planNumbers taken view cs).map (partName view) := by
  calc (planViews table direct taken view roots cs).map (·.name)
      = (((planNumbers taken view cs).zip (pieces maxColumns (sortByColumn cs))).map (·.1)).map
          (partName view) := by rw [planViews_of_lt h, List.map_map, List.map_map]; rfl
    _ = (planNumbers taken view cs).map (partName view) := by
        rw [List.map_fst_zip (Nat.le_of_eq length_planNumbers)]

theorem planViews_map_properties (h : maxColumns < cs.length) :
    (planViews table direct taken view roots cs).map (·.properties) =
      pieces maxColumns (sortByColumn cs) := by
  calc (planViews table direct taken view roots cs).map (·.properties)
      = ((planNumbers taken view cs).zip (pieces maxColumns (sortByColumn cs))).map (·.2) := by
        rw [planViews_of_lt h, List.map_map]; rfl
    _ = pieces maxColumns (sortByColumn cs) :=
        List.map_snd_zip (Nat.le_of_eq length_planNumbers.symm)

/-- One part after another, the parts of a group list its columns in order. -/
theorem planViews_flatMap_properties (h : maxColumns < cs.length) :
    (planViews table direct taken view roots cs).flatMap (·.properties) = sortByColumn cs := by
  rw [List.flatMap_def, planViews_map_properties h, flatten_pieces (by decide)]

/-- Whether or not it is split, a group shows each of its columns once. -/
theorem planViews_properties_perm :
    ((planViews table direct taken view roots cs).flatMap (·.properties)).Perm cs := by
  rcases Nat.lt_or_ge maxColumns cs.length with h | h
  · rw [planViews_flatMap_properties h]
    exact sortByColumn_perm cs
  · rw [planViews_of_le h, List.flatMap_singleton]

/-- A view of a group is called like the group, with a number if it is a part. -/
theorem planViews_name (h : p ∈ planViews table direct taken view roots cs) :
    p.name = view ∨ ∃ k, p.name = partName view k := by
  rcases Nat.lt_or_ge maxColumns cs.length with hlt | hge
  · have hname : p.name ∈ (planNumbers taken view cs).map (partName view) := by
      rw [← planViews_map_name hlt]
      exact List.mem_map_of_mem h
    obtain ⟨k, _, hk⟩ := List.mem_map.1 hname
    exact .inr ⟨k, hk.symm⟩
  · rw [planViews_of_le hge, List.mem_singleton] at h
    subst h
    exact .inl rfl

/-- The views of a group get fresh names. -/
theorem planViews_names_fresh (hview : view ∉ taken) :
    Fresh taken ((planViews table direct taken view roots cs).map (·.name)) := by
  rcases Nat.lt_or_ge maxColumns cs.length with h | h
  · rw [planViews_map_name h]
    refine (fresh_map_iff (partNames_nodup ..)).2 fun k hk => ?_
    exact ((partNumbers_smallestFree ..).free k hk).2
  · rw [planViews_of_le h]
    exact fresh_singleton.2 hview

/-- All views of a group are over the same table, with the same raw columns and roots. -/
theorem of_mem_planViews (h : p ∈ planViews table direct taken view roots cs) :
    p.table = table ∧ p.direct = direct ∧ p.roots = roots := by
  rcases Nat.lt_or_ge maxColumns cs.length with hlt | hge
  · rw [planViews_of_lt hlt] at h
    obtain ⟨⟨n, piece⟩, _, rfl⟩ := List.mem_map.1 h
    exact ⟨rfl, rfl, rfl⟩
  · rw [planViews_of_le hge, List.mem_singleton] at h
    subst h
    exact ⟨rfl, rfl, rfl⟩

end Plans

end DocViews
