import DocViews.Proofs.Compile.Causes
import DocViews.Proofs.Naming.Stability

/-!
# The order of properties

A group that fits into one view shows its properties in the order in which they are given. The parts
of a larger group go by its columns, so its properties may be given in any order as long as this
does not change which column each of them gets. With plain names, however they are spelled, it does
not if no column needs a number.
-/

namespace DocViews

/-! ## Columns without numbers -/

/-- A property with a column that is called like it. -/
def Property.freeColumn (spell : String → String) (n : PlainNamer) (p : Property) : ColumnProperty :=
  ⟨p.path, p.scalar, n.freeNameBy spell p.path.names⟩

/-- A group of more than 200 properties with different paths, whose columns need no numbers: they
    are different without any, also from the columns `direct`. -/
structure Reorderable (spell : String → String) (n : PlainNamer) (direct : List String)
    (g : ViewGroup) : Prop where
  large : 200 < g.properties.length
  paths_nodup : (g.properties.map (·.path)).Nodup
  columns_nodup : (g.properties.map fun p => n.freeNameBy spell p.path.names).Nodup
  columns_new : ∀ p ∈ g.properties, n.freeNameBy spell p.path.names ∉ direct

/-- Two groups are the same, or the second has the properties of the first in another order. -/
inductive Reordered (spell : String → String) (n : PlainNamer) (direct : List String) :
    ViewGroup → ViewGroup → Prop
  | same (g : ViewGroup) : Reordered spell n direct g g
  | reordered {roots : List Path} {ps qs : List Property} :
    Reorderable spell n direct ⟨roots, ps⟩ → ps.Perm qs →
      Reordered spell n direct ⟨roots, ps⟩ ⟨roots, qs⟩

section Groups
variable {config : Config} {spell : String → String} {n : PlainNamer} {base : String}
  {direct taken : List String}

theorem Reorderable.perm {roots : List Path} {ps qs : List Property}
    (h : Reorderable spell n direct ⟨roots, ps⟩) (hperm : ps.Perm qs) :
    Reorderable spell n direct ⟨roots, qs⟩ where
  large := hperm.length_eq ▸ h.large
  paths_nodup := (hperm.map _).nodup_iff.1 h.paths_nodup
  columns_nodup := (hperm.map _).nodup_iff.1 h.columns_nodup
  columns_new p hp := h.columns_new p (hperm.mem_iff.2 hp)

/-- What a property gets does not depend on those before it. -/
theorem Reorderable.nameColumns {g : ViewGroup} (h : Reorderable spell n direct g) (view : String) :
    nameColumns (n.resolveBy spell) view direct [] g.properties =
      .ok (g.properties.map (·.freeColumn spell n)) :=
  nameColumns_of_fresh (fun segments _ => n.resolveBy_of_free spell segments)
    (fresh_of_nil.2 h.paths_nodup) ((fresh_map_iff h.columns_nodup).2 h.columns_new)

/-! ## Groups -/

/-- A group yields the same views or the same error. -/
theorem Reordered.projectGroup_eq {g h : ViewGroup} (hgh : Reordered spell n direct g h) :
    projectGroup config (n.resolveBy spell) base direct taken g =
      projectGroup config (n.resolveBy spell) base direct taken h := by
  cases hgh with
  | same => rfl
  | @reordered roots ps qs hps hperm =>
    have hsize : maxColumns < (ps.map (·.freeColumn spell n)).length := by
      rw [List.length_map]
      exact hps.large
    have hcolumns : ((ps.map (·.freeColumn spell n)).map (·.column)).Nodup := by
      rw [List.map_map]
      exact hps.columns_nodup
    have hviews : ∀ view,
        (nameColumns (n.resolveBy spell) view direct [] ps >>= fun cs =>
          (planViews (rawTableName base) direct taken view roots cs).mapM (project config)) =
        nameColumns (n.resolveBy spell) view direct [] qs >>= fun cs =>
          (planViews (rawTableName base) direct taken view roots cs).mapM (project config) := by
      intro view
      rw [hps.nameColumns, (hps.perm hperm).nameColumns]
      exact congrArg (List.mapM (project config)) (planViews_of_perm hsize hcolumns (hperm.map _))
    -- The name of the view is made of the roots alone.
    have hsegments : viewSegments config.dialect base ⟨roots, ps⟩ =
        viewSegments config.dialect base ⟨roots, qs⟩ := rfl
    simp only [projectGroup, hsegments, hviews]

/-- Group by group, the same names are taken for the next one. -/
theorem projectGroups_of_reordered {vs ws : List ViewGroup}
    (h : List.Forall₂ (Reordered spell n direct) vs ws) :
    projectGroups config (n.resolveBy spell) base direct taken vs =
      projectGroups config (n.resolveBy spell) base direct taken ws := by
  induction h generalizing taken with
  | nil => rfl
  | cons hgroup _ ih => simp only [projectGroups, hgroup.projectGroup_eq, ih]

end Groups

/-! ## Document types -/

/-- The properties of a group that is cut into parts may be given in any order if their columns need
    no numbers. All that a document type compiles to stays the same, and so does the error if it
    does not compile. -/
theorem compile_reordered {Document : Type} {config : Config} {name : String}
    {vs ws : List ViewGroup} {spell : String → String} {n : PlainNamer}
    {table : TablePolicy Document}
    (h : List.Forall₂
      (Reordered spell n (["ID", "REVISION", "DELETED", "PAYLOAD"] ++ table.columns.map (·.1))) vs ws) :
    compile config name vs (n.resolveBy spell) table =
      compile config name ws (n.resolveBy spell) table := by
  have hgroups : ∀ base taken,
      projectGroups config (n.resolveBy spell) base (directColumns table.columns) taken vs =
        projectGroups config (n.resolveBy spell) base (directColumns table.columns) taken ws :=
    fun _ _ => projectGroups_of_reordered h
  simp only [compile_eq_bind, hgroups]

/-! ## Prices of lines -/

theorem freeName_letter_number {i : Nat} (h : i < 1000) :
    PlainNamer.freeNameBy Naming.shoutySnake ⟨50⟩ ["P" ++ Nat.repr i] = "P" ++ Nat.repr i := by
  have hchars : ("P" ++ Nat.repr i).toList = 'P' :: (Nat.repr i).toList := by
    rw [String.toList_append]
    rfl
  have hlen : (Nat.repr i).length ≤ 3 := (length_repr_le_iff (by decide)).2 h
  have hword : '_' ∉ ("P" ++ Nat.repr i).toList := by
    rw [hchars, List.mem_cons, not_or]
    exact ⟨by decide, underscore_not_mem_repr i⟩
  refine PlainNamer.freeName_of_identifier (PlainNamer.isIdentifier_iff.2 ⟨?_, ?_, ?_⟩) ?_ hword
  · exact ⟨'P', by simp [hchars], by decide⟩
  · rw [hchars, List.forall_mem_cons]
    exact ⟨by decide, fun c hc => by simp [PlainNamer.isPlain, isDigit_of_mem_repr hc]⟩
  · exact fun hlast => hword (List.mem_of_mem_getLast? hlast)
  · rw [hchars, List.length_cons, String.length_toList]
    exact Nat.le_trans (Nat.succ_le_succ hlen) (by decide)

/-- Prices of lines, each called by a letter and a number. -/
def priceGroup (numbers : List Nat) : ViewGroup where
  roots := [[⟨"lines", none⟩]]
  properties := numbers.map fun i => ⟨[⟨"P" ++ Nat.repr i, none⟩], .decimal⟩

theorem priceGroup_reorderable :
    Reorderable Naming.shoutySnake ⟨50⟩ ["ID", "REVISION", "DELETED", "PAYLOAD", "TENANT"]
      (priceGroup (List.range 201)) := by
  have hinjective : Function.Injective fun i => "P" ++ Nat.repr i :=
    fun _ _ h => repr_injective ((String.append_right_inj _).1 h)
  have hnames : ∀ i ∈ List.range 201,
      PlainNamer.freeNameBy Naming.shoutySnake ⟨50⟩ ["P" ++ Nat.repr i] = "P" ++ Nat.repr i :=
    fun i hi => freeName_letter_number (Nat.lt_trans (List.mem_range.1 hi) (by decide))
  have hnew : ∀ i ∈ List.range 201,
      "P" ++ Nat.repr i ∉ ["ID", "REVISION", "DELETED", "PAYLOAD", "TENANT"] := by
    decide +kernel
  constructor
  case large => simp [priceGroup]
  case paths_nodup =>
    rw [priceGroup, List.map_map]
    refine List.nodup_range.map fun i j h => hinjective ?_
    simpa using h
  case columns_nodup =>
    rw [priceGroup, List.map_map]
    refine List.Nodup.map_on (fun i hi j hj h => hinjective ?_) List.nodup_range
    exact (hnames i hi).symm.trans (h.trans (hnames j hj))
  case columns_new => exact List.forall_mem_map.2 fun i hi => (hnames i hi).symm ▸ hnew i hi

/-- In descending order, the prices are shown by the same views. -/
theorem prices_reordered :
    List.Forall₂
      (Reordered Naming.shoutySnake ⟨50⟩ ["ID", "REVISION", "DELETED", "PAYLOAD", "TENANT"])
      [priceGroup (List.range 201)] [priceGroup (List.range 201).reverse] ∧
    ∃ b, compile (Config.json.withMetadataView false) "doc" [priceGroup (List.range 201)]
        (PlainNamer.resolve ⟨50⟩) (staticColumns [("TENANT", "TEXT")]) = .ok b ∧
      compile (Config.json.withMetadataView false) "doc" [priceGroup (List.range 201).reverse]
        (PlainNamer.resolve ⟨50⟩) (staticColumns [("TENANT", "TEXT")]) = .ok b := by
  have hreordered :
      List.Forall₂
        (Reordered Naming.shoutySnake ⟨50⟩ ["ID", "REVISION", "DELETED", "PAYLOAD", "TENANT"])
        [priceGroup (List.range 201)] [priceGroup (List.range 201).reverse] :=
    .cons (.reordered priceGroup_reorderable ((List.reverse_perm _).symm.map _)) .nil
  have hok : ∃ b, compile (Config.json.withMetadataView false) "doc" [priceGroup (List.range 201)]
      (PlainNamer.resolve ⟨50⟩) (staticColumns [("TENANT", "TEXT")]) = .ok b := by
    refine exists_compile ⟨Config.json, by simp, rfl, rfl⟩ ⟨?_, ?_, ?_⟩ ?_ ?_
    · decide
    · simp [priceGroup, staticColumns]
    · simp [priceGroup, ViewGroup.viewCount]
    · exact List.forall_mem_singleton.2 priceGroup_reorderable.paths_nodup
    · exact fun htaken => Bool.false_ne_true htaken.1
  obtain ⟨b, hb⟩ := hok
  exact ⟨hreordered, b, hb, (compile_reordered hreordered).symm.trans hb⟩

end DocViews
