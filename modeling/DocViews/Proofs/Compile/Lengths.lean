import DocViews.Proofs.Compile.Causes
import DocViews.Proofs.Compile.Columns
import DocViews.Proofs.Compile.Relations
import DocViews.Proofs.Naming.Budget

/-!
# The length of names

A namer with a budget leaves room for what is added to its names: endings of four characters, and
the numbers of parts. The numbers have no bound of their own. But each number below one that is used
belongs to a name that is registered, so there are more objects than the largest number.
-/

namespace DocViews

/-! ## Bytes -/

/-- Characters of ASCII take one byte each. -/
theorem utf8ByteSize_of_ascii {s : String} (h : ∀ c ∈ s.toList, c.val ≤ 127) :
    s.utf8ByteSize = s.length := by
  have hbytes : s.utf8ByteSize = (Text.bytes s).length := rfl
  have hone : ∀ c ∈ s.toList, (String.utf8EncodeChar c).length = 1 := fun c hc =>
    (String.length_utf8EncodeChar c).trans (Char.utf8Size_eq_one_iff.2 (h c hc))
  rw [hbytes, Text.bytes_eq_flatMap, List.length_flatMap, List.map_congr_left hone,
    List.map_const', List.sum_replicate_nat, Nat.mul_one, String.length_toList]

theorem utf8ByteSize_repr (k : Nat) : (Nat.repr k).utf8ByteSize = (Nat.repr k).length := by
  refine utf8ByteSize_of_ascii fun c hc => ?_
  have hdigit := isDigit_of_mem_repr hc
  rw [Char.isDigit, Bool.and_eq_true] at hdigit
  exact UInt32.le_trans (of_decide_eq_true hdigit.2) (by decide)

theorem utf8ByteSize_partName (view : String) (k : Nat) :
    (partName view k).utf8ByteSize = view.utf8ByteSize + 1 + (Nat.repr k).length := by
  rw [partName, String.utf8ByteSize_append, String.utf8ByteSize_append, utf8ByteSize_repr]
  rfl

/-- The characters of an identifier are ASCII, so a budget is one of bytes, too. -/
theorem PlainNamer.utf8ByteSize_resolveBy_le (spell : String → String) {n : PlainNamer}
    (h : 6 ≤ n.maxLength) (segments : List String) (taken : String → Bool) :
    (n.resolveBy spell segments taken).utf8ByteSize ≤ n.maxLength := by
  rw [utf8ByteSize_of_ascii fun c hc => ?_]
  · exact n.length_resolveBy_le spell segments h taken
  · exact UInt32.le_of_lt (UInt32.lt_trans
      (val_lt_of_isPlain (n.resolveBy_plain spell segments taken hc)) (by decide))

/-! ## Groups -/

/-- How long the names are that the group `g` is given, in a bundle with as many objects. -/
structure GroupFits (config : Config) (budget objects : Nat) (g : ViewGroup) (r : GroupResult) :
    Prop where
  /-- Each plan is written as one view, with its name and its columns. -/
  written : List.Forall₂ (Writes config) r.plans r.views
  columns : ∀ v ∈ r.plans, ∀ c ∈ v.properties, c.column.utf8ByteSize ≤ budget
  whole : g.properties.length ≤ 200 → r.names = [r.view] ∧ r.view.utf8ByteSize ≤ budget
  parts : 200 < g.properties.length → ∃ ks : List Nat, r.names = ks.map (partName r.view) ∧
    ∀ k ∈ ks, k < objects ∧
      (partName r.view k).utf8ByteSize ≤ budget + 1 + (Nat.repr k).length

section Groups
variable {config : Config} {spell : String → String} {n : PlainNamer} {base : String}
  {direct registered names : List String} {g : ViewGroup} {r : GroupResult}

theorem GroupStep.groupFits (hn : 6 ≤ n.maxLength)
    (h : GroupStep config (n.resolveBy spell) base direct registered g r)
    (hregistered : registered ⊆ names) (hnames : r.names ⊆ names) :
    GroupFits config n.maxLength names.length g r := by
  have hview : r.view.utf8ByteSize ≤ n.maxLength := by
    rw [h.view_eq]
    exact n.utf8ByteSize_resolveBy_le spell hn _ _
  constructor
  case written => exact h.written
  case columns =>
    intro v hv c hc
    obtain ⟨taken, hcolumn⟩ := nameColumns_named h.columns_ok c ((h.view_columns hv).1 hc)
    rw [hcolumn]
    exact n.utf8ByteSize_resolveBy_le spell hn _ _
  case whole =>
    intro hsize
    rw [h.names_eq]
    exact ⟨(h.partitioned.whole hsize).1, hview⟩
  case parts =>
    intro hsize
    obtain ⟨ks, hfree, hks⟩ := (h.partitioned.parts hsize).numbers
    rw [← h.names_eq] at hks
    refine ⟨ks, hks, fun k hk => ⟨?_, ?_⟩⟩
    · -- A number is skipped only if its name is registered, and all of `names` are.
      exact hfree.lt_length (partName_injective r.view) hregistered (hks ▸ hnames) hk
    · rw [utf8ByteSize_partName]
      omega

namespace GroupFits

variable {budget objects : Nat}

theorem views_fit (h : GroupFits config budget objects g r) {e : Nat} (he : 0 < e)
    (hobjects : objects < 10 ^ e) : ∀ name ∈ r.names, name.utf8ByteSize ≤ budget + 1 + e := by
  intro name hname
  rcases Nat.lt_or_ge 200 g.properties.length with hlarge | hsmall
  · obtain ⟨ks, hnames, hks⟩ := h.parts hlarge
    rw [hnames] at hname
    obtain ⟨k, hk, rfl⟩ := List.mem_map.1 hname
    obtain ⟨hlt, hbytes⟩ := hks k hk
    have hdigits : (Nat.repr k).length ≤ e := (length_repr_le_iff he).2 (by omega)
    omega
  · obtain ⟨hnames, hview⟩ := h.whole hsmall
    rw [hnames, List.mem_singleton] at hname
    subst hname
    omega

theorem columns_fit (h : GroupFits config budget objects g r) :
    ∀ p ∈ r.views, ∀ column ∈ p.mappings.map (·.2), column.utf8ByteSize ≤ budget := by
  intro p hp column hcolumn
  -- The mappings of a view name the columns of its plan.
  obtain ⟨before, after, hviews⟩ := List.append_of_mem hp
  obtain ⟨_, v, _, hplans, _, hwrites, _⟩ := forall₂_append_cons (hviews ▸ h.written)
  rw [hwrites.mapped_columns] at hcolumn
  obtain ⟨c, hc, rfl⟩ := List.mem_map.1 hcolumn
  exact h.columns v (by simp [hplans]) c hc

end GroupFits

/-- Along a run, every group is shown in the views that it takes. -/
theorem GroupsRun.length_names {namer : Namer} {gs : List ViewGroup} {rs : List GroupResult}
    (h : GroupsRun config namer base direct registered gs rs) :
    (rs.flatMap (·.names)).length = (gs.map (·.viewCount)).sum := by
  induction h with
  | nil => rfl
  | cons hstep _ ih =>
    rw [List.flatMap_cons, List.length_append, hstep.length_names, ih, List.map_cons,
      List.sum_cons]

end Groups

/-! ## Bundles -/

/-- The columns of the properties that a bundle shows, view by view. -/
def Bundle.propertyColumns {Document : Type} (b : Bundle Document) : List String :=
  b.metadata.flatMap fun m => m.columns.map (·.2)

section Bundles
variable {Document : Type} {config : Config} {name : String} {groups : List ViewGroup}
  {spell : String → String} {n : PlainNamer} {table : TablePolicy Document} {b : Bundle Document}

/-- Each index has the name that the namer gave for its column, with some names taken. -/
theorem nameIndices_named {namer : Namer} {base : String} {reserved columns : List String}
    {is : List (String × String)} (h : nameIndices namer base reserved columns = .ok is) :
    ∀ i ∈ is, ∃ taken, i.1 = namer [base, i.2] taken := by
  induction columns generalizing reserved is with
  | nil =>
    cases h
    simp
  | cons column columns ih =>
    obtain ⟨_, h⟩ := guard_eq_ok.1 h
    obtain ⟨rest, hrest, h⟩ := bind_eq_ok.1 h
    rw [← pure_eq_ok.1 h]
    exact List.forall_mem_cons.2 ⟨⟨_, rfl⟩, ih hrest⟩

/-- The relations of a bundle beside the views of its groups, with the metadata view. -/
def ownNames (base : String) (indices : List String) : List String :=
  [base ++ "_RAW", base ++ "_PK"] ++ indices.map (· ++ "_IDX")
    ++ [base ++ "_MIN", base ++ "_MAX", base ++ "_NOW", base ++ "_MTA"]

theorem ownNames_fit {base : String} {indices : List String} {budget : Nat}
    (hbase : base.utf8ByteSize ≤ budget) (hindices : ∀ i ∈ indices, i.utf8ByteSize ≤ budget) :
    ∀ name ∈ ownNames base indices, name.utf8ByteSize ≤ budget + 4 := by
  have hending : ∀ s : String, s.utf8ByteSize ≤ 4 → (base ++ s).utf8ByteSize ≤ budget + 4 := by
    intro s hs
    rw [String.utf8ByteSize_append]
    exact Nat.add_le_add hbase hs
  have hindex : ∀ i ∈ indices, (i ++ "_IDX").utf8ByteSize ≤ budget + 4 := by
    intro i hi
    rw [String.utf8ByteSize_append]
    exact Nat.add_le_add_right (hindices i hi) 4
  simp only [ownNames, List.forall_mem_append, List.forall_mem_map, List.forall_mem_cons]
  refine ⟨⟨⟨?_, ?_, by simp⟩, hindex⟩, ?_, ?_, ?_, ?_, by simp⟩ <;> exact hending _ (by decide)

/-- A bundle has as many objects as it takes: a table, three views on revisions, the views of its
    groups, and the metadata view if there is one. -/
theorem compile_objects_length {namer : Namer}
    (h : compile config name groups namer table = .ok b) :
    b.objects.length =
      4 + (groups.map (·.viewCount)).sum + if config.metadataView then 1 else 0 := by
  obtain ⟨is, rs, listing, _, hrun, hlisting, rfl⟩ := compile_eq_ok.1 h
  obtain ⟨_, rfl⟩ := metadataViews_eq_ok.1 hlisting
  rw [← List.length_map (·.name), bundleOf_object_names, List.length_append, List.length_append,
    hrun.length_names, List.length_map, apply_ite List.length]
  rfl

/-- The names of a bundle, and how long they are: `indices` are the names of its indices before
    their ending, and `rs` is what became of its groups. -/
structure BundleFits (config : Config) (budget : Nat) (groups : List ViewGroup)
    (b : Bundle Document) (indices : List String) (rs : List GroupResult) : Prop where
  groups_shown : Shows config b groups rs
  relations : b.relationNames =
    [b.base ++ "_RAW", b.base ++ "_PK"] ++ indices.map (· ++ "_IDX")
      ++ [b.base ++ "_MIN", b.base ++ "_MAX", b.base ++ "_NOW"] ++ rs.flatMap (·.names)
      ++ (if config.metadataView then [b.base ++ "_MTA"] else [])
  own_fit : ∀ name ∈ ownNames b.base indices, name.utf8ByteSize ≤ budget + 4
  groups_fit : ∀ (i : Nat) g r, groups[i]? = some g → rs[i]? = some r →
    GroupFits config budget b.objects.length g r

namespace BundleFits

variable {budget : Nat} {indices : List String} {rs : List GroupResult} {e : Nat}

theorem group_fits (h : BundleFits config budget groups b indices rs) {r : GroupResult}
    (hr : r ∈ rs) : ∃ g, GroupFits config budget b.objects.length g r := by
  obtain ⟨i, hi, rfl⟩ := List.getElem_of_mem hr
  have hlt : i < groups.length := h.groups_shown.length_eq ▸ hi
  exact ⟨groups[i], h.groups_fit i _ _ (List.getElem?_eq_getElem hlt) (List.getElem?_eq_getElem hi)⟩

/-- The numbers of parts need more room than the endings, if anything does. -/
theorem relations_fit (h : BundleFits config budget groups b indices rs) (he : 3 ≤ e)
    (hobjects : b.objects.length < 10 ^ e) :
    ∀ name ∈ b.relationNames, name.utf8ByteSize ≤ budget + 1 + e := by
  intro name hname
  -- A relation is one of those that every bundle has, or it is the view of a group.
  have hcases : name ∈ ownNames b.base indices ∨ ∃ r ∈ rs, name ∈ r.names := by
    rw [h.relations] at hname
    simp only [List.mem_append, List.mem_flatMap] at hname
    rcases hname with (hfront | hview) | hlisting
    · exact .inl (by simp only [ownNames, List.mem_append, List.mem_cons] at hfront ⊢; tauto)
    · exact .inr hview
    · refine .inl ?_
      split at hlisting
      · simp_all [ownNames]
      · exact absurd hlisting List.not_mem_nil
  rcases hcases with hown | ⟨r, hr, hname⟩
  · have hbytes := h.own_fit name hown
    omega
  · obtain ⟨g, hfit⟩ := h.group_fits hr
    exact hfit.views_fit (by omega) hobjects name hname

theorem columns_fit (h : BundleFits config budget groups b indices rs) :
    ∀ column ∈ b.propertyColumns, column.utf8ByteSize ≤ budget := by
  intro column hcolumn
  rw [Bundle.propertyColumns, h.groups_shown.metadata_eq] at hcolumn
  obtain ⟨m, hm, hcolumn⟩ := List.mem_flatMap.1 hcolumn
  obtain ⟨p, hp, rfl⟩ := List.mem_map.1 hm
  obtain ⟨r, hr, hp⟩ := List.mem_flatMap.1 hp
  obtain ⟨g, hfit⟩ := h.group_fits hr
  exact hfit.columns_fit p hp column hcolumn

end BundleFits

theorem bundleOf_groups_fit {indices : List (String × String)} {rs : List GroupResult}
    {listing : List (String × Sql.Query)} {base : String} (hn : 6 ≤ n.maxLength)
    (hrun : GroupsRun config (n.resolveBy spell) base (directColumns table.columns) (initialNames base)
      groups rs) {i : Nat} {g : ViewGroup} {r : GroupResult} (hg : groups[i]? = some g)
    (hr : rs[i]? = some r) :
    GroupFits config n.maxLength
      (bundleOf config table base indices (rs.flatMap (·.views)) listing).objects.length g r := by
  rw [← List.length_map (·.name), bundleOf_object_names]
  refine (hrun.step hg hr).groupFits hn ?_ ?_
  · -- The groups before this one have names of the bundle, too.
    rw [List.append_assoc]
    refine List.append_subset.2 ⟨List.subset_append_left _ _, fun name hname => ?_⟩
    obtain ⟨r', hr', hname⟩ := List.mem_flatMap.1 hname
    have hmem : name ∈ rs.flatMap (·.names) :=
      List.mem_flatMap.2 ⟨r', List.mem_of_mem_take hr', hname⟩
    simp [hmem]
  · intro name hname
    have hmem : name ∈ rs.flatMap (·.names) :=
      List.mem_flatMap.2 ⟨r, List.mem_of_getElem? hr, hname⟩
    simp [hmem]

/-- Whatever is compiled with names of a budget has fitting names. -/
theorem exists_bundleFits (h : compile config name groups (n.resolveBy spell) table = .ok b)
    (hn : 6 ≤ n.maxLength) :
    ∃ indices rs, indices.length = table.columns.length ∧
      BundleFits config n.maxLength groups b indices rs := by
  obtain ⟨is, rs, listing, his, hrun, hlisting, rfl⟩ := compile_eq_ok.1 h
  obtain ⟨_, rfl⟩ := metadataViews_eq_ok.1 hlisting
  refine ⟨is.map (·.1), rs, ?_, ?_⟩
  · rw [List.length_map, ← List.length_map (·.2), (nameIndices_spec his).1, List.length_map]
  · constructor
    case groups_shown => exact ⟨hrun.length_eq, rfl, creationStatements_views ..⟩
    case relations =>
      rw [bundleOf_relationNames, ← flatMap_views_name, viewsOf]
      simp [bundleOf, indexNames, temporalViews, rawTableName, apply_ite (List.map Prod.fst)]
    case own_fit =>
      have hbase : (baseName (n.resolveBy spell) name).utf8ByteSize ≤ n.maxLength :=
        n.utf8ByteSize_resolveBy_le spell hn _ _
      refine ownNames_fit hbase ?_
      rw [List.forall_mem_map]
      intro i hi
      obtain ⟨taken, hname⟩ := nameIndices_named his i hi
      rw [hname]
      exact n.utf8ByteSize_resolveBy_le spell hn _ _
    case groups_fit => exact fun i g r hg hr => bundleOf_groups_fit hn hrun hg hr

/-- Under a budget of six characters or more, tables, indices and the views beside those of groups
    exceed it by an ending of four bytes at most. Columns of properties keep to it, and so do the
    views of groups that fit into one. Parts have a number more, which is smaller than the number of
    objects. So with the default budget and fewer than 10^12 objects, relations and columns have at
    most 63 bytes. -/
theorem compile_names_fit (h : compile config name groups (n.resolveBy spell) table = .ok b)
    (hn : 6 ≤ n.maxLength) :
    ∃ indices rs, indices.length = table.columns.length ∧
      BundleFits config n.maxLength groups b indices rs ∧
      (n.maxLength ≤ PlainNamer.defaultMaxLength → b.objects.length < 10 ^ 12 →
        ∀ name ∈ b.relationNames ++ b.propertyColumns, name.utf8ByteSize ≤ 63) := by
  obtain ⟨indices, rs, hlength, hfits⟩ := exists_bundleFits h hn
  refine ⟨indices, rs, hlength, hfits, fun hbudget hobjects => ?_⟩
  have hfifty : n.maxLength ≤ 50 := hbudget
  rw [List.forall_mem_append]
  constructor
  · intro relation hrelation
    have hbytes := hfits.relations_fit (by decide) hobjects relation hrelation
    omega
  · intro column hcolumn
    have hbytes := hfits.columns_fit column hcolumn
    omega

end Bundles

/-- With the default budget, the names of a group that is cut into two views are within the limit. -/
theorem largeGroup_names_fit :
    ∃ b, compile (Config.json.withMetadataView false) "doc" [largeGroup] (PlainNamer.resolve ⟨50⟩)
        (staticColumns [("tenant", "TEXT")]) = .ok b ∧
      b.objects.length = 6 ∧
      ∀ name ∈ b.relationNames ++ b.propertyColumns, name.utf8ByteSize ≤ 63 := by
  have hok : ∃ b, compile (Config.json.withMetadataView false) "doc" [largeGroup]
      (PlainNamer.resolve ⟨50⟩) (staticColumns [("tenant", "TEXT")]) = .ok b := by
    refine exists_compile ⟨Config.json, by simp, rfl, rfl⟩ ⟨?_, ?_, ?_⟩ ?_ ?_
    · decide
    · simp [largeGroup, staticColumns]
    · simp [largeGroup, ViewGroup.viewCount]
    · exact List.forall_mem_singleton.2 largeGroup_paths.nodup
    · exact fun htaken => Bool.false_ne_true htaken.1
  obtain ⟨b, h⟩ := hok
  have hobjects : b.objects.length = 6 := by
    rw [compile_objects_length h]
    simp [largeGroup, ViewGroup.viewCount, Config.withMetadataView]
  obtain ⟨_, _, _, _, hlimit⟩ := compile_names_fit h (by decide)
  exact ⟨b, h, hobjects, hlimit (by decide) (by omega)⟩

end DocViews
