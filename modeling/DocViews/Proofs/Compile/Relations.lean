import DocViews.Proofs.Compile.Registry
import DocViews.Proofs.Sql.Statement

/-!
# Names of relations

Some databases keep tables, indices and views under one set of names, and a primary key brings an
index of its own. The compiler looks at these names in two separate places: tables and views must
differ from each other, and so must the indices of additional columns. Nothing compares the two, and
the primary key is left out of both. So a bundle gives one name to two relations just in case a view
of a group is called like an index, and that can happen with plain names, too.
-/

namespace DocViews

/-! ## Relations of statements -/

/-- The relations that a bundle adds to a database, in the order in which they are created. -/
def Bundle.relationNames {Document : Type} (b : Bundle Document) : List String :=
  b.creation.flatMap (·.relationNames)

/-- The indices of a raw table: that of its primary key, and those of additional columns. -/
def indexNames (base : String) (indices : List String) : List String :=
  (base ++ "_PK") :: indices.map (· ++ "_IDX")

theorem mem_indexNames {base name : String} {indices : List String} :
    name ∈ indexNames base indices ↔ name = base ++ "_PK" ∨ ∃ i ∈ indices, name = i ++ "_IDX" := by
  simp only [indexNames, List.mem_cons, List.mem_map, eq_comm]

/-- Synonyms are no relations, and neither is what hooks add. -/
theorem creationStatements_relationNames (config : Config) (base : String)
    (additional indices : List (String × String)) (views : List (String × Sql.Query)) :
    (creationStatements config base additional indices views).flatMap (·.relationNames) =
      rawTableName base :: indexNames base (indices.map (·.1)) ++ views.map (·.1) := by
  rw [creationStatements_flatMap (fun _ => rfl) fun _ => rfl, indexNames, List.map_map,
    List.map_eq_flatMap, List.map_eq_flatMap]
  rfl

/-! ## Endings -/

/-- Names with endings that are no endings of each other are different, whatever comes before. -/
theorem append_ne_append {s t : String} (hst : ¬s.toList <:+ t.toList) (hts : ¬t.toList <:+ s.toList)
    (a b : String) : a ++ s ≠ b ++ t := by
  intro h
  have hs : s.toList <:+ (a ++ s).toList := by
    rw [String.toList_append]
    exact List.suffix_append ..
  have ht : t.toList <:+ (a ++ s).toList := by
    rw [h, String.toList_append]
    exact List.suffix_append ..
  cases List.suffix_or_suffix_of_suffix hs ht with
  | inl hsuffix => exact hst hsuffix
  | inr hsuffix => exact hts hsuffix

/-- The endings of indices keep their names apart from each other as long as what comes before
    them differs. -/
theorem indexNames_nodup (base : String) {indices : List String} (h : indices.Nodup) :
    (indexNames base indices).Nodup := by
  unfold indexNames
  refine List.nodup_cons.2 ⟨?_, h.map fun _ _ heq => (String.append_left_inj _).1 heq⟩
  intro hmem
  obtain ⟨index, _, heq⟩ := List.mem_map.1 hmem
  exact append_ne_append (by decide) (by decide) index base heq

/-- The table, the views on revisions and the metadata view have endings that no index has. -/
theorem not_mem_indexNames (base : String) (indices : List String) {name : String}
    (h : name ∈ initialNames base ++ [base ++ "_MTA"]) : name ∉ indexNames base indices := by
  have hending : ∃ ending ∈ ["_RAW", "_MIN", "_MAX", "_NOW", "_MTA"], name = base ++ ending := by
    simpa [initialNames_eq] using h
  obtain ⟨ending, hmem, rfl⟩ := hending
  have hkey : ∀ e ∈ ["_RAW", "_MIN", "_MAX", "_NOW", "_MTA"], e ≠ "_PK" := by decide
  have hindex : ∀ e ∈ ["_RAW", "_MIN", "_MAX", "_NOW", "_MTA"],
      ¬e.toList <:+ "_IDX".toList ∧ ¬"_IDX".toList <:+ e.toList := by decide
  intro hname
  cases mem_indexNames.1 hname with
  | inl heq => exact hkey ending hmem ((String.append_right_inj _).1 heq)
  | inr hname =>
    obtain ⟨index, _, heq⟩ := hname
    obtain ⟨hleft, hright⟩ := hindex ending hmem
    exact append_ne_append hleft hright base index heq

/-! ## Bundles -/

/-- Indices differ from each other, and so do tables and views. Of the latter only the views of
    groups can be called like an index. -/
theorem relations_nodup_iff {base : String} {indices views listing : List String}
    (hindices : indices.Nodup) (hregistered : (initialNames base ++ views ++ listing).Nodup)
    (hlisting : ∀ n ∈ listing, n = base ++ "_MTA") :
    (indexNames base indices ++ (initialNames base ++ views ++ listing)).Nodup ↔
      ∀ view ∈ views, view ∉ indexNames base indices := by
  rw [List.nodup_append]
  constructor
  · intro ⟨_, _, hapart⟩ view hview hmem
    apply hapart view hmem view _ rfl
    exact List.mem_append_left _ (List.mem_append_right _ hview)
  · intro hviews
    refine ⟨indexNames_nodup base hindices, hregistered, ?_⟩
    intro index hindex name hname heq
    subst heq
    -- Whatever is registered beside the views of groups has an ending of its own.
    rcases List.mem_append.1 hname with hname | hname
    · rcases List.mem_append.1 hname with hname | hname
      · exact not_mem_indexNames base indices (List.mem_append_left _ hname) hindex
      · exact hviews index hname hindex
    · have hname := List.mem_singleton.2 (hlisting index hname)
      exact not_mem_indexNames base indices (List.mem_append_right _ hname) hindex

section Bundles
variable {Document : Type} {config : Config} {name : String} {groups : List ViewGroup}
  {namer : Namer} {table : TablePolicy Document} {b : Bundle Document} {base : String}
  {indices : List (String × String)} {projections : List Projection}
  {listing : List (String × Sql.Query)}

theorem bundleOf_relationNames :
    (bundleOf config table base indices projections listing).relationNames =
      rawTableName base :: indexNames base (indices.map (·.1))
        ++ (viewsOf base projections listing).map (·.1) :=
  creationStatements_relationNames ..

/-- The relations of a bundle are its indices and its objects. -/
theorem bundleOf_relationNames_perm :
    (bundleOf config table base indices projections listing).relationNames.Perm
      (indexNames base (indices.map (·.1))
        ++ (bundleOf config table base indices projections listing).objects.map (·.name)) := by
  have hobjects : (bundleOf config table base indices projections listing).objects.map (·.name) =
      rawTableName base :: (viewsOf base projections listing).map (·.1) := objectsOf_names ..
  rw [bundleOf_relationNames, hobjects]
  exact List.perm_middle.symm

/-- The relations of a bundle are its table, the index of the primary key, an index for each
    additional column, and its views. Two of them have the same name just in case a view of a group
    is called like an index. -/
theorem compile_relationNames (h : compile config name groups namer table = .ok b) :
    ∃ indices : List String, indices.length = table.columns.length ∧
      b.relationNames =
        [b.base ++ "_RAW", b.base ++ "_PK"] ++ indices.map (· ++ "_IDX")
          ++ [b.base ++ "_MIN", b.base ++ "_MAX", b.base ++ "_NOW"] ++ b.metadata.map (·.view)
          ++ (if config.metadataView then [b.base ++ "_MTA"] else []) ∧
      (b.relationNames.Nodup ↔
        ∀ m ∈ b.metadata, m.view ≠ b.base ++ "_PK" ∧ ∀ i ∈ indices, m.view ≠ i ++ "_IDX") := by
  obtain ⟨is, rs, listing, his, hrun, hlisting, rfl⟩ := compile_eq_ok.1 h
  obtain ⟨hcolumns, hindices⟩ := nameIndices_spec his
  obtain ⟨_, hlistingEq⟩ := metadataViews_eq_ok.1 hlisting
  have hviews : (bundleOf config table (baseName namer name) is (rs.flatMap (·.views))
      listing).metadata.map (·.view) = rs.flatMap (·.names) := bundleOf_metadata_view
  have hmta : listing.map (·.1) =
      if config.metadataView then [baseName namer name ++ "_MTA"] else [] := by
    rw [hlistingEq, apply_ite (List.map _)]
    rfl
  refine ⟨is.map (·.1), ?_, ?_, ?_⟩
  · rw [List.length_map, ← List.length_map (·.2), hcolumns, List.length_map]
  · rw [bundleOf_relationNames, hviews, ← flatMap_views_name, viewsOf, List.map_append, hmta]
    simp [indexNames, temporalViews, rawTableName, bundleOf]
  · rw [bundleOf_relationNames_perm.nodup_iff, bundleOf_object_names,
      relations_nodup_iff hindices.nodup (registered_nodup hrun hlisting), ← hviews,
      List.forall_mem_map]
    · simp only [mem_indexNames, not_or, not_exists, not_and]
      rfl
    · intro n hn
      rw [hmta] at hn
      split at hn
      · exact List.mem_singleton.1 hn
      · exact absurd hn List.not_mem_nil

end Bundles

/-- A view stays apart from all indices if its name does not end like theirs. -/
theorem linesView_relationNames_nodup :
    ∃ b, compile Config.json "doc" [⟨[[⟨"LINES", none⟩]], []⟩]
        (fun segments _ => String.intercalate "_" segments) (staticColumns [("TENANT", "TEXT")]) =
          .ok b ∧
      b.relationNames.Nodup := by
  have h : compile Config.json "doc" [⟨[[⟨"LINES", none⟩]], []⟩]
      (fun segments _ => String.intercalate "_" segments) (staticColumns [("TENANT", "TEXT")]) =
        .ok _ := rfl
  obtain ⟨indices, _, _, hnodup⟩ := compile_relationNames h
  refine ⟨_, h, hnodup.2 fun m hm => ?_⟩
  obtain rfl := List.mem_singleton.1 hm
  refine ⟨by decide, fun i _ => ?_⟩
  exact append_ne_append (by decide) (by decide) "doc_" i

/-- Plain names do not keep views apart from indices: here one view is called like the index of the
    primary key, and another one like the index of a column. -/
theorem views_called_like_indices :
    ∃ b, compile (Config.json.withMetadataView false) "doc"
        [⟨[[⟨"pk", none⟩]], []⟩, ⟨[[⟨"tenant_idx", none⟩]], []⟩]
        (PlainNamer.resolve ⟨50⟩) (staticColumns [("TENANT", "TEXT")]) = .ok b ∧
      b.relationNames = ["DOC_RAW", "DOC_PK", "DOC_TENANT_IDX", "DOC_MIN", "DOC_MAX", "DOC_NOW",
        "DOC_PK", "DOC_TENANT_IDX"] ∧
      ¬b.relationNames.Nodup := by
  have h : (compile (Config.json.withMetadataView false) "doc"
      [⟨[[⟨"pk", none⟩]], []⟩, ⟨[[⟨"tenant_idx", none⟩]], []⟩]
      (PlainNamer.resolve ⟨50⟩) (staticColumns [("TENANT", "TEXT")])).toOption.map
        (·.relationNames) = some ["DOC_RAW", "DOC_PK", "DOC_TENANT_IDX", "DOC_MIN", "DOC_MAX",
          "DOC_NOW", "DOC_PK", "DOC_TENANT_IDX"] := by decide +kernel
  obtain ⟨b, hb, hnames⟩ := Option.map_eq_some_iff.1 h
  exact ⟨b, toOption_eq_some.1 hb, hnames, hnames ▸ by decide⟩

end DocViews
