import DocViews.Proofs.Compile.Run
import DocViews.Proofs.Sql.Union

/-!
# The metadata view

The metadata view is created from the metadata of the bundle and from nothing else, and the rows
that it shows are all of them: whatever the paths, views and columns are called, they can be read
back from the text of the statement.
-/

namespace DocViews

open Sql (ConstantRow readUnion)

/-- The rows of the metadata view: one that never appears, and one for each column of each view. -/
def listedRows (metadata : List ViewMetadata) : List ConstantRow :=
  .seed :: metadata.flatMap fun m => m.columns.map fun (path, column) =>
    ⟨[⟨some path, "PATH"⟩, ⟨some m.view, "OBJECT"⟩, ⟨some column, "NAME"⟩], none⟩

theorem readUnion_metadataQuery (metadata : List ViewMetadata) :
    readUnion (metadataQuery metadata).render = some (listedRows metadata) := by
  rw [metadataQuery, Sql.readUnion_mappings, listedRows, List.map_flatMap]
  simp only [ViewMetadata.mappings, List.map_map]
  rfl

theorem view?_eq_some {s : Sql.Statement} {view : String} {query : Sql.Query} :
    s.view? = some (view, query) ↔ s = .createView view query := by
  cases s <;> simp [Sql.Statement.view?]

/-- A bundle creates the temporal views, a view for each entry of its metadata, and after them the
    metadata view if it is wanted. -/
theorem Shows.view_names {Document : Type} {config : Config} {b : Bundle Document}
    {groups : List ViewGroup} {rs : List GroupResult} (h : Shows config b groups rs) :
    (b.creation.filterMap (·.view?)).map (·.1) =
      (temporalViews b.base).map (·.1) ++ b.metadata.map (·.view)
        ++ if config.metadataView then [b.base ++ "_MTA"] else [] := by
  rw [h.views_eq, List.map_append, List.map_append, h.metadata_eq, List.map_map, List.map_map]
  cases config.metadataView <;> rfl

/-- The statement that creates the metadata view lists the metadata that it is given, and the one
    of a bundle lists the metadata of the bundle: the mappings of all views of all groups, whole
    and in parts, in the order in which the views are created. A view is mapped as its plan says. -/
theorem listing_reads_back :
    (∀ (view : String) (metadata : List ViewMetadata), ∃ body,
      (Sql.Statement.createView view (metadataQuery metadata)).render =
        "CREATE VIEW " ++ view ++ " AS " ++ body ∧
      readUnion body = some (listedRows metadata)) ∧
    ∀ {Document : Type} (config : Config) (name : String) (groups : List ViewGroup)
      (namer : Namer) (table : TablePolicy Document) (b : Bundle Document),
      compile config name groups namer table = .ok b → config.metadataView →
      (∃ s ∈ b.creation, ∃ body,
        s.render = "CREATE VIEW " ++ (b.base ++ "_MTA") ++ " AS " ++ body ∧
        readUnion body = some (listedRows b.metadata)) ∧
      (∃ rs, GroupsRun config namer b.base (directColumns table.columns) (initialNames b.base)
          groups rs ∧
        (∀ r ∈ rs, List.Forall₂ (Writes config) r.plans r.views) ∧
        b.metadata = rs.flatMap fun r => r.views.map (·.metadata)) ∧
      (b.creation.filterMap (·.view?)).map (·.1) =
        [b.base ++ "_MIN", b.base ++ "_MAX", b.base ++ "_NOW"] ++ b.metadata.map (·.view)
          ++ [b.base ++ "_MTA"] := by
  constructor
  · intro view metadata
    exact ⟨_, rfl, readUnion_metadataQuery metadata⟩
  intro Document config name groups namer table b h hlisting
  obtain ⟨rs, hshows, hrun⟩ := compile_run h
  refine ⟨?_, ⟨rs, hrun, hrun.written, ?_⟩, ?_⟩
  · have hmem : (b.base ++ "_MTA", metadataQuery b.metadata) ∈
        b.creation.filterMap (·.view?) := by
      rw [hshows.views_eq, if_pos hlisting]
      simp
    obtain ⟨s, hs, hview⟩ := List.mem_filterMap.1 hmem
    obtain rfl := view?_eq_some.1 hview
    exact ⟨_, hs, _, rfl, readUnion_metadataQuery b.metadata⟩
  · rw [hshows.metadata_eq, List.map_flatMap]
  · rw [hshows.view_names, if_pos hlisting]
    rfl

/-- A key with a quote is listed under its own name. -/
theorem quoted_key_listed :
    ∃ b, compile Config.json "DOC" [⟨[[⟨"lines", none⟩]], [⟨[⟨"it's", none⟩], .string⟩]⟩]
        (fun segments _ => String.intercalate "_" segments) (staticColumns []) = .ok b ∧
      ∃ s ∈ b.creation, ∃ body, s.render = "CREATE VIEW DOC_MTA AS " ++ body ∧
        readUnion body = some [.seed,
          ⟨[⟨some "$.lines.\"it's\"", "PATH"⟩, ⟨some "DOC_lines", "OBJECT"⟩,
            ⟨some "it's", "NAME"⟩], none⟩] := by
  have h : compile Config.json "DOC" [⟨[[⟨"lines", none⟩]], [⟨[⟨"it's", none⟩], .string⟩]⟩]
      (fun segments _ => String.intercalate "_" segments) (staticColumns []) = .ok _ := rfl
  obtain ⟨⟨s, hs, body, hrender, hread⟩, _⟩ := listing_reads_back.2 _ _ _ _ _ _ h rfl
  exact ⟨_, h, s, hs, body, hrender, hread⟩

end DocViews
