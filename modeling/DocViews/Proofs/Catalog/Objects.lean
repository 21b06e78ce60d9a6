import DocViews.Proofs.Catalog.Loading
import DocViews.Proofs.Compile.Provisioning

/-!
# The objects of a catalog

Names are checked within one compilation, and each document type of a catalog is compiled for
itself. So nothing keeps two document types from having objects of one name: their own names may
become the same identifier, and a view of one may be called like an object of the other. That these
are the only two ways is what is shown here.
-/

namespace DocViews

open Sql (Statement DbObject)

/-! ## One document type -/

section Bundles
variable {Document : Type} {config config' : Config} {name : String} {groups : List ViewGroup}
  {namer : Namer} {table table' : TablePolicy Document} {b b' : Bundle Document} {n : String}

/-- What a bundle guarantees by itself: no two of its objects have one name, and its statements
    create and drop just these objects. -/
structure Bundle.Accounted (b : Bundle Document) : Prop where
  names_nodup : (b.objects.map (·.name)).Nodup
  created_eq : b.creation.filterMap (·.created?) = b.objects
  dropped_eq : b.drops.filterMap (·.dropped?) = b.objects

theorem compile_accounted (h : compile config name groups namer table = .ok b) : b.Accounted := by
  have hderived := compile_derived h
  obtain ⟨indices, rs, listing, _, hrun, hlisting, rfl⟩ := compile_eq_ok.1 h
  constructor
  case names_nodup =>
    rw [bundleOf_object_names]
    exact registered_nodup hrun hlisting
  case created_eq => exact creationStatements_created ..
  case dropped_eq =>
    rw [hderived.drops_eq]
    exact dropStatements_dropped ..

theorem compile_base (h : compile config name groups namer table = .ok b) :
    b.base = namer [name] fun _ => false := by
  obtain ⟨indices, rs, listing, _, _, _, rfl⟩ := compile_eq_ok.1 h
  rfl

theorem Derived.rawTable_mem_names (h : Derived config table b) :
    b.rawTable ∈ b.objects.map (·.name) := by
  rw [h.objects_eq, Bundle.coreObjects]
  exact List.mem_cons_self

theorem Derived.view_mem_names (h : Derived config table b) {m : ViewMetadata}
    (hm : m ∈ b.metadata) : m.view ∈ b.objects.map (·.name) := by
  have hview : m.view ∈ b.metadata.map (·.view) := List.mem_map_of_mem hm
  rw [h.objects_eq, List.map_append, Bundle.coreObjects_names]
  exact List.mem_append_left _ (List.mem_append_right _ hview)

/-- An object that is no view of a group is called like its bundle, with an ending. All endings
    have the same length. -/
theorem Derived.of_mem_names (h : Derived config table b) (hn : n ∈ b.objects.map (·.name)) :
    (∃ m ∈ b.metadata, m.view = n) ∨ ∃ ending : String, ending.length = 4 ∧ n = b.base ++ ending := by
  rw [h.objects_eq, List.map_append, Bundle.coreObjects_names, initialNames_eq] at hn
  cases List.mem_append.1 hn with
  | inl hcore =>
    cases List.mem_append.1 hcore with
    | inl hinitial =>
      right
      simp only [List.mem_cons, List.not_mem_nil, or_false] at hinitial
      rcases hinitial with rfl | rfl | rfl | rfl <;> exact ⟨_, rfl, rfl⟩
    | inr hview => exact .inl (List.mem_map.1 hview)
  | inr hlisting =>
    right
    cases hwanted : config.metadataView with
    | false => simp [hwanted] at hlisting
    | true =>
      rw [hwanted, if_pos rfl] at hlisting
      exact ⟨"_MTA", rfl, List.mem_singleton.1 hlisting⟩

/-- Two bundles are called differently, and no view of either is called like an object of the
    other. -/
structure Separate (b b' : Bundle Document) : Prop where
  base_ne : b.base ≠ b'.base
  views_ne : ∀ m ∈ b.metadata, ∀ o ∈ b'.objects, m.view ≠ o.name
  objects_ne : ∀ o ∈ b.objects, ∀ m ∈ b'.metadata, o.name ≠ m.view

/-- Endings of one length can be told from what they end. -/
theorem append_left_cancel_of_length {s s' t t' : String} (h : s ++ t = s' ++ t')
    (hlength : t.length = t'.length) : s = s' := by
  have hlists : s.toList ++ t.toList = s'.toList ++ t'.toList := by
    rw [← String.toList_append, h, String.toList_append]
  rw [← String.length_toList, ← String.length_toList] at hlength
  exact String.toList_inj.1 (List.append_inj' hlists hlength).1

/-- There is no other way for two bundles to share the name of an object. -/
theorem Derived.disjoint_names_iff (h : Derived config table b) (h' : Derived config' table' b') :
    List.Disjoint (b.objects.map (·.name)) (b'.objects.map (·.name)) ↔ Separate b b' := by
  constructor
  · intro hdisjoint
    constructor
    case base_ne =>
      intro hbase
      have hraw : b.rawTable = b'.rawTable := congrArg rawTableName hbase
      exact hdisjoint h.rawTable_mem_names (hraw ▸ h'.rawTable_mem_names)
    case views_ne =>
      intro m hm o ho heq
      exact hdisjoint (h.view_mem_names hm) (List.mem_map.2 ⟨o, ho, heq.symm⟩)
    case objects_ne =>
      intro o ho m hm heq
      exact hdisjoint (List.mem_map.2 ⟨o, ho, heq⟩) (h'.view_mem_names hm)
  · intro hseparate n hn hn'
    obtain ⟨o, ho, rfl⟩ := List.mem_map.1 hn
    obtain ⟨o', ho', heq⟩ := List.mem_map.1 hn'
    cases h.of_mem_names hn with
    | inl hview =>
      obtain ⟨m, hm, hname⟩ := hview
      exact hseparate.views_ne m hm o' ho' (hname.trans heq.symm)
    | inr hending =>
      cases h'.of_mem_names hn' with
      | inl hview' =>
        obtain ⟨m, hm, hname⟩ := hview'
        exact hseparate.objects_ne o ho m hm hname.symm
      | inr hending' =>
        -- Neither is a view of a group, so that the bundles would be called the same.
        obtain ⟨ending, hlength, hname⟩ := hending
        obtain ⟨ending', hlength', hname'⟩ := hending'
        exact hseparate.base_ne
          (append_left_cancel_of_length (hname.symm.trans hname') (hlength.trans hlength'.symm))

end Bundles

/-! ## All document types -/

section Catalogs
variable {ε : Type} {files : List (Except ε Definitions)} {c : Catalog} {name : String}
  {b : Bundle Json}

/-- Whatever is listed was compiled from a definition of the same name. -/
theorem Catalog.of_mem_load (h : Catalog.load none files = .ok c) (hlisted : (name, b) ∈ c) :
    ∃ ds d groups, .ok ds ∈ files ∧ ds.documents.get? name = some d ∧
      compile d.config name groups d.namer.resolve d.table = .ok b := by
  rw [load_none (ne_nil_of_load h)] at h
  obtain ⟨parts, hparts, rfl, _⟩ := addFiles_nil_eq_ok.1 h
  obtain ⟨part, hpart, hmem⟩ := List.mem_flatten.1 hlisted
  obtain ⟨bs, cs, rfl⟩ := List.append_of_mem hpart
  obtain ⟨before, file, after, rfl, _, hfile, _⟩ := forall₂_append_cons hparts
  obtain ⟨ds, rfl, _, hcompiled⟩ := hfile.compiled
  obtain ⟨d, hget, hdocument⟩ := compileDocument_eq_ok.1 (hcompiled _ hmem)
  obtain ⟨groups, _, hcompile⟩ := bind_eq_ok.1 hdocument
  exact ⟨ds, d, groups, List.mem_append_right _ List.mem_cons_self, hget,
    mapError_eq_ok.1 hcompile⟩

/-- Statements that stand for the objects of each document type stand for those of all. -/
theorem filterMap_statements_eq {f : Bundle Json → List Statement}
    {φ : Statement → Option DbObject} (h : ∀ e ∈ c, (f e.2).filterMap φ = e.2.objects) :
    (c.flatMap fun e => f e.2).filterMap φ = c.flatMap (·.2.objects) := by
  rw [List.filterMap_flatMap]
  exact List.flatMap_congr h

/-- The objects of each document type that is loaded have different names, and what the texts of all
    their statements create and drop are the objects that they list. Two document types share the
    name of an object exactly if their own names become one identifier, or a view of one is called
    like an object of the other. -/
theorem load_objects (h : Catalog.load none files = .ok c) :
    (∀ e ∈ c, (e.2.objects.map (·.name)).Nodup ∧
        ∃ ds d, .ok ds ∈ files ∧ ds.documents.get? e.1 = some d ∧
          e.2.base = String.ofList (d.namer.baseBy Naming.shoutySnake [e.1])) ∧
      (c.flatMap (·.2.creation)).filterMap (·.created?) = c.flatMap (·.2.objects) ∧
      (c.flatMap (·.2.drops)).filterMap (·.dropped?) = c.flatMap (·.2.objects) ∧
      List.Forall₂ Statement.Creates ((c.flatMap (·.2.creation)).filter (·.created?.isSome))
        (c.flatMap (·.2.objects)) ∧
      List.Forall₂ Statement.Drops ((c.flatMap (·.2.drops)).filter (·.dropped?.isSome))
        (c.flatMap (·.2.objects)) ∧
      (((c.flatMap (·.2.objects)).map (·.name)).Nodup ↔
        c.Pairwise fun e e' => Separate e.2 e'.2) := by
  have hcompiled := fun e (he : e ∈ c) => Catalog.of_mem_load h he
  have haccounted : ∀ e ∈ c, e.2.Accounted := by
    intro e he
    obtain ⟨_, _, _, _, _, hcompile⟩ := hcompiled e he
    exact compile_accounted hcompile
  have hcreated : (c.flatMap (·.2.creation)).filterMap (·.created?) = c.flatMap (·.2.objects) :=
    filterMap_statements_eq fun e he => (haccounted e he).created_eq
  have hdropped : (c.flatMap (·.2.drops)).filterMap (·.dropped?) = c.flatMap (·.2.objects) :=
    filterMap_statements_eq fun e he => (haccounted e he).dropped_eq
  refine ⟨fun e he => ⟨(haccounted e he).names_nodup, ?_⟩, hcreated, hdropped, ?_, ?_, ?_⟩
  · obtain ⟨ds, d, _, hds, hget, hcompile⟩ := hcompiled e he
    exact ⟨ds, d, hds, hget, compile_base hcompile⟩
  · exact hcreated ▸ Statement.forall₂_creates _
  · exact hdropped ▸ Statement.forall₂_drops _
  · rw [List.map_flatMap, List.nodup_flatMap]
    refine (and_iff_right fun e he => (haccounted e he).names_nodup).trans ?_
    refine List.Pairwise.iff_of_mem fun {e e'} he he' => ?_
    obtain ⟨_, _, _, _, _, hcompile⟩ := hcompiled e he
    obtain ⟨_, _, _, _, _, hcompile'⟩ := hcompiled e' he'
    exact (compile_derived hcompile).disjoint_names_iff (compile_derived hcompile')

end Catalogs

/-- Invoices and receipts, each with a view of their lines. -/
def linesOfInvoicesAndReceipts : List (Except Unit Definitions) :=
  [.ok ⟨.ofList [("invoice", { format := .json, views := [{ roots := ["/lines"] }] })]⟩,
   .ok ⟨.ofList [("receipt", { format := .json, views := [{ roots := ["/lines"] }] })]⟩]

/-- They can be set up side by side. -/
theorem invoicesAndReceipts_separate :
    ∃ c, Catalog.load none linesOfInvoicesAndReceipts = .ok c ∧
      c.map (fun e => e.2.metadata.map (·.view)) = [["INVOICE_LINES"], ["RECEIPT_LINES"]] ∧
      ((c.flatMap (·.2.objects)).map (·.name)).Nodup ∧
      c.Pairwise fun e e' => Separate e.2 e'.2 := by
  have hloaded : (Catalog.load none linesOfInvoicesAndReceipts).toOption.map (fun c =>
      (c.map fun e => e.2.metadata.map (·.view), (c.flatMap (·.2.objects)).map (·.name))) =
      some ([["INVOICE_LINES"], ["RECEIPT_LINES"]],
        ["INVOICE_RAW", "INVOICE_MIN", "INVOICE_MAX", "INVOICE_NOW", "INVOICE_LINES", "INVOICE_MTA",
          "RECEIPT_RAW", "RECEIPT_MIN", "RECEIPT_MAX", "RECEIPT_NOW", "RECEIPT_LINES",
          "RECEIPT_MTA"]) := by
    decide +kernel
  obtain ⟨c, hc, hnames⟩ := Option.map_eq_some_iff.1 hloaded
  obtain ⟨hviews, hnames⟩ := Prod.mk.inj hnames
  have hload := toOption_eq_some.1 hc
  have hnodup : ((c.flatMap (·.2.objects)).map (·.name)).Nodup := by
    rw [hnames]
    decide
  exact ⟨c, hload, hviews, hnodup, (load_objects hload).2.2.2.2.2.1 hnodup⟩

/-- Document types whose names differ in case alone are called the same. -/
def namesInTwoCases : Definitions :=
  ⟨.ofList [("Doc", { format := .json }), ("doc", { format := .json })]⟩

/-- The view of one document type is called like the raw table of the other. -/
def viewLikeTable : Definitions :=
  ⟨.ofList [("a", { format := .json, views := [{ roots := ["/b/raw"] }] }),
    ("a_b", { format := .json })]⟩

/-- Whether names are shared is found out by loading. -/
theorem exists_load_of_repeated {ds : Definitions}
    (h : (Catalog.load none [(.ok ds : Except Unit Definitions)]).toOption.map
      (fun c => decide ((c.flatMap (·.2.objects)).map (·.name)).Nodup) = some false) :
    ∃ c, Catalog.load none [(.ok ds : Except Unit Definitions)] = .ok c ∧
      ¬((c.flatMap (·.2.objects)).map (·.name)).Nodup := by
  obtain ⟨c, hc, hnodup⟩ := Option.map_eq_some_iff.1 h
  exact ⟨c, toOption_eq_some.1 hc, of_decide_eq_false hnodup⟩

/-- Document types that are loaded together may have objects of one name, even in one file. -/
theorem objects_share_names :
    (∃ c, Catalog.load none [(.ok namesInTwoCases : Except Unit Definitions)] = .ok c ∧
      ¬((c.flatMap (·.2.objects)).map (·.name)).Nodup) ∧
    ∃ c, Catalog.load none [(.ok viewLikeTable : Except Unit Definitions)] = .ok c ∧
      ¬((c.flatMap (·.2.objects)).map (·.name)).Nodup := by
  constructor
  · exact exists_load_of_repeated (by decide +kernel)
  · exact exists_load_of_repeated (by decide +kernel)

end DocViews
