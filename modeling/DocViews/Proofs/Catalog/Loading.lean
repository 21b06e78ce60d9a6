import DocViews.Catalog
import DocViews.Proofs.Fresh
import DocViews.Proofs.Outcome
import DocViews.Proofs.TextMap

/-!
# Loading definition files

A catalog lists what its files contribute, one file after another, and no name twice. Of a file that
is loaded for one document type, only that one contributes; so loading for a name gives what is
listed under the name if everything is loaded, and may succeed even where other document types
cannot be compiled.
-/

namespace DocViews

namespace Catalog

/-- The names of the document types of a catalog. -/
def names (c : Catalog) : List String := c.map (·.1)

theorem names_append (c d : Catalog) : names (c ++ d) = c.names ++ d.names := List.map_append

/-- What a file contributes to a catalog: all its document types, or the one that is asked for. -/
def Contributes {ε : Type} (document : Option String) (file : Except ε Definitions)
    (part : Catalog) : Prop :=
  ∃ ds, file = .ok ds ∧ ofDefinitions document ds = .ok part

section Loading
variable {ε : Type} {document : Option String} {c c' part : Catalog}
  {files : List (Except ε Definitions)} {parts : List Catalog}

/-! ## Adding document types -/

theorem add_eq_ok : (c.add part : Except (CatalogError ε) Catalog) = .ok c' ↔
    Fresh c.names part.names ∧ c' = c ++ part := by
  induction part generalizing c with
  | nil => simp [add, names, fresh_nil, eq_comm]
  | cons e part ih =>
    obtain ⟨name, bundle⟩ := e
    have hnew : c.any (·.1 == name) = true ↔ name ∈ c.names := by simp [names]
    rw [add, guard_eq_ok, ih, hnew, ← and_assoc]
    simp only [names, List.map_cons, List.map_append, List.map_nil, fresh_cons_concat,
      List.append_assoc, List.singleton_append]

/-- The parts that files contribute are added one after another. -/
theorem addFiles_eq_ok : addFiles document c files = .ok c' ↔
    ∃ parts, List.Forall₂ (Contributes document) files parts ∧ Fresh c.names (names parts.flatten) ∧
      c' = c ++ parts.flatten := by
  induction files generalizing c with
  | nil => simp [addFiles, names, fresh_nil, eq_comm]
  | cons file files ih =>
    simp only [addFiles, bind_eq_ok, mapError_eq_ok, add_eq_ok, ih]
    constructor
    · rintro ⟨ds, hfile, part, hpart, _, ⟨hnew, rfl⟩, parts, hparts, hfresh, rfl⟩
      rw [names_append] at hfresh
      refine ⟨part :: parts, .cons ⟨ds, hfile, hpart⟩ hparts, ?_, ?_⟩
      · rw [List.flatten_cons, names_append]
        exact fresh_append.2 ⟨hnew, hfresh⟩
      · rw [List.flatten_cons, List.append_assoc]
    · rintro ⟨parts, hparts, hfresh, rfl⟩
      cases hparts with
      | @cons _ part _ parts hfile hparts =>
        obtain ⟨ds, hfile, hpart⟩ := hfile
        rw [List.flatten_cons, names_append] at hfresh
        obtain ⟨hnew, hfresh⟩ := fresh_append.1 hfresh
        refine ⟨ds, hfile, part, hpart, _, ⟨hnew, rfl⟩, parts, hparts, ?_, ?_⟩
        · rwa [names_append]
        · rw [List.flatten_cons, List.append_assoc]

theorem addFiles_nil_eq_ok : addFiles document [] files = .ok c ↔
    ∃ parts, List.Forall₂ (Contributes document) files parts ∧ c = parts.flatten ∧
      c.names.Nodup := by
  simp only [addFiles_eq_ok, List.nil_append]
  constructor
  · rintro ⟨parts, hparts, hfresh, rfl⟩
    exact ⟨parts, hparts, rfl, fresh_of_nil.1 hfresh⟩
  · rintro ⟨parts, hparts, rfl, hnodup⟩
    exact ⟨parts, hparts, fresh_of_nil.2 hnodup, rfl⟩

/-! ## Loading -/

theorem load_nil : (load document [] : Except (CatalogError ε) Catalog) = .error .noFiles := rfl

/-- Where there are files, loading everything is adding their document types. -/
theorem load_none (hfiles : files ≠ []) : load none files = addFiles none [] files := by
  cases files with
  | nil => exact absurd rfl hfiles
  | cons file files => exact bind_pure (addFiles none [] (file :: files))

/-- A name that is asked for has to be found. -/
theorem load_some_eq_ok {n : String} : load (some n) files = .ok c ↔
    addFiles (some n) [] files = .ok c ∧ c ≠ [] := by
  simp only [load, bind_eq_ok]
  constructor
  · rintro ⟨c', hadd, h⟩
    cases files with
    | nil => cases h
    | cons file files =>
      cases c' with
      | nil => cases h
      | cons e c' =>
        cases h
        exact ⟨hadd, List.cons_ne_nil e c'⟩
  · rintro ⟨hadd, hc⟩
    refine ⟨c, hadd, ?_⟩
    cases files with
    | nil =>
      cases hadd
      exact absurd rfl hc
    | cons file files =>
      cases c with
      | nil => exact absurd rfl hc
      | cons e c => rfl

/-- If nothing is contributed, the name is unknown. -/
theorem load_some_of_nil {n : String} (hfiles : files ≠ [])
    (h : addFiles (some n) [] files = .ok []) : load (some n) files = .error (.unknownDocument n) := by
  cases files with
  | nil => exact absurd rfl hfiles
  | cons file files =>
    rw [load, h]
    rfl

theorem ne_nil_of_load (h : load document files = .ok c) : files ≠ [] := by
  rintro rfl
  rw [load_nil] at h
  cases h

end Loading

/-! ## One document type -/

section One
variable {ε : Type} {file : Except ε Definitions} {ds : Definitions} {n : String} {c part : Catalog}
  {files : List (Except ε Definitions)}

theorem compileDocument_eq_ok {b : Bundle Json} : ds.compileDocument n = .ok b ↔
    ∃ d, ds.documents.get? n = some d ∧ d.compile n = .ok b := by
  unfold Definitions.compileDocument
  cases ds.documents.get? n with
  | none => simp
  | some d => simp

/-- A file that is loaded as a whole contributes all its document types. -/
theorem Contributes.compiled (h : Contributes none file part) :
    ∃ ds, file = .ok ds ∧ part.names = ds.documents.keys ∧
      ∀ e ∈ part, ds.compileDocument e.1 = .ok e.2 := by
  obtain ⟨ds, hfile, hpart⟩ := h
  rw [ofDefinitions, Definitions.compileAll] at hpart
  refine ⟨ds, hfile, ?_, ?_⟩
  · refine map_eq_of_mapM_eq_ok hpart fun e e' he => ?_
    obtain ⟨b, _, he⟩ := bind_eq_ok.1 he
    cases he
    rfl
  · intro e' he'
    obtain ⟨⟨name, d⟩, he, hcompile⟩ := mem_of_mapM_eq_ok hpart he'
    obtain ⟨b, hb, hcompile⟩ := bind_eq_ok.1 hcompile
    cases hcompile
    exact compileDocument_eq_ok.2 ⟨d, TextMap.mem_entries_iff.1 he, hb⟩

/-- A file that can be read and does not define a document type. -/
def Lacks (n : String) (file : Except ε Definitions) : Prop :=
  ∃ ds, file = .ok ds ∧ ds.documents.contains n = false

/-- A file that defines a document type, which can be compiled. -/
def Defines (n : String) (file : Except ε Definitions) (b : Bundle Json) : Prop :=
  ∃ ds, file = .ok ds ∧ ds.documents.contains n = true ∧ ds.compileDocument n = .ok b

/-- A file that defines a document type contributes just that one when asked for it, and any other
    file contributes nothing. -/
theorem contributes_some : Contributes (some n) file part ↔
    (Lacks n file ∧ part = []) ∨ ∃ b, Defines n file b ∧ part = [(n, b)] := by
  constructor
  · rintro ⟨ds, hfile, hpart⟩
    rw [ofDefinitions] at hpart
    cases hn : ds.documents.contains n with
    | false =>
      rw [hn] at hpart
      cases hpart
      exact .inl ⟨⟨ds, hfile, hn⟩, rfl⟩
    | true =>
      rw [hn, if_pos rfl] at hpart
      obtain ⟨b, hb, hpart⟩ := bind_eq_ok.1 hpart
      cases hpart
      exact .inr ⟨b, ⟨ds, hfile, hn, hb⟩, rfl⟩
  · intro h
    cases h with
    | inl h =>
      obtain ⟨⟨ds, hfile, hn⟩, rfl⟩ := h
      exact ⟨ds, hfile, by rw [ofDefinitions, hn]; rfl⟩
    | inr h =>
      obtain ⟨b, ⟨ds, hfile, hn, hb⟩, rfl⟩ := h
      exact ⟨ds, hfile, by rw [ofDefinitions, hn, hb]; rfl⟩

/-- What a file contributes when asked for a name is what it contributes under that name. -/
theorem Contributes.filter (h : Contributes none file part) :
    Contributes (some n) file (part.filter (·.1 == n)) := by
  obtain ⟨ds, hfile, hnames, hcompiled⟩ := h.compiled
  apply contributes_some.2
  cases hn : ds.documents.contains n with
  | false =>
    refine .inl ⟨⟨ds, hfile, hn⟩, filter_key_eq_nil fun hmem => ?_⟩
    have hkey : n ∈ ds.documents.keys := hnames ▸ hmem
    simp [TextMap.contains_iff.2 hkey] at hn
  | true =>
    have hmem : n ∈ part.names := hnames ▸ TextMap.contains_iff.1 hn
    obtain ⟨⟨_, b⟩, hb, rfl⟩ := List.mem_map.1 hmem
    have hnodup : part.names.Nodup := hnames ▸ ds.documents.nodup_keys
    exact .inr ⟨b, ⟨ds, hfile, hn, hcompiled _ hb⟩, filter_key_eq_singleton hnodup hb⟩

/-- Adding the document types of one name is adding all of them and keeping those of the name. -/
theorem addFiles_filter (h : addFiles none [] files = .ok c) :
    addFiles (some n) [] files = .ok (c.filter (·.1 == n)) := by
  obtain ⟨parts, hparts, rfl, hnodup⟩ := addFiles_nil_eq_ok.1 h
  refine addFiles_nil_eq_ok.2 ⟨parts.map (·.filter (·.1 == n)), ?_, List.filter_flatten, ?_⟩
  · exact List.forall₂_map_right_iff.2 (hparts.imp fun _ _ hpart => hpart.filter)
  · exact hnodup.sublist (List.filter_sublist.map _)

/-- Of several files, one defines a document type, the others can be read and do not define it. -/
def OnlyDefines (n : String) (files : List (Except ε Definitions)) (b : Bundle Json) : Prop :=
  ∃ before file after, files = before ++ file :: after ∧ Defines n file b ∧
    ∀ f ∈ before ++ after, Lacks n f

/-- Files that contribute nothing under a name twice do not define it, or one of them does. -/
theorem onlyDefines_of_forall₂ {parts : List Catalog}
    (h : List.Forall₂ (Contributes (some n)) files parts) (hnodup : (names parts.flatten).Nodup) :
    (parts.flatten = [] ∧ ∀ f ∈ files, Lacks n f) ∨
      ∃ b, parts.flatten = [(n, b)] ∧ OnlyDefines n files b := by
  induction h with
  | nil => exact .inl ⟨rfl, by simp⟩
  | @cons file part files parts hpart hparts ih =>
    rw [List.flatten_cons, names_append] at hnodup
    obtain ⟨_, hrest, hnew⟩ := List.nodup_append.1 hnodup
    cases contributes_some.1 hpart with
    | inl hlacks =>
      obtain ⟨hlacks, rfl⟩ := hlacks
      cases ih hrest with
      | inl h =>
        exact .inl ⟨h.1, List.forall_mem_cons.2 ⟨hlacks, h.2⟩⟩
      | inr h =>
        obtain ⟨b, hflat, before, file', after, rfl, hdefines, hothers⟩ := h
        exact .inr ⟨b, hflat, file :: before, file', after, rfl, hdefines,
          List.forall_mem_cons.2 ⟨hlacks, hothers⟩⟩
    | inr hdefines =>
      obtain ⟨b, hdefines, rfl⟩ := hdefines
      cases ih hrest with
      | inl h =>
        refine .inr ⟨b, ?_, [], file, files, rfl, hdefines, h.2⟩
        rw [List.flatten_cons, h.1, List.append_nil]
      | inr h =>
        -- The name would be listed twice.
        obtain ⟨b', hflat, _⟩ := h
        rw [hflat] at hnew
        exact absurd rfl (hnew n List.mem_cons_self n List.mem_cons_self)

/-- Files that do not define a document type contribute nothing to it. -/
theorem contributes_nothing (h : ∀ f ∈ files, Lacks n f) :
    List.Forall₂ (Contributes (some n)) files (files.map fun _ => []) := by
  refine List.forall₂_map_right_iff.2 (List.forall₂_same.2 fun f hf => ?_)
  exact contributes_some.2 (.inl ⟨h f hf, rfl⟩)

/-- Asking for a document type succeeds just in case one file defines it and no other does. -/
theorem load_some_eq_ok_iff : load (some n) files = .ok c ↔
    ∃ b, c = [(n, b)] ∧ OnlyDefines n files b := by
  rw [load_some_eq_ok]
  constructor
  · rintro ⟨hadd, hc⟩
    obtain ⟨parts, hparts, rfl, hnodup⟩ := addFiles_nil_eq_ok.1 hadd
    exact (onlyDefines_of_forall₂ hparts hnodup).resolve_left fun hnone => hc hnone.1
  · rintro ⟨b, rfl, before, file, after, rfl, hdefines, hothers⟩
    obtain ⟨hbefore, hafter⟩ := List.forall_mem_append.1 hothers
    have hparts := List.rel_append (contributes_nothing hbefore)
      (.cons (contributes_some.2 (.inr ⟨b, hdefines, rfl⟩)) (contributes_nothing hafter))
    refine ⟨addFiles_nil_eq_ok.2 ⟨_, hparts, ?_, List.nodup_singleton n⟩, List.cons_ne_nil _ _⟩
    simp

/-- Loading files for a document type agrees with loading all of them. If everything is loaded, no
    two document types have one name, and asking for a name gives what is listed under it. And
    whatever else may be wrong with the files, asking for a name gives the document type that one
    file alone defines. -/
theorem load_document (files : List (Except ε Definitions)) (n : String) :
    (∀ c, load none files = .ok c →
      c.names.Nodup ∧
      (∀ b, (n, b) ∈ c → load (some n) files = .ok [(n, b)]) ∧
      (n ∉ c.names → load (some n) files = .error (.unknownDocument n))) ∧
    ∀ c, load (some n) files = .ok c ↔ ∃ b, c = [(n, b)] ∧ OnlyDefines n files b := by
  constructor
  · intro c h
    have hfiles := ne_nil_of_load h
    rw [load_none hfiles] at h
    have hfilter := addFiles_filter (n := n) h
    obtain ⟨_, _, _, hnodup⟩ := addFiles_nil_eq_ok.1 h
    refine ⟨hnodup, fun b hb => ?_, fun hn => ?_⟩
    · rw [filter_key_eq_singleton hnodup hb] at hfilter
      exact load_some_eq_ok.2 ⟨hfilter, List.cons_ne_nil _ _⟩
    · rw [filter_key_eq_nil hn] at hfilter
      exact load_some_of_nil hfiles hfilter
  · intro c
    exact load_some_eq_ok_iff

end One

/-- Invoices and receipts, each defined by a file of its own. -/
def invoicesAndReceipts : List (Except Unit Definitions) :=
  [.ok ⟨.ofList [("invoice", { format := .json })]⟩,
   .ok ⟨.ofList [("receipt", { format := .json })]⟩]

/-- The same, and notes whose view cannot be compiled since JSON knows no namespaces. -/
def withFaultyNotes : List (Except Unit Definitions) :=
  invoicesAndReceipts ++
    [.ok ⟨.ofList [("note", { format := .json, views := [{ roots := ["/\x7burn:n\x7dnote"] }] })]⟩]

theorem receipts_loaded :
    (∃ c b, load none invoicesAndReceipts = .ok c ∧ c.names = ["invoice", "receipt"] ∧
      ("receipt", b) ∈ c ∧ load (some "receipt") invoicesAndReceipts = .ok [("receipt", b)] ∧
      load (some "note") invoicesAndReceipts = .error (.unknownDocument "note")) ∧
    (load none withFaultyNotes).toOption = none ∧
    ∃ b, OnlyDefines "receipt" withFaultyNotes b := by
  refine ⟨?_, ?_, ?_⟩
  · have hloaded : (load none invoicesAndReceipts).toOption.map names =
        some ["invoice", "receipt"] := by decide +kernel
    obtain ⟨c, hc, hnames⟩ := Option.map_eq_some_iff.1 hloaded
    have hload := toOption_eq_some.1 hc
    have hreceipt : "receipt" ∈ c.names := by simp [hnames]
    have hnote : "note" ∉ c.names := by simp [hnames]
    obtain ⟨⟨_, b⟩, hb, rfl⟩ := List.mem_map.1 hreceipt
    exact ⟨c, b, hload, hnames, hb,
      ((load_document invoicesAndReceipts "receipt").1 c hload).2.1 b hb,
      ((load_document invoicesAndReceipts "note").1 c hload).2.2 hnote⟩
  · have hfault : (load none withFaultyNotes).toOption.isNone = true := by decide +kernel
    exact Option.isNone_iff_eq_none.1 hfault
  · have hloaded : (load (some "receipt") withFaultyNotes).toOption.isSome = true := by
      decide +kernel
    obtain ⟨c, hc⟩ := Option.isSome_iff_exists.1 hloaded
    obtain ⟨b, _, hdefines⟩ :=
      ((load_document withFaultyNotes "receipt").2 c).1 (toOption_eq_some.1 hc)
    exact ⟨b, hdefines⟩

end Catalog

end DocViews
