import DocViews.Proofs.Compile.Registry
import DocViews.Proofs.Naming
import DocViews.Proofs.Text.Replace

/-!
# Grants

Whatever a plain namer names, all objects of a bundle are called by capital letters, digits and
underscores. So the braces of the placeholder stand in no name, every template has one place for the
grantee, and the grants say what they are meant to, whoever the grantee is.
-/

namespace DocViews

/-! ## Plain texts -/

/-- A text of capital letters, digits and underscores. -/
def IsPlainText (s : String) : Prop := ∀ c ∈ s.toList, PlainNamer.isPlain c = true

instance (s : String) : Decidable (IsPlainText s) :=
  List.decidableBAll (fun c => PlainNamer.isPlain c = true) s.toList

theorem IsPlainText.append {s t : String} (hs : IsPlainText s) (ht : IsPlainText t) :
    IsPlainText (s ++ t) := by
  unfold IsPlainText
  rw [String.toList_append, List.forall_mem_append]
  exact ⟨hs, ht⟩

theorem isPlainText_repr (k : Nat) : IsPlainText (Nat.repr k) := fun c hc => by
  simp [PlainNamer.isPlain, isDigit_of_mem_repr hc]

theorem IsPlainText.partName {view : String} (h : IsPlainText view) (k : Nat) :
    IsPlainText (partName view k) :=
  (h.append (t := "_") (by decide)).append (isPlainText_repr k)

theorem PlainNamer.isPlainText_resolveBy (spell : String → String) (n : PlainNamer)
    (segments : List String)
    (taken : String → Bool) : IsPlainText (n.resolveBy spell segments taken) :=
  fun _ hc => n.resolveBy_plain spell segments taken hc

/-! ## Names of objects -/

section Names
variable {config : Config} {spell : String → String} {n : PlainNamer} {base : String}
  {direct taken : List String}
  {g : ViewGroup} {gs : List ViewGroup} {r : GroupResult} {rs : List GroupResult}

theorem initialNames_plain (h : IsPlainText base) : ∀ name ∈ initialNames base, IsPlainText name := by
  rw [initialNames_eq]
  simp only [List.forall_mem_cons]
  refine ⟨?_, ?_, ?_, ?_, by simp⟩ <;> exact h.append (by decide)

theorem GroupStep.names_plain (h : GroupStep config (n.resolveBy spell) base direct taken g r) :
    ∀ name ∈ r.names, IsPlainText name := by
  have hview : IsPlainText r.view := h.view_eq ▸ n.isPlainText_resolveBy spell _ _
  rw [h.names_eq, h.plans_eq, List.forall_mem_map]
  intro v hv
  rcases planViews_name hv with heq | ⟨k, heq⟩
  · exact heq ▸ hview
  · exact heq ▸ hview.partName k

/-- By induction on the run: each step registers plain names. -/
theorem GroupsRun.names_plain (h : GroupsRun config (n.resolveBy spell) base direct taken gs rs) :
    ∀ name ∈ rs.flatMap (·.names), IsPlainText name := by
  induction h with
  | nil => simp
  | cons hstep _ ih =>
    rw [List.flatMap_cons, List.forall_mem_append]
    exact ⟨hstep.names_plain, ih⟩

end Names

section Bundles
variable {Document : Type} {config : Config} {name : String} {groups : List ViewGroup}
  {spell : String → String} {n : PlainNamer} {table : TablePolicy Document} {b : Bundle Document}

theorem compile_names_plain (h : compile config name groups (n.resolveBy spell) table = .ok b) :
    ∀ name ∈ b.objects.map (·.name), IsPlainText name := by
  obtain ⟨indices, rs, listing, _, hrun, hlisting, rfl⟩ := compile_eq_ok.1 h
  obtain ⟨_, rfl⟩ := metadataViews_eq_ok.1 hlisting
  have hbase : IsPlainText (baseName (n.resolveBy spell) name) := n.isPlainText_resolveBy spell _ _
  rw [bundleOf_object_names, List.forall_mem_append, List.forall_mem_append]
  refine ⟨⟨initialNames_plain hbase, hrun.names_plain⟩, ?_⟩
  cases config.metadataView with
  | false => simp
  | true => exact List.forall_mem_singleton.2 (hbase.append (by decide))

/-! ## Templates -/

/-- The placeholder begins with a brace and has no other. -/
theorem granteePlaceholder_toList :
    ∃ cs, granteePlaceholder.toList = '\x7b' :: cs ∧ '\x7b' ∉ cs := ⟨_, rfl, by decide⟩

theorem grantTemplate_eq (object : String) :
    grantTemplate object = "GRANT SELECT ON " ++ object ++ " TO " ++ granteePlaceholder ++ "" := by
  rw [String.append_empty]
  rfl

section Template
variable {object : String} (h : IsPlainText object)
include h

theorem brace_not_mem_grant : '\x7b' ∉ ("GRANT SELECT ON " ++ object ++ " TO ").toList := by
  have hobject : '\x7b' ∉ object.toList := fun hmem => absurd (h _ hmem) (by decide)
  simp [hobject]

theorem replace_grantTemplate (grantee : String) :
    Text.replace granteePlaceholder grantee (grantTemplate object) =
      "GRANT SELECT ON " ++ object ++ " TO " ++ grantee := by
  obtain ⟨cs, hplaceholder, _⟩ := granteePlaceholder_toList
  rw [grantTemplate_eq, Text.replace_once hplaceholder (brace_not_mem_grant h) (by simp),
    String.append_empty]

theorem occurrences_grantTemplate :
    Text.occurrences granteePlaceholder (grantTemplate object) = 1 := by
  obtain ⟨cs, hplaceholder, hcs⟩ := granteePlaceholder_toList
  rw [grantTemplate_eq, Text.occurrences_once hplaceholder (brace_not_mem_grant h) (by simp) hcs]

end Template

/-- A bundle grants access to each of its objects, in their order, and to nothing else. In each
    template the placeholder occurs once, so the grantee stands there as it is given, even if it
    looks like the placeholder itself. -/
theorem compile_grants (h : compile config name groups (n.resolveBy spell) table = .ok b) :
    (∀ grantee, b.grants grantee =
      b.objects.map fun o => "GRANT SELECT ON " ++ o.name ++ " TO " ++ grantee) ∧
    b.grantTemplates = b.objects.map (fun o =>
      "GRANT SELECT ON " ++ o.name ++ " TO " ++ "\x7bgrantee\x7d") ∧
    ∀ template ∈ b.grantTemplates, Text.occurrences "\x7bgrantee\x7d" template = 1 := by
  have hplain : ∀ o ∈ b.objects, IsPlainText o.name := fun o ho =>
    compile_names_plain h o.name (List.mem_map_of_mem ho)
  have htemplates := (compile_derived h).grants_eq
  refine ⟨fun grantee => ?_, htemplates, ?_⟩
  · rw [Bundle.grants, htemplates, List.map_map]
    exact List.map_congr_left fun o ho => replace_grantTemplate (hplain o ho) grantee
  · rw [htemplates, List.forall_mem_map]
    exact fun o ho => occurrences_grantTemplate (hplain o ho)

end Bundles

/-- Even without any room for names there are grants for all objects, here for a grantee whose name
    contains the placeholder. -/
theorem roomless_grants :
    ∃ b, compile Config.json "doc" [⟨[[⟨"lines", none⟩]], []⟩] (PlainNamer.resolve ⟨0⟩)
        (staticColumns []) = .ok b ∧
      b.objects.map (·.name) = ["_RAW", "_MIN", "_MAX", "_NOW", "", "_MTA"] ∧
      b.grants "\x7bgrantee\x7d_role" = b.objects.map (fun o =>
        "GRANT SELECT ON " ++ o.name ++ " TO " ++ "\x7bgrantee\x7d_role") ∧
      ∀ template ∈ b.grantTemplates, Text.occurrences "\x7bgrantee\x7d" template = 1 := by
  have h : ((compile Config.json "doc" [⟨[[⟨"lines", none⟩]], []⟩] (PlainNamer.resolve ⟨0⟩)
      (staticColumns [])).toOption.map fun b => b.objects.map (·.name)) =
        some ["_RAW", "_MIN", "_MAX", "_NOW", "", "_MTA"] := by
    decide +kernel
  obtain ⟨b, hb, hnames⟩ := Option.map_eq_some_iff.1 h
  rw [toOption_eq_some] at hb
  obtain ⟨hgrants, _, honce⟩ := compile_grants hb
  exact ⟨b, hb, hnames, hgrants _, honce⟩

end DocViews
