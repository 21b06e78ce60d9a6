import DocViews.Proofs.Namespaces
import DocViews.Proofs.View.Projection

/-!
# Prefixes in views of markup

Where a look-up finds no prefix, or an empty one, a segment would be written without its namespace
and lead to something else. This never happens in a view that is written: every namespace in it has
been resolved, and its prefix is the one that the view declares. So all three places that a path is
written in, the root, the columns and the metadata, agree with the declarations of their own view.
Whether one prefix stands for several namespaces is up to the policy.
-/

namespace DocViews

/-! ## Namespaces of a view -/

/-- Whether a namespace occurs in the roots or in the properties of a view. -/
def ViewPlan.Uses (v : ViewPlan) (uri : String) : Prop :=
  uri ∈ v.rootPath.uris ∨ ∃ c ∈ v.properties, uri ∈ c.path.uris

theorem ViewPlan.mem_uris {v : ViewPlan} {uri : String} : uri ∈ v.uris.elems ↔ v.Uses uri := by
  have hmem : uri ∈ v.uris.elems ↔
      uri ∈ v.rootPath.uris ++ v.properties.flatMap (·.path.uris) := TextSet.mem_ofList
  rw [hmem, List.mem_append, List.mem_flatMap]
  exact Iff.rfl

/-- The path from the root of a document goes through the roots and then on to the property. -/
theorem ViewPlan.uses_of_mem_uris {v : ViewPlan} {c : ColumnProperty} (hc : c ∈ v.properties) :
    ∀ uri ∈ Path.uris (v.rootPath ++ c.path), v.Uses uri := by
  intro uri huri
  rw [Path.uris, List.filterMap_append, List.mem_append] at huri
  exact huri.imp_right fun hstep => ⟨c, hc, hstep⟩

theorem ViewPlan.uris_eq_nil_iff {v : ViewPlan} : v.uris.elems = [] ↔ ∀ uri, ¬v.Uses uri := by
  simp only [List.eq_nil_iff_forall_not_mem, mem_uris]

section Resolved
variable {policy : NamespacePolicy} {v : ViewPlan} {prefixes : Prefixes}
  (h : resolvePrefixes policy v.uris = .ok prefixes)
include h

/-- Every namespace of a view whose prefixes are resolved has one. -/
theorem ViewPlan.Uses.get? {uri : String} (huri : v.Uses uri) :
    ∃ q, prefixes.get? uri = some q ∧ q ≠ "" :=
  (resolvePrefixes_eq_ok.1 h).2 uri (ViewPlan.mem_uris.2 huri)

/-- Without namespaces there are no prefixes, whatever the policy would give. -/
theorem ViewPlan.resolved_empty (hnone : ∀ uri, ¬v.Uses uri) : prefixes = .empty := by
  rcases resolvePrefixes_answer h with ⟨_, hempty⟩ | ⟨hsome, _⟩
  · exact hempty
  · exact absurd (ViewPlan.uris_eq_nil_iff.2 hnone) hsome

end Resolved

/-! ## Names behind prefixes -/

/-- A name, behind the prefix of its namespace if it has one. -/
def Segment.qualified (prefixOf : String → String) (s : Segment) : String :=
  match s.uri with
  | some uri => prefixOf uri ++ ":" ++ s.name
  | none => s.name

/-- The names of a path, each after a slash. -/
def Path.qualified (prefixOf : String → String) (p : Path) : String :=
  String.join (p.map fun s => "/" ++ s.qualified prefixOf)

/-- The prefix of a namespace, empty if there is none. -/
def prefixIn (prefixes : Prefixes) (uri : String) : String := (prefixes.get? uri).getD ""

theorem prefixIn_of_get? {prefixes : Prefixes} {uri q : String} (h : prefixes.get? uri = some q) :
    prefixIn prefixes uri = q := by
  rw [prefixIn, h, Option.getD_some]

/-- The prefix of a namespace in a view is declared. -/
theorem ViewPlan.Uses.declared {policy : NamespacePolicy} {v : ViewPlan} {prefixes : Prefixes}
    {uri : String} (huri : v.Uses uri) (h : resolvePrefixes policy v.uris = .ok prefixes) :
    prefixIn prefixes uri ≠ "" ∧ (uri, prefixIn prefixes uri) ∈ declarations prefixes := by
  obtain ⟨q, hq, hne⟩ := huri.get? h
  rw [prefixIn_of_get? hq]
  exact ⟨hne, (declarations_perm prefixes).mem_iff.2 (TextMap.mem_entries_iff.2 hq)⟩

section Render
variable {prefixes : Prefixes} {p : Path}

/-- A prefix that is found and not empty is written. -/
theorem Segment.render_eq_qualified {s : Segment}
    (h : ∀ uri, s.uri = some uri → ∃ q, prefixes.get? uri = some q ∧ q ≠ "") :
    s.render id prefixes.get? = s.qualified (prefixIn prefixes) := by
  unfold Segment.render Segment.qualified
  cases huri : s.uri with
  | none => rfl
  | some uri =>
    obtain ⟨q, hq, hne⟩ := h uri huri
    simp [hq, hne, prefixIn_of_get? hq]

variable (h : ∀ uri ∈ p.uris, ∃ q, prefixes.get? uri = some q ∧ q ≠ "")
include h

theorem Path.render_eq_qualified {s : Segment} (hs : s ∈ p) :
    s.render id prefixes.get? = s.qualified (prefixIn prefixes) :=
  s.render_eq_qualified fun uri huri => h uri (List.mem_filterMap.2 ⟨s, hs, huri⟩)

theorem xmlRoot_eq_qualified :
    xmlRoot prefixes p =
      "/" ++ String.intercalate "/" (p.map (·.qualified (prefixIn prefixes))) := by
  unfold xmlRoot Path.joined
  rw [List.map_congr_left fun s hs => Path.render_eq_qualified h hs]

theorem chained_eq_qualified (start : String) :
    p.chained start "/" id prefixes.get? = start ++ p.qualified (prefixIn prefixes) := by
  unfold Path.chained Path.qualified
  rw [List.map_congr_left fun s hs => congrArg ("/" ++ ·) (Path.render_eq_qualified h hs)]

end Render

/-! ## Written views -/

/-- The columns of an XML table, each with the path that leads to it from a node. -/
def qualifiedEntries (types : TypeNames) (prefixOf : String → String) (cs : List ColumnProperty) :
    String :=
  if cs.isEmpty then "XML_ORDINAL FOR ORDINALITY"
  else Sql.commaSeparated (cs.map fun c =>
    c.column ++ " " ++ types c.scalar ++ " PATH " ++ Sql.literal ("." ++ c.path.qualified prefixOf))

theorem markupEntries_eq_qualified {types : TypeNames} {prefixes : Prefixes}
    {cs : List ColumnProperty}
    (h : ∀ c ∈ cs, ∀ uri ∈ c.path.uris, ∃ q, prefixes.get? uri = some q ∧ q ≠ "") :
    markupEntries types prefixes cs = qualifiedEntries types (prefixIn prefixes) cs := by
  unfold markupEntries qualifiedEntries
  congr 2
  refine List.map_congr_left fun c hc => ?_
  rw [markupEntry, xmlStep, chained_eq_qualified (h c hc)]

/-- The view `p` of markup is the plan `v`, where `prefixOf` gives the prefix of each namespace. All
    paths are written with it, and the clause in the text of the view declares it. -/
structure Qualifies (config : Config) (v : ViewPlan) (p : Projection) (q : Sql.XmlProjection)
    (prefixOf : String → String) : Prop where
  name_eq : p.name = v.name
  query_eq : p.query = .xml q
  text_eq : p.query.render =
    "SELECT " ++ Sql.commaSeparated (v.direct ++ v.properties.map (·.column))
      ++ " FROM " ++ v.table ++ ", XMLTABLE(" ++ Sql.declarationClause q.declarations
      ++ Sql.literal ("/" ++ String.intercalate "/" (v.rootPath.map (·.qualified prefixOf)))
      ++ " PASSING PAYLOAD COLUMNS " ++ qualifiedEntries config.types prefixOf v.properties ++ ")"
  mappings_eq : p.mappings =
    v.properties.map fun c => (Path.qualified prefixOf (v.rootPath ++ c.path), c.column)
  declared : ∀ uri, v.Uses uri → prefixOf uri ≠ "" ∧ (uri, prefixOf uri) ∈ q.declarations
  declared_once : (q.declarations.map (·.1)).Nodup
  /-- Policies that number namespaces or list prefixes for them declare nothing else. -/
  declared_only : config.namespaces.Giving → ∀ uri, uri ∈ q.declarations.map (·.1) ↔ v.Uses uri
  /-- A view without namespaces is the same under every policy, also under one that fails. -/
  unprefixed : (∀ uri, ¬v.Uses uri) → q.declarations = [] ∧ q.namespaceClause = "" ∧
    ∀ policy, project { config with namespaces := policy } v = .ok p

/-- Without namespaces the policy plays no part. -/
theorem project_congr_policy {config : Config} {v : ViewPlan} (hnone : ∀ uri, ¬v.Uses uri)
    (policy : NamespacePolicy) :
    project { config with namespaces := policy } v = project config v := by
  have hempty : v.uris.isEmpty := List.isEmpty_iff.2 (ViewPlan.uris_eq_nil_iff.2 hnone)
  unfold project xmlProjection
  simp only [resolvePrefixes_of_isEmpty hempty]

theorem project_qualifies {config : Config} {v : ViewPlan} {p : Projection}
    (hdialect : config.dialect = .xml) (h : project config v = .ok p) :
    ∃ q prefixOf, Qualifies config v p q prefixOf := by
  have hwrites := project_writes h
  obtain ⟨prefixes, q, hprefixes, hquery, hdeclarations, hroot, htext, hmappings⟩ :=
    hwrites.markup hdialect
  have hperm : q.declarations.Perm prefixes.entries := by
    rw [hdeclarations]
    exact declarations_perm prefixes
  have hget := fun uri (huri : v.Uses uri) => huri.get? hprefixes
  refine ⟨q, prefixIn prefixes, ?_⟩
  constructor
  case name_eq => exact hwrites.name_eq
  case query_eq => exact hquery
  case text_eq =>
    have hroot_get := fun uri huri => hget uri (.inl huri)
    rw [htext, hroot, xmlRoot_eq_qualified hroot_get,
      markupEntries_eq_qualified fun c hc uri huri => hget uri (.inr ⟨c, hc, huri⟩)]
  case mappings_eq =>
    rw [hmappings]
    refine List.map_congr_left fun c hc => ?_
    have hpath := ViewPlan.uses_of_mem_uris hc
    rw [xmlPath, chained_eq_qualified fun uri huri => hget uri (hpath uri huri)]
    rfl
  case declared =>
    intro uri huri
    rw [hdeclarations]
    exact huri.declared hprefixes
  case declared_once => exact (hperm.map _).nodup_iff.2 prefixes.nodup_keys
  case declared_only =>
    intro hgiving uri
    rw [(hperm.map _).mem_iff, resolvePrefixes_exact hgiving.exact hprefixes, ViewPlan.mem_uris]
  case unprefixed =>
    intro hnone
    have hnil : q.declarations = [] := by
      rw [ViewPlan.resolved_empty hprefixes hnone] at hperm
      exact hperm.eq_nil
    refine ⟨hnil, ?_, fun policy => (project_congr_policy hnone policy).trans h⟩
    rw [q.namespaceClause_eq, hnil]
    rfl

/-! ## Declared prefixes -/

/-- The prefixes that the view `p` of markup, written from the plan `v`, declares under a policy. -/
structure Declares (policy : NamespacePolicy) (v : ViewPlan) (p : Projection)
    (q : Sql.XmlProjection) : Prop where
  query_eq : p.query = .xml q
  text_eq : p.query.render = "SELECT " ++ Sql.commaSeparated (q.direct ++ q.columns.map (·.name))
    ++ " FROM " ++ q.table ++ ", XMLTABLE(" ++ Sql.declarationClause q.declarations
    ++ Sql.literal q.root ++ " PASSING PAYLOAD COLUMNS " ++ q.columnList ++ ")"
  /-- Each namespace of the view is declared once, under the prefix that the policy has for it. None
      of them is the default namespace. -/
  own : ∀ uri, v.Uses uri → ∃ prefixes pre, policy v.uris = .ok prefixes ∧
    prefixes.get? uri = some pre ∧ pre ≠ "" ∧ q.declarations.filter (·.1 == uri) = [(uri, pre)]
  /-- Two of them share a prefix just in case the policy has the same one for both. -/
  shared_iff : ∀ uri uri', v.Uses uri → v.Uses uri' → ∀ prefixes, policy v.uris = .ok prefixes →
    ((∃ pre, (uri, pre) ∈ q.declarations ∧ (uri', pre) ∈ q.declarations) ↔
      prefixes.get? uri = prefixes.get? uri')
  nothing : (∀ uri, ¬v.Uses uri) → q.declarations = []
  /-- A policy that has prefixes for just the namespaces that it is asked for declares nothing else,
      and so no default namespace at all. -/
  exact : policy.Exact →
    (∀ uri, uri ∈ q.declarations.map (·.1) ↔ v.Uses uri) ∧ ∀ d ∈ q.declarations, d.2 ≠ ""
  /-- Policies that number namespaces or list prefixes for them are like that. -/
  giving : policy.Giving → policy.Exact
  synthetic : ∀ s : SyntheticPolicy, policy = s.resolve → (q.declarations.map (·.2)).Nodup
  /-- A listed prefix is taken as it is. A number makes a prefix that is not listed at all. -/
  fixed_origin : ∀ listed, policy = fixedPolicy listed → ∀ uri pre, (uri, pre) ∈ q.declarations →
    listed.get? uri = some pre ∨
      listed.get? uri = none ∧ pre ∉ listed.values ∧ ∃ n, 0 < n ∧ pre = syntheticPrefix n
  fixed : ∀ listed, policy = fixedPolicy listed → ((q.declarations.map (·.2)).Nodup ↔
    ∀ uri, v.Uses uri → ∀ uri', v.Uses uri' → ∀ pre,
      listed.get? uri = some pre → listed.get? uri' = some pre → uri = uri')

theorem project_declares {config : Config} {v : ViewPlan} {p : Projection}
    (hdialect : config.dialect = .xml) (h : project config v = .ok p) :
    ∃ q, Declares config.namespaces v p q := by
  obtain ⟨prefixes, q, hprefixes, hquery, hdeclarations, _⟩ := (project_writes h).markup hdialect
  have hperm : q.declarations.Perm prefixes.entries := by
    rw [hdeclarations]
    exact declarations_perm prefixes
  have hkeys : (q.declarations.map (·.1)).Perm (prefixes.entries.map (·.1)) := hperm.map _
  have hvalues : (q.declarations.map (·.2)).Nodup ↔ prefixes.values.Nodup :=
    (hperm.map _).nodup_iff
  have hmem : ∀ uri pre, (uri, pre) ∈ q.declarations ↔ prefixes.get? uri = some pre := by
    intro uri pre
    rw [hperm.mem_iff, TextMap.mem_entries_iff]
  -- A view with a namespace asks the policy, so what is resolved is what the policy gave.
  have hanswer : ∀ uri, v.Uses uri → config.namespaces v.uris = .ok prefixes := by
    intro uri huri
    rcases resolvePrefixes_answer hprefixes with ⟨hnil, _⟩ | ⟨_, hanswer⟩
    · exact absurd huri (ViewPlan.uris_eq_nil_iff.1 hnil uri)
    · exact hanswer
  refine ⟨q, ?_⟩
  constructor
  case query_eq => exact hquery
  case text_eq =>
    rw [hquery]
    exact xmlProjection_render q
  case own =>
    intro uri huri
    obtain ⟨pre, hpre, hne⟩ := huri.get? hprefixes
    refine ⟨prefixes, pre, hanswer uri huri, hpre, hne, ?_⟩
    exact filter_key_eq_singleton (hkeys.nodup_iff.2 prefixes.nodup_keys) ((hmem uri pre).2 hpre)
  case shared_iff =>
    intro uri uri' huri huri' given hgiven
    rw [hanswer uri huri] at hgiven
    cases hgiven
    obtain ⟨pre, hpre, _⟩ := huri.get? hprefixes
    simp only [hmem, hpre, Option.some.injEq, exists_eq_left', eq_comm]
  case nothing =>
    intro hnone
    rw [ViewPlan.resolved_empty hprefixes hnone] at hperm
    exact hperm.eq_nil
  case exact =>
    intro hexact
    have honly : ∀ uri, uri ∈ q.declarations.map (·.1) ↔ v.Uses uri := by
      intro uri
      rw [hkeys.mem_iff, resolvePrefixes_exact hexact hprefixes, ViewPlan.mem_uris]
    refine ⟨honly, fun ⟨uri, pre⟩ hdeclared => ?_⟩
    -- All that is declared has been asked for, and so it has been checked.
    obtain ⟨found, hfound, hne⟩ :=
      ((honly uri).1 (List.mem_map.2 ⟨_, hdeclared, rfl⟩)).get? hprefixes
    rw [(hmem uri pre).1 hdeclared] at hfound
    cases hfound
    exact hne
  case giving => exact fun hgiving => hgiving.exact
  case synthetic =>
    intro s hpolicy
    rw [hpolicy] at hprefixes
    exact hvalues.2 (SyntheticPolicy.resolved_nodup hprefixes)
  case fixed_origin =>
    intro listed hpolicy uri pre hdeclared
    rw [hpolicy] at hprefixes
    exact fixedPolicy_resolved_origin hprefixes (hperm.mem_iff.1 hdeclared)
  case fixed =>
    intro listed hpolicy
    rw [hpolicy] at hprefixes
    rw [hvalues, fixedPolicy_resolved_nodup_iff hprefixes]
    simp only [ViewPlan.mem_uris]

end DocViews
