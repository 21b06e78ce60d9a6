import DocViews.Proofs.Compile.Run
import DocViews.Proofs.Naming
import DocViews.Proofs.Sql.Declarations
import DocViews.Proofs.View.Markup

/-!
# Reading declarations back

A view of markup declares what its policy has resolved. Whoever reads the view finds the same
namespaces with the same prefixes in it, and behind them the rest of the view, whatever characters
the namespaces consist of. Prefixes that are numbers are safe, too. A listed prefix with a quotation
mark is not: it is written as it is, and the identifier that begins there ends somewhere else.
-/

namespace DocViews

/-! ## Prefixes of a view -/

/-- Without namespaces there is nothing to number, so it makes no difference that the policy is not
    asked. -/
theorem fixedPolicy_of_resolved {listed prefixes : Prefixes} {uris : TextSet}
    (h : resolvePrefixes (fixedPolicy listed) uris = .ok prefixes) :
    fixedPolicy listed uris = .ok prefixes := by
  rcases resolvePrefixes_answer h with ⟨hnil, rfl⟩ | ⟨_, hanswer⟩
  · rw [fixedPolicy, hnil]
    rfl
  · exact hanswer

theorem mark_not_mem_syntheticPrefix (n : Nat) :
    Sql.Quoting.identifier.mark ∉ (syntheticPrefix n).toList := by
  rw [syntheticPrefix, String.toList_append, List.mem_append, not_or]
  refine ⟨by decide, fun hmem => ?_⟩
  exact absurd (isDigit_of_mem_repr hmem) (by decide)

/-- A mark in a prefix comes from the list. -/
theorem forall_mark_not_mem_iff {listed prefixes : Prefixes} {uris : TextSet}
    (h : fixedPolicy listed uris = .ok prefixes) :
    (∀ d ∈ prefixes.entries, Sql.Quoting.identifier.mark ∉ d.2.toList) ↔
      ∀ uri ∈ uris, ∀ q, listed.get? uri = some q → Sql.Quoting.identifier.mark ∉ q.toList := by
  rw [fixedPolicy_entries h]
  constructor
  · intro hnone uri huri q hq
    exact hnone _ (mem_assignListed_of_get? huri hq)
  · intro hnone ⟨uri, q⟩ hmem
    have huri : uri ∈ uris.elems := by
      rw [← assignListed_keys listed 0 uris.elems]
      exact List.mem_map.2 ⟨_, hmem, rfl⟩
    rcases of_mem_assignListed hmem with hq | ⟨_, _, n, _, rfl⟩
    · exact hnone uri huri q hq
    · exact mark_not_mem_syntheticPrefix n

/-- The view `p` of markup, written from the plan `v`, is read as declaring just what the policy
    gives to the namespaces of `v`. -/
def ReadsBack (listed : Prefixes) (v : ViewPlan) (p : Projection) : Prop :=
  ∃ prefixes q ds, fixedPolicy listed v.uris = .ok prefixes ∧ p.query = .xml q ∧
    q.render = q.beforeClause ++ (q.namespaceClause ++ q.afterClause) ∧
    ds.Perm prefixes.entries ∧ Sql.ReadsClause q.namespaceClause q.afterClause ds

theorem project_readsBack_iff {config : Config} {listed : Prefixes} {v : ViewPlan} {p : Projection}
    (hdialect : config.dialect = .xml) (hpolicy : config.namespaces = fixedPolicy listed)
    (h : project config v = .ok p) :
    ReadsBack listed v p ↔ ∀ uri, v.Uses uri → ∀ q, listed.get? uri = some q →
      Sql.Quoting.identifier.mark ∉ q.toList := by
  obtain ⟨prefixes, q, hprefixes, hquery, hdeclarations, _⟩ := (project_writes h).markup hdialect
  rw [hpolicy] at hprefixes
  have hanswer := fixedPolicy_of_resolved hprefixes
  have hperm : q.declarations.Perm prefixes.entries := by
    rw [hdeclarations]
    exact declarations_perm prefixes
  have hmarks := forall_mark_not_mem_iff hanswer
  simp only [← hperm.mem_iff] at hmarks
  simp only [← ViewPlan.mem_uris]
  refine Iff.trans ⟨?_, ?_⟩ hmarks
  · rintro ⟨prefixes', q', ds, hanswer', hquery', _, hds, hreads⟩
    rw [hanswer] at hanswer'
    rw [hquery] at hquery'
    cases hanswer'
    cases hquery'
    exact Sql.not_mem_of_readsClause (hds.trans hperm.symm) hreads
  · intro hnone
    exact ⟨prefixes, q, q.declarations, hanswer, hquery, q.render_eq, hperm,
      Sql.readsClause_declarations hnone⟩

/-! ## Bundles -/

/-- What the policy resolved is read back from a view, and nothing behind the clause is taken for a
    part of it, just in case no prefix that is listed for a namespace of the view has a quotation
    mark of identifiers in it. -/
theorem compile_readsBack_iff {Document : Type} {config : Config} {listed : Prefixes}
    {name : String} {groups : List ViewGroup} {namer : Namer} {table : TablePolicy Document}
    {b : Bundle Document} (hdialect : config.dialect = .xml)
    (hpolicy : config.namespaces = fixedPolicy listed)
    (h : compile config name groups namer table = .ok b) :
    EachView config b groups fun v p =>
      (ReadsBack listed v p ↔ ∀ uri, v.Uses uri → ∀ q, listed.get? uri = some q →
        Sql.Quoting.identifier.mark ∉ q.toList) :=
  compile_eachView (fun _ _ => project_readsBack_iff hdialect hpolicy) h

/-- A tax return under a namespace that has both kinds of quotation marks in it. -/
def quotedReturn : ViewGroup where
  roots := [[⟨"return", some "urn:'tax\""⟩]]
  properties := [⟨[⟨"income", some "urn:pay"⟩], .decimal⟩]

def quotedPrefixes : Prefixes := .ofList [("urn:'tax\"", "t")]

theorem quotedReturn_readsBack :
    ∃ b, (Config.xmlWith (fixedPolicy quotedPrefixes)).dialect = .xml ∧
      (Config.xmlWith (fixedPolicy quotedPrefixes)).namespaces = fixedPolicy quotedPrefixes ∧
      compile (.xmlWith (fixedPolicy quotedPrefixes)) "doc" [quotedReturn]
        (fun segments _ => String.intercalate "_" segments) (staticColumns []) = .ok b ∧
      EachView (.xmlWith (fixedPolicy quotedPrefixes)) b [quotedReturn]
        (ReadsBack quotedPrefixes) := by
  have h : compile (.xmlWith (fixedPolicy quotedPrefixes)) "doc" [quotedReturn]
      (fun segments _ => String.intercalate "_" segments) (staticColumns []) = .ok _ := rfl
  refine ⟨_, rfl, rfl, h, (compile_readsBack_iff rfl rfl h).imp fun v p hiff => hiff.2 ?_⟩
  intro uri _ q hq
  obtain ⟨_, rfl⟩ := Prod.ext_iff.1 (List.mem_singleton.1 (TextMap.mem_entries_iff.2 hq))
  decide

/-- The mark in this prefix and the one behind it are read as a pair, so the identifier goes on
    behind the clause. -/
theorem marked_prefix_not_read_back :
    ∃ b view q,
      compile (.xmlWith (fixedPolicy (.ofList [("urn:tax", "p\"")]))) "doc"
        [⟨[[⟨"return", some "urn:tax"⟩]], [⟨[⟨"year", none⟩], .string⟩]⟩]
        (fun segments _ => String.intercalate "_" segments) (staticColumns []) = .ok b ∧
      (view, .xml q) ∈ b.creation.filterMap (·.view?) ∧
      (∃ prefixes, fixedPolicy (.ofList [("urn:tax", "p\"")]) (.ofList ["urn:tax"]) = .ok prefixes ∧
        prefixes.entries = [("urn:tax", "p\"")]) ∧
      ¬∃ ds, ds.Perm [("urn:tax", "p\"")] ∧
        Sql.ReadsClause q.namespaceClause q.afterClause ds := by
  refine ⟨_, _, _, rfl, List.mem_of_getElem? (i := 3) rfl, ⟨_, rfl, rfl⟩, ?_⟩
  rintro ⟨ds, hperm, hreads⟩
  have hdeclared : (declarations (.ofList [("urn:tax", "p\"")])).Perm [("urn:tax", "p\"")] :=
    declarations_perm _
  have hnone := Sql.not_mem_of_readsClause (hperm.trans hdeclared.symm) hreads
  exact hnone _ (hdeclared.mem_iff.2 List.mem_cons_self) (by decide)

end DocViews
