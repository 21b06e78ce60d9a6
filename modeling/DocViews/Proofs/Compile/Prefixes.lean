import DocViews.Proofs.Compile.Run
import DocViews.Proofs.View.Markup

/-!
# Prefixes in a bundle of markup

Every view of a bundle stands for itself: it declares the prefixes that its own paths are written
with, also where a group is split and its parts use different namespaces. Whether one prefix stands
for several namespaces is up to the policy. Numbered prefixes never do, listed ones do if they are
listed like that.
-/

namespace DocViews

section Bundles
variable {Document : Type} {config : Config} {name : String} {groups : List ViewGroup}
  {namer : Namer} {table : TablePolicy Document} {b : Bundle Document}

/-! ## Paths -/

/-- Every path in a view of markup, be it the root, the path of a column or an entry of the
    metadata, is written with prefixes that the view declares, and without any for segments that
    belong to no namespace. -/
theorem compile_qualifies (hdialect : config.dialect = .xml)
    (h : compile config name groups namer table = .ok b) :
    EachView config b groups fun v p => ∃ q prefixOf, Qualifies config v p q prefixOf :=
  compile_eachView (fun _ _ => project_qualifies hdialect) h

/-- A tax return with a year, which belongs to no namespace, and an income, which belongs to a
    namespace of its own. -/
def taxReturn : ViewGroup where
  roots := [[⟨"return", some "urn:tax"⟩]]
  properties := [⟨[⟨"year", none⟩], .string⟩, ⟨[⟨"income", some "urn:pay"⟩], .decimal⟩]

/-- One of its namespaces has a listed prefix, which looks like a number. -/
def taxConfig : Config := .xmlWith (fixedPolicy (.ofList [("urn:tax", "ns1")]))

theorem taxReturn_qualifies :
    ∃ b, taxConfig.dialect = .xml ∧
      compile taxConfig "doc" [taxReturn] (fun segments _ => String.intercalate "_" segments)
        (staticColumns []) = .ok b ∧
      EachView taxConfig b [taxReturn] fun v p => ∃ q prefixOf, Qualifies taxConfig v p q prefixOf := by
  have h : compile taxConfig "doc" [taxReturn] (fun segments _ => String.intercalate "_" segments)
      (staticColumns []) = .ok _ := rfl
  exact ⟨_, rfl, h, compile_qualifies rfl h⟩

/-! ## Declarations -/

/-- Every view of markup declares its namespaces with the prefixes that the policy has for them, none
    of them as the default namespace. Two of them have different prefixes unless one is listed for
    both or a policy of the caller's gives it to both. -/
theorem compile_declares (hdialect : config.dialect = .xml)
    (h : compile config name groups namer table = .ok b) :
    EachView config b groups fun v p => ∃ q, Declares config.namespaces v p q :=
  compile_eachView (fun _ _ => project_declares hdialect) h

theorem taxReturn_declares :
    ∃ b, taxConfig.dialect = .xml ∧
      compile taxConfig "doc" [taxReturn] (fun segments _ => String.intercalate "_" segments)
        (staticColumns []) = .ok b ∧
      EachView taxConfig b [taxReturn] fun v p => ∃ q, Declares taxConfig.namespaces v p q := by
  have h : compile taxConfig "doc" [taxReturn] (fun segments _ => String.intercalate "_" segments)
      (staticColumns []) = .ok _ := rfl
  exact ⟨_, rfl, h, compile_declares rfl h⟩

/-- A prefix that is listed for two namespaces is declared for both. An empty prefix should be
    refused, but the check misses those that a policy gives without being asked, and they are
    declared as well. -/
theorem shared_and_default_prefixes :
    (∃ b view q,
      compile (.xmlWith (fixedPolicy (.ofList [("urn:tax", "p"), ("urn:pay", "p")]))) "doc"
        [taxReturn] (fun segments _ => String.intercalate "_" segments) (staticColumns []) =
          .ok b ∧
      (view, .xml q) ∈ b.creation.filterMap (·.view?) ∧ ¬(q.declarations.map (·.2)).Nodup) ∧
    ∃ b view q,
      compile (.xmlWith fun _ => .ok (.ofList [("urn:tax", "t"), ("urn:pay", "p"), ("urn:old", "")]))
        "doc" [taxReturn] (fun segments _ => String.intercalate "_" segments) (staticColumns []) =
          .ok b ∧
      (view, .xml q) ∈ b.creation.filterMap (·.view?) ∧ ("urn:old", "") ∈ q.declarations := by
  constructor
  · refine ⟨_, _, _, rfl, List.mem_of_getElem? (i := 3) rfl, ?_⟩
    rw [((declarations_perm _).map _).nodup_iff]
    decide
  · refine ⟨_, _, _, rfl, List.mem_of_getElem? (i := 3) rfl, ?_⟩
    exact (declarations_perm _).mem_iff.2 (by decide)

end Bundles

end DocViews
