import DocViews.Proofs.Namespaces
import DocViews.Proofs.Text.ByteOrder

/-!
# Listed prefixes and numbers beside them

A policy with listed prefixes numbers the namespaces that are not listed, in the order of their
URIs. A number is passed over if it makes a prefix that is listed, even if it is listed for a
namespace that nobody asks for. So the numbers are the smallest ones that are left, the search for
the next of them always ends, and two namespaces have the same prefix only if the list says so.
-/

namespace DocViews

section Listed
variable {listed : Prefixes} {last : Nat} {uris : List String} {uri p : String}

/-- The namespaces that no prefix is listed for. -/
def unlisted (listed : Prefixes) (uris : List String) : List String :=
  uris.filter fun uri => !listed.contains uri

theorem unlisted_cons_of_some (h : listed.get? uri = some p) :
    unlisted listed (uri :: uris) = unlisted listed uris :=
  List.filter_cons_of_neg (by simp [TextMap.contains, h])

theorem unlisted_cons_of_none (h : listed.get? uri = none) :
    unlisted listed (uri :: uris) = uri :: unlisted listed uris :=
  List.filter_cons_of_pos (by simp [TextMap.contains, h])

/-- Namespaces that are not listed get the free numbers one after another. -/
theorem assignListed_unlisted (listed : Prefixes) (last : Nat) (uris : List String) :
    List.Forall₂ (fun uri k => (uri, syntheticPrefix k) ∈ assignListed listed last uris)
      (unlisted listed uris)
      (freeNumbers syntheticPrefix listed.values (last + 1) (unlisted listed uris).length) := by
  induction uris generalizing last with
  | nil => exact .nil
  | cons uri uris ih =>
    unfold assignListed
    split
    case h_1 p hp =>
      -- No number is used up.
      rw [unlisted_cons_of_some hp]
      exact (ih last).imp fun _ _ hmem => List.mem_cons_of_mem _ hmem
    case h_2 hnone =>
      rw [unlisted_cons_of_none hnone]
      exact .cons List.mem_cons_self ((ih _).imp fun _ _ hmem => List.mem_cons_of_mem _ hmem)

end Listed

/-- The prefixes of the namespaces `uris`: those that are listed, and numbers for the others. -/
structure Completes (listed : Prefixes) (uris : TextSet) (prefixes : Prefixes) : Prop where
  keys_eq : prefixes.keys = uris.elems
  listed_kept : ∀ uri ∈ uris, ∀ p, listed.get? uri = some p → prefixes.get? uri = some p
  /-- The namespaces that are not listed come in the order of their bytes. -/
  unlisted_ascending : (unlisted listed uris.elems).Pairwise fun a b => Text.bytes a < Text.bytes b
  /-- The first of them gets the smallest free number, the second the next one, and so on. -/
  unlisted_numbered : ∃ ks, SmallestFree (fun k => "ns" ++ Nat.repr k) listed.values 1 ks ∧
    List.Forall₂ (fun uri k => prefixes.get? uri = some ("ns" ++ Nat.repr k))
      (unlisted listed uris.elems) ks
  /-- Namespaces share a prefix only if one is listed for both. -/
  injective_iff : (∀ a b p, prefixes.get? a = some p → prefixes.get? b = some p → a = b) ↔
    ∀ a ∈ uris, ∀ b ∈ uris, ∀ p, listed.get? a = some p → listed.get? b = some p → a = b

theorem completes_of_fixedPolicy {listed : Prefixes} {uris : TextSet} {prefixes : Prefixes}
    (h : fixedPolicy listed uris = .ok prefixes) : Completes listed uris prefixes := by
  have hentries := fixedPolicy_entries h
  have hget : ∀ {uri p}, (uri, p) ∈ assignListed listed 0 uris.elems →
      prefixes.get? uri = some p := fun hmem => TextMap.mem_entries_iff.1 (hentries ▸ hmem)
  constructor
  case keys_eq => rw [TextMap.keys, hentries, assignListed_keys]
  case listed_kept => exact fun uri huri p hp => hget (mem_assignListed_of_get? huri hp)
  case unlisted_ascending =>
    exact (uris.ascending.imp Text.lt_iff_bytes_lt.1).filter _
  case unlisted_numbered =>
    have hnumbered := (assignListed_unlisted listed 0 uris.elems).imp fun _ _ => hget
    exact ⟨_, freeNumbers_smallestFree syntheticPrefix_injective listed.values .., hnumbered⟩
  case injective_iff =>
    rw [← TextMap.values_nodup_iff, TextMap.values, hentries, assignListed_nodup_iff]
    exact filterMap_get?_nodup_iff uris.nodup

/-- Whatever prefixes are listed and whatever namespaces are asked for, each of these has a prefix:
    the listed one, or else the smallest number that is left, for which the search always ends. -/
theorem fixedPolicy_completes (listed : Prefixes) (uris : TextSet) :
    (∃ prefixes, fixedPolicy listed uris = .ok prefixes ∧ Completes listed uris prefixes) ∧
    ∀ start, ∃ k, start ≤ k ∧ k ≤ start + listed.values.length ∧
      "ns" ++ Nat.repr k ∉ listed.values :=
  ⟨⟨_, rfl, completes_of_fixedPolicy rfl⟩, exists_free syntheticPrefix_injective listed.values⟩

/-- Of three namespaces one is listed under the first number, and another that is not among them
    under the third, so the second and the fourth are left. No prefix is given twice. -/
theorem taxes_completed :
    ∃ prefixes,
      fixedPolicy (.ofList [("urn:tax", "ns1"), ("urn:old", "ns3")])
        (.ofList ["urn:tax", "urn:b", "urn:a"]) = .ok prefixes ∧
      prefixes.entries = [("urn:a", "ns2"), ("urn:b", "ns4"), ("urn:tax", "ns1")] ∧
      ∀ a b p, prefixes.get? a = some p → prefixes.get? b = some p → a = b := by
  have hlisted : ∀ uri ∈ (TextSet.ofList ["urn:tax", "urn:b", "urn:a"]), ∀ p,
      (TextMap.ofList [("urn:tax", "ns1"), ("urn:old", "ns3")]).get? uri = some p →
        uri = "urn:tax" := by
    simp only [TextSet.mem_ofList]
    decide
  obtain ⟨prefixes, h, hcompletes⟩ := (fixedPolicy_completes
    (.ofList [("urn:tax", "ns1"), ("urn:old", "ns3")]) (.ofList ["urn:tax", "urn:b", "urn:a"])).1
  refine ⟨prefixes, h, ?_, hcompletes.injective_iff.2 fun a ha b hb p hpa hpb => ?_⟩
  · rw [fixedPolicy_entries h]
    decide +kernel
  · rw [hlisted a ha p hpa, hlisted b hb p hpb]

end DocViews
