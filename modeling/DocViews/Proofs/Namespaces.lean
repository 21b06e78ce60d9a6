import DocViews.Proofs.Numbering
import DocViews.Proofs.Outcome
import DocViews.Proofs.TextMap
import DocViews.View.Xml
import Mathlib.Data.List.Pairwise

/-!
# Prefixes of a view

A view of markup goes on if its policy has a prefix that is not empty for each of its namespaces,
and then it declares them with these prefixes. Policies that number namespaces, or list prefixes for
them, answer for just the namespaces that they are asked for. Numbers tell prefixes apart, also from
those that are listed; two listed prefixes may be the same.
-/

namespace DocViews

/-- Prefixes by number differ. -/
theorem syntheticPrefix_injective : Function.Injective syntheticPrefix := by
  intro m n h
  exact repr_injective ((String.append_right_inj _).1 h)

theorem syntheticPrefix_ne_empty (n : Nat) : syntheticPrefix n ≠ "" := by
  simp [syntheticPrefix]

/-! ## Resolving -/

section Resolving
variable {policy : NamespacePolicy} {uris : TextSet} {prefixes : Prefixes}

/-- Prefixes as long as there is one that is not empty for every namespace. -/
def requirePrefixes (uris : TextSet) (prefixes : Prefixes) : Except CompileError Prefixes :=
  match uris.elems.find? fun uri => ((prefixes.get? uri).getD "").isEmpty with
  | some uri => .error (.defaultNamespace uri)
  | none => .ok prefixes

/-- The policy is not asked if there are no namespaces. What it gives is checked. -/
theorem resolvePrefixes_eq_bind :
    resolvePrefixes policy uris =
      (if uris.isEmpty then .ok .empty else policy uris) >>= requirePrefixes uris := by
  unfold resolvePrefixes
  cases uris.isEmpty <;> rfl

theorem requirePrefixes_eq_ok {answer : Prefixes} :
    requirePrefixes uris answer = .ok prefixes ↔
      answer = prefixes ∧ ∀ uri ∈ uris.elems, ∃ p, answer.get? uri = some p ∧ p ≠ "" := by
  have hnone : (uris.elems.find? fun uri => ((answer.get? uri).getD "").isEmpty) = none ↔
      ∀ uri ∈ uris.elems, ∃ p, answer.get? uri = some p ∧ p ≠ "" := by
    rw [List.find?_eq_none]
    refine forall₂_congr fun uri _ => ?_
    cases answer.get? uri <;> simp
  rw [← hnone]
  unfold requirePrefixes
  split
  case h_1 hfind => simp [hfind]
  case h_2 hfind => simp [hfind]

/-- Prefixes are resolved if none of those that the policy gave for the namespaces is empty. -/
theorem resolvePrefixes_eq_ok :
    resolvePrefixes policy uris = .ok prefixes ↔
      (if uris.isEmpty then .ok .empty else policy uris) = .ok prefixes ∧
        ∀ uri ∈ uris.elems, ∃ p, prefixes.get? uri = some p ∧ p ≠ "" := by
  rw [resolvePrefixes_eq_bind, bind_eq_ok]
  constructor
  · intro ⟨answer, hanswer, h⟩
    obtain ⟨rfl, hprefixes⟩ := requirePrefixes_eq_ok.1 h
    exact ⟨hanswer, hprefixes⟩
  · intro ⟨hanswer, hprefixes⟩
    exact ⟨prefixes, hanswer, requirePrefixes_eq_ok.2 ⟨rfl, hprefixes⟩⟩

/-- What is resolved is what the policy gave, unless there was nothing to ask it for. -/
theorem resolvePrefixes_answer (h : resolvePrefixes policy uris = .ok prefixes) :
    uris.elems = [] ∧ prefixes = .empty ∨ uris.elems ≠ [] ∧ policy uris = .ok prefixes := by
  obtain ⟨hanswer, _⟩ := resolvePrefixes_eq_ok.1 h
  split at hanswer
  case isTrue hempty =>
    cases hanswer
    exact .inl ⟨List.isEmpty_iff.1 hempty, rfl⟩
  case isFalse hsome => exact .inr ⟨fun hnil => hsome (List.isEmpty_iff.2 hnil), hanswer⟩

/-- Without namespaces every policy will do. -/
theorem resolvePrefixes_of_isEmpty (hempty : uris.isEmpty) :
    resolvePrefixes policy uris = .ok .empty := by
  refine resolvePrefixes_eq_ok.2 ⟨if_pos hempty, fun uri huri => ?_⟩
  rw [List.isEmpty_iff.1 hempty] at huri
  exact absurd huri List.not_mem_nil

/-- Declarations are sorted by prefix. -/
theorem declarations_perm (prefixes : Prefixes) : (declarations prefixes).Perm prefixes.entries :=
  List.mergeSort_perm _ _

/-- A policy that has a prefix for just the namespaces that it is asked for. -/
def NamespacePolicy.Exact (policy : NamespacePolicy) : Prop :=
  ∀ uris prefixes, policy uris = .ok prefixes →
    ∀ uri, uri ∈ prefixes.entries.map (·.1) ↔ uri ∈ uris.elems

/-- Under such a policy just the namespaces of the view have a prefix. -/
theorem resolvePrefixes_exact (hexact : policy.Exact)
    (h : resolvePrefixes policy uris = .ok prefixes) (uri : String) :
    uri ∈ prefixes.entries.map (·.1) ↔ uri ∈ uris.elems := by
  rcases resolvePrefixes_answer h with ⟨hnil, rfl⟩ | ⟨_, hanswer⟩
  · rw [hnil]
    exact Iff.rfl
  · exact hexact uris prefixes hanswer uri

end Resolving

/-! ## Numbered namespaces -/

/-- Erasing repetitions leaves none. -/
theorem eraseDups_nodup (xs : List String) : xs.eraseDups.Nodup := by
  cases xs with
  | nil => exact List.nodup_nil
  | cons x xs =>
    -- What is erased next is shorter, but no tail of this list, so the induction is on the length.
    rw [List.eraseDups_cons]
    have hx : x ∉ (xs.filter fun y => !y == x).eraseDups := by simp
    exact List.nodup_cons.2 ⟨hx, eraseDups_nodup (xs.filter fun y => !y == x)⟩
termination_by xs.length
decreasing_by exact Nat.lt_succ_of_le (List.length_filter_le _ _)

namespace SyntheticPolicy

variable {p : SyntheticPolicy} {uris : List String}

/-- The namespaces in the order in which they are numbered. -/
def ordered (p : SyntheticPolicy) (uris : List String) : List String :=
  if p.sorted then uris.eraseDups.mergeSort fun a b => decide (a ≤ b) else uris.eraseDups

theorem ordered_perm (p : SyntheticPolicy) (uris : List String) :
    (p.ordered uris).Perm uris.eraseDups := by
  unfold ordered
  split
  · exact List.mergeSort_perm _ _
  · exact .refl _

theorem mem_ordered {uri : String} : uri ∈ p.ordered uris ↔ uri ∈ uris := by
  rw [(p.ordered_perm uris).mem_iff, List.mem_eraseDups]

theorem ordered_nodup (p : SyntheticPolicy) (uris : List String) : (p.ordered uris).Nodup :=
  (p.ordered_perm uris).nodup_iff.2 (eraseDups_nodup uris)

/-- Namespaces with the prefixes that belong to their places. -/
def numbered (uris : List String) : List (String × String) :=
  uris.zipIdx.map fun (uri, i) => (uri, syntheticPrefix (i + 1))

theorem numbered_keys (uris : List String) : (numbered uris).map (·.1) = uris := by
  rw [numbered, List.map_map]
  exact List.zipIdx_map_fst 0 uris

theorem numbered_prefixes (uris : List String) :
    (numbered uris).map (·.2) = (List.range' 1 uris.length).map syntheticPrefix := by
  have hplaces : (uris.zipIdx.map (·.2)).map (1 + ·) = List.range' 1 uris.length := by
    rw [List.zipIdx_map_snd, List.map_add_range']
  rw [← hplaces, numbered, List.map_map, List.map_map, List.map_map]
  refine List.map_congr_left fun _ _ => ?_
  exact congrArg syntheticPrefix (Nat.add_comm ..)

theorem numbered_nodup (uris : List String) : ((numbered uris).map (·.2)).Nodup := by
  rw [numbered_prefixes]
  exact List.Nodup.map syntheticPrefix_injective List.nodup_range'

theorem assign_eq_ite (p : SyntheticPolicy) (uris : List String) :
    p.assign uris =
      if p.defaultNamespace ∧ (p.ordered uris).length = 1 then
        .ofList ((p.ordered uris).map fun uri => (uri, ""))
      else .ofList (numbered (p.ordered uris)) := rfl

/-- Every namespace is given one prefix. The prefixes differ, since a default namespace is alone. -/
theorem assign_perm (p : SyntheticPolicy) (uris : List String) :
    ∃ ds, (p.assign uris).entries.Perm ds ∧ ds.map (·.1) = p.ordered uris ∧
      (ds.map (·.2)).Nodup := by
  rw [assign_eq_ite]
  split
  case isTrue halone =>
    -- One prefix cannot clash, although it is empty. It is refused later.
    obtain ⟨uri, huri⟩ := List.length_eq_one_iff.1 halone.2
    rw [huri]
    exact ⟨_, TextMap.entries_ofList_perm (by simp), rfl, by simp⟩
  case isFalse =>
    have hkeys := numbered_keys (p.ordered uris)
    refine ⟨_, TextMap.entries_ofList_perm ?_, hkeys, numbered_nodup _⟩
    rw [hkeys]
    exact p.ordered_nodup uris

theorem resolve_exact (p : SyntheticPolicy) : p.resolve.Exact := by
  intro uris prefixes hanswer uri
  cases hanswer
  obtain ⟨ds, hperm, hkeys, _⟩ := p.assign_perm uris.elems
  rw [(hperm.map _).mem_iff, hkeys, mem_ordered]

/-- Numbered prefixes tell the namespaces of a view apart. -/
theorem resolved_nodup {uris : TextSet} {prefixes : Prefixes}
    (h : resolvePrefixes p.resolve uris = .ok prefixes) : prefixes.values.Nodup := by
  rcases resolvePrefixes_answer h with ⟨_, rfl⟩ | ⟨_, hanswer⟩
  · exact List.nodup_nil
  · cases hanswer
    obtain ⟨ds, hperm, _, hprefixes⟩ := p.assign_perm uris.elems
    exact (hperm.map _).nodup_iff.2 hprefixes

/-- Without a default namespace every namespace gets a numbered prefix. -/
theorem get?_assign (hp : p.defaultNamespace = false) {uri : String} (huri : uri ∈ uris) :
    ∃ n, (p.assign uris).get? uri = some (syntheticPrefix n) := by
  have hassign : p.assign uris = .ofList (numbered (p.ordered uris)) := by
    simp [assign_eq_ite, hp]
  have hkey : uri ∈ (numbered (p.ordered uris)).map (·.1) := by
    rw [numbered_keys]
    exact mem_ordered.2 huri
  obtain ⟨v, hv, hmem⟩ := TextMap.exists_get?_ofList hkey
  obtain ⟨⟨_, i⟩, _, heq⟩ := List.mem_map.1 hmem
  cases heq
  exact ⟨i + 1, hassign ▸ hv⟩

/-- So its prefixes are always resolved. -/
theorem exists_resolved (hp : p.defaultNamespace = false) (uris : TextSet) :
    ∃ resolved, resolvePrefixes p.resolve uris = .ok resolved := by
  cases hempty : uris.isEmpty with
  | true => exact ⟨_, resolvePrefixes_of_isEmpty hempty⟩
  | false =>
    refine ⟨p.assign uris.elems, resolvePrefixes_eq_ok.2 ⟨?_, fun uri huri => ?_⟩⟩
    · rw [hempty]
      rfl
    · obtain ⟨n, hn⟩ := get?_assign hp huri
      exact ⟨_, hn, syntheticPrefix_ne_empty n⟩

end SyntheticPolicy

/-! ## Listed prefixes -/

section Listed
variable {listed : Prefixes} {last : Nat} {uris : List String} {uri p : String}

theorem assignListed_keys (listed : Prefixes) (last : Nat) (uris : List String) :
    (assignListed listed last uris).map (·.1) = uris := by
  induction uris generalizing last with
  | nil => rfl
  | cons uri uris ih =>
    unfold assignListed
    split <;> rw [List.map_cons, ih]

theorem mem_values_of_get? (h : listed.get? uri = some p) : p ∈ listed.values :=
  List.mem_map.2 ⟨(uri, p), TextMap.mem_entries_iff.2 h, rfl⟩

/-- A prefix is the one that is listed for the namespace. If there is none, its number has not been
    used before, and it is not listed for any other namespace. -/
theorem of_mem_assignListed (h : (uri, p) ∈ assignListed listed last uris) :
    listed.get? uri = some p ∨
      listed.get? uri = none ∧ p ∉ listed.values ∧ ∃ n, last < n ∧ p = syntheticPrefix n := by
  induction uris generalizing last with
  | nil => exact absurd h List.not_mem_nil
  | cons other uris ih =>
    unfold assignListed at h
    split at h
    case h_1 q hq =>
      rcases List.mem_cons.1 h with heq | hmem
      · cases heq
        exact .inl hq
      · exact ih hmem
    case h_2 hnone =>
      obtain ⟨hlast, hfree, _⟩ := firstFree_spec syntheticPrefix_injective listed.values (last + 1)
      rcases List.mem_cons.1 h with heq | hmem
      · cases heq
        exact .inr ⟨hnone, hfree, _, hlast, rfl⟩
      · -- Later numbers are larger still.
        refine (ih hmem).imp_right fun ⟨hget, hnew, n, hn, heq⟩ => ?_
        exact ⟨hget, hnew, n, Nat.lt_of_succ_lt (Nat.lt_of_le_of_lt hlast hn), heq⟩

/-- A listed prefix is kept. -/
theorem mem_assignListed_of_get? (huri : uri ∈ uris) (hget : listed.get? uri = some p) :
    (uri, p) ∈ assignListed listed last uris := by
  rw [← assignListed_keys listed last uris] at huri
  obtain ⟨⟨_, q⟩, hmem, rfl⟩ := List.mem_map.1 huri
  rcases of_mem_assignListed hmem with hq | ⟨hnone, _⟩
  · rw [hget] at hq
    cases hq
    exact hmem
  · rw [hget] at hnone
    cases hnone

/-- A listed prefix is only given to namespaces that it is listed for. -/
theorem mem_assignListed_iff (hp : p ∈ listed.values) :
    p ∈ (assignListed listed last uris).map (·.2) ↔ p ∈ uris.filterMap listed.get? := by
  rw [List.mem_filterMap]
  constructor
  · intro h
    obtain ⟨⟨uri, _⟩, hmem, rfl⟩ := List.mem_map.1 h
    have huri : uri ∈ uris := by
      rw [← assignListed_keys listed last uris]
      exact List.mem_map.2 ⟨_, hmem, rfl⟩
    rcases of_mem_assignListed hmem with hget | ⟨_, hnew, _⟩
    · exact ⟨uri, huri, hget⟩
    · exact absurd hp hnew
  · intro ⟨uri, huri, hget⟩
    exact List.mem_map.2 ⟨_, mem_assignListed_of_get? huri hget, rfl⟩

/-- The prefixes that are given differ if the listed ones among them do. -/
theorem assignListed_nodup_iff :
    ((assignListed listed last uris).map (·.2)).Nodup ↔ (uris.filterMap listed.get?).Nodup := by
  induction uris generalizing last with
  | nil => exact Iff.rfl
  | cons uri uris ih =>
    unfold assignListed
    split
    case h_1 p hp =>
      -- Later on the prefix can only come from the list, so both sides see it there.
      rw [List.filterMap_cons_some hp, List.map_cons, List.nodup_cons, List.nodup_cons, ih,
        mem_assignListed_iff (mem_values_of_get? hp)]
    case h_2 hnone =>
      obtain ⟨_, hfree, _⟩ := firstFree_spec syntheticPrefix_injective listed.values (last + 1)
      -- The number is neither in a listed prefix nor in one that comes later.
      have hnew : syntheticPrefix (firstFree syntheticPrefix listed.values (last + 1)) ∉
          (assignListed listed (firstFree syntheticPrefix listed.values (last + 1)) uris).map
            (·.2) := by
        intro h
        obtain ⟨⟨other, _⟩, hmem, heq⟩ := List.mem_map.1 h
        rcases of_mem_assignListed hmem with hget | ⟨_, _, n, hn, hsame⟩
        · exact hfree (heq ▸ mem_values_of_get? hget)
        · have hnumber := syntheticPrefix_injective (heq.symm.trans hsame)
          omega
      rw [List.filterMap_cons_none hnone, List.map_cons, List.nodup_cons, ih]
      exact and_iff_right hnew

theorem TextSet.nodup (s : TextSet) : s.elems.Nodup := s.ascending.imp String.ne_of_lt

/-- The namespaces keep their order. -/
theorem fixedPolicy_entries {uris : TextSet} {prefixes : Prefixes}
    (h : fixedPolicy listed uris = .ok prefixes) :
    prefixes.entries = assignListed listed 0 uris.elems := by
  cases h
  refine TextMap.entries_ofList_ascending (List.pairwise_map.1 ?_)
  rw [assignListed_keys]
  exact uris.ascending

theorem fixedPolicy_exact (listed : Prefixes) : (fixedPolicy listed).Exact := by
  intro uris prefixes hanswer uri
  rw [fixedPolicy_entries hanswer, assignListed_keys]

/-- The prefixes that are listed for different namespaces differ if none is listed for two. -/
theorem filterMap_get?_nodup_iff (huris : uris.Nodup) :
    (uris.filterMap listed.get?).Nodup ↔ ∀ a ∈ uris, ∀ b ∈ uris, ∀ q,
      listed.get? a = some q → listed.get? b = some q → a = b := by
  rw [List.Nodup, List.pairwise_filterMap]
  constructor
  · intro h a ha b hb q hqa hqb
    -- That two prefixes differ does not depend on which namespace comes first.
    have hsymm : Std.Symm fun a b : String =>
        ∀ q, listed.get? a = some q → ∀ r, listed.get? b = some r → q ≠ r :=
      ⟨fun _ _ hdiffer q hq r hr heq => hdiffer r hr q hq heq.symm⟩
    by_contra hne
    exact h.forall ha hb hne q hqa q hqb rfl
  · intro h
    refine huris.imp_of_mem fun {a b} ha hb hne q hq r hr heq => ?_
    exact hne (h a ha b hb q hq (heq ▸ hr))

/-- A prefix is listed for its namespace, or it has a number and is not listed at all. -/
theorem fixedPolicy_resolved_origin {uris : TextSet} {prefixes : Prefixes}
    (h : resolvePrefixes (fixedPolicy listed) uris = .ok prefixes)
    (hmem : (uri, p) ∈ prefixes.entries) :
    listed.get? uri = some p ∨
      listed.get? uri = none ∧ p ∉ listed.values ∧ ∃ n, 0 < n ∧ p = syntheticPrefix n := by
  rcases resolvePrefixes_answer h with ⟨_, rfl⟩ | ⟨_, hanswer⟩
  · exact absurd hmem List.not_mem_nil
  · exact of_mem_assignListed (fixedPolicy_entries hanswer ▸ hmem)

/-- Given prefixes tell the namespaces of a view apart if no prefix is listed for two of them. -/
theorem fixedPolicy_resolved_nodup_iff {uris : TextSet} {prefixes : Prefixes}
    (h : resolvePrefixes (fixedPolicy listed) uris = .ok prefixes) :
    prefixes.values.Nodup ↔ ∀ a ∈ uris.elems, ∀ b ∈ uris.elems, ∀ q,
      listed.get? a = some q → listed.get? b = some q → a = b := by
  rw [← filterMap_get?_nodup_iff uris.nodup]
  rcases resolvePrefixes_answer h with ⟨hnil, rfl⟩ | ⟨_, hanswer⟩
  · rw [hnil]
    exact Iff.rfl
  · rw [TextMap.values, fixedPolicy_entries hanswer]
    exact assignListed_nodup_iff

end Listed

/-! ## Policies that give prefixes -/

/-- The policies that number namespaces or list prefixes for them. -/
inductive NamespacePolicy.Giving : NamespacePolicy → Prop
  | synthetic (s : SyntheticPolicy) : Giving s.resolve
  | fixed (listed : Prefixes) : Giving (fixedPolicy listed)

/-- They have a prefix for just the namespaces that they are asked for. -/
theorem NamespacePolicy.Giving.exact {policy : NamespacePolicy} (h : policy.Giving) :
    policy.Exact := by
  cases h with
  | synthetic s => exact s.resolve_exact
  | fixed listed => exact fixedPolicy_exact listed

end DocViews
