import DocViews.Proofs.Namespaces
import DocViews.Proofs.Text.ByteOrder
import Mathlib.Data.Finset.Basic
import Mathlib.Data.Finset.Card

/-!
# Numbers in order

Synthetic prefixes number the namespaces of a list, however often each of them is listed. The number
of a namespace says how many others come before it, either in the order of bytes or in the order in
which the list comes to them. So the numbers run from one to the number of namespaces, and with
sorted namespaces it makes no difference how they are listed. Only a namespace that is alone may do
without a number.
-/

namespace DocViews

namespace SyntheticPolicy

variable {p : SyntheticPolicy} {uris others : List String} {uri : String}

/-! ## Places -/

/-- The namespaces of a list that come before `uri`. -/
def earlier (p : SyntheticPolicy) (uris : List String) (uri : String) : Finset String :=
  if p.sorted then {other ∈ uris.toFinset | Text.bytes other < Text.bytes uri}
  else (uris.takeWhile fun other => other ≠ uri).toFinset

/-- Whether there is just one namespace, and it may be the default one. -/
def GivesDefault (p : SyntheticPolicy) (uris : List String) : Prop :=
  p.defaultNamespace ∧ uris.toFinset.card = 1

theorem ordered_toFinset (p : SyntheticPolicy) (uris : List String) :
    (p.ordered uris).toFinset = uris.toFinset :=
  List.toFinset.ext fun _ => mem_ordered

theorem length_ordered (p : SyntheticPolicy) (uris : List String) :
    (p.ordered uris).length = uris.toFinset.card := by
  rw [← p.ordered_toFinset, List.toFinset_card_of_nodup (p.ordered_nodup uris)]

theorem givesDefault_iff :
    p.GivesDefault uris ↔ p.defaultNamespace ∧ (p.ordered uris).length = 1 := by
  rw [length_ordered]
  exact Iff.rfl

/-- Sorted namespaces ascend. -/
theorem ordered_ascending (hsorted : p.sorted) (uris : List String) :
    (p.ordered uris).Pairwise (· < ·) := by
  have hle : (p.ordered uris).Pairwise fun a b => decide (a ≤ b) := by
    rw [ordered, if_pos hsorted]
    exact List.pairwise_mergeSort (fun a b c => by simpa using String.le_trans)
      (fun a b => by simpa using String.le_total a b) _
  refine hle.imp₂ (fun a b hab hne => ?_) (p.ordered_nodup uris)
  exact Std.lt_of_le_of_ne (of_decide_eq_true hab) hne

/-- The list comes to a namespace after those in front of its first occurrence. -/
theorem eraseDups_split (huri : uri ∈ uris) :
    ∃ after, uris.eraseDups =
      (uris.takeWhile fun other => other ≠ uri).eraseDups ++ uri :: after := by
  obtain ⟨before, rest, hsplit, hbefore⟩ := List.eq_append_cons_of_mem huri
  have htaken : uris.takeWhile (fun other => other ≠ uri) = before := by
    have hall : ∀ x ∈ before, decide (x ≠ uri) = true := by
      intro x hx
      exact decide_eq_true fun heq => hbefore (heq ▸ hx)
    rw [hsplit, List.takeWhile_append_of_pos hall, List.takeWhile_cons_of_neg (by simp),
      List.append_nil]
  rw [htaken, hsplit, List.eraseDups_append, List.removeAll, List.filter_cons_of_pos (by simpa),
    List.eraseDups_cons]
  exact ⟨_, rfl⟩

/-- In front of a namespace are those that come before it. -/
theorem ordered_split (huri : uri ∈ uris) :
    ∃ before after, p.ordered uris = before ++ uri :: after ∧
      before.length = (p.earlier uris uri).card := by
  have hlength : ∀ {before after}, p.ordered uris = before ++ uri :: after →
      before.toFinset = p.earlier uris uri → before.length = (p.earlier uris uri).card := by
    intro before after hsplit hbefore
    have hnodup := p.ordered_nodup uris
    rw [hsplit] at hnodup
    rw [← hbefore, List.toFinset_card_of_nodup hnodup.of_append_left]
  cases hsorted : p.sorted with
  | true =>
    obtain ⟨before, after, hsplit⟩ := List.append_of_mem (mem_ordered (p := p).2 huri)
    refine ⟨before, after, hsplit, hlength hsplit ?_⟩
    have hascending := ordered_ascending hsorted uris
    rw [hsplit] at hascending
    obtain ⟨_, hafter, hbefore⟩ := List.pairwise_append.1 hascending
    ext other
    have hother : other ∈ uris ↔ other ∈ before ++ uri :: after := by
      rw [← hsplit, mem_ordered]
    rw [earlier, if_pos hsorted, Finset.mem_filter, List.mem_toFinset, List.mem_toFinset,
      ← Text.lt_iff_bytes_lt, hother, List.mem_append, List.mem_cons]
    constructor
    · intro hother
      exact ⟨.inl hother, hbefore other hother uri List.mem_cons_self⟩
    · rintro ⟨hother | rfl | hother, hlt⟩
      · exact hother
      · exact absurd hlt (String.lt_irrefl other)
      · exact absurd hlt (String.lt_asymm (List.rel_of_pairwise_cons hafter hother))
  | false =>
    obtain ⟨after, hsplit⟩ := eraseDups_split huri
    have hordered : p.ordered uris = uris.eraseDups := by
      rw [ordered, if_neg (by simp [hsorted])]
    refine ⟨_, after, hordered.trans hsplit, hlength (hordered.trans hsplit) ?_⟩
    rw [earlier, if_neg (by simp [hsorted])]
    exact List.toFinset.ext fun _ => List.mem_eraseDups

/-- A namespace gets the number of its place. -/
theorem mem_numbered_append (before after : List String) (uri : String) :
    (uri, syntheticPrefix (before.length + 1)) ∈ numbered (before ++ uri :: after) := by
  rw [numbered, List.zipIdx_append, List.map_append, List.zipIdx_cons, List.map_cons, Nat.zero_add]
  exact List.mem_append_right _ List.mem_cons_self

/-! ## Numbers -/

/-- The prefixes of the namespaces that are listed in `uris`: the numbers from one on, unless a
    default namespace is given. -/
structure Numbers (p : SyntheticPolicy) (uris : List String) (prefixes : Prefixes) : Prop where
  mem_keys : ∀ uri, uri ∈ prefixes.keys ↔ uri ∈ uris
  injective : ∀ a b q, prefixes.get? a = some q → prefixes.get? b = some q → a = b
  /-- Each number up to that of all namespaces is given once. -/
  values_perm : ¬p.GivesDefault uris → prefixes.values.Perm
    ((List.range' 1 uris.toFinset.card).map fun n => "ns" ++ Nat.repr n)
  get?_number : ¬p.GivesDefault uris → ∀ uri ∈ uris,
    prefixes.get? uri = some ("ns" ++ Nat.repr ((p.earlier uris uri).card + 1))
  get?_default : p.GivesDefault uris → ∀ uri ∈ uris, prefixes.get? uri = some ""

/-- Every namespace is numbered if it is not the default one. -/
theorem assign_perm_numbered (hnumbers : ¬p.GivesDefault uris) :
    (p.assign uris).entries.Perm (numbered (p.ordered uris)) := by
  have hkeys : ((numbered (p.ordered uris)).map (·.1)).Nodup := by
    rw [numbered_keys]
    exact p.ordered_nodup uris
  rw [assign_eq_ite, if_neg (givesDefault_iff.not.1 hnumbers)]
  exact TextMap.entries_ofList_perm hkeys

theorem get?_assign_default (hdefault : p.GivesDefault uris) (huri : uri ∈ uris) :
    (p.assign uris).get? uri = some "" := by
  obtain ⟨only, honly⟩ := List.length_eq_one_iff.1 (givesDefault_iff.1 hdefault).2
  have heq : uri = only := by
    rw [← mem_ordered (p := p), honly] at huri
    exact List.mem_singleton.1 huri
  rw [assign_eq_ite, if_pos (givesDefault_iff.1 hdefault), honly, heq]
  simp [TextMap.get?_ofList]

theorem numbers_assign (p : SyntheticPolicy) (uris : List String) :
    Numbers p uris (p.assign uris) := by
  obtain ⟨ds, hperm, hkeys, hdistinct⟩ := p.assign_perm uris
  constructor
  case mem_keys =>
    intro uri
    rw [TextMap.keys, (hperm.map _).mem_iff, hkeys, mem_ordered]
  case injective => exact TextMap.values_nodup_iff.1 ((hperm.map _).nodup_iff.2 hdistinct)
  case values_perm =>
    intro hnumbers
    rw [← p.length_ordered]
    exact ((assign_perm_numbered hnumbers).map _).trans (.of_eq (numbered_prefixes _))
  case get?_number =>
    intro hnumbers uri huri
    obtain ⟨before, after, hsplit, hbefore⟩ := ordered_split (p := p) huri
    refine TextMap.mem_entries_iff.1 ((assign_perm_numbered hnumbers).mem_iff.2 ?_)
    rw [hsplit, ← hbefore]
    exact mem_numbered_append before after uri
  case get?_default => exact fun hdefault uri huri => get?_assign_default hdefault huri

/-! ## Other lists of the same namespaces -/

/-- Sorted namespaces come in one order, however they are listed. -/
theorem ordered_eq_of_mem_iff (hsorted : p.sorted) (hsame : ∀ uri, uri ∈ others ↔ uri ∈ uris) :
    p.ordered others = p.ordered uris := by
  have hperm : (p.ordered others).Perm (p.ordered uris) := by
    refine (List.perm_ext_iff_of_nodup (p.ordered_nodup _) (p.ordered_nodup _)).2 fun uri => ?_
    rw [mem_ordered, mem_ordered, hsame]
  refine hperm.eq_of_pairwise (fun a b _ _ hab hba => ?_) (ordered_ascending hsorted _)
    (ordered_ascending hsorted _)
  exact absurd hab (String.lt_asymm hba)

theorem eraseDups_eq_self {xs : List String} (h : xs.Nodup) : xs.eraseDups = xs := by
  induction xs with
  | nil => rfl
  | cons x xs ih =>
    obtain ⟨hx, hxs⟩ := List.nodup_cons.1 h
    have hkept : xs.filter (fun y => !y == x) = xs := by
      refine List.filter_eq_self.2 fun y hy => ?_
      have hne : y ≠ x := fun heq => hx (heq ▸ hy)
      simp [hne]
    rw [List.eraseDups_cons, hkept, ih hxs]

/-- The namespaces of a set are sorted already. -/
theorem ordered_elems (p : SyntheticPolicy) (s : TextSet) : p.ordered s.elems = s.elems := by
  have hsorted : s.elems.Pairwise fun a b => decide (a ≤ b) :=
    s.ascending.imp fun h => decide_eq_true (Std.le_of_lt h)
  rw [ordered, eraseDups_eq_self s.nodup, List.mergeSort_of_pairwise hsorted, ite_self]

/-- The namespaces of a list are numbered one after another, each with a number of its own: in the
    order of their bytes, which leaves nothing to how they are listed, or in the order in which they
    first occur. A namespace that is alone may be the default one. For a set both orders are the
    same. -/
theorem assign_numbers (p : SyntheticPolicy) (uris : List String) :
    Numbers p uris (p.assign uris) ∧
    (p.sorted → ∀ others : List String, (∀ uri, uri ∈ others ↔ uri ∈ uris) →
      p.assign others = p.assign uris) ∧
    ∀ (s : TextSet) (sorted : Bool), resolve { p with sorted } s = p.resolve s := by
  refine ⟨p.numbers_assign uris, fun hsorted others hsame => ?_, fun s sorted => ?_⟩
  · rw [assign_eq_ite, assign_eq_ite, ordered_eq_of_mem_iff hsorted hsame]
  · rw [resolve, resolve, assign_eq_ite, assign_eq_ite, ordered_elems, ordered_elems]

/-- The namespace that is listed first, and once more, comes last if they are sorted. By itself it
    may be the default namespace. -/
theorem repeated_namespaces_numbered :
    (assign { sorted := false } ["urn:b", "urn:a", "urn:b"]).get? "urn:a" = some "ns2" ∧
    (assign {} ["urn:b", "urn:a", "urn:b"]).get? "urn:a" = some "ns1" ∧
    assign {} ["urn:b", "urn:a", "urn:b"] = assign {} ["urn:a", "urn:b"] ∧
    (assign { defaultNamespace := true } ["urn:b", "urn:b"]).get? "urn:b" = some "" := by
  refine ⟨?_, ?_, ?_, ?_⟩
  · refine ((assign_numbers _ _).1.get?_number (fun h => ?_) "urn:a" (by decide)).trans (by decide)
    exact absurd h.1 (by decide)
  · refine ((assign_numbers _ _).1.get?_number (fun h => ?_) "urn:a" (by decide)).trans
      (by decide +kernel)
    exact absurd h.1 (by decide)
  · exact (assign_numbers _ _).2.1 rfl _ (by simp [or_comm])
  · exact (assign_numbers _ _).1.get?_default ⟨rfl, by decide⟩ "urn:b" (by decide)

end SyntheticPolicy

end DocViews
