import DocViews.Numbering
import DocViews.View.Partition
import Mathlib.Data.List.Nodup
import Mathlib.Data.List.Perm.Subperm

/-!
# Free numbers

The search for a number whose name is not taken is bounded, and the bound is never what ends it: a
list takes no more names than it has elements. What is found is the smallest free number, so whoever
searches on behind each number that was found gets the smallest free numbers there are, as the parts
of a view do.
-/

namespace DocViews

/-! ## Numbers in names -/

theorem repr_injective : Function.Injective Nat.repr := by
  intro m n h
  have hdigits : Nat.toDigits 10 m = Nat.toDigits 10 n := by
    rw [← Nat.toList_repr, ← Nat.toList_repr, h]
  rw [← Nat.ofDigitChars_ten_toDigits (n := m), hdigits, Nat.ofDigitChars_ten_toDigits]

theorem partName_injective (view : String) : Function.Injective (partName view) := by
  intro m n h
  exact repr_injective ((String.append_right_inj _).1 h)

/-! ## The smallest free number -/

section FirstFree
variable {name : Nat → String} (hname : Function.Injective name) (taken : List String) (start : Nat)
include hname

/-- Among one more number than there are taken names, one is free. -/
theorem exists_free :
    ∃ k, start ≤ k ∧ k ≤ start + taken.length ∧ name k ∉ taken := by
  by_contra hnone
  have hsub : (List.range' start (taken.length + 1)).map name ⊆ taken := by
    intro x hx
    obtain ⟨k, hk, rfl⟩ := List.mem_map.1 hx
    have hbounds := List.mem_range'_1.1 hk
    by_contra hfree
    exact hnone ⟨k, hbounds.1, by omega, hfree⟩
  have hnodup : ((List.range' start (taken.length + 1)).map name).Nodup :=
    List.Nodup.map hname List.nodup_range'
  have hlen := (List.Nodup.subperm hnodup hsub).length_le
  simp only [List.length_map, List.length_range'] at hlen
  omega

/-- The search ends at a free number, and no number before it is free. -/
theorem firstFree_spec :
    start ≤ firstFree name taken start ∧ name (firstFree name taken start) ∉ taken ∧
      ∀ k, start ≤ k → k < firstFree name taken start → name k ∈ taken := by
  obtain ⟨k, hstart, hbound, hfree⟩ := exists_free hname taken start
  unfold firstFree
  cases hfind : (List.range' start (taken.length + 1)).find? fun n => !taken.contains (name n) with
  | none =>
    have hk := List.find?_range'_eq_none.1 hfind k hstart (by omega)
    simp [hfree] at hk
  | some n =>
    obtain ⟨hn, hmem, hbefore⟩ := List.find?_range'_eq_some.1 hfind
    refine ⟨(List.mem_range'_1.1 hmem).1, by simpa using hn, fun j hj hlt => ?_⟩
    simpa using hbefore j hj hlt

end FirstFree

/-! ## The smallest free numbers -/

/-- `ks` lists the smallest numbers from `start` on whose names are not taken, in ascending order:
    no free number is left out below one that is listed. -/
structure SmallestFree (name : Nat → String) (taken : List String) (start : Nat)
    (ks : List Nat) : Prop where
  ascending : ks.Pairwise (· < ·)
  free : ∀ k ∈ ks, start ≤ k ∧ name k ∉ taken
  smallest : ∀ k, start ≤ k → name k ∉ taken → (∃ j ∈ ks, k < j) → k ∈ ks

/-- Below a number that is listed, every number is taken or listed too. So it is less than the number
    of names in any list that has both the taken names and the new ones. -/
theorem SmallestFree.lt_length {name : Nat → String} {taken names : List String} {ks : List Nat}
    (h : SmallestFree name taken 0 ks) (hname : Function.Injective name) (htaken : taken ⊆ names)
    (hks : ks.map name ⊆ names) {k : Nat} (hk : k ∈ ks) : k < names.length := by
  have hsub : (List.range (k + 1)).map name ⊆ names := by
    intro x hx
    obtain ⟨j, hj, rfl⟩ := List.mem_map.1 hx
    by_cases hfree : name j ∈ taken
    · exact htaken hfree
    · refine hks (List.mem_map_of_mem ?_)
      rcases Nat.lt_or_eq_of_le (Nat.le_of_lt_succ (List.mem_range.1 hj)) with hlt | rfl
      · exact h.smallest j (Nat.zero_le j) hfree ⟨k, hk, hlt⟩
      · exact hk
  have hnodup : ((List.range (k + 1)).map name).Nodup := List.nodup_range.map hname
  have hlength := (List.Nodup.subperm hnodup hsub).length_le
  rwa [List.length_map, List.length_range] at hlength

/-- The first `count` free numbers from `start` on, each searched for behind the one before. -/
def freeNumbers (name : Nat → String) (taken : List String) (start : Nat) : Nat → List Nat
  | 0 => []
  | count + 1 =>
    let n := firstFree name taken start
    n :: freeNumbers name taken (n + 1) count

theorem length_freeNumbers (name : Nat → String) (taken : List String) (start count : Nat) :
    (freeNumbers name taken start count).length = count := by
  induction count generalizing start with
  | zero => rfl
  | succ count ih => simp [freeNumbers, ih]

/-- Searching on behind each free number that was found leaves none out. -/
theorem freeNumbers_smallestFree {name : Nat → String} (hname : Function.Injective name)
    (taken : List String) (start count : Nat) :
    SmallestFree name taken start (freeNumbers name taken start count) := by
  induction count generalizing start with
  | zero => exact ⟨.nil, by simp [freeNumbers], by simp [freeNumbers]⟩
  | succ count ih =>
    obtain ⟨hstart, hfree, hbefore⟩ := firstFree_spec hname taken start
    obtain ⟨hasc, hrest, hsmall⟩ := ih (firstFree name taken start + 1)
    simp only [freeNumbers]
    refine ⟨?_, ?_, ?_⟩
    · exact List.pairwise_cons.2 ⟨fun k hk => (hrest k hk).1, hasc⟩
    · intro k hk
      rcases List.mem_cons.1 hk with rfl | hk
      · exact ⟨hstart, hfree⟩
      · exact ⟨by have := (hrest k hk).1; omega, (hrest k hk).2⟩
    · intro k hk hkfree hlarger
      -- A free number is not below the first one found, so it is that one or belongs to the rest.
      rcases Nat.lt_trichotomy k (firstFree name taken start) with hlt | rfl | hgt
      · exact absurd (hbefore k hk hlt) hkfree
      · exact List.mem_cons_self
      · obtain ⟨j, hj, hkj⟩ := hlarger
        rcases List.mem_cons.1 hj with rfl | hj
        · omega
        · exact List.mem_cons_of_mem _ (hsmall k hgt hkfree ⟨j, hj, hkj⟩)

/-! ## Parts of a view -/

theorem partNumbers_eq_freeNumbers (view : String) (taken : List String) (start count : Nat) :
    partNumbers view taken start count = freeNumbers (partName view) taken start count := by
  induction count generalizing start with
  | zero => rfl
  | succ count ih => simp only [partNumbers, freeNumbers, ih]

theorem length_partNumbers (view : String) (taken : List String) (start count : Nat) :
    (partNumbers view taken start count).length = count := by
  rw [partNumbers_eq_freeNumbers, length_freeNumbers]

/-- Each part gets the next free number after those of the parts before it. -/
theorem partNumbers_smallestFree (view : String) (taken : List String) (start count : Nat) :
    SmallestFree (partName view) taken start (partNumbers view taken start count) := by
  rw [partNumbers_eq_freeNumbers]
  exact freeNumbers_smallestFree (partName_injective view) taken start count

/-- The parts of a view have names of their own. -/
theorem partNames_nodup (view : String) (taken : List String) (start count : Nat) :
    ((partNumbers view taken start count).map (partName view)).Nodup := by
  have hasc := (partNumbers_smallestFree view taken start count).ascending
  exact List.Nodup.map (partName_injective view) (hasc.imp Nat.ne_of_lt)

end DocViews
