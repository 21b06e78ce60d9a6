import DocViews.Proofs.Naming
import Mathlib.Algebra.Group.Nat.Defs

/-!
# Names within a budget

A name is cut to its budget, and cut again where a number has to fit behind it. A number of at most
five digits takes six characters with its underscore, so a budget of six is always kept. A smaller
budget is kept until everything that fits is taken: then a number that is too long stands alone.
-/

namespace DocViews

/-! ## Numbers -/

/-- The room that a number takes behind a name, with the underscore before it. -/
def numberWidth (k : Nat) : Nat := (Nat.repr k).length + 1

theorem length_repr_le_iff {k e : Nat} (he : 0 < e) : (Nat.repr k).length ≤ e ↔ k < 10 ^ e := by
  rw [← String.length_toList, Nat.toList_repr]
  exact Nat.length_toDigits_le_iff (by decide) he

theorem numberWidth_mono {j k : Nat} (h : j ≤ k) : numberWidth j ≤ numberWidth k := by
  have hpos : 0 < (Nat.repr k).length := by
    rw [← String.length_toList, Nat.toList_repr]
    exact Nat.length_toDigits_pos
  have hk : k < 10 ^ (Nat.repr k).length := (length_repr_le_iff hpos).1 (Nat.le_refl _)
  have hj : (Nat.repr j).length ≤ (Nat.repr k).length :=
    (length_repr_le_iff hpos).2 (Nat.lt_of_le_of_lt h hk)
  exact Nat.succ_le_succ hj

namespace PlainNamer

/-- No number that is tried takes more than six characters. -/
theorem numberWidth_le {k : Nat} (h : k ≤ maxAttempts) : numberWidth k ≤ 6 := by
  have hdigits : (Nat.repr k).length ≤ 5 :=
    (length_repr_le_iff (by decide)).2 (Nat.lt_of_le_of_lt h (by decide))
  exact Nat.succ_le_succ hdigits

/-! ## Cutting -/

theorem truncate_isPrefix (k : Nat) (cs : List Char) : truncate k cs <+: cs :=
  (List.rdropWhile_prefix _ (cs.take k)).trans (List.take_prefix k cs)

theorem length_truncate_le (k : Nat) (cs : List Char) : (truncate k cs).length ≤ k := by
  have hcut : (truncate k cs).length ≤ (cs.take k).length :=
    (List.rdropWhile_prefix _ (cs.take k)).length_le
  exact Nat.le_trans hcut (List.length_take_le k cs)

theorem truncate_getLast?_ne (k : Nat) (cs : List Char) : (truncate k cs).getLast? ≠ some '_' := by
  intro h
  have hne : truncate k cs ≠ [] := by
    intro hnil
    simp [hnil] at h
  rw [List.getLast?_eq_some_getLast hne, Option.some.injEq] at h
  have hnot := List.rdropWhile_last_not (· == '_') (cs.take k) hne
  exact hnot (beq_iff_eq.2 h)

/-- A beginning that fits and does not end with an underscore survives the cut. -/
theorem prefix_truncate {k : Nat} {a cs : List Char} (h : a <+: cs) (hlen : a.length ≤ k)
    (hlast : a.getLast? ≠ some '_') : a <+: truncate k cs := by
  have htake : a <+: cs.take k := List.prefix_take_iff.2 ⟨h, hlen⟩
  have hcut : truncate k cs ++ (cs.take k).rtakeWhile (· == '_') = cs.take k :=
    List.rdropWhile_append_rtakeWhile
  rcases List.prefix_or_prefix_of_prefix htake ⟨_, hcut⟩ with hbegins | ⟨u, rfl⟩
  · exact hbegins
  · -- What comes after the cut are underscores, and so is the end of what reaches behind it.
    rcases List.eq_nil_or_concat u with rfl | ⟨v, c, rfl⟩
    · rw [List.append_nil]
    · rw [← hcut, List.prefix_append_right_inj] at htake
      have hmem : c ∈ (cs.take k).rtakeWhile (· == '_') := htake.subset (by simp)
      have hunderscore := List.mem_rtakeWhile_imp hmem
      simp [beq_iff_eq.1 hunderscore] at hlast

section Lengths
variable (spell : String → String) (n : PlainNamer) (segments : List String)

theorem length_baseBy_le : (n.baseBy spell segments).length ≤ n.maxLength := length_truncate_le ..

theorem length_numbered (base : List Char) (k : Nat) :
    (n.numbered base k).length =
      (truncate (n.maxLength - numberWidth k) base).length + numberWidth k := by
  simp only [numbered, numberWidth, List.length_append, List.length_cons, String.length_toList]

/-- A numbered name exceeds the budget just in case its number does. -/
theorem lt_length_numbered_iff (base : List Char) (k : Nat) :
    n.maxLength < (n.numbered base k).length ↔ n.maxLength < numberWidth k := by
  have hcut := length_truncate_le (n.maxLength - numberWidth k) base
  rw [length_numbered]
  omega

/-! ## What is given out -/

/-- Once the plain name is taken, the first free number is chosen, or the name again if there is
    none. -/
theorem resolveBy_of_taken {taken : String → Bool}
    (hbase : taken (String.ofList (n.baseBy spell segments))) :
    (∃ k, 1 ≤ k ∧ k ≤ maxAttempts ∧
      n.resolveBy spell segments taken = String.ofList (n.numbered (n.baseBy spell segments) k) ∧
      taken (String.ofList (n.numbered (n.baseBy spell segments) k)) = false ∧
      ∀ j, 1 ≤ j → j < k →
        taken (String.ofList (n.numbered (n.baseBy spell segments) j))) ∨
    n.resolveBy spell segments taken = String.ofList (n.baseBy spell segments) ∧
      ∀ k, 1 ≤ k → k ≤ maxAttempts →
        taken (String.ofList (n.numbered (n.baseBy spell segments) k)) := by
  rw [resolveBy_eq_find?, if_pos hbase, candidates, List.find?_map]
  cases hfind : (List.range' 1 maxAttempts).find?
      ((fun c => !taken c) ∘ fun k => String.ofList (n.numbered (n.baseBy spell segments) k)) with
  | none =>
    refine .inr ⟨rfl, fun k hpos hk => ?_⟩
    simpa using List.find?_range'_eq_none.1 hfind k hpos (by omega)
  | some k =>
    obtain ⟨hfree, hmem, hbefore⟩ := List.find?_range'_eq_some.1 hfind
    have hbounds := List.mem_range'_1.1 hmem
    refine .inl ⟨k, hbounds.1, by omega, rfl, by simpa using hfree, fun j hpos hj => ?_⟩
    simpa using hbefore j hpos hj

/-- The budget is exceeded just in case all names are taken that fit, and not all of the others. -/
theorem lt_length_resolveBy_iff (taken : String → Bool) :
    n.maxLength < (n.resolveBy spell segments taken).length ↔
      taken (String.ofList (n.baseBy spell segments)) = true ∧
      (∀ k, 1 ≤ k → k ≤ maxAttempts → numberWidth k ≤ n.maxLength →
        taken (String.ofList (n.numbered (n.baseBy spell segments) k)) = true) ∧
      ∃ k, 1 ≤ k ∧ k ≤ maxAttempts ∧
        taken (String.ofList (n.numbered (n.baseBy spell segments) k)) = false := by
  have hplain : ¬n.maxLength < (String.ofList (n.baseBy spell segments)).length := by
    rw [String.length_ofList]
    exact Nat.not_lt.2 (n.length_baseBy_le spell segments)
  have hnumber : ∀ k,
      n.maxLength < (String.ofList (n.numbered (n.baseBy spell segments) k)).length ↔
        n.maxLength < numberWidth k := by
    intro k
    rw [String.length_ofList]
    exact n.lt_length_numbered_iff _ k
  constructor
  · intro hlong
    have hbase : taken (String.ofList (n.baseBy spell segments)) = true := by
      by_contra hfree
      rw [resolveBy_eq_find?, if_neg hfree] at hlong
      exact hplain hlong
    rcases n.resolveBy_of_taken spell segments hbase with
      ⟨k, hpos, hk, heq, hfree, hbefore⟩ | ⟨heq, _⟩
    · -- Numbers that fit are shorter, so they come before the one that was chosen.
      rw [heq, hnumber] at hlong
      refine ⟨hbase, fun j hj _ hfits => hbefore j hj ?_, k, hpos, hk, hfree⟩
      by_contra hlater
      exact Nat.not_lt.2 hfits (Nat.lt_of_lt_of_le hlong (numberWidth_mono (Nat.not_lt.1 hlater)))
    · rw [heq] at hlong
      exact absurd hlong hplain
  · rintro ⟨hbase, hfitting, i, hi, hle, hi_free⟩
    rcases n.resolveBy_of_taken spell segments hbase with
      ⟨k, hpos, hk, heq, hfree, _⟩ | ⟨_, hall⟩
    · rw [heq, hnumber]
      by_contra hfits
      rw [hfitting k hpos hk (Nat.not_lt.1 hfits)] at hfree
      cases hfree
    · rw [hall i hi hle] at hi_free
      cases hi_free

/-- A budget with room for every number is always kept. -/
theorem length_resolveBy_le (h : 6 ≤ n.maxLength) (taken : String → Bool) :
    (n.resolveBy spell segments taken).length ≤ n.maxLength := by
  by_contra hlong
  obtain ⟨_, hfitting, k, hpos, hk, hfree⟩ :=
    (n.lt_length_resolveBy_iff spell segments taken).1 (Nat.not_le.1 hlong)
  rw [hfitting k hpos hk (Nat.le_trans (numberWidth_le hk) h)] at hfree
  cases hfree

end Lengths

/-- If only the longest number is free and nothing else fits beside it, it is given out alone. -/
theorem resolveBy_last (spell : String → String) {n : PlainNamer} (h : n.maxLength ≤ 6)
    (segments : List String) :
    n.resolveBy spell segments (fun c => decide (c ≠ "_10000")) = "_10000" := by
  have hlast : String.ofList (n.numbered (n.baseBy spell segments) maxAttempts) = "_10000" := by
    -- The number has six characters, so nothing of the name is left in front of it.
    have hroom : n.maxLength - 6 = 0 := Nat.sub_eq_zero_of_le h
    change String.ofList (truncate (n.maxLength - 6) _ ++ _) = _
    rw [hroom]
    rfl
  have hmem : "_10000" ∈ n.candidates spell segments :=
    List.mem_map.2 ⟨maxAttempts, List.mem_range'_1.2 (by decide), hlast⟩
  by_contra hne
  have htaken := (n.resolveBy_taken_iff spell segments fun c => decide (c ≠ "_10000")).1
    (decide_eq_true hne)
  exact of_decide_eq_true (htaken.2 _ hmem) rfl

/-- Names exceed their budget just in case everything is taken that fits and something is free that
    does not. No names do if there is room for six characters, and under any smaller budget there
    are some that do. That is so however the words of the segments are spelled. -/
theorem resolve_within_budget_iff (n : PlainNamer) :
    n.resolve = n.resolveBy Naming.shoutySnake ∧
    ∀ spell : String → String,
      (∀ segments taken, n.maxLength < (n.resolveBy spell segments taken).length ↔
        taken (String.ofList (n.baseBy spell segments)) = true ∧
        (∀ k, 1 ≤ k → k ≤ 10000 → numberWidth k ≤ n.maxLength →
          taken (String.ofList (n.numbered (n.baseBy spell segments) k)) = true) ∧
        ∃ k, 1 ≤ k ∧ k ≤ 10000 ∧
          taken (String.ofList (n.numbered (n.baseBy spell segments) k)) = false) ∧
      ((∀ segments taken, (n.resolveBy spell segments taken).length ≤ n.maxLength) ↔
        6 ≤ n.maxLength) := by
  refine ⟨rfl, fun spell => ⟨n.lt_length_resolveBy_iff spell, fun hkept => ?_, ?_⟩⟩
  · by_contra hsmall
    have hlong := hkept [] fun c => decide (c ≠ "_10000")
    rw [resolveBy_last spell (Nat.le_of_lt (Nat.not_le.1 hsmall))] at hlong
    exact hsmall hlong
  · intro h segments
    exact n.length_resolveBy_le spell segments h

/-- With room for one character, the second name that begins with an A has two. -/
theorem number_exceeds_budget :
    PlainNamer.resolve ⟨1⟩ ["account"] (fun c => c == "A") = "_1" ∧
      ¬(PlainNamer.resolve ⟨1⟩ ["account"] (fun c => c == "A")).length ≤ 1 := by
  decide +kernel

end PlainNamer

end DocViews
