import DocViews.Text.Case

/-!
# Capitals

A character is written with an underscore in capitals only if it is one.
-/

namespace DocViews.Text

/-! ## The tables -/

theorem eq_of_ofNat_eq_underscore {m : Nat} (h : Char.ofNat m = '_') : m = 95 := by
  by_cases hvalid : m.isValidChar
  · rw [Char.ofNat, dif_pos hvalid] at h
    exact congrArg Char.toNat h
  · rw [Char.ofNat, dif_neg hvalid] at h
    exact absurd h (by decide)

theorem underscore_not_mem_upperExpansions : ∀ p ∈ upperExpansions, 95 ∉ p.2 := by decide +kernel

theorem image?_upperRuns_ne : ∀ r ∈ upperRuns, ∀ k, r.image? k ≠ some 95 := by
  have hruns : ∀ r ∈ upperRuns, ¬(r.first ≤ 95 - r.distance ∧ 95 - r.distance ≤ r.last) := by
    decide +kernel
  intro r hr k himage
  unfold CaseRun.image? at himage
  split at himage
  case isTrue hrun =>
    have hpoint : Int.toNat (k + r.distance) = 95 := Option.some.inj himage
    exact hruns r hr (by omega)
  case isFalse => cases himage

/-! ## One character -/

/-- Of the characters of ASCII, only the underscore itself is mapped to it. -/
theorem toUpper_ne_underscore {c : Char} (hascii : c.val < 128) (h : c ≠ '_') :
    c.toUpper ≠ '_' := by
  have hall : ∀ k : Fin 128, (Char.ofNat k).toUpper = '_' → Char.ofNat k = '_' := by
    decide +kernel
  have hc := hall ⟨c.toNat, UInt32.lt_iff_toNat_lt.1 hascii⟩
  rw [Char.ofNat_toNat] at hc
  exact mt hc h

/-- No other character is written with an underscore in capitals. -/
theorem underscore_not_mem_upperChar {c : Char} (h : c ≠ '_') : '_' ∉ upperChar c := by
  unfold upperChar
  split
  case isTrue hascii => simpa using (toUpper_ne_underscore hascii h).symm
  case isFalse =>
    dsimp only
    split
    case h_1 points hpoints =>
      -- The character has several capitals.
      obtain ⟨_, _, heq, _⟩ := List.lookup_eq_some_iff.1 hpoints
      intro hmem
      obtain ⟨m, hm, hof⟩ := List.mem_map.1 hmem
      obtain rfl := eq_of_ofNat_eq_underscore hof
      exact underscore_not_mem_upperExpansions (c.toNat, points) (by simp [heq]) hm
    case h_2 =>
      split
      case h_1 m hm =>
        -- It belongs to a run that is mapped by one distance.
        obtain ⟨r, hr, himage⟩ := List.exists_of_findSome?_eq_some hm
        intro hmem
        obtain rfl := eq_of_ofNat_eq_underscore (List.mem_singleton.1 hmem).symm
        exact image?_upperRuns_ne r hr _ himage
      case h_2 => simpa using h.symm

theorem underscore_not_mem_upperChars {cs : List Char} (h : '_' ∉ cs) : '_' ∉ upperChars cs := by
  intro hmem
  obtain ⟨c, hc, hupper⟩ := List.mem_flatMap.1 hmem
  exact underscore_not_mem_upperChar (ne_of_mem_of_not_mem hc h) hupper

end DocViews.Text
