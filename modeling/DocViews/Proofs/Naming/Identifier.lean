import DocViews.Proofs.Naming.Budget

/-!
# Names are identifiers

However the words of its segments are spelled, a name becomes an identifier: a capital letter, then
capital letters, digits and underscores, and no underscore at the end. All that can go wrong is that
a number leaves no room for the first letter, so the budget must be larger than the longest number.
-/

namespace DocViews

namespace PlainNamer

/-- Whether a text is a capital letter that may be followed by capital letters, digits and
    underscores, the last of which is no underscore. -/
def isIdentifier : List Char → Bool
  | [] => false
  | c :: cs => c.isUpper && cs.all isPlain && cs.getLast? != some '_'

/-- An identifier seen from its beginning, from within and from its end. -/
theorem isIdentifier_iff {cs : List Char} :
    isIdentifier cs = true ↔
      (∃ c, [c] <+: cs ∧ c.isUpper = true) ∧ (∀ c ∈ cs, isPlain c = true) ∧
        cs.getLast? ≠ some '_' := by
  cases cs with
  | nil => simp [isIdentifier]
  | cons c cs =>
    have hfirst : (∃ d, [d] <+: c :: cs ∧ d.isUpper = true) ↔ c.isUpper = true := by simp
    rw [hfirst, isIdentifier, Bool.and_eq_true, Bool.and_eq_true, bne_iff_ne, List.all_eq_true,
      List.forall_mem_cons, and_assoc]
    refine and_congr_right fun hupper => ?_
    have hplain : isPlain c = true := by simp [isPlain, hupper]
    have hne : c ≠ '_' := by
      rintro rfl
      exact absurd hupper (by decide)
    cases cs with
    | nil => simp [hplain, hne]
    | cons d ds => simp [List.getLast?_cons_cons, hplain]

/-! ## The first letter -/

/-- A plain character that is neither an underscore nor a digit is a capital letter. -/
theorem isUpper_of_isPlain {c : Char} (h : isPlain c = true) (hne : c ≠ '_')
    (hdigit : c.isDigit = false) : c.isUpper = true := by
  simpa [isPlain, hne, hdigit] using h

theorem partBy_head?_ne {spell : String → String} {segment : String} :
    (partBy spell segment).head? ≠ some '_' := by
  intro h
  exact absurd (Text.not_of_head?_trimBoth h) (by decide)

/-- Parts are joined behind the first of them. -/
theorem prefix_intercalate (sep part : List α) (parts : List (List α)) :
    part <+: List.intercalate sep (part :: parts) := by
  cases parts with
  | nil => simp
  | cons next parts => simp [List.intercalate_cons_cons, List.append_assoc]

theorem intercalate_partBy_head?_ne (spell : String → String) (segments : List String) :
    (List.intercalate ['_'] ((segments.map (partBy spell)).filter (!·.isEmpty))).head? ≠
      some '_' := by
  cases hparts : (segments.map (partBy spell)).filter (!·.isEmpty) with
  | nil => simp
  | cons part parts =>
    have hmem : part ∈ (segments.map (partBy spell)).filter (!·.isEmpty) := by simp [hparts]
    obtain ⟨hmap, hpart⟩ := List.mem_filter.1 hmem
    obtain ⟨segment, _, rfl⟩ := List.mem_map.1 hmap
    obtain ⟨rest, hrest⟩ := prefix_intercalate ['_'] (partBy spell segment) parts
    rw [← hrest, List.head?_append_of_ne_nil _ (by simpa using hpart)]
    exact partBy_head?_ne

theorem joinedPartsBy_first (spell : String → String) (segments : List String) :
    ∃ c, [c] <+: joinedPartsBy spell segments ∧ c.isUpper = true := by
  have hplain := intercalate_partBy_plain spell segments
  have hne := intercalate_partBy_head?_ne spell segments
  unfold joinedPartsBy
  generalize List.intercalate ['_'] ((segments.map (partBy spell)).filter (!·.isEmpty)) = joined
    at hplain hne
  cases joined with
  | nil => exact ⟨'X', List.prefix_refl _, by decide⟩
  | cons c cs =>
    cases hdigit : c.isDigit with
    | true => exact ⟨'X', by simp [hdigit], by decide⟩
    | false =>
      have hupper : c.isUpper = true :=
        isUpper_of_isPlain (hplain c List.mem_cons_self) (by simpa using hne) hdigit
      exact ⟨c, by simp [hdigit], hupper⟩

/-! ## Names -/

/-- A cut with room for the first letter makes an identifier of whatever begins like one. -/
theorem truncate_isIdentifier {k : Nat} {cs : List Char} (hk : 0 < k)
    (hfirst : ∃ c, [c] <+: cs ∧ c.isUpper = true) (hplain : ∀ c ∈ cs, isPlain c = true) :
    isIdentifier (truncate k cs) = true := by
  obtain ⟨c, hc, hupper⟩ := hfirst
  have hne : [c].getLast? ≠ some '_' := by
    rintro ⟨⟩
    exact absurd hupper (by decide)
  refine isIdentifier_iff.2 ⟨⟨c, prefix_truncate hc hk hne, hupper⟩, ?_, truncate_getLast?_ne k cs⟩
  intro d hd
  exact hplain d (mem_of_mem_truncate hd)

/-- A number makes an identifier longer. -/
theorem isIdentifier_append_number {stem : List Char} (h : isIdentifier stem = true) (k : Nat) :
    isIdentifier (stem ++ '_' :: (Nat.repr k).toList) = true := by
  obtain ⟨⟨c, hc, hupper⟩, hplain, _⟩ := isIdentifier_iff.1 h
  refine isIdentifier_iff.2 ⟨⟨c, hc.trans (List.prefix_append _ _), hupper⟩, ?_, ?_⟩
  · rw [List.forall_mem_append, List.forall_mem_cons]
    refine ⟨hplain, by decide, fun d hd => ?_⟩
    simp [isPlain, isDigit_of_mem_repr hd]
  · -- A number has a digit, and the last one ends the name.
    intro hlast
    rcases List.eq_nil_or_concat (Nat.repr k).toList with hnil | ⟨ds, d, hdigits⟩
    · rw [Nat.toList_repr] at hnil
      exact Nat.toDigits_ne_nil hnil
    · have hd : d ∈ (Nat.repr k).toList := by simp [hdigits]
      obtain rfl : d = '_' := by simpa [hdigits, List.getLast?_cons] using hlast
      exact underscore_not_mem_repr k hd

theorem baseBy_isIdentifier (spell : String → String) {n : PlainNamer} (h : 0 < n.maxLength)
    (segments : List String) : isIdentifier (baseBy spell n segments) = true :=
  truncate_isIdentifier h (joinedPartsBy_first spell segments) fun _ =>
    joinedPartsBy_plain spell segments

/-- With room for a letter before every number, all names are identifiers. -/
theorem resolveBy_isIdentifier (spell : String → String) {n : PlainNamer} (h : 7 ≤ n.maxLength)
    (segments : List String) (taken : String → Bool) :
    isIdentifier (resolveBy spell n segments taken).toList = true := by
  have hbase := baseBy_isIdentifier spell (by omega : 0 < n.maxLength) segments
  rcases List.mem_cons.1 (n.resolveBy_mem spell segments taken) with heq | hnumbered
  · rw [heq, String.toList_ofList]
    exact hbase
  · obtain ⟨k, hk, heq⟩ := List.mem_map.1 hnumbered
    rw [← heq, String.toList_ofList]
    obtain ⟨hfirst, hplain, _⟩ := isIdentifier_iff.1 hbase
    have hroom : 0 < n.maxLength - numberWidth k := by
      have hbounds := List.mem_range'_1.1 hk
      have hwidth := numberWidth_le (k := k) (by omega)
      omega
    exact isIdentifier_append_number (truncate_isIdentifier hroom hfirst hplain) k

/-- Names are identifiers, whatever they are made of and whatever is taken, and however the words of
    their segments are spelled, as long as the budget has room for seven characters. Under a
    smaller budget there are names that are none. -/
theorem resolve_isIdentifier_iff (n : PlainNamer) :
    resolveBy Naming.shoutySnake n = n.resolve ∧
    ∀ spell : String → String,
      (∀ segments taken, isIdentifier (resolveBy spell n segments taken).toList = true) ↔
        7 ≤ n.maxLength := by
  refine ⟨rfl, fun spell => ⟨fun hall => ?_, resolveBy_isIdentifier spell⟩⟩
  by_contra hsmall
  have hname := hall [] fun c => decide (c ≠ "_10000")
  rw [resolveBy_last spell (by omega)] at hname
  exact absurd hname (by decide)

end PlainNamer

end DocViews
