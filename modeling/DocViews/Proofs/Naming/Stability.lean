import DocViews.Proofs.Naming.Identifier
import DocViews.Proofs.Naming.Words
import Mathlib.Data.List.Destutter

/-!
# Names of names

Views and indices are named after the name of their table. Its words are what stands between its
underscores, so it is written again as it is, but for underscores side by side, of which one stays.
They are side by side where nothing is left of a word.
-/

namespace DocViews

namespace PlainNamer

/-! ## Single underscores -/

/-- Neighbouring characters that are not both underscores. -/
def Apart (a b : Char) : Prop := ¬(a = '_' ∧ b = '_')

instance : DecidableRel Apart := fun _ _ => inferInstanceAs (Decidable (¬_))

/-- A text with a single underscore for each run of them. -/
def squeeze (cs : List Char) : List Char := cs.destutter Apart

@[simp]
theorem squeeze_nil : squeeze [] = [] := rfl

/-- An underscore is left out in front of another one. -/
theorem squeeze_cons (c : Char) (cs : List Char) :
    squeeze (c :: cs) = if c = '_' ∧ cs.head? = some '_' then squeeze cs else c :: squeeze cs := by
  cases cs with
  | nil => simp [squeeze]
  | cons d ds =>
    simp only [squeeze, List.destutter_cons', List.destutter'_cons, List.head?_cons,
      Option.some.injEq]
    by_cases h : c = '_' ∧ d = '_'
    · have hnot : ¬Apart c d := not_not.2 h
      rw [if_neg hnot, if_pos h, h.1, h.2]
    · have hapart : Apart c d := h
      rw [if_pos hapart, if_neg h]

theorem squeeze_eq_self_iff {cs : List Char} : squeeze cs = cs ↔ cs.IsChain Apart :=
  List.destutter_eq_self_iff Apart cs

theorem squeeze_squeeze (cs : List Char) : squeeze (squeeze cs) = squeeze cs :=
  List.destutter_idem cs Apart

theorem head?_squeeze (cs : List Char) : (squeeze cs).head? = cs.head? := by
  induction cs with
  | nil => rfl
  | cons c cs ih =>
    rw [squeeze_cons]
    split
    case isTrue h => rw [ih, h.2, h.1, List.head?_cons]
    case isFalse => rfl

theorem getLast?_squeeze (cs : List Char) : (squeeze cs).getLast? = cs.getLast? := by
  induction cs with
  | nil => rfl
  | cons c cs ih =>
    rw [squeeze_cons]
    split
    case isTrue h =>
      cases cs with
      | nil => simp at h
      | cons d ds => rw [ih, List.getLast?_cons_cons]
    case isFalse => rw [List.getLast?_cons, List.getLast?_cons, ih]

theorem length_squeeze_le (cs : List Char) : (squeeze cs).length ≤ cs.length :=
  (List.destutter_sublist Apart cs).length_le

theorem isPlain_of_mem_squeeze {cs : List Char} (h : ∀ c ∈ cs, isPlain c = true) :
    ∀ c ∈ squeeze cs, isPlain c = true :=
  fun c hc => h c ((List.destutter_sublist Apart cs).mem hc)

theorem squeeze_word_append {word : List Char} (h : '_' ∉ word) (rest : List Char) :
    squeeze (word ++ rest) = word ++ squeeze rest := by
  induction word with
  | nil => rfl
  | cons c word ih =>
    rw [List.mem_cons, not_or] at h
    rw [List.cons_append, squeeze_cons, if_neg (fun heq => h.1 heq.1.symm), ih h.2,
      List.cons_append]

theorem squeeze_gap_append {rest : List Char} (h : rest.head? ≠ some '_') (k : Nat) :
    squeeze (List.replicate (k + 1) '_' ++ rest) = '_' :: squeeze rest := by
  induction k with
  | zero => simp [squeeze_cons, h]
  | succ k ih =>
    have hagain : (List.replicate (k + 1) '_' ++ rest).head? = some '_' := by
      rw [List.replicate_succ, List.cons_append, List.head?_cons]
    rw [List.replicate_succ, List.cons_append, squeeze_cons, if_pos ⟨rfl, hagain⟩, ih]

/-! ## Underscores between words -/

/-- A text whose underscores stand alone, inside. -/
structure Spaced (cs : List Char) : Prop where
  apart : cs.IsChain Apart
  head : cs.head? ≠ some '_'
  last : cs.getLast? ≠ some '_'

theorem Spaced.of_not_mem {cs : List Char} (h : '_' ∉ cs) : Spaced cs where
  apart := by
    refine List.Pairwise.isChain (List.pairwise_of_forall_mem_list fun a ha b _ hab => ?_)
    exact h (hab.1 ▸ ha)
  head := fun hhead => h (List.mem_of_mem_head? hhead)
  last := fun hlast => h (List.mem_of_mem_getLast? hlast)

theorem Spaced.append {a b : List Char} (ha : Spaced a) (hb : Spaced b) (ha_ne : a ≠ [])
    (hb_ne : b ≠ []) : Spaced (a ++ ['_'] ++ b) where
  apart := by
    rw [List.append_assoc, List.singleton_append, List.isChain_append, List.isChain_cons]
    refine ⟨ha.apart, ⟨fun y hy hboth => hb.head ?_, hb.apart⟩, fun x hx y _ hboth => ha.last ?_⟩
    · rw [← hboth.2]
      exact hy
    · rw [← hboth.1]
      exact hx
  head := by
    rw [List.append_assoc, List.head?_append_of_ne_nil a ha_ne]
    exact ha.head
  last := by
    rw [List.getLast?_append_of_ne_nil _ hb_ne]
    exact hb.last

theorem Spaced.intercalate {parts : List (List Char)} (h : ∀ p ∈ parts, p ≠ [] ∧ Spaced p) :
    Spaced (List.intercalate ['_'] parts) := by
  induction parts with
  | nil => exact .of_not_mem (by simp)
  | cons p parts ih =>
    obtain ⟨⟨hp_ne, hp⟩, hparts⟩ := List.forall_mem_cons.1 h
    cases parts with
    | nil => simpa using hp
    | cons q parts =>
      have hrest_ne : List.intercalate ['_'] (q :: parts) ≠ [] := by
        intro hnil
        have hbegins := prefix_intercalate ['_'] q parts
        rw [hnil, List.prefix_nil] at hbegins
        exact (hparts q List.mem_cons_self).1 hbegins
      rw [List.intercalate_cons_cons]
      exact hp.append (ih hparts) hp_ne hrest_ne

theorem Spaced.trimBoth {cs : List Char} (h : Spaced cs) : Text.trimBoth (· == '_') cs = cs := by
  refine Text.trimBoth_eq_self (fun c hc => ?_) fun c hc => ?_
  · exact beq_false_of_ne fun heq => h.head (heq ▸ hc)
  · exact beq_false_of_ne fun heq => h.last (heq ▸ hc)

theorem squeeze_spaced {cs : List Char} (hhead : cs.head? ≠ some '_')
    (hlast : cs.getLast? ≠ some '_') : Spaced (squeeze cs) where
  apart := List.isChain_destutter Apart cs
  head := by rwa [head?_squeeze]
  last := by rwa [getLast?_squeeze]

/-! ## The words of a name -/

section Plain
variable {c : Char} {cs : List Char}

theorem isAlphanumeric_of_isPlain (h : isPlain c = true) (hne : c ≠ '_') :
    Text.isAlphanumeric c = true := by
  have hascii : c.val < 128 := UInt32.lt_trans (val_lt_of_isPlain h) (by decide)
  have halphanum : c.isAlphanum = ((c.isUpper || c.isLower) || c.isDigit) := rfl
  rw [Text.isAlphanumeric, if_pos hascii, halphanum]
  simp only [isPlain, beq_false_of_ne hne, Bool.or_false, Bool.or_eq_true] at h ⊢
  exact h.imp_left .inl

theorem isLowercase_of_isPlain (h : isPlain c = true) : Text.isLowercase c = false := by
  have hval := val_lt_of_isPlain h
  have hlower : c.isLower = (decide ('a'.val ≤ c.val) && decide (c.val ≤ 'z'.val)) := rfl
  rw [Text.isLowercase, if_pos (UInt32.lt_trans hval (by decide)), hlower,
    decide_eq_false (UInt32.not_le.2 hval), Bool.false_and]

theorem upperChars_of_isPlain (h : ∀ c ∈ cs, isPlain c = true) : Text.upperChars cs = cs := by
  have hchar : ∀ c ∈ cs, Text.upperChar c = [c] := by
    intro c hc
    rw [Text.upperChar, if_pos (UInt32.lt_trans (val_lt_of_isPlain (h c hc)) (by decide)),
      toUpper_of_isPlain (h c hc)]
  rw [Text.upperChars, List.flatMap_congr hchar, List.flatMap_singleton']

end Plain

/-- A text that neither begins nor ends with an underscore is one word, or a word and more such text
    with underscores between them. -/
theorem eq_word_or_append {cs : List Char} (hne : cs ≠ []) (hhead : cs.head? ≠ some '_')
    (hlast : cs.getLast? ≠ some '_') :
    ∃ word, word ≠ [] ∧ '_' ∉ word ∧ (cs = word ∨ ∃ k rest,
      cs = word ++ (List.replicate (k + 1) '_' ++ rest) ∧ rest ≠ [] ∧ rest.head? ≠ some '_') := by
  obtain ⟨hcut, hword, hstop⟩ := span_ne_iff (d := '_') (l := cs) |>.1 ⟨rfl, rfl⟩
  generalize cs.takeWhile (fun x => decide (x ≠ '_')) = word at hcut hword
  generalize cs.dropWhile (fun x => decide (x ≠ '_')) = tail at hcut hstop
  subst hcut
  have hword_ne : word ≠ [] := by
    rintro rfl
    cases tail with
    | nil => exact hne rfl
    | cons c tail => exact hhead (congrArg some (hstop c rfl))
  refine ⟨word, hword_ne, hword, ?_⟩
  -- Behind the word comes a gap, which is empty only at the end of the text.
  obtain ⟨hgap_cut, hgap, hnext⟩ := span_eq_iff (p := (· == '_')) (l := tail) |>.1 ⟨rfl, rfl⟩
  generalize tail.takeWhile (· == '_') = gap at hgap_cut hgap
  generalize tail.dropWhile (· == '_') = rest at hgap_cut hnext
  subst hgap_cut
  obtain ⟨j, rfl⟩ : ∃ j, gap = List.replicate j '_' :=
    ⟨_, List.eq_replicate_of_mem fun c hc => beq_iff_eq.1 (hgap c hc)⟩
  cases rest with
  | nil =>
    cases j with
    | zero => exact .inl (by simp)
    | succ k => simp [List.getLast?_append, List.getLast?_replicate] at hlast
  | cons d ds =>
    have hd : d ≠ '_' := by simpa using hnext d rfl
    cases j with
    | zero => exact absurd (hstop d rfl) hd
    | succ k => exact .inr ⟨k, d :: ds, rfl, List.cons_ne_nil d ds, by simpa using hd⟩

/-- A word and the underscores behind it are one run and no run. -/
theorem runs_word_gap {word rest : List Char} (hne : word ≠ [])
    (hword : ∀ c ∈ word, Text.isAlphanumeric c = true)
    (hrest : ∀ c ∈ rest.head?, Text.isAlphanumeric c = true) (k : Nat) :
    Naming.runs (word ++ (List.replicate (k + 1) '_' ++ rest)) = word :: Naming.runs rest := by
  rw [Naming.runs_word_append hne hword, Naming.runs_gap_append _ hrest]
  · intro c hc
    obtain rfl := List.eq_of_mem_replicate hc
    decide
  · intro c hc
    obtain rfl : '_' = c := by simpa [List.replicate_succ] using hc
    decide

/-- The words of a name are what stands between its underscores. -/
theorem intercalate_runs {cs : List Char} (hplain : ∀ c ∈ cs, isPlain c = true)
    (hhead : cs.head? ≠ some '_') (hlast : cs.getLast? ≠ some '_') :
    List.intercalate ['_'] (Naming.runs cs) = squeeze cs := by
  -- One word and the gap behind it at a time.
  induction hlen : cs.length using Nat.strong_induction_on generalizing cs with
  | _ len ih =>
    have halphanumeric : ∀ c ∈ cs, c ≠ '_' → Text.isAlphanumeric c = true := fun c hc =>
      isAlphanumeric_of_isPlain (hplain c hc)
    rcases eq_or_ne cs [] with rfl | hne
    · rfl
    obtain ⟨word, hword, hnot, rfl | ⟨k, rest, rfl, hrest, hnext⟩⟩ :=
      eq_word_or_append hne hhead hlast
    · rw [Naming.runs_of_word hword fun c hc => halphanumeric c hc (ne_of_mem_of_not_mem hc hnot),
        List.intercalate_singleton]
      simpa using (squeeze_word_append hnot []).symm
    · have hrest_runs : List.intercalate ['_'] (Naming.runs rest) = squeeze rest := by
        refine ih rest.length (by simp at hlen; omega) (fun c hc => hplain c ?_) hnext ?_ rfl
        · simp [hc]
        · simpa [List.getLast?_append, hrest] using hlast
      -- There is more to join, since the rest begins with a word.
      have hne : Naming.runs rest ≠ [] := by
        intro hnil
        have hrest_nil := head?_squeeze rest
        rw [← hrest_runs, hnil, eq_comm] at hrest_nil
        exact hrest (List.head?_eq_none_iff.1 hrest_nil)
      have hruns : Naming.runs (word ++ (List.replicate (k + 1) '_' ++ rest)) =
          word :: Naming.runs rest := by
        refine runs_word_gap hword (fun c hc => halphanumeric c ?_ ?_) (fun c hc => ?_) k
        · simp [hc]
        · exact ne_of_mem_of_not_mem hc hnot
        · refine halphanumeric c ?_ ?_
          · simp [List.mem_of_mem_head? hc]
          · rintro rfl
            exact hnext hc
      rw [hruns, List.intercalate_cons_of_ne_nil hne, hrest_runs, squeeze_word_append hnot,
        squeeze_gap_append hnext, List.append_assoc, List.singleton_append]

/-! ## A name as a segment -/

theorem partBy_ofList {cs : List Char} (hplain : ∀ c ∈ cs, isPlain c = true)
    (hhead : cs.head? ≠ some '_') (hlast : cs.getLast? ≠ some '_') :
    partBy Naming.shoutySnake (String.ofList cs) = squeeze cs := by
  have hwords : Naming.words cs = Naming.runs cs :=
    Naming.words_of_not_lower fun c hc => isLowercase_of_isPlain (hplain c hc)
  have hupper : ∀ run ∈ Naming.runs cs, Text.upperChars run = run := fun run hrun =>
    upperChars_of_isPlain fun c hc => hplain c (Naming.mem_of_mem_runs hrun hc)
  have hsqueezed : (Naming.shoutySnake (String.ofList cs)).toList = squeeze cs := by
    rw [Naming.toList_shoutySnake, String.toList_ofList, hwords, List.map_congr_left hupper,
      List.map_id', intercalate_runs hplain hhead hlast]
  have hfilter : (squeeze cs).filter isPlain = squeeze cs :=
    List.filter_eq_self.2 (isPlain_of_mem_squeeze hplain)
  rw [partBy, hsqueezed, hfilter, (squeeze_spaced hhead hlast).trimBoth]

/-- Capital letters come after the digits. -/
theorem isDigit_of_isUpper {c : Char} (h : c.isUpper = true) : c.isDigit = false := by
  have hbounds : 'A'.val ≤ c.val ∧ c.val ≤ 'Z'.val := of_decide_eq_true h
  have hval : '9'.val < c.val := UInt32.lt_of_lt_of_le (by decide) hbounds.1
  rw [Char.isDigit, decide_eq_false (UInt32.not_le.2 hval), Bool.and_false]

section Identifier
variable {n : PlainNamer} {cs : List Char}

/-- A name begins with its first segment if that is a name itself. -/
theorem joinedPartsBy_name (h : isIdentifier cs = true) (more : List String) :
    joinedPartsBy Naming.shoutySnake (String.ofList cs :: more) =
      List.intercalate ['_']
        (squeeze cs :: (more.map (partBy Naming.shoutySnake)).filter (!·.isEmpty)) := by
  obtain ⟨⟨c, ⟨rest, hcs⟩, hupper⟩, hplain, hlast⟩ := isIdentifier_iff.1 h
  have hc : cs.head? = some c := by rw [← hcs]; rfl
  have hhead : cs.head? ≠ some '_' := by
    rw [hc]
    rintro ⟨⟩
    exact absurd hupper (by decide)
  obtain ⟨tail, htail⟩ : ∃ tail, squeeze cs = c :: tail :=
    List.head?_eq_some_iff.1 ((head?_squeeze cs).trans hc)
  rw [joinedPartsBy, List.map_cons, partBy_ofList hplain hhead hlast, htail,
    List.filter_cons_of_pos (by rfl)]
  -- The parts begin with a capital letter, so nothing is put in front of them.
  have hdigit := isDigit_of_isUpper hupper
  cases (more.map (partBy Naming.shoutySnake)).filter (!·.isEmpty) with
  | nil => simp [hdigit]
  | cons next parts => simp [List.intercalate_cons_cons, hdigit]

theorem squeeze_prefix_baseBy (h : isIdentifier cs = true) (hlen : cs.length ≤ n.maxLength)
    (more : List String) :
    squeeze cs <+: n.baseBy Naming.shoutySnake (String.ofList cs :: more) := by
  rw [baseBy, joinedPartsBy_name h]
  refine prefix_truncate (prefix_intercalate _ _ _) ?_ ?_
  · exact Nat.le_trans (length_squeeze_le cs) hlen
  · rw [getLast?_squeeze]
    exact (isIdentifier_iff.1 h).2.2

theorem baseBy_name (h : isIdentifier cs = true) (hlen : cs.length ≤ n.maxLength) :
    n.baseBy Naming.shoutySnake [String.ofList cs] = squeeze cs := by
  have hcut : n.baseBy Naming.shoutySnake [String.ofList cs] <+: squeeze cs := by
    rw [baseBy, joinedPartsBy_name h]
    exact (truncate_isPrefix _ _).trans (by simp)
  exact hcut.eq_of_length_le (squeeze_prefix_baseBy h hlen []).length_le

end Identifier

/-! ## Names whose words are all written -/

theorem filter_intercalate {p : α → Bool} {sep : List α} (hsep : ∀ c ∈ sep, p c = true)
    (parts : List (List α)) :
    (List.intercalate sep parts).filter p = List.intercalate sep (parts.map (List.filter p)) := by
  have hfilter : sep.filter p = sep := List.filter_eq_self.2 hsep
  induction parts with
  | nil => simp
  | cons part parts ih =>
    cases parts with
    | nil => simp
    | cons next parts =>
      rw [List.intercalate_cons_cons, List.filter_append, List.filter_append, hfilter, ih,
        List.map_cons, List.map_cons, List.map_cons, List.intercalate_cons_cons]

/-- Every word of a segment has a character that an identifier can have. -/
def WordsKept (segment : String) : Prop :=
  ∀ w ∈ Naming.words segment.toList, ∃ c ∈ Text.upperChars w, isPlain c = true

theorem partBy_spaced {segment : String} (h : WordsKept segment) :
    Spaced (partBy Naming.shoutySnake segment) := by
  have hunderscore : ∀ c ∈ ['_'], isPlain c = true := by simp [isPlain]
  have hspaced : Spaced ((Naming.shoutySnake segment).toList.filter isPlain) := by
    rw [Naming.toList_shoutySnake, filter_intercalate hunderscore, List.map_map]
    refine .intercalate fun p hp => ?_
    obtain ⟨w, hw, rfl⟩ := List.mem_map.1 hp
    obtain ⟨c, hc, hplain⟩ := h w hw
    refine ⟨List.ne_nil_of_mem (List.mem_filter.2 ⟨hc, hplain⟩), .of_not_mem fun hmem => ?_⟩
    exact Naming.underscore_not_mem_word hw (List.mem_filter.1 hmem).1
  rw [partBy, hspaced.trimBoth]
  exact hspaced

theorem baseBy_apart (n : PlainNamer) {segments : List String} (h : ∀ s ∈ segments, WordsKept s) :
    (n.baseBy Naming.shoutySnake segments).IsChain Apart := by
  have hjoined : Spaced (List.intercalate ['_']
      ((segments.map (partBy Naming.shoutySnake)).filter (!·.isEmpty))) := by
    refine .intercalate fun p hp => ?_
    obtain ⟨hmem, hne⟩ := List.mem_filter.1 hp
    obtain ⟨segment, hsegment, rfl⟩ := List.mem_map.1 hmem
    exact ⟨by simpa using hne, partBy_spaced (h segment hsegment)⟩
  have happart : (joinedPartsBy Naming.shoutySnake segments).IsChain Apart := by
    unfold joinedPartsBy
    generalize List.intercalate ['_']
      ((segments.map (partBy Naming.shoutySnake)).filter (!·.isEmpty)) = joined at hjoined
    cases joined with
    | nil => exact List.isChain_singleton _
    | cons c cs =>
      have hX : Apart 'X' c := fun hboth => absurd hboth.1 (by decide)
      dsimp only
      split
      · exact List.isChain_cons_cons.2 ⟨hX, hjoined.apart⟩
      · exact hjoined.apart
  exact happart.prefix (truncate_isPrefix _ _)

/-! ## Names again -/

section Free
variable (spell : String → String) (n : PlainNamer) (segments : List String)

/-- The name of the segments where nothing is taken. -/
def freeNameBy : String := n.resolveBy spell segments fun _ => false

theorem freeNameBy_eq : n.freeNameBy spell segments = String.ofList (n.baseBy spell segments) := rfl

/-- It is given out whenever it is not taken. -/
theorem resolveBy_of_free {taken : String → Bool}
    (h : taken (n.freeNameBy spell segments) = false) :
    n.resolveBy spell segments taken = n.freeNameBy spell segments := by
  rw [freeNameBy_eq] at h ⊢
  simp only [resolveBy, h, Bool.false_eq_true, if_false]

end Free

/-- The name of the segments, with their words in capitals, where nothing is taken. -/
def freeName (n : PlainNamer) (segments : List String) : String :=
  n.freeNameBy Naming.shoutySnake segments

theorem freeName_eq (n : PlainNamer) (segments : List String) :
    n.freeName segments = String.ofList (n.baseBy Naming.shoutySnake segments) := rfl

/-- An identifier without underscores is the name of itself. -/
theorem freeName_of_identifier {n : PlainNamer} {s : String} (h : isIdentifier s.toList = true)
    (hlen : s.toList.length ≤ n.maxLength) (hword : '_' ∉ s.toList) : n.freeName [s] = s := by
  have hbase := baseBy_name h hlen
  rw [String.ofList_toList, squeeze_eq_self_iff.2 (Spaced.of_not_mem hword).apart] at hbase
  rw [freeName_eq, hbase, String.ofList_toList]

/-- A name begins with the name that is its first segment, with single underscores, and is nothing
    more if it has no other segments. -/
theorem baseBy_baseBy (n : PlainNamer) (segments : List String) :
    (∀ more, squeeze (n.baseBy Naming.shoutySnake segments) <+:
      n.baseBy Naming.shoutySnake
        (String.ofList (n.baseBy Naming.shoutySnake segments) :: more)) ∧
      n.baseBy Naming.shoutySnake [String.ofList (n.baseBy Naming.shoutySnake segments)] =
        squeeze (n.baseBy Naming.shoutySnake segments) := by
  have hlen := n.length_baseBy_le Naming.shoutySnake segments
  rcases Nat.eq_zero_or_pos n.maxLength with hzero | hpos
  · -- Without any room, all names are empty.
    have hnil : ∀ segments, n.baseBy Naming.shoutySnake segments = [] := fun segments => by
      simpa [hzero] using n.length_baseBy_le Naming.shoutySnake segments
    simp [hnil]
  · have hname : isIdentifier (n.baseBy Naming.shoutySnake segments) = true :=
      baseBy_isIdentifier Naming.shoutySnake hpos segments
    exact ⟨squeeze_prefix_baseBy hname hlen, baseBy_name hname hlen⟩

/-- A name that is made of a name has single underscores. So names stay the same, and begin with
    the names that they are made of, just in case these have single underscores. They have if every
    word of their segments is kept, and in any case from the second time on. -/
theorem freeName_again (n : PlainNamer) (segments : List String) :
    (∀ more, squeeze (n.freeName segments).toList <+:
      (n.freeName (n.freeName segments :: more)).toList) ∧
    n.freeName [n.freeName segments] = String.ofList (squeeze (n.freeName segments).toList) ∧
    (n.freeName [n.freeName segments] = n.freeName segments ↔
      (n.freeName segments).toList.IsChain Apart) ∧
    ((∀ more, (n.freeName segments).toList <+:
      (n.freeName (n.freeName segments :: more)).toList) ↔
        (n.freeName segments).toList.IsChain Apart) ∧
    ((∀ s ∈ segments, WordsKept s) → n.freeName [n.freeName segments] = n.freeName segments) ∧
    n.freeName [n.freeName [n.freeName segments]] = n.freeName [n.freeName segments] := by
  simp only [freeName_eq, String.toList_ofList, String.ofList_inj, ← squeeze_eq_self_iff]
  obtain ⟨hbegins, heq⟩ := n.baseBy_baseBy segments
  refine ⟨hbegins, heq, by rw [heq], ⟨fun hall => ?_, fun hstable more => ?_⟩, fun hkept => ?_, ?_⟩
  · have hname := hall []
    rw [heq] at hname
    exact (hname.eq_of_length_le (length_squeeze_le _)).symm
  · have hname := hbegins more
    rwa [hstable] at hname
  · rw [heq, squeeze_eq_self_iff]
    exact n.baseBy_apart hkept
  · rw [(n.baseBy_baseBy _).2, heq, squeeze_squeeze]

/-- The word between two others is dropped, and both underscores stay at first. -/
theorem dropped_word_changes_name :
    freeName ⟨50⟩ ["a ø b"] = "A__B" ∧ freeName ⟨50⟩ ["A__B"] = "A_B" ∧
      freeName ⟨50⟩ [freeName ⟨50⟩ ["a ø b"]] ≠ freeName ⟨50⟩ ["a ø b"] := by
  decide +kernel

end PlainNamer

end DocViews
