import DocViews.Naming.Words
import DocViews.Proofs.Text.Capitals
import Mathlib.Data.List.SplitBy

/-!
# Words

The words of a text are cut out of its runs of letters and digits. Every word has a character, and
nothing but characters of the text. A text without lower-case letters is cut at its gaps only, so
its words are its runs.
-/

namespace DocViews.Naming

/-! ## Runs -/

section Runs
variable {a b gap rest word : List Char}

/-- A text is cut wherever letters and digits meet other characters. -/
theorem runs_append
    (h : ∀ x ∈ a.getLast?, ∀ y ∈ b.head?, Text.isAlphanumeric x ≠ Text.isAlphanumeric y) :
    runs (a ++ b) = runs a ++ runs b := by
  rw [runs, List.splitBy_append, List.filter_append]
  · rfl
  · intro x hx y hy
    simpa using h x hx y hy

theorem runs_of_gap (h : ∀ c ∈ gap, Text.isAlphanumeric c = false) : runs gap = [] := by
  refine List.filter_eq_nil_iff.2 fun run hrun => ?_
  cases run with
  | nil => simp
  | cons c cs =>
    have hc : c ∈ (gap.splitBy fun a b => Text.isAlphanumeric a == Text.isAlphanumeric b).flatten :=
      List.mem_flatten.2 ⟨_, hrun, List.mem_cons_self⟩
    rw [List.flatten_splitBy] at hc
    simp [h c hc]

theorem runs_of_word (hne : word ≠ []) (h : ∀ c ∈ word, Text.isAlphanumeric c = true) :
    runs word = [word] := by
  obtain ⟨c, cs, rfl⟩ := List.exists_cons_of_ne_nil hne
  have hchain : (c :: cs).IsChain fun a b =>
      (Text.isAlphanumeric a == Text.isAlphanumeric b) = true := by
    refine List.Pairwise.isChain (List.pairwise_of_forall_mem_list fun x hx y hy => ?_)
    rw [h x hx, h y hy]
    rfl
  rw [runs, List.splitBy_of_isChain hne hchain]
  simp [h c List.mem_cons_self]

/-- A word before a gap is a run of its own. -/
theorem runs_word_append (hne : word ≠ []) (hword : ∀ c ∈ word, Text.isAlphanumeric c = true)
    (hrest : ∀ c ∈ rest.head?, Text.isAlphanumeric c = false) :
    runs (word ++ rest) = word :: runs rest := by
  rw [runs_append, runs_of_word hne hword]
  · rfl
  · intro x hx y hy
    rw [hword x (List.mem_of_mem_getLast? hx), hrest y hy]
    decide

/-- A gap before a word is left out. -/
theorem runs_gap_append (hgap : ∀ c ∈ gap, Text.isAlphanumeric c = false)
    (hrest : ∀ c ∈ rest.head?, Text.isAlphanumeric c = true) : runs (gap ++ rest) = runs rest := by
  rw [runs_append, runs_of_gap hgap]
  · rfl
  · intro x hx y hy
    rw [hgap x (List.mem_of_mem_getLast? hx), hrest y hy]
    decide

theorem ne_nil_of_mem_runs {cs run : List Char} (h : run ∈ runs cs) : run ≠ [] :=
  List.ne_nil_of_mem_splitBy (List.mem_filter.1 h).1

theorem mem_of_mem_runs {cs run : List Char} (h : run ∈ runs cs) {c : Char} (hc : c ∈ run) :
    c ∈ cs := by
  rw [← List.flatten_splitBy (fun a b => Text.isAlphanumeric a == Text.isAlphanumeric b) cs]
  exact List.mem_flatten.2 ⟨run, (List.mem_filter.1 h).1, hc⟩

/-- A run has nothing but letters and digits, since its first character is one. -/
theorem isAlphanumeric_of_mem_runs {cs run : List Char} (h : run ∈ runs cs) {c : Char}
    (hc : c ∈ run) : Text.isAlphanumeric c = true := by
  obtain ⟨hrun, hhead⟩ := List.mem_filter.1 h
  -- Neighbours in a run are of the same kind, so its kinds are those of its first character.
  have hsame : (run.map Text.isAlphanumeric).IsChain Eq := by
    refine (List.isChain_map _).2 ((List.isChain_of_mem_splitBy hrun).imp fun a b hab => ?_)
    simpa using hab
  obtain ⟨d, hd, hd_alphanumeric⟩ := (Option.any_eq_true ..).1 hhead
  have hkinds := List.isChain_eq_iff_eq_replicate.1 hsame true (by simp [hd, hd_alphanumeric])
  exact List.eq_replicate_length.1 (by simpa using hkinds) _ (List.mem_map_of_mem hc)

end Runs

/-! ## Words of a run -/

/-- A word of a run has characters of the run. -/
theorem mem_of_mem_cutRun {m : LetterCase} {word cs w : List Char} (h : w ∈ cutRun m word cs)
    {c : Char} (hc : c ∈ w) : c ∈ word ∨ c ∈ cs := by
  fun_induction cutRun m word cs with
  | case1 => simp at h
  | case2 => simp_all
  | case3 => simp_all [or_comm]
  | case4 m word d e rest _ ih =>
    -- The word ends behind `d`.
    rcases List.mem_cons.1 h with rfl | h
    · grind
    · grind
  | case5 m word d e rest _ _ ih =>
    -- The word ends before `d`.
    rcases List.mem_cons.1 h with rfl | h
    · exact .inl (List.mem_reverse.1 hc)
    · grind
  | case6 m word d e rest _ _ ih => grind

/-- The words of a text have nothing but letters and digits. -/
theorem isAlphanumeric_of_mem_words {cs w : List Char} (h : w ∈ words cs) {c : Char} (hc : c ∈ w) :
    Text.isAlphanumeric c = true := by
  obtain ⟨run, hrun, hw⟩ := List.mem_flatMap.1 h
  have hmem : c ∈ run := by simpa using mem_of_mem_cutRun hw hc
  exact isAlphanumeric_of_mem_runs hrun hmem

theorem LetterCase.after_ne_lower {m : LetterCase} {c : Char} (hm : m ≠ .lower)
    (hc : Text.isLowercase c = false) : m.after c ≠ .lower := by
  unfold LetterCase.after
  rw [if_neg (by simp [hc])]
  split
  · decide
  · exact hm

/-- Nothing is cut in a run without lower-case letters. -/
theorem cutRun_of_not_lower {m : LetterCase} {word cs : List Char} (hm : m ≠ .lower) (hne : cs ≠ [])
    (h : ∀ c ∈ cs, Text.isLowercase c = false) : cutRun m word cs = [word.reverse ++ cs] := by
  induction cs generalizing m word with
  | nil => exact absurd rfl hne
  | cons c cs ih =>
    obtain ⟨hc, hcs⟩ := List.forall_mem_cons.1 h
    cases cs with
    | nil => simp [cutRun]
    | cons d ds =>
      have hd := (List.forall_mem_cons.1 hcs).1
      have hafter := LetterCase.after_ne_lower hm hc
      rw [cutRun, if_neg (by simp [hafter]), if_neg (by simp [hd]),
        ih hafter (List.cons_ne_nil d ds) hcs]
      simp

/-- Without lower-case letters, a text is cut at its gaps only. -/
theorem words_of_not_lower {cs : List Char} (h : ∀ c ∈ cs, Text.isLowercase c = false) :
    words cs = runs cs := by
  have hrun : ∀ run ∈ runs cs, cutRun .none [] run = [run] := by
    intro run hrun
    refine cutRun_of_not_lower (by decide) (ne_nil_of_mem_runs hrun) fun c hc => ?_
    exact h c (mem_of_mem_runs hrun hc)
  rw [words, List.flatMap_congr hrun, List.flatMap_singleton']

/-- No underscore comes up within a word. -/
theorem underscore_not_mem_word {cs w : List Char} (h : w ∈ words cs) : '_' ∉ Text.upperChars w := by
  refine Text.underscore_not_mem_upperChars fun hmem => ?_
  exact absurd (isAlphanumeric_of_mem_words h hmem) (by decide)

theorem toList_shoutySnake (s : String) :
    (shoutySnake s).toList = List.intercalate ['_'] ((words s.toList).map Text.upperChars) := by
  rw [shoutySnake, String.toList_intercalate, List.map_map]
  have hword : (String.toList ∘ fun w => String.ofList (Text.upperChars w)) = Text.upperChars :=
    funext fun w => String.toList_ofList
  rw [hword]
  rfl

end DocViews.Naming
