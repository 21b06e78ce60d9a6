import DocViews.Naming
import DocViews.Proofs.Numbering
import DocViews.Proofs.Text.Cut
import Mathlib.Data.Finset.Card

/-!
# Plain names

Names with different numbers are different, even where they are cut to make room for the number. So
the plain namer gives out a taken name only if the name itself and all its numbered forms are
taken, which takes as many names as there are numbers to try. Whoever takes each name that is given
out therefore gets names that all differ, up to that many. How the words of a segment are spelled
does not matter for any of this.
-/

namespace DocViews

/-! ## Numbers at the end -/

theorem isDigit_of_mem_repr {k : Nat} {c : Char} (h : c ∈ (Nat.repr k).toList) :
    c.isDigit = true := by
  rw [Nat.toList_repr] at h
  exact Nat.isDigit_of_mem_toDigits (by decide) (by decide) h

theorem underscore_not_mem_repr (k : Nat) : '_' ∉ (Nat.repr k).toList := by
  intro hmem
  exact absurd (isDigit_of_mem_repr hmem) (by decide)

/-- A number behind an underscore can be read off the end of a name, whatever is before it. -/
theorem eq_of_numbered_eq {a b : List Char} {j k : Nat}
    (h : a ++ '_' :: (Nat.repr j).toList = b ++ '_' :: (Nat.repr k).toList) : j = k := by
  -- Backwards, the number goes up to the first underscore.
  have hread : ∀ (c : List Char) (n : Nat),
      (c ++ '_' :: (Nat.repr n).toList).reverse.takeWhile (fun x => decide (x ≠ '_')) =
        (Nat.repr n).toList.reverse := by
    intro c n
    have hdigits : '_' ∉ (Nat.repr n).toList.reverse := by
      rw [List.mem_reverse]
      exact underscore_not_mem_repr n
    have hstop : ∀ x, ('_' :: c.reverse).head? = some x → x = '_' := by
      rintro x ⟨⟩
      rfl
    refine (span_ne_iff.2 ⟨?_, hdigits, hstop⟩).1
    simp
  have hdigits : (Nat.repr j).toList.reverse = (Nat.repr k).toList.reverse := by
    rw [← hread a j, h, hread b k]
  exact repr_injective (String.toList_inj.1 (List.reverse_inj.1 hdigits))

namespace PlainNamer

variable (spell : String → String) (n : PlainNamer) (segments : List String)

theorem numbered_injective (base : List Char) :
    Function.Injective fun k => String.ofList (n.numbered base k) := by
  intro j k h
  exact eq_of_numbered_eq (String.ofList_inj.1 h)

/-- The numbered forms of a name, in the order in which they are tried. -/
def candidates : List String :=
  (List.range' 1 maxAttempts).map fun k => String.ofList (n.numbered (n.baseBy spell segments) k)

theorem length_candidates : (n.candidates spell segments).length = maxAttempts := by
  rw [candidates, List.length_map, List.length_range']

theorem candidates_nodup : (n.candidates spell segments).Nodup :=
  List.Nodup.map (n.numbered_injective _) List.nodup_range'

/-- The first free one of the name itself and its numbered forms is given out. -/
theorem resolveBy_eq_find? (taken : String → Bool) :
    n.resolveBy spell segments taken =
      if taken (String.ofList (n.baseBy spell segments)) then
        ((n.candidates spell segments).find? fun c => !taken c).getD
          (String.ofList (n.baseBy spell segments))
      else String.ofList (n.baseBy spell segments) := by
  have hstep : ∀ c, (if taken c then none else some c) = Option.guard (fun c => !taken c) c := by
    intro c
    cases htaken : taken c <;> simp [Option.guard, htaken]
  rw [candidates, List.find?_eq_findSome?_guard, List.findSome?_map]
  simp only [resolveBy, hstep]
  rfl

/-- A search for a free name ends at one of those that are tried, or falls back. -/
theorem findSome?_free_mem (taken : String → Bool) (name : Nat → String) (ks : List Nat)
    (fallback : String) :
    (ks.findSome? fun k => if taken (name k) then none else some (name k)).getD fallback ∈
      fallback :: ks.map name := by
  cases hfind : ks.findSome? fun k => if taken (name k) then none else some (name k) with
  | none => exact List.mem_cons_self
  | some found =>
    obtain ⟨k, hk, hname⟩ := List.exists_of_findSome?_eq_some hfind
    split at hname
    · cases hname
    · obtain rfl := Option.some.inj hname
      exact List.mem_cons_of_mem _ (List.mem_map_of_mem hk)

/-- What is given out is the name itself or one of its numbered forms. -/
theorem resolveBy_mem (taken : String → Bool) :
    n.resolveBy spell segments taken ∈
      String.ofList (n.baseBy spell segments) :: n.candidates spell segments := by
  simp only [resolveBy]
  split
  · exact findSome?_free_mem taken ..
  · exact List.mem_cons_self

/-! ## Taken names -/

/-- A taken name is given out if there is no way around it, and only then. -/
theorem resolveBy_taken_iff (taken : String → Bool) :
    taken (n.resolveBy spell segments taken) = true ↔
      taken (String.ofList (n.baseBy spell segments)) = true ∧
        ∀ c ∈ n.candidates spell segments, taken c = true := by
  constructor
  · intro h
    rw [resolveBy_eq_find?] at h
    split at h
    case isFalse hbase => exact absurd h hbase
    case isTrue hbase =>
      refine ⟨hbase, ?_⟩
      cases hfind : (n.candidates spell segments).find? fun c => !taken c with
      | none => simpa using hfind
      | some c =>
        -- What the search finds is not taken.
        rw [hfind, Option.getD_some] at h
        simpa [h] using List.find?_some hfind
  · intro ⟨hbase, hnumbered⟩
    rcases List.mem_cons.1 (n.resolveBy_mem spell segments taken) with heq | hmem
    · rw [heq]
      exact hbase
    · exact hnumbered _ hmem

/-- As long as fewer names are taken than there are numbers to try, a free name is found. -/
theorem resolveBy_not_mem_finset {taken : Finset String} (h : taken.card < maxAttempts) :
    n.resolveBy spell segments (fun c => decide (c ∈ taken)) ∉ taken := by
  intro hmem
  obtain ⟨_, hcandidates⟩ :=
    (n.resolveBy_taken_iff spell segments fun c => decide (c ∈ taken)).1 (decide_eq_true hmem)
  have hsubset : (n.candidates spell segments).toFinset ⊆ taken := fun c hc =>
    of_decide_eq_true (hcandidates c (List.mem_toFinset.1 hc))
  have hcard := Finset.card_le_card hsubset
  rw [List.toFinset_card_of_nodup (n.candidates_nodup spell segments), length_candidates] at hcard
  omega

theorem resolveBy_not_mem {taken : List String} (h : taken.length < maxAttempts) :
    n.resolveBy spell segments taken.contains ∉ taken := by
  have hfree := n.resolveBy_not_mem_finset spell segments
    (Nat.lt_of_le_of_lt (List.toFinset_card_le taken) h)
  have hsame : (fun c => decide (c ∈ taken.toFinset)) = taken.contains := by
    funext c
    rw [List.contains_eq_mem, decide_eq_decide, List.mem_toFinset]
  rwa [hsame, List.mem_toFinset] at hfree

/-! ## Characters -/

theorem mem_of_mem_truncate {k : Nat} {cs : List Char} {c : Char} (h : c ∈ truncate k cs) :
    c ∈ cs := by
  rw [truncate, List.mem_reverse] at h
  have hmem := (List.dropWhile_sublist _).mem h
  exact List.mem_of_mem_take (List.mem_reverse.1 hmem)

theorem partBy_plain {segment : String} {c : Char}
    (h : c ∈ partBy spell segment) : isPlain c = true := by
  have hmem : c ∈ (spell segment).toList.filter isPlain := by
    rw [partBy, Text.trimBoth, List.mem_reverse] at h
    have hright := List.mem_reverse.1 ((List.dropWhile_sublist _).mem h)
    exact (List.dropWhile_sublist _).mem hright
  exact (List.mem_filter.1 hmem).2

theorem intercalate_plain {parts : List (List Char)}
    (h : ∀ p ∈ parts, ∀ c ∈ p, isPlain c = true) :
    ∀ c ∈ List.intercalate ['_'] parts, isPlain c = true := by
  induction parts with
  | nil => simp
  | cons p parts ih =>
    obtain ⟨hp, hparts⟩ := List.forall_mem_cons.1 h
    cases parts with
    | nil => simpa using hp
    | cons next parts =>
      rw [List.intercalate_cons_cons]
      simp only [List.forall_mem_append, List.forall_mem_singleton]
      exact ⟨⟨hp, by decide⟩, ih hparts⟩

theorem intercalate_partBy_plain :
    ∀ c ∈ List.intercalate ['_'] ((segments.map (partBy spell)).filter (!·.isEmpty)),
      isPlain c = true := by
  apply intercalate_plain
  intro p hp c hc
  obtain ⟨segment, _, rfl⟩ := List.mem_map.1 (List.mem_filter.1 hp).1
  exact partBy_plain spell hc

theorem joinedPartsBy_plain {c : Char}
    (h : c ∈ joinedPartsBy spell segments) : isPlain c = true := by
  have hjoined := intercalate_partBy_plain spell segments
  simp only [joinedPartsBy] at h
  split at h
  case h_1 =>
    obtain rfl := List.mem_singleton.1 h
    decide
  case h_2 =>
    split at h
    · rcases List.mem_cons.1 h with rfl | h
      · decide
      · exact hjoined c h
    · exact hjoined c h

theorem baseBy_plain {c : Char} (h : c ∈ n.baseBy spell segments) : isPlain c = true :=
  joinedPartsBy_plain spell segments (mem_of_mem_truncate h)

theorem numbered_plain {base : List Char} (hbase : ∀ c ∈ base, isPlain c = true) {k : Nat}
    {c : Char} (h : c ∈ n.numbered base k) : isPlain c = true := by
  rcases List.mem_append.1 h with h | h
  · exact hbase c (mem_of_mem_truncate h)
  · rcases List.mem_cons.1 h with rfl | h
    · decide
    · simp [isPlain, isDigit_of_mem_repr h]

/-- Names are made of capital letters, digits and underscores. -/
theorem resolveBy_plain (taken : String → Bool) {c : Char}
    (h : c ∈ (n.resolveBy spell segments taken).toList) : isPlain c = true := by
  rcases List.mem_cons.1 (n.resolveBy_mem spell segments taken) with heq | hmem
  · rw [heq, String.toList_ofList] at h
    exact n.baseBy_plain spell segments h
  · obtain ⟨k, _, heq⟩ := List.mem_map.1 hmem
    rw [← heq, String.toList_ofList] at h
    exact n.numbered_plain (fun _ => n.baseBy_plain spell segments) h

/-- The characters of an identifier come before the small letters of ASCII. -/
theorem val_lt_of_isPlain {c : Char} (h : isPlain c = true) : c.val < 'a'.val := by
  rw [isPlain, Bool.or_eq_true, Bool.or_eq_true, beq_iff_eq] at h
  rcases h with (hupper | hdigit) | rfl
  · have hbounds : 'A'.val ≤ c.val ∧ c.val ≤ 'Z'.val := of_decide_eq_true hupper
    exact UInt32.lt_of_le_of_lt hbounds.2 (by decide)
  · rw [Char.isDigit, Bool.and_eq_true] at hdigit
    exact UInt32.lt_of_le_of_lt (of_decide_eq_true hdigit.2) (by decide)
  · decide

theorem toUpper_of_isPlain {c : Char} (h : isPlain c = true) : c.toUpper = c :=
  dif_neg fun hlower => UInt32.not_lt.2 hlower.1 (val_lt_of_isPlain h)

/-! ## Names one after another -/

/-- Names that are asked for one after another, where each is taken from then on. -/
def resolveAll (n : PlainNamer) (taken : Finset String) : List (List String) → List String
  | [] => []
  | segments :: rest =>
    let name := n.resolveBy spell segments fun c => decide (c ∈ taken)
    name :: resolveAll n (insert name taken) rest

theorem length_resolveAll (taken : Finset String) (requests : List (List String)) :
    (n.resolveAll spell taken requests).length = requests.length := by
  induction requests generalizing taken with
  | nil => rfl
  | cons segments rest ih => rw [resolveAll, List.length_cons, ih, List.length_cons]

/-- All of them differ, and none was taken before. -/
theorem resolveAll_fresh {taken : Finset String} {requests : List (List String)}
    (h : taken.card + requests.length ≤ maxAttempts) :
    (n.resolveAll spell taken requests).Nodup ∧
      ∀ name ∈ n.resolveAll spell taken requests, name ∉ taken := by
  -- The set of taken names grows by one with each name, so at least one number is always left.
  induction requests generalizing taken with
  | nil => simp [resolveAll]
  | cons segments rest ih =>
    rw [List.length_cons] at h
    have hfree : n.resolveBy spell segments (fun c => decide (c ∈ taken)) ∉ taken :=
      n.resolveBy_not_mem_finset spell segments (by omega)
    have hcard := Finset.card_insert_of_notMem hfree
    obtain ⟨hnodup, hnew⟩ := ih (by rw [hcard]; omega)
    rw [resolveAll, List.nodup_cons, List.forall_mem_cons]
    refine ⟨⟨?_, hnodup⟩, hfree, ?_⟩
    · intro hagain
      exact hnew _ hagain (Finset.mem_insert_self _ _)
    · intro name hname hmem
      exact hnew name hname (Finset.mem_insert_of_mem hmem)

/-- The numbered forms of a name are as many as there are numbers to try. A taken name is given out
    only if all of them are taken. So names that are asked for one after another, with whatever
    segments, differ from each other and from those that were taken before, as long as they are not
    more in all. That is so however the words of the segments are spelled. -/
theorem resolve_avoids_taken (n : PlainNamer) :
    n.resolve = n.resolveBy Naming.shoutySnake ∧
    ∀ spell : String → String,
      (∀ segments,
        (n.candidates spell segments).length = 10000 ∧ (n.candidates spell segments).Nodup ∧
        ∀ taken : String → Bool,
          n.resolveBy spell segments taken ∈
            String.ofList (n.baseBy spell segments) :: n.candidates spell segments ∧
          (taken (n.resolveBy spell segments taken) = true ↔
            taken (String.ofList (n.baseBy spell segments)) = true ∧
              ∀ c ∈ n.candidates spell segments, taken c = true)) ∧
      ∀ (taken : Finset String) (requests : List (List String)),
        taken.card + requests.length ≤ 10000 →
          (n.resolveAll spell taken requests).length = requests.length ∧
          (n.resolveAll spell taken requests).Nodup ∧
          ∀ name ∈ n.resolveAll spell taken requests, name ∉ taken := by
  refine ⟨rfl, fun spell => ⟨fun segments => ?_, fun taken requests h => ?_⟩⟩
  · refine ⟨n.length_candidates spell segments, n.candidates_nodup spell segments, fun taken => ?_⟩
    exact ⟨n.resolveBy_mem spell segments taken, n.resolveBy_taken_iff spell segments taken⟩
  · exact ⟨n.length_resolveAll spell taken requests, n.resolveAll_fresh spell h⟩

/-- Without any room all names are numbers, and they differ all the same. -/
theorem short_names_avoid_taken :
    ({"", "_1"} : Finset String).card + [["a"], ["b"]].length ≤ 10000 ∧
      (resolveAll Naming.shoutySnake ⟨0⟩ {"", "_1"} [["a"], ["b"]]).Nodup ∧
      ∀ name ∈ resolveAll Naming.shoutySnake ⟨0⟩ {"", "_1"} [["a"], ["b"]],
        name ∉ ({"", "_1"} : Finset String) := by
  have hcard : ({"", "_1"} : Finset String).card + [["a"], ["b"]].length ≤ 10000 := by decide
  exact ⟨hcard, (((resolve_avoids_taken ⟨0⟩).2 Naming.shoutySnake).2 _ _ hcard).2⟩

end PlainNamer

end DocViews
