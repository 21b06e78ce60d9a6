import DocViews.Path.Syntax
import DocViews.Proofs.Outcome
import DocViews.Proofs.Text.Cut

/-!
# What can be read as a path

Not every path has a written form that leads back to it: a slash in a name would end it, a closing
brace would end a namespace, and a blank at the very end would be trimmed. These are the only
obstacles. A text is read as a path just in case the path has none of them and the text, apart from
blanks around it, is its written form, with or without the first slash.
-/

namespace DocViews

/-! ## Paths without obstacles -/

/-- A segment that is found again in its written form. -/
structure Segment.WellFormed (s : Segment) : Prop where
  name_ne : s.name ≠ ""
  name_slash : '/' ∉ s.name.toList
  uri : ∀ uri, s.uri = some uri → uri ≠ "" ∧ '\x7d' ∉ uri.toList
  /-- Without a namespace, an opening brace at the front would announce one. -/
  name_brace : s.uri = none → s.name.toList.head? ≠ some '\x7b'

/-- A path that is found again in its written form. -/
structure Path.WellFormed (p : Path) : Prop where
  segments : ∀ s ∈ p, s.WellFormed
  /-- The last name, if there is one, does not end with a blank. -/
  last : ∀ s c, p.getLast? = some s → s.name.toList.getLast? = some c → Text.isBlank c = false

/-- A text that is the written form of a path, blanks around it and the first slash aside. -/
def Path.WrittenAs (p : Path) (text : String) : Prop :=
  Text.trim text = p.display ∨ "/" ++ Text.trim text = p.display

/-! ## Written segments -/

theorem Segment.display_none (name : String) : Segment.display ⟨name, none⟩ = name := rfl

theorem Segment.display_some_toList (name uri : String) :
    (Segment.display ⟨name, some uri⟩).toList =
      '\x7b' :: (uri.toList ++ '\x7d' :: name.toList) := by
  simp [Segment.display]

/-- The first character of a written segment is none that ends a segment. -/
theorem Segment.WellFormed.display_head? {s : Segment} (h : s.WellFormed) :
    ∃ c, s.display.toList.head? = some c ∧ c ≠ '/' := by
  obtain ⟨name, _ | uri⟩ := s
  · rw [Segment.display_none]
    cases hname : name.toList with
    | nil => exact absurd (String.toList_eq_nil_iff.1 hname) h.name_ne
    | cons c cs =>
      refine ⟨c, rfl, fun hc => h.name_slash ?_⟩
      show '/' ∈ name.toList
      rw [hname, hc]
      exact List.mem_cons_self
  · rw [Segment.display_some_toList]
    exact ⟨_, rfl, by decide⟩

theorem Segment.WellFormed.display_ne_nil {s : Segment} (h : s.WellFormed) :
    s.display.toList ≠ [] := by
  obtain ⟨c, hc, _⟩ := h.display_head?
  intro hnil
  simp [hnil] at hc

/-- A written segment ends with its name. -/
theorem Segment.WellFormed.display_getLast? {s : Segment} (h : s.WellFormed) :
    s.display.toList.getLast? = s.name.toList.getLast? := by
  have hne : s.name.toList ≠ [] := fun hnil => h.name_ne (String.toList_eq_nil_iff.1 hnil)
  obtain ⟨name, _ | uri⟩ := s
  · rfl
  · rw [Segment.display_some_toList, ← List.cons_append,
      List.getLast?_append_of_ne_nil _ (List.cons_ne_nil _ _), List.getLast?_cons_of_ne_nil hne]

/-- The characters of a written path, which each segment adds to after a slash. -/
def Path.chars (p : Path) : List Char := p.flatMap fun s => '/' :: s.display.toList

@[simp]
theorem Path.chars_cons (s : Segment) (p : Path) :
    Path.chars (s :: p) = '/' :: (s.display.toList ++ p.chars) := rfl

theorem Path.display_toList {p : Path} (hp : p ≠ []) : p.display.toList = p.chars := by
  rw [Path.display, if_neg (by simpa using hp), String.toList_join, List.flatMap_map, Path.chars]
  simp

/-- A written path ends with its last name. -/
theorem Path.chars_getLast? {p : Path} {s : Segment} (h : ∀ s ∈ p, s.WellFormed)
    (hs : p.getLast? = some s) : p.chars.getLast? = s.name.toList.getLast? := by
  obtain ⟨q, rfl⟩ := List.getLast?_eq_some_iff.1 hs
  have hsegment : s.WellFormed := h s (by simp)
  rw [Path.chars, List.flatMap_append, List.flatMap_singleton,
    List.getLast?_append_of_ne_nil _ (List.cons_ne_nil _ _),
    List.getLast?_cons_of_ne_nil hsegment.display_ne_nil, hsegment.display_getLast?]

/-! ## Reading segments -/

/-- A namespace is read if there is one in braces, and it is not empty. -/
theorem takeUri_eq_ok {cs rest : List Char} {u : Option String} :
    takeUri cs = .ok (u, rest) ↔
      (u = none ∧ cs = rest ∧ cs.head? ≠ some '\x7b') ∨
      ∃ uri, u = some uri ∧ uri ≠ "" ∧ '\x7d' ∉ uri.toList ∧
        cs = '\x7b' :: (uri.toList ++ '\x7d' :: rest) := by
  constructor
  · intro h
    unfold takeUri at h
    split at h
    · rename_i tail
      split at h
      · simp at h
      · rename_i brace after hdrop
        obtain ⟨htail, huri, hbrace⟩ := span_ne_iff.1 ⟨rfl, hdrop⟩
        obtain rfl := hbrace brace rfl
        split at h
        · simp at h
        · rename_i hne
          simp only [Except.ok.injEq, Prod.mk.injEq] at h
          obtain ⟨rfl, rfl⟩ := h
          refine .inr ⟨_, rfl, ?_, ?_, ?_⟩
          · intro hempty
            rw [← String.toList_eq_nil_iff, String.toList_ofList] at hempty
            exact hne (List.isEmpty_iff.2 hempty)
          · rwa [String.toList_ofList]
          · rw [String.toList_ofList]
            exact congrArg _ htail
    · rename_i hbrace
      simp only [Except.ok.injEq, Prod.mk.injEq] at h
      obtain ⟨rfl, rfl⟩ := h
      refine .inl ⟨rfl, rfl, fun hhead => ?_⟩
      obtain ⟨tail, rfl⟩ := List.head?_eq_some_iff.1 hhead
      exact hbrace tail rfl
  · rintro (⟨rfl, rfl, hhead⟩ | ⟨uri, rfl, hne, huri, rfl⟩)
    · unfold takeUri
      split
      · simp at hhead
      · rfl
    · have hstop : ∀ c, ('\x7d' :: rest).head? = some c → c = '\x7d' := by
        rintro c ⟨⟩
        rfl
      obtain ⟨htake, hdrop⟩ := span_ne_iff.2 ⟨rfl, huri, hstop⟩
      have hempty : uri.toList.isEmpty = false := by simpa using hne
      simp only [takeUri, htake, hdrop, hempty, String.ofList_toList]
      rfl

/-- After its namespace, a name is read up to the next slash, or up to the end. -/
theorem takeSegment_eq_ok_iff_takeUri {cs rest : List Char} {s : Segment} :
    takeSegment cs = .ok (s, rest) ↔
      s.name ≠ "" ∧ '/' ∉ s.name.toList ∧ (∀ c, rest.head? = some c → c = '/') ∧
        takeUri cs = .ok (s.uri, s.name.toList ++ rest) := by
  constructor
  · intro h
    unfold takeSegment at h
    split at h
    · simp at h
    · rename_i uri body huri
      split at h
      · simp at h
      · rename_i hne
        simp only [Except.ok.injEq, Prod.mk.injEq] at h
        obtain ⟨rfl, rfl⟩ := h
        obtain ⟨hbody, hslash, hstop⟩ := span_ne_iff (d := '/') (l := body) |>.1 ⟨rfl, rfl⟩
        simp only [String.toList_ofList]
        refine ⟨?_, hslash, hstop, ?_⟩
        · intro hempty
          rw [← String.toList_eq_nil_iff, String.toList_ofList] at hempty
          exact hne (List.isEmpty_iff.2 hempty)
        · rw [← hbody]
          exact huri
  · rintro ⟨hne, hslash, hrest, huri⟩
    obtain ⟨htake, hdrop⟩ := span_ne_iff.2 ⟨rfl, hslash, hrest⟩
    have hempty : s.name.toList.isEmpty = false := by simpa using hne
    simp only [takeSegment, huri, htake, hdrop, hempty, String.ofList_toList]
    rfl

/-- A segment is read if it is well-formed and stands before a slash, or at the end. -/
theorem takeSegment_eq_ok {cs rest : List Char} {s : Segment} :
    takeSegment cs = .ok (s, rest) ↔
      s.WellFormed ∧ cs = s.display.toList ++ rest ∧ ∀ c, rest.head? = some c → c = '/' := by
  rw [takeSegment_eq_ok_iff_takeUri, takeUri_eq_ok]
  constructor
  · rintro ⟨hne, hslash, hrest, ⟨hnone, rfl, hhead⟩ | ⟨uri, hsome, huri⟩⟩
    · obtain ⟨name, _⟩ := s
      cases hnone
      refine ⟨⟨hne, hslash, by simp, fun _ hbrace => hhead ?_⟩, rfl, hrest⟩
      rw [List.head?_append, hbrace, Option.some_or]
    · obtain ⟨name, _⟩ := s
      cases hsome
      refine ⟨⟨hne, hslash, ?_, by simp⟩, ?_, hrest⟩
      · rintro _ ⟨⟩
        exact ⟨huri.1, huri.2.1⟩
      · rw [Segment.display_some_toList, huri.2.2]
        simp
  · rintro ⟨hs, rfl, hrest⟩
    refine ⟨hs.name_ne, hs.name_slash, hrest, ?_⟩
    obtain ⟨name, _ | uri⟩ := s
    · refine .inl ⟨rfl, rfl, ?_⟩
      have hne : name.toList ≠ [] := fun hnil => hs.name_ne (String.toList_eq_nil_iff.1 hnil)
      rw [Segment.display_none, List.head?_append_of_ne_nil _ hne]
      exact hs.name_brace rfl
    · refine .inr ⟨uri, rfl, (hs.uri uri rfl).1, (hs.uri uri rfl).2, ?_⟩
      rw [Segment.display_some_toList]
      simp

theorem parseSegments_of_end {cs : List Char} {s : Segment} (h : takeSegment cs = .ok (s, [])) :
    parseSegments cs = .ok [s] := by
  rw [parseSegments]
  split <;> simp_all

theorem parseSegments_of_more {cs rest : List Char} {s : Segment} {c : Char}
    (h : takeSegment cs = .ok (s, c :: rest)) :
    parseSegments cs = do return s :: (← parseSegments rest) := by
  rw [parseSegments]
  split <;> simp_all

/-- A path of at least one segment is read just in case its segments are well-formed. -/
theorem parseSegments_eq_ok {cs : List Char} {p : Path} :
    parseSegments cs = .ok p ↔ p ≠ [] ∧ (∀ s ∈ p, s.WellFormed) ∧ p.chars = '/' :: cs := by
  constructor
  · intro h
    fun_induction parseSegments cs generalizing p with
    | case1 cs e he => simp at h
    | case2 cs s hs =>
      obtain ⟨hsegment, rfl, _⟩ := takeSegment_eq_ok.1 hs
      cases h
      exact ⟨by simp, by simpa using hsegment, by simp [Path.chars]⟩
    | case3 cs s c rest hs hlt ih =>
      obtain ⟨hsegment, rfl, hslash⟩ := takeSegment_eq_ok.1 hs
      obtain rfl := hslash c rfl
      obtain ⟨q, hq, h⟩ := bind_eq_ok.1 h
      cases pure_eq_ok.1 h
      obtain ⟨_, hsegments, hchars⟩ := ih hq
      refine ⟨by simp, List.forall_mem_cons.2 ⟨hsegment, hsegments⟩, ?_⟩
      rw [Path.chars_cons, hchars]
  · rintro ⟨hne, hsegments, hchars⟩
    induction p generalizing cs with
    | nil => exact absurd rfl hne
    | cons s p ih =>
      obtain ⟨hsegment, hsegments⟩ := List.forall_mem_cons.1 hsegments
      rw [Path.chars_cons, List.cons.injEq] at hchars
      obtain ⟨_, rfl⟩ := hchars
      cases p with
      | nil => exact parseSegments_of_end (takeSegment_eq_ok.2 ⟨hsegment, rfl, by simp⟩)
      | cons t q =>
        -- After the slash stands the written form of the remaining segments.
        have hrest := ih (List.cons_ne_nil t q) hsegments (Path.chars_cons t q)
        have hstop : takeSegment (s.display.toList ++ Path.chars (t :: q)) =
            .ok (s, '/' :: (t.display.toList ++ Path.chars q)) :=
          takeSegment_eq_ok.2 ⟨hsegment, by rw [Path.chars_cons], by simp⟩
        rw [parseSegments_of_more hstop, hrest]
        rfl

/-! ## Reading paths -/

/-- `body` is what is left of a text when the first slash is taken off, if there is one. -/
def IsBody (cs body : List Char) : Prop :=
  cs = '/' :: body ∨ cs = body ∧ body.head? ≠ some '/'

theorem exists_isBody (cs : List Char) : ∃ body, IsBody cs body := by
  by_cases h : cs.head? = some '/'
  · obtain ⟨body, rfl⟩ := List.head?_eq_some_iff.1 h
    exact ⟨body, .inl rfl⟩
  · exact ⟨cs, .inr ⟨rfl, h⟩⟩

theorem IsBody.getLast? {cs body : List Char} (h : IsBody cs body) (hbody : body ≠ []) :
    cs.getLast? = body.getLast? := by
  rcases h with rfl | ⟨rfl, _⟩
  · exact List.getLast?_cons_of_ne_nil hbody
  · rfl

theorem parse_of_isBody {text : String} {body : List Char}
    (h : IsBody (Text.trim text).toList body) :
    Path.parse text = if body.isEmpty then .ok [] else parseSegments body := by
  unfold Path.parse
  rcases h with h | ⟨rfl, hhead⟩
  · simp only [h]
  · generalize (Text.trim text).toList = cs at hhead ⊢
    match cs with
    | [] => rfl
    | c :: cs =>
      simp only
      split
      · simp_all
      · rfl

/-- The written form begins with one slash. -/
theorem Path.display_head {p : Path} (h : ∀ s ∈ p, s.WellFormed) :
    ∃ tail, p.display.toList = '/' :: tail ∧ tail.head? ≠ some '/' := by
  cases p with
  | nil => exact ⟨[], rfl, by simp⟩
  | cons s p =>
    obtain ⟨c, hc, hne⟩ := (h s List.mem_cons_self).display_head?
    rw [Path.display_toList (List.cons_ne_nil s p), Path.chars_cons]
    refine ⟨_, rfl, ?_⟩
    rw [List.head?_append, hc, Option.some_or]
    simpa using hne

/-- It does not matter whether the first slash is written. -/
theorem Path.writtenAs_iff {p : Path} (hp : ∀ s ∈ p, s.WellFormed) {text : String}
    {body : List Char} (h : IsBody (Text.trim text).toList body) :
    p.WrittenAs text ↔ p.display.toList = '/' :: body := by
  obtain ⟨tail, htail, hhead⟩ := Path.display_head hp
  rw [Path.WrittenAs, ← String.toList_inj, ← String.toList_inj, String.toList_append, htail]
  rcases h with h | ⟨h, hbody⟩
  · rw [h]
    constructor
    · rintro (heq | heq)
      · exact heq.symm
      · cases heq
        simp at hhead
    · exact fun heq => .inl heq.symm
  · rw [h]
    constructor
    · rintro (rfl | heq)
      · simp at hbody
      · exact heq.symm
    · exact fun heq => .inr heq.symm

/-- What is left without the first slash is read as a path if, with a slash, it is written so. -/
theorem parse_body_eq_ok {body : List Char} {p : Path} :
    (if body.isEmpty then .ok [] else parseSegments body) = Except.ok (ε := PathFault) p ↔
      (∀ s ∈ p, s.WellFormed) ∧ p.display.toList = '/' :: body := by
  cases p with
  | nil =>
    split
    · rename_i hbody
      simp [List.isEmpty_iff.1 hbody, Path.display]
    · rename_i hbody
      have hbody : body ≠ [] := by simpa using hbody
      simp [parseSegments_eq_ok, Path.display, Ne.symm hbody]
  | cons s p =>
    rw [Path.display_toList (List.cons_ne_nil s p)]
    split
    · rename_i hbody
      rw [List.isEmpty_iff.1 hbody]
      -- A lone slash is no written form of a path with a segment.
      refine iff_of_false (by simp) fun ⟨hsegments, hchars⟩ => ?_
      rw [Path.chars_cons, List.cons.injEq, List.append_eq_nil_iff] at hchars
      exact (hsegments s List.mem_cons_self).display_ne_nil hchars.2.1
    · simp [parseSegments_eq_ok]

/-- A path that is written in a trimmed text does not end with a blank. -/
theorem Path.last_of_trim {p : Path} {text : String} {body : List Char}
    (hp : ∀ s ∈ p, s.WellFormed) (hbody : IsBody (Text.trim text).toList body)
    (hdisplay : p.display.toList = '/' :: body) {s : Segment} {c : Char}
    (hs : p.getLast? = some s) (hc : s.name.toList.getLast? = some c) :
    Text.isBlank c = false := by
  have hne : p ≠ [] := by
    rintro rfl
    simp at hs
  have hlast : ('/' :: body).getLast? = some c := by
    rw [← hdisplay, Path.display_toList hne, Path.chars_getLast? hp hs, hc]
  have hbody_ne : body ≠ [] := by
    rintro rfl
    -- A slash alone would have to be the end of a name.
    obtain rfl : '/' = c := by simpa using hlast
    exact (hp s (List.mem_of_getLast? hs)).name_slash (List.mem_of_getLast? hc)
  rw [List.getLast?_cons_of_ne_nil hbody_ne, ← hbody.getLast? hbody_ne] at hlast
  rw [Text.trim, String.toList_ofList] at hlast
  exact Text.not_of_getLast?_trimBoth hlast

/-- A text is read as a path just in case the path is well-formed and written in it. -/
theorem parse_eq_ok {text : String} {p : Path} :
    Path.parse text = .ok p ↔ p.WellFormed ∧ p.WrittenAs text := by
  obtain ⟨body, hbody⟩ := exists_isBody (Text.trim text).toList
  rw [parse_of_isBody hbody, parse_body_eq_ok]
  constructor
  · rintro ⟨hsegments, hdisplay⟩
    exact ⟨⟨hsegments, fun s c hs hc => Path.last_of_trim hsegments hbody hdisplay hs hc⟩,
      (Path.writtenAs_iff hsegments hbody).2 hdisplay⟩
  · rintro ⟨hp, hwritten⟩
    exact ⟨hp.segments, (Path.writtenAs_iff hp.segments hbody).1 hwritten⟩

/-- The written form of a well-formed path has no blanks around it. -/
theorem Path.WellFormed.trim_display {p : Path} (h : p.WellFormed) :
    Text.trim p.display = p.display := by
  rw [Text.trim, ← String.toList_inj, String.toList_ofList]
  apply Text.trimBoth_eq_self
  · -- It begins with a slash.
    intro c hc
    obtain ⟨tail, htail, _⟩ := Path.display_head h.segments
    rw [htail] at hc
    cases hc
    decide
  · -- It ends with its last name, or with the slash if there is none.
    intro c hc
    cases hs : p.getLast? with
    | none =>
      rw [List.getLast?_eq_none_iff.1 hs] at hc
      cases hc
      decide
    | some s =>
      have hne : p ≠ [] := by
        rintro rfl
        simp at hs
      rw [Path.display_toList hne, Path.chars_getLast? h.segments hs] at hc
      exact h.last s c hs hc

/-! ## Reading and writing -/

/-- Exactly the written forms of well-formed paths are read, each as its path, and every other text
    is refused. In particular a path is read back from its written form just in case it is
    well-formed. -/
theorem parse_reads_written_paths (text : String) (p : Path) :
    (Path.parse text = .ok p ↔ p.WellFormed ∧
      (Text.trim text = p.display ∨ "/" ++ Text.trim text = p.display)) ∧
    (Path.parse p.display = .ok p ↔ p.WellFormed) ∧
    ((∃ fault, Path.parse text = .error fault) ↔ ¬∃ q : Path, q.WellFormed ∧
      (Text.trim text = q.display ∨ "/" ++ Text.trim text = q.display)) := by
  refine ⟨parse_eq_ok, ?_, ?_⟩
  · constructor
    · intro h
      exact (parse_eq_ok.1 h).1
    · intro h
      exact parse_eq_ok.2 ⟨h, .inl h.trim_display⟩
  · constructor
    · rintro ⟨fault, hfault⟩ ⟨q, hq⟩
      rw [parse_eq_ok.2 hq] at hfault
      cases hfault
    · intro hnone
      cases hparse : Path.parse text with
      | error fault => exact ⟨fault, rfl⟩
      | ok q => exact absurd ⟨q, parse_eq_ok.1 hparse⟩ hnone

end DocViews
