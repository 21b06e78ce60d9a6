import DocViews.Proofs.Sql.Tokens
import DocViews.Sql.Query
import Mathlib.Algebra.BigOperators.Group.List.Basic
import Mathlib.Algebra.Ring.Nat

/-!
# Declarations of namespaces

The clause of an XML table that declares namespaces has two kinds of quotes: a namespace is a
literal, and its prefix an identifier. Quotes in a namespace are written twice, and so it is read as
it was meant. A prefix is written as it is. Whether all declarations are read back is a matter of
counting: a mark of identifiers in a text is one of the two around an identifier, one of a pair
inside it, or stands in a literal, so there are too few of them as soon as a prefix contains one.
-/

namespace DocViews.Sql

/-! ## Reading -/

/-- Reads declarations between commas, up to the closing bracket. -/
def readDeclarations : List Token → Option (List (String × String) × List Token)
  | .quoted .literal uri :: .word "AS" :: .quoted .identifier p :: .symbol ',' :: ts =>
    (readDeclarations ts).map fun (ds, rest) => ((uri, p) :: ds, rest)
  | .quoted .literal uri :: .word "AS" :: .quoted .identifier p :: .symbol ')' :: ts =>
    some ([(uri, p)], ts)
  | _ => none

/-- Reads the clause with which an XML table may begin, and yields what it declares and what comes
    behind it. -/
def readClause : List Token → Option (List (String × String) × List Token)
  | .word "XMLNAMESPACES" :: .symbol '(' :: ts =>
    match readDeclarations ts with
    | some (ds, .symbol ',' :: rest) => some (ds, rest)
    | _ => none
  | ts => some ([], ts)

/-- In front of `rest`, the text `clause` is read as the declarations `ds`. What is left to be read
    is all of the rest and nothing else, as if it stood by itself. -/
def ReadsClause (clause rest : String) (ds : List (String × String)) : Prop :=
  readClause (scanText (clause ++ rest)).1 = some (ds, (scanText rest).1) ∧
    (scanText (clause ++ rest)).2 = (scanText rest).2

/-! ## Tokens -/

/-- The tokens of a namespace with its prefix. -/
def declarationTokens (d : String × String) : List Token :=
  [.quoted .literal d.1, .word "AS", .quoted .identifier d.2]

/-- The tokens of one or more declarations, with the closing bracket. -/
def listTokens (d : String × String) : List (String × String) → List Token
  | [] => declarationTokens d ++ [.symbol ')']
  | d' :: ds => declarationTokens d ++ .symbol ',' :: listTokens d' ds

/-- The tokens of the clause for one or more declarations. -/
def clauseTokens (d : String × String) (ds : List (String × String)) : List Token :=
  .word "XMLNAMESPACES" :: .symbol '(' :: listTokens d ds ++ [.symbol ',']

theorem readDeclarations_listTokens (d : String × String) (ds : List (String × String))
    (ts : List Token) : readDeclarations (listTokens d ds ++ ts) = some (d :: ds, ts) := by
  induction ds generalizing d with
  | nil => simp [listTokens, declarationTokens, readDeclarations]
  | cons d' ds ih => simp [listTokens, declarationTokens, readDeclarations, ih]

/-- Nothing else is read as declarations. -/
theorem eq_listTokens_of_readDeclarations {ts rest : List Token} {ds : List (String × String)}
    (h : readDeclarations ts = some (ds, rest)) :
    ∃ d ds', ds = d :: ds' ∧ ts = listTokens d ds' ++ rest := by
  fun_induction readDeclarations ts generalizing ds rest with
  | case1 uri p ts ih =>
    obtain ⟨⟨ds', rest'⟩, hread, heq⟩ := Option.map_eq_some_iff.1 h
    cases heq
    obtain ⟨d', ds'', rfl, rfl⟩ := ih hread
    exact ⟨(uri, p), d' :: ds'', rfl, by simp [listTokens, declarationTokens]⟩
  | case2 uri p ts =>
    cases h
    exact ⟨(uri, p), [], rfl, rfl⟩
  | case3 => cases h

theorem readClause_clauseTokens (d : String × String) (ds : List (String × String))
    (ts : List Token) : readClause (clauseTokens d ds ++ ts) = some (d :: ds, ts) := by
  simp [clauseTokens, readClause, readDeclarations_listTokens]

theorem eq_clauseTokens_of_readClause {ts rest : List Token} {d : String × String}
    {ds : List (String × String)} (h : readClause ts = some (d :: ds, rest)) :
    ts = clauseTokens d ds ++ rest := by
  unfold readClause at h
  split at h
  case h_1 ts =>
    split at h
    case h_1 hread =>
      cases h
      obtain ⟨_, _, heq, rfl⟩ := eq_listTokens_of_readDeclarations hread
      cases heq
      simp [clauseTokens]
    case h_2 => cases h
  case h_2 => cases h

/-! ## Prefixes without marks -/

theorem scan_identifier {text cs : List Char} (h : Quoting.identifier.mark ∉ cs) :
    (Place.inside .identifier text).scan cs = ([], .inside .identifier (text ++ cs)) := by
  induction cs generalizing text with
  | nil => simp
  | cons c cs ih =>
    obtain ⟨hc, hcs⟩ := not_or.1 (List.mem_cons.not.1 h)
    simp [Place.scan_cons, Place.step, Ne.symm hc, ih hcs]

/-- An identifier without marks is one token. -/
theorem tokens_identifier {s : String} (h : Quoting.identifier.mark ∉ s.toList) :
    tokens ("\"" ++ s ++ "\"") = some [.quoted .identifier s] := by
  have hopen : Place.between.step '\x22' = ([], .inside .identifier []) := rfl
  have hclose : (Place.inside .identifier s.toList).step '\x22' =
      ([], .behind .identifier s.toList) := rfl
  have hscan : Place.between.scan ("\"" ++ s ++ "\"").toList =
      ([], .behind .identifier s.toList) := by
    simp [Place.scan_cons, Place.scan_append, hopen, hclose, scan_identifier h]
  rw [tokens, hscan]
  simp [Place.finish]

theorem tokens_renderDeclaration {d : String × String} (h : Quoting.identifier.mark ∉ d.2.toList) :
    tokens (renderDeclaration d) = some (declarationTokens d) := by
  have hblanks : renderDeclaration d =
      literal d.1 ++ " " ++ ("AS" ++ " " ++ ("\"" ++ d.2 ++ "\"")) := by
    have has : " AS \"" = " " ++ "AS" ++ " " ++ "\"" := rfl
    simp only [renderDeclaration, has, String.append_assoc]
  have has : tokens "AS" = some [.word "AS"] := rfl
  rw [hblanks, tokens_append_blank (tokens_literal _), tokens_append_blank has,
    tokens_identifier h]
  rfl

theorem scanText_blank (text : String) : scanText (" " ++ text) = scanText text := by
  have hblank := scanText_append_separator (a := "") (c := ' ') rfl rfl text
  rwa [String.empty_append] at hblank

theorem commaSeparated_cons_cons (a b : String) (items : List String) :
    commaSeparated (a :: b :: items) =
      a ++ String.singleton ',' ++ (" " ++ commaSeparated (b :: items)) := by
  have hcomma : ", " = String.singleton ',' ++ " " := rfl
  unfold commaSeparated
  rw [String.intercalate_cons_cons]
  nth_rewrite 1 [hcomma]
  simp only [String.append_assoc]

/-- Declarations without marks in their prefixes are read as they are, whatever follows. -/
theorem scanText_listTokens {d : String × String} {ds : List (String × String)}
    (h : ∀ e ∈ d :: ds, Quoting.identifier.mark ∉ e.2.toList) (text : String) :
    scanText (commaSeparated ((d :: ds).map renderDeclaration) ++ ")" ++ text) =
      (listTokens d ds ++ (scanText text).1, (scanText text).2) := by
  induction ds generalizing d with
  | nil =>
    have hd := tokens_renderDeclaration (h d List.mem_cons_self)
    rw [List.map_singleton, commaSeparated, String.intercalate_singleton]
    exact scanText_append_separator (c := ')') hd rfl text
  | cons d' ds ih =>
    obtain ⟨hd, hds⟩ := List.forall_mem_cons.1 h
    have hfirst := scanText_append_separator (c := ',') (tokens_renderDeclaration hd) rfl
      (" " ++ (commaSeparated ((d' :: ds).map renderDeclaration) ++ ")" ++ text))
    rw [scanText_blank, ih hds] at hfirst
    have hcomma : commaSeparated ((d :: d' :: ds).map renderDeclaration) ++ ")" ++ text =
        renderDeclaration d ++ String.singleton ',' ++
          (" " ++ (commaSeparated ((d' :: ds).map renderDeclaration) ++ ")" ++ text)) := by
      rw [List.map_cons, List.map_cons, commaSeparated_cons_cons]
      simp only [String.append_assoc]
    rw [hcomma, hfirst, listTokens, List.append_assoc, List.append_assoc]
    rfl

/-! ## Counting marks -/

/-- How many marks of identifiers there are among characters. -/
def marks (cs : List Char) : Nat := cs.count Quoting.identifier.mark

/-- How many there are in the text of a token. -/
def Token.marks : Token → Nat
  | quoted .literal text => Sql.marks text.toList
  | quoted .identifier text => 2 * Sql.marks text.toList + 2
  | _ => 0

/-- How many there are in what has been read of the current token. -/
def Place.marks : Place → Nat
  | inside .literal text | behind .literal text => Sql.marks text
  | inside .identifier text => 2 * Sql.marks text + 1
  | behind .identifier text => 2 * Sql.marks text + 2
  | _ => 0

/-- The marks of tokens with those of the token that is being read. -/
def marksRead (r : List Token × Place) : Nat := (r.1.map Token.marks).sum + r.2.marks

theorem marks_append (cs ds : List Char) : marks (cs ++ ds) = marks cs + marks ds :=
  List.count_append

theorem marks_cons (c : Char) (cs : List Char) : marks (c :: cs) = marks [c] + marks cs :=
  marks_append [c] cs

theorem marks_singleton_of_ne {c : Char} (h : c ≠ Quoting.identifier.mark) : marks [c] = 0 :=
  List.count_eq_zero.2 (mt List.mem_singleton.1 h.symm)

theorem marksRead_start (c : Char) : marksRead (Place.start c) = marks [c] := by
  by_cases hc : c = Quoting.identifier.mark
  · rw [hc]
    rfl
  · -- No other character begins an identifier.
    rw [marks_singleton_of_ne hc, Place.start, if_neg hc]
    split_ifs <;> rfl

/-- The tokens that a character ends and begins. -/
theorem marksRead_cons_start (t : Token) (c : Char) :
    marksRead (t :: (Place.start c).1, (Place.start c).2) = t.marks + marks [c] := by
  rw [← marksRead_start, marksRead, List.map_cons, List.sum_cons, Nat.add_assoc]
  rfl

/-- When a character is read, no mark is lost or counted twice. -/
theorem marksRead_step (p : Place) (c : Char) : marksRead (p.step c) = p.marks + marks [c] := by
  have hmark : marks [Quoting.identifier.mark] = 1 := rfl
  cases p with
  | between => exact (marksRead_start c).trans (Nat.zero_add _).symm
  | word text =>
    rw [Place.step]
    split
    case isTrue hword =>
      have hc : c ≠ Quoting.identifier.mark := by
        rintro rfl
        cases hword
      rw [marks_singleton_of_ne hc]
      rfl
    case isFalse => exact marksRead_cons_start ..
  | inside kind text =>
    rw [Place.step]
    cases kind with
    | literal =>
      split
      case isTrue hc =>
        subst hc
        exact Nat.zero_add _
      case isFalse => simp [marksRead, Place.marks, marks_append]
    | identifier =>
      split
      case isTrue hc => simp [marksRead, Place.marks, hc, hmark]
      case isFalse hc => simp [marksRead, Place.marks, marks_append, marks_singleton_of_ne hc]
  | behind kind text =>
    rw [Place.step]
    cases kind with
    | literal =>
      split
      case isTrue => simp [marksRead, Place.marks, marks_append]
      case isFalse => simp [marksRead_cons_start, Token.marks, Place.marks]
    | identifier =>
      split
      case isTrue hc =>
        -- The second mark of a pair belongs to the identifier, as both of them do at its end.
        simp only [marksRead, Place.marks, marks_append, hc, hmark, List.map_nil, List.sum_nil]
        omega
      case isFalse => simp [marksRead_cons_start, Token.marks, Place.marks]

/-- However far a text is read, its marks are those of the tokens. -/
theorem marksRead_scan (p : Place) (cs : List Char) :
    marksRead (p.scan cs) = p.marks + marks cs := by
  induction cs generalizing p with
  | nil => simp [marksRead, marks]
  | cons c cs ih =>
    have hstep := marksRead_step p c
    have hrest := ih (p.step c).2
    rw [marks_cons]
    simp only [marksRead, Place.scan_cons, List.map_append, List.sum_append] at *
    omega

/-! ## Marks of a clause -/

theorem marks_escapeChars (cs : List Char) : marks (escapeChars cs) = marks cs := by
  induction cs with
  | nil => rfl
  | cons c cs ih =>
    rw [escapeChars]
    split
    case isTrue hc =>
      -- What is written twice is a mark of literals, which does not count here.
      have hother : c ≠ Quoting.identifier.mark := by
        rw [hc]
        decide
      rw [marks_cons c (c :: escapeChars cs), marks_cons c (escapeChars cs), marks_cons c cs, ih,
        marks_singleton_of_ne hother, Nat.zero_add]
    case isFalse => rw [marks_cons c (escapeChars cs), marks_cons c cs, ih]

/-- A declaration has two marks around its prefix and those of its texts. -/
theorem marks_renderDeclaration (d : String × String) :
    marks (renderDeclaration d).toList = marks d.1.toList + marks d.2.toList + 2 := by
  have hopen : marks " AS \"".toList = 1 := rfl
  have hclose : marks "\"".toList = 1 := rfl
  have hquote : marks "'".toList = 0 := rfl
  simp only [renderDeclaration, literal, escape, String.toList_append, String.toList_ofList,
    marks_append, marks_escapeChars, hopen, hclose, hquote]
  omega

theorem marks_commaSeparated (items : List String) :
    marks (commaSeparated items).toList = (items.map fun item => marks item.toList).sum := by
  induction items with
  | nil => rfl
  | cons a items ih =>
    cases items with
    | nil => simp [commaSeparated]
    | cons b items =>
      have hcomma : marks (String.singleton ',').toList = 0 := rfl
      have hblank : marks " ".toList = 0 := rfl
      rw [commaSeparated_cons_cons]
      simp only [String.toList_append, marks_append, ih, hcomma, hblank, List.map_cons,
        List.sum_cons]
      omega

theorem marks_namespaceClause (q : XmlProjection) :
    marks q.namespaceClause.toList =
      (q.declarations.map fun d => marks (renderDeclaration d).toList).sum := by
  have hopen : marks "XMLNAMESPACES(".toList = 0 := rfl
  have hclose : marks "), ".toList = 0 := rfl
  unfold XmlProjection.namespaceClause
  split
  case isTrue hempty =>
    rw [List.isEmpty_iff.1 hempty]
    rfl
  case isFalse =>
    rw [String.toList_append, String.toList_append, marks_append, marks_append, hopen, hclose,
      marks_commaSeparated, List.map_map, Function.comp_def, Nat.zero_add, Nat.add_zero]

/-- Its tokens stand for more marks than that, namely once more for each that is in a prefix. -/
theorem marks_clauseTokens (d : String × String) (ds : List (String × String)) :
    ((clauseTokens d ds).map Token.marks).sum =
      ((d :: ds).map fun e => marks (renderDeclaration e).toList).sum
        + ((d :: ds).map fun e => marks e.2.toList).sum := by
  have hdeclaration : ∀ e, ((declarationTokens e).map Token.marks).sum =
      marks (renderDeclaration e).toList + marks e.2.toList := by
    intro e
    rw [marks_renderDeclaration]
    simp only [declarationTokens, Token.marks, List.map_cons, List.map_nil, List.sum_cons,
      List.sum_nil]
    omega
  have hlist : ((listTokens d ds).map Token.marks).sum =
      ((d :: ds).map fun e => marks (renderDeclaration e).toList + marks e.2.toList).sum := by
    induction ds generalizing d with
    | nil => simp [listTokens, hdeclaration, Token.marks]
    | cons d' ds ih => simp [listTokens, hdeclaration, Token.marks, ih, Nat.add_assoc]
  rw [← List.sum_map_add, ← hlist]
  simp [clauseTokens, Token.marks]

/-! ## What is read back -/

/-- The text of a query up to where its XML table begins. -/
def XmlProjection.beforeClause (q : XmlProjection) : String :=
  "SELECT " ++ commaSeparated (q.direct ++ q.columns.map (·.name)) ++ " FROM " ++ q.table
    ++ ", XMLTABLE("

/-- The text behind the clause, which goes on to the end of the query. -/
def XmlProjection.afterClause (q : XmlProjection) : String :=
  literal q.root ++ " PASSING " ++ payloadColumn ++ " COLUMNS " ++ q.columnList ++ ")"

theorem XmlProjection.render_eq (q : XmlProjection) :
    q.render = q.beforeClause ++ (q.namespaceClause ++ q.afterClause) := by
  unfold XmlProjection.render XmlProjection.beforeClause XmlProjection.afterClause
  simp only [String.append_assoc]

/-- Behind the clause comes a literal, so there is no other clause. -/
theorem readClause_afterClause (q : XmlProjection) :
    readClause (scanText q.afterClause).1 = some ([], (scanText q.afterClause).1) := by
  have hblank : q.afterClause = literal q.root ++ String.singleton ' ' ++
      ("PASSING " ++ payloadColumn ++ " COLUMNS " ++ q.columnList ++ ")") := by
    have hpassing : " PASSING " = String.singleton ' ' ++ "PASSING " := rfl
    simp only [XmlProjection.afterClause, hpassing, String.append_assoc]
  rw [hblank, scanText_append_separator (tokens_literal _) rfl]
  rfl

theorem readsClause_of_scanText {clause rest : String} {d : String × String}
    {ds : List (String × String)}
    (h : scanText (clause ++ rest) = (clauseTokens d ds ++ (scanText rest).1, (scanText rest).2)) :
    ReadsClause clause rest (d :: ds) := by
  rw [ReadsClause, h]
  exact ⟨readClause_clauseTokens d ds _, rfl⟩

/-- A clause whose prefixes have no marks ends where it was written to end. -/
theorem scanText_namespaceClause {q : XmlProjection} {d : String × String}
    {ds : List (String × String)} (hds : q.declarations = d :: ds)
    (h : ∀ e ∈ q.declarations, Quoting.identifier.mark ∉ e.2.toList) (rest : String) :
    scanText (q.namespaceClause ++ rest) =
      (clauseTokens d ds ++ (scanText rest).1, (scanText rest).2) := by
  have hclause : q.namespaceClause ++ rest =
      "XMLNAMESPACES" ++ String.singleton '(' ++
        (commaSeparated ((d :: ds).map renderDeclaration) ++ ")" ++
          ("" ++ String.singleton ',' ++ (" " ++ rest))) := by
    have hopen : "XMLNAMESPACES(" = "XMLNAMESPACES" ++ String.singleton '(' := rfl
    have hclose : "), " = ")" ++ (String.singleton ',' ++ " ") := rfl
    rw [XmlProjection.namespaceClause, hds, hopen, hclose]
    simp only [List.isEmpty_cons, Bool.false_eq_true, if_false, String.append_assoc,
      String.empty_append]
  have hword : tokens "XMLNAMESPACES" = some [.word "XMLNAMESPACES"] := rfl
  have hempty : tokens "" = some [] := rfl
  rw [hds] at h
  rw [hclause, scanText_append_separator hword rfl, scanText_listTokens h,
    scanText_append_separator hempty rfl, scanText_blank]
  simp only [clauseTokens, List.cons_append, List.append_assoc, List.nil_append]
  rfl

/-- A clause whose prefixes have no marks is read as what it declares. -/
theorem readsClause_declarations {q : XmlProjection}
    (h : ∀ d ∈ q.declarations, Quoting.identifier.mark ∉ d.2.toList) :
    ReadsClause q.namespaceClause q.afterClause q.declarations := by
  cases hds : q.declarations with
  | nil =>
    have hnone : q.namespaceClause = "" := by
      rw [XmlProjection.namespaceClause, hds]
      rfl
    rw [ReadsClause, hnone, String.empty_append]
    exact ⟨readClause_afterClause q, rfl⟩
  | cons d ds =>
    exact readsClause_of_scanText (scanText_namespaceClause hds h q.afterClause)

/-- With a mark in a prefix it is not, whatever the order. -/
theorem not_mem_of_readsClause {q : XmlProjection} {ds : List (String × String)}
    (hperm : ds.Perm q.declarations) (h : ReadsClause q.namespaceClause q.afterClause ds) :
    ∀ d ∈ q.declarations, Quoting.identifier.mark ∉ d.2.toList := by
  cases ds with
  | nil =>
    rw [← hperm.nil_eq]
    exact fun d hd => absurd hd List.not_mem_nil
  | cons d ds =>
    obtain ⟨hread, hplace⟩ := h
    have htokens := eq_clauseTokens_of_readClause hread
    have hbetween : Place.between.marks = 0 := rfl
    -- The rest has the same marks by itself, so those of the clause are those of its tokens.
    have hclause : marks q.namespaceClause.toList = ((clauseTokens d ds).map Token.marks).sum := by
      have hall := marksRead_scan .between (q.namespaceClause ++ q.afterClause).toList
      have hrest := marksRead_scan .between q.afterClause.toList
      rw [← scanText, marksRead, htokens, hplace] at hall
      rw [← scanText, marksRead] at hrest
      simp only [List.map_append, List.sum_append, String.toList_append, marks_append,
        hbetween] at hall hrest
      omega
    rw [marks_namespaceClause, marks_clauseTokens, (hperm.map _).sum_eq, (hperm.map _).sum_eq,
      Nat.left_eq_add, List.sum_eq_zero_iff_forall_eq_nat] at hclause
    intro e he
    exact List.count_eq_zero.1 (hclause _ (List.mem_map.2 ⟨e, he, rfl⟩))

end DocViews.Sql
