import DocViews.Sql.Literal

/-!
# Statements as tokens

A database reads a statement character by character. Two kinds of text stand in quotes, string
literals and quoted identifiers, and in both a mark that is written twice stands for one. Outside
of quotes blanks only separate. Nothing that stands in a literal can therefore be taken for a part
of the statement, and a text that is read to its end is read in the same way wherever something
that separates follows it.
-/

namespace DocViews.Sql

/-! ## Tokens -/

/-- The two kinds of text in quotes. -/
inductive Quoting where
  | literal
  | identifier
  deriving DecidableEq, Repr

/-- The mark at both ends of a text in quotes. -/
def Quoting.mark : Quoting → Char
  | literal => '\x27'
  | identifier => '\x22'

inductive Token where
  /-- A keyword, a plain name or a number. -/
  | word (text : String)
  | quoted (kind : Quoting) (text : String)
  | symbol (c : Char)
  deriving DecidableEq, Repr

/-- The characters of keywords, plain names and numbers. -/
def isWordChar (c : Char) : Bool := c.isAlphanum || c == '_'

/-- A character that is in no word and is no mark stands between tokens, or is one. -/
def isSeparator (c : Char) : Bool :=
  !isWordChar c && c != Quoting.literal.mark && c != Quoting.identifier.mark

theorem isSeparator_iff {c : Char} :
    isSeparator c ↔ isWordChar c = false ∧ ∀ kind : Quoting, c ≠ kind.mark := by
  constructor
  · intro h
    simp only [isSeparator, Bool.and_eq_true, Bool.not_eq_true', bne_iff_ne] at h
    refine ⟨h.1.1, fun kind => ?_⟩
    cases kind with
    | literal => exact h.1.2
    | identifier => exact h.2
  · rintro ⟨hword, hmark⟩
    simp [isSeparator, hword, hmark]

/-! ## Reading -/

/-- Where a reader is, with the text of the current token as far as it has been read. -/
inductive Place where
  | between
  | word (text : List Char)
  | inside (kind : Quoting) (text : List Char)
  /-- Behind a mark, which ends the text unless another one follows. -/
  | behind (kind : Quoting) (text : List Char)
  deriving DecidableEq, Repr

namespace Place

/-- Begins a new token, and yields the token that is complete with its first character. -/
def start (c : Char) : List Token × Place :=
  if c.isWhitespace then ([], between)
  else if c = Quoting.literal.mark then ([], inside .literal [])
  else if c = Quoting.identifier.mark then ([], inside .identifier [])
  else if isWordChar c then ([], word [c])
  else ([.symbol c], between)

/-- What is complete at the end of a text; a text in quotes must not be open. -/
def finish : Place → Option (List Token)
  | between => some []
  | word text => some [.word (String.ofList text)]
  | inside .. => none
  | behind kind text => some [.quoted kind (String.ofList text)]

/-- Reads one more character, and yields the tokens that are complete with it. -/
def step : Place → Char → List Token × Place
  | between, c => start c
  | word text, c =>
    if isWordChar c then ([], word (text ++ [c]))
    else (.word (String.ofList text) :: (start c).1, (start c).2)
  | inside kind text, c =>
    if c = kind.mark then ([], behind kind text) else ([], inside kind (text ++ [c]))
  | behind kind text, c =>
    if c = kind.mark then ([], inside kind (text ++ [c]))
    else (.quoted kind (String.ofList text) :: (start c).1, (start c).2)

/-- Reads characters one after another. -/
def scan (p : Place) : List Char → List Token × Place
  | [] => ([], p)
  | c :: cs => ((p.step c).1 ++ ((p.step c).2.scan cs).1, ((p.step c).2.scan cs).2)

end Place

/-- The tokens of a text, unless a text in quotes is left open. -/
def tokens (text : String) : Option (List Token) :=
  (Place.between.scan text.toList).2.finish.map ((Place.between.scan text.toList).1 ++ ·)

/-! ## Texts one after another -/

namespace Place

@[simp]
theorem scan_nil (p : Place) : p.scan [] = ([], p) := rfl

theorem scan_cons (p : Place) (c : Char) (cs : List Char) :
    p.scan (c :: cs) =
      ((p.step c).1 ++ ((p.step c).2.scan cs).1, ((p.step c).2.scan cs).2) := rfl

theorem scan_append (p : Place) (cs ds : List Char) :
    p.scan (cs ++ ds) =
      ((p.scan cs).1 ++ ((p.scan cs).2.scan ds).1, ((p.scan cs).2.scan ds).2) := by
  induction cs generalizing p with
  | nil => rfl
  | cons c cs ih => rw [List.cons_append, scan_cons, ih, scan_cons, List.append_assoc]

/-- A separator ends the token before it, as the end of the text would, and is not the beginning of
    one that goes on. -/
theorem step_separator {p : Place} {ts : List Token} {c : Char} (hp : p.finish = some ts)
    (hc : isSeparator c) : p.step c = (ts ++ (start c).1, between) := by
  obtain ⟨hword, hmark⟩ := isSeparator_iff.1 hc
  have hplace : (start c).2 = between := by
    simp only [start, if_neg (hmark .literal), if_neg (hmark .identifier), hword]
    split <;> rfl
  -- Inside of quotes the text would not be complete.
  cases p with
  | between =>
    cases hp
    simp [step, ← hplace]
  | word text =>
    cases hp
    simp [step, hword, hplace]
  | inside kind text => cases hp
  | behind kind text =>
    cases hp
    simp [step, hmark kind, hplace]

end Place

/-- What a reader has of a text: the tokens that are complete, and where it is at the end. -/
def scanText (text : String) : List Token × Place := Place.between.scan text.toList

/-- What follows a separator is read by itself if the text before it is complete. -/
theorem scanText_append_separator {a : String} {ts : List Token} {c : Char}
    (ha : tokens a = some ts) (hc : isSeparator c) (b : String) :
    scanText (a ++ String.singleton c ++ b) =
      (ts ++ (Place.start c).1 ++ (scanText b).1, (scanText b).2) := by
  obtain ⟨us, hus, rfl⟩ := Option.map_eq_some_iff.1 ha
  simp only [scanText, String.toList_append, String.toList_singleton, List.append_assoc,
    List.singleton_append, Place.scan_append, Place.scan_cons, Place.step_separator hus hc]

/-- A text that is complete before a separator is read by itself. -/
theorem tokens_append_separator {a : String} {ts : List Token} {c : Char} (ha : tokens a = some ts)
    (hc : isSeparator c) (b : String) :
    tokens (a ++ String.singleton c ++ b) =
      (tokens b).map (ts ++ (Place.start c).1 ++ ·) := by
  have hscan := scanText_append_separator ha hc b
  unfold scanText at hscan
  simp only [tokens, hscan, Option.map_map, Function.comp_def, List.append_assoc]

/-- A blank separates and is not a token. -/
theorem tokens_append_blank {a : String} {ts : List Token} (ha : tokens a = some ts) (b : String) :
    tokens (a ++ " " ++ b) = (tokens b).map (ts ++ ·) := by
  have hblank := tokens_append_separator (c := ' ') ha rfl b
  rwa [show (Place.start ' ').1 = [] from rfl, List.append_nil] at hblank

/-! ## Literals -/

/-- The escaped characters of a text are read as the text. -/
theorem scan_escapeChars (text cs : List Char) :
    (Place.inside .literal text).scan (escapeChars cs) = ([], .inside .literal (text ++ cs)) := by
  induction cs generalizing text with
  | nil => simp [escapeChars]
  | cons c cs ih =>
    by_cases hc : c = '\x27'
    · -- The first mark of a pair leads behind the text, and the second one back into it.
      subst hc
      simp [escapeChars, Place.scan_cons, Place.step, Quoting.mark, ih]
    · simp [escapeChars, Place.scan_cons, Place.step, Quoting.mark, hc, ih]

/-- A literal is one token, whatever its text. -/
theorem tokens_literal (s : String) : tokens (literal s) = some [.quoted .literal s] := by
  have hopen : Place.between.step '\x27' = ([], .inside .literal []) := rfl
  have hclose : (Place.inside .literal s.toList).step '\x27' = ([], .behind .literal s.toList) :=
    rfl
  have hscan : Place.between.scan (literal s).toList = ([], .behind .literal s.toList) := by
    simp [literal, escape, Place.scan_cons, Place.scan_append, hopen, hclose, scan_escapeChars]
  rw [tokens, hscan]
  simp [Place.finish]

end DocViews.Sql
