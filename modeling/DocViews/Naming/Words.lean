import DocViews.Text.Alphanumeric
import DocViews.Text.Case

/-!
# Words of a name

Names are written in many ways: `taxReturn`, `income-line`, `XMLDocument`. Their words are what
stands between characters that are neither letters nor digits; a run of letters and digits is cut
further where an upper-case letter follows a lower-case one, and before the last of several
upper-case letters if a lower-case one follows. Other characters in between do not matter: `a1B`
is cut before the `B`.
-/

namespace DocViews.Naming

/-- The case of the last letter with a case in the current word. -/
inductive LetterCase where
  | none
  | lower
  | upper
  deriving DecidableEq, Repr

/-- The case after one more character. -/
def LetterCase.after (m : LetterCase) (c : Char) : LetterCase :=
  if Text.isLowercase c then .lower
  else if Text.isUppercase c then .upper
  else m

/-- Cuts a run of letters and digits into words; `word` is the current word, backwards. -/
def cutRun (m : LetterCase) (word : List Char) : List Char → List (List Char)
  | [] => if word.isEmpty then [] else [word.reverse]
  | [c] => [(c :: word).reverse]
  | c :: d :: rest =>
    if m.after c = .lower ∧ Text.isUppercase d then
      (c :: word).reverse :: cutRun .none [] (d :: rest)
    else if m = .upper ∧ Text.isUppercase c ∧ Text.isLowercase d then
      word.reverse :: cutRun .none [c] (d :: rest)
    else cutRun (m.after c) (c :: word) (d :: rest)

/-- The maximal runs of letters and digits. -/
def runs (cs : List Char) : List (List Char) :=
  (cs.splitBy fun a b => Text.isAlphanumeric a == Text.isAlphanumeric b).filter
    fun run => run.head?.any Text.isAlphanumeric

/-- The words of a text. -/
def words (cs : List Char) : List (List Char) := (runs cs).flatMap (cutRun .none [])

/-- The words of a text in upper case, joined by underscores. -/
def shoutySnake (s : String) : String :=
  String.intercalate "_" ((words s.toList).map fun w => String.ofList (Text.upperChars w))

end DocViews.Naming
