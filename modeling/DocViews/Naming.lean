import DocViews.Naming.Words
import DocViews.Text.Blank

/-!
# Identifiers

A namer turns name segments into a database identifier, given a predicate that tells which
identifiers are taken. It may use the predicate to find a free one but is not trusted to: whoever
asks for a name checks it again.
-/

namespace DocViews

/-- Turns name segments into an identifier, knowing which identifiers are taken. -/
abbrev Namer := List String → (String → Bool) → String

/-! ## Plain identifiers within a length budget -/

/-- Names in capital letters, digits and underscores, of a limited length, with a number at the
    end while the name is taken. -/
structure PlainNamer where
  maxLength : Nat
  deriving DecidableEq, Repr

namespace PlainNamer

/-- The length budget if none is set. It leaves room for the endings of tables, views and
    indices. -/
def defaultMaxLength : Nat := 50

/-- How many numbers are tried before a taken name is given out. -/
def maxAttempts : Nat := 10000

/-- The characters of a plain identifier. -/
def isPlain (c : Char) : Bool := c.isUpper || c.isDigit || c == '_'

/-- The first `n` characters, less the underscores at their end. -/
def truncate (n : Nat) (cs : List Char) : List Char :=
  ((cs.take n).reverse.dropWhile (· == '_')).reverse

/-- The name with the number `k` at its end, cut so that both fit. -/
def numbered (n : PlainNamer) (base : List Char) (k : Nat) : List Char :=
  let ending := '_' :: (Nat.repr k).toList
  truncate (n.maxLength - ending.length) base ++ ending

section Spelling
variable (spell : String → String)

/-- A segment as a part of an identifier: as `spell` writes it, without any character that an
    identifier cannot have and without underscores at the ends. -/
def partBy (segment : String) : List Char :=
  Text.trimBoth (· == '_') ((spell segment).toList.filter isPlain)

/-- The parts of a name joined by underscores, made to start with a letter. -/
def joinedPartsBy (segments : List String) : List Char :=
  let joined := List.intercalate ['_'] ((segments.map (partBy spell)).filter (!·.isEmpty))
  match joined with
  | [] => ['X']
  | c :: _ => if c.isDigit then 'X' :: joined else joined

/-- The name of the segments as long as it is not taken. -/
def baseBy (n : PlainNamer) (segments : List String) : List Char :=
  truncate n.maxLength (joinedPartsBy spell segments)

/-- The first free one of the plain name and its numbered forms; the plain name if none is. -/
def resolveBy (n : PlainNamer) : Namer := fun segments taken =>
  let base := n.baseBy spell segments
  if taken (String.ofList base) then
    ((List.range' 1 maxAttempts).findSome? fun k =>
      let candidate := String.ofList (n.numbered base k)
      if taken candidate then none else some candidate).getD (String.ofList base)
  else String.ofList base

end Spelling

/-- Plain names have the words of their segments in capitals. -/
def resolve (n : PlainNamer) : Namer := n.resolveBy Naming.shoutySnake

end PlainNamer

instance : Inhabited PlainNamer := ⟨⟨PlainNamer.defaultMaxLength⟩⟩

end DocViews
