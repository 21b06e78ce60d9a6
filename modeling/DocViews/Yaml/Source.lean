/-!
# Source text

A YAML text is read as a list of cells, each a character with its place in the text. Line breaks
of every kind that YAML folds together are one cell with a line feed, so no later step tells them
apart; only the two separators of Unicode stay as they are. The list ends with a cell for the end
of the text, whose character cannot occur in it.
-/

namespace DocViews.Yaml

/-- A place in a text, counted from zero: bytes before it, lines before it and characters before it
    in its line. -/
structure Mark where
  index : Nat := 0
  line : Nat := 0
  column : Nat := 0
  deriving DecidableEq, Repr, Inhabited

structure Cell where
  char : Char
  mark : Mark
  deriving Repr, Inhabited

/-- Cells up to the end of a text. -/
abbrev Cells := List Cell

/-- Marks the end of the text. -/
def endChar : Char := '\x00'

/-! ## Character classes -/

/-- The characters that may stand in a text. -/
def isAllowed (c : Char) : Bool :=
  let n := c.toNat
  n == 9 || n == 10 || n == 13 || (32 ≤ n && n ≤ 126) || n == 0x85 || (0xA0 ≤ n && n ≤ 0xFFFD)
    || 0x10000 ≤ n

/-- Line breaks as they appear in cells. -/
def isBreak (c : Char) : Bool := c == '\n' || c == '\u2028' || c == '\u2029'

def isSpace (c : Char) : Bool := c == ' ' || c == '\t'

def isBreakOrEnd (c : Char) : Bool := isBreak c || c == endChar

/-- White space, or the end of the text. -/
def isGap (c : Char) : Bool := isSpace c || isBreakOrEnd c

/-- The characters of names of directives, anchors and tag handles. -/
def isWordChar (c : Char) : Bool := c.isAlphanum || c == '_' || c == '-'

/-! ## Cells of a text -/

/-- The place behind a character of `width` bytes. -/
def Mark.next (m : Mark) (width : Nat) : Mark :=
  { m with index := m.index + width, column := m.column + 1 }

/-- The place behind a line break of `width` bytes. -/
def Mark.nextLine (m : Mark) (width : Nat) : Mark := ⟨m.index + width, m.line + 1, 0⟩

def cellsFrom (m : Mark) : List Char → Cells
  | [] => [⟨endChar, m⟩]
  | '\r' :: '\n' :: rest => ⟨'\n', m⟩ :: cellsFrom (m.nextLine 2) rest
  | c :: rest =>
    if c == '\n' || c == '\r' || c == '\u0085' then
      ⟨'\n', m⟩ :: cellsFrom (m.nextLine c.utf8Size) rest
    else if isBreak c then ⟨c, m⟩ :: cellsFrom (m.nextLine c.utf8Size) rest
    else ⟨c, m⟩ :: cellsFrom (m.next c.utf8Size) rest

/-- The cells of a text, unless it holds a character that is not allowed. -/
def cells? (text : String) : Option Cells :=
  let chars := text.toList
  if chars.all isAllowed then some (cellsFrom {} chars) else none

/-! ## Looking ahead -/

namespace Cells

/-- The character `n` cells ahead. -/
def peek (cs : Cells) (n : Nat) : Char := (cs[n]?.map Cell.char).getD endChar

def head (cs : Cells) : Char := cs.peek 0

/-- The cells behind the first `n`. -/
def skip (cs : Cells) (n : Nat) : Cells := cs.drop n

/-- The place of the first cell. -/
def mark (cs : Cells) : Mark := (cs.head?.map Cell.mark).getD {}

/-- The characters for which `p` holds, up to the first for which it does not. -/
def takeChars (p : Char → Bool) (cs : Cells) : List Char :=
  (cs.takeWhile fun c => p c.char).map Cell.char

def dropChars (p : Char → Bool) (cs : Cells) : Cells := cs.dropWhile fun c => p c.char

/-- Leaves out the rest of a line, up to its break. -/
def dropLine (cs : Cells) : Cells := cs.dropChars fun c => !isBreakOrEnd c

/-- Whether three characters in a row are the same, at the start of a line and by themselves. -/
def isDocumentIndicator (cs : Cells) : Bool :=
  cs.mark.column == 0 && isGap (cs.peek 3)
    && ((cs.peek 0 == '-' && cs.peek 1 == '-' && cs.peek 2 == '-')
      || (cs.peek 0 == '.' && cs.peek 1 == '.' && cs.peek 2 == '.'))

end Cells

end DocViews.Yaml
