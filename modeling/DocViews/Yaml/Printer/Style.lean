import DocViews.Yaml.Plain
import DocViews.Yaml.Token

/-!
# Styles of written scalars

A text is written plainly if it is read as the same text again, and otherwise in the simplest style
that can hold it: in single quotes, as a literal block if it has several lines, or in double quotes
with escapes.
-/

namespace DocViews.Yaml

/-! ## Character classes -/

/-- Characters that need no escape. -/
def isWritable (c : Char) : Bool :=
  let n := c.toNat
  n == 10 || (32 ≤ n && n ≤ 126) || (0xA0 ≤ n && n != 0xFEFF && n != 0xFFFE && n != 0xFFFF)

/-- Line breaks of every kind. -/
def isAnyBreak (c : Char) : Bool := c == '\r' || c == '\u0085' || isBreak c

/-- White space of every kind, and the end of a text. -/
def isAnyGap (c : Char) : Bool := isSpace c || c == endChar || isAnyBreak c

/-! ## What stands in the way of a style -/

/-- Whether a pair of neighbours in a text satisfies a predicate. -/
def anyNeighbours (p : Char → Char → Bool) (cs : List Char) : Bool :=
  (cs.zip (cs.drop 1)).any fun (a, b) => p a b

/-- Whether a plain scalar cannot begin in this way. -/
def beginsWithIndicator (cs : List Char) : Bool :=
  match cs with
  | [] => false
  | c :: rest =>
    "#,[]\x7b\x7d&*!|>'\x22%@\x60".toList.contains c
      || ((c == '?' || c == ':' || c == '-') && isAnyGap (rest.head?.getD endChar))
      || cs.take 3 == ['-', '-', '-'] || cs.take 3 == ['.', '.', '.']

/-- Whether a colon before a gap would end a plain scalar, or a number sign behind one. -/
def hasInnerIndicator (cs : List Char) : Bool :=
  cs.getLast? == some ':' || anyNeighbours (fun a b => a == ':' && isAnyGap b) cs
    || anyNeighbours (fun a b => isAnyGap a && b == '#') cs

/-- Whether a space stands before a line break, where no style without escapes can keep it. -/
def hasSpaceBeforeBreak (cs : List Char) : Bool :=
  anyNeighbours (fun a b => a == ' ' && isAnyBreak b) cs

def hasSpaceAfterBreak (cs : List Char) : Bool :=
  anyNeighbours (fun a b => isAnyBreak a && b == ' ') cs

/-- Whether a text has several lines. -/
def isMultiline (cs : List Char) : Bool := cs.any isAnyBreak

def allowsPlain (cs : List Char) : Bool :=
  !beginsWithIndicator cs && !hasInnerIndicator cs && !isMultiline cs && cs.all isWritable
    && cs.head? != some ' ' && cs.getLast? != some ' '

def allowsSingleQuotes (cs : List Char) : Bool :=
  !hasSpaceBeforeBreak cs && !hasSpaceAfterBreak cs && cs.all isWritable

def allowsLiteral (cs : List Char) : Bool :=
  !hasSpaceBeforeBreak cs && cs.getLast? != some ' ' && cs.all isWritable

/-! ## The choice -/

/-- Whether a plain scalar with this text is read as the text. -/
def isPlainText (s : String) : Bool :=
  match Plain.ofText s with
  | .text => !isIdleNumber s
  | _ => false

/-- The style in which a text is written. -/
def styleOf (s : String) : ScalarStyle :=
  let cs := s.toList
  if cs.contains '\n' then
    if allowsLiteral cs then .literal else .doubleQuoted
  else if isPlainText s && allowsPlain cs then .plain
  else if allowsSingleQuotes cs then .singleQuoted
  else .doubleQuoted

end DocViews.Yaml
