import DocViews.Yaml.Token.Properties

/-!
# Scalars

A scalar may go over several lines. In plain and quoted scalars lines are folded: a single line
break becomes a space, and of several breaks all but the first are kept. In block scalars lines are
found by their indentation, and an indicator tells what becomes of the line breaks at the end.
-/

namespace DocViews.Yaml

/-! ## Folding -/

/-- What stands between two words of a scalar, backwards. -/
inductive Gap where
  /-- White space within a line. -/
  | blanks (chars : List Char)
  /-- Line breaks: the first one, unless it is escaped, and those after it. -/
  | breaks (first : Option Char) (more : List Char)
  deriving DecidableEq, Repr

namespace Gap

def none : Gap := .blanks []

def isNone : Gap → Bool
  | .blanks [] => true
  | _ => false

def hasBreaks : Gap → Bool
  | .blanks _ => false
  | .breaks .. => true

/-- The gap with one more character; white space around line breaks does not count. -/
def push (g : Gap) (c : Char) : Gap :=
  match g with
  | .blanks chars => if isBreak c then .breaks (some c) [] else .blanks (c :: chars)
  | .breaks first more => if isBreak c then .breaks first (c :: more) else g

/-- What a gap becomes in the scalar, backwards. -/
def folded : Gap → List Char
  | .blanks chars => chars
  | .breaks (some '\n') [] => [' ']
  | .breaks (some '\n') more => more
  | .breaks (some c) more => more ++ [c]
  | .breaks .none more => more

end Gap

/-! ## Plain scalars -/

def isFlowIndicator (c : Char) : Bool :=
  c == ',' || c == '[' || c == ']' || c == '\x7b' || c == '\x7d'

/-- Reads a plain scalar whose further lines have at least the given indentation. `text` is what
    was read so far, backwards, and `gap` what stands behind it. The gap that is left at the end
    tells whether the scalar ended with its line. -/
def readPlain (inFlow : Bool) (indent : Nat) (text : List Char) (gap : Gap) :
    Cells → Option (List Char × Gap × Cells)
  | [] => some (text, gap, [])
  | c :: rest =>
    let cs : Cells := c :: rest
    let next := Cells.head rest
    if c.char == endChar then some (text, gap, cs)
    else if isGap c.char then
      if gap.hasBreaks && c.char == '\t' && c.mark.column < indent then .none
      else readPlain inFlow indent text (gap.push c.char) rest
    else if !gap.isNone && !inFlow && c.mark.column < indent then some (text, gap, cs)
    else if cs.isDocumentIndicator || (c.char == '#' && (!gap.isNone || text.isEmpty)) then
      some (text, gap, cs)
    else if inFlow && c.char == ':' && (isFlowIndicator next || next == '?') then .none
    else if (c.char == ':' && isGap next) || (inFlow && isFlowIndicator c.char) then
      some (text, gap, cs)
    else readPlain inFlow indent (c.char :: (gap.folded ++ text)) .none rest

/-! ## Quoted scalars -/

/-- Reads a scalar in single quotes, from behind the first quote. A quote is written twice. -/
def readSingleQuoted (text : List Char) (gap : Gap) : Cells → Option (List Char × Cells)
  | [] => .none
  | c :: rest =>
    if c.char == endChar || Cells.isDocumentIndicator (c :: rest) then .none
    else if isGap c.char then readSingleQuoted text (gap.push c.char) rest
    else if c.char == '\x27' then
      match rest with
      | d :: rest' =>
        if d.char == '\x27' then
          readSingleQuoted ('\x27' :: (gap.folded ++ text)) .none rest'
        else some (gap.folded ++ text, rest)
      | [] => some (gap.folded ++ text, rest)
    else readSingleQuoted (c.char :: (gap.folded ++ text)) .none rest

/-- The character that an escape stands for by itself. -/
def simpleEscape? : Char → Option Char
  | '0' => some '\x00'
  | 'a' => some '\x07'
  | 'b' => some '\x08'
  | 't' | '\t' => some '\t'
  | 'n' => some '\n'
  | 'v' => some '\x0b'
  | 'f' => some '\x0c'
  | 'r' => some '\r'
  | 'e' => some '\x1b'
  | ' ' => some ' '
  | '\x22' => some '\x22'
  | '/' => some '/'
  | '\\' => some '\\'
  | 'N' => some '\u0085'
  | '_' => some '\u00a0'
  | 'L' => some '\u2028'
  | 'P' => some '\u2029'
  | _ => .none

/-- How many hexadecimal digits an escape takes. -/
def escapeDigits? : Char → Option Nat
  | 'x' => some 2
  | 'u' => some 4
  | 'U' => some 8
  | _ => .none

/-- The character with a hexadecimal code point, if there is one. -/
def charOfHex? (digits : List Char) : Option Char := do
  let n ← Text.digitsValue? 16 digits
  if n < 0xD800 ∨ (0xDFFF < n ∧ n ≤ 0x10FFFF) then return Char.ofNat n else .none

/-- Reads a scalar in double quotes, from behind the first quote. An escaped line break joins two
    lines. -/
def readDoubleQuoted (text : List Char) (gap : Gap) (cs : Cells) : Option (List Char × Cells) :=
  match cs with
  | [] => .none
  | c :: rest =>
    if c.char == endChar || Cells.isDocumentIndicator (c :: rest) then .none
    else if isGap c.char then readDoubleQuoted text (gap.push c.char) rest
    else if c.char == '\x22' then some (gap.folded ++ text, rest)
    else if c.char == '\\' then
      match rest with
      | [] => .none
      | d :: rest' =>
        if isBreak d.char then readDoubleQuoted (gap.folded ++ text) (.breaks .none []) rest'
        else
          match simpleEscape? d.char, escapeDigits? d.char with
          | some e, _ => readDoubleQuoted (e :: (gap.folded ++ text)) .none rest'
          | .none, some n =>
            match charOfHex? ((rest'.take n).map Cell.char) with
            | some e => readDoubleQuoted (e :: (gap.folded ++ text)) .none (rest'.drop n)
            | .none => .none
          | .none, .none => .none
    else readDoubleQuoted (c.char :: (gap.folded ++ text)) .none rest
termination_by cs.length

/-! ## Block scalars -/

/-- What becomes of the line breaks at the end of a block scalar. -/
inductive Chomping where
  | strip
  | clip
  | keep
  deriving DecidableEq, Repr

def readChomping (cs : Cells) : Chomping × Cells :=
  if cs.head == '+' then (.keep, cs.skip 1)
  else if cs.head == '-' then (.strip, cs.skip 1)
  else (.clip, cs)

/-- Reads an indentation indicator, a digit from 1 on; 0 stands for none. -/
def readIncrement (cs : Cells) : Option (Nat × Cells) :=
  if cs.head == '0' then .none
  else if cs.head.isDigit then some (cs.head.toNat - 48, cs.skip 1)
  else some (0, cs)

/-- Reads both indicators, in either order. -/
def readBlockHeader (cs : Cells) : Option (Chomping × Nat × Cells) := do
  let (chomping, rest) := readChomping cs
  let (increment, rest) ← readIncrement rest
  if chomping == .clip then
    let (chomping, rest) := if increment == 0 then (.clip, rest) else readChomping rest
    return (chomping, increment, rest)
  else return (chomping, increment, rest)

/-- Reads blank lines, and the indentation of the line behind them. While the indentation of the
    scalar is not known, `indent` is 0, and `widest` is the widest so far. Yields the breaks,
    backwards. -/
def readBlankLines (indent widest : Nat) (breaks : List Char) :
    Cells → Option (Nat × List Char × Cells)
  | [] => some (widest, breaks, [])
  | c :: rest =>
    let open_ := indent == 0 || c.mark.column < indent
    let widest := max widest c.mark.column
    if open_ && c.char == ' ' then readBlankLines indent widest breaks rest
    else if open_ && c.char == '\t' then .none
    else if isBreak c.char then readBlankLines indent widest (c.char :: breaks) rest
    else some (widest, breaks, c :: rest)

/-- Reads the lines of a block scalar. `text` and the breaks are backwards: `last` is the break
    behind the last line, `blank` those of the blank lines behind it, and `indented` tells whether
    that line began with white space. In folded scalars a single break between two lines that do
    not begin with white space becomes a space. -/
def readBlockLines (folded : Bool) (indent : Nat) (fuel : Nat) (text last blank : List Char)
    (indented : Bool) (cs : Cells) : Option (List Char × List Char × List Char × Cells) :=
  match fuel with
  | 0 => .none
  | fuel + 1 =>
    if cs.mark.column == indent && cs.head != endChar then do
      let indents := isSpace cs.head
      let joined :=
        if folded && last == ['\n'] && !indented && !indents then
          (if blank.isEmpty then [' '] else []) ++ text
        else last ++ text
      let line := cs.takeChars fun c => !isBreakOrEnd c
      let rest := cs.dropLine
      let (last, rest) : List Char × Cells :=
        if isBreak rest.head then ([rest.head], rest.skip 1) else ([], rest)
      let (_, blank', rest) ← readBlankLines indent 0 [] rest
      readBlockLines folded indent fuel (line.reverse ++ (blank ++ joined)) last blank' indents rest
    else some (text, last, blank, cs)

/-- Reads a block scalar from behind its indicator. `parent` is the indentation of the collection
    that it stands in, or -1. -/
def readBlockScalar (folded : Bool) (parent : Int) (cs : Cells) : Option (List Char × Cells) := do
  let (chomping, increment, rest) ← readBlockHeader cs
  let rest ← endOfLine rest
  let given := if increment == 0 then 0 else (max parent 0).toNat + increment
  let (widest, blank, rest) ← readBlankLines given 0 [] rest
  let indent := if given == 0 then max widest (max (parent + 1).toNat 1) else given
  let (text, last, blank, rest) ←
    readBlockLines folded indent (rest.length + 1) [] [] blank false rest
  let text := if chomping == .strip then text else last ++ text
  return (if chomping == .keep then blank ++ text else text, rest)

end DocViews.Yaml
