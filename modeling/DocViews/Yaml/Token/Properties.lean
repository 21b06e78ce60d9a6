import DocViews.Text.Digits
import DocViews.Yaml.Token

/-!
# Directives, anchors and tags

Each reader takes the cells from the indicator on and yields a lexeme with the cells behind it, or
nothing if the text is wrong.
-/

namespace DocViews.Yaml

open Text (digitValue? digitsValue?)

/-! ## Anchors and aliases -/

/-- What may follow the name of an anchor or alias without white space. -/
def endsAnchor (c : Char) : Bool :=
  isGap c || c == '?' || c == ':' || c == ',' || c == ']' || c == '\x7d' || c == '%' || c == '@'
    || c == '\x60'

/-- Reads the name behind the indicator of an anchor or alias. -/
def readAnchorName (cs : Cells) : Option (String × Cells) :=
  let body := cs.skip 1
  let name := body.takeChars isWordChar
  let rest := body.dropChars isWordChar
  if name.isEmpty || !endsAnchor rest.head then none else some (String.ofList name, rest)

/-! ## Tags -/

def isUriChar (c : Char) : Bool :=
  isWordChar c || c == ';' || c == '/' || c == '?' || c == ':' || c == '@' || c == '&' || c == '='
    || c == '+' || c == '$' || c == '.' || c == '%' || c == '!' || c == '~' || c == '*'
    || c == '\x27' || c == '(' || c == ')'

/-- The indicators of flow collections that a URI may hold where it has an end of its own. -/
def isFlowUriChar (c : Char) : Bool := c == ',' || c == '[' || c == ']'

/-- How many bytes a character takes whose encoding begins with `byte`. -/
def leadWidth? (byte : Nat) : Option Nat :=
  if byte < 0x80 then some 1
  else if 0xC0 ≤ byte ∧ byte < 0xE0 then some 2
  else if 0xE0 ≤ byte ∧ byte < 0xF0 then some 3
  else if 0xF0 ≤ byte ∧ byte < 0xF8 then some 4
  else none

/-- The bytes of URI characters. `pending` counts the bytes still missing from an escaped
    character; they must all be escaped. -/
def uriBytes (pending : Nat) : List Char → Option (List UInt8)
  | [] => if pending = 0 then some [] else none
  | '%' :: a :: b :: rest => do
    let byte := 16 * (← digitValue? 16 a) + (← digitValue? 16 b)
    if pending = 0 then
      let width ← leadWidth? byte
      return byte.toUInt8 :: (← uriBytes (width - 1) rest)
    else if 0x80 ≤ byte ∧ byte < 0xC0 then
      return byte.toUInt8 :: (← uriBytes (pending - 1) rest)
    else none
  | c :: rest =>
    if c = '%' ∨ pending ≠ 0 then none
    else do return (String.singleton c).toUTF8.toList ++ (← uriBytes 0 rest)

/-- What URI characters stand for once their escapes are resolved. A zero byte is where it ends. -/
def uriTag? (cs : List Char) : Option Tag :=
  (uriBytes 0 cs).map fun bytes => ⟨bytes.takeWhile (· != 0)⟩

/-- Reads a URI behind characters that were read before it; it must not be empty. -/
def readUri (flow : Bool) (before : List Char) (cs : Cells) : Option (Tag × Cells) := do
  let isPart := fun c => isUriChar c || (flow && isFlowUriChar c)
  let chars := cs.takeChars isPart
  if before.isEmpty && chars.isEmpty then none
  return (.ofText (String.ofList (before.drop 1)) ++ (← uriTag? chars), cs.dropChars isPart)

/-- Reads a tag handle: an exclamation mark, and a word with another one if there is such. -/
def readHandle (cs : Cells) : Option (List Char × Cells) :=
  if cs.head != '!' then none
  else
    let word := (cs.skip 1).takeChars isWordChar
    let rest := (cs.skip 1).dropChars isWordChar
    if rest.head == '!' then some ('!' :: word ++ ['!'], rest.skip 1)
    else some ('!' :: word, rest)

/-- Reads a tag: verbatim in angle brackets, with a handle, or local. -/
def readTag (inFlow : Bool) (cs : Cells) : Option (Lexeme × Cells) := do
  let (handle, suffix, rest) ←
    if cs.peek 1 == '<' then do
      let (suffix, rest) ← readUri true [] (cs.skip 2)
      if rest.head != '>' then none
      pure ("", suffix, rest.skip 1)
    else do
      let (handle, rest) ← readHandle cs
      if 2 ≤ handle.length && handle.getLast? == some '!' then
        let (suffix, rest) ← readUri false [] rest
        pure (String.ofList handle, suffix, rest)
      else
        let (suffix, rest) ← readUri false handle rest
        if suffix.bytes.isEmpty then pure ("", .bang, rest) else pure ("!", suffix, rest)
  if isGap rest.head || (inFlow && rest.head == ',') then return (.tag handle suffix, rest)
  else none

/-! ## Directives -/

/-- Reads a number of at most nine digits. -/
def readVersionNumber (cs : Cells) : Option (Nat × Cells) :=
  let digits := cs.takeChars Char.isDigit
  if 9 < digits.length then none
  else (digitsValue? 10 digits).map fun n => (n, cs.dropChars Char.isDigit)

/-- Leaves out white space and a comment up to the end of the line, and its break. -/
def endOfLine (cs : Cells) : Option Cells :=
  let rest := cs.dropChars isSpace
  let rest := if rest.head == '#' then rest.dropLine else rest
  if isBreak rest.head then some (rest.skip 1)
  else if rest.head == endChar then some rest
  else none

/-- Reads a directive: a version or a tag handle. Every other one is an error. -/
def readDirective (cs : Cells) : Option (Lexeme × Cells) := do
  let name := (cs.skip 1).takeChars isWordChar
  let rest := (cs.skip 1).dropChars isWordChar
  if !isGap rest.head then none
  let rest := rest.dropChars isSpace
  if name == "YAML".toList then
    let (major, rest) ← readVersionNumber rest
    if rest.head != '.' then none
    let (minor, rest) ← readVersionNumber (rest.skip 1)
    return (.versionDirective major minor, ← endOfLine rest)
  else if name == "TAG".toList then
    let (handle, rest) ← readHandle rest
    if handle.getLast? != some '!' || !isSpace rest.head then none
    let (start, rest) ← readUri true [] (rest.dropChars isSpace)
    if !isGap rest.head then none
    return (.tagDirective (String.ofList handle) start, ← endOfLine rest)
  else none

end DocViews.Yaml
