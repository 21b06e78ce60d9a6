import DocViews.Yaml.Token.Scalars

/-!
# The tokens of a text

Indentation opens and closes block collections. A key without an indicator is recognised only when
the colon behind it is found, so every place where such a key may have begun is remembered together
with the number of tokens before it; the token for the key, and if need be that for the beginning
of its mapping, are put in there afterwards. Such a key must fit on one line and into 1024 bytes.
-/

namespace DocViews.Yaml

/-- Where a key may have begun. It is required if nothing but a key can stand there. -/
structure SimpleKey where
  required : Bool
  /-- How many tokens come before it. -/
  position : Nat
  mark : Mark
  deriving Repr

/-- What is known between two tokens. -/
structure TokenState where
  tokens : Array Token := #[]
  /-- The column of the innermost block collection, or -1 outside of all. -/
  indent : Int := -1
  /-- The columns of the collections around it, from the inside out. -/
  outer : List Int := []
  /-- Whether a key may begin here. -/
  keyAllowed : Bool := true
  /-- The possible key of the innermost flow collection, or of the text outside of all. -/
  key : Option SimpleKey := none
  /-- The possible keys around each flow collection, from the inside out. -/
  outerKeys : List (Option SimpleKey) := []

namespace TokenState

def inFlow (s : TokenState) : Bool := !s.outerKeys.isEmpty

def push (s : TokenState) (lexeme : Lexeme) (start stop : Mark) : TokenState :=
  { s with tokens := s.tokens.push ⟨lexeme, start, stop⟩ }

/-- Adds a token of the first `n` cells. -/
def pushIndicator (s : TokenState) (lexeme : Lexeme) (n : Nat) (cs : Cells) : TokenState :=
  s.push lexeme cs.mark (cs.skip n).mark

/-- Puts a token in behind the first `n`. -/
def insert (s : TokenState) (n : Nat) (lexeme : Lexeme) (mark : Mark) : TokenState :=
  { s with tokens :=
      (s.tokens.extract 0 n).push ⟨lexeme, mark, mark⟩ ++ s.tokens.extract n s.tokens.size }

/-! ## Keys -/

/-- Whether a key that began at `k` can no longer end at `m`. -/
def isStale (m : Mark) (k : SimpleKey) : Bool :=
  k.mark.line < m.line || k.mark.index + 1024 < m.index

/-- Forgets a key that has grown too long; a required key must not. -/
def dropStale (m : Mark) (k : Option SimpleKey) : Option (Option SimpleKey) :=
  match k with
  | some key => if isStale m key then (if key.required then none else some none) else some k
  | none => some none

/-- Forgets all keys that have grown too long. -/
def dropStaleKeys (s : TokenState) (m : Mark) : Option TokenState := do
  return { s with key := ← dropStale m s.key, outerKeys := ← s.outerKeys.mapM (dropStale m) }

/-- Forgets the possible key; a required key must not be forgotten. -/
def dropKey (s : TokenState) : Option TokenState :=
  if s.key.any (·.required) then none else some { s with key := none }

/-- Remembers that a key may begin here. -/
def saveKey (s : TokenState) (m : Mark) : Option TokenState :=
  if s.keyAllowed then do
    let s ← s.dropKey
    let required := !s.inFlow && s.indent == m.column
    return { s with key := some ⟨required, s.tokens.size, m⟩ }
  else some s

/-! ## Indentation -/

/-- Begins a block collection at a column unless one has begun there. Its token goes behind the
    first `position` tokens. -/
def rollIndent (s : TokenState) (column : Nat) (position : Nat) (lexeme : Lexeme) (m : Mark) :
    TokenState :=
  if !s.inFlow && s.indent < column then
    { s with indent := column, outer := s.indent :: s.outer }.insert position lexeme m
  else s

/-- Ends the block collections that begin to the right of a column; `outer` are those around the
    innermost one. -/
def unrollFrom (tokens : Array Token) (indent column : Int) (m : Mark) :
    List Int → Array Token × Int × List Int
  | [] => (tokens, indent, [])
  | i :: outer =>
    if column < indent then unrollFrom (tokens.push ⟨.blockEnd, m, m⟩) i column m outer
    else (tokens, indent, i :: outer)

def unrollIndent (s : TokenState) (column : Int) (m : Mark) : TokenState :=
  if s.inFlow then s
  else
    let (tokens, indent, outer) := unrollFrom s.tokens s.indent column m s.outer
    { s with tokens, indent, outer }

end TokenState

/-! ## One token -/

/-- Leaves out white space, comments, line breaks and byte order marks at the start of a line. In
    block collections a key may begin on a new line, and a tab must not stand where one may begin.
    Yields whether a key may begin. -/
def skipToToken (inFlow keyAllowed comment : Bool) : Cells → Bool × Cells
  | [] => (keyAllowed, [])
  | c :: rest =>
    if isBreak c.char then skipToToken inFlow (keyAllowed || !inFlow) false rest
    else if c.char == endChar then (keyAllowed, c :: rest)
    else if comment || c.char == '#' then skipToToken inFlow keyAllowed true rest
    else if c.char == ' ' || (c.char == '\t' && (inFlow || !keyAllowed))
        || (c.char == '\uFEFF' && c.mark.column == 0) then
      skipToToken inFlow keyAllowed false rest
    else (keyAllowed, c :: rest)

/-- Whether a plain scalar may begin here. -/
def beginsPlain (inFlow : Bool) (cs : Cells) : Bool :=
  let c := cs.head
  let next := cs.peek 1
  if c == '-' then !isSpace next
  else if c == '?' || c == ':' then !inFlow && !isGap next
  else !(isGap c || isFlowIndicator c || c == '#' || c == '&' || c == '*' || c == '!' || c == '|'
    || c == '>' || c == '\x27' || c == '\x22' || c == '%' || c == '@' || c == '\x60')

namespace TokenState

/-- Ends all block collections before a directive or a document indicator. -/
def atDocumentLevel (s : TokenState) (m : Mark) : Option TokenState := do
  let s ← (s.unrollIndent (-1) m).dropKey
  return { s with keyAllowed := false }

/-- A token that is neither key nor value nor the end of the text. -/
def readProperty (s : TokenState) (cs : Cells) (read : Cells → Option (Lexeme × Cells)) :
    Option (TokenState × Cells) := do
  let s ← s.saveKey cs.mark
  let (lexeme, rest) ← read cs
  return ({ s with keyAllowed := false }.push lexeme cs.mark rest.mark, rest)

def readFlowStart (s : TokenState) (cs : Cells) (lexeme : Lexeme) :
    Option (TokenState × Cells) := do
  let s ← s.saveKey cs.mark
  let s := { s with keyAllowed := true, key := none, outerKeys := s.key :: s.outerKeys }
  return (s.pushIndicator lexeme 1 cs, cs.skip 1)

def readFlowEnd (s : TokenState) (cs : Cells) (lexeme : Lexeme) : Option (TokenState × Cells) := do
  let s ← s.dropKey
  let s := match s.outerKeys with
    | [] => s
    | key :: outerKeys => { s with key, outerKeys }
  return ({ s with keyAllowed := false }.pushIndicator lexeme 1 cs, cs.skip 1)

/-- An entry of a block sequence, or a key with an indicator: both may begin a collection. -/
def readEntry (s : TokenState) (cs : Cells) (start lexeme : Lexeme) (keyAllowed : Bool) :
    Option (TokenState × Cells) := do
  if !s.inFlow && !s.keyAllowed then none
  let s ← (s.rollIndent cs.mark.column s.tokens.size start cs.mark).dropKey
  return ({ s with keyAllowed }.pushIndicator lexeme 1 cs, cs.skip 1)

/-- A value, behind a key with or without an indicator. -/
def readValue (s : TokenState) (cs : Cells) : Option (TokenState × Cells) :=
  match s.key with
  | some key =>
    let s := s.insert key.position .key key.mark
    let s := s.rollIndent key.mark.column key.position .blockMappingStart key.mark
    some ({ s with key := none, keyAllowed := false }.pushIndicator .value 1 cs, cs.skip 1)
  | none =>
    if !s.inFlow && !s.keyAllowed then none
    else
      let s := s.rollIndent cs.mark.column s.tokens.size .blockMappingStart cs.mark
      some ({ s with keyAllowed := !s.inFlow }.pushIndicator .value 1 cs, cs.skip 1)

def readBlock (s : TokenState) (cs : Cells) (folded : Bool) : Option (TokenState × Cells) := do
  let s ← s.dropKey
  let (text, rest) ← readBlockScalar folded s.indent (cs.skip 1)
  return ({ s with keyAllowed := true }.push
    (.scalar (String.ofList text.reverse) (if folded then .folded else .literal)) cs.mark rest.mark,
    rest)

def readPlainScalar (s : TokenState) (cs : Cells) : Option (TokenState × Cells) := do
  let s ← s.saveKey cs.mark
  let (text, gap, rest) ← readPlain s.inFlow (s.indent + 1).toNat [] .none cs
  return ({ s with keyAllowed := gap.hasBreaks }.push
    (.scalar (String.ofList text.reverse) .plain) cs.mark rest.mark, rest)

/-- Reads one token. -/
def readToken (s : TokenState) (cs : Cells) : Option (TokenState × Cells) :=
  let c := cs.head
  if cs.mark.column == 0 && c == '%' then do
    let s ← s.atDocumentLevel cs.mark
    let (lexeme, rest) ← readDirective cs
    return (s.push lexeme cs.mark rest.mark, rest)
  else if cs.isDocumentIndicator then do
    let s ← s.atDocumentLevel cs.mark
    return (s.pushIndicator (if c == '-' then .documentStart else .documentEnd) 3 cs, cs.skip 3)
  else if c == '[' then s.readFlowStart cs .flowSequenceStart
  else if c == '\x7b' then s.readFlowStart cs .flowMappingStart
  else if c == ']' then s.readFlowEnd cs .flowSequenceEnd
  else if c == '\x7d' then s.readFlowEnd cs .flowMappingEnd
  else if c == ',' then do
    let s ← s.dropKey
    return ({ s with keyAllowed := true }.pushIndicator .flowEntry 1 cs, cs.skip 1)
  else if c == '-' && isGap (cs.peek 1) then s.readEntry cs .blockSequenceStart .blockEntry true
  else if c == '?' && (s.inFlow || isGap (cs.peek 1)) then
    s.readEntry cs .blockMappingStart .key (!s.inFlow)
  else if c == ':' && (s.inFlow || isGap (cs.peek 1)) then s.readValue cs
  else if c == '*' then
    s.readProperty cs fun cs => (readAnchorName cs).map fun (name, rest) => (.alias name, rest)
  else if c == '&' then
    s.readProperty cs fun cs => (readAnchorName cs).map fun (name, rest) => (.anchor name, rest)
  else if c == '!' then s.readProperty cs (readTag s.inFlow)
  else if c == '|' && !s.inFlow then s.readBlock cs false
  else if c == '>' && !s.inFlow then s.readBlock cs true
  else if c == '\x27' then
    s.readProperty cs fun cs => (readSingleQuoted [] .none (cs.skip 1)).map fun (text, rest) =>
      (.scalar (String.ofList text.reverse) .singleQuoted, rest)
  else if c == '\x22' then
    s.readProperty cs fun cs => (readDoubleQuoted [] .none (cs.skip 1)).map fun (text, rest) =>
      (.scalar (String.ofList text.reverse) .doubleQuoted, rest)
  else if beginsPlain s.inFlow cs then s.readPlainScalar cs
  else none

/-- Ends all block collections at the end of the text, which counts as the beginning of a line. -/
def finish (s : TokenState) (m : Mark) : Option (Array Token) := do
  let m := if m.column == 0 then m else { m with line := m.line + 1, column := 0 }
  let s ← (s.unrollIndent (-1) m).dropKey
  return (s.push .streamEnd m m).tokens

/-- Reads all tokens. Each takes at least one cell, so `fuel` is at most their number. -/
def readAll (fuel : Nat) (s : TokenState) (cs : Cells) : Option (Array Token) :=
  match fuel with
  | 0 => none
  | fuel + 1 => do
    let (keyAllowed, cs) := skipToToken s.inFlow s.keyAllowed false cs
    let s ← { s with keyAllowed }.dropStaleKeys cs.mark
    let s := s.unrollIndent cs.mark.column cs.mark
    if cs.head == endChar then s.finish cs.mark
    else
      let (s, rest) ← s.readToken cs
      readAll fuel s rest

end TokenState

/-- The tokens of a text, unless it is no YAML. -/
def tokens? (text : String) : Option (List Token) := do
  let cells ← cells? text
  let tokens ← TokenState.readAll (cells.length + 1) {} cells
  return tokens.toList

end DocViews.Yaml
