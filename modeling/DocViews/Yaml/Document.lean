import DocViews.Yaml.Node
import DocViews.Yaml.Token.Stream

/-!
# Documents of tokens

The grammar of YAML, by recursive descent. Where a node may be left out, an empty scalar takes its
place. A text holds at most one document.
-/

namespace DocViews.Yaml

/-- What is known while a document is read. -/
structure NodeState where
  tokens : List Token
  /-- Tag handles, with what they stand for. -/
  handles : List (String × Tag)
  /-- The numbers of anchors by name; a name that is used again gets a new number. -/
  names : List (String × Nat) := []
  /-- The numbers of the anchored nodes that have begun, in their order. -/
  begun : Array Nat := #[]
  /-- The anchored nodes that have ended, by their place in `begun`. -/
  ended : List (Nat × Node) := []

abbrev NodeM := StateT NodeState Option

namespace NodeM

/-! ## Tokens -/

/-- The next token. -/
def peek : NodeM Token := do
  match (← get).tokens with
  | t :: _ => return t
  | [] => failure

/-- Leaves out the next token. -/
def skip : NodeM Unit := modify fun c => { c with tokens := c.tokens.drop 1 }

/-- The next token, which is taken out. -/
def take : NodeM Token := do
  let t ← peek
  skip
  return t

/-- Whether the next token is one of those given. -/
def nextIs (lexemes : List Lexeme) : NodeM Bool := return lexemes.contains (← peek).lexeme

/-! ## Anchors and tags -/

/-- Resolves the handle of a tag. -/
def resolveTag (handle : String) (suffix : Tag) : NodeM Tag := do
  if handle.isEmpty then return suffix
  match (← get).handles.lookup handle with
  | some start => return start ++ suffix
  | none => failure

/-- What stands before a node: an anchor and a tag, in either order. -/
structure Properties where
  mark : Mark
  anchor : Option String := none
  tag : Option Tag := none

def readProperties : NodeM Properties := do
  let first ← peek
  match first.lexeme with
  | .anchor name =>
    skip
    match (← peek).lexeme with
    | .tag handle suffix =>
      skip
      return ⟨first.start, some name, some (← resolveTag handle suffix)⟩
    | _ => return ⟨first.start, some name, none⟩
  | .tag handle suffix =>
    skip
    match (← peek).lexeme with
    | .anchor name =>
      skip
      return ⟨first.start, some name, some (← resolveTag handle suffix)⟩
    | _ => return ⟨first.start, none, some (← resolveTag handle suffix)⟩
  | _ => return { mark := first.start }

/-- The number of the anchor with a name. -/
def anchorNumber (name : String) : NodeM Nat := do
  match (← get).names.lookup name with
  | some n => return n
  | none => failure

/-- Begins an anchored node. Its anchor is numbered by how many names there are before it. -/
def beginAnchored (anchor : Option String) : NodeM (Option Nat) := do
  match anchor with
  | none => return none
  | some name =>
    let c ← get
    let number := c.names.length
    set { c with
      names := (name, number) :: c.names.filter (·.1 != name)
      begun := c.begun.push number }
    return some c.begun.size

def endAnchored (place : Option Nat) (node : Node) : NodeM Unit :=
  match place with
  | none => pure ()
  | some i => modify fun c => { c with ended := (i, node) :: c.ended }

/-! ## Nodes -/

/-- An anchor or a tag by itself stands before an empty scalar. -/
def bare (p : Properties) : NodeM Node :=
  if p.anchor.isNone && p.tag.isNone then failure else return .scalar p.mark p.tag "" .plain

mutual

/-- Reads a node. Block collections may begin only outside of flow collections, and a sequence
    without an indentation of its own only in a block mapping. -/
def node (fuel : Nat) (block indentless : Bool) : NodeM Node :=
  match fuel with
  | 0 => failure
  | fuel + 1 => do
    let first ← peek
    if let .alias name := first.lexeme then
      skip
      return .alias first.start (← anchorNumber name)
    let p ← readProperties
    let place ← beginAnchored p.anchor
    let n ← content fuel block indentless p
    endAnchored place n
    return n

/-- Reads a node from behind its anchor and tag. -/
def content (fuel : Nat) (block indentless : Bool) (p : Properties) : NodeM Node :=
  match fuel with
  | 0 => failure
  | fuel + 1 => do
    match (← peek).lexeme with
    | .scalar text style =>
      skip
      return .scalar p.mark p.tag text style
    | .flowSequenceStart =>
      skip
      return .sequence p.mark p.tag (← flowItems fuel true)
    | .flowMappingStart =>
      skip
      return .mapping p.mark p.tag (← flowEntries fuel true)
    | .blockSequenceStart =>
      if !block then failure
      skip
      return .sequence p.mark p.tag (← blockItems fuel)
    | .blockMappingStart =>
      if !block then failure
      skip
      return .mapping p.mark p.tag (← blockEntries fuel)
    | .blockEntry =>
      if indentless then return .sequence p.mark p.tag (← indentlessItems fuel)
      else bare p
    | _ => bare p

def blockItems (fuel : Nat) : NodeM (List Node) :=
  match fuel with
  | 0 => failure
  | fuel + 1 => do
    let t ← take
    match t.lexeme with
    | .blockEntry =>
      let item ←
        if ← nextIs [.blockEntry, .blockEnd] then pure (.empty t.stop) else node fuel true false
      return item :: (← blockItems fuel)
    | .blockEnd => return []
    | _ => failure

def indentlessItems (fuel : Nat) : NodeM (List Node) :=
  match fuel with
  | 0 => failure
  | fuel + 1 => do
    let t ← peek
    if t.lexeme != .blockEntry then return []
    skip
    let item ←
      if ← nextIs [.blockEntry, .key, .value, .blockEnd] then pure (.empty t.stop)
      else node fuel true false
    return item :: (← indentlessItems fuel)

def blockEntries (fuel : Nat) : NodeM (List (Node × Node)) :=
  match fuel with
  | 0 => failure
  | fuel + 1 => do
    let t ← take
    match t.lexeme with
    | .key =>
      let key ←
        if ← nextIs [.key, .value, .blockEnd] then pure (.empty t.stop) else node fuel true true
      let value ← blockValue fuel
      return (key, value) :: (← blockEntries fuel)
    | .blockEnd => return []
    | _ => failure

def blockValue (fuel : Nat) : NodeM Node :=
  match fuel with
  | 0 => failure
  | fuel + 1 => do
    let t ← peek
    if t.lexeme != .value then return .empty t.start
    skip
    if ← nextIs [.key, .value, .blockEnd] then return .empty t.stop
    node fuel true true

/-- Reads the items of a flow sequence, with commas between them. A key and its value make a
    mapping of their own. -/
def flowItems (fuel : Nat) (first : Bool) : NodeM (List Node) :=
  match fuel with
  | 0 => failure
  | fuel + 1 => do
    if ← nextIs [.flowSequenceEnd] then
      skip
      return []
    if !first then
      if (← take).lexeme != .flowEntry then failure
    let t ← peek
    match t.lexeme with
    | .flowSequenceEnd =>
      skip
      return []
    | .key =>
      skip
      let key ← flowPairKey fuel
      let value ← flowValue fuel [.flowEntry, .flowSequenceEnd]
      return .mapping t.start none [(key, value)] :: (← flowItems fuel false)
    | _ =>
      let item ← node fuel false false
      return item :: (← flowItems fuel false)

/-- Reads the key of a pair in a flow sequence. If there is none, the token in its place is left
    out. -/
def flowPairKey (fuel : Nat) : NodeM Node :=
  match fuel with
  | 0 => failure
  | fuel + 1 => do
    if ← nextIs [.value, .flowEntry, .flowSequenceEnd] then return .empty (← take).stop
    node fuel false false

/-- Reads the value of a key in a flow collection, unless one of the given tokens stands in its
    place. -/
def flowValue (fuel : Nat) (ends : List Lexeme) : NodeM Node :=
  match fuel with
  | 0 => failure
  | fuel + 1 => do
    if ← nextIs [.value] then
      skip
      if !(← nextIs ends) then return ← node fuel false false
    return .empty (← peek).start

/-- Reads the entries of a flow mapping, with commas between them. A key without an indicator has
    no value. -/
def flowEntries (fuel : Nat) (first : Bool) : NodeM (List (Node × Node)) :=
  match fuel with
  | 0 => failure
  | fuel + 1 => do
    if ← nextIs [.flowMappingEnd] then
      skip
      return []
    if !first then
      if (← take).lexeme != .flowEntry then failure
    let t ← peek
    match t.lexeme with
    | .flowMappingEnd =>
      skip
      return []
    | .key =>
      skip
      let ends := [.flowEntry, .flowMappingEnd]
      let key ←
        if ← nextIs (.value :: ends) then pure (.empty (← peek).start) else node fuel false false
      let value ← flowValue fuel ends
      return (key, value) :: (← flowEntries fuel false)
    | _ =>
      let key ← node fuel false false
      let value := .empty (← peek).start
      return (key, value) :: (← flowEntries fuel false)

end

end NodeM

/-! ## Directives -/

def defaultHandles : List (String × Tag) := [("!", .bang), ("!!", .core)]

/-- Reads directives: at most one of the version, and at most one of each tag handle. -/
def readDirectives (versioned : Bool) (handles : List (String × Tag)) :
    List Token → Option (List (String × Tag) × List Token)
  | [] => none
  | t :: ts =>
    match t.lexeme with
    | .versionDirective major minor =>
      if versioned || major != 1 || (minor != 1 && minor != 2) then none
      else readDirectives true handles ts
    | .tagDirective handle start =>
      if (handles.lookup handle).isSome then none
      else readDirectives versioned (handles ++ [(handle, start)]) ts
    | _ => some (handles ++ defaultHandles, t :: ts)

/-! ## Documents -/

def Lexeme.isDirective : Lexeme → Bool
  | .versionDirective .. => true
  | .tagDirective .. => true
  | _ => false

/-- The node of a document that begins with an indicator; it may be missing. -/
def explicitRoot (fuel : Nat) : NodeM Node := do
  let t ← NodeM.peek
  if t.lexeme.isDirective || [.documentStart, .documentEnd, .streamEnd].contains t.lexeme then
    return .empty t.start
  NodeM.node fuel true false

/-- The anchored nodes by number; of those with the same number the last one counts. -/
def NodeState.anchored (c : NodeState) : List (Nat × Node) :=
  (c.begun.toList.zipIdx.filterMap fun (number, i) => (c.ended.lookup i).map (number, ·)).reverse

/-- Reads the document of a text, unless the text is wrong or holds more than one. -/
def document? (text : String) : Option Document := do
  let tokens ← tokens? text
  let first ← tokens.head?
  let fuel := 3 * tokens.length + 3
  if first.lexeme == .streamEnd then return ⟨none, []⟩
  let (handles, tokens) ← readDirectives false [] tokens
  let start ← tokens.head?
  let explicit := first.lexeme.isDirective || first.lexeme == .documentStart
  if explicit && start.lexeme != .documentStart then none
  let (root, c) ←
    if explicit then (explicitRoot fuel).run { tokens := tokens.drop 1, handles }
    else (NodeM.node fuel true false).run { tokens, handles }
  match c.tokens.dropWhile fun t => t.lexeme == .documentEnd with
  | [t] => if t.lexeme == .streamEnd then return ⟨some root, c.anchored⟩ else none
  | _ => none

end DocViews.Yaml
