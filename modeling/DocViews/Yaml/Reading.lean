import DocViews.TextMap
import DocViews.Yaml.Document
import DocViews.Yaml.Fault
import DocViews.Yaml.Plain

/-!
# Reading values from nodes

Readers for texts, numbers, lists, maps and records. Each takes the place and the node of its
value and yields the value or what is wrong. An empty plain scalar counts as an empty list, map or
record.
-/

namespace DocViews.Yaml

/-- A reading may follow aliases, but only a limited number of them. -/
abbrev Reading := ReaderT (List (Nat × Node)) (StateT Nat (Except Fault))

/-- Reads a value at a place. -/
abbrev Reader (α : Type) := Place → Node → Reading α

namespace Reading

/-- Reads from a document. -/
def runOn (d : Document) (r : Reading α) : Except Fault α :=
  ((r.run d.anchored).run d.aliasLimit).map (·.1)

def mismatch (cause : Mismatch) : Reading α := throw (.mismatch cause none)

/-- Tells where a value stands that does not fit, unless that is known already. -/
def located (place : Place) (mark : Mark) (r : Reading α) : Reading α :=
  tryCatch r fun f => throw (f.locate place mark)

/-- The node that an alias stands for; every other node stands for itself. -/
def resolve : Node → Reading Node
  | .alias _ anchor => do
    let left ← get
    match left, (← read).lookup anchor with
    | left + 1, some node =>
      set left
      return node
    | _, _ => throw .unreadable
  | node => return node

end Reading

open Reading

/-! ## What scalars stand for -/

/-- What a scalar stands for; the tag of a type demands that its text can be read as such. -/
def scalarValue (tag : Option Tag) (text : String) (style : ScalarStyle) :
    Except Mismatch Plain :=
  let demand (value : Option Plain) (expected : String) : Except Mismatch Plain :=
    match value with
    | some p => .ok p
    | none => .error (.value (.text text) expected)
  let plain := if style = .plain then Plain.ofText text else .text
  match tag with
  | none => .ok plain
  | some tag =>
    if tag = .ofType "bool" then demand ((boolOfWord? text).map .bool) "a boolean"
    else if tag = .ofType "int" then demand ((integer? text).bind Plain.ofInteger?) "an integer"
    else if tag = .ofType "float" then demand ((double? text).map .float) "a float"
    else if tag = .ofType "null" then
      demand (if isNullWord text then some .nothing else none) "null"
    else .ok (if tag.isLocal then plain else .text)

/-- What a plain scalar with a given text is found to be. -/
def Plain.found (text : String) : Plain → Found
  | .nothing => .nothing
  | .bool b => .bool b
  | .integer i => .integer i
  | .wide i => .wide i
  | .float x => .float x
  | .text => .text text

/-- Why a node does not fit where something else is expected. -/
def Node.misfit (expected : String) : Node → Mismatch
  | .alias .. => .type .nothing expected
  | .scalar _ tag text style =>
    match scalarValue tag text style with
    | .ok value => .type (value.found text) expected
    | .error cause => cause
  | .sequence .. => .type .sequence expected
  | .mapping .. => .type .mapping expected

def Node.mark : Node → Mark
  | .alias mark _ => mark
  | .scalar mark .. => mark
  | .sequence mark .. => mark
  | .mapping mark .. => mark

/-- Fails because of the type of a node. -/
def misfit (expected : String) (place : Place) (n : Node) : Reading α :=
  located place n.mark (mismatch (n.misfit expected))

/-! ## Scalars -/

/-- Reads a scalar of any kind as a text. -/
def readTextAs (expected : String) : Reader String := fun place node => do
  match ← resolve node with
  | .scalar _ _ text _ => return text
  | n => misfit expected place n

def readText : Reader String := readTextAs "a string"

/-- Whether a scalar may stand for a value of a type: it is plain, or a literal with its tag. -/
def mayStandFor (type : String) (tag : Option Tag) (style : ScalarStyle) : Bool :=
  style == .plain || (style == .literal && tag == some (.ofType type))

def readBool : Reader Bool := fun place node => do
  let n ← resolve node
  match n with
  | .scalar _ tag text style =>
    match if mayStandFor "bool" tag style then boolOfWord? text else none with
    | some b => return b
    | none => misfit "a boolean" place n
  | _ => misfit "a boolean" place n

/-- Reads an integer that is not negative. -/
def readSize : Reader Nat := fun place node => do
  let n ← resolve node
  match n with
  | .scalar _ tag text style =>
    match if mayStandFor "int" tag style then unsigned? text else none with
    | some size => return size
    | none => misfit "usize" place n
  | _ => misfit "usize" place n

/-- Reads an integer of 32 bits. -/
def readCode : Reader Int := fun place node => do
  let n ← resolve node
  match n with
  | .scalar mark tag text style =>
    match if mayStandFor "int" tag style then signed? text else none with
    | some i =>
      if fitsSigned 32 i then return i
      else located place mark (mismatch (.value (.integer i) "i32"))
    | none => misfit "i32" place n
  | _ => misfit "i32" place n

/-- Whether a scalar stands for a missing value. -/
def isMissing (tag : Option Tag) (text : String) (style : ScalarStyle) : Except Mismatch Bool :=
  match tag with
  | none => .ok (style == .plain && (text.isEmpty || isNullWord text))
  | some tag =>
    if style ≠ .plain ∨ tag ≠ .ofType "null" then .ok false
    else if isNullWord text then .ok true
    else .error (.value (.text text) "null")

/-- Reads a value that may be missing. -/
def readOptional (r : Reader α) : Reader (Option α) := fun place node => do
  let n ← resolve node
  match n with
  | .scalar _ tag text style =>
    match isMissing tag text style with
    | .ok true => return none
    | .ok false => return some (← r place n)
    | .error cause => mismatch cause
  | _ => return some (← r place n)

/-! ## Names -/

def chooseVariant (all : List α) (nameOf : α → String) (name : String) : Reading α :=
  match all.find? fun a => nameOf a == name with
  | some a => return a
  | none => mismatch (.unknownVariant name (all.map nameOf))

/-- Nothing may stand behind a tag that names something. -/
def readUnit : Reader Unit := fun place n =>
  match n with
  | .scalar mark _ text style =>
    if style = .plain ∧ (text.isEmpty ∨ isNullWord text) then pure ()
    else located place mark (mismatch (.value (.text text) "null"))
  | _ => misfit "unit" place n

/-- Reads one of a list of named things from a node that is no alias: a scalar, or nothing with a
    local tag. A name that the tag gives is looked up before the node is. -/
def readVariantFrom (all : List α) (nameOf : α → String) : Reader α := fun place n => do
  let (tag, name?) : Option Tag × Option String :=
    match n with
    | .scalar _ tag text _ => (tag, some text)
    | .sequence _ tag _ => (tag, none)
    | .mapping _ tag _ => (tag, none)
    | .alias .. => (none, none)
  match tag.bind Tag.localName?, name? with
  | some name, _ =>
    let a ← chooseVariant all nameOf name
    readUnit place n
    return a
  | none, some name => located place n.mark (chooseVariant all nameOf name)
  | none, none => misfit "a YAML tag starting with '!'" place n

def readVariant (all : List α) (nameOf : α → String) : Reader α := fun place node => do
  let read := do readVariantFrom all nameOf place (← resolve node)
  match node with
  | .alias mark _ => located place mark read
  | _ => read

/-! ## Collections -/

def isEmptyScalar : Node → Bool
  | .scalar _ _ text .plain => text.isEmpty
  | _ => false

/-- Reads the items of a list, which are numbered from `index` on. -/
def readItems (r : Reader α) (place : Place) (index : Nat) : List Node → Reading (List α)
  | [] => return []
  | n :: ns => do
    let a ← r (.item place index) n
    return a :: (← readItems r place (index + 1) ns)

def readList (r : Reader α) : Reader (List α) := fun place node => do
  let n ← resolve node
  match n with
  | .sequence mark _ items => located place mark (readItems r place 0 items)
  | _ => if isEmptyScalar n then return [] else misfit "a sequence" place n

/-- The place of a value in a mapping. -/
def Place.value (place : Place) : Node → Place
  | .scalar _ _ key _ => .entry place key
  | _ => .unnamed place

/-- Reads the entries of a mapping one after the other. -/
def foldEntries (expectedKey : String) (step : σ → String → Place → Node → Reading σ)
    (place : Place) (s : σ) : List (Node × Node) → Reading σ
  | [] => return s
  | (k, v) :: es => do
    let key ← readTextAs expectedKey place k
    let s ← step s key (place.value k) v
    foldEntries expectedKey step place s es

/-- Reads a mapping entry by entry, and then what is left to do. -/
def readMapping (expected expectedKey : String) (step : σ → String → Place → Node → Reading σ)
    (s : σ) (finish : σ → Reading α) : Reader α := fun place node => do
  let n ← resolve node
  match n with
  | .mapping mark _ entries =>
    located place mark (do finish (← foldEntries expectedKey step place s entries))
  | _ =>
    if isEmptyScalar n then located place n.mark (finish s) else misfit expected place n

/-- Reads a map; of several entries with one key the last counts. -/
def readMap (r : Reader α) : Reader (TextMap α) :=
  readMapping "a map" "a string" (fun m key place n => return m.insert key (← r place n))
    .empty pure

/-! ## Records -/

/-- A field of a record: its value changes the record that was read so far. -/
structure RecordField (σ : Type) where
  name : String
  required : Bool := false
  update : Place → Node → σ → Reading σ

/-- Reads the value of one field. Unknown fields are ignored. -/
def readField (fields : List (RecordField σ)) (state : List String × σ) (name : String)
    (place : Place) (n : Node) : Reading (List String × σ) :=
  let (seen, s) := state
  match fields.find? fun f => f.name == name with
  | none => return state
  | some f =>
    if seen.contains name then mismatch (.duplicateField name)
    else return (name :: seen, ← f.update place n s)

/-- Demands that no required field is missing. -/
def checkRequired (fields : List (RecordField σ)) (state : List String × σ) : Reading σ :=
  match fields.find? fun f => f.required && !state.1.contains f.name with
  | some f => mismatch (.missingField f.name)
  | none => return state.2

/-- Reads a record, from a record with the defaults. -/
def readRecord (name : String) (fields : List (RecordField σ)) (defaults : σ) : Reader σ :=
  readMapping ("struct " ++ name) "field identifier" (readField fields) ([], defaults)
    (checkRequired fields)

end DocViews.Yaml
