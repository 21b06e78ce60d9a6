import DocViews.Yaml.Reading

/-!
# Data

What a text holds when nothing is expected of it. A text is readable if its document is a datum:
no alias goes astray, no collection lies too deep, no mapping has a key twice, and every integer
fits into 64 bits.
-/

namespace DocViews.Yaml

open Reading

inductive Datum where
  | null
  | bool (value : Bool)
  | int (value : Int)
  | float (value : Float)
  | text (value : String)
  | list (items : List Datum)
  | map (entries : List (Datum × Datum))
  | tagged (tag : String) (value : Datum)
  deriving Inhabited

/-! ## Equality -/

/-- Equality of doubles, except that what is no number equals itself. -/
def sameFloat (x y : Float) : Bool := x == y || (x.isNaN && y.isNaN)

/-- The name of a tag without an exclamation mark before it. -/
def bareName (name : String) : String :=
  if name.startsWith "!" ∧ name ≠ "!" then (name.drop 1).copy else name

mutual

/-- Whether two data are the same as keys. The order of a map's entries does not count. -/
def Datum.same : Datum → Datum → Bool
  | .null, .null => true
  | .bool a, .bool b => a == b
  | .int a, .int b => a == b
  | .float a, .float b => sameFloat a b
  | .text a, .text b => a == b
  | .list as, .list bs => sameItems as bs
  | .map as, .map bs => as.length == bs.length && entriesWithin as bs
  | .tagged s a, .tagged t b => bareName s == bareName t && a.same b
  | _, _ => false

def sameItems : List Datum → List Datum → Bool
  | [], [] => true
  | a :: as, b :: bs => a.same b && sameItems as bs
  | _, _ => false

/-- Whether each entry is the same as one of the others. -/
def entriesWithin : List (Datum × Datum) → List (Datum × Datum) → Bool
  | [], _ => true
  | (k, v) :: es, fs => (fs.any fun f => k.same f.1 && v.same f.2) && entriesWithin es fs

end

/-- Whether a datum occurs twice in a list. -/
def hasRepetition : List Datum → Bool
  | [] => false
  | d :: ds => ds.any d.same || hasRepetition ds

/-! ## Reading -/

/-- The datum of a scalar, unless it is a wide integer. -/
def Plain.datum? (text : String) : Plain → Option Datum
  | .nothing => some .null
  | .bool b => some (.bool b)
  | .integer i => some (.int i)
  | .wide _ => none
  | .float x => some (.float x)
  | .text => some (.text text)

/-- Puts a local tag on a datum. -/
def Datum.withTag (tag : Option Tag) (d : Datum) : Datum :=
  match tag.bind Tag.localName? with
  | none => d
  | some name => .tagged name d

/-- The datum of a scalar. -/
def readScalarDatum (tag : Option Tag) (text : String) (style : ScalarStyle) : Reading Datum :=
  -- below a local tag a scalar is read as if it had none
  let tag' := if (tag.bind Tag.localName?).isSome then none else tag
  match scalarValue tag' text style with
  | .error cause => mismatch cause
  | .ok value =>
    match value.datum? text with
    | none => throw .unreadable
    | some d => return d.withTag tag

/-- The datum of a node whose collections lie at most `depth` deep. -/
def readDatum (depth : Nat) (node : Node) : Reading Datum := do
  let n ← resolve node
  match n, depth with
  | .scalar _ tag text style, _ => readScalarDatum tag text style
  | .sequence _ tag items, depth + 1 =>
    return Datum.withTag tag (.list (← items.mapM fun n => readDatum depth n))
  | .mapping _ tag entries, depth + 1 => do
    let entries ← entries.mapM fun (k, v) => return (← readDatum depth k, ← readDatum depth v)
    if hasRepetition (entries.map (·.1)) then throw .unreadable
    return Datum.withTag tag (.map entries)
  | _, _ => throw .unreadable

/-- How deep collections may lie. -/
def maxDepth : Nat := 128

/-- The datum that a text holds; an empty text holds nothing. -/
def Datum.ofText? (text : String) : Option Datum := do
  let d ← document? text
  match d.root with
  | none => return .null
  | some root => (Reading.runOn d (readDatum maxDepth root)).toOption

/-- Whether a text holds a datum. -/
def isReadable (text : String) : Bool := (Datum.ofText? text).isSome

end DocViews.Yaml
