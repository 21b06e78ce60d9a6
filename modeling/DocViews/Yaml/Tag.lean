/-!
# Tags

A tag is kept as the bytes that its URI stands for. Escapes may put together bytes that are no
text: such a tag differs from all others, but it names nothing. The tags of types, such as that of
integers, share a URI of their own, and every tag that begins with an exclamation mark is local.
-/

namespace DocViews.Yaml

structure Tag where
  bytes : List UInt8
  deriving DecidableEq, Repr, Inhabited

namespace Tag

def ofText (s : String) : Tag := ⟨s.toUTF8.toList⟩

def append (s t : Tag) : Tag := ⟨s.bytes ++ t.bytes⟩

instance : Append Tag := ⟨append⟩

/-- The tag that stands by itself. -/
def bang : Tag := ofText "!"

/-- What the tags of types begin with. -/
def core : Tag := ofText "tag:yaml.org,2002:"

/-- The tag of a type. -/
def ofType (name : String) : Tag := core ++ ofText name

def isLocal (t : Tag) : Bool := bang.bytes.isPrefixOf t.bytes

/-- The name that a local tag gives: what stands behind its exclamation mark, or the mark itself
    if there is nothing behind it. -/
def localName? (t : Tag) : Option String :=
  if t.isLocal then
    let name := t.bytes.drop 1
    String.fromUTF8? ⟨(if name.isEmpty then t.bytes else name).toArray⟩
  else none

end Tag

end DocViews.Yaml
