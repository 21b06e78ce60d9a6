/-!
# Document paths

A path leads from the root of a document, or of a part of it, down to a value: an ordered list of
named segments. In markup a segment may belong to a namespace, which is identified by its URI.
-/

namespace DocViews

/-- One named step of a path, with the URI of its namespace if it has one. -/
structure Segment where
  name : String
  uri : Option String := none
  deriving DecidableEq, Repr, Inhabited

abbrev Path := List Segment

/-- The bare segment names of a path. -/
def Path.names (p : Path) : List String := p.map (·.name)

/-- The namespaces of a path, in the order of its segments. -/
def Path.uris (p : Path) : List String := p.filterMap (·.uri)

end DocViews
