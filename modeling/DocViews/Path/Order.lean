import DocViews.Path

/-!
# Order of paths

Paths are ordered segment by segment, a path before its continuations; segments by name, then by
namespace, where a segment without one comes first. Texts are ordered by code point.
-/

namespace DocViews

/-- Order of optional texts: none comes first. -/
def compareUri : Option String → Option String → Ordering
  | none, none => .eq
  | none, some _ => .lt
  | some _, none => .gt
  | some a, some b => compare a b

def Segment.compare (a b : Segment) : Ordering :=
  (Ord.compare a.name b.name).then (compareUri a.uri b.uri)

def Path.compare : Path → Path → Ordering
  | [], [] => .eq
  | [], _ :: _ => .lt
  | _ :: _, [] => .gt
  | a :: p, b :: q => (a.compare b).then (Path.compare p q)

/-- Paths in ascending order; equal paths keep their places. -/
def Path.sort (ps : List Path) : List Path :=
  ps.mergeSort fun p q => (p.compare q).isLE

end DocViews
