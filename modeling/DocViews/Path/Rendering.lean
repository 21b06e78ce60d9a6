import DocViews.Path

/-!
# Rendering paths

Every text that a path is turned into in a statement is built from the same pieces: each segment
is quoted in some way and gets the prefix of its namespace, and a separator stands either between
the segments or in front of each one.
-/

namespace DocViews

/-- A segment in quotes, after its prefix and a colon if its namespace has a prefix that is not
    empty. -/
def Segment.render (quote : String → String) (prefixOf : String → Option String)
    (s : Segment) : String :=
  match s.uri.bind prefixOf with
  | some p => if p.isEmpty then quote s.name else p ++ ":" ++ quote s.name
  | none => quote s.name

/-- The rendered segments with `separator` between them. -/
def Path.joined (separator : String) (quote : String → String) (prefixOf : String → Option String)
    (p : Path) : String :=
  String.intercalate separator (p.map (·.render quote prefixOf))

/-- The rendered segments, each after `separator`, behind `start`. -/
def Path.chained (start separator : String) (quote : String → String)
    (prefixOf : String → Option String) (p : Path) : String :=
  start ++ String.join (p.map fun s => separator ++ s.render quote prefixOf)

end DocViews
