import DocViews.Path.Rendering
import DocViews.View

/-!
# Views of JSON

A JSON view lists what a path finds in the payload and reads each column by descending key by key.
In a path a key stands plainly if it is an identifier, and otherwise in double quotes, where quotes
and backslashes are escaped by a backslash. Each root is a list, so a wildcard for its elements
follows.
-/

namespace DocViews

def isKeyStart (c : Char) : Bool := c.isAlpha || c == '_'

def isKeyPart (c : Char) : Bool := c.isAlphanum || c == '_'

/-- Whether a key may stand in a path without quotes. -/
def isPlainKey : List Char → Bool
  | [] => false
  | c :: cs => isKeyStart c && cs.all isKeyPart

/-- The characters of a key as they stand in quotes. -/
def escapeKey : List Char → List Char
  | [] => []
  | c :: cs => if c = '\x22' ∨ c = '\\' then '\\' :: c :: escapeKey cs else c :: escapeKey cs

/-- A key as it stands in a path. -/
def jsonKey (key : String) : String :=
  if isPlainKey key.toList then key else "\"" ++ String.ofList (escapeKey key.toList) ++ "\""

/-- A path as steps behind `start`. -/
def jsonSteps (start : String) (p : Path) : String := p.chained start "." jsonKey fun _ => none

/-- The path of the elements of a view, with a wildcard behind each root. -/
def jsonRoot (roots : List Path) : String :=
  "$" ++ String.join (roots.map fun root => jsonSteps "" root ++ "[*]")

def jsonProjection (types : TypeNames) (v : ViewPlan) : Projection where
  name := v.name
  query := .json {
    table := v.table
    direct := v.direct
    root := jsonRoot v.roots
    columns := v.properties.map fun p => ⟨p.column, types p.scalar, p.path.names⟩ }
  mappings := v.properties.map fun p => (jsonSteps "$" (v.rootPath ++ p.path), p.column)

end DocViews
