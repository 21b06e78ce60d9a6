import DocViews.Namespaces
import DocViews.Path.Rendering
import DocViews.View

/-!
# Views of markup

A markup view lists the nodes at an absolute path and reads each column from a path below the
node. Both use prefixes, which the view declares for exactly this purpose; without namespaces
there is nothing to declare and no policy is asked.
-/

namespace DocViews

/-- The namespaces of a view, from its roots and its properties. -/
def ViewPlan.uris (v : ViewPlan) : TextSet :=
  .ofList (v.rootPath.uris ++ v.properties.flatMap (·.path.uris))

/-- The prefixes that a policy gives to a set of namespaces, none of which may go without. -/
def resolvePrefixes (policy : NamespacePolicy) (uris : TextSet) : Except CompileError Prefixes := do
  let prefixes ← if uris.isEmpty then pure .empty else policy uris
  match uris.elems.find? fun uri => ((prefixes.get? uri).getD "").isEmpty with
  | some uri => .error (.defaultNamespace uri)
  | none => return prefixes

/-- The declarations for prefixes, ordered by prefix; those of one prefix by namespace. -/
def declarations (prefixes : Prefixes) : List (String × String) :=
  prefixes.entries.mergeSort fun a b => decide (a.2 ≤ b.2)

/-- The absolute path of the nodes of a view. -/
def xmlRoot (prefixes : Prefixes) (root : Path) : String :=
  "/" ++ root.joined "/" id prefixes.get?

/-- The path from a node of the view to a value. -/
def xmlStep (prefixes : Prefixes) (p : Path) : String := p.chained "." "/" id prefixes.get?

/-- The path from the root of a document to a value. -/
def xmlPath (prefixes : Prefixes) (p : Path) : String := p.chained "" "/" id prefixes.get?

def xmlProjection (types : TypeNames) (policy : NamespacePolicy) (v : ViewPlan) :
    Except CompileError Projection := do
  let prefixes ← resolvePrefixes policy v.uris
  return {
    name := v.name
    query := .xml {
      table := v.table
      direct := v.direct
      declarations := declarations prefixes
      root := xmlRoot prefixes v.rootPath
      columns := v.properties.map fun p => ⟨p.column, types p.scalar, xmlStep prefixes p.path⟩ }
    mappings := v.properties.map fun p => (xmlPath prefixes (v.rootPath ++ p.path), p.column) }

end DocViews
