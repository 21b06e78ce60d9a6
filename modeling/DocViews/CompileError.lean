import DocViews.Path.Syntax
import DocViews.Text.Quoted

/-!
# Why a document type cannot be compiled

Each cause keeps what its message names. All of them are faults of the definition: compiling the
same definition again fails in the same way.
-/

namespace DocViews

/-- What a generated name was meant for. -/
inductive NameKind where
  | view
  | column
  | index
  deriving DecidableEq, Repr

def NameKind.label : NameKind → String
  | .view => "View"
  | .column => "Column"
  | .index => "Index"

inductive CompileError where
  /-- A generated name is taken within its scope. -/
  | nameCollision (kind : NameKind) (name scope : String)
  /-- A namespace of a markup view has no prefix, or an empty one. -/
  | defaultNamespace (uri : String)
  /-- Namespaces where there must be none. -/
  | unexpectedNamespaces (uris : List String)
  /-- A view maps the same path a second time. -/
  | repeatedProperty (path : Path) (view : String)
  deriving DecidableEq, Repr

def CompileError.message : CompileError → String
  | .nameCollision kind name scope =>
    kind.label ++ " name already in use: " ++ name ++ " (in " ++ scope ++ ")"
  | .defaultNamespace uri => "PostgreSQL does not support a default namespace for " ++ uri
  | .unexpectedNamespaces uris =>
    "Unexpected resolution of namespaces " ++ Text.quotedList uris ++ " during JSON processing"
  | .repeatedProperty path view =>
    "Schema error: Property " ++ path.display ++ " is mapped twice in view " ++ view

end DocViews
