import DocViews.Compile

/-!
# Definitions

A document type can be described by data alone: paths are texts, hooks are lists of statements, and
every setting is a plain value. Such a definition gives a configuration, view groups and a table
policy, and is compiled with plain names.
-/

namespace DocViews

/-! ## Errors -/

/-- Why a defined document type cannot be compiled. -/
inductive DefinitionError where
  | path (text : String) (fault : PathFault)
  /-- A view of JSON documents has a path with a namespace. -/
  | namespacedPath (view : Nat)
  | unknownDocument (name : String)
  | compilation (cause : CompileError)
  deriving DecidableEq, Repr

def DefinitionError.message : DefinitionError → String
  | path text fault => "Invalid path: '" ++ text ++ "': " ++ fault.message
  | namespacedPath view =>
    "Schema error: view #" ++ Nat.repr view ++ ": JSON paths cannot carry namespaces"
  | unknownDocument name => "Schema error: Unknown document type '" ++ name ++ "'"
  | compilation cause => cause.message

/-- Reads a path of a definition. -/
def readPath (text : String) : Except DefinitionError Path :=
  (Path.parse text).mapError (.path text)

/-! ## Views -/

/-- A view group, with its paths as texts. -/
structure ViewDefinition where
  roots : List String := []
  properties : TextMap Scalar := .empty

/-- Whether a path leaves the namespace of any segment open. -/
def Path.isBare (p : Path) : Bool := p.all fun s => s.uri.isNone

/-- The group of the `index`-th view: first its roots are read, then its properties by ascending
    path. In JSON no path may have a namespace. -/
def ViewDefinition.group (v : ViewDefinition) (format : Dialect) (index : Nat) :
    Except DefinitionError ViewGroup := do
  let roots ← v.roots.mapM readPath
  let properties ← v.properties.entries.mapM fun (text, scalar) =>
    return (⟨← readPath text, scalar⟩ : Property)
  if format = .json ∧ !(roots ++ properties.map (·.path)).all Path.isBare then
    throw (.namespacedPath index)
  return ⟨roots, properties⟩

/-! ## Document types -/

/-- What defines a document type. -/
structure Definition where
  format : Dialect
  metadataView : Bool := true
  synonym : Bool := false
  boundedStrings : Bool := true
  /-- The length budget of names; the usual one if there is none. -/
  maxNameLength : Option Nat := none
  /-- Prefixes for namespaces of markup. -/
  prefixes : Prefixes := .empty
  /-- Names and SQL types of additional columns. -/
  columns : List (String × String) := []
  /-- Statements to be run after creation, with a placeholder for the raw table. -/
  onCreation : List String := []
  onDrop : List String := []
  views : List ViewDefinition := []
  /-- Error codes that may be ignored; the usual ones if there are none. -/
  errorCodes : Option ErrorCodes := none

/-- Stands for the raw table in a statement of a definition. -/
def tablePlaceholder : String := "\x7btable\x7d"

/-- The hook that puts the raw table into statements. -/
def Hook.ofStatements (statements : List String) : Hook := fun table =>
  statements.map (Text.replace tablePlaceholder table)

namespace Definition

/-- Where no statements are given there is no hook. -/
def hooks (statements : List String) : List Hook :=
  if statements.isEmpty then [] else [.ofStatements statements]

/-- The configuration of a definition. Markup without prefixes gets synthetic ones. -/
def config (d : Definition) : Config :=
  let preset := match d.format with
    | .xml => if d.prefixes.isEmpty then Config.xml else Config.xmlWith (fixedPolicy d.prefixes)
    | .json => Config.json
  let settled := ((preset.withTypes (postgresTypes d.boundedStrings)).withMetadataView
    d.metadataView).withSynonym d.synonym
  let coded := match d.errorCodes with
    | some codes => settled.withErrorCodes codes
    | none => settled
  (hooks d.onDrop).foldl Config.withOnDrop ((hooks d.onCreation).foldl Config.withOnCreation coded)

def namer (d : Definition) : PlainNamer := ⟨d.maxNameLength.getD PlainNamer.defaultMaxLength⟩

def table (d : Definition) : TablePolicy Json := staticColumns d.columns

/-- The view groups of a definition, up to the first that cannot be read. -/
def viewGroups (d : Definition) : Except DefinitionError (List ViewGroup) :=
  d.views.zipIdx.mapM fun (v, i) => v.group d.format i

/-- Compiles a definition under a name. -/
def compile (d : Definition) (name : String) : Except DefinitionError (Bundle Json) := do
  let groups ← d.viewGroups
  (DocViews.compile d.config name groups d.namer.resolve d.table).mapError .compilation

end Definition

/-! ## Files -/

/-- The definitions of a file, by the names of their document types. -/
structure Definitions where
  documents : TextMap Definition := .empty

namespace Definitions

/-- Compiles one document type. -/
def compileDocument (ds : Definitions) (name : String) : Except DefinitionError (Bundle Json) :=
  match ds.documents.get? name with
  | some d => d.compile name
  | none => .error (.unknownDocument name)

/-- Compiles all document types, by ascending name. -/
def compileAll (ds : Definitions) : Except DefinitionError (List (String × Bundle Json)) :=
  ds.documents.entries.mapM fun (name, d) => return (name, ← d.compile name)

end Definitions

end DocViews
