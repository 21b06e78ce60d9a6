import DocViews.Definition

/-!
# Catalogs

The document types of several definition files, compiled. Files are taken one after another, and
the first fault ends the loading. No document type may be defined twice, not even by a file that is
asked for one document type only.
-/

namespace DocViews

/-- Compiled document types with their names. -/
abbrev Catalog := List (String × Bundle Json)

/-- Why definition files cannot be loaded; `ε` is why a single file cannot be read. -/
inductive CatalogError (ε : Type) where
  | file (fault : ε)
  | definition (cause : DefinitionError)
  | repeatedDocument (name : String)
  | unknownDocument (name : String)
  /-- There is no file at all. -/
  | noFiles

namespace Catalog

/-- The compiled document types of a file, or the one of a given name if the file defines it. -/
def ofDefinitions (document : Option String) (ds : Definitions) : Except DefinitionError Catalog :=
  match document with
  | none => ds.compileAll
  | some name =>
    if ds.documents.contains name then do return [(name, ← ds.compileDocument name)] else return []

/-- Adds document types to a catalog that has none of them. -/
def add (c : Catalog) : Catalog → Except (CatalogError ε) Catalog
  | [] => .ok c
  | (name, bundle) :: rest =>
    if c.any (·.1 == name) then .error (.repeatedDocument name)
    else add (c ++ [(name, bundle)]) rest

/-- Adds the document types of files, one file after another. -/
def addFiles (document : Option String) (c : Catalog) :
    List (Except ε Definitions) → Except (CatalogError ε) Catalog
  | [] => .ok c
  | file :: files => do
    let ds ← file.mapError .file
    let compiled ← (ofDefinitions document ds).mapError .definition
    addFiles document (← c.add compiled) files

/-- Loads files. If one document type is asked for, some file must define it. -/
def load (document : Option String) (files : List (Except ε Definitions)) :
    Except (CatalogError ε) Catalog := do
  let c ← addFiles document [] files
  if files.isEmpty then throw .noFiles
  match document with
  | some name => if c.isEmpty then throw (.unknownDocument name) else return c
  | none => return c

end Catalog

end DocViews
