import DocViews.Definition
import DocViews.Yaml.Reading

/-!
# Definitions in YAML

The records of a definition file, field by field. All fields but the format, and the names and
types of columns, may be missing.
-/

namespace DocViews

open Yaml

/-- A table of error codes, as it may be given with a definition. -/
def codesFields : List (RecordField ErrorCodes) := [
  { name := "exists", required := true
    update := fun p n c => return { c with whenExists := ← readList readCode p n } },
  { name := "missing", required := true
    update := fun p n c => return { c with whenMissing := ← readList readCode p n } }]

/-- An additional column: its name and SQL type. -/
def columnFields : List (RecordField (String × String)) := [
  { name := "name", required := true, update := fun p n c => return (← readText p n, c.2) },
  { name := "type", required := true, update := fun p n c => return (c.1, ← readText p n) }]

def readScalarType : Reader Scalar := readVariant Scalar.all Scalar.name

def viewFields : List (RecordField ViewDefinition) := [
  { name := "roots"
    update := fun p n v => return { v with roots := ← readList readText p n } },
  { name := "properties"
    update := fun p n v => return { v with properties := ← readMap readScalarType p n } }]

def definitionFields : List (RecordField Definition) := [
  { name := "format", required := true
    update := fun p n d => return { d with format := ← readVariant Dialect.all Dialect.name p n } },
  { name := "meta"
    update := fun p n d => return { d with metadataView := ← readBool p n } },
  { name := "synonym"
    update := fun p n d => return { d with synonym := ← readBool p n } },
  { name := "bounded_strings"
    update := fun p n d => return { d with boundedStrings := ← readBool p n } },
  { name := "max_name_length"
    update := fun p n d => return { d with maxNameLength := ← readOptional readSize p n } },
  { name := "prefixes"
    update := fun p n d => return { d with prefixes := ← readMap readText p n } },
  { name := "columns"
    update := fun p n d => return { d with
      columns := ← readList (readRecord "ColumnDefinition" columnFields ("", "")) p n } },
  { name := "on_creation"
    update := fun p n d => return { d with onCreation := ← readList readText p n } },
  { name := "on_drop"
    update := fun p n d => return { d with onDrop := ← readList readText p n } },
  { name := "views"
    update := fun p n d => return { d with
      views := ← readList (readRecord "ViewDefinition" viewFields {}) p n } },
  { name := "error_codes"
    update := fun p n d => return { d with
      errorCodes := ← readOptional (readRecord "ErrorCodes" codesFields ⟨[], []⟩) p n } }]

/-- The defaults of a definition; its format must be given. -/
def Definition.defaults : Definition := { format := default }

def fileFields : List (RecordField Definitions) := [
  { name := "documents"
    update := fun p n ds => return { ds with
      documents := ←
        readMap (readRecord "DocumentDefinition" definitionFields Definition.defaults) p n } }]

/-- Reads the definitions of a text; an empty text has none. -/
def Definitions.parse (text : String) : Except Fault Definitions :=
  match document? text with
  | none => .error .unreadable
  | some d =>
    match d.root with
    | none => .ok {}
    | some root =>
      Reading.runOn d (readRecord "DefinitionFile" fileFields {} .root root)

end DocViews
