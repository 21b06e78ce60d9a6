import DocViews.Dialect
import DocViews.ErrorCodes
import DocViews.Namespaces
import DocViews.Scalar

/-!
# Configurations

How document types are compiled. Configurations are values: changing a setting gives a new one.
Hooks are added to those that are there and run in the order in which they were added; every other
setting replaces the one before it.
-/

namespace DocViews

/-- Statements to add, for a raw table of a given name. -/
abbrev Hook := String → List String

structure Config where
  dialect : Dialect
  types : TypeNames
  namespaces : NamespacePolicy
  /-- Whether there is a view that lists all mappings. -/
  metadataView : Bool
  /-- Whether every object gets a public synonym. -/
  synonym : Bool
  onCreation : List Hook
  onDrop : List Hook
  errorCodes : ErrorCodes

namespace Config

def ofDialect (dialect : Dialect) (namespaces : NamespacePolicy) : Config where
  dialect := dialect
  types := postgresTypes true
  namespaces := namespaces
  metadataView := true
  synonym := false
  onCreation := []
  onDrop := []
  errorCodes := .legacy

/-- Markup documents under a namespace policy. -/
def xmlWith (namespaces : NamespacePolicy) : Config := ofDialect .xml namespaces

/-- Markup documents with synthetic prefixes. -/
def xml : Config := xmlWith (SyntheticPolicy.resolve {})

/-- JSON documents, which have no namespaces. -/
def json : Config := ofDialect .json rejectPolicy

def withTypes (c : Config) (types : TypeNames) : Config := { c with types }

def withMetadataView (c : Config) (metadataView : Bool) : Config := { c with metadataView }

def withSynonym (c : Config) (synonym : Bool) : Config := { c with synonym }

def withErrorCodes (c : Config) (errorCodes : ErrorCodes) : Config := { c with errorCodes }

/-- Adds statements to be run after everything is created. -/
def withOnCreation (c : Config) (hook : Hook) : Config :=
  { c with onCreation := c.onCreation ++ [hook] }

/-- Adds statements to be run after everything is dropped. -/
def withOnDrop (c : Config) (hook : Hook) : Config := { c with onDrop := c.onDrop ++ [hook] }

/-- Whether an error code may be ignored. -/
def isExpectedError (c : Config) (expectingExistence : Bool) (code : Int) : Bool :=
  c.errorCodes.isExpected expectingExistence code

/-! ## Description -/

/-- Named fields in braces. -/
def describeFields (name : String) (fields : List (String × String)) : String :=
  name ++ " \x7b " ++ String.intercalate ", " (fields.map fun (f, v) => f ++ ": " ++ v) ++ " \x7d"

def describeCodes (codes : List Int) : String :=
  "[" ++ String.intercalate ", " (codes.map Int.repr) ++ "]"

def describeBool (b : Bool) : String := if b then "true" else "false"

/-- What can be shown of a configuration: its settings, and how many hooks there are. -/
def describe (c : Config) : String :=
  describeFields "CompilerConfig" [
    ("dialect", match c.dialect with | .xml => "Xml" | .json => "Json"),
    ("meta", describeBool c.metadataView),
    ("synonym", describeBool c.synonym),
    ("on_creation", Nat.repr c.onCreation.length),
    ("on_drop", Nat.repr c.onDrop.length),
    ("error_codes", describeFields "ErrorCodes" [
      ("exists", describeCodes c.errorCodes.whenExists),
      ("missing", describeCodes c.errorCodes.whenMissing)])]

end Config

end DocViews
