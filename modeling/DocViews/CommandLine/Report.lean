import DocViews.Catalog
import DocViews.CommandLine
import DocViews.Json.Pretty
import DocViews.Text.Digits
import DocViews.Width
import DocViews.Yaml.Printer

/-!
# Answers

What the commands print. As text, statements end in semicolons and document types are told apart by
comment lines; otherwise the answer is one JSON value, whose fields are listed by name.
-/

namespace DocViews.CommandLine

/-! ## Values -/

/-- The text of a value; plain text has no form for values of its own. -/
def OutputFormat.render (f : OutputFormat) (j : Json) : String :=
  match f with
  | json => j.pretty ++ "\n"
  | yaml | text => Yaml.render j

def metadataJson (m : ViewMetadata) : Json :=
  .object [("view", .str m.view),
    ("columns", .arr (m.columns.map fun (path, column) => .texts [path, column]))]

def objectJson (o : Sql.DbObject) : Json :=
  .object [("name", .str o.name), ("kind", .str o.kind.keyword)]

def bundleJson (b : Bundle Json) : Json :=
  .object [
    ("base", .str b.base),
    ("creation", .texts (b.creation.map (·.render))),
    ("drops", .texts (b.drops.map (·.render))),
    ("grants", .texts b.grantTemplates),
    ("insert", .str b.insert.render),
    ("truncate", .str b.truncate.render),
    ("objects", .arr (b.objects.map objectJson)),
    ("metadata", .arr (b.metadata.map metadataJson))]

/-- One field for each document type. -/
def catalogJson (c : Catalog) (value : Bundle Json → Json) : Json :=
  .object (c.map fun (name, b) => (name, value b))

/-! ## Statements -/

def sqlText (statements : List String) : String := String.join (statements.map (· ++ ";\n"))

/-- The statements of all document types. A single one needs no name. -/
def statementsReport (f : OutputFormat) (c : Catalog) (statements : Bundle Json → List String) :
    String :=
  match f with
  | .text => String.join (c.map fun (name, b) =>
      (if 1 < c.length then "-- " ++ name ++ "\n" else "") ++ sqlText (statements b))
  | f => f.render (catalogJson c fun b => .texts (statements b))

/-- All statements of a document type, by what they are for. -/
def bundleText (name : String) (b : Bundle Json) : String :=
  let part (purpose : String) (statements : List String) :=
    "-- " ++ name ++ ": " ++ purpose ++ "\n" ++ sqlText statements
  part "creation" (b.creation.map (·.render)) ++ part "drop" (b.drops.map (·.render))
    ++ part "grant" b.grantTemplates ++ part "insert" [b.insert.render]
    ++ part "truncate" [b.truncate.render]

def bundleReport (f : OutputFormat) (c : Catalog) : String :=
  match f with
  | .text => String.join (c.map fun (name, b) => bundleText name b)
  | f => f.render (catalogJson c bundleJson)

/-- One line for each mapping, with tabs between view, column and path. -/
def metadataText (m : ViewMetadata) : String :=
  String.join (m.columns.map fun (path, column) => m.view ++ "\t" ++ column ++ "\t" ++ path ++ "\n")

def metadataReport (f : OutputFormat) (c : Catalog) : String :=
  match f with
  | .text => String.join (c.flatMap fun (_, b) => b.metadata.map metadataText)
  | f => f.render (catalogJson c fun b => .arr (b.metadata.map metadataJson))

/-! ## Error codes -/

/-- Whether a code of any kind may be ignored: it is looked up as a number of 32 bits among the
    usual codes, and as a standard state, as some of these consist of digits. -/
def isExpectedCode (expectingExistence : Bool) (code : String) : Bool :=
  let code := Text.trim code
  let isLegacy := match Text.integer? code with
    | some i => fitsSigned 32 i && ErrorCodes.legacy.isExpected expectingExistence i
    | none => false
  isLegacy || isExpectedState expectingExistence code

def classifyReport (f : OutputFormat) (code : String) (missing : Bool) : String :=
  let expected := isExpectedCode (!missing) code
  match f with
  | .text => (if expected then "expected" else "unexpected") ++ "\n"
  | f => f.render (.object [("code", .str code),
      ("expecting", .str (if missing then "missing" else "exists")), ("expected", .bool expected)])

/-! ## Commands -/

/-- What a command prints about a catalog. -/
def Command.report (command : Command) (f : OutputFormat) (c : Catalog) : String :=
  match command with
  | create => statementsReport f c fun b => b.creation.map (·.render)
  | drop => statementsReport f c fun b => b.drops.map (·.render)
  | grant grantee => statementsReport f c fun b => b.grants grantee
  | insert => statementsReport f c fun b => [b.insert.render]
  | truncate => statementsReport f c fun b => [b.truncate.render]
  | bundle => bundleReport f c
  | metadata => metadataReport f c
  | classify code missing => classifyReport f code missing

end DocViews.CommandLine
