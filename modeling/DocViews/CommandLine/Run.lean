import DocViews.CommandLine.Report
import DocViews.Definition.Reading
import DocViews.FilePattern.Search

/-!
# Running a command

From an invocation to what is printed, or to why it fails. Files are seen only through a view on
them, so a run is the same on a disk and in memory.
-/

namespace DocViews.CommandLine

/-- Why a definition file cannot be read. -/
inductive SourceFault where
  | file (fault : FileFault)
  | yaml (fault : Yaml.Fault)

def SourceFault.message : SourceFault → String
  | file fault => fault.message
  | yaml fault => fault.message

inductive RunError where
  /-- A command needs definition files, but no pattern is given. -/
  | noPattern
  | pattern (error : PatternError)
  | load (text : String) (error : CatalogError SourceFault)

def RunError.message : RunError → String
  | noPattern => "No definition file given"
  | pattern error => error.message
  | load _ (.file fault) => fault.message
  | load _ (.definition cause) => cause.message
  | load _ (.repeatedDocument name) => "Document type '" ++ name ++ "' is defined more than once"
  | load _ (.unknownDocument name) => "Unknown document type '" ++ name ++ "'"
  | load text .noFiles => "No definition files match '" ++ text ++ "'"

variable {m : Type → Type} [Monad m]

/-- Reads the definitions of a file. -/
def readDefinitions (view : FileView m) (path : String) : m (Except SourceFault Definitions) := do
  match ← view.read path with
  | .ok text => return (Definitions.parse text).mapError .yaml
  | .error fault => return .error (.file fault)

/-- Loads the document types of all files that match a pattern. -/
def loadCatalog (view : FileView m) (pattern : String) (document : Option String) :
    m (Except RunError Catalog) := do
  match FilePattern.parse pattern with
  | .error error => return .error (.pattern error)
  | .ok p =>
    let files ← (← p.search view).mapM (readDefinitions view)
    return (Catalog.load document files).mapError (.load pattern)

/-- What an invocation prints. Classifying an error code needs no files. -/
def Invocation.run (view : FileView m) (i : Invocation) : m (Except RunError String) := do
  match i.command, i.pattern with
  | .classify code missing, _ => return .ok (classifyReport i.format code missing)
  | _, none => return .error .noPattern
  | command, some pattern =>
    return (← loadCatalog view pattern i.document).map (command.report i.format)

end DocViews.CommandLine
