import DocViews.CommandLine.Run

/-!
# The program

Reads its arguments and files, and prints an answer, or what is wrong.
-/

namespace DocViews

/-- How to use the program. -/
def helpText : String :=
  "Compiles document type definitions into SQL\n\n"
    ++ "Usage: docviews [--document <NAME>] [--format text|yaml|json] [FILES] <COMMAND>\n\n"
    ++ "Commands:\n"
    ++ "  create                          Print creation statements\n"
    ++ "  drop                            Print drop statements\n"
    ++ "  grant --grantee <GRANTEE>       Print grant statements\n"
    ++ "  insert                          Print the insert statement\n"
    ++ "  truncate                        Print the truncate statement\n"
    ++ "  bundle                          Print all statements and objects\n"
    ++ "  metadata                        Print which path is in which column\n"
    ++ "  classify --code <CODE> [--missing]\n"
    ++ "                                  Tell whether an error code may be ignored\n"
    ++ "  help [COMMAND]                  Print this text\n"

def versionText : String := "docviews 0.1.0\n"

/-- The files of the disk. What cannot be looked into counts as empty. -/
def diskView : FileView IO where
  isThere path :=
    if path.isEmpty then return false else (IO.FS.DirEntry.mk "." path).path.pathExists
  isFolder path := (IO.FS.DirEntry.mk "." path).path.isDir
  names path :=
    try
      let entries ← (IO.FS.DirEntry.mk "." path).path.readDir
      return entries.toList.map (·.fileName)
    catch _ => return []
  read path := do
    if ← (IO.FS.DirEntry.mk "." path).path.isDir then return .error .isFolder
    try
      match String.fromUTF8? (← IO.FS.readBinFile path) with
      | some text => return .ok text
      | none => return .error .noText
    catch e => return .error (.other (toString e))

/-- Answers an invocation; yields the exit code. -/
def answer (arguments : List String) : IO UInt32 := do
  match CommandLine.Invocation.parse arguments with
  | .error .help =>
    IO.print helpText
    return 0
  | .error .version =>
    IO.print versionText
    return 0
  | .error .wrong =>
    IO.eprint helpText
    return 2
  | .ok invocation =>
    match ← invocation.run diskView with
    | .ok text =>
      IO.print text
      return 0
    | .error e =>
      IO.eprintln ("ERROR:" ++ e.message)
      return 1

end DocViews

def main (arguments : List String) : IO UInt32 := DocViews.answer arguments
