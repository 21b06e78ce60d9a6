import DocViews.CommandLine.Arguments

/-!
# The command line

What can be asked for on the command line: statements of all document types that the files of a
pattern define, or whether an error code may be ignored.
-/

namespace DocViews.CommandLine

/-- How an answer is written. -/
inductive OutputFormat where
  | text
  | yaml
  | json
  deriving DecidableEq, Repr

def OutputFormat.ofName? : String → Option OutputFormat
  | "text" => some .text
  | "yaml" => some .yaml
  | "json" => some .json
  | _ => none

inductive Command where
  | create
  | drop
  | grant (grantee : String)
  | insert
  | truncate
  | bundle
  | metadata
  /-- Classifies an error code, expecting that an object is missing or that it exists. -/
  | classify (code : String) (missing : Bool)
  deriving DecidableEq, Repr

/-- A command with what is common to all commands. -/
structure Invocation where
  /-- The pattern of the definition files. -/
  pattern : Option String
  /-- The only document type to compile. -/
  document : Option String
  format : OutputFormat
  command : Command
  deriving DecidableEq, Repr

/-! ## Commands -/

def commandNames : List String :=
  ["create", "drop", "grant", "insert", "truncate", "bundle", "metadata", "classify"]

/-- What a command accepts. -/
def commandSignature : String → Signature
  | "grant" => { options := ["grantee"] }
  | "classify" => { options := ["code"], flags := ["missing"] }
  | _ => {}

/-- The command of a name with its arguments, unless one is missing. -/
def commandOf? (name : String) (a : Arguments) : Option Command :=
  match name with
  | "create" => some .create
  | "drop" => some .drop
  | "grant" => (a.values.lookup "grantee").map .grant
  | "insert" => some .insert
  | "truncate" => some .truncate
  | "bundle" => some .bundle
  | "metadata" => some .metadata
  | "classify" => (a.values.lookup "code").map fun code =>
      .classify code (a.flags.contains "missing")
  | _ => none

/-- What may stand before a command. -/
def signature : Signature where
  options := ["document", "format"]
  others := 1
  accepts option value := option != "format" || (OutputFormat.ofName? value).isSome
  commands := commandNames ++ ["help"]
  hasVersion := true

/-- Help is given on all commands or on one of them. -/
def helpOn (arguments : List String) : Usage :=
  match arguments with
  | [] => .help
  | [name] => if signature.commands.contains name then .help else .wrong
  | _ => .wrong

/-- Reads a command with its arguments. -/
def readCommand (name : String) (arguments : List String) : Except Usage Command := do
  let sig := commandSignature name
  let (a, _) ← sig.read {} arguments
  match commandOf? name (← sig.settle a) with
  | some command => return command
  | none => throw .wrong

/-- Reads the arguments of the program. There must be a command. -/
def Invocation.parse (arguments : List String) : Except Usage Invocation := do
  match ← signature.read {} arguments with
  | (_, none) => throw .wrong
  | (_, some ("help", rest)) => throw (helpOn rest)
  | (a, some (name, rest)) =>
    let command ← readCommand name rest
    let a ← signature.settle a
    return {
      pattern := a.others.head?
      document := a.values.lookup "document"
      format := ((a.values.lookup "format").bind OutputFormat.ofName?).getD .text
      command }

end DocViews.CommandLine
