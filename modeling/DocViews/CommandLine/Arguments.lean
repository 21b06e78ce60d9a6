/-!
# Arguments

How the arguments of a command are read. Long options take a value, as the next argument or behind
an equals sign, or none; none may be repeated. A value is judged only when the next option or
other argument comes, so a request for help may come first.
-/

namespace DocViews.CommandLine

/-- Why arguments lead to no command. -/
inductive Usage where
  | help
  | version
  | wrong
  deriving DecidableEq, Repr

/-- What a command accepts. -/
structure Signature where
  /-- Options with a value. -/
  options : List String := []
  /-- Options without one. -/
  flags : List String := []
  /-- How many other arguments there may be. -/
  others : Nat := 0
  /-- Whether a value is allowed for an option. -/
  accepts : String → String → Bool := fun _ _ => true
  /-- The names of commands that take the remaining arguments. -/
  commands : List String := []
  /-- Whether the version can be asked for. -/
  hasVersion : Bool := false

/-- An option that is still to be settled. -/
inductive Pending where
  | nothing
  | awaiting (option : String)
  | given (option value : String)
  deriving DecidableEq, Repr

/-- What was read of the arguments of a command. -/
structure Arguments where
  values : List (String × String) := []
  flags : List String := []
  others : List String := []
  pending : Pending := .nothing
  /-- Whether options and commands have ended. -/
  ended : Bool := false
  deriving Repr

namespace Signature

variable (sig : Signature)

/-- Sets an option that has no value yet. -/
def setOption (a : Arguments) (option value : String) : Except Usage Arguments :=
  if (a.values.lookup option).isSome || !sig.accepts option value then .error .wrong
  else .ok { a with values := a.values ++ [(option, value)] }

/-- Settles the pending option, which must have its value by now. -/
def settle (a : Arguments) : Except Usage Arguments :=
  match a.pending with
  | .nothing => .ok a
  | .awaiting _ => .error .wrong
  | .given option value => sig.setOption { a with pending := .nothing } option value

/-- A long option with its value, if it has one attached. -/
def splitOption (argument : String) : String × Option String :=
  let cs := argument.toList.drop 2
  let name := String.ofList (cs.takeWhile (· != '='))
  match cs.dropWhile (· != '=') with
  | [] => (name, none)
  | _ :: value => (name, some (String.ofList value))

/-- Reads a long option. -/
def readOption (a : Arguments) (name : String) (value : Option String) : Except Usage Arguments :=
  if sig.options.contains name then do
    let a ← sig.settle a
    match value with
    | some v => sig.setOption a name v
    | none => return { a with pending := .awaiting name }
  else if value.isSome then .error .wrong
  else if name == "help" then do
    let _ ← sig.settle a
    .error .help
  else if name == "version" && sig.hasVersion then do
    let _ ← sig.settle a
    .error .version
  else if sig.flags.contains name then do
    let a ← sig.settle a
    if a.flags.contains name then .error .wrong else return { a with flags := name :: a.flags }
  else .error .wrong

/-- Reads short options, the first of which decides. -/
def readLetters (a : Arguments) (letters : List Char) : Except Usage Arguments := do
  let _ ← sig.settle a
  match letters with
  | 'h' :: _ => throw .help
  | 'V' :: _ => throw (if sig.hasVersion then .version else .wrong)
  | _ => throw .wrong

/-- Reads an argument that is neither an option nor a value of one. -/
def readOther (a : Arguments) (argument : String) : Except Usage Arguments := do
  let a ← sig.settle a
  if a.others.length < sig.others then return { a with others := a.others ++ [argument] }
  else throw .wrong

/-- Reads one argument that is no command. -/
def readArgument (a : Arguments) (argument : String) : Except Usage Arguments :=
  if a.ended then sig.readOther a argument
  else if argument == "--" then .ok { a with ended := true }
  else if argument.startsWith "--" then
    let (name, value) := splitOption argument
    sig.readOption a name value
  else if argument.startsWith "-" && argument != "-" then
    sig.readLetters a (argument.toList.drop 1)
  else
    match a.pending with
    | .awaiting option => .ok { a with pending := .given option argument }
    | _ => sig.readOther a argument

/-- Whether an argument may be the name of a command. -/
def expectsCommand (a : Arguments) : Bool :=
  !a.ended && match a.pending with
    | .awaiting _ => false
    | _ => true

/-- Reads arguments up to the name of a command; yields it with the arguments behind it. -/
def read (a : Arguments) : List String → Except Usage (Arguments × Option (String × List String))
  | [] => .ok (a, none)
  | argument :: rest =>
    if expectsCommand a && sig.commands.contains argument then .ok (a, some (argument, rest))
    else do read (← sig.readArgument a argument) rest

end Signature

end DocViews.CommandLine
