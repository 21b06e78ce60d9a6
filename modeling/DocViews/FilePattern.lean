/-!
# File patterns

Patterns for the paths of files. A question mark stands for one character, an asterisk for any
number of them, brackets list characters, and two asterisks stand for any number of folders. A
pattern is matched part by part, so nothing but two asterisks goes across a slash.
-/

namespace DocViews

/-! ## Tokens -/

/-- The characters from the first to the last one. -/
structure CharRange where
  first : Char
  last : Char
  deriving DecidableEq, Repr

inductive PatternToken where
  | char (c : Char)
  | anyChar
  | anyText
  | anyFolders
  | oneOf (ranges : List CharRange)
  | noneOf (ranges : List CharRange)
  deriving DecidableEq, Repr

inductive PatternFault where
  | tooManyAsterisks
  /-- Two asterisks beside something else than a slash. -/
  | mixedFolders
  | openBracket
  deriving DecidableEq, Repr

/-- A fault at a place of a pattern, which counts characters from zero. -/
structure PatternError where
  position : Nat
  fault : PatternFault
  deriving DecidableEq, Repr

def PatternFault.message : PatternFault → String
  | tooManyAsterisks => "wildcards are either regular `*` or recursive `**`"
  | mixedFolders => "recursive wildcards must form a single path component"
  | openBracket => "invalid range pattern"

def PatternError.message (e : PatternError) : String :=
  "Pattern syntax error near position " ++ Nat.repr e.position ++ ": " ++ e.fault.message

/-! ## Reading -/

/-- The ranges in brackets: two characters with a hyphen between them, or one by itself. -/
def charRanges : List Char → List CharRange
  | a :: '-' :: b :: cs => ⟨a, b⟩ :: charRanges cs
  | a :: cs => ⟨a, a⟩ :: charRanges cs
  | [] => []

/-- Reads up to the closing bracket. The first character never closes it. -/
def closeBracket (first : Char) (cs : List Char) : Option (List CharRange × List Char) :=
  match cs.dropWhile (· != ']') with
  | [] => none
  | _ :: rest => some (charRanges (first :: cs.takeWhile (· != ']')), rest)

/-- Reads brackets from behind the opening one. -/
def readBrackets : List Char → Option (PatternToken × List Char)
  | '!' :: c :: cs => (closeBracket c cs).map fun (ranges, rest) => (.noneOf ranges, rest)
  | ['!'] => none
  | c :: cs => (closeBracket c cs).map fun (ranges, rest) => (.oneOf ranges, rest)
  | [] => none

/-- Reads the tokens of a pattern from a position on, behind the character `before` it. Each takes
    at least one character, so `fuel` is at most their number. -/
def readTokens (fuel position : Nat) (before : Option Char) (cs : List Char) :
    Except PatternError (List PatternToken) :=
  match fuel, cs with
  | _, [] => .ok []
  | 0, _ => .ok []
  | fuel + 1, '?' :: rest => do
    return .anyChar :: (← readTokens fuel (position + 1) (some '?') rest)
  | fuel + 1, '*' :: '*' :: rest =>
    if rest.head? = some '*' then .error ⟨position + 2, .tooManyAsterisks⟩
    else if before.any (· != '/') then .error ⟨position - 1, .mixedFolders⟩
    else
      match rest with
      | [] => .ok [.anyFolders]
      | '/' :: rest => do
        return .anyFolders :: (← readTokens fuel (position + 3) (some '/') rest)
      | _ => .error ⟨position + 2, .mixedFolders⟩
  | fuel + 1, '*' :: rest => do
    return .anyText :: (← readTokens fuel (position + 1) (some '*') rest)
  | fuel + 1, '[' :: rest =>
    match readBrackets rest with
    | none => .error ⟨position, .openBracket⟩
    | some (token, rest') => do
      let position := position + 1 + (rest.length - rest'.length)
      return token :: (← readTokens fuel position (some ']') rest')
  | fuel + 1, c :: rest => do
    return .char c :: (← readTokens fuel (position + 1) (some c) rest)

/-- The tokens of a pattern. -/
def patternTokens (s : String) : Except PatternError (List PatternToken) :=
  readTokens s.length 0 none s.toList

/-! ## Parts -/

/-- The pattern for one part of a path. -/
structure PartPattern where
  tokens : List PatternToken
  deriving DecidableEq, Repr

/-- The character that a token stands for if it is no wildcard. -/
def PatternToken.char? : PatternToken → Option Char
  | char c => some c
  | _ => none

namespace PartPattern

/-- Whether the pattern stands for any number of folders. -/
def isAnyFolders (p : PartPattern) : Bool := p.tokens.contains .anyFolders

/-- The only text that matches a pattern without wildcards. -/
def literal? (p : PartPattern) : Option String :=
  (p.tokens.mapM PatternToken.char?).map String.ofList

/-- Whether the pattern begins with a dot. -/
def beginsWithDot (p : PartPattern) : Bool := p.tokens.head? == some (.char '.')

end PartPattern

def CharRange.contains (r : CharRange) (c : Char) : Bool := r.first ≤ c && c ≤ r.last

/-- Whether a token that stands for one character stands for this one. -/
def PatternToken.matchesChar (c : Char) : PatternToken → Bool
  | char d => c == d
  | oneOf ranges => ranges.any (·.contains c)
  | noneOf ranges => !ranges.any (·.contains c)
  | _ => true

/-- What is left of a text behind each of its beginnings. -/
def suffixes : List α → List (List α)
  | [] => [[]]
  | a :: as => (a :: as) :: suffixes as

/-- What may be left of texts behind a token. The texts are ends of one text, the longest first, and
    so are those that are left; hence an asterisk leaves every end of the first one. -/
def PatternToken.remainders (t : PatternToken) (rests : List (List Char)) : List (List Char) :=
  match t with
  | anyText | anyFolders => (rests.head?.map suffixes).getD []
  | _ => rests.filterMap fun rest =>
    match rest with
    | [] => none
    | c :: cs => if t.matchesChar c then some cs else none

/-- Whether tokens match a text as a whole: one after the other they can leave nothing of it. -/
def matchesTokens (ts : List PatternToken) (cs : List Char) : Bool :=
  (ts.foldl (fun rests t => t.remainders rests) [cs]).any List.isEmpty

/-- Whether a name matches a pattern as a whole. -/
def PartPattern.isMatch (p : PartPattern) (name : String) : Bool :=
  matchesTokens p.tokens name.toList

/-! ## Patterns -/

/-- A pattern for paths, relative to the working folder or absolute. -/
structure FilePattern where
  isAbsolute : Bool
  parts : List PartPattern
  /-- Whether only folders match. -/
  foldersOnly : Bool
  deriving DecidableEq, Repr

/-- The parts of a path; behind a slash at its end there is none. -/
def pathParts (cs : List Char) : List (List Char) :=
  match cs.splitOn '/' with
  | parts => if parts.getLast? = some [] then parts.dropLast else parts

/-- Reads a pattern. It must be right as a whole and in each of its parts. -/
def FilePattern.parse (s : String) : Except PatternError FilePattern := do
  let _ ← patternTokens s
  let isAbsolute := s.startsWith "/"
  let cs := s.toList.dropWhile fun c => isAbsolute && c == '/'
  let parts := if isAbsolute && cs.isEmpty then [[]] else pathParts cs
  return {
    isAbsolute
    parts := ← parts.mapM fun part => return ⟨← patternTokens (String.ofList part)⟩
    foldersOnly := s.endsWith "/" }

end DocViews
