import DocViews.Json.Literal

/-!
# JSON texts

Reading the value that a text stands for. Half a character, which an escape alone can write, is an
error, and so is whatever else is no JSON; of several fields with one name the last counts.
-/

namespace DocViews.Json

open Text (digitsValue?)

/-! ## Strings -/

/-- What a letter behind a backslash stands for. -/
def escaped? : Char → Option Char
  | '\x22' => some '\x22'
  | '\\' => some '\\'
  | '/' => some '/'
  | 'b' => some '\x08'
  | 'f' => some '\x0c'
  | 'n' => some '\n'
  | 'r' => some '\r'
  | 't' => some '\t'
  | _ => none

/-- The first half of a character beyond 16 bits. -/
def isHighHalf (n : Nat) : Bool := 0xD800 ≤ n && n < 0xDC00

/-- The second half of a character beyond 16 bits. -/
def isLowHalf (n : Nat) : Bool := 0xDC00 ≤ n && n < 0xE000

/-- The character with the given halves. -/
def joinHalves (high low : Nat) : Char :=
  Char.ofNat (0x10000 + (high - 0xD800) * 0x400 + (low - 0xDC00))

/-- Reads a string from behind its opening quote. `half` is the first half of a character whose
    second half has to follow, and `read` what was read before, in reverse. -/
def readString (half : Option Nat) (read : List Char) : List Char → Option (String × List Char)
  | [] => none
  | '\\' :: 'u' :: a :: b :: c :: d :: rest => do
    let unit ← digitsValue? 16 [a, b, c, d]
    match half with
    | some high =>
      if isLowHalf unit then readString none (joinHalves high unit :: read) rest else none
    | none =>
      if isHighHalf unit then readString (some unit) read rest
      else if isLowHalf unit then none
      else readString none (Char.ofNat unit :: read) rest
  | c :: rest =>
    if half.isSome then none
    else if c = '\x22' then some (String.ofList read.reverse, rest)
    else if c = '\\' then
      match rest with
      | e :: rest => do readString none ((← escaped? e) :: read) rest
      | [] => none
    else if c.toNat < 32 then none
    else readString none (c :: read) rest

/-! ## Values -/

def skipBlanks (cs : List Char) : List Char :=
  cs.dropWhile fun c => c == ' ' || c == '\t' || c == '\n' || c == '\r'

/-- The values that have a word of their own. -/
def words : List (List Char × Json) :=
  [("null".toList, null), ("true".toList, bool true), ("false".toList, bool false)]

/-- Reads a value that is neither an object nor a list. -/
def readAtom (cs : List Char) : Option (Json × List Char) :=
  match words.find? fun w => w.1.isPrefixOf cs with
  | some (word, value) => some (value, cs.drop word.length)
  | none =>
    match cs with
    | '\x22' :: rest => (readString none [] rest).map fun (s, rest) => (str s, rest)
    | cs => do
      let (literal, rest) ← Literal.read cs
      return (num (← literal.value?), rest)

mutual

/-- Reads the value that a text begins with. -/
def readValue (fuel : Nat) (cs : List Char) : Option (Json × List Char) :=
  match fuel with
  | 0 => none
  | fuel + 1 =>
    match skipBlanks cs with
    | '[' :: rest =>
      match skipBlanks rest with
      | ']' :: rest => some (arr [], rest)
      | rest => (readElements fuel rest).map fun (items, rest) => (arr items, rest)
    | '\x7b' :: rest =>
      match skipBlanks rest with
      | '\x7d' :: rest => some (object [], rest)
      | rest => (readFields fuel rest).map fun (fields, rest) => (object fields, rest)
    | cs => readAtom cs

/-- Reads the items of a list; there is at least one. -/
def readElements (fuel : Nat) (cs : List Char) : Option (List Json × List Char) :=
  match fuel with
  | 0 => none
  | fuel + 1 => do
    let (item, rest) ← readValue fuel cs
    match skipBlanks rest with
    | ',' :: rest => do
      let (items, rest) ← readElements fuel rest
      return (item :: items, rest)
    | ']' :: rest => return ([item], rest)
    | _ => none

/-- Reads the fields of an object; there is at least one. -/
def readFields (fuel : Nat) (cs : List Char) : Option (List (String × Json) × List Char) :=
  match fuel with
  | 0 => none
  | fuel + 1 =>
    match skipBlanks cs with
    | '\x22' :: rest => do
      let (name, rest) ← readString none [] rest
      match skipBlanks rest with
      | ':' :: rest => do
        let (value, rest) ← readValue fuel rest
        match skipBlanks rest with
        | ',' :: rest => do
          let (fields, rest) ← readFields fuel rest
          return ((name, value) :: fields, rest)
        | '\x7d' :: rest => return ([(name, value)], rest)
        | _ => none
      | _ => none
    | _ => none

end

/-- The value that a text stands for. Of two steps in a row at least one takes a character, so twice
    their number is fuel enough. -/
def ofText? (text : String) : Option Json :=
  let cs := text.toList
  match readValue (2 * cs.length + 2) cs with
  | some (value, rest) => if (skipBlanks rest).isEmpty then some value else none
  | none => none

end DocViews.Json
