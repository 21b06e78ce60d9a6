import DocViews.Decimal.Shortest
import DocViews.Json
import DocViews.Text.Quoted
import DocViews.Yaml.Printer.Style

/-!
# YAML text

The text of a JSON value in block style, two spaces for each level. Lists in a mapping are not
indented further than their keys, and collections without members stay on one line.
-/

namespace DocViews.Yaml

def spaces (n : Nat) : String := String.ofList (List.replicate n ' ')

/-! ## Scalars -/

/-- The text of lines behind a line break, each indented unless it is empty. `fresh` tells
    whether a line begins. -/
def indentLines (indent : Nat) (fresh : Bool) : List Char → String
  | [] => ""
  | c :: cs =>
    if isAnyBreak c then String.singleton c ++ indentLines indent true cs
    else (if fresh then spaces indent else "") ++ String.singleton c ++ indentLines indent false cs

/-- A text in single quotes, which are written twice within it. -/
def singleQuoted (indent : Nat) (s : String) : String :=
  let cs := s.toList.flatMap fun c => if c == '\x27' then ['\x27', '\x27'] else [c]
  let ending := if (cs.getLast?.map isAnyBreak).getD false then spaces indent else ""
  "'" ++ indentLines indent false cs ++ ending ++ "'"

/-- A code point in hexadecimal, with leading zeros. -/
def paddedHex (width n : Nat) : String :=
  let digits := (Text.hex n).map Char.toUpper
  String.ofList (List.replicate (width - digits.length) '0') ++ digits

/-- A character within double quotes. -/
def escaped (c : Char) : String :=
  match c with
  | '\x00' => "\\0"
  | '\x07' => "\\a"
  | '\x08' => "\\b"
  | '\t' => "\\t"
  | '\n' => "\\n"
  | '\x0b' => "\\v"
  | '\x0c' => "\\f"
  | '\r' => "\\r"
  | '\x1b' => "\\e"
  | '\x22' => "\\\x22"
  | '\\' => "\\\\"
  | '\u0085' => "\\N"
  | '\u2028' => "\\L"
  | '\u2029' => "\\P"
  | c =>
    if isWritable c then String.singleton c
    else if c.toNat ≤ 0xFF then "\\x" ++ paddedHex 2 c.toNat
    else if c.toNat ≤ 0xFFFF then "\\u" ++ paddedHex 4 c.toNat
    else "\\U" ++ paddedHex 8 c.toNat

def doubleQuoted (s : String) : String := "\x22" ++ String.join (s.toList.map escaped) ++ "\x22"

/-- The indicator of a literal block: its indentation, if the text does not show it, and what
    becomes of the line breaks at its end. -/
def literalHeader (cs : List Char) : String :=
  let hint := if (cs.head?.map fun c => c == ' ' || isAnyBreak c).getD false then "2" else ""
  let chomping := match (cs.reverse.map isAnyBreak).take 2 with
    | [true, false] => ""
    | true :: _ => "+"
    | _ => "-"
  "|" ++ hint ++ chomping ++ "\n"

/-- The text of a scalar, whose further lines are indented, with the break of its last line. -/
def scalarLines (indent : Nat) (s : String) : String :=
  let cs := s.toList
  match styleOf s with
  | .plain => s ++ "\n"
  | .singleQuoted => singleQuoted indent s ++ "\n"
  | .literal =>
    literalHeader cs ++ indentLines indent true cs
      ++ if (cs.getLast?.map isAnyBreak).getD false then "" else "\n"
  | _ => doubleQuoted s ++ "\n"

/-! ## Collections -/

/-- Whether a key may stand before its colon on one line. -/
def isSimpleKey (key : String) : Bool := !isMultiline key.toList && key.utf8ByteSize ≤ 128

/-- A key, at a given indentation. A long key has an indicator and a line of its own. -/
def keyLines (indent : Nat) (key : String) : String :=
  if isSimpleKey key then ((scalarLines (indent + 2) key).dropEnd 1).copy ++ ":"
  else "? " ++ scalarLines (indent + 2) key ++ spaces indent ++ ":"

/-- What a JSON value that is no collection is written as. -/
def leafLines (indent : Nat) : Json → String
  | .null => "null\n"
  | .bool b => (if b then "true" else "false") ++ "\n"
  | .num (.int i) => i.repr ++ "\n"
  | .num (.float x) => Decimal.compact.render x ++ "\n"
  | .str s => scalarLines indent s
  | .arr _ => "[]\n"
  | .obj _ => "\x7b\x7d\n"

mutual

/-- A value behind an indicator on the same line; `indent` is the column of the indicator. -/
def inlineLines (indent : Nat) : Json → String
  | .arr (v :: vs) => itemLines (indent + 2) (v :: vs)
  | .obj (f :: fs) => entryLines (indent + 2) (f :: fs)
  | v => leafLines (indent + 2) v

/-- The items of a list, without the indentation of the first line. -/
def itemLines (indent : Nat) : List Json → String
  | [] => ""
  | [v] => "- " ++ inlineLines indent v
  | v :: vs => "- " ++ inlineLines indent v ++ spaces indent ++ itemLines indent vs

/-- The value of a key at a given indentation, behind the colon. -/
def valueLines (indent : Nat) (simple : Bool) : Json → String
  | .arr (v :: vs) =>
    if simple then "\n" ++ spaces indent ++ itemLines indent (v :: vs)
    else " " ++ itemLines (indent + 2) (v :: vs)
  | .obj (f :: fs) =>
    if simple then "\n" ++ spaces (indent + 2) ++ entryLines (indent + 2) (f :: fs)
    else " " ++ entryLines (indent + 2) (f :: fs)
  | v => " " ++ leafLines (indent + 2) v

/-- The entries of a mapping, without the indentation of the first line. -/
def entryLines (indent : Nat) : List (String × Json) → String
  | [] => ""
  | [(k, v)] => keyLines indent k ++ valueLines indent (isSimpleKey k) v
  | (k, v) :: es =>
    keyLines indent k ++ valueLines indent (isSimpleKey k) v ++ spaces indent
      ++ entryLines indent es

end

/-- The text of a value. -/
def render : Json → String
  | .arr (v :: vs) => itemLines 0 (v :: vs)
  | .obj (f :: fs) => entryLines 0 (f :: fs)
  | v => leafLines 2 v

end DocViews.Yaml
