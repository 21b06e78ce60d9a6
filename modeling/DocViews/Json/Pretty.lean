import DocViews.Decimal.Shortest
import DocViews.Json
import DocViews.Text.Quoted

/-!
# JSON text

The text of a JSON value over several lines, two spaces for each level. Lists and objects without
members stay on one line.
-/

namespace DocViews.Json

/-- A character within quotes. Control characters are escaped, all others stand for themselves. -/
def escapeChar (c : Char) : String :=
  match c with
  | '\x22' => "\\\x22"
  | '\\' => "\\\\"
  | '\n' => "\\n"
  | '\r' => "\\r"
  | '\t' => "\\t"
  | '\x08' => "\\b"
  | '\x0c' => "\\f"
  | c =>
    if c.toNat < 16 then "\\u000" ++ Text.hex c.toNat
    else if c.toNat < 32 then "\\u00" ++ Text.hex c.toNat
    else String.singleton c

def quote (s : String) : String := "\x22" ++ String.join (s.toList.map escapeChar) ++ "\x22"

/-- The beginning of a line at a level. -/
def newLine (level : Nat) : String := "\n" ++ String.ofList (List.replicate (2 * level) ' ')

mutual

/-- The text of a value on a level, without the indentation of its first line. -/
def prettyAt (level : Nat) : Json → String
  | null => "null"
  | bool b => if b then "true" else "false"
  | num (.int i) => i.repr
  | num (.float x) => Decimal.compact.render x
  | str s => quote s
  | arr [] => "[]"
  | arr (v :: vs) => "[" ++ prettyItems (level + 1) (v :: vs) ++ newLine level ++ "]"
  | obj [] => "\x7b\x7d"
  | obj (f :: fs) => "\x7b" ++ prettyFields (level + 1) (f :: fs) ++ newLine level ++ "\x7d"

def prettyItems (level : Nat) : List Json → String
  | [] => ""
  | [v] => newLine level ++ prettyAt level v
  | v :: vs => newLine level ++ prettyAt level v ++ "," ++ prettyItems level vs

def prettyFields (level : Nat) : List (String × Json) → String
  | [] => ""
  | [(k, v)] => newLine level ++ quote k ++ ": " ++ prettyAt level v
  | (k, v) :: fs =>
    newLine level ++ quote k ++ ": " ++ prettyAt level v ++ "," ++ prettyFields level fs

end

/-- The text of a value. -/
def pretty (j : Json) : String := prettyAt 0 j

end DocViews.Json
