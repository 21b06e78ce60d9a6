/-!
# Quoting in SQL

A text becomes a string literal between single quotes, with every quote inside it written twice.
-/

namespace DocViews.Sql

/-- The characters of a text as they stand inside a string literal. -/
def escapeChars : List Char → List Char
  | [] => []
  | c :: cs => if c = '\x27' then c :: c :: escapeChars cs else c :: escapeChars cs

/-- A text as it stands inside a string literal. -/
def escape (s : String) : String := String.ofList (escapeChars s.toList)

/-- A text as a string literal. -/
def literal (s : String) : String := "'" ++ escape s ++ "'"

/-- Items of a list, separated by commas. -/
def commaSeparated (items : List String) : String := String.intercalate ", " items

end DocViews.Sql
