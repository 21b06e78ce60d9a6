import DocViews.Mismatch
import DocViews.Yaml.Source

/-!
# Faults of YAML texts

A text is either no readable YAML at all, or one of its values does not fit. The message of the
latter tells where the value stands: by the keys and numbers that lead to it, and by line and
column.
-/

namespace DocViews.Yaml

/-! ## Places -/

/-- How a value is reached from the root of a document. -/
inductive Place where
  | root
  | item (parent : Place) (index : Nat)
  | entry (parent : Place) (key : String)
  /-- The value of a key that is no scalar. -/
  | unnamed (parent : Place)
  deriving DecidableEq, Repr, Inhabited

namespace Place

mutual

def render : Place → String
  | root => "."
  | item parent index => parent.render ++ "[" ++ Nat.repr index ++ "]"
  | entry parent key => parent.start ++ key
  | unnamed parent => parent.start ++ "?"

/-- What keys are appended to. -/
def start : Place → String
  | root => ""
  | item parent index => parent.render ++ "[" ++ Nat.repr index ++ "]."
  | entry parent key => parent.start ++ key ++ "."
  | unnamed parent => parent.start ++ "?."

end

end Place

/-! ## Faults -/

inductive Fault where
  | unreadable
  /-- A value that does not fit. Where it stands is filled in by the first reader that knows. -/
  | mismatch (cause : Mismatch) (location : Option (Place × Mark))

/-- How YAML values are called in messages. -/
def vocabulary : Vocabulary := ⟨"unit value", Decimal.plain.render⟩

/-- Line and column, counted from one. The very start of a text is not worth mentioning. -/
def Mark.describe (m : Mark) : String :=
  if m.line = 0 ∧ m.column = 0 then ""
  else " at line " ++ Nat.repr (m.line + 1) ++ " column " ++ Nat.repr (m.column + 1)

namespace Fault

def message : Fault → String
  | unreadable => "YAML error"
  | mismatch cause none => "YAML error: " ++ cause.message vocabulary
  | mismatch cause (some (place, mark)) =>
    let start := if place = .root then "" else place.render ++ ": "
    "YAML error: " ++ start ++ cause.message vocabulary ++ mark.describe

/-- Fills in where a value stands. -/
def locate (place : Place) (mark : Mark) : Fault → Fault
  | mismatch cause none => mismatch cause (some (place, mark))
  | f => f

end Fault

end DocViews.Yaml
