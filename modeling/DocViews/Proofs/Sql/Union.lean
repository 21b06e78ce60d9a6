import DocViews.Proofs.Sql.Tokens
import DocViews.Sql.Query
import Mathlib.Data.List.Forall2

/-!
# Unions of constant rows

The query behind the metadata view selects constants, row by row. It can be read without knowing
what it was written from: the text is cut into tokens, the tokens at each `UNION ALL`, and each
part is a row of named constants, perhaps under a condition. What is read from the query is the
seed row, whose condition never holds, and one row for each mapping with the texts of the mapping.
-/

namespace DocViews.Sql

/-! ## Reading rows -/

/-- A constant under a name; without a value it is null. -/
structure NamedConstant where
  value : Option String
  name : String
  deriving DecidableEq, Repr

/-- A row of constants, which appears only if two words are equal where there is a condition. -/
structure ConstantRow where
  constants : List NamedConstant
  condition : Option (String × String) := none
  deriving DecidableEq, Repr

/-- The value of a constant. -/
def Token.constant? : Token → Option (Option String)
  | word text => if text = "NULL" then some none else none
  | quoted kind text => if kind = .literal then some (some text) else none
  | symbol _ => none

/-- Reads constants between commas, each with its name. -/
def readConstants : List Token → Option (List NamedConstant × List Token)
  | value :: .word "AS" :: .word name :: .symbol ',' :: ts => do
    let v ← value.constant?
    let (constants, rest) ← readConstants ts
    return (⟨v, name⟩ :: constants, rest)
  | value :: .word "AS" :: .word name :: ts => do
    return ([⟨← value.constant?, name⟩], ts)
  | _ => none

/-- Reads what follows the constants of a row. -/
def readCondition : List Token → Option (Option (String × String))
  | [] => some none
  | [.word "WHERE", .word a, .symbol '=', .word b] => some (some (a, b))
  | _ => none

def readRow : List Token → Option ConstantRow
  | .word "SELECT" :: ts => do
    let (constants, rest) ← readConstants ts
    return ⟨constants, ← readCondition rest⟩
  | _ => none

/-- The parts of a query between the words that unite them. -/
def splitUnion : List Token → List (List Token)
  | [] => [[]]
  | .word "UNION" :: .word "ALL" :: ts => [] :: splitUnion ts
  | t :: ts => (splitUnion ts).modifyHead (t :: ·)

/-- Reads a union of constant rows. -/
def readUnion (text : String) : Option (List ConstantRow) := do
  (splitUnion (← tokens text)).mapM readRow

/-! ## Rows of a query -/

def ConstantRow.seed : ConstantRow where
  constants := [⟨none, "PATH"⟩, ⟨none, "OBJECT"⟩, ⟨none, "NAME"⟩]
  condition := some ("0", "1")

/-- The row that a mapping stands for. -/
def Mapping.row (m : Mapping) : ConstantRow where
  constants := [⟨some m.path, "PATH"⟩, ⟨some m.view, "OBJECT"⟩, ⟨some m.column, "NAME"⟩]

/-- The tokens of a mapping's row. -/
def Mapping.tokens (m : Mapping) : List Token :=
  [.word "SELECT", .quoted .literal m.path, .word "AS", .word "PATH", .symbol ',',
    .quoted .literal m.view, .word "AS", .word "OBJECT", .symbol ',',
    .quoted .literal m.column, .word "AS", .word "NAME"]

/-- The tokens of the seed row. -/
def seedTokens : List Token :=
  [.word "SELECT", .word "NULL", .word "AS", .word "PATH", .symbol ',',
    .word "NULL", .word "AS", .word "OBJECT", .symbol ',', .word "NULL", .word "AS", .word "NAME",
    .word "WHERE", .word "0", .symbol '=', .word "1"]

theorem tokens_seedRow : tokens seedRow = some seedTokens := rfl

theorem Mapping.tokens_render (m : Mapping) : Sql.tokens m.render = some m.tokens := by
  have hblanks : m.render = "SELECT" ++ " " ++ (literal m.path ++ " " ++ ("AS PATH," ++ " " ++
      (literal m.view ++ " " ++ ("AS OBJECT," ++ " " ++ (literal m.column ++ " " ++
        "AS NAME"))))) := by
    have hselect : "SELECT " = "SELECT" ++ " " := rfl
    have hpath : " AS PATH, " = " " ++ "AS PATH," ++ " " := rfl
    have hobject : " AS OBJECT, " = " " ++ "AS OBJECT," ++ " " := rfl
    have hname : " AS NAME" = " " ++ "AS NAME" := rfl
    simp only [Mapping.render, hselect, hpath, hobject, hname, String.append_assoc]
  have hselect : Sql.tokens "SELECT" = some [.word "SELECT"] := rfl
  have hpath : Sql.tokens "AS PATH," = some [.word "AS", .word "PATH", .symbol ','] := rfl
  have hobject : Sql.tokens "AS OBJECT," = some [.word "AS", .word "OBJECT", .symbol ','] := rfl
  have hname : Sql.tokens "AS NAME" = some [.word "AS", .word "NAME"] := rfl
  rw [hblanks, tokens_append_blank hselect, tokens_append_blank (tokens_literal _),
    tokens_append_blank hpath, tokens_append_blank (tokens_literal _), tokens_append_blank hobject,
    tokens_append_blank (tokens_literal _), hname]
  rfl

theorem readRow_seedTokens : readRow seedTokens = some .seed := rfl

theorem Mapping.readRow_tokens (m : Mapping) : readRow m.tokens = some m.row := rfl

/-! ## Unions -/

/-- The words that unite the parts of a query. -/
def unionTokens : List Token := [.word "UNION", .word "ALL"]

/-- Parts that are complete in themselves are read one by one. -/
theorem tokens_intercalate_union {texts : List String} {parts : List (List Token)}
    (h : List.Forall₂ (fun text part => tokens text = some part) texts parts) :
    tokens (String.intercalate " UNION ALL " texts) = some (unionTokens.intercalate parts) := by
  induction h with
  | nil => rfl
  | @cons text part texts parts htext hrest ih =>
    cases hrest with
    | nil => rwa [String.intercalate_singleton, List.intercalate_singleton]
    | @cons next nextPart texts parts hnext hrest =>
      have hunion : " UNION ALL " = " " ++ "UNION ALL" ++ " " := rfl
      have hwords : tokens "UNION ALL" = some unionTokens := rfl
      have hblanks : String.intercalate " UNION ALL " (text :: next :: texts) =
          text ++ " " ++ ("UNION ALL" ++ " " ++
            String.intercalate " UNION ALL " (next :: texts)) := by
        rw [String.intercalate_cons_cons, hunion]
        simp only [String.append_assoc]
      rw [hblanks, tokens_append_blank htext, tokens_append_blank hwords, ih,
        List.intercalate_cons_cons]
      simp

theorem splitUnion_append {part : List Token} (hpart : .word "UNION" ∉ part) (ts : List Token) :
    splitUnion (part ++ ts) = (splitUnion ts).modifyHead (part ++ ·) := by
  induction part with
  | nil => cases hparts : splitUnion ts <;> simp [hparts]
  | cons t part ih =>
    -- The token is not the uniting word, so it goes to the first part of what follows.
    obtain ⟨ht, hpart⟩ := not_or.1 (List.mem_cons.not.1 hpart)
    have hsplit : splitUnion (t :: (part ++ ts)) =
        (splitUnion (part ++ ts)).modifyHead (t :: ·) := by
      rw [splitUnion]
      rintro rest rfl
      exact absurd rfl ht
    rw [List.cons_append, hsplit, ih hpart, List.modifyHead_modifyHead]
    rfl

/-- The parts of a union are found again if the uniting word is in none of them. -/
theorem splitUnion_intercalate {part : List Token} {parts : List (List Token)}
    (h : ∀ p ∈ part :: parts, .word "UNION" ∉ p) :
    splitUnion (unionTokens.intercalate (part :: parts)) = part :: parts := by
  induction parts generalizing part with
  | nil =>
    have hsplit := splitUnion_append (h part List.mem_cons_self) []
    rw [List.append_nil] at hsplit
    rw [List.intercalate_singleton, hsplit]
    simp [splitUnion]
  | cons next parts ih =>
    obtain ⟨hpart, hparts⟩ := List.forall_mem_cons.1 h
    rw [List.intercalate_cons_cons, List.append_assoc, splitUnion_append hpart, unionTokens]
    simp only [List.cons_append, List.nil_append, splitUnion]
    rw [← unionTokens, ih hparts]
    simp

/-- Reading every part yields every row. -/
theorem mapM_readRow {parts : List (List Token)} {rows : List ConstantRow}
    (h : List.Forall₂ (fun part row => readRow part = some row) parts rows) :
    parts.mapM readRow = some rows := by
  induction h with
  | nil => rfl
  | cons hrow _ ih =>
    rw [List.mapM_cons, hrow, ih]
    rfl

/-- The query is read as the seed row and a row for each mapping, in order and with the texts of
    the mapping, whatever stands in them. -/
theorem readUnion_mappings (rows : List Mapping) :
    readUnion (Query.mappings rows).render = some (.seed :: rows.map (·.row)) := by
  have htokens : tokens (Query.mappings rows).render =
      some (unionTokens.intercalate (seedTokens :: rows.map (·.tokens))) := by
    refine tokens_intercalate_union (.cons tokens_seedRow ?_)
    rw [List.forall₂_map_left_iff, List.forall₂_map_right_iff, List.forall₂_same]
    exact fun m _ => m.tokens_render
  have hsplit : splitUnion (unionTokens.intercalate (seedTokens :: rows.map (·.tokens))) =
      seedTokens :: rows.map (·.tokens) := by
    refine splitUnion_intercalate (List.forall_mem_cons.2 ⟨by decide, ?_⟩)
    rw [List.forall_mem_map]
    intro m _
    simp [Mapping.tokens]
  have hread : (seedTokens :: rows.map (·.tokens)).mapM readRow =
      some (.seed :: rows.map (·.row)) := by
    refine mapM_readRow (.cons readRow_seedTokens ?_)
    rw [List.forall₂_map_left_iff, List.forall₂_map_right_iff, List.forall₂_same]
    exact fun m _ => m.readRow_tokens
  rw [readUnion, htokens]
  simp only [Option.bind_eq_bind, Option.bind_some, hsplit, hread]

end DocViews.Sql
