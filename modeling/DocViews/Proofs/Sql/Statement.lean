import DocViews.Sql.Statement
import Mathlib.Data.List.Forall2

/-!
# What statements are about

Some statements create a table or a view, some drop one, and others do neither. Which object it is
can be told from the statement as well as from its text. A statement given as text is not looked
into.
-/

namespace DocViews.Sql.Statement

/-! ## Objects -/

/-- The table or view that a statement creates. -/
def created? : Statement → Option DbObject
  | .createTable name _ _ _ => some ⟨name, .table⟩
  | .createView name _ => some ⟨name, .view⟩
  | _ => none

/-- The table or view that a statement drops. -/
def dropped? : Statement → Option DbObject
  | .drop object => some object
  | _ => none

/-- The relations that a statement adds. A table comes with the index of its primary key. -/
def relationNames : Statement → List String
  | .createTable name _ _ key => [name, key]
  | .createIndex name _ _ => [name]
  | .createView name _ => [name]
  | _ => []

/-! ## Texts -/

/-- A statement begins by creating an object of this kind and name. -/
def Creates (s : Statement) (o : DbObject) : Prop :=
  ∃ rest, s.render = "CREATE " ++ o.kind.keyword ++ " " ++ o.name ++ " " ++ rest

/-- A statement drops an object of this kind and name. -/
def Drops (s : Statement) (o : DbObject) : Prop :=
  s.render = "DROP " ++ o.kind.keyword ++ " " ++ o.name

/-- The text of a statement begins by saying what it creates. -/
theorem creates_of_created? {s : Statement} {o : DbObject} (h : s.created? = some o) :
    s.Creates o := by
  -- A literal goes on behind the kind or the name, so it is cut there before the sides can agree.
  cases s with
  | createTable name payloadType additional key =>
    cases h
    have hkeyword : "CREATE TABLE " = "CREATE " ++ "TABLE" ++ " " := rfl
    have hspace : " (" = " " ++ "(" := rfl
    unfold Creates render
    simp only [hkeyword, hspace, ObjectKind.keyword, String.append_assoc]
    exact ⟨_, rfl⟩
  | createView name query =>
    cases h
    have hkeyword : "CREATE VIEW " = "CREATE " ++ "VIEW" ++ " " := rfl
    have hspace : " AS " = " " ++ "AS " := rfl
    unfold Creates render
    simp only [hkeyword, hspace, ObjectKind.keyword, String.append_assoc]
    exact ⟨_, rfl⟩
  | _ => cases h

/-- The text of a statement says what it drops. -/
theorem drops_of_dropped? {s : Statement} {o : DbObject} (h : s.dropped? = some o) :
    s.Drops o := by
  cases s with
  | drop object =>
    cases h
    rfl
  | _ => cases h

/-- What is read off some of the statements fits their texts if it does for each statement. -/
theorem forall₂_filterMap {φ : Statement → Option α} {R : Statement → α → Prop}
    (h : ∀ s a, φ s = some a → R s a) (ss : List Statement) :
    List.Forall₂ R (ss.filter fun s => (φ s).isSome) (ss.filterMap φ) := by
  induction ss with
  | nil => exact .nil
  | cons s ss ih =>
    cases hs : φ s with
    -- A statement that nothing can be read off is left out on both sides.
    | none => simpa [hs] using ih
    | some a => simpa [hs] using ⟨h s a hs, ih⟩

theorem forall₂_creates (ss : List Statement) :
    List.Forall₂ Creates (ss.filter (·.created?.isSome)) (ss.filterMap created?) :=
  forall₂_filterMap (fun _ _ => creates_of_created?) ss

theorem forall₂_drops (ss : List Statement) :
    List.Forall₂ Drops (ss.filter (·.dropped?.isSome)) (ss.filterMap dropped?) :=
  forall₂_filterMap (fun _ _ => drops_of_dropped?) ss

end DocViews.Sql.Statement
