import DocViews.CompileError
import DocViews.Naming
import DocViews.View

/-!
# Column names

Every property of a group gets a column of its own, apart from all other columns of the view. The
namer is told which names are taken, and its answer is checked.
-/

namespace DocViews

/-- Names columns in the order of the properties. `reserved` holds the names that are taken,
    `mapped` the paths that have a column. -/
def nameColumns (namer : Namer) (view : String) (reserved : List String) (mapped : List Path) :
    List Property → Except CompileError (List ColumnProperty)
  | [] => .ok []
  | p :: ps =>
    if mapped.contains p.path then .error (.repeatedProperty p.path view)
    else
      let column := namer p.path.names reserved.contains
      if reserved.contains column then .error (.nameCollision .column column view)
      else do
        let rest ← nameColumns namer view (column :: reserved) (p.path :: mapped) ps
        return ⟨p.path, p.scalar, column⟩ :: rest

end DocViews
