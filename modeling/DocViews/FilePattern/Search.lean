import DocViews.FilePattern

/-!
# Searching files

Which paths match a pattern. A search goes from folder to folder, in the order of their names, and
asks no more of the files than a view on them tells.
-/

namespace DocViews

/-- Why a file cannot be read as a text. -/
inductive FileFault where
  | isFolder
  | noText
  | other (reason : String)
  deriving DecidableEq, Repr

def FileFault.message : FileFault → String
  | isFolder => "IO error: Is a directory (os error 21)"
  | noText => "IO error: stream did not contain valid UTF-8"
  | other reason => "IO error: " ++ reason

/-- What can be asked about files, by their paths. -/
structure FileView (m : Type → Type) where
  isThere : String → m Bool
  isFolder : String → m Bool
  /-- The names of what lies in a folder, in any order. -/
  names : String → m (List String)
  read : String → m (Except FileFault String)

/-- A path that goes on from a folder. Going on by an empty name leaves a slash at the end. -/
def joinPath (folder name : String) : String :=
  if folder.endsWith "/" then folder ++ name else folder ++ "/" ++ name

/-- Whether a path stays in the working folder, by single dots alone. -/
def isWorkingFolder (path : String) : Bool :=
  path.startsWith "." && (path.toList.splitOn '/').all fun part => part == [] || part == ['.']

/-- The path of what lies in a folder. The working folder is not named, so an empty name in it leads
    nowhere. -/
def entryPath (folder name : String) : String :=
  if isWorkingFolder folder then name else joinPath folder name

/-- No path has more parts than this. -/
def maxParts : Nat := 4096

namespace FilePattern

variable {m : Type → Type} [Monad m]

mutual

/-- The paths below a folder that match the parts of a pattern. -/
def searchFolder (view : FileView m) (foldersOnly : Bool) (fuel : Nat) (folder : String)
    (parts : List PartPattern) : m (List String) :=
  match fuel, parts with
  | 0, _ => return []
  | _, [] => return []
  | fuel + 1, p :: ps => do
    match p.literal? with
    | some name =>
      let path := entryPath folder name
      let isThere ←
        if name == "." || name == ".." then view.isFolder folder else view.isThere path
      if isThere then searchOn view foldersOnly fuel path ps else return []
    | none =>
      if !(← view.isFolder folder) then return []
      -- the folder itself and the one around it are found only by patterns with a dot
      let dots := ["..", "."].filter fun name => p.beginsWithDot && p.isMatch name
      let special ← dots.mapM fun name =>
        searchOn view foldersOnly fuel (joinPath folder name) ps
      let names := (← view.names folder).mergeSort fun a b => decide (a ≤ b)
      let regular ← names.mapM fun name =>
        searchEntry view foldersOnly fuel (entryPath folder name) name (p :: ps)
      return special.flatten ++ regular.flatten

/-- The paths found from a path whose last part matched. -/
def searchOn (view : FileView m) (foldersOnly : Bool) (fuel : Nat) (path : String)
    (parts : List PartPattern) : m (List String) :=
  match fuel, parts with
  | 0, _ => return []
  | _, [] => do
    if foldersOnly && !(← view.isFolder path) then return [] else return [path]
  | fuel + 1, p :: ps => searchFolder view foldersOnly fuel path (p :: ps)

/-- The paths found from something in a folder. Where any number of folders may stand, it may lie
    in any of them, or be one. -/
def searchEntry (view : FileView m) (foldersOnly : Bool) (fuel : Nat) (path name : String)
    (parts : List PartPattern) : m (List String) :=
  match fuel, parts with
  | 0, _ => return []
  | _, [] => return []
  | fuel + 1, p :: ps => do
    if !p.isAnyFolders then
      if p.isMatch name then searchOn view foldersOnly fuel path ps else return []
    else
      let rest := ps.dropWhile PartPattern.isAnyFolders
      let isFolder ← view.isFolder path
      let here ← match rest with
        | [] => pure (if isFolder then [path] else [])
        | q :: qs => if q.isMatch name then searchOn view foldersOnly fuel path qs else pure []
      let below ← if isFolder then searchFolder view foldersOnly fuel path (p :: rest) else pure []
      return here ++ below

end

/-- The paths that match a pattern, in the order of their parts. -/
def search (view : FileView m) (p : FilePattern) : m (List String) :=
  searchFolder view p.foldersOnly (3 * maxParts) (if p.isAbsolute then "/" else ".") p.parts

end FilePattern

end DocViews
