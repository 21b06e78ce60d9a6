import DocViews.Path
import DocViews.Text.Blank

/-!
# The written form of paths

A path is written as its segments, each after a slash: `/return/{urn:tax}income`. The URI of a
namespace stands in braces before the name and may itself hold slashes and opening braces. When a
path is read, the first slash may be missing and blanks around the whole are ignored.
-/

namespace DocViews

/-! ## Writing -/

/-- A segment with its namespace in braces. -/
def Segment.display (s : Segment) : String :=
  match s.uri with
  | some uri => "\x7b" ++ uri ++ "\x7d" ++ s.name
  | none => s.name

/-- The written form of a path; the empty path is a lone slash. -/
def Path.display (p : Path) : String :=
  if p.isEmpty then "/" else String.join (p.map fun s => "/" ++ s.display)

/-! ## Reading -/

/-- What keeps a text from being a path. -/
inductive PathFault where
  | unterminatedNamespace
  | emptyNamespace
  | emptySegment
  deriving DecidableEq, Repr

def PathFault.message : PathFault → String
  | .unterminatedNamespace => "unterminated namespace"
  | .emptyNamespace => "empty namespace"
  | .emptySegment => "empty segment"

/-- Reads the namespace in front of a name, if there is one: everything up to the first closing
    brace. -/
def takeUri (cs : List Char) : Except PathFault (Option String × List Char) :=
  match cs with
  | '\x7b' :: rest =>
    match rest.dropWhile (· ≠ '\x7d') with
    | [] => .error .unterminatedNamespace
    | _ :: after =>
      if (rest.takeWhile (· ≠ '\x7d')).isEmpty then .error .emptyNamespace
      else .ok (some (String.ofList (rest.takeWhile (· ≠ '\x7d'))), after)
  | _ => .ok (none, cs)

/-- Reads one segment: a namespace if there is one, then a name up to the next slash. -/
def takeSegment (cs : List Char) : Except PathFault (Segment × List Char) :=
  match takeUri cs with
  | .error e => .error e
  | .ok (uri, rest) =>
    if (rest.takeWhile (· ≠ '/')).isEmpty then .error .emptySegment
    else .ok (⟨String.ofList (rest.takeWhile (· ≠ '/')), uri⟩, rest.dropWhile (· ≠ '/'))

theorem length_dropWhile_le (p : α → Bool) (l : List α) : (l.dropWhile p).length ≤ l.length :=
  (List.dropWhile_sublist p).length_le

theorem takeUri_length {cs : List Char} {u : Option String} {rest : List Char}
    (h : takeUri cs = .ok (u, rest)) : rest.length ≤ cs.length := by
  unfold takeUri at h
  split at h
  · rename_i tail
    have hlen := length_dropWhile_le (fun c => decide (c ≠ '\x7d')) tail
    split at h
    · simp at h
    · rename_i after heq
      split at h
      · simp at h
      · simp only [Except.ok.injEq, Prod.mk.injEq] at h
        obtain ⟨_, rfl⟩ := h
        simp only [heq, List.length_cons] at hlen ⊢
        omega
  · simp only [Except.ok.injEq, Prod.mk.injEq] at h
    obtain ⟨_, rfl⟩ := h
    exact Nat.le_refl _

/-- What is left after a segment is no longer than what there was before it. -/
theorem takeSegment_length {cs : List Char} {s : Segment} {rest : List Char}
    (h : takeSegment cs = .ok (s, rest)) : rest.length ≤ cs.length := by
  unfold takeSegment at h
  split at h
  · simp at h
  · rename_i tail heq
    split at h
    · simp at h
    · simp only [Except.ok.injEq, Prod.mk.injEq] at h
      obtain ⟨_, rfl⟩ := h
      exact Nat.le_trans (length_dropWhile_le _ tail) (takeUri_length heq)

/-- Reads a path that holds at least one segment. A slash at the end starts a segment without a
    name. -/
def parseSegments (cs : List Char) : Except PathFault Path :=
  match h : takeSegment cs with
  | .error e => .error e
  | .ok (s, []) => .ok [s]
  | .ok (s, _ :: rest) => do
    have : rest.length < cs.length := Nat.lt_of_succ_le (takeSegment_length h)
    return s :: (← parseSegments rest)
termination_by cs.length

/-- Reads the written form of a path. -/
def Path.parse (text : String) : Except PathFault Path :=
  let trimmed := (Text.trim text).toList
  let body := match trimmed with
    | '/' :: rest => rest
    | _ => trimmed
  if body.isEmpty then .ok [] else parseSegments body

end DocViews
