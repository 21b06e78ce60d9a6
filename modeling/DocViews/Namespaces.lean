import DocViews.CompileError
import DocViews.Numbering
import DocViews.TextMap

/-!
# Namespace prefixes

In markup a segment that belongs to a namespace is written with a prefix. A policy chooses a
prefix for every namespace of a view. An empty prefix would mean a default namespace.
-/

namespace DocViews

/-- Prefixes by namespace. -/
abbrev Prefixes := TextMap String

/-- Chooses prefixes for a set of namespaces, or refuses some. -/
abbrev NamespacePolicy := TextSet → Except CompileError Prefixes

/-- The `n`-th synthetic prefix. -/
def syntheticPrefix (n : Nat) : String := "ns" ++ Nat.repr n

/-! ## Synthetic prefixes -/

/-- Numbers namespaces in the order of their URIs, or as they come. A namespace that is alone may
    become the default one. -/
structure SyntheticPolicy where
  sorted : Bool := true
  defaultNamespace : Bool := false

/-- Prefixes for namespaces in the order in which they come, repetitions not counted. -/
def SyntheticPolicy.assign (p : SyntheticPolicy) (uris : List String) : Prefixes :=
  let distinct := uris.eraseDups
  let ordered := if p.sorted then distinct.mergeSort (fun a b => decide (a ≤ b)) else distinct
  if p.defaultNamespace ∧ ordered.length = 1 then .ofList (ordered.map fun uri => (uri, ""))
  else .ofList (ordered.zipIdx.map fun (uri, i) => (uri, syntheticPrefix (i + 1)))

def SyntheticPolicy.resolve (p : SyntheticPolicy) : NamespacePolicy := fun uris =>
  .ok (p.assign uris.elems)

/-! ## Given prefixes -/

/-- Prefixes for namespaces in order: the listed one, or else the next synthetic prefix that is not
    listed for any namespace. `last` is the last number used. -/
def assignListed (listed : Prefixes) (last : Nat) : List String → List (String × String)
  | [] => []
  | uri :: uris =>
    match listed.get? uri with
    | some p => (uri, p) :: assignListed listed last uris
    | none =>
      let n := firstFree syntheticPrefix listed.values (last + 1)
      (uri, syntheticPrefix n) :: assignListed listed n uris

/-- Listed prefixes, and synthetic ones for all other namespaces. -/
def fixedPolicy (listed : Prefixes) : NamespacePolicy := fun uris =>
  .ok (.ofList (assignListed listed 0 uris.elems))

/-! ## No namespaces -/

/-- Refuses every namespace. -/
def rejectPolicy : NamespacePolicy := fun uris =>
  if uris.isEmpty then .ok .empty else .error (.unexpectedNamespaces uris.elems)

end DocViews
