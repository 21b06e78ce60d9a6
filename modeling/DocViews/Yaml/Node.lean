import DocViews.Yaml.Token

/-!
# Nodes

What a YAML document consists of. A node may be given an anchor, and an alias stands for the
anchored node; aliases are kept, because a node may contain an alias to itself.
-/

namespace DocViews.Yaml

/-- A node; its mark tells where it starts, with its anchor and tag. -/
inductive Node where
  | alias (mark : Mark) (anchor : Nat)
  | scalar (mark : Mark) (tag : Option Tag) (text : String) (style : ScalarStyle)
  | sequence (mark : Mark) (tag : Option Tag) (items : List Node)
  | mapping (mark : Mark) (tag : Option Tag) (entries : List (Node × Node))
  deriving Inhabited

/-- An empty plain scalar. -/
def Node.empty (mark : Mark) : Node := .scalar mark none "" .plain

mutual

/-- The number of beginnings and ends in a node. A scalar or alias counts once. -/
def Node.size : Node → Nat
  | .alias .. => 1
  | .scalar .. => 1
  | .sequence _ _ items => sizeOfItems items + 2
  | .mapping _ _ entries => sizeOfEntries entries + 2

def sizeOfItems : List Node → Nat
  | [] => 0
  | n :: ns => n.size + sizeOfItems ns

def sizeOfEntries : List (Node × Node) → Nat
  | [] => 0
  | (k, v) :: es => k.size + v.size + sizeOfEntries es

end

/-- A document: its root, unless the text is empty, and the anchored nodes by number. -/
structure Document where
  root : Option Node
  anchored : List (Nat × Node)

namespace Document

/-- How many aliases may be followed in reading a document. -/
def aliasLimit (d : Document) : Nat := 100 * (d.root.map Node.size).getD 1

end Document

end DocViews.Yaml
