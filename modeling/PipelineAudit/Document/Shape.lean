import PipelineAudit.Document.Basic

/-!
# The shape of a document

How deep the containers of a document are nested, and how many of its entries are conditions.
Neither re-enters a container through a reference.  `cut` is the finite tree that a document shows
to such a walk.
-/

namespace PipelineAudit.Document

mutual

/-- The document with null in place of each reference to an enclosing container. -/
def cut : Document → Document
  | scalar s => scalar s
  | list items => list (cutItems items)
  | map entries => map (cutEntries entries)
  | up _ => null

/-- `cut` on each of a list of documents. -/
def cutItems : List Document → List Document
  | [] => []
  | d :: rest => d.cut :: cutItems rest

/-- `cut` on each value of a list of entries. -/
def cutEntries : List (Key × Document) → List (Key × Document)
  | [] => []
  | (k, d) :: rest => (k, d.cut) :: cutEntries rest

end

mutual

/-- The depth of the deepest value, if the document itself lies at a given depth; what a
container holds lies one level deeper. -/
def depthFrom (depth : Nat) : Document → Nat
  | scalar _ => depth
  | list items => deepestItem (depth + 1) depth items
  | map entries => deepestValue (depth + 1) depth entries
  | up _ => depth

/-- The depth of the deepest of some items that lie at a given depth, and `least` if there are
none. -/
def deepestItem (depth least : Nat) : List Document → Nat
  | [] => least
  | d :: rest => max (d.depthFrom depth) (deepestItem depth least rest)

/-- The depth of the deepest of some values that lie at a given depth, and `least` if there are
none. -/
def deepestValue (depth least : Nat) : List (Key × Document) → Nat
  | [] => least
  | (_, d) :: rest => max (d.depthFrom depth) (deepestValue depth least rest)

end

/-- The number of containers around the deepest value. -/
def nestingDepth (d : Document) : Nat :=
  d.depthFrom 0

/-- The names of conditions. -/
def conditionNames : List String :=
  ["if", "when", "condition"]

/-- Whether a key names a condition. -/
def isCondition (k : Key) : Bool :=
  conditionNames.any fun name => k.isText name

mutual

/-- The number of entries in the document whose key names a condition. -/
def conditionals : Document → Nat
  | scalar _ => 0
  | list items => itemConditionals items
  | map entries => entryConditionals entries
  | up _ => 0

/-- The number of conditions in a list of documents. -/
def itemConditionals : List Document → Nat
  | [] => 0
  | d :: rest => d.conditionals + itemConditionals rest

/-- The number of conditions among and inside of entries. -/
def entryConditionals : List (Key × Document) → Nat
  | [] => 0
  | (k, d) :: rest => (if isCondition k then 1 else 0) + d.conditionals + entryConditionals rest

end

end PipelineAudit.Document
