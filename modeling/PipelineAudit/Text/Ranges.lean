/-!
# Sets of characters given by ranges

A set of characters is written as the list of its maximal ranges of code points.
-/

namespace PipelineAudit.Text

/-- Closed ranges of code points. -/
abbrev Ranges : Type := List (Nat × Nat)

/-- Whether a character lies in one of the ranges. -/
def Ranges.has (ranges : Ranges) (c : Char) : Bool :=
  ranges.any fun r => r.1 ≤ c.toNat && c.toNat ≤ r.2

end PipelineAudit.Text
