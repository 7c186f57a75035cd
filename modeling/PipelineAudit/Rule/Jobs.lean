import PipelineAudit.Rule.Basic
import PipelineAudit.Workflow

/-!
# Checks of jobs

Many rules check the jobs of a workflow one after the other.  Each job is named before it is
checked, so that such a check fails on the first job whose name cannot be written, after having
reported on the jobs before it.
-/

namespace PipelineAudit.Workflow

/-- The outcome of a check on each job of a workflow. -/
def eachJob (document : Document) (check : String × Document → Outcome) : Outcome :=
  .each (fun entry => .reading (Document.named entry) check) (jobEntries document)

end PipelineAudit.Workflow
