import PipelineAudit.Proofs.Finding.Outcomes
import PipelineAudit.Rule.Jobs

/-!
# Checks of jobs

* `Cumulative.eachJob`: a condition on findings that holds of the check of each job holds of the
  check of all jobs, wherever it stops.
* `Workflow.issues_eachJob`: what a check of each job files, up to where it stops.
-/

namespace PipelineAudit

/-- What holds of the check of each job holds of the check of the jobs of a workflow. -/
theorem Cumulative.eachJob {P : Findings → Prop} (h : Cumulative P) {document : Document}
    {check : String × Document → Outcome}
    (hc : ∀ e ∈ Workflow.jobEntries document, P (check (Document.displayed e)).findings) :
  P (Workflow.eachJob document check).findings
  := by
  apply h.each
  intro e he
  apply h.reading
  intro job hjob
  rw [Document.named_eq, ifWritable_eq_ok] at hjob
  rw [← hjob.2]
  exact hc e he

namespace Workflow

variable {document : Document}

/-- A check that fails on no job fails if and only if a job cannot be named. -/
theorem failure_eachJob_done_eq_none_iff {report : String × Document → Findings} :
  (eachJob document fun job => .done (report job)).failure = none ↔
    ∀ e ∈ jobEntries document, e.1.isWritable
  := by
  rw [eachJob, Outcome.failure_each_eq_none_iff]
  apply forall₂_congr
  intro e _
  rw [Document.named_eq]
  cases e.1.isWritable <;> simp [Outcome.done, Outcome.failed]

/-- A check that files issues about jobs has filed those about the jobs up to the first that cannot
be named. -/
theorem issues_eachJob (issues : String × Document → List Issue) :
  (eachJob document fun job => .done (.ofIssues (issues job))).findings.issues =
    ((jobEntries document).takeWhile (·.1.isWritable)).flatMap fun e =>
      issues (Document.displayed e)
  := by
  apply Outcome.issues_each
  · intro e _ he
    rw [Document.named_eq, he]
    rfl
  · intro e _ he
    refine ⟨.longInteger, ?_⟩
    rw [Document.named_eq, he]
    rfl

end Workflow

end PipelineAudit
