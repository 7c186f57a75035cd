import PipelineAudit.Proofs.Finding.Outcomes

/-!
# Conditions on findings

`Findings.Each P Q R` says that each issue satisfies `P`, each optimization `Q` and each
vulnerability `R`.  It holds of findings together if it holds of each.
-/

namespace PipelineAudit

/-- Each finding satisfies the condition on its stream. -/
structure Findings.Each (P : Issue → Prop) (Q : Optimization → Prop) (R : Vulnerability → Prop)
    (found : Findings) : Prop where
  issues : ∀ i ∈ found.issues, P i
  optimizations : ∀ o ∈ found.optimizations, Q o
  vulnerabilities : ∀ v ∈ found.vulnerabilities, R v

namespace Findings.Each

variable {P : Issue → Prop} {Q : Optimization → Prop} {R : Vulnerability → Prop}

/-- What holds of each of some findings holds of each of them together. -/
theorem cumulative (P : Issue → Prop) (Q : Optimization → Prop) (R : Vulnerability → Prop) :
  Cumulative (Findings.Each P Q R)
  := by
  constructor
  · constructor
    · apply List.forall_mem_nil
    · apply List.forall_mem_nil
    · apply List.forall_mem_nil
  · intro a b ha hb
    constructor
    · exact List.forall_mem_append.mpr ⟨ha.issues, hb.issues⟩
    · exact List.forall_mem_append.mpr ⟨ha.optimizations, hb.optimizations⟩
    · exact List.forall_mem_append.mpr ⟨ha.vulnerabilities, hb.vulnerabilities⟩

theorem ofIssues {issues : List Issue} (h : ∀ i ∈ issues, P i) :
  (Findings.ofIssues issues).Each P Q R
  := by
  constructor
  · exact h
  · apply List.forall_mem_nil
  · apply List.forall_mem_nil

theorem ofOptimizations {optimizations : List Optimization} (h : ∀ o ∈ optimizations, Q o) :
  (Findings.ofOptimizations optimizations).Each P Q R
  := by
  constructor
  · apply List.forall_mem_nil
  · exact h
  · apply List.forall_mem_nil

theorem ofVulnerabilities {vulnerabilities : List Vulnerability}
    (h : ∀ v ∈ vulnerabilities, R v) :
  (Findings.ofVulnerabilities vulnerabilities).Each P Q R
  := by
  constructor
  · apply List.forall_mem_nil
  · apply List.forall_mem_nil
  · exact h

theorem issue {i : Issue} (h : P i) :
  (Findings.issue i).Each P Q R
  := ofIssues (List.forall_mem_singleton.mpr h)

theorem optimization {o : Optimization} (h : Q o) :
  (Findings.optimization o).Each P Q R
  := ofOptimizations (List.forall_mem_singleton.mpr h)

end Findings.Each

end PipelineAudit
