import PipelineAudit.Proofs.Rule.Names
import PipelineAudit.Rule.Catalog

/-!
# The ids of the default rules' issues

The default rules file their issues under finitely many ids, whatever they look at.
-/

namespace PipelineAudit

namespace Catalog

/-- The ids under which the default rules file issues. -/
def issueIds : List String := [
  "broad-permissions", "sudo-usage", "unpinned-action", "insecure-env-var",
  "missing-audit-logging", "data-handling-compliance", "missing-encryption",
  "missing-vuln-scanning", "missing-dep-scanning", "missing-container-scanning",
  "hardcoded-localhost-urls", "hardcoded-localhost-ip-addresses", "insecure-http-urls",
  "using--latest--tag-for-docker-images", "hard-coded-sleep-delays",
  "unresolved-todo-fixme-comments", "static-cache-key", "long-timeout", "large-matrix-strategy",
  "short-job-name", "complex-step-no-name", "job-naming-convention", "non-descriptive-job-name",
  "step-naming-convention", "env-var-naming", "workflow-var-naming", "environment-naming",
  "high-job-complexity", "deep-nesting", "high-conditional-complexity"]

variable (document : Document) (source : Source)

/-! ### Security -/

theorem broadPermissions_ids :
  HaveIds issueIds (Rule.broadPermissions.check document source).findings.issues
  := by
  apply HaveIds.append
  · exact .ite (.single (by simp [issueIds]) rfl) .nil
  · exact .ite .nil (.single (by simp [issueIds]) rfl)

theorem unpinnedActionVersions_ids :
  HaveIds issueIds (Rule.unpinnedActionVersions.check document source).findings.issues
  := by
  apply HaveIds.filterMap
  rintro ⟨action, version⟩ i hi
  dsimp only at hi
  split at hi
  · cases hi
  · cases hi
    exact ⟨"unpinned-action", by simp [issueIds], rfl⟩

theorem insecureEnvironmentVariables_ids :
  HaveIds issueIds (Rule.insecureEnvironmentVariables.check document source).findings.issues
  := .map (by simp [issueIds]) (fun _ => rfl) _

theorem complianceText_ids :
  HaveIds issueIds (Compliance.textIssues source)
  := by
  apply HaveIds.append
  · apply HaveIds.append
    · exact .ite .nil (.single (by simp [issueIds]) rfl)
    · exact .ite (.single (by simp [issueIds]) rfl) .nil
  · exact .ite (.single (by simp [issueIds]) rfl) .nil

theorem complianceStandards_ids :
  HaveIds issueIds (Rule.complianceStandards.check document source).findings.issues
  := by
  have hc := Cumulative.haveIds issueIds
  apply hc.append
  · exact complianceText_ids source
  · apply hc.outcome_when
    intro _
    apply hc.append
    · exact hc.eachJob fun _ _ => hc.when fun _ => .nil
    · exact hc.eachJob fun _ _ => .nil

theorem securityScanning_ids :
  HaveIds issueIds (Rule.securityScanning.check document source).findings.issues
  := by
  apply HaveIds.append
  · apply HaveIds.append
    · exact .ite .nil (.single (by simp [issueIds]) rfl)
    · exact .ite (.single (by simp [issueIds]) rfl) .nil
  · exact .ite (.single (by simp [issueIds]) rfl) .nil

/-! ### Practice and performance -/

/-- The titles of anti-patterns as identifiers. -/
theorem slug_titles :
  AntiPattern.all.map (fun a => String.ofList (slug a.title.toList)) = [
    "hardcoded-localhost-urls", "hardcoded-localhost-ip-addresses", "insecure-http-urls",
    "using--latest--tag-for-docker-images", "hard-coded-sleep-delays",
    "unresolved-todo-fixme-comments"]
  := rfl

theorem slug_mem_issueIds {a : AntiPattern} (ha : a ∈ AntiPattern.all) :
  String.ofList (slug a.title.toList) ∈ issueIds
  := by
  have hs : AntiPattern.all.map (fun a => String.ofList (slug a.title.toList)) ⊆ issueIds := by
    rw [slug_titles]
    simp [issueIds]
  exact hs (List.mem_map_of_mem ha)

theorem commonAntiPatterns_ids :
  HaveIds issueIds (Rule.commonAntiPatterns.check document source).findings.issues
  := by
  intro i hi
  obtain ⟨a, ha, hi⟩ := List.mem_filterMap.mp hi
  rw [AntiPattern.issue?] at hi
  split at hi
  · cases hi
  · cases hi
    exact ⟨_, slug_mem_issueIds ha, rfl⟩

theorem cachingOptimization_ids :
  HaveIds issueIds (Rule.cachingOptimization.check document source).findings.issues
  := by
  have hc := Cumulative.haveIds issueIds
  apply hc.append
  · rw [Caching.textFindings]
    split
    · exact .map (by simp [issueIds]) (fun _ => rfl) _
    · exact .nil
  · exact hc.outcome_when fun _ => hc.eachJob fun _ _ => .nil

theorem parallelizationAnalysis_ids :
  HaveIds issueIds (Rule.parallelizationAnalysis.check document source).findings.issues
  := by
  have hc := Cumulative.haveIds issueIds
  rw [Rule.parallelizationAnalysis]
  dsimp only
  split
  · apply hc.reading
    intro dependencies _
    apply hc.outcome_when
    intro _
    exact hc.append .nil (hc.reading fun _ _ => .nil)
  · apply hc.outcome_when
    intro _
    exact hc.append (hc.when fun _ => .nil) (hc.reading fun _ _ => .nil)

theorem timeouts_ids (job : String × Document) :
  HaveIds issueIds (Resources.checkTimeout job).findings.issues
  := by
  have hc := Cumulative.haveIds issueIds
  rw [Resources.checkTimeout]
  split
  · exact .nil
  · apply hc.outcome_when
    intro _
    apply hc.reading
    intro text _
    exact .single (by simp [issueIds]) rfl

theorem resourceOptimization_ids :
  HaveIds issueIds (Rule.resourceOptimization.check document source).findings.issues
  := by
  have hc := Cumulative.haveIds issueIds
  apply hc.append
  · apply hc.outcome_when
    intro _
    apply hc.append
    · exact hc.eachJob fun _ _ => timeouts_ids _
    · exact hc.eachJob fun _ _ => hc.when fun _ => .nil
  · exact .nil

/-! ### Cost -/

theorem matrices_ids (job : String × Document) :
  HaveIds issueIds (Spending.checkMatrix job).findings.issues
  := by
  have hc := Cumulative.haveIds issueIds
  rw [Spending.checkMatrix]
  split
  · exact .nil
  · apply hc.outcome_when
    intro _
    apply hc.reading
    intro text _
    exact .single (by simp [issueIds]) rfl

theorem longJobs_ids (job : String × Document) :
  HaveIds issueIds (Spending.checkLongJob job).findings.issues
  := by
  have hc := Cumulative.haveIds issueIds
  apply hc.outcome_when
  intro _
  apply hc.reading
  intro optimized _
  exact hc.outcome_when fun _ => hc.reading fun _ _ => .nil

theorem costOptimization_ids :
  HaveIds issueIds (Rule.costOptimization.check document source).findings.issues
  := by
  have hc := Cumulative.haveIds issueIds
  apply hc.append
  · split
    · apply hc.append
      · apply hc.append
        · apply hc.append
          · exact hc.reading fun _ _ => .nil
          · exact hc.eachJob fun _ _ => .nil
        · exact hc.eachJob fun _ _ => matrices_ids _
      · exact hc.eachJob fun _ _ => longJobs_ids _
    · exact .nil
  · exact .nil

theorem concurrencyOptimization_ids :
  HaveIds issueIds (Rule.concurrencyOptimization.check document source).findings.issues
  := by
  have hc := Cumulative.haveIds issueIds
  apply hc.append
  · rw [Concurrency.checkWorkflow]
    split
    · apply hc.reading
      intro triggers _
      apply hc.reading
      intro jobs _
      exact hc.when fun _ => .nil
    · exact hc.when fun _ => .nil
  · exact hc.eachJob fun _ _ => hc.when fun _ => .nil

/-! ### Maintainability -/

theorem documentationStandards_ids :
  HaveIds issueIds (Rule.documentationStandards.check document source).findings.issues
  := by
  have hc := Cumulative.haveIds issueIds
  apply hc.append
  · apply hc.append
    · apply hc.eachJob
      intro e _
      apply hc.both
      · exact hc.when fun _ => .single (by simp [issueIds]) rfl
      · exact hc.when fun _ => .nil
    · exact hc.eachJob fun _ _ => .map (by simp [issueIds]) (fun _ => rfl) _
  · exact hc.both (hc.when fun _ => .nil) (hc.when fun _ => .nil)

theorem namingConventions_ids :
  HaveIds issueIds (Rule.namingConventions.check document source).findings.issues
  := by
  have hc := Cumulative.haveIds issueIds
  apply hc.append
  · apply hc.append
    · apply hc.append
      · exact (Naming.checkJobs_ids document).mono (by simp [issueIds])
      · exact (Naming.referenceIssues_ids source.text).mono (by simp [issueIds])
    · exact (Naming.checkVariables_ids document).mono (by simp [issueIds])
  · exact (Naming.checkEnvironments_ids document).mono (by simp [issueIds])

theorem jobComplexity_ids (job : String × Document) :
  HaveIds issueIds (Complexity.jobIssue? job).toList
  := by
  rw [Complexity.jobIssue?]
  split
  · exact .single (by simp [issueIds]) rfl
  · exact .nil

theorem complexityAnalysis_ids :
  HaveIds issueIds (Rule.complexityAnalysis.check document source).findings.issues
  := by
  have hc := Cumulative.haveIds issueIds
  apply hc.append
  · apply hc.append
    · exact hc.eachJob fun _ _ => jobComplexity_ids _
    · apply HaveIds.append
      · exact .ite (.single (by simp [issueIds]) rfl) .nil
      · exact .ite (.single (by simp [issueIds]) rfl) .nil
  · exact hc.reading fun _ _ => .nil

/-! ### The catalog -/

/-- The default rules file their issues under these ids. -/
theorem check_ids {r : Rule} (h : r ∈ default) :
  HaveIds issueIds (r.check document source).findings.issues
  := by
  simp only [default, List.mem_cons, List.not_mem_nil, or_false] at h
  obtain rfl | rfl | rfl | rfl | rfl | rfl | rfl | rfl | rfl | rfl | rfl | rfl | rfl | rfl | rfl |
    rfl | rfl | rfl | rfl := h
  · exact .nil
  · exact .nil
  · exact .nil
  · exact .nil
  · apply broadPermissions_ids
  · apply unpinnedActionVersions_ids
  · apply insecureEnvironmentVariables_ids
  · apply complianceStandards_ids
  · apply securityScanning_ids
  · apply commonAntiPatterns_ids
  · apply cachingOptimization_ids
  · exact .nil
  · apply parallelizationAnalysis_ids
  · apply resourceOptimization_ids
  · apply costOptimization_ids
  · apply concurrencyOptimization_ids
  · apply documentationStandards_ids
  · apply namingConventions_ids
  · apply complexityAnalysis_ids

end Catalog

end PipelineAudit
