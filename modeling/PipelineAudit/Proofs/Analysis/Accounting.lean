import PipelineAudit.Proofs.Analysis.Stages
import Mathlib.Tactic.SplitIfs

/-!
# Accounts

What the result of an analysis shows adds up.  Its issues are those of the stages, each of which
reports what it would report alone, and every number derived from the findings can be computed again
from the lists in the result.

* `Score.overall_eq`: the score from the numbers of findings of each severity.
* `Score.recommendation_texts`: which recommendations there are, and the counts that they quote.
* `run_accounts`: the account of a complete analysis.
-/

namespace PipelineAudit

/-! ### Scores -/

namespace Score

/-- The deductions for issues, by severity. -/
theorem total_issueDeduction (issues : List Issue) :
  total (issues.map issueDeduction) =
    25 * issues.countP (·.severity = .critical) + 15 * issues.countP (·.severity = .error) +
      8 * issues.countP (·.severity = .warning) + 3 * issues.countP (·.severity = .info)
  := by
  induction issues with
  | nil => rfl
  | cons i rest ih =>
    simp only [List.map_cons, total, List.countP_cons, ih, issueDeduction]
    cases i.severity <;> simp <;> omega

/-- The deductions for vulnerabilities, by degree of threat. -/
theorem total_vulnerabilityDeduction (vulnerabilities : List Vulnerability) :
  total (vulnerabilities.map vulnerabilityDeduction) =
    30 * vulnerabilities.countP (·.severity = .critical) +
      20 * vulnerabilities.countP (·.severity = .high) +
      10 * vulnerabilities.countP (·.severity = .medium) +
      5 * vulnerabilities.countP (·.severity = .low)
  := by
  induction vulnerabilities with
  | nil => rfl
  | cons v rest ih =>
    simp only [List.map_cons, total, List.countP_cons, ih, vulnerabilityDeduction]
    cases v.severity <;> simp <;> omega

/-- The score is a hundred less what each severity takes off, and at least zero. -/
theorem overall_eq (issues : List Issue) (vulnerabilities : List Vulnerability) :
  (overall issues vulnerabilities : Int) =
    max 0 (100 -
      (25 * issues.countP (·.severity = .critical) + 15 * issues.countP (·.severity = .error) +
        8 * issues.countP (·.severity = .warning) + 3 * issues.countP (·.severity = .info)) -
      (30 * vulnerabilities.countP (·.severity = .critical) +
        20 * vulnerabilities.countP (·.severity = .high) +
        10 * vulnerabilities.countP (·.severity = .medium) +
        5 * vulnerabilities.countP (·.severity = .low)))
  := by
  rw [overall, total_issueDeduction, total_vulnerabilityDeduction]
  omega

theorem map_ifAny {α : Type} (f : Recommendation → α) (count : Nat)
    (recommendation : Nat → Recommendation) :
  (ifAny count recommendation).map f = if 0 < count then [f (recommendation count)] else []
  := by
  rw [ifAny]
  cases count with
  | zero => rfl
  | succ n => rfl

/-- The recommendations in words: those with something to count, in order of priority, each with
its count. -/
theorem recommendation_texts (issues : List Issue) (optimizations : List Optimization) :
  (recommendations issues optimizations).map (·.description) =
    ([(issues.countP (·.severity = .critical),
        "Address ", " critical issues that prevent proper pipeline execution"),
      (issues.countP (·.severity = .error), "Fix ", " error-level issues"),
      (issues.countP (·.category = .security), "Address ", " security-related issues"),
      (optimizations.countP (·.impact = .high),
        "Implement ", " high-impact performance optimizations")].filter (0 < ·.1)).map
      fun (count, before, after) => before ++ toString count ++ after
  := by
  simp only [recommendations, List.map_append, map_ifAny, List.filter_cons, List.filter_nil,
    decide_eq_true_eq]
  split_ifs <;> rfl

end Score

/-! ### Analyses -/

namespace Analysis

/-- The account of a complete analysis of a mapping, with any checks of platforms that only add
issues, as those of all platforms do.  The issues are those of the validation, of the platform, of
the rules and of the custom rules, each stage as it reports alone and none of them lost or repeated.
Those of the platform are what its checks report, and one more if they fail, or the one of a
platform without checks.  The optimizations and vulnerabilities are those of the rules.  The scores,
the cost and the recommendations can be computed again from the lists and counts of the result. -/
theorem run_accounts (engine : Engine) (ha : engine.Adding) (document : Document)
    (hm : document.isMap) (he : document.isEmpty = false) (platform text : String)
    (config : Config) (hc : (run engine document platform text config).complete) :
  let result := run engine document platform text config
  let issues := result.issues
  let vulnerabilities := result.security.vulnerabilities
  ∃ found,
    engine.execute document ⟨text.toList, platform⟩ (.upTo config.level) config.skipped =
      .ok found ∧
    result.platform = platform ∧
    issues =
      validationIssues document text config ++ platformIssues engine document platform ++
        found.issues ++
        (CustomRule.runInto config.customRules document text platform .none).issues ∧
    (∀ checks, engine.checks? platform = some checks →
      platformIssues engine document platform =
        (checks.analyzeInto document .none).findings.issues ++
          (checks.analyzeInto document .none).failure.toList.map
            (analyzerFailure checks.platform)) ∧
    (engine.checks? platform = none →
      platformIssues engine document platform = [unsupportedPlatform platform]) ∧
    result.optimizations = found.optimizations ∧
    vulnerabilities = found.vulnerabilities ∧
    (result.score : Int) = max 0 (100 -
      (25 * issues.countP (·.severity = .critical) + 15 * issues.countP (·.severity = .error) +
        8 * issues.countP (·.severity = .warning) + 3 * issues.countP (·.severity = .info)) -
      (30 * vulnerabilities.countP (·.severity = .critical) +
        20 * vulnerabilities.countP (·.severity = .high) +
        10 * vulnerabilities.countP (·.severity = .medium) +
        5 * vulnerabilities.countP (·.severity = .low))) ∧
    (result.security.overallScore : Int) = max 0 (100 - 10 * vulnerabilities.length) ∧
    result.metrics.securityScore = result.security.overallScore ∧
    result.cost.breakdown.compute = 10 * result.metrics.jobs + 2 * result.metrics.steps ∧
    result.recommendations.map (·.description) =
      ([(issues.countP (·.severity = .critical),
          "Address ", " critical issues that prevent proper pipeline execution"),
        (issues.countP (·.severity = .error), "Fix ", " error-level issues"),
        (issues.countP (·.category = .security), "Address ", " security-related issues"),
        (result.optimizations.countP (·.impact = .high),
          "Implement ", " high-impact performance optimizations")].filter (0 < ·.1)).map
        fun (count, before, after) => before ++ toString count ++ after
  := by
  intro result issues vulnerabilities
  obtain ⟨found, hx, hf⟩ := exists_of_complete ha hm he hc
  obtain ⟨graph, -, hr⟩ := exists_shown_of_ofFindings hf
  have ho : result.optimizations = found.optimizations := by
    simp only [result, hr]
    exact List.append_nil _
  have hv : vulnerabilities = found.vulnerabilities := by
    simp only [vulnerabilities, result, hr]
    exact List.append_nil _
  refine ⟨found, hx, ?_, ?_, fun checks => platformIssues_of_checks ha hm,
    fun h => platformIssues_of_none h document, ho, hv, ?_, ?_, ?_, ?_, ?_⟩
  · simp only [result, hr]
    rfl
  · simp only [issues, result, hr, shown, allFindings, Document.asMap_of_isMap hm,
      CustomRule.runInto_eq, Findings.none_append]
    rfl
  · simp only [issues, vulnerabilities, result, hr]
    apply Score.overall_eq
  · simp only [vulnerabilities, result, hr]
    simp only [shown, Score.securityReport, Measure.securityScore]
    omega
  · simp only [result, hr]
    rfl
  · simp only [result, hr]
    rfl
  · simp only [issues, result, hr]
    apply Score.recommendation_texts

/-- A workflow whose only job has no steps. -/
def idleWorkflow : Document :=
  .map [(.ofText "jobs", .map [(.ofText "idle", .map [(.ofText "runs-on", .text "ubuntu")])])]

/-- A configuration under which every text is too large, with a custom rule that fails. -/
def severeConfig : Config where
  maxFileSize := 0
  customRules := [⟨"house-style", "House style", fun _ _ _ => .error ⟨"ValueError", "no style"⟩⟩]

theorem run_accounts_idleWorkflow :
  let result := run .default idleWorkflow "github-actions" "jobs:" severeConfig
  Engine.default.Adding ∧ idleWorkflow.isMap ∧ idleWorkflow.isEmpty = false ∧
  result.complete ∧
  ∃ found,
    Engine.default.execute idleWorkflow ⟨"jobs:".toList, "github-actions"⟩ (.upTo .senior) [] =
      .ok found ∧
    result.issues =
      [fileSize 5 0] ++
        [GitHub.missingName, GitHub.missingTriggers, GitHub.missingSteps "job \"idle\""] ++
        found.issues ++
        [ruleErrorIssue "house-style" "Custom rule error: House style" "no style"]
  := by
  intro result
  have ha := Engine.adding_default
  have hw : idleWorkflow.isWritable := by decide +kernel
  have hc : result.complete := complete_of_isWritable .default hw _ _ _
  obtain ⟨found, hx, -, hi, hp, -⟩ :=
    run_accounts .default ha idleWorkflow rfl rfl "github-actions" "jobs:" severeConfig hc
  refine ⟨ha, rfl, rfl, hc, found, hx, ?_⟩
  rw [hp .gitHub rfl] at hi
  exact hi

end Analysis

end PipelineAudit
