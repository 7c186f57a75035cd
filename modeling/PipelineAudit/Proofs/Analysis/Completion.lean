import PipelineAudit.Proofs.Analysis.Stages
import PipelineAudit.Proofs.Platform.LongIntegers
import PipelineAudit.Proofs.Rule.IssueIds

/-!
# Completion

With the default rules and without custom rules, a complete analysis files its issues under finitely
many ids, one more for each rule that fails, and one more if the checks of the platform fail.  On a
tree nothing fails as long as its integers can be written and the search for secrets comes to its
end, so that an analysis goes through all its stages.

* `mem_run_issues`: where the issues of an analysis come from.
* `run_completes`: an analysis of a tree is complete and reports no failure.
* `run_longBuild`: an analysis of a tree with an integer that is too long has no result.
-/

namespace PipelineAudit

/-! ### The default rules -/

/-- A run of the default rules files its issues under their ids, and under one more for each rule
that fails. -/
theorem Catalog.execute_ids {ids : List String} (hi : issueIds ⊆ ids) {document : Document}
    {source : Source}
    (hf : ∀ r ∈ default, (r.check document source).failure ≠ none → "rule-error-" ++ r.id ∈ ids)
    (strictness : Strictness) (skipped : List Category) :
  HaveIds ids (default.execute document source strictness skipped).issues
  := by
  have hc := Cumulative.haveIds ids
  rw [execute_eq]
  apply hc.concat
  intro f hmem
  obtain ⟨r, hr, rfl⟩ := List.mem_map.mp hmem
  have hd := (List.mem_filter.mp hr).1
  apply hc.both ((check_ids document source hd).mono hi)
  cases hfail : (r.check document source).failure with
  | none => exact .nil
  | some failure => exact .single (hf r hd (by simp [hfail])) rfl

namespace Analysis

variable {document : Document} {platform text : String} {config : Config}

/-! ### The issues of an analysis -/

/-- The ids under which an analysis with the default rules files issues, unless something fails. -/
def issueIds : List String :=
  ["file-size-limit", "empty-config", "invalid-root", "unsupported-platform"] ++
    PlatformChecks.issueIds ++ Catalog.issueIds

/-- None of the ids stands for a failure. -/
theorem issueIds_plain :
  ∀ id ∈ issueIds,
    ¬ "rule-error-".toList <+: id.toList ∧ ¬ "-analysis-error".toList <:+ id.toList ∧
      id ≠ "analysis-error"
  := by decide +kernel

theorem validateInput_files (document : Document) (text : String) (config : Config) :
  (validateInput document text config).Files issueIds
  := by
  apply (Reporter.files_reportIf (by simp [issueIds]) rfl).andThen
  split
  · exact Reporter.files_report (by simp [issueIds]) rfl
  · exact Reporter.files_reportIf (by simp [issueIds]) rfl

/-- An issue of the platform stage is filed under one of the ids, or it says that the checks of the
platform failed. -/
theorem mem_platformIssues (hm : document.isMap) {i : Issue}
    (h : i ∈ platformIssues .default document platform) :
  (∃ id ∈ issueIds, i.ruleId = some id) ∨
    ∃ checks failure, PlatformChecks.of? platform = some checks ∧
      (checks.analyzeInto document .none).failure = some failure ∧
      i = analyzerFailure platform failure
  := by
  cases hc : PlatformChecks.of? platform with
  | none =>
    rw [platformIssues_of_none hc, List.mem_singleton] at h
    exact .inl ⟨"unsupported-platform", by simp [issueIds], h ▸ rfl⟩
  | some checks =>
    obtain ⟨hall, rfl⟩ := PlatformChecks.of?_eq_some hc
    rw [platformIssues_of_checks Engine.adding_default hm hc, List.mem_append] at h
    obtain h | h := h
    · left
      apply (PlatformChecks.analyzeInto_files hall document).alone.mono _ i h
      exact List.Subset.trans (List.subset_append_right _ _) (List.subset_append_left _ _)
    · right
      obtain ⟨failure, hf, rfl⟩ := List.mem_map.mp h
      exact ⟨checks, failure, rfl, Option.mem_toList.mp hf, rfl⟩

/-- Without custom rules, an issue of a complete analysis of a mapping with the default rules is
filed under one of the ids or that of a failing rule, or it says that the checks of the platform
failed. -/
theorem mem_run_issues (hm : document.isMap) (hc : config.customRules = [])
    (hcomplete : (run .default document platform text config).complete) {ids : List String}
    (hids : issueIds ⊆ ids)
    (hf : ∀ r ∈ Catalog.default, (r.check document ⟨text.toList, platform⟩).failure ≠ none →
      "rule-error-" ++ r.id ∈ ids)
    {i : Issue} (h : i ∈ (run .default document platform text config).issues) :
  (∃ id ∈ ids, i.ruleId = some id) ∨
    ∃ checks failure, PlatformChecks.of? platform = some checks ∧
      (checks.analyzeInto document .none).failure = some failure ∧
      i = analyzerFailure platform failure
  := by
  have hv : HaveIds ids (validationIssues document text config) :=
    (validateInput_files document text config).alone.mono hids
  cases he : document.isEmpty with
  | true =>
    have ha := attempt_eq_ok_of_complete hcomplete
    rw [attempt_of_isEmpty he] at ha
    obtain ⟨graph, -, hr⟩ := exists_shown_of_ofFindings ha
    rw [hr] at h
    exact .inl (hv i h)
  | false =>
    obtain ⟨_, ⟨⟩, hfound⟩ := exists_of_complete Engine.adding_default hm he hcomplete
    obtain ⟨graph, -, hr⟩ := exists_shown_of_ofFindings hfound
    rw [hr, shown, allFindings, hc] at h
    obtain h | h := List.mem_append.mp h
    · obtain h | h := List.mem_append.mp h
      · obtain h | h := List.mem_append.mp h
        · exact .inl (hv i h)
        · apply (mem_platformIssues hm h).imp_left
          rintro ⟨id, hid, hi⟩
          exact ⟨id, hids hid, hi⟩
      · left
        have hcatalog : Catalog.issueIds ⊆ ids :=
          List.Subset.trans (List.subset_append_right _ _) hids
        exact Catalog.execute_ids hcatalog hf _ _ i h
    · cases h

/-- An analysis of a mapping without references completes, whatever the text, the platform and the
configuration are, as long as there are no custom rules, nothing that is written of the mapping is
too long, and the search for secrets in the text comes to its end.  The result is that of all
stages, no default rule fails and neither do the checks of any platform, and no issue stands for a
failure. -/
theorem run_completes (document : Document) (hm : document.isMap)
    (he : document.isEmpty = false) (ht : document.isTree) (hd : document.Reportable)
    (platform text : String) (hs : Secret.failure? ⟨text.toList, platform⟩ = none)
    (config : Config) (hc : config.customRules = []) :
  let source : Source := ⟨text.toList, platform⟩
  let result := run .default document platform text config
  result.platform = platform ∧
  result.complete ∧
  ofFindings platform document
    (.ofIssues (validationIssues document text config) ++
      .ofIssues (platformIssues .default document platform) ++
      Catalog.default.execute document source (.upTo config.level) config.skipped) =
    .ok result ∧
  (∀ r ∈ Catalog.default, (r.check document source).failure = none) ∧
  (∀ checks ∈ PlatformChecks.all Bitbucket.deepest,
    (checks.analyzeInto document .none).failure = none) ∧
  (∀ i ∈ result.issues, ∀ id, i.ruleId = some id →
    ¬ "rule-error-".toList <+: id.toList ∧ ¬ "-analysis-error".toList <:+ id.toList ∧
      id ≠ "analysis-error")
  := by
  intro source result
  have hcomplete : result.complete := complete_of_isWritable .default hd.writable _ _ _
  have hrules : ∀ r ∈ Catalog.default, (r.check document source).failure = none := fun r hr =>
    Catalog.check_failure_eq_none document source hd hs hr
  have hchecks : ∀ checks ∈ PlatformChecks.all Bitbucket.deepest,
      (checks.analyzeInto document .none).failure = none := fun checks h =>
    PlatformChecks.analyzeInto_failure_eq_none h ht hd.writable
  obtain ⟨_, ⟨⟩, hfound⟩ := exists_of_complete Engine.adding_default hm he hcomplete
  rw [allFindings, hc, show CustomRule.runAll [] document.asMap text platform = [] from rfl,
    Findings.append_ofIssues, List.append_nil] at hfound
  obtain ⟨graph, -, hr⟩ := exists_shown_of_ofFindings hfound
  refine ⟨congrArg Analysis.platform hr, hcomplete, hfound, hrules, hchecks, ?_⟩
  intro i hi id hid
  have hnone : ∀ r ∈ Catalog.default, (r.check document source).failure ≠ none →
      "rule-error-" ++ r.id ∈ issueIds := fun r hr hf => absurd (hrules r hr) hf
  obtain ⟨id', hm', hid'⟩ | ⟨checks, failure, ho, hf, -⟩ :=
    mem_run_issues hm hc hcomplete (List.Subset.refl _) hnone hi
  · rw [hid] at hid'
    cases hid'
    exact issueIds_plain id hm'
  · rw [hchecks checks (PlatformChecks.of?_eq_some ho).1] at hf
    cases hf

/-- A workflow whose only job has a number as its name and no definition. -/
def oddWorkflow : Document :=
  .map [(.ofText "jobs", .map [(.scalar (.int 7), .null)]), (.scalar .null, .list [.map []])]

theorem run_completes_oddWorkflow :
  let source : Source := ⟨"jobs:\n  7:".toList, "github-actions"⟩
  let result := run .default oddWorkflow "github-actions" "jobs:\n  7:" {}
  oddWorkflow.isMap ∧ oddWorkflow.isEmpty = false ∧ oddWorkflow.isTree ∧
  oddWorkflow.Reportable ∧ Secret.failure? source = none ∧ ({} : Config).customRules = [] ∧
  result.platform = "github-actions" ∧ result.complete ∧
  (∀ r ∈ Catalog.default, (r.check oddWorkflow source).failure = none) ∧
  (∀ i ∈ result.issues, ∀ id, i.ruleId = some id →
    ¬ "rule-error-".toList <+: id.toList ∧ ¬ "-analysis-error".toList <:+ id.toList ∧
      id ≠ "analysis-error")
  := by
  intro source result
  have hd : oddWorkflow.Reportable := ⟨by decide +kernel, by decide +kernel⟩
  have hs : Secret.failure? source = none := by decide +kernel
  obtain ⟨hp, hc, -, hr, -, hi⟩ :=
    run_completes oddWorkflow rfl rfl rfl hd "github-actions" "jobs:\n  7:" hs {} rfl
  exact ⟨rfl, rfl, rfl, hd, hs, rfl, hp, hc, hr, hi⟩

/-- An analysis of a workflow with a variable whose value is too long to be written fails as a
whole. -/
theorem run_longBuild :
  let result := run .default longBuild "github-actions" "" {}
  longBuild.isMap ∧ longBuild.isEmpty = false ∧ longBuild.isTree ∧
  ({} : Config).customRules = [] ∧
  result.platform = "unknown" ∧ result.complete = false ∧
  result.issues.map (·.ruleId) = [some "analysis-error"]
  := by
  intro result
  have hattempt : attempt .default longBuild "github-actions" "" {} = .error .longInteger := by
    rw [Engine.default, attempt_ofCatalog .default rfl, ofFindings_eq,
      show longBuild.asMap.hasJson = false by decide +kernel]
    rfl
  have hresult : result = fallback .longInteger := by
    simp only [result, run, hattempt]
  rw [hresult]
  exact ⟨rfl, rfl, rfl, rfl, rfl, rfl, rfl⟩

end Analysis

end PipelineAudit
