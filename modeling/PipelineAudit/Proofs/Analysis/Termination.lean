import PipelineAudit.Proofs.Analysis.Completion
import PipelineAudit.Proofs.Document.Walks

/-!
# Termination

Walks through a document turn back at a container that they are inside of, and so come to an end on
every closed document.  The steps of a Bitbucket pipeline are followed through groups without such a
check: the analysis of a pipeline that is a group inside of itself does not end, and shows as a
failure of the checks.

* `exists_failure_iff`: a complete analysis reports a failure of the checks if and only if they
  fail.
* `terminates_iff`: what comes to an end on a closed document, and when.
-/

namespace PipelineAudit.Analysis

open PlatformChecks
open Document (Walk)

variable {document : Document} {platform text : String} {config : Config}

/-- Checks that fail have found something to look at. -/
theorem isEmpty_of_failure (hm : document.isMap) {checks : PlatformChecks}
    (hc : checks ∈ all Bitbucket.deepest)
    (hf : (checks.analyzeInto document .none).failure ≠ none) :
  document.isEmpty = false
  := by
  cases document with
  | map entries =>
    cases entries with
    | nil => exact absurd (analyzeInto_failure_eq_none hc rfl rfl) hf
    | cons e rest => rfl
  | _ => cases hm

/-- The id of a failure of the checks of a platform is none of the others. -/
theorem suffix_analysisError (platform : String) :
  "-analysis-error".toList <:+ (platform ++ "-analysis-error").toList
  := by
  rw [String.toList_append]
  exact List.suffix_append _ _

/-- Neither is it that of a rule that failed. -/
theorem failureIds_plain :
  ∀ id ∈ issueIds ++ Catalog.default.map fun r => "rule-error-" ++ r.id,
    ¬ "-analysis-error".toList <:+ id.toList
  := by decide +kernel

/-- An analysis that is not complete reports no failure of the checks of a platform. -/
theorem complete_of_mem_issues {i : Issue}
    (hi : i ∈ (run .default document platform text config).issues)
    (hid : i.ruleId = some (platform ++ "-analysis-error")) :
  (run .default document platform text config).complete
  := by
  by_contra hn
  obtain ⟨failure, hf⟩ := exists_fallback_of_not_complete hn
  rw [hf] at hi
  cases List.mem_singleton.mp hi
  have hsuffix := suffix_analysisError platform
  rw [← Option.some.inj hid] at hsuffix
  exact absurd hsuffix (by decide)

/-- Without custom rules, an analysis reports a failure of the checks of the platform if and only if
it is complete and the checks fail. -/
theorem exists_failure_iff (hm : document.isMap) (hc : config.customRules = []) :
  (∃ i ∈ (run .default document platform text config).issues,
    i.ruleId = some (platform ++ "-analysis-error")) ↔
  (run .default document platform text config).complete ∧
    ∃ checks, of? platform = some checks ∧ (checks.analyzeInto document .none).failure ≠ none
  := by
  constructor
  · rintro ⟨i, hi, hid⟩
    have hcomplete := complete_of_mem_issues hi hid
    refine ⟨hcomplete, ?_⟩
    have hrules : ∀ r ∈ Catalog.default,
        (r.check document ⟨text.toList, platform⟩).failure ≠ none →
        "rule-error-" ++ r.id ∈
          issueIds ++ Catalog.default.map fun r => "rule-error-" ++ r.id := fun r hr _ =>
      List.mem_append_right _ (List.mem_map_of_mem hr)
    obtain ⟨id, hm', hid'⟩ | ⟨checks, failure, ho, hf, -⟩ :=
      mem_run_issues hm hc hcomplete (List.subset_append_left _ _) hrules hi
    · rw [hid] at hid'
      cases hid'
      exact absurd (suffix_analysisError platform) (failureIds_plain _ hm')
    · exact ⟨checks, ho, by simp [hf]⟩
  · rintro ⟨hcomplete, checks, ho, hf⟩
    obtain ⟨hall, rfl⟩ := of?_eq_some ho
    obtain ⟨failure, hf'⟩ := Option.ne_none_iff_exists'.mp hf
    have he := isEmpty_of_failure hm hall hf
    obtain ⟨found, -, hfound⟩ := exists_of_complete Engine.adding_default hm he hcomplete
    obtain ⟨graph, -, hr⟩ := exists_shown_of_ofFindings hfound
    refine ⟨analyzerFailure checks.platform failure, ?_, rfl⟩
    have hp : analyzerFailure checks.platform failure ∈
        platformIssues .default document checks.platform := by
      rw [platformIssues_of_checks Engine.adding_default hm ho, hf']
      exact List.mem_append_right _ (.head _)
    rw [hr]
    apply List.mem_append_left
    apply List.mem_append_left
    apply List.mem_append_right
    exact hp

/-- What comes to an end on a closed mapping.  The walks that copy it for JSON, measure its depth
and count its conditions do, at a depth of at most one more than the number of its containers; the
copy is only missing if a key cannot be written.  The checks of GitHub and GitLab fail on nothing
but integers that are too long to be written.  Those of Bitbucket do not fail if and only if the
names of the pipelines can be written and the groups in each pipeline are nested to a finite depth,
that is, none of them lies inside of itself; and then the report on a list of steps is made up of
those on its entries in order, a group adding that on its own list.  An analysis with the default
rules reports a failure of the checks if and only if it is complete and the checks fail. -/
theorem terminates_iff (document : Document) (hm : document.isMap) (h : document.isClosed) :
  let root : Document.Place := ⟨document, []⟩
  let depth := document.containers + 1
  let pipelines :=
    (Bitbucket.sections (document.get "pipelines")).filter fun s => s.steps.isList
  Walk.copy.visit depth [] root = some document.jsonSafe ∧
  OnlyLong document.isWritable (readFailure? document.copy) ∧
  (Walk.depth.visit depth [] root).map (· 0) = some document.nestingDepth ∧
  Walk.conditions.visit depth [] root = some document.conditionals ∧
  OnlyLong document.isWritable (gitHub.analyzeInto document .none).failure ∧
  OnlyLong document.isWritable (gitLab.analyzeInto document .none).failure ∧
  (((bitbucket Bitbucket.deepest).analyzeInto document .none).failure = none ↔
    Bitbucket.NamesWritable (document.get "pipelines") ∧
      ∀ s ∈ pipelines, Bitbucket.FinitelyNested s.steps) ∧
  (∀ s ∈ pipelines, Bitbucket.FinitelyNested s.steps ↔ Bitbucket.Acyclic ⟨s.steps, []⟩) ∧
  (∀ s ∈ pipelines, Bitbucket.FinitelyNested s.steps → ∀ label,
    (Bitbucket.stepReport s.steps label).failure = none ∧
    Bitbucket.stepReport s.steps label =
      .each (Bitbucket.entryReport Bitbucket.stepReport label) s.steps.items) ∧
  (∀ (platform text : String) (config : Config), config.customRules = [] →
    ((∃ i ∈ (run .default document platform text config).issues,
      i.ruleId = some (platform ++ "-analysis-error")) ↔
    (run .default document platform text config).complete ∧
      ∃ checks, of? platform = some checks ∧
        (checks.analyzeInto document .none).failure ≠ none))
  := by
  intro root depth pipelines
  have hclosed : ∀ s ∈ pipelines, s.steps.isClosed := fun s hs =>
    Bitbucket.isClosed_of_mem_sections (Document.isClosed_get h "pipelines")
      (List.mem_filter.mp hs).1
  refine ⟨?_, ?_, ?_, ?_, onlyLong_gitHub document .none, onlyLong_gitLab document .none, ?_, ?_,
    ?_, fun platform text config => exists_failure_iff hm⟩
  · rw [Walk.visit_eq_fold _ h, Walk.fold_copy]
  · exact .ifWritable Document.isCopyable_of_isWritable _
  · rw [Walk.visit_eq_fold _ h, Option.map_some, Walk.fold_depth, Document.nestingDepth]
  · rw [Walk.visit_eq_fold _ h, Walk.fold_conditions]
  · apply (Bitbucket.report_failure_eq_none_iff h).trans
    simp only [pipelines, List.mem_filter, and_imp]
  · exact fun s hs => Bitbucket.finitelyNested_iff_acyclic (hclosed s hs)
  · intro s hs hn label
    exact ⟨(Bitbucket.stepReport_failure_eq_none_iff (hclosed s hs) label).mpr hn,
      Bitbucket.stepReport_eq (hclosed s hs) hn label⟩

/-- A pipeline whose variables contain themselves. -/
def loopingVariables : Document :=
  .map [(.ofText "variables", .map [(.ofText "LOOP", .list [.text "make", .up 0])])]

theorem terminates_loopingVariables :
  loopingVariables.isMap ∧ loopingVariables.isClosed ∧
  Walk.copy.visit 4 [] ⟨loopingVariables, []⟩ = some loopingVariables.jsonSafe ∧
  (gitLab.analyzeInto loopingVariables .none).failure = none ∧
  ((bitbucket Bitbucket.deepest).analyzeInto loopingVariables .none).failure = none
  := by
  have hw : loopingVariables.isWritable := by decide +kernel
  obtain ⟨hj, -, -, -, -, hg, hb, -⟩ := terminates_iff loopingVariables rfl rfl
  exact ⟨rfl, rfl, hj, hg.eq_none hw, hb.mpr ⟨by decide, List.forall_mem_nil _⟩⟩

/-- A pipeline whose default steps are a parallel group that holds these steps. -/
def parallelInItself : Document :=
  .map [(.ofText "pipelines",
    .map [(.ofText "default", .list [.map [(.ofText "parallel", .up 1)]])])]

/-- The checks of Bitbucket fail on steps that are a group inside of themselves, and an analysis
reports it. -/
theorem analyze_parallelInItself :
  parallelInItself.isMap ∧ parallelInItself.isClosed ∧
  ((bitbucket Bitbucket.deepest).analyzeInto parallelInItself .none).failure = some .endless ∧
  ∃ i ∈ (run .default parallelInItself "bitbucket-pipelines" "" {}).issues,
    i.ruleId = some "bitbucket-pipelines-analysis-error"
  := by
  have hf : ((bitbucket Bitbucket.deepest).analyzeInto parallelInItself .none).failure =
      some .endless := by decide
  have hw : parallelInItself.isWritable := by decide +kernel
  refine ⟨rfl, rfl, hf, (exists_failure_iff rfl rfl).mpr ⟨?_, ?_⟩⟩
  · exact complete_of_isWritable .default hw _ _ _
  · exact ⟨bitbucket Bitbucket.deepest, rfl, by simp [hf]⟩

end PipelineAudit.Analysis
