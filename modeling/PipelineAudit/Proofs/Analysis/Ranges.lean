import PipelineAudit.Proofs.Decimal.Rounding
import PipelineAudit.Proofs.Document.Height

/-!
# Ranges of the metrics

A document has metrics if it has a text as JSON.  Its scores are percentages then, whatever the
document looks like: they count parts of what another pass over the document counts as the whole, or
are cut off at one hundred, and rounding keeps them there.

* `Metrics.of_eq`: which documents have metrics, and which metrics.
* `Metrics.InRange`: the ranges of all metrics that have one.
* `Metrics.JobsAgree`: how the metrics of the jobs of a workflow fit together.
* `Metrics.of_consistent`: metrics are in range, and fit together.
-/

namespace PipelineAudit

/-- A number between zero and one hundred. -/
def IsPercentage {α : Type} [LE α] [OfNat α 0] [OfNat α 100] (x : α) : Prop :=
  0 ≤ x ∧ x ≤ 100

/-- Metrics whose scores are percentages, and whose counts are at least one where they have to
be. -/
structure Metrics.InRange (m : Metrics) : Prop where
  cacheUsage : IsPercentage m.cacheUsage
  parallelizationScore : IsPercentage m.performance.parallelizationScore
  documentation : IsPercentage m.coverage.documentation
  cacheEfficiency : IsPercentage m.performance.cacheEfficiency
  errorHandling : IsPercentage m.coverage.errorHandling
  test : IsPercentage m.coverage.test
  securityScore : IsPercentage m.securityScore
  resourceUtilization : 50 ≤ m.performance.resourceUtilization ∧
    m.performance.resourceUtilization ≤ 100
  cyclomatic : 1 ≤ m.complexity.cyclomatic
  linesOfCode : 1 ≤ m.complexity.linesOfCode
  cognitive : m.complexity.cognitive ≤ 50

/-- Metrics of a workflow in which so many jobs need another.  The others are parallelizable, and
their percentage is the score of parallelization, unless there is one job at most. -/
structure Metrics.JobsAgree (m : Metrics) (dependent : Nat) : Prop where
  parallelizable_le : m.parallelizableJobs ≤ m.jobs
  parallelizable_add : m.parallelizableJobs + dependent = m.jobs
  score : 1 < m.jobs → m.performance.parallelizationScore =
    Decimal.roundHalfUp (Decimal.percentage m.parallelizableJobs m.jobs)

namespace Measure

open Decimal

/-! ### Percentages -/

theorem isPercentage_roundHalfUp {part whole : Nat} (h : part ≤ whole) :
  IsPercentage (roundHalfUp (percentage part whole))
  := by
  have hp := percentage_nonneg part whole
  constructor
  · exact roundHalfUp_nonneg hp
  · exact roundHalfUp_le (n := 100) hp (by norm_num) (percentage_le h)

theorem indicatorRatio_isPercentage (text : List Char) (indicators : List String) :
  IsPercentage (indicatorRatio text indicators)
  := by
  rw [indicatorRatio]
  split
  · exact ⟨by norm_num, le_rfl⟩
  · exact ⟨percentage_nonneg _ _, not_lt.mp ‹_›⟩

theorem cacheRatio_isPercentage (jobs : Nat) (text : List Char) :
  IsPercentage (cacheRatio jobs text)
  := by
  -- a job may mention a cache many times, so that only the cut bounds the percentage
  constructor
  · apply le_min (by norm_num)
    exact roundHalfUp_nonneg (percentage_nonneg _ _)
  · exact min_le_left _ _

theorem documentationCoverage_isPercentage (document : Document) :
  IsPercentage (documentationCoverage document)
  := by
  rw [documentationCoverage]
  split
  · exact ⟨by norm_num, le_rfl⟩
  · exact isPercentage_roundHalfUp (List.length_filter_le _ _)

/-! ### Jobs -/

/-- The jobs that need another. -/
def dependentJobs (document : Document) : List (Key × Document) :=
  (jobEntries document).filter fun j => j.2.sets "needs"

/-- Each job needs another or does not. -/
theorem countParallelizable_add (document : Document) :
  countParallelizable document + (dependentJobs document).length = (jobEntries document).length
  := by
  rw [countParallelizable, dependentJobs, Nat.add_comm]
  exact List.length_eq_length_filter_add .. |>.symm

theorem parallelizationScore_isPercentage (document : Document) :
  IsPercentage (parallelizationScore document)
  := by
  rw [parallelizationScore]
  split
  · exact ⟨by norm_num, le_rfl⟩
  · exact isPercentage_roundHalfUp (List.length_filter_le _ _)

/-! ### Other scores -/

theorem resourceUtilization_bounds (text : List Char) :
  50 ≤ resourceUtilization text ∧ resourceUtilization text ≤ 100
  := by
  rw [resourceUtilization]
  constructor <;> omega

theorem height_pos (d : Document) :
  1 ≤ Document.Walk.height.fold d
  := by
  rw [← Document.count_prettyAt 0 d]
  exact Nat.le_add_left _ _

theorem cognitiveComplexity_le (cyclomatic : Nat) :
  cognitiveComplexity cyclomatic ≤ 50
  := by
  rw [cognitiveComplexity]
  split
  · exact le_of_lt ‹_›
  · exact le_rfl

end Measure

open PipelineAudit.Measure

/-- The metrics of a document with a text as JSON. -/
def Metrics.measured (document : Document) (platform : String)
    (vulnerabilities : List Vulnerability) : Metrics :=
  let text := document.jsonSafe.toJson.compact
  let jobs := countJobs document platform
  { jobs := jobs
    steps := countSteps document
    triggers := countTriggers document
    parallelizableJobs := countParallelizable document
    cacheUsage := if jobs = 0 then 0 else cacheRatio jobs (Text.lower text)
    securityScore := Measure.securityScore vulnerabilities
    performance := performanceFrom document (Text.lower text)
    complexity := complexityFrom (branches text) (Document.Walk.height.fold document.jsonSafe)
    coverage := coverageFrom document (Text.lower text) }

/-- A document has metrics if and only if it has a text as JSON. -/
theorem Metrics.of_eq (document : Document) (platform : String)
    (vulnerabilities : List Vulnerability) :
  Metrics.of document platform vulnerabilities =
    ifWritable document.hasJson (measured document platform vulnerabilities)
  := by
  have hlowered : loweredJson document =
      ifWritable document.hasJson (Text.lower document.jsonSafe.toJson.compact) := by
    rw [loweredJson, Document.compactJson, Document.jsonText_eq, map_ifWritable]
  rw [Metrics.of, Measure.cacheUsage, Measure.performance, Measure.coverage, complexity_eq,
    hlowered, measured]
  cases document.hasJson with
  | false =>
    split
    · rfl
    · rfl
  | true =>
    split
    · rfl
    · rfl

theorem Metrics.jobs_of_eq_ok {document : Document} {platform : String}
    {vulnerabilities : List Vulnerability} {m : Metrics}
    (h : Metrics.of document platform vulnerabilities = .ok m) :
  m.jobs = countJobs document platform
  := by
  rw [Metrics.of_eq, ifWritable_eq_ok] at h
  obtain ⟨-, rfl⟩ := h
  rfl

section

variable (document : Document) (platform : String) (vulnerabilities : List Vulnerability)

theorem Metrics.inRange_measured :
  (measured document platform vulnerabilities).InRange
  where
  cacheUsage := by
    rw [measured]
    split
    · exact ⟨le_rfl, by norm_num⟩
    · exact cacheRatio_isPercentage _ _
  parallelizationScore := parallelizationScore_isPercentage document
  documentation := documentationCoverage_isPercentage document
  cacheEfficiency := indicatorRatio_isPercentage _ _
  errorHandling := indicatorRatio_isPercentage _ _
  test := indicatorRatio_isPercentage _ _
  securityScore := ⟨Nat.zero_le _, Nat.sub_le _ _⟩
  resourceUtilization := resourceUtilization_bounds _
  cyclomatic := Nat.le_add_right _ _
  linesOfCode := height_pos document.jsonSafe
  cognitive := cognitiveComplexity_le _

theorem Metrics.jobsAgree_measured :
  (measured document "github-actions" vulnerabilities).JobsAgree (dependentJobs document).length
  := by
  have hjobs : countJobs document "github-actions" = (jobEntries document).length := rfl
  have hadd := countParallelizable_add document
  constructor
  · change countParallelizable document ≤ countJobs document "github-actions"
    omega
  · exact hadd
  · intro (h : 1 < (jobEntries document).length)
    exact if_neg (Nat.not_le.mpr h)

/-- A document has metrics if and only if it has a text as JSON, as all documents have that can be
written.  Metrics are in range, for every platform and all vulnerabilities.  Those of a workflow
agree on its jobs: there are at most as many parallelizable jobs as jobs, the jobs without those
that need another, and the score of parallelization is their percentage, if there are several
jobs. -/
theorem Metrics.of_consistent :
  ((∃ m, Metrics.of document platform vulnerabilities = .ok m) ↔ document.hasJson) ∧
  (document.isWritable → document.hasJson) ∧
  (∀ m, Metrics.of document platform vulnerabilities = .ok m → m.InRange) ∧
  (∀ m, Metrics.of document "github-actions" vulnerabilities = .ok m →
    m.JobsAgree (dependentJobs document).length)
  := by
  simp only [Metrics.of_eq, ifWritable_eq_ok, exists_and_left, exists_eq', and_true, true_and]
  refine ⟨Document.hasJson_of_isWritable, ?_, ?_⟩
  · rintro m ⟨-, rfl⟩
    exact inRange_measured document platform vulnerabilities
  · rintro m ⟨-, rfl⟩
    exact jobsAgree_measured document vulnerabilities

end

/-- Two jobs, one after the other. -/
def buildThenTest : Document :=
  .map [(.ofText "jobs", .map [(.ofText "build", .map []),
    (.ofText "test", .map [(.ofText "needs", .text "build")])])]

theorem Metrics.of_consistent_buildThenTest :
  buildThenTest.isWritable ∧
  ∃ m, Metrics.of buildThenTest "github-actions" [] = .ok m ∧
    m.jobs = 2 ∧ m.parallelizableJobs = 1 ∧ m.performance.parallelizationScore = 50
  := by
  have hw : buildThenTest.isWritable := by decide +kernel
  obtain ⟨hiff, hwritable, -, hagree⟩ := Metrics.of_consistent buildThenTest "github-actions" []
  obtain ⟨m, hm⟩ := hiff.mpr (hwritable hw)
  have hagree := hagree m hm
  have hjobs : m.jobs = 2 := Metrics.jobs_of_eq_ok hm
  have hparallel : m.parallelizableJobs = 1 := by
    have hadd : m.parallelizableJobs + 1 = m.jobs := hagree.parallelizable_add
    omega
  refine ⟨hw, m, hm, hjobs, hparallel, (hagree.score (by omega)).trans ?_⟩
  rw [hparallel, hjobs]
  decide +kernel

/-- A workflow with a variable whose value is too long to be written. -/
def longBuild : Document :=
  .map [(.ofText "on", .text "push"), (.ofText "jobs", .map [(.ofText "build",
    .map [(.ofText "env", .map [(.ofText "SEED", .scalar (.int overlongInteger))])])])]

/-- That workflow has no metrics. -/
theorem Metrics.of_longBuild :
  Metrics.of longBuild "github-actions" [] = .error .longInteger
  := by
  rw [Metrics.of_eq, show longBuild.hasJson = false by decide +kernel]
  rfl

end PipelineAudit
