import PipelineAudit.Proofs.Analysis.Stages
import Mathlib.Data.List.Basic

/-!
# Monotonicity

An analysis that covers more reports more.  `Findings.Within` says that findings lie within others
stream by stream, in the same order; `Config.Within` that a configuration covers no area and no
level that another one leaves out, with the same limits and custom rules otherwise.

* `execute_within`: a run at a higher strictness that skips less contains the run at the lower one.
* `run_monotone`: the findings of an analysis lie within those of an analysis under a configuration
  that covers more, and the scores of the latter are not higher.
-/

namespace PipelineAudit

/-! ### Findings within findings -/

namespace Findings

/-- Each stream of `found` is a sublist of the same stream of `found'`. -/
structure Within (found found' : Findings) : Prop where
  issues : found.issues.Sublist found'.issues
  optimizations : found.optimizations.Sublist found'.optimizations
  vulnerabilities : found.vulnerabilities.Sublist found'.vulnerabilities

theorem Within.refl (found : Findings) :
  found.Within found
  := ⟨.refl _, .refl _, .refl _⟩

theorem Within.append {a a' b b' : Findings} (h : a.Within a') (k : b.Within b') :
  (a ++ b).Within (a' ++ b')
  := by
  constructor
  · apply h.issues.append k.issues
  · apply h.optimizations.append k.optimizations
  · apply h.vulnerabilities.append k.vulnerabilities

/-- Findings lie within the same findings after some others. -/
theorem Within.append_left {a a' : Findings} (h : a.Within a') (b : Findings) :
  a.Within (b ++ a')
  := by
  constructor
  · apply h.issues.trans (List.sublist_append_right _ _)
  · apply h.optimizations.trans (List.sublist_append_right _ _)
  · apply h.vulnerabilities.trans (List.sublist_append_right _ _)

/-- The findings of some of several reports lie within those of all of them. -/
theorem concat_within {reports reports' : List Findings} (h : reports.Sublist reports') :
  (concat reports).Within (concat reports')
  := by
  induction h with
  | slnil => apply Within.refl
  | cons f _ ih => apply ih.append_left
  | cons_cons f _ ih => apply (Within.refl f).append ih

end Findings

/-! ### Strictness -/

namespace Strictness

/-- The place of a strictness in the order: that of its level, and above all levels. -/
def rank : Strictness → Nat
  | upTo level => level.rank
  | everything => Level.all.length

/-- What a strictness allows, a higher one allows too. -/
theorem allows_of_rank_le {s s' : Strictness} (h : s.rank ≤ s'.rank) {level : Level}
    (ha : s.allows level) :
  s'.allows level
  := by
  cases s' with
  | everything => rfl
  | upTo target =>
    cases s with
    | everything => cases target <;> simp [rank, Level.rank, Level.all] at h
    | upTo lower =>
      have hl : level.rank ≤ lower.rank := of_decide_eq_true ha
      exact decide_eq_true (Nat.le_trans hl h)

end Strictness

/-- A rule that applies still does so at a higher strictness and with less to skip. -/
theorem Rule.applies_of_le {s s' : Strictness} (hs : s.rank ≤ s'.rank)
    {skipped skipped' : List Category} (hk : skipped' ⊆ skipped) {r : Rule} {platform : String}
    (h : r.applies platform s skipped) :
  r.applies platform s' skipped'
  := by
  simp only [applies, Bool.and_eq_true, Bool.not_eq_true', List.contains_eq_mem,
    decide_eq_false_iff_not] at h ⊢
  obtain ⟨⟨hp, ha⟩, hc⟩ := h
  exact ⟨⟨hp, Strictness.allows_of_rank_le hs ha⟩, fun hc' => hc (hk hc')⟩

/-- A run lies within each run of the same catalog at a higher strictness and with less to skip. -/
theorem Catalog.execute_within (rules : Catalog) (document : Document) (source : Source)
    {s s' : Strictness} (hs : s.rank ≤ s'.rank) {skipped skipped' : List Category}
    (hk : skipped' ⊆ skipped) :
  (rules.execute document source s skipped).Within (rules.execute document source s' skipped')
  := by
  rw [execute_eq, execute_eq]
  apply Findings.concat_within
  apply List.Sublist.map
  apply List.monotone_filter_right
  intro r hr
  apply Rule.applies_of_le hs hk hr

/-! ### Configurations -/

namespace Config

/-- What `c` covers, `c'` covers too, and otherwise they agree. -/
structure Within (c c' : Config) : Prop where
  security : c.security → c'.security
  performance : c.performance → c'.performance
  cost : c.cost → c'.cost
  strict : c.strict → c'.strict
  maxFileSize : c.maxFileSize = c'.maxFileSize
  customRules : c.customRules = c'.customRules

theorem Within.skipped_subset {c c' : Config} (h : c.Within c') :
  c'.skipped ⊆ c.skipped
  := by
  intro category hm
  simp only [skipped, List.mem_append, List.mem_ite_nil_left, List.mem_singleton] at hm ⊢
  obtain (⟨hn, rfl⟩ | ⟨hn, rfl⟩) | ⟨hn, rfl⟩ := hm
  · exact .inl (.inl ⟨fun hc => hn (h.cost hc), rfl⟩)
  · exact .inl (.inr ⟨fun hc => hn (h.performance hc), rfl⟩)
  · exact .inr ⟨fun hc => hn (h.security hc), rfl⟩

theorem Within.rank_level_le {c c' : Config} (h : c.Within c') :
  (Strictness.upTo c.level).rank ≤ (Strictness.upTo c'.level).rank
  := by
  rw [Strictness.rank, Strictness.rank, level, level]
  cases hc : c.strict with
  | true => simp [h.strict hc]
  | false => cases c'.strict <;> decide

end Config

/-! ### Scores -/

namespace Score

theorem overall_antitone {issues issues' : List Issue} (hi : issues.Sublist issues')
    {vulnerabilities vulnerabilities' : List Vulnerability}
    (hv : vulnerabilities.Sublist vulnerabilities') :
  overall issues' vulnerabilities' ≤ overall issues vulnerabilities
  := by
  have ti := total_le_of_sublist (hi.map issueDeduction)
  have tv := total_le_of_sublist (hv.map vulnerabilityDeduction)
  rw [overall, overall]
  omega

end Score

theorem Measure.securityScore_antitone {vulnerabilities vulnerabilities' : List Vulnerability}
    (h : vulnerabilities.Sublist vulnerabilities') :
  securityScore vulnerabilities' ≤ securityScore vulnerabilities
  := by
  have hl := h.length_le
  rw [securityScore, securityScore]
  omega

/-! ### Analyses -/

namespace Analysis

/-- Analyses of a document under two configurations, one of which covers more: both have no result
for the same reason, or both show findings on the same document, one of them more. -/
theorem runs_within (rules : Catalog) (document : Document) (platform text : String)
    {c c' : Config} (h : c.Within c') :
  (∃ failure, run (.ofCatalog rules) document platform text c = fallback failure ∧
    run (.ofCatalog rules) document platform text c' = fallback failure) ∨
  ∃ (d : Document) (found found' : Findings) (graph : String),
    run (.ofCatalog rules) document platform text c = shown platform d found graph ∧
    run (.ofCatalog rules) document platform text c' = shown platform d found' graph ∧
    found.Within found'
  := by
  have hv : validationIssues document text c = validationIssues document text c' := by
    rw [validationIssues, validationIssues, validateInput, validateInput, h.maxFileSize]
  -- Whether there is a result depends on the document, so that it is enough to compare findings.
  obtain ⟨d, found, found', hc, hc', hw⟩ : ∃ (d : Document) (found found' : Findings),
      attempt (.ofCatalog rules) document platform text c = ofFindings platform d found ∧
      attempt (.ofCatalog rules) document platform text c' = ofFindings platform d found' ∧
      found.Within found' := by
    cases he : document.isEmpty with
    | true =>
      refine ⟨.map [], _, _, attempt_of_isEmpty he _ _ _ _, attempt_of_isEmpty he _ _ _ _, ?_⟩
      rw [hv]
      apply Findings.Within.refl
    | false =>
      refine ⟨document.asMap, _, _, attempt_ofCatalog rules he platform text c,
        attempt_ofCatalog rules he platform text c', ?_⟩
      rw [allFindings, allFindings, hv, h.customRules]
      apply Findings.Within.append
      · apply Findings.Within.append
        · apply Findings.Within.refl
        · apply rules.execute_within _ _ h.rank_level_le h.skipped_subset
      · apply Findings.Within.refl
  rw [run, run, hc, hc', ofFindings_eq, ofFindings_eq]
  cases Graph.render d platform with
  | error failure => exact .inl ⟨failure, rfl, rfl⟩
  | ok graph =>
    cases hj : d.hasJson with
    | false => exact .inl ⟨.longInteger, rfl, rfl⟩
    | true => exact .inr ⟨d, found, found', graph, rfl, rfl, hw⟩

/-- Analyses are monotone.  Under a configuration that covers more, each list of findings contains
the one under the narrower configuration in the same order, and no score is higher; and a run of a
catalog contains, stream by stream, each run of it at a lower strictness that skips more. -/
theorem run_monotone (rules : Catalog) (document : Document) :
  (∀ (platform text : String) (c c' : Config), c.Within c' →
    let a := run (.ofCatalog rules) document platform text c
    let a' := run (.ofCatalog rules) document platform text c'
    a.issues.Sublist a'.issues ∧
    a.optimizations.Sublist a'.optimizations ∧
    a.security.vulnerabilities.Sublist a'.security.vulnerabilities ∧
    a'.score ≤ a.score ∧
    a'.security.overallScore ≤ a.security.overallScore ∧
    a'.metrics.securityScore ≤ a.metrics.securityScore) ∧
  (∀ (source : Source) (s s' : Strictness) (skipped skipped' : List Category),
    s.rank ≤ s'.rank → skipped' ⊆ skipped →
    let f := rules.execute document source s skipped
    let f' := rules.execute document source s' skipped'
    f.issues.Sublist f'.issues ∧
    f.optimizations.Sublist f'.optimizations ∧
    f.vulnerabilities.Sublist f'.vulnerabilities)
  := by
  constructor
  · intro platform text c c' h
    obtain ⟨failure, hr, hr'⟩ | ⟨d, found, found', graph, hr, hr', hw⟩ :=
      runs_within rules document platform text h
    · rw [hr, hr']
      exact ⟨.refl _, .refl _, .refl _, le_rfl, le_rfl, le_rfl⟩
    · rw [hr, hr']
      exact ⟨hw.issues, hw.optimizations, hw.vulnerabilities,
        Score.overall_antitone hw.issues hw.vulnerabilities,
        Measure.securityScore_antitone hw.vulnerabilities,
        Measure.securityScore_antitone hw.vulnerabilities⟩
  · intro source s s' skipped skipped' hs hk
    have hw := rules.execute_within document source hs hk
    exact ⟨hw.issues, hw.optimizations, hw.vulnerabilities⟩

/-- A workflow with one job. -/
def smallWorkflow : Document :=
  .map [(.ofText "jobs", .map [(.ofText "build", .map [(.ofText "runs-on", .text "ubuntu")])])]

theorem run_monotone_smallWorkflow :
  Config.Within { security := false } { strict := true } ∧
  (Strictness.upTo .senior).rank ≤ Strictness.everything.rank ∧
  [Category.cost] ⊆ [.cost, .security] ∧
  (run .default smallWorkflow "github-actions" "" { strict := true }).score ≤
    (run .default smallWorkflow "github-actions" "" { security := false }).score ∧
  (Catalog.default.execute smallWorkflow ⟨[], "github-actions"⟩ (.upTo .senior)
    [.cost, .security]).issues.Sublist
      (Catalog.default.execute smallWorkflow ⟨[], "github-actions"⟩ .everything [.cost]).issues
  := by
  have hw : Config.Within { security := false } { strict := true } := by
    constructor <;> simp
  have hs : (Strictness.upTo .senior).rank ≤ Strictness.everything.rank := by decide
  have hk : [Category.cost] ⊆ [.cost, .security] := by simp
  obtain ⟨hr, he⟩ := run_monotone .default smallWorkflow
  exact ⟨hw, hs, hk, (hr "github-actions" "" _ _ hw).2.2.2.1,
    (he ⟨[], "github-actions"⟩ _ _ _ _ hs hk).1⟩

end Analysis

end PipelineAudit
