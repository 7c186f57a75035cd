import PipelineAudit.Proofs.Analysis.Stages
import PipelineAudit.Proofs.Rule.LineLocality
import PipelineAudit.Session

/-!
# Analyses without security

The default rules that report vulnerabilities are all in the category of security, and nothing else
reports any.  An analysis that leaves out that category finds none, whatever the document, the text
and the custom rules are.

* `Catalog.vulnerabilities_of_skipped`: a run without the category of security.
* `Findings.afterSteps_vulnerabilities`: the vulnerabilities of a session whose steps are outside of
  security, from the step lemma `SessionStep.OutsideSecurity.vulnerabilities`.
* `Analysis.run_withoutSecurity`: the result of an analysis without security.
-/

namespace PipelineAudit

/-! ### Rules -/

namespace Catalog

theorem category_of_mem_seekers {r : Rule} (h : r ∈ seekers) :
  r.category = .security
  := by
  simp only [seekers, List.mem_cons, List.not_mem_nil, or_false] at h
  obtain rfl | rfl | rfl | rfl := h <;> rfl

/-- A default rule in another category reports no vulnerabilities. -/
theorem check_vulnerabilities_of_category {r : Rule} (h : r ∈ default)
    (hc : r.category ≠ .security) (document : Document) (source : Source) :
  (r.check document source).findings.vulnerabilities = []
  := by
  obtain hs | hn := List.mem_append.mp (show r ∈ seekers ++ nonSeekers from h)
  · exact absurd (category_of_mem_seekers hs) hc
  · apply check_vulnerabilities_eq_nil document hn

/-- A run of the default rules without the category of security finds no vulnerabilities. -/
theorem vulnerabilities_of_skipped {skipped : List Category} (h : .security ∈ skipped)
    (document : Document) (source : Source) (strictness : Strictness) :
  (default.execute document source strictness skipped).vulnerabilities = []
  := by
  have hn : seekers.filter (·.applies source.platform strictness skipped) = [] := by
    rw [List.filter_eq_nil_iff]
    intro r hr
    simp [Rule.applies, category_of_mem_seekers hr, h]
  rw [vulnerabilities_execute_default, vulnerabilities_execute, hn, List.flatMap_nil]

end Catalog

theorem Config.security_mem_skipped {config : Config} (h : config.security = false) :
  .security ∈ config.skipped
  := by simp [skipped, h]

/-! ### Sessions -/

/-- The steps of a session that are outside of security: the validation, the platform, custom rules,
default rules in other categories, and runs of the default rules if the configuration leaves out
security. -/
inductive SessionStep.OutsideSecurity (s : Subject) : SessionStep → Prop where
  | validate : OutsideSecurity s .validate
  | platform : OutsideSecurity s .platform
  | custom (r : CustomRule) : OutsideSecurity s (.custom r)
  | rule {r : Rule} (hr : r ∈ Catalog.default) (hc : r.category ≠ .security) :
    OutsideSecurity s (.rule r)
  | execute (hs : s.config.security = false) : OutsideSecurity s (.execute .default)

/-- The checks of a platform add no vulnerabilities. -/
theorem PlatformChecks.Adding.vulnerabilities {checks : PlatformChecks} {document : Document}
    (h : checks.Adding document) (found : Findings) :
  (checks.analyzeInto document found).findings.vulnerabilities = found.vulnerabilities
  := by
  rw [h.analyzeInto found]
  exact List.append_nil _

/-- A step outside of security adds no vulnerabilities. -/
theorem SessionStep.OutsideSecurity.vulnerabilities {s : Subject} {step : SessionStep}
    (h : step.OutsideSecurity s) (found : Findings) :
  (step.apply s found).findings.vulnerabilities = found.vulnerabilities
  := by
  cases h with
  | validate =>
    rw [apply, Analysis.validateInput_eq]
    exact List.append_nil _
  | platform =>
    rw [apply]
    cases hc : PlatformChecks.of? s.platform with
    | none => rfl
    | some checks =>
      have hadds := PlatformChecks.adding_of_mem_all (PlatformChecks.of?_eq_some hc).1 s.document
      exact hadds.vulnerabilities found
  | custom r =>
    rw [apply, CustomRule.reportInto_eq]
    exact List.append_nil _
  | @rule r hr hc =>
    rw [apply, Findings.vulnerabilities_append,
      Catalog.check_vulnerabilities_of_category hr hc, List.append_nil]
  | execute hs =>
    rw [apply, Findings.vulnerabilities_append,
      Catalog.vulnerabilities_of_skipped (Config.security_mem_skipped hs), List.append_nil]

/-- A session keeps its vulnerabilities through steps outside of security. -/
theorem Findings.afterSteps_vulnerabilities {s : Subject} {steps : List SessionStep}
    (h : ∀ step ∈ steps, step.OutsideSecurity s) (found : Findings) :
  (found.afterSteps s steps).vulnerabilities = found.vulnerabilities
  := by
  induction steps generalizing found with
  | nil => rfl
  | cons step rest ih =>
    obtain ⟨hs, hr⟩ := List.forall_mem_cons.mp h
    rw [afterSteps, ih hr, hs.vulnerabilities]

/-! ### Analyses -/

namespace Analysis

/-- The result of an analysis with the default rules and without security shows findings that have
no vulnerabilities. -/
theorem exists_shown_withoutSecurity {engine : Engine}
    (hx : engine.execute = Engine.default.execute) (ha : engine.Adding) {config : Config}
    (hs : config.security = false) {document : Document} {platform text : String}
    {result : Analysis} (h : attempt engine document platform text config = .ok result) :
  ∃ tree found graph, result = shown platform tree found graph ∧ found.vulnerabilities = []
  := by
  cases he : document.isEmpty with
  | true =>
    rw [attempt_of_isEmpty he] at h
    obtain ⟨graph, -, rfl⟩ := exists_shown_of_ofFindings h
    exact ⟨_, _, graph, rfl, rfl⟩
  | false =>
    rw [attempt_eq ha he, hx] at h
    obtain ⟨executed, hexecuted, h⟩ := bind_eq_ok.mp h
    obtain ⟨graph, -, rfl⟩ := exists_shown_of_ofFindings h
    refine ⟨_, _, graph, rfl, ?_⟩
    obtain rfl := Except.ok.inj hexecuted
    have hv := Catalog.vulnerabilities_of_skipped (Config.security_mem_skipped hs)
      document.asMap ⟨text.toList, platform⟩ (.upTo config.level)
    rw [allFindings, Findings.vulnerabilities_append, Findings.vulnerabilities_append, hv]
    rfl

/-- An analysis with the default rules, with checks of platforms that only add issues, results in no
vulnerability if its configuration leaves out security and it is complete: both scores for security
are a hundred, and no secret is exposed.  No default rule in another category reports a
vulnerability, no check of a platform adds one, and neither does any step of a session outside of
security, such as a custom rule. -/
theorem run_withoutSecurity (engine : Engine) (hx : engine.execute = Engine.default.execute)
    (ha : engine.Adding) (document : Document) (platform text : String) (config : Config)
    (hs : config.security = false) :
  let result := run engine document platform text config
  (result.complete →
    result.security.vulnerabilities = [] ∧
    result.security.overallScore = 100 ∧
    result.metrics.securityScore = 100 ∧
    result.security.exposedSecrets = 0) ∧
  (∀ r ∈ Catalog.default, r.category ≠ .security → ∀ source,
    (r.check document source).findings.vulnerabilities = []) ∧
  (∀ limit, ∀ checks ∈ PlatformChecks.all limit, ∀ found,
    (checks.analyzeInto document found).findings.vulnerabilities = found.vulnerabilities) ∧
  (∀ found steps, (∀ step ∈ steps, step.OutsideSecurity ⟨document, text, platform, config⟩) →
    (Findings.afterSteps ⟨document, text, platform, config⟩ found steps).vulnerabilities =
      found.vulnerabilities)
  := by
  intro result
  refine ⟨?_, ?_, ?_, ?_⟩
  · intro hc
    obtain ⟨tree, found, graph, hr, hv⟩ :=
      exists_shown_withoutSecurity hx ha hs (attempt_eq_ok_of_complete hc)
    have hr : result = shown platform tree found graph := hr
    have hscore : Measure.securityScore found.vulnerabilities = 100 := by rw [hv]; rfl
    have hexposed :
        (Score.securityReport found.issues found.vulnerabilities).exposedSecrets = 0 := by
      rw [hv]
      rfl
    rw [hr]
    exact ⟨hv, hscore, hscore, hexposed⟩
  · intro r h hc source
    apply Catalog.check_vulnerabilities_of_category h hc
  · intro limit checks hc found
    exact (PlatformChecks.adding_of_mem_all hc document).vulnerabilities found
  · intro found steps h
    apply Findings.afterSteps_vulnerabilities h

/-- A document of a single command. -/
def loneCommand : Document :=
  .map [(.ofText "run", .text "rm -rf /srv")]

/-- A dangerous command is found with security, and not without it. -/
theorem run_withoutSecurity_loneCommand :
  let result := run .default loneCommand "github-actions" "run: rm -rf /srv" { security := false }
  ({ security := false } : Config).security = false ∧
  Engine.default.Adding ∧ result.complete ∧
  (run .default loneCommand "github-actions" "run: rm -rf /srv" {}).security.overallScore = 90 ∧
  result.security.vulnerabilities = [] ∧ result.security.overallScore = 100 ∧
  result.security.exposedSecrets = 0
  := by
  intro result
  have hc : result.complete := by decide +kernel
  have ha : Engine.default.Adding := Engine.adding_default
  obtain ⟨hfound, -⟩ := run_withoutSecurity .default rfl ha loneCommand "github-actions"
    "run: rm -rf /srv" { security := false } rfl
  obtain ⟨hv, ho, -, he⟩ := hfound hc
  exact ⟨rfl, ha, hc, by decide +kernel, hv, ho, he⟩

end Analysis

end PipelineAudit
