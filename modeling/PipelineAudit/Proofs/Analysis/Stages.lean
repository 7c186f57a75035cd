import PipelineAudit.Analysis.Run
import PipelineAudit.Proofs.Analysis.Ranges
import PipelineAudit.Proofs.Finding.LongIntegers
import PipelineAudit.Proofs.Platform.Reporting

/-!
# Stages

The stages of an analysis report into the same findings.  Each of them adds what it reports on its
own, whatever was found before it, as long as the checks of the platform only add issues.

* `validationIssues`, `platformIssues`: what the first two stages report on their own.
* `stages_eq`: what all stages report together.
* `attempt_eq`: the result of an analysis of a document that is not empty.
* `ofFindings_eq`: the result for findings, and when there is one.
-/

namespace PipelineAudit

namespace Reporter

variable {check : Reporter}

/-- A check whose failure is reported adds one more issue where it fails, and does not fail. -/
theorem Adds.caught_eq (h : check.Adds) (issue : Failure → Issue) (found : Findings) :
  check.caught issue found =
    .done (found ++ .ofIssues
      (check.alone.findings.issues ++ check.alone.failure.toList.map issue))
  := by
  rw [caught, h found]
  cases check.alone.failure with
  | none => rw [Option.toList_none, List.map_nil, List.append_nil, Outcome.done]
  | some failure =>
    simp only [Findings.append_ofIssues, Findings.report, Option.toList_some, List.map_cons,
      List.map_nil, List.append_assoc]

theorem Adds.caught (h : check.Adds) (issue : Failure → Issue) :
  (check.caught issue).Adds
  := adds_of_forall (h.caught_eq issue)

theorem Adds.alone_caught (h : check.Adds) (issue : Failure → Issue) :
  (check.caught issue).alone =
    .done (.ofIssues (check.alone.findings.issues ++ check.alone.failure.toList.map issue))
  := (h.caught_eq issue .none).trans (congrArg Outcome.done (Findings.none_append _))

end Reporter

theorem PlatformChecks.of?_eq_some {platform : String} {checks : PlatformChecks}
    (h : of? platform = some checks) :
  checks ∈ all Bitbucket.deepest ∧ checks.platform = platform
  := ⟨List.mem_of_find?_eq_some h, of_decide_eq_true (List.find?_some h :)⟩

namespace Engine

/-- The checks of each platform only add issues, the same to all findings. -/
def Adding (engine : Engine) : Prop :=
  ∀ platform checks, engine.checks? platform = some checks → ∀ document, checks.Adding document

theorem adding_ofCatalog (rules : Catalog) :
  (ofCatalog rules).Adding
  := fun _ _ hc => PlatformChecks.adding_of_mem_all (PlatformChecks.of?_eq_some hc).1

theorem adding_default :
  Engine.default.Adding
  := adding_ofCatalog .default

end Engine

namespace Analysis

variable {engine : Engine} {document : Document} {platform text : String} {config : Config}

/-! ### The first two stages -/

/-- The issues that the validation of the input reports on its own. -/
def validationIssues (document : Document) (text : String) (config : Config) : List Issue :=
  (validateInput document text config .none).findings.issues

/-- The issues that the platform stage reports on its own. -/
def platformIssues (engine : Engine) (document : Document) (platform : String) : List Issue :=
  (checkPlatform engine document platform .none).findings.issues

theorem adds_validateInput (document : Document) (text : String) (config : Config) :
  (validateInput document text config).Adds
  := by
  refine Reporter.Adds.andThen ?_ (Reporter.adds_reportIf _ _)
  split
  · exact Reporter.adds_report _
  · exact Reporter.adds_reportIf _ _

/-- The validation of the input does not fail. -/
theorem validateInput_eq (document : Document) (text : String) (config : Config)
    (found : Findings) :
  validateInput document text config found =
    .done (found ++ .ofIssues (validationIssues document text config))
  := by
  have hnone : (validateInput document text config).alone.failure = none := by
    rw [Reporter.alone, validateInput]
    cases decide (config.maxFileSize < text.utf8ByteSize) <;> cases document.isEmpty <;>
      cases document.isMap <;> rfl
  rw [adds_validateInput document text config found, hnone]
  rfl

theorem adds_checkPlatform (h : engine.Adding) (document : Document) (platform : String) :
  (checkPlatform engine document platform).Adds
  := by
  rw [checkPlatform]
  cases hc : engine.checks? platform with
  | none => exact Reporter.adds_report _
  | some checks =>
    dsimp only
    split
    · exact (h platform checks hc document).analyzeInto.caught _
    · exact Reporter.adds_silent

/-- Neither does the platform stage. -/
theorem checkPlatform_eq (h : engine.Adding) (document : Document) (platform : String)
    (found : Findings) :
  checkPlatform engine document platform found =
    .done (found ++ .ofIssues (platformIssues engine document platform))
  := by
  have hnone : (checkPlatform engine document platform).alone.failure = none := by
    rw [checkPlatform]
    cases hc : engine.checks? platform with
    | none => rfl
    | some checks =>
      dsimp only
      split
      · rw [analyze, (h platform checks hc document).analyzeInto.alone_caught, Outcome.done]
      · rfl
  rw [adds_checkPlatform h document platform found, hnone]
  rfl

/-- The platform stage of a platform with checks: the issues that these report on a mapping, and one
more if they fail. -/
theorem platformIssues_of_checks (h : engine.Adding) (hm : document.isMap)
    {checks : PlatformChecks} (hc : engine.checks? platform = some checks) :
  platformIssues engine document platform =
    (checks.analyzeInto document .none).findings.issues ++
      (checks.analyzeInto document .none).failure.toList.map (analyzerFailure checks.platform)
  := by
  rw [platformIssues, checkPlatform, hc]
  dsimp only
  rw [if_pos hm, analyze, (h platform checks hc document).analyzeInto.caught_eq,
    Findings.none_append]
  rfl

/-- The platform stage of a platform without checks. -/
theorem platformIssues_of_none (hc : engine.checks? platform = none) (document : Document) :
  platformIssues engine document platform = [unsupportedPlatform platform]
  := by
  rw [platformIssues, checkPlatform, hc]
  rfl

/-! ### All stages -/

/-- The findings of all stages, each as it reports on its own. -/
def allFindings (engine : Engine) (document : Document) (platform text : String) (config : Config)
    (executed : Findings) : Findings :=
  .ofIssues (validationIssues document text config) ++
    .ofIssues (platformIssues engine document platform) ++ executed ++
    .ofIssues (CustomRule.runAll config.customRules document.asMap text platform)

/-- Each stage adds what it reports on its own; the rules alone may keep the analysis from
finishing. -/
theorem stages_eq (h : engine.Adding) (document : Document) (platform text : String)
    (config : Config) :
  stages engine document platform text config .none =
    match engine.execute document.asMap ⟨text.toList, platform⟩ (.upTo config.level)
        config.skipped with
    | .error failure =>
      ⟨.ofIssues (validationIssues document text config) ++
        .ofIssues (platformIssues engine document platform), some failure⟩
    | .ok executed => .done (allFindings engine document platform text config executed)
  := by
  simp only [stages, Reporter.andThen, validateInput_eq, checkPlatform_eq h, Outcome.done,
    Findings.none_append]
  cases engine.execute document.asMap ⟨text.toList, platform⟩ (.upTo config.level)
      config.skipped with
  | error failure => rfl
  | ok executed =>
    simp only [Reporter.reading, CustomRule.runInto_eq]
    rfl

/-- An analysis of an empty document only validates it. -/
theorem attempt_of_isEmpty (he : document.isEmpty) (engine : Engine) (platform text : String)
    (config : Config) :
  attempt engine document platform text config =
    ofFindings platform (.map []) (.ofIssues (validationIssues document text config))
  := by
  rw [attempt, if_pos he, validateInput_eq, Findings.none_append]
  rfl

/-- An analysis of any other document results from the findings of all stages, if the rules as a
whole do not fail. -/
theorem attempt_eq (h : engine.Adding) (he : document.isEmpty = false) (platform text : String)
    (config : Config) :
  attempt engine document platform text config =
    (engine.execute document.asMap ⟨text.toList, platform⟩ (.upTo config.level)
        config.skipped).bind fun executed =>
      ofFindings platform document.asMap
        (allFindings engine document platform text config executed)
  := by
  rw [attempt, he, if_neg Bool.false_ne_true, stages_eq h]
  cases engine.execute document.asMap ⟨text.toList, platform⟩ (.upTo config.level)
      config.skipped with
  | error failure => rfl
  | ok executed => rfl

theorem attempt_ofCatalog (rules : Catalog) (he : document.isEmpty = false)
    (platform text : String) (config : Config) :
  attempt (.ofCatalog rules) document platform text config =
    ofFindings platform document.asMap
      (allFindings (.ofCatalog rules) document platform text config
        (rules.execute document.asMap ⟨text.toList, platform⟩ (.upTo config.level)
          config.skipped))
  := attempt_eq (Engine.adding_ofCatalog rules) he platform text config

/-- The result of an analysis is complete if there is one, and otherwise says why there is none. -/
theorem attempt_eq_ok_of_complete (h : (run engine document platform text config).complete) :
  attempt engine document platform text config = .ok (run engine document platform text config)
  := by
  rw [run] at h ⊢
  cases ha : attempt engine document platform text config with
  | ok result => rfl
  | error failure =>
    rw [ha] at h
    cases h

/-- The result of a complete analysis of a mapping: that of the findings of all stages. -/
theorem exists_of_complete (h : engine.Adding) (hm : document.isMap)
    (he : document.isEmpty = false)
    (hc : (run engine document platform text config).complete) :
  ∃ executed,
    engine.execute document ⟨text.toList, platform⟩ (.upTo config.level) config.skipped =
      .ok executed ∧
    ofFindings platform document
        (allFindings engine document platform text config executed) =
      .ok (run engine document platform text config)
  := by
  have ha := attempt_eq_ok_of_complete hc
  rw [attempt_eq h he, Document.asMap_of_isMap hm] at ha
  exact bind_eq_ok.mp ha

/-! ### Results -/

/-- The result for findings on a document with a diagram and a text as JSON. -/
def shown (platform : String) (document : Document) (found : Findings) (graph : String) :
    Analysis where
  platform := platform
  score := Score.overall found.issues found.vulnerabilities
  issues := found.issues
  optimizations := found.optimizations
  security := Score.securityReport found.issues found.vulnerabilities
  cost := CostEstimation.of document platform
  recommendations := Score.recommendations found.issues found.optimizations
  graph := graph
  metrics := Metrics.measured document platform found.vulnerabilities

/-- Whether there is a result depends on the document only. -/
theorem ofFindings_eq (platform : String) (document : Document) (found : Findings) :
  ofFindings platform document found =
    (Graph.render document platform).bind fun graph =>
      ifWritable document.hasJson (shown platform document found graph)
  := by
  rw [ofFindings, Metrics.of_eq]
  cases document.hasJson with
  | false => rfl
  | true => rfl

/-- A result lists the findings, and everything else in it is computed from them and the
document. -/
theorem exists_shown_of_ofFindings {found : Findings} {result : Analysis}
    (h : ofFindings platform document found = .ok result) :
  ∃ graph, Graph.render document platform = .ok graph ∧
    result = shown platform document found graph
  := by
  rw [ofFindings_eq] at h
  obtain ⟨graph, hg, h⟩ := bind_eq_ok.mp h
  exact ⟨graph, hg, (ifWritable_eq_ok.mp h).2.symm⟩

theorem isWritable_of_mem_needed {job d : Document} (h : job.isWritable)
    (hd : d ∈ Graph.needed job) :
  d.isWritable
  := by
  have hn := Document.isWritable_get h "needs"
  rw [Graph.needed] at hd
  split at hd
  · cases hd
  · split at hd
    · exact Document.isWritable_of_mem_items hn hd
    · obtain rfl := List.mem_singleton.mp hd
      exact hn

/-- A diagram is missing only if something cannot be written. -/
theorem onlyLong_render (document : Document) (platform : String) :
  OnlyLong document.isWritable (readFailure? (Graph.render document platform))
  := by
  rw [Graph.render]
  split
  · exact .none _
  · split
    · exact .none _
    · apply OnlyLong.map
      apply OnlyLong.mapM
      intro e he
      have hw (h : document.isWritable) := Document.isWritable_of_mem_entries
        (Document.isWritable_get h "jobs") he
      apply OnlyLong.bind (.ifWritable (fun h => (hw h).1) _)
      intro name _
      apply OnlyLong.map
      apply OnlyLong.mapM
      intro d hd
      exact .ifWritable (fun h => isWritable_of_mem_needed (hw h).2 hd) _

theorem isWritable_asMap (h : document.isWritable) :
  document.asMap.isWritable
  := by
  cases document with
  | map entries => exact h
  | _ => rfl

/-- Findings on a document that can be written have a result. -/
theorem exists_ofFindings_of_isWritable (hw : document.isWritable) (platform : String)
    (found : Findings) :
  ∃ result, ofFindings platform document found = .ok result
  := by
  have hrender := (onlyLong_render document platform).eq_none hw
  rw [ofFindings_eq, Document.hasJson_of_isWritable hw]
  cases hg : Graph.render document platform with
  | ok graph => exact ⟨_, rfl⟩
  | error e =>
    rw [hg] at hrender
    cases hrender

/-- An analysis that has a result is complete. -/
theorem complete_of_attempt {result : Analysis}
    (h : attempt engine document platform text config = .ok result) :
  result.complete
  := by
  have houtcome : ∀ tree outcome, ofOutcome platform tree outcome = .ok result →
      result.complete := by
    intro tree outcome ho
    rw [ofOutcome] at ho
    split at ho
    · cases ho
    · obtain ⟨graph, -, rfl⟩ := exists_shown_of_ofFindings ho
      rfl
  rw [attempt] at h
  split at h
  · exact houtcome _ _ h
  · exact houtcome _ _ h

/-- Otherwise it falls back on the failure. -/
theorem exists_fallback_of_not_complete
    (h : ¬ (run engine document platform text config).complete) :
  ∃ failure, run engine document platform text config = fallback failure
  := by
  rw [run] at h ⊢
  cases ha : attempt engine document platform text config with
  | error failure => exact ⟨failure, rfl⟩
  | ok result =>
    rw [ha] at h
    exact absurd (complete_of_attempt ha) h

/-- An analysis of a document that can be written is complete. -/
theorem complete_of_isWritable (rules : Catalog) (hw : document.isWritable)
    (platform text : String) (config : Config) :
  (run (.ofCatalog rules) document platform text config).complete
  := by
  have hresult :
      ∃ result, attempt (.ofCatalog rules) document platform text config = .ok result := by
    cases he : document.isEmpty with
    | true =>
      rw [attempt_of_isEmpty he]
      exact exists_ofFindings_of_isWritable rfl platform _
    | false =>
      rw [attempt_ofCatalog rules he]
      exact exists_ofFindings_of_isWritable (isWritable_asMap hw) platform _
  obtain ⟨result, hr⟩ := hresult
  rw [run, hr]
  exact complete_of_attempt hr

end Analysis

end PipelineAudit
