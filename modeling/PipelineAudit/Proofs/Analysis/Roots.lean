import PipelineAudit.Proofs.Analysis.Stages

/-!
# Roots that are no mappings

An analysis never looks into a root that is neither empty nor a mapping.  It names the kind of the
root in one issue, and goes on with the empty mapping: the checks of the platform are passed over,
and rules, custom rules, scores and metrics see the empty mapping only.

* `validationIssues_of_unmapped`, `platformIssues_of_unmapped`: what the first two stages report.
* `run_of_unmapped`: the result of an analysis of such a root, in terms of the kind of the root.
* `run_unmapped_congr`: analyses of two such roots of the same kind.
-/

namespace PipelineAudit

/-- A document that is neither empty nor a mapping. -/
structure Document.IsUnmapped (d : Document) : Prop where
  notEmpty : d.isEmpty = false
  notMap : d.isMap = false

/-- In place of a document that is no mapping stands the empty mapping. -/
theorem Document.IsUnmapped.asMap {d : Document} (h : d.IsUnmapped) :
  d.asMap = map []
  := by
  cases d with
  | map entries => cases h.notMap
  | _ => rfl

namespace Analysis

/-- The issue of a text that is too large, if it is. -/
def sizeIssues (text : String) (config : Config) : List Issue :=
  if config.maxFileSize < text.utf8ByteSize
    then [fileSize text.utf8ByteSize config.maxFileSize] else []

/-- The issue of a platform without checks, if it has none. -/
def supportIssues (engine : Engine) (platform : String) : List Issue :=
  if (engine.checks? platform).isNone then [unsupportedPlatform platform] else []

/-- The validation reports one invalid root, by its kind, after the size. -/
theorem validationIssues_of_unmapped {document : Document} (h : document.IsUnmapped)
    (text : String) (config : Config) :
  validationIssues document text config =
    sizeIssues text config ++ [invalidRoot document.kindName]
  := by
  rw [validationIssues, validateInput, h.notEmpty, h.notMap, sizeIssues]
  by_cases hs : config.maxFileSize < text.utf8ByteSize <;> simp [hs] <;> rfl

theorem countP_validationIssues_of_unmapped {document : Document} (h : document.IsUnmapped)
    (text : String) (config : Config) :
  (validationIssues document text config).countP (·.ruleId = some "invalid-root") = 1
  := by
  rw [validationIssues_of_unmapped h, List.countP_append, sizeIssues]
  split
  · rfl
  · rfl

/-- The platform stage reports no more than that there are no checks. -/
theorem platformIssues_of_unmapped {document : Document} (h : document.IsUnmapped)
    (engine : Engine) (platform : String) :
  platformIssues engine document platform = supportIssues engine platform
  := by
  rw [platformIssues, checkPlatform, h.notMap, supportIssues]
  cases engine.checks? platform with
  | none => rfl
  | some checks => rfl

/-- The empty mapping has a result, with any findings. -/
theorem ofFindings_empty (platform : String) (found : Findings) :
  ofFindings platform (.map []) found = .ok (shown platform (.map []) found Graph.placeholder)
  := by
  have hjobs : ((Document.map []).get "jobs").entries = [] := rfl
  have hrender : Graph.render (.map []) platform = .ok Graph.placeholder := by
    simp [Graph.render, hjobs]
  rw [ofFindings_eq, hrender]
  rfl

/-- The result of an analysis of a root that is neither empty nor a mapping: that of the empty
mapping with the findings of all stages on the empty mapping, and the kind of the root in one
issue. -/
theorem run_of_unmapped (rules : Catalog) {document : Document} (h : document.IsUnmapped)
    (platform text : String) (config : Config) :
  run (.ofCatalog rules) document platform text config =
    shown platform (.map [])
      (.ofIssues (sizeIssues text config ++ [invalidRoot document.kindName]) ++
        .ofIssues (supportIssues (.ofCatalog rules) platform) ++
        rules.execute (.map []) ⟨text.toList, platform⟩ (.upTo config.level) config.skipped ++
        .ofIssues (CustomRule.runAll config.customRules (.map []) text platform))
      Graph.placeholder
  := by
  rw [run, attempt_ofCatalog rules h.notEmpty, h.asMap, allFindings,
    validationIssues_of_unmapped h, platformIssues_of_unmapped h, h.asMap, ofFindings_empty]

/-- Analyses of two roots of the same kind, neither of them empty or a mapping, have the same
result.  In it the validation reports one invalid root, by its kind, and the platform stage no more
than that there are no checks; all other issues, the optimizations and the vulnerabilities are
those of the rules and custom rules on the empty mapping, with the same text.  Everything else is
computed from these findings and the empty mapping. -/
theorem run_unmapped_congr (rules : Catalog) {document document' : Document}
    (h : document.IsUnmapped) (h' : document'.IsUnmapped)
    (hk : document.kindName = document'.kindName) (platform text : String) (config : Config) :
  let engine := Engine.ofCatalog rules
  let found :=
    rules.execute (.map []) ⟨text.toList, platform⟩ (.upTo config.level) config.skipped
  let custom := CustomRule.runInto config.customRules (.map []) text platform .none
  let result := run engine document platform text config
  result = run engine document' platform text config ∧
  (validationIssues document text config).countP (·.ruleId = some "invalid-root") = 1 ∧
  platformIssues engine document platform = supportIssues engine platform ∧
  result.issues =
    sizeIssues text config ++ [invalidRoot document.kindName] ++ supportIssues engine platform ++
      found.issues ++ custom.issues ∧
  result.optimizations = found.optimizations ∧
  result.security.vulnerabilities = found.vulnerabilities ∧
  ofFindings platform (.map [])
    ⟨result.issues, result.optimizations, result.security.vulnerabilities⟩ = .ok result
  := by
  intro engine found custom result
  have hr : result = _ := run_of_unmapped rules h platform text config
  refine ⟨?_, ?_, ?_, ?_, ?_, ?_, ?_⟩
  · rw [hr, run_of_unmapped rules h', hk]
  · apply countP_validationIssues_of_unmapped h
  · apply platformIssues_of_unmapped h
  · simp only [custom, CustomRule.runInto_eq, hr]
    rfl
  · rw [hr]
    exact List.append_nil _
  · rw [hr]
    exact List.append_nil _
  · rw [hr]
    apply ofFindings_empty

/-- Two lists: a pipeline on its own in the second makes no difference. -/
theorem run_unmapped_congr_lists :
  let first : Document := .list [.text "a", .text "b"]
  let second : Document := .list [.map [(.ofText "on", .null), (.ofText "jobs", .up 1)]]
  let analysis := fun d => run .default d "github-actions" "- a\n- b" {}
  first.IsUnmapped ∧ second.IsUnmapped ∧ first.kindName = second.kindName ∧
    analysis first = analysis second ∧
    (analysis first).issues.head? = some (invalidRoot "list")
  := by
  intro first second analysis
  have hf : first.IsUnmapped := ⟨rfl, rfl⟩
  have hs : second.IsUnmapped := ⟨rfl, rfl⟩
  obtain ⟨hr, -, -, hi, -⟩ :=
    run_unmapped_congr .default hf hs rfl "github-actions" "- a\n- b" {}
  refine ⟨hf, hs, rfl, hr, ?_⟩
  simp only [analysis, Engine.default, hi]
  rfl

end Analysis

end PipelineAudit
