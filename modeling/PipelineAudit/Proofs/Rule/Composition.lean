import PipelineAudit.Rule.Engine

/-!
# Composition of runs

A run of a catalog is put together from runs of parts of it.  `execute_singleton` says what a rule
yields when it runs alone, and `execute_eq_concat_alone` that a run is the concatenation of what the
rules that apply yield alone, in the order of the catalog.  `execute_compositional` is the law for
two catalogs, rule by rule and stream by stream: what one rule reports, or that it fails, has no
influence on what the other rules contribute.
-/

namespace PipelineAudit

theorem Findings.vulnerabilities_concat (reports : List Findings) :
  (concat reports).vulnerabilities = reports.flatMap (·.vulnerabilities)
  := by
  induction reports with
  | nil => rfl
  | cons f rest ih => rw [concat, vulnerabilities_append, ih, List.flatMap_cons]

namespace Catalog

variable (document : Document) (source : Source) (strictness : Strictness)
  (skipped : List Category)

/-- A rule that runs alone yields its contribution if it applies, and nothing otherwise. -/
theorem execute_singleton (r : Rule) :
  execute [r] document source strictness skipped =
    .when (r.applies source.platform strictness skipped) (r.contribution document source)
  := by
  rw [execute, List.foldl_cons, List.foldl_nil, round_eq, Findings.none_append]

/-- A run is the concatenation of what the rules that apply yield alone. -/
theorem execute_eq_concat_alone (rules : Catalog) :
  rules.execute document source strictness skipped =
    .concat ((rules.filter (·.applies source.platform strictness skipped)).map
      fun r => execute [r] document source strictness skipped)
  := by
  rw [execute_eq]
  congr 1
  apply List.map_congr_left
  intro r hr
  rw [execute_singleton, (List.mem_filter.mp hr).2, Findings.when_true]

/-- A run of a catalog around one of its rules is the run of the rules before it, the run of the
rule alone, and the run of the rules after it. -/
theorem execute_around (before after : Catalog) (r : Rule) :
  execute (before ++ r :: after) document source strictness skipped =
    before.execute document source strictness skipped ++
      execute [r] document source strictness skipped ++
      after.execute document source strictness skipped
  := by
  rw [execute_append, ← List.singleton_append, execute_append, Findings.append_assoc]

/-- The vulnerabilities of a run are those that the rules that apply report. -/
theorem vulnerabilities_execute (rules : Catalog) :
  (rules.execute document source strictness skipped).vulnerabilities =
    (rules.filter (·.applies source.platform strictness skipped)).flatMap fun r =>
      (r.check document source).findings.vulnerabilities
  := by
  rw [execute_eq, Findings.vulnerabilities_concat, List.flatMap_map, List.flatMap_def,
    List.flatMap_def]
  congr 1
  apply List.map_congr_left
  intro r _
  rw [Rule.contribution, Findings.vulnerabilities_append]
  cases (r.check document source).failure with
  | none => exact List.append_nil _
  | some f => exact List.append_nil _

/-- Running rules is compositional.  Two catalogs together find, in each stream, what the first one
finds followed by what the second one finds; a run concatenates what each rule that applies yields
alone; a rule alone yields what it reports before it fails, and an issue if it fails; and no rule
changes what the rules before and after it contribute. -/
theorem execute_compositional :
  let run := fun rules : Catalog => rules.execute document source strictness skipped
  (∀ rules rules' : Catalog,
    (run (rules ++ rules')).issues = (run rules).issues ++ (run rules').issues ∧
    (run (rules ++ rules')).optimizations =
      (run rules).optimizations ++ (run rules').optimizations ∧
    (run (rules ++ rules')).vulnerabilities =
      (run rules).vulnerabilities ++ (run rules').vulnerabilities) ∧
  (∀ rules : Catalog,
    run rules = .concat ((rules.filter (·.applies source.platform strictness skipped)).map
      fun r => run [r])) ∧
  (∀ r : Rule,
    run [r] = .when (r.applies source.platform strictness skipped)
      ((r.check document source).findings ++
        match (r.check document source).failure with
        | none => .none
        | some f => .issue
            (ruleErrorIssue r.id ("Rule execution error: " ++ r.name) f.text))) ∧
  (∀ (before after : Catalog) (r : Rule),
    run (before ++ r :: after) = run before ++ run [r] ++ run after)
  := by
  intro run
  refine ⟨?_, ?_, ?_, ?_⟩
  · intro rules rules'
    have h : run (rules ++ rules') = run rules ++ run rules' :=
      execute_append document source strictness skipped rules rules'
    rw [h]
    exact ⟨rfl, rfl, rfl⟩
  · intro rules
    apply execute_eq_concat_alone
  · intro r
    apply Eq.trans (execute_singleton document source strictness skipped r)
    rw [Rule.contribution]
    cases (r.check document source).failure with
    | none => rfl
    | some f => rfl
  · intro before after r
    apply execute_around

end Catalog

end PipelineAudit
