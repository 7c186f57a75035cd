import PipelineAudit.Proofs.Rule.Composition

/-!
# Failing rules

A rule reports straight into the findings of a run, so that what it reported stays there when it
fails afterwards.  `Rule.replacement` is what a rule leaves if its failure replaces all that it
reported, and `Rule.remnant` is what it leaves besides.

* `Rule.contribution_eq`: a rule contributes its remnant and its replacement.
* `Catalog.execute_replaces_iff`: a run replaces the rules that fail by their errors exactly when
  none of them reported anything before.
* `Catalog.execute_halfway`: a rule that fails after it reported an issue leaves two issues.
-/

namespace PipelineAudit

/-! ### Counting findings -/

namespace Findings

/-- The number of findings. -/
def size (found : Findings) : Nat :=
  found.issues.length + found.optimizations.length + found.vulnerabilities.length

theorem size_append (a b : Findings) :
  (a ++ b).size = a.size + b.size
  := by
  simp only [size, issues_append, optimizations_append, vulnerabilities_append,
    List.length_append]
  omega

theorem size_eq_zero_iff {found : Findings} :
  found.size = 0 ↔ found = none
  := by
  constructor
  · intro h
    have hs : found.issues.length = 0 ∧ found.optimizations.length = 0 ∧
        found.vulnerabilities.length = 0 := by
      rw [size] at h
      omega
    obtain ⟨hi, ho, hv⟩ := hs
    ext1
    · apply List.eq_nil_of_length_eq_zero hi
    · apply List.eq_nil_of_length_eq_zero ho
    · apply List.eq_nil_of_length_eq_zero hv
  · rintro rfl
    rfl

/-- Reports that consist of two parts each have as many findings as their first parts and their
second parts. -/
theorem size_concat_append {α : Type} (f g : α → Findings) (l : List α) :
  (concat (l.map fun a => f a ++ g a)).size =
    total (l.map fun a => (f a).size) + (concat (l.map g)).size
  := by
  induction l with
  | nil => rfl
  | cons a rest ih =>
    simp only [List.map_cons, concat, total, size_append, ih]
    omega

/-- Reports that consist of two parts each come to the same as their second parts exactly when the
first parts are empty. -/
theorem concat_append_eq_iff {α : Type} (f g : α → Findings) (l : List α) :
  concat (l.map fun a => f a ++ g a) = concat (l.map g) ↔ ∀ a ∈ l, f a = none
  := by
  constructor
  · intro h a ha
    have hs := congrArg size h
    rw [size_concat_append] at hs
    have hle := le_total_of_mem (List.mem_map_of_mem (f := fun a => (f a).size) ha)
    apply size_eq_zero_iff.mp
    omega
  · intro h
    congr 1
    apply List.map_congr_left
    intro a ha
    rw [h a ha, none_append]

theorem append_left_cancel {a b c : Findings} (h : a ++ b = a ++ c) :
  b = c
  := by
  ext1
  · apply List.append_cancel_left (congrArg issues h)
  · apply List.append_cancel_left (congrArg optimizations h)
  · apply List.append_cancel_left (congrArg vulnerabilities h)

theorem append_right_cancel {a b c : Findings} (h : a ++ c = b ++ c) :
  a = b
  := by
  ext1
  · apply List.append_cancel_right (congrArg issues h)
  · apply List.append_cancel_right (congrArg optimizations h)
  · apply List.append_cancel_right (congrArg vulnerabilities h)

end Findings

/-! ### What a failing rule leaves -/

namespace Rule

variable (document : Document) (source : Source)

/-- The issue that stands for a failure of a rule. -/
def errorIssue (r : Rule) (f : Failure) : Issue :=
  ruleErrorIssue r.id ("Rule execution error: " ++ r.name) f.text

/-- What a rule leaves if its failure replaces what it reported: what it reported if it does not
fail, and otherwise a single issue. -/
def replacement (r : Rule) : Findings :=
  match (r.check document source).failure with
  | none => (r.check document source).findings
  | some f => .issue (r.errorIssue f)

/-- What a rule reported before it failed, nothing if it does not fail. -/
def remnant (r : Rule) : Findings :=
  match (r.check document source).failure with
  | none => .none
  | some _ => (r.check document source).findings

/-- A rule contributes what it reported before it failed, and its replacement. -/
theorem contribution_eq (r : Rule) :
  r.contribution document source = r.remnant document source ++ r.replacement document source
  := by
  rw [contribution, remnant, replacement]
  cases (r.check document source).failure with
  | none => apply Findings.append_none
  | some f => rfl

theorem remnant_eq_none_iff {r : Rule} :
  r.remnant document source = .none ↔
    ((r.check document source).failure ≠ none → (r.check document source).findings = .none)
  := by
  rw [remnant]
  cases (r.check document source).failure with
  | none => simp
  | some f => simp

end Rule

namespace Catalog

variable (document : Document) (source : Source) (strictness : Strictness)
  (skipped : List Category)

/-- A run replaces the rules that fail by their errors exactly when none of them reported anything
before it failed.  So does the part of a run that one failing rule adds between the rules before it
and the rules after it: it is the single issue of its failure, filed under the rule's id, exactly
when the rule reported nothing before. -/
theorem execute_replaces_iff :
  let run := fun rules : Catalog => rules.execute document source strictness skipped
  (∀ rules : Catalog,
    run rules = .concat ((rules.filter (·.applies source.platform strictness skipped)).map
        (·.replacement document source)) ↔
      ∀ r ∈ rules, r.applies source.platform strictness skipped →
        (r.check document source).failure ≠ none →
          (r.check document source).findings = .none) ∧
  (∀ (before after : Catalog) (r : Rule) (f : Failure),
    r.applies source.platform strictness skipped →
    (r.check document source).failure = some f →
    (r.errorIssue f).ruleId = some ("rule-error-" ++ r.id) ∧
    (run (before ++ r :: after) = run before ++ .issue (r.errorIssue f) ++ run after ↔
      (r.check document source).findings = .none))
  := by
  intro run
  constructor
  · intro rules
    have hr : run rules = .concat
        ((rules.filter (·.applies source.platform strictness skipped)).map fun r =>
          r.remnant document source ++ r.replacement document source) := by
      apply Eq.trans (execute_eq document source strictness skipped rules)
      simp only [Rule.contribution_eq]
    rw [hr, Findings.concat_append_eq_iff]
    simp only [List.mem_filter, and_imp, Rule.remnant_eq_none_iff]
  · intro before after r f ha hf
    refine ⟨rfl, ?_⟩
    have hr : run (before ++ r :: after) =
        run before ++ ((r.check document source).findings ++ .issue (r.errorIssue f)) ++
          run after := by
      apply Eq.trans (execute_around document source strictness skipped before after r)
      rw [execute_singleton, ha, Findings.when_true, Rule.contribution, hf]
      rfl
    rw [hr]
    constructor
    · intro h
      have h := Findings.append_left_cancel (Findings.append_right_cancel h)
      apply Findings.append_right_cancel h
    · intro h
      rw [h, Findings.none_append]

/-- A rule that reports some issues and fails then. -/
def halfway (reported : List Issue) : Rule where
  id := "halfway"
  name := "Halfway"
  category := .linting
  kind := "Injected"
  check _ _ := { findings := .ofIssues reported, failure := some ⟨"ValueError", "no second job"⟩ }

/-- The only finding of a run of a rule that fails at once is its error. -/
theorem execute_replaces_iff_atOnce :
  let source : Source := ⟨[], "github-actions"⟩
  (halfway []).applies source.platform .everything [] ∧
  ((halfway []).check (.map []) source).failure = some ⟨"ValueError", "no second job"⟩ ∧
  execute [halfway []] (.map []) source .everything [] =
    .issue (ruleErrorIssue "halfway" "Rule execution error: Halfway" "no second job")
  := by
  intro source
  have ha : (halfway []).applies source.platform .everything [] := rfl
  have hf : ((halfway []).check (.map []) source).failure =
      some ⟨"ValueError", "no second job"⟩ := rfl
  refine ⟨ha, hf, ?_⟩
  apply ((execute_replaces_iff (.map []) source .everything []).2 [] [] _ _ ha hf).2.mpr
  rfl

/-- The issue of a first job. -/
def firstJob : Issue where
  title := "first job"
  description := "first job"
  severity := .info
  category := .linting

/-- The error of a rule that fails after it reported an issue does not replace the issue. -/
theorem execute_halfway :
  (execute [halfway [firstJob]] (.map []) ⟨[], "github-actions"⟩ .everything []).issues =
    [firstJob, ruleErrorIssue "halfway" "Rule execution error: Halfway" "no second job"] ∧
  execute [halfway [firstJob]] (.map []) ⟨[], "github-actions"⟩ .everything [] ≠
    (halfway [firstJob]).replacement (.map []) ⟨[], "github-actions"⟩
  := by
  constructor
  · rfl
  · intro h
    cases congrArg Findings.size h

end Catalog

end PipelineAudit
