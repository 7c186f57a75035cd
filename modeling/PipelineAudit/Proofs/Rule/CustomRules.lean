import PipelineAudit.Proofs.Related
import PipelineAudit.Rule.Engine

/-!
# Custom rules

A custom rule is taken as a whole or not at all.  `CustomItem.Is` says which issue an item of a
returned list is, and `CustomRule.Returns` that a rule returns a list whose items are issues, one
after the other.

* `contribution_cases`: a rule contributes the issues that it returns, or else a single issue that
  says it failed.
* `runInto_allOrNothing`: what custom rules leave behind, whatever was found before.
-/

namespace PipelineAudit

/-- An item of a returned list is an issue: as such, or because it reads as one. -/
inductive CustomItem.Is : CustomItem → Issue → Prop where
  | issue (i : Issue) : Is (.issue i) i
  | json {fields : Fields} {i : Issue} (h : Issue.ofFields fields = .valid i) :
    Is (.json (.object fields)) i
  | other (i : Issue) : Is (.other (.ok i)) i

theorem CustomItem.toIssue_eq_ok_iff {item : CustomItem} {i : Issue} :
  item.toIssue = .ok i ↔ item.Is i
  := by
  constructor
  · intro h
    cases item with
    | issue j =>
      cases h
      exact .issue i
    | json value =>
      cases value with
      | object fields =>
        rw [toIssue] at h
        cases hf : Issue.ofFields fields with
        | valid j =>
          rw [hf] at h
          cases h
          exact .json hf
        | invalid errors =>
          rw [hf] at h
          cases h
      | _ => cases h
    | other reading =>
      rw [toIssue] at h
      rw [h]
      exact .other i
  · intro h
    cases h with
    | issue => rfl
    | json h =>
      rw [toIssue, h]
      rfl
    | other => rfl

namespace CustomRule

variable (document : Document) (text platform : String)

/-- A rule returns a list whose items are some issues, one after the other. -/
def Returns (r : CustomRule) (issues : List Issue) : Prop :=
  ∃ items, r.check document text platform = .ok (.items items) ∧
    List.Forall₂ CustomItem.Is items issues

/-- A rule produces the issues that it returns, and nothing if it returns none. -/
theorem produce_eq_ok_iff {r : CustomRule} {issues : List Issue} :
  r.produce document text platform = .ok issues ↔ r.Returns document text platform issues
  := by
  rw [produce, Returns]
  cases r.check document text platform with
  | error failure => simp
  | ok result =>
    cases result with
    | other kind => simp
    | items list => simp [mapM_eq_ok_iff, CustomItem.toIssue_eq_ok_iff]

/-- A rule contributes all of the issues that it returns; one that fails, returns no list, or
returns a list with an item that is no issue contributes a single issue that says so. -/
theorem contribution_cases (r : CustomRule) :
  r.Returns document text platform (r.contribution document text platform) ∨
    (¬ ∃ issues, r.Returns document text platform issues) ∧
      ∃ error, r.contribution document text platform = [r.errorIssue error]
  := by
  rw [contribution]
  cases hp : r.produce document text platform with
  | ok issues =>
    left
    exact (produce_eq_ok_iff document text platform).mp hp
  | error error =>
    right
    constructor
    · rintro ⟨issues, h⟩
      rw [(produce_eq_ok_iff document text platform).mpr h] at hp
      cases hp
    · exact ⟨error, rfl⟩

/-- A rule that runs alone on no findings finds what it contributes. -/
theorem runInto_singleton (r : CustomRule) :
  (runInto [r] document text platform .none).issues = r.contribution document text platform
  := by
  rw [runInto_eq, runAll, List.flatMap_singleton]
  rfl

/-- Custom rules are taken as a whole or not at all, whatever was found before.  They leave the
optimizations and the vulnerabilities as they are, and add to the issues one part after the other,
in the order of the rules.  The part of a rule is what it adds alone to no findings: the issues that
it returns, or, if it returns nothing of the kind, a single issue that says it failed. -/
theorem runInto_allOrNothing (rules : List CustomRule) (found : Findings) :
  let after := runInto rules document text platform found
  after.optimizations = found.optimizations ∧
  after.vulnerabilities = found.vulnerabilities ∧
  ∃ parts : List (List Issue),
    after.issues = found.issues ++ parts.flatten ∧
    List.Forall₂ (fun r part =>
      part = (runInto [r] document text platform .none).issues ∧
      (r.Returns document text platform part ∨
        (¬ ∃ issues, r.Returns document text platform issues) ∧
          ∃ i, part = [i] ∧ i.ruleId = some ("rule-error-" ++ r.id))) rules parts
  := by
  intro after
  have ha : after = found ++ .ofIssues (runAll rules document text platform) :=
    runInto_eq document text platform rules found
  rw [ha]
  refine ⟨List.append_nil _, List.append_nil _, ?_⟩
  refine ⟨rules.map (·.contribution document text platform), rfl, ?_⟩
  apply List.forall₂_map_right_iff.mpr
  apply List.forall₂_same.mpr
  intro r _
  constructor
  · exact (runInto_singleton document text platform r).symm
  · obtain h | ⟨hn, error, he⟩ := contribution_cases document text platform r
    · exact .inl h
    · exact .inr ⟨hn, r.errorIssue error, he, rfl⟩

end CustomRule

end PipelineAudit
