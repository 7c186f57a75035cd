import PipelineAudit.Outcome
import PipelineAudit.Proofs.Finding.IssueIds

/-!
# What holds of outcomes part by part

A condition on findings that is kept when findings are put together holds of the findings of a check
if it holds of those of its parts, wherever the check stops.

* `Cumulative`: such a condition.
* `Cumulative.append`, `Cumulative.each`, `Cumulative.reading`: the ways to put checks together.
-/

namespace PipelineAudit

/-- What a check reports stays reported when another one is made after it. -/
theorem Outcome.mem_issues_append_of_mem {a : Outcome} {i : Issue} (h : i ∈ a.findings.issues)
    (b : Outcome) :
  i ∈ (a ++ b).findings.issues
  := by
  obtain ⟨f, _ | failure⟩ := a
  · exact List.mem_append_left _ h
  · exact h

/-- A check that files issues about some and fails on the others without a report has filed those
about the ones up to the first on which it fails. -/
theorem Outcome.issues_each {α : Type} {check : α → Outcome} {passes : α → Bool}
    {issues : α → List Issue} {as : List α}
    (hfile : ∀ a ∈ as, passes a → check a = .done (.ofIssues (issues a)))
    (hfail : ∀ a ∈ as, passes a = false → ∃ e, check a = .failed e) :
  (each check as).findings.issues = (as.takeWhile passes).flatMap issues
  := by
  induction as with
  | nil => rfl
  | cons a rest ih =>
    obtain ⟨ha, hrest⟩ := List.forall_mem_cons.mp hfile
    obtain ⟨hfa, hfrest⟩ := List.forall_mem_cons.mp hfail
    cases hp : passes a with
    | true =>
      rw [each, ha hp, append_of_failure_eq_none rfl, List.takeWhile_cons_of_pos hp,
        List.flatMap_cons, ← ih hrest hfrest]
      rfl
    | false =>
      obtain ⟨e, he⟩ := hfa hp
      rw [each, he, List.takeWhile_cons_of_neg (by simp [hp])]
      rfl

/-- What is filed under an id by two checks in sequence; the second one is made if the first does
not fail. -/
theorem Outcome.filedUnder_append (id : String) (a b : Outcome) :
  filedUnder id (a ++ b).findings.issues =
    filedUnder id a.findings.issues ++
      if a.failure = none then filedUnder id b.findings.issues else []
  := by
  obtain ⟨f, _ | failure⟩ := a
  · exact PipelineAudit.filedUnder_append id f.issues b.findings.issues
  · exact (List.append_nil _).symm

/-- What a check files of other ids makes no difference. -/
theorem Outcome.filedUnder_append_left {id : String} {ids : List String} (hid : id ∉ ids)
    (a : Outcome) {b : Outcome} (hb : HaveIds ids b.findings.issues) :
  filedUnder id (a ++ b).findings.issues = filedUnder id a.findings.issues
  := by
  rw [filedUnder_append, hb.filedUnder_eq_nil hid, ite_self, List.append_nil]

/-- Neither does what a check has filed of other ids before, if it did not fail. -/
theorem Outcome.filedUnder_append_right {id : String} {ids : List String} (hid : id ∉ ids)
    {a : Outcome} (ha : HaveIds ids a.findings.issues) (hf : a.failure = none) (b : Outcome) :
  filedUnder id (a ++ b).findings.issues = filedUnder id b.findings.issues
  := by
  rw [filedUnder_append, ha.filedUnder_eq_nil hid, if_pos hf, List.nil_append]

/-- A condition on findings that holds of none, and of findings together if it holds of each. -/
structure Cumulative (P : Findings → Prop) : Prop where
  none : P .none
  both : ∀ {f g : Findings}, P f → P g → P (f ++ g)

namespace Cumulative

variable {α : Type} {P : Findings → Prop}

/-- What holds of each issue of some findings holds of each issue of them together. -/
theorem eachIssue (Q : Issue → Prop) :
  Cumulative fun found => ∀ i ∈ found.issues, Q i
  := ⟨List.forall_mem_nil _, fun hf hg => List.forall_mem_append.mpr ⟨hf, hg⟩⟩

/-- Issues filed under some ids are filed under them together. -/
theorem haveIds (ids : List String) :
  Cumulative fun found => HaveIds ids found.issues
  := eachIssue _

theorem when (h : Cumulative P) {found : Findings} {condition : Bool}
    (hf : condition → P found) :
  P (Findings.when condition found)
  := by
  cases condition with
  | false => exact h.none
  | true => exact hf rfl

theorem concat (h : Cumulative P) {reports : List Findings} (hr : ∀ f ∈ reports, P f) :
  P (Findings.concat reports)
  := by
  induction reports with
  | nil => exact h.none
  | cons f rest ih =>
    obtain ⟨hf, hrest⟩ := List.forall_mem_cons.mp hr
    exact h.both hf (ih hrest)

/-- What holds of two checks holds of the first and, if that does not fail, of both in sequence. -/
theorem append (h : Cumulative P) {a b : Outcome} (ha : P a.findings) (hb : P b.findings) :
  P (a ++ b).findings
  := by
  obtain ⟨f, _ | failure⟩ := a
  · exact h.both ha hb
  · exact ha

theorem outcome_when (h : Cumulative P) {outcome : Outcome} {condition : Bool}
    (ho : condition → P outcome.findings) :
  P (Outcome.when condition outcome).findings
  := by
  cases condition with
  | false => exact h.none
  | true => exact ho rfl

theorem each (h : Cumulative P) {check : α → Outcome} {as : List α}
    (hc : ∀ a ∈ as, P (check a).findings) :
  P (Outcome.each check as).findings
  := by
  induction as with
  | nil => exact h.none
  | cons a rest ih =>
    obtain ⟨ha, hrest⟩ := List.forall_mem_cons.mp hc
    exact h.append ha (ih hrest)

theorem reading (h : Cumulative P) {read : Except Failure α} {check : α → Outcome}
    (hc : ∀ a, read = .ok a → P (check a).findings) :
  P (Outcome.reading read check).findings
  := by
  cases read with
  | error failure => exact h.none
  | ok a => exact hc a rfl

end Cumulative

end PipelineAudit
