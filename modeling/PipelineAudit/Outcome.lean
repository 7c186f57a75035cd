import PipelineAudit.Failure
import PipelineAudit.Finding.Basic

/-!
# Outcomes

A check reports findings and may then fail; what it reported before failing stays reported.  Checks
are made one after the other, up to the first that fails.

* `Outcome.append`: two checks in sequence.
* `Outcome.each`: the same check on each of a list.
* `Outcome.reading`: a check of something that has to be read first.
-/

namespace PipelineAudit

/-- What a check reported, and its failure if it failed afterwards. -/
@[ext]
structure Outcome where
  findings : Findings
  failure : Option Failure

namespace Outcome

variable {α : Type}

/-- The outcome of a check that does not fail. -/
def done (findings : Findings) : Outcome :=
  ⟨findings, none⟩

/-- The outcome of a check that fails without a report. -/
def failed (failure : Failure) : Outcome :=
  ⟨.none, some failure⟩

/-- The outcome of a check that is made under a condition. -/
def when (condition : Bool) (outcome : Outcome) : Outcome :=
  if condition then outcome else done .none

/-- The outcome of two checks; the second is made if the first does not fail. -/
def append (a b : Outcome) : Outcome :=
  match a.failure with
  | none => ⟨a.findings ++ b.findings, b.failure⟩
  | some _ => a

instance : Append Outcome := ⟨append⟩

/-- The outcome of a check on each of a list, up to the first on which it fails. -/
def each (check : α → Outcome) : List α → Outcome
  | [] => done .none
  | a :: rest => check a ++ each check rest

/-- The outcome of a check of what is read, which is not made where reading fails. -/
def reading (read : Except Failure α) (check : α → Outcome) : Outcome :=
  match read with
  | .ok a => check a
  | .error failure => failed failure

/-! ### Sequences -/

@[simp]
theorem done_append_done (f g : Findings) : done f ++ done g = done (f ++ g) := rfl

@[simp]
theorem failed_append (e : Failure) (b : Outcome) : failed e ++ b = failed e := rfl

theorem failure_append (a b : Outcome) :
  (a ++ b).failure = a.failure.or b.failure
  := by
  obtain ⟨f, _ | e⟩ := a <;> rfl

theorem append_of_failure_eq_none {a : Outcome} (h : a.failure = none) (b : Outcome) :
  a ++ b = ⟨a.findings ++ b.findings, b.failure⟩
  := by
  obtain ⟨f, _ | e⟩ := a
  · rfl
  · cases h

theorem append_of_failure_ne_none {a : Outcome} (h : a.failure ≠ none) (b : Outcome) :
  a ++ b = a
  := by
  obtain ⟨f, _ | e⟩ := a
  · exact absurd rfl h
  · rfl

@[simp]
theorem append_done_none (a : Outcome) :
  a ++ done .none = a
  := by
  obtain ⟨f, _ | e⟩ := a
  · exact congrArg (Outcome.mk · none) (Findings.append_none f)
  · rfl

theorem append_assoc (a b c : Outcome) :
  a ++ b ++ c = a ++ (b ++ c)
  := by
  obtain ⟨f, _ | e⟩ := a
  · obtain ⟨g, _ | e⟩ := b
    · exact congrArg (Outcome.mk · c.failure) (Findings.append_assoc f g c.findings)
    · rfl
  · rfl

@[simp]
theorem each_append (check : α → Outcome) (as bs : List α) :
  each check (as ++ bs) = each check as ++ each check bs
  := by
  induction as with
  | nil => rfl
  | cons a as ih => rw [List.cons_append, each, each, ih, append_assoc]

/-- Checks that do not fail and find issues only. -/
theorem each_issues (issues : α → List Issue) (as : List α) :
  each (fun a => done (.ofIssues (issues a))) as = done (.ofIssues (as.flatMap issues))
  := by
  induction as with
  | nil => rfl
  | cons a as ih =>
    rw [each, ih]
    rfl

theorem each_congr {check check' : α → Outcome} {as : List α}
    (h : ∀ a ∈ as, check a = check' a) :
  each check as = each check' as
  := by
  induction as with
  | nil => rfl
  | cons a as ih =>
    obtain ⟨ha, hrest⟩ := List.forall_mem_cons.mp h
    rw [each, each, ha, ih hrest]

theorem failure_each_eq_none_iff {check : α → Outcome} {as : List α} :
  (each check as).failure = none ↔ ∀ a ∈ as, (check a).failure = none
  := by
  induction as with
  | nil => simp [each, done]
  | cons a as ih => rw [each, failure_append, Option.or_eq_none_iff, ih, List.forall_mem_cons]

@[simp]
theorem reading_ok (a : α) (check : α → Outcome) : reading (.ok a) check = check a := rfl

@[simp]
theorem reading_error (e : Failure) (check : α → Outcome) :
  reading (.error e) check = failed e
  := rfl

end Outcome

end PipelineAudit
