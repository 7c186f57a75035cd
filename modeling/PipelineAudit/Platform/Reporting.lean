import PipelineAudit.Document.Access
import PipelineAudit.Outcome

/-!
# Reporting into findings

The checks of a platform report into the findings of an analysis: each issue is added to them as
soon as it is found, and a check that fails leaves what was reported before.  The validation of the
structure keeps a list of its own besides, of the issues that it has reported.

An analysis validates the structure, checks the jobs, and makes the further checks of the platform.

* `Reporter`: a check that reports into findings.
* `Validation`: how far a validation has come.
* `PlatformChecks`: the checks of a platform, and the analysis that they make up.
-/

namespace PipelineAudit

namespace Findings

/-- The findings with one more issue. -/
def report (found : Findings) (i : Issue) : Findings :=
  { found with issues := found.issues ++ [i] }

end Findings

/-! ### Checks -/

/-- A check that reports into the findings so far. -/
abbrev Reporter : Type := Findings → Outcome

namespace Reporter

variable {α : Type}

/-- The check that reports nothing. -/
def silent : Reporter :=
  .done

/-- The check that reports an issue. -/
def report (i : Issue) : Reporter :=
  fun found => .done (found.report i)

/-- The check that reports an issue under a condition. -/
def reportIf (condition : Bool) (i : Issue) : Reporter :=
  if condition then report i else silent

/-- The check that fails. -/
def fails (failure : Failure) : Reporter :=
  fun found => ⟨found, some failure⟩

/-- Two checks, the second of which is made if the first does not fail. -/
def andThen (first second : Reporter) : Reporter := fun found =>
  let outcome := first found
  match outcome.failure with
  | some _ => outcome
  | none => second outcome.findings

/-- A check of each of a list, up to the first on which it fails. -/
def each (check : α → Reporter) : List α → Reporter
  | [] => silent
  | a :: rest => (check a).andThen (each check rest)

/-- A check of what is read, which fails where reading does. -/
def reading (read : Except Failure α) (check : α → Reporter) : Reporter :=
  match read with
  | .ok a => check a
  | .error failure => fails failure

/-- A check that reports an issue where another one fails. -/
def caught (check : Reporter) (issue : Failure → Issue) : Reporter := fun found =>
  let outcome := check found
  match outcome.failure with
  | some failure => .done (outcome.findings.report (issue failure))
  | none => outcome

end Reporter

/-! ### Validations -/

/-- A validation so far: the findings that it reports into, what it has reported itself, and the
failure that ended it. -/
structure Validation where
  found : Findings
  reported : List Issue := []
  failure : Option Failure := none

namespace Validation

/-- A validation after one more issue, which is added to both records. -/
def report (v : Validation) (i : Issue) : Validation :=
  { v with found := v.found.report i, reported := v.reported ++ [i] }

/-- A validation after one more issue under a condition. -/
def reportIf (v : Validation) (condition : Bool) (i : Issue) : Validation :=
  if condition then v.report i else v

/-- A validation that goes on with what is read, and ends where reading fails. -/
def reading {α : Type} (v : Validation) (read : Except Failure α) (rest : α → Validation) :
    Validation :=
  match read with
  | .ok a => rest a
  | .error failure => { v with failure := some failure }

/-- The findings of a validation, and its failure. -/
def outcome (v : Validation) : Outcome :=
  ⟨v.found, v.failure⟩

end Validation

/-! ### Analyses -/

/-- The checks of a platform, as they report into findings. -/
structure PlatformChecks where
  platform : String
  validateInto : Document → Findings → Validation
  /-- The checks of the jobs of a document. -/
  jobsInto : Document → Reporter
  /-- What the platform checks after the jobs. -/
  restInto : Document → Reporter := fun _ => .silent

/-- The checks of a document: its structure, its jobs, and the rest. -/
def PlatformChecks.analyzeInto (c : PlatformChecks) (document : Document) : Reporter :=
  .andThen (fun found => (c.validateInto document found).outcome)
    (.andThen (c.jobsInto document) (c.restInto document))

end PipelineAudit
