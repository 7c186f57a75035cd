import PipelineAudit.Platform.Checks

/-!
# Reports that only add

Whatever findings the checks of a platform report into, they add issues at the end and change
nothing else, and the issues that they add are the same for all findings.  So a check is determined
by what it reports on its own, and checks put together report what their parts do, up to the first
that fails.

* `Reporter.Adds`: a check adds to any findings what it reports on its own.
* `Reporter.alone_andThen`, `Reporter.alone_each`, `Reporter.alone_reading`: what checks report that
  are put together.
* `PlatformChecks.Adding`: the parts of an analysis only add issues.
* `PlatformChecks.analyzeInto_appends`: a validation adds what it returns, and an analysis goes on
  from there.
-/

namespace PipelineAudit

/-- Adding issues changes nothing but the issues. -/
theorem Findings.append_ofIssues (found : Findings) (issues : List Issue) :
  found ++ ofIssues issues = { found with issues := found.issues ++ issues }
  := by
  ext1
  · rfl
  · exact List.append_nil _
  · exact List.append_nil _

/-! ### Checks -/

namespace Reporter

variable {α : Type}

/-- What a check reports on its own. -/
def alone (check : Reporter) : Outcome :=
  check .none

/-- A check that adds the issues that it reports on its own to any findings, and fails for all of
them alike. -/
def Adds (check : Reporter) : Prop :=
  ∀ found, check found = ⟨found ++ .ofIssues check.alone.findings.issues, check.alone.failure⟩

/-- A check that adds issues reports nothing else on its own. -/
theorem Adds.alone_eq {check : Reporter} (h : check.Adds) :
  check.alone = ⟨.ofIssues check.alone.findings.issues, check.alone.failure⟩
  := h .none

/-- A check that adds the same issues to all findings reports these on its own. -/
theorem adds_of_forall {check : Reporter} {issues : List Issue} {failure : Option Failure}
    (h : ∀ found, check found = ⟨found ++ .ofIssues issues, failure⟩) :
  check.Adds
  := by
  intro found
  rw [alone, h .none]
  exact h found

theorem adds_silent :
  silent.Adds
  := adds_of_forall fun found => congrArg Outcome.done (Findings.append_none found).symm

theorem adds_report (i : Issue) :
  (report i).Adds
  := adds_of_forall fun found => congrArg Outcome.done (Findings.append_ofIssues found [i]).symm

theorem adds_fails (failure : Failure) :
  (fails failure).Adds
  := adds_of_forall fun found =>
    congrArg (Outcome.mk · (some failure)) (Findings.append_none found).symm

theorem adds_reportIf (condition : Bool) (i : Issue) :
  (reportIf condition i).Adds
  := by
  cases condition with
  | true => exact adds_report i
  | false => exact adds_silent

theorem adds_reading {read : Except Failure α} {check : α → Reporter}
    (h : ∀ a, (check a).Adds) :
  (reading read check).Adds
  := by
  cases read with
  | ok a => exact h a
  | error failure => exact adds_fails failure

section

variable {first second : Reporter} {found : Findings}

theorem andThen_of_failure_eq_none (h : (first found).failure = none) :
  first.andThen second found = second (first found).findings
  := by
  rw [andThen, h]

theorem andThen_of_failure_eq_some {failure : Failure} (h : (first found).failure = some failure) :
  first.andThen second found = first found
  := by
  rw [andThen, h]

variable (hs : second.Adds)

include hs

/-- What two checks in sequence report is what each of them does, the second only if the first does
not fail. -/
theorem alone_andThen (first : Reporter) :
  (first.andThen second).alone = first.alone ++ second.alone
  := by
  cases h : first.alone.failure with
  | none =>
    rw [alone, andThen_of_failure_eq_none h, Outcome.append_of_failure_eq_none h]
    rw [hs, Adds.alone_eq hs]
    rfl
  | some failure =>
    rw [alone, andThen_of_failure_eq_some h, Outcome.append_of_failure_ne_none (by simp [h])]
    rfl

theorem Adds.andThen (hf : first.Adds) :
  (first.andThen second).Adds
  := by
  intro found
  rw [alone_andThen hs]
  cases h : first.alone.failure with
  | none =>
    have hfound : (first found).failure = none := by rw [hf found, h]
    rw [andThen_of_failure_eq_none hfound, hf found, hs,
      Outcome.append_of_failure_eq_none h, Findings.append_assoc]
    rfl
  | some failure =>
    have hfound : (first found).failure = some failure := by rw [hf found, h]
    rw [andThen_of_failure_eq_some hfound, hf found,
      Outcome.append_of_failure_ne_none (by simp [h])]

end

theorem adds_each {check : α → Reporter} {as : List α} (h : ∀ a ∈ as, (check a).Adds) :
  (each check as).Adds
  := by
  induction as with
  | nil => exact adds_silent
  | cons a rest ih =>
    obtain ⟨ha, hrest⟩ := List.forall_mem_cons.mp h
    exact (ih hrest).andThen ha

/-- Checks of the members of a list report what each of them does, up to the first that fails. -/
theorem alone_each {check : α → Reporter} {as : List α} (h : ∀ a ∈ as, (check a).Adds) :
  (each check as).alone = Outcome.each (fun a => (check a).alone) as
  := by
  induction as with
  | nil => rfl
  | cons a rest ih =>
    obtain ⟨-, hrest⟩ := List.forall_mem_cons.mp h
    rw [each, alone_andThen (adds_each hrest), ih hrest]
    rfl

theorem alone_reading (read : Except Failure α) (check : α → Reporter) :
  (reading read check).alone = Outcome.reading read fun a => (check a).alone
  := by
  cases read <;> rfl

theorem alone_reportIf (condition : Bool) (i : Issue) :
  (reportIf condition i).alone = .done (.when condition (.issue i))
  := by
  cases condition <;> rfl

end Reporter

/-! ### Validations -/

namespace Validation

/-- A validation that adds the same issues to any findings, records them, and fails for all findings
alike. -/
def Adds (validate : Findings → Validation) : Prop :=
  ∃ (reported : List Issue) (failure : Option Failure),
    ∀ found, validate found = ⟨found ++ .ofIssues reported, reported, failure⟩

theorem adds_start :
  Adds fun found => { found }
  := ⟨[], none, fun found => congrArg (Validation.mk · [] none) (Findings.append_none found).symm⟩

/-- A report goes to both records. -/
theorem Adds.reportIf {validate : Findings → Validation} (h : Adds validate) (condition : Bool)
    (i : Issue) :
  Adds fun found => (validate found).reportIf condition i
  := by
  obtain ⟨reported, failure, h⟩ := h
  cases condition with
  | false => exact ⟨reported, failure, h⟩
  | true =>
    refine ⟨reported ++ [i], failure, ?_⟩
    intro found
    have hi : found ++ .ofIssues (reported ++ [i]) = (found ++ .ofIssues reported).report i := by
      rw [Findings.append_ofIssues, Findings.append_ofIssues, Findings.report, List.append_assoc]
    dsimp only
    rw [h found, hi]
    rfl

theorem Adds.reading {α : Type} {validate : Findings → Validation} (h : Adds validate)
    (read : Except Failure α) {rest : Findings → α → Validation}
    (hr : ∀ a, Adds fun found => rest found a) :
  Adds fun found => (validate found).reading read (rest found)
  := by
  cases read with
  | ok a => exact hr a
  | error failure =>
    obtain ⟨reported, _, h⟩ := h
    refine ⟨reported, some failure, ?_⟩
    intro found
    dsimp only
    rw [h found]
    rfl

theorem Adds.outcome {validate : Findings → Validation} (h : Adds validate) :
  Reporter.Adds fun found => (validate found).outcome
  := by
  obtain ⟨reported, failure, h⟩ := h
  have hall : ∀ found, (validate found).outcome = ⟨found ++ .ofIssues reported, failure⟩ := by
    intro found
    rw [h found]
    rfl
  exact Reporter.adds_of_forall hall

end Validation

/-! ### GitHub -/

namespace GitHub

open Reporter

theorem adds_validateInto (document : Document) :
  Validation.Adds (validateInto document)
  := (((Validation.adds_start.reportIf _ _).reportIf _ _).reportIf _ _).reading _
    fun _ => ((((Validation.adds_start.reportIf _ _).reportIf _ _).reportIf _ _).reportIf _ _)

theorem adds_checkVariable (place : String) (entry : Key × Document) :
  (checkVariable place entry).Adds
  := by
  rw [checkVariable]
  cases entry.2.text? with
  | none => exact adds_silent
  | some text => exact adds_reading fun _ => (adds_reportIf _ _).andThen (adds_reportIf _ _)

theorem adds_checkAction (label place uses : String) :
  (checkAction label place uses).Adds
  := (adds_reportIf _ _).andThen (adds_reportIf _ _)

theorem adds_checkContent (place : String) (step : Document) :
  (checkContent place step).Adds
  := by
  rw [checkContent]
  split
  · exact adds_report _
  · exact adds_reportIf _ _

theorem adds_checkVariables (place : String) (step : Document) :
  (each (checkVariable place) (step.get "env").entries).Adds
  := adds_each fun entry _ => adds_checkVariable place entry

theorem adds_checkStep (label : String) (number : Nat) (step : Document) :
  (checkStep label number step).Adds
  := by
  apply Adds.andThen ((adds_checkVariables _ step).andThen (adds_checkContent _ step))
  cases (step.get "uses").text? with
  | some uses => exact adds_checkAction label _ uses
  | none => exact adds_silent

theorem adds_checkFurther (label : String) (p : StepsProgress) (steps : List Document) :
  (checkFurther label p steps).Adds
  := by
  induction steps generalizing p with
  | nil => exact adds_reportIf _ _
  | cons step rest ih => exact (ih (p.after step)).andThen (adds_checkStep label p.number step)

theorem adds_checkSteps (steps : Document) (label : String) :
  (checkSteps steps label).Adds
  := adds_checkFurther label {} steps.items

theorem adds_checkSettings (name label : String) (job : Document) :
  (checkSettings name label job).Adds
  := by
  rw [checkSettings]
  split
  · exact adds_silent
  · apply Adds.andThen (Adds.andThen _ (adds_reportIf _ _)) (adds_reportIf _ _)
    split
    · exact adds_report _
    · exact adds_checkSteps _ label

theorem adds_checkJob (job : Key × Document) :
  (checkJob job).Adds
  := by
  apply adds_reading
  intro name
  dsimp only
  split
  · exact adds_checkSettings _ _ job.2
  · exact adds_report _

theorem adds_checkJobs (jobs : Document) :
  (checkJobs jobs).Adds
  := adds_each fun job _ => adds_checkJob job

end GitHub

/-! ### GitLab -/

namespace GitLab

open Reporter

theorem adds_validateInto (document : Document) :
  Validation.Adds (validateInto document)
  := Validation.adds_start.reading _ fun _ => Validation.adds_start.reportIf _ _

theorem adds_checkImage (image : Document) (place : String) :
  (checkImage image place).Adds
  := by
  rw [checkImage]
  cases imageName? image with
  | none => exact adds_silent
  | some name => exact adds_reportIf _ _

theorem adds_checkSteps (script : Document) (label : String) :
  (checkSteps script label).Adds
  := adds_reading fun _ => adds_reportIf _ _

theorem adds_checkScript (job : Document) (label : String) :
  (checkScript job label).Adds
  := by
  rw [checkScript]
  cases job.get? "script" with
  | some script => exact adds_checkSteps script label
  | none => exact adds_silent

theorem adds_checkJob (job : String × Document) :
  (checkJob job).Adds
  := (((adds_checkImage _ _).andThen (adds_checkScript _ _)).andThen (adds_reportIf _ _)).andThen
    (adds_reportIf _ _)

theorem adds_checkJobs (jobs : List (String × Document)) :
  (checkJobs jobs).Adds
  := adds_each fun job _ => adds_checkJob job

end GitLab

/-! ### Bitbucket -/

namespace Bitbucket

open Reporter

theorem adds_validateInto (document : Document) :
  Validation.Adds (validateInto document)
  := Validation.adds_start.reportIf _ _

theorem adds_checkSingleStep (step : Document) (label : String) :
  (checkSingleStep step label).Adds
  := (adds_reportIf _ _).andThen (adds_reportIf _ _)

theorem adds_checkStepsWithin (fuel : Nat) (steps : Document) (label : String) :
  (checkStepsWithin fuel steps label).Adds
  := by
  induction fuel generalizing steps label with
  | zero => exact adds_fails .endless
  | succ fuel ih =>
    apply adds_each
    intro entry _
    cases Entry.of entry with
    | group inner suffix => exact ih inner (label ++ suffix)
    | step single => exact adds_checkSingleStep single label
    | other => exact adds_silent

theorem adds_checkLabelled (limit : Document → Nat) (steps : Document) (label : String) :
  (checkLabelled limit steps label).Adds
  := by
  rw [checkLabelled]
  split
  · exact adds_checkStepsWithin (limit steps) steps label
  · exact adds_report _

theorem adds_checkSection (limit : Document → Nat) (s : Section) :
  (checkSection limit s).Adds
  := adds_reading (adds_checkLabelled limit s.steps)

theorem adds_checkJobs (limit : Document → Nat) (pipelines : Document) :
  (checkJobs limit pipelines).Adds
  := adds_each fun s _ => adds_checkSection limit s

end Bitbucket

/-! ### Analyses -/

namespace PlatformChecks

/-- The parts of an analysis only add issues to the findings before, the same to all of them. -/
structure Adding (c : PlatformChecks) (document : Document) : Prop where
  validate : Validation.Adds (c.validateInto document)
  jobs : (c.jobsInto document).Adds
  rest : (c.restInto document).Adds

theorem adding_gitHub (document : Document) :
  gitHub.Adding document
  where
  validate := GitHub.adds_validateInto document
  jobs := GitHub.adds_checkJobs _
  rest := Reporter.adds_silent

theorem adding_gitLab (document : Document) :
  gitLab.Adding document
  where
  validate := GitLab.adds_validateInto document
  jobs := Reporter.adds_reading GitLab.adds_checkJobs
  rest := GitLab.adds_checkImage _ _

theorem adding_bitbucket (limit : Document → Nat) (document : Document) :
  (bitbucket limit).Adding document
  where
  validate := Bitbucket.adds_validateInto document
  jobs := Bitbucket.adds_checkJobs limit _
  rest := Reporter.adds_silent

theorem adding_of_mem_all {limit : Document → Nat} {c : PlatformChecks} (hc : c ∈ all limit)
    (document : Document) :
  c.Adding document
  := by
  simp only [all, List.mem_cons, List.not_mem_nil, or_false] at hc
  obtain rfl | rfl | rfl := hc
  · exact adding_gitHub document
  · exact adding_gitLab document
  · exact adding_bitbucket limit document

namespace Adding

variable {c : PlatformChecks} {document : Document} (h : c.Adding document)

include h

theorem analyzeInto :
  (c.analyzeInto document).Adds
  := (h.rest.andThen h.jobs).andThen h.validate.outcome

/-- What an analysis reports is what its parts do, up to the first that fails. -/
theorem alone_analyzeInto :
  (c.analyzeInto document).alone =
    (c.validateInto document .none).outcome ++
      ((c.jobsInto document).alone ++ (c.restInto document).alone)
  := by
  rw [PlatformChecks.analyzeInto, Reporter.alone_andThen (h.rest.andThen h.jobs),
    Reporter.alone_andThen h.rest]
  rfl

end Adding

/-- Whatever an analysis reports into, it only adds issues.  The validation of the structure adds
the issues that it returns, in their order, and changes nothing else.  The analysis adds issues that
begin with these and do not depend on the findings before, and it changes nothing else; whether
either fails does not depend on them either, and the analysis fails if the validation does. -/
theorem analyzeInto_appends (limit : Document → Nat) {c : PlatformChecks} (hc : c ∈ all limit)
    (document : Document) :
  ∃ (reported new : List Issue) (invalid failure : Option Failure), reported <+: new ∧
    (invalid ≠ none → failure = invalid ∧ new = reported) ∧ ∀ found,
    c.validateInto document found =
      ⟨{ found with issues := found.issues ++ reported }, reported, invalid⟩ ∧
    c.analyzeInto document found = ⟨{ found with issues := found.issues ++ new }, failure⟩
  := by
  have hadds := adding_of_mem_all hc document
  obtain ⟨reported, invalid, hv⟩ := hadds.validate
  have halone := hadds.alone_analyzeInto
  rw [hv] at halone
  refine ⟨reported, (c.analyzeInto document).alone.findings.issues, invalid,
    (c.analyzeInto document).alone.failure, ?_, ?_, ?_⟩
  · rw [halone]
    cases invalid with
    | none => exact List.prefix_append _ _
    | some failure => exact List.prefix_rfl
  · intro hi
    obtain ⟨failure, rfl⟩ := Option.ne_none_iff_exists'.mp hi
    rw [halone]
    exact ⟨rfl, rfl⟩
  · intro found
    rw [hv found, hadds.analyzeInto found, Findings.append_ofIssues, Findings.append_ofIssues]
    exact ⟨rfl, rfl⟩

/-- A pipeline whose second entry is a group that holds the pipeline itself. -/
def stepsInThemselves : Document :=
  .map [(.ofText "pipelines", .map [(.ofText "default",
    .list [.map [(.ofText "step", .null)], .map [(.ofText "parallel", .up 1)]])])]

theorem analyzeInto_appends_stepsInThemselves :
  let limit : Document → Nat := fun _ => 2
  let c := bitbucket limit
  let before : Findings := {
    issues := [Bitbucket.missingPipelines]
    optimizations := [⟨"Cache dependencies", "", .high, .low, .performance, "", none, none⟩] }
  let after := c.analyzeInto stepsInThemselves before
  c ∈ all limit ∧
  after.findings.issues = [Bitbucket.missingPipelines,
    Bitbucket.missingStepName "default", Bitbucket.missingScript "default",
    Bitbucket.missingStepName "default (parallel)",
    Bitbucket.missingScript "default (parallel)"] ∧
  after.findings.optimizations = before.optimizations ∧
  after.failure = some .endless ∧
  ∃ (reported new : List Issue) (invalid failure : Option Failure), reported <+: new ∧
    (invalid ≠ none → failure = invalid ∧ new = reported) ∧ ∀ found,
    c.validateInto stepsInThemselves found =
      ⟨{ found with issues := found.issues ++ reported }, reported, invalid⟩ ∧
    c.analyzeInto stepsInThemselves found =
      ⟨{ found with issues := found.issues ++ new }, failure⟩
  := by
  intro limit c before after
  have hc : c ∈ all limit := .tail _ (.tail _ (.head _))
  exact ⟨hc, by decide, by decide, by decide, analyzeInto_appends limit hc stepsInThemselves⟩

end PlatformChecks

end PipelineAudit
