import PipelineAudit.Proofs.Finding.Outcomes
import PipelineAudit.Proofs.Platform.Reporting

/-!
# The ids of platform issues

Each platform files its issues under a few ids of its own.

* `Reporter.Files`: the issues that a check adds are filed under some ids.
* `PlatformChecks.analyzeInto_files`: the ids of all platforms.
-/

namespace PipelineAudit

/-! ### Checks -/

namespace Reporter

variable {α : Type} {ids : List String}

/-- The issues that a check adds to findings are filed under some ids. -/
def Files (ids : List String) (check : Reporter) : Prop :=
  ∀ found, ∀ i ∈ (check found).findings.issues, i ∈ found.issues ∨ ∃ id ∈ ids, i.ruleId = some id

theorem files_silent :
  silent.Files ids
  := fun _ _ hi => .inl hi

theorem files_fails (failure : Failure) :
  (fails failure).Files ids
  := fun _ _ hi => .inl hi

theorem files_report {id : String} (hm : id ∈ ids) {i : Issue} (hi : i.ruleId = some id) :
  (report i).Files ids
  := by
  intro found j hj
  obtain hj | hj := List.mem_append.mp hj
  · exact .inl hj
  · rw [List.mem_singleton.mp hj]
    exact .inr ⟨id, hm, hi⟩

theorem files_reportIf {condition : Bool} {id : String} (hm : id ∈ ids) {i : Issue}
    (hi : i.ruleId = some id) :
  (reportIf condition i).Files ids
  := by
  cases condition with
  | true => exact files_report hm hi
  | false => exact files_silent

theorem files_reading {read : Except Failure α} {check : α → Reporter}
    (h : ∀ a, (check a).Files ids) :
  (reading read check).Files ids
  := by
  cases read with
  | ok a => exact h a
  | error failure => exact files_fails failure

theorem Files.andThen {first second : Reporter} (hf : first.Files ids) (hs : second.Files ids) :
  (first.andThen second).Files ids
  := by
  intro found i hi
  rw [Reporter.andThen] at hi
  split at hi
  · exact hf found i hi
  · obtain hi | hid := hs _ i hi
    · exact hf found i hi
    · exact .inr hid

theorem files_each {check : α → Reporter} (h : ∀ a, (check a).Files ids) (as : List α) :
  (each check as).Files ids
  := by
  induction as with
  | nil => exact files_silent
  | cons a rest ih => exact (h a).andThen ih

theorem Files.mono {ids' : List String} (hs : ids ⊆ ids') {check : Reporter}
    (h : check.Files ids) :
  check.Files ids'
  := by
  intro found i hi
  apply (h found i hi).imp_right
  rintro ⟨id, hm, hid⟩
  exact ⟨id, hs hm, hid⟩

/-- A check on its own files its issues under the ids. -/
theorem Files.alone {check : Reporter} (h : check.Files ids) :
  HaveIds ids check.alone.findings.issues
  := by
  intro i hi
  exact (h .none i hi).resolve_left List.not_mem_nil

end Reporter

namespace Validation

variable {ids : List String} {found : Findings} {v : Validation}

/-- A validation has added issues to some findings that are filed under some ids. -/
def Files (ids : List String) (found : Findings) (v : Validation) : Prop :=
  ∀ i ∈ v.found.issues, i ∈ found.issues ∨ ∃ id ∈ ids, i.ruleId = some id

theorem files_start (found : Findings) :
  Files ids found { found }
  := fun _ hi => .inl hi

theorem Files.reportIf (h : v.Files ids found) (condition : Bool) (i : Issue)
    (hi : ∃ id ∈ ids, i.ruleId = some id) :
  (v.reportIf condition i).Files ids found
  := by
  cases condition with
  | false => exact h
  | true =>
    intro j hj
    obtain hj | hj := List.mem_append.mp hj
    · exact h j hj
    · rw [List.mem_singleton.mp hj]
      exact .inr hi

theorem Files.reading {α : Type} (h : v.Files ids found) (read : Except Failure α)
    {rest : α → Validation} (hr : ∀ a, (rest a).Files ids found) :
  (v.reading read rest).Files ids found
  := by
  cases read with
  | ok a => exact hr a
  | error failure => exact h

end Validation

open Reporter

/-! ### GitHub -/

namespace GitHub

/-- The ids under which the checks of workflows file issues. -/
def issueIds : List String := [
  "gh-missing-name", "gh-missing-triggers", "gh-missing-jobs", "gh-unsafe-pr-target",
  "hardcoded-secret", "suspicious-secret-pattern", "gh-outdated-checkout", "gh-unpinned-action",
  "gh-empty-step", "gh-missing-step-name", "gh-missing-checkout", "gh-invalid-job",
  "gh-missing-runs-on", "gh-job-broad-permissions", "gh-missing-steps"]

/-- The ids under which the checks of the jobs of a workflow file issues. -/
def jobIssueIds : List String :=
  issueIds.drop 4

theorem validateInto_files (document : Document) (found : Findings) :
  (validateInto document found).Files issueIds found
  := by
  have hstart : Validation.Files issueIds found { found } := Validation.files_start found
  have hname := hstart.reportIf (!document.sets "name") missingName ⟨_, by simp [issueIds], rfl⟩
  have htriggers := hname.reportIf (!(rawTriggers document).truthy) missingTriggers
    ⟨_, by simp [issueIds], rfl⟩
  have hjobs := htriggers.reportIf (document.get "jobs").entries.isEmpty missingJobs
    ⟨_, by simp [issueIds], rfl⟩
  exact hjobs.reading _ fun _ => hjobs.reportIf _ unsafeTrigger ⟨_, by simp [issueIds], rfl⟩

theorem checkVariable_files (place : String) (entry : Key × Document) :
  (checkVariable place entry).Files ["hardcoded-secret", "suspicious-secret-pattern"]
  := by
  rw [checkVariable]
  split
  · exact files_silent
  · exact files_reading fun _ =>
      (files_reportIf (by simp) rfl).andThen (files_reportIf (by simp) rfl)

theorem checkAction_files (label place uses : String) :
  (checkAction label place uses).Files ["gh-outdated-checkout", "gh-unpinned-action"]
  := (files_reportIf (by simp) rfl).andThen (files_reportIf (by simp) rfl)

/-- The checks of a step of other things than its action. -/
def checkOthers (place : String) (step : Document) : Reporter :=
  .andThen (checkContent place step) (.each (checkVariable place) (step.get "env").entries)

/-- The issues of a step about other things than its action have ids of their own. -/
theorem checkOthers_files (place : String) (step : Document) :
  (checkOthers place step).Files ["gh-empty-step", "gh-missing-step-name", "hardcoded-secret",
    "suspicious-secret-pattern"]
  := by
  apply Files.andThen
  · rw [checkContent]
    split
    · exact files_report (by simp) rfl
    · exact files_reportIf (by simp) rfl
  · exact (files_each (checkVariable_files place) _).mono (by simp)

theorem checkStep_files (label : String) (number : Nat) (step : Document) :
  (checkStep label number step).Files jobIssueIds
  := by
  apply Files.andThen
  · split
    · exact (checkAction_files label _ _).mono (by simp [jobIssueIds, issueIds])
    · exact files_silent
  · exact (checkOthers_files _ step).mono (by simp [jobIssueIds, issueIds])

theorem checkFurther_files (label : String) (p : StepsProgress) (steps : List Document) :
  (checkFurther label p steps).Files jobIssueIds
  := by
  induction steps generalizing p with
  | nil => exact files_reportIf (by simp [jobIssueIds, issueIds]) rfl
  | cons step rest ih => exact (checkStep_files label p.number step).andThen (ih (p.after step))

theorem checkJob_files (job : Key × Document) :
  (checkJob job).Files jobIssueIds
  := by
  apply files_reading
  intro name
  dsimp only
  split
  · rw [checkSettings]
    split
    · exact files_silent
    · apply (files_reportIf (by simp [jobIssueIds, issueIds]) rfl).andThen
      apply (files_reportIf (by simp [jobIssueIds, issueIds]) rfl).andThen
      split
      · exact files_report (by simp [jobIssueIds, issueIds]) rfl
      · exact checkFurther_files _ _ _
  · exact files_report (by simp [jobIssueIds, issueIds]) rfl

theorem checkJobs_files (jobs : Document) :
  (checkJobs jobs).Files jobIssueIds
  := files_each checkJob_files jobs.entries

end GitHub

/-! ### GitLab -/

namespace GitLab

/-- The ids under which the checks of pipelines file issues. -/
def issueIds : List String := [
  "gl-untagged-image", "gl-no-stages-jobs", "gl-missing-stage", "gl-missing-script",
  "gl-empty-script"]

theorem validateInto_files (document : Document) (found : Findings) :
  (validateInto document found).Files ["gl-no-stages-jobs"] found
  := by
  have hstart : Validation.Files ["gl-no-stages-jobs"] found { found } :=
    Validation.files_start found
  exact hstart.reading _ fun _ => hstart.reportIf _ nothingDefined ⟨_, List.mem_cons_self, rfl⟩

theorem checkImage_files (image : Document) (place : String) :
  (checkImage image place).Files ["gl-untagged-image"]
  := by
  rw [checkImage]
  split
  · exact files_reportIf List.mem_cons_self rfl
  · exact files_silent

/-- The checks of a job of other things than its image. -/
def checkOthers (job : String × Document) : Reporter :=
  let label := "job \"" ++ job.1 ++ "\""
  let extended := job.2.sets "extends"
  .andThen (.reportIf (!job.2.sets "stage" && !extended) (missingStage job.1))
    (.andThen
      (.reportIf (!job.2.has "script" && !job.2.sets "trigger" && !extended) (missingScript label))
      (checkScript job.2 label))

theorem checkScript_files (job : Document) (label : String) :
  (checkScript job label).Files ["gl-empty-script"]
  := by
  rw [checkScript]
  split
  · exact files_reading fun _ => files_reportIf List.mem_cons_self rfl
  · exact files_silent

/-- The issues of a job about other things than its image have ids of their own. -/
theorem checkOthers_files (job : String × Document) :
  (checkOthers job).Files ["gl-missing-stage", "gl-missing-script", "gl-empty-script"]
  := by
  apply (files_reportIf (by simp) rfl).andThen
  apply (files_reportIf (by simp) rfl).andThen
  exact (checkScript_files _ _).mono (by simp)

theorem checkJob_files (job : String × Document) :
  (checkJob job).Files issueIds
  := by
  apply (files_reportIf (by simp [issueIds]) rfl).andThen
  apply (files_reportIf (by simp [issueIds]) rfl).andThen
  apply Files.andThen
  · exact (checkScript_files _ _).mono (by simp [issueIds])
  · exact (checkImage_files _ _).mono (by simp [issueIds])

end GitLab

/-! ### Bitbucket -/

namespace Bitbucket

/-- The ids under which the checks of pipelines file issues. -/
def issueIds : List String :=
  ["bb-missing-pipelines", "bb-missing-step-name", "bb-missing-script", "bb-missing-steps"]

theorem checkSingleStep_files (step : Document) (label : String) :
  (checkSingleStep step label).Files issueIds
  := (files_reportIf (by simp [issueIds]) rfl).andThen (files_reportIf (by simp [issueIds]) rfl)

theorem checkStepsWithin_files (fuel : Nat) (steps : Document) (label : String) :
  (checkStepsWithin fuel steps label).Files issueIds
  := by
  induction fuel generalizing steps label with
  | zero => exact files_fails _
  | succ fuel ih =>
    apply files_each
    intro entry
    cases Entry.of entry with
    | group inner suffix => exact ih inner (label ++ suffix)
    | step single => exact checkSingleStep_files single label
    | other => exact files_silent

theorem checkJobs_files (limit : Document → Nat) (pipelines : Document) :
  (checkJobs limit pipelines).Files issueIds
  := by
  apply files_each
  intro s
  apply files_reading
  intro label
  rw [checkLabelled]
  split
  · exact checkStepsWithin_files _ _ label
  · exact files_report (by simp [issueIds]) rfl

end Bitbucket

/-! ### All platforms -/

namespace PlatformChecks

theorem files_analyzeInto {c : PlatformChecks} {document : Document} {ids : List String}
    (hv : ∀ found, (c.validateInto document found).Files ids found)
    (hj : (c.jobsInto document).Files ids) (hr : (c.restInto document).Files ids) :
  (c.analyzeInto document).Files ids
  := by
  have hvalidate : Reporter.Files ids fun found => (c.validateInto document found).outcome :=
    fun found i hi => hv found i hi
  exact hvalidate.andThen (hj.andThen hr)

theorem files_gitHub (document : Document) :
  (gitHub.analyzeInto document).Files GitHub.issueIds
  := files_analyzeInto (GitHub.validateInto_files document)
    ((GitHub.checkJobs_files _).mono (List.drop_subset 4 _)) files_silent

theorem files_gitLab (document : Document) :
  (gitLab.analyzeInto document).Files GitLab.issueIds
  := by
  apply files_analyzeInto
  · intro found i hi
    apply (GitLab.validateInto_files document found i hi).imp_right
    rintro ⟨id, hm, hid⟩
    rw [List.mem_singleton.mp hm] at hid
    exact ⟨_, by simp [GitLab.issueIds], hid⟩
  · exact files_reading (files_each GitLab.checkJob_files)
  · exact (GitLab.checkImage_files _ _).mono (by simp [GitLab.issueIds])

theorem files_bitbucket (limit : Document → Nat) (document : Document) :
  ((bitbucket limit).analyzeInto document).Files Bitbucket.issueIds
  := files_analyzeInto
    (fun found => (Validation.files_start found).reportIf _ Bitbucket.missingPipelines
      ⟨_, by simp [Bitbucket.issueIds], rfl⟩)
    (Bitbucket.checkJobs_files limit _) files_silent

/-- The ids under which the checks of platforms file issues. -/
def issueIds : List String :=
  GitHub.issueIds ++ GitLab.issueIds ++ Bitbucket.issueIds

/-- The checks of a platform file their issues under the ids of the platforms. -/
theorem analyzeInto_files {limit : Document → Nat} {c : PlatformChecks} (hc : c ∈ all limit)
    (document : Document) :
  (c.analyzeInto document).Files issueIds
  := by
  simp only [all, List.mem_cons, List.not_mem_nil, or_false] at hc
  obtain rfl | rfl | rfl := hc
  · exact (files_gitHub document).mono (by simp [issueIds])
  · exact (files_gitLab document).mono (by simp [issueIds])
  · exact (files_bitbucket limit document).mono (by simp [issueIds])

end PlatformChecks

end PipelineAudit
