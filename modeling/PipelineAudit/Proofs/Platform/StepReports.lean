import PipelineAudit.Proofs.Platform.IssueIds

/-!
# The steps of a job

A step is reported for the action that it uses, then for other things.  The variables of a step are
named before their values are looked at, and the checks of a job end with the first step that has a
variable whose name cannot be written.

* `alone_checkStep`: the checks of a step, part by part.
* `checkFurther_failure_eq_none_iff`: when the checks of the steps come to an end.
* `issues_checkFurther`: what they report then.
-/

namespace PipelineAudit.GitHub

/-! ### Actions -/

/-- Whether a step uses an outdated version of the checkout action. -/
def usesOutdated (step : Document) : Bool :=
  (step.get "uses").text?.any fun uses => isCheckout uses.toList && isOutdated uses.toList

/-- The action that a step uses without a version, if it does. -/
def unpinned? (step : Document) : Option String :=
  (step.get "uses").text?.filter fun uses => !uses.toList.contains '@'

/-- The issue of a step that uses an outdated version of the checkout action. -/
def outdatedIssues (label : String) (step : Document) : List Issue :=
  if usesOutdated step then [outdatedCheckout label] else []

/-- The issue of a step that uses an action without a version. -/
def unpinnedIssues (place : String) (step : Document) : List Issue :=
  ((unpinned? step).map (unpinnedAction place)).toList

/-- What a step is reported for because of the action that it uses. -/
def actionIssues (label place : String) (step : Document) : List Issue :=
  outdatedIssues label step ++ unpinnedIssues place step

theorem outdatedIssues_ids (label : String) (step : Document) :
  HaveIds ["gh-outdated-checkout"] (outdatedIssues label step)
  := .ite (.single List.mem_cons_self rfl) .nil

theorem unpinnedIssues_ids (place : String) (step : Document) :
  HaveIds ["gh-unpinned-action"] (unpinnedIssues place step)
  := by
  rw [unpinnedIssues]
  cases unpinned? step with
  | none => exact .nil
  | some uses => exact .single List.mem_cons_self rfl

/-! ### Variables -/

/-- The name and the value of a variable that is reported as a secret. -/
def hardcoded? (entry : Key × Document) : Option (String × List Char) :=
  (entry.2.text?.map fun text => (entry.1.display, text.toList)).filter fun v =>
    isHardcoded v.1.toList v.2

/-- Whether a variable can be named, unless it holds no text and need not be. -/
def isNamed (entry : Key × Document) : Bool :=
  entry.2.text?.isNone || entry.1.isWritable

/-- The issues of a variable that is reported as a secret. -/
def hardcodedIssues (place : String) (entry : Key × Document) : List Issue :=
  ((hardcoded? entry).map fun v => hardcodedSecret place v.1 v.2).toList

/-- The issues of a variable whose value looks like a secret. -/
def suspiciousIssues (place : String) (entry : Key × Document) : List Issue :=
  if entry.2.text?.any fun text => isSuspicious text.toList then
    [suspiciousValue place entry.1.display]
  else []

/-- The check of a variable that can be named reports it as a secret, and as looking like one. -/
theorem alone_checkVariable {place : String} {entry : Key × Document} (h : isNamed entry) :
  (checkVariable place entry).alone =
    .done (.ofIssues (hardcodedIssues place entry ++ suspiciousIssues place entry))
  := by
  rw [checkVariable, hardcodedIssues, hardcoded?, suspiciousIssues]
  cases ht : entry.2.text? with
  | none => rfl
  | some text =>
    have hw : entry.1.isWritable := by simpa [isNamed, ht] using h
    rw [Reporter.alone_reading, Key.write, hw, ifWritable_true, Outcome.reading_ok,
      Reporter.alone_andThen (Reporter.adds_reportIf _ _), Reporter.alone_reportIf,
      Reporter.alone_reportIf, Option.map_some, Option.filter_some, Option.any_some]
    cases isHardcoded entry.1.display.toList text.toList <;>
      cases isSuspicious text.toList <;> rfl

/-- The check of a variable that cannot be named reports nothing. -/
theorem alone_checkVariable_failed {place : String} {entry : Key × Document}
    (h : isNamed entry = false) :
  ∃ e, (checkVariable place entry).alone = .failed e
  := by
  rw [checkVariable]
  cases ht : entry.2.text? with
  | none => simp [isNamed, ht] at h
  | some text =>
    have hw : entry.1.isWritable = false := by simpa [isNamed, ht] using h
    rw [Reporter.alone_reading, Key.write, hw]
    exact ⟨_, rfl⟩

/-- Whether the variables of a step that hold texts can be named. -/
def hasWritableVariables (step : Document) : Bool :=
  (step.get "env").entries.all isNamed

/-- The check of a variable fails if it holds a text and cannot be named. -/
theorem checkVariable_failure_eq_none_iff {place : String} {entry : Key × Document} :
  (checkVariable place entry).alone.failure = none ↔ isNamed entry
  := by
  cases h : isNamed entry with
  | true =>
    rw [alone_checkVariable h]
    exact iff_of_true rfl rfl
  | false =>
    obtain ⟨e, he⟩ := alone_checkVariable_failed h
    rw [he]
    exact iff_of_false (fun hn => nomatch hn) Bool.false_ne_true

theorem checkContent_failure (place : String) (step : Document) :
  (checkContent place step).alone.failure = none
  := by
  rw [checkContent]
  split
  · rfl
  · rw [Reporter.alone_reportIf]
    rfl

theorem checkOthers_failure_eq_none_iff {place : String} {step : Document} :
  (checkOthers place step).alone.failure = none ↔ hasWritableVariables step
  := by
  rw [checkOthers, Reporter.alone_andThen (adds_checkVariables place step),
    Outcome.append_of_failure_eq_none (checkContent_failure place step),
    Reporter.alone_each fun entry _ => adds_checkVariable place entry,
    Outcome.failure_each_eq_none_iff, hasWritableVariables, List.all_eq_true]
  exact forall₂_congr fun entry _ => checkVariable_failure_eq_none_iff

/-! ### Steps -/

/-- The action that a step uses is checked before the other things. -/
theorem alone_checkStep (label : String) (number : Nat) (step : Document) :
  let place := label ++ ", step " ++ toString number
  (checkStep label number step).alone =
    .done (.ofIssues (actionIssues label place step)) ++ (checkOthers place step).alone
  := by
  intro place
  have hothers : (checkOthers place step).Adds :=
    (adds_checkVariables place step).andThen (adds_checkContent place step)
  refine (Reporter.alone_andThen hothers _).trans (congrArg (· ++ _) ?_)
  rw [actionIssues, outdatedIssues, unpinnedIssues, usesOutdated, unpinned?]
  cases (step.get "uses").text? with
  | none => rfl
  | some uses =>
    refine (Reporter.alone_andThen (Reporter.adds_reportIf _ _) _).trans ?_
    rw [Reporter.alone_reportIf, Reporter.alone_reportIf, Option.any_some, Option.filter_some]
    cases isCheckout uses.toList && isOutdated uses.toList <;>
      cases uses.toList.contains '@' <;> rfl

theorem checkStep_failure_eq_none_iff {label : String} {number : Nat} {step : Document} :
  (checkStep label number step).alone.failure = none ↔ hasWritableVariables step
  := by
  rw [alone_checkStep, Outcome.append_of_failure_eq_none rfl]
  exact checkOthers_failure_eq_none_iff

/-- The checks of the steps of a job come to an end if all variables can be named. -/
theorem checkFurther_failure_eq_none_iff {label : String} {p : StepsProgress}
    {steps : List Document} :
  (checkFurther label p steps).alone.failure = none ↔ ∀ step ∈ steps, hasWritableVariables step
  := by
  induction steps generalizing p with
  | nil =>
    rw [checkFurther, Reporter.alone_reportIf]
    exact iff_of_true rfl fun _ h => nomatch h
  | cons step rest ih =>
    rw [checkFurther, Reporter.alone_andThen (adds_checkFurther label _ rest),
      Outcome.failure_append, Option.or_eq_none_iff, ih, checkStep_failure_eq_none_iff,
      List.forall_mem_cons]

/-- Whether some of the further steps of a job run commands and none of its steps checks out the
repository. -/
def lacksCheckout (p : StepsProgress) (steps : List Document) : Bool :=
  (p.hasRun || steps.any (·.sets "run")) && !(p.hasCheckout || steps.any checksOut)

/-- If the checks of the further steps of a job come to an end, they report on each of them, and on
the job as a whole after the last one. -/
theorem issues_checkFurther {label : String} {p : StepsProgress} {steps : List Document}
    (h : ∀ step ∈ steps, hasWritableVariables step) :
  (checkFurther label p steps).alone.findings.issues =
    (steps.mapIdx fun i step => (checkStep label (p.number + i) step).alone.findings.issues).flatten
      ++ if lacksCheckout p steps then [missingCheckout label] else []
  := by
  induction steps generalizing p with
  | nil =>
    rw [checkFurther, Reporter.alone_reportIf, lacksCheckout, List.any_nil, List.any_nil,
      Bool.or_false, Bool.or_false]
    cases p.hasRun && !p.hasCheckout <;> rfl
  | cons step rest ih =>
    obtain ⟨hstep, hrest⟩ := List.forall_mem_cons.mp h
    have hnumber : ∀ i, (p.after step).number + i = p.number + (i + 1) := fun i =>
      Nat.succ_add_eq_add_succ p.number i
    have hlacks : lacksCheckout (p.after step) rest = lacksCheckout p (step :: rest) := by
      rw [lacksCheckout, lacksCheckout, StepsProgress.after, List.any_cons, List.any_cons,
        Bool.or_assoc, Bool.or_assoc]
    rw [checkFurther, Reporter.alone_andThen (adds_checkFurther label _ rest),
      Outcome.append_of_failure_eq_none (checkStep_failure_eq_none_iff.mpr hstep),
      Findings.issues_append, ih hrest, hlacks, List.mapIdx_cons, List.flatten_cons, Nat.add_zero,
      List.append_assoc]
    simp only [hnumber]

end PipelineAudit.GitHub
