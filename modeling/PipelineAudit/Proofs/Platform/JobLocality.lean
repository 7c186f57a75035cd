import PipelineAudit.Proofs.Document.Unions
import PipelineAudit.Proofs.Platform.StepReports
import Mathlib.Data.List.Perm.Basic

/-!
# Jobs one by one

The checks of a workflow look at one job at a time, and at one step of it at a time.  Only one
question is asked of all steps of a job together: whether some of them run commands while none
checks out the repository.  Its answer does not depend on the order of the steps, so that another
order changes no more than the numbers by which the issues refer to the steps.

* `Renumbered`: issues that differ in the number of a step at most.
* `Reordered`: reports that agree up to such numbers and the order of the issues.
* `checkSteps_reordered`: what another order of the steps of a job does to its report.
* `checkJobs_local`: the report on jobs that are put together, or have a job with its steps in
  another order.
-/

namespace PipelineAudit.GitHub

/-! ### Reports up to the numbers of steps -/

/-- The place that the issues of a step give, by its number. -/
def stepPlace (label : String) (number : Nat) : String :=
  label ++ ", step " ++ toString number

/-- Two issues that are the same, apart from the number of the step that their titles end with. -/
inductive Renumbered (label : String) : Issue → Issue → Prop
  | same (i : Issue) : Renumbered label i i
  | step (start : String) (i : Issue) (m n : Nat) :
    Renumbered label { i with title := start ++ stepPlace label m }
      { i with title := start ++ stepPlace label n }

/-- Two reports that agree up to the order of the issues and the numbers of the steps. -/
def Reordered (label : String) (before after : List Issue) : Prop :=
  ∃ renumbered, List.Forall₂ (Renumbered label) before renumbered ∧ renumbered.Perm after

section

variable {label : String}

theorem Renumbered.ruleId_eq {i j : Issue} (h : Renumbered label i j) :
  i.ruleId = j.ruleId
  := by
  cases h with
  | same => rfl
  | step => rfl

theorem renumbered_refl (issues : List Issue) :
  List.Forall₂ (Renumbered label) issues issues
  := by
  rw [List.forall₂_same]
  exact fun i _ => .same i

theorem Reordered.refl (issues : List Issue) :
  Reordered label issues issues
  := ⟨issues, renumbered_refl issues, .refl _⟩

theorem Reordered.append {a b c d : List Issue} (hab : Reordered label a b)
    (hcd : Reordered label c d) :
  Reordered label (a ++ c) (b ++ d)
  := by
  obtain ⟨b', hb, hpb⟩ := hab
  obtain ⟨d', hd, hpd⟩ := hcd
  exact ⟨b' ++ d', List.rel_append hb hd, hpb.append hpd⟩

/-- Reports that agree up to order and numbers have the same ids, each as many times. -/
theorem Reordered.ruleIds_perm {before after : List Issue} (h : Reordered label before after) :
  (before.map (·.ruleId)).Perm (after.map (·.ruleId))
  := by
  obtain ⟨renumbered, hr, hp⟩ := h
  have hids : before.map (·.ruleId) = renumbered.map (·.ruleId) := by
    rw [← List.forall₂_eq_eq_eq, List.forall₂_map_left_iff, List.forall₂_map_right_iff]
    exact hr.imp fun _ _ => Renumbered.ruleId_eq
  rw [hids]
  exact hp.map _

end

/-- Two outcomes that report the same issues up to the numbers of steps, and fail alike. -/
def Matching (label : String) (a b : Outcome) : Prop :=
  List.Forall₂ (Renumbered label) a.findings.issues b.findings.issues ∧ a.failure = b.failure

section

variable {α : Type} {label : String}

theorem Matching.refl (a : Outcome) :
  Matching label a a
  := ⟨renumbered_refl _, rfl⟩

theorem Matching.append {a b a' b' : Outcome} (ha : Matching label a a')
    (hb : Matching label b b') :
  Matching label (a ++ b) (a' ++ b')
  := by
  obtain ⟨f, failure⟩ := a
  obtain ⟨f', failure'⟩ := a'
  obtain ⟨hi, rfl⟩ := ha
  cases failure with
  | none => exact ⟨List.rel_append hi hb.1, hb.2⟩
  | some failure => exact ⟨hi, rfl⟩

theorem Matching.each {check check' : α → Outcome} (h : ∀ a, Matching label (check a) (check' a))
    (as : List α) :
  Matching label (Outcome.each check as) (Outcome.each check' as)
  := by
  induction as with
  | nil => exact .refl _
  | cons a rest ih => exact (h a).append ih

theorem matching_report {i j : Issue} (h : Renumbered label i j) :
  Matching label (Reporter.report i).alone (Reporter.report j).alone
  := ⟨.cons h .nil, rfl⟩

theorem matching_reportIf (condition : Bool) {i j : Issue} (h : Renumbered label i j) :
  Matching label (Reporter.reportIf condition i).alone (Reporter.reportIf condition j).alone
  := by
  cases condition with
  | true => exact matching_report h
  | false => exact .refl _

end

/-! ### Steps -/

section

variable (label : String) (m n : Nat)

theorem checkContent_renumbered (step : Document) :
  Matching label (checkContent (stepPlace label m) step).alone
    (checkContent (stepPlace label n) step).alone
  := by
  rw [checkContent, checkContent]
  split
  · exact matching_report (.step "Step without action in " (emptyStep "") m n)
  · exact matching_reportIf _ (.step "Missing step name in " (missingStepName "") m n)

theorem checkVariable_renumbered (entry : Key × Document) :
  Matching label (checkVariable (stepPlace label m) entry).alone
    (checkVariable (stepPlace label n) entry).alone
  := by
  rw [checkVariable, checkVariable]
  split
  · exact .refl _
  · rw [Reporter.alone_reading, Reporter.alone_reading]
    cases entry.1.write with
    | error failure =>
      rw [Outcome.reading_error, Outcome.reading_error]
      exact .refl _
    | ok name =>
      rw [Outcome.reading_ok, Outcome.reading_ok,
        Reporter.alone_andThen (Reporter.adds_reportIf _ _),
        Reporter.alone_andThen (Reporter.adds_reportIf _ _)]
      apply Matching.append
      · exact matching_reportIf _
          (.step "Potential hardcoded secret in " (hardcodedSecret "" _ _) m n)
      · exact matching_reportIf _ (.step "Suspicious value pattern in " (suspiciousValue "" _) m n)

theorem actionIssues_renumbered (step : Document) :
  List.Forall₂ (Renumbered label) (actionIssues label (stepPlace label m) step)
    (actionIssues label (stepPlace label n) step)
  := by
  apply List.rel_append (renumbered_refl _)
  rw [unpinnedIssues, unpinnedIssues]
  cases unpinned? step with
  | none => exact .nil
  | some uses => exact .cons (.step "Unpinned action in " (unpinnedAction "" uses) m n) .nil

/-- A step is reported for the same issues under any number. -/
theorem checkStep_renumbered (step : Document) :
  Matching label (checkStep label m step).alone (checkStep label n step).alone
  := by
  rw [alone_checkStep, alone_checkStep, checkOthers, checkOthers,
    Reporter.alone_andThen (adds_checkVariables _ step),
    Reporter.alone_andThen (adds_checkVariables _ step),
    Reporter.alone_each fun entry _ => adds_checkVariable _ entry,
    Reporter.alone_each fun entry _ => adds_checkVariable _ entry]
  have haction : Matching label (.done (.ofIssues (actionIssues label (stepPlace label m) step)))
      (.done (.ofIssues (actionIssues label (stepPlace label n) step))) :=
    ⟨actionIssues_renumbered label m n step, rfl⟩
  apply haction.append
  apply Matching.append (checkContent_renumbered label m n step)
  exact .each (checkVariable_renumbered label m n) _

end

theorem lacksCheckout_perm (p : StepsProgress) {steps steps' : List Document}
    (h : steps.Perm steps') :
  lacksCheckout p steps = lacksCheckout p steps'
  := by
  rw [lacksCheckout, lacksCheckout, h.any_eq, h.any_eq]

/-- The issues of a step by its number. -/
def stepIssues (label : String) (number : Nat) (step : Document) : List Issue :=
  (checkStep label number step).alone.findings.issues

/-- The steps of a list, each with a number that is given to it. -/
theorem stepIssues_numbered (label : String) (steps : List Document) :
  (steps.mapIdx fun i step => stepIssues label (1 + i) step).flatten =
    steps.zipIdx.flatMap fun p => stepIssues label (1 + p.2) p.1
  := by
  rw [List.flatMap_def, List.mapIdx_eq_zipIdx_map]

/-- The same steps in another order are reported for the same issues up to order and numbers. -/
theorem checkSteps_reordered (label : String) {steps steps' : Document}
    (h : steps.items.Perm steps'.items) (hw : ∀ step ∈ steps.items, hasWritableVariables step) :
  Reordered label (checkSteps steps label).alone.findings.issues
    (checkSteps steps' label).alone.findings.issues
  := by
  rw [checkSteps, checkSteps, issues_checkFurther hw,
    issues_checkFurther fun step hs => hw step (h.mem_iff.mpr hs), lacksCheckout_perm _ h]
  apply Reordered.append _ (.refl _)
  -- the steps in the first order, each with its number in the second
  have hnumbers : List.Forall₂ (fun step p => p.1 = step) (steps'.items.zipIdx.map Prod.fst)
      steps'.items.zipIdx := by
    rw [List.forall₂_map_left_iff, List.forall₂_same]
    exact fun _ _ => rfl
  rw [List.zipIdx_map_fst] at hnumbers
  obtain ⟨numbered, hn, hp⟩ := List.perm_comp_forall₂ h hnumbers
  use numbered.flatMap fun p => stepIssues label (1 + p.2) p.1
  constructor
  · rw [List.flatMap_def]
    apply List.rel_flatten
    rw [List.forall₂_map_right_iff]
    apply forall₂_mapIdx hn
    rintro i step p - rfl
    exact (checkStep_renumbered label (1 + i) (1 + p.2) p.1).1
  · refine List.Perm.trans (hp.flatMap_right _) (List.Perm.of_eq ?_)
    exact (stepIssues_numbered label steps'.items).symm

/-! ### Jobs -/

/-- A job with other steps. -/
def withSteps (job : Document) (steps : List Document) : Document :=
  job.setting "steps" (.list steps)

section

variable {job : Document} {steps : List Document}

theorem isClosed_of_perm_items (hj : job.isClosed) (hp : steps.Perm (job.get "steps").items) :
  ∀ step ∈ steps, step.isClosed
  := by
  intro step hs
  exact Document.isClosed_of_mem_items (Document.isClosed_get hj "steps") (hp.subset hs)

theorem isClosed_withSteps (hj : job.isClosed) (hp : steps.Perm (job.get "steps").items) :
  (withSteps job steps).isClosed
  := Document.isClosed_setting hj (Document.isClosed_list (isClosed_of_perm_items hj hp)) _

/-- The check of the steps that a job has to have. -/
def checkRequired (label : String) (job : Document) : Reporter :=
  if (job.get "steps").items.isEmpty then .report (missingSteps label)
  else checkSteps (job.get "steps") label

theorem adds_checkRequired (label : String) (job : Document) :
  (checkRequired label job).Adds
  := by
  rw [checkRequired]
  split
  · exact Reporter.adds_report _
  · exact adds_checkSteps _ label

/-- What the settings of a job are reported for, part by part. -/
theorem alone_checkSettings (name label : String) (job : Document) :
  (checkSettings name label job).alone =
    .when (!job.sets "uses")
      ((Reporter.reportIf (!job.sets "runs-on") (missingRunner name)).alone ++
        ((Reporter.reportIf (grantsWrite (job.get "permissions")) (broadPermissions name)).alone ++
          (checkRequired label job).alone))
  := by
  rw [checkSettings]
  cases job.sets "uses" with
  | true => rfl
  | false =>
    have hrequired := adds_checkRequired label job
    exact (Reporter.alone_andThen (hrequired.andThen (Reporter.adds_reportIf _ _)) _).trans
      (congrArg (_ ++ ·) (Reporter.alone_andThen hrequired _))

theorem checkRequired_failure_eq_none_iff {label : String} {job : Document} :
  (checkRequired label job).alone.failure = none ↔
    ∀ step ∈ (job.get "steps").items, hasWritableVariables step
  := by
  rw [checkRequired]
  split
  case isTrue h =>
    rw [List.isEmpty_iff.mp h]
    exact iff_of_true rfl fun _ h => nomatch h
  case isFalse => exact checkFurther_failure_eq_none_iff

/-- With its steps in another order, the checks of the steps of a job come to an end if they do with
its former order, and report the same issues up to order and numbers. -/
theorem checkRequired_reordered (label : String) {job' : Document}
    (h : (job.get "steps").items.Perm (job'.get "steps").items) :
  ((checkRequired label job).alone.failure = none ↔
    (checkRequired label job').alone.failure = none) ∧
  ((checkRequired label job).alone.failure = none →
    Reordered label (checkRequired label job).alone.findings.issues
      (checkRequired label job').alone.findings.issues)
  := by
  rw [checkRequired_failure_eq_none_iff, checkRequired_failure_eq_none_iff]
  constructor
  · exact forall_congr' fun step => by rw [h.mem_iff]
  · intro hw
    rw [checkRequired, checkRequired, h.isEmpty_eq]
    split
    · exact .refl _
    · exact checkSteps_reordered label h hw

theorem checkSettings_reordered (hj : job.isClosed) (hp : steps.Perm (job.get "steps").items)
    (name label : String) :
  let report := (checkSettings name label job).alone
  let changed := (checkSettings name label (withSteps job steps)).alone
  (report.failure = none ↔ changed.failure = none) ∧
  (report.failure = none → Reordered label report.findings.issues changed.findings.issues)
  := by
  have hc := isClosed_of_perm_items hj hp
  have hl : (Document.list steps).isClosed := Document.isClosed_list hc
  have hsteps : (withSteps job steps).get "steps" = .list steps :=
    Document.get_setting_self hj hl "steps"
  have hother : ∀ other ≠ "steps", (withSteps job steps).get other = job.get other :=
    fun other hne => Document.get_setting_of_ne hj hl hne
  have hitems : (job.get "steps").items.Perm ((withSteps job steps).get "steps").items := by
    rw [hsteps, Document.items_list_of_isClosed hc]
    exact hp.symm
  obtain ⟨hfails, hr⟩ := checkRequired_reordered label hitems
  rw [alone_checkSettings, alone_checkSettings]
  simp only [Document.sets, hother "uses" (by decide), hother "runs-on" (by decide),
    hother "permissions" (by decide)]
  cases (job.get "uses").truthy with
  | true =>
    simp only [Outcome.when, Bool.not_true, Bool.false_eq_true, if_false]
    exact ⟨trivial, fun _ => .refl _⟩
  | false =>
    have hdone : ∀ (condition : Bool) (i : Issue),
        (Reporter.reportIf condition i).alone.failure = none := fun condition i =>
      congrArg Outcome.failure (Reporter.alone_reportIf condition i)
    simp only [Outcome.when, Bool.not_false, if_true,
      Outcome.append_of_failure_eq_none (hdone _ _), Findings.issues_append]
    exact ⟨hfails, fun hf => (Reordered.refl _).append ((Reordered.refl _).append (hr hf))⟩

/-- The label of a job in the titles of its issues. -/
def jobLabel (key : Key) : String :=
  "job \"" ++ key.display ++ "\""

/-- A job is named before its settings are checked. -/
theorem alone_checkJob (key : Key) (hm : job.isMap) :
  (checkJob (key, job)).alone =
    .reading (ifWritable key.isWritable key.display) fun name =>
      (checkSettings name ("job \"" ++ name ++ "\"") job).alone
  := by
  refine (Reporter.alone_reading _ _).trans (congrArg (Outcome.reading _) ?_)
  funext name
  exact congrArg Reporter.alone (if_pos hm)

theorem checkJob_reordered (key : Key) (hj : job.isClosed) (hm : job.isMap)
    (hp : steps.Perm (job.get "steps").items) :
  let report := (checkJob (key, job)).alone
  let changed := (checkJob (key, withSteps job steps)).alone
  (report.failure = none ↔ changed.failure = none) ∧
  (report.failure = none →
    Reordered (jobLabel key) report.findings.issues changed.findings.issues)
  := by
  intro report changed
  have hreport : report = _ := alone_checkJob key hm
  have hchanged : changed = _ := alone_checkJob key rfl
  rw [hreport, hchanged]
  cases key.isWritable with
  | false => exact ⟨Iff.rfl, fun h => nomatch h⟩
  | true => exact checkSettings_reordered hj hp key.display (jobLabel key)

end

theorem alone_checkJobs (jobs : Document) :
  (checkJobs jobs).alone = .each (fun job => (checkJob job).alone) jobs.entries
  := Reporter.alone_each fun job _ => adds_checkJob job

/-- The jobs of a mapping that is written with closed jobs are reported one after the other. -/
theorem alone_checkJobs_map {entries : List (Key × Document)} (h : ∀ e ∈ entries, e.2.isClosed) :
  (checkJobs (.map entries)).alone = .each (fun job => (checkJob job).alone) entries
  := by
  rw [alone_checkJobs, Document.entries_map_of_isClosed h]

/-- The checks of jobs are local and do not depend on the order of steps.  Jobs under other keys add
their report at the end, unless the checks fail before.  If a job gets its steps in another order,
the reports on the other jobs stay as they are and where they are, and the checks of the job come to
an end as before or fail as before.  If they come to an end, its own report agrees with the former
one up to the order of the issues and the numbers of steps in their titles; so it has the same ids,
each as many times, and says that the checkout is missing if and only if the former one does. -/
theorem checkJobs_local {jobs : Document} (hc : jobs.isClosed) :
  (∀ {others : Document}, others.isClosed → jobs.DisjointKeys others →
    (checkJobs (jobs.union others)).alone = (checkJobs jobs).alone ++ (checkJobs others).alone ∧
    ((checkJobs jobs).alone.failure = none →
      (checkJobs (jobs.union others)).alone.findings.issues =
        (checkJobs jobs).alone.findings.issues ++ (checkJobs others).alone.findings.issues)) ∧
  (∀ {before after : List (Key × Document)} {key : Key} {job : Document}
      {steps : List Document}, jobs.entries = before ++ (key, job) :: after → job.isMap →
      steps.Perm (job.get "steps").items →
    let changed := Document.map (before ++ (key, withSteps job steps) :: after)
    let reports := Outcome.each fun job => (checkJob job).alone
    let report := (checkJob (key, job)).alone
    let changedReport := (checkJob (key, withSteps job steps)).alone
    let ids := report.findings.issues.map (·.ruleId)
    let changedIds := changedReport.findings.issues.map (·.ruleId)
    (checkJobs jobs).alone = reports before ++ report ++ reports after ∧
    (checkJobs changed).alone = reports before ++ changedReport ++ reports after ∧
    (report.failure = none ↔ changedReport.failure = none) ∧
    (report.failure = none →
      Reordered (jobLabel key) report.findings.issues changedReport.findings.issues ∧
      ids.Perm changedIds ∧
      (some "gh-missing-checkout" ∈ ids ↔ some "gh-missing-checkout" ∈ changedIds)))
  := by
  constructor
  · intro others ho hd
    have hunion : (checkJobs (jobs.union others)).alone =
        (checkJobs jobs).alone ++ (checkJobs others).alone := by
      rw [alone_checkJobs, Document.entries_union hc ho hd, Outcome.each_append, alone_checkJobs,
        alone_checkJobs]
    refine ⟨hunion, ?_⟩
    intro hf
    rw [hunion, Outcome.append_of_failure_eq_none hf]
    rfl
  · intro before after key job steps he hm hp changed reports report changedReport ids changedIds
    have hclosed : ∀ e ∈ before ++ (key, job) :: after, e.2.isClosed :=
      he ▸ fun e => Document.isClosed_of_mem_entries hc
    rw [List.forall_mem_append, List.forall_mem_cons] at hclosed
    obtain ⟨hbefore, hjob, hafter⟩ := hclosed
    obtain ⟨hfails, hr⟩ := checkJob_reordered key hjob hm hp
    have hchanged : ∀ e ∈ before ++ (key, withSteps job steps) :: after, e.2.isClosed := by
      rw [List.forall_mem_append, List.forall_mem_cons]
      exact ⟨hbefore, isClosed_withSteps hjob hp, hafter⟩
    refine ⟨?_, ?_, hfails, fun hf => ⟨hr hf, (hr hf).ruleIds_perm, (hr hf).ruleIds_perm.mem_iff⟩⟩
    · rw [alone_checkJobs, he, Outcome.each_append, Outcome.append_assoc]
      rfl
    · rw [alone_checkJobs_map hchanged, Outcome.each_append, Outcome.append_assoc]
      rfl

/-- A job that checks out its repository too late. -/
def lateCheckout : Document :=
  .map [(.ofText "runs-on", .text "ubuntu-latest"), (.ofText "steps", .list [
    .map [(.ofText "run", .text "make")], .map [(.ofText "uses", .text "actions/checkout")]])]

theorem checkJobs_local_lateCheckout :
  let jobs := Document.map [(.ofText "build", lateCheckout)]
  let others := Document.map [(.ofText "ship", .null)]
  let steps := [Document.map [(.ofText "uses", .text "actions/checkout")],
    .map [(.ofText "run", .text "make")]]
  let report := (checkJob (.ofText "build", lateCheckout)).alone
  let changedReport := (checkJob (.ofText "build", withSteps lateCheckout steps)).alone
  jobs.isClosed ∧ others.isClosed ∧ jobs.DisjointKeys others ∧
  (checkJobs (jobs.union others)).alone.findings.issues =
    [missingStepName "job \"build\", step 1", outdatedCheckout "job \"build\"",
      unpinnedAction "job \"build\", step 2" "actions/checkout", invalidJob "job \"ship\""] ∧
  steps.Perm (lateCheckout.get "steps").items ∧
  (checkJobs (.map [(.ofText "build", withSteps lateCheckout steps)])).alone.findings.issues =
    [outdatedCheckout "job \"build\"",
      unpinnedAction "job \"build\", step 1" "actions/checkout",
      missingStepName "job \"build\", step 2"] ∧
  report.failure = none ∧
  Reordered "job \"build\"" report.findings.issues changedReport.findings.issues
  := by
  intro jobs others steps report changedReport
  have hj : jobs.isClosed := rfl
  have ho : others.isClosed := rfl
  have hd : jobs.DisjointKeys others := by
    constructor
    · intro e he
      obtain rfl := List.mem_singleton.mp he
      rfl
    · intro e he
      obtain rfl := List.mem_singleton.mp he
      rfl
  have hp : steps.Perm (lateCheckout.get "steps").items := .swap ..
  have he : jobs.entries = [] ++ (.ofText "build", lateCheckout) :: [] := rfl
  obtain ⟨hunion, hsteps⟩ := checkJobs_local hj
  obtain ⟨-, hchanged, -, hr⟩ := hsteps he rfl hp
  have hf : report.failure = none := by decide +kernel
  refine ⟨hj, ho, hd, ((hunion ho hd).2 (by decide +kernel)).trans (by decide +kernel), hp, ?_, hf,
    (hr hf).1⟩
  exact (congrArg (fun o : Outcome => o.findings.issues) hchanged).trans (by decide +kernel)

end PipelineAudit.GitHub
