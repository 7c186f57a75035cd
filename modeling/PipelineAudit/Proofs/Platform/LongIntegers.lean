import PipelineAudit.Proofs.Platform.Images
import PipelineAudit.Proofs.Platform.PlacedSteps
import PipelineAudit.Proofs.Rule.LongIntegers

/-!
# Long integers in the checks of platforms

The checks of a platform write the names of triggers, jobs, variables and pipelines, and the
commands of scripts.  Those of GitHub and GitLab fail on integers that are too long to be written,
and on nothing else.  Those of Bitbucket also fail on steps that do not end, of which a tree has
none.

* `onlyLong_gitHub`, `onlyLong_gitLab`: why the checks of these platforms fail.
* `analyzeInto_failure_eq_none`: no checks fail on a tree that can be written.
-/

namespace PipelineAudit

open OnlyLong (OfReporter validation_reading validation_reportIf)

/-- The names of a list without repetitions are among those of the list. -/
theorem Parallelism.mem_of_mem_distinctNames {α : Type} {pairs : List (String × α)}
    {q : String × α} (h : q ∈ distinctNames pairs) :
  q ∈ pairs
  := by
  induction pairs using List.reverseRecOn with
  | nil => cases h
  | append_singleton rest p ih =>
    rw [distinctNames, List.foldl_append, ← distinctNames] at h
    rw [List.mem_append, List.mem_singleton]
    dsimp only [List.foldl_cons, List.foldl_nil] at h
    split at h
    · obtain ⟨d, hd, hq⟩ := List.mem_map.mp h
      split at hq
      · exact .inr hq.symm
      · exact .inl (ih (hq ▸ hd))
    · rw [List.mem_append, List.mem_singleton] at h
      exact h.imp_left ih

/-! ### GitHub -/

namespace GitHub

variable {p : Prop}

theorem onlyLong_validateInto {document : Document} (h : p → document.isWritable)
    (found : Findings) :
  OnlyLong p (validateInto document found).failure
  := by
  apply validation_reading _ (Workflow.onlyLong_triggers h)
  intro triggers _
  iterate 4 apply validation_reportIf
  exact .none p

theorem onlyLong_checkVariable (place : String) {entry : Key × Document}
    (h : p → entry.1.isWritable) :
  OfReporter p (checkVariable place entry)
  := by
  rw [checkVariable]
  split
  · exact .silent p
  · apply OfReporter.reading (.ifWritable h _)
    intro name _
    exact (OfReporter.reportIf p _ _).andThen (.reportIf p _ _)

theorem onlyLong_checkStep (label : String) (number : Nat) {step : Document}
    (h : p → step.isWritable) :
  OfReporter p (checkStep label number step)
  := by
  have haction : ∀ place uses, OfReporter p (checkAction label place uses) := fun place uses =>
    (OfReporter.reportIf p _ _).andThen (.reportIf p _ _)
  have hcontent : ∀ place, OfReporter p (checkContent place step) := by
    intro place
    rw [checkContent]
    split
    · exact .report p _
    · exact .reportIf p _ _
  apply OfReporter.andThen
  · split
    · exact haction _ _
    · exact .silent p
  · apply (hcontent _).andThen
    apply OfReporter.each
    intro entry he
    apply onlyLong_checkVariable
    exact fun hp =>
      (Document.isWritable_of_mem_entries (Document.isWritable_get (h hp) "env") he).1

theorem onlyLong_checkFurther (label : String) (progress : StepsProgress) {steps : List Document}
    (h : ∀ step ∈ steps, p → step.isWritable) :
  OfReporter p (checkFurther label progress steps)
  := by
  induction steps generalizing progress with
  | nil => exact .reportIf p _ _
  | cons step rest ih =>
    obtain ⟨hs, hrest⟩ := List.forall_mem_cons.mp h
    exact (onlyLong_checkStep label progress.number hs).andThen (ih (progress.after step) hrest)

theorem onlyLong_checkSettings (name label : String) {job : Document} (h : p → job.isWritable) :
  OfReporter p (checkSettings name label job)
  := by
  rw [checkSettings]
  split
  · exact .silent p
  · apply (OfReporter.reportIf p _ _).andThen
    apply (OfReporter.reportIf p _ _).andThen
    split
    · exact .report p _
    · apply onlyLong_checkFurther
      exact fun step hs hp =>
        Document.isWritable_of_mem_items (Document.isWritable_get (h hp) "steps") hs

theorem onlyLong_checkJobs {jobs : Document} (h : p → jobs.isWritable) :
  OfReporter p (checkJobs jobs)
  := by
  apply OfReporter.each
  intro job hj
  have hjob (hp : p) := Document.isWritable_of_mem_entries (h hp) hj
  apply OfReporter.reading (.ifWritable (fun hp => (hjob hp).1) _)
  intro name _
  dsimp only
  split
  · exact onlyLong_checkSettings name _ fun hp => (hjob hp).2
  · exact .report p _

end GitHub

/-! ### GitLab -/

namespace GitLab

variable {p : Prop} {document : Document}

theorem onlyLong_jobs (h : p → document.isWritable) :
  OnlyLong p (readFailure? (jobs document))
  := by
  apply OnlyLong.map
  apply OnlyLong.mapM
  intro e he
  apply Document.onlyLong_named
  exact fun hp => (Document.isWritable_of_mem_entries (h hp) (List.mem_of_mem_filter he)).1

/-- A job of a document that can be written can be written. -/
theorem isWritable_of_mem_allJobs (h : document.isWritable) {job : String × Document}
    (hj : job ∈ allJobs document) :
  job.2.isWritable
  := by
  have hnamed := List.mem_of_mem_filter (Parallelism.mem_of_mem_distinctNames hj)
  obtain ⟨e, he, rfl⟩ := List.mem_map.mp hnamed
  exact (Document.isWritable_of_mem_entries h (List.mem_of_mem_filter he)).2

theorem onlyLong_validateInto (h : p → document.isWritable) (found : Findings) :
  OnlyLong p (validateInto document found).failure
  := by
  apply validation_reading _ (onlyLong_jobs h)
  intro jobs _
  apply validation_reportIf
  exact .none p

theorem onlyLong_checkImage (image : Document) (place : String) :
  OfReporter p (checkImage image place)
  := by
  rw [checkImage]
  split
  · exact .reportIf p _ _
  · exact .silent p

theorem onlyLong_commands {script : Document} (h : p → script.isWritable) :
  OnlyLong p (readFailure? (commands script))
  := by
  unfold commands
  split
  · exact .none p
  · apply OnlyLong.mapM
    intro c hc
    apply Document.onlyLong_write
    exact fun hp => Document.isWritable_of_mem_items (h hp) (List.mem_of_mem_filter hc)

theorem onlyLong_checkScript {job : Document} (h : p → job.isWritable) (label : String) :
  OfReporter p (checkScript job label)
  := by
  rw [checkScript]
  cases hs : job.get? "script" with
  | none => exact .silent p
  | some script =>
    have hscript : job.get "script" = script := by rw [Document.get, hs, Option.getD_some]
    apply OfReporter.reading
    · apply onlyLong_commands
      exact fun hp => hscript ▸ Document.isWritable_get (h hp) "script"
    · exact fun _ _ => .reportIf p _ _

theorem onlyLong_checkJob {job : String × Document} (h : p → job.2.isWritable) :
  OfReporter p (checkJob job)
  := by
  apply (OfReporter.reportIf p _ _).andThen
  apply (OfReporter.reportIf p _ _).andThen
  exact (onlyLong_checkScript h _).andThen (onlyLong_checkImage _ _)

end GitLab

/-! ### Bitbucket -/

namespace Bitbucket

theorem namesWritable_of_isWritable {pipelines : Document} (h : pipelines.isWritable) :
  NamesWritable pipelines
  := fun key _ _ he =>
    (Document.isWritable_of_mem_entries (Document.isWritable_get h key) he).1

end Bitbucket

/-! ### All platforms -/

namespace PlatformChecks

variable {document : Document}

theorem onlyLong_analyzeInto {c : PlatformChecks} {p : Prop}
    (hv : ∀ found, OnlyLong p (c.validateInto document found).failure)
    (hj : OfReporter p (c.jobsInto document)) (hr : OfReporter p (c.restInto document)) :
  OfReporter p (c.analyzeInto document)
  := by
  have hvalidate : OfReporter p fun found => (c.validateInto document found).outcome := hv
  exact hvalidate.andThen (hj.andThen hr)

/-- The checks of workflows fail only on long integers. -/
theorem onlyLong_gitHub (document : Document) :
  OfReporter document.isWritable (gitHub.analyzeInto document)
  := onlyLong_analyzeInto (GitHub.onlyLong_validateInto id)
    (GitHub.onlyLong_checkJobs fun h => Document.isWritable_get h "jobs") (.silent _)

/-- Neither do those of GitLab fail on anything else. -/
theorem onlyLong_gitLab (document : Document) :
  OfReporter document.isWritable (gitLab.analyzeInto document)
  := by
  apply onlyLong_analyzeInto (GitLab.onlyLong_validateInto id) _ (GitLab.onlyLong_checkImage _ _)
  apply OfReporter.reading (GitLab.onlyLong_jobs id)
  intro jobs hjobs
  rw [GitLab.jobs_eq, ifWritable_eq_ok] at hjobs
  obtain ⟨-, rfl⟩ := hjobs
  apply OfReporter.each
  intro job hj
  exact GitLab.onlyLong_checkJob fun h => GitLab.isWritable_of_mem_allJobs h hj

/-- The checks of no platform fail on a tree that can be written. -/
theorem analyzeInto_failure_eq_none {c : PlatformChecks} (hc : c ∈ all Bitbucket.deepest)
    (ht : document.isTree) (hw : document.isWritable) :
  (c.analyzeInto document .none).failure = none
  := by
  simp only [all, List.mem_cons, List.not_mem_nil, or_false] at hc
  obtain rfl | rfl | rfl := hc
  · exact (onlyLong_gitHub document .none).eq_none hw
  · exact (onlyLong_gitLab document .none).eq_none hw
  · apply (Bitbucket.report_failure_of_isTree ht).mpr
    exact Bitbucket.namesWritable_of_isWritable (Document.isWritable_get hw "pipelines")

end PlatformChecks

end PipelineAudit
