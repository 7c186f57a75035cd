import PipelineAudit.Proofs.Document.Writing
import PipelineAudit.Proofs.Finding.LongIntegers
import PipelineAudit.Rule.Catalog

/-!
# Long integers in the rules

A default rule writes the names of jobs, the jobs they need, time limits, and sizes of matrices.  It
fails on an integer that is too long to be written.  The search for secrets writes none, and fails
where a header nests too deeply.

* `Document.Reportable`: nothing that the rules write of a document is too long.
* `Catalog.onlyLong_check`: the rules other than the search for secrets, one by one.
* `Catalog.check_failure`: why a default rule fails.
* `Catalog.check_failure_eq_none`: when none of them does.
-/

namespace PipelineAudit

/-- Whether everything that the rules write of a document can be written: what it holds, and the
numbers of jobs that the matrices of its jobs expand to. -/
structure Document.Reportable (document : Document) : Prop where
  writable : document.isWritable
  sizes : ∀ e ∈ Workflow.jobEntries document, ∀ m ∈ Workflow.matrix? e.2,
    isWritableInteger (Workflow.matrixSize m)

namespace Document

variable {p : Prop}

theorem onlyLong_write {d : Document} (h : p → d.isWritable) :
  OnlyLong p (readFailure? d.write)
  := .ifWritable h _

theorem onlyLong_named {e : Key × Document} (h : p → e.1.isWritable) :
  OnlyLong p (readFailure? (named e))
  := (OnlyLong.ifWritable h _).map _

end Document

/-! ### Workflows -/

namespace Workflow

open Document (Reportable)

variable {document : Document}

theorem isWritable_of_mem_jobEntries {e : Key × Document} (he : e ∈ jobEntries document)
    (h : document.Reportable) :
  e.1.isWritable ∧ e.2.isWritable
  := Document.isWritable_of_mem_entries (Document.isWritable_get h.writable "jobs")
    (List.mem_of_mem_filter he)

theorem isWritable_of_mem_steps {job step : Document} (h : job.isWritable)
    (hs : step ∈ steps job) :
  step.isWritable
  := Document.isWritable_of_mem_items (Document.isWritable_get h "steps")
    (List.mem_of_mem_filter hs)

theorem isWritable_of_mem_namedNeeds {job d : Document} (h : job.isWritable)
    (hd : d ∈ namedNeeds job) :
  d.isWritable
  := by
  rw [namedNeeds] at hd
  split at hd
  · obtain rfl := List.mem_singleton.mp hd
    rfl
  · exact Document.isWritable_of_mem_items (Document.isWritable_get h "needs")
      (List.mem_of_mem_filter hd)
  · cases hd

theorem isWritable_declaredTriggers (h : document.isWritable) :
  (declaredTriggers document).isWritable
  := by
  rw [declaredTriggers]
  split
  · exact Document.isWritable_find h _
  · exact Document.isWritable_get h "on"

theorem onlyLong_jobs (document : Document) :
  OnlyLong document.Reportable (readFailure? (jobs document))
  := .mapM fun _ he => Document.onlyLong_named fun h => (isWritable_of_mem_jobEntries he h).1

theorem onlyLong_needs {p : Prop} {job : Document} (h : p → job.isWritable) :
  OnlyLong p (readFailure? (needs job))
  := .mapM fun _ hd => Document.onlyLong_write fun hp => isWritable_of_mem_namedNeeds (h hp) hd

theorem onlyLong_triggers {p : Prop} (h : p → document.isWritable) :
  OnlyLong p (readFailure? (triggers document))
  := by
  have ht (hp : p) := isWritable_declaredTriggers (h hp)
  rw [triggers]
  split
  · exact .none _
  · apply OnlyLong.map
    exact .mapM fun _ hd => Document.onlyLong_write fun hp =>
      Document.isWritable_of_mem_items (ht hp) hd
  · apply OnlyLong.map
    exact .mapM fun _ he => Document.onlyLong_named fun hp =>
      (Document.isWritable_of_mem_entries (ht hp) he).1
  · exact .none _

/-- What is read of each job fails only on long integers if what is read of a job does. -/
theorem onlyLong_mapM_jobs {α : Type} {read : String × Document → Except Failure α}
    (hr : ∀ e ∈ jobEntries document,
      OnlyLong document.Reportable (readFailure? (read (Document.displayed e)))) :
  OnlyLong document.Reportable (readFailure? ((jobs document).bind fun jobs => jobs.mapM read))
  := by
  apply (onlyLong_jobs document).bind
  intro jobs hjobs
  rw [jobs_eq, ifWritable_eq_ok] at hjobs
  obtain ⟨-, rfl⟩ := hjobs
  apply OnlyLong.mapM
  intro job hjob
  obtain ⟨e, he, rfl⟩ := List.mem_map.mp hjob
  exact hr e he

/-- A check of each job fails only on long integers if the check of a job does. -/
theorem onlyLong_eachJob {check : String × Document → Outcome}
    (hc : ∀ e ∈ jobEntries document,
      OnlyLong document.Reportable (check (Document.displayed e)).failure) :
  OnlyLong document.Reportable (eachJob document check).failure
  := by
  apply OnlyLong.each
  intro e he
  apply OnlyLong.reading
  · exact Document.onlyLong_named fun h => (isWritable_of_mem_jobEntries he h).1
  · intro job hjob
    rw [Document.named_eq, ifWritable_eq_ok] at hjob
    rw [← hjob.2]
    exact hc e he

/-- A check of each job that fails on no job fails only on long names. -/
theorem onlyLong_eachJob_done (report : String × Document → Findings) :
  OnlyLong document.Reportable (eachJob document fun job => .done (report job)).failure
  := onlyLong_eachJob fun _ _ => .none _

end Workflow

namespace Catalog

variable (document : Document) (source : Source)

open Workflow

/-! ### Performance -/

theorem onlyLong_dependencies :
  OnlyLong document.Reportable (readFailure? (Parallelism.dependencies document))
  := by
  apply OnlyLong.map
  apply onlyLong_mapM_jobs
  intro e he
  exact (onlyLong_needs fun h => (isWritable_of_mem_jobEntries he h).2).map _

theorem onlyLong_stages :
  OnlyLong document.Reportable (readFailure? (Parallelism.stages document))
  := by
  apply OnlyLong.map
  apply OnlyLong.mapM
  intro e he
  exact Document.onlyLong_named fun h =>
    (Document.isWritable_of_mem_entries h.writable (List.mem_of_mem_filter he)).1

theorem onlyLong_parallelizationAnalysis :
  OnlyLong document.Reportable (Rule.parallelizationAnalysis.check document source).failure
  := by
  rw [Rule.parallelizationAnalysis]
  dsimp only
  split
  · apply (onlyLong_dependencies document).reading
    intro dependencies _
    apply OnlyLong.when
    intro _
    exact .append (.none _) (((onlyLong_jobs document).map _).reading fun _ _ => .none _)
  · apply OnlyLong.when
    intro _
    exact .append (.none _) ((onlyLong_stages document).reading fun _ _ => .none _)

theorem onlyLong_checkTimeout {job : String × Document} {p : Prop} (h : p → job.2.isWritable) :
  OnlyLong p (Resources.checkTimeout job).failure
  := by
  rw [Resources.checkTimeout]
  split
  · exact .none p
  · apply OnlyLong.when
    intro _
    have ht := Document.onlyLong_write fun hp => Document.isWritable_get (h hp) "timeout-minutes"
    exact ht.reading fun _ _ => .none p

theorem onlyLong_resourceOptimization :
  OnlyLong document.Reportable (Rule.resourceOptimization.check document source).failure
  := by
  refine .append (.when fun _ => .append ?_ (onlyLong_eachJob_done _)) (.none _)
  apply onlyLong_eachJob
  intro e he
  exact onlyLong_checkTimeout fun h => (isWritable_of_mem_jobEntries he h).2

/-! ### Cost -/

theorem onlyLong_checkMatrix {e : Key × Document} (he : e ∈ jobEntries document) :
  OnlyLong document.Reportable (Spending.checkMatrix (Document.displayed e)).failure
  := by
  rw [Spending.checkMatrix]
  split
  case h_1 => exact .none _
  case h_2 matrix hm =>
    apply OnlyLong.when
    intro _
    have hs : OnlyLong document.Reportable
        (readFailure? (integerText (matrixSize matrix))) :=
      .ifWritable (fun h => h.sizes e he matrix hm) _
    exact hs.reading fun _ _ => .none _

theorem onlyLong_settingText {step : Document} {p : Prop} (h : p → step.isWritable)
    (name : String) :
  OnlyLong p (readFailure? (Spending.settingText step name))
  := by
  apply OnlyLong.map
  apply Document.onlyLong_write
  intro hp
  cases hs : step.get? name with
  | none => rfl
  | some d =>
    have hd := Document.isWritable_get (h hp) name
    rw [Document.get, hs] at hd
    exact hd

theorem onlyLong_checkLongJob {job : String × Document} {p : Prop} (h : p → job.2.isWritable) :
  OnlyLong p (Spending.checkLongJob job).failure
  := by
  apply OnlyLong.when
  intro _
  have hsteps : OnlyLong p (readFailure? ((steps job.2).anyM Spending.isOptimized)) := by
    apply OnlyLong.anyM
    intro step hstep
    have hw (hp : p) := isWritable_of_mem_steps (h hp) hstep
    apply (onlyLong_settingText hw "uses").bind
    intro uses _
    split
    · exact .none p
    · exact (onlyLong_settingText hw "run").map _
  apply hsteps.reading
  intro optimized _
  apply OnlyLong.when
  intro _
  have ht := Document.onlyLong_write fun hp => Document.isWritable_get (h hp) "timeout-minutes"
  exact ht.reading fun _ _ => .none p

theorem onlyLong_costOptimization :
  OnlyLong document.Reportable (Rule.costOptimization.check document source).failure
  := by
  apply OnlyLong.append _ (.none _)
  split
  · apply OnlyLong.append
    · apply OnlyLong.append
      · exact ((onlyLong_triggers fun h => h.writable).reading fun _ _ => .none _).append
          (onlyLong_eachJob_done _)
      · exact onlyLong_eachJob fun e he => onlyLong_checkMatrix document he
    · apply onlyLong_eachJob
      intro e he
      exact onlyLong_checkLongJob fun h => (isWritable_of_mem_jobEntries he h).2
  · exact .none _

theorem onlyLong_concurrencyOptimization :
  OnlyLong document.Reportable (Rule.concurrencyOptimization.check document source).failure
  := by
  apply OnlyLong.append _ (onlyLong_eachJob_done _)
  rw [Concurrency.checkWorkflow]
  split
  · apply (onlyLong_triggers fun h => h.writable).reading
    intro triggers _
    exact (onlyLong_jobs document).reading fun _ _ => .none _
  · exact .none _

/-! ### Maintainability -/

theorem onlyLong_namingConventions :
  OnlyLong document.Reportable (Rule.namingConventions.check document source).failure
  := by
  apply OnlyLong.append _ (onlyLong_eachJob_done _)
  apply OnlyLong.append
  · exact ((onlyLong_eachJob_done _).append (onlyLong_eachJob_done _)).append (.none _)
  · apply OnlyLong.each
    intro entry he
    have hk : OnlyLong document.Reportable (readFailure? entry.1.write) :=
      .ifWritable (fun h => (Document.isWritable_of_mem_entries
        (Document.isWritable_get h.writable "env") he).1) _
    exact hk.reading fun _ _ => .none _

theorem onlyLong_stepKey {step : Document} {p : Prop} (h : p → step.isWritable) :
  OnlyLong p (readFailure? (Complexity.stepKey step))
  := by
  rw [Complexity.stepKey]
  split
  · exact (Document.onlyLong_write fun hp => Document.isWritable_get (h hp) "uses").map _
  · split
    · exact (Document.onlyLong_write fun hp => Document.isWritable_get (h hp) "run").map _
    · exact .none p

theorem onlyLong_sharedRuns :
  OnlyLong document.Reportable (readFailure? (Complexity.sharedRuns document))
  := by
  apply OnlyLong.map
  apply onlyLong_mapM_jobs
  intro e he
  apply OnlyLong.map
  apply OnlyLong.mapM
  intro step hstep
  exact onlyLong_stepKey fun h =>
    isWritable_of_mem_steps (isWritable_of_mem_jobEntries he h).2 hstep

theorem onlyLong_complexityAnalysis :
  OnlyLong document.Reportable (Rule.complexityAnalysis.check document source).failure
  := ((onlyLong_eachJob_done _).append (.none _)).append
    ((onlyLong_sharedRuns document).reading fun _ _ => .none _)

/-! ### The catalog -/

theorem onlyLong_complianceStandards :
  OnlyLong document.Reportable (Rule.complianceStandards.check document source).failure
  := .append (.none _) (.when fun _ => (onlyLong_eachJob_done _).append (onlyLong_eachJob_done _))

theorem onlyLong_cachingOptimization :
  OnlyLong document.Reportable (Rule.cachingOptimization.check document source).failure
  := .append (.none _) (.when fun _ => onlyLong_eachJob_done _)

theorem onlyLong_documentationStandards :
  OnlyLong document.Reportable (Rule.documentationStandards.check document source).failure
  := ((onlyLong_eachJob_done _).append (onlyLong_eachJob_done _)).append (.none _)

/-- The default rules after the first, which is the search for secrets, fail only on long
integers. -/
theorem onlyLong_check {r : Rule} (h : r ∈ default.tail) :
  OnlyLong document.Reportable (r.check document source).failure
  := by
  simp only [default, List.tail_cons, List.mem_cons, List.not_mem_nil, or_false] at h
  obtain rfl | rfl | rfl | rfl | rfl | rfl | rfl | rfl | rfl | rfl | rfl | rfl | rfl | rfl | rfl |
    rfl | rfl | rfl := h
  · exact .none _
  · exact .none _
  · exact .none _
  · exact .none _
  · exact .none _
  · exact .none _
  · exact onlyLong_complianceStandards document source
  · exact .none _
  · exact .none _
  · exact onlyLong_cachingOptimization document source
  · exact .none _
  · exact onlyLong_parallelizationAnalysis document source
  · exact onlyLong_resourceOptimization document source
  · exact onlyLong_costOptimization document source
  · exact onlyLong_concurrencyOptimization document source
  · exact onlyLong_documentationStandards document source
  · exact onlyLong_namingConventions document source
  · exact onlyLong_complexityAnalysis document source

/-- A default rule fails because an integer is too long to be written, or because a header that the
search for secrets comes to nests too deeply. -/
theorem check_failure {r : Rule} (h : r ∈ default) {e : Failure}
    (he : (r.check document source).failure = some e) :
  (e = .longInteger ∧ ¬ document.Reportable) ∨ Secret.failure? source = some e
  := by
  obtain rfl | h := List.mem_cons.mp h
  · exact .inr he
  · exact .inl (onlyLong_check document source h e he)

/-- No default rule fails if nothing that the rules write is too long and the search for secrets
comes to its end. -/
theorem check_failure_eq_none (hd : document.Reportable) (hs : Secret.failure? source = none)
    {r : Rule} (h : r ∈ default) :
  (r.check document source).failure = none
  := by
  cases he : (r.check document source).failure with
  | none => rfl
  | some e =>
    obtain ⟨-, hn⟩ | hf := check_failure document source h he
    · exact absurd hd hn
    · rw [hs] at hf
      cases hf

end Catalog

end PipelineAudit
