import PipelineAudit.Proofs.Finding.Streams
import PipelineAudit.Proofs.Secret.Concealment
import PipelineAudit.Rule.Engine

/-!
# What findings quote

The findings of the default rules are worded alike for every pipeline, but for what they quote of
the document and of its source (`Catalog.quotations`), for masked secrets and for numbers.
`Findings.Conceal` says that a secret occurs in no title and in no description of some findings; it
holds of findings together if it holds of each.
-/

namespace PipelineAudit

open Secret

/-! ### Texts of findings -/

/-- The titles and descriptions of findings. -/
def Findings.texts (found : Findings) : List String :=
  found.issues.flatMap (fun i => [i.title, i.description]) ++
    (found.optimizations.flatMap (fun o => [o.title, o.description]) ++
      found.vulnerabilities.flatMap fun v => [v.title, v.description])

/-- A secret occurs in no title and in no description of some findings. -/
def Findings.Conceal (secret : List Char) (found : Findings) : Prop :=
  found.Each (fun i => Hidden secret i.title ∧ Hidden secret i.description)
    (fun o => Hidden secret o.title ∧ Hidden secret o.description)
    fun v => Hidden secret v.title ∧ Hidden secret v.description

namespace Findings

variable {secret : List Char}

theorem Conceal.hidden {found : Findings} (h : found.Conceal secret) :
  ∀ t ∈ found.texts, Hidden secret t
  := by
  intro t ht
  rw [texts, List.mem_append, List.mem_append, List.mem_flatMap, List.mem_flatMap,
    List.mem_flatMap] at ht
  simp only [List.mem_cons, List.not_mem_nil, or_false] at ht
  obtain ⟨i, hi, rfl | rfl⟩ | ⟨o, ho, rfl | rfl⟩ | ⟨v, hv, rfl | rfl⟩ := ht
  · exact (h.issues i hi).1
  · exact (h.issues i hi).2
  · exact (h.optimizations o ho).1
  · exact (h.optimizations o ho).2
  · exact (h.vulnerabilities v hv).1
  · exact (h.vulnerabilities v hv).2

/-- A secret that occurs in none of some findings occurs in none of them together. -/
theorem Conceal.cumulative (secret : List Char) :
  Cumulative (Findings.Conceal secret)
  := Each.cumulative _ _ _

end Findings

namespace Catalog

/-! ### Quotations -/

/-- The names of the forms of the secrets in a source, as they are written in findings. -/
def quotedForms (source : Source) : List String :=
  (hits source).flatMap fun h =>
    [h.signature.name, String.ofList (Text.lower h.signature.name.toList)]

/-- The lines of a source that hold a risky command. -/
def quotedLines (source : Source) : List String :=
  (source.numberedLines.filter fun l =>
    (CommandForm.dangerous ++ CommandForm.permissionChanges).any fun form =>
      !(form.matchesOn l.2).isEmpty).map fun l => String.ofList (Text.trim l.2)

/-- The actions whose version is not fixed, and these versions. -/
def quotedActions (source : Source) : List String :=
  (((ActionReference.reference.findAll source.text).filterMap ActionReference.parts?).filter
    fun r => !ActionReference.isPinned r.2).flatMap fun r =>
      [String.ofList r.1, String.ofList r.2]

/-- The variables that are referenced under names that are not in capitals. -/
def quotedVariables (source : Source) : List String :=
  (Naming.oddNames [] (Variable.references source.text)).map String.ofList

/-- The name of a job, its time limit, its runner, its environment and the names of its steps. -/
def quotedOfJob (job : String × Document) : List String :=
  job.1 :: (job.2.get "timeout-minutes").display ::
    ((job.2.get "runs-on").text?.toList ++
      ((Workflow.environment job.2).text?.toList ++ Naming.stepNames job.2))

theorem name_mem_quotedOfJob (job : String × Document) :
  job.1 ∈ quotedOfJob job
  := by simp [quotedOfJob]

theorem timeout_mem_quotedOfJob (job : String × Document) :
  (job.2.get "timeout-minutes").display ∈ quotedOfJob job
  := by simp [quotedOfJob]

theorem runner_mem_quotedOfJob {job : String × Document} {runner : String}
    (h : (job.2.get "runs-on").text? = some runner) :
  runner ∈ quotedOfJob job
  := by simp [quotedOfJob, h]

theorem environment_mem_quotedOfJob {job : String × Document} {name : String}
    (h : (Workflow.environment job.2).text? = some name) :
  name ∈ quotedOfJob job
  := by simp [quotedOfJob, h]

theorem step_mem_quotedOfJob {job : String × Document} {name : String}
    (h : name ∈ Naming.stepNames job.2) :
  name ∈ quotedOfJob job
  := by simp [quotedOfJob, h]

/-- The names of the jobs that depend on others and of those that they need, and a list of the jobs
that depend on none. -/
def quotedOfDependencies (dependencies : List (String × List String)) : List String :=
  commaSeparated (Parallelism.independent dependencies) ::
    dependencies.flatMap fun d => d.1 :: d.2

/-- What is quoted of the jobs that depend on others, and lists of the jobs that are alike, as far
as they can be read. -/
def quotedDependencies (document : Document) : List String :=
  (Parallelism.dependencies document).toOption.toList.flatMap quotedOfDependencies ++
    (Parallelism.similarGroups document).toOption.toList.flatMap (·.map commaSeparated)

/-- The names of stages, as far as they can be read. -/
def quotedStages (document : Document) : List String :=
  (Parallelism.stages document).toOption.toList.flatMap (·.map (·.1))

/-- The runs of steps that more than two jobs share, and lists of these jobs, as far as they can be
read. -/
def quotedRuns (document : Document) : List String :=
  (Complexity.sharedRuns document).toOption.toList.flatMap fun shared =>
    (shared.filter fun r => 2 < r.2.length).flatMap fun r => [r.1, commaSeparated r.2]

/-- What is read of a document is quoted. -/
theorem mem_of_eq_ok {α : Type} {read : Except Failure α} {a : α} (hread : read = .ok a)
    (quoted : α → List String) {q : String} (hq : q ∈ quoted a) :
  q ∈ read.toOption.toList.flatMap quoted
  := by
  subst hread
  exact List.mem_flatMap.mpr ⟨a, List.mem_singleton_self a, hq⟩

/-- What findings quote of a source. -/
def quotedOfSource (source : Source) : List String :=
  quotedForms source ++ (quotedLines source ++ (quotedActions source ++ quotedVariables source))

/-- What findings quote of a document: what is quoted of its jobs, the names of variables and of
stages, and shared runs of steps. -/
def quotedOfDocument (document : Document) : List String :=
  (Workflow.jobEntries document).flatMap (fun e => quotedOfJob (Document.displayed e)) ++
    ((document.get "env").entries.map (·.1.display) ++
      (quotedDependencies document ++ (quotedStages document ++ quotedRuns document)))

/-- What findings quote. -/
def quotations (document : Document) (source : Source) : List String :=
  quotedOfSource source ++ quotedOfDocument document

end Catalog

end PipelineAudit
