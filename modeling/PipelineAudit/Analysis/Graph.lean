import PipelineAudit.Document.Access
import PipelineAudit.Document.Text

/-!
# The dependency graph

The jobs of a workflow and what they need, as a diagram: an arrow from each needed job, and a line
of its own for a job that needs none.  All of them are named in the diagram, so that there is none
where a name cannot be written.
-/

namespace PipelineAudit.Graph

/-- The diagram where there is nothing to draw. -/
def placeholder : String :=
  "graph TD\n    A[Analysis] --> B[Complete]"

/-- The diagram of a single job. -/
def singleJob : String :=
  "graph TD\n    A[Single Job] --> B[Complete]"

/-- The identifier of a job in a diagram: its name with an underscore for each character other
than ASCII letters and digits. -/
def nodeId (name : List Char) : List Char :=
  name.map fun c => if c.isAlphanum then c else '_'

/-- A job in a diagram: its identifier and its name. -/
def node (name : String) : String :=
  String.ofList (nodeId name.toList) ++ "[\"" ++ name ++ "\"]"

/-- The jobs that a job needs: the items of a list, or a single value. -/
def needed (job : Document) : List Document :=
  let needs := job.get "needs"
  if !needs.truthy then []
  else if needs.isList then needs.items
  else [needs]

/-- A job as it is drawn: its name, and the names of the jobs it needs. -/
structure Job where
  name : String
  needs : List String

/-- The lines of a job: an arrow from each job it needs, or the job alone. -/
def Job.lines (job : Job) : List String :=
  let target := node job.name
  match job.needs with
  | [] => ["    " ++ target ++ "\n"]
  | names => names.map fun name => "    " ++ node name ++ " --> " ++ target ++ "\n"

/-- A job of a workflow as it is drawn, if the names can be written. -/
def Job.of (entry : Key × Document) : Except Failure Job :=
  entry.1.write.bind fun name =>
    ((needed entry.2).mapM Document.write).map fun needs => { name, needs }

/-- The diagram of some jobs. -/
def draw (jobs : List Job) : String :=
  "graph TD\n" ++ String.join (jobs.flatMap Job.lines)

/-- The diagram of a document for a platform. -/
def render (document : Document) (platform : String) : Except Failure String :=
  let jobs := (document.get "jobs").entries
  if platform ≠ "github-actions" || jobs.isEmpty then .ok placeholder
  else if jobs.length ≤ 1 then .ok singleJob
  else (jobs.mapM Job.of).map draw

/-- The diagram of a workflow with several jobs is made of the lines of its jobs. -/
theorem render_of_several {document : Document} (h : 1 < (document.get "jobs").entries.length) :
  render document "github-actions" = ((document.get "jobs").entries.mapM Job.of).map draw
  := by
  have hn : (document.get "jobs").entries ≠ [] := List.ne_nil_of_length_pos (Nat.zero_lt_of_lt h)
  rw [render, if_neg (by simpa using hn), if_neg (Nat.not_le.mpr h)]

end PipelineAudit.Graph
