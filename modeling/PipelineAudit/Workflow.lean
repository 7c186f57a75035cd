import PipelineAudit.Count
import PipelineAudit.Document.Access
import PipelineAudit.Document.Text

/-!
# Workflows

The parts of a workflow document that rules and metrics look at: its jobs with their steps and the
jobs they need, its triggers, and the size of a job matrix.  What is read by name has to be written
out first, and cannot be read where a name is an integer that is too long.
-/

namespace PipelineAudit

/-- An entry of a mapping by the text of its key. -/
def Document.displayed (entry : Key × Document) : String × Document :=
  (entry.1.display, entry.2)

/-- An entry of a mapping by name, if its key can be written. -/
def Document.named (entry : Key × Document) : Except Failure (String × Document) :=
  entry.1.write.map fun name => (name, entry.2)

theorem Document.named_eq (entry : Key × Document) :
  named entry = ifWritable entry.1.isWritable (displayed entry)
  := map_ifWritable _

namespace Workflow

/-- The entries of the jobs of a workflow; those that are no mappings are no jobs. -/
def jobEntries (d : Document) : List (Key × Document) :=
  (d.get "jobs").entries.filter (·.2.isMap)

/-- The jobs of a workflow by name. -/
def jobs (d : Document) : Except Failure (List (String × Document)) :=
  (jobEntries d).mapM Document.named

/-- The jobs can be named if all their keys can be written. -/
theorem jobs_eq (d : Document) :
  jobs d = ifWritable ((jobEntries d).all (·.1.isWritable)) ((jobEntries d).map Document.displayed)
  := by
  rw [← mapM_ifWritable, jobs, funext Document.named_eq]

/-- The steps of a job; items that are no mappings are no steps. -/
def steps (job : Document) : List Document :=
  (job.get "steps").items.filter Document.isMap

/-- Whether an item of a list of needs names a job. -/
def namesJob : Document → Bool
  | .scalar (.text _) | .scalar (.int _) | .scalar (.bool _) => true
  | _ => false

/-- What a job needs, as far as it names jobs: a text, or the names in a list. -/
def namedNeeds (job : Document) : List Document :=
  let d := job.get "needs"
  match d with
  | .scalar (.text s) => [.text s]
  | .list _ => d.items.filter namesJob
  | _ => []

/-- The names of the jobs that a job needs. -/
def needs (job : Document) : Except Failure (List String) :=
  (namedNeeds job).mapM Document.write

/-- What a workflow declares as its triggers: the value under `on`, or under the key `true` if
there is none. -/
def declaredTriggers (d : Document) : Document :=
  match d.get "on" with
  | .scalar .null => (d.getTrue?).getD .null
  | t => t

/-- The triggers of these names, each with its settings; of a repeated name the last one counts. -/
def triggersNamed (named : List (String × Document)) : List (Key × Document) :=
  distinctEntries (named.map fun e => (.ofText e.1, e.2))

/-- The triggers of a workflow by name, each with its settings. -/
def triggers (d : Document) : Except Failure (List (Key × Document)) :=
  let t := declaredTriggers d
  match t with
  | .scalar (.text s) => .ok (triggersNamed [(s, .null)])
  | .list _ =>
    (t.items.mapM Document.write).map fun names => triggersNamed (names.map fun s => (s, .null))
  | .map _ => (t.entries.mapM Document.named).map triggersNamed
  | _ => .ok []

/-- The settings of the trigger of a given name. -/
def trigger? (ts : List (Key × Document)) (name : String) : Option Document :=
  (ts.find? (·.1.isText name)).map (·.2)

/-- The commands that a setting of a step gives: a text, or the lines of a list. -/
def commandText? (d : Document) : Option (Except Failure String) :=
  match d with
  | .scalar (.text s) => some (.ok s)
  | .list _ => some ((d.items.mapM Document.write).map ("\n".intercalate ·))
  | _ => none

/-- The shell text of a step. -/
def stepText (step : Document) : Except Failure String :=
  ((commandText? (step.get "run")).or (commandText? (step.get "script"))).getD (.ok "")

/-- The number of items of a list, if the document is one. -/
def axisSize? : Document → Option Nat
  | .list items => some items.length
  | _ => none

/-- The number of jobs that a matrix expands to: the product of the sizes of its lists. -/
def matrixSize (matrix : Document) : Nat :=
  product (matrix.values.filterMap axisSize?)

/-- The matrix of a job, if it is a mapping. -/
def matrix? (job : Document) : Option Document :=
  let m := (job.get "strategy").get "matrix"
  if m.isMap then some m else none

/-- The name of the environment of a job: the value itself, or its name if it is a mapping. -/
def environment (job : Document) : Document :=
  let environment := job.get "environment"
  if environment.isMap then environment.get "name" else environment

end Workflow

end PipelineAudit
