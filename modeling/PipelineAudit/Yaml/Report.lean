import PipelineAudit.Yaml.Build

/-!
# Reading configurations

`Document.ofYaml` reads the text of a configuration.  A malformed text is reported in words, with
the line and the column counted from one where they are known.
-/

namespace PipelineAudit

/-- The report of a malformed text. -/
structure ParseReport where
  message : String
  line : Option Int := none
  column : Option Int := none
  deriving DecidableEq, Repr

namespace ParseReport

/-- A report in words: the message, and the place if the line is known. -/
def text (r : ParseReport) : String :=
  match r.line with
  | none => r.message
  | some line =>
    r.message ++ " (line " ++ toString line ++ ", column " ++
      (r.column.elim "None" toString) ++ ")"

/-- The report of a problem, at a place counted from zero. -/
def ofProblem (problem : Yaml.Problem) (place : Option Yaml.Mark) : ParseReport where
  message := "Invalid YAML: " ++ problem.message
  line := place.map fun m => (m.line + 1 : Nat)
  column := place.map fun m => (m.column + 1 : Nat)

end ParseReport

/-- Why the text of a configuration gives no document. -/
inductive ReadFailure where
  | malformed (report : ParseReport)
  /-- The text is well formed, but a scalar in it denotes nothing. -/
  | scalar (error : Yaml.ScalarError)
  deriving DecidableEq, Repr

/-- The failure for an error of the reader. -/
def ReadFailure.ofError : Yaml.Error → ReadFailure
  | .malformed problem place => malformed (.ofProblem problem place)
  | .scalar error => scalar error

/-- The document that a text holds; a text without content is null. -/
def Document.ofYaml (text : List Char) : Except ReadFailure Document :=
  (Yaml.read text).mapError .ofError

end PipelineAudit
