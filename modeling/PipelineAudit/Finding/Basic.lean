/-!
# Findings

What an analysis reports: issues, which are defects; optimizations, which are suggestions; and
vulnerabilities.  `Findings` holds the three streams in the order reported, and findings are
appended stream by stream.
-/

namespace PipelineAudit

/-- How serious an issue is. -/
inductive Severity where
  | critical
  | error
  | warning
  | info
  deriving DecidableEq, Repr

/-- How serious a vulnerability is, on a scale of its own. -/
inductive Threat where
  | critical
  | high
  | medium
  | low
  deriving DecidableEq, Repr

/-- What a finding is about. -/
inductive Category where
  | security
  | performance
  | maintainability
  | cost
  | linting
  | bestPractice
  | grammar
  | layout
  deriving DecidableEq, Repr

/-- How much a change gains, or takes. -/
inductive Impact where
  | high
  | medium
  | low
  deriving DecidableEq, Repr

/-- How strict a rule is. -/
inductive Level where
  | junior
  | intermediate
  | senior
  | expert
  deriving DecidableEq, Repr

namespace Severity

/-- The severities. -/
def all : List Severity :=
  [critical, error, warning, info]

/-- The name of a severity. -/
def name : Severity → String
  | critical => "critical"
  | error => "error"
  | warning => "warning"
  | info => "info"

end Severity

namespace Threat

/-- The degrees of threat. -/
def all : List Threat :=
  [critical, high, medium, low]

/-- The name of a degree of threat. -/
def name : Threat → String
  | critical => "critical"
  | high => "high"
  | medium => "medium"
  | low => "low"

end Threat

namespace Category

/-- The categories. -/
def all : List Category :=
  [security, performance, maintainability, cost, linting, bestPractice, grammar, layout]

/-- The name of a category. -/
def name : Category → String
  | security => "security"
  | performance => "performance"
  | maintainability => "maintainability"
  | cost => "cost"
  | linting => "linting"
  | bestPractice => "best-practice"
  | grammar => "syntax"
  | layout => "structure"

/-- The category of a given name. -/
def ofName? (s : String) : Option Category :=
  all.find? (·.name = s)

end Category

namespace Impact

/-- The degrees of impact. -/
def all : List Impact :=
  [high, medium, low]

/-- The name of a degree of impact. -/
def name : Impact → String
  | high => "high"
  | medium => "medium"
  | low => "low"

end Impact

namespace Level

/-- The levels, the lowest first. -/
def all : List Level :=
  [junior, intermediate, senior, expert]

/-- The name of a level. -/
def name : Level → String
  | junior => "junior"
  | intermediate => "intermediate"
  | senior => "senior"
  | expert => "expert"

/-- The place of a level in the order. -/
def rank : Level → Nat
  | junior => 0
  | intermediate => 1
  | senior => 2
  | expert => 3

/-- The level of a given name. -/
def ofName? (s : String) : Option Level :=
  all.find? (·.name = s)

end Level

/-- A defect. -/
structure Issue where
  title : String
  description : String
  severity : Severity
  category : Category
  ruleId : Option String := none
  suggestion : Option String := none
  exampleCode : Option String := none
  fixable : Option Bool := none
  line : Option Int := none
  lineNumbers : Option (List Int) := none
  estimatedFixTime : Option String := none
  impact : Option String := none
  documentationUrl : Option String := none
  deriving DecidableEq

/-- A suggested improvement. -/
structure Optimization where
  title : String
  description : String
  impact : Impact
  effort : Impact
  category : Category
  suggestion : String
  exampleCode : Option String := none
  lineNumbers : Option (List Int) := none
  deriving DecidableEq

/-- A security vulnerability. -/
structure Vulnerability where
  title : String
  description : String
  severity : Threat
  recommendation : String
  line : Option Int := none
  cve : Option String := none
  cvssScore : Option Float := none
  deriving DecidableEq

/-- The three streams of findings, in the order reported. -/
@[ext]
structure Findings where
  issues : List Issue := []
  optimizations : List Optimization := []
  vulnerabilities : List Vulnerability := []
  deriving DecidableEq

namespace Findings

/-- No findings. -/
def none : Findings := {}

/-- The findings of two reports, one after the other in each stream. -/
def append (a b : Findings) : Findings where
  issues := a.issues ++ b.issues
  optimizations := a.optimizations ++ b.optimizations
  vulnerabilities := a.vulnerabilities ++ b.vulnerabilities

instance : Append Findings := ⟨append⟩

/-- Findings that are issues only. -/
def ofIssues (issues : List Issue) : Findings := { issues }

/-- Findings that are optimizations only. -/
def ofOptimizations (optimizations : List Optimization) : Findings := { optimizations }

/-- Findings that are vulnerabilities only. -/
def ofVulnerabilities (vulnerabilities : List Vulnerability) : Findings := { vulnerabilities }

/-- One issue. -/
def issue (i : Issue) : Findings := ofIssues [i]

/-- One optimization. -/
def optimization (o : Optimization) : Findings := ofOptimizations [o]

/-- The given findings under a condition, and none otherwise. -/
def when (condition : Bool) (findings : Findings) : Findings :=
  if condition then findings else none

@[simp]
theorem when_true (f : Findings) : when true f = f := rfl

@[simp]
theorem when_false (f : Findings) : when false f = none := rfl

/-- The findings of several reports, one after the other. -/
def concat : List Findings → Findings
  | [] => none
  | f :: rest => f ++ concat rest

@[simp]
theorem issues_append (a b : Findings) : (a ++ b).issues = a.issues ++ b.issues := rfl

@[simp]
theorem optimizations_append (a b : Findings) :
  (a ++ b).optimizations = a.optimizations ++ b.optimizations
  := rfl

@[simp]
theorem vulnerabilities_append (a b : Findings) :
  (a ++ b).vulnerabilities = a.vulnerabilities ++ b.vulnerabilities
  := rfl

@[simp]
theorem none_append (a : Findings) : none ++ a = a := rfl

@[simp]
theorem append_none (a : Findings) :
  a ++ none = a
  := by
  ext1 <;> simp [none]

theorem append_assoc (a b c : Findings) :
  a ++ b ++ c = a ++ (b ++ c)
  := by
  ext1 <;> simp

@[simp]
theorem concat_append (as bs : List Findings) :
  concat (as ++ bs) = concat as ++ concat bs
  := by
  induction as with
  | nil => rfl
  | cons f rest ih => simp [concat, ih, append_assoc]

end Findings

end PipelineAudit
