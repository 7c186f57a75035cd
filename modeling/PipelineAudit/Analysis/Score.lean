import PipelineAudit.Analysis.Metrics

/-!
# Scores

The score of a configuration, the report on its security, and recommendations in order of priority,
all computed from the findings alone.
-/

namespace PipelineAudit

/-- What is known about the security of a configuration. -/
structure SecurityReport where
  overallScore : Nat
  vulnerabilities : List Vulnerability := []
  exposedSecrets : Nat := 0
  unsafePermissions : Nat := 0
  recommendations : List String := []
  deriving DecidableEq

/-- What to do first. -/
structure Recommendation where
  title : String
  description : String
  priority : Impact
  effort : Impact
  impact : Impact
  category : Category
  deriving DecidableEq

namespace Score

/-- What an issue takes off the score. -/
def issueDeduction (issue : Issue) : Nat :=
  match issue.severity with
  | .critical => 25
  | .error => 15
  | .warning => 8
  | .info => 3

/-- What a vulnerability takes off the score. -/
def vulnerabilityDeduction (vulnerability : Vulnerability) : Nat :=
  match vulnerability.severity with
  | .critical => 30
  | .high => 20
  | .medium => 10
  | .low => 5

/-- The score: a hundred less the deductions, and not below zero. -/
def overall (issues : List Issue) (vulnerabilities : List Vulnerability) : Nat :=
  100 - (total (issues.map issueDeduction) + total (vulnerabilities.map vulnerabilityDeduction))

/-- Advice on security. -/
def securityAdvice : List String := [
  "Use secret management systems instead of hardcoded values",
  "Pin action versions to specific commits for security",
  "Implement least privilege access principles",
  "Regular security audits of CI/CD configurations",
  "Enable branch protection rules",
  "Use signed commits where possible"]

/-- Whether a vulnerability is an exposed secret, by its title. -/
def isExposedSecret (vulnerability : Vulnerability) : Bool :=
  Text.hasAny (Text.lower vulnerability.title.toList) ["secret", "key", "token"]

/-- Whether an issue is about unsafe permissions, by its description. -/
def isUnsafePermission (issue : Issue) : Bool :=
  issue.category = .security && Text.has (Text.lower issue.description.toList) "permission"

/-- The report on security. -/
def securityReport (issues : List Issue) (vulnerabilities : List Vulnerability) :
    SecurityReport where
  overallScore := Measure.securityScore vulnerabilities
  vulnerabilities := vulnerabilities
  exposedSecrets := vulnerabilities.countP isExposedSecret
  unsafePermissions := issues.countP isUnsafePermission
  recommendations := securityAdvice

/-- The recommendation to fix critical issues. -/
def fixCritical (count : Nat) : Recommendation where
  title := "Fix Critical Issues"
  description := "Address " ++ toString count ++
    " critical issues that prevent proper pipeline execution"
  priority := .high
  effort := .high
  impact := .high
  category := .linting

/-- The recommendation to fix errors. -/
def fixErrors (count : Nat) : Recommendation where
  title := "Resolve Error Issues"
  description := "Fix " ++ toString count ++ " error-level issues"
  priority := .high
  effort := .medium
  impact := .high
  category := .linting

/-- The recommendation to improve security. -/
def improveSecurity (count : Nat) : Recommendation where
  title := "Improve Security Posture"
  description := "Address " ++ toString count ++ " security-related issues"
  priority := .high
  effort := .low
  impact := .high
  category := .security

/-- The recommendation to optimize. -/
def optimize (count : Nat) : Recommendation where
  title := "Optimize Performance"
  description := "Implement " ++ toString count ++ " high-impact performance optimizations"
  priority := .medium
  effort := .low
  impact := .high
  category := .performance

/-- A recommendation, if there is something to count. -/
def ifAny (count : Nat) (recommendation : Nat → Recommendation) : List Recommendation :=
  if count = 0 then [] else [recommendation count]

/-- The recommendations in order of priority. -/
def recommendations (issues : List Issue) (optimizations : List Optimization) :
    List Recommendation :=
  ifAny (issues.countP (·.severity = .critical)) fixCritical ++
  ifAny (issues.countP (·.severity = .error)) fixErrors ++
  ifAny (issues.countP (·.category = .security)) improveSecurity ++
  ifAny (optimizations.countP (·.impact = .high)) optimize

end Score

end PipelineAudit
