import PipelineAudit.Rule.Basic

/-!
# Security scanning

A pipeline should run scanners for vulnerabilities, for the code, for dependencies, for containers
and for secrets.  A scanner counts as present if its name occurs in the raw text.
-/

namespace PipelineAudit

namespace Scanning

/-- Scanners for vulnerabilities. -/
def vulnerabilityScanners : List String := [
  "snyk", "trivy", "clair", "anchore", "twistlock", "aqua", "veracode", "checkmarx", "sonarqube",
  "whitesource"]

/-- Tools that analyze code. -/
def codeAnalysisTools : List String := [
  "codeql", "sonarqube", "eslint", "bandit", "brakeman", "semgrep", "gosec", "safety", "flake8"]

/-- Scanners for dependencies. -/
def dependencyScanners : List String := [
  "npm audit", "yarn audit", "pip-audit", "safety", "bundler-audit", "retire.js",
  "dependency-check", "snyk"]

/-- Scanners for containers. -/
def containerScanners : List String :=
  ["trivy", "clair", "anchore", "twistlock"]

/-- Scanners for secrets. -/
def secretScanners : List String :=
  ["trufflehog", "gitleaks", "detect-secrets", "git-secrets"]

/-- Package managers. -/
def packageManagers : List String :=
  ["npm", "yarn", "pip", "composer", "bundle", "go mod"]

/-- The beginning of a step that runs a scanner. -/
def trivyStep : String :=
  "- name: Run Trivy vulnerability scanner\n" ++
    "  uses: aquasecurity/trivy-action@master\n" ++
    "  with:\n"

/-- The issue of a pipeline without a scanner for vulnerabilities. -/
def missingVulnerabilityScan : Issue where
  title := "Missing vulnerability scanning"
  description := "No vulnerability scanning tools detected"
  severity := .warning
  category := .security
  ruleId := "missing-vuln-scanning"
  suggestion := "Add vulnerability scanning to your pipeline"
  exampleCode := trivyStep ++ "    scan-type: 'fs'\n    scan-ref: '.'"

/-- The suggestion to analyze the code. -/
def codeAnalysis : Optimization where
  title := "Add static code analysis"
  description := "Static code analysis helps identify security vulnerabilities early"
  impact := .high
  effort := .medium
  category := .security
  suggestion := "Integrate static analysis tools into your pipeline"

/-- The issue of a pipeline that installs packages without scanning them. -/
def missingDependencyScan : Issue where
  title := "Missing dependency vulnerability scanning"
  description := "Dependencies should be scanned for known vulnerabilities"
  severity := .warning
  category := .security
  ruleId := "missing-dep-scanning"
  suggestion := "Add dependency vulnerability scanning"
  exampleCode := "- name: Audit dependencies\n  run: npm audit --audit-level=high"

/-- The issue of a pipeline that uses containers without scanning them. -/
def missingContainerScan : Issue where
  title := "Missing container security scanning"
  description := "Docker containers should be scanned for vulnerabilities"
  severity := .warning
  category := .security
  ruleId := "missing-container-scanning"
  suggestion := "Add container vulnerability scanning"
  exampleCode := trivyStep ++ "    image-ref: 'myapp:latest'"

/-- The suggestion to scan for secrets. -/
def secretScan : Optimization where
  title := "Add secrets scanning"
  description := "Scan for accidentally committed secrets"
  impact := .high
  effort := .low
  category := .security
  suggestion := "Add secrets scanning to prevent credential leaks"
  exampleCode := "- name: Run gitleaks\n  uses: zricethezav/gitleaks-action@master"

/-- What a text in lower case lacks in scanners. -/
def findings (lowered : List Char) : Findings :=
  let uses := Text.hasAny lowered
  { issues :=
      (if uses vulnerabilityScanners then [] else [missingVulnerabilityScan]) ++
      (if !uses dependencyScanners && uses packageManagers then [missingDependencyScan]
        else []) ++
      (if uses ["docker"] && !uses containerScanners then [missingContainerScan] else [])
    optimizations :=
      (if uses codeAnalysisTools then [] else [codeAnalysis]) ++
      (if uses secretScanners then [] else [secretScan]) }

end Scanning

namespace Rule

/-- Missing scanners. -/
def securityScanning : Rule where
  id := "security-scanning"
  name := "Security Scanning"
  description := "Ensures proper security scanning is implemented"
  category := .security
  level := .senior
  kind := "SecurityScanningRule"
  check _ source := .done (Scanning.findings source.lowered)

end Rule

end PipelineAudit
