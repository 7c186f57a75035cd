import PipelineAudit.Rule.Jobs

/-!
# Compliance

What standards ask of a pipeline: audit logs, care for sensitive data, encryption, and in workflows
protected environments and a limit on how long artifacts are kept.
-/

namespace PipelineAudit

open Pattern

namespace Compliance

/-- Signs that a pipeline handles sensitive data. -/
def sensitiveData : List Pattern := [
  inOrder [litFolded "personal", many inLine, litFolded "data"],
  inOrder [wordEdge, litFolded "pii", wordEdge],
  litFolded "gdpr",
  inOrder [litFolded "customer", many inLine, litFolded "data"],
  inOrder [litFolded "sensitive", many inLine, litFolded "data"]]

/-- Words of encryption. -/
def encryptionWords : List String :=
  ["encrypt", "decrypt", "tls", "ssl", "https", "certificate"]

/-- The issue of a pipeline without audit logs. -/
def auditLogging : Issue where
  title := "Missing audit logging"
  description := "No audit logging detected - required for compliance standards"
  severity := .warning
  category := .security
  ruleId := "missing-audit-logging"
  suggestion := "Implement comprehensive audit logging for compliance"
  exampleCode := "# Add logging steps\n- name: Audit log\n" ++
    "  run: echo \"Job started at $(date)\" >> audit.log"

/-- The issue of a pipeline that handles sensitive data. -/
def dataHandling : Issue where
  title := "Data handling detected"
  description := "Pipeline handles sensitive data - ensure compliance measures are in place"
  severity := .warning
  category := .security
  ruleId := "data-handling-compliance"
  suggestion :=
    "Implement data protection measures (encryption, access controls, retention policies)"

/-- The issue of a deployment without encryption. -/
def encryption : Issue where
  title := "Missing encryption configuration"
  description := "Deployment pipeline should use encryption for data in transit"
  severity := .warning
  category := .security
  ruleId := "missing-encryption"
  suggestion := "Ensure all communications use TLS/SSL encryption"

/-- The issues of a raw text. -/
def textIssues (source : Source) : List Issue :=
  let lowered := source.lowered
  (if Text.hasAny lowered ["log", "audit"] then [] else [auditLogging]) ++
  (if sensitiveData.any (·.occursIn source.text) then [dataHandling] else []) ++
  (if !Text.hasAny lowered encryptionWords && Text.has source.text "deploy" then [encryption]
    else [])

/-- Whether a job deploys to production. -/
def isProduction (job : Document) : Bool :=
  (Workflow.environment job).text?.any fun name =>
    Text.has (Text.lower name.toList) "prod"

/-- The suggestion to protect the production environment of a job. -/
def protection (job : String) : Optimization where
  title := "Add protection rules for production environment in job \"" ++ job ++ "\""
  description := "Production deployments should have approval requirements"
  impact := .high
  effort := .low
  category := .security
  suggestion := "Configure environment protection rules in GitHub repository settings"

/-- Whether a step keeps artifacts without a limit. -/
def keepsArtifacts (step : Document) : Bool :=
  (step.get "uses").text?.any (fun uses => Text.has uses.toList "upload-artifact") &&
    !(step.get "with").sets "retention-days"

/-- The suggestion to limit how long the artifacts of a job are kept. -/
def retention (job : String) : Optimization where
  title := "Add retention policy for artifacts in job \"" ++ job ++ "\""
  description := "Artifacts should have explicit retention policies for compliance"
  impact := .low
  effort := .low
  category := .security
  suggestion := "Set appropriate retention-days for artifacts"
  exampleCode := "with:\n  retention-days: 30"

/-- The suggestion for the environment of a job. -/
def protectionFindings (job : String × Document) : Findings :=
  .when (isProduction job.2) (.optimization (protection job.1))

/-- The suggestions for the artifacts of a job. -/
def retentionFindings (job : String × Document) : Findings :=
  .ofOptimizations (((Workflow.steps job.2).filter keepsArtifacts).map fun _ => retention job.1)

/-- The checks of a workflow. -/
def checkWorkflow (document : Document) : Outcome :=
  Workflow.eachJob document (fun job => .done (protectionFindings job)) ++
    Workflow.eachJob document fun job => .done (retentionFindings job)

end Compliance

namespace Rule

/-- The demands of compliance standards. -/
def complianceStandards : Rule where
  id := "compliance-standards"
  name := "Compliance Standards"
  description := "Checks compliance with industry standards (SOC2, GDPR, HIPAA, etc.)"
  category := .security
  level := .expert
  kind := "ComplianceRule"
  check document source :=
    .done (.ofIssues (Compliance.textIssues source)) ++
      .when (source.platform = "github-actions") (Compliance.checkWorkflow document)

end Rule

end PipelineAudit
