import PipelineAudit.Rule.Basic

/-!
# Permissions

Workflows that may write everywhere, and the use of `sudo`.
-/

namespace PipelineAudit

open Pattern

/-- Whether a document is a given text. -/
def Document.isText (name : String) (d : Document) : Bool :=
  d.text? = some name

/-- Whether permissions let everything, or some scope, be written. -/
def grantsWrite (permissions : Document) : Bool :=
  permissions.isText "write-all" || permissions.values.any (·.isText "write")

namespace Rule

/-- The issue of a workflow that may write more than it needs. -/
def broadPermissionsIssue : Issue where
  title := "Overly broad permissions"
  description := "Workflow has broad write permissions which may be unnecessary"
  severity := .warning
  category := .security
  ruleId := "broad-permissions"
  suggestion := "Use minimal required permissions following the principle of least privilege"
  exampleCode := "permissions:\n  contents: read\n  pull-requests: write"

/-- The word `sudo`. -/
def sudoWord : Pattern :=
  inOrder [wordEdge, lit "sudo", wordEdge]

/-- The issue of the lines that use `sudo`. -/
def sudoIssue (lines : List Nat) : Issue where
  title := "Sudo usage detected"
  description := "Using sudo in CI/CD can be a security risk"
  severity := .warning
  category := .security
  ruleId := "sudo-usage"
  suggestion := "Consider using rootless containers or specific user permissions"
  lineNumbers := asLineNumbers lines

/-- Broad permissions and the use of `sudo`. -/
def broadPermissions : Rule where
  id := "broad-permissions"
  name := "Broad Permissions"
  description := "Flags workflow-wide write permissions and sudo usage"
  category := .security
  kind := "BroadPermissionsRule"
  check document source :=
    let sudoLines := source.linesWith sudoWord
    .done (.ofIssues (
      (if grantsWrite (document.get "permissions") then [broadPermissionsIssue] else []) ++
      (if sudoLines.isEmpty then [] else [sudoIssue sudoLines])))

end Rule

end PipelineAudit
