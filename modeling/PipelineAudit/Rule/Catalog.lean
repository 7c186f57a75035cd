import PipelineAudit.Rule.ActionPins
import PipelineAudit.Rule.AntiPatterns
import PipelineAudit.Rule.BuildShortcuts
import PipelineAudit.Rule.Caching
import PipelineAudit.Rule.Complexity
import PipelineAudit.Rule.Compliance
import PipelineAudit.Rule.Concurrency
import PipelineAudit.Rule.Documentation
import PipelineAudit.Rule.ExposedSecrets
import PipelineAudit.Rule.Naming
import PipelineAudit.Rule.Parallelism
import PipelineAudit.Rule.Permissions
import PipelineAudit.Rule.Resources
import PipelineAudit.Rule.Scanning
import PipelineAudit.Rule.ShellCommands
import PipelineAudit.Rule.Spending
import PipelineAudit.Rule.Variables

/-!
# The catalog

The default rules in the order in which they run, and views of a catalog by category, by level and
by platform.
-/

namespace PipelineAudit

/-- Rules in the order in which they run. -/
abbrev Catalog : Type := List Rule

namespace Catalog

/-- The default rules: security, best practice, performance, cost, maintainability. -/
def default : Catalog := [
  .hardcodedSecrets,
  .highEntropyStrings,
  .dangerousCommands,
  .filePermissions,
  .broadPermissions,
  .unpinnedActionVersions,
  .insecureEnvironmentVariables,
  .complianceStandards,
  .securityScanning,
  .commonAntiPatterns,
  .cachingOptimization,
  .buildOptimization,
  .parallelizationAnalysis,
  .resourceOptimization,
  .costOptimization,
  .concurrencyOptimization,
  .documentationStandards,
  .namingConventions,
  .complexityAnalysis]

/-- Groups with one more member: a new group comes last. -/
def addToGroup {κ α : Type} [DecidableEq κ] (key : κ) (a : α) :
    List (κ × List α) → List (κ × List α)
  | [] => [(key, [a])]
  | (k, members) :: rest =>
    if k = key then (k, members ++ [a]) :: rest else (k, members) :: addToGroup key a rest

/-- The groups of members with the same key, in the order of their first members. -/
def groupBy {κ α : Type} [DecidableEq κ] (key : α → κ) (members : List α) : List (κ × List α) :=
  members.foldl (fun groups a => addToGroup (key a) a groups) []

/-- The rules by category. -/
def byCategory (rules : Catalog) : List (Category × List Rule) :=
  groupBy Rule.category rules

/-- The rules by level. -/
def byLevel (rules : Catalog) : List (Level × List Rule) :=
  groupBy Rule.level rules

/-- The rules for a platform. -/
def forPlatform (rules : Catalog) (platform : String) : List Rule :=
  rules.filter (·.isFor platform)

/-- The rule of a given id. -/
def find? (rules : Catalog) (id : String) : Option Rule :=
  List.find? (·.id = id) rules

end Catalog

end PipelineAudit
