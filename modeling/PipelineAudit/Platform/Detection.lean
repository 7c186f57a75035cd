import PipelineAudit.Document.Access
import PipelineAudit.Text.Basic
import PipelineAudit.Text.Case

/-!
# Detecting the platform

The platform of a configuration is guessed from the name of its file and from its top-level keys;
the keys win.  Each guess leaves an indicator.
-/

namespace PipelineAudit

/-- A guess of the platform, how sure it is, and what led to it. -/
structure Detection where
  platform : String
  confidence : Rat
  indicators : List String
  deriving DecidableEq

namespace Detection

/-- The platform that could not be guessed. -/
def unknownPlatform : String := "unknown"

/-- How sure a guess from the name of a file is. -/
def filenameConfidence : Rat := 4 / 5

/-- The platform and the indicator that the name of a file suggests. -/
def ofFilename? (filename : List Char) : Option (String × String) :=
  let name := (Text.lower filename).map fun c => if c = '\\' then '/' else c
  let base := String.ofList (Text.afterLast '/' name)
  let has := Text.has name
  if has ".github/workflows/" || has "workflow" then
    some ("github-actions", "github-workflow-path")
  else if base = ".gitlab-ci.yml" || has "gitlab" then
    some ("gitlab-ci", "gitlab-filename")
  else if base = "bitbucket-pipelines.yml" then
    some ("bitbucket-pipelines", "bitbucket-filename")
  else if base = "azure-pipelines.yml" || has "azure" then
    some ("azure-pipelines", "azure-filename")
  else if has ".circleci/config.yml" then
    some ("circleci", "circleci-path")
  else if base = "jenkinsfile" || has "jenkins" then
    some ("jenkins", "jenkins-filename")
  else none

/-- Whether a document is a number; truth values are none. -/
def isNumber : Document → Bool
  | .scalar (.int _) => true
  | .scalar (.float _) => true
  | _ => false

/-- The platform, the indicator and the confidence that the top-level keys suggest. -/
def ofStructure? (root : Document) : Option (String × String × Rat) :=
  if (root.sets "on" || root.getTrue?.any Document.truthy) && root.sets "jobs" then
    some ("github-actions", "github-actions-structure", 9 / 10)
  else if root.sets "pipelines" then
    some ("bitbucket-pipelines", "bitbucket-pipelines-structure", 9 / 10)
  else if ["stages", "before_script", "after_script", "script"].any root.sets then
    some ("gitlab-ci", "gitlab-ci-structure", 7 / 10)
  else if root.sets "trigger" || root.sets "pool" || (root.sets "variables" && root.sets "jobs")
  then
    some ("azure-pipelines", "azure-devops-structure", 3 / 5)
  else if isNumber (root.get "version") && root.sets "jobs" then
    some ("circleci", "circleci-structure", 7 / 10)
  else if root.sets "pipeline" || root.sets "agent" then
    some ("jenkins", "jenkins-structure", 1 / 2)
  else none

/-- The guess from the name of a file. -/
def fromFilename (filename : Option String) : Detection :=
  match (filename.filter (!·.isEmpty)).bind fun name => ofFilename? name.toList with
  | some (platform, indicator) => ⟨platform, filenameConfidence, [indicator]⟩
  | none => ⟨unknownPlatform, 0, []⟩

/-- The guess from a document and the name of its file. -/
def detect (document : Document) (filename : Option String) : Detection :=
  let hint := fromFilename filename
  match ofStructure? document with
  | some (platform, indicator, confidence) =>
    ⟨platform, if hint.confidence < confidence then confidence else hint.confidence,
      hint.indicators ++ [indicator]⟩
  | none => hint

end Detection

end PipelineAudit
