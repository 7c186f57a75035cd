import PipelineAudit.Platform.Bitbucket
import PipelineAudit.Platform.GitHub
import PipelineAudit.Platform.GitLab

/-!
# Platforms

The platforms whose configurations can be checked.
-/

namespace PipelineAudit.PlatformChecks

/-- The checks of all platforms, given how many lists of steps may be nested in a section of
Bitbucket. -/
def all (limit : Document → Nat) : List PlatformChecks :=
  [gitHub, gitLab, bitbucket limit]

/-- The checks of a platform. -/
def of? (platform : String) : Option PlatformChecks :=
  (all Bitbucket.deepest).find? (·.platform = platform)

/-- The platforms that can be checked. -/
def supported : List String :=
  (all Bitbucket.deepest).map (·.platform)

end PipelineAudit.PlatformChecks
