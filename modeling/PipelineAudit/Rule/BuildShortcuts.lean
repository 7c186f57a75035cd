import PipelineAudit.Rule.Basic

/-!
# Build shortcuts

Commands that have a faster equivalent.
-/

namespace PipelineAudit

open Pattern

/-- A command with a faster equivalent. -/
structure BuildShortcut where
  pattern : Pattern
  title : String
  suggestion : String

namespace BuildShortcut

/-- The commands with a faster equivalent. -/
def all : List BuildShortcut := [
  { pattern := seq (lit "npm install") (notAhead (seq (many1 blank) (lit "--production")))
    title := "Use npm ci for faster installs"
    suggestion := "Replace 'npm install' with 'npm ci' in CI environments" },
  { pattern := seq (lit "docker build") (notAhead (seq (many inLine) (lit "--cache-from")))
    title := "Use Docker build cache"
    suggestion := "Add --cache-from flag to Docker build commands" },
  { pattern := seq (lit "git clone") (notAhead (seq (many inLine) (lit "--depth")))
    title := "Use shallow git clone"
    suggestion := "Add --depth=1 to git clone for faster checkouts" }]

/-- The suggestion for the lines that hold the command, if there are any. -/
def optimization? (b : BuildShortcut) (source : Source) : Option Optimization :=
  let lines := source.linesWith b.pattern
  if lines.isEmpty then none
  else
    some
      { title := b.title
        description := "Detected opportunity for build optimization"
        impact := .medium
        effort := .low
        category := .performance
        suggestion := b.suggestion
        lineNumbers := asLineNumbers lines }

end BuildShortcut

namespace Rule

/-- Commands with a faster equivalent. -/
def buildOptimization : Rule where
  id := "build-optimization"
  name := "Build Optimization"
  description := "Faster equivalents for common install, image and clone commands"
  category := .performance
  severity := .info
  level := .intermediate
  kind := "BuildOptimizationRule"
  check _ source :=
    .done (.ofOptimizations (BuildShortcut.all.filterMap (·.optimization? source)))

end Rule

end PipelineAudit
