import PipelineAudit.Rule.Jobs

/-!
# Caching

Installing dependencies without a cache, cache keys that never change, and cache steps without keys
to fall back on.
-/

namespace PipelineAudit

open Pattern

/-- A command that installs dependencies, and what to cache for it. -/
structure DependencyCommand where
  command : String
  cache : String
  path : String
  lockFile : String

namespace DependencyCommand

/-- The commands that install dependencies. -/
def all : List DependencyCommand := [
  ⟨"npm install", "npm", "~/.npm", "package-lock.json"⟩,
  ⟨"npm ci", "npm", "~/.npm", "package-lock.json"⟩,
  ⟨"yarn install", "yarn", "~/.cache/yarn", "yarn.lock"⟩,
  ⟨"pnpm install", "pnpm", "~/.pnpm-store", "pnpm-lock.yaml"⟩,
  ⟨"pip install", "pip", "~/.cache/pip", "requirements.txt"⟩,
  ⟨"poetry install", "poetry", "~/.cache/pypoetry", "poetry.lock"⟩,
  ⟨"composer install", "composer", "~/.composer/cache", "composer.lock"⟩,
  ⟨"bundle install", "bundler", "vendor/bundle", "Gemfile.lock"⟩,
  ⟨"go mod download", "go", "~/go/pkg/mod", "go.sum"⟩,
  ⟨"cargo build", "cargo", "~/.cargo", "Cargo.lock"⟩,
  ⟨"mvn", "maven", "~/.m2", "pom.xml"⟩,
  ⟨"gradle", "gradle", "~/.gradle", "gradle.lock"⟩,
  ⟨"dotnet restore", "nuget", "~/.nuget/packages", "packages.lock.json"⟩]

/-- The command with a given number, counted from zero, or from the end below zero. -/
def at? (i : Int) : Option DependencyCommand :=
  if 0 ≤ i then all[i.toNat]? else all.reverse[(-1 - i).toNat]?

/-- An example of a cache, in the language of a platform. -/
def cacheExample (d : DependencyCommand) (platform : String) : String :=
  if platform = "github-actions" then
    "- uses: actions/cache@v4\n  with:\n    path: " ++ d.path ++
      "\n    key: $\x7b\x7b runner.os \x7d\x7d-" ++ d.cache ++ "-$\x7b\x7b hashFiles('**/" ++
      d.lockFile ++ "') \x7d\x7d\n    restore-keys: |\n      $\x7b\x7b runner.os \x7d\x7d-" ++
      d.cache ++ "-"
  else if platform = "gitlab-ci" then
    "cache:\n  key: $CI_COMMIT_REF_SLUG\n  paths:\n    - " ++ d.path
  else if platform = "bitbucket-pipelines" then
    "caches:\n  - " ++ d.cache
  else
    "# Add " ++ d.cache ++ " caching configuration for " ++ platform

/-- The suggestion to cache what a command installs. -/
def suggestion (d : DependencyCommand) (platform : String) : Optimization where
  title := "Add " ++ d.cache ++ " caching"
  description := "Detected " ++ d.command ++
    " without caching - this can significantly slow down builds"
  impact := .high
  effort := .low
  category := .performance
  suggestion := "Add caching for " ++ d.cache ++ " dependencies to improve build performance"
  exampleCode := some (d.cacheExample platform)

end DependencyCommand

namespace Caching

/-- A space or a tab. -/
def space : Pattern := oneOfChars " \t"

/-- A line that sets a key, possibly as an item of a list; keeps the value. -/
def keyLine : Pattern :=
  inOrder [lineStart, many space, optional (seq (lit "-") (many space)), lit "key:", many space,
    group (seq ink (many inLine)), lineEnd]

/-- Whether a key changes with files or commits. -/
def isDynamic (key : List Char) : Bool :=
  Text.hasAny key ["hashFiles", "$\x7b\x7b", "$CI_"]

/-- The issue of a key that never changes, on a line. -/
def staticKeyIssue (line : Nat) : Issue where
  title := "Static cache key detected"
  description := "Cache key should include file hashes to ensure proper cache invalidation"
  severity := .warning
  category := .performance
  ruleId := "static-cache-key"
  suggestion := "Use hashFiles() function or commit SHA in cache keys"
  exampleCode :=
    "key: $\x7b\x7b runner.os \x7d\x7d-deps-$\x7b\x7b hashFiles('**/package-lock.json') \x7d\x7d"
  line := some line

/-- The number of the line on which a place lies, given by the characters before it. -/
def lineOf (text : List Char) (start : Nat) : Nat :=
  (text.take start).count '\n' + 1

/-- The issues of the keys in a text that never change. -/
def staticKeys (text : List Char) : List Issue :=
  ((keyLine.findAll text).filter fun m =>
      !(m.kept.head?.any fun key => isDynamic (Text.trim key))).map
    fun m => staticKeyIssue (lineOf text m.start)

/-- Whether a step caches without keys to fall back on. -/
def lacksRestoreKeys (step : Document) : Bool :=
  (step.get "uses").text?.any (fun uses => Text.has uses.toList "cache") &&
    !(step.get "with").sets "restore-keys"

/-- The suggestion of keys to fall back on. -/
def restoreKeys (job : String) : Optimization where
  title := "Add restore-keys to cache in job \"" ++ job ++ "\""
  description := "Cache step missing restore-keys for fallback cache restoration"
  impact := .medium
  effort := .low
  category := .performance
  suggestion := "Add restore-keys to improve cache hit rates"
  exampleCode := "restore-keys: |\n    $\x7b\x7b runner.os \x7d\x7d-deps-"

/-- The suggestions for the cache steps of a job. -/
def restoreSuggestions (job : String × Document) : List Optimization :=
  ((Workflow.steps job.2).filter lacksRestoreKeys).map fun _ => restoreKeys job.1

/-- The suggestions to cache what the commands of a text install. -/
def cacheSuggestions (lowered : List Char) (platform : String) : List Optimization :=
  (DependencyCommand.all.filter fun d => Text.has lowered d.command).map
    fun d => d.suggestion platform

/-- The findings on the raw text: its keys if it mentions a cache, and its commands otherwise. -/
def textFindings (source : Source) : Findings :=
  let lowered := source.lowered
  if Text.has lowered "cache" then .ofIssues (staticKeys source.text)
  else .ofOptimizations (cacheSuggestions lowered source.platform)

/-- The check of the cache steps of a workflow. -/
def checkSteps (document : Document) : Outcome :=
  Workflow.eachJob document fun job => .done (.ofOptimizations (restoreSuggestions job))

end Caching

namespace Rule

/-- Caches that are missing, and caches that miss. -/
def cachingOptimization : Rule where
  id := "caching-optimization"
  name := "Caching Optimization"
  description := "Analyzes and suggests caching improvements"
  category := .performance
  severity := .info
  level := .intermediate
  kind := "CachingRule"
  check document source :=
    .done (Caching.textFindings source) ++
      .when (source.platform = "github-actions") (Caching.checkSteps document)

end Rule

end PipelineAudit
