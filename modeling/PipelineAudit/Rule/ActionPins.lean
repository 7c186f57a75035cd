import PipelineAudit.Rule.Basic

/-!
# Pinned actions

A reference to an action is pinned if it names a version, beginning with `v`, or a commit of forty
hexadecimal digits.  Every other reference is reported, with the lines that hold it.
-/

namespace PipelineAudit

open Pattern

namespace ActionReference

/-- A character of the name of an action. -/
def isActionChar (c : Char) : Bool :=
  c ≠ '@' && !Text.isBlank c && c ≠ '\'' && c ≠ '"'

/-- A character of the version of an action. -/
def isVersionChar (c : Char) : Bool :=
  !Text.isBlank c && c ≠ '\'' && c ≠ '"'

/-- A step that uses an action at a version; keeps the action and the version. -/
def reference : Pattern :=
  inOrder [lit "uses:", many blank, optional (oneOfChars "'\""), group (many1 (one isActionChar)),
    lit "@", group (many1 (one isVersionChar))]

/-- A commit: forty small hexadecimal digits. -/
def commit : Pattern :=
  inOrder [textStart, times 40 (one fun c => c.isDigit || ('a' ≤ c && c ≤ 'f')), textEnd]

/-- Whether a version is fixed. -/
def isPinned (version : List Char) : Bool :=
  version ≠ "latest".toList && (Text.startsWith version "v" || commit.beginsIn version)

/-- The action and the version that a match of `reference` keeps. -/
def parts? (m : Match) : Option (List Char × List Char) :=
  match m.kept with
  | [action, version] => some (action, version)
  | _ => none

/-- The numbers of the lines that hold a text. -/
def linesHolding (source : Source) (text : List Char) : List Nat :=
  (source.numberedLines.filter fun l => Text.occursIn text l.2).map (·.1)

/-- The issue of an action whose version is not fixed. -/
def issue (source : Source) (action version : List Char) : Issue where
  title := "Unpinned action version: " ++ String.ofList action
  description := "Action is referenced by \"" ++ String.ofList version ++
    "\" rather than a pinned version"
  severity := .warning
  category := .security
  ruleId := "unpinned-action"
  suggestion := "Pin actions to specific versions or commit SHAs"
  lineNumbers := asLineNumbers (linesHolding source (action ++ '@' :: version))

/-- The issues of the references in a source. -/
def issues (source : Source) : List Issue :=
  ((reference.findAll source.text).filterMap parts?).filterMap fun (action, version) =>
    if isPinned version then none else some (issue source action version)

end ActionReference

namespace Rule

/-- References to actions whose version is not fixed. -/
def unpinnedActionVersions : Rule where
  id := "unpinned-action-versions"
  name := "Unpinned Action Versions"
  description := "Actions referenced by branch or floating tag instead of a release or commit"
  category := .security
  kind := "UnpinnedActionVersionsRule"
  check _ source := .done (.ofIssues (ActionReference.issues source))

end Rule

end PipelineAudit
