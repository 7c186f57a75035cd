import PipelineAudit.Rule.Catalog

/-!
# Running rules

A catalog is run at a strictness and without the categories to skip.  All rules report into the
same findings.  A run goes through the catalog once: a rule that is filtered out leaves the findings
as they are, and any other rule adds what it reports, and one more issue if it fails.  The findings
of a run are those that the rules contribute, one after the other.

Custom rules report into the same findings after the others, one after the other.  Each adds all of
its issues, or a single issue if it fails or returns anything that is no list of issues.
-/

namespace PipelineAudit

/-- Which levels of rules run: all of them, or those up to a level. -/
inductive Strictness where
  | everything
  | upTo (level : Level)
  deriving DecidableEq, Repr

namespace Strictness

/-- Whether rules of a level run. -/
def allows : Strictness → Level → Bool
  | everything, _ => true
  | upTo target, level => level.rank ≤ target.rank

/-- The strictness of a given name: `all`, or the name of a level. -/
def ofName? (name : String) : Option Strictness :=
  if name = "all" then some everything else (Level.ofName? name).map upTo

end Strictness

/-- The complaint about a name that is the name of no level. -/
structure UnknownLevel where
  name : String
  deriving DecidableEq, Repr

/-- The complaint in words. -/
def UnknownLevel.message (e : UnknownLevel) : String :=
  Text.quote e.name ++ " is not a valid RuleLevel"

/-- The issue that stands for a rule that failed. -/
def ruleErrorIssue (id title error : String) : Issue where
  title := title
  description := "Error executing rule: " ++ error
  severity := .error
  category := .linting
  ruleId := some ("rule-error-" ++ id)
  fixable := false

namespace Rule

/-- Whether a rule runs on a platform, at a strictness, without the categories to skip. -/
def applies (r : Rule) (platform : String) (strictness : Strictness) (skipped : List Category) :
    Bool :=
  r.isFor platform && strictness.allows r.level && !skipped.contains r.category

/-- The issue that a rule adds if it failed. -/
def failureFindings (r : Rule) : Option Failure → Findings
  | none => .none
  | some f => .issue (ruleErrorIssue r.id ("Rule execution error: " ++ r.name) f.text)

/-- What a rule contributes: what it reports, and an issue if it fails. -/
def contribution (r : Rule) (document : Document) (source : Source) : Findings :=
  let outcome := r.check document source
  outcome.findings ++ r.failureFindings outcome.failure

/-- The findings so far, after the rule has reported into them and perhaps failed. -/
def reportInto (r : Rule) (document : Document) (source : Source) (found : Findings) : Findings :=
  let outcome := r.check document source
  let reported := found ++ outcome.findings
  reported ++ r.failureFindings outcome.failure

theorem reportInto_eq (r : Rule) (document : Document) (source : Source) (found : Findings) :
  r.reportInto document source found = found ++ r.contribution document source
  := Findings.append_assoc _ _ _

end Rule

namespace Catalog

/-- One round of a run: the findings so far, after the next rule of the catalog. -/
def round (document : Document) (source : Source) (strictness : Strictness)
    (skipped : List Category) (found : Findings) (r : Rule) : Findings :=
  if !r.isFor source.platform then found
  else if !strictness.allows r.level then found
  else if skipped.contains r.category then found
  else r.reportInto document source found

/-- The findings of a run through a catalog. -/
def execute (rules : Catalog) (document : Document) (source : Source)
    (strictness : Strictness) (skipped : List Category) : Findings :=
  rules.foldl (round document source strictness skipped) .none

section

variable (document : Document) (source : Source) (strictness : Strictness)
  (skipped : List Category)

/-- A round keeps what was found and adds what the rule contributes, if it applies. -/
theorem round_eq (found : Findings) (r : Rule) :
  round document source strictness skipped found r =
    found ++ .when (r.applies source.platform strictness skipped) (r.contribution document source)
  := by
  rw [round, Rule.applies]
  cases r.isFor source.platform with
  | false => simp
  | true =>
    cases strictness.allows r.level with
    | false => simp
    | true =>
      cases skipped.contains r.category with
      | true => simp
      | false => simp [Rule.reportInto_eq]

/-- A run that starts with some findings adds the contributions of the rules that apply. -/
theorem foldl_round (rules : Catalog) (found : Findings) :
  rules.foldl (round document source strictness skipped) found =
    found ++ .concat ((rules.filter (·.applies source.platform strictness skipped)).map
      (·.contribution document source))
  := by
  induction rules generalizing found with
  | nil => simp [Findings.concat]
  | cons r rest ih =>
    rw [List.foldl_cons, ih, round_eq, Findings.append_assoc]
    cases h : r.applies source.platform strictness skipped with
    | false => simp [h]
    | true => simp [h, Findings.concat]

/-- A run finds what the rules that apply contribute, one after the other. -/
theorem execute_eq (rules : Catalog) :
  rules.execute document source strictness skipped =
    .concat ((rules.filter (·.applies source.platform strictness skipped)).map
      (·.contribution document source))
  := by
  rw [execute, foldl_round, Findings.none_append]

/-- A run of two catalogs together finds what the two runs find. -/
theorem execute_append (rules rules' : Catalog) :
  execute (rules ++ rules') document source strictness skipped =
    rules.execute document source strictness skipped ++
      rules'.execute document source strictness skipped
  := by
  simp [execute_eq]

end

/-- A run at a strictness given by name.  A name of no strictness is only noticed when a rule for
the platform is reached. -/
def executeNamed (rules : Catalog) (document : Document) (source : Source) (name : String)
    (skipped : List Category) : Except UnknownLevel Findings :=
  match Strictness.ofName? name with
  | some strictness => .ok (rules.execute document source strictness skipped)
  | none =>
    if (rules.forPlatform source.platform).isEmpty then .ok .none else .error ⟨name⟩

end Catalog

/-! ### Custom rules -/

/-- How many errors an object or value has as an issue, in words. -/
def validationSummary (count : Nat) : String :=
  toString count ++ (if count = 1 then " validation error for Issue"
    else " validation errors for Issue")

namespace CustomItem

/-- The issue that an item is, or what is wrong with it. -/
def toIssue : CustomItem → Except String Issue
  | issue i => .ok i
  | json (.object fields) =>
    (Issue.ofFields fields).toExcept.mapError fun errors => validationSummary errors.length
  | json _ => .error (validationSummary 1)
  | other reading => reading

end CustomItem

namespace CustomRule

/-- The issues that a custom rule returns, or what is wrong with it. -/
def produce (r : CustomRule) (document : Document) (text platform : String) :
    Except String (List Issue) :=
  match r.check document text platform with
  | .error failure => .error failure.text
  | .ok (.other kind) => .error ("custom rule must return a list of issues, got " ++ kind)
  | .ok (.items list) => list.mapM CustomItem.toIssue

/-- The issue that stands for a custom rule that failed. -/
def errorIssue (r : CustomRule) (error : String) : Issue :=
  ruleErrorIssue r.id ("Custom rule error: " ++ r.name) error

/-- The issues that a custom rule contributes. -/
def contribution (r : CustomRule) (document : Document) (text platform : String) : List Issue :=
  match r.produce document text platform with
  | .ok issues => issues
  | .error error => [r.errorIssue error]

/-- The issues that custom rules contribute, one after the other. -/
def runAll (rules : List CustomRule) (document : Document) (text platform : String) :
    List Issue :=
  rules.flatMap (·.contribution document text platform)

/-- The findings so far, after the custom rule has reported into them or failed. -/
def reportInto (r : CustomRule) (document : Document) (text platform : String)
    (found : Findings) : Findings :=
  match r.produce document text platform with
  | .ok issues => { found with issues := found.issues ++ issues }
  | .error error => { found with issues := found.issues ++ [r.errorIssue error] }

/-- The findings so far, after custom rules have reported into them, one after the other. -/
def runInto (rules : List CustomRule) (document : Document) (text platform : String)
    (found : Findings) : Findings :=
  rules.foldl (fun found r => r.reportInto document text platform found) found

section

variable (document : Document) (text platform : String)

/-- A custom rule keeps what was found and adds the issues that it contributes. -/
theorem reportInto_eq (r : CustomRule) (found : Findings) :
  r.reportInto document text platform found =
    found ++ .ofIssues (r.contribution document text platform)
  := by
  rw [reportInto, contribution]
  cases r.produce document text platform with
  | ok issues => ext1 <;> simp [Findings.ofIssues]
  | error error => ext1 <;> simp [Findings.ofIssues]

/-- Custom rules keep what was found and add the issues that they contribute. -/
theorem runInto_eq (rules : List CustomRule) (found : Findings) :
  runInto rules document text platform found =
    found ++ .ofIssues (runAll rules document text platform)
  := by
  induction rules generalizing found with
  | nil => exact (Findings.append_none found).symm
  | cons r rest ih =>
    rw [runInto, List.foldl_cons, ← runInto, ih, reportInto_eq, Findings.append_assoc]
    rfl

end

end CustomRule

end PipelineAudit
