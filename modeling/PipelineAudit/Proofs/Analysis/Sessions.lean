import PipelineAudit.Proofs.Analysis.Monotonicity
import PipelineAudit.Session

/-!
# Sessions only add

The steps of a session keep its findings and add to them at the end, whatever they are and in
whatever order they come.  `Findings.Begins` says that each list of some findings is what the same
list of others begins with, and `SessionStep.Rejected` that the fields of a step make no finding.

* `SessionStep.begins_apply`: a step keeps what was found.
* `Findings.afterSteps_begins`: so does a session, step by step.
* `SessionStep.apply_of_rejected`: fields that make no finding change nothing and leave errors.
* `Score.overall_perm`, `Score.recommendations_perm`: only the numbers of findings count, not their
  order.
* `Findings.afterSteps_appendOnly`: what a session keeps, step after step.
-/

namespace PipelineAudit

/-! ### Findings that begin with others -/

namespace Findings

/-- Each list of `found'` begins with the same list of `found`. -/
structure Begins (found found' : Findings) : Prop where
  issues : found.issues <+: found'.issues
  optimizations : found.optimizations <+: found'.optimizations
  vulnerabilities : found.vulnerabilities <+: found'.vulnerabilities

theorem Begins.refl (found : Findings) :
  found.Begins found
  := ⟨List.prefix_refl _, List.prefix_refl _, List.prefix_refl _⟩

theorem Begins.trans {a b c : Findings} (h : a.Begins b) (k : b.Begins c) :
  a.Begins c
  := by
  constructor
  · apply h.issues.trans k.issues
  · apply h.optimizations.trans k.optimizations
  · apply h.vulnerabilities.trans k.vulnerabilities

theorem Begins.within {found found' : Findings} (h : found.Begins found') :
  found.Within found'
  := ⟨h.issues.sublist, h.optimizations.sublist, h.vulnerabilities.sublist⟩

/-- Findings are what they begin with after more is appended. -/
theorem begins_append (a b : Findings) :
  a.Begins (a ++ b)
  := ⟨List.prefix_append _ _, List.prefix_append _ _, List.prefix_append _ _⟩

end Findings

namespace SessionStep

open Findings

theorem begins_addChecked {α : Type} (found : Findings) (wrap : α → Findings) (c : Checked α) :
  found.Begins (addChecked found wrap c).findings
  := by
  cases c with
  | valid a => exact begins_append found _
  | invalid errors => exact .refl found

/-- A step keeps what was found, and adds at the end. -/
theorem begins_apply (s : Subject) (found : Findings) (step : SessionStep) :
  found.Begins (step.apply s found).findings
  := by
  cases step with
  | issue fields => exact begins_addChecked found _ _
  | optimization fields => exact begins_addChecked found _ _
  | vulnerability fields => exact begins_addChecked found _ _
  | rule r => exact begins_append found _
  | validate =>
    rw [apply, Analysis.validateInput_eq]
    exact begins_append found _
  | platform =>
    rw [apply]
    cases hc : PlatformChecks.of? s.platform with
    | none => exact .refl found
    | some checks =>
      have hadds := PlatformChecks.adding_of_mem_all (PlatformChecks.of?_eq_some hc).1 s.document
      dsimp only
      rw [hadds.analyzeInto found]
      exact begins_append found _
  | custom r =>
    rw [apply, CustomRule.reportInto_eq]
    exact begins_append found _
  | execute rules => exact begins_append found _

end SessionStep

namespace Findings

/-- What a session found is what its findings begin with after any further steps. -/
theorem afterSteps_begins (s : Subject) (found : Findings) (steps : List SessionStep) :
  found.Begins (found.afterSteps s steps)
  := by
  induction steps generalizing found with
  | nil => exact .refl found
  | cons step rest ih => exact (step.begins_apply s found).trans (ih _)

/-- A session goes on from what it found so far. -/
theorem afterSteps_append (s : Subject) (found : Findings) (steps later : List SessionStep) :
  found.afterSteps s (steps ++ later) = (found.afterSteps s steps).afterSteps s later
  := by
  induction steps generalizing found with
  | nil => rfl
  | cons step rest ih => exact ih _

/-- A run of a catalog on its own, added to the findings of a session, leaves what its rules would
leave that report into these findings. -/
theorem afterSteps_execute (s : Subject) (found : Findings) (rules : Catalog) :
  found.afterSteps s [.execute rules] =
    rules.foldl (Catalog.round s.document s.source (.upTo s.config.level) s.config.skipped) found
  := by
  rw [Catalog.foldl_round, ← Catalog.execute_eq]
  rfl

end Findings

/-! ### Fields that make no finding -/

namespace Checked

variable {α β : Type}

/-- If a value is refused, something is wrong with it. -/
def Explained (c : Checked α) : Prop :=
  ∀ errors, c = invalid errors → errors ≠ []

theorem Explained.valid (a : α) :
  (valid a).Explained
  := by
  intro errors h
  cases h

theorem Explained.problem (p : FieldProblem) :
  (problem p : Checked α).Explained
  := by
  intro errors h
  cases h
  exact List.cons_ne_nil _ _

theorem Explained.map {c : Checked α} (h : c.Explained) (f : α → β) :
  (c.map f).Explained
  := by
  cases c with
  | valid a => exact .valid (f a)
  | invalid e =>
    rintro errors ⟨⟩
    exact h e rfl

theorem Explained.within {c : Checked α} (h : c.Explained) (step : FieldStep) :
  (c.within step).Explained
  := by
  cases c with
  | valid a => exact .valid a
  | invalid e =>
    rintro errors ⟨⟩
    simpa using h e rfl

theorem Explained.ap {f : Checked (α → β)} {c : Checked α} (hf : f.Explained)
    (hc : c.Explained) :
  (f.ap c).Explained
  := by
  cases f with
  | valid f =>
    cases c with
    | valid a => exact .valid (f a)
    | invalid e =>
      rintro errors ⟨⟩
      exact hc e rfl
  | invalid e =>
    cases c with
    | valid a =>
      rintro errors ⟨⟩
      exact hf e rfl
    | invalid e' =>
      rintro errors ⟨⟩
      exact List.append_ne_nil_of_left_ne_nil (hf e rfl) e'

theorem Explained.each {read : Json → Checked α} (h : ∀ x, (read x).Explained) (n : Nat)
    (items : List Json) :
  (each read n items).Explained
  := by
  induction items generalizing n with
  | nil => exact .valid []
  | cons x rest ih => exact (((h x).within _).map _).ap (ih _)

end Checked

namespace Field

open Checked

variable {α : Type}

theorem text_explained (x : Json) :
  (text x).Explained
  := by
  cases x with
  | text s => exact .valid s
  | _ => exact .problem _

theorem named_explained (values : List α) (name : α → String) (x : Json) :
  (named values name x).Explained
  := by
  cases x with
  | text s =>
    rw [named]
    split
    · exact .valid _
    · exact .problem _
  | _ => exact .problem _

theorem integer_explained (x : Json) :
  (integer x).Explained
  := by
  rw [integer.eq_def]
  split
  · exact .valid _
  · exact .valid _
  · split
    · exact .problem _
    · split
      · exact .valid _
      · exact .problem _
  · split
    · exact .valid _
    · exact .problem _
  · exact .problem _

theorem integers_explained (x : Json) :
  (integers x).Explained
  := by
  cases x with
  | list items => exact .each integer_explained 0 items
  | _ => exact .problem _

theorem truthOfInteger_explained (n : Int) :
  (truthOfInteger n).Explained
  := by
  rw [truthOfInteger]
  split
  · exact .valid _
  · split
    · exact .valid _
    · exact .problem _

theorem truth_explained (x : Json) :
  (truth x).Explained
  := by
  rw [truth.eq_def]
  split
  · exact .valid _
  · apply truthOfInteger_explained
  · split
    · split
      · apply truthOfInteger_explained
      · exact .problem _
    · exact .problem _
  · dsimp only
    split
    · exact .valid _
    · split
      · exact .valid _
      · exact .problem _
  · exact .problem _

theorem number_explained (x : Json) :
  (number x).Explained
  := by
  rw [number.eq_def]
  split
  · exact .valid _
  · exact .valid _
  · exact .valid _
  · split
    · exact .valid _
    · exact .problem _
  · exact .problem _

theorem numberWithin_explained (low high : Rat) (x : Json) :
  (numberWithin low high x).Explained
  := by
  rw [numberWithin]
  split
  · split
    · exact .problem _
    · split
      · exact .problem _
      · exact .valid _
  · exact number_explained x

theorem required_explained {read : Json → Checked α} (h : ∀ x, (read x).Explained)
    (name : String) (fields : Fields) :
  (required read name fields).Explained
  := by
  rw [required]
  split
  · exact (h _).within _
  · exact (Explained.problem _).within _

theorem nullable_explained {read : Json → Checked α} (h : ∀ x, (read x).Explained)
    (name : String) (fields : Fields) :
  (nullable read name fields).Explained
  := by
  rw [nullable]
  split
  · exact .valid none
  · exact ((h _).within _).map _
  · exact .valid none

end Field

open PipelineAudit.Field in
theorem Issue.ofFields_explained (fields : Fields) :
  (Issue.ofFields fields).Explained
  := by
  have ht := fun name => required_explained text_explained name fields
  have hn := fun name => nullable_explained text_explained name fields
  have hs := required_explained (named_explained Severity.all Severity.name) "severity" fields
  have hc := required_explained (named_explained Category.all Category.name) "category" fields
  have hf := nullable_explained truth_explained "fixable" fields
  have hl := nullable_explained integer_explained "line" fields
  have hls := nullable_explained integers_explained "line_numbers" fields
  exact ((ht "title").map _).ap (ht "description") |>.ap hs |>.ap hc |>.ap (hn "rule_id")
    |>.ap (hn "suggestion") |>.ap (hn "example_code") |>.ap hf |>.ap hl |>.ap hls
    |>.ap (hn "estimated_fix_time") |>.ap (hn "impact") |>.ap (hn "documentation_url")

open PipelineAudit.Field in
theorem Optimization.ofFields_explained (fields : Fields) :
  (Optimization.ofFields fields).Explained
  := by
  have ht := fun name => required_explained text_explained name fields
  have hi := fun name => required_explained (named_explained Impact.all Impact.name) name fields
  have hc := required_explained (named_explained Category.all Category.name) "category" fields
  have hn := nullable_explained text_explained "example_code" fields
  have hls := nullable_explained integers_explained "line_numbers" fields
  exact ((ht "title").map _).ap (ht "description") |>.ap (hi "impact") |>.ap (hi "effort")
    |>.ap hc |>.ap (ht "suggestion") |>.ap hn |>.ap hls

open PipelineAudit.Field in
theorem Vulnerability.ofFields_explained (fields : Fields) :
  (Vulnerability.ofFields fields).Explained
  := by
  have ht := fun name => required_explained text_explained name fields
  have hs := required_explained (named_explained Threat.all Threat.name) "severity" fields
  have hl := nullable_explained integer_explained "line" fields
  have hc := nullable_explained text_explained "cve" fields
  have hv := nullable_explained (numberWithin_explained 0 10) "cvss_score" fields
  exact ((ht "title").map _).ap (ht "description") |>.ap hs |>.ap (ht "recommendation")
    |>.ap hl |>.ap hc |>.ap hv

namespace SessionStep

/-- The fields of a step make no finding. -/
def Rejected : SessionStep → Prop
  | issue fields => ∀ i, Issue.ofFields fields ≠ .valid i
  | optimization fields => ∀ o, Optimization.ofFields fields ≠ .valid o
  | vulnerability fields => ∀ v, Vulnerability.ofFields fields ≠ .valid v
  | _ => False

theorem addChecked_of_rejected {α : Type} {c : Checked α} (h : ∀ a, c ≠ .valid a)
    (hc : c.Explained) (found : Findings) (wrap : α → Findings) :
  (addChecked found wrap c).findings = found ∧ (addChecked found wrap c).errors ≠ []
  := by
  cases c with
  | valid a => exact absurd rfl (h a)
  | invalid errors => exact ⟨rfl, hc errors rfl⟩

/-- Fields that make no finding change nothing and leave errors. -/
theorem apply_of_rejected (s : Subject) (found : Findings) {step : SessionStep}
    (h : step.Rejected) :
  (step.apply s found).findings = found ∧ (step.apply s found).errors ≠ []
  := by
  cases step with
  | issue fields => exact addChecked_of_rejected h (Issue.ofFields_explained fields) _ _
  | optimization fields =>
    exact addChecked_of_rejected h (Optimization.ofFields_explained fields) _ _
  | vulnerability fields =>
    exact addChecked_of_rejected h (Vulnerability.ofFields_explained fields) _ _
  | _ => exact h.elim

end SessionStep

/-! ### Scores, whatever the order -/

namespace Score

theorem overall_perm {issues issues' : List Issue} (hi : issues.Perm issues')
    {vulnerabilities vulnerabilities' : List Vulnerability}
    (hv : vulnerabilities.Perm vulnerabilities') :
  overall issues vulnerabilities = overall issues' vulnerabilities'
  := by
  rw [overall, overall, total_eq_of_perm (hi.map _), total_eq_of_perm (hv.map _)]

theorem recommendations_perm {issues issues' : List Issue} (hi : issues.Perm issues')
    {optimizations optimizations' : List Optimization} (ho : optimizations.Perm optimizations') :
  recommendations issues optimizations = recommendations issues' optimizations'
  := by
  rw [recommendations, recommendations, hi.countP_eq, hi.countP_eq, hi.countP_eq, ho.countP_eq]

theorem securityReport_perm {issues issues' : List Issue} (hi : issues.Perm issues')
    {vulnerabilities vulnerabilities' : List Vulnerability}
    (hv : vulnerabilities.Perm vulnerabilities') :
  let report := securityReport issues vulnerabilities
  let report' := securityReport issues' vulnerabilities'
  report.overallScore = report'.overallScore ∧
  report.exposedSecrets = report'.exposedSecrets ∧
  report.unsafePermissions = report'.unsafePermissions
  := by
  intro report report'
  refine ⟨?_, hv.countP_eq _, hi.countP_eq _⟩
  simp only [report, report', securityReport, Measure.securityScore, hv.length_eq]

end Score

/-! ### Sessions -/

/-- What a session keeps.  However it went so far and however it goes on, each of its lists only
grows at the end, the scores stay within a hundred and do not rise, and the numbers of exposed
secrets and of unsafe permissions do not fall; a step whose fields make no finding leaves all lists
as they are and reports what is wrong with the fields.  Scores, counts and recommendations are the
same for the same findings in any order. -/
theorem Findings.afterSteps_appendOnly (s : Subject) (found : Findings)
    (steps later : List SessionStep) :
  let now := found.afterSteps s steps
  let next := found.afterSteps s (steps ++ later)
  let score := fun f : Findings => Score.overall f.issues f.vulnerabilities
  let report := fun f : Findings => Score.securityReport f.issues f.vulnerabilities
  (now.issues <+: next.issues ∧ now.optimizations <+: next.optimizations ∧
    now.vulnerabilities <+: next.vulnerabilities) ∧
  (∀ step : SessionStep, step.Rejected →
    now.afterSteps s [step] = now ∧ (step.apply s now).errors ≠ []) ∧
  (score next ≤ score now ∧ score now ≤ 100 ∧
    (report next).overallScore ≤ (report now).overallScore ∧ (report now).overallScore ≤ 100) ∧
  ((report now).exposedSecrets ≤ (report next).exposedSecrets ∧
    (report now).unsafePermissions ≤ (report next).unsafePermissions) ∧
  (∀ other : Findings, other.issues.Perm now.issues →
    other.optimizations.Perm now.optimizations →
    other.vulnerabilities.Perm now.vulnerabilities →
    score other = score now ∧
    (report other).overallScore = (report now).overallScore ∧
    (report other).exposedSecrets = (report now).exposedSecrets ∧
    (report other).unsafePermissions = (report now).unsafePermissions ∧
    Score.recommendations other.issues other.optimizations =
      Score.recommendations now.issues now.optimizations)
  := by
  intro now next score report
  have hn : next = now.afterSteps s later := afterSteps_append s found steps later
  have hb : now.Begins next := by
    rw [hn]
    apply afterSteps_begins
  have hw := hb.within
  refine ⟨⟨hb.issues, hb.optimizations, hb.vulnerabilities⟩, ?_, ⟨?_, ?_, ?_, ?_⟩, ⟨?_, ?_⟩, ?_⟩
  · intro step hr
    exact SessionStep.apply_of_rejected s now hr
  · apply Score.overall_antitone hw.issues hw.vulnerabilities
  · apply Nat.sub_le
  · apply Measure.securityScore_antitone hw.vulnerabilities
  · apply Nat.sub_le
  · apply hw.vulnerabilities.countP_le
  · apply hw.issues.countP_le
  · intro other hi ho hv
    obtain ⟨hs, he, hu⟩ := Score.securityReport_perm hi hv
    exact ⟨Score.overall_perm hi hv, hs, he, hu, Score.recommendations_perm hi ho⟩

/-- The fields of a vulnerability whose severity is no degree of threat. -/
def unknownThreat : Fields := [
  ("title", .text "Open door"), ("description", .text "The door is open"),
  ("severity", .text "terrible"), ("recommendation", .text "Close it")]

/-- Between the stages of an analysis, the fields of no vulnerability change nothing; and the
findings score the same the other way round. -/
theorem Findings.afterSteps_appendOnly_unknownThreat :
  let s : Subject := ⟨.map [], "", "github-actions", { maxFileSize := -1 }⟩
  let now := Findings.none.afterSteps s [.validate, .platform]
  (SessionStep.vulnerability unknownThreat).Rejected ∧
  now.afterSteps s [.vulnerability unknownThreat] = now ∧
  2 < now.issues.length ∧
  now.issues.reverse.Perm now.issues ∧
  Score.overall now.issues.reverse [] = Score.overall now.issues []
  := by
  intro s now
  have hr : (SessionStep.vulnerability unknownThreat).Rejected := by
    have hi : Vulnerability.ofFields unknownThreat =
        .invalid [⟨[.field "severity"], .noSuchName⟩] := rfl
    intro v hv
    rw [hi] at hv
    cases hv
  have hp := now.issues.reverse_perm
  obtain ⟨-, hk, -, -, ho⟩ := afterSteps_appendOnly s .none [.validate, .platform] []
  exact ⟨hr, (hk _ hr).1, by decide, hp, (ho ⟨_, now.optimizations, []⟩ hp (.refl _) (.refl _)).1⟩

end PipelineAudit
