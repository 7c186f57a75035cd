import PipelineAudit.Analysis.Run

/-!
# Sessions

Findings that grow step by step: by single findings given as fields, by a rule, by a stage of an
analysis, or by a whole run of the catalog.  Fields that make no finding add nothing and leave their
errors.
-/

namespace PipelineAudit

/-- What a session works on. -/
structure Subject where
  document : Document
  text : String
  platform : String
  config : Config

namespace Subject

/-- The source of a subject. -/
def source (s : Subject) : Source :=
  ⟨s.text.toList, s.platform⟩

end Subject

/-- A step of a session. -/
inductive SessionStep where
  | issue (fields : Fields)
  | optimization (fields : Fields)
  | vulnerability (fields : Fields)
  | rule (rule : Rule)
  | validate
  | platform
  | custom (rule : CustomRule)
  | execute (rules : Catalog)

/-- The findings of a session after a step, and the errors that the step leaves. -/
structure SessionState where
  findings : Findings
  errors : List FieldError := []

namespace SessionStep

/-- The findings so far with one from its fields, if they make a finding. -/
def addChecked {α : Type} (found : Findings) (wrap : α → Findings) : Checked α → SessionState
  | .valid a => { findings := found ++ wrap a }
  | .invalid errors => { findings := found, errors := errors }

/-- What a step makes of the findings of a session on a subject. -/
def apply (s : Subject) (found : Findings) : SessionStep → SessionState
  | issue fields => addChecked found .issue (Issue.ofFields fields)
  | optimization fields => addChecked found .optimization (Optimization.ofFields fields)
  | vulnerability fields =>
    addChecked found (fun v => .ofVulnerabilities [v]) (Vulnerability.ofFields fields)
  | rule r => { findings := found ++ (r.check s.document s.source).findings }
  | validate => { findings := (Analysis.validateInput s.document s.text s.config found).findings }
  | platform =>
    match PlatformChecks.of? s.platform with
    | some checks => { findings := (checks.analyzeInto s.document found).findings }
    | none => { findings := found }
  | custom r => { findings := r.reportInto s.document s.text s.platform found }
  | execute rules =>
    { findings :=
        found ++ rules.execute s.document s.source (.upTo s.config.level) s.config.skipped }

end SessionStep

/-- The findings of a session after some steps. -/
def Findings.afterSteps (s : Subject) (found : Findings) : List SessionStep → Findings
  | [] => found
  | step :: rest => Findings.afterSteps s (step.apply s found).findings rest

end PipelineAudit
