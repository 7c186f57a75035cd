import PipelineAudit.Proofs.Yaml.Building
import PipelineAudit.Proofs.Yaml.Composing
import PipelineAudit.Proofs.Yaml.Scanning
import PipelineAudit.Service

/-!
# What reading a text leads to

A text that is read gives a document, or it is reported as malformed, and the service answers with
that report.  There is a third way out: a scalar that denotes nothing, such as the thirteenth month
of a year, stops the reading without a report.

* `Refused`: what such an error can be blamed on in a text.
* `Document.ofYaml_outcomes`: what reading a text leads to.
* `Document.ofYaml_thirteenthMonth`: a text of the third kind.
-/

namespace PipelineAudit

/-! ### Reports -/

/-- A report says that the YAML is invalid, at a line and a column counted from one or at no
place. -/
structure ParseReport.IsProper (r : ParseReport) : Prop where
  message : ∃ words : String, r.message = "Invalid YAML: " ++ words
  place : r.line = none ∧ r.column = none ∨
    ∃ line column : Int, r.line = some line ∧ r.column = some column ∧ 1 ≤ line ∧ 1 ≤ column

theorem ParseReport.isProper_ofProblem (problem : Yaml.Problem) (place : Option Yaml.Mark) :
  (ParseReport.ofProblem problem place).IsProper
  := by
  constructor
  case message => exact ⟨problem.message, rfl⟩
  case place =>
    cases place with
    | none => exact .inl ⟨rfl, rfl⟩
    | some m =>
      right
      refine ⟨(m.line + 1 : Nat), (m.column + 1 : Nat), rfl, rfl, ?_, ?_⟩
      · omega
      · omega

/-- A malformed text that is not too large is answered with a status for it. -/
theorem AnalysisRequest.status_of_malformed {r : AnalysisRequest} {report : ParseReport}
    (h : Document.ofYaml r.content.toList = .error (.malformed report)) (config : Config)
    {limit : Int} (hl : r.content.utf8ByteSize ≤ limit) :
  ∃ reply, r.answer config limit = .ok reply ∧ reply.status = 400
  := by
  rw [answer]
  dsimp only
  split
  · exact ⟨.noContent, rfl, rfl⟩
  · rw [if_neg (Int.not_lt.mpr hl), h]
    exact ⟨.malformed report, rfl, rfl⟩

/-- The error of a scalar leaves a request without an answer. -/
theorem AnalysisRequest.answer_of_scalar {r : AnalysisRequest} {e : Yaml.ScalarError}
    (h : Document.ofYaml r.content.toList = .error (.scalar e)) (config : Config) {limit : Int}
    (hb : (Text.trim r.content.toList).isEmpty = false) (hl : r.content.utf8ByteSize ≤ limit) :
  r.answer config limit = .error (.scalar e)
  := by
  rw [answer]
  dsimp only
  rw [if_neg (Bool.not_eq_true _ ▸ hb), if_neg (Int.not_lt.mpr hl), h]

/-! ### Errors of scalars -/

namespace Yaml

/-- What the error of a scalar can be blamed on in a text. -/
inductive Refused (text : List Char) : ScalarError → Prop
  /-- The text holds an escape of a code beyond the last character. -/
  | escape {e : ScalarError} (h : EscapesIn text e) : Refused text e
  /-- The text gives a version for which the forms of scalars are not known. -/
  | version {version : Version} (h : (TokenStream.ofText text).Gives version)
      (hk : ¬ version.isKnown) : Refused text .unknownVersion
  /-- A value cannot be built in the graph of the text. -/
  | graph {c : Composed} {e : ScalarError}
      (hc : Composed.ofStream (TokenStream.ofText text) = .ok c)
      (h : c.graph.Refuses c.version e) : Refused text e

theorem refused_of_ofStream {text : List Char} {e : ScalarError}
    (h : Composed.ofStream (TokenStream.ofText text) = .error (.scalar e)) :
  Refused text e
  := by
  obtain hf | ⟨rfl, version, hg, hk⟩ := Composed.blames_of_ofStream h
  · exact .escape (TokenStream.escapesIn_of_fault_ofText hf)
  · exact .version hg hk

theorem refused_of_read {text : List Char} {e : ScalarError}
    (h : read text = .error (.scalar e)) :
  Refused text e
  := by
  rw [read] at h
  split at h
  case h_1 e' hc =>
    cases h
    exact refused_of_ofStream hc
  case h_2 => cases h
  case h_3 graph root version hc =>
    cases hd : Build.document root { graph, version } with
    | ok r =>
      rw [hd] at h
      cases h
    | error e' =>
      rw [hd] at h
      cases h
      exact .graph hc (Build.refuses_of_document (Composed.merged_of_ofStream hc) hd)

end Yaml

/-! ### Outcomes -/

/-- Whether a computation fails in a given way can be decided by running it. -/
local instance decidableEqError {ε α : Type} [DecidableEq ε] (x : Except ε α) (e : ε) :
    Decidable (x = .error e) :=
  match x with
  | .error e' => decidable_of_iff (e' = e) ⟨congrArg Except.error, Except.error.inj⟩
  | .ok _ => .isFalse nofun

namespace Document

/-- Reading a text gives a document, or a proper report of a malformed text, which is answered as
such, or the error of a scalar, which leaves a request without an answer and can be blamed on
something in the text. -/
theorem ofYaml_outcomes (text : List Char) :
  (∃ document, ofYaml text = .ok document) ∨
    (∃ report, ofYaml text = .error (.malformed report) ∧ report.IsProper ∧
      ∀ (r : AnalysisRequest) (config : Config) (limit : Int), r.content.toList = text →
        r.content.utf8ByteSize ≤ limit →
        ∃ reply, r.answer config limit = .ok reply ∧ reply.status = 400) ∨
    ∃ e, ofYaml text = .error (.scalar e) ∧ Yaml.Refused text e ∧
      ∀ (r : AnalysisRequest) (config : Config) (limit : Int), r.content.toList = text →
        (Text.trim text).isEmpty = false → r.content.utf8ByteSize ≤ limit →
        r.answer config limit = .error (.scalar e)
  := by
  cases hr : Yaml.read text with
  | ok document =>
    left
    use document
    rw [ofYaml, hr]
    rfl
  | error e =>
    right
    have ho : ofYaml text = .error (.ofError e) := by
      rw [ofYaml, hr]
      rfl
    cases e with
    | malformed problem place =>
      left
      refine ⟨_, ho, ParseReport.isProper_ofProblem problem place, ?_⟩
      rintro r config limit rfl hl
      exact AnalysisRequest.status_of_malformed ho config hl
    | scalar e =>
      right
      refine ⟨e, ho, Yaml.refused_of_read hr, ?_⟩
      rintro r config limit rfl hb hl
      exact AnalysisRequest.answer_of_scalar ho config hb hl

/-- A request that leaves everything but the text to the service. -/
def requestOf (content : String) : AnalysisRequest where
  content := content
  filename := none
  platform := detectedPlatform
  strict := none
  security := none
  performance := none
  cost := none

/-- A list that is not closed is reported, and the request is answered. -/
theorem ofYaml_openList :
  (∃ report, ofYaml "steps: [build".toList = .error (.malformed report) ∧ report.IsProper) ∧
    ∃ reply, (requestOf "steps: [build").answer {} 100 = .ok reply ∧ reply.status = 400
  := by
  have hm : ofYaml "steps: [build".toList = .error (.malformed
      ⟨"Invalid YAML: expected ',' or ']', but got '<stream end>'", some 1, some 14⟩) := by
    decide +kernel
  obtain ⟨document, hd⟩ | ⟨report, hr, hp, ha⟩ | ⟨e, he, _⟩ :=
    ofYaml_outcomes "steps: [build".toList
  · rw [hm] at hd
    cases hd
  · exact ⟨⟨report, hr, hp⟩, ha (requestOf "steps: [build") {} 100 rfl (by decide)⟩
  · rw [hm] at he
    cases he

/-- A date in the thirteenth month is neither read nor reported, and the request is not answered. -/
theorem ofYaml_thirteenthMonth :
  ofYaml "released: 2024-13-01".toList = .error (.scalar (.calendar .month)) ∧
    (requestOf "released: 2024-13-01").answer {} 100 = .error (.scalar (.calendar .month))
  := by
  have hs : ofYaml "released: 2024-13-01".toList = .error (.scalar (.calendar .month)) := by
    decide +kernel
  refine ⟨hs, ?_⟩
  apply AnalysisRequest.answer_of_scalar (r := requestOf "released: 2024-13-01") hs
  · decide +kernel
  · decide

end Document

end PipelineAudit
