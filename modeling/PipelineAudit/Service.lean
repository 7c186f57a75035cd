import PipelineAudit.Analysis.Run
import PipelineAudit.Config
import PipelineAudit.Platform.Detection
import PipelineAudit.Yaml.Report

/-!
# The service

The service answers requests once it is started with a configuration: it analyzes the text that a
request holds, and it says what it is and which platforms it supports.  Settings in a request go
before those of the service for that request.
-/

namespace PipelineAudit

/-- The state of the service: its configuration once it is started, and the largest size, in bytes,
of a text that it accepts. -/
structure Service where
  config : Option Config := none
  limit : Int := 10485760

/-- What the service is asked for. -/
inductive Request where
  | get (path : String)
  | post (path : String) (body : List Char)

/-- An answer of the service. -/
inductive Reply where
  | analysis (result : Analysis) (detection : Detection)
  | info
  | platforms (names : List String)
  /-- The text of the request is malformed. -/
  | malformed (report : ParseReport)
  | noContent
  | tooLarge
  | invalid (errors : List FieldError)
  /-- The body of the request is no JSON from a position on. -/
  | noJson (position : Nat)
  /-- The body of the request holds an integer with too many digits, or is nested too deeply. -/
  | unreadable
  | notFound
  | notAllowed

/-- Why the service gives no answer. -/
inductive ServiceFailure where
  | notStarted
  | scalar (error : Yaml.ScalarError)

/-- Why there is no answer, in words. -/
def ServiceFailure.message : ServiceFailure → String
  | notStarted => "AnalysisConfig not initialised"
  | scalar error => error.message

/-- The status code of an answer. -/
def Reply.status : Reply → Nat
  | analysis .. => 200
  | info => 200
  | platforms _ => 200
  | malformed _ => 400
  | noContent => 400
  | tooLarge => 413
  | invalid _ => 422
  | noJson _ => 422
  | unreadable => 400
  | notFound => 404
  | notAllowed => 405

/-- The explanation in an answer that is just one. -/
def Reply.detail? : Reply → Option String
  | noContent => some "No content provided"
  | tooLarge => some "Content too large: YAML content must be less than 10MB"
  | unreadable => some "There was an error parsing the body"
  | notFound => some "Not Found"
  | notAllowed => some "Method Not Allowed"
  | _ => none

/-- What the service says about itself. -/
structure ServiceInfo where
  message : String
  version : String
  endpoints : List (String × String)

/-- What the service says about itself. -/
def Service.info : ServiceInfo where
  message := "CI/CD Analyzer API"
  version := "0.1.0"
  endpoints := [("analyze", "POST /api/analyze"), ("platforms", "GET /api/platforms")]

/-! ### Requests for an analysis -/

/-- The platform name that leaves the platform to detection. -/
def detectedPlatform : String := "auto"

/-- A request for an analysis: the text, and the settings for it. -/
structure AnalysisRequest where
  content : String
  filename : Option String
  platform : String
  strict : Option Bool
  security : Option Bool
  performance : Option Bool
  cost : Option Bool

namespace AnalysisRequest

/-- A request from its fields. -/
def ofFields (fs : Fields) : Checked AnalysisRequest :=
  (Field.required Field.text "content" fs).map AnalysisRequest.mk
    |>.ap (Field.nullable Field.text "filename" fs)
    |>.ap (Field.withDefault detectedPlatform Field.text "platform" fs)
    |>.ap (Field.nullable Field.truth "strict_mode" fs)
    |>.ap (Field.nullable Field.truth "enable_security_analysis" fs)
    |>.ap (Field.nullable Field.truth "enable_performance_analysis" fs)
    |>.ap (Field.nullable Field.truth "enable_cost_analysis" fs)

/-- A request from the value that its body holds. -/
def ofJson : Json → Checked AnalysisRequest
  | .object fields => ofFields fields
  | _ => .problem .notObject

/-- The configuration of the service with the settings of a request. -/
def configure (r : AnalysisRequest) (base : Config) : Config :=
  { base with
    strict := r.strict.getD base.strict
    security := r.security.getD base.security
    performance := r.performance.getD base.performance
    cost := r.cost.getD base.cost }

/-- The answer to a request of a service that is started. -/
def answer (r : AnalysisRequest) (base : Config) (limit : Int) : Except ServiceFailure Reply :=
  let text := r.content.toList
  if (Text.trim text).isEmpty then .ok .noContent
  else if limit < r.content.utf8ByteSize then .ok .tooLarge
  else
    match Document.ofYaml text with
    | .error (.malformed report) => .ok (.malformed report)
    | .error (.scalar error) => .error (.scalar error)
    | .ok document =>
      let detection := Detection.detect document r.filename
      let platform := if r.platform = detectedPlatform then detection.platform else r.platform
      .ok (.analysis (Analysis.run .default document platform r.content (r.configure base))
        detection)

end AnalysisRequest

/-! ### Answers -/

namespace Service

/-- The service after a start with a configuration. -/
def start (s : Service) (config : Config) : Service :=
  { s with config := some config }

/-- The service after a stop. -/
def stop (s : Service) : Service :=
  { s with config := none }

/-- The body without the byte order mark that it may begin with. -/
def withoutMark : List Char → List Char
  | '\ufeff' :: rest => rest
  | body => body

/-- The answer to a body that asks for an analysis. -/
def analyze (s : Service) (body : List Char) : Except ServiceFailure Reply :=
  let value := if body.isEmpty then .ok none else (Json.read (withoutMark body)).map some
  match value, s.config with
  | .error (.malformed position), _ => .ok (.noJson position)
  | .error (.tooManyDigits _), _ => .ok .unreadable
  | .error (.tooDeep _), _ => .ok .unreadable
  | .ok _, none => .error .notStarted
  | .ok none, some _ => .ok (.invalid [⟨[.field "body"], .missing⟩])
  | .ok (some x), some config =>
    match (AnalysisRequest.ofJson x).within (.field "body") with
    | .invalid errors => .ok (.invalid errors)
    | .valid request => request.answer config s.limit

/-- A path without a query or a fragment, and without the slashes at its end. -/
def plainPath (path : String) : List Char :=
  ((path.toList.takeWhile fun c => c ≠ '?' && c ≠ '#').reverse.dropWhile (· = '/')).reverse

/-- The answer to a request. -/
def answer (s : Service) : Request → Except ServiceFailure Reply
  | .get path =>
    if plainPath path = "/api/analyze".toList then .ok .info
    else if plainPath path = "/api/platforms".toList then
      .ok (.platforms PlatformChecks.supported)
    else .ok .notFound
  | .post path body =>
    if plainPath path = "/api/analyze".toList then s.analyze body
    else if plainPath path = "/api/platforms".toList then .ok .notAllowed
    else .ok .notFound

end Service

end PipelineAudit
