import PipelineAudit.Json.Reader
import PipelineAudit.Rule.Engine

/-!
# Configuration

Which areas an analysis covers, how strict it is, and the custom rules of the caller.  A
configuration is read from an options file in JSON, or from variables of the environment if there is
no such file.
-/

namespace PipelineAudit

/-- The settings of an analysis. -/
structure Config where
  security : Bool := true
  performance : Bool := true
  cost : Bool := true
  /-- The size of a text, in bytes, above which it is reported. -/
  maxFileSize : Int := 1048576
  strict : Bool := false
  customRules : List CustomRule := []

namespace Config

/-- The level up to which rules run: a strict analysis includes the rules for experts. -/
def level (c : Config) : Level :=
  if c.strict then .expert else .senior

/-- The categories of the areas that are not covered, by name. -/
def skipped (c : Config) : List Category :=
  (if c.cost then [] else [.cost]) ++ (if c.performance then [] else [.performance]) ++
    (if c.security then [] else [.security])

/-! ### From fields -/

/-- An integer above zero. -/
def positive (x : Json) : Checked Int :=
  match Field.integer x with
  | .valid n => if 0 < n then .valid n else .problem .notAbove
  | e => e

/-- A text field of a custom rule. -/
def ruleText (needed : Bool) (name : String) (fields : Fields) : Checked String :=
  if needed then Field.required Field.text name fields
  else Field.withDefault "" Field.text name fields

/-- A custom rule, which JSON cannot hold: it lacks a check that can be called. -/
def customRule : Json → Checked CustomRule
  | .object fields =>
    (((ruleText true "id" fields).map fun id name check _ => CustomRule.mk id name check)
      |>.ap (ruleText true "name" fields)
      |>.ap (Field.required (fun _ => .problem .notCallable) "check" fields)
      |>.ap (ruleText false "description" fields))
  | _ => .problem .notRule

/-- A list of custom rules. -/
def customRuleList : Json → Checked (List CustomRule)
  | .list items => Checked.each customRule 0 items
  | _ => .problem .notList

/-- A configuration from its fields, the others by default. -/
def ofFields (fs : Fields) : Checked Config :=
  (Field.withDefault true Field.truth "enable_security_analysis" fs).map Config.mk
    |>.ap (Field.withDefault true Field.truth "enable_performance_analysis" fs)
    |>.ap (Field.withDefault true Field.truth "enable_cost_analysis" fs)
    |>.ap (Field.withDefault 1048576 positive "max_file_size" fs)
    |>.ap (Field.withDefault false Field.truth "strict_mode" fs)
    |>.ap (Field.withDefault [] customRuleList "custom_rules" fs)

/-! ### From the environment -/

/-- Why a configuration could not be loaded. -/
inductive LoadError where
  /-- The options file is no JSON. -/
  | badJson
  /-- The options file or a variable holds an integer with too many digits. -/
  | tooManyDigits (count : Nat)
  /-- The containers of the options file are nested too deeply. -/
  | tooDeep (container : Container)
  /-- The options file holds no object. -/
  | notAnObject
  /-- A variable holds no integer. -/
  | notANumeral (text : String)
  | invalid (errors : List FieldError)
  deriving DecidableEq, Repr

/-- The words that switch a flag on. -/
def onWords : List String :=
  ["1", "true", "yes", "on"]

/-- Whether a variable switches a flag on; without the variable the default counts. -/
def flag (env : List (String × String)) (name : String) (default : Bool) : Bool :=
  match env.lookup name with
  | some value => onWords.contains (String.ofList (Text.lower (Text.trim value.toList)))
  | none => default

/-- The configuration that the environment describes. -/
def ofEnvironment (env : List (String × String)) : Except LoadError Config :=
  let size := (env.lookup "CICD_MAX_FILE_SIZE").getD "1048576"
  match Text.integer? size.toList with
  | none => .error (.notANumeral size)
  | some n =>
    let count := Text.digitCount size.toList
    if Text.mostDigits < count then .error (.tooManyDigits count)
    else if n ≤ 0 then .error (.invalid [⟨[.field "max_file_size"], .notAbove⟩])
    else
      .ok
        { security := flag env "CICD_ENABLE_SECURITY" true
          performance := flag env "CICD_ENABLE_PERFORMANCE" true
          cost := flag env "CICD_ENABLE_COST" true
          maxFileSize := n
          strict := flag env "CICD_STRICT_MODE" false }

/-- The configuration that an options file describes; it cannot hold custom rules. -/
def ofOptions (text : List Char) : Except LoadError Config :=
  match Json.read text with
  | .error (.malformed _) => .error .badJson
  | .error (.tooManyDigits count) => .error (.tooManyDigits count)
  | .error (.tooDeep container) => .error (.tooDeep container)
  | .ok (.object fields) =>
    ((ofFields (fields.filter (·.1 ≠ "custom_rules"))).toExcept).mapError .invalid
  | .ok _ => .error .notAnObject

/-- The configuration of a service: from its options file if there is one, and otherwise from the
environment. -/
def load (env : List (String × String)) (options : Option String) : Except LoadError Config :=
  match options with
  | some text => ofOptions text.toList
  | none => ofEnvironment env

end Config

end PipelineAudit
