import PipelineAudit.Decimal.Reading
import PipelineAudit.Json.Basic

/-!
# Fields

Records are read from JSON objects whose fields may be missing or of the wrong type.  All fields of
a record are looked at, and their errors are collected in the order in which the record declares
its fields.

Values are converted where nothing is lost: numerals count as numbers, numbers without a fraction
as integers, truth values as zero and one, and the usual words as truth values.
-/

namespace PipelineAudit

/-- What can be wrong with the value of a field. -/
inductive FieldProblem where
  | missing
  | noSuchName
  | notText
  | notInteger
  | notANumeral
  | fractional
  | notFinite
  | notTruthValue
  | noTruthWord
  | notNumber
  | notADecimal
  | notAbove
  | below
  | above
  | notTuple
  | notList
  | notObject
  | notRule
  | notCallable
  | noJson
  deriving DecidableEq, Repr

/-- The code of a problem in reports. -/
def FieldProblem.code : FieldProblem → String
  | missing => "missing"
  | noSuchName => "enum"
  | notText => "string_type"
  | notInteger => "int_type"
  | notANumeral => "int_parsing"
  | fractional => "int_from_float"
  | notFinite => "finite_number"
  | notTruthValue => "bool_type"
  | noTruthWord => "bool_parsing"
  | notNumber => "float_type"
  | notADecimal => "float_parsing"
  | notAbove => "greater_than"
  | below => "greater_than_equal"
  | above => "less_than_equal"
  | notTuple => "tuple_type"
  | notList => "list_type"
  | notObject => "model_attributes_type"
  | notRule => "dataclass_type"
  | notCallable => "callable_type"
  | noJson => "json_invalid"

/-- A step to the place of a problem: a field or an index. -/
inductive FieldStep where
  | field (name : String)
  | index (n : Nat)
  deriving DecidableEq, Repr

/-- A problem and its place. -/
structure FieldError where
  place : List FieldStep
  problem : FieldProblem
  deriving DecidableEq, Repr

/-- The error with a step in front of its place. -/
def FieldError.within (step : FieldStep) (e : FieldError) : FieldError :=
  { e with place := step :: e.place }

/-- A value, or all that is wrong with the fields it is made from. -/
inductive Checked (α : Type) where
  | valid (value : α)
  | invalid (errors : List FieldError)

namespace Checked

/-- The value, or the errors. -/
def toExcept {α : Type} : Checked α → Except (List FieldError) α
  | valid a => .ok a
  | invalid errors => .error errors

/-- A function applied to a value, if both are there; the errors of both otherwise. -/
def ap {α β : Type} : Checked (α → β) → Checked α → Checked β
  | valid f, valid a => valid (f a)
  | valid _, invalid e => invalid e
  | invalid e, valid _ => invalid e
  | invalid e, invalid e' => invalid (e ++ e')

/-- The value mapped. -/
def map {α β : Type} (f : α → β) : Checked α → Checked β
  | valid a => valid (f a)
  | invalid e => invalid e

/-- The value or errors with a step in front of the place of each error. -/
def within {α : Type} (step : FieldStep) : Checked α → Checked α
  | valid a => valid a
  | invalid e => invalid (e.map (·.within step))

/-- A single problem at the place itself. -/
def problem {α : Type} (p : FieldProblem) : Checked α :=
  invalid [⟨[], p⟩]

/-- The values of a list, each checked with its index. -/
def each {α : Type} (read : Json → Checked α) (n : Nat) : List Json → Checked (List α)
  | [] => valid []
  | x :: rest =>
    ((((read x).within (.index n)).map fun a as => a :: as)).ap (each read (n + 1) rest)

end Checked

/-! ### Values -/

namespace Field

/-- A text. -/
def text : Json → Checked String
  | .text s => .valid s
  | _ => .problem .notText

/-- A text that names one of several values. -/
def named {α : Type} (values : List α) (name : α → String) : Json → Checked α
  | .text s =>
    match values.find? (name · = s) with
    | some a => .valid a
    | none => .problem .noSuchName
  | _ => .problem .noSuchName

/-- The numeral without a decimal part of zeros. -/
def withoutZeroFraction (s : List Char) : List Char :=
  let fraction := s.dropWhile (· ≠ '.')
  if (fraction.drop 1).all (· = '0') then s.takeWhile (· ≠ '.') else s

/-- The number that a run of ASCII digits with single underscores between them denotes. -/
def plainDigits? (s : List Char) : Option Nat :=
  (Decimal.withoutUnderscores? s).bind fun digits =>
    if digits.isEmpty || !digits.all Char.isDigit then none else some (Decimal.naturalOf digits)

/-- The integer that a text denotes: blanks around it, a sign, ASCII digits with single
underscores between them, and possibly a decimal part of zeros. -/
def integerOfText? (s : String) : Option Int :=
  match withoutZeroFraction (Text.trimNumeral s.toList) with
  | '-' :: rest => (plainDigits? rest).map fun n => -(n : Int)
  | '+' :: rest => (plainDigits? rest).map fun n => (n : Int)
  | rest => (plainDigits? rest).map fun n => (n : Int)

/-- An integer. -/
def integer : Json → Checked Int
  | .int n => .valid n
  | .bool b => .valid (if b then 1 else 0)
  | .float x =>
    match Decimal.toRat? x with
    | none => .problem .notFinite
    | some y => if y.den = 1 then .valid y.num else .problem .fractional
  | .text s =>
    match integerOfText? s with
    | some n => .valid n
    | none => .problem .notANumeral
  | _ => .problem .notInteger

/-- The words for truth. -/
def trueWords : List String :=
  ["1", "on", "t", "true", "y", "yes"]

/-- The words for falsehood. -/
def falseWords : List String :=
  ["0", "off", "f", "false", "n", "no"]

/-- The truth value of a number that is zero or one. -/
def truthOfInteger (n : Int) : Checked Bool :=
  if n = 0 then .valid false else if n = 1 then .valid true else .problem .noTruthWord

/-- A truth value. -/
def truth : Json → Checked Bool
  | .bool b => .valid b
  | .int n => truthOfInteger n
  | .float x =>
    match Decimal.toRat? x with
    | some y => if y.den = 1 then truthOfInteger y.num else .problem .notTruthValue
    | none => .problem .notTruthValue
  | .text s =>
    let word := String.ofList (s.toList.map Char.toLower)
    if trueWords.contains word then .valid true
    else if falseWords.contains word then .valid false
    else .problem .noTruthWord
  | _ => .problem .notTruthValue

/-- A number. -/
def number : Json → Checked Float
  | .int n => .valid (Decimal.signed (n < 0) (Decimal.scaled n.natAbs 0))
  | .bool b => .valid (if b then 1.0 else 0.0)
  | .float x => .valid x
  | .text s =>
    match Decimal.plainFloat? s.toList with
    | some x => .valid x
    | none => .problem .notADecimal
  | _ => .problem .notNumber

/-- A number between two bounds. -/
def numberWithin (low high : Rat) (x : Json) : Checked Float :=
  match number x with
  | .valid v =>
    if Decimal.exceeds v high then .problem .above
    else if Decimal.exceeds (-v) (-low) then .problem .below
    else .valid v
  | e => e

/-- A list of integers. -/
def integers : Json → Checked (List Int)
  | .list items => Checked.each integer 0 items
  | _ => .problem .notTuple

/-! ### Fields of an object -/

/-- A field that has to be there. -/
def required {α : Type} (read : Json → Checked α) (name : String)
    (fields : List (String × Json)) : Checked α :=
  match fields.lookup name with
  | some x => (read x).within (.field name)
  | none => (Checked.problem .missing).within (.field name)

/-- A field with a default. -/
def withDefault {α : Type} (default : α) (read : Json → Checked α) (name : String)
    (fields : List (String × Json)) : Checked α :=
  match fields.lookup name with
  | some x => (read x).within (.field name)
  | none => .valid default

/-- A field that may be missing or null. -/
def nullable {α : Type} (read : Json → Checked α) (name : String)
    (fields : List (String × Json)) : Checked (Option α) :=
  match fields.lookup name with
  | some .null => .valid none
  | some x => ((read x).within (.field name)).map some
  | none => .valid none

end Field

end PipelineAudit
