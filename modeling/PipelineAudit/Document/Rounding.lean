import PipelineAudit.Decimal.Nearest
import PipelineAudit.Document.Basic

/-!
# Rounding scalars

The integer nearest to a scalar that is a number, a half going up.
-/

namespace PipelineAudit

/-- Why a scalar cannot be rounded to an integer. -/
inductive RoundingError where
  /-- The scalar is the double that is no number. -/
  | notANumber
  /-- The scalar is infinite, or an integer beyond all doubles. -/
  | beyondDoubles
  /-- The scalar is neither a number nor a truth value. -/
  | notNumeric
  deriving DecidableEq, Repr

/-- What is wrong, in words. -/
def RoundingError.message : RoundingError → String
  | notANumber => "cannot convert float NaN to integer"
  | beyondDoubles => "cannot convert float infinity to integer"
  | notNumeric => "not a number"

/-- The integer nearest to a number that is first rounded to a double. -/
def Scalar.rounded (s : Scalar) : Except RoundingError Int :=
  match s.number?, s.infinite?, s with
  | some x, _, _ =>
    let y := Decimal.nearest x
    if Nat.pow 2 1024 ≤ y.num.natAbs / y.den then .error .beyondDoubles
    else .ok (Decimal.roundHalfUp y)
  | none, some _, _ => .error .beyondDoubles
  | none, none, .float _ => .error .notANumber
  | _, _, _ => .error .notNumeric

end PipelineAudit
