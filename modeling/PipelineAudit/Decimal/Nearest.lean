/-!
# Rounding to a double

A quotient, a product or a difference of doubles is the double nearest to the exact value, ties
going to the even significand.  Counts, percentages and costs stay far from the largest and the
smallest doubles, so a double is represented here by the rational number that it is, and `nearest`
is the rounding.
-/

namespace PipelineAudit.Decimal

/-- The integer nearest to a quotient of natural numbers, a tie going to the even one. -/
def roundDiv (num den : Nat) : Nat :=
  let q := num / den
  let r := num % den
  if 2 * r < den then q
  else if den < 2 * r then q + 1
  else if q % 2 = 0 then q else q + 1

/-- The multiple of `2 ^ (-shift)` nearest to a nonnegative quotient. -/
def roundAt (num den : Nat) (shift : Int) : Rat :=
  let up := Nat.pow 2 shift.toNat
  let down := Nat.pow 2 (-shift).toNat
  mkRat (roundDiv (num * up) (den * down) * down) up

/-- The binary exponent of a positive quotient: the largest power of two not above it. -/
def binaryExponent (num den : Nat) : Int :=
  let e : Int := (num.log2 : Int) - (den.log2 : Int)
  if den * Nat.pow 2 e.toNat ≤ num * Nat.pow 2 (-e).toNat then e else e - 1

/-- The number with 53 significant bits nearest to a rational number. -/
def nearest (x : Rat) : Rat :=
  let num := x.num.natAbs
  if num = 0 then 0
  else
    let y := roundAt num x.den (52 - binaryExponent num x.den)
    if x.num < 0 then -y else y

/-- The nearest integer, a tie going up. -/
def roundHalfUp (x : Rat) : Int :=
  (nearest (x + 1 / 2)).floor

/-- The percentage that a part is of a whole, rounded to a double at each step. -/
def percentage (part whole : Nat) : Rat :=
  nearest (nearest ((part : Rat) / whole) * 100)

end PipelineAudit.Decimal
