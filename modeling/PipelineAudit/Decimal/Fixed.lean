import PipelineAudit.Decimal.Nearest

/-!
# Fixed places

The decimal text of a rational number with a fixed number of places; the exact value is rounded to
the nearest such decimal, a tie going to the even one.
-/

namespace PipelineAudit.Decimal

/-- The decimal digits of a number, at least `width` of them. -/
def digitsPadded (width n : Nat) : List Char :=
  let digits := Nat.toDigits 10 n
  List.replicate (width - digits.length) '0' ++ digits

/-- The text of `n / 10 ^ places` with all its places. -/
def placeText (places n : Nat) : List Char :=
  let unit := Nat.pow 10 places
  if places = 0 then Nat.toDigits 10 n
  else Nat.toDigits 10 (n / unit) ++ '.' :: digitsPadded places (n % unit)

/-- The text of the quotient of two natural numbers with a fixed number of places. -/
def fixedDiv (places num den : Nat) : List Char :=
  placeText places (roundDiv (num * Nat.pow 10 places) den)

/-- The text of a rational number with a fixed number of places. -/
def fixed (places : Nat) (x : Rat) : String :=
  String.ofList ((if x.num < 0 then ['-'] else []) ++ fixedDiv places x.num.natAbs x.den)

end PipelineAudit.Decimal
