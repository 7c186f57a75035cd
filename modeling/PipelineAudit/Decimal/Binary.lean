import PipelineAudit.Decimal.Fixed

/-!
# Doubles as numbers

`Binary.ofFloat` reads the bits of a double: it is not a number, infinite, or `m · 2 ^ e` with a
sign.  `compareRat`, `truncated?` and `fixedFloat` work on the exact value.
-/

namespace PipelineAudit.Decimal

/-- The value of a double: not a number, an infinity, or a sign with
`significand · 2 ^ exponent`. -/
inductive Binary where
  | nan
  | infinite (negative : Bool)
  | finite (negative : Bool) (significand : Nat) (exponent : Int)

/-- The value of a double. -/
def Binary.ofFloat (x : Float) : Binary :=
  let bits := x.toBits.toNat
  let negative := decide (Nat.pow 2 63 ≤ bits)
  let exponent : Nat := bits / Nat.pow 2 52 % Nat.pow 2 11
  let fraction := bits % Nat.pow 2 52
  if exponent = 2047 then if fraction = 0 then .infinite negative else .nan
  else if exponent = 0 then .finite negative fraction (-1074)
  else .finite negative (fraction + Nat.pow 2 52) ((exponent : Int) - 1075)

/-- The exact value of a finite double. -/
def toRat? (x : Float) : Option Rat :=
  match Binary.ofFloat x with
  | .finite negative m e =>
    let y := mkRat (m * Nat.pow 2 e.toNat) (Nat.pow 2 (-e).toNat)
    some (if negative then -y else y)
  | _ => none

/-- Whether a double lies above a rational number. -/
def exceeds (x : Float) (y : Rat) : Bool :=
  match Binary.ofFloat x with
  | .nan => false
  | .infinite negative => !negative
  | .finite .. =>
    match toRat? x with
    | some v => decide (y < v)
    | none => false

/-- Whether a double is not a number. -/
def isNan (x : Float) : Bool :=
  match Binary.ofFloat x with
  | .nan => true
  | _ => false

/-- Whether a double is neither zero; a value that is not a number counts as nonzero. -/
def isNonzero (x : Float) : Bool :=
  match Binary.ofFloat x with
  | .finite _ m _ => m ≠ 0
  | _ => true

/-- The text of a double with a fixed number of places. -/
def fixedFloat (places : Nat) (x : Float) : String :=
  match Binary.ofFloat x with
  | .nan => "nan"
  | .infinite negative => if negative then "-inf" else "inf"
  | .finite negative m e =>
    let digits := fixedDiv places (m * Nat.pow 2 e.toNat) (Nat.pow 2 (-e).toNat)
    String.ofList ((if negative then ['-'] else []) ++ digits)

end PipelineAudit.Decimal
