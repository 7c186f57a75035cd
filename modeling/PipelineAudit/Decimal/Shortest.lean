import PipelineAudit.Decimal.Binary

/-!
# Shortest decimals

The text of a double is the decimal with the fewest digits that reads back as that double, the
nearest one among those.  It is written positionally from `0.0001` up to sixteen digits before the
point, and with a signed exponent of at least two digits otherwise; a positional text always has
a point.
-/

namespace PipelineAudit.Decimal

/-- The reals that round to a double `m · 2 ^ e`, over the common denominator `den`: those from
`low / den` to `high / den`, the two ends included if `closed`. -/
structure Interval where
  low : Nat
  value : Nat
  high : Nat
  den : Nat
  closed : Bool

/-- The interval of a positive double `m · 2 ^ e`: half the distance to each neighbour, which
below a power of two is half as far as above it. -/
def Interval.of (m : Nat) (e : Int) : Interval :=
  let near := m = Nat.pow 2 52 && -1074 < e
  let up := Nat.pow 2 e.toNat
  let den := 4 * Nat.pow 2 (-e).toNat
  { low := (4 * m - if near then 1 else 2) * up
    value := 4 * m * up
    high := (4 * m + 2) * up
    den := den
    closed := m % 2 = 0 }

/-- Whether the decimal `n · 10 ^ scale` lies in the interval. -/
def Interval.has (i : Interval) (n : Nat) (scale : Int) : Bool :=
  let left := n * i.den * Nat.pow 10 scale.toNat
  let low := i.low * Nat.pow 10 (-scale).toNat
  let high := i.high * Nat.pow 10 (-scale).toNat
  if i.closed then low ≤ left && left ≤ high else low < left && left < high

/-- A decimal number `digits · 10 ^ scale`. -/
structure Scaled where
  digits : Nat
  scale : Int

/-- The decimal in the interval on the grid of multiples of `10 ^ scale`, nearest to the value. -/
def Interval.hit? (i : Interval) (scale : Int) : Option Scaled :=
  let num := i.value * Nat.pow 10 (-scale).toNat
  let den := i.den * Nat.pow 10 scale.toNat
  let below := num / den
  let rest := num % den
  let first := if 2 * rest < den || (2 * rest = den && below % 2 = 0) then below else below + 1
  let second := if first = below then below + 1 else below
  if i.has first scale then some ⟨first, scale⟩
  else if i.has second scale then some ⟨second, scale⟩
  else none

/-- The first hit on finer and finer grids. -/
def Interval.shortest (i : Interval) (scale : Int) : Nat → Scaled
  | 0 => ⟨i.value * Nat.pow 10 (-scale).toNat / (i.den * Nat.pow 10 scale.toNat), scale⟩
  | fuel + 1 =>
    match i.hit? scale with
    | some d => if d.digits = 0 then i.shortest (scale - 1) fuel else d
    | none => i.shortest (scale - 1) fuel

/-- A number of decimal digits above which no double below `2 ^ bits` needs more. -/
def decimalScale (m : Nat) (e : Int) : Int :=
  ((m.log2 : Int) + e) * 30103 / 100000 + 1

/-- The digits of a positive double and the place of its point: the value is the digits after
`0.`, times ten to that place. -/
def digitsAndPoint (m : Nat) (e : Int) : List Char × Int :=
  let d := (Interval.of m e).shortest (decimalScale m e) 20
  let all := Nat.toDigits 10 d.digits
  let kept := (all.reverse.dropWhile (· = '0')).reverse
  (kept, all.length + d.scale)

/-- The text of an exponent: a sign and at least two digits. -/
def exponentText (n : Int) : List Char :=
  (if n < 0 then '-' else '+') :: digitsPadded 2 n.natAbs

/-- The text of the number with the given digits after `0.`, times ten to the place `point`. -/
def placedText (digits : List Char) (point : Int) : List Char :=
  if point ≤ -4 || 16 < point then
    match digits with
    | [] => []
    | d :: [] => d :: 'e' :: exponentText (point - 1)
    | d :: rest => d :: '.' :: rest ++ 'e' :: exponentText (point - 1)
  else if point ≤ 0 then
    '0' :: '.' :: List.replicate (-point).toNat '0' ++ digits
  else
    let p := point.toNat
    if digits.length ≤ p then
      digits ++ List.replicate (p - digits.length) '0' ++ ['.', '0']
    else digits.take p ++ '.' :: digits.drop p

/-- The text of a double. -/
def shortest (x : Float) : String :=
  match Binary.ofFloat x with
  | .nan => "nan"
  | .infinite negative => if negative then "-inf" else "inf"
  | .finite negative m e =>
    let body :=
      if m = 0 then ['0', '.', '0']
      else
        let (digits, point) := digitsAndPoint m e
        placedText digits point
    String.ofList ((if negative then ['-'] else []) ++ body)

end PipelineAudit.Decimal
