import PipelineAudit.Decimal.Binary
import PipelineAudit.Text.Numeral

/-!
# Reading a decimal

The double nearest to a decimal numeral, and the numerals that denote one.  Far exponents overflow
to infinity or vanish before any power of ten is computed.
-/

namespace PipelineAudit.Decimal

/-- The double nearest to `digits · 10 ^ exponent`. -/
def scaled (digits : Nat) (exponent : Int) : Float :=
  let size : Int := (Nat.toDigits 10 digits).length
  if digits = 0 then 0.0
  else if 400 < size + exponent then 1.0 / 0.0
  else if size + exponent < -400 then 0.0
  else Float.ofScientific digits (exponent < 0) exponent.natAbs

/-- The double with a sign. -/
def signed (negative : Bool) (x : Float) : Float :=
  if negative then -x else x

/-- The parts of a decimal numeral: the digits before the point, those after it, the exponent. -/
structure Numeral where
  whole : List Char
  fraction : List Char
  exponent : Int

/-- The value of a run of ASCII digits. -/
def naturalOf (digits : List Char) : Nat :=
  digits.foldl (fun n c => 10 * n + (c.toNat - '0'.toNat)) 0

/-- The double nearest to a numeral. -/
def Numeral.toFloat (n : Numeral) : Float :=
  scaled (naturalOf (n.whole ++ n.fraction)) (n.exponent - n.fraction.length)

/-- Splits a text after its longest beginning of ASCII digits. -/
def spanDigits (s : List Char) : List Char × List Char :=
  s.span Char.isDigit

/-- The exponent part that a text begins with, and what follows it; no exponent counts as zero. -/
def exponentPart (s : List Char) : Int × List Char :=
  match s with
  | c :: rest =>
    if c = 'e' || c = 'E' then
      let (negative, after) :=
        match rest with
        | '-' :: r => (true, r)
        | '+' :: r => (false, r)
        | r => (false, r)
      let (digits, tail) := spanDigits after
      if digits.isEmpty then (0, s)
      else (if negative then -(naturalOf digits : Int) else naturalOf digits, tail)
    else (0, s)
  | [] => (0, [])

/-- The unsigned numeral that makes up a whole text. -/
def numeral? (s : List Char) : Option Numeral :=
  let (whole, r) := spanDigits s
  let (fraction, r) :=
    match r with
    | '.' :: t => spanDigits t
    | t => ([], t)
  let (exponent, r) := exponentPart r
  if r.isEmpty && !(whole.isEmpty && fraction.isEmpty) then some ⟨whole, fraction, exponent⟩
  else none

/-- The text without its underscores, if each of them stands between two digits. -/
def withoutUnderscores? : List Char → Option (List Char)
  | a :: '_' :: b :: rest =>
    if a.isDigit && b.isDigit then (withoutUnderscores? (b :: rest)).map (a :: ·) else none
  | '_' :: _ => none
  | c :: rest => (withoutUnderscores? rest).map (c :: ·)
  | [] => some []

/-- The double that a text of ASCII characters denotes: blanks around it, a sign, a numeral with
single underscores between digits, or one of the words for infinity and not-a-number. -/
def plainFloat? (s : List Char) : Option Float :=
  let (negative, rest) :=
    match Text.trimNumeral s with
    | '-' :: r => (true, r)
    | '+' :: r => (false, r)
    | r => (false, r)
  let word := rest.map Char.toLower
  if word = "inf".toList || word = "infinity".toList then some (signed negative (1.0 / 0.0))
  else if word = "nan".toList then some (0.0 / 0.0)
  else
    (withoutUnderscores? rest).bind fun r => (numeral? r).map fun n => signed negative n.toFloat

end PipelineAudit.Decimal
