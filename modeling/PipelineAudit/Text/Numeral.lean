import PipelineAudit.Text.Blank
import PipelineAudit.Text.Digit
import PipelineAudit.Text.Quoted

/-!
# Numerals

Reading an integer in decimal notation: blanks around it other than the four separators, a sign,
digits of any script, and single underscores between digits.  A numeral of too many digits is not
read.
-/

namespace PipelineAudit.Text

/-- Whether a character may stand around a numeral. -/
def isNumeralBlank (c : Char) : Bool :=
  isBlank c && !(0x1c ≤ c.toNat && c.toNat ≤ 0x1f)

/-- The numeral in a text, without what may stand around it. -/
def trimNumeral (s : List Char) : List Char :=
  ((s.dropWhile isNumeralBlank).reverse.dropWhile isNumeralBlank).reverse

/-- The value of a run of decimal digits, continuing the value of the digits before it; single
underscores may stand between digits. -/
def readDigits (value : Nat) : List Char → Option Nat
  | [] => some value
  | '_' :: c :: rest => (decimalValue? c).bind fun d => readDigits (10 * value + d) rest
  | c :: rest => (decimalValue? c).bind fun d => readDigits (10 * value + d) rest

/-- The value of a nonempty run of decimal digits that begins with a digit. -/
def natural? : List Char → Option Nat
  | [] => none
  | c :: rest => (decimalValue? c).bind fun d => readDigits d rest

/-- The integer that a text denotes. -/
def integer? (s : List Char) : Option Int :=
  match trimNumeral s with
  | '-' :: rest => (natural? rest).map fun n => -(n : Int)
  | '+' :: rest => (natural? rest).map fun n => (n : Int)
  | rest => (natural? rest).map fun n => (n : Int)

/-- The number of digits up to which a numeral is read. -/
def mostDigits : Nat := 4300

/-- The number of digits of a numeral. -/
def digitCount (s : List Char) : Nat :=
  s.countP isDecimal

/-- The complaint about a text that denotes no integer; a long text is cut. -/
def notANumeral (s : String) : String :=
  "invalid literal for int() with base 10: " ++ String.ofList ((quoted s.toList).take 200)

/-- The complaint about a numeral of too many digits. -/
def tooManyDigits (count : Nat) : String :=
  "Exceeds the limit (4300 digits) for integer string conversion: value has " ++
    toString count ++ " digits; use sys.set_int_max_str_digits() to increase the limit"

end PipelineAudit.Text
