import PipelineAudit.Text.Printable

/-!
# Quoted texts

The quoted form of a text, for use in messages and in the text of lists and mappings.  It stands
between single quotes, or between double quotes if the text has single quotes and no double ones.
The quote and the backslash are escaped; so are tab, line feed, carriage return and whatever is
not printable.
-/

namespace PipelineAudit.Text

/-- The quotation mark for a text. -/
def quoteMark (s : List Char) : Char :=
  if s.contains '\'' && !s.contains '"' then '"' else '\''

/-- The last `width` hexadecimal digits of a number. -/
def hexDigits (width n : Nat) : List Char :=
  (List.range width).reverse.map fun i => Nat.digitChar (n / Nat.pow 16 i % 16)

/-- The escape of a character that is not printable. -/
def escapeCode (c : Char) : List Char :=
  let n := c.toNat
  if n < 0x100 then '\\' :: 'x' :: hexDigits 2 n
  else if n < 0x10000 then '\\' :: 'u' :: hexDigits 4 n
  else '\\' :: 'U' :: hexDigits 8 n

/-- The form of a character between two quotation marks. -/
def quotedChar (mark c : Char) : List Char :=
  if c = mark || c = '\\' then ['\\', c]
  else if c = '\t' then ['\\', 't']
  else if c = '\n' then ['\\', 'n']
  else if c = '\r' then ['\\', 'r']
  else if isPrintable c then [c]
  else escapeCode c

/-- The quoted form of a text. -/
def quoted (s : List Char) : List Char :=
  let mark := quoteMark s
  mark :: s.flatMap (quotedChar mark) ++ [mark]

/-- The quoted form of a string. -/
def quote (s : String) : String :=
  String.ofList (quoted s.toList)

end PipelineAudit.Text
