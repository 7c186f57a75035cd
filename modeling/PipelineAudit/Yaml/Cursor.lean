/-!
# Places in a text

A cursor is a place in a text: what follows it, and the line and the column it is in, both counted
from zero.  The next character is given as an option, none at the end of the text; the tests on the
next character below also say whether the end counts.
-/

namespace PipelineAudit.Yaml

/-- A line and a column, both counted from zero. -/
structure Mark where
  line : Nat
  column : Nat
  deriving DecidableEq, Repr

/-! ### Classes of characters -/

/-- Whether a character breaks lines. -/
def isBreak (c : Char) : Bool :=
  c = '\r' || c = '\n' || c = '\x85' || c = '\u2028' || c = '\u2029'

/-- Whether a character is a space or a tab. -/
def isSpaceOrTab (c : Char) : Bool :=
  c = ' ' || c = '\t'

/-- Whether a character ends a line; the two separators of Unicode do not. -/
def isLineEnd (c : Char) : Bool :=
  c = '\n' || c = '\r' || c = '\x85'

/-- Whether a line ends before the next character. -/
def endsLine (next : Option Char) : Bool :=
  next.all isLineEnd

/-- Whether a word ends before the next character. -/
def endsWord (next : Option Char) : Bool :=
  next.all fun c => isLineEnd c || isSpaceOrTab c

/-- Whether a field of a line ends before the next character: at a space or at any break. -/
def endsField (next : Option Char) : Bool :=
  next.all fun c => c = ' ' || isBreak c

/-- Whether a text may contain a character. -/
def isAcceptable (c : Char) : Bool :=
  c = '\t' || c = '\n' || c = '\r' || c = '\x85' || (' ' ≤ c && c ≤ '~') ||
    ('\u00a0' ≤ c && c ≤ '\ufffd') || 0x10000 ≤ c.toNat

/-- Whether a character can be part of the name of an anchor. -/
def isNameChar (c : Char) : Bool :=
  !([',', '[', ']', '{', '}'].contains c) && c ≠ '\ufeff' &&
    (('!' ≤ c && c ≤ '~') || ('\u00a0' ≤ c && c ≤ '\ufffd') || 0x10000 ≤ c.toNat)

/-- Whether a character is an ASCII letter, a digit or one of some further characters. -/
def isAlnumOr (further : List Char) (c : Char) : Bool :=
  c.isAlphanum || further.contains c

/-- The value of a hexadecimal digit. -/
def hexDigit? (c : Char) : Option Nat :=
  if c.isDigit then some (c.toNat - '0'.toNat)
  else if 'a' ≤ c && c ≤ 'f' then some (c.toNat - 'a'.toNat + 10)
  else if 'A' ≤ c && c ≤ 'F' then some (c.toNat - 'A'.toNat + 10)
  else none

/-! ### Cursors -/

/-- A place in a text. -/
structure Cursor where
  rest : List Char
  index : Nat := 0
  line : Nat := 0
  column : Nat := 0

namespace Cursor

/-- The line and the column of a place. -/
def mark (s : Cursor) : Mark :=
  ⟨s.line, s.column⟩

/-- The next character. -/
def peek (s : Cursor) : Option Char :=
  s.rest.head?

/-- The character after some others. -/
def peekAt (s : Cursor) (n : Nat) : Option Char :=
  s.rest[n]?

/-- Whether the next character is a given one. -/
def sees (s : Cursor) (c : Char) : Bool :=
  s.peek = some c

/-- The place after the next character.  A line feed begins a line, as does a carriage return that
no line feed follows; a byte order mark takes no column. -/
def next (s : Cursor) : Cursor :=
  match s.rest with
  | [] => s
  | c :: rest =>
    if c = '\n' || (c = '\r' && rest.head? ≠ some '\n') then ⟨rest, s.index + 1, s.line + 1, 0⟩
    else if c = '\ufeff' then ⟨rest, s.index + 1, s.line, s.column⟩
    else ⟨rest, s.index + 1, s.line, s.column + 1⟩

/-- The place after a number of characters. -/
def advance (s : Cursor) : Nat → Cursor
  | 0 => s
  | n + 1 => s.next.advance n

/-- The characters of a class that follow. -/
def run (s : Cursor) (allowed : Char → Bool) : List Char :=
  s.rest.takeWhile allowed

/-- The place after the characters of a class that follow. -/
def skip (s : Cursor) (allowed : Char → Bool) : Cursor :=
  s.advance (s.run allowed).length

/-- The place after the spaces that follow, but before a given column. -/
def skipSpacesTo (s : Cursor) (column : Nat) : Cursor :=
  s.advance (min (s.run (· = ' ')).length (column - s.column))

/-- The line break that follows, as a single character, and the place after it.  A break is kept as
a line feed, apart from the two separators of Unicode. -/
def lineBreak? (s : Cursor) : Option (Char × Cursor) :=
  match s.rest with
  | '\r' :: '\n' :: _ => some ('\n', s.advance 2)
  | c :: _ =>
    if isLineEnd c then some ('\n', s.next)
    else if isBreak c then some (c, s.next)
    else none
  | [] => none

/-- The place after a comment, if one begins here. -/
def skipComment (s : Cursor) : Cursor :=
  if s.sees '#' then s.skip (!isLineEnd ·) else s

/-- Whether a line that begins here consists of a separator of documents, apart from what follows
after a blank. -/
def atSeparator (s : Cursor) (separator : List Char) : Bool :=
  separator.isPrefixOf s.rest && endsWord (s.peekAt separator.length)

/-- Whether a separator of documents follows. -/
def atAnySeparator (s : Cursor) : Bool :=
  s.atSeparator ['-', '-', '-'] || s.atSeparator ['.', '.', '.']

end Cursor

end PipelineAudit.Yaml
