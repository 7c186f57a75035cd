import PipelineAudit.Text.Blank
import PipelineAudit.Text.Digit
import PipelineAudit.Text.Word

/-!
# Patterns

A pattern describes stretches of text: characters of a class, sequences, alternatives and
repetitions of them, and conditions on the place where it stands.  The order of the alternatives
counts: an earlier one is preferred, and a repetition prefers many rounds to few, or few to many.

The lower part gives names to the classes and to the combinations that the catalog is written in.
-/

namespace PipelineAudit

/-- A pattern in a text. -/
inductive Pattern where
  /-- One character of a class. -/
  | one (allowed : Char → Bool)
  /-- The empty stretch. -/
  | nothing
  | seq (first second : Pattern)
  | either (first second : Pattern)
  /-- A number of rounds from `least` to `most`; a greedy repetition prefers many. -/
  | repeated (greedy : Bool) (least : Nat) (most : Option Nat) (round : Pattern)
  /-- A stretch whose text is kept. -/
  | group (body : Pattern)
  /-- The beginning of the text. -/
  | textStart
  /-- The beginning of a line. -/
  | lineStart
  /-- The end of the text, or the line feed that ends it. -/
  | textEnd
  /-- The end of a line. -/
  | lineEnd
  /-- A place with a word character on exactly one side. -/
  | wordEdge
  /-- A place where the text goes on with a stretch. -/
  | ahead (body : Pattern)
  /-- A place where the text does not go on with a stretch. -/
  | notAhead (body : Pattern)

namespace Pattern

/-! ### Classes of characters -/

/-- Whether a character is a small ASCII letter. -/
def isSmall (c : Char) : Bool :=
  'a' ≤ c && c ≤ 'z'

/-- Whether a character is a capital ASCII letter. -/
def isCapital (c : Char) : Bool :=
  'A' ≤ c && c ≤ 'Z'

/-- Whether a character is one of those in a string. -/
def among (chars : String) (c : Char) : Bool :=
  chars.toList.contains c

/-- The letters beyond ASCII that have the same case folding as an ASCII letter. -/
def foldsTo : Char → List Char
  | 'i' => ['\u0130', '\u0131']
  | 'k' => ['\u212a']
  | 's' => ['\u017f']
  | _ => []

/-- Whether two characters are the same up to case, the second one being an ASCII character. -/
def sameLetter (c d : Char) : Bool :=
  c = d || c.toLower = d.toLower || (foldsTo d.toLower).contains c

/-- Whether a character is an ASCII letter up to case. -/
def isLetterFolded (c : Char) : Bool :=
  c.isAlpha || ['\u0130', '\u0131', '\u017f', '\u212a'].contains c

/-- Whether a character is an ASCII letter or digit up to case. -/
def isAlnumFolded (c : Char) : Bool :=
  isLetterFolded c || c.isDigit

/-! ### Combinations -/

/-- Several patterns one after the other. -/
def inOrder : List Pattern → Pattern
  | [] => nothing
  | [p] => p
  | p :: rest => seq p (inOrder rest)

/-- One of several patterns, an earlier one preferred. -/
def oneOf : List Pattern → Pattern
  | [] => one fun _ => false
  | [p] => p
  | p :: rest => either p (oneOf rest)

/-- A word. -/
def lit (word : String) : Pattern :=
  inOrder (word.toList.map fun c => one (· = c))

/-- A word in any case. -/
def litFolded (word : String) : Pattern :=
  inOrder (word.toList.map fun c => one (sameLetter · c))

/-- Any number of rounds, preferably many. -/
def many (p : Pattern) : Pattern :=
  repeated true 0 none p

/-- At least one round, preferably many. -/
def many1 (p : Pattern) : Pattern :=
  repeated true 1 none p

/-- At least `n` rounds, preferably many. -/
def atLeast (n : Nat) (p : Pattern) : Pattern :=
  repeated true n none p

/-- Exactly `n` rounds. -/
def times (n : Nat) (p : Pattern) : Pattern :=
  repeated true n (some n) p

/-- From `least` to `most` rounds, preferably many. -/
def between (least most : Nat) (p : Pattern) : Pattern :=
  repeated true least (some most) p

/-- One round, preferably, or none. -/
def optional (p : Pattern) : Pattern :=
  repeated true 0 (some 1) p

/-- Any number of rounds, preferably few. -/
def few (p : Pattern) : Pattern :=
  repeated false 0 none p

/-- A blank. -/
def blank : Pattern := one Text.isBlank

/-- A character that is not blank. -/
def ink : Pattern := one (!Text.isBlank ·)

/-- A character other than a line feed. -/
def inLine : Pattern := one (· ≠ '\n')

/-- Any character. -/
def any : Pattern := one fun _ => true

/-- A decimal digit of any script. -/
def digit : Pattern := one Text.isDecimal

/-- One of the characters in a string. -/
def oneOfChars (chars : String) : Pattern := one (among chars)

end Pattern

end PipelineAudit
