import PipelineAudit.Pattern.Match
import PipelineAudit.Text.Basic
import PipelineAudit.Text.Case

/-!
# Sources

What a rule sees besides the document: the raw text of the configuration, its lines, numbered from
one, and the name of the platform.
-/

namespace PipelineAudit

/-- The raw text of a configuration, and the platform it is for. -/
structure Source where
  text : List Char
  platform : String

namespace Source

/-- The lines of the text. -/
def lines (s : Source) : List (List Char) :=
  Text.lines s.text

/-- The lines of the text with their numbers. -/
def numberedLines (s : Source) : List (Nat × List Char) :=
  s.lines.mapIdx fun i line => (i + 1, line)

/-- The text in lower case. -/
def lowered (s : Source) : List Char :=
  Text.lower s.text

/-- The numbers of the lines in which a pattern occurs. -/
def linesWith (s : Source) (p : Pattern) : List Nat :=
  (s.numberedLines.filter fun l => p.occursIn l.2).map (·.1)

end Source

/-- Whether the first character of a line that is not blank is a number sign. -/
def isComment (line : List Char) : Bool :=
  Text.startsWith (Text.trimLeft line) "#"

/-- Line numbers as a finding carries them. -/
def asLineNumbers (numbers : List Nat) : Option (List Int) :=
  some (numbers.map Int.ofNat)

end PipelineAudit
