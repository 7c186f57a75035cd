/-!
# Searching a text

A text is a list of characters.  `occursIn` and `occurrences` look for a word in it, `lines` and
`splitOn` cut it at a character.
-/

namespace PipelineAudit.Text

/-- Whether a word occurs in a text. -/
def occursIn (word : List Char) : List Char → Bool
  | [] => word.isEmpty
  | c :: rest => word.isPrefixOf (c :: rest) || occursIn word rest

/-- Whether a word occurs in a text. -/
def has (text : List Char) (word : String) : Bool :=
  occursIn word.toList text

/-- Whether one of several words occurs in a text. -/
def hasAny (text : List Char) (words : List String) : Bool :=
  words.any (has text)

/-- Whether a text begins with a word. -/
def startsWith (text : List Char) (word : String) : Bool :=
  word.toList.isPrefixOf text

/-- The number of occurrences of a word that do not overlap, taken from the left; the first
`skip` characters belong to the occurrence found last. -/
def occurrencesAfter (word : List Char) : Nat → List Char → Nat
  | _, [] => 0
  | skip + 1, _ :: rest => occurrencesAfter word skip rest
  | 0, c :: rest =>
    if word.isPrefixOf (c :: rest) then 1 + occurrencesAfter word (word.length - 1) rest
    else occurrencesAfter word 0 rest

/-- The number of occurrences of a nonempty word that do not overlap, taken from the left. -/
def occurrences (word : String) (text : List Char) : Nat :=
  occurrencesAfter word.toList 0 text

/-- The lines of a text: the parts between its line feeds. -/
def lines (text : List Char) : List (List Char) :=
  text.splitOn '\n'

/-- The part of a text before the first occurrence of a character, all of it if there is none. -/
def upTo (c : Char) (text : List Char) : List Char :=
  text.takeWhile (· ≠ c)

/-- The part of a text after the last occurrence of a character, all of it if there is none. -/
def afterLast (c : Char) (text : List Char) : List Char :=
  (text.reverse.takeWhile (· ≠ c)).reverse

/-- A word occurs in a text exactly when the text has it as an infix. -/
theorem occursIn_iff {word text : List Char} :
  occursIn word text ↔ word <:+: text
  := by
  induction text with
  | nil => simp [occursIn]
  | cons c rest ih => simp [occursIn, ih, List.infix_cons_iff]

theorem has_iff {text : List Char} {word : String} :
  has text word ↔ word.toList <:+: text
  := occursIn_iff

end PipelineAudit.Text
