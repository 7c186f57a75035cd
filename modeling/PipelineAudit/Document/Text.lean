import PipelineAudit.Document.Basic
import PipelineAudit.Failure
import PipelineAudit.Text.Numeral

/-!
# The text of a document

Keys and values are named in messages by a text: a text is itself, and lists, mappings and tuples
are written with brackets, their texts quoted, dates in constructor form.  A reference to an
enclosing container that is being written shows as dots in brackets; one to a container further out
does not occur in a closed document.

`display` is that text, whatever the length of the integers in it.  `write` is the text, or the
failure if an integer in it has more digits than can be written.
-/

namespace PipelineAudit

/-! ### The limit on integers -/

/-- Whether an integer has no more digits than can be written. -/
def isWritableInteger (n : Int) : Bool :=
  n.natAbs < Nat.pow 10 Text.mostDigits

/-- The text of an integer, if it can be written. -/
def integerText (n : Int) : Except Failure String :=
  ifWritable (isWritableInteger n) (toString n)

/-- Whether a scalar can be written. -/
def Scalar.isWritable : Scalar → Bool
  | int n => isWritableInteger n
  | _ => true

namespace Key

mutual

/-- Whether a key can be written: no integer in it is too long. -/
def isWritable : Key → Bool
  | scalar s => s.isWritable
  | tuple parts => allWritable parts

/-- Whether each of some keys can be written. -/
def allWritable : List Key → Bool
  | [] => true
  | k :: rest => k.isWritable && allWritable rest

end

end Key

namespace Document

mutual

/-- Whether a document can be written: no integer in it is too long. -/
def isWritable : Document → Bool
  | scalar s => s.isWritable
  | list items => itemsWritable items
  | map entries => entriesWritable entries
  | up _ => true

/-- Whether each of a list of documents can be written. -/
def itemsWritable : List Document → Bool
  | [] => true
  | d :: rest => d.isWritable && itemsWritable rest

/-- Whether the keys and values of entries can be written. -/
def entriesWritable : List (Key × Document) → Bool
  | [] => true
  | (k, d) :: rest => k.isWritable && d.isWritable && entriesWritable rest

end

end Document

/-! ### Texts -/

/-- The form of a scalar inside of brackets. -/
def Scalar.literal : Scalar → String
  | null => "None"
  | bool b => if b then "True" else "False"
  | int n => toString n
  | float x => Decimal.shortest x
  | text s => Text.quote s
  | date d => d.literal
  | moment m => m.literal

/-- The text of a scalar. -/
def Scalar.display : Scalar → String
  | text s => s
  | date d => String.ofList d.text
  | moment m => String.ofList m.text
  | s => s.literal

/-- Texts separated by commas. -/
def commaSeparated (parts : List String) : String :=
  ", ".intercalate parts

namespace Key

mutual

/-- The form of a key inside of brackets. -/
def literal : Key → String
  | scalar s => s.literal
  | tuple parts =>
    match parts with
    | [p] => "(" ++ p.literal ++ ",)"
    | ps => "(" ++ commaSeparated (literals ps) ++ ")"

/-- The forms of the parts of a tuple. -/
def literals : List Key → List String
  | [] => []
  | k :: rest => k.literal :: literals rest

end

/-- The text of a key. -/
def display : Key → String
  | scalar s => s.display
  | k => k.literal

/-- The text of a key, if it can be written. -/
def write (k : Key) : Except Failure String :=
  ifWritable k.isWritable k.display

end Key

namespace Document

/-- How a container that is being written shows inside of itself: whether it is a mapping decides
the brackets. -/
def recursionMark (mapping : Bool) : String :=
  if mapping then "\x7b...\x7d" else "[...]"

mutual

/-- The form of a document inside of brackets; `around` says which of the containers around it,
from the inside out, are mappings. -/
def literalIn (around : List Bool) : Document → String
  | scalar s => s.literal
  | list items => "[" ++ commaSeparated (itemLiterals (false :: around) items) ++ "]"
  | map entries => "\x7b" ++ commaSeparated (entryLiterals (true :: around) entries) ++ "\x7d"
  | up level => recursionMark (around.getD level true)

/-- The forms of the items of a list. -/
def itemLiterals (around : List Bool) : List Document → List String
  | [] => []
  | d :: rest => d.literalIn around :: itemLiterals around rest

/-- The forms of the entries of a mapping. -/
def entryLiterals (around : List Bool) : List (Key × Document) → List String
  | [] => []
  | (k, d) :: rest => (k.literal ++ ": " ++ d.literalIn around) :: entryLiterals around rest

end

/-- The text of a document. -/
def display : Document → String
  | scalar s => s.display
  | d => d.literalIn []

/-- The text of a document, if it can be written. -/
def write (d : Document) : Except Failure String :=
  ifWritable d.isWritable d.display

end Document

end PipelineAudit
