import PipelineAudit.Calendar
import PipelineAudit.Text.Numeral
import PipelineAudit.Yaml.Token

/-!
# What can be wrong with a text

A text can be malformed: it breaks the grammar, its tags or aliases lead nowhere, or a mapping
cannot be built.  A well-formed text can still hold a scalar that denotes nothing, such as a day
that the calendar lacks; these are the scalar errors.
-/

namespace PipelineAudit.Yaml

/-! ### Scalar errors -/

/-- Why a scalar denotes no value, or a key cannot be one. -/
inductive ScalarError where
  | calendar (error : CalendarError)
  | notANumeral (base : Nat) (text : List Char)
  | tooManyDigits (count : Nat)
  | notADecimal (text : List Char)
  | noTruthWord
  | noDigits
  /-- The version of the language does not say what scalars denote. -/
  | unknownVersion
  /-- A code beyond the last character, far beyond it or not. -/
  | noCharacter (far : Bool)
  /-- A key is a list that holds containers. -/
  | nestedKey
  /-- A key occurs twice in an ordered mapping. -/
  | repeatedKey
  deriving DecidableEq, Repr

/-- A scalar error in words. -/
def ScalarError.message : ScalarError → String
  | calendar error => error.message
  | notANumeral base text =>
    "invalid literal for int() with base " ++ toString base ++ ": " ++
      String.ofList ((Text.quoted text).take 200)
  | tooManyDigits count => Text.tooManyDigits count
  | notADecimal text => "could not convert string to float: " ++ String.ofList (Text.quoted text)
  | noTruthWord => "no truth word"
  | noDigits => "no digits"
  | unknownVersion => "unknown version"
  | noCharacter _ => "chr() arg not in range(0x110000)"
  | nestedKey => "unhashable type: 'list'"
  | repeatedKey => ""

/-! ### Malformed texts -/

/-- What should have followed at a place. -/
inductive Wanted where
  | nameCharacter
  | digit
  | digitOrPoint
  | space
  | exclamationMark
  | uri
  | uriEscape
  | blockHeader
  | lineEnd
  | hexDigits (count : Nat)
  deriving DecidableEq, Repr

/-- What should have followed, in words. -/
def Wanted.name : Wanted → String
  | nameCharacter => "alphabetic or numeric character"
  | digit => "a digit"
  | digitOrPoint => "a digit or '.'"
  | space => "' '"
  | exclamationMark => "'!'"
  | uri => "URI"
  | uriEscape => "URI escape sequence of 2 hexdecimal numbers"
  | blockHeader => "chomping or indentation indicators"
  | lineEnd => "a comment or a line break"
  | hexDigits count => "escape sequence of " ++ toString count ++ " hexdecimal numbers"

/-- The kind of a node. -/
inductive NodeKind where
  | scalar
  | sequence
  | mapping
  deriving DecidableEq, Repr

/-- The name of a kind of node. -/
def NodeKind.name : NodeKind → String
  | scalar => "scalar"
  | sequence => "sequence"
  | mapping => "mapping"

/-- Why the bytes that a tag escapes are no UTF-8. -/
inductive ByteProblem where
  | badStart
  | badContinuation
  | incomplete
  deriving DecidableEq, Repr

/-- Why bytes are no UTF-8, in words. -/
def ByteProblem.message : ByteProblem → String
  | badStart => "invalid start byte"
  | badContinuation => "invalid continuation byte"
  | incomplete => "unexpected end of data"

/-- Why a text is malformed. -/
inductive Problem where
  /-- A character that no text may contain, and its index. -/
  | unacceptable (c : Char) (index : Nat)
  | cannotStart (found : Option Char)
  | expected (wanted : Wanted) (found : Option Char)
  /-- The second character that should have enclosed a tag. -/
  | unclosed (wanted : Char) (found : Option Char)
  | badBytes (first : Nat) (start stop : Nat) (problem : ByteProblem)
  | noColon
  | sequenceEntryHere
  | mappingKeyHere
  | mappingValueHere
  | zeroIndentation
  /-- The first lines of a block scalar are blank, and a later one has more spaces. -/
  | moreIndented (place : Mark)
  | unknownEscape (found : Option Char)
  | endInScalar
  | separatorInScalar
  | repeatedVersion
  | otherVersion
  | repeatedHandle (handle : List Char)
  | noDocumentStart (found : TokenContent)
  | contentAfterEnd (found : TokenContent)
  | noBlockEnd (found : TokenContent)
  | noFlowEntry (closing : Symbol) (found : TokenContent)
  | noContent (found : TokenContent)
  | unknownHandle (handle : List Char)
  | unknownAlias (name : List Char)
  | anotherDocument
  | unknownTag (tag : List Char)
  | otherNode (wanted found : NodeKind)
  | noOrderedList (found : NodeKind)
  | noOrderedEntry (found : NodeKind)
  | manyOrderedEntries (count : Nat)
  | badTimestamp (text : List Char)
  | containerAsKey
  | repeatedKey (key value earlier : String)
  | repeatedMerge (key : List Char)
  | noMerge (found : NodeKind)
  | noMergeItem (found : NodeKind)
  deriving DecidableEq, Repr

/-- A character that was found, or the end of the text, in messages. -/
def foundText (found : Option Char) : String :=
  String.ofList (Text.quoted [found.getD '\x00'])

/-- A text in quotation marks. -/
def quotedText (text : List Char) : String :=
  String.ofList (Text.quoted text)

/-- The digits of a number to base sixteen, at least four of them. -/
def codeText (c : Char) : String :=
  String.ofList (Text.hexDigits (max 4 (Nat.toDigits 16 c.toNat).length) c.toNat)

/-- The bytes from one position to the one before another, in messages. -/
def bytesText (first start stop : Nat) : String :=
  if stop ≤ start + 1 then
    "byte 0x" ++ String.ofList (Text.hexDigits 2 first) ++ " in position " ++ toString start
  else "bytes in position " ++ toString start ++ "-" ++ toString (stop - 1)

/-- A problem in words. -/
def Problem.message : Problem → String
  | unacceptable c index =>
    "unacceptable character #x" ++ codeText c ++
      ": special characters are not allowed\n  in \"<file>\", position " ++ toString index
  | cannotStart found =>
    "found character " ++ foundText found ++ " that cannot start any token"
  | expected wanted found => "expected " ++ wanted.name ++ ", but found " ++ foundText found
  | unclosed wanted found =>
    "expected " ++ foundText (some wanted) ++ " but found " ++ foundText found
  | badBytes first start stop problem =>
    "'utf-8' codec can't decode " ++ bytesText first start stop ++ ": " ++ problem.message
  | noColon => "could not find expected ':'"
  | sequenceEntryHere => "sequence entries are not allowed here"
  | mappingKeyHere => "mapping keys are not allowed here"
  | mappingValueHere => "mapping values are not allowed here"
  | zeroIndentation => "expected indentation indicator in the range 1-9, but found 0"
  | moreIndented place =>
    "more indented follow up line than first in a block scalar\n  in \"<file>\", line " ++
      toString (place.line + 1) ++ ", column " ++ toString (place.column + 1)
  | unknownEscape found => "found unknown escape character " ++ foundText found
  | endInScalar => "found unexpected end of stream"
  | separatorInScalar => "found unexpected document separator"
  | repeatedVersion => "found duplicate YAML directive"
  | otherVersion => "found incompatible YAML document (version 1.* is required)"
  | repeatedHandle handle => "duplicate tag handle " ++ quotedText handle
  | noDocumentStart found => "expected '<document start>', but found ('" ++ found.name ++ "',)"
  | contentAfterEnd found =>
    "found non-comment content after document end marker, ('" ++ found.name ++ "',)"
  | noBlockEnd found => "expected <block end>, but found '" ++ found.name ++ "'"
  | noFlowEntry closing found =>
    "expected ',' or '" ++ closing.name ++ "', but got '" ++ found.name ++ "'"
  | noContent found => "expected the node content, but found '" ++ found.name ++ "'"
  | unknownHandle handle => "found undefined tag handle " ++ quotedText handle
  | unknownAlias name => "found undefined alias " ++ quotedText name
  | anotherDocument => "but found another document"
  | unknownTag tag => "could not determine a constructor for the tag " ++ quotedText tag
  | otherNode wanted found =>
    "expected a " ++ wanted.name ++ " node, but found " ++ found.name
  | noOrderedList found => "expected a sequence, but found " ++ found.name
  | noOrderedEntry found => "expected a mapping of length 1, but found " ++ found.name
  | manyOrderedEntries count =>
    "expected a single mapping item, but found " ++ toString count ++ " items"
  | badTimestamp text =>
    "failed to construct timestamp from \"" ++ String.ofList text ++ "\""
  | containerAsKey => "found unhashable key"
  | repeatedKey key value earlier =>
    "found duplicate key \"" ++ key ++ "\" with value \"" ++ value ++ "\" (original value: \"" ++
      earlier ++ "\")"
  | repeatedMerge key => "found duplicate key \"" ++ String.ofList key ++ "\""
  | noMerge found =>
    "expected a mapping or list of mappings for merging, but found " ++ found.name
  | noMergeItem found => "expected a mapping for merging, but found " ++ found.name

/-- Why a text cannot be read. -/
inductive Error where
  /-- The text is malformed, usually at a place. -/
  | malformed (problem : Problem) (place : Option Mark)
  | scalar (error : ScalarError)
  deriving DecidableEq, Repr

/-- The result of a malformed text. -/
def complain {α : Type} (problem : Problem) (place : Mark) : Except Error α :=
  .error (.malformed problem (some place))

end PipelineAudit.Yaml
