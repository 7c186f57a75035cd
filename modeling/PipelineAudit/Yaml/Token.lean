import PipelineAudit.Yaml.Cursor

/-!
# Tokens

A text consists of symbols, directives, properties of nodes and scalars.  Some symbols stand for no
character: the start of a block collection, its end, and the key symbol before a key that is only
recognized by the colon after it.
-/

namespace PipelineAudit.Yaml

/-- A version of the language, by its second number; the first one is one. -/
structure Version where
  minor : Nat := 2
  deriving DecidableEq, Repr

namespace Version

/-- Whether a version is 1.1, in which scalars have other forms. -/
def isOld (v : Version) : Bool :=
  v.minor = 1

/-- Whether a version came after 1.1. -/
def isLater (v : Version) : Bool :=
  1 < v.minor

/-- Whether the forms of scalars are known for a version: 1.1 and 1.2. -/
def isKnown (v : Version) : Bool :=
  v.minor = 1 || v.minor = 2

end Version

/-- A token without content. -/
inductive Symbol where
  | documentStart
  | documentEnd
  | streamEnd
  | blockSequenceStart
  | blockMappingStart
  | blockEnd
  | flowSequenceStart
  | flowSequenceEnd
  | flowMappingStart
  | flowMappingEnd
  | blockEntry
  | flowEntry
  | key
  | value
  deriving DecidableEq, Repr

/-- What a token holds. -/
inductive TokenContent where
  | symbol (s : Symbol)
  /-- The directive that gives the version of the language. -/
  | version (major minor : Nat)
  /-- The directive that makes a handle stand for the beginning of a tag. -/
  | tagHandle (handle start : List Char)
  | otherDirective
  | anchor (name : List Char)
  | reference (name : List Char)
  /-- A tag; without a handle, the suffix is all of it. -/
  | tag (handle : Option (List Char)) (suffix : List Char)
  | scalar (text : List Char) (plain : Bool)
  deriving DecidableEq, Repr

/-- A token and its place. -/
structure Token where
  content : TokenContent
  start : Mark
  stop : Mark
  deriving DecidableEq, Repr

/-- The name of a symbol in messages. -/
def Symbol.name : Symbol → String
  | documentStart => "<document start>"
  | documentEnd => "<document end>"
  | streamEnd => "<stream end>"
  | blockSequenceStart => "<block sequence start>"
  | blockMappingStart => "<block mapping start>"
  | blockEnd => "<block end>"
  | flowSequenceStart => "["
  | flowSequenceEnd => "]"
  | flowMappingStart => "\x7b"
  | flowMappingEnd => "\x7d"
  | blockEntry => "-"
  | flowEntry => ","
  | key => "?"
  | value => ":"

/-- The name of the kind of a token in messages. -/
def TokenContent.name : TokenContent → String
  | symbol s => s.name
  | version .. => "<directive>"
  | tagHandle .. => "<directive>"
  | otherDirective => "<directive>"
  | anchor _ => "<anchor>"
  | reference _ => "<alias>"
  | tag .. => "<tag>"
  | scalar .. => "<scalar>"

/-- Whether a token is one of some symbols. -/
def Token.isOneOf (t : Token) (symbols : List Symbol) : Bool :=
  match t.content with
  | .symbol s => symbols.contains s
  | _ => false

/-- Whether a token is a directive. -/
def Token.isDirective (t : Token) : Bool :=
  match t.content with
  | .version .. => true
  | .tagHandle .. => true
  | .otherDirective => true
  | _ => false

end PipelineAudit.Yaml
