import PipelineAudit.Document.Text
import PipelineAudit.Json.Printer

/-!
# Documents as JSON

A document becomes JSON in two steps.  `jsonSafe` copies it with keys that JSON can write, a key of
any other kind being replaced by its text, and with null in place of each reference to an enclosing
container.  `toJson` then writes all keys as names and all dates as texts.  `compactJson` is the
result on one line, `prettyJson` one item to a line.

Both steps write integers: the first those of the keys that it replaces, the second those that are
left in the copy.  A document with an integer that is too long for a step has no JSON.
-/

namespace PipelineAudit

/-- The key itself if it is null, a truth value, a number or a text, and its text otherwise. -/
def Key.jsonSafe : Key → Key
  | scalar (.date d) => ofText (Scalar.display (.date d))
  | scalar (.moment m) => ofText (Scalar.display (.moment m))
  | scalar s => scalar s
  | k => ofText k.display

/-- Whether a key can be copied: it is not replaced by a text that cannot be written. -/
def Key.isCopyable : Key → Bool
  | tuple parts => allWritable parts
  | _ => true

/-- The name under which JSON writes a key. -/
def Key.jsonName : Key → String
  | scalar .null => "null"
  | scalar (.bool b) => if b then "true" else "false"
  | scalar (.float x) => Json.floatText x
  | k => k.display

/-- The JSON value of a scalar. -/
def Scalar.toJson : Scalar → Json
  | null => .null
  | bool b => .bool b
  | int n => .int n
  | float x => .float x
  | text s => .text s
  | s => .text s.display

namespace Document

mutual

/-- A copy with keys that JSON can write, and null for each reference to an enclosing
container. -/
def jsonSafe : Document → Document
  | scalar s => scalar s
  | list items => list (jsonSafeItems items)
  | map entries => map (distinctEntries (jsonSafeEntries entries))
  | up _ => null

/-- `jsonSafe` on each of a list of documents. -/
def jsonSafeItems : List Document → List Document
  | [] => []
  | d :: rest => d.jsonSafe :: jsonSafeItems rest

/-- `jsonSafe` on the keys and values of entries. -/
def jsonSafeEntries : List (Key × Document) → List (Key × Document)
  | [] => []
  | (k, d) :: rest => (k.jsonSafe, d.jsonSafe) :: jsonSafeEntries rest

end

mutual

/-- Whether the keys of a document can be copied. -/
def isCopyable : Document → Bool
  | scalar _ => true
  | list items => itemsCopyable items
  | map entries => entriesCopyable entries
  | up _ => true

/-- Whether the keys of each of a list of documents can be copied. -/
def itemsCopyable : List Document → Bool
  | [] => true
  | d :: rest => d.isCopyable && itemsCopyable rest

/-- Whether the keys of entries, and those of their values, can be copied. -/
def entriesCopyable : List (Key × Document) → Bool
  | [] => true
  | (k, d) :: rest => k.isCopyable && d.isCopyable && entriesCopyable rest

end

/-- The copy of a document, if the keys that it replaces can be written. -/
def copy (d : Document) : Except Failure Document :=
  ifWritable d.isCopyable d.jsonSafe

mutual

/-- The JSON value of a document without references. -/
def toJson : Document → Json
  | scalar s => s.toJson
  | list items => .list (jsonItems items)
  | map entries => .object (jsonMembers entries)
  | up _ => .null

/-- The JSON values of a list of documents. -/
def jsonItems : List Document → List Json
  | [] => []
  | d :: rest => d.toJson :: jsonItems rest

/-- The JSON members of entries. -/
def jsonMembers : List (Key × Document) → List (String × Json)
  | [] => []
  | (k, d) :: rest => (k.jsonName, d.toJson) :: jsonMembers rest

end

/-- The document as JSON in a given form, if it can be written. -/
def jsonText (form : Json → List Char) (d : Document) : Except Failure (List Char) :=
  d.copy.bind fun copied => ifWritable copied.isWritable (form copied.toJson)

/-- The document as JSON on one line. -/
def compactJson (d : Document) : Except Failure (List Char) :=
  d.jsonText Json.compact

/-- The document as JSON, one item to a line. -/
def prettyJson (d : Document) : Except Failure (List Char) :=
  d.jsonText Json.pretty

end Document

end PipelineAudit
