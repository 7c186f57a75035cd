import PipelineAudit.Calendar
import PipelineAudit.Decimal.Shortest

/-!
# Documents

A document is an untyped tree of scalars, lists and mappings.  Mappings keep the order of their
entries, and their keys may be any scalars or tuples of keys.  A list or mapping may contain
itself: `Document.up n` stands for an enclosing container, `up 0` for the one it lies in directly.
A document is closed if each such reference stays inside of it, and every document that a
configuration is read into is.

Keys are compared by value: the numbers `1` and `1.0` and the truth value `true` are the same key.
-/

namespace PipelineAudit

/-- A value without parts. -/
inductive Scalar where
  | null
  | bool (value : Bool)
  | int (value : Int)
  | float (value : Float)
  | text (value : String)
  | date (value : Date)
  | moment (value : Moment)
  deriving Inhabited

/-- A key of a mapping. -/
inductive Key where
  | scalar (value : Scalar)
  | tuple (parts : List Key)
  deriving Inhabited

/-- An untyped tree, possibly with references to enclosing containers. -/
inductive Document where
  | scalar (value : Scalar)
  | list (items : List Document)
  | map (entries : List (Key × Document))
  | up (level : Nat)
  deriving Inhabited

namespace Scalar

/-- The number that a scalar is, if it is finite; truth values count as zero and one. -/
def number? : Scalar → Option Rat
  | bool b => some (if b then 1 else 0)
  | int n => some n
  | float x => Decimal.toRat? x
  | _ => none

/-- The infinity that a scalar is: whether it is the negative one. -/
def infinite? : Scalar → Option Bool
  | float x =>
    match Decimal.Binary.ofFloat x with
    | .infinite negative => some negative
    | _ => none
  | _ => none

/-- Whether two scalars are equal as values. -/
def same : Scalar → Scalar → Bool
  | null, null => true
  | text a, text b => a = b
  | date a, date b => a = b
  | moment a, moment b => a.same b
  | a, b =>
    match a.number?, b.number? with
    | some x, some y => x = y
    | _, _ =>
      match a.infinite?, b.infinite? with
      | some x, some y => x = y
      | _, _ => false

/-- Whether a scalar counts as true: it is neither null, false, zero nor the empty text. -/
def truthy : Scalar → Bool
  | null => false
  | bool b => b
  | int n => n ≠ 0
  | float x => Decimal.isNonzero x
  | text s => !s.isEmpty
  | date _ => true
  | moment _ => true

end Scalar

namespace Key

mutual

/-- Whether two keys are equal as values. -/
def same : Key → Key → Bool
  | scalar a, scalar b => a.same b
  | tuple as, tuple bs => sameList as bs
  | _, _ => false

/-- Whether two tuples are equal as values. -/
def sameList : List Key → List Key → Bool
  | [], [] => true
  | a :: as, b :: bs => same a b && sameList as bs
  | _, _ => false

end

/-- The key that is a text. -/
def ofText (s : String) : Key :=
  .scalar (.text s)

/-- Whether the key is a given text. -/
def isText (name : String) : Key → Bool
  | scalar (.text s) => s = name
  | _ => false

end Key

/-- Entries with one more: an equal key keeps its place and its spelling and takes the new
value. -/
def insertEntry {α : Type} (entries : List (Key × α)) (key : Key) (value : α) :
    List (Key × α) :=
  if entries.any (·.1.same key) then
    entries.map fun e => if e.1.same key then (e.1, value) else e
  else entries ++ [(key, value)]

/-- The entries of a mapping written as a list of pairs. -/
def distinctEntries {α : Type} (pairs : List (Key × α)) : List (Key × α) :=
  pairs.foldl (fun entries p => insertEntry entries p.1 p.2) []

namespace Document

/-- The null document. -/
abbrev null : Document := .scalar .null

/-- The document that is a text. -/
abbrev text (s : String) : Document := .scalar (.text s)

/-- Whether the document is null. -/
def isNull : Document → Bool
  | scalar .null => true
  | _ => false

/-- Whether the document is a mapping. -/
def isMap : Document → Bool
  | map _ => true
  | _ => false

/-- Whether the document is a list. -/
def isList : Document → Bool
  | list _ => true
  | _ => false

/-- The text that the document is. -/
def text? : Document → Option String
  | scalar (.text s) => some s
  | _ => none

/-- Whether a document counts as true: it is neither a false scalar nor an empty container. -/
def truthy : Document → Bool
  | scalar s => s.truthy
  | list items => !items.isEmpty
  | map entries => !entries.isEmpty
  | up _ => true

/-! ### Finite trees -/

mutual

/-- Whether the document has no reference to an enclosing container. -/
def isTree : Document → Bool
  | scalar _ => true
  | list items => allTrees items
  | map entries => allTreeEntries entries
  | up _ => false

/-- Whether no item has a reference to an enclosing container. -/
def allTrees : List Document → Bool
  | [] => true
  | d :: rest => d.isTree && allTrees rest

/-- Whether no value has a reference to an enclosing container. -/
def allTreeEntries : List (Key × Document) → Bool
  | [] => true
  | (_, d) :: rest => d.isTree && allTreeEntries rest

end

/-! ### Closed documents -/

mutual

/-- Whether the references of a part that lies inside `depth` containers stay within them. -/
def closedUnder (depth : Nat) : Document → Bool
  | scalar _ => true
  | list items => allClosedUnder (depth + 1) items
  | map entries => allEntriesClosedUnder (depth + 1) entries
  | up level => level < depth

/-- Whether the references of items that lie inside `depth` containers stay within them. -/
def allClosedUnder (depth : Nat) : List Document → Bool
  | [] => true
  | d :: rest => d.closedUnder depth && allClosedUnder depth rest

/-- Whether the references of values that lie inside `depth` containers stay within them. -/
def allEntriesClosedUnder (depth : Nat) : List (Key × Document) → Bool
  | [] => true
  | (_, d) :: rest => d.closedUnder depth && allEntriesClosedUnder depth rest

end

/-- Whether the references of a document stay inside of it. -/
def isClosed (d : Document) : Bool :=
  d.closedUnder 0

mutual

/-- The number of containers of a document. -/
def containers : Document → Nat
  | scalar _ => 0
  | list items => 1 + itemContainers items
  | map entries => 1 + entryContainers entries
  | up _ => 0

/-- The number of containers in a list of documents. -/
def itemContainers : List Document → Nat
  | [] => 0
  | d :: rest => d.containers + itemContainers rest

/-- The number of containers in the values of entries. -/
def entryContainers : List (Key × Document) → Nat
  | [] => 0
  | (_, d) :: rest => d.containers + entryContainers rest

end

end Document

end PipelineAudit
