import PipelineAudit.Document.Basic
import PipelineAudit.Text.Numeral

/-!
# Access to the parts of a document

The parts of a document are taken out of it as documents of their own: a reference that leaves the
part is replaced by the container it leads to, in which the part itself becomes a reference.  A
closed part is just the subtree.

The accessors never fail on an unexpected shape: what is no mapping has no entries, what is no list
has no items.  Only following a path can fail, on a segment made of digits that form no numeral, or
of too many digits.
-/

namespace PipelineAudit.Document

/-! ### Taking out a part -/

/-- The container with one of its direct parts replaced. -/
def withPart (container : Document) (index : Nat) (part : Document) : Document :=
  match container with
  | list items => list (items.set index part)
  | map entries => map (entries.modify index fun e => (e.1, part))
  | d => d

mutual

/-- A part in which each reference to the container around it is replaced by that container;
`around n` is the container, with `n` as reference to the part. -/
def graft (around : Nat → Document) (depth : Nat) : Document → Document
  | scalar s => scalar s
  | list items => list (graftItems around (depth + 1) items)
  | map entries => map (graftEntries around (depth + 1) entries)
  | up level => if level = depth then around depth else up level

/-- `graft` on each of a list of documents. -/
def graftItems (around : Nat → Document) (depth : Nat) : List Document → List Document
  | [] => []
  | d :: rest => d.graft around depth :: graftItems around depth rest

/-- `graft` on each value of a list of entries. -/
def graftEntries (around : Nat → Document) (depth : Nat) :
    List (Key × Document) → List (Key × Document)
  | [] => []
  | (k, d) :: rest => (k, d.graft around depth) :: graftEntries around depth rest

end

/-- A direct part of a container, as a document of its own. -/
def takeOut (container : Document) (index : Nat) (part : Document) : Document :=
  part.graft (fun level => container.withPart index (up level)) 0

/-- The entries of a mapping, none if the document is no mapping. -/
def entries (d : Document) : List (Key × Document) :=
  match d with
  | map es => es.mapIdx fun i e => (e.1, d.takeOut i e.2)
  | _ => []

/-- The items of a list, none if the document is no list. -/
def items (d : Document) : List Document :=
  match d with
  | list ds => ds.mapIdx fun i e => d.takeOut i e
  | _ => []

/-- The values of a mapping. -/
def values (d : Document) : List Document :=
  d.entries.map (·.2)

/-- The document itself if it is a mapping, and the empty mapping otherwise. -/
def asMap : Document → Document
  | map entries => map entries
  | _ => map []

theorem asMap_of_isMap {d : Document} (h : d.isMap) :
  d.asMap = d
  := by
  cases d with
  | map entries => rfl
  | _ => cases h

/-- The document itself if it is a list, and the empty list otherwise. -/
def asList : Document → Document
  | list items => list items
  | _ => list []

/-! ### Looking up -/

/-- The value of a key of a mapping. -/
def find? (d : Document) (key : Key) : Option Document :=
  (d.entries.find? (·.1.same key)).map (·.2)

/-- The value that a mapping has under a name. -/
def get? (d : Document) (name : String) : Option Document :=
  (d.entries.find? (·.1.isText name)).map (·.2)

/-- The value that a mapping has under a name, null if it has none. -/
def get (d : Document) (name : String) : Document :=
  (d.get? name).getD null

/-- The value that a mapping has under the key `true`. -/
def getTrue? (d : Document) : Option Document :=
  d.find? (.scalar (.bool true))

/-- Whether a mapping has an entry of a given name. -/
def has (d : Document) (name : String) : Bool :=
  (d.get? name).isSome

/-- Whether the value under a name counts as true. -/
def sets (d : Document) (name : String) : Bool :=
  (d.get name).truthy

/-! ### Paths -/

/-- What can go wrong on a path: a segment consists of digits but is no numeral, or they are too
many. -/
inductive PathError where
  | notANumeral (segment : String)
  | tooManyDigits (count : Nat)
  deriving DecidableEq, Repr

/-- What went wrong on a path, in words. -/
def PathError.message : PathError → String
  | .notANumeral segment => Text.notANumeral segment
  | .tooManyDigits count => Text.tooManyDigits count

/-- The index that a segment of a path denotes, none if it does not consist of digits. -/
def index? (segment : List Char) : Except PathError (Option Nat) :=
  if segment.isEmpty || !segment.all Text.isDigit then .ok none
  else
    match Text.natural? segment with
    | some n =>
      let count := Text.digitCount segment
      if Text.mostDigits < count then .error (.tooManyDigits count) else .ok (some n)
    | none => .error (.notANumeral (String.ofList segment))

/-- One step along a path: into a mapping by name, into a list by index. -/
def step (d : Document) (segment : List Char) : Except PathError (Option Document) :=
  match d with
  | map _ => .ok (d.get? (String.ofList segment))
  | list _ => (index? segment).map fun i => i.bind fun n => d.items[n]?
  | _ => .ok none

/-- The part of a document at the end of a sequence of steps. -/
def follow (d : Document) : List (List Char) → Except PathError (Option Document)
  | [] => .ok (some d)
  | segment :: rest =>
    match d.step segment with
    | .error e => .error e
    | .ok none => .ok none
    | .ok (some part) => part.follow rest

/-- The part of a document at the end of a path, whose segments are separated by dots. -/
def path? (d : Document) (path : String) : Except PathError (Option Document) :=
  d.follow (path.toList.splitOn '.')

/-- The part of a document at the end of a path, and a default if there is none. -/
def partAt (d : Document) (path : String) (default : Document := null) :
    Except PathError Document :=
  (d.path? path).map (·.getD default)

/-! ### Closed parts -/

mutual

theorem graft_of_closedUnder (around : Nat → Document) (depth : Nat) {d : Document}
    (h : d.closedUnder depth) :
  d.graft around depth = d
  := by
  match d with
  | scalar _ => rfl
  | list ds => rw [graft, graftItems_of_allClosedUnder around (depth + 1) h]
  | map es => rw [graft, graftEntries_of_allEntriesClosedUnder around (depth + 1) h]
  | up level =>
    have hl : level < depth := of_decide_eq_true h
    rw [graft, if_neg (Nat.ne_of_lt hl)]

theorem graftItems_of_allClosedUnder (around : Nat → Document) (depth : Nat)
    {ds : List Document} (h : allClosedUnder depth ds) :
  graftItems around depth ds = ds
  := by
  match ds with
  | [] => rfl
  | d :: rest =>
    rw [allClosedUnder, Bool.and_eq_true] at h
    rw [graftItems, graft_of_closedUnder around depth h.1,
      graftItems_of_allClosedUnder around depth h.2]

theorem graftEntries_of_allEntriesClosedUnder (around : Nat → Document) (depth : Nat)
    {es : List (Key × Document)} (h : allEntriesClosedUnder depth es) :
  graftEntries around depth es = es
  := by
  match es with
  | [] => rfl
  | (k, d) :: rest =>
    rw [allEntriesClosedUnder, Bool.and_eq_true] at h
    rw [graftEntries, graft_of_closedUnder around depth h.1,
      graftEntries_of_allEntriesClosedUnder around depth h.2]

end

theorem takeOut_of_isClosed {d : Document} (h : d.isClosed) (container : Document) (i : Nat) :
  container.takeOut i d = d
  := graft_of_closedUnder _ 0 h

/-- The entries of a mapping that is written with closed values are those it is written with. -/
theorem entries_map_of_isClosed {es : List (Key × Document)} (h : ∀ e ∈ es, e.2.isClosed) :
  (map es).entries = es
  := by
  apply List.ext_getElem
  · simp [entries]
  · intro i _ hi
    simp [entries, takeOut_of_isClosed (h _ (List.getElem_mem hi))]

/-- The items of a list that is written with closed items are those it is written with. -/
theorem items_list_of_isClosed {ds : List Document} (h : ∀ d ∈ ds, d.isClosed) :
  (list ds).items = ds
  := by
  apply List.ext_getElem
  · simp [items]
  · intro i _ hi
    simp [items, takeOut_of_isClosed (h _ (List.getElem_mem hi))]

end PipelineAudit.Document
