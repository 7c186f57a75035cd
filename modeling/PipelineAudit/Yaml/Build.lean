import PipelineAudit.Document.Text
import PipelineAudit.Yaml.Merge

/-!
# Building documents

The nodes of a graph are turned into values level by level: a container is empty at first and is
filled when all containers that began before it on its level or above are filled.  Only what stands
in the place of a key is built at once, with all that it holds.  A key may be a scalar or a list of
scalars, and it may occur only once in a mapping that merges no other.

The values refer to each other by the numbers of their nodes; a document is unfolded from them at
the end, a value that contains itself becoming a reference to an enclosing container.
-/

namespace PipelineAudit.Yaml

/-- The value of a node; parts are given by the numbers of their nodes. -/
inductive Made where
  | scalar (value : Scalar)
  | list (items : List Nat)
  | mapping (entries : List (Key × Nat))

/-- Values under construction. -/
structure Building where
  graph : Graph
  version : Version
  made : List (Nat × Made) := []
  /-- The containers that are still to be filled. -/
  waiting : List Nat := []

/-- A step of the construction of values. -/
abbrev Build (α : Type) : Type := StateT Building (Except Error) α

/-! ### Unfolding -/

/-- The document that the value of a node unfolds to, inside of the containers with given numbers,
the innermost one first. -/
def unfold (made : List (Nat × Made)) : Nat → List Nat → Nat → Document
  | 0, _, _ => .null
  | fuel + 1, around, n =>
    match around.idxOf? n with
    | some level => .up level
    | none =>
      match made.lookup n with
      | none => .null
      | some (.scalar s) => .scalar s
      | some (.list items) => .list (items.map (unfold made fuel (n :: around)))
      | some (.mapping entries) =>
        .map (entries.map fun e => (e.1, unfold made fuel (n :: around) e.2))

/-- The document that the value of a node is. -/
def Building.document (b : Building) (n : Nat) : Document :=
  unfold b.made (b.made.length + 2) [] n

namespace Build

/-- The failure of a malformed text. -/
def fail {α : Type} (problem : Problem) (place : Mark) : Build α :=
  fun _ => complain problem place

/-- The failure of a scalar. -/
def failScalar {α : Type} (error : ScalarError) : Build α :=
  fun _ => .error (.scalar error)

/-- The number that stands for a container that holds itself while it is built as a key; nothing is
ever made for it. -/
def absent : Build Nat :=
  return (← get).graph.length

/-- Sets the value of a node. -/
def record (n : Nat) (value : Made) : Build Nat := do
  modify fun b => { b with made := (n, value) :: b.made.filter (·.1 ≠ n) }
  return n

/-- Puts a container in the line of those to be filled. -/
def enqueue (n : Nat) : Build Nat := do
  modify fun b => { b with waiting := b.waiting ++ [n] }
  return n

/-- The text of a node, or of the default value that a mapping holds. -/
def scalarText : Nat → Nat → Build (List Char)
  | 0, _ => return []
  | fuel + 1, n => do
    let g := (← get).graph
    match g.contentOf n with
    | .scalar text => return text
    | .sequence _ => fail (.otherNode .scalar .sequence) (g.markOf n)
    | .mapping entries =>
      match entries.find? fun e => g.tagOf e.1 = .value with
      | some (_, value) => scalarText fuel value
      | none => fail (.otherNode .scalar .mapping) (g.markOf n)

/-! ### Keys -/

/-- The key that a part of a list is, none if it is a container. -/
def partKey? (b : Building) (n : Nat) : Option Key :=
  match b.made.lookup n with
  | some (.scalar s) => some (.scalar s)
  | some _ => none
  | none => some (.scalar .null)

/-- The key that the value of a node is; the error of a list that holds containers only shows when
the key is used. -/
def key (n : Nat) : Build (Except ScalarError Key) := do
  let b ← get
  match b.made.lookup n with
  | some (.scalar s) => return .ok (.scalar s)
  | some (.list items) =>
    match items.mapM (partKey? b) with
    | some parts => return .ok (.tuple parts)
    | none => return .error .nestedKey
  | some (.mapping _) => fail .containerAsKey (b.graph.markOf n)
  | none => return .ok (.scalar .null)

/-- Adds an entry to those of a mapping.  With `check`, the key may not be among them. -/
def addEntry (check : Bool) (entries : List (Key × Nat)) (key : Key) (value : Nat) (place : Mark) :
    Build (List (Key × Nat)) := do
  match check, entries.find? (·.1.same key) with
  | true, some (_, earlier) =>
    let b ← get
    fail
      (.repeatedKey key.display (b.document value).display (b.document earlier).display) place
  | _, _ => return insertEntry entries key value

/-! ### Values -/

mutual

/-- The value of a node.  With `deep`, a container is filled at once, inside of the containers
`around`; otherwise it is put in the line of those to be filled. -/
def construct : Nat → Bool → List Nat → Nat → Build Nat
  | 0, _, _, n => return n
  | fuel + 1, deep, around, n => do
    let b ← get
    if (b.made.lookup n).isSome then return n
    else if around.contains n then absent
    else
      match b.graph.tagOf n with
      | .sequence => container fuel deep around n (.list [])
      | .mapping => container fuel deep around n (.mapping [])
      | .orderedMapping => container fuel deep around n (.mapping [])
      | tag =>
        if tag.denotesScalar then
          let text ← scalarText (b.graph.length + 1) n
          let value ← (tag.scalar b.version text (b.graph.markOf n) : Except Error Scalar)
          record n (.scalar value)
        else fail (.unknownTag tag.name) (b.graph.markOf n)

/-- The value of a container that is empty at first. -/
def container : Nat → Bool → List Nat → Nat → Made → Build Nat
  | 0, _, _, n, _ => return n
  | fuel + 1, deep, around, n, empty => do
    if deep then record n (← filled fuel true (n :: around) n)
    else
      let _ ← record n empty
      enqueue n

/-- The filled value of a container. -/
def filled : Nat → Bool → List Nat → Nat → Build Made
  | 0, _, _, _ => return .list []
  | fuel + 1, deep, around, n => do
    let g := (← get).graph
    match g.tagOf n, g.contentOf n with
    | .sequence, .sequence items =>
      return .list (← items.mapM (construct fuel deep around))
    | .mapping, .mapping _ =>
      let g ← (g.flatten n : Except Error Graph)
      modify fun b => { b with graph := g }
      match g.mergedInto? n with
      | none => return .mapping (← entries fuel deep around true [] (g.entriesOf n))
      | some merged =>
        let first ← entries fuel deep around false [] merged
        let second ← entries fuel deep around false [] (g.entriesOf n)
        return .mapping (second.foldl (fun all e => insertEntry all e.1 e.2) first)
    | .orderedMapping, .sequence items =>
      return .mapping (← ordered fuel deep around [] items)
    | .sequence, content => fail (.otherNode .sequence content.kind) (g.markOf n)
    | .orderedMapping, content => fail (.noOrderedList content.kind) (g.markOf n)
    | _, content => fail (.otherNode .mapping content.kind) (g.markOf n)

/-- The entries of a mapping, after those already made. -/
def entries : Nat → Bool → List Nat → Bool → List (Key × Nat) → List (Nat × Nat) →
    Build (List (Key × Nat))
  | _, _, _, _, done, [] => return done
  | 0, _, _, _, done, _ => return done
  | fuel + 1, deep, around, check, done, (k, v) :: rest => do
    let k' ← construct fuel true around k
    let place := (← get).graph.markOf k
    let key ← key k'
    let value ← construct fuel deep around v
    match key with
    | .error e => failScalar e
    | .ok key =>
      let done ← addEntry check done key value place
      entries fuel deep around check done rest

/-- The entries of an ordered mapping, after those already made. -/
def ordered : Nat → Bool → List Nat → List (Key × Nat) → List Nat → Build (List (Key × Nat))
  | _, _, _, done, [] => return done
  | 0, _, _, done, _ => return done
  | fuel + 1, deep, around, done, item :: rest => do
    let g := (← get).graph
    match g.contentOf item with
    | .mapping [(k, v)] =>
      let k' ← construct fuel deep around k
      match partKey? (← get) k' with
      | none => failScalar .nestedKey
      | some key =>
        if done.any (·.1.same key) then failScalar .repeatedKey
        else
          let value ← construct fuel deep around v
          ordered fuel deep around (done ++ [(key, value)]) rest
    | .mapping entries => fail (.manyOrderedEntries entries.length) (g.markOf item)
    | content => fail (.noOrderedEntry content.kind) (g.markOf item)

end

/-- More than the length of any chain of nested calls on a graph. -/
def enough (g : Graph) : Nat :=
  let size := g.size + g.length + 4
  size * size

/-- Fills the containers in the line, at most a given number of them. -/
def fillAll : Nat → Build Unit
  | 0 => return ()
  | fuel + 1 => do
    let b ← get
    match b.waiting with
    | [] => return ()
    | n :: rest =>
      set { b with waiting := rest }
      let _ ← record n (← filled (enough b.graph) false [] n)
      fillAll fuel

/-- The document that a node of a graph is the root of. -/
def document (root : Nat) : Build Document := do
  let b ← get
  let _ ← construct (enough b.graph) false [] root
  fillAll (b.graph.length + 1)
  return (← get).document root

end Build

/-- Reads a text as a document; a text without content is null. -/
def read (text : List Char) : Except Error Document :=
  match Composed.ofStream (TokenStream.ofText text) with
  | .error e => .error e
  | .ok ⟨_, none, _⟩ => .ok .null
  | .ok ⟨graph, some root, version⟩ => (Build.document root { graph, version }).map (·.1)

end PipelineAudit.Yaml
