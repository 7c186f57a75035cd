import PipelineAudit.Yaml.Scalar
import PipelineAudit.Yaml.TokenStream

/-!
# Nodes

The tokens of a text make up a graph of nodes: scalars, sequences and mappings.  Nodes are numbered
in the order in which they begin; a container refers to its parts by their numbers, so that an alias
is just one more reference to a node, and a container may contain itself.
-/

namespace PipelineAudit.Yaml

/-- What a node consists of; parts are given by their numbers. -/
inductive Content where
  | scalar (text : List Char)
  | sequence (items : List Nat)
  | mapping (entries : List (Nat × Nat))
  deriving DecidableEq, Repr

/-- The kind of a content. -/
def Content.kind : Content → NodeKind
  | scalar _ => .scalar
  | sequence _ => .sequence
  | mapping _ => .mapping

/-- A node. -/
structure Node where
  tag : Tag
  content : Content
  mark : Mark
  /-- The entries that were merged into a mapping, if any were. -/
  merged : Option (List (Nat × Nat)) := none
  deriving DecidableEq, Repr

/-- Nodes by their numbers. -/
abbrev Graph : Type := List Node

/-! ### Composing -/

/-- A graph under construction, and the tokens that are left. -/
structure Composition where
  stream : TokenStream
  nodes : Graph := []
  anchors : List (List Char × Nat) := []
  version : Version := {}
  /-- The handles of tags, with the beginnings that they stand for. -/
  handles : List (List Char × List Char) := []

/-- A step of the construction of a graph. -/
abbrev Compose (α : Type) : Type := StateT Composition (Except Error) α

namespace Compose

/-- The failure of a malformed text. -/
def fail {α : Type} (problem : Problem) (place : Mark) : Compose α :=
  fun _ => complain problem place

/-- The next token. -/
def peek : Compose Token := fun s =>
  match s.stream.tokens with
  | t :: _ => .ok (t, s)
  | [] => .error (s.stream.fault.getD (.malformed .endInScalar none))

/-- The next token, which is used up. -/
def take : Compose Token := do
  let t ← peek
  modify fun s => { s with stream := { s.stream with tokens := s.stream.tokens.tail } }
  return t

/-- Whether the next token is one of some symbols. -/
def sees (symbols : List Symbol) : Compose Bool :=
  return (← peek).isOneOf symbols

/-! ### New nodes -/

/-- A new node, which an anchor may name. -/
def add (node : Node) (anchor : Option (List Char)) : Compose Nat := fun s =>
  let n := s.nodes.length
  .ok (n, { s with
    nodes := s.nodes ++ [node]
    anchors := anchor.toList.map (·, n) ++ s.anchors })

/-- Gives a node its content. -/
def fill (n : Nat) (content : Content) : Compose Nat := do
  modify fun s => { s with nodes := s.nodes.modify n fun node => { node with content } }
  return n

/-- The tag that a plain scalar gets by its form. -/
def tagOfForm (text : List Char) : Compose Tag := do
  let version := (← get).version
  if version.isKnown then return Tag.ofForm version text
  else fun _ => .error (.scalar .unknownVersion)

/-- A node without content. -/
def empty (place : Mark) : Compose Nat := do
  add ⟨← tagOfForm [], .scalar [], place, none⟩ none

/-- The node that an alias stands for. -/
def aliased (name : List Char) (place : Mark) : Compose Nat := do
  match (← get).anchors.lookup name with
  | some n => return n
  | none => fail (.unknownAlias name) place

/-! ### Properties -/

/-- The properties of a node: its anchor, its tag written out in full, and where they begin. -/
structure Properties where
  anchor : Option (List Char) := none
  tag : Option (List Char) := none
  start : Option Mark := none

/-- The tag that a handle and a suffix stand for. -/
def fullTag (handle : Option (List Char)) (suffix : List Char) (place : Mark) :
    Compose (List Char) := do
  match handle with
  | none => return suffix
  | some h =>
    match (← get).handles.lookup h with
    | some start => return start ++ suffix
    | none => fail (.unknownHandle h) place

/-- The properties before the content of a node, in any order. -/
def properties : Compose Properties := do
  let first ← peek
  match first.content with
  | .anchor name =>
    let _ ← take
    let second ← peek
    match second.content with
    | .tag handle suffix =>
      let _ ← take
      let tag ← fullTag handle suffix second.start
      return { anchor := name, tag := tag, start := first.start }
    | _ => return { anchor := name, start := first.start }
  | .tag handle suffix =>
    let _ ← take
    let second ← peek
    match second.content with
    | .anchor name =>
      let _ ← take
      let tag ← fullTag handle suffix second.start
      return { anchor := name, tag := tag, start := second.start }
    | _ => return { tag := (← fullTag handle suffix first.start), start := first.start }
  | _ => return {}

/-- Whether a node gets its tag by its form: it has no tag, or just an exclamation mark. -/
def Properties.untagged (p : Properties) : Bool :=
  p.tag.all (· = ['!'])

/-- The tag of a container. -/
def Properties.tagOr (p : Properties) (default : Tag) : Tag :=
  if p.untagged then default else (p.tag.map Tag.ofName).getD default

/-- The tag of a scalar. -/
def Properties.scalarTag (p : Properties) (text : List Char) (plain : Bool) : Compose Tag :=
  match p.tag with
  | none => if plain then tagOfForm text else return .string
  | some name => if name = ['!'] then tagOfForm text else return Tag.ofName name

/-! ### Content -/

mutual

/-- The node at the next token.  A block collection can only be a node where `block` says so, and
entries without an indentation of their own only where `indentless` says so. -/
def node : Nat → Bool → Bool → Compose Nat
  | 0, _, _ => do fail (.noContent (← peek).content) (← peek).start
  | fuel + 1, block, indentless => do
    let first ← peek
    match first.content with
    | .reference name =>
      let _ ← take
      aliased name first.start
    | _ =>
      let p ← properties
      let t ← peek
      let mark := p.start.getD t.start
      let sequence (items : Compose (List Nat)) : Compose Nat := do
        let n ← add ⟨p.tagOr .sequence, .sequence [], mark, none⟩ p.anchor
        fill n (.sequence (← items))
      let mapping (entries : Compose (List (Nat × Nat))) : Compose Nat := do
        let n ← add ⟨p.tagOr .mapping, .mapping [], mark, none⟩ p.anchor
        fill n (.mapping (← entries))
      match t.content, block with
      | .scalar text plain, _ =>
        let _ ← take
        add ⟨← p.scalarTag text plain, .scalar text, mark, none⟩ p.anchor
      | .symbol .flowSequenceStart, _ => take *> sequence (flowItems fuel true [])
      | .symbol .flowMappingStart, _ => take *> mapping (flowEntries fuel true [])
      | .symbol .blockSequenceStart, true => take *> sequence (blockItems fuel [])
      | .symbol .blockMappingStart, true => take *> mapping (blockEntries fuel [])
      | content, _ =>
        if indentless && content = .symbol .blockEntry then sequence (indentlessItems fuel [])
        else if p.anchor.isSome || p.tag.isSome then
          add ⟨← p.scalarTag [] p.untagged, .scalar [], mark, none⟩ p.anchor
        else fail (.noContent content) t.start

/-- The rest of the items of a block sequence. -/
def blockItems : Nat → List Nat → Compose (List Nat)
  | 0, done => return done
  | fuel + 1, done => do
    let t ← take
    match t.content with
    | .symbol .blockEntry =>
      let item ←
        if ← sees [.blockEntry, .blockEnd] then empty t.stop else node fuel true false
      blockItems fuel (done ++ [item])
    | .symbol .blockEnd => return done
    | content => fail (.noBlockEnd content) t.start

/-- The rest of the items of a sequence in the column of the mapping around it. -/
def indentlessItems : Nat → List Nat → Compose (List Nat)
  | 0, done => return done
  | fuel + 1, done => do
    if ← sees [.blockEntry] then
      let t ← take
      let item ←
        if ← sees [.blockEntry, .key, .value, .blockEnd] then empty t.stop
        else node fuel true false
      indentlessItems fuel (done ++ [item])
    else return done

/-- The rest of the entries of a block mapping. -/
def blockEntries : Nat → List (Nat × Nat) → Compose (List (Nat × Nat))
  | 0, done => return done
  | fuel + 1, done => do
    let t ← peek
    match t.content with
    | .symbol .key =>
      let _ ← take
      let key ←
        if ← sees [.key, .value, .blockEnd] then empty t.stop else node fuel true true
      let value ← blockValue fuel
      blockEntries fuel (done ++ [(key, value)])
    | .symbol .blockEnd =>
      let _ ← take
      return done
    | content =>
      if content = .symbol .value && (← get).version.isLater then
        let key ← empty t.start
        let value ← blockValue fuel
        blockEntries fuel (done ++ [(key, value)])
      else fail (.noBlockEnd content) t.start

/-- The value of an entry of a block mapping. -/
def blockValue : Nat → Compose Nat
  | 0 => do empty (← peek).start
  | fuel + 1 => do
    if ← sees [.value] then
      let _ ← take
      if ← sees [.key, .value, .blockEnd] then empty (← peek).stop else node fuel true true
    else empty (← peek).start

/-- The rest of the items of a flow sequence; no comma stands before the first one. -/
def flowItems : Nat → Bool → List Nat → Compose (List Nat)
  | 0, _, done => return done
  | fuel + 1, first, done => do
    let t ← peek
    if t.isOneOf [.flowSequenceEnd] then
      let _ ← take
      return done
    else
      if !first then
        if t.isOneOf [.flowEntry] then
          let _ ← take
        else fail (.noFlowEntry .flowSequenceEnd t.content) t.start
      let t ← peek
      match t.content with
      | .symbol .key =>
        let item ← add ⟨.mapping, .mapping [], t.start, none⟩ none
        let _ ← take
        let key ←
          if ← sees [.value, .flowEntry, .flowSequenceEnd] then empty t.stop
          else node fuel false false
        let value ← flowValue fuel .flowSequenceEnd
        let _ ← fill item (.mapping [(key, value)])
        flowItems fuel false (done ++ [item])
      | .symbol .flowSequenceEnd =>
        let _ ← take
        return done
      | _ =>
        let item ← node fuel false false
        flowItems fuel false (done ++ [item])

/-- The value of an entry inside of brackets. -/
def flowValue : Nat → Symbol → Compose Nat
  | 0, _ => do empty (← peek).start
  | fuel + 1, closing => do
    if ← sees [.value] then
      let t ← take
      if ← sees [.flowEntry, closing] then empty t.stop else node fuel false false
    else empty (← peek).start

/-- The rest of the entries of a flow mapping; no comma stands before the first one. -/
def flowEntries : Nat → Bool → List (Nat × Nat) → Compose (List (Nat × Nat))
  | 0, _, done => return done
  | fuel + 1, first, done => do
    let t ← peek
    if t.isOneOf [.flowMappingEnd] then
      let _ ← take
      return done
    else
      if !first then
        if t.isOneOf [.flowEntry] then
          let _ ← take
        else fail (.noFlowEntry .flowMappingEnd t.content) t.start
      let t ← peek
      match t.content with
      | .symbol .key =>
        let _ ← take
        let key ←
          if ← sees [.value, .flowEntry, .flowMappingEnd] then empty t.stop
          else node fuel false false
        let value ← flowValue fuel .flowMappingEnd
        flowEntries fuel false (done ++ [(key, value)])
      | .symbol .flowMappingEnd =>
        let _ ← take
        return done
      | content =>
        if content = .symbol .value && (← get).version.isLater then
          let key ← empty t.stop
          let value ← flowValue fuel .flowMappingEnd
          flowEntries fuel false (done ++ [(key, value)])
        else
          let key ← node fuel false false
          let value ← empty (← peek).start
          flowEntries fuel false (done ++ [(key, value)])

end

/-! ### Documents -/

/-- The handles that need no directive. -/
def defaultHandles : List (List Char × List Char) :=
  [(['!'], ['!']), (['!', '!'], Tag.home)]

/-- Reads the directives before a document, given whether one gave a version and the handles so
far. -/
def directives : Nat → Bool → List (List Char × List Char) →
    Compose (List (List Char × List Char))
  | 0, _, handles => return handles
  | fuel + 1, versioned, handles => do
    let t ← peek
    match t.content with
    | .version major minor =>
      let _ ← take
      if versioned then fail .repeatedVersion t.start
      else if major ≠ 1 then fail .otherVersion t.start
      else
        modify fun s => { s with version := ⟨minor⟩ }
        directives fuel true handles
    | .tagHandle handle start =>
      let _ ← take
      if (handles.lookup handle).isSome then fail (.repeatedHandle handle) t.start
      else directives fuel versioned (handles ++ [(handle, start)])
    | .otherDirective =>
      let _ ← take
      directives fuel versioned handles
    | _ => return handles

/-- Reads the separator at the beginning of a document and the directives before it, and says
where the separator is. -/
def explicitStart : Compose Mark := do
  let handles ← directives ((← get).stream.tokens.length + 1) false []
  modify fun s => { s with handles := handles ++ defaultHandles }
  let t ← peek
  if t.isOneOf [.documentStart] then
    let _ ← take
    return t.start
  else fail (.noDocumentStart t.content) t.start

/-- Whether a token begins a document with a separator, or ends the text. -/
def isBoundary (t : Token) : Bool :=
  t.isDirective || t.isOneOf [.documentStart, .streamEnd]

/-- The root of a document. -/
def root (fuel : Nat) : Compose Nat := do
  let first ← peek
  if isBoundary first then
    let _ ← explicitStart
    let t ← peek
    if isBoundary t || t.isOneOf [.documentEnd] then empty t.start else node fuel true false
  else
    modify fun s => { s with handles := defaultHandles }
    node fuel true false

/-- Reads the separator at the end of a document, if there is one, and says whether there is. -/
def documentEnd : Compose Bool := do
  let t ← peek
  if t.isOneOf [.documentEnd] then
    let _ ← take
    let after ← peek
    if !after.isOneOf [.streamEnd] && t.stop.line = after.start.line then
      fail (.contentAfterEnd after.content) after.start
    else return true
  else return false

/-- Uses up the separators at the ends of documents. -/
def skipEnds : Nat → Compose Unit
  | 0 => return ()
  | fuel + 1 => do
    if ← sees [.documentEnd] then
      let _ ← take
      skipEnds fuel
    else return ()

/-- Makes sure that no further document follows.  In version 1.1 even a document after a separator
at the end of the first one needs a separator at its beginning. -/
def noMore (ended : Bool) : Compose Unit := do
  let t ← peek
  if ended && !isBoundary t && !(← get).version.isOld then fail .anotherDocument t.start
  else
    skipEnds ((← get).stream.tokens.length + 1)
    if ← sees [.streamEnd] then return ()
    else fail .anotherDocument (← explicitStart)

/-- The root of the only document of a text, none if there is no document. -/
def document : Compose (Option Nat) := do
  if ← sees [.streamEnd] then return none
  else
    let n ← root (4 * (← get).stream.tokens.length + 8)
    noMore (← documentEnd)
    return some n

end Compose

/-- The graph of a text, the number of its root, none if there is no document, and the version of
the language that the text is written in. -/
structure Composed where
  graph : Graph
  root : Option Nat
  version : Version

/-- What a stream of tokens makes up. -/
def Composed.ofStream (stream : TokenStream) : Except Error Composed :=
  (Compose.document { stream }).map fun (root, s) => ⟨s.nodes, root, s.version⟩

end PipelineAudit.Yaml
