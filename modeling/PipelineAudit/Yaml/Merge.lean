import PipelineAudit.Count
import PipelineAudit.Yaml.Node

/-!
# Merging mappings

An entry whose key has the merge tag stands for the entries of another mapping, or of the mappings
in a list, of which an earlier one overrides a later one.  Flattening a mapping puts these entries
before its own ones and remembers which they are.
-/

namespace PipelineAudit.Yaml

namespace Graph

/-- The content of a node. -/
def contentOf (g : Graph) (n : Nat) : Content :=
  match g[n]? with
  | some node => node.content
  | none => .scalar []

/-- The entries of a node, none if it is no mapping. -/
def entriesOf (g : Graph) (n : Nat) : List (Nat × Nat) :=
  match g.contentOf n with
  | .mapping entries => entries
  | _ => []

/-- The place of a node. -/
def markOf (g : Graph) (n : Nat) : Mark :=
  match g[n]? with
  | some node => node.mark
  | none => ⟨0, 0⟩

/-- The tag of a node. -/
def tagOf (g : Graph) (n : Nat) : Tag :=
  match g[n]? with
  | some node => node.tag
  | none => .null

/-- The entries that were merged into a mapping, if any were. -/
def mergedInto? (g : Graph) (n : Nat) : Option (List (Nat × Nat)) :=
  match g[n]? with
  | some node => node.merged
  | none => none

/-- The text of a node, empty if it is no scalar. -/
def textOf (g : Graph) (n : Nat) : List Char :=
  match g.contentOf n with
  | .scalar text => text
  | _ => []

/-- The graph with other entries of a mapping. -/
def withEntries (g : Graph) (n : Nat) (entries : List (Nat × Nat)) : Graph :=
  g.modify n fun node => { node with content := .mapping entries }

/-- The graph in which some entries are merged into a mapping. -/
def withMerged (g : Graph) (n : Nat) (merged : List (Nat × Nat)) : Graph :=
  if merged.isEmpty then g
  else
    (g.withEntries n (merged ++ g.entriesOf n)).modify n fun node =>
      { node with merged := some merged }

/-- The graph in which a node has another tag. -/
def withTag (g : Graph) (n : Nat) (tag : Tag) : Graph :=
  g.modify n fun node => { node with tag }

mutual

/-- Flattens a mapping. -/
def flattenWithin : Nat → Graph → Nat → Except Error Graph
  | 0, g, _ => .ok g
  | fuel + 1, g, n => flattenFrom fuel g n 0 []

/-- Flattens a mapping from the entry with an index on; `merged` holds the entries to merge so
far. -/
def flattenFrom : Nat → Graph → Nat → Nat → List (Nat × Nat) → Except Error Graph
  | 0, g, _, _, _ => .ok g
  | fuel + 1, g, n, index, merged =>
    let entries := g.entriesOf n
    match entries[index]? with
    | none => .ok (g.withMerged n merged)
    | some (key, value) =>
      match g.tagOf key with
      | .merge =>
        if !merged.isEmpty then complain (.repeatedMerge (g.textOf key)) (g.markOf key)
        else
          let g := g.withEntries n (entries.eraseIdx index)
          match g.contentOf value with
          | .mapping _ =>
            match flattenWithin fuel g value with
            | .error e => .error e
            | .ok g => flattenFrom fuel g n index (g.entriesOf value)
          | .sequence items =>
            match flattenItems fuel g [] items with
            | .error e => .error e
            | .ok (g, merged) => flattenFrom fuel g n index merged
          | .scalar _ => complain (.noMerge .scalar) (g.markOf value)
      | .value => flattenFrom fuel (g.withTag key .string) n (index + 1) merged
      | _ => flattenFrom fuel g n (index + 1) merged

/-- Flattens the mappings of a list and collects their entries, those of the last one first. -/
def flattenItems : Nat → Graph → List (Nat × Nat) → List Nat →
    Except Error (Graph × List (Nat × Nat))
  | _, g, merged, [] => .ok (g, merged)
  | 0, g, merged, _ => .ok (g, merged)
  | fuel + 1, g, merged, item :: rest =>
    match g.contentOf item with
    | .mapping _ =>
      match flattenWithin fuel g item with
      | .error e => .error e
      | .ok g => flattenItems fuel g (g.entriesOf item ++ merged) rest
    | content => complain (.noMergeItem content.kind) (g.markOf item)

end

/-- The number of entries and items of all containers. -/
def size (g : Graph) : Nat :=
  total (g.map fun node =>
    match node.content with
    | .scalar _ => 0
    | .sequence items => items.length
    | .mapping entries => entries.length)

/-- Flattens a mapping. -/
def flatten (g : Graph) (n : Nat) : Except Error Graph :=
  let size := g.size + 4
  flattenWithin (size * size * size) g n

end Graph

end PipelineAudit.Yaml
