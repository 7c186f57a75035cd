import PipelineAudit.Proofs.Related
import PipelineAudit.Proofs.Yaml.Steps
import PipelineAudit.Yaml.Merge

/-!
# Merging the mappings of a graph

Flattening a mapping changes the nodes of a graph only so far that mappings get entries of other
mappings of the graph, and that the key of a default value may become a text.

* `Graph.MergedFrom`: a graph comes from another one by merging.
* `Graph.flatten_merges`: what flattening gives comes from the graph that it began with.
-/

namespace PipelineAudit.Yaml

namespace Graph

/-- The items of a node, none if it is no sequence. -/
def itemsOf (g : Graph) (n : Nat) : List Nat :=
  match g.contentOf n with
  | .sequence items => items
  | _ => []

/-- A node is a mapping. -/
def IsMapping (g : Graph) (n : Nat) : Prop :=
  ∃ entries, g.contentOf n = .mapping entries

/-- Some mapping of a graph has an entry. -/
def HasEntry (g : Graph) (entry : Nat × Nat) : Prop :=
  ∃ n, entry ∈ g.entriesOf n

end Graph

/-- A node comes from one of a graph by merging entries of the graph. -/
structure Node.MergedFrom (g : Graph) (node old : Node) : Prop where
  mark : node.mark = old.mark
  tag : node.tag = old.tag ∨ old.tag = .value ∧ node.tag = .string
  content : node.content = old.content ∨
    (∃ entries, old.content = .mapping entries) ∧
      ∃ entries, node.content = .mapping entries ∧ ∀ entry ∈ entries, g.HasEntry entry
  merged : ∀ entries, node.merged = some entries → ∀ entry ∈ entries, g.HasEntry entry

namespace Graph

/-- A graph comes from another one by merging entries of that one. -/
def MergedFrom (g' g : Graph) : Prop :=
  List.Forall₂ (Node.MergedFrom g) g' g

namespace MergedFrom

/-- Every graph into which nothing is merged comes from itself. -/
theorem refl {g : Graph} (h : ∀ node ∈ g, node.merged = none) :
  g.MergedFrom g
  := by
  apply List.forall₂_same.mpr
  intro node hn
  refine ⟨rfl, .inl rfl, .inl rfl, ?_⟩
  intro entries he
  rw [h node hn] at he
  cases he

variable {g g' : Graph} (h : g'.MergedFrom g)

include h

theorem length_eq :
  g'.length = g.length
  := List.Forall₂.length_eq h

theorem markOf_eq (n : Nat) :
  g'.markOf n = g.markOf n
  := by
  have hr := getElem?_rel h n
  rw [markOf, markOf]
  generalize g'[n]? = node at hr
  generalize g[n]? = old at hr
  cases hr with
  | none => rfl
  | some hm => exact hm.mark

theorem tagOf_eq (n : Nat) :
  g'.tagOf n = g.tagOf n ∨ g.tagOf n = .value ∧ g'.tagOf n = .string
  := by
  have hr := getElem?_rel h n
  rw [tagOf, tagOf]
  generalize g'[n]? = node at hr
  generalize g[n]? = old at hr
  cases hr with
  | none => exact .inl rfl
  | some hm => exact hm.tag

theorem contentOf_eq (n : Nat) :
  g'.contentOf n = g.contentOf n ∨
    g.IsMapping n ∧ ∃ entries, g'.contentOf n = .mapping entries ∧
      ∀ entry ∈ entries, g.HasEntry entry
  := by
  have hr := getElem?_rel h n
  rw [IsMapping, contentOf, contentOf]
  generalize g'[n]? = node at hr
  generalize g[n]? = old at hr
  cases hr with
  | none => exact .inl rfl
  | some hm => exact hm.content

theorem hasEntry_of_mergedInto? {n : Nat} {entries : List (Nat × Nat)}
    (hn : g'.mergedInto? n = some entries) :
  ∀ entry ∈ entries, g.HasEntry entry
  := by
  have hr := getElem?_rel h n
  rw [mergedInto?] at hn
  generalize g'[n]? = node at hr hn
  generalize g[n]? = old at hr
  cases hr with
  | none => cases hn
  | some hm => exact hm.merged entries hn

/-- Only the key of a default value gets another tag. -/
theorem tagOf_of_eq {n : Nat} {tag : Tag} (hn : g'.tagOf n = tag) (ht : tag ≠ .string) :
  g.tagOf n = tag
  := by
  obtain he | ⟨_, he⟩ := h.tagOf_eq n
  · rw [← he]
    exact hn
  · rw [he] at hn
    exact absurd hn.symm ht

/-- Only mappings get other contents. -/
theorem contentOf_of_not_mapping {n : Nat} (hn : ¬ g'.IsMapping n) :
  g.contentOf n = g'.contentOf n
  := by
  obtain hc | ⟨_, entries, hc, _⟩ := h.contentOf_eq n
  · exact hc.symm
  · exact absurd ⟨entries, hc⟩ hn

theorem contentOf_of_scalar {n : Nat} {text : List Char} (hn : g'.contentOf n = .scalar text) :
  g.contentOf n = .scalar text
  := by
  rw [h.contentOf_of_not_mapping]
  · exact hn
  · rintro ⟨entries, he⟩
    rw [hn] at he
    cases he

theorem contentOf_of_sequence {n : Nat} {items : List Nat}
    (hn : g'.contentOf n = .sequence items) :
  g.contentOf n = .sequence items
  := by
  rw [h.contentOf_of_not_mapping]
  · exact hn
  · rintro ⟨entries, he⟩
    rw [hn] at he
    cases he

theorem isMapping {n : Nat} (hn : g'.IsMapping n) :
  g.IsMapping n
  := by
  obtain hc | ⟨hm, _⟩ := h.contentOf_eq n
  · obtain ⟨entries, he⟩ := hn
    rw [hc] at he
    exact ⟨entries, he⟩
  · exact hm

theorem hasEntry {n : Nat} {entry : Nat × Nat} (hn : entry ∈ g'.entriesOf n) :
  g.HasEntry entry
  := by
  obtain hc | ⟨_, entries, hc, he⟩ := h.contentOf_eq n
  · rw [entriesOf, hc] at hn
    exact ⟨n, hn⟩
  · rw [entriesOf, hc] at hn
    exact he entry hn

/-! ### Changes of a graph -/

theorem withEntries {n : Nat} {entries : List (Nat × Nat)} (hn : g.IsMapping n)
    (he : ∀ entry ∈ entries, g.HasEntry entry) :
  (g'.withEntries n entries).MergedFrom g
  := by
  apply forall₂_modify h
  intro node old ho hm
  obtain ⟨own, hc⟩ := hn
  rw [contentOf, ho] at hc
  exact ⟨hm.mark, hm.tag, .inr ⟨⟨own, hc⟩, entries, rfl, he⟩, hm.merged⟩

theorem withMerged {n : Nat} {merged : List (Nat × Nat)} (hn : g.IsMapping n)
    (he : ∀ entry ∈ merged, g.HasEntry entry) :
  (g'.withMerged n merged).MergedFrom g
  := by
  rw [Graph.withMerged]
  split
  · exact h
  · have hall : ∀ entry ∈ merged ++ g'.entriesOf n, g.HasEntry entry := by
      intro entry hm
      obtain hm | hm := List.mem_append.mp hm
      · exact he entry hm
      · exact h.hasEntry hm
    apply forall₂_modify (h.withEntries hn hall)
    intro node old _ hm
    refine ⟨hm.mark, hm.tag, hm.content, ?_⟩
    intro entries hs
    cases hs
    exact he

theorem withTag {n : Nat} (hn : g'.tagOf n = .value) :
  (g'.withTag n .string).MergedFrom g
  := by
  have hv : g.tagOf n = .value := h.tagOf_of_eq hn Tag.noConfusion
  apply forall₂_modify h
  intro node old ho hm
  rw [tagOf, ho] at hv
  exact ⟨hm.mark, .inr ⟨hv, rfl⟩, hm.content, hm.merged⟩

end MergedFrom

/-! ### Flattening -/

/-- The computation of a graph by merging entries of another one meets no error of a scalar. -/
abbrev Merges (g : Graph) (x : Except Error Graph) : Prop :=
  Yields (fun _ => False) (MergedFrom · g) x

/-- The flattening of mappings, with a given fuel, only merges entries of a graph. -/
structure Flattens (g : Graph) (fuel : Nat) : Prop where
  within : ∀ {g' : Graph} {n : Nat}, g'.MergedFrom g → g.IsMapping n →
    g.Merges (flattenWithin fuel g' n)
  fromIndex : ∀ {g' : Graph} {n index : Nat} {merged : List (Nat × Nat)}, g'.MergedFrom g →
    g.IsMapping n → (∀ entry ∈ merged, g.HasEntry entry) →
    g.Merges (flattenFrom fuel g' n index merged)
  items : ∀ {g' : Graph} {merged : List (Nat × Nat)} {items : List Nat}, g'.MergedFrom g →
    (∀ entry ∈ merged, g.HasEntry entry) →
    Yields (fun _ => False) (fun r => r.1.MergedFrom g ∧ ∀ entry ∈ r.2, g.HasEntry entry)
      (flattenItems fuel g' merged items)

theorem Flattens.fromIndex_succ {g : Graph} {fuel : Nat} (ih : Flattens g fuel) {g' : Graph}
    {n index : Nat} {merged : List (Nat × Nat)} (h : g'.MergedFrom g) (hn : g.IsMapping n)
    (hm : ∀ entry ∈ merged, g.HasEntry entry) :
  g.Merges (flattenFrom (fuel + 1) g' n index merged)
  := by
  rw [flattenFrom]
  dsimp only
  split
  case h_1 => exact .done (h.withMerged hn hm)
  case h_2 key value _ =>
    split
    case h_1 =>
      split
      · apply Yields.complain
      · -- The entry that asks for the merge is taken out first.
        have hrest : (g'.withEntries n ((g'.entriesOf n).eraseIdx index)).MergedFrom g := by
          apply h.withEntries hn
          intro entry he
          exact h.hasEntry (List.mem_of_mem_eraseIdx he)
        generalize g'.withEntries n ((g'.entriesOf n).eraseIdx index) = g₁ at hrest
        split
        case h_1 entries hv =>
          apply (ih.within hrest (hrest.isMapping ⟨entries, hv⟩)).andThen
          · intro e he
            rw [he]
          · intro g₂ hg h₂
            rw [hg]
            exact ih.fromIndex h₂ hn fun entry => h₂.hasEntry
        case h_2 items hv =>
          apply (ih.items hrest (List.forall_mem_nil _)).andThen
          · intro e he
            rw [he]
          · rintro ⟨g₂, merged⟩ hg ⟨h₂, hm⟩
            rw [hg]
            exact ih.fromIndex h₂ hn hm
        case h_3 => apply Yields.complain
    case h_2 ht => exact ih.fromIndex (h.withTag ht) hn hm
    case h_3 => exact ih.fromIndex h hn hm

theorem Flattens.items_succ {g : Graph} {fuel : Nat} (ih : Flattens g fuel) {g' : Graph}
    {merged : List (Nat × Nat)} {items : List Nat} (h : g'.MergedFrom g)
    (hm : ∀ entry ∈ merged, g.HasEntry entry) :
  Yields (fun _ => False) (fun r => r.1.MergedFrom g ∧ ∀ entry ∈ r.2, g.HasEntry entry)
    (flattenItems (fuel + 1) g' merged items)
  := by
  cases items with
  | nil =>
    rw [flattenItems]
    exact .done ⟨h, hm⟩
  | cons item rest =>
    rw [flattenItems]
    split
    case h_1 entries hi =>
      apply (ih.within h (h.isMapping ⟨entries, hi⟩)).andThen
      · intro e he
        rw [he]
      · intro g₂ hg h₂
        rw [hg]
        apply ih.items h₂
        intro entry he
        obtain he | he := List.mem_append.mp he
        · exact h₂.hasEntry he
        · exact hm entry he
    case h_2 => apply Yields.complain

/-- Flattening only merges, by induction on the fuel, which each call lowers. -/
theorem flattens (g : Graph) (fuel : Nat) :
  Flattens g fuel
  := by
  induction fuel with
  | zero =>
    constructor
    case within =>
      intro g' n h _
      rw [flattenWithin]
      exact .done h
    case fromIndex =>
      intro g' n index merged h _ _
      rw [flattenFrom]
      exact .done h
    case items =>
      intro g' merged items h hm
      cases items with
      | nil =>
        rw [flattenItems]
        exact .done ⟨h, hm⟩
      | cons item rest =>
        rw [flattenItems]
        · exact .done ⟨h, hm⟩
        · exact List.cons_ne_nil item rest
  | succ fuel ih =>
    constructor
    case within =>
      intro g' n h hn
      rw [flattenWithin]
      exact ih.fromIndex h hn (List.forall_mem_nil _)
    case fromIndex => exact ih.fromIndex_succ
    case items => exact ih.items_succ

/-- Flattening a mapping only merges entries of a graph, and meets no error of a scalar. -/
theorem flatten_merges {g g' : Graph} {n : Nat} (h : g'.MergedFrom g) (hn : g'.IsMapping n) :
  g.Merges (g'.flatten n)
  := (flattens g _).within h (h.isMapping hn)

end Graph

end PipelineAudit.Yaml
