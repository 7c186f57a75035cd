import PipelineAudit.Proofs.Yaml.Merging
import PipelineAudit.Yaml.Build

/-!
# Building the values of a graph

The values of a graph are built node by node, while its mappings are flattened.  An error of a
scalar that is met on the way is that of a scalar in the graph, of a list that holds containers and
stands for a key, or of an ordered mapping of several entries.

* `Graph.Refuses`: what the error of a scalar can be blamed on.
* `Building.Holds`: what every step of the construction keeps.
* `Build.refuses_of_document`: the error of a scalar can be blamed on the graph.
-/

namespace PipelineAudit.Yaml

/-! ### Where an error comes from -/

/-- A tag is one of a container. -/
def Tag.IsContainer (t : Tag) : Prop :=
  t = .sequence ∨ t = .mapping ∨ t = .orderedMapping

namespace Graph

/-- A graph has a scalar with a text. -/
def HasText (g : Graph) (text : List Char) : Prop :=
  ∃ node ∈ g, node.content = .scalar text

/-- A node stands for a text: it is the scalar, or it is a mapping while some mapping of the graph
has a default value, which can be any text of the graph or an empty one. -/
def StandsFor (g : Graph) (n : Nat) (text : List Char) : Prop :=
  g.contentOf n = .scalar text ∨
    g.IsMapping n ∧ (∃ entry, g.HasEntry entry ∧ g.tagOf entry.1 = .value) ∧
      (text = [] ∨ g.HasText text)

/-- What an error of a scalar can be blamed on in a graph, given the version of the language. -/
inductive Refuses (g : Graph) (version : Version) : ScalarError → Prop
  /-- The text that a node stands for denotes nothing with the tag of the node. -/
  | value {n : Nat} {text : List Char} {e : ScalarError} (ht : g.StandsFor n text)
      (h : (g.tagOf n).scalar version text (g.markOf n) = .error (.scalar e)) :
      Refuses g version e
  /-- A key is a list that holds containers. -/
  | nestedKey {key value item : Nat} (h : g.HasEntry (key, value)) (hi : item ∈ g.itemsOf key)
      (hc : (g.tagOf item).IsContainer) : Refuses g version .nestedKey
  /-- A key is a container, and there is an ordered mapping. -/
  | orderedKey {n key value : Nat} (hn : g.tagOf n = .orderedMapping)
      (h : g.HasEntry (key, value)) (hc : (g.tagOf key).IsContainer) :
      Refuses g version .nestedKey
  /-- An ordered mapping has several entries. -/
  | repeatedKey {n : Nat} (hn : g.tagOf n = .orderedMapping) (hl : 1 < (g.itemsOf n).length) :
      Refuses g version .repeatedKey

/-- There is no container beyond the nodes. -/
theorem not_isContainer_length (g : Graph) :
  ¬ (g.tagOf g.length).IsContainer
  := by
  rw [tagOf, List.getElem?_eq_none (Nat.le_refl _)]
  rintro (h | h | h)
  · cases h
  · cases h
  · cases h

theorem ne_length_of_isContainer {g : Graph} {n : Nat} (h : (g.tagOf n).IsContainer) :
  n ≠ g.length
  := by
  rintro rfl
  exact g.not_isContainer_length h

/-- A container comes from a container. -/
theorem MergedFrom.isContainer {g g' : Graph} (h : g'.MergedFrom g) {n : Nat}
    (hn : (g'.tagOf n).IsContainer) :
  (g.tagOf n).IsContainer
  := by
  obtain hn | hn | hn := hn
  · exact .inl (h.tagOf_of_eq hn Tag.noConfusion)
  · exact .inr (.inl (h.tagOf_of_eq hn Tag.noConfusion))
  · exact .inr (.inr (h.tagOf_of_eq hn Tag.noConfusion))

/-- The text of a scalar is one of the graph, or there is no such node. -/
theorem hasText_of_contentOf {g : Graph} {n : Nat} {text : List Char}
    (h : g.contentOf n = .scalar text) :
  text = [] ∨ g.HasText text
  := by
  rw [contentOf] at h
  split at h
  case h_1 node hn => exact .inr ⟨node, List.mem_of_getElem? hn, h⟩
  case h_2 =>
    cases h
    exact .inl rfl

end Graph

/-! ### The state -/

/-- A value fits a node of a graph: the value of a scalar anywhere, a list or a mapping where the
tag is that of a container.  A list consists of items of the node, except for those that contain it
themselves. -/
def Made.Fits (g : Graph) (n : Nat) : Made → Prop
  | .scalar _ => True
  | .list items => (g.tagOf n).IsContainer ∧ ∀ item ∈ items, item ∈ g.itemsOf n ∨ item = g.length
  | .mapping _ => (g.tagOf n).IsContainer

/-- The values under construction are those of a graph: its mappings may be flattened, the values
made so far fit their nodes, and only containers are still to be filled. -/
structure Building.Holds (g : Graph) (version : Version) (b : Building) : Prop where
  graph : b.graph.MergedFrom g
  version : b.version = version
  made : ∀ m ∈ b.made, m.2.Fits g m.1
  waiting : ∀ n ∈ b.waiting, (g.tagOf n).IsContainer

/-- At first no values are made. -/
theorem Building.holds_graph {g : Graph} (h : ∀ node ∈ g, node.merged = none) (version : Version) :
  Building.Holds g version { graph := g, version }
  := by
  exact ⟨.refl h, rfl, List.forall_mem_nil _, List.forall_mem_nil _⟩

theorem Building.Holds.fits {g : Graph} {version : Version} {b : Building}
    (hb : b.Holds g version) {n : Nat} {value : Made} (h : b.made.lookup n = some value) :
  value.Fits g n
  := by
  obtain ⟨before, after, he, _⟩ := List.lookup_eq_some_iff.mp h
  apply hb.made (n, value)
  rw [he]
  apply List.mem_append_right
  apply List.mem_cons_self

/-- Only the value of a container is no scalar. -/
theorem Made.Fits.isContainer {g : Graph} {n : Nat} {value : Made} (h : value.Fits g n)
    (hs : ∀ s, value ≠ .scalar s) :
  (g.tagOf n).IsContainer
  := by
  cases value with
  | scalar s => exact absurd rfl (hs s)
  | list items => exact h.1
  | mapping entries => exact h

namespace Build

variable {g : Graph} {version : Version}

/-- A step of the construction of the values of a graph. -/
abbrev Builds (g : Graph) (version : Version) {α : Type} (post : α → Prop) (x : Build α) : Prop :=
  Keeps (Building.Holds g version) (g.Refuses version) post x

theorem fail_builds {α : Type} (problem : Problem) (place : Mark) (post : α → Prop) :
  Builds g version post (fail problem place)
  := .complain problem place

theorem failScalar_builds {α : Type} {e : ScalarError} (h : g.Refuses version e)
    (post : α → Prop) :
  Builds g version post (failScalar e)
  := .scalarError h

theorem absent_builds :
  Builds g version (· = g.length) absent
  := by
  apply Keeps.get.bind
  intro b hb
  exact .done hb.graph.length_eq

theorem record_builds {n : Nat} {value : Made} (h : value.Fits g n) :
  Builds g version (· = n) (record n value)
  := by
  apply Keeps.changeThen
  · intro b hb
    refine ⟨hb.graph, hb.version, ?_, hb.waiting⟩
    intro m hm
    obtain rfl | hm := List.mem_cons.mp hm
    · exact h
    · exact hb.made m (List.mem_of_mem_filter hm)
  · exact .done rfl

theorem enqueue_builds {n : Nat} (h : (g.tagOf n).IsContainer) :
  Builds g version (· = n) (enqueue n)
  := by
  apply Keeps.changeThen
  · intro b hb
    refine ⟨hb.graph, hb.version, hb.made, ?_⟩
    intro m hm
    obtain hm | hm := List.mem_append.mp hm
    · exact hb.waiting m hm
    · rw [List.mem_singleton.mp hm]
      exact h
  · exact .done rfl

/-! ### Texts -/

/-- The text of a node is one of the graph. -/
theorem scalarText_hasText (fuel n : Nat) :
  Builds g version (fun text => text = [] ∨ g.HasText text) (scalarText fuel n)
  := by
  induction fuel generalizing n with
  | zero => exact .done (.inl rfl)
  | succ fuel ih =>
    apply Keeps.get.bind
    intro b hb
    dsimp only
    split
    case h_1 text hc =>
      apply Keeps.done
      exact Graph.hasText_of_contentOf (hb.graph.contentOf_of_scalar hc)
    case h_2 => apply fail_builds
    case h_3 entries hc =>
      split
      · apply ih
      · apply fail_builds

theorem scalarText_builds (fuel n : Nat) :
  Builds g version (g.StandsFor n) (scalarText (fuel + 1) n)
  := by
  apply Keeps.get.bind
  intro b hb
  dsimp only
  split
  case h_1 text hc =>
    apply Keeps.done
    exact .inl (hb.graph.contentOf_of_scalar hc)
  case h_2 => apply fail_builds
  case h_3 entries hc =>
    split
    case h_1 key value hf =>
      apply (scalarText_hasText fuel value).mono
      intro text ht
      right
      refine ⟨hb.graph.isMapping ⟨entries, hc⟩, ⟨(key, value), ?_, ?_⟩, ht⟩
      · apply hb.graph.hasEntry (n := n)
        rw [Graph.entriesOf, hc]
        exact List.mem_of_find?_eq_some hf
      · have hv := List.find?_some hf
        exact hb.graph.tagOf_of_eq (of_decide_eq_true hv) Tag.noConfusion
    case h_2 => apply fail_builds

/-- The value of the text that a node stands for, or the error of that text. -/
theorem scalar_yields {b : Building} (hb : b.Holds g version) {n : Nat} {text : List Char}
    (ht : g.StandsFor n text) :
  Yields (g.Refuses version) (fun _ => True)
    ((b.graph.tagOf n).scalar b.version text (b.graph.markOf n))
  := by
  constructor
  · intro s _
    trivial
  · intro e he
    rw [hb.version, hb.graph.markOf_eq] at he
    obtain htag | ⟨_, htag⟩ := hb.graph.tagOf_eq n
    · rw [htag] at he
      exact .value ht he
    · rw [htag] at he
      cases he

/-- The flattening of a mapping only merges entries of the graph. -/
theorem flatten_yields {b : Building} (hb : b.Holds g version) {n : Nat}
    (hn : b.graph.IsMapping n) :
  Yields (g.Refuses version) (Graph.MergedFrom · g) (b.graph.flatten n)
  := by
  have hm := Graph.flatten_merges hb.graph hn
  exact ⟨hm.ok, fun e he => (hm.error e he).elim⟩

/-! ### Keys -/

/-- What is no part of a key is the value of a container. -/
theorem isContainer_of_partKey? {b : Building} (hb : b.Holds g version) {n : Nat}
    (h : partKey? b n = none) :
  (g.tagOf n).IsContainer
  := by
  rw [partKey?] at h
  split at h
  case h_1 => cases h
  case h_2 value hs hv =>
    apply (hb.fits hv).isContainer
    exact hs
  case h_3 => cases h

/-- The key that the value of a node is, or the error of a list that holds containers. -/
theorem key_builds {k value : Nat} (h : g.HasEntry (k, value)) {n : Nat}
    (hn : n = k ∨ n = g.length) :
  Builds g version (fun r => ∀ e, r = .error e → g.Refuses version e) (key n)
  := by
  apply Keeps.get.bind
  intro b hb
  split
  case h_1 =>
    apply Keeps.done
    intro e he
    cases he
  case h_2 items hl =>
    obtain ⟨hc, hi⟩ := hb.fits hl
    split
    case h_1 =>
      apply Keeps.done
      intro e he
      cases he
    case h_2 hm =>
      apply Keeps.done
      intro e he
      cases he
      obtain ⟨item, hm, hp⟩ := mapM_eq_none_iff.mp hm
      have hic := isContainer_of_partKey? hb hp
      obtain rfl := hn.resolve_right (Graph.ne_length_of_isContainer hc)
      exact .nestedKey h ((hi item hm).resolve_right (Graph.ne_length_of_isContainer hic)) hic
  case h_3 => apply fail_builds
  case h_4 =>
    apply Keeps.done
    intro e he
    cases he

theorem addEntry_builds (check : Bool) (entries : List (Key × Nat)) (key : Key) (value : Nat)
    (place : Mark) :
  Builds g version (fun _ => True) (addEntry check entries key value place)
  := by
  unfold addEntry
  split
  · apply Keeps.get.bind
    intro b _
    apply fail_builds
  · exact .done trivial

/-! ### Values -/

/-- The steps that build values, with a given fuel. -/
structure ContentBuilds (g : Graph) (version : Version) (fuel : Nat) : Prop where
  construct : ∀ deep around n,
    Builds g version (fun m => m = n ∨ m = g.length) (construct fuel deep around n)
  container : ∀ deep around {n} {empty : Made}, (g.tagOf n).IsContainer → empty.Fits g n →
    Builds g version (· = n) (container fuel deep around n empty)
  filled : ∀ deep around {n}, (g.tagOf n).IsContainer →
    Builds g version (·.Fits g n) (filled fuel deep around n)
  entries : ∀ deep around check done {rest}, (∀ entry ∈ rest, g.HasEntry entry) →
    Builds g version (fun _ => True) (entries fuel deep around check done rest)
  ordered : ∀ deep around {n} {done : List (Key × Nat)} {rest}, g.tagOf n = .orderedMapping →
    done.length + rest.length = (g.itemsOf n).length →
    Builds g version (fun _ => True) (ordered fuel deep around done rest)

namespace ContentBuilds

variable {fuel : Nat} (ih : ContentBuilds g version fuel)

include ih

theorem construct_succ (deep : Bool) (around : List Nat) (n : Nat) :
  Builds g version (fun m => m = n ∨ m = g.length) (Build.construct (fuel + 1) deep around n)
  := by
  have hcontainer {empty : Made} (hn : (g.tagOf n).IsContainer) (he : empty.Fits g n) :
      Builds g version (fun m => m = n ∨ m = g.length)
        (Build.container fuel deep around n empty) := by
    apply (ih.container deep around hn he).mono
    intro m hm
    exact .inl hm
  rw [Build.construct]
  apply Keeps.get.bind
  intro b hb
  apply Keeps.ite
  · intro _
    exact .done (.inl rfl)
  · intro _
    apply Keeps.ite
    · intro _
      apply absent_builds.mono
      intro m hm
      exact .inr hm
    · intro _
      split
      case h_1 ht =>
        have hn : (g.tagOf n).IsContainer := hb.graph.isContainer (.inl ht)
        exact hcontainer hn ⟨hn, List.forall_mem_nil _⟩
      case h_2 ht =>
        have hn : (g.tagOf n).IsContainer := hb.graph.isContainer (.inr (.inl ht))
        exact hcontainer hn hn
      case h_3 ht =>
        have hn : (g.tagOf n).IsContainer := hb.graph.isContainer (.inr (.inr ht))
        exact hcontainer hn hn
      case h_4 =>
        apply Keeps.ite
        · intro _
          apply (scalarText_builds _ n).bind
          intro text ht
          apply (Keeps.lift (scalar_yields hb ht)).bind
          intro value _
          have hfits : (Made.scalar value).Fits g n := trivial
          apply (record_builds hfits).mono
          intro m hm
          exact .inl hm
        · intro _
          apply fail_builds

theorem container_succ (deep : Bool) (around : List Nat) {n : Nat} {empty : Made}
    (hn : (g.tagOf n).IsContainer) (he : empty.Fits g n) :
  Builds g version (· = n) (Build.container (fuel + 1) deep around n empty)
  := by
  rw [Build.container]
  apply Keeps.ite
  · intro _
    apply (ih.filled true (n :: around) hn).bind
    intro value hv
    exact record_builds hv
  · intro _
    apply (record_builds he).bind
    intro _ _
    exact enqueue_builds hn

theorem filled_succ (deep : Bool) (around : List Nat) {n : Nat} (hn : (g.tagOf n).IsContainer) :
  Builds g version (·.Fits g n) (Build.filled (fuel + 1) deep around n)
  := by
  rw [Build.filled]
  apply Keeps.get.bind
  intro b hb
  dsimp only
  split
  case h_1 items ht hc =>
    have hi : g.itemsOf n = items := by
      rw [Graph.itemsOf, hb.graph.contentOf_of_sequence hc]
    have hitems : Builds g version (fun ms => ∀ m ∈ ms, m ∈ items ∨ m = g.length)
        (items.mapM (Build.construct fuel deep around)) := by
      apply Keeps.mapM
      intro item him
      apply (ih.construct deep around item).mono
      rintro m (rfl | hm)
      · exact .inl him
      · exact .inr hm
    apply hitems.bind
    intro ms hms
    apply Keeps.done
    rw [← hi] at hms
    exact ⟨hn, hms⟩
  case h_2 entries _ hc =>
    apply (Keeps.lift (flatten_yields hb ⟨entries, hc⟩)).bind
    intro g' hg
    apply Keeps.changeThen
    · intro b' hb'
      exact ⟨hg, hb'.version, hb'.made, hb'.waiting⟩
    · have hown : ∀ entry ∈ g'.entriesOf n, g.HasEntry entry := fun entry => hg.hasEntry
      split
      case h_1 =>
        apply (ih.entries deep around true [] hown).bind
        intro all _
        exact .done hn
      case h_2 merged hm =>
        apply (ih.entries deep around false [] (hg.hasEntry_of_mergedInto? hm)).bind
        intro first _
        apply (ih.entries deep around false [] hown).bind
        intro second _
        exact .done hn
  case h_3 items ht hc =>
    have hi : g.itemsOf n = items := by
      rw [Graph.itemsOf, hb.graph.contentOf_of_sequence hc]
    have hordered : g.tagOf n = .orderedMapping := hb.graph.tagOf_of_eq ht Tag.noConfusion
    apply (ih.ordered deep around hordered (by rw [hi]; apply Nat.zero_add)).bind
    intro entries _
    exact .done hn
  case h_4 => apply fail_builds
  case h_5 => apply fail_builds
  case h_6 => apply fail_builds

theorem entries_succ (deep : Bool) (around : List Nat) (check : Bool) (done : List (Key × Nat))
    {rest : List (Nat × Nat)} (h : ∀ entry ∈ rest, g.HasEntry entry) :
  Builds g version (fun _ => True) (Build.entries (fuel + 1) deep around check done rest)
  := by
  cases rest with
  | nil =>
    rw [Build.entries]
    exact .done trivial
  | cons entry rest =>
    obtain ⟨k, v⟩ := entry
    obtain ⟨hkv, hrest⟩ := List.forall_mem_cons.mp h
    rw [Build.entries]
    apply (ih.construct true around k).bind
    intro k' hk
    apply Keeps.get.bind
    intro b _
    apply (key_builds hkv hk).bind
    intro key hkey
    apply (ih.construct deep around v).bind
    intro value _
    split
    case h_1 e =>
      apply failScalar_builds
      exact hkey e rfl
    case h_2 =>
      apply (addEntry_builds _ _ _ _ _).bind
      intro done _
      exact ih.entries deep around check done hrest

theorem ordered_succ (deep : Bool) (around : List Nat) {n : Nat} {done : List (Key × Nat)}
    {rest : List Nat} (hn : g.tagOf n = .orderedMapping)
    (hl : done.length + rest.length = (g.itemsOf n).length) :
  Builds g version (fun _ => True) (Build.ordered (fuel + 1) deep around done rest)
  := by
  cases rest with
  | nil =>
    rw [Build.ordered]
    exact .done trivial
  | cons item rest =>
    rw [Build.ordered]
    apply Keeps.get.bind
    intro b hb
    dsimp only
    split
    case h_1 k v hc =>
      have hkv : g.HasEntry (k, v) := by
        apply hb.graph.hasEntry (n := item)
        rw [Graph.entriesOf, hc]
        apply List.mem_cons_self
      apply (ih.construct deep around k).bind
      intro k' hk
      apply Keeps.get.bind
      intro b' hb'
      split
      case h_1 hp =>
        have hkc := isContainer_of_partKey? hb' hp
        obtain rfl := hk.resolve_right (Graph.ne_length_of_isContainer hkc)
        apply failScalar_builds
        exact .orderedKey hn hkv hkc
      case h_2 key _ =>
        apply Keeps.ite
        · intro ha
          apply failScalar_builds
          apply Graph.Refuses.repeatedKey hn
          -- The key is that of an entry before this one.
          cases done with
          | nil => cases ha
          | cons entry done =>
            rw [← hl, List.length_cons, List.length_cons]
            omega
        · intro _
          apply (ih.construct deep around v).bind
          intro value _
          apply ih.ordered deep around hn
          rw [← hl, List.length_append, List.length_singleton, List.length_cons]
          omega
    case h_2 => apply fail_builds
    case h_3 => apply fail_builds

end ContentBuilds

/-- The steps that build values keep what holds of them, by induction on the fuel. -/
theorem contentBuilds (g : Graph) (version : Version) (fuel : Nat) :
  ContentBuilds g version fuel
  := by
  induction fuel with
  | zero =>
    constructor
    case construct =>
      intro deep around n
      rw [construct]
      exact .done (.inl rfl)
    case container =>
      intro deep around n empty _ _
      rw [container]
      exact .done rfl
    case filled =>
      intro deep around n hn
      rw [filled]
      exact .done ⟨hn, List.forall_mem_nil _⟩
    case entries =>
      intro deep around check done rest _
      cases rest with
      | nil =>
        rw [entries]
        exact .done trivial
      | cons entry rest =>
        rw [entries]
        · exact .done trivial
        · exact List.cons_ne_nil entry rest
    case ordered =>
      intro deep around n done rest _ _
      cases rest with
      | nil =>
        rw [ordered]
        exact .done trivial
      | cons item rest =>
        rw [ordered]
        · exact .done trivial
        · exact List.cons_ne_nil item rest
  | succ fuel ih =>
    exact ⟨ih.construct_succ, ih.container_succ, ih.filled_succ, ih.entries_succ, ih.ordered_succ⟩

/-! ### Documents -/

/-- Only containers are filled, so that what is recorded for them fits. -/
theorem fillAll_builds (fuel : Nat) :
  Builds g version (fun _ => True) (fillAll fuel)
  := by
  induction fuel with
  | zero => exact .done trivial
  | succ fuel ih =>
    rw [fillAll]
    apply Keeps.get.bind
    intro b hb
    split
    case h_1 => exact .done trivial
    case h_2 n rest hw =>
      have hwaiting := hb.waiting
      rw [hw] at hwaiting
      obtain ⟨hn, hrest⟩ := List.forall_mem_cons.mp hwaiting
      apply (Keeps.set ⟨hb.graph, hb.version, hb.made, hrest⟩).bind
      intro _ _
      apply ((contentBuilds g version _).filled false [] hn).bind
      intro value hv
      apply (record_builds hv).bind
      intro _ _
      exact ih

theorem document_builds (root : Nat) :
  Builds g version (fun _ => True) (document root)
  := by
  apply Keeps.get.bind
  intro b _
  apply ((contentBuilds g version _).construct false [] root).bind
  intro _ _
  apply (fillAll_builds _).bind
  intro _ _
  apply Keeps.get.bind
  intro b' _
  exact .done trivial

/-- The error of a scalar that building a document meets can be blamed on the graph. -/
theorem refuses_of_document (h : ∀ node ∈ g, node.merged = none) {root : Nat} {e : ScalarError}
    (he : (document root { graph := g, version }) = .error (.scalar e)) :
  g.Refuses version e
  := (document_builds root).error _ e (Building.holds_graph h version) he

end Build

end PipelineAudit.Yaml
