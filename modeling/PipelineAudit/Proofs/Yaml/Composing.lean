import PipelineAudit.Proofs.Yaml.Steps
import PipelineAudit.Yaml.Node

/-!
# Composing a graph

The construction of a graph draws on the tokens of a stream.  An error of a scalar that it meets is
the fault of the stream, or the stream gives a version of the language of which the forms of scalars
are not known.
-/

namespace PipelineAudit.Yaml

/-- A stream gives a version of the language. -/
def TokenStream.Gives (stream : TokenStream) (version : Version) : Prop :=
  ∃ t ∈ stream.tokens, t.content = .version 1 version.minor

/-- An error of a scalar is the fault of a stream, or the stream gives a version that is not
known. -/
def TokenStream.Blames (stream : TokenStream) (e : ScalarError) : Prop :=
  stream.fault = some (.scalar e) ∨
    e = .unknownVersion ∧ ∃ version : Version, stream.Gives version ∧ ¬ version.isKnown

/-- A graph under construction draws on a stream: what is left are tokens of the stream, the version
is the newest one if the stream gives no other, and nothing is merged into the nodes. -/
structure Composition.DrawsOn (stream : TokenStream) (s : Composition) : Prop where
  tokens : s.stream.tokens <:+ stream.tokens
  fault : s.stream.fault = stream.fault
  version : s.version = {} ∨ stream.Gives s.version
  merged : ∀ node ∈ s.nodes, node.merged = none

/-- What holds of the members of a list holds of them after one is changed. -/
theorem forall_mem_modify {α : Type} {p : α → Prop} {l : List α} {n : Nat} {f : α → α}
    (h : ∀ a ∈ l, p a) (hf : ∀ a ∈ l, p (f a)) :
  ∀ a ∈ l.modify n f, p a
  := by
  intro a ha
  obtain ⟨i, hi⟩ := List.mem_iff_getElem?.mp ha
  rw [List.getElem?_modify] at hi
  obtain ⟨b, hb, rfl⟩ := Option.map_eq_some_iff.mp hi
  have hm : b ∈ l := List.mem_of_getElem? hb
  split
  · exact hf b hm
  · exact h b hm

namespace Compose

variable {stream : TokenStream} {α : Type}

/-- A step that draws on a stream. -/
abbrev DrawsOn (stream : TokenStream) (post : α → Prop) (x : Compose α) : Prop :=
  Keeps (Composition.DrawsOn stream) stream.Blames post x

/-- A step with any result that draws on a stream. -/
abbrev Draws (stream : TokenStream) (x : Compose α) : Prop :=
  DrawsOn stream (fun _ => True) x

theorem fail_draws (problem : Problem) (place : Mark) (post : α → Prop) :
  DrawsOn stream post (fail problem place)
  := .complain problem place

theorem pure_draws (a : α) :
  Draws stream (pure a)
  := .done trivial

/-- The next token is one of the stream. -/
theorem peek_draws :
  DrawsOn stream (· ∈ stream.tokens) peek
  := by
  constructor
  · intro s t s' hs h
    rw [peek] at h
    split at h
    case h_1 t rest hr =>
      cases h
      refine ⟨hs, ?_⟩
      apply hs.tokens.subset
      rw [hr]
      apply List.mem_cons_self
    case h_2 => cases h
  · intro s e hs h
    rw [peek] at h
    split at h
    case h_1 => cases h
    case h_2 =>
      rw [hs.fault] at h
      cases hf : stream.fault with
      | none =>
        rw [hf] at h
        cases h
      | some fault =>
        rw [hf] at h
        cases h
        exact .inl hf

theorem take_draws :
  DrawsOn stream (· ∈ stream.tokens) take
  := by
  apply peek_draws.bind
  intro t ht
  apply Keeps.changeThen
  · intro s hs
    exact ⟨(List.tail_suffix _).trans hs.tokens, hs.fault, hs.version, hs.merged⟩
  · exact .done ht

theorem sees_draws (symbols : List Symbol) :
  Draws stream (sees symbols)
  := by
  apply peek_draws.bind
  intro t _
  apply pure_draws

theorem add_draws {node : Node} (h : node.merged = none) (anchor : Option (List Char)) :
  Draws stream (add node anchor)
  := by
  constructor
  · intro s n s' hs hn
    cases hn
    refine ⟨⟨hs.tokens, hs.fault, hs.version, ?_⟩, trivial⟩
    rw [List.forall_mem_append, List.forall_mem_singleton]
    exact ⟨hs.merged, h⟩
  · intro s e hs he
    cases he

theorem fill_draws (n : Nat) (content : Content) :
  Draws stream (fill n content)
  := by
  apply Keeps.changeThen
  · intro s hs
    refine ⟨hs.tokens, hs.fault, hs.version, ?_⟩
    exact forall_mem_modify hs.merged hs.merged
  · apply pure_draws

/-- The form of a scalar is known, or the stream gave a version for which it is not. -/
theorem tagOfForm_draws (text : List Char) :
  Draws stream (tagOfForm text)
  := by
  apply Keeps.get.bind
  intro s hs
  apply Keeps.ite
  · intro _
    apply pure_draws
  · intro hk
    apply Keeps.scalarError
    obtain hv | hv := hs.version
    · rw [hv] at hk
      exact absurd rfl hk
    · exact .inr ⟨rfl, s.version, hv, hk⟩

theorem empty_draws (place : Mark) :
  Draws stream (empty place)
  := by
  apply (tagOfForm_draws []).bind
  intro tag _
  exact add_draws rfl none

theorem aliased_draws (name : List Char) (place : Mark) :
  Draws stream (aliased name place)
  := by
  apply Keeps.get.bind
  intro s _
  split
  · apply pure_draws
  · apply fail_draws

theorem fullTag_draws (handle : Option (List Char)) (suffix : List Char) (place : Mark) :
  Draws stream (fullTag handle suffix place)
  := by
  cases handle with
  | none => apply pure_draws
  | some h =>
    apply Keeps.get.bind
    intro s _
    split
    · apply pure_draws
    · apply fail_draws

theorem properties_draws :
  Draws stream properties
  := by
  apply peek_draws.bind
  intro first _
  split
  · apply take_draws.bind
    intro _ _
    apply peek_draws.bind
    intro second _
    split
    · apply take_draws.bind
      intro _ _
      apply (fullTag_draws _ _ _).bind
      intro tag _
      apply pure_draws
    · apply pure_draws
  · apply take_draws.bind
    intro _ _
    apply peek_draws.bind
    intro second _
    split
    · apply take_draws.bind
      intro _ _
      apply (fullTag_draws _ _ _).bind
      intro tag _
      apply pure_draws
    · apply (fullTag_draws _ _ _).bind
      intro tag _
      apply pure_draws
  · apply pure_draws

theorem scalarTag_draws (p : Properties) (text : List Char) (plain : Bool) :
  Draws stream (p.scalarTag text plain)
  := by
  rw [Properties.scalarTag]
  split
  · apply Keeps.ite
    · intro _
      apply tagOfForm_draws
    · intro _
      apply pure_draws
  · apply Keeps.ite
    · intro _
      apply tagOfForm_draws
    · intro _
      apply pure_draws

/-! ### Content -/

/-- A container whose parts are read after it is added. -/
theorem filled_draws {node : Node} (h : node.merged = none) (anchor : Option (List Char))
    {β : Type} {parts : Compose β} (hp : Draws stream parts) (content : β → Content) :
  Draws stream (add node anchor >>= fun n => parts >>= fun l => fill n (content l))
  := by
  apply (add_draws h anchor).bind
  intro n _
  apply hp.bind
  intro l _
  apply fill_draws

/-- A node without content where the next token is one of some symbols, another node elsewhere. -/
theorem orEmpty_draws {β : Type} (symbols : List Symbol) (place : Mark) {x : Compose Nat}
    {f : Nat → Compose β} (hx : Draws stream x) (hf : ∀ n, Draws stream (f n)) :
  Draws stream
    (sees symbols >>= fun b => if b = true then empty place >>= f else x >>= f)
  := by
  apply (sees_draws symbols).bind
  intro b _
  apply Keeps.ite
  · intro _
    apply (empty_draws place).bind
    intro n _
    apply hf
  · intro _
    apply hx.bind
    intro n _
    apply hf

/-- What follows a comma, or stands first. -/
theorem afterComma_draws {β : Type} (first : Bool) (t : Token) (problem : Problem)
    {f : PUnit → Compose β} (hf : ∀ u, Draws stream (f u)) :
  Draws stream
    (if (!first) = true then
      if t.isOneOf [.flowEntry] = true then take >>= fun _ => f ()
      else fail problem t.start >>= f
    else f ())
  := by
  apply Keeps.ite
  · intro _
    apply Keeps.ite
    · intro _
      apply take_draws.bind
      intro _ _
      apply hf
    · intro _
      apply (fail_draws problem t.start (fun _ => True)).bind
      intro u _
      apply hf
  · intro _
    apply hf

/-- A node without content at the next token. -/
theorem emptyNext_draws :
  Draws stream (do empty (← peek).start)
  := by
  apply peek_draws.bind
  intro t _
  apply empty_draws

/-- The steps that read the content of nodes, with a given fuel, draw on a stream. -/
structure ContentDraws (stream : TokenStream) (fuel : Nat) : Prop where
  node : ∀ block indentless, Draws stream (node fuel block indentless)
  blockItems : ∀ done, Draws stream (blockItems fuel done)
  indentlessItems : ∀ done, Draws stream (indentlessItems fuel done)
  blockEntries : ∀ done, Draws stream (blockEntries fuel done)
  blockValue : Draws stream (blockValue fuel)
  flowItems : ∀ first done, Draws stream (flowItems fuel first done)
  flowValue : ∀ closing, Draws stream (flowValue fuel closing)
  flowEntries : ∀ first done, Draws stream (flowEntries fuel first done)

namespace ContentDraws

variable {fuel : Nat} (ih : ContentDraws stream fuel)

include ih

theorem node_succ (block indentless : Bool) :
  Draws stream (Compose.node (fuel + 1) block indentless)
  := by
  rw [Compose.node]
  apply peek_draws.bind
  intro first _
  split
  · apply take_draws.bind
    intro _ _
    apply aliased_draws
  · apply properties_draws.bind
    intro p _
    apply peek_draws.bind
    intro t _
    dsimp only
    split
    · apply take_draws.bind
      intro _ _
      apply (scalarTag_draws p _ _).bind
      intro tag _
      exact add_draws rfl _
    · apply take_draws.seqRight
      exact filled_draws rfl _ (ih.flowItems _ _) _
    · apply take_draws.seqRight
      exact filled_draws rfl _ (ih.flowEntries _ _) _
    · apply take_draws.seqRight
      exact filled_draws rfl _ (ih.blockItems _) _
    · apply take_draws.seqRight
      exact filled_draws rfl _ (ih.blockEntries _) _
    · apply Keeps.ite
      · intro _
        exact filled_draws rfl _ (ih.indentlessItems _) _
      · intro _
        apply Keeps.ite
        · intro _
          apply (scalarTag_draws p _ _).bind
          intro tag _
          exact add_draws rfl _
        · intro _
          apply fail_draws

theorem blockItems_succ (done : List Nat) :
  Draws stream (Compose.blockItems (fuel + 1) done)
  := by
  rw [Compose.blockItems]
  apply take_draws.bind
  intro t _
  split
  · apply orEmpty_draws _ _ (ih.node _ _)
    intro n
    apply ih.blockItems
  · apply pure_draws
  · apply fail_draws

theorem indentlessItems_succ (done : List Nat) :
  Draws stream (Compose.indentlessItems (fuel + 1) done)
  := by
  rw [Compose.indentlessItems]
  apply (sees_draws _).bind
  intro b _
  apply Keeps.ite
  · intro _
    apply take_draws.bind
    intro t _
    apply orEmpty_draws _ _ (ih.node _ _)
    intro n
    apply ih.indentlessItems
  · intro _
    apply pure_draws

theorem blockEntries_succ (done : List (Nat × Nat)) :
  Draws stream (Compose.blockEntries (fuel + 1) done)
  := by
  have hrest (key : Nat) : Draws stream (Compose.blockValue fuel >>= fun value =>
      Compose.blockEntries fuel (done ++ [(key, value)])) := by
    apply ih.blockValue.bind
    intro value _
    apply ih.blockEntries
  rw [Compose.blockEntries]
  apply peek_draws.bind
  intro t _
  split
  · apply take_draws.bind
    intro _ _
    exact orEmpty_draws _ _ (ih.node _ _) hrest
  · apply take_draws.bind
    intro _ _
    apply pure_draws
  · apply Keeps.get.bind
    intro s _
    apply Keeps.ite
    · intro _
      apply (empty_draws _).bind
      intro key _
      apply hrest
    · intro _
      apply fail_draws

theorem blockValue_succ :
  Draws stream (Compose.blockValue (fuel + 1))
  := by
  rw [Compose.blockValue]
  apply (sees_draws _).bind
  intro b _
  apply Keeps.ite
  · intro _
    apply take_draws.bind
    intro _ _
    apply (sees_draws _).bind
    intro b' _
    apply Keeps.ite
    · intro _
      apply peek_draws.bind
      intro t _
      apply empty_draws
    · intro _
      apply ih.node
  · intro _
    exact emptyNext_draws

theorem flowItems_succ (first : Bool) (done : List Nat) :
  Draws stream (Compose.flowItems (fuel + 1) first done)
  := by
  rw [Compose.flowItems]
  apply peek_draws.bind
  intro t _
  apply Keeps.ite
  · intro _
    apply take_draws.bind
    intro _ _
    apply pure_draws
  · intro _
    apply afterComma_draws
    intro _
    apply peek_draws.bind
    intro t _
    split
    · apply (add_draws rfl _).bind
      intro item _
      apply take_draws.bind
      intro _ _
      apply orEmpty_draws _ _ (ih.node _ _)
      intro key
      apply (ih.flowValue _).bind
      intro value _
      apply (fill_draws _ _).bind
      intro _ _
      apply ih.flowItems
    · apply take_draws.bind
      intro _ _
      apply pure_draws
    · apply (ih.node _ _).bind
      intro item _
      apply ih.flowItems

theorem flowEntries_succ (first : Bool) (done : List (Nat × Nat)) :
  Draws stream (Compose.flowEntries (fuel + 1) first done)
  := by
  have hvalue (key : Nat) : Draws stream (Compose.flowValue fuel .flowMappingEnd >>= fun value =>
      Compose.flowEntries fuel false (done ++ [(key, value)])) := by
    apply (ih.flowValue _).bind
    intro value _
    apply ih.flowEntries
  rw [Compose.flowEntries]
  apply peek_draws.bind
  intro t _
  apply Keeps.ite
  · intro _
    apply take_draws.bind
    intro _ _
    apply pure_draws
  · intro _
    apply afterComma_draws
    intro _
    apply peek_draws.bind
    intro t _
    split
    · apply take_draws.bind
      intro _ _
      exact orEmpty_draws _ _ (ih.node _ _) hvalue
    · apply take_draws.bind
      intro _ _
      apply pure_draws
    · apply Keeps.get.bind
      intro s _
      apply Keeps.ite
      · intro _
        apply (empty_draws _).bind
        intro key _
        apply hvalue
      · intro _
        apply (ih.node _ _).bind
        intro key _
        apply peek_draws.bind
        intro t _
        apply (empty_draws _).bind
        intro value _
        apply ih.flowEntries

theorem flowValue_succ (closing : Symbol) :
  Draws stream (Compose.flowValue (fuel + 1) closing)
  := by
  rw [Compose.flowValue]
  apply (sees_draws _).bind
  intro b _
  apply Keeps.ite
  · intro _
    apply take_draws.bind
    intro t _
    apply (sees_draws _).bind
    intro b' _
    apply Keeps.ite
    · intro _
      apply empty_draws
    · intro _
      apply ih.node
  · intro _
    exact emptyNext_draws

end ContentDraws

/-- The steps that read content draw on the stream, by induction on the fuel, which each call
lowers. -/
theorem contentDraws (fuel : Nat) :
  ContentDraws stream fuel
  := by
  induction fuel with
  | zero =>
    constructor
    case node =>
      intro block indentless
      rw [node]
      apply peek_draws.bind
      intro t _
      apply peek_draws.bind
      intro t' _
      apply fail_draws
    case blockItems =>
      intro done
      rw [blockItems]
      apply pure_draws
    case indentlessItems =>
      intro done
      rw [indentlessItems]
      apply pure_draws
    case blockEntries =>
      intro done
      rw [blockEntries]
      apply pure_draws
    case blockValue =>
      rw [blockValue]
      exact emptyNext_draws
    case flowItems =>
      intro first done
      rw [flowItems]
      apply pure_draws
    case flowValue =>
      intro closing
      rw [flowValue]
      exact emptyNext_draws
    case flowEntries =>
      intro first done
      rw [flowEntries]
      apply pure_draws
  | succ fuel ih =>
    exact ⟨ih.node_succ, ih.blockItems_succ, ih.indentlessItems_succ, ih.blockEntries_succ,
      ih.blockValue_succ, ih.flowItems_succ, ih.flowValue_succ, ih.flowEntries_succ⟩

/-! ### Documents -/

/-- The version that the directives leave is one that the stream gives. -/
theorem directives_draws (fuel : Nat) (versioned : Bool)
    (handles : List (List Char × List Char)) :
  Draws stream (directives fuel versioned handles)
  := by
  induction fuel generalizing versioned handles with
  | zero =>
    rw [directives]
    apply pure_draws
  | succ fuel ih =>
    rw [directives]
    apply peek_draws.bind
    intro t ht
    split
    case h_1 major minor hc =>
      apply take_draws.bind
      intro _ _
      apply Keeps.ite
      · intro _
        apply fail_draws
      · intro _
        apply Keeps.ite
        · intro _
          apply fail_draws
        · intro hm
          obtain rfl := Decidable.not_not.mp hm
          apply Keeps.changeThen
          · intro s hs
            exact ⟨hs.tokens, hs.fault, .inr ⟨t, ht, hc⟩, hs.merged⟩
          · apply ih
    case h_2 =>
      apply take_draws.bind
      intro _ _
      apply Keeps.ite
      · intro _
        apply fail_draws
      · intro _
        apply ih
    case h_3 =>
      apply take_draws.bind
      intro _ _
      apply ih
    case h_4 => apply pure_draws

/-- Other handles change nothing. -/
theorem withHandles_draws (handles : List (List Char × List Char)) :
  Draws stream (modify fun s => { s with handles })
  := by
  apply Keeps.change
  intro s hs
  exact ⟨hs.tokens, hs.fault, hs.version, hs.merged⟩

theorem explicitStart_draws :
  Draws stream explicitStart
  := by
  apply Keeps.get.bind
  intro s _
  apply (directives_draws _ _ _).bind
  intro handles _
  apply (withHandles_draws _).bind
  intro _ _
  apply peek_draws.bind
  intro t _
  apply Keeps.ite
  · intro _
    apply take_draws.bind
    intro _ _
    apply pure_draws
  · intro _
    apply fail_draws

theorem root_draws (fuel : Nat) :
  Draws stream (root fuel)
  := by
  apply peek_draws.bind
  intro first _
  apply Keeps.ite
  · intro _
    apply explicitStart_draws.bind
    intro _ _
    apply peek_draws.bind
    intro t _
    apply Keeps.ite
    · intro _
      apply empty_draws
    · intro _
      apply (contentDraws fuel).node
  · intro _
    apply (withHandles_draws _).bind
    intro _ _
    apply (contentDraws fuel).node

theorem documentEnd_draws :
  Draws stream documentEnd
  := by
  apply peek_draws.bind
  intro t _
  apply Keeps.ite
  · intro _
    apply take_draws.bind
    intro _ _
    apply peek_draws.bind
    intro after _
    apply Keeps.ite
    · intro _
      apply fail_draws
    · intro _
      apply pure_draws
  · intro _
    apply pure_draws

theorem skipEnds_draws (fuel : Nat) :
  Draws stream (skipEnds fuel)
  := by
  induction fuel with
  | zero => apply pure_draws
  | succ fuel ih =>
    apply (sees_draws _).bind
    intro b _
    apply Keeps.ite
    · intro _
      apply take_draws.bind
      intro _ _
      exact ih
    · intro _
      apply pure_draws

theorem noMore_draws (ended : Bool) :
  Draws stream (noMore ended)
  := by
  apply peek_draws.bind
  intro t _
  apply Keeps.get.bind
  intro s _
  apply Keeps.ite
  · intro _
    apply fail_draws
  · intro _
    apply Keeps.get.bind
    intro s _
    apply (skipEnds_draws _).bind
    intro _ _
    apply (sees_draws _).bind
    intro b _
    apply Keeps.ite
    · intro _
      apply pure_draws
    · intro _
      apply explicitStart_draws.bind
      intro m _
      apply fail_draws

theorem document_draws :
  Draws stream document
  := by
  apply (sees_draws _).bind
  intro b _
  apply Keeps.ite
  · intro _
    apply pure_draws
  · intro _
    apply Keeps.get.bind
    intro s _
    apply (root_draws _).bind
    intro n _
    apply documentEnd_draws.bind
    intro ended _
    apply (noMore_draws ended).bind
    intro _ _
    apply pure_draws

end Compose

/-! ### Graphs -/

/-- Nothing is read of a stream at first. -/
theorem Composition.drawsOn_stream (stream : TokenStream) :
  Composition.DrawsOn stream { stream }
  :=
  ⟨List.suffix_rfl, rfl, .inl rfl, List.forall_mem_nil _⟩

/-- An error of a scalar that a graph meets can be blamed on the stream. -/
theorem Composed.blames_of_ofStream {stream : TokenStream} {e : ScalarError}
    (h : Composed.ofStream stream = .error (.scalar e)) :
  stream.Blames e
  := by
  apply Compose.document_draws.error _ e (Composition.drawsOn_stream stream)
  rw [Composed.ofStream] at h
  cases hd : Compose.document { stream } with
  | error e' =>
    rw [hd] at h
    cases h
    rfl
  | ok r =>
    rw [hd] at h
    cases h

/-- Nothing is merged into the nodes of a graph that is just composed. -/
theorem Composed.merged_of_ofStream {stream : TokenStream} {c : Composed}
    (h : Composed.ofStream stream = .ok c) :
  ∀ node ∈ c.graph, node.merged = none
  := by
  rw [Composed.ofStream] at h
  cases hd : Compose.document { stream } with
  | error e =>
    rw [hd] at h
    cases h
  | ok r =>
    rw [hd] at h
    cases h
    exact (Compose.document_draws.ok _ _ _ (Composition.drawsOn_stream stream) hd).1.merged

end PipelineAudit.Yaml
