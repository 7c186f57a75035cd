import PipelineAudit.Yaml.Error

/-!
# Steps of a construction

A computation may fail, and a step of a construction changes a state as well.  Both are followed
through the ways in which they are put together.

* `Yields blame post x`: the result of a computation satisfies a condition, and its failure can be
  blamed on something if it is the error of a scalar.
* `Keeps inv blame post x`: so it is with a step, which keeps an invariant of the state.
-/

namespace PipelineAudit.Yaml

/-! ### Computations -/

/-- The result of a computation satisfies a condition, and its error of a scalar is one that can be
blamed on something. -/
structure Yields {α : Type} (blame : ScalarError → Prop) (post : α → Prop) (x : Except Error α) :
    Prop where
  ok : ∀ a, x = .ok a → post a
  error : ∀ e, x = .error (.scalar e) → blame e

namespace Yields

variable {α β : Type} {blame : ScalarError → Prop} {post : α → Prop} {post' : β → Prop}

theorem done {a : α} (h : post a) :
  Yields blame post (.ok a)
  := by
  constructor
  · intro b hb
    cases hb
    exact h
  · intro e he
    cases he

theorem complain (problem : Problem) (place : Mark) :
  Yields blame post (complain problem place)
  := by
  constructor
  · intro a ha
    cases ha
  · intro e he
    cases he

theorem ite {p : Prop} [Decidable p] {x y : Except Error α} (hx : Yields blame post x)
    (hy : Yields blame post y) :
  Yields blame post (if p then x else y)
  := by
  split
  · exact hx
  · exact hy

/-- A computation that goes on with the result of another one, and fails where that one fails. -/
theorem andThen {x : Except Error α} {y : Except Error β} (h : Yields blame post x)
    (he : ∀ e, x = .error e → y = .error e) (ho : ∀ a, x = .ok a → post a → Yields blame post' y) :
  Yields blame post' y
  := by
  cases x with
  | error e =>
    rw [he e rfl]
    constructor
    · intro b hb
      cases hb
    · intro e' hs
      cases hs
      exact h.error e' rfl
  | ok a => exact ho a rfl (h.ok a rfl)

end Yields

/-! ### Steps -/

/-- A step keeps an invariant, its result satisfies a condition, and its error of a scalar is one
that can be blamed on something. -/
structure Keeps {σ α : Type} (inv : σ → Prop) (blame : ScalarError → Prop) (post : α → Prop)
    (x : StateT σ (Except Error) α) : Prop where
  ok : ∀ s a s', inv s → x s = .ok (a, s') → inv s' ∧ post a
  error : ∀ s e, inv s → x s = .error (.scalar e) → blame e

namespace Keeps

variable {σ α β : Type} {inv : σ → Prop} {blame : ScalarError → Prop} {post : α → Prop}
  {post' : β → Prop} {x : StateT σ (Except Error) α}

theorem done {a : α} (h : post a) :
  Keeps inv blame post (pure a)
  := by
  constructor
  · intro s b s' hs hb
    cases hb
    exact ⟨hs, h⟩
  · intro s e hs he
    cases he

theorem complain (problem : Problem) (place : Mark) :
  Keeps inv blame post (fun _ => complain problem place)
  := by
  constructor
  · intro s a s' hs ha
    cases ha
  · intro s e hs he
    cases he

theorem scalarError {e : ScalarError} (h : blame e) :
  Keeps inv blame post (fun _ => .error (.scalar e))
  := by
  constructor
  · intro s a s' hs ha
    cases ha
  · intro s e' hs he
    cases he
    exact h

theorem bind {f : α → StateT σ (Except Error) β} (h : Keeps inv blame post x)
    (hf : ∀ a, post a → Keeps inv blame post' (f a)) :
  Keeps inv blame post' (x >>= f)
  := by
  constructor
  · intro s b s' hs hb
    cases hx : x s with
    | error e =>
      simp only [Bind.bind, StateT.bind, Except.bind, hx] at hb
      cases hb
    | ok r =>
      obtain ⟨a, t⟩ := r
      obtain ⟨ht, ha⟩ := h.ok s a t hs hx
      simp only [Bind.bind, StateT.bind, Except.bind, hx] at hb
      exact (hf a ha).ok t b s' ht hb
  · intro s e hs he
    cases hx : x s with
    | error e' =>
      simp only [Bind.bind, StateT.bind, Except.bind, hx] at he
      cases he
      exact h.error s e hs hx
    | ok r =>
      obtain ⟨a, t⟩ := r
      obtain ⟨ht, ha⟩ := h.ok s a t hs hx
      simp only [Bind.bind, StateT.bind, Except.bind, hx] at he
      exact (hf a ha).error t e ht he

theorem seqRight {y : StateT σ (Except Error) β} (h : Keeps inv blame post x)
    (hy : Keeps inv blame post' y) :
  Keeps inv blame post' (x *> y)
  := by
  rw [seqRight_eq_bind]
  exact h.bind fun _ _ => hy

theorem mono {post' : α → Prop} (h : Keeps inv blame post x) (hp : ∀ a, post a → post' a) :
  Keeps inv blame post' x
  := by
  constructor
  · intro s a s' hs ha
    obtain ⟨hs', hpost⟩ := h.ok s a s' hs ha
    exact ⟨hs', hp a hpost⟩
  · exact h.error

theorem ite {p : Prop} [Decidable p] {y : StateT σ (Except Error) α}
    (hx : p → Keeps inv blame post x) (hy : ¬ p → Keeps inv blame post y) :
  Keeps inv blame post (if p then x else y)
  := by
  split
  case isTrue h => exact hx h
  case isFalse h => exact hy h

/-- The state itself. -/
theorem get :
  Keeps inv blame inv (MonadState.get : StateT σ (Except Error) σ)
  := by
  constructor
  · intro s a s' hs ha
    cases ha
    exact ⟨hs, hs⟩
  · intro s e hs he
    cases he

/-- A change of the state. -/
theorem change {f : σ → σ} (hf : ∀ s, inv s → inv (f s)) :
  Keeps inv blame (fun _ => True) (modify f : StateT σ (Except Error) PUnit)
  := by
  constructor
  · intro s a s' hs ha
    cases ha
    exact ⟨hf s hs, trivial⟩
  · intro s e hs he
    cases he

/-- A change of the state before another step. -/
theorem changeThen {f : σ → σ} {y : PUnit → StateT σ (Except Error) β}
    (hf : ∀ s, inv s → inv (f s)) (hy : Keeps inv blame post' (y ⟨⟩)) :
  Keeps inv blame post' ((modify f : StateT σ (Except Error) PUnit) >>= y)
  := (change hf).bind fun _ _ => hy

theorem set {t : σ} (h : inv t) :
  Keeps inv blame (fun _ => True) (MonadStateOf.set t : StateT σ (Except Error) PUnit)
  := by
  constructor
  · intro s a s' hs ha
    cases ha
    exact ⟨h, trivial⟩
  · intro s e hs he
    cases he

/-- A computation that does not look at the state. -/
theorem lift {y : Except Error α} (h : Yields blame post y) :
  Keeps inv blame post (liftM y)
  := by
  constructor
  · intro s a s' hs ha
    cases hy : y with
    | error e =>
      rw [hy] at ha
      cases ha
    | ok b =>
      rw [hy] at ha
      cases ha
      exact ⟨hs, h.ok a hy⟩
  · intro s e hs he
    cases hy : y with
    | error e' =>
      rw [hy] at he
      cases he
      exact h.error e hy
    | ok b =>
      rw [hy] at he
      cases he

/-- One step for each member of a list. -/
theorem mapM {f : β → StateT σ (Except Error) α} {l : List β}
    (h : ∀ b ∈ l, Keeps inv blame post (f b)) :
  Keeps inv blame (fun as => ∀ a ∈ as, post a) (l.mapM f)
  := by
  induction l with
  | nil =>
    apply done
    apply List.forall_mem_nil
  | cons b rest ih =>
    obtain ⟨hb, hr⟩ := List.forall_mem_cons.mp h
    rw [List.mapM_cons]
    apply hb.bind
    intro a ha
    apply (ih hr).bind
    intro as has
    apply done
    exact List.forall_mem_cons.mpr ⟨ha, has⟩

end Keeps

end PipelineAudit.Yaml
