import PipelineAudit.Proofs.Document.Places

/-!
# The places of containers

A document holds finitely many places of containers, as many as it has containers, however long one
goes down in it and follows its references.

* `length_containersIn`: there are as many places of containers as containers.
* `Holds`: the places that a walk down a document comes to.
* `Holds.mem_containersIn`: the containers among these are listed.
-/

namespace PipelineAudit.Document

/-! ### The places of containers -/

mutual

/-- The places of the containers in a part that lies inside of some containers. -/
def containersIn (around : List Document) : Document → List Place
  | scalar _ => []
  | list ds => ⟨list ds, around⟩ :: itemContainersIn (list ds :: around) ds
  | map es => ⟨map es, around⟩ :: entryContainersIn (map es :: around) es
  | up _ => []

/-- The places of the containers in some items. -/
def itemContainersIn (around : List Document) : List Document → List Place
  | [] => []
  | d :: rest => containersIn around d ++ itemContainersIn around rest

/-- The places of the containers in the values of some entries. -/
def entryContainersIn (around : List Document) : List (Key × Document) → List Place
  | [] => []
  | (_, d) :: rest => containersIn around d ++ entryContainersIn around rest

end

mutual

/-- There are as many places of containers as containers. -/
theorem length_containersIn (around : List Document) (d : Document) :
  (containersIn around d).length = d.containers
  := by
  match d with
  | scalar _ => rfl
  | up _ => rfl
  | list ds =>
    rw [containersIn, List.length_cons, length_itemContainersIn, containers, Nat.add_comm]
  | map es =>
    rw [containersIn, List.length_cons, length_entryContainersIn, containers, Nat.add_comm]

theorem length_itemContainersIn (around : List Document) (ds : List Document) :
  (itemContainersIn around ds).length = itemContainers ds
  := by
  match ds with
  | [] => rfl
  | d :: rest =>
    rw [itemContainersIn, List.length_append, length_containersIn around d,
      length_itemContainersIn around rest, itemContainers]

theorem length_entryContainersIn (around : List Document) (es : List (Key × Document)) :
  (entryContainersIn around es).length = entryContainers es
  := by
  match es with
  | [] => rfl
  | (_, d) :: rest =>
    rw [entryContainersIn, List.length_append, length_containersIn around d,
      length_entryContainersIn around rest, entryContainers]

end

/-- The parts of a container as they are written. -/
def parts : Document → List Document
  | list ds => ds
  | map es => es.map (·.2)
  | _ => []

/-- Whether a document is a list or a mapping. -/
def isContainer (d : Document) : Bool :=
  d.isList || d.isMap

theorem mem_containersIn_self (around : List Document) {d : Document} (h : d.isContainer) :
  ⟨d, around⟩ ∈ containersIn around d
  := by
  cases d with
  | scalar s => cases h
  | up level => cases h
  | list ds => exact .head _
  | map es => exact .head _

theorem containersIn_subset_items (around : List Document) {ds : List Document} {d : Document}
    (h : d ∈ ds) :
  containersIn around d ⊆ itemContainersIn around ds
  := by
  induction h with
  | head rest => exact List.subset_append_left _ _
  | tail d' _ ih => exact List.Subset.trans ih (List.subset_append_right _ _)

theorem containersIn_subset_entries (around : List Document) {es : List (Key × Document)}
    {d : Document} (h : d ∈ es.map (·.2)) :
  containersIn around d ⊆ entryContainersIn around es
  := by
  induction es with
  | nil => cases h
  | cons e rest ih =>
    cases h with
    | head => exact List.subset_append_left _ _
    | tail _ h => exact List.Subset.trans (ih h) (List.subset_append_right _ _)

mutual

/-- With a container, the containers directly in it are listed. -/
theorem part_mem_containersIn {around : List Document} {d : Document} {p : Place}
    (h : p ∈ containersIn around d) {e : Document} (he : e ∈ p.written.parts)
    (hc : e.isContainer) :
  ⟨e, p.written :: p.around⟩ ∈ containersIn around d
  := by
  match d with
  | list ds =>
    rw [containersIn, List.mem_cons] at h
    apply List.mem_cons_of_mem
    obtain rfl | h := h
    · apply containersIn_subset_items _ he
      apply mem_containersIn_self _ hc
    · apply part_mem_itemContainersIn h he hc
  | map es =>
    rw [containersIn, List.mem_cons] at h
    apply List.mem_cons_of_mem
    obtain rfl | h := h
    · apply containersIn_subset_entries _ he
      apply mem_containersIn_self _ hc
    · apply part_mem_entryContainersIn h he hc

theorem part_mem_itemContainersIn {around : List Document} {ds : List Document} {p : Place}
    (h : p ∈ itemContainersIn around ds) {e : Document} (he : e ∈ p.written.parts)
    (hc : e.isContainer) :
  ⟨e, p.written :: p.around⟩ ∈ itemContainersIn around ds
  := by
  match ds with
  | d :: rest =>
    rw [itemContainersIn, List.mem_append] at h ⊢
    obtain h | h := h
    · exact .inl (part_mem_containersIn h he hc)
    · exact .inr (part_mem_itemContainersIn h he hc)

theorem part_mem_entryContainersIn {around : List Document} {es : List (Key × Document)}
    {p : Place} (h : p ∈ entryContainersIn around es) {e : Document} (he : e ∈ p.written.parts)
    (hc : e.isContainer) :
  ⟨e, p.written :: p.around⟩ ∈ entryContainersIn around es
  := by
  match es with
  | (_, d) :: rest =>
    rw [entryContainersIn, List.mem_append] at h ⊢
    obtain h | h := h
    · exact .inl (part_mem_containersIn h he hc)
    · exact .inr (part_mem_entryContainersIn h he hc)

end

/-! ### Places inside of a document -/

/-- The places that a walk down a document comes to: its root, and what lies at the parts of a
place, which may be nowhere. -/
inductive Holds (d : Document) : Place → Prop
  | root : Holds d ⟨d, []⟩
  | nowhere : Holds d .nowhere
  | part {p : Place} {e : Document} : Holds d p → e ∈ p.written.parts →
      Holds d ⟨e, p.written :: p.around⟩

namespace Holds

variable {d : Document} {p : Place}

/-- With a place, a document holds the places of the containers around it. -/
theorem enclosing (h : d.Holds p) :
  ∀ q ∈ Place.enclosing p.around, d.Holds q
  := by
  induction h with
  | root => intro q hq; cases hq
  | nowhere => intro q hq; cases hq
  | part hp _ ih =>
    intro q hq
    cases hq with
    | head => exact hp
    | tail _ hq => exact ih q hq

/-- With a container, a document holds what its parts lead to. -/
theorem resolve (h : d.Holds p) {e : Document} (he : e ∈ p.written.parts) :
  d.Holds (Place.resolve (p.written :: p.around) e)
  := by
  have hp := h.part he
  cases e with
  | up level =>
    rw [Place.resolve]
    cases hl : (Place.enclosing (p.written :: p.around))[level]? with
    | none => exact nowhere
    | some q => exact hp.enclosing q (List.mem_of_getElem? hl)
  | _ => exact hp

theorem items (h : d.Holds p) {q : Place} (hq : q ∈ p.items) :
  d.Holds q
  := by
  rw [Place.items] at hq
  split at hq
  case h_1 ds hw =>
    obtain ⟨e, he, rfl⟩ := List.mem_map.mp hq
    apply h.resolve
    rw [hw]
    exact he
  case h_2 => cases hq

theorem entries (h : d.Holds p) {f : Key × Place} (hf : f ∈ p.entries) :
  d.Holds f.2
  := by
  rw [Place.entries] at hf
  split at hf
  case h_1 es hw =>
    obtain ⟨e, he, rfl⟩ := List.mem_map.mp hf
    apply h.resolve
    rw [hw]
    exact List.mem_map_of_mem he
  case h_2 => cases hf

theorem get? (h : d.Holds p) {name : String} {q : Place} (hq : p.get? name = some q) :
  d.Holds q
  := by
  obtain ⟨f, hf, rfl⟩ := Option.map_eq_some_iff.mp hq
  apply h.entries (List.mem_of_find?_eq_some hf)

theorem get (h : d.Holds p) (name : String) :
  d.Holds (p.get name)
  := by
  rw [Place.get]
  cases hq : p.get? name with
  | none => exact nowhere
  | some q => exact h.get? hq

/-- The containers that a document holds are listed. -/
theorem mem_containersIn (h : d.Holds p) (hc : p.written.isContainer) :
  p ∈ containersIn [] d
  := by
  induction h with
  | root => exact mem_containersIn_self [] hc
  | nowhere => cases hc
  | @part q e hq he ih =>
    apply part_mem_containersIn _ he hc
    apply ih
    cases hw : q.written with
    | list ds => rfl
    | map es => rfl
    | scalar s => simp [hw, parts] at he
    | up level => simp [hw, parts] at he

end Holds

end PipelineAudit.Document
