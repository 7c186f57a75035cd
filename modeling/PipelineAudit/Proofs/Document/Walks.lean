import PipelineAudit.Count
import PipelineAudit.Document.Json
import PipelineAudit.Document.Shape
import PipelineAudit.Proofs.Document.Containers

/-!
# Walks through a document

A walk goes down all parts of a document, follows its references, and turns back at a container
that it is already inside of.  A `Walk` says what becomes of scalars, of such containers, and of
lists and mappings, given what becomes of their parts.  `visit` is the walk with the containers
around it and a bound on its depth; `fold` is the same by recursion on the document as it is
written.

* `visit_eq_fold`: in a closed document, a walk comes to an end at a depth of at most one more than
  the number of containers, and its result is the fold.
* `fold_copy`, `fold_depth`, `fold_conditions`: copies for JSON, depths and counts of conditions are
  results of walks.
-/

namespace PipelineAudit.Document

/-- What becomes of the parts of a document. -/
structure Walk (β : Type) where
  scalar : Scalar → β
  /-- What becomes of a container inside of itself. -/
  again : β
  list : List β → β
  map : List (Key × β) → β

namespace Walk

variable {β : Type} (w : Walk β)

open Classical in
/-- The result of a walk from a place, inside of the containers at some places, to a bounded depth.
A reference is no place to walk to, only the container it leads to. -/
noncomputable def visit : Nat → List Place → Place → Option β
  | 0, _, _ => none
  | fuel + 1, inside, p =>
    match p.written with
    | .scalar s => some (w.scalar s)
    | .list _ =>
      if p ∈ inside then some w.again
      else (p.items.mapM (visit fuel (p :: inside))).map w.list
    | .map _ =>
      if p ∈ inside then some w.again
      else
        (p.entries.mapM fun e => (visit fuel (p :: inside) e.2).map fun v => (e.1, v)).map w.map
    | .up _ => none

mutual

/-- The result of a walk, by recursion on the document as it is written. -/
def fold : Document → β
  | .scalar s => w.scalar s
  | .list ds => w.list (foldItems ds)
  | .map es => w.map (foldEntries es)
  | .up _ => w.again

/-- `fold` on each of a list of documents. -/
def foldItems : List Document → List β
  | [] => []
  | d :: rest => fold d :: foldItems rest

/-- `fold` on each value of a list of entries. -/
def foldEntries : List (Key × Document) → List (Key × β)
  | [] => []
  | (k, d) :: rest => (k, fold d) :: foldEntries rest

end

theorem length_around_lt {around : List Document} {q : Place} (h : q ∈ Place.enclosing around) :
  q.around.length < around.length
  := by
  induction around with
  | nil => cases h
  | cons c rest ih =>
    cases h with
    | head => exact Nat.lt_succ_self _
    | tail _ h => exact Nat.lt_succ_of_lt (ih h)

/-- A container is not among the places of the containers around it. -/
theorem not_mem_enclosing (d : Document) (around : List Document) :
  (⟨d, around⟩ : Place) ∉ Place.enclosing around
  := by
  intro h
  exact Nat.lt_irrefl _ (length_around_lt h)

theorem written_mem_of_mem_enclosing {around : List Document} {q : Place}
    (h : q ∈ Place.enclosing around) :
  q.written ∈ around
  := by
  induction around with
  | nil => cases h
  | cons c rest ih =>
    cases h with
    | head => exact .head _
    | tail _ h => exact .tail _ (ih h)

/-- A walk turns back at a container that it is inside of. -/
theorem visit_of_mem {fuel : Nat} {inside : List Place} {p : Place} (h : p ∈ inside)
    (hc : p.written.isContainer) :
  w.visit (fuel + 1) inside p = some w.again
  := by
  rw [visit]
  cases hp : p.written with
  | scalar s => rw [hp] at hc; cases hc
  | up level => rw [hp] at hc; cases hc
  | list ds => exact if_pos h
  | map es => exact if_pos h

theorem visit_list (fuel : Nat) (ds around : List Document) :
  w.visit (fuel + 1) (Place.enclosing around) ⟨.list ds, around⟩ =
    ((ds.map (Place.resolve (.list ds :: around))).mapM
      (w.visit fuel (Place.enclosing (.list ds :: around)))).map w.list
  := if_neg (not_mem_enclosing _ _)

theorem visit_map (fuel : Nat) (es : List (Key × Document)) (around : List Document) :
  w.visit (fuel + 1) (Place.enclosing around) ⟨.map es, around⟩ =
    ((es.map fun e => (e.1, Place.resolve (.map es :: around) e.2)).mapM fun f =>
      (w.visit fuel (Place.enclosing (.map es :: around)) f.2).map fun v => (f.1, v)).map w.map
  := if_neg (not_mem_enclosing _ _)

mutual

/-- A walk from a part inside of some containers has the fold as its result. -/
theorem visit_resolve (around : List Document) (ha : ∀ c ∈ around, c.isContainer) {d : Document}
    (hd : d.closedUnder around.length) {fuel : Nat} (hf : d.containers < fuel) :
  w.visit fuel (Place.enclosing around) (Place.resolve around d) = some (w.fold d)
  := by
  obtain ⟨fuel, rfl⟩ : ∃ n, fuel = n + 1 := ⟨fuel - 1, by omega⟩
  match d with
  | .scalar s => rfl
  | .up level =>
    have hl : level < (Place.enclosing around).length := by
      rw [length_enclosing]
      exact of_decide_eq_true hd
    have hm := List.getElem_mem hl
    rw [Place.resolve, List.getElem?_eq_getElem hl, Option.getD_some]
    apply visit_of_mem w hm
    apply ha
    apply written_mem_of_mem_enclosing hm
  | .list ds =>
    rw [containers] at hf
    have hc : ∀ c ∈ .list ds :: around, c.isContainer := List.forall_mem_cons.mpr ⟨rfl, ha⟩
    rw [Place.resolve, visit_list, visit_items _ hc hd (by omega), fold]
    · rfl
    · simp
  | .map es =>
    rw [containers] at hf
    have hc : ∀ c ∈ .map es :: around, c.isContainer := List.forall_mem_cons.mpr ⟨rfl, ha⟩
    rw [Place.resolve, visit_map, visit_entries _ hc hd (by omega), fold]
    · rfl
    · simp

theorem visit_items (around : List Document) (ha : ∀ c ∈ around, c.isContainer)
    {ds : List Document} (hd : allClosedUnder around.length ds) {fuel : Nat}
    (hf : itemContainers ds < fuel) :
  (ds.map (Place.resolve around)).mapM (w.visit fuel (Place.enclosing around)) =
    some (w.foldItems ds)
  := by
  match ds with
  | [] => rfl
  | d :: rest =>
    rw [allClosedUnder, Bool.and_eq_true] at hd
    rw [itemContainers] at hf
    rw [List.map_cons, List.mapM_cons, visit_resolve around ha hd.1 (by omega),
      visit_items around ha hd.2 (by omega)]
    rfl

theorem visit_entries (around : List Document) (ha : ∀ c ∈ around, c.isContainer)
    {es : List (Key × Document)} (hd : allEntriesClosedUnder around.length es) {fuel : Nat}
    (hf : entryContainers es < fuel) :
  ((es.map fun e => (e.1, Place.resolve around e.2)).mapM fun f =>
      (w.visit fuel (Place.enclosing around) f.2).map fun v => (f.1, v)) =
    some (w.foldEntries es)
  := by
  match es with
  | [] => rfl
  | (k, d) :: rest =>
    rw [allEntriesClosedUnder, Bool.and_eq_true] at hd
    rw [entryContainers] at hf
    rw [List.map_cons, List.mapM_cons, visit_resolve around ha hd.1 (by omega),
      visit_entries around ha hd.2 (by omega)]
    rfl

end

/-- In a closed document, a walk comes to an end at a depth of at most one more than the number of
containers, and its result is the fold. -/
theorem visit_eq_fold {d : Document} (h : d.isClosed) :
  w.visit (d.containers + 1) [] ⟨d, []⟩ = some (w.fold d)
  := by
  have hr := w.visit_resolve [] (by simp) h (Nat.lt_succ_self _)
  cases d with
  | up level => simp [isClosed, closedUnder] at h
  | _ => exact hr

/-! ### The walks there are -/

/-- The copy of a document for JSON. -/
def copy : Walk Document where
  scalar := .scalar
  again := null
  list := .list
  map es := .map (distinctEntries (es.map fun e => (e.1.jsonSafe, e.2)))

/-- The depth of the deepest value, given the depth of the document itself. -/
def depth : Walk (Nat → Nat) where
  scalar _ least := least
  again least := least
  list below least := (below.map (· (least + 1))).foldr max least
  map below least := (below.map (·.2 (least + 1))).foldr max least

/-- The number of conditions. -/
def conditions : Walk Nat where
  scalar _ := 0
  again := 0
  list counts := total counts
  map counts := total (counts.map fun e => (if isCondition e.1 then 1 else 0) + e.2)

mutual

theorem fold_copy (d : Document) :
  copy.fold d = d.jsonSafe
  := by
  match d with
  | .scalar _ => rfl
  | .up _ => rfl
  | .list ds => rw [fold, foldItems_copy ds, jsonSafe, copy]
  | .map es => rw [fold, jsonSafe, ← foldEntries_copy es, copy]

theorem foldItems_copy (ds : List Document) :
  copy.foldItems ds = jsonSafeItems ds
  := by
  match ds with
  | [] => rfl
  | d :: rest => rw [foldItems, fold_copy d, foldItems_copy rest, jsonSafeItems]

theorem foldEntries_copy (es : List (Key × Document)) :
  (copy.foldEntries es).map (fun e => (e.1.jsonSafe, e.2)) = jsonSafeEntries es
  := by
  match es with
  | [] => rfl
  | (k, d) :: rest =>
    rw [foldEntries, List.map_cons, fold_copy d, foldEntries_copy rest, jsonSafeEntries]

end

mutual

theorem fold_depth (d : Document) (least : Nat) :
  depth.fold d least = d.depthFrom least
  := by
  match d with
  | .scalar _ => rfl
  | .up _ => rfl
  | .list ds => rw [fold, depthFrom, ← foldItems_depth ds, depth]
  | .map es => rw [fold, depthFrom, ← foldEntries_depth es, depth]

theorem foldItems_depth (ds : List Document) (below least : Nat) :
  ((depth.foldItems ds).map (· below)).foldr max least = deepestItem below least ds
  := by
  match ds with
  | [] => rfl
  | d :: rest =>
    rw [foldItems, List.map_cons, List.foldr_cons, fold_depth d, foldItems_depth rest,
      deepestItem]

theorem foldEntries_depth (es : List (Key × Document)) (below least : Nat) :
  ((depth.foldEntries es).map (·.2 below)).foldr max least = deepestValue below least es
  := by
  match es with
  | [] => rfl
  | (k, d) :: rest =>
    simp only [foldEntries, List.map_cons, List.foldr_cons, fold_depth d,
      foldEntries_depth rest, deepestValue]

end

mutual

theorem fold_conditions (d : Document) :
  conditions.fold d = d.conditionals
  := by
  match d with
  | .scalar _ => rfl
  | .up _ => rfl
  | .list ds => rw [fold, conditionals, ← foldItems_conditions ds, conditions]
  | .map es => rw [fold, conditionals, ← foldEntries_conditions es, conditions]

theorem foldItems_conditions (ds : List Document) :
  total (conditions.foldItems ds) = itemConditionals ds
  := by
  match ds with
  | [] => rfl
  | d :: rest =>
    rw [foldItems, total, fold_conditions d, foldItems_conditions rest, itemConditionals]

theorem foldEntries_conditions (es : List (Key × Document)) :
  total ((conditions.foldEntries es).map fun e => (if isCondition e.1 then 1 else 0) + e.2) =
    entryConditionals es
  := by
  match es with
  | [] => rfl
  | (k, d) :: rest =>
    rw [foldEntries, List.map_cons, total, fold_conditions d, foldEntries_conditions rest,
      entryConditionals]

end

end Walk

end PipelineAudit.Document
