import PipelineAudit.Proofs.Document.Walks

/-!
# Documents part by part

What holds of scalars and references, and passes from the parts of a container to the container,
holds of all documents.  The functions that go down a document are given here by what they do with
the parts of a container.

* `induction_parts`: induction from parts to containers.
* `allParts`, `allEntries`: a document with everything in it, and the entries of all its mappings.
-/

namespace PipelineAudit.Document

/-- What holds of scalars and references, and of a container if it holds of its parts, holds of all
documents. -/
@[elab_as_elim]
theorem induction_parts {P : Document → Prop} (scalar : ∀ s, P (scalar s))
    (up : ∀ level, P (up level)) (list : ∀ ds, (∀ d ∈ ds, P d) → P (list ds))
    (map : ∀ es, (∀ e ∈ es, P e.2) → P (map es)) (d : Document) :
  P d
  := by
  cases d with
  | scalar s => exact scalar s
  | up level => exact up level
  | list ds =>
    apply list
    intro d hd
    exact induction_parts scalar up list map d
  | map es =>
    apply map
    rintro ⟨k, d⟩ he
    exact induction_parts scalar up list map d
  termination_by sizeOf d
  decreasing_by
  · exact Nat.lt_of_lt_of_le (List.sizeOf_lt_of_mem hd) (by simp)
  · have hs := List.sizeOf_lt_of_mem he
    simp only [Prod.mk.sizeOf_spec, Document.map.sizeOf_spec] at hs ⊢
    omega

/-! ### What becomes of the parts -/

section

variable (ds : List Document) (es : List (Key × Document))

namespace Walk

variable {β : Type} (w : Walk β)

theorem foldItems_eq_map :
  w.foldItems ds = ds.map w.fold
  := by
  induction ds with
  | nil => rfl
  | cons d rest ih => rw [foldItems, ih, List.map_cons]

theorem foldEntries_eq_map :
  w.foldEntries es = es.map fun e => (e.1, w.fold e.2)
  := by
  induction es with
  | nil => rfl
  | cons e rest ih => rw [foldEntries, ih, List.map_cons]

theorem fold_list :
  w.fold (.list ds) = w.list (ds.map w.fold)
  := by
  rw [fold, foldItems_eq_map]

theorem fold_map :
  w.fold (.map es) = w.map (es.map fun e => (e.1, w.fold e.2))
  := by
  rw [fold, foldEntries_eq_map]

end Walk

theorem jsonSafe_list :
  (list ds).jsonSafe = list (ds.map jsonSafe)
  := by
  rw [← Walk.fold_copy, Walk.fold_list, funext Walk.fold_copy]
  rfl

theorem jsonSafe_map :
  (map es).jsonSafe = map (distinctEntries (es.map fun e => (e.1.jsonSafe, e.2.jsonSafe)))
  := by
  rw [← Walk.fold_copy, Walk.fold_map, funext Walk.fold_copy]
  simp only [Walk.copy, List.map_map, Function.comp_def]

theorem toJson_list :
  (list ds).toJson = .list (ds.map toJson)
  := by
  rw [toJson]
  induction ds with
  | nil => rfl
  | cons d rest ih => simpa [jsonItems] using ih

theorem toJson_map :
  (map es).toJson = .object (es.map fun e => (e.1.jsonName, e.2.toJson))
  := by
  rw [toJson]
  induction es with
  | nil => rfl
  | cons e rest ih => simpa [jsonMembers] using ih

end

/-! ### All parts -/

mutual

/-- A document and everything in it, as it is written. -/
def allParts : Document → List Document
  | scalar s => [scalar s]
  | list ds => list ds :: allItemParts ds
  | map es => map es :: allEntryParts es
  | up level => [up level]

/-- `allParts` of each of a list of documents. -/
def allItemParts : List Document → List Document
  | [] => []
  | d :: rest => d.allParts ++ allItemParts rest

/-- `allParts` of each value of a list of entries. -/
def allEntryParts : List (Key × Document) → List Document
  | [] => []
  | (_, d) :: rest => d.allParts ++ allEntryParts rest

end

theorem allParts_list (ds : List Document) :
  (list ds).allParts = list ds :: ds.flatMap allParts
  := by
  have hitems : allItemParts ds = ds.flatMap allParts := by
    induction ds with
    | nil => rfl
    | cons d rest ih => rw [allItemParts, ih, List.flatMap_cons]
  rw [allParts, hitems]

theorem allParts_map (es : List (Key × Document)) :
  (map es).allParts = map es :: es.flatMap fun e => e.2.allParts
  := by
  have hentries : allEntryParts es = es.flatMap fun e => e.2.allParts := by
    induction es with
    | nil => rfl
    | cons e rest ih => rw [allEntryParts, ih, List.flatMap_cons]
  rw [allParts, hentries]

/-- Something holds of all parts of a list if it holds of the list and of all parts of the items. -/
theorem forall_allParts_list {P : Document → Prop} {ds : List Document} :
  (∀ part ∈ (list ds).allParts, P part) ↔ P (list ds) ∧ ∀ d ∈ ds, ∀ part ∈ d.allParts, P part
  := by
  rw [allParts_list, List.forall_mem_cons, List.forall_mem_flatMap]

/-- Something holds of all parts of a mapping if it holds of the mapping and of all parts of the
values. -/
theorem forall_allParts_map {P : Document → Prop} {es : List (Key × Document)} :
  (∀ part ∈ (map es).allParts, P part) ↔ P (map es) ∧ ∀ e ∈ es, ∀ part ∈ e.2.allParts, P part
  := by
  rw [allParts_map, List.forall_mem_cons, List.forall_mem_flatMap]

/-- The entries of a mapping as they are written. -/
def ownEntries : Document → List (Key × Document)
  | map es => es
  | _ => []

end PipelineAudit.Document
