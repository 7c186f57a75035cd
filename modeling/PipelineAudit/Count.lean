/-!
# Counts

The sum and the product of a list of counts.
-/

namespace PipelineAudit

/-- The sum of some counts. -/
def total : List Nat → Nat
  | [] => 0
  | n :: rest => n + total rest

/-- The product of some counts. -/
def product : List Nat → Nat
  | [] => 1
  | n :: rest => n * product rest

theorem product_append (l l' : List Nat) :
  product (l ++ l') = product l * product l'
  := by
  induction l with
  | nil => simp [product]
  | cons n rest ih => simp [product, ih, Nat.mul_assoc]

theorem total_le_of_sublist {l l' : List Nat} (h : l.Sublist l') :
  total l ≤ total l'
  := by
  induction h with
  | slnil => exact Nat.le_refl _
  | cons n _ ih => exact Nat.le_trans ih (Nat.le_add_left _ n)
  | cons_cons n _ ih => exact Nat.add_le_add_left ih n

theorem total_eq_of_perm {l l' : List Nat} (h : l.Perm l') :
  total l = total l'
  := by
  induction h with
  | nil => rfl
  | cons n _ ih => simp only [total, ih]
  | swap n m l => exact Nat.add_left_comm m n (total l)
  | trans _ _ ih ih' => exact ih.trans ih'

theorem le_total_of_mem {n : Nat} {l : List Nat} (h : n ∈ l) :
  n ≤ total l
  := by
  induction h with
  | head rest => exact Nat.le_add_right n (total rest)
  | tail m _ ih => exact Nat.le_trans ih (Nat.le_add_left _ m)

end PipelineAudit
