import PipelineAudit.Decimal.Nearest
import Mathlib.Algebra.Order.Field.Rat
import Mathlib.Algebra.Order.Field.Power
import Mathlib.Algebra.Order.Floor.Ring
import Mathlib.Data.Rat.Floor
import Mathlib.Tactic.Linarith
import Mathlib.Tactic.NormNum

/-!
# Bounds of rounded numbers

Rounding a nonnegative number to a double keeps it nonnegative, and does not take it past a double.
A number is a double if it is a natural number below `2 ^ 53` over a power of two; the exponents
that occur here need no other bound.

* `nearest_nonneg`, `nearest_le`: the bounds of a number that is rounded to a double.
* `roundHalfUp_nonneg`, `roundHalfUp_le`: those of a number that is rounded to an integer.
* `percentage_nonneg`, `percentage_le`: the percentage that a part is of a whole is one.
-/

namespace PipelineAudit.Decimal

/-- The nearest integer to a quotient is not above an integer that the quotient is not above. -/
theorem roundDiv_le {num den k : Nat} (hd : 0 < den) (h : num ≤ k * den) :
  roundDiv num den ≤ k
  := by
  have hq : num / den ≤ k := Nat.div_le_of_le_mul (Nat.mul_comm k den ▸ h)
  rw [roundDiv]
  cases hq.lt_or_eq with
  | inl hlt =>
    split_ifs <;> omega
  | inr heq =>
    -- the quotient is exact, so that nothing is left to round
    have hr : num % den = 0 := by
      have := Nat.div_add_mod num den
      rw [heq, Nat.mul_comm] at this
      omega
    rw [hr, Nat.mul_zero, if_pos hd, heq]

theorem two_zpow_eq (e : Int) :
  (2 : Rat) ^ e = 2 ^ e.toNat / 2 ^ (-e).toNat
  := by
  rw [← zpow_natCast, ← zpow_natCast, ← zpow_sub₀ two_ne_zero, Int.toNat_sub_toNat_neg]

/-- A quotient is not below the power of two whose exponent is its binary one. -/
theorem two_zpow_binaryExponent_le {num den : Nat} (hn : 0 < num) (hd : 0 < den) :
  (2 : Rat) ^ binaryExponent num den ≤ num / den
  := by
  have hd' : (0 : Rat) < den := by exact_mod_cast hd
  rw [binaryExponent]
  split
  case isTrue h =>
    rw [two_zpow_eq, div_le_div_iff₀ (by positivity) hd', mul_comm]
    exact_mod_cast h
  case isFalse =>
    have hnum : (2 : Rat) ^ num.log2 ≤ num := by exact_mod_cast Nat.log2_self_le hn.ne'
    have hden : (den : Rat) ≤ 2 ^ (den.log2 + 1) := by
      exact_mod_cast (Nat.lt_log2_self (n := den)).le
    calc (2 : Rat) ^ ((num.log2 : Int) - den.log2 - 1)
      _ = 2 ^ num.log2 / 2 ^ (den.log2 + 1) := by
        rw [← zpow_natCast, ← zpow_natCast, ← zpow_sub₀ two_ne_zero]
        congr 1
        push_cast
        ring
      _ ≤ num / den := div_le_div₀ (by positivity) hnum hd' hden

/-- On a grid of negative powers of two, rounding does not go past a number that lies on a coarser
such grid. -/
theorem roundAt_le {num den k s t : Nat} (hd : 0 < den) (hst : s ≤ t)
    (h : num * 2 ^ s ≤ k * den) :
  roundAt num den t ≤ k / 2 ^ s
  := by
  have hpow : 2 ^ t = 2 ^ s * 2 ^ (t - s) := by
    rw [← Nat.pow_add, Nat.add_sub_cancel' hst]
  have hround : roundDiv (num * 2 ^ t) den ≤ k * 2 ^ (t - s) := by
    apply roundDiv_le hd
    rw [hpow, ← Nat.mul_assoc, Nat.mul_right_comm k]
    exact Nat.mul_le_mul_right _ h
  have hgrid : roundAt num den t = roundDiv (num * 2 ^ t) den / 2 ^ t := by
    simp [roundAt, Rat.mkRat_eq_div]
  rw [hgrid, div_le_div_iff₀ (by positivity) (by positivity)]
  calc (roundDiv (num * 2 ^ t) den : Rat) * 2 ^ s
    _ ≤ (k * 2 ^ (t - s) : Nat) * 2 ^ s := by gcongr
    _ = k * 2 ^ t := by
      push_cast
      rw [mul_assoc, mul_comm (2 ^ (t - s) : Rat), ← pow_add, Nat.add_sub_cancel' hst]

/-! ### Doubles -/

theorem natAbs_num_div_den {x : Rat} (hx : 0 ≤ x) :
  (x.num.natAbs : Rat) / x.den = x
  := by
  rw [Nat.cast_natAbs, abs_of_nonneg (Rat.num_nonneg.mpr hx), Rat.num_div_den]

theorem nearest_nonneg {x : Rat} (hx : 0 ≤ x) :
  0 ≤ nearest x
  := by
  rw [nearest]
  split_ifs with h0 hneg
  · exact le_rfl
  · exact absurd hneg (Rat.num_nonneg.mpr hx).not_gt
  · rw [roundAt]
    apply Rat.mkRat_nonneg (Int.natCast_nonneg _)

/-- Rounding does not go past a double. -/
theorem nearest_le {x : Rat} {k s : Nat} (hx : 0 ≤ x) (hk : k < 2 ^ 53) (h : x ≤ k / 2 ^ s) :
  nearest x ≤ k / 2 ^ s
  := by
  have hd := x.den_pos
  rw [nearest]
  split_ifs with h0 hneg
  · positivity
  · exact absurd hneg (Rat.num_nonneg.mpr hx).not_gt
  · rw [← natAbs_num_div_den hx] at h
    have hd' : (0 : Rat) < x.den := by exact_mod_cast hd
    -- the grid at the exponent of the number is at least as fine as that of the double
    have hexp : binaryExponent x.num.natAbs x.den < 53 - (s : Int) := by
      rw [← zpow_lt_zpow_iff_right₀ (a := (2 : Rat)) one_lt_two]
      calc (2 : Rat) ^ binaryExponent x.num.natAbs x.den
        _ ≤ x.num.natAbs / x.den := two_zpow_binaryExponent_le (Nat.pos_of_ne_zero h0) hd
        _ ≤ k / 2 ^ s := h
        _ < 2 ^ 53 / 2 ^ s := by
          gcongr
          exact_mod_cast hk
        _ = 2 ^ (53 - (s : Int)) := by
          rw [zpow_sub₀ two_ne_zero, zpow_natCast]
          rfl
    obtain ⟨t, ht⟩ := Int.eq_ofNat_of_zero_le (a := 52 - binaryExponent x.num.natAbs x.den)
      (by omega)
    rw [ht]
    apply roundAt_le hd (by omega)
    rw [div_le_div_iff₀ hd' (by positivity)] at h
    exact_mod_cast h

/-! ### Integers and percentages -/

theorem nearest_le_natCast {x : Rat} {n : Nat} (hx : 0 ≤ x) (hn : n < 2 ^ 53) (h : x ≤ n) :
  nearest x ≤ n
  := by
  have hr := nearest_le (s := 0) hx hn
  rw [pow_zero, div_one] at hr
  exact hr h

theorem roundHalfUp_nonneg {x : Rat} (hx : 0 ≤ x) :
  0 ≤ roundHalfUp x
  := by
  rw [roundHalfUp, Rat.le_floor_iff]
  exact nearest_nonneg (by linarith)

/-- Rounding to an integer does not go past one. -/
theorem roundHalfUp_le {x : Rat} {n : Nat} (hx : 0 ≤ x) (hn : n < 2 ^ 52) (h : x ≤ n) :
  roundHalfUp x ≤ n
  := by
  have hr : nearest (x + 1 / 2) ≤ (2 * n + 1 : Nat) / 2 ^ 1 := by
    apply nearest_le (by linarith) (by omega)
    push_cast
    linarith
  rw [roundHalfUp, ← Int.lt_add_one_iff, Rat.floor_lt_iff]
  push_cast at hr ⊢
  linarith

theorem percentage_nonneg (part whole : Nat) :
  0 ≤ percentage part whole
  := by
  have hratio : 0 ≤ nearest ((part : Rat) / whole) := nearest_nonneg (by positivity)
  rw [percentage]
  exact nearest_nonneg (by linarith)

/-- The percentage that a part is of a whole is at most one hundred. -/
theorem percentage_le {part whole : Nat} (h : part ≤ whole) :
  percentage part whole ≤ 100
  := by
  have hnonneg : 0 ≤ nearest ((part : Rat) / whole) := nearest_nonneg (by positivity)
  have hratio : nearest ((part : Rat) / whole) ≤ (1 : Nat) := by
    apply nearest_le_natCast (by positivity) (by norm_num)
    rw [Nat.cast_one]
    exact div_le_one_of_le₀ (by exact_mod_cast h) (by positivity)
  rw [Nat.cast_one] at hratio
  rw [percentage]
  apply nearest_le_natCast (n := 100) (by linarith) (by norm_num)
  rw [Nat.cast_ofNat]
  linarith

end PipelineAudit.Decimal
