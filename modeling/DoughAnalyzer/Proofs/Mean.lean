import Mathlib.Algebra.Order.BigOperators.Group.List
import Mathlib.Algebra.Order.Group.Nat
import Mathlib.Algebra.Ring.Nat

set_option autoImplicit false

namespace DoughAnalyzer

def mean (xs : List Nat) : Nat := xs.sum / xs.length

theorem mean_le {xs : List Nat} {hi : Nat} (h : ∀ x ∈ xs, x ≤ hi) : mean xs ≤ hi :=
  Nat.div_le_of_le_mul (xs.sum_le_card_nsmul hi h)

theorem le_mean {xs : List Nat} {lo : Nat} (some : xs ≠ []) (h : ∀ x ∈ xs, lo ≤ x) :
    lo ≤ mean xs := by
  rw [mean, Nat.le_div_iff_mul_le (List.length_pos_iff.2 some), Nat.mul_comm]
  exact xs.card_nsmul_le_sum lo h

theorem mean_le_mean {xs ys : List Nat} (h : List.Forall₂ (· ≤ ·) xs ys) : mean xs ≤ mean ys := by
  unfold mean
  rw [h.length_eq]
  exact Nat.div_le_div_right h.sum_le_sum

end DoughAnalyzer
