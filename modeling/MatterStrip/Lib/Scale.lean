import Mathlib.Tactic.Ring
import Mathlib.Tactic.Common

/-!
Scaling by a fraction in integer arithmetic.

`scale m r k c` is `c` scaled by `k / m`, where `r` is added before the division: nothing to round
down, half of `m` to round to the nearest. As long as `k ≤ m` it never takes two numbers further
apart than they are (`Within.scale`), and for `k = m` it is the identity (`scale_self`), so that a
pipeline of such stages keeps the bounds that its input has.
-/

namespace MatterStrip.Lib

/-- `c`, scaled by `k / m` and rounded by `r`. -/
def scale (m r k c : ℕ) : ℕ := (c * k + r) / m

variable {m r k k' c d e x y : ℕ}

theorem scale_mono (h : c ≤ d) : scale m r k c ≤ scale m r k d := by
  have hmul : c * k ≤ d * k := Nat.mul_le_mul_right k h
  exact Nat.div_le_div_right (Nat.add_le_add_right hmul r)

theorem scale_mono_factor (h : k ≤ k') : scale m r k c ≤ scale m r k' c := by
  have hmul : c * k ≤ c * k' := Nat.mul_le_mul_left c h
  exact Nat.div_le_div_right (Nat.add_le_add_right hmul r)

/-- Scaling by one is exact. -/
theorem scale_self (hr : r < m) : scale m r m c = c := by
  have hm : 0 < m := Nat.zero_lt_of_lt hr
  rw [scale, Nat.add_comm, Nat.add_mul_div_right _ _ hm, Nat.div_eq_of_lt hr, Nat.zero_add]

theorem scale_zero (hr : r < m) : scale m r k 0 = 0 := by
  rw [scale, Nat.zero_mul, Nat.zero_add, Nat.div_eq_of_lt hr]

theorem scale_le (hr : r < m) (hk : k ≤ m) : scale m r k c ≤ c :=
  (scale_mono_factor hk).trans_eq (scale_self hr)

/-- Scaling down takes nothing further away. -/
theorem scale_add_le (hm : 0 < m) (hk : k ≤ m) : scale m r k (c + e) ≤ scale m r k c + e := by
  have hmul : e * k ≤ e * m := Nat.mul_le_mul_left e hk
  have hsum : (c + e) * k + r ≤ c * k + r + e * m := by
    rw [Nat.add_mul]
    omega
  calc scale m r k (c + e) ≤ (c * k + r + e * m) / m := Nat.div_le_div_right hsum
    _ = scale m r k c + e := Nat.add_mul_div_right _ _ hm

/-- Rounding down two parts loses at most one against rounding down the whole. -/
theorem scale_zero_add (hm : 0 < m) :
    scale m 0 k c + scale m 0 k d ≤ scale m 0 k (c + d) ∧
      scale m 0 k (c + d) ≤ scale m 0 k c + scale m 0 k d + 1 := by
  simp only [scale, Nat.add_zero, Nat.add_mul]
  rw [Nat.add_div hm]
  split <;> omega

/-! ### Distance -/

/-- Two numbers are at most `e` apart. -/
def Within (e x y : ℕ) : Prop := x ≤ y + e ∧ y ≤ x + e

theorem Within.symm (h : Within e x y) : Within e y x := ⟨h.2, h.1⟩

theorem Within.add_right (h : Within e x y) (z : ℕ) : Within e (x + z) (y + z) := by
  obtain ⟨hxy, hyx⟩ := h
  constructor <;> omega

/-- **Scaling down keeps numbers as close as they are.** -/
theorem Within.scale (hm : 0 < m) (hk : k ≤ m) (h : Within e x y) :
    Within e (scale m r k x) (scale m r k y) :=
  ⟨(scale_mono h.1).trans (scale_add_le hm hk), (scale_mono h.2).trans (scale_add_le hm hk)⟩

end MatterStrip.Lib
