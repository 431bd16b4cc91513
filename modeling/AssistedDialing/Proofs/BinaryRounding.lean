import AssistedDialing.Binary64.Basic
import AssistedDialing.Proofs.HalfEven
import Mathlib.Data.Nat.Log
import Mathlib.Tactic.NormNum

/-!
# Rounding to 53 bits

`IsNearest y z` says that a rational number `y` rounds to `z` when 53 bits are kept, but none below
the least exponent. Rounding is monotone (`IsNearest.mono`) and leaves alone what needs no more bits
(`IsNearest.eq_self`).
-/

namespace AssistedDialing.Binary64

/-- `IsExponent y e` says that a non-negative number has a significand of 53 bits at the exponent
`e`, or of fewer at the least exponent. -/
structure IsExponent (y : ℚ) (e : ℤ) : Prop where
  least_le : leastExponent ≤ e
  lt : y < 2 ^ (e + 53)
  le : e = leastExponent ∨ 2 ^ (e + 52) ≤ y

/-- `IsNearest y z` says that `z` is the number of 53 bits that is nearest to `y`, and the one with
an even significand if there are two. -/
def IsNearest (y z : ℚ) : Prop :=
  ∃ e n : ℤ, IsExponent |y| e ∧ IsHalfEven (y / 2 ^ e) n ∧ z = n * 2 ^ e

/-- `IsRepresentable y` says that 53 bits and no exponent below the least are enough for `y`. -/
def IsRepresentable (y : ℚ) : Prop :=
  ∃ m k : ℤ, |m| < 2 ^ 53 ∧ leastExponent ≤ k ∧ y = m * 2 ^ k

variable {y y' z z' : ℚ} {e e' k n : ℤ}

theorem two_zpow_pos (e : ℤ) : (0 : ℚ) < 2 ^ e :=
  zpow_pos two_pos e

theorem IsRepresentable.neg (h : IsRepresentable y) : IsRepresentable (-y) := by
  obtain ⟨m, k, hm, hk, rfl⟩ := h
  refine ⟨-m, k, by rwa [abs_neg], hk, ?_⟩
  rw [Int.cast_neg, neg_mul]

namespace IsExponent

/-- A number below `2 ^ (k + 53)` has no exponent above `k`. -/
theorem le_of_lt (h : IsExponent y e) (hk : leastExponent ≤ k) (hlt : y < 2 ^ (k + 53)) :
    e ≤ k := by
  obtain hleast | hle := h.le
  · exact hleast.trans_le hk
  · have hpow : (2 : ℚ) ^ (e + 52) < 2 ^ (k + 53) := hle.trans_lt hlt
    rw [zpow_lt_zpow_iff_right₀ one_lt_two] at hpow
    omega

theorem mono (h : IsExponent y e) (h' : IsExponent y' e') (hle : y ≤ y') : e ≤ e' :=
  h.le_of_lt h'.least_le (hle.trans_lt h'.lt)

/-- A rounded significand has 53 bits, or it is the next power of two. -/
theorem significand_le (h : IsExponent y e) (hround : IsHalfEven (y / 2 ^ e) n) : n ≤ 2 ^ 53 := by
  refine hround.mono (isHalfEven_intCast (2 ^ 53)) ?_
  rw [div_le_iff₀ (two_zpow_pos e), Int.cast_pow, Int.cast_ofNat, ← zpow_natCast,
    ← zpow_add₀ two_ne_zero, add_comm]
  exact h.lt.le

theorem le_significand (h : IsExponent y e) (hround : IsHalfEven (y / 2 ^ e) n)
    (hleast : e ≠ leastExponent) : 2 ^ 52 ≤ n := by
  refine (isHalfEven_intCast (2 ^ 52)).mono hround ?_
  rw [le_div_iff₀ (two_zpow_pos e), Int.cast_pow, Int.cast_ofNat, ← zpow_natCast,
    ← zpow_add₀ two_ne_zero, add_comm]
  exact h.le.resolve_left hleast

end IsExponent

namespace IsNearest

theorem neg (h : IsNearest y z) : IsNearest (-y) (-z) := by
  obtain ⟨e, n, hexponent, hround, rfl⟩ := h
  refine ⟨e, -n, by rwa [abs_neg], ?_, by push_cast; ring⟩
  rw [neg_div]
  exact hround.neg

/-- Greater numbers are not rounded to lesser ones. -/
theorem mono (h : IsNearest y z) (h' : IsNearest y' z') (hy : 0 ≤ y) (hle : y ≤ y') : z ≤ z' := by
  obtain ⟨e, n, hexponent, hround, rfl⟩ := h
  obtain ⟨e', n', hexponent', hround', rfl⟩ := h'
  rw [abs_of_nonneg hy] at hexponent
  rw [abs_of_nonneg (hy.trans hle)] at hexponent'
  rcases (hexponent.mono hexponent' hle).eq_or_lt with rfl | hless
  · have hn : n ≤ n' := hround.mono hround' (div_le_div_of_nonneg_right hle (two_zpow_pos e).le)
    exact mul_le_mul_of_nonneg_right (by exact_mod_cast hn) (two_zpow_pos e).le
  · -- the power of two where the exponent changes is between the two numbers
    have hn : n ≤ 2 ^ 53 := hexponent.significand_le hround
    have hn' : 2 ^ 52 ≤ n' :=
      hexponent'.le_significand hround' (hexponent.least_le.trans_lt hless).ne'
    calc (n : ℚ) * 2 ^ e ≤ 2 ^ 53 * 2 ^ e :=
          mul_le_mul_of_nonneg_right (by exact_mod_cast hn) (two_zpow_pos e).le
      _ = 2 ^ 52 * 2 ^ (e + 1) := by
          rw [zpow_add_one₀ two_ne_zero]
          ring
      _ ≤ 2 ^ 52 * 2 ^ e' := by
          have hpow : (2 : ℚ) ^ (e + 1) ≤ 2 ^ e' := zpow_le_zpow_right₀ one_le_two (by omega)
          exact mul_le_mul_of_nonneg_left hpow (by norm_num)
      _ ≤ n' * 2 ^ e' := mul_le_mul_of_nonneg_right (by exact_mod_cast hn') (two_zpow_pos e').le

/-- What needs no more bits is not changed. -/
theorem eq_self (h : IsNearest y z) (hy : IsRepresentable y) : z = y := by
  obtain ⟨e, n, hexponent, hround, rfl⟩ := h
  obtain ⟨m, k, hm, hk, rfl⟩ := hy
  have hmCast : |(m : ℚ)| < 2 ^ 53 := by exact_mod_cast hm
  have hle : e ≤ k := by
    refine hexponent.le_of_lt hk ?_
    rw [abs_mul, abs_of_pos (two_zpow_pos k), add_comm, zpow_add₀ two_ne_zero]
    exact mul_lt_mul_of_pos_right hmCast (two_zpow_pos k)
  obtain ⟨extra, rfl⟩ := Int.exists_add_of_le hle
  have hshift : (m : ℚ) * 2 ^ (e + extra) = (m * 2 ^ extra : ℤ) * 2 ^ e := by
    rw [zpow_add₀ two_ne_zero, zpow_natCast]
    push_cast
    ring
  rw [hshift] at hround ⊢
  rw [mul_div_assoc, div_self (two_zpow_pos e).ne', mul_one] at hround
  rw [hround.unique (isHalfEven_intCast _)]

/-- Half a unit of the last place is the greatest error. -/
theorem abs_sub_le (h : IsNearest y z) (hk : leastExponent ≤ k) (hlt : |y| < 2 ^ (k + 53)) :
    |z - y| ≤ 2 ^ k / 2 := by
  obtain ⟨e, n, hexponent, hround, rfl⟩ := h
  have hle : e ≤ k := hexponent.le_of_lt hk hlt
  have herror : n * 2 ^ e - y = -(y / 2 ^ e - n) * 2 ^ e := by
    have hpow := (two_zpow_pos e).ne'
    field_simp
    ring
  calc |n * 2 ^ e - y| = |y / 2 ^ e - n| * 2 ^ e := by
        rw [herror, abs_mul, abs_neg, abs_of_pos (two_zpow_pos e)]
    _ ≤ 1 / 2 * 2 ^ k := by
        have hpow : (2 : ℚ) ^ e ≤ 2 ^ k := zpow_le_zpow_right₀ one_le_two hle
        exact mul_le_mul hround.abs_sub_le hpow (two_zpow_pos e).le (by norm_num)
    _ = 2 ^ k / 2 := by ring

end IsNearest

end AssistedDialing.Binary64
