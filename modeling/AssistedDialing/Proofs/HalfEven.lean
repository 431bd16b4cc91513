import AssistedDialing.Rounding
import Mathlib.Algebra.Order.Field.Basic
import Mathlib.Algebra.Order.Ring.Unbundled.Rat
import Mathlib.Tactic.Linarith
import Mathlib.Tactic.FieldSimp
import Mathlib.Tactic.Ring

/-!
# Rounding half to even

`IsHalfEven y n` says that a rational number rounds to the integer `n`. Rounding is a monotone
function of the number (`IsHalfEven.mono`), and `halfEven` computes it for quotients
(`isHalfEven_halfEven`).
-/

namespace AssistedDialing

/-- `IsHalfEven y n` says that `n` is the integer nearest to `y`, and the even one if there are
two. -/
def IsHalfEven (y : ℚ) (n : ℤ) : Prop :=
  |y - n| < 1 / 2 ∨ |y - n| = 1 / 2 ∧ Even n

variable {y y' : ℚ} {n n' : ℤ}

theorem isHalfEven_intCast (n : ℤ) : IsHalfEven n n := by
  left
  rw [sub_self, abs_zero]
  norm_num

namespace IsHalfEven

theorem abs_sub_le (h : IsHalfEven y n) : |y - n| ≤ 1 / 2 := by
  obtain h | ⟨h, -⟩ := h
  · exact h.le
  · exact h.le

/-- A number halfway between two integers is rounded to the even one. -/
theorem even_of_abs_eq (h : IsHalfEven y n) (htie : |y - n| = 1 / 2) : Even n := by
  obtain hless | ⟨-, heven⟩ := h
  · exact absurd htie hless.ne
  · exact heven

/-- Greater numbers are not rounded to lesser integers. -/
theorem mono (h : IsHalfEven y n) (h' : IsHalfEven y' n') (hle : y ≤ y') : n ≤ n' := by
  by_contra hless
  have hnext : n' + 1 ≤ n := by omega
  have hnextCast : (n' : ℚ) + 1 ≤ n := by exact_mod_cast hnext
  obtain ⟨hlower, -⟩ := abs_le.mp h.abs_sub_le
  obtain ⟨-, hupper⟩ := abs_le.mp h'.abs_sub_le
  -- only a number halfway between `n'` and `n` could be rounded to both, but one of them is odd
  have hbelow : y - n = -(1 / 2) := by linarith
  have habove : y' - n' = 1 / 2 := by linarith
  have heven : Even n := h.even_of_abs_eq (by rw [hbelow, abs_neg, abs_of_pos one_half_pos])
  have heven' : Even n' := h'.even_of_abs_eq (by rw [habove, abs_of_pos one_half_pos])
  have hsucc : (n : ℚ) = ((n' + 1 : ℤ) : ℚ) := by
    push_cast
    linarith
  rw [Int.cast_injective hsucc] at heven
  exact (Int.even_add_one.mp heven) heven'

theorem unique (h : IsHalfEven y n) (h' : IsHalfEven y n') : n = n' :=
  le_antisymm (h.mono h' le_rfl) (h'.mono h le_rfl)

theorem neg (h : IsHalfEven y n) : IsHalfEven (-y) (-n) := by
  have habs : |-y - ((-n : ℤ) : ℚ)| = |y - n| := by
    rw [Int.cast_neg, neg_sub_neg, abs_sub_comm]
  rw [IsHalfEven, habs, even_neg]
  exact h

theorem add_even {c : ℤ} (h : IsHalfEven y n) (hc : Even c) : IsHalfEven (y + c) (n + c) := by
  have habs : |y + c - ((n + c : ℤ) : ℚ)| = |y - n| := by
    rw [Int.cast_add, add_sub_add_right_eq_sub]
  rw [IsHalfEven, habs]
  exact h.imp_right fun ⟨htie, heven⟩ ↦ ⟨htie, heven.add hc⟩

end IsHalfEven

theorem isHalfEven_halfEven (num : ℕ) {den : ℕ} (hden : 0 < den) :
    IsHalfEven (num / den) (halfEven num den) := by
  have hdenCast : (0 : ℚ) < den := by exact_mod_cast hden
  have hrest : (num : ℚ) / den - (num / den : ℕ) = (num % den : ℕ) / den := by
    have hnum : (den * (num / den : ℕ) + (num % den : ℕ) : ℚ) = num := by
      exact_mod_cast Nat.div_add_mod num den
    rw [← hnum]
    field_simp
    ring
  have hless : (num % den : ℕ) < (den : ℚ) := by exact_mod_cast Nat.mod_lt num hden
  have hnonneg : (0 : ℚ) ≤ (num % den : ℕ) / den := by positivity
  simp only [halfEven]
  split
  · next hbelow =>
    -- the rest is less than a half
    have hbelowCast : (2 * (num % den : ℕ) : ℚ) < den := by exact_mod_cast hbelow
    left
    rw [Int.cast_natCast, hrest, abs_of_nonneg hnonneg, div_lt_div_iff₀ hdenCast two_pos]
    linarith
  split
  · next habove =>
    -- the rest is more than a half, so the next integer is nearer
    have haboveCast : (den : ℚ) < 2 * (num % den : ℕ) := by exact_mod_cast habove
    have hnext : (num : ℚ) / den - ((num / den : ℕ) + 1) = -((den - (num % den : ℕ)) / den) := by
      rw [← sub_sub, hrest]
      field_simp
      ring
    left
    rw [Int.cast_natCast, Nat.cast_add_one, hnext, abs_neg,
      abs_of_nonneg (div_nonneg (by linarith) hdenCast.le), div_lt_div_iff₀ hdenCast two_pos]
    linarith
  · have hhalf : ((num % den : ℕ) : ℚ) / den = 1 / 2 := by
      have htie : (2 * (num % den : ℕ) : ℚ) = den := by
        exact_mod_cast (by omega : 2 * (num % den) = den)
      rw [div_eq_div_iff hdenCast.ne' two_ne_zero]
      linarith
    right
    split
    · next heven =>
      rw [Int.cast_natCast, hrest, hhalf, Int.even_coe_nat, Nat.even_iff]
      exact ⟨abs_of_pos (by norm_num), heven⟩
    · next hodd =>
      rw [Int.cast_natCast, Nat.cast_add_one, ← sub_sub, hrest, hhalf, Int.even_coe_nat,
        Nat.even_add_one, Nat.even_iff]
      exact ⟨by norm_num, hodd⟩

end AssistedDialing
