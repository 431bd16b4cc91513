import AssistedDialing.Proofs.BinaryRounding
import Mathlib.Algebra.Order.Ring.Abs

/-!
# The values of floating-point operations

`x.HasValue v` says that a `Binary64` is finite and stands for the rational number `v`. Within the
range of the finite values, `ofRatio` and the operations that are made from it give the nearest
value to the exact result (`exists_hasValue_ofRatio`, `HasValue.addFinite`, `HasValue.mulFinite`).
-/

namespace AssistedDialing.Binary64

/-- `signed negative v` is a number with a sign in front of it. -/
def signed (negative : Bool) (v : ℚ) : ℚ :=
  if negative then -v else v

/-- The greatest finite value. -/
def greatest : ℚ := (2 ^ 53 - 1) * 2 ^ greatestExponent

/-- `x.HasValue v` says that `x` is a finite number of the format and stands for `v`. -/
inductive HasValue : Binary64 → ℚ → Prop where
  | finite (negative : Bool) {significand : ℕ} {exponent : ℤ}
      (hsignificand : significand < 2 * leastSignificand) (hleast : leastExponent ≤ exponent)
      (hgreatest : exponent ≤ greatestExponent) :
      HasValue (.finite negative significand exponent)
        (signed negative (significand * 2 ^ exponent))

variable {x x' : Binary64} {v v' : ℚ} {num den : ℕ}

theorem abs_signed (negative : Bool) (v : ℚ) : |signed negative v| = |v| := by
  cases negative with
  | true => exact abs_neg v
  | false => rfl

theorem signed_mul_signed (negative negative' : Bool) (v v' : ℚ) :
    signed negative v * signed negative' v' = signed (negative != negative') (v * v') := by
  cases negative with
  | true =>
      cases negative' with
      | true => exact neg_mul_neg v v'
      | false => exact neg_mul v v'
  | false =>
      cases negative' with
      | true => exact mul_neg v v'
      | false => rfl

theorem signed_div (negative : Bool) (v v' : ℚ) :
    signed negative v / v' = signed negative (v / v') := by
  cases negative with
  | true => exact neg_div v' v
  | false => rfl

theorem cast_signed (negative : Bool) (n : ℕ) :
    ((if negative then -(n : ℤ) else n : ℤ) : ℚ) = signed negative n := by
  cases negative with
  | true => exact Int.cast_neg _
  | false => rfl

theorem eq_true_of_signed_neg {negative : Bool} (hv : 0 ≤ v) (h : signed negative v < 0) :
    negative = true := by
  cases negative with
  | true => rfl
  | false => exact absurd h hv.not_gt

theorem eq_false_of_signed_pos {negative : Bool} (hv : 0 ≤ v) (h : 0 < signed negative v) :
    negative = false := by
  cases negative with
  | true => exact absurd h (neg_nonpos.mpr hv).not_gt
  | false => rfl

/-! ## The exponent of a quotient -/

theorem scaleUp_cast (n : ℕ) (e : ℤ) : (scaleUp n e : ℚ) = n * 2 ^ e.toNat := by
  rw [scaleUp, Nat.pow_eq, Nat.cast_mul, Nat.cast_pow, Nat.cast_ofNat]

theorem scaleUp_div_scaleUp (num den : ℕ) (e : ℤ) :
    (scaleUp num (-e) : ℚ) / scaleUp den e = num / den / 2 ^ e := by
  rw [scaleUp_cast, scaleUp_cast]
  obtain ⟨k, rfl | rfl⟩ := e.eq_nat_or_neg
  · rw [Int.toNat_neg_natCast, Int.toNat_natCast, pow_zero, mul_one, zpow_natCast, div_div]
  · rw [neg_neg, Int.toNat_neg_natCast, Int.toNat_natCast, pow_zero, mul_one, zpow_neg,
      zpow_natCast, div_inv_eq_mul, mul_div_right_comm]

theorem log2_bounds {n : ℕ} (hn : 0 < n) :
    (2 : ℚ) ^ (n.log2 : ℤ) ≤ n ∧ (n : ℚ) < 2 ^ (n.log2 + 1 : ℤ) := by
  constructor
  · rw [zpow_natCast]
    exact_mod_cast Nat.log2_self_le hn.ne'
  · exact_mod_cast Nat.lt_log2_self

/-- The logarithms of its parts leave two powers of two for a quotient. -/
theorem quotient_bounds (hnum : 0 < num) (hden : 0 < den) :
    (2 : ℚ) ^ ((num.log2 : ℤ) - den.log2 - 1) ≤ num / den ∧
      (num / den : ℚ) < 2 ^ ((num.log2 : ℤ) - den.log2 + 1) := by
  have hdenCast : (0 : ℚ) < den := by exact_mod_cast hden
  obtain ⟨hnumLower, hnumUpper⟩ := log2_bounds hnum
  obtain ⟨hdenLower, hdenUpper⟩ := log2_bounds hden
  rw [le_div_iff₀ hdenCast, div_lt_iff₀ hdenCast]
  constructor
  · calc (2 : ℚ) ^ ((num.log2 : ℤ) - den.log2 - 1) * den
        ≤ 2 ^ ((num.log2 : ℤ) - den.log2 - 1) * 2 ^ (den.log2 + 1 : ℤ) :=
          mul_le_mul_of_nonneg_left hdenUpper.le (two_zpow_pos _).le
      _ = 2 ^ (num.log2 : ℤ) := by
          rw [← zpow_add₀ two_ne_zero]
          congr 1
          ring
      _ ≤ num := hnumLower
  · calc (num : ℚ) < 2 ^ (num.log2 + 1 : ℤ) := hnumUpper
      _ = 2 ^ ((num.log2 : ℤ) - den.log2 + 1) * 2 ^ (den.log2 : ℤ) := by
          rw [← zpow_add₀ two_ne_zero]
          congr 1
          ring
      _ ≤ 2 ^ ((num.log2 : ℤ) - den.log2 + 1) * den :=
          mul_le_mul_of_nonneg_left hdenLower (two_zpow_pos _).le

/-- The exponent that is computed belongs to a power of two below the quotient, with the next one
above it. -/
theorem exists_exponentOf_eq (hnum : 0 < num) (hden : 0 < den) :
    ∃ k : ℤ, exponentOf num den = max leastExponent (k - 52) ∧
      (2 : ℚ) ^ k ≤ num / den ∧ (num / den : ℚ) < 2 ^ (k + 1) := by
  obtain ⟨hlower, hupper⟩ := quotient_bounds hnum hden
  simp only [exponentOf]
  generalize (num.log2 : ℤ) - den.log2 = guess at hlower hupper ⊢
  have hscaled : scaleUp den guess ≤ scaleUp num (-guess) ↔ (2 : ℚ) ^ guess ≤ num / den := by
    have hpos : (0 : ℚ) < scaleUp den guess := by
      rw [scaleUp_cast]
      positivity
    rw [← one_le_div₀ (two_zpow_pos guess), ← scaleUp_div_scaleUp, one_le_div₀ hpos]
    exact Nat.cast_le.symm
  split
  · next hfits => exact ⟨guess, rfl, hscaled.mp hfits, hupper⟩
  · next hbelow =>
    refine ⟨guess - 1, rfl, hlower, ?_⟩
    rw [sub_add_cancel]
    exact not_le.mp fun hle ↦ hbelow (hscaled.mpr hle)

theorem isExponent_exponentOf (hnum : 0 < num) (hden : 0 < den) :
    IsExponent (num / den) (exponentOf num den) := by
  obtain ⟨k, hexponent, hlower, hupper⟩ := exists_exponentOf_eq hnum hden
  rw [hexponent]
  refine ⟨le_max_left _ _, hupper.trans_le (zpow_le_zpow_right₀ one_le_two ?_), ?_⟩
  · have hle := le_max_right leastExponent (k - 52)
    omega
  · rcases max_choice leastExponent (k - 52) with hleast | hfull
    · exact .inl hleast
    · rw [hfull, sub_add_cancel]
      exact .inr hlower

theorem isHalfEven_significand (num : ℕ) (hden : 0 < den) (e : ℤ) :
    IsHalfEven (num / den / 2 ^ e) (halfEven (scaleUp num (-e)) (scaleUp den e)) := by
  rw [← scaleUp_div_scaleUp]
  exact isHalfEven_halfEven _ (Nat.mul_pos hden (Nat.pow_pos two_pos))

/-! ## Rounded quotients -/

theorem greatest_lt : greatest < 2 ^ (greatestExponent + 53) := by
  rw [greatest, add_comm greatestExponent, zpow_add₀ two_ne_zero]
  exact mul_lt_mul_of_pos_right (by norm_num) (two_zpow_pos _)

theorem isNearest_zero : IsNearest 0 0 := by
  refine ⟨leastExponent, 0, ⟨le_rfl, ?_, .inl rfl⟩, ?_, ?_⟩
  · rw [abs_zero]
    exact two_zpow_pos _
  · rw [zero_div]
    exact isHalfEven_intCast 0
  · rw [Int.cast_zero, zero_mul]

/-- Every non-negative number can be rounded. -/
theorem exists_isNearest (hv : 0 ≤ v) : ∃ z, IsNearest v z := by
  rcases hv.eq_or_lt with rfl | hpos
  · exact ⟨0, isNearest_zero⟩
  · obtain ⟨num, den, hnum, hden, rfl⟩ : ∃ num den : ℕ, 0 < num ∧ 0 < den ∧ v = num / den := by
      refine ⟨v.num.natAbs, v.den, Int.natAbs_pos.mpr (Rat.num_pos.mpr hpos).ne', v.den_pos, ?_⟩
      rw [Nat.cast_natAbs, abs_of_pos (Rat.num_pos.mpr hpos), Rat.num_div_den]
    have hexponent := isExponent_exponentOf hnum hden
    rw [← abs_of_pos hpos] at hexponent
    exact ⟨_, _, _, hexponent, isHalfEven_significand num hden _, rfl⟩

theorem IsRepresentable.isNearest (h : IsRepresentable v) (hv : 0 ≤ v) : IsNearest v v := by
  obtain ⟨z, hz⟩ := exists_isNearest hv
  rwa [hz.eq_self h] at hz

/-- Rounding does not pass a number that needs no rounding. -/
theorem IsNearest.le_of_isRepresentable {z : ℚ} (h : IsNearest v z) (hv : 0 ≤ v)
    (hbound : IsRepresentable v') (hle : v ≤ v') : z ≤ v' :=
  h.mono (hbound.isNearest (hv.trans hle)) hv hle

theorem IsNearest.ge_of_isRepresentable {z : ℚ} (h : IsNearest v z) (hv' : 0 ≤ v')
    (hbound : IsRepresentable v') (hle : v' ≤ v) : v' ≤ z :=
  (hbound.isNearest hv').mono h hv' hle

theorem hasValue_zero (negative : Bool) :
    HasValue (.finite negative 0 leastExponent) (signed negative 0) := by
  have hzero := HasValue.finite negative (by decide : 0 < 2 * leastSignificand)
    (le_refl leastExponent) (by decide)
  rwa [Nat.cast_zero, zero_mul] at hzero

/-- When rounding a finite value carries into the next power of two, the next exponent is there. -/
theorem IsExponent.carry {y : ℚ} {e n : ℤ} (h : IsExponent y e) (hround : IsHalfEven (y / 2 ^ e) n)
    (hle : y ≤ greatest) (hcarry : 2 ^ 53 ≤ n) : n = 2 ^ 53 ∧ e + 1 ≤ greatestExponent := by
  refine ⟨le_antisymm (h.significand_le hround) hcarry, ?_⟩
  have htop : e ≤ greatestExponent := h.le_of_lt (by decide) (hle.trans_lt greatest_lt)
  rcases htop.lt_or_eq with hless | rfl
  · omega
  · have hn : n ≤ 2 ^ 53 - 1 := by
      refine hround.mono (isHalfEven_intCast (2 ^ 53 - 1)) ?_
      rw [div_le_iff₀ (two_zpow_pos _), Int.cast_sub, Int.cast_pow, Int.cast_ofNat, Int.cast_one]
      exact hle
    omega

/-- A quotient that is not above the greatest finite value is rounded to a finite value. -/
theorem exists_hasValue_ofRatio (negative : Bool) (num : ℕ) (hden : 0 < den)
    (hle : (num / den : ℚ) ≤ greatest) :
    ∃ z, IsNearest (num / den) z ∧ (ofRatio negative num den).HasValue (signed negative z) := by
  rcases num.eq_zero_or_pos with rfl | hnum
  · refine ⟨0, ?_, ?_⟩
    · rw [Nat.cast_zero, zero_div]
      exact isNearest_zero
    · simpa [ofRatio] using hasValue_zero negative
  · have hexponent := isExponent_exponentOf hnum hden
    have htop : exponentOf num den ≤ greatestExponent :=
      hexponent.le_of_lt (by decide) (hle.trans_lt greatest_lt)
    have hround := isHalfEven_significand num hden (exponentOf num den)
    simp only [ofRatio, Bool.or_eq_true, decide_eq_true_eq, hnum.ne', hden.ne', or_self, if_false]
    generalize halfEven (scaleUp num (-exponentOf num den)) (scaleUp den (exponentOf num den)) =
      significand at hround ⊢
    generalize exponentOf num den = exponent at hexponent htop hround ⊢
    refine ⟨significand * 2 ^ exponent, ⟨exponent, significand, ?_, hround, rfl⟩, ?_⟩
    · rwa [abs_of_nonneg (by positivity)]
    rcases lt_or_ge significand (2 * leastSignificand) with hfits | hcarry
    · rw [if_pos hfits, if_pos htop]
      exact .finite negative hfits hexponent.least_le htop
    · obtain ⟨hsignificand, hnext⟩ := hexponent.carry hround hle (by exact_mod_cast hcarry)
      have hvalue : (significand : ℚ) * 2 ^ exponent = leastSignificand * 2 ^ (exponent + 1) := by
        have hsignificandCast : (significand : ℚ) = 2 ^ 53 := by exact_mod_cast hsignificand
        rw [hsignificandCast, leastSignificand, Nat.pow_eq, zpow_add_one₀ two_ne_zero]
        push_cast
        ring
      rw [if_neg hcarry.not_gt, if_pos hnext, hvalue]
      exact .finite negative (by decide) (hexponent.least_le.trans (by omega)) hnext

/-- The same for a number of either sign; zero may have any sign. -/
theorem exists_hasValue_ofRatio_of_abs {negative : Bool} (hden : 0 < den) (habs : |v| = num / den)
    (hneg : v < 0 → negative = true) (hpos : 0 < v → negative = false) (hle : |v| ≤ greatest) :
    ∃ z, IsNearest v z ∧ (ofRatio negative num den).HasValue z := by
  obtain ⟨z, hnearest, hvalue⟩ := exists_hasValue_ofRatio negative num hden (habs ▸ hle)
  rw [← habs] at hnearest
  rcases lt_trichotomy v 0 with hv | rfl | hv
  · rw [hneg hv] at hvalue ⊢
    rw [abs_of_neg hv] at hnearest
    exact ⟨-z, by simpa using hnearest.neg, hvalue⟩
  · -- the sign makes no difference
    rw [abs_zero] at hnearest
    have hzero : z = 0 := hnearest.eq_self ⟨0, 0, by decide, by decide, by simp⟩
    rw [hzero] at hnearest hvalue
    refine ⟨0, hnearest, ?_⟩
    have hsigned : signed negative 0 = 0 := by
      cases negative with
      | true => exact neg_zero
      | false => rfl
    rwa [hsigned] at hvalue
  · rw [hpos hv] at hvalue ⊢
    rw [abs_of_pos hv] at hnearest
    exact ⟨z, hnearest, hvalue⟩

/-! ## Finite values and their operations -/

namespace HasValue

theorem negate (h : x.HasValue v) : x.negate.HasValue (-v) := by
  obtain ⟨negative, hsignificand, hleast, hgreatest⟩ := h
  have hneg := finite (!negative) hsignificand hleast hgreatest
  cases negative with
  | true => simpa [Binary64.negate, signed] using hneg
  | false => simpa [Binary64.negate, signed] using hneg

/-- The magnitude of a finite value. -/
theorem exists_abs_eq (h : x.HasValue v) :
    ∃ (significand : ℕ) (exponent : ℤ), significand < 2 * leastSignificand ∧
      leastExponent ≤ exponent ∧ exponent ≤ greatestExponent ∧
      |v| = significand * 2 ^ exponent := by
  obtain ⟨negative, hsignificand, hleast, hgreatest⟩ := h
  refine ⟨_, _, hsignificand, hleast, hgreatest, ?_⟩
  rw [abs_signed, abs_of_nonneg (mul_nonneg (Nat.cast_nonneg _) (two_zpow_pos _).le)]

theorem isRepresentable_abs (h : x.HasValue v) : IsRepresentable |v| := by
  obtain ⟨significand, exponent, hsignificand, hleast, -, habs⟩ := h.exists_abs_eq
  refine ⟨significand, exponent, ?_, hleast, habs⟩
  rw [Nat.abs_cast]
  exact_mod_cast hsignificand

theorem abs_le_greatest (h : x.HasValue v) : |v| ≤ greatest := by
  obtain ⟨significand, exponent, hsignificand, -, hgreatest, habs⟩ := h.exists_abs_eq
  have hsignificandCast : (significand : ℚ) ≤ 2 ^ 53 - 1 := by
    rw [le_sub_iff_add_le]
    exact_mod_cast hsignificand
  rw [habs, greatest]
  exact mul_le_mul hsignificandCast (zpow_le_zpow_right₀ one_le_two hgreatest)
    (two_zpow_pos _).le (by norm_num)

/-- A finite value is a quotient with a sign. -/
theorem exists_ratio? (h : x.HasValue v) :
    ∃ negative num den, x.ratio? = some (negative, num, den) ∧ 0 < den ∧
      v = signed negative (num / den) := by
  obtain ⟨negative, -, -, -⟩ := h
  rename_i significand exponent
  refine ⟨negative, _, _, rfl, Nat.mul_pos one_pos (Nat.pow_pos two_pos), ?_⟩
  have hquotient := scaleUp_div_scaleUp significand 1 (-exponent)
  rw [neg_neg, zpow_neg, Nat.cast_one, div_one, div_inv_eq_mul] at hquotient
  rw [hquotient]

theorem mulFinite (h : x.HasValue v) (h' : x'.HasValue v') (hle : |v * v'| ≤ greatest) :
    ∃ z, IsNearest (v * v') z ∧ (x.mulFinite x').HasValue z := by
  obtain ⟨negative, num, den, hratio, hden, rfl⟩ := h.exists_ratio?
  obtain ⟨negative', num', den', hratio', hden', rfl⟩ := h'.exists_ratio?
  have hproduct : (num / den * (num' / den') : ℚ) = (num * num' : ℕ) / (den * den' : ℕ) := by
    rw [div_mul_div_comm, Nat.cast_mul, Nat.cast_mul]
  have hnonneg : (0 : ℚ) ≤ (num * num' : ℕ) / (den * den' : ℕ) := by positivity
  rw [signed_mul_signed, hproduct] at hle ⊢
  simp only [Binary64.mulFinite, hratio, hratio']
  refine exists_hasValue_ofRatio_of_abs (Nat.mul_pos hden hden') ?_
    (eq_true_of_signed_neg hnonneg) (eq_false_of_signed_pos hnonneg) hle
  rw [abs_signed, abs_of_nonneg hnonneg]

theorem addFinite (h : x.HasValue v) (h' : x'.HasValue v') (hle : |v + v'| ≤ greatest) :
    ∃ z, IsNearest (v + v') z ∧ (x.addFinite x').HasValue z := by
  obtain ⟨negative, num, den, hratio, hden, rfl⟩ := h.exists_ratio?
  obtain ⟨negative', num', den', hratio', hden', rfl⟩ := h'.exists_ratio?
  simp only [Binary64.addFinite, hratio, hratio']
  generalize hsum : (if negative = true then -((num * den' : ℕ) : ℤ) else (num * den' : ℕ)) +
    (if negative' = true then -((num' * den : ℕ) : ℤ) else (num' * den : ℕ)) = sum
  have hden₀ : (0 : ℚ) < (den * den' : ℕ) := by exact_mod_cast Nat.mul_pos hden hden'
  have hvalue : signed negative (num / den) + signed negative' (num' / den') =
      sum / (den * den' : ℕ) := by
    have hden' : (den' : ℚ) ≠ 0 := by exact_mod_cast hden'.ne'
    have hden : (den : ℚ) ≠ 0 := by exact_mod_cast hden.ne'
    rw [← hsum, Int.cast_add, cast_signed, cast_signed, add_div, signed_div, signed_div,
      Nat.cast_mul, Nat.cast_mul, Nat.cast_mul, mul_div_mul_right _ _ hden',
      mul_comm (num' : ℚ), mul_div_mul_left _ _ hden]
  rw [hvalue] at hle ⊢
  refine exists_hasValue_ofRatio_of_abs (Nat.mul_pos hden hden') ?_ (fun hneg ↦ ?_)
    (fun hpos ↦ ?_) hle
  · rw [abs_div, abs_of_pos hden₀, ← Int.cast_abs, Int.abs_eq_natAbs, Int.cast_natCast]
  · have hsumNeg : sum < 0 := by
      rw [div_lt_iff₀ hden₀, zero_mul] at hneg
      exact_mod_cast hneg
    simp [hsumNeg]
  · have hsumPos : 0 < sum := by
      rw [div_pos_iff_of_pos_right hden₀] at hpos
      exact_mod_cast hpos
    simp [hsumPos.not_gt, hsumPos.ne']

end HasValue

theorem exists_hasValue_ofInt (n : ℤ) (hle : |(n : ℚ)| ≤ greatest) :
    ∃ z, IsNearest n z ∧ (ofInt n).HasValue z := by
  refine exists_hasValue_ofRatio_of_abs one_pos ?_ (fun hneg ↦ ?_) (fun hpos ↦ ?_) hle
  · rw [Nat.cast_one, div_one, ← Int.cast_abs, Int.abs_eq_natAbs, Int.cast_natCast]
  · exact decide_eq_true (by exact_mod_cast hneg)
  · have hnonneg : ¬ n < 0 := by
      have hnpos : 0 < n := by exact_mod_cast hpos
      omega
    exact decide_eq_false hnonneg

end AssistedDialing.Binary64
