import AssistedDialing.Proofs.BinaryArithmetic
import AssistedDialing.Proofs.RecordTime
import Mathlib.Data.Rat.Floor

/-!
# Seconds rounded to microseconds

A floating-point number of seconds is split into whole seconds and a fraction, which is exact, and
the fraction is scaled to microseconds, which is rounded to 53 bits before it is rounded to an
integer. Two roundings are monotone like one (`IsRoundedTo.mono`), but they need not be the same as
one: a fraction very near the middle of two microseconds can be rounded like the middle
(`IsRoundedTo.isNearMicros`).
-/

namespace AssistedDialing.Binary64

variable {v : ℚ}

/-! ## Whole part and fraction -/

theorem isRepresentable_zero : IsRepresentable 0 :=
  ⟨0, 0, by decide, by decide, by rw [Int.cast_zero, zero_mul]⟩

theorem isRepresentable_million : IsRepresentable 1000000 :=
  ⟨1000000, 0, by decide, by decide, by norm_num⟩

/-- A number of 53 bits is an integer, or its significand is divided by a power of two. -/
theorem IsRepresentable.integer_or_quotient (h : IsRepresentable v) (hv : 0 ≤ v) :
    (∃ n : ℤ, v = n) ∨ ∃ m k : ℕ, m < 2 ^ 53 ∧ k ≤ 1074 ∧ v = m / (2 ^ k : ℕ) := by
  obtain ⟨m, k, hm, hk, rfl⟩ := h
  have hmNonneg : 0 ≤ m := by
    by_contra hneg
    have hmCast : (m : ℚ) < 0 := by exact_mod_cast not_le.mp hneg
    exact hv.not_gt (mul_neg_of_neg_of_pos hmCast (two_zpow_pos k))
  lift m to ℕ using hmNonneg
  rw [Nat.abs_cast] at hm
  obtain ⟨k, rfl | rfl⟩ := k.eq_nat_or_neg
  · left
    refine ⟨m * 2 ^ k, ?_⟩
    push_cast
    rw [zpow_natCast]
  · right
    refine ⟨m, k, by exact_mod_cast hm, ?_, ?_⟩
    · simp only [leastExponent] at hk
      omega
    · rw [zpow_neg, zpow_natCast, Int.cast_natCast, Nat.cast_pow, Nat.cast_ofNat, div_eq_mul_inv]

theorem IsRepresentable.floor (h : IsRepresentable v) (hv : 0 ≤ v) : IsRepresentable ⌊v⌋ := by
  obtain ⟨n, rfl⟩ | ⟨m, k, hm, -, rfl⟩ := h.integer_or_quotient hv
  · rwa [Int.floor_intCast]
  · have hdiv : m / 2 ^ k < 2 ^ 53 := (Nat.div_le_self m _).trans_lt hm
    rw [Rat.floor_natCast_div_natCast]
    refine ⟨(m / 2 ^ k : ℕ), 0, ?_, by decide, ?_⟩
    · rw [Nat.abs_cast]
      exact_mod_cast hdiv
    · rw [zpow_zero, mul_one, Int.natCast_ediv]

theorem IsRepresentable.fract (h : IsRepresentable v) (hv : 0 ≤ v) :
    IsRepresentable (Int.fract v) := by
  obtain ⟨n, rfl⟩ | ⟨m, k, hm, hk, rfl⟩ := h.integer_or_quotient hv
  · rw [Int.fract_intCast]
    exact isRepresentable_zero
  · have hmod : m % 2 ^ k < 2 ^ 53 := (Nat.mod_le m _).trans_lt hm
    rw [Int.fract_div_natCast_eq_div_natCast_mod]
    refine ⟨(m % 2 ^ k : ℕ), -k, ?_, ?_, ?_⟩
    · rw [Nat.abs_cast]
      exact_mod_cast hmod
    · simp only [leastExponent]
      omega
    · rw [zpow_neg, zpow_natCast, Int.cast_natCast, Nat.cast_pow, Nat.cast_ofNat, div_eq_mul_inv]

/-- The middle of two integers that are not too large is not rounded. -/
theorem isRepresentable_sub_half {n : ℤ} (hn : |2 * n - 1| < 2 ^ 53) :
    IsRepresentable (n - 1 / 2) := by
  refine ⟨2 * n - 1, -1, hn, by decide, ?_⟩
  rw [zpow_neg_one]
  push_cast
  ring

/-- From 8192 on a fraction has so few bits that a million times the fraction needs no more than 53
of them. -/
theorem IsRepresentable.fract_mul (h : IsRepresentable v) (hv : 8192 ≤ v) :
    IsRepresentable (Int.fract v * 1000000) := by
  obtain ⟨n, rfl⟩ | ⟨m, k, hm, hk, rfl⟩ := h.integer_or_quotient (le_trans (by norm_num) hv)
  · rw [Int.fract_intCast, zero_mul]
    exact isRepresentable_zero
  · have hpow : 2 ^ k < 2 ^ 40 := by
      have hlarge : 8192 * 2 ^ k ≤ m := by
        rw [le_div_iff₀ (by positivity)] at hv
        exact_mod_cast hv
      omega
    have hexponent : k < 40 := (Nat.pow_lt_pow_iff_right (by norm_num)).mp hpow
    have hmod : m % 2 ^ k < 2 ^ 39 :=
      (Nat.mod_lt m (by positivity)).trans_le (Nat.pow_le_pow_right two_pos (by omega))
    rw [Int.fract_div_natCast_eq_div_natCast_mod]
    generalize m % 2 ^ k = rest at hmod ⊢
    refine ⟨(rest * 15625 : ℕ), 6 - k, ?_, ?_, ?_⟩
    · rw [Nat.abs_cast]
      exact_mod_cast (by omega : rest * 15625 < 2 ^ 53)
    · simp only [leastExponent]
      omega
    · rw [zpow_sub₀ two_ne_zero, zpow_natCast]
      push_cast
      ring

theorem HasValue.truncate? {x : Binary64} (h : x.HasValue v) :
    ∃ negative a, 0 ≤ a ∧ v = signed negative a ∧
      x.truncate? = some (if negative then -⌊a⌋ else ⌊a⌋) := by
  obtain ⟨negative, num, den, hratio, hden, rfl⟩ := h.exists_ratio?
  refine ⟨negative, num / den, by positivity, rfl, ?_⟩
  rw [Binary64.truncate?, hratio, Rat.floor_natCast_div_natCast]
  rfl

end AssistedDialing.Binary64

namespace AssistedDialing.Time.Instant

open Binary64

/-! ## Microseconds -/

/-- `IsScaled a n` says that the non-negative `a` seconds are rounded to `n` microseconds: the whole
seconds count in full, and the fraction is rounded to 53 bits when it is scaled, and then to an
integer. -/
def IsScaled (a : ℚ) (n : ℤ) : Prop :=
  ∃ (z : ℚ) (k : ℤ), IsNearest (Int.fract a * 1000000) z ∧ IsHalfEven z k ∧
    n = ⌊a⌋ * 1000000 + k

/-- `IsNearMicros t n` says that `t` seconds are `n` microseconds, rounded half to even, except that
less than 8192 seconds which are within `2 ^ (-34)` microseconds of the middle of two integers may
count as the middle. -/
def IsNearMicros (t : ℚ) (n : ℤ) : Prop :=
  IsHalfEven (t * 1000000) n ∨ |t| < 8192 ∧ Even n ∧ |t * 1000000 - n| ≤ 1 / 2 + 1 / 2 ^ 34

variable {a a' t t' z : ℚ} {n n' k : ℤ}

theorem nearestInteger_isHalfEven {x : Binary64} {v : ℚ} (h : x.HasValue v) :
    IsHalfEven v (nearestInteger x) := by
  obtain ⟨negative, num, den, hratio, hden, rfl⟩ := h.exists_ratio?
  have hround := isHalfEven_halfEven num hden
  rw [nearestInteger, hratio]
  cases negative with
  | true => exact hround.neg
  | false => exact hround

/-- The scaled fraction is not negative, and at most a million. -/
theorem scaled_bounds (hz : IsNearest (Int.fract a * 1000000) z) (hk : IsHalfEven z k) :
    0 ≤ k ∧ k ≤ 1000000 := by
  have hnonneg : 0 ≤ Int.fract a * 1000000 := mul_nonneg (Int.fract_nonneg a) (by norm_num)
  constructor
  · have hzero : 0 ≤ z := isNearest_zero.mono hz le_rfl hnonneg
    exact (isHalfEven_intCast 0).mono hk (by exact_mod_cast hzero)
  · have hle : z ≤ 1000000 := by
      refine hz.le_of_isRepresentable hnonneg isRepresentable_million ?_
      linarith [(Int.fract_lt_one a).le]
    exact hk.mono (isHalfEven_intCast 1000000) (by exact_mod_cast hle)

namespace IsScaled

theorem nonneg (h : IsScaled a n) (ha : 0 ≤ a) : 0 ≤ n := by
  obtain ⟨z, k, hz, hk, rfl⟩ := h
  have hfloor : 0 ≤ ⌊a⌋ := Int.floor_nonneg.mpr ha
  have hscaled := (scaled_bounds hz hk).1
  omega

theorem mono (h : IsScaled a n) (h' : IsScaled a' n') (hle : a ≤ a') : n ≤ n' := by
  obtain ⟨z, k, hz, hk, rfl⟩ := h
  obtain ⟨z', k', hz', hk', rfl⟩ := h'
  rcases (Int.floor_mono hle).eq_or_lt with hsame | hless
  · -- in the same second the fractions decide
    have hfract : Int.fract a ≤ Int.fract a' := by
      rw [Int.fract, Int.fract, hsame]
      linarith
    have hzle : z ≤ z' := hz.mono hz' (mul_nonneg (Int.fract_nonneg a) (by norm_num))
      (mul_le_mul_of_nonneg_right hfract (by norm_num))
    have hkle : k ≤ k' := hk.mono hk' hzle
    omega
  · have hscaled := (scaled_bounds hz hk).2
    have hscaled' := (scaled_bounds hz' hk').1
    omega

/-- An integer has no fraction to be rounded. -/
theorem intCast (m : ℤ) : IsScaled m (m * 1000000) := by
  refine ⟨0, 0, ?_, isHalfEven_intCast 0, ?_⟩
  · rw [Int.fract_intCast, zero_mul]
    exact isNearest_zero
  · rw [Int.floor_intCast, add_zero]

end IsScaled

/-! ## How near the microseconds are -/

/-- The middles of integers are not changed by the first rounding, and so no number passes one. -/
theorem abs_sub_lt_of_isNearest {y : ℚ} (hz : IsNearest y z) (hy : 0 ≤ y) (hlower : 0 ≤ k)
    (hupper : k ≤ 1000000) (h : |z - k| < 1 / 2) : |y - k| < 1 / 2 := by
  obtain ⟨hbelow, habove⟩ := abs_lt.mp h
  rw [abs_lt]
  constructor
  · rcases hlower.eq_or_lt with rfl | hpos
    · rw [Int.cast_zero]
      linarith
    · have hmiddle : IsRepresentable (k - 1 / 2) :=
        isRepresentable_sub_half (by rw [abs_of_pos] <;> omega)
      by_contra hle
      have hzle : z ≤ k - 1 / 2 := hz.le_of_isRepresentable hy hmiddle (by linarith)
      linarith
  · have hmiddle : IsRepresentable ((k + 1 : ℤ) - 1 / 2) :=
      isRepresentable_sub_half (by rw [abs_of_pos] <;> omega)
    have hkCast : (0 : ℚ) ≤ k := by exact_mod_cast hlower
    rw [Int.cast_add, Int.cast_one] at hmiddle
    by_contra hle
    have hzge : (k : ℚ) + 1 - 1 / 2 ≤ z :=
      hz.ge_of_isRepresentable (by linarith) hmiddle (by linarith)
    linarith

/-- Only a number near the middle of two integers can be rounded to one that is not the nearest. -/
theorem near_of_isNearest {y : ℚ} (hz : IsNearest y z) (hk : IsHalfEven z k) (hy : 0 ≤ y)
    (hlt : y < 2 ^ 20) (hlower : 0 ≤ k) (hupper : k ≤ 1000000) :
    IsHalfEven y k ∨ Even k ∧ |y - k| ≤ 1 / 2 + 1 / 2 ^ 34 := by
  obtain hk | ⟨htie, heven⟩ := hk
  · exact .inl (.inl (abs_sub_lt_of_isNearest hz hy hlower hupper hk))
  · right
    refine ⟨heven, ?_⟩
    have herror : |z - y| ≤ 2 ^ (-33 : ℤ) / 2 := by
      refine hz.abs_sub_le (by decide) ?_
      rw [abs_of_nonneg hy]
      exact hlt.trans_eq (by norm_num)
    calc |y - k| ≤ |y - z| + |z - k| := abs_sub_le y z k
      _ ≤ 1 / 2 + 1 / 2 ^ 34 := by
        rw [abs_sub_comm y z, htie, add_comm]
        exact add_le_add_right (herror.trans_eq (by norm_num)) _

theorem IsScaled.isNearMicros (h : IsScaled a n) (ha : 0 ≤ a)
    (hexact : a < 8192 ∨ IsRepresentable (Int.fract a * 1000000)) : IsNearMicros a n := by
  obtain ⟨z, k, hz, hk, rfl⟩ := h
  have hwhole : Even (⌊a⌋ * 1000000) := Int.even_mul.mpr (.inr (by decide))
  have hscaled : a * 1000000 = Int.fract a * 1000000 + (⌊a⌋ * 1000000 : ℤ) := by
    rw [Int.fract]
    push_cast
    ring
  have hnonneg : 0 ≤ Int.fract a * 1000000 := mul_nonneg (Int.fract_nonneg a) (by norm_num)
  have hless : Int.fract a * 1000000 < 2 ^ 20 := by linarith [Int.fract_lt_one a]
  obtain ⟨hlower, hupper⟩ := scaled_bounds hz hk
  rw [IsNearMicros, hscaled, add_comm (⌊a⌋ * 1000000) k, abs_of_nonneg ha]
  obtain hbelow | hexact := hexact
  · obtain hround | ⟨heven, herror⟩ := near_of_isNearest hz hk hnonneg hless hlower hupper
    · exact .inl (hround.add_even hwhole)
    · right
      refine ⟨hbelow, heven.add hwhole, ?_⟩
      rwa [Int.cast_add, add_sub_add_right_eq_sub]
  · rw [hz.eq_self hexact] at hk
    exact .inl (hk.add_even hwhole)

theorem IsNearMicros.neg (h : IsNearMicros t n) : IsNearMicros (-t) (-n) := by
  have hscaled : -t * 1000000 - (-n : ℤ) = -(t * 1000000 - n) := by
    push_cast
    ring
  obtain h | ⟨hbelow, heven, herror⟩ := h
  · left
    rw [neg_mul]
    exact h.neg
  · right
    rw [abs_neg, even_neg, hscaled, abs_neg]
    exact ⟨hbelow, heven, herror⟩

/-- `IsRoundedTo t n` says that `t` seconds, of either sign, are rounded to `n` microseconds. -/
def IsRoundedTo (t : ℚ) (n : ℤ) : Prop :=
  0 ≤ t ∧ IsScaled t n ∨ t ≤ 0 ∧ IsScaled (-t) (-n)

namespace IsRoundedTo

/-- Later times are not rounded to earlier microseconds. -/
theorem mono (h : IsRoundedTo t n) (h' : IsRoundedTo t' n') (hle : t ≤ t') : n ≤ n' := by
  obtain ⟨ht, h⟩ | ⟨ht, h⟩ := h
  · obtain ⟨ht', h'⟩ | ⟨ht', h'⟩ := h'
    · exact h.mono h' hle
    · -- both times are 0
      have hn : n ≤ 0 * 1000000 := h.mono (.intCast 0) (by exact_mod_cast hle.trans ht')
      have hn' : -n' ≤ 0 * 1000000 := h'.mono (.intCast 0) (by push_cast; linarith)
      omega
  · obtain ⟨ht', h'⟩ | ⟨ht', h'⟩ := h'
    · have hn := h.nonneg (by linarith)
      have hn' := h'.nonneg ht'
      omega
    · have hn := h'.mono h (by linarith)
      omega

theorem isNearMicros (h : IsRoundedTo t n)
    (hexact : |t| < 8192 ∨ IsRepresentable (Int.fract |t| * 1000000)) : IsNearMicros t n := by
  obtain ⟨ht, h⟩ | ⟨ht, h⟩ := h
  · rw [abs_of_nonneg ht] at hexact
    exact h.isNearMicros ht hexact
  · rw [abs_of_nonpos ht] at hexact
    simpa only [neg_neg] using (h.isNearMicros (neg_nonneg.mpr ht) hexact).neg

theorem intCast (m : ℤ) : IsRoundedTo m (m * 1000000) := by
  rcases le_total 0 m with hm | hm
  · exact .inl ⟨by exact_mod_cast hm, .intCast m⟩
  · refine .inr ⟨by exact_mod_cast hm, ?_⟩
    rw [← Int.cast_neg, ← neg_mul]
    exact .intCast (-m)

end IsRoundedTo

/-! ## Values that are seconds -/

/-- `Seconds value t` says that a value is a finite number, and stands for `t` seconds. -/
inductive Seconds : Value → ℚ → Prop where
  | int (n : ℤ) : Seconds (.int n) n
  | bool (b : Bool) : Seconds (.bool b) (if b then 1 else 0)
  | float {x : Binary64} {t : ℚ} (h : x.HasValue t) : Seconds (.float x) t

variable {value : Value}

theorem million_le_greatest : (1000000 : ℚ) ≤ greatest := by
  have hpow : (1 : ℚ) ≤ 2 ^ greatestExponent := one_le_zpow₀ one_le_two (by decide)
  rw [greatest]
  linarith

/-- Splitting off the whole seconds is exact, and so the fraction is rounded only after it has been
scaled. -/
theorem microsOfFloat_eq {x : Binary64} (h : x.HasValue t) (whole : ℤ)
    (hwhole : IsRepresentable whole) (hbound : |(whole : ℚ)| ≤ greatest)
    (hfraction : IsRepresentable (t - whole)) (hnear : |t - whole| ≤ 1) :
    ∃ z k, IsNearest ((t - whole) * 1000000) z ∧ IsHalfEven z k ∧
      microsOfFloat whole x = whole * 1000000 + k := by
  obtain ⟨w, hw, hwValue⟩ := exists_hasValue_ofInt whole hbound
  rw [hw.eq_self hwhole] at hwValue
  obtain ⟨f, hf, hfValue⟩ := h.addFinite hwValue.negate <| by
    rw [← sub_eq_add_neg]
    exact hnear.trans (le_trans (by norm_num) million_le_greatest)
  rw [← sub_eq_add_neg] at hf
  rw [hf.eq_self hfraction] at hfValue
  obtain ⟨m, hm, hmValue⟩ := exists_hasValue_ofInt 1000000 <| by
    rw [Int.cast_ofNat, abs_of_pos (by norm_num)]
    exact million_le_greatest
  rw [Int.cast_ofNat] at hm
  rw [hm.eq_self isRepresentable_million] at hmValue
  obtain ⟨z, hz, hzValue⟩ := hfValue.mulFinite hmValue <| by
    rw [abs_mul, abs_of_pos (by norm_num : (0 : ℚ) < 1000000)]
    linarith [million_le_greatest]
  exact ⟨z, _, hz, nearestInteger_isHalfEven hzValue, rfl⟩

namespace Seconds

/-- Every finite number of seconds is rounded to some microseconds. -/
theorem exists_nearest? (h : Seconds value t) :
    ∃ n, nearest? value = some ⟨n⟩ ∧ IsRoundedTo t n := by
  cases h with
  | int n => exact ⟨n * 1000000, rfl, .intCast n⟩
  | bool b =>
      refine ⟨(if b then 1 else 0) * 1000000, rfl, ?_⟩
      cases b with
      | true => exact_mod_cast IsRoundedTo.intCast 1
      | false => exact_mod_cast IsRoundedTo.intCast 0
  | @float x t h =>
      obtain ⟨negative, a, ha, rfl, htruncate⟩ := h.truncate?
      have hrepresentable := h.isRepresentable_abs
      have hgreatest := h.abs_le_greatest
      rw [abs_signed, abs_of_nonneg ha] at hrepresentable hgreatest
      have hbound : |(⌊a⌋ : ℚ)| ≤ greatest := by
        rw [abs_of_nonneg (by exact_mod_cast Int.floor_nonneg.mpr ha)]
        exact (Int.floor_le a).trans hgreatest
      have hnear : |Int.fract a| ≤ 1 := by
        rw [abs_of_nonneg (Int.fract_nonneg a)]
        exact (Int.fract_lt_one a).le
      cases negative with
      | false =>
          obtain ⟨z, k, hz, hk, hmicros⟩ := microsOfFloat_eq h ⌊a⌋ (hrepresentable.floor ha)
            hbound (hrepresentable.fract ha) hnear
          refine ⟨microsOfFloat ⌊a⌋ x, ?_, .inl ⟨ha, z, k, hz, hk, hmicros⟩⟩
          rw [nearest?, htruncate]
          rfl
      | true =>
          -- both roundings treat a negative time like the positive one
          have hfraction : signed true a - (-⌊a⌋ : ℤ) = -Int.fract a := by
            rw [signed, if_pos rfl, Int.fract]
            push_cast
            ring
          obtain ⟨z, k, hz, hk, hmicros⟩ := microsOfFloat_eq h (-⌊a⌋)
            (by rw [Int.cast_neg]; exact (hrepresentable.floor ha).neg)
            (by rwa [Int.cast_neg, abs_neg])
            (by rw [hfraction]; exact (hrepresentable.fract ha).neg)
            (by rwa [hfraction, abs_neg])
          rw [hfraction, neg_mul] at hz
          refine ⟨microsOfFloat (-⌊a⌋) x, ?_, .inr ⟨neg_nonpos.mpr ha, -z, -k, ?_, hk.neg, ?_⟩⟩
          · rw [nearest?, htruncate]
            rfl
          · have hscaled := hz.neg
            rw [neg_neg] at hscaled
            rwa [signed, if_pos rfl, neg_neg]
          · rw [hmicros, signed, if_pos rfl, neg_neg]
            ring

theorem exact (h : Seconds value t) :
    |t| < 8192 ∨ IsRepresentable (Int.fract |t| * 1000000) := by
  rcases lt_or_ge |t| 8192 with hbelow | habove
  · exact .inl hbelow
  right
  cases h with
  | int n =>
      rw [← Int.cast_abs, Int.fract_intCast, zero_mul]
      exact isRepresentable_zero
  | bool b =>
      have hbit : |if b then (1 : ℚ) else 0| ≤ 1 := by
        cases b with
        | true => exact abs_one.le
        | false => exact abs_zero.trans_le zero_le_one
      linarith
  | float h => exact h.isRepresentable_abs.fract_mul habove

end Seconds

end AssistedDialing.Time.Instant
