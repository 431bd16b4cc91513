import AssistedDialing.Text.Digit
import Mathlib.Algebra.Order.Ring.Nat
import Mathlib.Tactic.Ring

/-!
# The values of digits

A decimal digit has its place in one of the runs of ten. So the value of a digit is below ten, and
ASCII digits read as a number lie between the powers of ten that their count says
(`foldl_digits_bounds`).
-/

namespace AssistedDialing.Text

/-- A decimal digit has its place in one of the runs of ten. -/
theorem exists_start_of_decimalIn {starts : List Nat} {code value : Nat}
    (h : decimalIn starts code = some value) :
    ∃ start ∈ starts, start ≤ code ∧ code ≤ start + 9 ∧ value = code - start := by
  induction starts with
  | nil => simp [decimalIn] at h
  | cons start starts ih =>
      rw [decimalIn] at h
      split at h
      · cases h
      · split at h
        · cases h
          exact ⟨start, List.mem_cons_self, by omega, by omega, rfl⟩
        · obtain ⟨later, hmem, hplace⟩ := ih h
          exact ⟨later, List.mem_cons_of_mem _ hmem, hplace⟩

/-- The value in a run is at most that of its last code point. -/
theorem le_of_digitIn {runs : List DigitRun} {code value : Nat}
    (h : digitIn runs code = some value) :
    ∃ run ∈ runs, value ≤ run.value + (run.last - run.first) := by
  obtain ⟨run, hfind, rfl⟩ := Option.map_eq_some_iff.mp h
  have hplace := List.find?_some hfind
  simp only [Bool.and_eq_true, decide_eq_true_eq] at hplace
  exact ⟨run, List.mem_of_find?_eq_some hfind, by omega⟩

theorem digitValue?_lt {c : Char} {value : Nat} (h : digitValue? c = some value) : value < 10 := by
  rw [digitValue?] at h
  split at h
  · next decimal hdecimal =>
    obtain ⟨start, -, hfirst, hlast, hvalue⟩ := exists_start_of_decimalIn hdecimal
    cases h
    omega
  · split at h
    · cases h
    · obtain ⟨run, hrun, hle⟩ := le_of_digitIn h
      have hruns : ∀ run ∈ otherDigitRuns, run.value + (run.last - run.first) < 10 := by decide
      exact Nat.lt_of_le_of_lt hle (hruns run hrun)

theorem isAsciiDigit_digitChar {value : Nat} (h : value < 10) :
    isAsciiDigit (digitChar value) = true := by
  have hall : ∀ value < 10, isAsciiDigit (digitChar value) = true := by decide
  exact hall value h

/-- Reading ASCII digits behind the number `n` appends them to it. -/
theorem foldl_digits_bounds {cs : List Char} (h : cs.all isAsciiDigit = true) (n : Nat) :
    n * 10 ^ cs.length ≤ cs.foldl (fun n c ↦ 10 * n + (c.toNat - 48)) n ∧
      cs.foldl (fun n c ↦ 10 * n + (c.toNat - 48)) n < (n + 1) * 10 ^ cs.length := by
  -- the first of the digits is at most nine, so it leaves the range of the others behind `n`
  induction cs generalizing n with
  | nil => simp
  | cons c cs ih =>
      rw [List.all_cons, Bool.and_eq_true] at h
      obtain ⟨hfirst, hrest⟩ := h
      simp only [isAsciiDigit, Bool.and_eq_true, decide_eq_true_eq] at hfirst
      obtain ⟨hlower, hupper⟩ := ih hrest (10 * n + (c.toNat - 48))
      rw [List.foldl_cons, List.length_cons, Nat.pow_succ]
      constructor
      · calc n * (10 ^ cs.length * 10) = 10 * n * 10 ^ cs.length := by ring
          _ ≤ (10 * n + (c.toNat - 48)) * 10 ^ cs.length :=
            Nat.mul_le_mul_right _ (Nat.le_add_right _ _)
          _ ≤ _ := hlower
      · calc _ < (10 * n + (c.toNat - 48) + 1) * 10 ^ cs.length := hupper
          _ ≤ (10 * (n + 1)) * 10 ^ cs.length := Nat.mul_le_mul_right _ (by omega)
          _ = (n + 1) * (10 ^ cs.length * 10) := by ring

theorem asciiNumber?_eq_some {cs : List Char} (hne : cs ≠ []) (h : cs.all isAsciiDigit = true) :
    asciiNumber? cs = some (cs.foldl (fun n c ↦ 10 * n + (c.toNat - 48)) 0) := by
  simp [asciiNumber?, hne, h]

/-- So many ASCII digits are a number of at most so many digits. -/
theorem exists_asciiNumber? {cs : List Char} (hne : cs ≠ []) (h : cs.all isAsciiDigit = true) :
    ∃ n, asciiNumber? cs = some n ∧ n < 10 ^ cs.length :=
  ⟨_, asciiNumber?_eq_some hne h, by simpa using (foldl_digits_bounds h 0).2⟩

theorem digit_pos {c : Char} (h : isAsciiDigit c = true) (hzero : c ≠ '0') : 0 < c.toNat - 48 := by
  have hne : c.toNat ≠ 48 := fun heq ↦ hzero (Char.toNat_inj.mp heq)
  simp only [isAsciiDigit, Bool.and_eq_true, decide_eq_true_eq] at h
  omega

/-- A number whose first digit is no zero is positive. -/
theorem asciiNumber?_pos {cs : List Char} {n : Nat} (hzero : cs.head? ≠ some '0')
    (h : asciiNumber? cs = some n) : 0 < n := by
  cases cs with
  | nil => cases h
  | cons c cs =>
      have hdigits : (c :: cs).all isAsciiDigit = true := by
        cases hall : (c :: cs).all isAsciiDigit with
        | true => rfl
        | false => simp [asciiNumber?, -List.all_cons, hall] at h
      rw [asciiNumber?_eq_some (List.cons_ne_nil _ _) hdigits, Option.some.injEq] at h
      rw [List.all_cons, Bool.and_eq_true] at hdigits
      have hfirst : 0 < c.toNat - 48 := digit_pos hdigits.1 fun heq ↦ hzero (congrArg some heq)
      rw [← h]
      calc 0 < (10 * 0 + (c.toNat - 48)) * 10 ^ cs.length :=
            Nat.mul_pos (by omega) (Nat.pow_pos (by decide))
        _ ≤ _ := (foldl_digits_bounds hdigits.2 _).1

/-- The decimal digits of a number are ASCII digits. -/
theorem isAsciiDigit_of_mem_toDigits {n : Nat} {c : Char} (h : c ∈ Nat.toDigits 10 n) :
    isAsciiDigit c = true := by
  have hdigit := Nat.isDigit_of_mem_toDigits (by decide) (by decide) h
  rw [Char.isDigit, Bool.and_eq_true, decide_eq_true_eq, decide_eq_true_eq] at hdigit
  rw [isAsciiDigit, Bool.and_eq_true, decide_eq_true_eq, decide_eq_true_eq]
  exact ⟨hdigit.1, hdigit.2⟩

/-- A number is read from its decimal digits. -/
theorem asciiNumber?_toDigits (n : Nat) : asciiNumber? (Nat.toDigits 10 n) = some n := by
  rw [asciiNumber?_eq_some Nat.toDigits_ne_nil
    (List.all_eq_true.mpr fun c hc ↦ isAsciiDigit_of_mem_toDigits hc)]
  exact congrArg some (Nat.ofDigitChars_toDigits (by decide) (by decide))

theorem toDigits_digit {c : Char} (h : isAsciiDigit c = true) :
    Nat.toDigits 10 (c.toNat - 48) = [c] := by
  simp only [isAsciiDigit, Bool.and_eq_true, decide_eq_true_eq] at h
  have hvalue : c.toNat - 48 < 10 := by omega
  rw [Nat.toDigits_of_lt_base hvalue, List.singleton_inj, ← Char.toNat_inj,
    Nat.toNat_digitChar_of_lt_ten hvalue]
  omega

/-- ASCII digits behind a positive number are its further decimal digits. -/
theorem toDigits_append {cs : List Char} (h : cs.all isAsciiDigit = true) {n : Nat} (hn : 0 < n) :
    Nat.toDigits 10 n ++ cs =
      Nat.toDigits 10 (cs.foldl (fun n c ↦ 10 * n + (c.toNat - 48)) n) := by
  induction cs generalizing n with
  | nil => rw [List.append_nil, List.foldl_nil]
  | cons c cs ih =>
      rw [List.all_cons, Bool.and_eq_true] at h
      have hfirst := h.1
      simp only [isAsciiDigit, Bool.and_eq_true, decide_eq_true_eq] at hfirst
      calc Nat.toDigits 10 n ++ c :: cs
          = Nat.toDigits 10 n ++ Nat.toDigits 10 (c.toNat - 48) ++ cs := by
            rw [toDigits_digit h.1, List.append_assoc, List.singleton_append]
        _ = Nat.toDigits 10 (10 * n + (c.toNat - 48)) ++ cs := by
            rw [Nat.toDigits_append_toDigits (by decide) hn (by omega)]
        _ = _ := ih h.2 (by omega)

/-- ASCII digits that do not start with a zero are the decimal digits of their value. -/
theorem toDigits_foldl {cs : List Char} (hne : cs ≠ []) (hzero : cs.head? ≠ some '0')
    (h : cs.all isAsciiDigit = true) :
    Nat.toDigits 10 (cs.foldl (fun n c ↦ 10 * n + (c.toNat - 48)) 0) = cs := by
  cases cs with
  | nil => exact absurd rfl hne
  | cons c cs =>
      rw [List.all_cons, Bool.and_eq_true] at h
      have hfirst : 0 < c.toNat - 48 := digit_pos h.1 fun heq ↦ hzero (congrArg some heq)
      rw [List.foldl_cons, Nat.mul_zero, Nat.zero_add, ← toDigits_append h.2 hfirst,
        toDigits_digit h.1, List.singleton_append]

/-- The decimal digits of a positive number do not start with a zero. -/
theorem head?_toDigits {n : Nat} (hn : 0 < n) : (Nat.toDigits 10 n).head? ≠ some '0' := by
  induction n using Nat.strongRecOn with
  | ind n ih =>
      rw [Nat.toDigits_eq_if (by decide)]
      split
      · rw [List.head?_cons, ne_eq, Option.some.injEq, Nat.digitChar_eq_zero]
        omega
      · obtain ⟨c, cs, hcs⟩ :=
          List.exists_cons_of_ne_nil (Nat.toDigits_ne_nil : Nat.toDigits 10 (n / 10) ≠ [])
        have hrest := ih (n / 10) (by omega) (by omega)
        rw [hcs] at hrest ⊢
        exact hrest

end AssistedDialing.Text
