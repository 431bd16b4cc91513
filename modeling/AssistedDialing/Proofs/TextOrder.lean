import AssistedDialing.Text.Digit
import Mathlib

/-!
# The order of texts with fixed fields

Texts are compared character by character. Where they begin with fields of the same width, the
fields decide before what follows them (`append_lt_append`), and numbers that are written with a
fixed number of digits are in the order of the numbers (`decimalDigits_append_lt`).
-/

namespace AssistedDialing.Text

/-- Of two texts that begin with parts of the same length, the parts are compared first. -/
theorem append_lt_append {part part' rest rest' : List Char} (hlength : part.length = part'.length)
    (h : part < part' ∨ part = part' ∧ rest < rest') : part ++ rest < part' ++ rest' := by
  obtain hless | ⟨rfl, hrest⟩ := h
  · have hlex : List.Lex (· < ·) part part' := hless
    induction hlex with
    | nil => cases hlength
    | rel hchar => exact .rel hchar
    | cons hparts ih => exact .cons (ih (Nat.succ.inj hlength) hparts)
  · exact List.Lex.append_left _ hrest part

theorem digitChar_lt {value other : Nat} (h : value < other) (hother : other < 10) :
    digitChar value < digitChar other := by
  have hall : ∀ other < 10, ∀ value < other, digitChar value < digitChar other := by decide
  exact hall other hother value h

@[simp] theorem length_decimalDigits (width n : Nat) : (decimalDigits width n).length = width := by
  induction width generalizing n with
  | zero => rfl
  | succ width ih => rw [decimalDigits, List.length_append, ih, List.length_singleton]

/-- Numbers of fixed width are in the order of the numbers. -/
theorem decimalDigits_lt {width n m : Nat} (h : n < m) (hm : m < 10 ^ width) :
    decimalDigits width n < decimalDigits width m := by
  induction width generalizing n m with
  | zero =>
      rw [Nat.pow_zero] at hm
      omega
  | succ width ih =>
      rw [decimalDigits, decimalDigits]
      apply append_lt_append (by simp)
      -- the leading digits decide, and the last digit where these are the same
      rcases Nat.lt_or_ge (n / 10) (m / 10) with hlead | hlead
      · left
        apply ih hlead
        rw [Nat.pow_succ] at hm
        omega
      · right
        have hsame : n / 10 = m / 10 := by omega
        rw [hsame]
        exact ⟨rfl, .rel (digitChar_lt (by omega) (by omega))⟩

/-- A number of fixed width is compared before what follows it. -/
theorem decimalDigits_append_lt {width n m : Nat} {rest rest' : List Char} (hm : m < 10 ^ width)
    (h : n < m ∨ n = m ∧ rest < rest') :
    decimalDigits width n ++ rest < decimalDigits width m ++ rest' := by
  apply append_lt_append (by simp)
  obtain hless | ⟨rfl, hrest⟩ := h
  · exact .inl (decimalDigits_lt hless hm)
  · exact .inr ⟨rfl, hrest⟩

end AssistedDialing.Text
