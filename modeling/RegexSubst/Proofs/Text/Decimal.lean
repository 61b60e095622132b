import Mathlib.Data.List.Induction
import RegexSubst.Text.Digits

/-!
# `RegexSubst.Proofs.Text.Decimal`: numbers and their decimal forms

`Text.ofNat` writes a number with as many rounds as the number itself, which is more than it needs.
Read from its last digit on, the form is that of a tenth of the number and one more digit, and so is
the value of a text of digits.

* `Text.ofNat_of_lt` and `Text.ofNat_of_le`: the form of a number by its last digit.
* `Text.decimalValue_ofNat` and `Text.isDigit_of_mem_ofNat`: the form is a text of digits, with the
  number as its value.
* `Text.decimalValue_zeros_append`: leading zeros do not count.
* `Text.exists_zeros_append_ofNat`: every text of digits is the form of its value behind leading
  zeros.
-/

set_option autoImplicit false

namespace RegexSubst.Text

/-! ### The last digit -/

/-- Rounds that are not needed change nothing. -/
theorem digitsFrom_congr {base n : Nat} (hbase : 2 ≤ base) {rounds rounds' : Nat} (h : n ≤ rounds)
    (h' : n ≤ rounds') : digitsFrom base rounds n = digitsFrom base rounds' n := by
  induction rounds generalizing n rounds' with
  | zero =>
    obtain rfl : n = 0 := by omega
    cases rounds' with
    | zero => rfl
    | succ k => exact (if_pos (by omega)).symm
  | succ k ih =>
    cases rounds' with
    | zero =>
      obtain rfl : n = 0 := by omega
      exact if_pos (by omega)
    | succ k' =>
      by_cases hn : n < base
      · simp only [digitsFrom, if_pos hn]
      · -- One round takes off a digit, and at least one of the number.
        have hdiv : n / base < n := Nat.div_lt_self (by omega) (by omega)
        simp only [digitsFrom, if_neg hn]
        rw [ih (by omega) (by omega : n / base ≤ k')]

/-- A number below the base is its own digit. -/
theorem digits_of_lt {base n : Nat} (h : n < base) : digits base n = [n] := by
  unfold digits
  cases n with
  | zero => rfl
  | succ k => exact if_pos h

/-- The last digit of a larger number is its remainder, and the others are the digits of the
quotient. -/
theorem digits_of_le {base n : Nat} (hbase : 2 ≤ base) (h : base ≤ n) :
    digits base n = digits base (n / base) ++ [n % base] := by
  have hdiv : n / base < n := Nat.div_lt_self (by omega) (by omega)
  obtain ⟨k, rfl⟩ : ∃ k, n = k + 1 := ⟨n - 1, by omega⟩
  -- The rounds of the two sides differ, so they are compared in the unfolded form.
  show (if k + 1 < base then [k + 1] else digitsFrom base k ((k + 1) / base) ++ [(k + 1) % base])
    = digitsFrom base ((k + 1) / base) ((k + 1) / base) ++ [(k + 1) % base]
  rw [if_neg (by omega), digitsFrom_congr hbase (by omega) (Nat.le_refl _)]

/-- A number of one digit. -/
theorem ofNat_of_lt {n : Nat} (h : n < 10) : ofNat n = [digit n] := by
  rw [ofNat, digits_of_lt h, List.map_singleton]

/-- A number of more than one digit. -/
theorem ofNat_of_le {n : Nat} (h : 10 ≤ n) : ofNat n = ofNat (n / 10) ++ [digit (n % 10)] := by
  rw [ofNat, digits_of_le (by decide) h, List.map_append, List.map_singleton, ofNat]

/-- The decimal digits stand side by side from `0` on. -/
theorem val_digit {d : Nat} (h : d < 10) : (digit d).val = 0x30 + d := by
  have hmod : d % 16 = d := Nat.mod_eq_of_lt (by omega)
  simp only [digit, hmod, if_pos h]

/-- What is written for a number below ten is a digit. -/
theorem isDigit_digit {d : Nat} (h : d < 10) : (digit d).isDigit = true := by
  simp only [CodePoint.isDigit, val_digit h, Bool.and_eq_true, decide_eq_true_eq]
  omega

/-- A digit is the digit of its value. -/
theorem digit_sub {c : CodePoint} (h : c.isDigit = true) : digit (c.val - 0x30) = c := by
  simp only [CodePoint.isDigit, Bool.and_eq_true, decide_eq_true_eq] at h
  refine CodePoint.val_injective ?_
  rw [val_digit (by omega)]
  omega

/-! ### Forms and values -/

/-- One more digit at the end is added to ten times the value. -/
theorem decimalValue_append_singleton (t : Text) (c : CodePoint) :
    decimalValue (t ++ [c]) = 10 * decimalValue t + (c.val - 0x30) := by
  rw [decimalValue, List.foldl_append]
  rfl

/-- The decimal form of a number has the number as its value. -/
theorem decimalValue_ofNat (n : Nat) : decimalValue (ofNat n) = n := by
  induction n using Nat.strongRecOn with
  | ind n ih =>
    by_cases hn : n < 10
    · rw [ofNat_of_lt hn]
      show 10 * 0 + ((digit n).val - 0x30) = n
      rw [val_digit hn]
      omega
    · rw [ofNat_of_le (by omega), decimalValue_append_singleton, ih (n / 10) (by omega),
        val_digit (by omega)]
      omega

/-- The decimal form of a number consists of digits. -/
theorem isDigit_of_mem_ofNat {n : Nat} {c : CodePoint} (h : c ∈ ofNat n) : c.isDigit = true := by
  induction n using Nat.strongRecOn with
  | ind n ih =>
    by_cases hn : n < 10
    · rw [ofNat_of_lt hn, List.mem_singleton] at h
      rw [h]
      exact isDigit_digit hn
    · rw [ofNat_of_le (by omega), List.mem_append, List.mem_singleton] at h
      rcases h with hfirst | rfl
      · exact ih (n / 10) (by omega) hfirst
      · exact isDigit_digit (by omega)

/-- Some zeros. -/
def zeros (count : Nat) : Text :=
  List.replicate count '0'

/-- There are as many zeros as are asked for. -/
@[simp]
theorem length_zeros (count : Nat) : (zeros count).length = count :=
  List.length_replicate

/-- Leading zeros do not count. -/
theorem decimalValue_zeros_append (count : Nat) (t : Text) :
    decimalValue (zeros count ++ t) = decimalValue t := by
  induction count with
  | zero => rfl
  | succ k ih => exact ih

/-- Zeros are digits. -/
theorem isDigit_of_mem_zeros {count : Nat} {c : CodePoint} (h : c ∈ zeros count) :
    c.isDigit = true := by
  rw [List.eq_of_mem_replicate h]
  rfl

/-- A text of digits is the decimal form of its value behind leading zeros. -/
theorem exists_zeros_append_ofNat {t : Text} (hne : t ≠ []) (h : ∀ c ∈ t, c.isDigit = true) :
    ∃ count, t = zeros count ++ ofNat (decimalValue t) := by
  -- The last digit of the text is the last digit of the form, unless all the others are zeros.
  induction t using List.reverseRecOn with
  | nil => exact absurd rfl hne
  | append_singleton s c ih =>
    have hc : c.isDigit = true := h c (by simp)
    have hlt : c.val - 0x30 < 10 := by
      simp only [CodePoint.isDigit, Bool.and_eq_true, decide_eq_true_eq] at hc
      omega
    have hlast : ofNat (c.val - 0x30) = [c] := by rw [ofNat_of_lt hlt, digit_sub hc]
    rw [decimalValue_append_singleton]
    by_cases hs : s = []
    · refine ⟨0, ?_⟩
      rw [hs, show 10 * decimalValue [] + (c.val - 0x30) = c.val - 0x30 by simp [decimalValue],
        hlast]
      rfl
    · obtain ⟨count, hcount⟩ := ih hs fun d hd => h d (by simp [hd])
      by_cases hzero : decimalValue s = 0
      · have hform : s = zeros (count + 1) := by
          rw [hcount, hzero, zeros, zeros, List.replicate_succ']
          rfl
        -- The digits in front are all zeros, and the form is the last digit alone.
        refine ⟨count + 1, ?_⟩
        rw [hzero, Nat.mul_zero, Nat.zero_add, hlast, ← hform]
      · refine ⟨count, ?_⟩
        have hmod : (10 * decimalValue s + (c.val - 0x30)) % 10 = c.val - 0x30 := by omega
        have hdiv : (10 * decimalValue s + (c.val - 0x30)) / 10 = decimalValue s := by omega
        rw [ofNat_of_le (by omega), hmod, hdiv, digit_sub hc, ← List.append_assoc, ← hcount]

end RegexSubst.Text
