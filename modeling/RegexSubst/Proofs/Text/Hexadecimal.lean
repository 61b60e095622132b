import RegexSubst.Proofs.Text.Decimal
import RegexSubst.Proofs.Text.Digits

/-!
# `RegexSubst.Proofs.Text.Hexadecimal`: numbers and their hexadecimal forms

`Text.ofHex` writes a number in small hex digits and fills up with zeros.

* `Text.length_digits_le`: how many digits a number has in a base.
* `Text.hexValue_ofHex` and `Text.isHexDigit_of_mem_ofHex`: the form is a text of hex digits, with
  the number as its value.
* `Text.length_ofHex`: a number that fits is written with exactly as many digits as are asked for.
-/

set_option autoImplicit false

namespace RegexSubst.Text

/-- A number below the `k`-th power of the base has at most `k` digits. -/
theorem length_digits_le {base n k : Nat} (hbase : 2 ≤ base) (hk : 0 < k) (h : n < base ^ k) :
    (digits base n).length ≤ k := by
  induction k generalizing n with
  | zero => exact absurd hk (Nat.lt_irrefl 0)
  | succ k ih =>
    by_cases hn : n < base
    · rw [digits_of_lt hn]
      exact Nat.succ_le_succ (Nat.zero_le k)
    · -- The last digit is taken off, and the rest is below the power before.
      have hdiv : n / base < base ^ k := Nat.div_lt_of_lt_mul (by rwa [Nat.pow_succ'] at h)
      have hpos : 0 < k := by
        rcases Nat.eq_zero_or_pos k with rfl | hpos
        · rw [Nat.zero_add, Nat.pow_one] at h
          exact absurd h hn
        · exact hpos
      rw [digits_of_le hbase (Nat.le_of_not_lt hn), List.length_append, List.length_singleton]
      exact Nat.succ_le_succ (ih hpos hdiv)

/-- All digits of a number are below the base. -/
theorem lt_of_mem_digits {base n d : Nat} (hbase : 2 ≤ base) (h : d ∈ digits base n) :
    d < base := by
  induction n using Nat.strongRecOn with
  | ind n ih =>
    by_cases hn : n < base
    · rw [digits_of_lt hn, List.mem_singleton] at h
      rwa [h]
    · have hle : base ≤ n := Nat.le_of_not_lt hn
      rw [digits_of_le hbase hle, List.mem_append, List.mem_singleton] at h
      rcases h with hfirst | rfl
      · exact ih (n / base) (Nat.div_lt_self (by omega) (by omega)) hfirst
      · exact Nat.mod_lt n (by omega)

/-- The hex digit that is written for `d` has the value `d`. -/
theorem hexDigit?_digit {d : Nat} (h : d < 16) : (digit d).hexDigit? = some d := by
  have hmod : d % 16 = d := Nat.mod_eq_of_lt h
  unfold digit CodePoint.hexDigit?
  grind

/-- What is written for a number below sixteen is a hex digit. -/
theorem isHexDigit_digit {d : Nat} (h : d < 16) : (digit d).isHexDigit = true := by
  simp [CodePoint.isHexDigit, hexDigit?_digit h]

/-- The digits of a number in base 16 have the number as their value. -/
theorem hexValue_digits (n : Nat) : hexValue ((digits 16 n).map digit) = n := by
  induction n using Nat.strongRecOn with
  | ind n ih =>
    by_cases hn : n < 16
    · rw [digits_of_lt hn]
      show 16 * 0 + (digit n).hexDigit?.getD 0 = n
      rw [hexDigit?_digit hn, Option.getD_some]
      omega
    · -- The last digit adds its own value to sixteen times that of the others.
      have hlast : hexValue [digit (n % 16)] = n % 16 := by
        show 16 * 0 + (digit (n % 16)).hexDigit?.getD 0 = n % 16
        rw [hexDigit?_digit (Nat.mod_lt n (by decide)), Option.getD_some]
        omega
      rw [digits_of_le (by decide) (Nat.le_of_not_lt hn), List.map_append, hexValue_append,
        ih (n / 16) (by omega), List.map_singleton, hlast, List.length_singleton]
      omega

/-- Zeros in front do not count. -/
theorem hexValue_replicate_append (count : Nat) (t : Text) :
    hexValue (List.replicate count (digit 0) ++ t) = hexValue t := by
  induction count with
  | zero => rfl
  | succ k ih => exact ih

/-- The hex form of a number has the number as its value. -/
theorem hexValue_ofHex (width n : Nat) : hexValue (ofHex width n) = n := by
  rw [ofHex, hexValue_replicate_append, hexValue_digits]

/-- The hex form of a number consists of hex digits, the zeros in front included. -/
theorem isHexDigit_of_mem_ofHex {width n : Nat} {c : CodePoint} (h : c ∈ ofHex width n) :
    c.isHexDigit = true := by
  rcases List.mem_append.mp h with hzero | hdigit
  · rw [List.eq_of_mem_replicate hzero]
    rfl
  · obtain ⟨d, hd, rfl⟩ := List.mem_map.mp hdigit
    exact isHexDigit_digit (lt_of_mem_digits (by decide) hd)

/-- A number that fits is written with exactly `width` digits. -/
theorem length_ofHex {width n : Nat} (hwidth : 0 < width) (h : n < 16 ^ width) :
    (ofHex width n).length = width := by
  have hle := length_digits_le (by decide) hwidth h
  rw [ofHex, List.length_append, List.length_replicate, List.length_map]
  omega

end RegexSubst.Text
