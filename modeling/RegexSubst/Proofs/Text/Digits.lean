import Mathlib.Algebra.Group.Nat.Defs
import RegexSubst.Text.Digits

/-!
# `RegexSubst.Proofs.Text.Digits`: the value of digits

* `CodePoint.isHexDigit_bounds` and `CodePoint.hexDigit?_of_isDigit` place the digits among the code
  points, and `CodePoint.hexDigit?_lt` and `CodePoint.hexDigit?_lt_of_isDigit` bound their values.
* `Text.hexValue_append` and `Text.hexValue_lt`: a text of hex digits is read in base 16, most
  significant digit first.
-/

set_option autoImplicit false

namespace RegexSubst

namespace CodePoint

/-- Hex digits are below U+007F. -/
theorem isHexDigit_bounds {c : CodePoint} (h : c.isHexDigit = true) :
    0x30 ≤ c.val ∧ c.val ≤ 0x39 ∨ 0x41 ≤ c.val ∧ c.val ≤ 0x46 ∨ 0x61 ≤ c.val ∧ c.val ≤ 0x66 := by
  unfold isHexDigit hexDigit? at h
  grind

/-- Decimal digits are hex digits with the same value. -/
theorem hexDigit?_of_isDigit {c : CodePoint} (h : c.isDigit = true) :
    c.hexDigit? = some (c.val - 0x30) := by
  unfold isDigit at h
  unfold hexDigit?
  grind

/-- Decimal digits are hex digits. -/
theorem isHexDigit_of_isDigit {c : CodePoint} (h : c.isDigit = true) : c.isHexDigit = true := by
  simp [isHexDigit, hexDigit?_of_isDigit h]

/-- A decimal digit is less than ten. -/
theorem hexDigit?_lt_of_isDigit {c : CodePoint} (h : c.isDigit = true) :
    c.hexDigit?.getD 0 < 10 := by
  rw [hexDigit?_of_isDigit h, Option.getD_some]
  simp only [isDigit, Bool.and_eq_true, decide_eq_true_eq] at h
  omega

/-- A hex digit is none of the characters that are not. -/
theorem ne_of_isHexDigit {c d : CodePoint} (hc : c.isHexDigit = true) (hd : d.isHexDigit = false) :
    c ≠ d := by
  rintro rfl
  rw [hc] at hd
  cases hd

/-- A hex digit is less than sixteen. -/
theorem hexDigit?_lt (c : CodePoint) : c.hexDigit?.getD 0 < 16 := by
  unfold hexDigit?
  grind

end CodePoint

namespace Text

/-- The fold behind `hexValue`, begun at any value. -/
private theorem foldl_hexValue (t : Text) (value : Nat) :
    t.foldl (fun value c => 16 * value + c.hexDigit?.getD 0) value
      = value * 16 ^ t.length + hexValue t := by
  unfold hexValue
  induction t generalizing value with
  | nil => simp
  | cons c rest ih =>
    simp only [List.foldl_cons, List.length_cons]
    -- Both sides begin with the value of `c`: one after `value`, one after zero.
    rw [ih (16 * value + _), ih (16 * 0 + _), Nat.pow_succ]
    grind

/-- The value of two runs of hex digits, one after the other. -/
theorem hexValue_append (s t : Text) :
    hexValue (s ++ t) = hexValue s * 16 ^ t.length + hexValue t := by
  rw [hexValue, List.foldl_append, foldl_hexValue]
  rfl

/-- A text of `n` hex digits is less than `16 ^ n`. -/
theorem hexValue_lt (t : Text) : hexValue t < 16 ^ t.length := by
  induction t with
  | nil => simp [hexValue]
  | cons c rest ih =>
    have hc := c.hexDigit?_lt
    have hcons : hexValue (c :: rest) = c.hexDigit?.getD 0 * 16 ^ rest.length + hexValue rest := by
      rw [hexValue, List.foldl_cons, foldl_hexValue]
      simp
    -- The first digit is at most fifteen, so there is room for the others below the next power.
    have hhead : (c.hexDigit?.getD 0 + 1) * 16 ^ rest.length ≤ 16 * 16 ^ rest.length :=
      Nat.mul_le_mul_right _ hc
    rw [hcons, List.length_cons, Nat.pow_succ]
    grind

end Text

end RegexSubst
