import RegexSubst.Proofs.Text.Decimal
import RegexSubst.Proofs.Text.Numeral

/-!
# `RegexSubst.Proofs.Text.Integer`: integers and their decimal forms

The form of a negative integer has a minus sign in front of the digits. The limit on what is read
counts the digits alone.

* `Numeral.readInt_negative`: a minus sign in front of decimal digits.
* `Numeral.readInt_ofInt`: an integer is read from its decimal form, if that is not too long.
* `Text.exists_ofInt_eq`: the decimal form of an integer is digits, or a minus sign and digits.
-/

set_option autoImplicit false

namespace RegexSubst

namespace Text

/-- The decimal form of a number is not empty. -/
theorem ofNat_ne_nil (n : Nat) : ofNat n ≠ [] := by
  by_cases hn : n < 10
  · rw [ofNat_of_lt hn]
    exact List.cons_ne_nil _ _
  · rw [ofNat_of_le (Nat.le_of_not_lt hn)]
    exact List.append_ne_nil_of_right_ne_nil _ (List.cons_ne_nil _ _)

/-- The decimal form of an integer is a digit and more digits, with a minus sign in front if the
integer is negative. -/
theorem exists_ofInt_eq (n : Int) :
    ∃ d digits, (∀ c ∈ d :: digits, c.isDigit = true)
      ∧ (ofInt n = d :: digits ∨ ofInt n = CodePoint.ofChar '-' :: d :: digits) := by
  obtain ⟨d, digits, hform⟩ := List.exists_cons_of_ne_nil (ofNat_ne_nil n.natAbs)
  refine ⟨d, digits, fun c hc => isDigit_of_mem_ofNat (hform ▸ hc), ?_⟩
  rw [← hform, ofInt]
  split
  · exact .inr rfl
  · exact .inl rfl

end Text

namespace Numeral

variable {t : Text}

/-- What is read from a minus sign and decimal digits. -/
theorem readInt_negative (hne : t ≠ []) (h : ∀ c ∈ t, c.isDigit = true) :
    readInt 10 (CodePoint.ofChar '-' :: t) =
      if digitLimit < t.length then .error (.tooLong t.length)
      else .ok (-(Text.decimalValue t : Int)) := by
  have hhex : ∀ c ∈ t, c.isHexDigit = true := fun c hc => CodePoint.isHexDigit_of_isDigit (h c hc)
  have hvalue : ∀ c ∈ t, c.hexDigit?.getD 0 = c.val - 0x30 := fun c hc => by
    rw [CodePoint.hexDigit?_of_isDigit (h c hc), Option.getD_some]
  have hbase : ∀ c ∈ t, c.hexDigit?.getD 0 < 10 := fun c hc =>
    CodePoint.hexDigit?_lt_of_isDigit (h c hc)
  -- Neither the sign nor a digit is blank, so nothing is trimmed.
  have htrim : trim (CodePoint.ofChar '-' :: t) = CodePoint.ofChar '-' :: t := by
    refine trim_of_not_isBlank fun c hc => ?_
    rcases List.mem_cons.mp hc with rfl | hc
    · rfl
    · exact isBlank_of_isHexDigit (hhex c hc)
  have hdigits : digits? 10 t = some (t.map fun c => c.val - 0x30) := by
    rw [digits?_of_isHexDigit hne hhex hbase, List.map_congr_left hvalue]
  -- Both sums fold the same values of the digits.
  have hsum : ofDigits 10 (t.map fun c => c.val - 0x30) = Text.decimalValue t := List.foldl_map
  rw [readInt, htrim, show splitSign (CodePoint.ofChar '-' :: t) = (true, t) from rfl]
  simp only [hdigits, hsum, List.length_map, decide_true, Bool.true_and, decide_eq_true_eq,
    if_true]

/-- An integer is read from its decimal form, unless that has more digits than are read. -/
theorem readInt_ofInt {n : Int} (h : (Text.ofNat n.natAbs).length ≤ digitLimit) :
    readInt 10 (Text.ofInt n) = .ok n := by
  have hne := Text.ofNat_ne_nil n.natAbs
  have hdigits : ∀ c ∈ Text.ofNat n.natAbs, c.isDigit = true := fun _ => Text.isDigit_of_mem_ofNat
  rw [Text.ofInt]
  split
  · rw [readInt_negative hne hdigits, if_neg (Nat.not_lt.mpr h), Text.decimalValue_ofNat]
    congr 1
    omega
  · rw [readInt_decimal hne hdigits, if_neg (Nat.not_lt.mpr h), Text.decimalValue_ofNat]
    congr 1
    omega

end Numeral

end RegexSubst
