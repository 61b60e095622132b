import RegexSubst.Proofs.Text.Digits
import RegexSubst.Text.Numeral

/-!
# `RegexSubst.Proofs.Text.Numeral`: what is read from plain digits

`Numeral.readInt` accepts blanks, a sign, underscores and the digits of every script. On a text that
consists of ASCII digits alone none of this matters, and what is read is the value of the digits.

* `Numeral.readInt_hex`: hex digits are read as `Text.hexValue`.
* `Numeral.readInt_decimal`: decimal digits are read as `Text.decimalValue`, unless there are more
  of them than `Numeral.digitLimit`.
-/

set_option autoImplicit false

namespace RegexSubst

namespace Numeral

variable {t : Text}

/-- No hex digit is blank. -/
theorem isBlank_of_isHexDigit {c : CodePoint} (h : c.isHexDigit = true) : isBlank c = false := by
  have := CodePoint.isHexDigit_bounds h
  unfold isBlank
  grind

/-- Hex digits are digits of every base in which their value is allowed. -/
theorem digit?_of_isHexDigit {c : CodePoint} (h : c.isHexDigit = true) :
    digit? c = some (c.hexDigit?.getD 0) := by
  have := CodePoint.isHexDigit_bounds h
  unfold digit? CodePoint.hexDigit? CodePoint.isDigit
  grind

/-- Nothing is trimmed from a text without blanks. -/
theorem trim_of_not_isBlank (h : ∀ c ∈ t, isBlank c = false) : trim t = t := by
  have hblank : ∀ s : Text, (∀ c ∈ s, isBlank c = false) → s.dropWhile isBlank = s := by
    intro s hs
    cases s with
    | nil => rfl
    | cons c rest =>
      rw [List.dropWhile_cons_of_neg]
      simp [hs c (by simp)]
  unfold trim
  rw [hblank t h, hblank t.reverse (by simpa using h), List.reverse_reverse]

/-- Nothing is trimmed from hex digits. -/
theorem trim_of_isHexDigit (h : ∀ c ∈ t, c.isHexDigit = true) : trim t = t :=
  trim_of_not_isBlank fun c hc => isBlank_of_isHexDigit (h c hc)

/-- Hex digits have no sign in front. -/
theorem splitSign_of_isHexDigit (h : ∀ c ∈ t, c.isHexDigit = true) : splitSign t = (false, t) := by
  cases t with
  | nil => rfl
  | cons c rest =>
    have hc := h c (by simp)
    have hminus : c ≠ CodePoint.ofChar '-' := CodePoint.ne_of_isHexDigit hc rfl
    have hplus : c ≠ CodePoint.ofChar '+' := CodePoint.ne_of_isHexDigit hc rfl
    simp only [splitSign, if_neg hminus, if_neg hplus]

/-- The digits of a text of hex digits below the base are their values. -/
theorem digits?_of_isHexDigit {base : Nat} (hne : t ≠ []) (h : ∀ c ∈ t, c.isHexDigit = true)
    (hbase : ∀ c ∈ t, c.hexDigit?.getD 0 < base) :
    digits? base t = some (t.map fun c => c.hexDigit?.getD 0) := by
  induction t with
  | nil => exact absurd rfl hne
  | cons c rest ih =>
    have hc : ¬ base ≤ c.hexDigit?.getD 0 := Nat.not_le.mpr (hbase c (by simp))
    unfold digits?
    simp only [digit?_of_isHexDigit (h c (by simp)), if_neg hc]
    cases rest with
    | nil => rfl
    | cons u rest' =>
      -- An underscore may stand between two digits, but a hex digit is none.
      have hunder : u ≠ CodePoint.ofChar '_' := CodePoint.ne_of_isHexDigit (h u (by simp)) rfl
      have hrest := ih (by simp) (fun d hd => h d (by simp [hd])) fun d hd => hbase d (by simp [hd])
      simp only [if_neg hunder, hrest, Option.map_some, List.map_cons]

/-- What is read from hex digits below the base: their value, unless there are too many of them. -/
theorem readInt_of_isHexDigit {base : Nat} (hne : t ≠ []) (h : ∀ c ∈ t, c.isHexDigit = true)
    (hbase : ∀ c ∈ t, c.hexDigit?.getD 0 < base) :
    readInt base t =
      if base = 10 && digitLimit < t.length then .error (.tooLong t.length)
      else .ok (t.foldl (fun value c => base * value + c.hexDigit?.getD 0) 0 : Nat) := by
  unfold readInt
  rw [trim_of_isHexDigit h, splitSign_of_isHexDigit h]
  simp only [digits?_of_isHexDigit hne h hbase, List.length_map, ofDigits, List.foldl_map]
  simp

/-- Hex digits are read as their value in base 16. -/
theorem readInt_hex (hne : t ≠ []) (h : ∀ c ∈ t, c.isHexDigit = true) :
    readInt 16 t = .ok (Text.hexValue t) := by
  rw [readInt_of_isHexDigit hne h fun c _ => c.hexDigit?_lt]
  rfl

/-- Decimal digits are read as their value, unless there are more than `digitLimit` of them. -/
theorem readInt_decimal (hne : t ≠ []) (h : ∀ c ∈ t, c.isDigit = true) :
    readInt 10 t =
      if digitLimit < t.length then .error (.tooLong t.length) else .ok (Text.decimalValue t) := by
  have hvalue : ∀ c ∈ t, c.hexDigit?.getD 0 = c.val - 0x30 := fun c hc => by
    rw [CodePoint.hexDigit?_of_isDigit (h c hc), Option.getD_some]
  -- Of decimal digits the value in base 16 is the distance from `0`.
  have hfold : t.foldl (fun value c => 10 * value + c.hexDigit?.getD 0) 0
      = Text.decimalValue t := by
    simpa only [List.foldl_map, Text.decimalValue] using
      congrArg (List.foldl (fun value d => 10 * value + d) 0) (List.map_congr_left hvalue)
  rw [readInt_of_isHexDigit hne (fun c hc => CodePoint.isHexDigit_of_isDigit (h c hc))
    (fun c hc => CodePoint.hexDigit?_lt_of_isDigit (h c hc)), hfold]
  simp

end Numeral

end RegexSubst
