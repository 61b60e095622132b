import RegexSubst.Proofs.Template.Decoding
import RegexSubst.Proofs.Text.Hexadecimal

/-!
# `RegexSubst.Proofs.Template.BracedHex`: hex digits in braces are the code points

Whether digits may stand in braces is told by their number and, of six, by the first two; their
value is not looked at. The code point of six digits is made of a plane and an offset.

* `InBraces` says by the value in base 16 which digits may stand in braces.
* `isBracedHex_iff`: the test is exact.
* `decodeBraced_eq_ok_iff` and `decodeBraced_eq_error_iff`: the code point has the value of the
  digits as its number, and all other digits are refused.
* `decodeBraced_codePoints` sums this up, and every code point has digits.
-/

set_option autoImplicit false

namespace RegexSubst.Template

/-- Two, four or six hex digits whose value in base 16 is at most `10FFFF`. -/
structure InBraces (digits : Text) : Prop where
  length : digits.length = 2 ∨ digits.length = 4 ∨ digits.length = 6
  hex : ∀ d ∈ digits, d.isHexDigit = true
  value : Text.hexValue digits ≤ 0x10FFFF

/-- The test by the first digits agrees with the value. -/
theorem isBracedHex_iff (digits : Text) : isBracedHex digits = true ↔ InBraces digits := by
  constructor
  · intro h
    obtain ⟨hlength, hhex, hvalue⟩ := isBracedHex_bounds h
    exact ⟨hlength, hhex, Nat.le_of_lt_succ hvalue⟩
  · rintro ⟨hlength, hhex, hvalue⟩
    exact isBracedHex_of_hexValue_lt hlength hhex (Nat.lt_succ_of_le hvalue)

/-- Digits that may not stand in braces are refused. -/
theorem decodeBraced_of_not_isBracedHex {digits : Text} (h : ¬ isBracedHex digits = true) :
    decodeBraced digits = .error (.bracedHex digits) :=
  if_neg h

/-- Digits that may stand in braces are decoded to the code point with their value, and no others
are decoded. -/
theorem decodeBraced_eq_ok_iff (digits : Text) (c : CodePoint) :
    decodeBraced digits = .ok c ↔ InBraces digits ∧ c.val = Text.hexValue digits := by
  rw [← isBracedHex_iff]
  by_cases h : isBracedHex digits = true
  · obtain ⟨d, hd, hdecoded⟩ := decodeBraced_of_isBracedHex h
    have hvalue : d.val = Text.hexValue digits := by
      unfold CodePoint.ofNat? at hd
      split at hd
      · cases hd
        rfl
      · cases hd
    rw [hdecoded, ← hvalue]
    constructor
    · intro heq
      cases heq
      exact ⟨h, rfl⟩
    · rintro ⟨-, heq⟩
      rw [CodePoint.val_injective heq]
  · rw [decodeBraced_of_not_isBracedHex h]
    constructor
    · intro heq
      cases heq
    · rintro ⟨hbraced, -⟩
      exact absurd hbraced h

/-- Digits that may not stand in braces are refused, and the fault holds them as they stand. -/
theorem decodeBraced_eq_error_iff (digits : Text) (fault : Fault) :
    decodeBraced digits = .error fault ↔ ¬ InBraces digits ∧ fault = .bracedHex digits := by
  rw [← isBracedHex_iff]
  by_cases h : isBracedHex digits = true
  · obtain ⟨d, -, hdecoded⟩ := decodeBraced_of_isBracedHex h
    rw [hdecoded]
    constructor
    · intro heq
      cases heq
    · rintro ⟨hrefused, -⟩
      exact absurd h hrefused
  · rw [decodeBraced_of_not_isBracedHex h]
    constructor
    · intro heq
      cases heq
      exact ⟨h, rfl⟩
    · rintro ⟨-, rfl⟩
      rfl

/-- Six digits with leading zeros are a form of every code point. -/
theorem inBraces_ofHex (c : CodePoint) : InBraces (Text.ofHex 6 c.val) where
  length := by
    have hlt : c.val < 16 ^ 6 := Nat.lt_trans c.isLt (by decide)
    exact .inr (.inr (Text.length_ofHex (by decide) hlt))
  hex _ hd := Text.isHexDigit_of_mem_ofHex hd
  value := by
    rw [Text.hexValue_ofHex]
    exact Nat.le_of_lt_succ c.isLt

/-- Hex digits in braces are exactly the code points. Digits pass the test if and only if they are
two, four or six hex digits with a value of at most `10FFFF` in base 16. Then, and only then, they
are decoded, to the one code point with that number; a plane and an offset make up the same number.
All other digits are refused. Every code point is decoded from some digits. -/
theorem decodeBraced_codePoints :
    (∀ digits : Text,
        (isBracedHex digits = true ↔ InBraces digits)
          ∧ (∀ c : CodePoint,
            decodeBraced digits = .ok c ↔ InBraces digits ∧ c.val = Text.hexValue digits)
          ∧ ∀ fault : Fault,
            decodeBraced digits = .error fault ↔ ¬ InBraces digits ∧ fault = .bracedHex digits)
      ∧ ∀ c : CodePoint, ∃ digits : Text,
        isBracedHex digits = true ∧ decodeBraced digits = .ok c := by
  constructor
  · intro digits
    exact ⟨isBracedHex_iff digits, decodeBraced_eq_ok_iff digits, decodeBraced_eq_error_iff digits⟩
  · intro c
    have hform := inBraces_ofHex c
    refine ⟨Text.ofHex 6 c.val, (isBracedHex_iff _).mpr hform, ?_⟩
    exact (decodeBraced_eq_ok_iff _ c).mpr ⟨hform, (Text.hexValue_ofHex 6 c.val).symm⟩

end RegexSubst.Template
