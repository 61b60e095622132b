import RegexSubst.Text.CodePoint

/-!
# `RegexSubst.Text.Digits`: numbers written in digits

* `Text.ofNat`, `Text.ofInt` and `Text.ofHex` write numbers.
* `Text.decimalValue` and `Text.hexValue` give the value of a text of digits.
-/

set_option autoImplicit false

namespace RegexSubst

namespace CodePoint

/-- The value of a hex digit `0` to `9`, `a` to `f` or `A` to `F`. -/
def hexDigit? (c : CodePoint) : Option Nat :=
  if 0x30 ≤ c.val && c.val ≤ 0x39 then some (c.val - 0x30)
  else if 0x41 ≤ c.val && c.val ≤ 0x46 then some (c.val - 0x41 + 10)
  else if 0x61 ≤ c.val && c.val ≤ 0x66 then some (c.val - 0x61 + 10)
  else none

/-- Hex digits: `0` to `9`, `a` to `f` and `A` to `F`. -/
def isHexDigit (c : CodePoint) : Bool :=
  c.hexDigit?.isSome

end CodePoint

namespace Text

/-- The digits of `n` in base `base`, most significant first. As many rounds as the number itself
are enough for every base from two on. -/
def digitsFrom (base : Nat) : (rounds n : Nat) → List Nat
  | 0, n => [n]
  | rounds + 1, n =>
    if n < base then [n] else digitsFrom base rounds (n / base) ++ [n % base]

/-- The digits of `n` in base `base`, most significant first. -/
def digits (base n : Nat) : List Nat :=
  digitsFrom base n n

/-- The digit with value `d`, taken modulo 16; a letter is a small one. -/
def digit (d : Nat) : CodePoint :=
  if d % 16 < 10 then ⟨0x30 + d % 16, by omega⟩ else ⟨0x57 + d % 16, by omega⟩

/-- The decimal form of a natural number. -/
def ofNat (n : Nat) : Text :=
  (digits 10 n).map digit

/-- The decimal form of an integer, with a minus sign if it is negative. -/
def ofInt (n : Int) : Text :=
  if n < 0 then '-' :: ofNat n.natAbs else ofNat n.natAbs

/-- Lower-case hex digits of `n`, with leading zeros up to `width` digits. -/
def ofHex (width n : Nat) : Text :=
  let written := (digits 16 n).map digit
  List.replicate (width - written.length) (digit 0) ++ written

/-- The value of a text of hex digits, most significant first; other characters count as zero. -/
def hexValue (digits : Text) : Nat :=
  digits.foldl (fun value c => 16 * value + c.hexDigit?.getD 0) 0

/-- The value of a text of decimal digits, most significant first. -/
def decimalValue (digits : Text) : Nat :=
  digits.foldl (fun value c => 10 * value + (c.val - 0x30)) 0

end Text

end RegexSubst
