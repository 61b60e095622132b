import RegexSubst.Template.Fault

/-!
# `RegexSubst.Template.Hex`: hexadecimal code point escapes

A code point is written as `\x` and two hex digits, or as two, four or six hex digits in braces. Six
digits are a plane byte, from `00` to `10`, and the offset in that plane.

* `decodePair` and `decodeBraced` give the code point of the digits, or refuse them.
* `isBracedHex` says which digits `decodeBraced` accepts.
-/

set_option autoImplicit false

namespace RegexSubst.Template

/-- Whether a text is one hex digit. -/
def isHexDigit : Text → Bool
  | [c] => c.isHexDigit
  | _ => false

/-- Whether `digits` may stand in braces: two, four or six hex digits, of which six begin with `0`
or with `10`. -/
def isBracedHex (digits : Text) : Bool :=
  (digits.length = 2 || digits.length = 4 || digits.length = 6)
    && digits.all CodePoint.isHexDigit
    && (digits.length < 6 || digits.take 1 = "0" || digits.take 2 = "10")

/-- The code point with number `n`. -/
def codePoint (n : Int) : Except Fault CodePoint :=
  if 0 ≤ n then
    match CodePoint.ofNat? n.toNat with
    | some c => .ok c
    | none => .error .codePointRange
  else .error .codePointRange

/-- The code point whose number is written by two code points in base 16. -/
def decodePair (digits : Text) : Except Fault CodePoint :=
  if digits.length = 2 then do
    let n ← readNumber 16 digits
    codePoint n
  else .error (.hexPairLength digits)

/-- The number of code points in a plane. -/
def planeSize : Nat := 0x10000

/-- The code point that the digits stand for in braces. -/
def decodeBraced (digits : Text) : Except Fault CodePoint :=
  if isBracedHex digits then
    if digits.length < 6 then do
      let n ← readNumber 16 digits
      codePoint n
    else do
      let plane ← readNumber 16 (digits.take 2)
      let offset ← readNumber 16 (digits.drop 2)
      codePoint (plane * planeSize + offset)
  else .error (.bracedHex digits)

end RegexSubst.Template
