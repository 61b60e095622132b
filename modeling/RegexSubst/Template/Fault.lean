import RegexSubst.Text.Numeral

/-!
# `RegexSubst.Template.Fault`: what can go wrong while a template is expanded

Malformed controls are not faults, they stay in the output as they are written. What remains are the
refusals of the decoders and look-ups that the expansion calls.

* `Fault.message` is the wording of every fault.
* `readNumber` reads an integer or gives the fault of its numeral.
-/

set_option autoImplicit false

namespace RegexSubst.Template

/-- The reason why a decoder or a look-up refuses its argument. -/
inductive Fault
  /-- A decimal number with more digits than are read. -/
  | tooManyDigits (digits : Nat)
  /-- A text that is not an integer in a base. -/
  | numeral (base : Nat) (literal : Text)
  /-- A hex pair that does not consist of two code points. -/
  | hexPairLength (digits : Text)
  /-- A number that is not a code point. -/
  | codePointRange
  /-- Digits that are not the inside of a braced hex escape. -/
  | bracedHex (digits : Text)
  /-- A text that does not open a bracketed name. -/
  | openingBracket (found : Text)
  /-- A group number outside the list of spans. -/
  | spanIndex
deriving DecidableEq

/-- A fault in words. -/
def Fault.message : Fault → Text
  | .tooManyDigits digits => Numeral.limitMessage digits
  | .numeral base literal => Numeral.malformedMessage base literal
  | .hexPairLength digits => "error: \x60\\x" ++ digits ++ "\x60 must have exactly 2 hex digits"
  | .codePointRange => "chr() arg not in range(0x110000)"
  | .bracedHex digits =>
    "error: \x60\\x\x7b" ++ digits ++ "\x7d\x60 is not a valid braced hex escape"
  | .openingBracket found => "error: \x60" ++ found ++ "\x60 is not an opening bracket"
  | .spanIndex => "list index out of range"

/-- The integer that `literal` writes in base `base`. -/
def readNumber (base : Nat) (literal : Text) : Except Fault Int :=
  match Numeral.readInt base literal with
  | .ok n => .ok n
  | .error .malformed => .error (.numeral base literal)
  | .error (.tooLong digits) => .error (.tooManyDigits digits)

end RegexSubst.Template
