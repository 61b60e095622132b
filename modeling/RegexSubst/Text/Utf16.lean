import RegexSubst.Text.Surrogate

/-!
# `RegexSubst.Text.Utf16`: UTF-16 in which surrogates pass

A surrogate has a form like every other code point: the one code unit with its number. So every text
can be encoded. Two halves that stand one after the other have the form of their pair, and decoding
finds the pair.

* `Utf16.encode` writes a text as bytes, of every code unit the low one first.
* `Utf16.decode` reads the text of a sequence of bytes, unless a byte is left over.
-/

set_option autoImplicit false

namespace RegexSubst.Utf16

/-- The bytes of a code unit. -/
def unitBytes (unit : Nat) : List UInt8 :=
  [unit.toUInt8, (unit / 0x100).toUInt8]

/-- The bytes of a text. -/
def encode (t : Text) : List UInt8 :=
  t.units.flatMap unitBytes

/-- The code units in a sequence of bytes, unless a byte is left over. -/
def units? : List UInt8 → Option (List Nat)
  | [] => some []
  | [_] => none
  | low :: high :: rest => (units? rest).map ((low.toNat + 0x100 * high.toNat) :: ·)

/-- The code point with the number of a code unit. -/
def single (unit : Nat) : CodePoint :=
  ⟨unit % 0x10000, by omega⟩

/-- The text of a sequence of code units. A unit that belongs to no pair stands for itself. -/
def decodeUnits : List Nat → Text
  | [] => []
  | [unit] => [single unit]
  | high :: low :: rest =>
    if h : (0xD800 ≤ high ∧ high < 0xDC00) ∧ 0xDC00 ≤ low ∧ low < 0xE000 then
      ⟨0x10000 + 0x400 * (high - 0xD800) + (low - 0xDC00), by omega⟩ :: decodeUnits rest
    else single high :: decodeUnits (low :: rest)

/-- The text of a sequence of bytes, unless a byte is left over. -/
def decode (bytes : List UInt8) : Option Text :=
  (units? bytes).map decodeUnits

end RegexSubst.Utf16
