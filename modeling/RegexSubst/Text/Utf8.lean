import RegexSubst.Text.Digits
import RegexSubst.Text.Surrogate

/-!
# `RegexSubst.Text.Utf8`: strict UTF-8

Decoding refuses overlong forms, surrogates and numbers above U+10FFFF; encoding refuses surrogates.

* `Utf8.decode` reads all of the bytes or names the first ill-formed sequence.
* `Utf8.encode` writes all of the text or names the first run of surrogates.
* `DecodeError.message` and `EncodeError.message` are the texts of the two errors.
-/

set_option autoImplicit false

namespace RegexSubst.Utf8

/-- What is wrong with a byte sequence. -/
inductive Defect
  | invalidStart
  | invalidContinuation
  | unexpectedEnd
deriving DecidableEq

/-- The bytes from `start` up to but not including `stop`, of which `first` is the first, are
ill-formed. -/
structure DecodeError where
  start : Nat
  stop : Nat
  first : UInt8
  defect : Defect
deriving DecidableEq

/-- The code points from `start` up to but not including `stop` are surrogates; `first` is the first
of them. -/
structure EncodeError where
  start : Nat
  stop : Nat
  first : CodePoint
deriving DecidableEq

/-- A defect in words. -/
def Defect.message : Defect → Text
  | .invalidStart => "invalid start byte"
  | .invalidContinuation => "invalid continuation byte"
  | .unexpectedEnd => "unexpected end of data"

/-- A range of positions, by its first and last member. -/
def positions (start stop : Nat) : Text :=
  Text.ofNat start ++ "-" ++ Text.ofNat (stop - 1)

/-- The text of a failure to decode: the first byte is shown if it stands alone, else only where the
bytes are. -/
def DecodeError.message (e : DecodeError) : Text :=
  let place : Text :=
    if e.stop = e.start + 1 then
      "byte 0x" ++ Text.ofHex 2 e.first.toNat ++ " in position " ++ Text.ofNat e.start
    else "bytes in position " ++ positions e.start e.stop
  "'utf-8' codec can't decode " ++ place ++ ": " ++ e.defect.message

/-- The text of a failure to encode, with the first surrogate shown by its escape. -/
def EncodeError.message (e : EncodeError) : Text :=
  let place : Text :=
    if e.stop = e.start + 1 then
      "character '\\u" ++ Text.ofHex 4 e.first.val ++ "' in position " ++ Text.ofNat e.start
    else "characters in position " ++ positions e.start e.stop
  "'utf-8' codec can't encode " ++ place ++ ": surrogates not allowed"

/-- What a leading byte announces: the number of continuation bytes, the payload of the leading byte
and the range of the first continuation byte. -/
structure Lead where
  following : Nat
  payload : Nat
  least : UInt8
  greatest : UInt8

/-- The sequence that a leading byte of two or more bytes announces. -/
def lead? (b : UInt8) : Option Lead :=
  if 0xC2 ≤ b && b ≤ 0xDF then some ⟨1, b.toNat - 0xC0, 0x80, 0xBF⟩
  else if b = 0xE0 then some ⟨2, 0, 0xA0, 0xBF⟩
  else if b = 0xED then some ⟨2, 0xD, 0x80, 0x9F⟩
  else if 0xE1 ≤ b && b ≤ 0xEF then some ⟨2, b.toNat - 0xE0, 0x80, 0xBF⟩
  else if b = 0xF0 then some ⟨3, 0, 0x90, 0xBF⟩
  else if 0xF1 ≤ b && b ≤ 0xF3 then some ⟨3, b.toNat - 0xF0, 0x80, 0xBF⟩
  else if b = 0xF4 then some ⟨3, 4, 0x80, 0x8F⟩
  else none

/-- The decoder between two bytes. -/
inductive DecodeState
  /-- Between two code points. -/
  | start
  /-- Inside the sequence that began with `first`, after `seen` bytes, with `value` so far and
  `missing` bytes to come; the next one must lie between `least` and `greatest`. -/
  | inside (first : UInt8) (seen missing value : Nat) (least greatest : UInt8)

/-- Decodes the bytes from position `pos` on. The result is built in order. -/
def decodeFrom (pos : Nat) : DecodeState → List UInt8 → Except DecodeError Text
  | .start, [] => .ok []
  | .start, b :: rest =>
    if b < 0x80 then do
      let t ← decodeFrom (pos + 1) .start rest
      return (CodePoint.ofNat? b.toNat).toList ++ t
    else
      match lead? b with
      | none => .error ⟨pos, pos + 1, b, .invalidStart⟩
      | some l => decodeFrom (pos + 1) (.inside b 1 l.following l.payload l.least l.greatest) rest
  | .inside first seen _ _ _ _, [] => .error ⟨pos - seen, pos, first, .unexpectedEnd⟩
  | .inside first seen missing value least greatest, b :: rest =>
    if b < least || greatest < b then .error ⟨pos - seen, pos, first, .invalidContinuation⟩
    else
      let value := 0x40 * value + (b.toNat - 0x80)
      if missing ≤ 1 then do
        let t ← decodeFrom (pos + 1) .start rest
        return (CodePoint.ofNat? value).toList ++ t
      else decodeFrom (pos + 1) (.inside first (seen + 1) (missing - 1) value 0x80 0xBF) rest

/-- The text of a well-formed byte sequence. -/
def decode (bytes : List UInt8) : Except DecodeError Text :=
  decodeFrom 0 .start bytes

/-- The UTF-8 form of a number below 0x110000. -/
def encodeValue (n : Nat) : List UInt8 :=
  if n < 0x80 then [n.toUInt8]
  else if n < 0x800 then [(0xC0 + n / 0x40).toUInt8, (0x80 + n % 0x40).toUInt8]
  else if n < 0x10000 then
    [(0xE0 + n / 0x1000).toUInt8, (0x80 + n / 0x40 % 0x40).toUInt8, (0x80 + n % 0x40).toUInt8]
  else
    [(0xF0 + n / 0x40000).toUInt8, (0x80 + n / 0x1000 % 0x40).toUInt8,
      (0x80 + n / 0x40 % 0x40).toUInt8, (0x80 + n % 0x40).toUInt8]

/-- The first maximal run of surrogates of a text, as an error. -/
def firstSurrogates? (t : Text) : Option EncodeError :=
  match t.findIdx? CodePoint.isSurrogate with
  | none => none
  | some start =>
    let run := (t.drop start).takeWhile CodePoint.isSurrogate
    run.head?.map fun first => ⟨start, start + run.length, first⟩

/-- The bytes of a text without surrogates. -/
def encode (t : Text) : Except EncodeError (List UInt8) :=
  match firstSurrogates? t with
  | some e => .error e
  | none => .ok (t.flatMap fun c => encodeValue c.val)

end RegexSubst.Utf8
