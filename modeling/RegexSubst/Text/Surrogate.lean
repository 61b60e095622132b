import RegexSubst.Text.CodePoint

/-!
# `RegexSubst.Text.Surrogate`: surrogates and the joining of pairs

* `Text.join` combines every high surrogate that is directly followed by a low one into the code
  point of the pair and keeps everything else.
* `Text.units` is the UTF-16 view of a text, which joining does not change.
-/

set_option autoImplicit false

namespace RegexSubst

namespace CodePoint

/-- High (leading) surrogates. -/
def isHigh (c : CodePoint) : Bool :=
  0xD800 ≤ c.val && c.val < 0xDC00

/-- Low (trailing) surrogates. -/
def isLow (c : CodePoint) : Bool :=
  0xDC00 ≤ c.val && c.val < 0xE000

/-- Surrogates of either kind. -/
def isSurrogate (c : CodePoint) : Bool :=
  0xD800 ≤ c.val && c.val < 0xE000

/-- The code point that the pair `high`, `low` stands for. -/
def ofPair (high low : CodePoint) : CodePoint :=
  ⟨0x10000 + 0x400 * (high.val % 0x400) + low.val % 0x400, by omega⟩

/-- The UTF-16 code units of a code point; a surrogate is its own unit. -/
def units (c : CodePoint) : List Nat :=
  if c.val < 0x10000 then [c.val]
  else [0xD800 + (c.val - 0x10000) / 0x400, 0xDC00 + (c.val - 0x10000) % 0x400]

end CodePoint

namespace Text

/-- Combines, from left to right, every high surrogate with a low one directly after it. -/
def join : Text → Text
  | c :: d :: rest =>
    if c.isHigh && d.isLow then CodePoint.ofPair c d :: join rest else c :: join (d :: rest)
  | [c] => [c]
  | [] => []

/-- Whether a high surrogate is directly followed by a low one somewhere. -/
def hasPair : Text → Bool
  | c :: d :: rest => (c.isHigh && d.isLow) || hasPair (d :: rest)
  | _ => false

/-- The UTF-16 code units of a text. -/
def units (t : Text) : List Nat :=
  t.flatMap CodePoint.units

end Text

end RegexSubst
