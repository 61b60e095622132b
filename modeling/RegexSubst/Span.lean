import RegexSubst.Text.CodePoint

/-!
# `RegexSubst.Span`: stretches of a text

A match is described by the stretch that it covers and by the stretches that its groups captured. A
description may also come from elsewhere, so nothing is assumed of the two ends.

* `Text.slice` is the part of a text between two positions, which may be counted from the end.
* `Span.slice` is the text in a span.
* `Span.at?` finds a span in a list.
-/

set_option autoImplicit false

namespace RegexSubst

namespace Text

/-- The place in `t` that a position means: a negative one counts from the end, and one outside the
text is moved to its nearer end. -/
def place (t : Text) (position : Int) : Nat :=
  if position < 0 then (position + t.length).toNat else min position.toNat t.length

/-- The part of `t` from `start` up to but not including `stop`. -/
def slice (t : Text) (start stop : Int) : Text :=
  (t.drop (t.place start)).take (t.place stop - t.place start)

end Text

/-- A stretch of a text from `start` up to but not including `stop`. A group that took no part in a
match has a negative start. -/
structure Span where
  start : Int
  stop : Int
deriving DecidableEq

namespace Span

/-- The span of a group that took no part in a match. -/
def absent : Span := ⟨-1, -1⟩

/-- The text in a span: empty if the start is negative or after the stop, and cut at the end of the
text. -/
def slice (s : Span) (t : Text) : Text :=
  if s.start < 0 || s.stop < s.start then [] else t.slice s.start s.stop

/-- The span at an index; a negative index counts from the end. -/
def at? (spans : List Span) (index : Int) : Option Span :=
  if 0 ≤ index then spans[index.toNat]?
  else if -(spans.length : Int) ≤ index then spans[(index + spans.length).toNat]?
  else none

end Span

end RegexSubst
