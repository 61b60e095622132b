/-!
# `RegexSubst.Unicode.CodeSet`: sets of code points as inversion lists

A property of code points is kept as the increasing list of the values at which membership flips,
starting from "not in the set" below the first of them. Every property table of this folder is such
a list.

* `CodeSet.contains` decides membership; it stops at the first flip above the value, so small
  values are decided after a few steps.
-/

set_option autoImplicit false

namespace RegexSubst.Unicode

/-- A set of code points, given by the increasing list of the values where membership flips. -/
structure CodeSet where
  flips : List Nat

/-- Membership of `n` after the flips in the list, from "not in the set" on. -/
def memberAfter (n : Nat) : List Nat → Bool
  | [] => false
  | flip :: flips => if n < flip then false else !memberAfter n flips

/-- Whether the code point `n` is in the set. -/
def CodeSet.contains (s : CodeSet) (n : Nat) : Bool :=
  memberAfter n s.flips

end RegexSubst.Unicode
