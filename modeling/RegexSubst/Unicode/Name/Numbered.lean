/-!
# `RegexSubst.Unicode.Name.Numbered`: names that hold a number

The ideographs and some other characters are named by their own number, in hex digits.

* `ideograph?` reads the name of a unified ideograph, `numbered?` the other names with a number.
-/

set_option autoImplicit false

namespace RegexSubst.Unicode

/-- The value of an upper-case hex digit. -/
def upperHexDigit? (c : Char) : Option Nat :=
  if c.isDigit then some (c.toNat - '0'.toNat)
  else if 'A' ≤ c && c ≤ 'F' then some (c.toNat - 'A'.toNat + 10)
  else none

/-- The number that upper-case hex digits write. -/
def upperHexValue? (digits : List Char) : Option Nat :=
  digits.foldlM (fun value c => do return 16 * value + (← upperHexDigit? c)) 0

/-- Whether a number lies in one of the ranges. -/
def isInRanges (ranges : List (Nat × Nat)) (n : Nat) : Bool :=
  ranges.any fun r => r.1 ≤ n && n ≤ r.2

/-- The unified ideographs. -/
def unifiedIdeographs : List (Nat × Nat) :=
  [(0x3400, 0x4DBF), (0x4E00, 0x9FFF), (0x20000, 0x2A6DF), (0x2A700, 0x2B738), (0x2B740, 0x2B81D),
    (0x2B820, 0x2CEA1), (0x2CEB0, 0x2EBE0), (0x30000, 0x3134A)]

/-- The unified ideograph that has the name `name`. Its number has four or five digits, of which the
first ones may be zero. -/
def ideograph? (name : List Char) : Option Nat := do
  let digits ← "CJK UNIFIED IDEOGRAPH-".toList.isPrefixOf? name
  guard (digits.length = 4 || digits.length = 5)
  let n ← upperHexValue? digits
  guard (isInRanges unifiedIdeographs n)
  return n

/-- The beginnings of the other names with a number, and the characters that have such names. -/
def numberedRanges : List (String × List (Nat × Nat)) :=
  [("CJK COMPATIBILITY IDEOGRAPH-", [(0xF900, 0xFA6D), (0xFA70, 0xFAD9), (0x2F800, 0x2FA1D)]),
    ("KHITAN SMALL SCRIPT CHARACTER-", [(0x18B00, 0x18CD5)]),
    ("NUSHU CHARACTER-", [(0x1B170, 0x1B2FB)])]

/-- The character that has the name `name`, if that is one of the other names with a number. The
number has no zeros in front. -/
def numbered? (name : List Char) : Option Nat :=
  numberedRanges.findSome? fun (stem, ranges) => do
    let digits ← stem.toList.isPrefixOf? name
    guard (digits.head? ≠ some '0')
    let n ← upperHexValue? digits
    guard (isInRanges ranges n)
    return n

end RegexSubst.Unicode
