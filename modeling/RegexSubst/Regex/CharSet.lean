import RegexSubst.Regex.Flags
import RegexSubst.Regex.Folding
import RegexSubst.Unicode.Alphanumeric
import RegexSubst.Unicode.Blank
import RegexSubst.Unicode.DecimalDigit

/-!
# `RegexSubst.Regex.CharSet`: sets of characters in a regex

A set lists single characters, ranges and classes, and may be negated. If case is ignored, a
character is looked up by its small form. A class is asked about the small form alone. In the basic
plane, single characters and ranges stand for all characters equal to those in them; beyond it they
have rules of their own.

* `SetItem.contains` and `SetItem.containsFolded` are membership in an item, by a character and by a
  small form.
* `CharSet.contains` is membership under the flags in force.
-/

set_option autoImplicit false

namespace RegexSubst.Regex

/-- The classes that have an escape. -/
inductive Category
  | digit
  | space
  | word
deriving DecidableEq

/-- Membership in a class, of all of Unicode or of ASCII only. -/
def Category.contains (category : Category) (ascii : Bool) (c : CodePoint) : Bool :=
  match category with
  | .digit => if ascii then c.isDigit else (Unicode.decimalDigit? c.val).isSome
  | .space =>
    if ascii then c.val = 0x20 || (0x9 ≤ c.val && c.val ≤ 0xD) else Unicode.blank.contains c.val
  | .word =>
    c = '_' || (if ascii then c.isDigit || c.isAsciiLetter else Unicode.alphanumeric.contains c.val)

/-- A member of a set as it is written. -/
inductive SetItem
  | single (c : CodePoint)
  | range (first last : CodePoint)
  | category (kind : Category) (negated : Bool)
deriving DecidableEq

/-- The greatest number of a code point of the basic plane. -/
def basicPlaneLast : Nat := 0xFFFF

/-- Whether a code point lies in the range between two others. -/
def isBetween (first last c : CodePoint) : Bool :=
  first.val ≤ c.val && c.val ≤ last.val

/-- Membership in an item. -/
def SetItem.contains (item : SetItem) (ascii : Bool) (c : CodePoint) : Bool :=
  match item with
  | .single d => c = d
  | .range first last => isBetween first last c
  | .category kind negated => kind.contains ascii c != negated

/-- Membership of a character with the small form `small` in an item, if case is ignored. Beyond the
basic plane a single character stands for itself only, so that a capital there is never found, and a
range that ends there holds a letter if it has the small form or the capital of the letter. -/
def SetItem.containsFolded (item : SetItem) (ascii : Bool) (small : CodePoint) : Bool :=
  match item with
  | .single d => if d.val ≤ basicPlaneLast then matchesFolded ascii small d else small = d
  | .range first last =>
    isBetween first last small
      || (caseEquals ascii small).any (fun d => d.val ≤ basicPlaneLast && isBetween first last d)
      || (basicPlaneLast < last.val && isBetween first last small.simpleUpper)
  | .category kind negated => kind.contains ascii small != negated

/-- Whether an item has a member that has case. A range that goes beyond the basic plane counts as
one that has, a class never does. -/
def SetItem.hasCase (item : SetItem) (ascii : Bool) : Bool :=
  match item with
  | .single d => Regex.hasCase ascii d
  | .range first last =>
    basicPlaneLast < last.val
      || (List.range' first.val (last.val + 1 - first.val)).any fun n =>
        (CodePoint.ofNat? n).any (Regex.hasCase ascii)
  | .category _ _ => false

/-- A set of characters. -/
structure CharSet where
  negated : Bool
  items : List SetItem
deriving DecidableEq

/-- Whether the items hold the small form `small`. One single character is compared like a character
outside of a set, in any plane. -/
def holdFolded (items : List SetItem) (ascii : Bool) (small : CodePoint) : Bool :=
  match items with
  | [.single d] => matchesFolded ascii small d
  | items => items.any fun item => item.containsFolded ascii small

/-- Whether the set holds `c`. -/
def CharSet.contains (s : CharSet) (flags : Flags) (c : CodePoint) : Bool :=
  let ascii := flags.has .ascii
  let found :=
    if flags.has .ignoreCase then holdFolded s.items ascii (foldCase ascii c)
    else s.items.any fun item => item.contains ascii c
  found != s.negated

end RegexSubst.Regex
