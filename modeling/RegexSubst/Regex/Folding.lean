import RegexSubst.Text.Casing

/-!
# `RegexSubst.Regex.Folding`: which characters are equal if case is ignored

Case is ignored by comparing the small forms of two characters. Small letters that share their
capital count as equal too: the long `s` with `s`, the final sigma with the other one. With ASCII
classes only the letters `A` to `Z` have a case.

* `foldCase` is the small form that is compared.
* `hasCase` tells whether a character has a capital or a small form other than itself.
* `smallForms` lists the small forms that match a character of a regex, and `matchesFolded` compares
  with them.
* `caseEquals` lists all code points that are equal to a given one.
-/

set_option autoImplicit false

namespace RegexSubst.Regex

/-- The code point by which `c` is compared if case is ignored. -/
def foldCase (ascii : Bool) (c : CodePoint) : CodePoint :=
  if ascii then
    if 0x41 ≤ c.val && c.val ≤ 0x5A then (CodePoint.ofNat? (c.val + 0x20)).getD c else c
  else c.simpleLower

/-- Whether one of the forms of `c` is not `c` itself. -/
def hasCase (ascii : Bool) (c : CodePoint) : Bool :=
  if ascii then c.isAsciiLetter else c.simpleLower ≠ c || c.simpleUpper ≠ c

/-- The small forms that match `d`: its own one, and those of the letters that share its capital. -/
def smallForms (ascii : Bool) (d : CodePoint) : Text :=
  let small := foldCase ascii d
  let variants :=
    if ascii then [] else (Unicode.caseVariants small.val).filterMap CodePoint.ofNat?
  small :: variants

/-- Whether the character `d` of a regex matches a character with the small form `small`. -/
def matchesFolded (ascii : Bool) (small d : CodePoint) : Bool :=
  (smallForms ascii d).contains small

/-- Numbers that a run of letters maps to `n`. -/
private def runSources (n : Nat) (r : Unicode.CaseRun) : List Nat :=
  if r.image ≤ n && n ≤ r.image + (r.last - r.first) && (n - r.image) % r.stride = 0 then
    [r.first + (n - r.image)]
  else []

/-- The code points other than `c` whose small form begins with `c`. -/
def capitals (ascii : Bool) (c : CodePoint) : Text :=
  if ascii then
    if 0x61 ≤ c.val && c.val ≤ 0x7A then (CodePoint.ofNat? (c.val - 0x20)).toList else []
  else
    let long := Unicode.lowerExpansions.filter fun e => e.2.head? = some c.val
    (Unicode.lowerRuns.flatMap (runSources c.val) ++ long.map (·.1)).filterMap CodePoint.ofNat?

/-- All code points that are equal to `c` if case is ignored. -/
def caseEquals (ascii : Bool) (c : CodePoint) : Text :=
  (smallForms ascii c).flatMap fun d => d :: capitals ascii d

end RegexSubst.Regex
