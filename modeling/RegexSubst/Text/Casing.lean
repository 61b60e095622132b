import RegexSubst.Text.CodePoint
import RegexSubst.Unicode.CaseContext
import RegexSubst.Unicode.CaseMapping

/-!
# `RegexSubst.Text.Casing`: upper-case and lower-case forms of a text

Both use the full mappings, so a text may grow. Upper-casing maps every code point on its own.
Lower-casing does too, except for the capital sigma, which takes its final form at the end of a
word.

* `Text.upper` and `Text.lower` are the two forms.
* `Text.endsWord` is the condition for the final sigma, on the code points before it (nearest first)
  and after it.
-/

set_option autoImplicit false

namespace RegexSubst

namespace CodePoint

/-- The text of the code points with the numbers `values`. -/
private def ofForm (values : List Nat) : Text :=
  values.filterMap ofNat?

/-- The upper-case form of a code point. -/
def upper (c : CodePoint) : Text :=
  ofForm (Unicode.upperForm c.val)

/-- The lower-case form of a code point that stands alone. -/
def lower (c : CodePoint) : Text :=
  ofForm (Unicode.lowerForm c.val)

/-- The first code point of the lower-case form. -/
def simpleLower (c : CodePoint) : CodePoint :=
  c.lower.headD c

/-- The first code point of the upper-case form. -/
def simpleUpper (c : CodePoint) : CodePoint :=
  c.upper.headD c

/-- The capital letter that has two small forms. -/
def capitalSigma : CodePoint := 'Σ'

/-- The small sigma inside a word. -/
def smallSigma : CodePoint := 'σ'

/-- The small sigma at the end of a word. -/
def finalSigma : CodePoint := 'ς'

end CodePoint

namespace Text

/-- The upper-case form of a text. -/
def upper (t : Text) : Text :=
  t.flatMap CodePoint.upper

/-- Whether the first code point of `t` that is not ignored for case is a cased letter. -/
def meetsCased (t : Text) : Bool :=
  match t.find? fun c => !Unicode.caseIgnorable.contains c.val with
  | some c => Unicode.cased.contains c.val
  | none => false

/-- Whether a sigma ends a word: a cased letter comes before it and none after it. The code points
before it are given nearest first. -/
def endsWord (before after : Text) : Bool :=
  meetsCased before && !meetsCased after

/-- The lower-case form of `t`, which follows the code points `before`, nearest first. -/
def lowerAfter (before : Text) : Text → Text
  | [] => []
  | c :: rest =>
    let form :=
      if c = CodePoint.capitalSigma then
        [if endsWord before rest then CodePoint.finalSigma else CodePoint.smallSigma]
      else c.lower
    form ++ lowerAfter (c :: before) rest

/-- The lower-case form of a text. -/
def lower (t : Text) : Text :=
  lowerAfter [] t

end Text

end RegexSubst
