import RegexSubst.Text.Digits
import RegexSubst.Unicode.Printable

/-!
# `RegexSubst.Text.Quoted`: texts in quotation marks

The form in which a message shows a text that may hold anything: between single quotes, or between
double quotes if it holds a single quote and no double one. Backslashes, the quote in use and
characters that cannot be shown are written as escapes.

* `Text.quoted` is the whole form, `CodePoint.shown` the form of one code point.
-/

set_option autoImplicit false

namespace RegexSubst

/-- A code point as it stands between the quotation marks `quote`. -/
def CodePoint.shown (quote c : CodePoint) : Text :=
  if c = quote || c = '\\' then ['\\', c]
  else if c = '\t' then "\\t"
  else if c = '\n' then "\\n"
  else if c = '\r' then "\\r"
  else if Unicode.printable.contains c.val then [c]
  else if c.val < 0x100 then "\\x" ++ Text.ofHex 2 c.val
  else if c.val < 0x10000 then "\\u" ++ Text.ofHex 4 c.val
  else "\\U" ++ Text.ofHex 8 c.val

/-- The text in quotation marks, with escapes for what cannot be shown. -/
def Text.quoted (t : Text) : Text :=
  let quote : CodePoint := if t.contains '\'' && !t.contains '"' then '"' else '\''
  quote :: t.flatMap (CodePoint.shown quote) ++ [quote]

end RegexSubst
