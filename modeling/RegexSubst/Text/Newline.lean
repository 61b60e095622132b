import RegexSubst.Text.CodePoint

/-!
# `RegexSubst.Text.Newline`: line ends of input

A line of an input may end in a line feed, a carriage return or both; the text that is read has a
line feed in every case.

* `Text.withLineFeeds` makes all line ends line feeds.
-/

set_option autoImplicit false

namespace RegexSubst.Text

/-- The line feed. -/
def lineFeed : CodePoint := '\n'

/-- The carriage return. -/
def carriageReturn : CodePoint := '\r'

/-- Writes every line end as one line feed. -/
def withLineFeeds : Text → Text
  | [] => []
  | [c] => if c = carriageReturn then [lineFeed] else [c]
  | c :: d :: rest =>
    if c = carriageReturn then
      if d = lineFeed then lineFeed :: withLineFeeds rest else lineFeed :: withLineFeeds (d :: rest)
    else c :: withLineFeeds (d :: rest)

end RegexSubst.Text
