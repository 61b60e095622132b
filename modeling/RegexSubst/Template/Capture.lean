import RegexSubst.Span
import RegexSubst.Template.Fault

/-!
# `RegexSubst.Template.Capture`: group references and captured text

A match is known by the text that was searched and by one span for each group. A reference names its
group by a number or by a name, and the regex resolves names.

* `groupNumber?` reads a name as a decimal group number; `resolveGroup` asks the regex for all other
  names.
* `captureText?` is the text of a group.
-/

set_option autoImplicit false

namespace RegexSubst.Template

/-- What the expansion needs to know of a regex. -/
structure RegexView where
  /-- Whether the regex can be used at all. -/
  isValid : Bool
  /-- The number of a named group, negative if there is no such group. -/
  groupNumber : Text → Int

/-- The regex, the searched text and the spans of the groups of one match. -/
structure Context where
  regex : RegexView
  text : Text
  spans : List Span

/-- Texts that sort between `0` and `9`. A text of one code point does if it is a digit. -/
def isAsciiDigit (t : Text) : Bool :=
  Text.le "0" t && Text.le t "9"

/-- The group number that `name` writes in decimal. The value zero has only the form `0`; leading
zeros are allowed in all other numbers. -/
def groupNumber? (name : Text) : Except Fault (Option Int) :=
  if name ≠ [] && name.all CodePoint.isDigit then do
    let number ← readNumber 10 name
    return if number = 0 && name ≠ "0" then none else some number
  else .ok none

/-- The number of the group that `name` refers to. -/
def resolveGroup (regex : RegexView) (name : Text) : Except Fault Int := do
  match ← groupNumber? name with
  | some number => return number
  | none => return regex.groupNumber name

/-- Whether there is a span for group `number`. -/
def isAvailable (number : Int) (spans : List Span) : Bool :=
  0 ≤ number && number < spans.length

/-- The text captured by group `number`, if there is such a group. -/
def captureText? (number : Int) (spans : List Span) (text : Text) : Except Fault (Option Text) :=
  if isAvailable number spans then
    match Span.at? spans number with
    | some span => .ok (some (span.slice text))
    | none => .error .spanIndex
  else .ok none

end RegexSubst.Template
