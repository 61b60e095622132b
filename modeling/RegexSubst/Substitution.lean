import RegexSubst.Regex.Basic
import RegexSubst.Template.Expansion

/-!
# `RegexSubst.Substitution`: replacing the matches of a regex

Every match is replaced by the expansion of a template for that match alone; what lies between the
matches is kept.

* `Regex.expand` is the expansion for one match.
* `Regex.substitute` replaces all matches of a text, or the first ones, and counts them;
  `Regex.substituteText` does not count them.
* `Regex.matches?` lists the matches of a text, if all of them can be reported.
-/

set_option autoImplicit false

namespace RegexSubst

open RegexSubst.Regex (Match)
open RegexSubst.Template (Fault)

/-- Why a substitution has no result. -/
inductive SubstitutionError
  /-- The regex is invalid; the message says why. -/
  | invalidRegex (message : Text)
  /-- The limit on the number of replacements is too large. -/
  | countTooLarge
  /-- A group of a match ends before it begins. -/
  | crossedGroup
  /-- The template could not be expanded. -/
  | fault (f : Fault)
deriving DecidableEq

/-- The failure of a substitution in words. -/
def SubstitutionError.message : SubstitutionError → Text
  | .invalidRegex message => message
  | .countTooLarge => "Python int too large to convert to C ssize_t"
  | .crossedGroup =>
    "The span of capturing group is wrong, please report a bug for the re module."
  | .fault f => f.message

/-- Limits on the number of replacements are below this one. -/
def countBound : Int := 9223372036854775808

namespace Regex

/-- Expands a template for a match with the given spans in `text`. -/
def expand (r : Regex) (text : Text) (spans : List Span) (template : Text) :
    Except SubstitutionError Text :=
  match Template.replacement ⟨r.view, text, spans⟩ template with
  | .error f => .error (.fault f)
  | .ok replacement =>
    if replacement.success then .ok replacement.text
    else .error (.invalidRegex (r.errorMessage?.getD []))

/-- The text `rest`, which begins at `position`, with the matches in it replaced. -/
def replaceMatches {size : Nat} (replace : Match size → Except SubstitutionError Text)
    (rest : Text) (position : Nat) :
    List (Match size) → Except SubstitutionError Text
  | [] => .ok rest
  | m :: ms => do
    let new ← replace m
    let tail ← replaceMatches replace (rest.drop (m.stop - position)) m.stop ms
    return rest.take (m.start - position) ++ new ++ tail

/-- The matches that are replaced: all of them, or the first `count` if that is positive. -/
def limited {α : Type} (count : Int) (found : List α) : List α :=
  if 0 < count then found.take count.toNat else found

/-- Replaces the matches in `text`, at most `count` of them if that is positive. The answer is the
new text and the number of replacements. -/
def substitute (r : Regex) (text template : Text) (count : Int) :
    Except SubstitutionError (Text × Nat) :=
  match r.program with
  | .error e => .error (.invalidRegex (invalidMessage r.pattern e))
  | .ok program =>
    if countBound ≤ count then .error .countTooLarge
    else do
      let found := limited count (program.findAll text.toArray)
      let replace := fun m =>
        if m.isCrossed then .error .crossedGroup
        else r.expand text (m.spans program.groups.count) template
      let new ← replaceMatches replace text 0 found
      return (new, found.length)

/-- Replaces the matches in `text` as `substitute` does. The answer is the new text alone. -/
def substituteText (r : Regex) (text template : Text) (count : Int) :
    Except SubstitutionError Text := do
  let (new, _) ← r.substitute text template count
  return new

/-- The matches of a program in `text`, if all of them can be reported. -/
def matches? (program : Regex.Program) (text : Text) :
    Except SubstitutionError (List (Match text.toArray.size)) :=
  let found := program.findAll text.toArray
  if found.any (·.isCrossed) then .error .crossedGroup else .ok found

/-- Where the first match in `text` starts. -/
def firstStart? (r : Regex) (text : Text) : Option Nat :=
  match r.program with
  | .error _ => none
  | .ok program => (program.findAll text.toArray).head?.map fun m => m.start

end Regex

end RegexSubst
