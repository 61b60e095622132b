import RegexSubst.CommandLine.Settings

/-!
# `RegexSubst.CommandLine.Spelling`: how a command line asks for settings

The settings of a run can be written as a command line: first the options, in any order and as often
as one likes, then the separator, then the pattern, the replacement and the files as they are.

* `Choice` is an option as it is written, and `Choice.arguments` are its arguments.
* `commandLine` is the whole command line, and `chosenSettings` is what it asks for.
-/

set_option autoImplicit false

namespace RegexSubst.CommandLine

/-- An option that is either given or not, and that a run takes note of. -/
inductive Toggle
  | ignoreCase
  | multiline
  | dotAll
  | verbose
deriving DecidableEq

/-- The option that turns the toggle on. -/
def Toggle.switch : Toggle → Switch
  | .ignoreCase => .ignoreCase
  | .multiline => .multiline
  | .dotAll => .dotAll
  | .verbose => .verbose

/-- The ways to write a count. -/
inductive CountForm
  /-- The short name, and the number as an argument of its own. -/
  | short
  /-- The long name, and the number as an argument of its own. -/
  | long
  /-- The long name, an equals sign and the number, all in one argument. -/
  | attached

/-- An option as it is written. A count has no more digits than are read. -/
inductive Choice
  | toggle (t : Toggle) (isLong : Bool)
  | count (n : Int) (readable : (Text.ofNat n.natAbs).length ≤ Numeral.digitLimit)
    (form : CountForm)

namespace Choice

/-- The arguments that an option is written as. -/
def arguments : Choice → List Text
  | .toggle t false => [t.switch.short]
  | .toggle t true => [t.switch.long]
  | .count n _ .short => [Switch.count.short, Text.ofInt n]
  | .count n _ .long => [Switch.count.long, Text.ofInt n]
  | .count n _ .attached => [Switch.count.long ++ "=" ++ Text.ofInt n]

/-- Whether an option is a toggle. -/
def turnsOn (t : Toggle) : Choice → Bool
  | .toggle given _ => given = t
  | .count _ _ _ => false

/-- The count that an option gives. -/
def count? : Choice → Option Int
  | .toggle _ _ => none
  | .count n _ _ => some n

end Choice

/-- The command line with some options, a pattern, a replacement and files. -/
def commandLine (choices : List Choice) (pattern replacement : Text) (files : List Text) :
    List Text :=
  choices.flatMap Choice.arguments ++ separator :: pattern :: replacement :: files

/-- The settings with some options, a pattern, a replacement and files: the toggles that are given at
least once, and the last count, which is zero if there is none. -/
def chosenSettings (choices : List Choice) (pattern replacement : Text) (files : List Text) :
    Settings :=
  { ignoreCase := choices.any (Choice.turnsOn .ignoreCase)
    multiline := choices.any (Choice.turnsOn .multiline)
    dotAll := choices.any (Choice.turnsOn .dotAll)
    verbose := choices.any (Choice.turnsOn .verbose)
    count := some ((choices.filterMap Choice.count?).getLast?.getD 0)
    pattern := some pattern
    replacement := some replacement
    files := files }

end RegexSubst.CommandLine
