import RegexSubst.Text.CodePoint

/-!
# `RegexSubst.CommandLine.Switch`: the options

Every option has a short name of one letter and a long name. Only the option for the count takes a
value.

* `Switch.ofName?` finds an option by either name, dashes included.
* `Switch.display` is how messages name an option.
-/

set_option autoImplicit false

namespace RegexSubst.CommandLine

/-- An option of the command line. -/
inductive Switch
  | help
  | version
  | ignoreCase
  | multiline
  | dotAll
  | count
  | verbose
deriving DecidableEq

namespace Switch

/-- All options, in the order in which they are listed. -/
def all : List Switch :=
  [help, version, ignoreCase, multiline, dotAll, count, verbose]

/-- The letter of the short name. -/
def letter : Switch → CodePoint
  | help => 'h'
  | version => 'v'
  | ignoreCase => 'i'
  | multiline => 'm'
  | dotAll => 's'
  | count => 'n'
  | verbose => 'x'

/-- The short name. -/
def short (s : Switch) : Text :=
  ['-', s.letter]

/-- The long name. -/
def long : Switch → Text
  | help => "--help"
  | version => "--version"
  | ignoreCase => "--ignore-case"
  | multiline => "--multiline"
  | dotAll => "--dotall"
  | count => "--count"
  | verbose => "--verbose"

/-- Whether a value follows the option. -/
def takesValue : Switch → Bool
  | count => true
  | _ => false

/-- Both names, as messages show them. -/
def display (s : Switch) : Text :=
  s.short ++ "/" ++ s.long

/-- The option with a letter. -/
def ofLetter? (c : CodePoint) : Option Switch :=
  all.find? fun s => s.letter = c

/-- The option with a name, short or long. -/
def ofName? (name : Text) : Option Switch :=
  all.find? fun s => s.short = name || s.long = name

end Switch

end RegexSubst.CommandLine
