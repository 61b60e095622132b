import RegexSubst.CommandLine.Switch
import RegexSubst.Text.Newline
import RegexSubst.Text.Numeral

/-!
# `RegexSubst.CommandLine.Argument`: what the arguments are

Before anything else every argument is classified on its own: as an option, which may carry a value,
as the separator `--`, after which nothing is an option, or as a positional argument.

* `ArgumentKind.ofText` classifies one argument, `classify` a whole command line.
* `UsageError` lists all errors of usage and `UsageError.message` words them.
-/

set_option autoImplicit false

namespace RegexSubst.CommandLine

/-- An error in the use of the command line. -/
inductive UsageError
  /-- An abbreviation that several long names begin with. -/
  | ambiguous (argument : Text) (names : List Text)
  /-- A value for an option that takes none. -/
  | valueIgnored (switch : Switch) (value : Text)
  /-- No value for an option that takes one. -/
  | valueMissing (switch : Switch)
  /-- A count that is not an integer. -/
  | invalidInt (switch : Switch) (value : Text)
  /-- Positional arguments that are missing. -/
  | required (names : List Text)
  /-- Arguments that have no use. -/
  | unrecognized (arguments : List Text)
deriving DecidableEq

/-- An error of usage in words. -/
def UsageError.message : UsageError → Text
  | .ambiguous argument names =>
    "ambiguous option: " ++ argument ++ " could match " ++ Text.joinWith ", " names
  | .valueIgnored switch value =>
    "argument " ++ switch.display ++ ": ignored explicit argument " ++ value.quoted
  | .valueMissing switch => "argument " ++ switch.display ++ ": expected one argument"
  | .invalidInt switch value =>
    "argument " ++ switch.display ++ ": invalid int value: " ++ value.quoted
  | .required names =>
    "the following arguments are required: " ++ Text.joinWith ", " names
  | .unrecognized arguments => "unrecognized arguments: " ++ Text.joinWith " " arguments

/-- What an argument is. -/
inductive ArgumentKind
  | positional
  /-- The first `--`. -/
  | separator
  /-- An option by its short or long name, with what is attached to the name. -/
  | switch (switch : Switch) (isLong : Bool) (attached : Option Text)
  /-- Looks like an option, but there is none of that name. -/
  | unknown
deriving DecidableEq

/-- An argument with its kind. -/
structure Argument where
  text : Text
  kind : ArgumentKind
deriving DecidableEq

/-- The argument that separates the options from the rest. -/
def separator : Text := "--"

/-- The parts of an argument before and after its first equals sign. -/
def splitEquals? (argument : Text) : Option (Text × Text) :=
  match argument.dropWhile (· ≠ (CodePoint.ofChar '=')) with
  | [] => none
  | _ :: value => some (argument.takeWhile (· ≠ (CodePoint.ofChar '=')), value)

/-- Whether a character is a decimal digit of any script. -/
def isDecimal (c : CodePoint) : Bool :=
  (Unicode.decimalDigit? c.val).isSome

/-- Whether an argument is a negative number: a minus sign and digits, with at most one point, which
has a digit after it. A line feed may follow. -/
def isNegativeNumber (argument : Text) : Bool :=
  let number := if argument.getLast? = some Text.lineFeed then argument.dropLast else argument
  match number with
  | sign :: body =>
    let whole := body.takeWhile isDecimal
    sign = '-' &&
      match body.dropWhile isDecimal with
      | [] => !whole.isEmpty
      | point :: fraction => point = '.' && !fraction.isEmpty && fraction.all isDecimal
  | [] => false

/-- The options that an argument may abbreviate, with the name and the attached value. Long names
may be cut short; a letter may be followed by its value or by more letters. -/
def candidates (argument : Text) : List (Switch × Text × ArgumentKind) :=
  match argument with
  | first :: second :: rest =>
    if first = '-' && second = '-' then
      let (name, attached) :=
        match splitEquals? argument with
        | some (name, value) => (name, some value)
        | none => (argument, none)
      (Switch.all.filter fun s => name.isPrefixOf s.long).map fun s =>
        (s, s.long, .switch s true attached)
    else
      (Switch.all.filter fun s => s.letter = second).map fun s =>
        (s, s.short, .switch s false (some rest))
  | _ => []

/-- The kind of an argument that begins with a dash and is no whole name of an option. -/
def kindOfDashed (argument : Text) : Except UsageError ArgumentKind :=
  match candidates argument with
  | [(_, _, kind)] => .ok kind
  | [] =>
    if isNegativeNumber argument || argument.contains (CodePoint.ofChar ' ') then .ok .positional
    else .ok .unknown
  | several => .error (.ambiguous argument (several.map (·.2.1)))

/-- Whether a name of an option is a long one. -/
def isLongName (name : Text) : Bool :=
  separator.isPrefixOf name

/-- The kind of an argument before the separator. -/
def ArgumentKind.ofText (argument : Text) : Except UsageError ArgumentKind :=
  if argument.head? ≠ some (CodePoint.ofChar '-') then .ok .positional
  else
    match Switch.ofName? argument with
    | some s => .ok (.switch s (isLongName argument) none)
    | none =>
      if argument.length = 1 then .ok .positional
      else
        match splitEquals? argument with
        | none => kindOfDashed argument
        | some (name, value) =>
          match Switch.ofName? name with
          | some s => .ok (.switch s (isLongName name) (some value))
          | none => kindOfDashed argument

/-- The arguments of a command line with their kinds. -/
def classify : List Text → Except UsageError (List Argument)
  | [] => .ok []
  | text :: rest =>
    if text = separator then
      .ok (⟨text, .separator⟩ :: rest.map fun t => ⟨t, .positional⟩)
    else do
      let kind ← ArgumentKind.ofText text
      return ⟨text, kind⟩ :: (← classify rest)

end RegexSubst.CommandLine
