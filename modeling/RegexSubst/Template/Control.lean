import RegexSubst.Template.Capture
import RegexSubst.Template.Case

/-!
# `RegexSubst.Template.Control`: the controls of a template

A control begins with a backslash. The character after it says which control it is.

* `controlCharacter?` and `caseMode?` are the controls of one letter that have a table.
* `Bracket` holds the brackets around the name of a group.
* `Action` is what a control, or a plain character, does to the output.
-/

set_option autoImplicit false

namespace RegexSubst.Template

/-- The code point that begins every control. -/
def introducer : CodePoint := '\\'

/-- The brackets that may hold the name of a group. -/
inductive Bracket
  | brace
  | angle
deriving DecidableEq

namespace Bracket

/-- The bracket that opens a name or digits. -/
def opening : Bracket → CodePoint
  | .brace => '\x7b'
  | .angle => '<'

/-- The bracket that closes them. -/
def closing : Bracket → CodePoint
  | .brace => '\x7d'
  | .angle => '>'

/-- The bracket that a text opens. -/
def ofOpening? (t : Text) : Option Bracket :=
  [brace, angle].find? fun b => t = [b.opening]

/-- The bracket that a text opens, or a fault. -/
def ofOpening (t : Text) : Except Fault Bracket :=
  match ofOpening? t with
  | some b => .ok b
  | none => .error (.openingBracket t)

end Bracket

/-- The control characters that have a letter, and the backslash. -/
def controlCharacters : List (CodePoint × CodePoint) :=
  [('a', '\x07'), ('b', '\x08'), ('f', '\x0c'), ('n', '\n'), ('r', '\r'), ('t', '\t'),
    ('v', '\x0b'), ('\\', '\\')]

/-- The code point that a backslash and `letter` stand for. -/
def controlCharacter? (letter : CodePoint) : Option CodePoint :=
  controlCharacters.lookup letter

/-- The letters that ask for a case mode. -/
def caseLetters : List (CodePoint × CaseMode) :=
  [('l', .lowerNext), ('L', .lower), ('u', .upperNext), ('U', .upper)]

/-- The mode that a backslash and `letter` ask for. -/
def caseMode? (letter : CodePoint) : Option CaseMode :=
  caseLetters.lookup letter

/-- What is done to the output. -/
inductive Action
  /-- Writes a segment. -/
  | emit (segment : Text)
  /-- Writes a control as it stands in the template, because it has no other meaning. -/
  | emitRaw (raw : Text)
  /-- Asks for a case mode. -/
  | requestCase (mode : CaseMode)
  /-- Ends the case mode. -/
  | endCase
deriving DecidableEq

/-- Applies an action to the output. -/
def CaseBuffer.perform (b : CaseBuffer) : Action → CaseBuffer
  | .emit segment => b.append segment
  | .emitRaw raw => b.append raw
  | .requestCase mode => b.request mode
  | .endCase => b.clear

end RegexSubst.Template
