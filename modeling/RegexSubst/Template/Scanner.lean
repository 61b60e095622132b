import RegexSubst.Template.Control
import RegexSubst.Template.Hex

/-!
# `RegexSubst.Template.Scanner`: reading a template one code point at a time

A template is read once, from left to right. Between two code points the scanner is in one of six
states. Every state but the first is in the middle of a control and keeps all that has been read of
it, so that the control can be written as it is if it goes wrong.

* `ScanState.step` reads one code point: it gives the next state and what is done to the output.
* `ScanState.flush` is what is done at the end of the template.
-/

set_option autoImplicit false

namespace RegexSubst.Template

/-- What the scanner is in the middle of. `raw` is the template since the last backslash that began
a control. -/
inductive ScanState
  /-- Nothing: the next code point stands for itself or begins a control. -/
  | literal
  /-- A control of which only the backslash has been read. -/
  | control (raw : Text)
  /-- A reference without its bracket. -/
  | reference (raw : Text)
  /-- A reference inside its bracket, with the name so far. -/
  | named (raw : Text) (bracket : Bracket) (name : Text)
  /-- A hex escape with the digits so far, of which two are enough. -/
  | hexPair (raw digits : Text)
  /-- A hex escape in braces, with the digits so far. -/
  | hexBrace (raw digits : Text)
deriving DecidableEq

namespace ScanState

/-- What has been read of the current control. -/
def raw : ScanState → Text
  | .literal => []
  | .control raw => raw
  | .reference raw => raw
  | .named raw _ _ => raw
  | .hexPair raw _ => raw
  | .hexBrace raw _ => raw

/-- A state and what is done to the output on the way to it, unless there is a fault. -/
abbrev Transition := Except Fault (ScanState × Option Action)

namespace Transition

/-- Goes on with the control. -/
def toState (state : ScanState) : Transition := .ok (state, none)

/-- Ends the control with an action. -/
def finish (action : Action) : Transition := .ok (.literal, some action)

/-- Ends a control that writes the text of a group, or itself if there is no such group. -/
def capture (ctx : Context) (number : Int) (raw : Text) : Transition := do
  match ← captureText? number ctx.spans ctx.text with
  | some segment => finish (.emit segment)
  | none => finish (.emitRaw raw)

end Transition

open Transition

/-- Reads the character `c` after a backslash. -/
def classify (ctx : Context) (c : CodePoint) (raw : Text) : Transition :=
  if isAsciiDigit [c] then do
    let number ← readNumber 10 [c]
    capture ctx number raw
  else
    match controlCharacter? c with
    | some value => finish (.emit [value])
    | none =>
      if c = 'E' then finish .endCase
      else
        match caseMode? c with
        | some mode => finish (.requestCase mode)
        | none =>
          if c = 'g' then toState (.reference raw)
          else if c = 'x' then toState (.hexPair raw [])
          else finish (.emitRaw raw)

/-- Reads the bracket of a reference. -/
def openReference (c : CodePoint) (raw : Text) : Transition :=
  if c = Bracket.brace.opening || c = Bracket.angle.opening then do
    let bracket ← Bracket.ofOpening [c]
    toState (.named raw bracket [])
  else finish (.emitRaw raw)

/-- Reads a character of a name or the bracket behind the name. -/
def continueReference (ctx : Context) (bracket : Bracket) (name : Text) (c : CodePoint)
    (raw : Text) : Transition :=
  if c = bracket.closing then do
    let number ← resolveGroup ctx.regex name
    capture ctx number raw
  else toState (.named raw bracket (name ++ [c]))

/-- Reads a digit of a hex escape or the brace before the digits. -/
def continueHexPair (digits : Text) (c : CodePoint) (raw : Text) : Transition :=
  if c = Bracket.brace.opening && digits = [] then toState (.hexBrace raw [])
  else if !isHexDigit [c] then finish (.emitRaw raw)
  else if (digits ++ [c]).length < 2 then toState (.hexPair raw (digits ++ [c]))
  else do
    let value ← decodePair (digits ++ [c])
    finish (.emit [value])

/-- Reads a digit of a hex escape in braces or the brace behind the digits. -/
def continueHexBrace (digits : Text) (c : CodePoint) (raw : Text) : Transition :=
  if c = Bracket.brace.closing && isBracedHex digits then do
    let value ← decodeBraced digits
    finish (.emit [value])
  -- A closing brace behind too few digits, or too many, is malformed as well.
  else if !isHexDigit [c] then finish (.emitRaw raw)
  else toState (.hexBrace raw (digits ++ [c]))

/-- Reads one code point in the context of a match. -/
def step (ctx : Context) (state : ScanState) (c : CodePoint) : Transition :=
  match state with
  | .literal => if c = introducer then toState (.control [c]) else finish (.emit [c])
  | .control raw => classify ctx c (raw ++ [c])
  | .reference raw => openReference c (raw ++ [c])
  | .named raw bracket name => continueReference ctx bracket name c (raw ++ [c])
  | .hexPair raw digits => continueHexPair digits c (raw ++ [c])
  | .hexBrace raw digits => continueHexBrace digits c (raw ++ [c])

/-- What is done at the end of a template: an unfinished control is written as it is. -/
def flush (state : ScanState) : Option Action :=
  if state = .literal then none else some (.emitRaw state.raw)

end ScanState

end RegexSubst.Template
