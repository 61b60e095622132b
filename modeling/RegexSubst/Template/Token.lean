import RegexSubst.Template.Control
import RegexSubst.Template.Hex

/-!
# `RegexSubst.Template.Token`: the units of a template

A template is a sequence of tokens: plain characters and controls that begin with a backslash. A
token is known without any match; what it does is known from a match.

* `Token.source` is the text of a token in the template.
* `Token.action` is what a token does in the context of a match. A reference to a group that is not
  there writes its own source.
* `Token.fault?` is the only fault of a token: a group number with too many digits.
-/

set_option autoImplicit false

namespace RegexSubst.Template

/-- A unit of a template. -/
inductive Token
  /-- A character that stands for itself. -/
  | plain (c : CodePoint)
  /-- A backslash and a digit. -/
  | digit (d : CodePoint)
  /-- A backslash and the letter of a control character. -/
  | character (letter value : CodePoint)
  /-- The end of a case change. -/
  | endCase
  /-- A backslash and the letter of a case mode. -/
  | requestCase (letter : CodePoint) (mode : CaseMode)
  /-- A group by its name or number in brackets. -/
  | reference (bracket : Bracket) (name : Text)
  /-- A code point by two hex digits. -/
  | hexPair (digits : Text)
  /-- A code point by hex digits in braces. -/
  | hexBrace (digits : Text)
  /-- A control that is no control after all. -/
  | malformed (source : Text)
deriving DecidableEq

namespace Token

/-- The token as it is written in a template. -/
def source : Token → Text
  | .plain c => [c]
  | .digit d => [introducer, d]
  | .character letter _ => [introducer, letter]
  | .endCase => [introducer, 'E']
  | .requestCase letter _ => [introducer, letter]
  | .reference bracket name =>
    [introducer, 'g', bracket.opening] ++ name ++ [bracket.closing]
  | .hexPair digits => [introducer, 'x'] ++ digits
  | .hexBrace digits =>
    [introducer, 'x', Bracket.brace.opening] ++ digits ++ [Bracket.brace.closing]
  | .malformed source => source

/-- Whether a name is a decimal group number: digits whose value is not zero, or exactly `0`. -/
def isNumeral (name : Text) : Bool :=
  name.all CodePoint.isDigit && (Text.decimalValue name ≠ 0 || name = "0")

/-- Whether a name consists of more digits than are read. -/
def isOverlong (name : Text) : Bool :=
  name.all CodePoint.isDigit && Numeral.digitLimit < name.length

/-- The group that a name in brackets means: the value of a decimal group number, and what the regex
answers for every other name. -/
def groupOf (regex : RegexView) (name : Text) : Int :=
  if isNumeral name then Text.decimalValue name else regex.groupNumber name

/-- Writes the text of a group, or `source` if there is no span for the group. -/
def groupAction (ctx : Context) (number : Int) (source : Text) : Action :=
  if number < 0 then .emitRaw source
  else
    match ctx.spans[number.toNat]? with
    | some span => .emit (span.slice ctx.text)
    | none => .emitRaw source

/-- What a token does in the context of a match. -/
def action (ctx : Context) (token : Token) : Action :=
  match token with
  | .plain c => .emit [c]
  | .digit d => groupAction ctx (Text.decimalValue [d]) token.source
  | .character _ value => .emit [value]
  | .endCase => .endCase
  | .requestCase _ mode => .requestCase mode
  | .reference _ name => groupAction ctx (groupOf ctx.regex name) token.source
  | .hexPair digits => .emit (CodePoint.ofNat? (Text.hexValue digits)).toList
  | .hexBrace digits => .emit (CodePoint.ofNat? (Text.hexValue digits)).toList
  | .malformed source => .emitRaw source

/-- The fault of a reference whose name is a decimal numeral with too many digits. -/
def fault? : Token → Option Fault
  | .reference _ name =>
    if isOverlong name then some (.tooManyDigits name.length) else none
  | _ => none

end Token

/-- The output after some tokens. -/
def CaseBuffer.performTokens (ctx : Context) (b : CaseBuffer) (tokens : List Token) : CaseBuffer :=
  tokens.foldl (fun b token => b.perform (token.action ctx)) b

end RegexSubst.Template
