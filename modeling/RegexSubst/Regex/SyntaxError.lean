import RegexSubst.Regex.Syntax
import RegexSubst.Text.Newline
import RegexSubst.Text.Numeral

/-!
# `RegexSubst.Regex.SyntaxError`: what can be wrong with a regex

* `SyntaxError` is a cause with the position where it was found; `SyntaxError.message` adds the line
  and the column if the regex has several lines.
* `CompileFault` holds the refusals that are not errors of syntax.
-/

set_option autoImplicit false

namespace RegexSubst.Regex

/-- What is wrong with the syntax of a regex. -/
inductive Cause
  | unterminatedSubpattern
  | unbalancedParenthesis
  | unterminatedSet
  | nothingToRepeat
  | multipleRepeat
  | reversedRepeat
  | badEscape (escape : Text)
  | danglingEscape
  | incompleteEscape (escape : Text)
  | octalRange (escape : Text)
  | missingBrace
  | unknownCharacter (name : Text)
  | groupReference (number : Nat)
  | openGroup
  | sameLookBehind
  | characterRange (first last : Text)
  | nameCharacter (name : Text)
  | missingName (what : Text)
  | unterminatedName (closing : CodePoint)
  | unknownName (name : Text)
  | redefinition (name : Text) (number earlier : Nat)
  | unknownExtension (extension : Text)
  | unexpectedEnd
  | unterminatedComment
  | groupNumber
  | conditionBranches
  | flagEnd
  | flagMissing
  | flagColon
  | flagUnknown
  | flagLocale
  | flagsIncompatible
  | flagGlobalOn
  | flagGlobalOff
  | flagClassOff
  | flagOnAndOff
  | flagsNotFirst
  | looseLookBehind
  /-- A repeat in a regex that is a template. -/
  | templateRepeat (greed : Greed)
deriving DecidableEq

/-- The name of a kind of repeat. -/
def Greed.operator : Greed → Text
  | .greedy => "MAX_REPEAT"
  | .lazy => "MIN_REPEAT"
  | .possessive => "POSSESSIVE_REPEAT"

/-- A cause in words. -/
def Cause.message : Cause → Text
  | .unterminatedSubpattern => "missing ), unterminated subpattern"
  | .unbalancedParenthesis => "unbalanced parenthesis"
  | .unterminatedSet => "unterminated character set"
  | .nothingToRepeat => "nothing to repeat"
  | .multipleRepeat => "multiple repeat"
  | .reversedRepeat => "min repeat greater than max repeat"
  | .badEscape escape => "bad escape " ++ escape
  | .danglingEscape => "bad escape (end of pattern)"
  | .incompleteEscape escape => "incomplete escape " ++ escape
  | .octalRange escape => "octal escape value " ++ escape ++ " outside of range 0-0o377"
  | .missingBrace => "missing \x7b"
  | .unknownCharacter name => "undefined character name " ++ name.quoted
  | .groupReference number => "invalid group reference " ++ Text.ofNat number
  | .openGroup => "cannot refer to an open group"
  | .sameLookBehind => "cannot refer to group defined in the same lookbehind subpattern"
  | .characterRange first last => "bad character range " ++ first ++ "-" ++ last
  | .nameCharacter name => "bad character in group name " ++ name.quoted
  | .missingName what => "missing " ++ what
  | .unterminatedName closing => "missing " ++ [closing] ++ ", unterminated name"
  | .unknownName name => "unknown group name " ++ name.quoted
  | .redefinition name number earlier =>
    "redefinition of group name " ++ name.quoted ++ " as group " ++ Text.ofNat number
      ++ "; was group " ++ Text.ofNat earlier
  | .unknownExtension extension => "unknown extension ?" ++ extension
  | .unexpectedEnd => "unexpected end of pattern"
  | .unterminatedComment => "missing ), unterminated comment"
  | .groupNumber => "bad group number"
  | .conditionBranches => "conditional backref with more than two branches"
  | .flagEnd => "missing -, : or )"
  | .flagMissing => "missing flag"
  | .flagColon => "missing :"
  | .flagUnknown => "unknown flag"
  | .flagLocale => "bad inline flags: cannot use 'L' flag with a str pattern"
  | .flagsIncompatible => "bad inline flags: flags 'a', 'u' and 'L' are incompatible"
  | .flagGlobalOn => "bad inline flags: cannot turn on global flag"
  | .flagGlobalOff => "bad inline flags: cannot turn off global flag"
  | .flagClassOff => "bad inline flags: cannot turn off flags 'a', 'u' and 'L'"
  | .flagOnAndOff => "bad inline flags: flag turned on and off"
  | .flagsNotFirst => "global flags not at the start of the expression"
  | .looseLookBehind => "look-behind requires fixed-width pattern"
  | .templateRepeat greed => "internal: unsupported template operator " ++ greed.operator

/-- An error of syntax, with its position if it has one. -/
structure SyntaxError where
  cause : Cause
  position : Option Nat
deriving DecidableEq

/-- The line of position `n` and its column, both from one. -/
def lineAndColumn (pattern : Text) (n : Nat) : Nat × Nat :=
  let before := pattern.take n
  let column := (before.reverse.takeWhile (· ≠ Text.lineFeed)).length + 1
  (before.count Text.lineFeed + 1, column)

/-- The wording of an error in the regex `pattern`. -/
def SyntaxError.message (e : SyntaxError) (pattern : Text) : Text :=
  match e.position with
  | none => e.cause.message
  | some n =>
    let place : Text := e.cause.message ++ " at position " ++ Text.ofNat n
    if pattern.contains Text.lineFeed then
      let (line, column) := lineAndColumn pattern n
      place ++ " (line " ++ Text.ofNat line ++ ", column " ++ Text.ofNat column ++ ")"
    else place

/-- Refusals of a regex that are not errors of syntax. -/
inductive CompileFault
  | localeFlag
  | asciiAndUnicode
  | repetitionTooLarge
  | tooManyDigits (digits : Nat)
  /-- The number of a character, or the flags, do not fit into a machine integer. -/
  | integerTooLarge
  /-- A look-behind looks at a stretch that is too long. -/
  | lookBehindTooWide
deriving DecidableEq

/-- Why a regex cannot be made, in words. -/
def CompileFault.message : CompileFault → Text
  | .localeFlag => "cannot use LOCALE flag with a str pattern"
  | .asciiAndUnicode => "ASCII and UNICODE flags are incompatible"
  | .repetitionTooLarge => "the repetition number is too large"
  | .tooManyDigits digits => Numeral.limitMessage digits
  | .integerTooLarge => "Python int too large to convert to C int"
  | .lookBehindTooWide => "invalid SRE code"

end RegexSubst.Regex
