import RegexSubst.Regex.Reader
import RegexSubst.Unicode.Alphanumeric

/-!
# `RegexSubst.Regex.FlagReader`: reading flags inside a regex

Letters after `(?` turn flags on; a hyphen begins the letters of the flags to turn off. A closing
parenthesis after the first letters turns them on for the whole regex, a colon begins the part that
they hold for.

* `Reader.flagChange` reads the letters and what ends them.
-/

set_option autoImplicit false

namespace RegexSubst.Regex.Reader

/-- The flag of a lexeme. -/
def flagOf? : Lexeme → Option Flag
  | .char c => Flag.ofLetter? c
  | .escape _ => none

/-- Whether a lexeme is one letter. -/
def isLetter (l : Lexeme) : Bool :=
  l.satisfies fun c => Unicode.letter.contains c.val

/-- Reports a lexeme that is neither a flag nor what `cause` asks for. -/
def notAFlag {α : Type} (l : Lexeme) (cause : Cause) : Reader α :=
  fail (if isLetter l then .flagUnknown else cause) l.text.length

/-- The flags with one more to turn on. -/
def turnOn (on : Flags) (flag : Flag) : Reader Flags := do
  if flag = .locale then fail .flagLocale 0
  let on := on.insert flag
  if flag.choosesClasses && on.meets (Flags.classFlags.diff (.single flag)) then
    fail .flagsIncompatible 0
  return on

/-- Reads the letters of the flags to turn on, of which `flag` is the first, and the lexeme that
ends them. -/
def flagsOn : (rounds : Nat) → Flags → Flag → Reader (Flags × Lexeme)
  | 0, _, _ => fail .flagEnd 0
  | rounds + 1, on, flag => do
    let on ← turnOn on flag
    match ← next? with
    | none => fail .flagEnd 0
    | some l =>
      if l.is ')' || l.is '-' || l.is ':' then return (on, l)
      else
        match flagOf? l with
        | some flag => flagsOn rounds on flag
        | none => notAFlag l .flagEnd

/-- Reads the letters of the flags to turn off, of which `flag` is the first, up to the colon. -/
def flagsOff : (rounds : Nat) → Flags → Flag → Reader Flags
  | 0, _, _ => fail .flagColon 0
  | rounds + 1, off, flag => do
    if flag.choosesClasses then fail .flagClassOff 0
    let off := off.insert flag
    match ← next? with
    | none => fail .flagColon 0
    | some l =>
      if l.is ':' then return off
      else
        match flagOf? l with
        | some flag => flagsOff rounds off flag
        | none => notAFlag l .flagColon

/-- Reads the flags to turn off after the hyphen. -/
def flagsAfterHyphen : Reader Flags := do
  match ← next? with
  | none => fail .flagMissing 0
  | some l =>
    match flagOf? l with
    | some flag => flagsOff ((← remaining) + 1) .none flag
    | none => notAFlag l .flagMissing

/-- Reads a change of flags that begins with the lexeme `first`, a flag or a hyphen. The answer is
the change for a part of the regex, or nothing if the flags are now those of the whole. -/
def flagChange (first : Lexeme) : Reader (Option FlagChange) := do
  let (on, last) ←
    match flagOf? first with
    | some flag => flagsOn ((← remaining) + 1) .none flag
    | none => pure (.none, first)
  if last.is ')' then
    modify fun s => { s with flags := s.flags.union on }
    return none
  if on.meets Flags.globalFlags then fail .flagGlobalOn 1
  let off ← if last.is '-' then flagsAfterHyphen else pure .none
  if off.meets Flags.globalFlags then fail .flagGlobalOff 1
  if on.meets off then fail .flagOnAndOff 1
  return some ⟨on, off⟩

end RegexSubst.Regex.Reader
