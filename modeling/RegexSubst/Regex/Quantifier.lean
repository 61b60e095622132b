import RegexSubst.Regex.Reader
import RegexSubst.Text.Numeral

/-!
# `RegexSubst.Regex.Quantifier`: reading repeats

A quantifier is `*`, `+`, `?` or a pair of bounds in braces, and a `?` or `+` after it changes the
order in which the counts are tried. A brace that does not begin a pair of bounds is a character.

* `Reader.bounds?` reads the bounds of a quantifier.
* `Reader.applyQuantifier` repeats the last item that has been read.
-/

set_option autoImplicit false

namespace RegexSubst.Regex

/-- The bounds of a repeat; there may be no upper one. -/
structure Bounds where
  least : Nat
  greatest : Option Nat

namespace Reader

/-- The number that the digits of a bound write; it must be below the limit of counts. -/
def bound (digits : Text) : Reader Nat := do
  if Numeral.digitLimit < digits.length then refuse (.tooManyDigits digits.length)
  let n := Text.decimalValue digits
  if countLimit ≤ n then refuse .repetitionTooLarge
  return n

/-- Reads bounds in braces after the opening one; nothing is read if there are none. -/
def braceBounds? : Reader (Option Bounds) := do
  let start ← get
  if ← sees '\x7d' then return none
  let low ← readWhile start.rest.length CodePoint.isDigit
  let high ← do
    if ← accept ',' then readWhile start.rest.length CodePoint.isDigit else pure low
  unless ← accept '\x7d' do
    set start
    return none
  let least ← if low.isEmpty then pure 0 else bound low
  if high.isEmpty then return some ⟨least, none⟩
  let greatest ← bound high
  if greatest < least then failAt .reversedRepeat start.position
  return some ⟨least, some greatest⟩

/-- The bounds of the quantifier that begins with the character `c`. -/
def bounds? (c : CodePoint) : Reader (Option Bounds) :=
  if c = '?' then return some ⟨0, some 1⟩
  else if c = '*' then return some ⟨0, none⟩
  else if c = '+' then return some ⟨1, none⟩
  else braceBounds?

/-- Reads the sign after a quantifier that says in which order the counts are tried. -/
def greed : Reader Greed := do
  if ← accept '?' then return .lazy
  if ← accept '+' then return .possessive
  return .greedy

/-- Repeats the first of `items`, the last one that has been read, as the quantifier at position
`start` says. -/
def applyQuantifier (start : Nat) (bounds : Bounds) (items : List Node) : Reader (List Node) :=
  match items with
  | [] | .anchor _ :: _ => failAt .nothingToRepeat start
  | .repeat _ _ _ _ :: _ => failAt .multipleRepeat start
  | item :: rest => do
    return .repeat bounds.least bounds.greatest (← greed) item :: rest

end Reader

end RegexSubst.Regex
