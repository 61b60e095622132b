import RegexSubst.Template.Control

/-!
# `RegexSubst.Template.Spelling`: how a template writes a given text

Every code point can be written in a template, most of them in several ways.

* `Spells c t` holds if the template `t` is a way to write the code point `c`, and `SpellsAll` holds
  for texts written code point by code point.
* `quote` writes a text as a template in the simplest way, with every backslash doubled.
-/

set_option autoImplicit false

namespace RegexSubst.Template

/-- The ways to write one code point. -/
inductive Spells : CodePoint → Text → Prop
  /-- As it is, unless it is a backslash. -/
  | plain (c : CodePoint) (notIntroducer : c ≠ introducer) : Spells c [c]
  /-- By the letter of a control character, or a second backslash. -/
  | character (letter value : CodePoint) (known : controlCharacter? letter = some value) :
    Spells value [introducer, letter]
  /-- By two hex digits. -/
  | hexPair (digits : Text) (c : CodePoint) (length : digits.length = 2)
    (hex : ∀ d ∈ digits, d.isHexDigit = true) (value : Text.hexValue digits = c.val) :
    Spells c ([introducer, 'x'] ++ digits)
  /-- By two, four or six hex digits in braces. -/
  | hexBrace (digits : Text) (c : CodePoint)
    (length : digits.length = 2 ∨ digits.length = 4 ∨ digits.length = 6)
    (hex : ∀ d ∈ digits, d.isHexDigit = true) (value : Text.hexValue digits = c.val) :
    Spells c ([introducer, 'x', Bracket.brace.opening] ++ digits ++ [Bracket.brace.closing])

/-- The ways to write a text. -/
inductive SpellsAll : Text → Text → Prop
  | nil : SpellsAll [] []
  | cons (c : CodePoint) (rest spelling spellings : Text) (first : Spells c spelling)
    (others : SpellsAll rest spellings) : SpellsAll (c :: rest) (spelling ++ spellings)

/-- A text as a template that stands for it. -/
def quote (t : Text) : Text :=
  t.flatMap fun c => if c = introducer then [introducer, introducer] else [c]

end RegexSubst.Template
