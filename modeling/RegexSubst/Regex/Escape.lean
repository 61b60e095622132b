import RegexSubst.Regex.Reader
import RegexSubst.Text.Surrogate
import RegexSubst.Unicode.Name.Code

/-!
# `RegexSubst.Regex.Escape`: escapes of a regex

An escape is a backslash with a character, and for some characters what follows. Outside of a set it
may be an anchor or a reference to a group, inside a set `\b` is the backspace and digits are octal.

* `Reader.escape` reads the rest of an escape outside of a set.
* `Reader.setEscape` reads the rest of an escape inside a set.
-/

set_option autoImplicit false

namespace RegexSubst.Regex

/-- Escapes of control characters, the same everywhere. -/
def controlEscapes : List (CodePoint × CodePoint) :=
  [('a', '\x07'), ('b', '\x08'), ('f', '\x0c'), ('n', '\n'), ('r', '\r'), ('t', '\t'),
    ('v', '\x0b'), ('\\', '\\')]

/-- Escapes of classes, with whether the class is negated. -/
def classEscapes : List (CodePoint × Category × Bool) :=
  [('d', .digit, false), ('D', .digit, true), ('s', .space, false), ('S', .space, true),
    ('w', .word, false), ('W', .word, true)]

/-- Escapes of anchors. -/
def anchorEscapes : List (CodePoint × Anchor) :=
  [('A', .textStart), ('b', .wordBoundary), ('B', .notWordBoundary), ('Z', .textEnd)]

/-- The digits `0` to `7`. -/
def isOctalDigit (c : CodePoint) : Bool :=
  0x30 ≤ c.val && c.val ≤ 0x37

/-- The value of a text of octal digits. -/
def octalValue (digits : Text) : Nat :=
  digits.foldl (fun value c => 8 * value + (c.val - 0x30)) 0

/-- The number of hex digits after the letter of an escape by number. -/
def hexEscapeLength? (c : CodePoint) : Option Nat :=
  if c = 'x' then some 2 else if c = 'u' then some 4 else if c = 'U' then some 8 else none

/-- An escape as it is written: the backslash, the character and what was read after it. -/
def escapeText (c : CodePoint) (rest : Text) : Text :=
  '\\' :: c :: rest

namespace Reader

/-- Reports a bad escape, at its backslash. -/
def badEscape {α : Type} (c : CodePoint) (rest : Text) : Reader α :=
  fail (.badEscape (escapeText c rest)) (escapeText c rest).length

/-- The code point that an escape stands for by its number. A number that is no machine integer is
refused in a way of its own. -/
def numbered (n : Nat) (c : CodePoint) (rest : Text) : Reader CodePoint :=
  match CodePoint.ofNat? n with
  | some d => return d
  | none => if machineLimit ≤ n then refuse .integerTooLarge else badEscape c rest

/-- Reads the hex digits of an escape by number, `length` of them. -/
def hexEscape (c : CodePoint) (length : Nat) : Reader CodePoint := do
  let digits ← readWhile length CodePoint.isHexDigit
  if digits.length = length then numbered (Text.hexValue digits) c digits
  else fail (.incompleteEscape (escapeText c digits)) (escapeText c digits).length

/-- Reads an escape by the name of a character. A name with a surrogate is not even looked up. -/
def namedEscape : Reader CodePoint := do
  unless ← accept '\x7b' do fail .missingBrace 0
  let name ← readName '\x7d' "character name"
  match name.toString? with
  | none => badEscape 'N' []
  | some string =>
    match (Unicode.codeOfName? string).bind CodePoint.ofNat? with
    | some c => return c
    | none => fail (.unknownCharacter name) (name.length + 4)

/-- The code point of an octal escape with the digits `c` and `rest`. -/
def octalEscape (c : CodePoint) (rest : Text) : Reader CodePoint :=
  let value := octalValue (c :: rest)
  if 0o377 < value then fail (.octalRange (escapeText c rest)) (escapeText c rest).length
  else numbered value c rest

/-- The escapes that mean the same everywhere, from the character `c` on: by number, by name, or a
character that stands for itself. -/
def plainEscape (c : CodePoint) : Reader CodePoint :=
  match hexEscapeLength? c with
  | some length => hexEscape c length
  | none =>
    if c = 'N' then namedEscape
    else if c.isAsciiLetter || c.isDigit then badEscape c []
    else return c

/-- Refers to the group whose number is written by the digits `c` and `rest`. -/
def numberedReference (c : CodePoint) (rest : Text) : Reader Node := do
  let number := Text.decimalValue (c :: rest)
  if (← get).groups.count < number then fail (.groupReference number) (c :: rest).length
  else reference number (escapeText c rest).length

/-- Reads an escape that begins with a digit other than zero: three octal digits are a character,
anything else refers to a group by one or two digits. -/
def digitEscape (c : CodePoint) : Reader Node := do
  let second ← readWhile 1 CodePoint.isDigit
  if isOctalDigit c && second ≠ [] && second.all isOctalDigit then
    let third ← readWhile 1 isOctalDigit
    if third.isEmpty then numberedReference c second
    else return .literal (← octalEscape c (second ++ third))
  else numberedReference c second

/-- The rest of the escape with character `c`, outside of a set. -/
def escape (c : CodePoint) : Reader Node := do
  match classEscapes.lookup c, anchorEscapes.lookup c, controlEscapes.lookup c with
  | some (category, negated), _, _ => return .set ⟨false, [.category category negated]⟩
  | none, some a, _ => return .anchor a
  | none, none, some d => return .literal d
  | none, none, none =>
    if c = '0' then
      let digits ← readWhile 2 isOctalDigit
      return .literal (← octalEscape c digits)
    else if c.isDigit then digitEscape c
    else return .literal (← plainEscape c)

/-- The rest of the escape with character `c`, inside a set. -/
def setEscape (c : CodePoint) : Reader SetItem := do
  match controlEscapes.lookup c, classEscapes.lookup c with
  | some d, _ => return .single d
  | none, some (category, negated) => return .category category negated
  | none, none =>
    if isOctalDigit c then
      let digits ← readWhile 2 isOctalDigit
      return .single (← octalEscape c digits)
    else return .single (← plainEscape c)

end Reader

end RegexSubst.Regex
