import RegexSubst.Text.Quoted
import RegexSubst.Unicode.Blank
import RegexSubst.Unicode.DecimalDigit

/-!
# `RegexSubst.Text.Numeral`: reading integers

An integer is written as digits of any script with an optional sign, blanks around it, and single
underscores between digits. Decimal numerals of more than `digitLimit` digits are refused, leading
zeros counted.

* `Numeral.readInt` reads an integer in a given base.
* `Numeral.limitMessage` and `Numeral.malformedMessage` say why a numeral is refused.
-/

set_option autoImplicit false

namespace RegexSubst.Numeral

/-- The largest number of digits of a decimal numeral that is read. -/
def digitLimit : Nat := 4300

/-- Why a text is not read as an integer. -/
inductive ReadError
  | malformed
  | tooLong (digits : Nat)
deriving DecidableEq

/-- Blanks around a numeral. Below U+007F only the space and the controls from tab to carriage
return count. -/
def isBlank (c : CodePoint) : Bool :=
  if c.val < 0x7F then c.val = 0x20 || (0x9 ≤ c.val && c.val ≤ 0xD)
  else Unicode.blank.contains c.val

/-- The value of a digit, below U+007F a hex digit, above it a decimal digit of any script. -/
def digit? (c : CodePoint) : Option Nat :=
  if c.val < 0x7F then
    if 0x61 ≤ c.val && c.val ≤ 0x7A then some (c.val - 0x61 + 10)
    else if 0x41 ≤ c.val && c.val ≤ 0x5A then some (c.val - 0x41 + 10)
    else if c.isDigit then some (c.val - 0x30)
    else none
  else Unicode.decimalDigit? c.val

/-- The digits of `t` below `base`, most significant first: digits with single underscores between
them. -/
def digits? (base : Nat) : Text → Option (List Nat)
  | [] => none
  | c :: rest =>
    match digit? c with
    | none => none
    | some d =>
      if base ≤ d then none
      else
        match rest with
        | [] => some [d]
        | u :: rest' =>
          if u = '_' then (digits? base rest').map (d :: ·)
          else (digits? base (u :: rest')).map (d :: ·)

/-- The text without blanks at either end. -/
def trim (t : Text) : Text :=
  ((t.dropWhile isBlank).reverse.dropWhile isBlank).reverse

/-- The sign in front of a numeral and what follows it. -/
def splitSign : Text → Bool × Text
  | [] => (false, [])
  | c :: rest =>
    if c = '-' then (true, rest) else if c = '+' then (false, rest) else (false, c :: rest)

/-- The value of digits in a base, most significant first. -/
def ofDigits (base : Nat) (digits : List Nat) : Nat :=
  digits.foldl (fun value d => base * value + d) 0

/-- Reads an integer in base `base`. Only decimal numerals have a limit on their length, because the
other bases in use are powers of two. -/
def readInt (base : Nat) (t : Text) : Except ReadError Int :=
  let (negative, body) := splitSign (trim t)
  match digits? base body with
  | none => .error .malformed
  | some ds =>
    if base = 10 && digitLimit < ds.length then .error (.tooLong ds.length)
    else .ok (if negative then -(ofDigits base ds : Int) else ofDigits base ds)

/-- The wording for a decimal numeral with too many digits. -/
def limitMessage (digits : Nat) : Text :=
  "Exceeds the limit (" ++ Text.ofNat digitLimit
    ++ " digits) for integer string conversion: value has " ++ Text.ofNat digits
    ++ " digits; use sys.set_int_max_str_digits() to increase the limit"

/-- The wording for a text that is not an integer in a base. -/
def malformedMessage (base : Nat) (literal : Text) : Text :=
  "invalid literal for int() with base " ++ Text.ofNat base ++ ": " ++ literal.quoted

end RegexSubst.Numeral
