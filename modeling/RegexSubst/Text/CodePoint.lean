/-!
# `RegexSubst.Text.CodePoint`: code points and texts

A text is a list of code points, and a code point is any number below 0x110000. Surrogates are code
points like all others: a text may hold a lone one, or a high one followed by a low one that have
not been joined.

* `CodePoint.ofChar` embeds the characters (everything but the surrogates); `CodePoint.toChar?` is
  its inverse.
* `Text.ofString` and the coercions let literals be written as characters and strings.
-/

set_option autoImplicit false

namespace RegexSubst

/-- A Unicode code point, surrogates included. -/
structure CodePoint where
  val : Nat
  isLt : val < 0x110000
deriving DecidableEq

namespace CodePoint

/-- Code points with the same number are the same. -/
theorem val_injective {c d : CodePoint} (h : c.val = d.val) : c = d := by
  cases c; cases d; cases h; rfl

/-- The code point with number `n`, if there is one. -/
def ofNat? (n : Nat) : Option CodePoint :=
  if h : n < 0x110000 then some ⟨n, h⟩ else none

/-- The code point of a character. -/
def ofChar (c : Char) : CodePoint :=
  ⟨c.toNat, by
    have h := c.valid
    simp only [UInt32.isValidChar, Nat.isValidChar] at h
    show c.val.toNat < 0x110000
    omega⟩

instance : Coe Char CodePoint := ⟨ofChar⟩

/-- The character with this code point; surrogates have none. -/
def toChar? (c : CodePoint) : Option Char :=
  if h : c.val.isValidChar then some (Char.ofNatAux c.val h) else none

/-- The digits `0` to `9`. -/
def isDigit (c : CodePoint) : Bool :=
  0x30 ≤ c.val && c.val ≤ 0x39

/-- The letters `a` to `z` and `A` to `Z`. -/
def isAsciiLetter (c : CodePoint) : Bool :=
  (0x41 ≤ c.val && c.val ≤ 0x5A) || (0x61 ≤ c.val && c.val ≤ 0x7A)

end CodePoint

/-- A text is a list of code points; its indices and its length count code points. -/
abbrev Text := List CodePoint

namespace Text

/-- The code points of a string. -/
def ofString (s : String) : Text :=
  s.toList.map CodePoint.ofChar

instance : Coe String Text := ⟨ofString⟩

/-- The string of a text that holds no surrogate. -/
def toString? (t : Text) : Option String :=
  (t.mapM CodePoint.toChar?).map String.ofList

/-- Lexicographic order by code points. -/
def le : Text → Text → Bool
  | [], _ => true
  | _ :: _, [] => false
  | c :: s, d :: t => c.val < d.val || (c.val = d.val && le s t)

/-- The texts one after another, with `separator` between them. -/
def joinWith (separator : Text) : List Text → Text
  | [] => []
  | [t] => t
  | t :: rest => t ++ separator ++ joinWith separator rest

end Text

end RegexSubst
