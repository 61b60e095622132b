import RegexSubst.Regex.Escape

/-!
# `RegexSubst.Regex.SetReader`: reading a set of characters

A set stands in square brackets. A leading `^` negates it, a closing bracket that comes first is a
member, and two members with a hyphen between them are a range.

* `Reader.set` reads a set after its opening bracket.
-/

set_option autoImplicit false

namespace RegexSubst.Regex.Reader

/-- The member of a set that begins with a lexeme. -/
def setItem : Lexeme → Reader SetItem
  | .escape c => setEscape c
  | .char c => return .single c

/-- The range between two members, which must be single characters in order. The lexemes that they
began with name them in an error. -/
def setRange (first last : Lexeme) (a b : SetItem) : Reader SetItem :=
  let refuse : Reader SetItem :=
    fail (.characterRange first.text last.text) (first.text.length + 1 + last.text.length)
  match a, b with
  | .single lo, .single hi => if hi.val < lo.val then refuse else return .range lo hi
  | _, _ => refuse

/-- Reads the members of the set that was opened at `start`, up to the closing bracket. Every round
reads a lexeme, so as many rounds as there are lexemes are enough. -/
def setItems (start : Nat) : (rounds : Nat) → List SetItem → Reader (List SetItem)
  | 0, _ => failAt .unterminatedSet start
  | rounds + 1, items => do
    match ← next? with
    | none => failAt .unterminatedSet start
    | some first =>
      if first.is ']' && !items.isEmpty then return items.reverse
      let a ← setItem first
      if ← accept '-' then
        match ← next? with
        | none => failAt .unterminatedSet start
        | some last =>
          -- A hyphen before the closing bracket is a member.
          if last.is ']' then return (.single '-' :: a :: items).reverse
          let b ← setItem last
          setItems start rounds ((← setRange first last a b) :: items)
      else setItems start rounds (a :: items)

/-- Reads a set whose opening bracket has just been read. Members that come again are dropped, and a
set of one character is that character. -/
def set : Reader Node := do
  let start := (← get).position - 1
  let negated ← accept '^'
  let items ← setItems start ((← remaining) + 1) []
  match negated, items.eraseDups with
  | false, [.single c] => return .literal c
  | negated, items => return .set ⟨negated, items⟩

end RegexSubst.Regex.Reader
