import RegexSubst.Regex.Groups
import RegexSubst.Regex.SyntaxError

/-!
# `RegexSubst.Regex.Reader`: reading the text of a regex

A regex is read as a sequence of lexemes: a character, or a backslash with the character after it. A
backslash at the very end is an error as soon as everything before it has been read.

* `ReadState` is the rest of the regex with all that has been learned so far: the flags, the groups,
  which groups are complete, and where conditions refer to groups by number.
* `peek`, `next?` and `accept` read lexemes one by one; `readWhile` and `readUntil` read several.
* `fail` reports an error some characters before the current position.
-/

set_option autoImplicit false

namespace RegexSubst.Regex

/-- A unit of reading. -/
inductive Lexeme
  | char (c : CodePoint)
  /-- A backslash and the character after it. -/
  | escape (c : CodePoint)
deriving DecidableEq

namespace Lexeme

/-- A lexeme as it stands in the pattern. -/
def text : Lexeme → Text
  | .char c => [c]
  | .escape c => ['\\', c]

/-- Cuts a text into lexemes; the second component tells whether a backslash is left over. -/
def ofText : Text → List Lexeme × Bool
  | [] => ([], false)
  | [c] => if c = '\\' then ([], true) else ([.char c], false)
  | c :: d :: rest =>
    if c = '\\' then
      let (lexemes, dangling) := ofText rest
      (.escape d :: lexemes, dangling)
    else
      let (lexemes, dangling) := ofText (d :: rest)
      (.char c :: lexemes, dangling)

/-- Whether the lexeme is the character `c` itself. -/
def is (l : Lexeme) (c : CodePoint) : Bool :=
  l = .char c

/-- Whether the lexeme is a character with property `p`. -/
def satisfies (l : Lexeme) (p : CodePoint → Bool) : Bool :=
  match l with
  | .char c => p c
  | .escape _ => false

/-- The text of several lexemes. -/
def textOf (lexemes : List Lexeme) : Text :=
  lexemes.flatMap text

end Lexeme

/-- The rest of a regex, and what has been learned from the part before it. -/
structure ReadState where
  /-- What is left to read. -/
  rest : List Lexeme
  /-- Whether a backslash follows the last lexeme. -/
  dangling : Bool
  /-- The number of characters before the rest. -/
  position : Nat
  /-- The flags of the whole regex. -/
  flags : Flags
  groups : GroupTable
  /-- The widths of the groups that are complete. -/
  complete : List (Nat × Width)
  /-- Inside a look-behind, the number of groups that were opened before it. -/
  beforeLookBehind : Option Nat
  /-- The groups that conditions refer to by number, with the position of the first reference. -/
  conditions : List (Nat × Nat)

/-- Why reading stops early. -/
inductive Refusal
  | syntaxError (e : SyntaxError)
  | fault (f : CompileFault)

/-- A reader of a part of a regex. -/
abbrev Reader := StateT ReadState (Except Refusal)

namespace Reader

/-- Reports `cause` at the position `back` characters before the current one. -/
def fail {α : Type} (cause : Cause) (back : Nat) : Reader α := do
  throw (.syntaxError ⟨cause, some ((← get).position - back)⟩)

/-- Reports `cause` at a position. -/
def failAt {α : Type} (cause : Cause) (position : Nat) : Reader α :=
  throw (.syntaxError ⟨cause, some position⟩)

/-- Refuses the regex. -/
def refuse {α : Type} (fault : CompileFault) : Reader α :=
  throw (.fault fault)

/-- Refuses a backslash with nothing after it, once it is all that is left. -/
def checkEnd : Reader Unit := do
  let s ← get
  if s.rest.isEmpty && s.dangling then failAt .danglingEscape s.position

/-- Reads `n` lexemes, or all that are left. -/
def skip (n : Nat) : Reader Unit := do
  let s ← get
  set { s with
    rest := s.rest.drop n
    position := s.position + (Lexeme.textOf (s.rest.take n)).length }
  checkEnd

/-- The next lexeme, without reading it. -/
def peek : Reader (Option Lexeme) := do
  return (← get).rest.head?

/-- Reads the next lexeme, if there is one. -/
def next? : Reader (Option Lexeme) := do
  let l ← peek
  if l.isSome then skip 1
  return l

/-- Whether the character `c` comes next, without reading it. -/
def sees (c : CodePoint) : Reader Bool := do
  return (← peek).any (·.is c)

/-- Reads the character `c` if it comes next. -/
def accept (c : CodePoint) : Reader Bool := do
  if ← sees c then
    skip 1
    return true
  else return false

/-- Reads the characters with property `p` that come next, at most `limit` of them. -/
def readWhile (limit : Nat) (p : CodePoint → Bool) : Reader Text := do
  let found := ((← get).rest.takeWhile (·.satisfies p)).take limit
  unless found.isEmpty do skip found.length
  return Lexeme.textOf found

/-- The number of lexemes that are left. -/
def remaining : Reader Nat := do
  return (← get).rest.length

/-- Reads up to and including the character `c`. The text before it, or everything that was left if
`c` does not come. -/
def readUntil (c : CodePoint) : Reader (Text × Bool) := do
  let rest := (← get).rest
  let before := rest.takeWhile fun l => !l.is c
  let found := before.length < rest.length
  skip (before.length + 1)
  return (Lexeme.textOf before, found)

/-- Reads a name that ends with `closing`. -/
def readName (closing : CodePoint) (what : Text) : Reader Text := do
  let (name, found) ← readUntil closing
  if name.isEmpty then
    fail (.missingName what) (if found then 1 else 0)
  else if !found then fail (.unterminatedName closing) name.length
  else return name

/-- Whether group `number` is complete. -/
def isComplete (number : Nat) : Reader Bool := do
  return ((← get).complete.lookup number).isSome

/-- The width of a part, by the groups that are complete. -/
def widthOf (node : Node) : Reader Width := do
  let complete := (← get).complete
  return node.width fun number => (complete.lookup number).getD ⟨0, 0⟩

/-- Inside a look-behind, refuses a group that is opened in it. -/
def checkLookBehind (number : Nat) : Reader Unit := do
  match (← get).beforeLookBehind with
  | none => return
  | some count =>
    unless ← isComplete number do fail .openGroup 0
    if count < number then fail .sameLookBehind 0

/-- Refers to group `number`; an error is reported `back` characters before the current position. -/
def reference (number back : Nat) : Reader Node := do
  unless ← isComplete number do fail .openGroup back
  checkLookBehind number
  return .backref number

end Reader

end RegexSubst.Regex
