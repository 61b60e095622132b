import RegexSubst.Regex.Alternation
import RegexSubst.Regex.FlagReader
import RegexSubst.Regex.Quantifier
import RegexSubst.Regex.SetReader

/-!
# `RegexSubst.Regex.Parser`: from the text of a regex to its tree

A regex is a list of alternatives, an alternative a list of items, and an item may hold regexes in
parentheses. The readers for what stands in parentheses are made level by level: those of one level
use those of the level below, and there are as many levels as lexemes, so the lowest one is never
used.

* `parse` gives the tree of a regex with its groups and flags, or the first thing that is wrong.
-/

set_option autoImplicit false

namespace RegexSubst.Regex

/-- The readers for what stands in parentheses. Each takes whether white space is skipped. -/
structure Level where
  /-- All alternatives. -/
  alternatives : Bool → Reader Node
  /-- One alternative. -/
  alternative : Bool → Reader Node

/-- What is read after an opening parenthesis. -/
inductive Parenthesized
  /-- An item of the alternative. -/
  | item (node : Node)
  /-- A comment. -/
  | comment
  /-- Flags for the whole regex, opened at a position. -/
  | globalFlags (start : Nat)

namespace Reader

/-- Reads the closing parenthesis of what was opened at `start`. -/
def close (start : Nat) : Reader Unit := do
  unless ← accept ')' do failAt .unterminatedSubpattern start

/-- Refuses a name that is not an identifier; the name ended just before the last character. -/
def checkName (name : Text) : Reader Unit :=
  unless isIdentifier name do fail (.nameCharacter name) (name.length + 1)

/-- The group with a name; the name ended just before the last character. -/
def namedGroup (name : Text) : Reader Nat := do
  match (← get).groups.number? name with
  | some number => return number
  | none => fail (.unknownName name) (name.length + 1)

/-- Opens a group without a name and returns its number. -/
def openUnnamed : Reader Nat := do
  modify fun s => { s with groups := s.groups.addUnnamed }
  return (← get).groups.count

/-- Opens a group with a name and returns its number. -/
def openNamed (name : Text) : Reader Nat := do
  if h : isIdentifier name = true then
    let groups := (← get).groups
    match groups.number? name with
    | some earlier => fail (.redefinition name (groups.count + 1) earlier) (name.length + 1)
    | none =>
      modify fun s => { s with groups := groups.addNamed name h }
      return groups.count + 1
  else fail (.nameCharacter name) (name.length + 1)

/-- Reads the body of group `index` up to the closing parenthesis. -/
def captureGroup (inner : Level) (verbose : Bool) (start index : Nat) : Reader Parenthesized := do
  let body ← inner.alternatives verbose
  close start
  let width ← widthOf body
  modify fun s => { s with complete := (index, width) :: s.complete }
  return .item (.group index body)

/-- Reads the body of a group that captures nothing. -/
def plainGroup (inner : Level) (verbose : Bool) (start : Nat) (change : FlagChange) :
    Reader Parenthesized := do
  let verbose := (verbose || change.on.has .verbose) && !change.off.has .verbose
  let body ← inner.alternatives verbose
  close start
  return .item (.scoped change body)

/-- Reads the body of an atomic group. -/
def atomicGroup (inner : Level) (verbose : Bool) (start : Nat) : Reader Parenthesized := do
  let body ← inner.alternatives verbose
  close start
  return .item (.atomic body)

/-- Reads the body of a look-ahead. -/
def lookAhead (inner : Level) (verbose : Bool) (start : Nat) (positive : Bool) :
    Reader Parenthesized := do
  let body ← inner.alternatives verbose
  close start
  return .item (.look .ahead positive body)

/-- Reads the body of a look-behind. In it, only groups opened before the outermost look-behind may
be referred to. -/
def lookBehind (inner : Level) (verbose : Bool) (start : Nat) (positive : Bool) :
    Reader Parenthesized := do
  let outer := (← get).beforeLookBehind
  modify fun s => { s with beforeLookBehind := some (outer.getD s.groups.count) }
  let body ← inner.alternatives verbose
  modify fun s => { s with beforeLookBehind := outer }
  close start
  let width ← widthOf body
  return .item (.look (.behind width) positive body)

/-- Reads what follows `(?<`. -/
def lookBehindHead (inner : Level) (verbose : Bool) (start : Nat) : Reader Parenthesized := do
  match ← next? with
  | none => fail .unexpectedEnd 0
  | some l =>
    if l.is '=' then lookBehind inner verbose start true
    else if l.is '!' then lookBehind inner verbose start false
    else fail (.unknownExtension ("<" ++ l.text)) (l.text.length + 2)

/-- Reads what follows `(?P`: a named group or a reference to one. -/
def namedHead (inner : Level) (verbose : Bool) (start : Nat) : Reader Parenthesized := do
  if ← accept '<' then
    let name ← readName '>' "group name"
    checkName name
    captureGroup inner verbose start (← openNamed name)
  else if ← accept '=' then
    let name ← readName ')' "group name"
    checkName name
    return .item (← reference (← namedGroup name) (name.length + 1))
  else
    match ← next? with
    | none => fail .unexpectedEnd 0
    | some l => fail (.unknownExtension ("P" ++ l.text)) (l.text.length + 2)

/-- Reads a comment after `(?#`. -/
def comment (start : Nat) : Reader Parenthesized := do
  let (_, found) ← readUntil ')'
  unless found do failAt .unterminatedComment start
  return .comment

/-- The least number that is too large for a group. -/
def groupLimit : Nat := 1073741823

/-- The group that a condition names by number; the text ended just before the last character. -/
def conditionNumber (name : Text) : Reader Nat := do
  match Numeral.readInt 10 name with
  | .error _ => fail (.nameCharacter name) (name.length + 1)
  | .ok n =>
    if n < 0 then fail (.nameCharacter name) (name.length + 1)
    let number := n.toNat
    if number = 0 then fail .groupNumber (name.length + 1)
    if groupLimit ≤ number then fail (.groupReference number) (name.length + 1)
    modify fun s =>
      if (s.conditions.lookup number).isSome then s
      else { s with conditions := s.conditions ++ [(number, s.position - name.length - 1)] }
    return number

/-- Reads a condition and its branches after `(?(`. -/
def conditional (inner : Level) (verbose : Bool) (start : Nat) : Reader Parenthesized := do
  let name ← readName ')' "group name"
  let number ← if isIdentifier name then namedGroup name else conditionNumber name
  checkLookBehind number
  let yes ← inner.alternative verbose
  let no ← do
    if ← accept '|' then
      let no ← inner.alternative verbose
      if ← sees '|' then fail .conditionBranches 0
      pure no
    else pure .empty
  close start
  return .item (.conditional number yes no)

/-- Reads what follows `(?`. -/
def extension (inner : Level) (verbose : Bool) (start : Nat) : Reader Parenthesized := do
  match ← next? with
  | none => fail .unexpectedEnd 0
  | some l =>
    if l.is 'P' then namedHead inner verbose start
    else if l.is ':' then plainGroup inner verbose start .none
    else if l.is '#' then comment start
    else if l.is '=' then lookAhead inner verbose start true
    else if l.is '!' then lookAhead inner verbose start false
    else if l.is '<' then lookBehindHead inner verbose start
    else if l.is '(' then conditional inner verbose start
    else if l.is '>' then atomicGroup inner verbose start
    else if (flagOf? l).isSome || l.is '-' then
      match ← flagChange l with
      | some change => plainGroup inner verbose start change
      | none => return .globalFlags start
    else fail (.unknownExtension l.text) (l.text.length + 1)

/-- Reads what follows an opening parenthesis. -/
def parenthesized (inner : Level) (verbose : Bool) : Reader Parenthesized := do
  let start := (← get).position - 1
  if ← accept '?' then extension inner verbose start
  else captureGroup inner verbose start (← openUnnamed)

/-- White space that is skipped in a verbose regex. -/
def isSkipped (c : CodePoint) : Bool :=
  c.val = 0x20 || (0x9 ≤ c.val && c.val ≤ 0xD)

/-- Characters that begin a quantifier. -/
def isQuantifier (c : CodePoint) : Bool :=
  c = '*' || c = '+' || c = '?' || c = '\x7b'

/-- Reads the items of an alternative. The items read so far are given last one first. Flags for the
whole regex may stand only before all items of the first alternative. Every round reads a lexeme. -/
def items (inner : Level) (isFirst : Bool) :
    (rounds : Nat) → (verbose : Bool) → List Node → Reader (List Node)
  | 0, _, read => return read
  | rounds + 1, verbose, read => do
    match ← peek with
    | none => return read
    | some l =>
      if l.is '|' || l.is ')' then return read
      skip 1
      match l with
      | .escape c => items inner isFirst rounds verbose ((← escape c) :: read)
      | .char c =>
        if verbose && isSkipped c then items inner isFirst rounds verbose read
        else if verbose && c = '#' then
          let _ ← readUntil '\n'
          items inner isFirst rounds verbose read
        else if c = '[' then items inner isFirst rounds verbose ((← set) :: read)
        else if isQuantifier c then
          let start := (← get).position - 1
          match ← bounds? c with
          | some bounds =>
            items inner isFirst rounds verbose (← applyQuantifier start bounds read)
          | none => items inner isFirst rounds verbose (.literal c :: read)
        else if c = '.' then items inner isFirst rounds verbose (.any :: read)
        else if c = '^' then items inner isFirst rounds verbose (.anchor .lineStart :: read)
        else if c = '$' then items inner isFirst rounds verbose (.anchor .lineEnd :: read)
        else if c = '(' then
          match ← parenthesized inner verbose with
          | .item node => items inner isFirst rounds verbose (node :: read)
          | .comment => items inner isFirst rounds verbose read
          | .globalFlags start =>
            if !isFirst || !read.isEmpty then failAt .flagsNotFirst start
            items inner isFirst rounds ((← get).flags.has .verbose) read
        else items inner isFirst rounds verbose (.literal c :: read)

/-- Reads the items of one alternative. -/
def alternative (inner : Level) (isFirst verbose : Bool) : Reader (List Node) := do
  let read ← items inner isFirst ((← remaining) + 1) verbose []
  return spliceGroups read.reverse

/-- Reads the alternatives after the first one, each after a bar. `isVerbose` tells whether white
space is skipped in the next one. -/
def moreAlternatives (inner : Level) (isVerbose : Reader Bool) :
    (rounds : Nat) → Reader (List (List Node))
  | 0 => return []
  | rounds + 1 => do
    if ← accept '|' then
      let next ← alternative inner false (← isVerbose)
      return next :: (← moreAlternatives inner isVerbose rounds)
    else return []

/-- Reads alternatives; `isTop` tells whether they are the whole regex. -/
def alternatives (inner : Level) (isTop verbose : Bool) : Reader Node := do
  let first ← alternative inner isTop verbose
  let isVerbose := do
    if isTop then return (← get).flags.has .verbose else return verbose
  return .ofAlternatives first (← moreAlternatives inner isVerbose ((← remaining) + 1))

end Reader

/-- The readers with `n` levels below them. -/
def Level.ofDepth : Nat → Level
  | 0 => ⟨fun _ => return .empty, fun _ => return .empty⟩
  | n + 1 =>
    let inner := ofDepth n
    ⟨Reader.alternatives inner false, fun verbose => do
      return .ofList (← Reader.alternative inner false verbose)⟩

/-- A regex that has been read. -/
structure Parsed where
  root : Node
  width : Width
  groups : GroupTable
  flags : Flags

/-- Adds the choice of all of Unicode where no other one has been made, and refuses two choices. -/
def settleFlags (flags : Flags) : Except CompileFault Flags :=
  if flags.has .locale then .error .localeFlag
  else if flags.has .ascii then
    if flags.has .unicode then .error .asciiAndUnicode else .ok flags
  else .ok (flags.insert .unicode)

namespace Reader

/-- Reads a whole regex. -/
def whole : Reader Parsed := do
  checkEnd
  let depth ← remaining
  let root ← alternatives (Level.ofDepth depth) true ((← get).flags.has .verbose)
  let s ← get
  let flags ←
    match settleFlags s.flags with
    | .ok flags => pure flags
    | .error fault => refuse fault
  unless s.rest.isEmpty do fail .unbalancedParenthesis 0
  match s.conditions.find? fun c => s.groups.count < c.1 with
  | some (number, position) => failAt (.groupReference number) position
  | none => return ⟨root, ← widthOf root, s.groups, flags⟩

end Reader

/-- The tree of the regex `pattern` under `flags`. -/
def parse (pattern : Text) (flags : Flags) : Except Refusal Parsed :=
  let (lexemes, dangling) := Lexeme.ofText pattern
  let start : ReadState :=
    { rest := lexemes
      dangling := dangling
      position := 0
      flags := flags
      groups := .empty
      complete := []
      beforeLookBehind := none
      conditions := [] }
  Reader.whole.run' start

end RegexSubst.Regex
