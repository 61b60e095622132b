import RegexSubst.Regex.CharSet

/-!
# `RegexSubst.Regex.Syntax`: regexes as trees

* `Node` is a part of a regex. Flags that only a part has stay in the tree, because the flags of the
  whole are known only at its end.
* `Width` counts the characters that a part can match; a look-behind needs a part whose least and
  greatest count agree.
-/

set_option autoImplicit false

namespace RegexSubst.Regex

/-- Conditions on a position. -/
inductive Anchor
  /-- `^`: the start of the text, or of a line. -/
  | lineStart
  /-- `$`: the end of the text, or of a line, or before a line feed at the end of the text. -/
  | lineEnd
  /-- `\A`: the start of the text. -/
  | textStart
  /-- `\Z`: the end of the text. -/
  | textEnd
  /-- `\b`: between a word character and another one. -/
  | wordBoundary
  /-- `\B`: not at a word boundary. -/
  | notWordBoundary
deriving DecidableEq

/-- In which order a repeat tries its counts. -/
inductive Greed
  /-- As many as possible first. -/
  | greedy
  /-- As few as possible first. -/
  | lazy
  /-- As many as possible, and no other count. -/
  | possessive
deriving DecidableEq

/-- The largest count of a width or a repeat; in a width it means "without a limit". -/
def countLimit : Nat := 4294967295

/-- The least and the greatest number of characters that a part matches. -/
structure Width where
  least : Nat
  greatest : Nat
deriving DecidableEq

namespace Width

/-- A width with its counts cut at the limit. -/
def clip (least greatest : Nat) : Width :=
  ⟨min least (countLimit - 1), min greatest countLimit⟩

/-- One part after another. -/
def append (a b : Width) : Width :=
  clip (a.least + b.least) (a.greatest + b.greatest)

/-- One of two parts. -/
def either (a b : Width) : Width :=
  clip (min a.least b.least) (max a.greatest b.greatest)

/-- A part `least` to `greatest` times. -/
def times (a : Width) (least : Nat) (greatest : Option Nat) : Width :=
  clip (a.least * least) (a.greatest * greatest.getD countLimit)

end Width

/-- Where a look-around matches its body. -/
inductive Direction
  | ahead
  /-- Behind the position; the width of the body is that of the stretch to look at. -/
  | behind (width : Width)
deriving DecidableEq

/-- A part of a regex. -/
inductive Node
  /-- Matches the empty text. -/
  | empty
  /-- A character that stands for itself. -/
  | literal (c : CodePoint)
  /-- Any character, or any but the line feed. -/
  | any
  | set (s : CharSet)
  | anchor (a : Anchor)
  /-- The text that a group has captured. -/
  | backref (group : Nat)
  | seq (first second : Node)
  /-- The first of two alternatives, else the second. -/
  | alt (first second : Node)
  /-- A group that captures what its body matches. -/
  | group (index : Nat) (body : Node)
  /-- A group that captures nothing and may change flags. -/
  | scoped (change : FlagChange) (body : Node)
  /-- The first way in which the body matches, and no other. -/
  | atomic (body : Node)
  | repeat (least : Nat) (greatest : Option Nat) (greed : Greed) (body : Node)
  | look (direction : Direction) (positive : Bool) (body : Node)
  /-- One of two parts, depending on whether a group has captured anything. -/
  | conditional (group : Nat) (yes no : Node)
deriving DecidableEq

/-- The width of a part, from the widths of the groups that are complete. -/
def Node.width (groups : Nat → Width) : Node → Width
  | .empty | .anchor _ | .look _ _ _ => ⟨0, 0⟩
  | .literal _ | .any | .set _ => ⟨1, 1⟩
  | .backref number => groups number
  | .seq first second => (first.width groups).append (second.width groups)
  | .alt first second | .conditional _ first second =>
    (first.width groups).either (second.width groups)
  | .group _ body | .scoped _ body | .atomic body => body.width groups
  | .repeat least greatest _ body => (body.width groups).times least greatest

/-- The parts one after another. -/
def Node.ofList (nodes : List Node) : Node :=
  nodes.foldr .seq .empty

/-- Whether some look-behind looks at a stretch whose length is no machine integer. -/
def Node.hasWideLookBehind : Node → Bool
  | .look (.behind width) _ body => machineLimit ≤ width.least || body.hasWideLookBehind
  | .look .ahead _ body => body.hasWideLookBehind
  | .seq first second | .alt first second | .conditional _ first second =>
    first.hasWideLookBehind || second.hasWideLookBehind
  | .group _ body | .scoped _ body | .atomic body | .repeat _ _ _ body => body.hasWideLookBehind
  | _ => false

end RegexSubst.Regex
