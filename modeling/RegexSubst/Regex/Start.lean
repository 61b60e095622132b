import RegexSubst.Regex.Plan

/-!
# `RegexSubst.Regex.Start`: what a match begins with

A search can pass over places where no match begins. It knows the places from the first items of the
regex.

* `leadingSet?` is a set that is consulted before a match is tried. In it the classes are those of
  the whole regex, even if it stands in a group that chooses others.
* `Node.isListed` tells whether the first items list the characters with which a match can begin.
-/

set_option autoImplicit false

namespace RegexSubst.Regex

/-- The set with which a part begins, in groups or not, and the flags in force there. -/
def Node.firstSet? (flags : Flags) : Node → Option (CharSet × Flags)
  | .set s => some (s, flags)
  | .seq first _ => first.firstSet? flags
  | .group _ body => body.firstSet? flags
  | .scoped change body => body.firstSet? (change.apply flags)
  | _ => none

/-- A set that has to hold the first character of a match. It tells more than the match itself only
if it stands in a group with classes other than those of the whole regex. A set with letters in it
is not consulted if case is ignored. -/
def leadingSet? (root : Node) (flags : Flags) : Option CharSet := do
  let (s, inner) ← root.firstSet? flags
  guard (inner.has .ascii ≠ flags.has .ascii)
  guard !(inner.has .ignoreCase && s.items.any (·.hasCase (inner.has .ascii)))
  return s

/-- What the text of a part begins with. -/
inductive Start
  /-- The text is always empty. -/
  | nothing
  /-- A character that is compared as it is. -/
  | literal
  | unknown
deriving DecidableEq

/-- What the text of a part begins with, in groups or not. -/
def Node.start (flags : Flags) : Node → Start
  | .empty => .nothing
  | .literal d => if isExact flags d then .literal else .unknown
  | .seq first second =>
    match first.start flags with
    | .nothing => second.start flags
    | start => start
  | .group _ body => body.start flags
  | .scoped change body => body.start (change.apply flags)
  | _ => .unknown

/-- Whether an alternative begins with a character that is compared as it is. -/
def Node.beginsExactly (flags : Flags) : Node → Bool
  | .seq (.literal d) _ => isExact flags d
  | _ => false

/-- Whether all alternatives of a choice begin with a character that is compared as it is. -/
def Node.isLiteralChoice (flags : Flags) : Node → Bool
  | .alt first others => first.beginsExactly flags && others.isLiteralChoice flags
  | node => node.beginsExactly flags

/-- Whether the first item of a part lists the characters that the text of the part can begin with,
in groups or not. -/
def Node.listsStart (flags : Flags) : Node → Bool
  | .literal d => isExact flags d
  | .set s => (CharTest.ofSet flags s).isGuard
  | .alt first others => (Node.alt first others).isLiteralChoice flags
  | .seq first _ => first.listsStart flags
  | .group _ body => body.listsStart flags
  | .scoped change body => body.listsStart (change.apply flags)
  | _ => false

/-- Whether the first items of a part list the characters with which its text can begin. -/
def Node.isListed (flags : Flags) (node : Node) : Bool :=
  node.start flags = .literal || node.listsStart flags

end RegexSubst.Regex
