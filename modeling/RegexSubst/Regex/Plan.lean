import RegexSubst.Regex.Syntax

/-!
# `RegexSubst.Regex.Plan`: regexes made ready for matching

In a plan no flags are left to be looked up: every part knows under which flags it matches. A plan
also says where one look at the text saves an attempt.

* `CharTest` is the test of one character, and `CharTest.kind` tells how it is done.
* `Plan` is the tree that is matched; `Node.plan` makes it from a part of a regex.
-/

set_option autoImplicit false

namespace RegexSubst.Regex

/-- How a character is tested. -/
inductive TestKind
  /-- It is compared with `c`, as it is. -/
  | same (c : CodePoint)
  /-- It is looked up in a set, as it is. -/
  | member
  /-- Its small form is looked up in a set. -/
  | foldedMember
  | other
deriving DecidableEq

/-- A test of one character. -/
structure CharTest where
  kind : TestKind
  accepts : CodePoint → Bool

/-- Whether a character of a regex is compared as it is: if case is ignored, a character with a case
is not. -/
def isExact (flags : Flags) (d : CodePoint) : Bool :=
  !(flags.has .ignoreCase && hasCase (flags.has .ascii) d)

namespace CharTest

/-- The test for the character `d` of a regex. If it is not compared as it is, its small form is
compared, or looked up if there are several small forms to compare with. -/
def ofLiteral (flags : Flags) (d : CodePoint) : CharTest :=
  if isExact flags d then ⟨.same d, fun c => c = d⟩
  else
    let ascii := flags.has .ascii
    let kind := if (smallForms ascii d).length = 1 then .other else .foldedMember
    ⟨kind, fun c => matchesFolded ascii (foldCase ascii c) d⟩

/-- The test for any character, which is any but the line feed without the flag for it. -/
def any (flags : Flags) : CharTest :=
  ⟨.other, fun c => flags.has .dotAll || c ≠ '\n'⟩

/-- The test for a set. All characters but one are told by comparing with that one. -/
def ofSet (flags : Flags) (s : CharSet) : CharTest :=
  let kind :=
    match s with
    | ⟨true, [.single d]⟩ =>
      match (ofLiteral flags d).kind with
      | .foldedMember => .foldedMember
      | _ => .other
    | ⟨_, items⟩ =>
      if flags.has .ignoreCase && items.any (·.hasCase (flags.has .ascii)) then .foldedMember
      else .member
  ⟨kind, s.contains flags⟩

/-- Whether the test looks at the character as it is and tells whether a match can begin with it. -/
def isGuard (t : CharTest) : Bool :=
  match t.kind with
  | .same _ | .member => true
  | .foldedMember | .other => false

/-- The character with which the test compares, if it does so without regard to case. -/
def character? (t : CharTest) : Option CodePoint :=
  match t.kind with
  | .same c => some c
  | .member | .foldedMember | .other => none

end CharTest

/-- A regex that is ready for matching. -/
inductive Plan
  /-- Matches the empty text. -/
  | empty
  | test (t : CharTest)
  | anchor (a : Anchor) (flags : Flags)
  | backref (group : Nat) (flags : Flags)
  | seq (first second : Plan)
  /-- An alternative and, after it, the other ones. It is passed over where its guard fails. -/
  | choice (guard : Option CharTest) (first others : Plan)
  /-- The end of the alternatives. -/
  | noChoice
  | group (index : Nat) (body : Plan)
  | atomic (body : Plan)
  /-- One character several times. What follows can only begin with `next`, if that is given. -/
  | run (least : Nat) (greatest : Option Nat) (greed : Greed) (t : CharTest)
      (next : Option CodePoint)
  /-- A part several times. -/
  | loop (least : Nat) (greatest : Option Nat) (greed : Greed) (body : Plan)
  /-- A part that matches `back` characters before the position, or that does not. -/
  | look (back : Nat) (positive : Bool) (body : Plan)
  | conditional (group : Nat) (yes no : Plan)

/-- What a plan begins with. -/
inductive Beginning
  /-- With nothing: the plan is empty. -/
  | nothing
  | test (t : CharTest)
  | other

namespace Plan

/-- What a plan begins with. -/
def beginning : Plan → Beginning
  | .empty => .nothing
  | .test t => .test t
  | .seq first second =>
    match first.beginning with
    | .nothing => second.beginning
    | b => b
  | _ => .other

/-- The test that tells whether a plan can match at a position, if it begins with one. -/
def guard? (p : Plan) : Option CharTest :=
  match p.beginning with
  | .test t => if t.isGuard then some t else none
  | .nothing | .other => none

/-- The character with which a match has to go on if `p` follows and after it `next`. -/
def next? (p : Plan) (next : Option CodePoint) : Option CodePoint :=
  match p.beginning with
  | .nothing => next
  | .test t => t.character?
  | .other => none

end Plan

/-- The test that a part consists of, in groups that capture nothing or not. -/
def Node.test? (flags : Flags) : Node → Option CharTest
  | .literal d => some (.ofLiteral flags d)
  | .any => some (.any flags)
  | .set s => some (.ofSet flags s)
  | .seq first .empty => first.test? flags
  | .scoped change body => body.test? (change.apply flags)
  | _ => none

/-- The number of characters that a look-around goes back. -/
def Direction.back : Direction → Nat
  | .ahead => 0
  | .behind width => width.least

/-- The plan of a part under `flags`. The part is followed by the character `next`, if that is
given. -/
def Node.plan (flags : Flags) (next : Option CodePoint) : Node → Plan
  | .empty => .empty
  | .literal d => .test (.ofLiteral flags d)
  | .any => .test (.any flags)
  | .set s => .test (.ofSet flags s)
  | .anchor a => .anchor a flags
  | .backref number => .backref number flags
  | .seq first second =>
    let rest := second.plan flags next
    .seq (first.plan flags (rest.next? next)) rest
  | .alt first second =>
    let alternative := first.plan flags none
    let rest := second.plan flags none
    let others :=
      match second with
      | .alt _ _ => rest
      | _ => .choice rest.guard? rest .noChoice
    .choice alternative.guard? alternative others
  | .group index body => .group index (body.plan flags none)
  | .scoped change body => body.plan (change.apply flags) next
  | .atomic body => .atomic (body.plan flags none)
  | .repeat least greatest greed body =>
    match body.test? flags with
    | some t => .run least greatest greed t next
    | none => .loop least greatest greed (body.plan flags none)
  | .look direction positive body => .look direction.back positive (body.plan flags none)
  | .conditional number yes no =>
    let afterYes := match no with
      | .empty => next
      | _ => none
    .conditional number (yes.plan flags afterYes) (no.plan flags next)

end RegexSubst.Regex
