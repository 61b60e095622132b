import RegexSubst.Regex.Matcher
import RegexSubst.Regex.Parser
import RegexSubst.Regex.Start
import RegexSubst.Span

/-!
# `RegexSubst.Regex.Program`: searching a text

* `Program` is a regex that can be matched; `Program.compile` makes one from a text.
* `Node.defect?` tells why a part that has been read cannot be matched.
* `Match` is a stretch of the searched text with the captures in it; that it lies in the text is
  part of the type.
* `Program.findAll` lists the matches of a text from left to right. They do not overlap, and an
  empty match does not follow another empty match at the same place.
-/

set_option autoImplicit false

namespace RegexSubst.Regex

/-- What is wrong with the first part that cannot be matched: a look-behind whose body has no fixed
width, or in a template any repeat. A part comes before the parts inside it. -/
def Node.defect? (template : Bool) : Node → Option Cause
  | .look (.behind width) _ body =>
    if width.least ≠ width.greatest then some .looseLookBehind else body.defect? template
  | .repeat _ _ greed body =>
    if template then some (.templateRepeat greed) else body.defect? template
  | .seq first second | .alt first second | .conditional _ first second =>
    (first.defect? template).or (second.defect? template)
  | .group _ body | .scoped _ body | .atomic body | .look .ahead _ body => body.defect? template
  | .empty | .literal _ | .any | .set _ | .anchor _ | .backref _ => none

/-- A regex that can be matched. -/
structure Program where
  plan : Plan
  groups : GroupTable
  flags : Flags
  /-- A set that has to hold the first character of a match. -/
  leading : Option CharSet
  /-- How many characters a match has at least. -/
  least : Nat
  /-- Whether a search looks for the character with which a match begins. -/
  isListed : Bool

/-- The program of the regex `pattern` under the flags with the number `flags`, or why there is
none. -/
def Program.compile (pattern : Text) (flags : Int) : Except Refusal Program := do
  let parsed ← parse pattern (.ofInt flags)
  if let some cause := parsed.root.defect? (parsed.flags.has .template) then
    throw (.syntaxError ⟨cause, none⟩)
  unless isMachineInt flags do throw (.fault .integerTooLarge)
  if parsed.root.hasWideLookBehind then throw (.fault .lookBehindTooWide)
  let plan := parsed.root.plan parsed.flags none
  return {
    plan := plan
    groups := parsed.groups
    flags := parsed.flags
    leading := leadingSet? parsed.root parsed.flags
    least := parsed.width.least
    isListed := parsed.root.isListed parsed.flags }

/-- A match in a text of `size` code points. -/
structure Match (size : Nat) where
  start : Nat
  stop : Nat
  captures : Array (Option (Nat × Nat))
  start_le_stop : start ≤ stop
  stop_le_size : stop ≤ size

namespace Match

variable {size : Nat}

/-- Whether the match is the empty text. -/
def isEmpty (m : Match size) : Bool :=
  m.start = m.stop

/-- The span of group `number`, where groups are counted from zero. A group that took no part has
the absent span. -/
def captureSpan (m : Match size) (number : Nat) : Span :=
  match (m.captures[number]?).join with
  | some (start, stop) => ⟨start, stop⟩
  | none => .absent

/-- Whether a group has been opened again after its last end. Such a match cannot be reported. -/
def isCrossed (m : Match size) : Bool :=
  m.captures.any fun capture => capture.any fun (start, stop) => stop < start

/-- The span of the match and those of its groups. -/
def spans (m : Match size) (groups : Nat) : List Span :=
  ⟨m.start, m.stop⟩ :: (List.range groups).map m.captureSpan

end Match

namespace Program

variable (p : Program) (input : Array CodePoint)

/-- Whether the leading set holds the character at `start`, compared as it is. -/
def mayBegin (start : Nat) : Bool :=
  match p.leading, input[start]? with
  | none, _ => true
  | some s, some c => s.contains (p.flags.erase .ignoreCase) c
  | some _, none => false

/-- The match that begins at `start`, if there is one; with `mustAdvance` it may not be empty.

The cursor that a possessive repeat leaves (`optionalRounds`) may be before `start`, as in
`a(?<=bb)?+` on `ba`, where the look-behind that fails has moved it back. The early 3.11 releases of
the engine `re`, which are followed here, would then report a match that ends before it begins. Here
such an attempt counts as no match. -/
def matchAt (start : Nat) (mustAdvance : Bool) :
    Option { m : Match input.size //
      m.start = start ∧ (mustAdvance = true → start < m.stop) } :=
  let accept : Rest := fun n m => if mustAdvance && n = start then .failed m else finish n m
  if mayBegin p input start then
    match p.plan.attempt input false start (.fresh start) accept with
    | .matched m =>
      -- No match leaves the text, and one that ends before its start is none.
      if h : start ≤ m.cursor ∧ m.cursor ≤ input.size ∧ (mustAdvance = true → start < m.cursor) then
        let captures := (Array.range p.groups.count).map fun i => m.capture? (i + 1)
        some ⟨⟨start, m.cursor, captures, h.1, h.2.1⟩, rfl, h.2.2⟩
      else none
    | .failed _ => none
  else none

/-- Where a search from `start` on tries to match last. -/
def lastStart (start : Nat) : Nat :=
  if p.isListed || p.least ≤ 1 then input.size else max start (input.size + 1 - p.least)

/-- The first match that begins at `start` or after it, up to `last`; with `mustAdvance` a match at
`start` may not be empty. -/
def searchUpTo (last start : Nat) (mustAdvance : Bool) :
    Option { m : Match input.size //
      start ≤ m.start ∧ (mustAdvance = true → start < m.stop) } :=
  match matchAt p input start mustAdvance with
  | some ⟨m, h⟩ => some ⟨m, Nat.le_of_eq h.1.symm, h.2⟩
  | none =>
    if start < last ∧ start < input.size then
      match searchUpTo last (start + 1) false with
      | some ⟨m, h⟩ =>
        some ⟨m, Nat.le_of_succ_le h.1, fun _ => Nat.lt_of_lt_of_le h.1 m.start_le_stop⟩
      | none => none
    else none
termination_by input.size - start

/-- The first match at or after `start`. What is left of the text has to have as many characters as
a match has at least. -/
def search (start : Nat) (mustAdvance : Bool) :
    Option { m : Match input.size //
      start ≤ m.start ∧ (mustAdvance = true → start < m.stop) } :=
  if input.size < start + p.least then none
  else searchUpTo p input (lastStart p input start) start mustAdvance

/-- The matches from `start` on. After an empty match the next one may not be empty at the same
place. -/
def matchesFrom (start : Nat) (mustAdvance : Bool) : List (Match input.size) :=
  match search p input start mustAdvance with
  | none => []
  | some ⟨m, _⟩ => m :: matchesFrom m.stop m.isEmpty
termination_by 2 * (input.size - start) + (if mustAdvance then 0 else 1)
decreasing_by
  rename_i h
  have hle := m.start_le_stop
  have hsize := m.stop_le_size
  by_cases hempty : m.start = m.stop
  · simp only [Match.isEmpty, hempty, decide_true, if_true]
    cases mustAdvance with
    | true => have := h.2 rfl; simp only [if_true]; omega
    | false => simp only [Bool.false_eq_true, if_false]; omega
  · simp only [Match.isEmpty, hempty, decide_false, Bool.false_eq_true, if_false]
    split <;> omega

/-- All matches in the text. -/
def findAll : List (Match input.size) :=
  matchesFrom p input 0 false

end Program

end RegexSubst.Regex
