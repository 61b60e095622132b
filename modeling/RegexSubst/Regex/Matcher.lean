import RegexSubst.Regex.Plan

/-!
# `RegexSubst.Regex.Matcher`: matching at a position

The matcher backtracks: a part of a regex is matched together with what has to match after it, and
the first way that suits both is taken. What is known of groups and of the last end of a part is
kept in a memory. An attempt that fails leaves a memory too, and only some of the parts that try
another way undo everything that the failed attempt has noted: the loop of a repeat does, other
parts do so inside such a loop, and outside of one they only forget the marks that were not there
before.

* `Memory` holds the marks, the positions where groups opened and closed, and the cursor.
* `Plan.attempt` matches a plan from a position and continues with the rest.
* `greedyLoop` and `lazyLoop` are the loops of repeats. A round that begins where the last one began
  is not tried, so a round that matches the empty text ends the loop.
* `requiredRounds` and `optionalRounds` are the loop of a possessive repeat. It is the loop of the
  early 3.11 releases of the engine `re`, which differs from the documented one.
-/

set_option autoImplicit false

namespace RegexSubst.Regex

/-- What has been noted on the way. -/
structure Memory where
  /-- Where each group was opened and closed last, group by group. Only marks up to the last one
  that was set are there. -/
  marks : Array (Option Nat)
  /-- Where the part that was tried last began, or ended if it matched. -/
  cursor : Nat

namespace Memory

/-- Nothing has been noted before `start`. -/
def fresh (start : Nat) : Memory :=
  ⟨#[], start⟩

/-- Puts the cursor at `n`. -/
def moveTo (m : Memory) (n : Nat) : Memory :=
  { m with cursor := n }

/-- Sets mark `index` to `n`. Marks before it that are not there yet become empty. -/
def setMark (m : Memory) (index n : Nat) : Memory :=
  if index < m.marks.size then { m with marks := m.marks.setIfInBounds index (some n) }
  else
    let missing := Array.replicate (index - m.marks.size) none
    { m with marks := (m.marks ++ missing).push (some n) }

/-- Marks where a group opens. Groups are numbered from one. -/
def openGroup (m : Memory) (group n : Nat) : Memory :=
  m.setMark (2 * (group - 1)) n

/-- Marks where a group closes. -/
def closeGroup (m : Memory) (group n : Nat) : Memory :=
  m.setMark (2 * (group - 1) + 1) n

/-- The marks of a group. -/
def capture? (m : Memory) (group : Nat) : Option (Nat × Nat) := do
  let stop ← (m.marks[2 * (group - 1) + 1]?).join
  let start ← (m.marks[2 * (group - 1)]?).join
  return (start, stop)

/-- The stretch that a group has captured. A group that has been opened again after its end has
none. -/
def stretch? (m : Memory) (group : Nat) : Option (Nat × Nat) :=
  (m.capture? group).filter fun (start, stop) => start ≤ stop

/-- Takes up again the marks that there were in `saved`: as they were inside the loop of a repeat,
elsewhere only as many as they were. -/
def rewind (m : Memory) (inLoop : Bool) (saved : Memory) : Memory :=
  { m with marks := if inLoop then saved.marks else m.marks.shrink saved.marks.size }

end Memory

/-- How an attempt ended, with what was noted in it. -/
inductive Attempt
  | matched (m : Memory)
  | failed (m : Memory)

/-- Tries something else after an attempt that has failed. -/
@[macro_inline] def Attempt.orElse (a : Attempt) (retry : Memory → Attempt) : Attempt :=
  match a with
  | .matched m => .matched m
  | .failed m => retry m

/-- What has to match next, from a position. -/
abbrev Rest := Nat → Memory → Attempt

/-- Nothing has to match next. -/
def finish : Rest := fun n m => .matched (m.moveTo n)

/-- Whether the code point at `n` is a word character; beyond the ends there is none. -/
def isWordAt (input : Array CodePoint) (flags : Flags) (n : Nat) : Bool :=
  match input[n]? with
  | some c => Category.contains .word (flags.has .ascii) c
  | none => false

/-- Whether there is a line feed at `n`. -/
def isLineFeedAt (input : Array CodePoint) (n : Nat) : Bool :=
  input[n]? = some '\n'

/-- Whether exactly one side of position `n` is a word character. -/
def isBoundary (input : Array CodePoint) (flags : Flags) (n : Nat) : Bool :=
  (0 < n && isWordAt input flags (n - 1)) != isWordAt input flags n

/-- Whether an anchor holds at position `n`. In an empty text no position is inside or outside of a
word. -/
def Anchor.holds (input : Array CodePoint) (flags : Flags) (n : Nat) : Anchor → Bool
  | .lineStart => n = 0 || (flags.has .multiline && isLineFeedAt input (n - 1))
  | .lineEnd =>
    n = input.size
      || (isLineFeedAt input n && (flags.has .multiline || n + 1 = input.size))
  | .textStart => n = 0
  | .textEnd => n = input.size
  | .wordBoundary => !input.isEmpty && isBoundary input flags n
  | .notWordBoundary => !input.isEmpty && !isBoundary input flags n

/-- Whether two captured characters are the same. -/
def sameCaptured (flags : Flags) (c d : CodePoint) : Bool :=
  if flags.has .ignoreCase then
    foldCase (flags.has .ascii) c = foldCase (flags.has .ascii) d
  else c = d

/-- Whether the stretch of `length` characters at `n` is a copy of the one at `start`. -/
def copies (input : Array CodePoint) (flags : Flags) (start n : Nat) : (length : Nat) → Bool
  | 0 => true
  | length + 1 =>
    match input[start]?, input[n]? with
    | some c, some d =>
      sameCaptured flags c d && copies input flags (start + 1) (n + 1) length
    | _, _ => false

namespace CharTest

variable (t : CharTest) (input : Array CodePoint)

/-- Whether the test accepts the character at `n`. -/
def holdsAt (n : Nat) : Bool :=
  input[n]?.any t.accepts

/-- The position after the characters from `n` on that the test accepts, at most `most` of them. -/
def runEnd : (most : Nat) → (n : Nat) → Nat
  | 0, n => n
  | most + 1, n => if t.holdsAt input n then runEnd most (n + 1) else n

/-- The cursor after characters from `n` to `stop` have been tested: a look into a set by small
forms moves it. -/
def cursorAfter (n stop : Nat) : Nat :=
  if t.kind = .foldedMember then stop else n

end CharTest

/-- Continues at `n` after a run of characters. If that fails, the marks are those of `saved`. -/
@[inline] def continueAt (inLoop : Bool) (saved : Memory) (k : Rest) (n : Nat) (m : Memory) :
    Attempt :=
  (k n (m.moveTo n)).orElse fun r => .failed (r.rewind inLoop saved)

/-- Continues after a run that began with what it needs up to `low` and goes on for `extra` more
characters, then after shorter ones. Where the text does not go on with `next` there is nothing to
try. -/
def shorten (input : Array CodePoint) (inLoop : Bool) (saved : Memory) (next : Option CodePoint)
    (k : Rest) (low : Nat) : (extra : Nat) → Memory → Attempt
  | 0, m =>
    if next.all fun c => input[low]? = some c then continueAt inLoop saved k low m else .failed m
  | extra + 1, m =>
    let n := low + extra + 1
    if next.all fun c => input[n]? = some c then
      (continueAt inLoop saved k n m).orElse (shorten input inLoop saved next k low extra)
    else shorten input inLoop saved next k low extra m

/-- Continues after a run up to `n`, then after longer ones, by `most` characters at most. -/
def lengthen (input : Array CodePoint) (inLoop : Bool) (saved : Memory) (t : CharTest) (k : Rest) :
    (most : Nat) → (n : Nat) → Memory → Attempt
  | 0, n, m =>
    (continueAt inLoop saved k n m).orElse fun r =>
      .failed (r.moveTo (if t.holdsAt input n then t.cursorAfter n (n + 1) else n))
  | most + 1, n, m =>
    (continueAt inLoop saved k n m).orElse fun r =>
      if t.holdsAt input n then
        lengthen input inLoop saved t k most (n + 1) (r.moveTo (t.cursorAfter n (n + 1)))
      else .failed (r.moveTo n)

/-- Matches a run of characters from `n` on. -/
def matchRun (input : Array CodePoint) (least : Nat) (greatest : Option Nat) (greed : Greed)
    (t : CharTest) (next : Option CodePoint) (inLoop : Bool) (n : Nat) (m : Memory) (k : Rest) :
    Attempt :=
  let left := input.size - n
  if left < least then .failed m
  else
    let most := (greatest.map (min · left)).getD left
    let stop := t.runEnd input (if greed = .lazy then least else most) n
    let m := m.moveTo (t.cursorAfter n stop)
    if stop < n + least then .failed m
    else
      match greed with
      | .greedy => shorten input inLoop m next k (n + least) (stop - (n + least)) m
      | .lazy => lengthen input inLoop m t k (most - least) stop m
      | .possessive => k stop m

/-- The loop of a repeat that tries as many rounds as possible first, after `count` rounds, of which
the last one that had a choice began at `last`. Below the least count there is no choice. The number
of rounds is bounded by `rounds`. -/
def greedyLoop (body : Nat → Memory → Rest → Attempt) (least : Nat) (greatest : Option Nat)
    (k : Rest) : (rounds : Nat) → (count : Nat) → (last : Option Nat) → Nat → Memory → Attempt
  | 0, _, _, n, m => k n m
  | rounds + 1, count, last, n, m =>
    let m := m.moveTo n
    if count < least then
      -- There is no choice yet, so this round is not the one that the next one is compared with.
      (body n m (greedyLoop body least greatest k rounds (count + 1) last)).orElse fun r =>
        .failed (r.moveTo n)
    -- A round that begins where the last one began would do the same again, without end.
    else if greatest.all (count < ·) && last ≠ some n then
      (body n m (greedyLoop body least greatest k rounds (count + 1) (some n))).orElse fun _ =>
        (k n m).orElse fun r => .failed (r.moveTo n)
    else (k n m).orElse fun r => .failed (r.moveTo n)

/-- The loop of a repeat that tries as few rounds as possible first. -/
def lazyLoop (body : Nat → Memory → Rest → Attempt) (least : Nat) (greatest : Option Nat)
    (inLoop : Bool) (k : Rest) :
    (rounds : Nat) → (count : Nat) → (last : Option Nat) → Nat → Memory → Attempt
  | 0, _, _, n, m => k n m
  | rounds + 1, count, last, n, m =>
    let m := m.moveTo n
    if count < least then
      (body n m (lazyLoop body least greatest inLoop k rounds (count + 1) last)).orElse fun r =>
        .failed (r.moveTo n)
    else
      -- First without another round, then with one.
      (k n m).orElse fun r =>
        let r := (r.rewind inLoop m).moveTo n
        if greatest.all (count < ·) && last ≠ some n then
          (body n r (lazyLoop body least greatest inLoop k rounds (count + 1) (some n))).orElse
            fun r => .failed (r.moveTo n)
        else .failed r

/-- Matches `body` from the cursor on, `count` times. -/
def requiredRounds (body : Nat → Memory → Rest → Attempt) : (count : Nat) → Memory → Attempt
  | 0, m => .matched m
  | count + 1, m =>
    match body m.cursor m finish with
    | .matched r => requiredRounds body count r
    | .failed r => .failed r

/-- Matches `body` from the cursor on as often as it can, after `count` rounds, of which the last
one that had a choice began at `last`. The round that fails gives back the marks, but leaves the
cursor where it was last put. The number of rounds is bounded by `rounds`.

The cursor is left there by the early 3.11 releases of the engine `re`, which are followed here.
Later releases, from 3.11.10 at the latest, and the documentation put it back to where the failed
round began. So `(?:ab?c)++` on `aca` ends at 3 here, behind the `a` of the failed second round, and
at 2 there. -/
def optionalRounds (body : Nat → Memory → Rest → Attempt) (greatest : Option Nat) :
    (rounds : Nat) → (count : Nat) → (last : Option Nat) → Memory → Memory
  | 0, _, _, m => m
  | rounds + 1, count, last, m =>
    if greatest.all (count < ·) && last ≠ some m.cursor then
      match body m.cursor m finish with
      | .matched r => optionalRounds body greatest rounds (count + 1) (some m.cursor) r
      | .failed r => { r with marks := m.marks }
    else m

/-- Matches a plan from position `n` on, and then the rest; `inLoop` tells whether the plan stands
in the loop of a repeat. -/
def Plan.attempt (input : Array CodePoint) :
    Plan → (inLoop : Bool) → Nat → Memory → Rest → Attempt
  | .empty, _, n, m, k => k n m
  | .test t, _, n, m, k => if t.holdsAt input n then k (n + 1) m else .failed m
  | .anchor a flags, _, n, m, k => if a.holds input flags n then k n m else .failed m
  | .backref number flags, _, n, m, k =>
    match m.stretch? number with
    | some (start, stop) =>
      if copies input flags start n (stop - start) then k (n + (stop - start)) m else .failed m
    | none => .failed m
  | .seq first second, inLoop, n, m, k =>
    first.attempt input inLoop n m fun n m => second.attempt input inLoop n m k
  | .choice guard first others, inLoop, n, m, k =>
    if guard.all (·.holdsAt input n) then
      (first.attempt input inLoop n (m.moveTo n) k).orElse fun r =>
        others.attempt input inLoop n (r.rewind inLoop m) k
    else others.attempt input inLoop n m k
  | .noChoice, _, _, m, _ => .failed m
  | .group index body, inLoop, n, m, k =>
    body.attempt input inLoop n (m.openGroup index n) fun n m => k n (m.closeGroup index n)
  | .atomic body, inLoop, n, m, k =>
    match body.attempt input inLoop n (m.moveTo n) finish with
    | .matched r => k r.cursor r
    | .failed r => .failed (r.moveTo n)
  | .run least greatest greed t next, inLoop, n, m, k =>
    matchRun input least greatest greed t next inLoop n m k
  | .loop least greatest greed body, inLoop, n, m, k =>
    let rounds := least + input.size + 2
    match greed with
    | .greedy =>
      let round := fun n m k => body.attempt input true n m k
      greedyLoop round least greatest k rounds 0 none n m
    | .lazy =>
      let round := fun n m k => body.attempt input true n m k
      lazyLoop round least greatest inLoop k rounds 0 none n m
    | .possessive =>
      let round := fun n m k => body.attempt input inLoop n m k
      match requiredRounds round least (m.moveTo n) with
      | .matched r =>
        let r := optionalRounds round greatest rounds least none r
        k r.cursor r
      | .failed r => .failed (r.moveTo n)
  | .look back positive body, inLoop, n, m, k =>
    if back ≤ n then
      match body.attempt input inLoop (n - back) (m.moveTo (n - back)) finish, positive with
      | .matched r, true => k n r
      | .matched r, false => .failed r
      | .failed r, true => .failed r
      | .failed r, false => k n (r.rewind inLoop m)
    else if positive then .failed m
    else k n m
  | .conditional number yes no, inLoop, n, m, k =>
    if (m.stretch? number).isSome then yes.attempt input inLoop n m k
    else no.attempt input inLoop n m k

end RegexSubst.Regex
