import RegexSubst.Template.Scanner

/-!
# `RegexSubst.Template.Expansion`: the replacement text of a match

Expanding a template runs the scanner over it and performs its actions. A template without a
backslash is its own expansion, and an invalid regex has none.

* `Expansion` is the state between two code points, `Expansion.advance` reads one more, and
  `Expansion.finish` writes what is left of an unfinished control.
* `replacement` is the answer for one match. `Builder.build` gives the same answer from a builder
  that has been used before.
* `trace` lists the expansion after every code point, with the segments that it wrote.
-/

set_option autoImplicit false

namespace RegexSubst.Template

/-- The answer for a match: whether there is a replacement text, and the text. -/
structure Replacement where
  success : Bool
  text : Text
deriving DecidableEq

/-- The scanner and the output between two code points of a template. -/
structure Expansion where
  state : ScanState
  output : CaseBuffer

namespace Expansion

/-- Nothing read, nothing written. -/
def initial : Expansion := ⟨.literal, .empty⟩

/-- Reads one code point of the template. -/
@[inline]
def advance (ctx : Context) (e : Expansion) (c : CodePoint) : Except Fault Expansion := do
  let (state, action) ← e.state.step ctx c
  return ⟨state, action.elim e.output e.output.perform⟩

/-- Reads code points until the end or the first fault: the last expansion reached, and the
fault. -/
def scan (ctx : Context) (e : Expansion) : Text → Expansion × Option Fault
  | [] => (e, none)
  | c :: rest =>
    match e.advance ctx c with
    | .ok next => scan ctx next rest
    | .error fault => (e, some fault)

/-- The output with the rest of an unfinished control written as it is. -/
def finish (e : Expansion) : CaseBuffer :=
  e.state.flush.elim e.output e.output.perform

end Expansion

/-- A builder of replacement texts, used for one after another. It keeps the context and the
expansion of the last build. -/
structure Builder where
  context : Option Context
  expansion : Expansion

namespace Builder

/-- A builder that has not been used. -/
def fresh : Builder := ⟨none, .initial⟩

/-- Forgets the last build. -/
def reset (b : Builder) : Builder :=
  { b with context := none, expansion := .initial }

/-- Expands `template` for the match that `ctx` describes. Every build begins by forgetting the
one before, and leaves behind how far it came. -/
def build (b : Builder) (ctx : Context) (template : Text) : Except Fault Replacement × Builder :=
  let b := b.reset
  if !ctx.regex.isValid then (.ok ⟨false, []⟩, b)
  else if !template.contains introducer then (.ok ⟨true, template⟩, b)
  else
    match b.expansion.scan ctx template with
    | (e, some fault) => (.error fault, ⟨some ctx, e⟩)
    | (e, none) => (.ok ⟨true, e.finish.text⟩, ⟨some ctx, ⟨.literal, e.finish⟩⟩)

/-- The answers of one builder to several requests in order. -/
def buildAll (b : Builder) : List (Context × Text) → List (Except Fault Replacement)
  | [] => []
  | (ctx, template) :: rest =>
    let (answer, b) := b.build ctx template
    answer :: buildAll b rest

end Builder

/-- The replacement text of `template` for the match that `ctx` describes. -/
def replacement (ctx : Context) (template : Text) : Except Fault Replacement :=
  (Builder.fresh.build ctx template).1

/-- The state after a code point and the segments that the code point wrote. -/
structure Snapshot where
  expansion : Expansion
  emitted : List Text

/-- The snapshots of a scan that begins at `e`, up to the first fault. -/
def snapshots (ctx : Context) (e : Expansion) : Text → List Snapshot
  | [] => []
  | c :: rest =>
    match e.advance ctx c with
    | .ok next =>
      ⟨next, next.output.segments.toList.drop e.output.segments.size⟩ :: snapshots ctx next rest
    | .error _ => []

/-- The snapshots of a build; there are none if nothing is scanned. -/
def trace (ctx : Context) (template : Text) : List Snapshot :=
  if ctx.regex.isValid && template.contains introducer then
    snapshots ctx .initial template
  else []

end RegexSubst.Template
