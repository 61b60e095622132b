import RegexSubst.Text.Utf8

/-!
# `RegexSubst.CommandLine.Console`: the output streams

Standard output is strict UTF-8. Standard error either is too, or shows surrogates as escapes.

* `Streams` is what has been written so far.
* `Streams.printError` writes a line to standard error.
-/

set_option autoImplicit false

namespace RegexSubst.CommandLine

/-- What standard error does with surrogates. -/
inductive SurrogatePolicy
  /-- They cannot be written. -/
  | refuse
  /-- They are written as escapes. -/
  | escape
deriving DecidableEq

/-- A surrogate as it is shown on standard error. -/
def escapeSurrogate (c : CodePoint) : Text :=
  if c.isSurrogate then "\\u" ++ Text.ofHex 4 c.val else [c]

/-- The text as it is shown on standard error. -/
def SurrogatePolicy.show (policy : SurrogatePolicy) (t : Text) : Except Utf8.EncodeError Text :=
  match policy with
  | .escape => .ok (t.flatMap escapeSurrogate)
  | .refuse =>
    match Utf8.firstSurrogates? t with
    | some e => .error e
    | none => .ok t

/-- What has been written to standard output and standard error. -/
structure Streams where
  output : Text
  error : Text
deriving DecidableEq

namespace Streams

/-- Nothing has been written. -/
def empty : Streams := ⟨[], []⟩

/-- Writes a text to standard error, all of it or nothing. -/
def writeError (s : Streams) (policy : SurrogatePolicy) (t : Text) :
    Except Utf8.EncodeError Streams := do
  let shown ← policy.show t
  return { s with error := s.error ++ shown }

/-- Writes a line to standard error. -/
def printError (s : Streams) (policy : SurrogatePolicy) (line : Text) :
    Except Utf8.EncodeError Streams := do
  let s ← s.writeError policy line
  s.writeError policy "\n"

end Streams

end RegexSubst.CommandLine
