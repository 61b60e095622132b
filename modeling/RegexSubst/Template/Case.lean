import RegexSubst.Text.Casing
import RegexSubst.Text.Surrogate

/-!
# `RegexSubst.Template.Case`: case changes of segments

The output of a template is a list of segments: a literal character, a decoded escape, a captured
text or a malformed control. A case change acts on whole segments. One that is for the next segment
only changes its first code point and waits for a segment that is not empty.

* `CaseMode.apply` is the effect of a mode on a segment and `CaseMode.after` the mode that remains.
* `CaseBuffer` collects the changed segments; a request counts only while no mode is active, and
  `CaseBuffer.text` joins the segments.
-/

set_option autoImplicit false

namespace RegexSubst.Template

/-- The case change that is active. -/
inductive CaseMode
  /-- Segments stay as they are. -/
  | keep
  /-- The first code point of the next segment is lower-cased. -/
  | lowerNext
  /-- The first code point of the next segment is upper-cased. -/
  | upperNext
  /-- All segments are lower-cased. -/
  | lower
  /-- All segments are upper-cased. -/
  | upper
deriving DecidableEq

namespace CaseMode

/-- A segment under a mode. -/
def apply : CaseMode → Text → Text
  | _, [] => []
  | .keep, segment => segment
  | .lowerNext, c :: rest => c.lower ++ rest
  | .upperNext, c :: rest => c.upper ++ rest
  | .lower, segment => Text.lower segment
  | .upper, segment => Text.upper segment

/-- The mode after a segment: a change of the next segment is over unless the segment is empty. -/
def after : CaseMode → Text → CaseMode
  | mode, [] => mode
  | .lowerNext, _ :: _ => .keep
  | .upperNext, _ :: _ => .keep
  | mode, _ :: _ => mode

/-- The mode after a request: the first request counts until it is over. -/
def request : CaseMode → CaseMode → CaseMode
  | .keep, requested => requested
  | mode, _ => mode

end CaseMode

/-- The active mode and the segments written so far. -/
structure CaseBuffer where
  mode : CaseMode
  segments : Array Text

namespace CaseBuffer

/-- No mode, no segments. -/
def empty : CaseBuffer := ⟨.keep, #[]⟩

/-- Asks for a mode. -/
def request (b : CaseBuffer) (mode : CaseMode) : CaseBuffer :=
  { b with mode := b.mode.request mode }

/-- Ends the active mode. -/
def clear (b : CaseBuffer) : CaseBuffer :=
  { b with mode := .keep }

/-- Changes a segment as the active mode says, without writing it. -/
def transform (b : CaseBuffer) (segment : Text) : Text × CaseBuffer :=
  (b.mode.apply segment, { b with mode := b.mode.after segment })

/-- Changes a segment and writes it. -/
def append (b : CaseBuffer) (segment : Text) : CaseBuffer :=
  let (changed, b) := b.transform segment
  { b with segments := b.segments.push changed }

/-- All segments in order as one text, with surrogate pairs joined. -/
def text (b : CaseBuffer) : Text :=
  Text.join b.segments.toList.flatten

end CaseBuffer

end RegexSubst.Template
