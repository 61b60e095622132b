import RegexSubst.Proofs.Text.Casing
import RegexSubst.Template.Token

/-!
# `RegexSubst.Proofs.Template.Output`: what a list of actions writes

What is written by a template depends on its actions in order and on the case mode before the first
of them. The segments that have been written before do not matter: new ones are put behind them.

* `CaseMode.next` and `CaseMode.write` are the effect of one action, `nextAll` and `writeAll` that of
  a list; `CaseMode.writeAll_append` cuts a list in two.
* `CaseMode.nextAll_of_lasting` and `CaseMode.writeAll_of_lasting`: a mode that lasts until it is
  ended changes every segment on its own.
* `CaseMode.keep_writeAll_characters`: without a mode, characters are written as they are.
* `CaseMode.writeAll_characters` and `CaseMode.nextAll_characters`: characters one by one and as one
  segment.
* `CaseBuffer.mode_performAll` and `CaseBuffer.written_performAll` say that this is what happens to
  the output.
-/

set_option autoImplicit false

namespace RegexSubst.Template

/-- The segment that an action hands to the output, before it is changed. -/
def Action.segment? : Action → Option Text
  | .emit segment => some segment
  | .emitRaw raw => some raw
  | .requestCase _ => none
  | .endCase => none

namespace CaseMode

/-- The mode after an action. -/
def next (mode : CaseMode) : Action → CaseMode
  | .emit segment => mode.after segment
  | .emitRaw raw => mode.after raw
  | .requestCase requested => mode.request requested
  | .endCase => .keep

/-- The text that an action writes in a mode. -/
def write (mode : CaseMode) : Action → Text
  | .emit segment => mode.apply segment
  | .emitRaw raw => mode.apply raw
  | .requestCase _ => []
  | .endCase => []

/-- The mode after some actions. -/
def nextAll (mode : CaseMode) (actions : List Action) : CaseMode :=
  actions.foldl next mode

/-- The text that some actions write, the first of them in the given mode. -/
def writeAll (mode : CaseMode) : List Action → Text
  | [] => []
  | action :: rest => mode.write action ++ (mode.next action).writeAll rest

/-- What a list of actions writes can be cut where the list is cut; the second part begins in the
mode that the first one leaves. -/
theorem writeAll_append (mode : CaseMode) (s t : List Action) :
    mode.writeAll (s ++ t) = mode.writeAll s ++ (mode.nextAll s).writeAll t := by
  induction s generalizing mode with
  | nil => rfl
  | cons action rest ih =>
    simp only [List.cons_append, writeAll, ih, List.append_assoc]
    rfl

/-- Without a mode a segment stays as it is. -/
@[simp]
theorem keep_apply (segment : Text) : keep.apply segment = segment := by
  cases segment <;> rfl

/-- Upper-casing falls on the whole segment. -/
@[simp]
theorem upper_apply (segment : Text) : upper.apply segment = segment.upper := by
  cases segment <;> rfl

/-- Lower-casing falls on the whole segment, so a capital sigma sees its neighbours. -/
@[simp]
theorem lower_apply (segment : Text) : lower.apply segment = segment.lower := by
  cases segment <;> rfl

/-- The modes that are over only when they are ended. -/
def Lasting (mode : CaseMode) : Prop :=
  mode = .lower ∨ mode = .upper

/-- A lasting mode is not changed by a segment, nor by a request. -/
theorem next_of_lasting {mode : CaseMode} (h : mode.Lasting) {action : Action}
    (haction : action ≠ .endCase) : mode.next action = mode := by
  rcases h with rfl | rfl
  all_goals
    cases action with
    | emit segment => cases segment <;> rfl
    | emitRaw raw => cases raw <;> rfl
    | requestCase requested => rfl
    | endCase => exact absurd rfl haction

/-- A lasting mode is there behind all actions if none of them ends it. -/
theorem nextAll_of_lasting {mode : CaseMode} (h : mode.Lasting) {actions : List Action}
    (hend : .endCase ∉ actions) : mode.nextAll actions = mode := by
  induction actions with
  | nil => rfl
  | cons action rest ih =>
    have haction : action ≠ .endCase := fun ha => hend (by simp [ha])
    show (mode.next action).nextAll rest = mode
    rw [next_of_lasting h haction]
    exact ih fun hrest => hend (by simp [hrest])

/-- Under a lasting mode every segment is changed on its own, and requests write nothing. -/
theorem writeAll_of_lasting {mode : CaseMode} (h : mode.Lasting) {actions : List Action}
    (hend : .endCase ∉ actions) :
    mode.writeAll actions = (actions.filterMap Action.segment?).flatMap mode.apply := by
  induction actions with
  | nil => rfl
  | cons action rest ih =>
    have haction : action ≠ .endCase := fun ha => hend (by simp [ha])
    rw [writeAll, next_of_lasting h haction, ih fun hrest => hend (by simp [hrest])]
    cases action <;> rfl

/-- Without a mode, characters are written as they are. -/
theorem keep_writeAll_characters (t : Text) :
    keep.writeAll (t.map fun c => .emit [c]) = t := by
  induction t with
  | nil => rfl
  | cons c rest ih => exact congrArg (c :: ·) ih

/-- Under a lasting mode every character is changed on its own. -/
theorem writeAll_characters_of_lasting {mode : CaseMode} (h : mode.Lasting) (t : Text) :
    mode.writeAll (t.map fun c => .emit [c]) = t.flatMap fun c => mode.apply [c] := by
  have hend : Action.endCase ∉ t.map fun c => Action.emit [c] := by simp
  have hsegments : (t.map fun c => Action.emit [c]).filterMap Action.segment?
      = t.map fun c => [c] := by
    simp [List.filterMap_map, Function.comp_def, Action.segment?]
  rw [writeAll_of_lasting h hend, hsegments, List.flatMap_map]

/-- Characters write one by one what they write as one segment, except for a capital sigma under
lower-casing. -/
theorem writeAll_characters (mode : CaseMode) {t : Text}
    (h : mode ≠ .lower ∨ CodePoint.capitalSigma ∉ t) :
    mode.writeAll (t.map fun c => .emit [c]) = mode.apply t := by
  cases mode with
  | keep => rw [keep_writeAll_characters, keep_apply]
  | lowerNext =>
    -- Only the first character is changed, and the mode is over behind it.
    cases t with
    | nil => rfl
    | cons c rest =>
      show (c.lower ++ []) ++ keep.writeAll (rest.map fun c => .emit [c]) = c.lower ++ rest
      rw [List.append_nil, keep_writeAll_characters]
  | upperNext =>
    cases t with
    | nil => rfl
    | cons c rest =>
      show (c.upper ++ []) ++ keep.writeAll (rest.map fun c => .emit [c]) = c.upper ++ rest
      rw [List.append_nil, keep_writeAll_characters]
  | lower =>
    have hsigma : CodePoint.capitalSigma ∉ t := h.resolve_left fun hne => hne rfl
    -- Without a capital sigma no character looks at its neighbours.
    have hone : ∀ c ∈ t, lower.apply [c] = c.lower := by
      intro c hc
      have hc' : CodePoint.capitalSigma ∉ [c] := fun hmem => hsigma (List.mem_singleton.mp hmem ▸ hc)
      simp [Text.lower_of_not_mem hc']
    rw [writeAll_characters_of_lasting (.inl rfl), lower_apply, Text.lower_of_not_mem hsigma,
      List.flatMap_def, List.flatMap_def, List.map_congr_left hone]
  | upper =>
    rw [writeAll_characters_of_lasting (.inr rfl)]
    simp [Text.upper]

/-- The final form of a capital sigma is only found next to other letters. -/
example : CaseMode.lower.writeAll (("\\gΣ" : Text).map fun c => .emit [c])
    ≠ CaseMode.lower.apply "\\gΣ" := by
  decide +kernel

/-- Characters one by one leave the mode that they leave as one segment. -/
theorem nextAll_characters (mode : CaseMode) (t : Text) :
    mode.nextAll (t.map fun c => .emit [c]) = mode.after t := by
  have hend : Action.endCase ∉ t.map fun c => Action.emit [c] := by simp
  have hkeep : ∀ rest : Text, keep.nextAll (rest.map fun c => .emit [c]) = keep := by
    intro rest
    induction rest with
    | nil => rfl
    | cons c rest ih => exact ih
  cases t with
  | nil => cases mode <;> rfl
  | cons c rest =>
    cases mode with
    | keep => exact hkeep rest
    -- The first character uses the mode up, and the others find none.
    | lowerNext => exact hkeep rest
    | upperNext => exact hkeep rest
    | lower => exact nextAll_of_lasting (.inl rfl) hend
    | upper => exact nextAll_of_lasting (.inr rfl) hend

end CaseMode

namespace CaseBuffer

/-- All segments in order as one text, as they are before pairs are joined. -/
def written (b : CaseBuffer) : Text :=
  b.segments.toList.flatten

/-- Performs actions in order. -/
def performAll (b : CaseBuffer) (actions : List Action) : CaseBuffer :=
  actions.foldl perform b

/-- The text of an output is what has been written, with its pairs joined. -/
theorem text_eq (b : CaseBuffer) : b.text = Text.join b.written := rfl

/-- To perform tokens is to perform their actions. -/
theorem performTokens_eq (ctx : Context) (b : CaseBuffer) (tokens : List Token) :
    b.performTokens ctx tokens = b.performAll (tokens.map (Token.action ctx)) := by
  simp only [performTokens, performAll, List.foldl_map]

/-- The mode behind an action does not depend on what has been written. -/
theorem mode_perform (b : CaseBuffer) (action : Action) :
    (b.perform action).mode = b.mode.next action := by
  cases action <;> rfl

/-- An action writes behind what is there. -/
theorem written_perform (b : CaseBuffer) (action : Action) :
    (b.perform action).written = b.written ++ b.mode.write action := by
  cases action <;>
    simp [perform, append, transform, request, clear, written, CaseMode.write]

/-- The mode behind some actions does not depend on what has been written. -/
theorem mode_performAll (b : CaseBuffer) (actions : List Action) :
    (b.performAll actions).mode = b.mode.nextAll actions := by
  induction actions generalizing b with
  | nil => rfl
  | cons action rest ih =>
    show ((b.perform action).performAll rest).mode = _
    rw [ih, mode_perform]
    rfl

/-- Actions write behind what is there, and what they write depends on the mode alone. -/
theorem written_performAll (b : CaseBuffer) (actions : List Action) :
    (b.performAll actions).written = b.written ++ b.mode.writeAll actions := by
  induction actions generalizing b with
  | nil => simp [performAll, CaseMode.writeAll]
  | cons action rest ih =>
    show ((b.perform action).performAll rest).written = _
    rw [ih, written_perform, mode_perform, List.append_assoc]
    rfl

end CaseBuffer

end RegexSubst.Template
