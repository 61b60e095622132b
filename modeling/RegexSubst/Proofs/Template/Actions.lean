import RegexSubst.Proofs.Text.Surrogate
import RegexSubst.Proofs.Template.Output
import RegexSubst.Proofs.Template.Replacement

/-!
# `RegexSubst.Proofs.Template.Actions`: the actions of a template

A template is a list of actions, which a match gives it, and it may have a fault, which is known
without a match. A part of a template after which no control is unfinished has its actions in front
of those of the rest.

* `ScanState.run` scans a text with no output in view. `ScanState.run_eq` gives its tokens, and
  `Expansion.scan_of_run` and `Expansion.exists_run_of_scan` say that a scan performs its actions.
* `actions` and `firstFault?` are the actions and the fault of a template, and
  `Builder.build_eq_actions` is the answer of a builder by them.
* `Settled` is what a scan from the start says of the part that it has read, if no control is
  unfinished; `Settled.writeAll_append` and `Settled.firstFault?_append` go on with the rest.
-/

set_option autoImplicit false

namespace RegexSubst.Template

/-! ### The actions of a scan -/

namespace ScanState

/-- Reads a text in the context of a match with no output in view: the last state and the actions
in order, unless there is a fault. -/
def run (ctx : Context) (state : ScanState) : Text → Except Fault (ScanState × List Action)
  | [] => .ok (state, [])
  | c :: rest => do
    let (next, action) ← state.step ctx c
    let (last, actions) ← next.run ctx rest
    return (last, action.toList ++ actions)

/-- A run fails with the first fault of a completed token, and otherwise performs the completed
tokens. -/
theorem run_eq (ctx : Context) {state : ScanState} (h : state.WellFormed) (t : Text) :
    state.run ctx t =
      match (state.completeAll t).2.findSome? Token.fault? with
      | some fault => .error fault
      | none => .ok ((state.completeAll t).1, (state.completeAll t).2.map (Token.action ctx)) := by
  induction t generalizing state with
  | nil => rfl
  | cons c rest ih =>
    have hnext := wellFormed_complete h c
    simp only [run, completeAll, step_eq ctx h, List.findSome?_append, List.map_append]
    cases hcomplete : state.complete c with
    | mk next token =>
      rw [hcomplete] at hnext
      cases token with
      | none =>
        -- The character completes no token, so the first fault is one of the rest.
        simp only [Transition.answer, except_bind_ok, ih hnext, Option.toList_none,
          List.findSome?_nil, Option.none_or, List.nil_append, List.map_nil]
        cases (next.completeAll rest).2.findSome? Token.fault? <;> rfl
      | some token =>
        -- The fault of the token comes before all others.
        cases hfault : token.fault? with
        | some fault => simp [Transition.answer, hfault]
        | none =>
          simp only [Transition.answer, hfault, except_bind_ok, ih hnext, Option.toList_some,
            List.findSome?_singleton, Option.none_or, List.map_cons, List.map_nil]
          cases (next.completeAll rest).2.findSome? Token.fault? <;> rfl

/-- The tokens behind a run without a fault. -/
theorem completeAll_of_run {ctx : Context} {state last : ScanState} {t : Text}
    {actions : List Action} (h : state.WellFormed) (hrun : state.run ctx t = .ok (last, actions)) :
    (state.completeAll t).1 = last ∧ (state.completeAll t).2.findSome? Token.fault? = none
      ∧ (state.completeAll t).2.map (Token.action ctx) = actions := by
  rw [run_eq ctx h] at hrun
  cases hfault : (state.completeAll t).2.findSome? Token.fault? with
  | some fault => rw [hfault] at hrun; cases hrun
  | none => rw [hfault] at hrun; cases hrun; exact ⟨rfl, rfl, rfl⟩

/-- A run is its first step and the run behind it. -/
theorem run_cons {ctx : Context} {state next last : ScanState} {c : CodePoint} {rest : Text}
    {action : Option Action} {others : List Action} (hstep : state.step ctx c = .ok (next, action))
    (hrest : next.run ctx rest = .ok (last, others)) :
    state.run ctx (c :: rest) = .ok (last, action.toList ++ others) := by
  simp only [run, hstep, except_bind_ok, hrest, except_pure]

/-- The first step of a run without a fault, and the run behind it. -/
theorem exists_step_of_run {ctx : Context} {state last : ScanState} {c : CodePoint} {rest : Text}
    {actions : List Action} (hrun : state.run ctx (c :: rest) = .ok (last, actions)) :
    ∃ next action others, state.step ctx c = .ok (next, action)
      ∧ next.run ctx rest = .ok (last, others) ∧ actions = action.toList ++ others := by
  unfold run at hrun
  cases hstep : state.step ctx c with
  | error fault => rw [hstep] at hrun; cases hrun
  | ok p =>
    obtain ⟨next, action⟩ := p
    simp only [hstep, except_bind_ok] at hrun
    cases hrest : next.run ctx rest with
    | error fault => rw [hrest] at hrun; cases hrun
    | ok result =>
      rw [hrest] at hrun
      cases hrun
      exact ⟨next, action, result.2, rfl, hrest, rfl⟩

/-- Runs can be put together. -/
theorem run_append {ctx : Context} {state middle last : ScanState} {s t : Text}
    {first second : List Action} (hs : state.run ctx s = .ok (middle, first))
    (ht : middle.run ctx t = .ok (last, second)) :
    state.run ctx (s ++ t) = .ok (last, first ++ second) := by
  induction s generalizing state first with
  | nil => cases hs; exact ht
  | cons c rest ih =>
    obtain ⟨next, action, others, hstep, hrest, rfl⟩ := exists_step_of_run hs
    rw [List.cons_append, List.append_assoc]
    exact run_cons hstep (ih hrest)

/-- A run without a fault can be cut anywhere. -/
theorem exists_run_of_append {ctx : Context} {state last : ScanState} {s t : Text}
    {actions : List Action} (hrun : state.run ctx (s ++ t) = .ok (last, actions)) :
    ∃ middle first second, state.run ctx s = .ok (middle, first)
      ∧ middle.run ctx t = .ok (last, second) ∧ actions = first ++ second := by
  induction s generalizing state actions with
  | nil => exact ⟨state, [], actions, rfl, hrun, rfl⟩
  | cons c rest ih =>
    obtain ⟨next, action, others, hstep, hrest, rfl⟩ := exists_step_of_run hrun
    obtain ⟨middle, first, second, hfirst, hsecond, rfl⟩ := ih hrest
    exact ⟨middle, action.toList ++ first, second, run_cons hstep hfirst, hsecond,
      by rw [List.append_assoc]⟩

end ScanState

namespace Expansion

variable {ctx : Context}

/-- A scan performs the actions of the run. -/
theorem scan_of_run {e : Expansion} {t : Text} {last : ScanState} {actions : List Action}
    (h : e.state.run ctx t = .ok (last, actions)) :
    e.scan ctx t = (⟨last, e.output.performAll actions⟩, none) := by
  induction t generalizing e actions with
  | nil => cases h; rfl
  | cons c rest ih =>
    obtain ⟨next, action, others, hstep, hrest, rfl⟩ := ScanState.exists_step_of_run h
    simp only [scan, advance, hstep, except_bind_ok, except_pure]
    -- The action of `c`, if any, is performed before those of the rest.
    rw [ih (e := ⟨_, _⟩) hrest]
    cases action <;> rfl

/-- A scan without a fault is a run, and has performed its actions. -/
theorem exists_run_of_scan {e last : Expansion} {t : Text} (h : e.scan ctx t = (last, none)) :
    ∃ actions, e.state.run ctx t = .ok (last.state, actions)
      ∧ last.output = e.output.performAll actions := by
  induction t generalizing e with
  | nil => cases h; exact ⟨[], rfl, rfl⟩
  | cons c rest ih =>
    simp only [scan, advance] at h
    cases hstep : e.state.step ctx c with
    | error fault => rw [hstep] at h; cases h
    | ok p =>
      obtain ⟨next, action⟩ := p
      simp only [hstep, except_bind_ok, except_pure] at h
      obtain ⟨others, hrest, houtput⟩ := ih h
      refine ⟨action.toList ++ others, ScanState.run_cons hstep hrest, ?_⟩
      rw [houtput]
      cases action <;> rfl

/-- A scan goes on where it has come to without a fault. -/
theorem scan_append {e middle : Expansion} {s : Text} (h : e.scan ctx s = (middle, none))
    (t : Text) : e.scan ctx (s ++ t) = middle.scan ctx t := by
  induction s generalizing e with
  | nil => cases h; rfl
  | cons c rest ih =>
    simp only [List.cons_append, scan] at h ⊢
    cases hadvance : e.advance ctx c with
    | error fault => rw [hadvance] at h; cases h
    | ok next => rw [hadvance] at h; exact ih h

end Expansion

/-! ### The actions of a template -/

/-- The actions of a template in the context of a match, in order. -/
def actions (ctx : Context) (template : Text) : List Action :=
  (Token.readAll template).map (Token.action ctx)

/-- The first fault of a template, which is known without a match. -/
def firstFault? (template : Text) : Option Fault :=
  (Token.readAll template).findSome? Token.fault?

/-- The empty template has no actions. -/
@[simp]
theorem actions_nil (ctx : Context) : actions ctx [] = [] := by
  simp [actions]

/-- The empty template has no fault. -/
@[simp]
theorem firstFault?_nil : firstFault? [] = none := by
  simp [firstFault?]

/-- The text by tokens is what the actions write, with its pairs joined. -/
theorem textByTokens_eq (ctx : Context) (template : Text) :
    textByTokens ctx template = Text.join (CaseMode.keep.writeAll (actions ctx template)) := by
  rw [textByTokens, CaseBuffer.text_eq, CaseBuffer.performTokens_eq, CaseBuffer.written_performAll]
  rfl

/-- A template without a backslash hands over its characters one by one. -/
theorem actions_of_not_mem (ctx : Context) {template : Text} (h : introducer ∉ template) :
    actions ctx template = template.map fun c => .emit [c] := by
  rw [actions, Token.readAll_of_not_mem h, List.map_map]
  rfl

/-- A template without a backslash writes itself. -/
theorem writeAll_actions_of_not_mem (ctx : Context) {template : Text} (h : introducer ∉ template) :
    CaseMode.keep.writeAll (actions ctx template) = template := by
  rw [actions_of_not_mem ctx h]
  exact CaseMode.keep_writeAll_characters template

/-- A template without a backslash has no fault. -/
theorem firstFault?_of_not_mem {template : Text} (h : introducer ∉ template) :
    firstFault? template = none := by
  simp [firstFault?, Token.readAll_of_not_mem h, List.findSome?_eq_none_iff, Token.fault?]

/-- What is known of a part of a template after which no control is unfinished. -/
structure Settled (ctx : Context) (part : Text) (output : CaseBuffer) : Prop where
  state : (ScanState.literal.completeAll part).1 = .literal
  fault : firstFault? part = none
  mode : output.mode = CaseMode.keep.nextAll (actions ctx part)
  written : output.written = CaseMode.keep.writeAll (actions ctx part)

namespace Settled

variable {ctx : Context} {part : Text} {output : CaseBuffer}

/-- A scan from the start that ends with no control unfinished has performed the actions of the part
and met no fault. -/
theorem of_scan (h : Expansion.initial.scan ctx part = (⟨.literal, output⟩, none)) :
    Settled ctx part output := by
  obtain ⟨performed, hrun, houtput⟩ := Expansion.exists_run_of_scan h
  obtain ⟨hstate, hfault, hactions⟩ :=
    ScanState.completeAll_of_run ScanState.wellFormed_literal hrun
  -- With nothing unfinished, the tokens of the scan are those of the lookahead parser.
  have hread : Token.readAll part = (ScanState.literal.completeAll part).2 :=
    Token.readAll_of_completeAll hstate
  have hperformed : output = CaseBuffer.empty.performAll (actions ctx part) := by
    rw [actions, hread]
    exact houtput.trans (congrArg _ hactions.symm)
  refine ⟨hstate, ?_, ?_, ?_⟩
  · rw [firstFault?, hread]
    exact hfault
  · rw [hperformed, CaseBuffer.mode_performAll]
    rfl
  · rw [hperformed, CaseBuffer.written_performAll]
    rfl

/-- The actions of the rest come behind those of the part. -/
theorem actions_append (h : Settled ctx part output) (rest : Text) :
    actions ctx (part ++ rest) = actions ctx part ++ actions ctx rest := by
  simp only [actions, Token.readAll_append h.state, List.map_append]

/-- A fault behind the part is the fault of the whole. -/
theorem firstFault?_append (h : Settled ctx part output) (rest : Text) :
    firstFault? (part ++ rest) = firstFault? rest := by
  have hpart : (Token.readAll part).findSome? Token.fault? = none := h.fault
  simp only [firstFault?, Token.readAll_append h.state, List.findSome?_append, hpart,
    Option.none_or]

/-- The text of the whole template before pairs are joined. -/
theorem writeAll_append (h : Settled ctx part output) (rest : Text) :
    CaseMode.keep.writeAll (actions ctx (part ++ rest))
      = output.written ++ output.mode.writeAll (actions ctx rest) := by
  rw [h.actions_append, CaseMode.writeAll_append, ← h.mode, ← h.written]

end Settled

namespace Builder

variable (b : Builder) {ctx : Context}

/-- The answer for a template with a backslash: its first fault, or what its actions write. -/
theorem build_eq_actions (hvalid : ctx.regex.isValid = true) {template : Text}
    (hcontrol : introducer ∈ template) :
    (b.build ctx template).1 =
      match firstFault? template with
      | some fault => .error fault
      | none => .ok ⟨true, Text.join (CaseMode.keep.writeAll (actions ctx template))⟩ := by
  rw [b.build_eq hvalid, if_pos hcontrol, textByTokens_eq]
  rfl

/-- A template without a backslash is its own text. -/
theorem build_of_not_mem (hvalid : ctx.regex.isValid = true) {template : Text}
    (hcontrol : introducer ∉ template) : (b.build ctx template).1 = .ok ⟨true, template⟩ := by
  simp [build, hvalid, hcontrol]

/-- A template without a fault fails for no match. -/
theorem build_ne_error {template : Text} (hok : firstFault? template = none) (ctx : Context)
    (fault : Fault) : (b.build ctx template).1 ≠ .error fault := by
  intro herror
  by_cases hvalid : ctx.regex.isValid = true
  · have hfault : firstFault? template = some fault := (b.build_eq_error_iff hvalid _ _).mp herror
    rw [hok] at hfault
    cases hfault
  · -- An invalid regex is refused by its own answer, which is no fault either.
    rw [b.build_of_not_valid (by simpa using hvalid)] at herror
    cases herror

/-- The answer for a template that is settled as a whole. -/
theorem build_of_settled (hvalid : ctx.regex.isValid = true) {template : Text} {output : CaseBuffer}
    (h : Settled ctx template output) (hcontrol : introducer ∈ template) :
    (b.build ctx template).1 = .ok ⟨true, output.text⟩ := by
  rw [b.build_eq_actions hvalid hcontrol, h.fault, ← h.written]
  rfl

/-- With a backslash or without, the answer is what the actions write, if pairs are joined. -/
theorem exists_build_of_firstFault? (hvalid : ctx.regex.isValid = true) {template : Text}
    (hok : firstFault? template = none) :
    ∃ text, (b.build ctx template).1 = .ok ⟨true, text⟩
      ∧ Text.join text = Text.join (CaseMode.keep.writeAll (actions ctx template)) := by
  by_cases hcontrol : introducer ∈ template
  · refine ⟨_, ?_, Text.join_join _⟩
    rw [b.build_eq_actions hvalid hcontrol, hok]
  · -- Here the pairs are not joined, since nothing is scanned.
    refine ⟨template, b.build_of_not_mem hvalid hcontrol, ?_⟩
    rw [writeAll_actions_of_not_mem ctx hcontrol]

/-- The answer for a part that stands alone is what has been written, if pairs are joined. -/
theorem exists_build_of_settled (hvalid : ctx.regex.isValid = true) {part : Text}
    {output : CaseBuffer} (h : Settled ctx part output) :
    ∃ text, (b.build ctx part).1 = .ok ⟨true, text⟩
      ∧ Text.join text = Text.join output.written := by
  rw [h.written]
  exact b.exists_build_of_firstFault? hvalid h.fault

end Builder

end RegexSubst.Template
