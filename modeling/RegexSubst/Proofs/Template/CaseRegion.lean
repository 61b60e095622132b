import RegexSubst.Proofs.Text.Casing
import RegexSubst.Proofs.Template.Composition

/-!
# `RegexSubst.Proofs.Template.CaseRegion`: what stands under a case change

A case change that is not for the next segment alone lasts until it is ended or the template ends.
Requests in between are dropped. Every segment is changed on its own, which shows for lower-casing,
where a capital sigma looks at its segment, but not for upper-casing.

* `Expansion.handed` are the segments of a text before they are changed, and
  `Expansion.handed_of_run` says that they do not depend on the mode.
* `CaseRegion` is what a region adds to the template in front of it, and `caseRegion_of_run` proves
  it for every lasting mode.
* `build_case_region` is the statement for upper-casing and lower-casing.
-/

set_option autoImplicit false

namespace RegexSubst.Template

/-- The segments that an expansion hands to its output while it reads a text, as they are before the
output changes them. -/
def Expansion.handed (ctx : Context) (e : Expansion) : Text → List Text
  | [] => []
  | c :: rest =>
    match e.state.step ctx c with
    | .ok (state, action) =>
      (action.bind Action.segment?).toList
        ++ Expansion.handed ctx ⟨state, action.elim e.output e.output.perform⟩ rest
    | .error _ => []

/-- The segments are those of the actions of the run, whatever the output holds and whichever mode
is active. -/
theorem Expansion.handed_of_run {ctx : Context} {e : Expansion} {t : Text} {last : ScanState}
    {actions : List Action} (h : e.state.run ctx t = .ok (last, actions)) :
    e.handed ctx t = actions.filterMap Action.segment? := by
  induction t generalizing e actions with
  | nil => cases h; rfl
  | cons c rest ih =>
    obtain ⟨next, action, others, hstep, hrest, rfl⟩ := ScanState.exists_step_of_run h
    simp only [handed, hstep, List.filterMap_append]
    -- The rest begins with another output, which the segments do not show.
    rw [ih (e := ⟨_, _⟩) hrest]
    cases action with
    | none => rfl
    | some action => cases action <;> rfl

/-- What a case change by the letter `letter` makes of the part `q` of a template. The part `p` in
front of it leaves the output `before` and has the answer `first`; `contribution` is what is written
for `q`. -/
structure CaseRegion (b : Builder) (ctx : Context) (p q : Text) (before : CaseBuffer) (first : Text)
    (letter : CodePoint) (mode : CaseMode) (contribution : Text) : Prop where
  /-- The mode is active from the beginning of `q` to its end: no request in `q` counts. -/
  active : ∀ read rest, q = read ++ rest →
    ∃ e, Expansion.initial.scan ctx (p ++ [introducer, letter] ++ read) = (e, none)
      ∧ e.output.mode = mode
  /-- When the mode has been ended, there is none, and the contribution stands behind what `p` has
  written. -/
  ended : ∃ after, Expansion.initial.scan ctx
        (p ++ [introducer, letter] ++ q ++ [introducer, CodePoint.ofChar 'E'])
      = (⟨.literal, after⟩, none)
    ∧ after.mode = .keep ∧ after.written = before.written ++ contribution
  /-- The answer if the mode is not ended. -/
  answer : (b.build ctx (p ++ [introducer, letter] ++ q)).1
    = .ok ⟨true, Text.join (first ++ contribution)⟩
  /-- The answer if the mode is ended. -/
  answer_ended :
    (b.build ctx (p ++ [introducer, letter] ++ q ++ [introducer, CodePoint.ofChar 'E'])).1
      = .ok ⟨true, Text.join (first ++ contribution)⟩

section

variable {ctx : Context} {p q : Text} {before : CaseBuffer} {letter : CodePoint} {mode : CaseMode}

/-- A text behind the control of a lasting mode, scanned from where no mode is active. -/
theorem scan_region (hscan : Expansion.initial.scan ctx p = (⟨.literal, before⟩, none))
    (hopen : ScanState.literal.run ctx [introducer, letter] = .ok (.literal, [.requestCase mode]))
    {t : Text} {last : ScanState} {actions : List Action}
    (hrun : ScanState.literal.run ctx t = .ok (last, actions)) :
    Expansion.initial.scan ctx (p ++ [introducer, letter] ++ t)
      = (⟨last, before.performAll (.requestCase mode :: actions)⟩, none) := by
  rw [List.append_assoc, Expansion.scan_append hscan]
  exact Expansion.scan_of_run (e := ⟨_, _⟩) (ScanState.run_append hopen hrun)

/-- A request for a lasting mode holds to the end of the actions if none of them ends it. -/
theorem mode_region (hkeep : before.mode = .keep) (hmode : mode.Lasting) {actions : List Action}
    (hend : .endCase ∉ actions) :
    (before.performAll (.requestCase mode :: actions)).mode = mode := by
  rw [CaseBuffer.mode_performAll, hkeep]
  exact CaseMode.nextAll_of_lasting hmode hend

/-- What is written meanwhile are the segments, each changed by the mode. -/
theorem written_region (hkeep : before.mode = .keep) (hmode : mode.Lasting) {actions : List Action}
    (hend : .endCase ∉ actions) :
    (before.performAll (.requestCase mode :: actions)).written
      = before.written ++ (actions.filterMap Action.segment?).flatMap mode.apply := by
  rw [CaseBuffer.written_performAll, hkeep, ← CaseMode.writeAll_of_lasting hmode hend]
  rfl

/-- The region of a lasting mode. -/
theorem caseRegion_of_run (b : Builder) {first : Text} {actions : List Action}
    (hvalid : ctx.regex.isValid = true)
    (hscan : Expansion.initial.scan ctx p = (⟨.literal, before⟩, none))
    (hkeep : before.mode = .keep) (hfirst : Text.join first = Text.join before.written)
    (hopen : ScanState.literal.run ctx [introducer, letter] = .ok (.literal, [.requestCase mode]))
    (hmode : mode.Lasting) (hrun : ScanState.literal.run ctx q = .ok (.literal, actions))
    (hend : .endCase ∉ actions) :
    CaseRegion b ctx p q before first letter mode
      ((actions.filterMap Action.segment?).flatMap mode.apply) := by
  let inside := before.performAll (.requestCase mode :: actions)
  have hopened : Expansion.initial.scan ctx (p ++ [introducer, letter] ++ q)
      = (⟨.literal, inside⟩, none) := scan_region hscan hopen hrun
  have hended : Expansion.initial.scan ctx
      (p ++ [introducer, letter] ++ q ++ [introducer, CodePoint.ofChar 'E'])
        = (⟨.literal, inside.clear⟩, none) := Expansion.scan_append hopened _
  have hwritten := written_region hkeep hmode hend
  -- The end of the region changes the mode and writes nothing, so both answers are the same.
  have hjoin : inside.text = Text.join (first
      ++ (actions.filterMap Action.segment?).flatMap mode.apply) := by
    rw [CaseBuffer.text_eq, hwritten, Text.join_append_congr hfirst.symm rfl]
  exact {
    active := by
      intro read rest hq
      rw [hq] at hrun
      -- The part read so far is a run of its own, and it does not end the mode either.
      obtain ⟨middle, done, left, hread, -, hactions⟩ := ScanState.exists_run_of_append hrun
      have hdone : .endCase ∉ done := fun hmem => hend (by simp [hactions, hmem])
      exact ⟨_, scan_region hscan hopen hread, mode_region hkeep hmode hdone⟩
    ended := ⟨inside.clear, hended, rfl, hwritten⟩
    answer := by
      rw [b.build_of_settled hvalid (.of_scan hopened) (by simp), hjoin]
    answer_ended := by
      rw [b.build_of_settled hvalid (.of_scan hended) (by simp), ← hjoin]
      rfl }

end

/-- The text under a case change. Behind a part `p` that leaves no control unfinished and no mode
active, let `q` be a part that leaves no control unfinished, has no fault and does not end a case
change. The segments of `q` are the same under every mode. With upper-casing requested in front of
`q`, the upper-case form of all of them together is written, and with lower-casing the lower-case
form of each of them. In both cases no request in `q` counts, and the whole answer is the answer for
`p` followed by what is written for `q`, with pairs joined, whether the change is ended or not. -/
theorem build_case_region (b : Builder) (ctx : Context) (p q : Text) (before : CaseBuffer)
    (actions : List Action) (hvalid : ctx.regex.isValid = true)
    (hscan : Expansion.initial.scan ctx p = (⟨.literal, before⟩, none))
    (hkeep : before.mode = .keep)
    (hrun : ScanState.literal.run ctx q = .ok (.literal, actions)) (hend : .endCase ∉ actions) :
    ∃ first segments, (b.build ctx p).1 = .ok ⟨true, first⟩
      ∧ (∀ output, Expansion.handed ctx ⟨.literal, output⟩ q = segments)
      ∧ CaseRegion b ctx p q before first 'U' .upper (Text.upper segments.flatten)
      ∧ CaseRegion b ctx p q before first 'L' .lower (segments.flatMap Text.lower) := by
  obtain ⟨first, hfirst, hjoin⟩ := b.exists_build_of_settled hvalid (.of_scan hscan)
  have hupper : CaseMode.upper.apply = Text.upper := funext CaseMode.upper_apply
  have hlower : CaseMode.lower.apply = Text.lower := funext CaseMode.lower_apply
  refine ⟨first, actions.filterMap Action.segment?, hfirst, ?_, ?_, ?_⟩
  · intro output
    exact Expansion.handed_of_run hrun
  · -- Upper-casing of the segments is upper-casing of all of them together.
    rw [Text.upper_flatten, ← hupper]
    exact caseRegion_of_run b hvalid hscan hkeep hjoin rfl (.inr rfl) hrun hend
  · rw [← hlower]
    exact caseRegion_of_run b hvalid hscan hkeep hjoin rfl (.inl rfl) hrun hend

/-- A low half, a letter with a long capital form behind a request, a group, one more request and a
control that goes wrong. -/
def mixedTemplate : Text := lowHalfEscape ++ "\\lß\\0\\L\\q"

/-- The actions of `mixedTemplate`. -/
def mixedActions : List Action :=
  [.emit [Text.lowHalf], .requestCase .lowerNext, .emit "ß", .emit "in 2024",
    .requestCase .lower, .emitRaw "\\q"]

/-- The requests inside of the region are dropped. Its low half joins the high half in front of it,
and `ß` becomes two letters only under upper-casing. -/
theorem build_case_region_halves :
    yearMatch.regex.isValid = true
      ∧ (∃ before, Expansion.initial.scan yearMatch [Text.highHalf] = (⟨.literal, before⟩, none)
        ∧ before.mode = .keep)
      ∧ ScanState.literal.run yearMatch mixedTemplate = .ok (.literal, mixedActions)
      ∧ .endCase ∉ mixedActions
      ∧ (Builder.fresh.build yearMatch
          ([Text.highHalf] ++ [introducer, CodePoint.ofChar 'U'] ++ mixedTemplate)).1
        = .ok ⟨true, "😀SSIN 2024\\Q"⟩
      ∧ (Builder.fresh.build yearMatch
          ([Text.highHalf] ++ [introducer, CodePoint.ofChar 'L'] ++ mixedTemplate
            ++ [introducer, CodePoint.ofChar 'E'])).1
        = .ok ⟨true, "😀ßin 2024\\q"⟩ := by
  have hscan : Expansion.initial.scan yearMatch [Text.highHalf]
      = (⟨.literal, ⟨.keep, #[[Text.highHalf]]⟩⟩, none) := rfl
  have hrun : ScanState.literal.run yearMatch mixedTemplate = .ok (.literal, mixedActions) :=
    except_eq_ok_of_toOption (by decide +kernel)
  have hend : Action.endCase ∉ mixedActions := by decide
  obtain ⟨first, segments, hfirst, hsegments, hupper, hlower⟩ :=
    build_case_region .fresh yearMatch [Text.highHalf] mixedTemplate _ _ rfl hscan rfl hrun hend
  -- The general statement is about these texts.
  have hhigh : first = [Text.highHalf] := by cases hfirst; rfl
  have hmixed : segments = mixedActions.filterMap Action.segment? :=
    (hsegments .empty).symm.trans (Expansion.handed_of_run hrun)
  subst hhigh hmixed
  have hcapital : Text.join ([Text.highHalf]
      ++ Text.upper (mixedActions.filterMap Action.segment?).flatten)
      = "😀SSIN 2024\\Q" := by decide +kernel
  have hsmall : Text.join ([Text.highHalf]
      ++ (mixedActions.filterMap Action.segment?).flatMap Text.lower)
      = "😀ßin 2024\\q" := by decide +kernel
  refine ⟨rfl, ⟨_, hscan, rfl⟩, hrun, hend, ?_, ?_⟩
  · rw [hupper.answer, hcapital]
  · rw [hlower.answer_ended, hsmall]

end RegexSubst.Template
