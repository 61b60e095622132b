import RegexSubst.Proofs.Template.Replacement

/-!
# `RegexSubst.Proofs.Template.Pending`: what the scanner has read and not yet written

A state in the middle of a control keeps the control as it has been read and, next to it, the name
or the digits in it. The two are kept by different steps and must agree.

* `ScanState.raw_of_step`: a control that goes wrong is written from its backslash to the current
  code point.
* `ScanState.flush_eq_some_iff`: at the end of a template an unfinished control is written as far as
  it has been read, and nothing else is.
* `scan_invariant`: what has been read is the source of the completed tokens and what the state
  keeps of the control, and every control that is written as it is stands in the template where the
  completed tokens end.
-/

set_option autoImplicit false

namespace RegexSubst.Template

/-- A token that is written as it is writes its source. -/
theorem Token.eq_source_of_action {ctx : Context} {token : Token} {raw : Text}
    (h : token.action ctx = .emitRaw raw) : raw = token.source := by
  -- Only a group that is not there makes a digit or a reference write its source.
  have hgroup (number : Int) (source : Text)
      (h : groupAction ctx number source = .emitRaw raw) : raw = source := by
    unfold groupAction at h
    grind
  cases token with
  | digit d => exact hgroup _ _ h
  | reference bracket name => exact hgroup _ _ h
  | malformed source => exact (Action.emitRaw.inj h).symm
  | _ => cases h

namespace ScanState

/-- What a state keeps of a control begins with the backslash. -/
theorem raw_of_wellFormed {state : ScanState} (h : state.WellFormed) (hstate : state ≠ .literal) :
    ∃ tail, state.raw = introducer :: tail := by
  cases state with
  | literal => exact absurd rfl hstate
  | control raw => exact ⟨_, h⟩
  | reference raw => exact ⟨_, h⟩
  | named raw bracket name => exact ⟨_, h.1⟩
  | hexPair raw digits => exact ⟨_, h.1⟩
  | hexBrace raw digits => exact ⟨_, h.1⟩

/-- A control that goes wrong is written from its backslash to the current code point. -/
theorem raw_of_step {ctx : Context} {state next : ScanState} {c : CodePoint} {raw : Text}
    (h : state.WellFormed) (hstep : state.step ctx c = .ok (next, some (.emitRaw raw))) :
    raw = state.raw ++ [c] ∧ state ≠ .literal := by
  have hraw := raw_complete h c
  constructor
  · rw [step_eq ctx h] at hstep
    cases hcomplete : state.complete c with
    | mk after token =>
      rw [hcomplete] at hstep hraw
      cases token with
      | none => cases hstep
      | some token =>
        -- Nothing is pending behind the token, so its source is all that was pending and `c`.
        have hafter : after = .literal := complete_fst_of_token hcomplete
        have haction : token.action ctx = .emitRaw raw := by
          unfold Transition.answer at hstep
          grind
        rw [Token.eq_source_of_action haction, ← hraw, hafter]
        simp [ScanState.raw]
  · -- The literal state begins a control or emits a character as such.
    rintro rfl
    unfold step Transition.toState Transition.finish at hstep
    grind

/-- An unfinished control is written as far as it has been read, and without one nothing is
written. -/
theorem flush_eq_some_iff (state : ScanState) (action : Action) :
    state.flush = some action ↔ state ≠ .literal ∧ action = .emitRaw state.raw := by
  unfold flush
  by_cases hstate : state = .literal
  · -- No control has been begun.
    rw [if_pos hstate]
    constructor
    · intro h
      cases h
    · rintro ⟨hnot, -⟩
      exact absurd hstate hnot
  · rw [if_neg hstate]
    constructor
    · intro h
      exact ⟨hstate, (Option.some.inj h).symm⟩
    · rintro ⟨-, rfl⟩
      rfl

end ScanState

/-- What holds of the expansion `e` after the part `read` of the template `read ++ rest`, in which
`tokens` have been completed. -/
structure ScanInvariant (ctx : Context) (read rest : Text) (e : Expansion) (tokens : List Token) :
    Prop where
  /-- What has been read is written by the completed tokens and by what the state keeps. -/
  source : read = tokens.flatMap Token.source ++ e.state.raw
  /-- The completed tokens are those of the grammar. -/
  grammar : Token.readAll read = tokens ++ e.state.unfinished
  /-- The completed tokens have been performed in order, and nothing else has. -/
  output : e.output = CaseBuffer.empty.performTokens ctx tokens
  /-- The state agrees with what it keeps of the control. -/
  wellFormed : e.state.WellFormed
  /-- A control that the next code point turns out to be none is written as it stands in the
  template, from the backslash behind the completed tokens to that code point. -/
  step : ∀ c after next raw, rest = c :: after →
    e.state.step ctx c = .ok (next, some (.emitRaw raw)) →
      read ++ rest = tokens.flatMap Token.source ++ raw ++ after
        ∧ raw = e.state.raw ++ [c] ∧ ∃ tail, raw = introducer :: tail
  /-- A control that the template leaves unfinished is written as it stands there, from the
  backslash behind the completed tokens to the end. -/
  flush : ∀ raw, rest = [] → e.state.flush = some (.emitRaw raw) →
    read ++ rest = tokens.flatMap Token.source ++ raw
      ∧ raw = e.state.raw ∧ ∃ tail, raw = introducer :: tail
  /-- Every unfinished control is written at the end, as what the state keeps of it, and if there is
  none nothing is written. -/
  flushed : ∀ action, e.state.flush = some action ↔
    e.state ≠ .literal ∧ action = .emitRaw e.state.raw

/-- The invariant of the scanner: it holds after every part of a template that has been read without
a fault, for every match. -/
theorem scan_invariant (ctx : Context) {read : Text} (rest : Text) {e : Expansion}
    (hscan : Expansion.initial.scan ctx read = (e, none)) :
    ∃ tokens, ScanInvariant ctx read rest e tokens := by
  have he := Expansion.eq_of_scan_initial hscan
  have hform := Expansion.wellFormed_of_scan_initial hscan
  let sources := (ScanState.literal.completeAll read).2.flatMap Token.source
  have hread : read = sources ++ e.state.raw := by
    rw [he]
    exact (ScanState.raw_completeAll ScanState.wellFormed_literal read).symm
  exact ⟨(ScanState.literal.completeAll read).2, {
    source := hread
    grammar := by
      rw [← ScanState.tokens_literal, he]
      rfl
    output := congrArg Expansion.output he
    wellFormed := hform
    step := by
      intro c after next raw hrest hstep
      -- What goes wrong begins where the completed tokens end, with what the state has kept.
      obtain ⟨hraw, hnot⟩ := ScanState.raw_of_step hform hstep
      obtain ⟨tail, htail⟩ := ScanState.raw_of_wellFormed hform hnot
      refine ⟨?_, hraw, tail ++ [c], by rw [hraw, htail]; rfl⟩
      calc read ++ rest = sources ++ e.state.raw ++ c :: after := by rw [hrest, ← hread]
        _ = sources ++ raw ++ after := by rw [hraw]; simp
    flush := by
      intro raw hrest hflush
      -- At the end all that has been read is behind the completed tokens or kept by the state.
      obtain ⟨hnot, haction⟩ := (e.state.flush_eq_some_iff _).mp hflush
      have hraw : raw = e.state.raw := Action.emitRaw.inj haction
      obtain ⟨tail, htail⟩ := ScanState.raw_of_wellFormed hform hnot
      refine ⟨?_, hraw, tail, by rw [hraw, htail]⟩
      rw [hrest, hraw, List.append_nil, ← hread]
    flushed := e.state.flush_eq_some_iff }⟩

/-- The invariant holds in the middle of a name, with the rest of the name still to come. -/
theorem scan_invariant_year :
    ∃ e, Expansion.initial.scan yearMatch "a\\g\x7bye" = (e, none)
      ∧ ∃ tokens, ScanInvariant yearMatch "a\\g\x7bye" "ar" e tokens := by
  have hok : (Expansion.initial.scan yearMatch "a\\g\x7bye").2 = none := by decide +kernel
  have hscan : Expansion.initial.scan yearMatch "a\\g\x7bye" = (_, none) := Prod.ext rfl hok
  exact ⟨_, hscan, scan_invariant yearMatch "ar" hscan⟩

end RegexSubst.Template
