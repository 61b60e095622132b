import RegexSubst.Proofs.Template.Replacement

/-!
# `RegexSubst.Proofs.Template.TwoMatches`: the same template for two matches

The text of a match, the spans of its groups and the names of the regex say what a control writes.
They do not say where a control ends: two scans of one template for different matches go through the
same states.

* `ScanState.outline_step`: the next state, the number of segments and the fault of a step do not
  depend on the match.
* `Expansion.outline_scan` says so of a whole scan, for outputs and case modes that may differ.
* `trace_two_matches` is the statement about two builds.
-/

set_option autoImplicit false

namespace RegexSubst.Template

/-- The number of segments that an action writes. -/
def Action.segmentCount : Action → Nat
  | .emit _ => 1
  | .emitRaw _ => 1
  | .requestCase _ => 0
  | .endCase => 0

/-- The state after a code point and the number of segments that the code point wrote. -/
def Snapshot.outline (s : Snapshot) : ScanState × Nat :=
  (s.expansion.state, s.emitted.length)

/-- An output grows by the segments of the action, in every mode. -/
theorem CaseBuffer.size_perform (b : CaseBuffer) (action : Action) :
    (b.perform action).segments.size = b.segments.size + action.segmentCount := by
  cases action <;> simp [perform, append, transform, request, clear, Action.segmentCount]

namespace ScanState

/-- What a transition does that can be seen without the match. -/
def Transition.outline (t : Transition) : Except Fault (ScanState × Nat) :=
  t.map fun p => (p.1, p.2.elim 0 Action.segmentCount)

open Transition

/-- A reference writes one segment, whether there is a group for it or not. -/
theorem outline_capture (ctx : Context) (number : Int) (raw : Text) :
    (capture ctx number raw).outline = .ok (.literal, 1) := by
  have hcount : (Token.groupAction ctx number raw).segmentCount = 1 := by
    unfold Token.groupAction
    split
    · rfl
    · split <;> rfl
  -- With a group or without, the control ends.
  rw [capture_eq]
  simp [outline, finish, Except.map, hcount]

/-- The character behind the backslash leads to the same state in both matches, and writes as many
segments. -/
theorem outline_classify (ctx₁ ctx₂ : Context) (c : CodePoint) (raw : Text) :
    (classify ctx₁ c raw).outline = (classify ctx₂ c raw).outline := by
  unfold classify
  by_cases hdigit : isAsciiDigit [c] = true
  · -- A digit is the only character whose meaning is looked up in the match.
    simp only [if_pos hdigit]
    cases readNumber 10 [c] with
    | ok number => simp only [except_bind_ok, outline_capture]
    | error fault => rfl
  · simp only [if_neg hdigit]

/-- A character in a name leads to the same state in both matches, and writes as many segments. -/
theorem outline_continueReference (ctx₁ ctx₂ : Context) (bracket : Bracket) (name : Text)
    (c : CodePoint) (raw : Text) :
    (continueReference ctx₁ bracket name c raw).outline
      = (continueReference ctx₂ bracket name c raw).outline := by
  unfold continueReference
  by_cases hclose : c = bracket.closing
  · -- The two regexes may resolve the name differently, but they refuse it together.
    simp only [if_pos hclose, resolveGroup_eq]
    cases Token.isOverlong name with
    | true => rfl
    | false => simp only [Bool.false_eq_true, if_false, except_bind_ok, outline_capture]
  · simp only [if_neg hclose]

/-- The next state, the number of segments and the fault of a step do not depend on the match. -/
theorem outline_step (ctx₁ ctx₂ : Context) (state : ScanState) (c : CodePoint) :
    (state.step ctx₁ c).outline = (state.step ctx₂ c).outline := by
  cases state with
  | literal => rfl
  -- Only where a digit or a name is completed is the match looked at; the other states read the
  -- template alone.
  | control raw => exact outline_classify ctx₁ ctx₂ c _
  | reference raw => rfl
  | named raw bracket name => exact outline_continueReference ctx₁ ctx₂ bracket name c _
  | hexPair raw digits => rfl
  | hexBrace raw digits => rfl

end ScanState

namespace Expansion

/-- The state of `next` and the number of segments that it holds more than `e`. -/
def outlineFrom (e next : Expansion) : ScanState × Nat :=
  (next.state, next.output.segments.size - e.output.segments.size)

/-- What can be seen of an advance is what can be seen of its step. -/
theorem outline_advance (ctx : Context) (e : Expansion) (c : CodePoint) :
    (e.advance ctx c).map e.outlineFrom = (e.state.step ctx c).outline := by
  unfold advance
  cases e.state.step ctx c with
  | error fault => rfl
  | ok p =>
    obtain ⟨next, action⟩ := p
    cases action with
    | none => simp [ScanState.Transition.outline, Except.map, outlineFrom]
    | some action =>
      simp [ScanState.Transition.outline, Except.map, outlineFrom, CaseBuffer.size_perform]

/-- Two scans that begin in the same state go through the same states, write the same number of
segments at every code point and meet the same fault, whatever their outputs hold. -/
theorem outline_scan (ctx₁ ctx₂ : Context) (e₁ e₂ : Expansion) (h : e₁.state = e₂.state)
    (t : Text) :
    (snapshots ctx₁ e₁ t).map Snapshot.outline = (snapshots ctx₂ e₂ t).map Snapshot.outline
      ∧ (e₁.scan ctx₁ t).2 = (e₂.scan ctx₂ t).2 := by
  induction t generalizing e₁ e₂ with
  | nil => exact ⟨rfl, rfl⟩
  | cons c rest ih =>
    have hstep : (e₁.advance ctx₁ c).map e₁.outlineFrom
        = (e₂.advance ctx₂ c).map e₂.outlineFrom := by
      rw [outline_advance, outline_advance, h]
      exact ScanState.outline_step ctx₁ ctx₂ e₂.state c
    simp only [snapshots, scan]
    -- One of the two alone cannot fail, because the outlines of their steps are equal.
    cases hadvance₁ : e₁.advance ctx₁ c with
    | error fault₁ =>
      cases hadvance₂ : e₂.advance ctx₂ c with
      | error fault₂ =>
        rw [hadvance₁, hadvance₂] at hstep
        exact ⟨rfl, congrArg some (Except.error.inj hstep)⟩
      | ok next₂ =>
        rw [hadvance₁, hadvance₂] at hstep
        cases hstep
    | ok next₁ =>
      cases hadvance₂ : e₂.advance ctx₂ c with
      | error fault₂ =>
        rw [hadvance₁, hadvance₂] at hstep
        cases hstep
      | ok next₂ =>
        rw [hadvance₁, hadvance₂] at hstep
        obtain ⟨hstate, hcount⟩ := Prod.mk.inj (Except.ok.inj hstep)
        obtain ⟨hsnapshots, hfault⟩ := ih _ _ hstate
        refine ⟨?_, hfault⟩
        simp only [List.map_cons, hsnapshots]
        simp [Snapshot.outline, hstate, hcount]

end Expansion

/-- A match without groups in a text that looks like a control. -/
def controlMatch : Context := ⟨⟨true, fun _ => -1⟩, "\\g\x7b0", []⟩

/-- What is captured never steers the scanner. For any two matches, with regexes that can be used,
the builds of a template with a backslash are in the same state after every code point and write the
same number of segments at every code point; after every part of the template one of them has failed
exactly if the other has, with the same fault; and so one build fails exactly if the other does. -/
theorem trace_two_matches (b₁ b₂ : Builder) (ctx₁ ctx₂ : Context) (template : Text)
    (hvalid₁ : ctx₁.regex.isValid = true) (hvalid₂ : ctx₂.regex.isValid = true)
    (hcontrol : introducer ∈ template) :
    (trace ctx₁ template).map Snapshot.outline = (trace ctx₂ template).map Snapshot.outline
      ∧ (∀ read rest, template = read ++ rest →
        (Expansion.initial.scan ctx₁ read).2 = (Expansion.initial.scan ctx₂ read).2)
      ∧ ∀ fault, (b₁.build ctx₁ template).1 = .error fault
        ↔ (b₂.build ctx₂ template).1 = .error fault := by
  have hscan (t : Text) := Expansion.outline_scan ctx₁ ctx₂ .initial .initial rfl t
  have hcontains : template.contains introducer = true := by simpa using hcontrol
  refine ⟨?_, fun read _ _ => (hscan read).2, ?_⟩
  · simp only [trace, hvalid₁, hvalid₂, hcontains, Bool.and_self, if_true]
    exact (hscan template).1
  · intro fault
    -- The faults of a template are known without a match.
    rw [b₁.build_eq_error_iff hvalid₁, b₂.build_eq_error_iff hvalid₂]

/-- The second match has no groups, and its text looks like a control that is not finished. -/
theorem trace_two_matches_year :
    yearMatch.regex.isValid = true ∧ controlMatch.regex.isValid = true
      ∧ introducer ∈ yearTemplate
      ∧ (trace yearMatch yearTemplate).map Snapshot.outline
        = (trace controlMatch yearTemplate).map Snapshot.outline
      ∧ (∀ read rest, yearTemplate = read ++ rest →
        (Expansion.initial.scan yearMatch read).2 = (Expansion.initial.scan controlMatch read).2)
      ∧ ∀ fault, (Builder.fresh.build yearMatch yearTemplate).1 = .error fault
        ↔ (Builder.fresh.build controlMatch yearTemplate).1 = .error fault := by
  have hcontrol : introducer ∈ yearTemplate := by decide
  exact ⟨rfl, rfl, hcontrol,
    trace_two_matches .fresh .fresh yearMatch controlMatch yearTemplate rfl rfl hcontrol⟩

end RegexSubst.Template
