import RegexSubst.Proofs.Template.Output

/-!
# `RegexSubst.Proofs.Template.CaseCalls`: the mode of a case buffer over its calls

A case buffer has one mode. A request counts only while there is none, and a mode is over when it is
cleared or, if it is for the next segment alone, when a segment that is not empty has come. So the
mode is always the first one that has been requested since the last such reset.

* `CaseCall` are the calls, `CaseBuffer.callAll` runs them and `CaseBuffer.answers` are the changed
  segments.
* `CaseBuffer.Resets` and `LastReset`: which calls are resets depends on the mode, so the last reset
  is found along the run, and `exists_lastReset` finds it.
* `CaseBuffer.mode_call_of_resets` and `CaseBuffer.mode_call_of_not_resets` are one call;
  `CaseBuffer.mode_callAll` is a run without a reset.
* `ChangesNextSegment` is what a request for the next segment does to all later segments.
* `first_request_wins` is the statement about all runs.
-/

set_option autoImplicit false

namespace RegexSubst.Template

/-- A call of a case buffer. -/
inductive CaseCall
  /-- Asks for a mode that changes segments. -/
  | request (mode : CaseMode) (changes : mode ≠ .keep)
  /-- Ends the mode. -/
  | clear
  /-- Changes a segment and returns it. -/
  | transform (segment : Text)
  /-- Changes a segment and writes it. -/
  | append (segment : Text)

namespace CaseCall

/-- The mode that a call asks for. -/
def requested? : CaseCall → Option CaseMode
  | .request mode _ => some mode
  | _ => none

/-- The segment that a call hands over. -/
def segment? : CaseCall → Option Text
  | .transform segment | .append segment => some segment
  | _ => none

/-- A call after which a mode for the next segment still waits: it hands over no segment that is not
empty, and does not clear the mode. -/
def LeavesWaiting (call : CaseCall) : Prop :=
  call ≠ .clear ∧ ∀ segment, call.segment? = some segment → segment = []

end CaseCall

namespace CaseBuffer

/-- The buffer after a call. -/
def call (b : CaseBuffer) : CaseCall → CaseBuffer
  | .request mode _ => b.request mode
  | .clear => b.clear
  | .transform segment => (b.transform segment).2
  | .append segment => b.append segment

/-- The changed segment of a call: what is returned, or what is written behind all else. -/
def answer? (b : CaseBuffer) : CaseCall → Option Text
  | .transform segment => some (b.transform segment).1
  | .append segment => (b.append segment).segments.back?
  | _ => none

/-- The buffer after some calls. -/
def callAll (b : CaseBuffer) (calls : List CaseCall) : CaseBuffer :=
  calls.foldl call b

/-- The changed segments of some calls, in order. -/
def answers (b : CaseBuffer) : List CaseCall → List Text
  | [] => []
  | call :: rest => (b.answer? call).toList ++ (b.call call).answers rest

/-- Whether a call is a reset: it clears the mode, or it hands over the segment that a mode for the
next segment has waited for. -/
def Resets (b : CaseBuffer) (call : CaseCall) : Prop :=
  call = .clear
    ∨ (b.mode = .lowerNext ∨ b.mode = .upperNext) ∧ ∃ c rest, call.segment? = some (c :: rest)

/-- Whether a call is a request that counts. -/
def Honours (b : CaseBuffer) (call : CaseCall) : Prop :=
  b.mode = .keep ∧ ∃ mode, call.requested? = some mode

/-- No call in the list does what `p` says where it is made. -/
def Never (b : CaseBuffer) (p : CaseBuffer → CaseCall → Prop) (calls : List CaseCall) : Prop :=
  ∀ before call after, calls = before ++ call :: after → ¬ p (b.callAll before) call

end CaseBuffer

/-- The calls `calls` of the buffer `b` are cut behind the last reset. The start is a reset too. -/
structure LastReset (b : CaseBuffer) (calls before since : List CaseCall) : Prop where
  split : calls = before ++ since
  reset : before = [] ∨ ∃ earlier call, before = earlier ++ [call] ∧ (b.callAll earlier).Resets call
  free : (b.callAll before).Never CaseBuffer.Resets since

/-- What becomes of the segments after a request for the next one has counted and left the buffer
`b`. The calls `waiting` hand over empty segments at most, and `call` hands over the segment
`c :: rest`. -/
structure ChangesNextSegment (b : CaseBuffer) (mode : CaseMode) (waiting : List CaseCall)
    (call : CaseCall) (c : CodePoint) (rest : Text) : Prop where
  /-- Empty segments stay empty. -/
  skipped : b.answers waiting = waiting.filterMap CaseCall.segment?
  /-- The first code point of the segment is changed and the others are not. -/
  changed : (b.callAll waiting).answer? call
    = some ((if mode = .lowerNext then c.lower else c.upper) ++ rest)
  /-- Segments stay as they are until a request counts again. -/
  unchanged : ∀ later, (b.callAll (waiting ++ [call])).Never CaseBuffer.Honours later →
    (b.callAll (waiting ++ [call])).answers later = later.filterMap CaseCall.segment?

namespace CaseBuffer

/-! ### One call -/

/-- A call that hands over a segment leaves the mode that holds behind the segment. -/
theorem mode_call_of_segment {b : CaseBuffer} {call : CaseCall} {segment : Text}
    (h : call.segment? = some segment) : (b.call call).mode = b.mode.after segment := by
  cases call <;> cases h <;> rfl

/-- Segments are changed as the mode says. -/
theorem answer?_eq (b : CaseBuffer) (call : CaseCall) :
    b.answer? call = call.segment?.map b.mode.apply := by
  cases call with
  | append segment => simp [answer?, append, transform, CaseCall.segment?]
  | _ => rfl

/-- Behind a reset there is no mode. -/
theorem mode_call_of_resets {b : CaseBuffer} {call : CaseCall} (h : b.Resets call) :
    (b.call call).mode = .keep := by
  rcases h with rfl | ⟨hmode, c, rest, hsegment⟩
  · rfl
  · rw [mode_call_of_segment hsegment]
    rcases hmode with hmode | hmode <;> rw [hmode] <;> rfl

/-- A segment that is not the one that a mode has waited for leaves the mode as it is. -/
theorem after_of_not_resets {b : CaseBuffer} {call : CaseCall} {segment : Text}
    (hsegment : call.segment? = some segment) (h : ¬ b.Resets call) :
    b.mode.after segment = b.mode := by
  cases segment with
  -- An empty segment leaves every mode as it is.
  | nil => cases b.mode <;> rfl
  | cons c rest =>
    cases hmode : b.mode with
    | lowerNext => exact absurd (.inr ⟨.inl hmode, c, rest, hsegment⟩) h
    | upperNext => exact absurd (.inr ⟨.inr hmode, c, rest, hsegment⟩) h
    | _ => rfl

/-- A call that is no reset leaves a mode as it is, and where there is none only a request begins
one. -/
theorem mode_call_of_not_resets {b : CaseBuffer} {call : CaseCall} (h : ¬ b.Resets call) :
    (b.call call).mode = if b.mode = .keep then call.requested?.getD .keep else b.mode := by
  cases hsegment : call.segment? with
  | some segment =>
    have hrequested : call.requested? = none := by cases call <;> first | rfl | cases hsegment
    rw [mode_call_of_segment hsegment, after_of_not_resets hsegment h, hrequested]
    split
    · assumption
    · rfl
  | none =>
    cases call with
    -- A request counts only if there is no mode.
    | request mode changes =>
      show b.mode.request mode = _
      cases b.mode <;> rfl
    | clear => exact absurd (.inl rfl) h
    | transform segment => cases hsegment
    | append segment => cases hsegment

/-- A call leads from a mode to none, or the mode stays. -/
theorem mode_call_cases (b : CaseBuffer) (call : CaseCall) :
    (b.call call).mode = b.mode ∨ b.mode = .keep ∨ (b.call call).mode = .keep := by
  by_cases hreset : b.Resets call
  · exact .inr (.inr (mode_call_of_resets hreset))
  · rw [mode_call_of_not_resets hreset]
    by_cases hkeep : b.mode = .keep
    · exact .inr (.inl hkeep)
    · exact .inl (if_neg hkeep)

/-- Only clearing ends a mode that is not for the next segment alone. -/
theorem eq_clear_of_lasting {b : CaseBuffer} {call : CaseCall} (h : b.mode.Lasting)
    (hmode : (b.call call).mode ≠ b.mode) : call = .clear := by
  by_cases hreset : b.Resets call
  · rcases hreset with hclear | ⟨hnext, -⟩
    · exact hclear
    · rcases h with h | h <;> rw [h] at hnext <;> simp at hnext
  · have hkeep : b.mode ≠ .keep := by rcases h with h | h <;> rw [h] <;> decide
    rw [mode_call_of_not_resets hreset, if_neg hkeep] at hmode
    exact absurd rfl hmode

/-! ### Runs -/

/-- Calls in two parts are made one part after the other. -/
theorem callAll_append (b : CaseBuffer) (first second : List CaseCall) :
    b.callAll (first ++ second) = (b.callAll first).callAll second :=
  List.foldl_append

/-- Without calls nothing happens. -/
@[simp]
theorem never_nil (b : CaseBuffer) (p : CaseBuffer → CaseCall → Prop) : b.Never p [] := by
  intro before call after h
  simp at h

/-- What never happens happens neither at the first call nor behind it. -/
@[simp]
theorem never_cons {b : CaseBuffer} {p : CaseBuffer → CaseCall → Prop} {call : CaseCall}
    {rest : List CaseCall} :
    b.Never p (call :: rest) ↔ ¬ p b call ∧ (b.call call).Never p rest := by
  constructor
  · intro h
    refine ⟨h [] call rest rfl, ?_⟩
    intro before next after hrest
    exact h (call :: before) next after (by rw [hrest]; rfl)
  · rintro ⟨hcall, hrest⟩ before next after h
    cases before with
    | nil => cases h; exact hcall
    | cons head tail => cases h; exact hrest tail next after rfl

/-- In a run without a reset, a mode that is there stays, and if there is none the first request
decides. -/
theorem mode_callAll {b : CaseBuffer} {calls : List CaseCall} (h : b.Never Resets calls) :
    (b.callAll calls).mode =
      if b.mode = .keep then (calls.findSome? CaseCall.requested?).getD .keep else b.mode := by
  induction calls generalizing b with
  | nil =>
    show b.mode = if b.mode = .keep then .keep else b.mode
    split
    · assumption
    · rfl
  | cons call rest ih =>
    obtain ⟨hcall, hrest⟩ := never_cons.mp h
    show ((b.call call).callAll rest).mode = _
    rw [ih hrest, mode_call_of_not_resets hcall, List.findSome?_cons]
    by_cases hkeep : b.mode = .keep
    · -- The call begins a mode if it is a request; otherwise the rest decides.
      cases call with
      | request mode changes => simp [hkeep, CaseCall.requested?, changes]
      | _ => simp [hkeep, CaseCall.requested?]
    · simp [hkeep]

/-- A mode waits as long as no segment comes that is not empty. -/
theorem callAll_waiting {b : CaseBuffer} {calls : List CaseCall} (h : b.mode ≠ .keep)
    (hcalls : ∀ call ∈ calls, call.LeavesWaiting) :
    (b.callAll calls).mode = b.mode
      ∧ b.answers calls = calls.filterMap CaseCall.segment? := by
  induction calls generalizing b with
  | nil => exact ⟨rfl, rfl⟩
  | cons call rest ih =>
    obtain ⟨hclear, hempty⟩ := hcalls call (by simp)
    -- The call is no reset: it neither clears nor hands over what the mode waits for.
    have hreset : ¬ b.Resets call := by
      rintro (hc | ⟨-, c, others, hsegment⟩)
      · exact hclear hc
      · cases hempty _ hsegment
    have hmode : (b.call call).mode = b.mode := by
      rw [mode_call_of_not_resets hreset, if_neg h]
    obtain ⟨hrest, hanswers⟩ := ih (b := b.call call) (hmode ▸ h)
      fun other hother => hcalls other (by simp [hother])
    refine ⟨hrest.trans hmode, ?_⟩
    rw [answers, hanswers, answer?_eq]
    cases hsegment : call.segment? with
    | none => simp [hsegment]
    | some segment =>
      -- Every mode leaves an empty segment empty.
      cases hempty segment hsegment
      have happly : b.mode.apply [] = [] := by cases b.mode <;> rfl
      simp [hsegment, happly]

/-- Without a mode, segments are given back as they are until a request counts. -/
theorem answers_of_never_honours {b : CaseBuffer} {calls : List CaseCall} (h : b.mode = .keep)
    (hcalls : b.Never Honours calls) : b.answers calls = calls.filterMap CaseCall.segment? := by
  induction calls generalizing b with
  | nil => rfl
  | cons call rest ih =>
    obtain ⟨hcall, hrest⟩ := never_cons.mp hcalls
    have hrequested : call.requested? = none := by
      rw [Option.eq_none_iff_forall_ne_some]
      intro mode hmode
      exact hcall ⟨h, mode, hmode⟩
    -- The call neither finds a mode nor begins one.
    have hmode : (b.call call).mode = .keep := by
      by_cases hreset : b.Resets call
      · exact mode_call_of_resets hreset
      · rw [mode_call_of_not_resets hreset, if_pos h, hrequested]
        rfl
    rw [answers, ih hmode hrest, answer?_eq, h]
    cases hsegment : call.segment? with
    | none => simp [hsegment]
    | some segment => simp [hsegment]

end CaseBuffer

/-! ### The last reset and the first request -/

/-- Every run can be cut behind its last reset. -/
theorem exists_lastReset (b : CaseBuffer) (calls : List CaseCall) :
    ∃ before since, LastReset b calls before since := by
  induction calls generalizing b with
  | nil => exact ⟨[], [], rfl, .inl rfl, CaseBuffer.never_nil _ _⟩
  | cons call rest ih =>
    obtain ⟨before, since, hsplit, hbefore, hfree⟩ := ih (b.call call)
    rcases hbefore with rfl | ⟨earlier, last, rfl, hlast⟩
    · -- The rest has no reset, so the call is the last one, or there is none but the start.
      have hrest : rest = since := hsplit
      subst hrest
      by_cases hreset : b.Resets call
      · exact ⟨[call], rest, rfl, .inr ⟨[], call, rfl, hreset⟩, hfree⟩
      · exact ⟨[], call :: rest, rfl, .inl rfl, CaseBuffer.never_cons.mpr ⟨hreset, hfree⟩⟩
    · exact ⟨call :: (earlier ++ [last]), since, by rw [hsplit]; rfl,
        .inr ⟨call :: earlier, last, rfl, hlast⟩, hfree⟩

/-- Behind the last reset there is no mode, so the first request decides. -/
theorem LastReset.mode_eq {b : CaseBuffer} {calls before since : List CaseCall}
    (hb : b.mode = .keep) (h : LastReset b calls before since) :
    (b.callAll calls).mode = (since.findSome? CaseCall.requested?).getD .keep := by
  -- At the start there is no mode either, so both cases of the cut agree.
  have hkeep : (b.callAll before).mode = .keep := by
    rcases h.reset with rfl | ⟨earlier, call, rfl, hreset⟩
    · exact hb
    · rw [CaseBuffer.callAll_append]
      exact CaseBuffer.mode_call_of_resets hreset
  rw [h.split, CaseBuffer.callAll_append, CaseBuffer.mode_callAll h.free, if_pos hkeep]

/-- A request for the next segment changes the first segment that is not empty and no other. -/
theorem changesNextSegment {b : CaseBuffer} {mode : CaseMode} {waiting : List CaseCall}
    {call : CaseCall} {c : CodePoint} {rest : Text} (hb : b.mode = mode)
    (hmode : mode = .lowerNext ∨ mode = .upperNext) (hwaiting : ∀ w ∈ waiting, w.LeavesWaiting)
    (hcall : call.segment? = some (c :: rest)) :
    ChangesNextSegment b mode waiting call c rest := by
  have hchanges : b.mode ≠ .keep := by
    rw [hb]
    rcases hmode with rfl | rfl <;> decide
  obtain ⟨hwaited, hskipped⟩ := CaseBuffer.callAll_waiting hchanges hwaiting
  have hreset : (b.callAll waiting).Resets call := by
    refine .inr ⟨?_, c, rest, hcall⟩
    rw [hwaited, hb]
    exact hmode
  refine ⟨hskipped, ?_, ?_⟩
  · rw [CaseBuffer.answer?_eq, hcall, hwaited, hb]
    rcases hmode with rfl | rfl <;> rfl
  · intro later hlater
    refine CaseBuffer.answers_of_never_honours ?_ hlater
    rw [CaseBuffer.callAll_append]
    exact CaseBuffer.mode_call_of_resets hreset

/-- The first request wins. After all calls of a fresh buffer, the mode is the first one that has
been requested since the last reset, and there is none if none has. So no call leads from one mode
to another, and a mode that is not for the next segment alone ends only when it is cleared. If a
request for the next segment counts and is not cleared, it changes the first code point of the first
later segment that is not empty, and behind it all segments stay as they are until a request counts
again. -/
theorem first_request_wins (calls : List CaseCall) :
    (∃ before since, LastReset .empty calls before since)
      ∧ (∀ before since, LastReset .empty calls before since →
        (CaseBuffer.empty.callAll calls).mode
          = (since.findSome? CaseCall.requested?).getD .keep)
      ∧ (∀ call, (CaseBuffer.empty.callAll (calls ++ [call])).mode
            = (CaseBuffer.empty.callAll calls).mode
          ∨ (CaseBuffer.empty.callAll calls).mode = .keep
          ∨ (CaseBuffer.empty.callAll (calls ++ [call])).mode = .keep)
      ∧ (∀ call, (CaseBuffer.empty.callAll calls).mode.Lasting →
        (CaseBuffer.empty.callAll (calls ++ [call])).mode
            ≠ (CaseBuffer.empty.callAll calls).mode →
          call = .clear)
      ∧ ∀ mode changes waiting call c rest,
        (CaseBuffer.empty.callAll calls).Honours (.request mode changes) →
        mode = .lowerNext ∨ mode = .upperNext →
        (∀ w ∈ waiting, w.LeavesWaiting) → call.segment? = some (c :: rest) →
          ChangesNextSegment (CaseBuffer.empty.callAll (calls ++ [.request mode changes])) mode
            waiting call c rest := by
  refine ⟨exists_lastReset .empty calls, fun before since h => h.mode_eq rfl, ?_, ?_, ?_⟩
  · intro call
    rw [CaseBuffer.callAll_append]
    exact CaseBuffer.mode_call_cases _ call
  · intro call hlasting hmode
    rw [CaseBuffer.callAll_append] at hmode
    exact CaseBuffer.eq_clear_of_lasting hlasting hmode
  · intro mode changes waiting call c rest hhonours hnext hwaiting hcall
    have hmode : (CaseBuffer.empty.callAll (calls ++ [.request mode changes])).mode = mode := by
      rw [CaseBuffer.callAll_append]
      show (CaseBuffer.empty.callAll calls).mode.request mode = mode
      rw [hhonours.1]
      rfl
    exact changesNextSegment hmode hnext hwaiting hcall

/-- A mode that is cleared, and then a request for the next segment that counts, one that does not
and an empty segment. -/
def waitingCalls : List CaseCall :=
  [.request .upper (by decide), .append "ab", .clear, .append "C", .request .lowerNext (by decide),
    .request .upper (by decide), .transform []]

/-- The second request is not honoured, and the empty segment is not the one waited for: `WORD` is,
and what comes behind it stays as it is. -/
theorem first_request_wins_waiting :
    LastReset .empty waitingCalls (waitingCalls.take 3) (waitingCalls.drop 3)
      ∧ (CaseBuffer.empty.callAll waitingCalls).mode = .lowerNext
      ∧ (CaseBuffer.empty.callAll (waitingCalls.take 2)).mode.Lasting
      ∧ (CaseBuffer.empty.callAll (waitingCalls.take 4)).Honours
        (.request .lowerNext (by decide))
      ∧ (CaseBuffer.empty.callAll waitingCalls).answer? (.append "WORD") = some "wORD"
      ∧ (CaseBuffer.empty.callAll (waitingCalls ++ [.append "WORD"])).answers
        [.append "Up", .clear, .transform "X"] = [Text.ofString "Up", Text.ofString "X"] := by
  have hreset : LastReset .empty waitingCalls (waitingCalls.take 3) (waitingCalls.drop 3) := by
    refine ⟨rfl, .inr ⟨waitingCalls.take 2, .clear, rfl, .inl rfl⟩, ?_⟩
    -- The segment behind the last reset comes while there is no mode, and the other one is empty.
    refine CaseBuffer.never_cons.mpr ⟨?_, CaseBuffer.never_cons.mpr ⟨?_,
      CaseBuffer.never_cons.mpr ⟨?_, CaseBuffer.never_cons.mpr ⟨?_, CaseBuffer.never_nil _ _⟩⟩⟩⟩
    · rintro (h | ⟨h | h, -⟩) <;> cases h
    all_goals rintro (h | ⟨-, c, rest, h⟩) <;> cases h
  obtain ⟨-, hmode, -, -, -⟩ := first_request_wins waitingCalls
  obtain ⟨-, -, -, -, hnext⟩ := first_request_wins (waitingCalls.take 4)
  have hhonours : (CaseBuffer.empty.callAll (waitingCalls.take 4)).Honours
      (.request .lowerNext (by decide)) := ⟨rfl, .lowerNext, rfl⟩
  have hchanges := hnext .lowerNext (by decide) (waitingCalls.drop 5) (.append "WORD") 'W' "ORD"
    hhonours (.inl rfl) (by simp [waitingCalls, CaseCall.LeavesWaiting, CaseCall.segment?]) rfl
  refine ⟨hreset, hmode _ _ hreset, .inr rfl, hhonours, hchanges.changed, ?_⟩
  refine hchanges.unchanged _ ?_
  simp [CaseBuffer.Honours, CaseCall.requested?]

end RegexSubst.Template
