import RegexSubst.CommandLine.Run
import RegexSubst.Proofs.Template.Decoding
import RegexSubst.Proofs.Text.Utf8

/-!
# `RegexSubst.Proofs.CommandLine.Writing`: what can be written, and what a failure leaves

Standard output takes texts without surrogates, and only the empty one if it is full. Standard error
takes all lines, or those without surrogates. A run that cannot write says so in a line that every
standard error takes, so it ends with an exit code and not with an exception.

* `SurrogatePolicy.Accepts` and `World.Takes`: the lines of standard error and the texts of standard
  output.
* `Outcome.FailsAfter`: an outcome that is no success and has added nothing to standard output.
* `printReport_of_accepts`, `printReport_of_not_accepts`, `writeOutput_of_takes` and
  `writeOutput_of_not_takes`: the two ways in which a report and a result can end.
-/

set_option autoImplicit false

namespace RegexSubst.CommandLine

open RegexSubst.Text (encodable_append encodable_ofString)
open RegexSubst.Template (except_bind_ok except_bind_error)

/-! ### Lines on standard error -/

namespace SurrogatePolicy

/-- The lines that can be written to standard error. -/
def Accepts (policy : SurrogatePolicy) (line : Text) : Prop :=
  policy = .refuse → line.Encodable

/-- A fixed line can always be written: it holds no surrogate. -/
theorem accepts_ofString (policy : SurrogatePolicy) (line : String) :
    policy.Accepts (Text.ofString line) :=
  fun _ => encodable_ofString line

/-- A line has a form for standard error if and only if it can be written there. -/
theorem exists_show_iff (policy : SurrogatePolicy) (line : Text) :
    (∃ shown, policy.show line = .ok shown) ↔ policy.Accepts line := by
  cases policy with
  | escape => simp [SurrogatePolicy.show, Accepts]
  | refuse =>
    simp only [Accepts, forall_const, ← Utf8.firstSurrogates?_eq_none_iff, SurrogatePolicy.show]
    cases Utf8.firstSurrogates? line <;> simp

end SurrogatePolicy

section

variable (policy : SurrogatePolicy) (s : Streams)

/-- A line is written whole or not at all. -/
theorem Streams.printError_eq (line : Text) :
    s.printError policy line
      = (policy.show line).map fun shown => { s with error := s.error ++ shown ++ "\n" } := by
  -- The line end is written apart, and every standard error takes it.
  have hend : policy.show "\n" = .ok "\n" := by cases policy <;> rfl
  unfold printError writeError
  cases policy.show line with
  | error e => rfl
  | ok shown => simp only [except_bind_ok, Template.except_pure, hend]; rfl

/-- A line that can be written is printed, and standard output stays as it is. -/
theorem Streams.exists_printError_of_accepts {line : Text} (h : policy.Accepts line) :
    ∃ next, s.printError policy line = .ok next ∧ next.output = s.output := by
  obtain ⟨shown, hshown⟩ := (policy.exists_show_iff line).mpr h
  refine ⟨{ s with error := s.error ++ shown ++ "\n" }, ?_, rfl⟩
  rw [printError_eq, hshown]
  rfl

/-- A line that cannot be written is refused. -/
theorem Streams.exists_printError_of_not_accepts {line : Text} (h : ¬ policy.Accepts line) :
    ∃ e, s.printError policy line = .error e := by
  rw [← policy.exists_show_iff] at h
  rw [printError_eq]
  cases hshown : policy.show line with
  | ok shown => exact absurd ⟨shown, hshown⟩ h
  | error e => exact ⟨e, rfl⟩

/-- Whether lines are printed to the end depends on each of them alone. -/
theorem printLines_spec (lines : List Text) :
    (printLines policy s lines).1.output = s.output
      ∧ ((printLines policy s lines).2 = true ↔ ∀ line ∈ lines, policy.Accepts line) := by
  induction lines generalizing s with
  | nil => simp [printLines]
  | cons line rest ih =>
    by_cases hline : policy.Accepts line
    · obtain ⟨next, hnext, houtput⟩ := s.exists_printError_of_accepts policy hline
      obtain ⟨hrest, hall⟩ := ih next
      simp only [printLines, hnext, hrest, houtput, hall, List.forall_mem_cons, hline, true_and,
        and_self]
    · -- The lines behind a refused one are not tried, whatever they are.
      obtain ⟨e, herror⟩ := s.exists_printError_of_not_accepts policy hline
      simp [printLines, herror, hline]

/-! ### Failures -/

/-- The run has failed, and standard output holds what it held before. -/
structure Outcome.FailsAfter (outcome : Outcome) (s : Streams) : Prop where
  ending : outcome.ending ≠ .exit 0
  output : outcome.streams.output = s.output

/-- How a run ends that has a last line to say. -/
def endingWith (line : Text) (code : Nat) : Ending :=
  match policy.show line with
  | .ok _ => .exit code
  | .error e => .abort (.encode e)

/-- What has been written before has no influence on how a run ends. -/
theorem ending_stopWith (line : Text) (code : Nat) :
    (stopWith policy s line code).ending = endingWith policy line code := by
  unfold stopWith endingWith
  rw [Streams.printError_eq]
  cases policy.show line <;> rfl

/-- A last line goes to standard error only. -/
theorem output_stopWith (line : Text) (code : Nat) :
    (stopWith policy s line code).streams.output = s.output := by
  unfold stopWith
  rw [Streams.printError_eq]
  cases policy.show line <;> rfl

/-- A last line that can be written leaves the exit code as it was meant. -/
theorem endingWith_of_accepts {line : Text} (h : policy.Accepts line) (code : Nat) :
    endingWith policy line code = .exit code := by
  obtain ⟨shown, hshown⟩ := (policy.exists_show_iff line).mpr h
  simp only [endingWith, hshown]

/-- A last line with a code other than zero is a failure, also if the line cannot be written. -/
theorem failsAfter_stopWith (line : Text) {code : Nat} (hcode : code ≠ 0) :
    (stopWith policy s line code).FailsAfter s := by
  refine ⟨?_, output_stopWith policy s line code⟩
  rw [ending_stopWith, endingWith]
  cases policy.show line with
  | ok shown => simpa using hcode
  | error e => simp

end

/-! ### Reports and results -/

section

variable (w : World) (s : Streams)

/-- A report whose lines can all be written is printed, and standard output stays as it is. -/
theorem printReport_of_accepts {lines : List Text} (h : ∀ line ∈ lines, w.policy.Accepts line) :
    ∃ next, printReport w s lines = .ok next ∧ next.output = s.output := by
  obtain ⟨houtput, hall⟩ := printLines_spec w.policy s lines
  unfold printReport
  cases hprint : printLines w.policy s lines with
  | mk next printed =>
    rw [hprint] at houtput hall
    obtain rfl : printed = true := hall.mpr h
    exact ⟨next, rfl, houtput⟩

/-- A report that cannot be encoded ends the run with the exit code for failures of writing. -/
theorem printReport_of_not_accepts {lines : List Text}
    (h : ¬ ∀ line ∈ lines, w.policy.Accepts line) :
    ∃ outcome, printReport w s lines = .error outcome ∧ outcome.ending = .exit failureCode
      ∧ outcome.streams.output = s.output := by
  obtain ⟨houtput, hall⟩ := printLines_spec w.policy s lines
  unfold printReport
  cases hprint : printLines w.policy s lines with
  | mk next printed =>
    rw [hprint] at houtput hall
    obtain rfl : printed = false := by
      rw [← Bool.not_eq_true]
      exact fun hprinted => h (hall.mp hprinted)
    refine ⟨_, rfl, ?_, (output_stopWith _ _ _ _).trans houtput⟩
    rw [ending_stopWith, endingWith_of_accepts _ (w.policy.accepts_ofString _)]

/-- The texts that standard output takes. -/
structure World.Takes (text : Text) : Prop where
  encodable : text.Encodable
  room : w.isFull = true → text = []

/-- A text that standard output takes is written whole. -/
theorem writeOutput_of_takes {text : Text} (h : w.Takes text) :
    writeOutput w s text = .ok { s with output := s.output ++ text } := by
  obtain ⟨bytes, hbytes⟩ := (Utf8.exists_encode_iff text).mpr h.encodable
  have hroom : (w.isFull && !bytes.isEmpty) = false := by
    cases hfull : w.isFull with
    | false => rfl
    -- A full output takes only the text without bytes.
    | true => simpa using (Utf8.encode_eq_nil_iff hbytes).mpr (h.room hfull)
  simp only [writeOutput, hbytes, hroom, Bool.false_eq_true, if_false]

/-- A result that cannot be written ends the run with the exit code for failures of writing, and no
part of it is written. -/
theorem writeOutput_of_not_takes {text : Text} (h : ¬ w.Takes text) :
    ∃ outcome, writeOutput w s text = .error outcome ∧ outcome.ending = .exit failureCode
      ∧ outcome.streams.output = s.output := by
  unfold writeOutput
  cases hbytes : Utf8.encode text with
  | error e =>
    -- The line that says so shows a surrogate by its escape only, so it can be written itself.
    refine ⟨_, rfl, ?_, output_stopWith _ _ _ _⟩
    rw [ending_stopWith, endingWith_of_accepts]
    exact fun _ => encodable_append.mpr ⟨encodable_ofString _, Utf8.encodable_message e⟩
  | ok bytes =>
    have hencodable : text.Encodable := (Utf8.exists_encode_iff text).mp ⟨bytes, hbytes⟩
    -- The text can be encoded, so it is the room that is missing.
    have hfull : (w.isFull && !bytes.isEmpty) = true := by
      rw [← Bool.not_eq_false]
      intro hroom
      refine h ⟨hencodable, fun hfull => (Utf8.encode_eq_nil_iff hbytes).mp ?_⟩
      simpa [hfull] using hroom
    refine ⟨_, if_pos hfull, ?_, output_stopWith _ _ _ _⟩
    rw [ending_stopWith, endingWith_of_accepts _ (w.policy.accepts_ofString _)]

end

end RegexSubst.CommandLine
