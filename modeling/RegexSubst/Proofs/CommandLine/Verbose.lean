import RegexSubst.Proofs.CommandLine.Inputs

/-!
# `RegexSubst.Proofs.CommandLine.Verbose`: reports change nothing but standard error

A report on an input holds the name of the input, its text and the new text. Names that are given
without surrogates can be shown, and a text that has been read holds none either. So a report can
be refused only because of the new text, and then standard output refuses that text too, with the
same exit code.

* `Source.encodable_of_read` and `report_accepts_iff`: what a report depends on.
* `Outcome.Alike` and `StepAlike`: what can be seen without standard error.
* `reportThenWrite_alike` is the step in which the two runs differ, `handle_alike` one input and
  `handleAll_alike` the run.
* `runSettings_verbose` is the statement about all settings.
-/

set_option autoImplicit false

namespace RegexSubst.CommandLine

open RegexSubst.Text (encodable_append encodable_ofString encodable_ofNat
  encodable_replicate_ofChar encodable_withLineFeeds)
open RegexSubst.Template (except_bind_ok except_bind_error)

/-! ### Reports -/

/-- UTF-8 has no surrogates, and the change of line ends adds none. -/
theorem encodable_of_readText {bytes : List UInt8} {text : Text} (h : readText bytes = .ok text) :
    text.Encodable := by
  unfold readText at h
  cases hdecode : Utf8.decode bytes with
  | error e => rw [hdecode] at h; cases h
  | ok decoded =>
    rw [hdecode] at h
    cases h
    exact encodable_withLineFeeds (Utf8.encodable_of_decode hdecode)

/-- The text of an input holds no surrogate. -/
theorem Source.encodable_of_read {w : World} {source : Source} {text : Text}
    (h : source.read w = .ok text) : text.Encodable := by
  cases source with
  | stdin => exact encodable_of_readText h
  | file name =>
    simp only [Source.read, readFile] at h
    -- Only a file whose name can be encoded and that is there has a text; the other cases fail.
    cases hname : encodeName name with
    | error e => rw [hname] at h; cases h
    | ok bytes =>
      rw [hname, except_bind_ok] at h
      cases hfile : w.files bytes with
      | file content => rw [hfile] at h; exact encodable_of_readText h
      | _ => rw [hfile] at h; cases h

/-- The name of an input holds no surrogate if the files are named without them. -/
theorem encodable_name {files : List Text} (hnames : ∀ name ∈ files, name.Encodable)
    {source : Source} (h : source ∈ sources files) : source.name.Encodable := by
  unfold sources at h
  split at h
  · rw [List.mem_singleton.mp h]
    exact encodable_ofString _
  · obtain ⟨name, hname, rfl⟩ := List.mem_map.mp h
    exact hnames name hname

/-- Whether a report can be shown depends on the new text alone. -/
theorem report_accepts_iff (policy : SurrogatePolicy) {name before : Text} (hname : name.Encodable)
    (hbefore : before.Encodable) (after : Text) (replaced : Nat) :
    (∀ line ∈ report name before after replaced, policy.Accepts line) ↔ policy.Accepts after := by
  -- The note at the end of the first line is one of two, and both can be shown.
  have hchange : (if replaced = 0 then (" (no change)" : Text)
      else " (" ++ Text.ofNat replaced ++ " replaced)").Encodable := by
    split <;> simp only [encodable_append, encodable_ofString, encodable_ofNat, and_self]
  simp only [report, SurrogatePolicy.Accepts, List.forall_mem_cons, encodable_append,
    encodable_ofString, encodable_replicate_ofChar, hname, hbefore, hchange]
  simp

/-! ### Two runs side by side -/

/-- Two outcomes that differ in nothing but standard error. -/
structure Outcome.Alike (o o' : Outcome) : Prop where
  ending : o.ending = o'.ending
  output : o.streams.output = o'.streams.output

/-- Two steps that both go on or both end the run, and differ in nothing but standard error. -/
inductive StepAlike : Except Outcome Streams → Except Outcome Streams → Prop
  | goesOn {s s' : Streams} (h : s.output = s'.output) : StepAlike (.ok s) (.ok s')
  | ends {o o' : Outcome} (h : o.Alike o') : StepAlike (.error o) (.error o')

section

variable (w : World) {s s' : Streams}

/-- A failure to read ends both runs in the same way. -/
theorem stopReading_alike (h : s.output = s'.output) (source : Source) (failure : ReadFailure) :
    (stopReading w s source failure).Alike (stopReading w s' source failure) := by
  cases failure with
  | missing =>
    simp only [stopReading]
    exact ⟨by rw [ending_stopWith, ending_stopWith], by rw [output_stopWith, output_stopWith, h]⟩
  | _ => exact ⟨rfl, h⟩

/-- Whether a text is written, and how the run ends if not, does not depend on standard error. -/
theorem writeOutput_alike (h : s.output = s'.output) (text : Text) :
    StepAlike (writeOutput w s text) (writeOutput w s' text) := by
  by_cases htakes : w.Takes text
  · rw [writeOutput_of_takes w s htakes, writeOutput_of_takes w s' htakes]
    exact .goesOn (by rw [h])
  · obtain ⟨o, hwrite, hending, houtput⟩ := writeOutput_of_not_takes w s htakes
    obtain ⟨o', hwrite', hending', houtput'⟩ := writeOutput_of_not_takes w s' htakes
    rw [hwrite, hwrite']
    exact .ends ⟨hending.trans hending'.symm, houtput.trans (h.trans houtput'.symm)⟩

/-- A report that is refused ends the run just as the new text would. -/
theorem reportThenWrite_alike (h : s.output = s'.output) {name before : Text}
    (hname : name.Encodable) (hbefore : before.Encodable) (after : Text) (replaced : Nat) :
    StepAlike (printReport w s (report name before after replaced) >>= (writeOutput w · after))
      (writeOutput w s' after) := by
  have hreport := report_accepts_iff w.policy hname hbefore after replaced
  by_cases haccepts : w.policy.Accepts after
  · obtain ⟨middle, hprint, hmiddle⟩ := printReport_of_accepts w s (hreport.mpr haccepts)
    rw [hprint, except_bind_ok]
    exact writeOutput_alike w (hmiddle.trans h) after
  · -- The new text has a surrogate that standard error refuses, and standard output refuses it too.
    have htakes : ¬ w.Takes after := fun htakes => haccepts fun _ => htakes.encodable
    obtain ⟨o, hprint, hending, houtput⟩ :=
      printReport_of_not_accepts w s (hreport.not.mpr haccepts)
    obtain ⟨o', hwrite, hending', houtput'⟩ := writeOutput_of_not_takes w s' htakes
    rw [hprint, hwrite, except_bind_error]
    exact .ends ⟨hending.trans hending'.symm, houtput.trans (h.trans houtput'.symm)⟩

/-- One input is dealt with alike with and without a report on it, if its name can be shown. -/
theorem handle_alike (j : Job) (h : s.output = s'.output) {source : Source}
    (hname : source.name.Encodable) :
    StepAlike (handle w { j with verbose := true } s source)
      (handle w { j with verbose := false } s' source) := by
  -- What is substituted does not depend on the reports.
  have hjob (verbose : Bool) (text : Text) :
      Job.substitute { j with verbose := verbose } text = j.substitute text := rfl
  simp only [handle, hjob, if_true, Bool.false_eq_true, if_false, except_bind_ok]
  cases hread : source.read w with
  | error failure => exact .ends (stopReading_alike w h source failure)
  | ok before =>
    dsimp only
    cases hsubstituted : j.substitute before with
    | error a => exact .ends ⟨rfl, h⟩
    | ok result =>
      obtain ⟨after, replaced⟩ := result
      -- Only here do the runs differ: one of them prints before it writes.
      exact reportThenWrite_alike w h hname (Source.encodable_of_read hread) after replaced

/-- Reports on inputs whose names can be shown change neither standard output nor the ending. -/
theorem handleAll_alike (j : Job) (h : s.output = s'.output) {inputs : List Source}
    (hnames : ∀ source ∈ inputs, source.name.Encodable) :
    (handleAll w { j with verbose := true } s inputs).Alike
      (handleAll w { j with verbose := false } s' inputs) := by
  -- The streams of the two runs grow apart in standard error, so both of them are general.
  induction inputs generalizing s s' with
  | nil => exact ⟨rfl, h⟩
  | cons source inputs ih =>
    obtain ⟨hname, hrest⟩ := List.forall_mem_cons.mp hnames
    have hstep := handle_alike w j h hname
    unfold handleAll
    generalize handle w { j with verbose := true } s source = step at hstep ⊢
    generalize handle w { j with verbose := false } s' source = step' at hstep ⊢
    cases hstep with
    | goesOn houtput => exact ih houtput hrest
    | ends halike => exact halike

end

/-- If the names of the files hold no surrogate, a run with reports has the same standard output and
the same ending as the run without them. A report that cannot be printed ends the run with exit code
1, and only if standard error refuses surrogates; standard output then refuses the new text anyway,
with the same exit code. -/
theorem runSettings_verbose {settings : Settings}
    (hnames : ∀ name ∈ settings.files, name.Encodable) (w : World) :
    (runSettings w { settings with verbose := true }).Alike
        (runSettings w { settings with verbose := false })
      ∧ ∀ source ∈ sources settings.files, ∀ (s : Streams) (before after : Text) (replaced : Nat)
          (stopped : Outcome),
        source.read w = .ok before →
        printReport w s (report source.name before after replaced) = .error stopped →
        w.policy = .refuse ∧ stopped.ending = .exit 1
          ∧ (∃ e, Utf8.encode after = .error e)
          ∧ ∀ s', ∃ refused, writeOutput w s' after = .error refused
            ∧ refused.ending = .exit 1 := by
  constructor
  · by_cases hasks : ∃ j, settings.Asks j
    · obtain ⟨j, hj⟩ := hasks
      rw [runSettings_of_asks (hj.withVerbose true), runSettings_of_asks (hj.withVerbose false)]
      exact handleAll_alike w j rfl fun source hsource => encodable_name hnames hsource
    · -- Without a job the run ends before there is anything to report on.
      obtain ⟨outcome, -, hrun⟩ := runSettings_of_not_asks hasks
      have hboth (verbose : Bool) :
          runSettings w { settings with verbose := verbose } = outcome w.policy :=
        hrun w settings.files verbose
      rw [hboth true, hboth false]
      exact ⟨rfl, rfl⟩
  · intro source hsource s before after replaced stopped hread hprint
    have hreport := report_accepts_iff w.policy (encodable_name hnames hsource)
      (Source.encodable_of_read hread) after replaced
    -- Were the new text accepted, then the whole report would be.
    have hrefused : ¬ w.policy.Accepts after := by
      intro haccepts
      obtain ⟨next, hnext, -⟩ := printReport_of_accepts w s (hreport.mpr haccepts)
      rw [hnext] at hprint
      cases hprint
    -- So standard error refuses surrogates, and the new text holds one.
    obtain ⟨hpolicy, hencodable⟩ := Classical.not_imp.mp hrefused
    obtain ⟨o, ho, hending, -⟩ := printReport_of_not_accepts w s (hreport.not.mpr hrefused)
    obtain rfl : o = stopped := Except.error.inj (ho.symm.trans hprint)
    refine ⟨hpolicy, hending, ?_, fun s' => ?_⟩
    · rw [← Utf8.exists_encode_iff] at hencodable
      cases hencode : Utf8.encode after with
      | ok bytes => exact absurd ⟨bytes, hencode⟩ hencodable
      | error e => exact ⟨e, rfl⟩
    · obtain ⟨refused, hwrite, hexit, -⟩ :=
        writeOutput_of_not_takes w s' fun htakes => hencodable htakes.encodable
      exact ⟨refused, hwrite, hexit⟩

/-- A template that writes half of a pair in the place of a letter. -/
def halfSettings : Settings :=
  { oneFileSettings with replacement := some "\\x\x7bD83D\x7d", files := ["a"] }

/-- The report on the file and its new text are both refused. Only standard error tells the two runs
apart. -/
theorem runSettings_verbose_half :
    (∀ name ∈ halfSettings.files, name.Encodable)
      ∧ (runSettings oneFileWorld { halfSettings with verbose := false }).ending = .exit 1
      ∧ (runSettings oneFileWorld { halfSettings with verbose := true }).ending = .exit 1
      ∧ (runSettings oneFileWorld { halfSettings with verbose := true }).streams.output
        = (runSettings oneFileWorld { halfSettings with verbose := false }).streams.output
      ∧ (runSettings oneFileWorld { halfSettings with verbose := true }).streams.error
        ≠ (runSettings oneFileWorld { halfSettings with verbose := false }).streams.error
      ∧ ∃ stopped, printReport oneFileWorld .empty (report "a" "bb" [Text.highHalf, 'b'] 1)
          = .error stopped
        ∧ stopped.ending = .exit 1 := by
  have hnames : ∀ name ∈ halfSettings.files, name.Encodable := by
    intro name hname
    rw [List.mem_singleton.mp hname]
    exact encodable_ofString "a"
  have hending :
      (runSettings oneFileWorld { halfSettings with verbose := false }).ending = .exit 1 := by
    decide +kernel
  have hread : (Source.file "a").read oneFileWorld = .ok "bb" :=
    Template.except_eq_ok_of_toOption (by decide +kernel)
  have hfails : (printReport oneFileWorld .empty
      (report "a" "bb" [Text.highHalf, 'b'] 1)).toOption = none := by
    decide +kernel
  obtain ⟨halike, hrefused⟩ := runSettings_verbose hnames oneFileWorld
  refine ⟨hnames, hending, halike.ending.trans hending, halike.output, by decide +kernel, ?_⟩
  cases hprint : printReport oneFileWorld .empty (report "a" "bb" [Text.highHalf, 'b'] 1) with
  | ok next => rw [hprint] at hfails; cases hfails
  | error stopped =>
    obtain ⟨-, hexit, -⟩ := hrefused (.file "a") (by decide) .empty _ _ _ stopped hread hprint
    exact ⟨stopped, rfl, hexit⟩

end RegexSubst.CommandLine
