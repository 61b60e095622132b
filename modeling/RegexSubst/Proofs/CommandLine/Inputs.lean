import Mathlib.Data.List.Forall2
import RegexSubst.Proofs.CommandLine.Writing
import RegexSubst.Proofs.Substitution.Replacing

/-!
# `RegexSubst.Proofs.CommandLine.Inputs`: inputs one after another

A run is refused before it reads anything, or it deals with its inputs in order and stops at the
first one that it cannot read, substitute in, report on or write. Results are written whole, so
standard output holds the results of the inputs before that one and nothing else, and what comes
behind it has no influence.

* `Handled` is an input with all four steps, `Job.Delivers` the text that it comes out as, and
  `StopsAt` the place where the inputs are cut.
* `handle_of_delivers` and `handle_of_not_delivers` are one step, `handleAll_of_stopsAt` and
  `handleAll_congr` the run.
* `Settings.Refused` and `Settings.Asks` are settings without and with a job.
* `run_writes_prefix` is the statement about all command lines.
-/

set_option autoImplicit false

namespace RegexSubst

/-- A limit that is positive is kept. -/
theorem Regex.replaced_le {r : Regex} {text template new : Text} {count : Int} {n : Nat}
    (h : r.substitute text template count = .ok (new, n)) (hcount : 0 < count) : n ≤ count := by
  cases hprogram : r.program with
  | error e => simp only [substitute, hprogram] at h; cases h
  | ok program =>
    have hbound : count < countBound := by
      rw [← Int.not_le]
      intro hbound
      simp only [substitute, hprogram, if_pos hbound] at h
      cases h
    rw [substitute_of_program hprogram hbound] at h
    cases hnew : replaceMatches (r.newText program text template) text 0
        (replaced program text count) with
    | error e => rw [hnew] at h; cases h
    | ok other =>
      rw [hnew] at h
      cases h
      rw [length_replaced, replacedCount]
      split <;> omega

/-- Only an invalid regex has an error. -/
theorem Regex.errorMessage?_eq_none_iff (r : Regex) :
    r.errorMessage? = none ↔ r.isValid = true := by
  unfold errorMessage? isValid
  cases r.program <;> simp

namespace CommandLine

open RegexSubst.Template (except_bind_ok except_bind_error)

/-! ### One input -/

/-- The input is read as `before`, becomes `after` with so many replacements, and can be reported on
and written. -/
structure Handled (w : World) (j : Job) (source : Source) (before after : Text) (replaced : Nat) :
    Prop where
  read : source.read w = .ok before
  substituted : j.substitute before = .ok (after, replaced)
  reported : j.verbose = true →
    ∀ line ∈ report source.name before after replaced, w.policy.Accepts line
  written : w.Takes after

/-- The input comes out as `text`. Nothing is said of the other inputs. -/
def Job.Delivers (j : Job) (w : World) (source : Source) (text : Text) : Prop :=
  ∃ before replaced, Handled w j source before text replaced

/-- At most as many stretches are replaced as a positive count says. -/
theorem Handled.replaced_le {w : World} {j : Job} {source : Source} {before after : Text}
    {replaced : Nat} (h : Handled w j source before after replaced) (hcount : 0 < j.count) :
    replaced ≤ j.count := by
  have hsubstituted := h.substituted
  unfold Job.substitute at hsubstituted
  split at hsubstituted
  · split at hsubstituted
    · next hresult => cases hsubstituted; exact Regex.replaced_le hresult hcount
    · cases hsubstituted
  · split at hsubstituted
    · cases hsubstituted; exact Int.le_of_lt hcount
    · cases hsubstituted
    · cases hsubstituted

section

variable {w : World} {j : Job}

/-- Dealing with an input adds its text to standard output. -/
theorem handle_of_delivers {source : Source} {text : Text} (h : j.Delivers w source text)
    (s : Streams) :
    ∃ next, handle w j s source = .ok next ∧ next.output = s.output ++ text := by
  obtain ⟨before, replaced, hhandled⟩ := h
  simp only [handle, hhandled.read, hhandled.substituted]
  cases hverbose : j.verbose with
  | false => exact ⟨_, writeOutput_of_takes w s hhandled.written, rfl⟩
  | true =>
    obtain ⟨middle, hreport, houtput⟩ := printReport_of_accepts w s (hhandled.reported hverbose)
    refine ⟨{ middle with output := middle.output ++ text }, ?_, by rw [houtput]⟩
    simp only [if_true, hreport, except_bind_ok, writeOutput_of_takes w middle hhandled.written]

/-- An input that cannot be read ends the run without success and adds nothing to standard output. -/
theorem failsAfter_stopReading (w : World) (s : Streams) (source : Source)
    (failure : ReadFailure) : (stopReading w s source failure).FailsAfter s := by
  cases failure with
  -- Only a missing file is reported; the other failures to read abort the run.
  | missing => exact failsAfter_stopWith w.policy s _ (by decide)
  | _ => exact ⟨nofun, rfl⟩

/-- An input that does not come out ends the run, with nothing more on standard output. -/
theorem handle_of_not_delivers {source : Source} (h : ¬ ∃ text, j.Delivers w source text)
    (s : Streams) :
    ∃ outcome, handle w j s source = .error outcome ∧ outcome.FailsAfter s := by
  have hcode : Ending.exit failureCode ≠ .exit 0 := by decide
  -- The steps are tried in their order: reading, substituting, reporting, writing. The first one
  -- that fails is where the run stops.
  cases hread : source.read w with
  | error failure =>
    exact ⟨_, by simp only [handle, hread], failsAfter_stopReading w s source failure⟩
  | ok before =>
    cases hsubstituted : j.substitute before with
    | error a => exact ⟨⟨.abort a, s⟩, by simp only [handle, hread, hsubstituted], nofun, rfl⟩
    | ok result =>
      obtain ⟨after, replaced⟩ := result
      simp only [handle, hread, hsubstituted]
      by_cases hreported : j.verbose = true →
          ∀ line ∈ report source.name before after replaced, w.policy.Accepts line
      · -- Nothing but the writing is left to fail.
        have htakes : ¬ w.Takes after := fun hwritten =>
          h ⟨after, before, replaced, hread, hsubstituted, hreported, hwritten⟩
        cases hverbose : j.verbose with
        | false =>
          obtain ⟨outcome, hwrite, hending, houtput⟩ := writeOutput_of_not_takes w s htakes
          exact ⟨outcome, hwrite, hending ▸ hcode, houtput⟩
        | true =>
          obtain ⟨middle, hreport, hmiddle⟩ := printReport_of_accepts w s (hreported hverbose)
          obtain ⟨outcome, hwrite, hending, houtput⟩ := writeOutput_of_not_takes w middle htakes
          refine ⟨outcome, ?_, hending ▸ hcode, houtput.trans hmiddle⟩
          simp only [if_true, hreport, except_bind_ok, hwrite]
      · -- A line of the report is refused, so the run stops before the text is written.
        obtain ⟨hverbose, hlines⟩ := Classical.not_imp.mp hreported
        obtain ⟨outcome, hreport, hending, houtput⟩ := printReport_of_not_accepts w s hlines
        refine ⟨outcome, ?_, hending ▸ hcode, houtput⟩
        simp only [hverbose, if_true, hreport, except_bind_error]

end

/-! ### Inputs in order -/

/-- The inputs are cut before the first one that does not come out; `texts` is what those before
it come out as. -/
structure StopsAt (delivers : Source → Text → Prop) (inputs before rest : List Source)
    (texts : List Text) : Prop where
  split : inputs = before ++ rest
  delivered : List.Forall₂ delivers before texts
  stopped : ∀ source ∈ rest.head?, ¬ ∃ text, delivers source text

/-- Any inputs are cut somewhere, if only at their end. -/
theorem exists_stopsAt (delivers : Source → Text → Prop) (inputs : List Source) :
    ∃ before rest texts, StopsAt delivers inputs before rest texts := by
  induction inputs with
  | nil => exact ⟨[], [], [], rfl, .nil, nofun⟩
  | cons source inputs ih =>
    by_cases hsource : ∃ text, delivers source text
    · obtain ⟨text, htext⟩ := hsource
      obtain ⟨before, rest, texts, hsplit, hdelivered, hstopped⟩ := ih
      exact ⟨source :: before, rest, text :: texts, by rw [hsplit, List.cons_append],
        .cons htext hdelivered, hstopped⟩
    · exact ⟨[], source :: inputs, [], rfl, .nil, by simpa using hsource⟩

/-- The cut is at the end if and only if all inputs come out. -/
theorem StopsAt.rest_eq_nil_iff {delivers : Source → Text → Prop}
    {inputs before rest : List Source} {texts : List Text}
    (h : StopsAt delivers inputs before rest texts) :
    rest = [] ↔ ∀ source ∈ inputs, ∃ text, delivers source text := by
  constructor
  · rintro rfl source hsource
    rw [h.split, List.append_nil] at hsource
    obtain ⟨i, hi, rfl⟩ := List.getElem_of_mem hsource
    exact ⟨_, h.delivered.get hi (h.delivered.length_eq ▸ hi)⟩
  · intro hall
    -- An input behind the cut would be one that does not come out.
    cases rest with
    | nil => rfl
    | cons source rest =>
      exact absurd (hall source (by simp [h.split])) (h.stopped source (by simp))

section

variable {w : World} {j : Job} {inputs before rest : List Source} {texts : List Text}

/-- Inputs that come out are dealt with, and the run goes on behind them. -/
theorem handleAll_of_delivers (h : List.Forall₂ (j.Delivers w) before texts) (s : Streams) :
    ∃ next : Streams, next.output = s.output ++ texts.flatten
      ∧ ∀ rest, handleAll w j s (before ++ rest) = handleAll w j next rest := by
  induction h generalizing s with
  | nil => exact ⟨s, by simp, fun _ => rfl⟩
  | cons hsource _ ih =>
    obtain ⟨middle, hhandle, hmiddle⟩ := handle_of_delivers hsource s
    obtain ⟨next, hnext, hrest⟩ := ih middle
    -- The step of this input does not depend on those behind it, so `rest` stays general.
    refine ⟨next, by rw [hnext, hmiddle, List.flatten_cons, List.append_assoc], fun rest => ?_⟩
    simp only [List.cons_append, handleAll, hhandle, hrest]

/-- A run adds the texts of the inputs before the cut, and succeeds if nothing comes behind it. -/
theorem handleAll_of_stopsAt (h : StopsAt (j.Delivers w) inputs before rest texts)
    (s : Streams) :
    (handleAll w j s inputs).streams.output = s.output ++ texts.flatten
      ∧ ((handleAll w j s inputs).ending = .exit 0 ↔ rest = []) := by
  obtain ⟨next, hnext, hrun⟩ := handleAll_of_delivers h.delivered s
  rw [h.split, hrun, ← hnext]
  cases rest with
  | nil => simp [handleAll]
  | cons source rest =>
    obtain ⟨outcome, hhandle, hfails⟩ := handle_of_not_delivers (h.stopped source (by simp)) next
    simp [handleAll, hhandle, hfails.output, hfails.ending]

end

/-- Two worlds with the same output streams, in which the given inputs have the same texts. -/
structure World.AgreesOn (w w' : World) (inputs : List Source) : Prop where
  policy : w'.policy = w.policy
  isFull : w'.isFull = w.isFull
  read : ∀ source ∈ inputs, source.read w' = source.read w

section

variable {w w' : World}

/-- Dealing with an input looks at nothing of the world but that input and the output streams. -/
theorem handle_congr {inputs : List Source} (h : w.AgreesOn w' inputs) {source : Source}
    (hsource : source ∈ inputs) (j : Job) (s : Streams) :
    handle w' j s source = handle w j s source := by
  simp only [handle, h.read source hsource, stopReading, printReport, writeOutput, h.policy,
    h.isFull]

/-- A run looks at no input behind the one that it stops at. -/
theorem handleAll_congr {j : Job} {inputs before rest rest' : List Source} {texts : List Text}
    (h : StopsAt (j.Delivers w) inputs before rest texts) (hhead : rest'.head? = rest.head?)
    (hw : w.AgreesOn w' (before ++ rest.head?.toList)) (s : Streams) :
    handleAll w' j s (before ++ rest') = handleAll w j s inputs := by
  rw [h.split]
  -- Of the cut only its end is needed: before it the two runs take the same steps.
  have hstopped := h.stopped
  clear h
  induction before generalizing s with
  | nil =>
    cases rest with
    | nil => rw [List.head?_eq_none_iff.mp hhead]; rfl
    | cons source rest =>
      -- Both runs stop here, so the inputs behind this one are never looked at.
      obtain ⟨tail, rfl⟩ := List.head?_eq_some_iff.mp hhead
      obtain ⟨outcome, hhandle, -⟩ := handle_of_not_delivers (hstopped source (by simp)) s
      have hhandle' := handle_congr hw (by simp : source ∈ _) j s
      simp only [List.nil_append, handleAll, hhandle', hhandle]
  | cons source before ih =>
    have hbefore : w.AgreesOn w' (before ++ rest.head?.toList) :=
      { policy := hw.policy
        isFull := hw.isFull
        read := fun other hother => hw.read other (List.mem_cons_of_mem source hother) }
    simp only [List.cons_append, handleAll, handle_congr hw List.mem_cons_self j s]
    cases handle w j s source with
    | error outcome => rfl
    | ok next => exact ih hbefore next

end

/-! ### Settings -/

namespace Settings

/-- The settings that are refused, whatever the inputs are. -/
inductive Refused (settings : Settings) : Prop
  | negativeCount {count : Int} (hcount : settings.count = some count) (hnegative : count < 0)
  | uncompiled {a : Abort} (hregex : settings.compile = .error a)
  | invalid {regex : Regex} (hregex : settings.compile = .ok regex)
    (hinvalid : regex.isValid = false)

/-- The settings ask for a job. -/
structure Asks (settings : Settings) (j : Job) : Prop where
  count : settings.count = some j.count
  nonneg : 0 ≤ j.count
  regex : settings.compile = .ok j.regex
  valid : j.regex.isValid = true
  template : settings.replacement = j.template
  verbose : settings.verbose = j.verbose

variable {settings : Settings}

/-- The input comes out as `text` in the job that the settings ask for. Nothing can be substituted
without a count, so no input comes out then. -/
def Delivers (settings : Settings) (w : World) (source : Source) (text : Text) : Prop :=
  ∃ j, settings.Asks j ∧ j.Delivers w source text

/-- Settings ask for one job only. -/
theorem Asks.unique {j j' : Job} (h : settings.Asks j) (h' : settings.Asks j') : j' = j := by
  obtain ⟨regex, template, count, verbose⟩ := j
  obtain ⟨regex', template', count', verbose'⟩ := j'
  obtain rfl : count = count' := Option.some.inj (h.count.symm.trans h'.count)
  obtain rfl : regex = regex' := Except.ok.inj (h.regex.symm.trans h'.regex)
  obtain rfl : template = template' := h.template.symm.trans h'.template
  obtain rfl : verbose = verbose' := h.verbose.symm.trans h'.verbose
  rfl

/-- Where a job is asked for, the inputs come out as they do in that job. -/
theorem Asks.delivers_eq {j : Job} (h : settings.Asks j) (w : World) :
    settings.Delivers w = j.Delivers w := by
  funext source text
  refine propext ⟨?_, fun hdelivers => ⟨j, h, hdelivers⟩⟩
  rintro ⟨j', hasks, hdelivers⟩
  rwa [← h.unique hasks]

/-- The job is the same for all inputs. -/
theorem Asks.withFiles {j : Job} (h : settings.Asks j) (files : List Text) :
    Asks { settings with files := files } j :=
  ⟨h.count, h.nonneg, h.regex, h.valid, h.template, h.verbose⟩

/-- Asking for reports changes nothing of the job but the reports. -/
theorem Asks.withVerbose {j : Job} (h : settings.Asks j) (verbose : Bool) :
    Asks { settings with verbose := verbose } { j with verbose := verbose } :=
  ⟨h.count, h.nonneg, h.regex, h.valid, h.template, rfl⟩

/-- Settings that ask for a job are not refused. -/
theorem Asks.not_refused {j : Job} (h : settings.Asks j) : ¬ settings.Refused := by
  rintro (⟨hcount, hnegative⟩ | ⟨hregex⟩ | ⟨hregex, hinvalid⟩)
  · obtain rfl := Option.some.inj (h.count.symm.trans hcount)
    exact absurd h.nonneg (Int.not_le.mpr hnegative)
  · cases h.regex.symm.trans hregex
  · obtain rfl := Except.ok.inj (h.regex.symm.trans hregex)
    rw [h.valid] at hinvalid
    cases hinvalid

/-- The regex is the same for all inputs, with and without reports. -/
theorem compile_of_inputs (settings : Settings) (files : List Text) (verbose : Bool) :
    Settings.compile { settings with files := files, verbose := verbose } = settings.compile := rfl

/-- Settings that are not refused ask for a job, if they have a count. -/
theorem count_eq_none_or_exists_asks (h : ¬ settings.Refused) :
    settings.count = none ∨ ∃ j, settings.Asks j := by
  cases hcount : settings.count with
  | none => exact .inl rfl
  | some count =>
    cases hregex : settings.compile with
    | error a => exact absurd (.uncompiled hregex) h
    | ok regex =>
      have hnonneg : 0 ≤ count :=
        Int.not_lt.mp fun hnegative => h (.negativeCount hcount hnegative)
      have hvalid : regex.isValid = true :=
        eq_true_of_ne_false fun hinvalid => h (.invalid hregex hinvalid)
      exact .inr ⟨⟨regex, settings.replacement, count, settings.verbose⟩, hcount, hnonneg, hregex,
        hvalid, rfl, rfl⟩

end Settings

section

variable {settings : Settings}

/-- A job that is asked for is done for the inputs in order, from empty streams. -/
theorem runSettings_of_asks {j : Job} (h : settings.Asks j) (w : World) :
    runSettings w settings = handleAll w j .empty (sources settings.files) := by
  have hmessage : j.regex.errorMessage? = none := j.regex.errorMessage?_eq_none_iff.mpr h.valid
  simp only [runSettings, h.count, if_neg (Int.not_lt.mpr h.nonneg), h.regex, hmessage,
    h.template, h.verbose]

/-- Settings without a job end a run in the same way whatever the inputs are, with and without
reports. -/
theorem runSettings_of_not_asks (h : ¬ ∃ j, settings.Asks j) :
    ∃ outcome : SurrogatePolicy → Outcome, (∀ policy, (outcome policy).FailsAfter .empty)
      ∧ ∀ (w : World) (files : List Text) (verbose : Bool),
        runSettings w { settings with files := files, verbose := verbose } = outcome w.policy := by
  have hcode : commandLineCode ≠ 0 := by decide
  simp only [runSettings, settings.compile_of_inputs]
  cases hcount : settings.count with
  | none => exact ⟨fun _ => ⟨.abort .absentCount, .empty⟩, fun _ => ⟨nofun, rfl⟩, fun _ _ _ => rfl⟩
  | some count =>
    by_cases hnegative : count < 0
    · simp only [if_pos hnegative]
      exact ⟨_, fun policy => failsAfter_stopWith policy .empty _ hcode, fun _ _ _ => rfl⟩
    simp only [if_neg hnegative]
    cases hregex : settings.compile with
    | error a => exact ⟨fun _ => ⟨.abort a, .empty⟩, fun _ => ⟨nofun, rfl⟩, fun _ _ _ => rfl⟩
    | ok regex =>
      dsimp only
      cases hmessage : regex.errorMessage? with
      | some message =>
        exact ⟨_, fun policy => failsAfter_stopWith policy .empty _ hcode, fun _ _ _ => rfl⟩
      | none =>
        -- All that a job needs is there, against the assumption.
        exact absurd ⟨⟨regex, settings.replacement, count, settings.verbose⟩, hcount,
          Int.not_lt.mp hnegative, hregex, regex.errorMessage?_eq_none_iff.mp hmessage, rfl,
          rfl⟩ h

/-- Without a job the inputs are cut before the first one. -/
theorem before_eq_nil_of_not_asks (h : ¬ ∃ j, settings.Asks j) {w : World}
    {inputs before rest : List Source} {texts : List Text}
    (hcut : StopsAt (settings.Delivers w) inputs before rest texts) :
    before = [] ∧ texts = [] := by
  cases hcut.delivered with
  | nil => exact ⟨rfl, rfl⟩
  | cons hsource _ =>
    obtain ⟨j, hj, -⟩ := hsource
    exact absurd ⟨j, hj⟩ h

/-- Without files standard input is read, so there is always an input. -/
theorem sources_ne_nil (files : List Text) : sources files ≠ [] := by
  cases files <;> simp [sources]

/-- A run writes the texts of the inputs before the cut, and succeeds if nothing comes behind it. -/
theorem runSettings_of_stopsAt {w : World} {before rest : List Source} {texts : List Text}
    (h : StopsAt (settings.Delivers w) (sources settings.files) before rest texts) :
    (runSettings w settings).streams.output = texts.flatten
      ∧ ((runSettings w settings).ending = .exit 0 ↔ rest = []) := by
  by_cases hasks : ∃ j, settings.Asks j
  · obtain ⟨j, hj⟩ := hasks
    rw [hj.delivers_eq] at h
    rw [runSettings_of_asks hj w]
    exact handleAll_of_stopsAt h .empty
  · -- No input comes out, and the first one is behind the cut.
    obtain ⟨outcome, hfails, hrun⟩ := runSettings_of_not_asks hasks
    obtain ⟨rfl, rfl⟩ := before_eq_nil_of_not_asks hasks h
    have hrest : rest ≠ [] := fun hrest => sources_ne_nil settings.files (h.split.trans hrest)
    rw [show runSettings w settings = _ from hrun w settings.files settings.verbose]
    exact ⟨(hfails w.policy).output, iff_of_false (hfails w.policy).ending hrest⟩

/-- What comes behind the input that a run stops at has no influence. -/
theorem runSettings_congr {w w' : World} {before rest rest' : List Source} {texts : List Text}
    (h : StopsAt (settings.Delivers w) (sources settings.files) before rest texts)
    {files : List Text} (hfiles : sources files = before ++ rest')
    (hhead : rest'.head? = rest.head?) (hw : w.AgreesOn w' (before ++ rest.head?.toList)) :
    runSettings w' { settings with files := files } = runSettings w settings := by
  by_cases hasks : ∃ j, settings.Asks j
  · obtain ⟨j, hj⟩ := hasks
    rw [hj.delivers_eq] at h
    calc runSettings w' { settings with files := files }
        = handleAll w' j .empty (before ++ rest') := by
          rw [runSettings_of_asks (hj.withFiles files), hfiles]
      _ = handleAll w j .empty (sources settings.files) := handleAll_congr h hhead hw .empty
      _ = runSettings w settings := (runSettings_of_asks hj w).symm
  · obtain ⟨outcome, -, hrun⟩ := runSettings_of_not_asks hasks
    calc runSettings w' { settings with files := files }
        = outcome w.policy := by rw [hrun, hw.policy]
      _ = runSettings w settings := (hrun w settings.files settings.verbose).symm

end

/-- A run whose count is negative, or whose regex is invalid or cannot be made, fails and writes
nothing, whatever the inputs are. Any other run deals with its inputs in order and stops at the
first one that it cannot read, substitute in, report on or write. Standard output then holds the
texts of the inputs before that one, each as if it were the only input, and the outcome is that of
every run with the same inputs up to that one. Only a run that stops nowhere succeeds. A count
without a value leaves nothing to substitute with: such a run is aborted, and no input comes out. -/
theorem run_writes_prefix {arguments : List Text} {settings : Settings}
    (hparse : parse arguments = .ok settings) (w : World) :
    (settings.Refused → (run w arguments).FailsAfter .empty)
      ∧ (¬ settings.Refused → (∃ j, settings.Asks j)
        ∨ settings.count = none ∧ run w arguments = ⟨.abort .absentCount, .empty⟩)
      ∧ (∃ before rest texts,
        StopsAt (settings.Delivers w) (sources settings.files) before rest texts
          ∧ (run w arguments).streams.output = texts.flatten
          ∧ ((run w arguments).ending = .exit 0 ↔ rest = [])
          ∧ ∀ (arguments' files : List Text) (w' : World) (rest' : List Source),
            parse arguments' = .ok { settings with files := files } →
            sources files = before ++ rest' → rest'.head? = rest.head? →
            w.AgreesOn w' (before ++ rest.head?.toList) → run w' arguments' = run w arguments)
      ∧ ((run w arguments).ending = .exit 0
        ↔ ∀ source ∈ sources settings.files, ∃ text, settings.Delivers w source text)
      ∧ ∀ j source before after replaced, settings.Asks j →
        Handled w j source before after replaced → 0 < j.count → replaced ≤ j.count := by
  have hrun : run w arguments = runSettings w settings := by simp only [run, hparse]
  obtain ⟨before, rest, texts, hcut⟩ :=
    exists_stopsAt (settings.Delivers w) (sources settings.files)
  obtain ⟨houtput, hending⟩ := runSettings_of_stopsAt hcut
  rw [hrun]
  refine ⟨fun hrefused => ?_, fun hrefused => ?_,
    ⟨before, rest, texts, hcut, houtput, hending, ?_⟩, hending.trans hcut.rest_eq_nil_iff,
    fun j source before after replaced _ hhandled hcount => hhandled.replaced_le hcount⟩
  · -- Refused settings ask for no job, and the run ends as all runs without a job do.
    have hasks : ¬ ∃ j, settings.Asks j := fun ⟨j, hj⟩ => hj.not_refused hrefused
    obtain ⟨outcome, hfails, hall⟩ := runSettings_of_not_asks hasks
    exact (hall w settings.files settings.verbose).symm ▸ hfails w.policy
  · -- What is left is a job, or a count without a value that aborts the run at once.
    refine (settings.count_eq_none_or_exists_asks hrefused).symm.imp_right fun hcount => ?_
    exact ⟨hcount, by simp only [runSettings, hcount]⟩
  · -- Another command line with the same settings up to the files reads the same inputs before the
    -- cut and the same input at it.
    intro arguments' files w' rest' hparse' hfiles hhead hw
    simp only [run, hparse', runSettings_congr hcut hfiles hhead hw]

/-- A directory in which only the file `a` is there. -/
def oneFileWorld : World where
  stdin := []
  files := fun name => if name = [0x61] then .file [0x62, 0x62] else .missing
  isFull := false
  policy := .refuse

/-- The file `a` is named twice, and a file that is not there between the two. -/
def oneFileArguments : List Text := ["-n1", "b", "\\U\\0x", "a", "c", "a"]

/-- What `oneFileArguments` sets. -/
def oneFileSettings : Settings :=
  { Settings.initial with
    count := some 1
    pattern := some "b"
    replacement := some "\\U\\0x"
    files := ["a", "c", "a"] }

/-- The missing second file ends the run: the result of the first one is written, and the file
behind it is not read again. -/
theorem run_writes_prefix_one_file :
    parse oneFileArguments = .ok oneFileSettings ∧ ¬ oneFileSettings.Refused
      ∧ ∃ before rest texts,
        StopsAt (oneFileSettings.Delivers oneFileWorld) (sources oneFileSettings.files) before rest
            texts
          ∧ rest ≠ [] ∧ texts.flatten = "BXb"
          ∧ (run oneFileWorld oneFileArguments).ending = .exit 2
          ∧ (run oneFileWorld oneFileArguments).streams.output = "BXb" := by
  have hparse : parse oneFileArguments = .ok oneFileSettings :=
    Template.except_eq_ok_of_toOption (by decide +kernel)
  have hcompile : Regex.compile "b" (Regex.Flags.ofOptions false false false).bits
      = .ok ⟨"b", 0, .ok Regex.letterProgram⟩ := Regex.compile_eq _ _
  have hasks : oneFileSettings.Asks
      ⟨⟨"b", 0, .ok Regex.letterProgram⟩, some "\\U\\0x", 1, false⟩ :=
    { count := rfl
      nonneg := by decide
      regex := by simp only [Settings.compile, oneFileSettings, Settings.initial, hcompile]
      valid := rfl
      template := rfl
      verbose := rfl }
  have hending : (run oneFileWorld oneFileArguments).ending = .exit 2 := by decide +kernel
  have htext : (run oneFileWorld oneFileArguments).streams.output = "BXb" := by decide +kernel
  obtain ⟨-, -, ⟨before, rest, texts, hcut, houtput, hsuccess, -⟩, -⟩ :=
    run_writes_prefix hparse oneFileWorld
  refine ⟨hparse, hasks.not_refused, before, rest, texts, hcut, ?_, houtput ▸ htext, hending, htext⟩
  -- A cut at the end would be a success.
  intro hrest
  rw [hsuccess.mpr hrest] at hending
  cases hending

end CommandLine

end RegexSubst
