import RegexSubst.Proofs.Template.Pending
import RegexSubst.Proofs.Template.Spelling

/-!
# `RegexSubst.Proofs.Template.Quoting`: a control that goes wrong stands for its own source

A control that goes wrong is written as it stands in the template, as one segment. Its source can
also be written character by character, with every backslash doubled. The two are the same under
every case mode: a change for the next segment falls on the backslash in both, and a lasting one
changes code point by code point. Only the lower-case form of a capital sigma depends on what stands
next to it in the segment.

* `FailedControl` is a control that goes wrong, and `FailedControl.readAll` its token.
* `spellsAll_quote`: a quoted text is a spelling of the text.
* `build_quote`: a control that goes wrong may be replaced by its quoted source.
-/

set_option autoImplicit false

namespace RegexSubst.Template

/-! ### A quoted text -/

/-- A quoted text is a spelling of the text. -/
theorem spellsAll_quote (t : Text) : SpellsAll t (quote t) := by
  induction t with
  | nil => exact .nil
  | cons c rest ih =>
    show SpellsAll (c :: rest) ((if c = introducer then [introducer, introducer] else [c])
      ++ quote rest)
    refine .cons _ _ _ _ ?_ ih
    by_cases hc : c = introducer
    · rw [if_pos hc, hc]
      exact .character introducer introducer rfl
    · rw [if_neg hc]
      exact .plain c hc

/-- A quoted text has a backslash if the text has one. -/
theorem introducer_mem_quote {t : Text} (h : introducer ∈ t) : introducer ∈ quote t := by
  refine List.mem_flatMap.mpr ⟨introducer, h, ?_⟩
  simp

/-! ### Controls that go wrong -/

/-- The text `m`, read from where no control is unfinished, is one control that is written as it
stands. Either its last character shows that it is none, or a reference has no group, whatever the
rest of the template is; or `m` ends the template before the control is finished. -/
inductive FailedControl (ctx : Context) (m : Text) : Text → Prop
  /-- The control is written as it stands when its last character is read. -/
  | complete (raw rest : Text)
    (written : ScanState.literal.run ctx m = .ok (.literal, [.emitRaw raw])) :
    FailedControl ctx m rest
  /-- The control is still unfinished at the end of the template. -/
  | unfinished (state : ScanState) (pending : state ≠ .literal)
    (silent : ScanState.literal.run ctx m = .ok (state, [])) : FailedControl ctx m []

/-- A run that begins with a character other than the backslash writes it first. -/
theorem ScanState.exists_emit_of_run {ctx : Context} {c : CodePoint} {rest : Text}
    {last : ScanState} {actions : List Action} (hc : c ≠ introducer)
    (hrun : literal.run ctx (c :: rest) = .ok (last, actions)) :
    ∃ others, actions = .emit [c] :: others := by
  have hplain : literal.step ctx c = .ok (.literal, some (.emit [c])) := if_neg hc
  obtain ⟨next, action, others, hstep, -, rfl⟩ := exists_step_of_run hrun
  rw [hplain] at hstep
  cases hstep
  exact ⟨others, rfl⟩

namespace FailedControl

variable {ctx : Context} {m rest : Text}

/-- A control that goes wrong begins with the backslash. -/
theorem introducer_mem (h : FailedControl ctx m rest) : introducer ∈ m := by
  cases m with
  | nil =>
    -- Nothing is read, so nothing is written and nothing is unfinished.
    cases h with
    | complete raw _ written => cases written
    | unfinished state pending silent => cases silent; exact absurd rfl pending
  | cons c tail =>
    by_cases hc : c = introducer
    · simp [hc]
    · -- Another character would be written as such.
      cases h with
      | complete raw _ written =>
        obtain ⟨others, hothers⟩ := ScanState.exists_emit_of_run hc written
        cases hothers
      | unfinished state pending silent =>
        obtain ⟨others, hothers⟩ := ScanState.exists_emit_of_run hc silent
        cases hothers

/-- A control that goes wrong is one token, which has no fault and writes its source. -/
theorem readAll (h : FailedControl ctx m rest) :
    ∃ token, Token.readAll (m ++ rest) = token :: Token.readAll rest
      ∧ token.fault? = none ∧ token.action ctx = .emitRaw m := by
  have hliteral := ScanState.wellFormed_literal
  have hraw := ScanState.raw_completeAll hliteral m
  cases h with
  | complete raw _ written =>
    obtain ⟨hlast, hfault, hactions⟩ := ScanState.completeAll_of_run hliteral written
    obtain ⟨token, htokens, haction⟩ := List.map_eq_singleton_iff.mp hactions
    rw [htokens] at hfault hraw
    -- Nothing is pending behind the one token, so its source is all of `m`.
    have hsource : token.source = m := by simpa [hlast, ScanState.raw] using hraw
    refine ⟨token, ?_, by simpa using hfault, ?_⟩
    · rw [Token.readAll_append hlast, Token.readAll_of_completeAll hlast, htokens]
      rfl
    · rw [haction, Token.eq_source_of_action haction, hsource]
  | unfinished state pending silent =>
    obtain ⟨hlast, -, hactions⟩ := ScanState.completeAll_of_run hliteral silent
    -- No token is completed, so all of `m` is still pending.
    have htokens := List.map_eq_nil_iff.mp hactions
    rw [htokens, hlast] at hraw
    have hsource : state.raw = m := by simpa [ScanState.raw] using hraw
    refine ⟨.malformed m, ?_, rfl, rfl⟩
    rw [List.append_nil, Token.readAll_nil, ← ScanState.tokens_literal, ScanState.tokens, htokens,
      hlast, ScanState.unfinished, if_neg pending, hsource, List.nil_append]

/-- A control that goes wrong is no fault. -/
theorem firstFault?_append (h : FailedControl ctx m rest) :
    firstFault? (m ++ rest) = firstFault? rest := by
  obtain ⟨token, htoken, hfault, -⟩ := h.readAll
  simp only [firstFault?, htoken, List.findSome?_cons, hfault]

/-- A control that goes wrong writes itself, as one segment. -/
theorem actions_append (h : FailedControl ctx m rest) :
    actions ctx (m ++ rest) = .emitRaw m :: actions ctx rest := by
  obtain ⟨token, htoken, -, haction⟩ := h.readAll
  simp only [actions, htoken, List.map_cons, haction]

end FailedControl

/-- A control that goes wrong is the same as its own source, quoted. After a part `p₁` of a template
that leaves no control unfinished, a control `m` that goes wrong may be replaced by `quote m`, in
which it stands character by character, whatever follows it: the build has the same text or the same
fault. Under lower-casing this is said of controls without a capital sigma. -/
theorem build_quote (b : Builder) (ctx : Context) (p₁ m p₂ : Text) (before : CaseBuffer)
    (hvalid : ctx.regex.isValid = true)
    (hscan : Expansion.initial.scan ctx p₁ = (⟨.literal, before⟩, none))
    (hfailed : FailedControl ctx m p₂)
    (hsigma : before.mode ≠ .lower ∨ CodePoint.capitalSigma ∉ m) :
    (b.build ctx (p₁ ++ m ++ p₂)).1 = (b.build ctx (p₁ ++ quote m ++ p₂)).1 := by
  have hp₁ := Settled.of_scan hscan
  have hquote := spellsAll_quote m
  have hmem : introducer ∈ p₁ ++ (m ++ p₂) := by simp [hfailed.introducer_mem]
  have hmem' : introducer ∈ p₁ ++ (quote m ++ p₂) := by
    simp [introducer_mem_quote hfailed.introducer_mem]
  have hfault : firstFault? (p₁ ++ (m ++ p₂)) = firstFault? (p₁ ++ (quote m ++ p₂)) := by
    rw [hp₁.firstFault?_append, hp₁.firstFault?_append, hfailed.firstFault?_append,
      hquote.firstFault?_append]
  -- Behind `p₁` both write the same text and leave the same mode for `p₂`.
  have hwritten : before.mode.writeAll (actions ctx (m ++ p₂))
      = before.mode.writeAll (actions ctx (quote m ++ p₂)) := by
    rw [hfailed.actions_append, hquote.actions_append, CaseMode.writeAll_append,
      CaseMode.writeAll_characters _ hsigma, CaseMode.nextAll_characters]
    rfl
  rw [List.append_assoc, List.append_assoc, b.build_eq_actions hvalid hmem,
    b.build_eq_actions hvalid hmem', hfault, hp₁.writeAll_append, hp₁.writeAll_append, hwritten]

/-- A template that leaves lower-casing active. -/
def lowerTemplate : Text := "A\\L"

/-- A reference to a name that `yearMatch` does not know. -/
def unknownReference : Text := "\\g<\\Q>"

/-- A hex escape without its closing brace. -/
def openHex : Text := "\\x\x7bE"

/-- Under lower-casing, a reference to a name that nobody knows and a hex escape without its end are
written as if each of their characters stood for itself. -/
theorem build_quote_unknown :
    yearMatch.regex.isValid = true
      ∧ (∃ before, Expansion.initial.scan yearMatch lowerTemplate = (⟨.literal, before⟩, none)
        ∧ before.mode = .lower)
      ∧ FailedControl yearMatch unknownReference openHex
      ∧ CodePoint.capitalSigma ∉ unknownReference
      ∧ (Builder.fresh.build yearMatch (lowerTemplate ++ unknownReference ++ openHex)).1
        = (Builder.fresh.build yearMatch (lowerTemplate ++ quote unknownReference ++ openHex)).1
      ∧ FailedControl yearMatch openHex [] ∧ CodePoint.capitalSigma ∉ openHex
      ∧ (Builder.fresh.build yearMatch (lowerTemplate ++ openHex ++ [])).1
        = (Builder.fresh.build yearMatch (lowerTemplate ++ quote openHex ++ [])).1 := by
  have hscan : Expansion.initial.scan yearMatch lowerTemplate
      = (⟨.literal, ⟨.lower, #["A"]⟩⟩, none) := rfl
  have hname : FailedControl yearMatch unknownReference openHex := .complete unknownReference _ rfl
  have hsigma : CodePoint.capitalSigma ∉ unknownReference := by decide
  have hhex : FailedControl yearMatch openHex [] := .unfinished (.hexBrace openHex "E") (by decide) rfl
  have hsigma' : CodePoint.capitalSigma ∉ openHex := by decide
  exact ⟨rfl, ⟨_, hscan, rfl⟩, hname, hsigma,
    build_quote .fresh yearMatch lowerTemplate unknownReference openHex _ rfl hscan hname
      (.inr hsigma), hhex, hsigma',
    build_quote .fresh yearMatch lowerTemplate openHex [] _ rfl hscan hhex (.inr hsigma')⟩

end RegexSubst.Template
