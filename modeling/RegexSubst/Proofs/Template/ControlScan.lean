import RegexSubst.Proofs.Template.Reference

/-!
# `RegexSubst.Proofs.Template.ControlScan`: a control in the middle of a scan

Where no control is unfinished, the scanner keeps nothing in mind. What it makes of the control that
comes next depends on the match alone.

* `ScanState.run_reference`: the scanner reads a reference in brackets as one control.
* `ScansAs` says what a control does wherever it stands, and `ScansAs.build_congr` that controls
  which do the same may stand for each other.
* `Builder.build_of_isOverlong`: a build fails at an overlong reference.
-/

set_option autoImplicit false

namespace RegexSubst.Template

/-- A name is read up to its closing bracket. -/
theorem ScanState.completeAll_named (raw : Text) (bracket : Bracket) (read : Text) {name : Text}
    (h : bracket.closing ∉ name) :
    (named raw bracket read).completeAll (name ++ [bracket.closing])
      = (.literal, [.reference bracket (read ++ name)]) := by
  induction name generalizing raw read with
  | nil => simp [completeAll, complete]
  | cons c rest ih =>
    have hc : c ≠ bracket.closing := fun hc => h (hc ▸ List.mem_cons_self ..)
    have hrest : bracket.closing ∉ rest := fun hrest => h (List.mem_cons_of_mem _ hrest)
    simp [completeAll, complete, hc, ih _ _ hrest]

/-- A reference in brackets is one token. -/
theorem ScanState.completeAll_reference {bracket : Bracket} {name : Text}
    (h : bracket.closing ∉ name) :
    literal.completeAll (Token.reference bracket name).source
      = (.literal, [.reference bracket name]) := by
  -- The three characters in front of the name lead to the state that reads it.
  have hhead (rest : Text) :
      literal.completeAll ([introducer, 'g', bracket.opening] ++ rest)
        = (named [introducer, 'g', bracket.opening] bracket []).completeAll rest := by
    cases bracket <;> rfl
  rw [Token.source, List.append_assoc, hhead, completeAll_named _ _ _ h, List.nil_append]

/-- A reference whose name is not overlong performs one action. -/
theorem ScanState.run_reference (ctx : Context) {bracket : Bracket} {name : Text}
    (hclosed : bracket.closing ∉ name) (hshort : ¬ IsOverlong name) :
    literal.run ctx (Token.reference bracket name).source
      = .ok (.literal, [(Token.reference bracket name).action ctx]) := by
  have hfault : (Token.reference bracket name).fault? = none :=
    if_neg fun hlong => hshort ((isOverlong_iff name).mp hlong)
  simp only [run_eq ctx wellFormed_literal, completeAll_reference hclosed, List.findSome?_cons,
    hfault, List.findSome?_nil, List.map_cons, List.map_nil]

/-- Wherever no control is unfinished, the scanner reads `control` as one control that does `action`
and nothing else. What has been read and written before and what follows do not matter. -/
structure ScansAs (ctx : Context) (control : Text) (action : Action) : Prop where
  run : ScanState.literal.run ctx control = .ok (.literal, [action])
  scan : ∀ p₁ p₂ before, Expansion.initial.scan ctx p₁ = (⟨.literal, before⟩, none) →
    Expansion.initial.scan ctx (p₁ ++ control ++ p₂)
      = Expansion.scan ctx ⟨.literal, before.perform action⟩ p₂

/-- A builder answers by the scan of a template with a backslash. -/
theorem Builder.build_congr (b : Builder) {ctx : Context} {t t' : Text} (ht : introducer ∈ t)
    (ht' : introducer ∈ t') (h : Expansion.initial.scan ctx t = Expansion.initial.scan ctx t') :
    b.build ctx t = b.build ctx t' := by
  have hcontains : t.contains introducer = true := by simpa using ht
  have hcontains' : t'.contains introducer = true := by simpa using ht'
  simp only [build, reset, hcontains, hcontains', h, Bool.not_true, Bool.false_eq_true, if_false]

namespace ScansAs

variable {ctx : Context} {control : Text} {action : Action}

/-- One run from the literal state is enough. -/
theorem of_run (h : ScanState.literal.run ctx control = .ok (.literal, [action])) :
    ScansAs ctx control action where
  run := h
  scan p₁ p₂ before hscan := by
    -- What has been written before is the output that the action is performed on.
    have hcontrol : Expansion.scan ctx ⟨.literal, before⟩ control
        = (⟨.literal, before.perform action⟩, none) :=
      Expansion.scan_of_run (e := ⟨.literal, before⟩) h
    rw [List.append_assoc, Expansion.scan_append hscan, Expansion.scan_append hcontrol]

/-- A reference in brackets that is not overlong is one control. -/
theorem reference (ctx : Context) {bracket : Bracket} {name : Text}
    (hclosed : bracket.closing ∉ name) (hshort : ¬ IsOverlong name) :
    ScansAs ctx (Token.reference bracket name).source
      (Token.groupAction ctx (Token.groupOf ctx.regex name)
        (Token.reference bracket name).source) :=
  of_run (ScanState.run_reference ctx hclosed hshort)

/-- Controls that do the same may stand for each other. -/
theorem build_congr {control' : Text} (h : ScansAs ctx control action)
    (h' : ScansAs ctx control' action) (hmem : introducer ∈ control)
    (hmem' : introducer ∈ control') {p₁ : Text} {before : CaseBuffer}
    (hscan : Expansion.initial.scan ctx p₁ = (⟨.literal, before⟩, none)) (p₂ : Text)
    (b : Builder) :
    b.build ctx (p₁ ++ control ++ p₂) = b.build ctx (p₁ ++ control' ++ p₂) := by
  refine b.build_congr (by simp [hmem]) (by simp [hmem']) ?_
  rw [h.scan p₁ p₂ before hscan, h'.scan p₁ p₂ before hscan]

end ScansAs

/-- An overlong reference is refused at any place where no control is unfinished. -/
theorem Builder.build_of_isOverlong (b : Builder) {ctx : Context} {p₁ : Text} {before : CaseBuffer}
    (hvalid : ctx.regex.isValid = true)
    (hscan : Expansion.initial.scan ctx p₁ = (⟨.literal, before⟩, none)) (bracket : Bracket)
    {name : Text} (hlong : IsOverlong name) (p₂ : Text) :
    (b.build ctx (p₁ ++ (Token.reference bracket name).source ++ p₂)).1
      = .error (.tooManyDigits name.length) := by
  have hclosed : bracket.closing ∉ name := bracket.closing_not_mem_of_isDigit hlong.1
  have hfault : (Token.reference bracket name).fault? = some (.tooManyDigits name.length) :=
    if_pos ((isOverlong_iff name).mpr hlong)
  have hfirst : firstFault? (p₁ ++ (Token.reference bracket name).source ++ p₂)
      = some (.tooManyDigits name.length) := by
    rw [List.append_assoc, (Settled.of_scan hscan).firstFault?_append, firstFault?,
      Token.readAll_reference hclosed, List.findSome?_cons, hfault]
  exact (b.build_eq_error_iff hvalid _ _).mpr hfirst

end RegexSubst.Template
