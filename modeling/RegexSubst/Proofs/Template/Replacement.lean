import RegexSubst.Proofs.Template.Tokens

/-!
# `RegexSubst.Proofs.Template.Replacement`: the answer of a builder by the tokens of the template

* `Token.readAll_of_not_mem` and `Token.readAll_reference`: what the grammar makes of a template
  without a backslash, and of one that begins with a reference.
* `Builder.build_eq`: for a regex that can be used, a build fails with the first fault of a token of
  the template, and otherwise its text is the template itself or what its tokens write.
* `build_eq_textByTokens`: reading one code point at a time writes what the whole tokens write.
-/

set_option autoImplicit false

namespace RegexSubst.Template

/-- A template without a backslash consists of plain characters. -/
theorem Token.readAll_of_not_mem {t : Text} (h : introducer ∉ t) :
    Token.readAll t = t.map Token.plain := by
  induction t with
  | nil => rw [Token.readAll]; rfl
  | cons c rest ih =>
    have hc : c ≠ introducer := fun hc => h (by simp [hc])
    have hrest : introducer ∉ rest := fun hrest => h (by simp [hrest])
    simp [Token.readAll, Token.read, hc, ih hrest]

/-- The first token of a template that begins with a reference. -/
theorem Token.readAll_reference {bracket : Bracket} {name : Text} (h : bracket.closing ∉ name)
    (rest : Text) :
    readAll ((reference bracket name).source ++ rest)
      = .reference bracket name :: readAll rest := by
  -- Up to its closing bracket all characters belong to the name.
  have hname : ∀ d ∈ name, decide (d ≠ bracket.closing) = true := by
    intro d hd
    have hne : d ≠ bracket.closing := by rintro rfl; exact h hd
    simpa using hne
  have hread : read introducer (CodePoint.ofChar 'g' :: bracket.opening :: name
      ++ bracket.closing :: rest) = (.reference bracket name, rest) := by
    show readReference (bracket.opening :: (name ++ bracket.closing :: rest)) = _
    simp only [readReference, Bracket.ofOpening?_opening, readName]
    rw [List.dropWhile_append_of_pos hname, List.takeWhile_append_of_pos hname]
    simp
  rw [show (reference bracket name).source ++ rest = introducer :: (CodePoint.ofChar 'g' ::
    bracket.opening :: name ++ bracket.closing :: rest) by simp [source], readAll, hread]

/-- The end of a template is no fault. -/
theorem ScanState.findSome?_unfinished (state : ScanState) :
    state.unfinished.findSome? Token.fault? = none := by
  unfold ScanState.unfinished
  split <;> rfl

namespace Expansion

/-- A scan from the start fails with the first fault of a token of the grammar. -/
theorem scan_initial_fault (ctx : Context) (template : Text) :
    (initial.scan ctx template).2 = (Token.readAll template).findSome? Token.fault? := by
  rw [scan_fault (e := initial) ScanState.wellFormed_literal, ← ScanState.tokens_literal,
    ScanState.tokens, List.findSome?_append, ScanState.findSome?_unfinished, Option.or_none]
  rfl

/-- The end of a scan writes the unfinished control as a token. -/
theorem finish_eq (ctx : Context) (e : Expansion) :
    e.finish = e.output.performTokens ctx e.state.unfinished := by
  unfold finish ScanState.flush ScanState.unfinished
  split <;> rfl

/-- What is written by the end of a scan from the start are the tokens of the grammar. -/
theorem finish_scan_initial (ctx : Context) (template : Text)
    (hok : (initial.scan ctx template).2 = none) :
    (initial.scan ctx template).1.finish.text = textByTokens ctx template := by
  rw [finish_eq ctx, scan_eq (e := initial) ScanState.wellFormed_literal hok,
    ← CaseBuffer.performTokens_append]
  show ((CaseBuffer.empty).performTokens ctx (ScanState.literal.tokens template)).text = _
  rw [ScanState.tokens_literal]
  rfl

end Expansion

namespace Builder

variable (b : Builder) {ctx : Context}

/-- A regex that cannot be used has no replacement text, whatever the template is. -/
theorem build_of_not_valid (hvalid : ctx.regex.isValid = false) (template : Text) :
    (b.build ctx template).1 = .ok ⟨false, []⟩ := by
  simp [build, hvalid]

/-- The answer for a regex that can be used: the first fault of a token, or a text. -/
theorem build_eq (hvalid : ctx.regex.isValid = true) (template : Text) :
    (b.build ctx template).1 =
      match (Token.readAll template).findSome? Token.fault? with
      | some fault => .error fault
      | none =>
        .ok ⟨true, if introducer ∈ template then textByTokens ctx template else template⟩ := by
  unfold build
  by_cases hmem : introducer ∈ template
  · -- The template is scanned, and the scan knows both its fault and its text.
    have hcontains : template.contains introducer = true := by simpa using hmem
    have hfault := Expansion.scan_initial_fault ctx template
    have htext := Expansion.finish_scan_initial ctx template
    simp only [hvalid, hcontains, hmem, Bool.not_true, Bool.false_eq_true, if_false, if_true, reset]
    rw [← hfault]
    cases hscan : Expansion.initial.scan ctx template with
    | mk e fault =>
      rw [hscan] at htext
      cases fault with
      | some fault => rfl
      | none => rw [← htext rfl]
  · -- The template is its own text. It consists of plain characters, which have no fault.
    have hcontains : template.contains introducer = false := by simpa using hmem
    have hplain : (template.map Token.plain).findSome? Token.fault? = none := by
      simp [List.findSome?_eq_none_iff, Token.fault?]
    simp only [hvalid, hcontains, hmem, Bool.not_true, Bool.not_false, Bool.false_eq_true,
      if_false, if_true, Token.readAll_of_not_mem hmem, hplain]

/-- A build fails with the first fault of a token, which is known without the match. -/
theorem build_eq_error_iff (hvalid : ctx.regex.isValid = true) (template : Text) (fault : Fault) :
    (b.build ctx template).1 = .error fault ↔
      (Token.readAll template).findSome? Token.fault? = some fault := by
  rw [b.build_eq hvalid]
  cases (Token.readAll template).findSome? Token.fault? with
  | none => simp
  | some f => simp

end Builder

/-- The match of `in (?P<year>[0-9]+)` in `in 2024`. -/
def yearMatch : Context :=
  ⟨⟨true, fun name => if name = "year" then 1 else -1⟩, "in 2024", [⟨0, 7⟩, ⟨3, 7⟩]⟩

/-- A template with most kinds of tokens, of which two are malformed. -/
def yearTemplate : Text :=
  "\\uab\\g\x7byear\x7d\\g<00>\\0\\x41\\x\x7b00e9\x7d\\g(\\x4"

end RegexSubst.Template
