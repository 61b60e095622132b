import RegexSubst.Proofs.Text.FinalSigma
import RegexSubst.Proofs.Template.Actions

/-!
# `RegexSubst.Proofs.Template.TypedText`: a text in the template and the same text captured

A text can stand in the template itself, where every character is a segment, or in a group, whose
text is one segment. Without a case change the two are the same. Upper-casing, and a change of the
next segment, do not see the difference either. Lower-casing sees it where a sigma ends a word.

* `wholeMatch` is the match of a whole text.
* `Builder.build_request` is the answer for a case change in front of a template.
* `build_typed_captured` compares the two answers under every case change.
-/

set_option autoImplicit false

namespace RegexSubst.Template

/-- The match that covers the whole of `t`. -/
def wholeMatch (regex : RegexView) (t : Text) : Context :=
  ⟨regex, t, [⟨0, t.length⟩]⟩

/-- The reference to the whole match. -/
def wholeReference : Text := "\\0"

/-- The span of a whole text has the text itself. -/
theorem slice_whole (t : Text) : Span.slice ⟨0, t.length⟩ t = t := by
  have hstop : ¬ ((t.length : Int) < 0) := by omega
  simp [Span.slice, Text.slice, Text.place, hstop]

/-- The control of a case mode asks for the mode and writes nothing. -/
theorem settled_request (ctx : Context) {letter : CodePoint} {mode : CaseMode}
    (h : (letter, mode) ∈ caseLetters) : Settled ctx [introducer, letter] ⟨mode, #[]⟩ := by
  simp only [caseLetters, List.mem_cons, Prod.mk.injEq, List.not_mem_nil, or_false] at h
  rcases h with ⟨rfl, rfl⟩ | ⟨rfl, rfl⟩ | ⟨rfl, rfl⟩ | ⟨rfl, rfl⟩
  all_goals exact Settled.of_scan rfl

/-- A case change in front of a template without a fault: the actions of the template write under
its mode. -/
theorem Builder.build_request (b : Builder) {ctx : Context} (hvalid : ctx.regex.isValid = true)
    {letter : CodePoint} {mode : CaseMode} (h : (letter, mode) ∈ caseLetters) {template : Text}
    (hok : firstFault? template = none) :
    (b.build ctx ([introducer, letter] ++ template)).1
      = .ok ⟨true, Text.join (mode.writeAll (actions ctx template))⟩ := by
  have hsettled := settled_request ctx h
  rw [b.build_eq_actions hvalid (by simp), hsettled.firstFault?_append, hok,
    hsettled.writeAll_append]
  rfl

/-- The reference to the whole match hands over the text as one segment. -/
theorem actions_wholeReference (regex : RegexView) (t : Text) :
    actions (wholeMatch regex t) wholeReference = [.emit t] := by
  have hread : Token.readAll wholeReference = [.digit '0'] :=
    Token.readAll_of_completeAll (s := wholeReference) rfl
  rw [actions, hread]
  show [Action.emit (Span.slice ⟨0, t.length⟩ t)] = _
  rw [slice_whole]

/-- A reference to the whole match has no fault. -/
theorem firstFault?_wholeReference : firstFault? wholeReference = none := by
  rw [firstFault?, Token.readAll_of_completeAll (s := wholeReference) rfl]
  rfl

/-- A text without a backslash, in the template and captured by the whole match. Behind the control
of upper-casing, or of a change of the next segment, the two have the same answer. Behind the
control of lower-casing they have the same answer exactly if no sigma of the text ends a word. -/
theorem build_typed_captured (b : Builder) (regex : RegexView) (t : Text)
    (hvalid : regex.isValid = true) (hplain : introducer ∉ t) :
    (∀ letter : CodePoint,
        letter = CodePoint.ofChar 'U' ∨ letter = CodePoint.ofChar 'u'
            ∨ letter = CodePoint.ofChar 'l' →
          ∃ text, (b.build (wholeMatch regex t) ([introducer, letter] ++ t)).1 = .ok ⟨true, text⟩
            ∧ (b.build (wholeMatch regex t) ([introducer, letter] ++ wholeReference)).1
              = .ok ⟨true, text⟩)
      ∧ ∃ typed captured,
        (b.build (wholeMatch regex t) ([introducer, CodePoint.ofChar 'L'] ++ t)).1
            = .ok ⟨true, typed⟩
          ∧ (b.build (wholeMatch regex t) ([introducer, CodePoint.ofChar 'L'] ++ wholeReference)).1
            = .ok ⟨true, captured⟩
          ∧ (typed = captured ↔
            ∀ before after, t = before ++ CodePoint.capitalSigma :: after →
              ¬ Text.IsFinalPosition before after) := by
  -- In the template the text is a segment for each character, in the group it is one segment.
  have htyped {letter : CodePoint} {mode : CaseMode} (h : (letter, mode) ∈ caseLetters) :
      (b.build (wholeMatch regex t) ([introducer, letter] ++ t)).1
        = .ok ⟨true, Text.join (mode.writeAll (t.map fun c => .emit [c]))⟩ := by
    rw [b.build_request hvalid h (firstFault?_of_not_mem hplain), actions_of_not_mem _ hplain]
  have hcaptured {letter : CodePoint} {mode : CaseMode} (h : (letter, mode) ∈ caseLetters) :
      (b.build (wholeMatch regex t) ([introducer, letter] ++ wholeReference)).1
        = .ok ⟨true, Text.join (mode.apply t)⟩ := by
    rw [b.build_request hvalid h firstFault?_wholeReference, actions_wholeReference]
    simp [CaseMode.writeAll, CaseMode.write]
  constructor
  · rintro letter hletter
    -- None of the three letters asks for lower-casing.
    obtain ⟨mode, hmem, hmode⟩ : ∃ mode, (letter, mode) ∈ caseLetters ∧ mode ≠ .lower := by
      rcases hletter with rfl | rfl | rfl
      · exact ⟨.upper, by simp [caseLetters], by decide⟩
      · exact ⟨.upperNext, by simp [caseLetters], by decide⟩
      · exact ⟨.lowerNext, by simp [caseLetters], by decide⟩
    refine ⟨_, htyped hmem, ?_⟩
    rw [hcaptured hmem, mode.writeAll_characters (.inl hmode)]
  · have hmem : (CodePoint.ofChar 'L', CaseMode.lower) ∈ caseLetters := by simp [caseLetters]
    refine ⟨_, _, htyped hmem, hcaptured hmem, ?_⟩
    rw [CaseMode.writeAll_characters_of_lasting (.inl rfl)]
    simp only [CaseMode.lower_apply]
    exact Text.join_lower_eq_iff t

/-- Two words with sigmas; the first one ends with one. -/
def streetText : Text := "ΟΔΟΣ ΣΑ"

/-- The sigma of the first word ends it, so lower-casing shows where the text comes from; a change
of the next segment does not. -/
theorem build_typed_captured_street :
    yearMatch.regex.isValid = true ∧ introducer ∉ streetText
      ∧ streetText = "ΟΔΟ" ++ CodePoint.capitalSigma :: " ΣΑ"
      ∧ Text.IsFinalPosition "ΟΔΟ" " ΣΑ"
      ∧ (∃ text,
        (Builder.fresh.build (wholeMatch yearMatch.regex streetText)
            ([introducer, CodePoint.ofChar 'u'] ++ streetText)).1 = .ok ⟨true, text⟩
          ∧ (Builder.fresh.build (wholeMatch yearMatch.regex streetText)
            ([introducer, CodePoint.ofChar 'u'] ++ wholeReference)).1 = .ok ⟨true, text⟩)
      ∧ ∃ typed captured,
        (Builder.fresh.build (wholeMatch yearMatch.regex streetText)
            ([introducer, CodePoint.ofChar 'L'] ++ streetText)).1 = .ok ⟨true, typed⟩
          ∧ (Builder.fresh.build (wholeMatch yearMatch.regex streetText)
            ([introducer, CodePoint.ofChar 'L'] ++ wholeReference)).1 = .ok ⟨true, captured⟩
          ∧ typed ≠ captured := by
  have hplain : introducer ∉ streetText := by decide
  have hfinal : Text.IsFinalPosition "ΟΔΟ" " ΣΑ" :=
    (Text.endsWord_iff "ΟΔΟ" " ΣΑ").mp (by decide +kernel)
  obtain ⟨hsame, typed, captured, htyped, hcaptured, hiff⟩ :=
    build_typed_captured .fresh yearMatch.regex streetText rfl hplain
  refine ⟨rfl, hplain, rfl, hfinal, hsame _ (.inr (.inl rfl)), typed, captured, htyped, hcaptured,
    ?_⟩
  intro heq
  exact hiff.mp heq _ _ rfl hfinal

end RegexSubst.Template
