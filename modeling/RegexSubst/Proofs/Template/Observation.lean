import RegexSubst.Proofs.Text.Slice
import RegexSubst.Proofs.Template.Reference

/-!
# `RegexSubst.Proofs.Template.Observation`: what a build sees of a match

A build asks three questions of a match: whether the regex can be used, which text a group captured,
and which group a name means. It never sees the spans themselves, nor the text outside of them, and
it asks for no name that it reads as a number itself. Where the answer for a name is not the number
of a group, it does not matter which one it is.

* `Context.Indistinguishable` says that two matches give the same answers.
* `Context.Indistinguishable.action_eq`: every token does the same in both.
* `build_observes`: equal answers are all that a build needs to have the same result.
-/

set_option autoImplicit false

namespace RegexSubst.Template

/-- Two matches give the same answers: both regexes can be used or neither, there are as many
groups, every group captured the same text, and every name that is not read as a number means the
same group in both, if it means a group in one of them. -/
structure Context.Indistinguishable (ctx₁ ctx₂ : Context) : Prop where
  isValid : ctx₁.regex.isValid = ctx₂.regex.isValid
  groupCount : ctx₁.spans.length = ctx₂.spans.length
  captured : ∀ number, isAvailable number ctx₁.spans = true →
    captureText? number ctx₁.spans ctx₁.text = captureText? number ctx₂.spans ctx₂.text
  named : ∀ name, Token.isNumeral name = false →
    isAvailable (ctx₁.regex.groupNumber name) ctx₁.spans = true
        ∨ isAvailable (ctx₂.regex.groupNumber name) ctx₂.spans = true →
      ctx₁.regex.groupNumber name = ctx₂.regex.groupNumber name

/-- A group number without a span has no text. -/
theorem captureText?_of_not_isAvailable {number : Int} {spans : List Span}
    (h : ¬ isAvailable number spans = true) (text : Text) :
    captureText? number spans text = .ok none :=
  if_neg h

/-- A reference to a group number without a span is written as it is. -/
theorem Token.groupAction_of_not_isAvailable {ctx : Context} {number : Int}
    (h : ¬ isAvailable number ctx.spans = true) (source : Text) :
    groupAction ctx number source = .emitRaw source :=
  groupAction_eq_of_captureText? (captureText?_of_not_isAvailable h ctx.text) source

namespace Context.Indistinguishable

variable {ctx₁ ctx₂ : Context}

/-- The same group numbers have a span. -/
theorem isAvailable_eq (h : Indistinguishable ctx₁ ctx₂) (number : Int) :
    isAvailable number ctx₁.spans = isAvailable number ctx₂.spans := by
  simp only [isAvailable, h.groupCount]

/-- Group numbers without a span have the same text as well, namely none. -/
theorem captureText?_eq (h : Indistinguishable ctx₁ ctx₂) (number : Int) :
    captureText? number ctx₁.spans ctx₁.text = captureText? number ctx₂.spans ctx₂.text := by
  by_cases havailable : isAvailable number ctx₁.spans = true
  · exact h.captured number havailable
  · have havailable' : ¬ isAvailable number ctx₂.spans = true :=
      h.isAvailable_eq number ▸ havailable
    rw [captureText?_of_not_isAvailable havailable, captureText?_of_not_isAvailable havailable']

/-- A reference by a number writes the same text in both matches. -/
theorem groupAction_eq (h : Indistinguishable ctx₁ ctx₂) (number : Int) (source : Text) :
    Token.groupAction ctx₁ number source = Token.groupAction ctx₂ number source := by
  have hcaptured := Template.captureText?_eq number ctx₁.spans ctx₁.text
  rw [Token.groupAction_eq_of_captureText? hcaptured,
    Token.groupAction_eq_of_captureText? ((h.captureText?_eq number).symm.trans hcaptured)]

/-- A name in brackets writes the same text in both matches. -/
theorem groupAction_groupOf_eq (h : Indistinguishable ctx₁ ctx₂) (name source : Text) :
    Token.groupAction ctx₁ (Token.groupOf ctx₁.regex name) source
      = Token.groupAction ctx₂ (Token.groupOf ctx₂.regex name) source := by
  unfold Token.groupOf
  cases hnumeral : Token.isNumeral name with
  -- A numeral is its own group, whatever the regexes answer for it.
  | true => exact h.groupAction_eq _ source
  | false =>
    by_cases hknown : isAvailable (ctx₁.regex.groupNumber name) ctx₁.spans = true
        ∨ isAvailable (ctx₂.regex.groupNumber name) ctx₂.spans = true
    · rw [h.named name hnumeral hknown]
      exact h.groupAction_eq _ source
    · -- The two answers may differ, but neither is the number of a group.
      obtain ⟨hfirst, hsecond⟩ := not_or.mp hknown
      exact (Token.groupAction_of_not_isAvailable hfirst source).trans
        (Token.groupAction_of_not_isAvailable hsecond source).symm

/-- Every token does the same in both matches. -/
theorem action_eq (h : Indistinguishable ctx₁ ctx₂) (token : Token) :
    token.action ctx₁ = token.action ctx₂ := by
  cases token with
  | digit d => exact h.groupAction_eq _ _
  | reference bracket name => exact h.groupAction_groupOf_eq name _
  | _ => rfl

/-- A template has the same actions in both matches. -/
theorem actions_eq (h : Indistinguishable ctx₁ ctx₂) (template : Text) :
    actions ctx₁ template = actions ctx₂ template :=
  List.map_congr_left fun token _ => h.action_eq token

/-- Two builds of a template for such matches have the same result. -/
theorem build_eq (h : Indistinguishable ctx₁ ctx₂) (b₁ b₂ : Builder) (template : Text) :
    (b₁.build ctx₁ template).1 = (b₂.build ctx₂ template).1 := by
  by_cases hvalid : ctx₁.regex.isValid = true
  · -- The faults of a template are known without a match, so only its text is left.
    have hvalid' : ctx₂.regex.isValid = true := h.isValid ▸ hvalid
    rw [b₁.build_eq hvalid, b₂.build_eq hvalid', textByTokens_eq, textByTokens_eq,
      h.actions_eq template]
  · have hvalid' : ¬ ctx₂.regex.isValid = true := h.isValid ▸ hvalid
    rw [b₁.build_of_not_valid (by simpa using hvalid),
      b₂.build_of_not_valid (by simpa using hvalid')]

/-- What the regex answers for numerals is not asked. -/
theorem of_names {ctx : Context} {groupNumber : Text → Int}
    (h : ∀ name, Token.isNumeral name = false → groupNumber name = ctx.regex.groupNumber name) :
    Indistinguishable ctx { ctx with regex := ⟨ctx.regex.isValid, groupNumber⟩ } where
  isValid := rfl
  groupCount := rfl
  captured _ _ := rfl
  named name hname _ := (h name hname).symm

/-- The text outside of the spans is not seen. -/
theorem of_text {ctx : Context} {text : Text}
    (h : ∀ span ∈ ctx.spans, ∀ i, span.Covers i → text[i]? = ctx.text[i]?) :
    Indistinguishable ctx { ctx with text := text } where
  isValid := rfl
  groupCount := rfl
  captured number _ := by
    rw [Template.captureText?_eq, Template.captureText?_eq]
    cases hspan : ctx.spans[number.toNat]? with
    | none => rfl
    | some span =>
      -- The text of a group is made of positions that its span covers.
      have hslice := span.slice_congr fun i hi => h span (List.mem_of_getElem? hspan) i hi
      simp only [Option.map_some, hslice]
  named _ _ _ := rfl

end Context.Indistinguishable

/-- What a build can see of a match. Two builds of a template have the same result, text or fault,
if their matches give the same answers, whatever the spans, the texts and the names are otherwise.
So it does not matter which group the regex finds for a name that is read as a number, and the text
of a match may be changed at every position that no span covers. -/
theorem build_observes (b₁ b₂ : Builder) (ctx : Context) (template : Text) :
    (∀ other, ctx.Indistinguishable other →
        (b₁.build ctx template).1 = (b₂.build other template).1)
      ∧ (∀ groupNumber : Text → Int,
        (∀ name, Token.isNumeral name = false → groupNumber name = ctx.regex.groupNumber name) →
          (b₁.build ctx template).1
            = (b₂.build { ctx with regex := ⟨ctx.regex.isValid, groupNumber⟩ } template).1)
      ∧ ∀ text : Text,
        (∀ span ∈ ctx.spans, ∀ i, span.Covers i → text[i]? = ctx.text[i]?) →
          (b₁.build ctx template).1 = (b₂.build { ctx with text := text } template).1 := by
  refine ⟨?_, ?_, ?_⟩
  · intro other h
    exact h.build_eq b₁ b₂ template
  · intro groupNumber h
    exact (Context.Indistinguishable.of_names h).build_eq b₁ b₂ template
  · intro text h
    exact (Context.Indistinguishable.of_text h).build_eq b₁ b₂ template

/-- The match `yearMatch` in the middle of a longer text. Its regex knows the numeral `1` as a name
of another group, and answers the number of no group for names that it does not know. -/
def innerMatch : Context :=
  ⟨⟨true, fun name => if name = "year" then 1 else if name = "1" then 0 else 5⟩, "<in 2024>",
    [⟨1, 8⟩, ⟨4, 8⟩]⟩

/-- The two matches differ in their texts, in all their spans, and in what their regexes answer for
`1` and for names that they do not know. -/
theorem indistinguishable_inner : yearMatch.Indistinguishable innerMatch where
  isValid := rfl
  groupCount := rfl
  captured number h := by
    have hbounds : 0 ≤ number ∧ number < 2 := by simpa [isAvailable, yearMatch] using h
    obtain rfl | rfl : number = 0 ∨ number = 1 := by omega
    · rfl
    · rfl
  named name hname h := by
    by_cases hyear : name = "year"
    · rw [hyear]
      rfl
    · -- Neither regex finds a group, because the numeral is excluded.
      have hone : name ≠ "1" := by
        rintro rfl
        cases hname
      have hfirst : yearMatch.regex.groupNumber name = -1 := if_neg hyear
      have hsecond : innerMatch.regex.groupNumber name = 5 := by
        simp only [innerMatch, if_neg hyear, if_neg hone]
      rw [hfirst, hsecond] at h
      rcases h with h | h <;> cases h

/-- A known name, a numeral and a name without a group are expanded alike in both matches, and what
stands around the spans may be anything, a backslash included. -/
theorem build_observes_inner :
    yearMatch.Indistinguishable innerMatch
      ∧ (Builder.fresh.build yearMatch "\\g\x7byear\x7d\\g<1>\\g<x>").1
        = .ok ⟨true, "20242024\\g<x>"⟩
      ∧ (Builder.fresh.build innerMatch "\\g\x7byear\x7d\\g<1>\\g<x>").1
        = .ok ⟨true, "20242024\\g<x>"⟩
      ∧ (∀ span ∈ innerMatch.spans, ∀ i, span.Covers i →
        ("\\in 2024\\0" : Text)[i]? = innerMatch.text[i]?)
      ∧ (Builder.fresh.build { innerMatch with text := "\\in 2024\\0" }
          "\\g\x7byear\x7d\\g<1>\\g<x>").1 = .ok ⟨true, "20242024\\g<x>"⟩ := by
  have hbuild : (Builder.fresh.build yearMatch "\\g\x7byear\x7d\\g<1>\\g<x>").1
      = .ok ⟨true, "20242024\\g<x>"⟩ := except_eq_ok_of_toOption (by decide +kernel)
  obtain ⟨hother, -⟩ :=
    build_observes .fresh .fresh yearMatch "\\g\x7byear\x7d\\g<1>\\g<x>"
  obtain ⟨-, -, htext⟩ :=
    build_observes .fresh .fresh innerMatch "\\g\x7byear\x7d\\g<1>\\g<x>"
  have hinner := (hother innerMatch indistinguishable_inner).symm.trans hbuild
  -- The spans cover the positions 1 to 7, and there the two texts agree.
  have hcovered : ∀ span ∈ innerMatch.spans, ∀ i, span.Covers i →
      ("\\in 2024\\0" : Text)[i]? = innerMatch.text[i]? := by
    intro span hspan i hcovers
    have hi : 1 ≤ i ∧ i < 8 := by
      simp only [innerMatch, List.mem_cons, List.not_mem_nil, or_false] at hspan
      obtain ⟨-, hstart, hstop⟩ := hcovers
      rcases hspan with rfl | rfl <;> simp only at hstart hstop <;> omega
    have hall : ∀ j < 8, 1 ≤ j → ("\\in 2024\\0" : Text)[j]? = innerMatch.text[j]? := by decide
    exact hall i hi.2 hi.1
  exact ⟨indistinguishable_inner, hbuild, hinner, hcovered, (htext _ hcovered).symm.trans hinner⟩

end RegexSubst.Template
