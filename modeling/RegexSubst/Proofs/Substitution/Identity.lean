import RegexSubst.Proofs.Substitution.Replacing
import RegexSubst.Proofs.Template.Reference
import RegexSubst.Proofs.Text.Slice

/-!
# `RegexSubst.Proofs.Substitution.Identity`: matches that are replaced by themselves

Group zero is the whole match. A template that only refers to it replaces every match by the stretch
that it covers, so the text stays what it is. The expansion joins the surrogate pairs of the
stretch, which shows unless the text has none.

* `Match.captureText?_stretch`: the text of group zero is the stretch of the match.
* `substitute_wholeMatch`: the text is unchanged, and the matches are counted.
* `substitute_wholeMatch_crossed`: a match that cannot be reported is not replaced by itself either.
-/

set_option autoImplicit false

namespace RegexSubst

/-- A part of a text without a pair has none. -/
theorem Text.hasPair_of_infix {s t : Text} (h : s <:+: t) (ht : t.hasPair = false) :
    s.hasPair = false := by
  rw [← Bool.not_eq_true, Text.hasPair_iff] at ht ⊢
  rintro ⟨before, high, low, after, rfl, hhalves⟩
  obtain ⟨first, last, rfl⟩ := h
  exact ht ⟨first ++ before, high, low, after ++ last, by simp, hhalves⟩

namespace Regex

open RegexSubst.Template (RefersTo captureText?)

/-- The templates that consist of a reference to the whole match. -/
def wholeMatchTemplates : List Text :=
  ["\\0", "\\g\x7b0\x7d", "\\g<0>"]

/-- Each of these templates refers to group zero. -/
theorem refersTo_of_mem_wholeMatchTemplates (regex : Template.RegexView) {template : Text}
    (h : template ∈ wholeMatchTemplates) : RefersTo regex 0 template := by
  have hform : Template.DecimalForm 0 "0" := ⟨0, rfl, fun _ => rfl, by decide⟩
  have hzero : Template.resolveGroup regex "0" = .ok 0 :=
    Template.resolveGroup_of_decimalForm regex hform
  simp only [wholeMatchTemplates, List.mem_cons, List.not_mem_nil, or_false] at h
  rcases h with rfl | rfl | rfl
  · exact .digit '0' rfl rfl
  · exact .bracketed .brace "0" (by decide) hzero
  · exact .bracketed .angle "0" (by decide) hzero

section

variable {size : Nat} (m : Match size) (text : Text)

/-- The text of group zero is the stretch of the match. -/
theorem Match.captureText?_stretch (groups : Nat) :
    captureText? 0 (m.spans groups) text = .ok (some (m.stretch text)) := by
  -- The span of a match does not end before it begins, so it has a slice.
  have hinside : ¬ ((m.start : Int) < 0 || (m.stop : Int) < m.start) = true := by
    have := m.start_le_stop
    simp only [Bool.or_eq_true, decide_eq_true_eq]
    omega
  have hslice : Span.slice ⟨m.start, m.stop⟩ text = m.stretch text := if_neg hinside
  rw [← hslice, Template.captureText?_eq]
  rfl

/-- A stretch of a text without a pair has none. -/
theorem Match.join_stretch {text : Text} (hpair : text.hasPair = false) :
    Text.join (m.stretch text) = m.stretch text := by
  have hinfix : m.stretch text <:+: text := by
    rw [Match.stretch, Text.slice_of_le text m.start_le_stop]
    exact (List.take_prefix _ _).isInfix.trans (List.drop_suffix _ _).isInfix
  exact (Text.join_eq_self_iff _).mpr (Text.hasPair_of_infix hinfix hpair)

end

variable {r : Regex} {program : Program} {text template : Text} {count : Int}

/-- A reference to the whole match is expanded to the stretch of the match with its pairs joined. -/
theorem expand_wholeMatch (hprogram : r.program = .ok program)
    (htemplate : template ∈ wholeMatchTemplates) {size : Nat} (m : Match size) :
    r.expand text (m.spans program.groups.count) template
      = .ok (Text.join (m.stretch text)) := by
  have hrefers : RefersTo (r.context program text m).regex 0 template :=
    refersTo_of_mem_wholeMatchTemplates _ htemplate
  have hperforms := hrefers.performs_of_captured (m.captureText?_stretch text _)
  have hbuild : Template.replacement (r.context program text m) template
      = .ok ⟨true, Text.join (m.stretch text)⟩ := by
    rw [Template.replacement, hperforms.build_alone .fresh (isValid_of_program hprogram)
      hrefers.introducer_mem]
    simp only [Template.CaseMode.writeAll, Template.CaseMode.write, Template.CaseMode.keep_apply,
      List.append_nil]
  unfold context at hbuild
  simp only [expand, hbuild, if_true]

/-- Replacing every match by itself changes nothing. A substitution by a valid regex with a
reference to the whole match answers with the text as it is and with the number of matches that are
replaced: all of them, or as many as the limit allows if it is positive. The limit is below the
bound, no high surrogate of the text is directly followed by a low one, and each of the matches that
are replaced can be reported. -/
theorem substitute_wholeMatch (r : Regex) (program : Program) (text template : Text) (count : Int)
    (hprogram : r.program = .ok program) (hcount : count < countBound)
    (hpair : ¬ ∃ before high low after, text = before ++ high :: low :: after
      ∧ high.isHigh = true ∧ low.isLow = true)
    (hreported : ∀ m ∈ replaced program text count, m.isCrossed = false)
    (htemplate : template ∈ wholeMatchTemplates) :
    r.substitute text template count
        = .ok (text, replacedCount count (program.findAll text.toArray).length)
      ∧ r.substituteText text template count = .ok text := by
  rw [← Text.hasPair_iff, Bool.not_eq_true] at hpair
  have horder : InOrder 0 (replaced program text count) := (program.inOrder_findAll _).take _
  have hnew (m) (hm : m ∈ replaced program text count) :
      r.newText program text template m = .ok (m.stretch text) := by
    simp only [newText, hreported m hm, Bool.false_eq_true, if_false]
    -- The expansion joins pairs, but the stretch has none.
    rw [expand_wholeMatch hprogram htemplate, m.join_stretch hpair]
  -- The kept parts and the stretches make the text again.
  have hsame : rewritten text (replaced program text count) (·.stretch text) = text :=
    weave_stretches horder
  have hanswer := substitute_of_newText hprogram hcount hnew
  rw [hsame] at hanswer
  refine ⟨hanswer, ?_⟩
  rw [substituteText, hanswer]
  rfl

/-- The program of the regex `b*`. -/
def starProgram : Program := compiled "b*" (by decide +kernel)

/-- In `letterText` the regex `b*` matches twice a row of letters and four times the empty text. -/
theorem substitute_wholeMatch_star :
    compile "b*" 0 = .ok ⟨"b*", 0, .ok starProgram⟩ ∧ (0 : Int) < countBound
      ∧ (¬ ∃ before high low after, letterText = before ++ high :: low :: after
        ∧ high.isHigh = true ∧ low.isLow = true)
      ∧ (∀ m ∈ replaced starProgram letterText 0, m.isCrossed = false)
      ∧ (∀ m ∈ replaced starProgram letterText 2, m.isCrossed = false)
      ∧ (∀ template ∈ wholeMatchTemplates,
        substitute ⟨"b*", 0, .ok starProgram⟩ letterText template 0 = .ok (letterText, 6)
          ∧ substitute ⟨"b*", 0, .ok starProgram⟩ letterText template 2 = .ok (letterText, 2)
          ∧ substituteText ⟨"b*", 0, .ok starProgram⟩ letterText template 2 = .ok letterText) := by
  have hpair : ¬ ∃ before high low after, letterText = before ++ high :: low :: after
      ∧ high.isHigh = true ∧ low.isLow = true := by
    rw [← Text.hasPair_iff]
    decide
  have hall : ∀ m ∈ replaced starProgram letterText 0, m.isCrossed = false := by decide +kernel
  have htwo : ∀ m ∈ replaced starProgram letterText 2, m.isCrossed = false := by decide +kernel
  have hfound : (starProgram.findAll letterText.toArray).length = 6 := by decide +kernel
  refine ⟨compile_eq _ _, by decide, hpair, hall, htwo, fun template htemplate => ?_⟩
  obtain ⟨hanswer, -⟩ := substitute_wholeMatch ⟨"b*", 0, .ok starProgram⟩ starProgram letterText
    template 0 rfl (by decide) hpair hall htemplate
  obtain ⟨hlimited, htext⟩ := substitute_wholeMatch ⟨"b*", 0, .ok starProgram⟩ starProgram
    letterText template 2 rfl (by decide) hpair htwo htemplate
  rw [hfound] at hanswer hlimited
  exact ⟨hanswer, hlimited, htext⟩

/-- A valid regex does not always replace its matches by themselves: a match in which a group ends
before it begins cannot be reported. -/
theorem substitute_wholeMatch_crossed :
    compile "((x)|y|z)*+" 0 = .ok ⟨"((x)|y|z)*+", 0, .ok crossingProgram⟩ ∧ (0 : Int) < countBound
      ∧ (¬ ∃ (before : Text) (high low : CodePoint) (after : Text),
        "xyz" = before ++ high :: low :: after ∧ high.isHigh = true ∧ low.isLow = true)
      ∧ ∀ template ∈ wholeMatchTemplates,
        substitute ⟨"((x)|y|z)*+", 0, .ok crossingProgram⟩ "xyz" template 0
          = .error .crossedGroup := by
  have hpair : ¬ ∃ (before : Text) (high low : CodePoint) (after : Text),
      "xyz" = before ++ high :: low :: after ∧ high.isHigh = true ∧ low.isLow = true := by
    rw [← Text.hasPair_iff]
    decide
  exact ⟨compile_eq _ _, by decide, hpair, fun template _ =>
    substitute_of_crossed rfl (by decide) (by decide +kernel)⟩

end Regex

end RegexSubst
