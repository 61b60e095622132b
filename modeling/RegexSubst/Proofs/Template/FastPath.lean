import RegexSubst.Proofs.Template.Actions

/-!
# `RegexSubst.Proofs.Template.FastPath`: templates without a backslash

A template without a backslash is not scanned: it is its own text. A scan of it would come to the
same end, but for one thing. The text of a scan has its pairs of surrogates joined, and a template
that is returned as it is keeps them apart.

* `Expansion.scan_of_not_mem`: a scan of such a template writes it character by character.
* `build_eq_scan_iff`: the short way gives the text of the scan exactly if the template has no pair.
-/

set_option autoImplicit false

namespace RegexSubst.Template

/-- Between controls, plain characters are written one by one. -/
theorem ScanState.run_of_not_mem (ctx : Context) {t : Text} (h : introducer ∉ t) :
    ScanState.literal.run ctx t = .ok (.literal, t.map fun c => .emit [c]) := by
  induction t with
  | nil => rfl
  | cons c rest ih =>
    have hc : c ≠ introducer := fun hc => h (by simp [hc])
    have hrest : introducer ∉ rest := fun hrest => h (by simp [hrest])
    have hstep : ScanState.literal.step ctx c = .ok (.literal, some (.emit [c])) := if_neg hc
    exact ScanState.run_cons hstep (ih hrest)

/-- A scan of a template without a backslash has no fault, ends between controls and has written the
template. -/
theorem Expansion.scan_of_not_mem (ctx : Context) {template : Text} (h : introducer ∉ template) :
    ∃ output, initial.scan ctx template = (⟨.literal, output⟩, none)
      ∧ output.written = template := by
  refine ⟨_, scan_of_run (e := initial) (ScanState.run_of_not_mem ctx h), ?_⟩
  rw [CaseBuffer.written_performAll]
  exact CaseMode.keep_writeAll_characters template

/-- The short way and the scan. A template without a backslash would be scanned without a fault, and
the text of the scan would be the template with its pairs joined. So the answer of a build, which is
the template itself, is that of the scan if and only if no high surrogate of the template is directly
followed by a low one. -/
theorem build_eq_scan_iff (b : Builder) (ctx : Context) (template : Text)
    (hvalid : ctx.regex.isValid = true) (hplain : introducer ∉ template) :
    ∃ last, Expansion.initial.scan ctx template = (last, none) ∧ last.state = .literal
      ∧ last.finish.text = Text.join template
      ∧ (b.build ctx template).1 = .ok ⟨true, template⟩
      ∧ ((b.build ctx template).1 = .ok ⟨true, last.finish.text⟩ ↔
          ¬ ∃ before high low after, template = before ++ high :: low :: after
            ∧ high.isHigh = true ∧ low.isLow = true) := by
  obtain ⟨output, hscan, hwritten⟩ := Expansion.scan_of_not_mem ctx hplain
  have hbuild := b.build_of_not_mem hvalid hplain
  have htext : output.text = Text.join template := by rw [CaseBuffer.text_eq, hwritten]
  refine ⟨_, hscan, rfl, htext, hbuild, ?_⟩
  -- The two texts are the template and its join, which differ exactly if there is a pair.
  rw [hbuild, ← Text.hasPair_iff, Bool.not_eq_true, ← Text.join_eq_self_iff]
  show Except.ok (Replacement.mk true template) = .ok ⟨true, output.text⟩ ↔ _
  rw [htext]
  simp [eq_comm]

/-- A low half in front of a high half is no pair, so the short way and the scan agree; the other
way round they do not. -/
theorem build_eq_scan_iff_halves :
    yearMatch.regex.isValid = true ∧ introducer ∉ [Text.lowHalf, Text.highHalf]
      ∧ introducer ∉ [Text.highHalf, Text.lowHalf]
      ∧ (∃ last, Expansion.initial.scan yearMatch [Text.lowHalf, Text.highHalf] = (last, none)
        ∧ (Builder.fresh.build yearMatch [Text.lowHalf, Text.highHalf]).1
          = .ok ⟨true, last.finish.text⟩)
      ∧ ∃ last, Expansion.initial.scan yearMatch [Text.highHalf, Text.lowHalf] = (last, none)
        ∧ last.finish.text = "😀"
        ∧ (Builder.fresh.build yearMatch [Text.highHalf, Text.lowHalf]).1
          ≠ .ok ⟨true, last.finish.text⟩ := by
  have hlow : introducer ∉ [Text.lowHalf, Text.highHalf] := by decide
  have hhigh : introducer ∉ [Text.highHalf, Text.lowHalf] := by decide
  obtain ⟨last, hscan, -, -, -, hsame⟩ := build_eq_scan_iff .fresh yearMatch _ rfl hlow
  obtain ⟨joined, hjoined, -, htext, -, hother⟩ := build_eq_scan_iff .fresh yearMatch _ rfl hhigh
  refine ⟨rfl, hlow, hhigh, ⟨last, hscan, hsame.mpr ?_⟩, joined, hjoined, ?_, ?_⟩
  · rw [← Text.hasPair_iff]
    decide
  · rw [htext]
    decide
  · exact fun h => hother.mp h ⟨[], Text.highHalf, Text.lowHalf, [], rfl, rfl, rfl⟩

end RegexSubst.Template
