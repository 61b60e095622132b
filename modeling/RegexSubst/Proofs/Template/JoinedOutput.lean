import RegexSubst.Proofs.Template.Output
import RegexSubst.Proofs.Text.Utf16

/-!
# `RegexSubst.Proofs.Template.JoinedOutput`: the text of an output

The changed segments are put one behind the other, and their surrogate pairs are joined. Halves of a
pair may come from different segments. `CaseMode.writeAll` is what the segments are before that.

* `CaseBuffer.text_performAll` is the text by the segments, changed as the case modes say.
* `text_eq_iff_units`: the text is known by its UTF-16 code units.
-/

set_option autoImplicit false

namespace RegexSubst.Template

/-- The text of an output is what its actions write, with pairs joined. -/
theorem CaseBuffer.text_performAll (actions : List Action) :
    (CaseBuffer.empty.performAll actions).text = Text.join (CaseMode.keep.writeAll actions) := by
  rw [text_eq, written_performAll]
  rfl

/-- The text of an output is the changed segments one behind the other, as UTF-16 gives them back.
The bytes of the segments can always be decoded, and then are the text. The text is the only one
that has no high surrogate directly in front of a low one and has the code units of the segments. So
it does not matter how what is written is cut into segments, a text that is written as one segment
stays as it is, and every code point that is no surrogate is kept, in order. -/
theorem text_eq_iff_units (actions : List Action) :
    Utf16.decode (Utf16.encode (CaseMode.keep.writeAll actions))
        = some (CaseBuffer.empty.performAll actions).text
      ∧ (∀ t : Text, t = (CaseBuffer.empty.performAll actions).text ↔
        t.hasPair = false ∧ t.units = (CaseMode.keep.writeAll actions).units)
      ∧ (∀ others : List Action,
        CaseMode.keep.writeAll others = CaseMode.keep.writeAll actions →
          (CaseBuffer.empty.performAll others).text = (CaseBuffer.empty.performAll actions).text)
      ∧ (CaseBuffer.empty.performAll [.emit (CaseBuffer.empty.performAll actions).text]).text
        = (CaseBuffer.empty.performAll actions).text
      ∧ ((CaseMode.keep.writeAll actions).filter fun c => !c.isSurrogate).Sublist
        (CaseBuffer.empty.performAll actions).text := by
  have hone (segment : Text) : CaseMode.keep.writeAll [.emit segment] = segment := by
    simp [CaseMode.writeAll, CaseMode.write]
  rw [CaseBuffer.text_performAll, CaseBuffer.text_performAll, hone]
  refine ⟨Utf16.decode_encode _, fun t => Text.eq_join_iff t _, ?_, Text.join_join _,
    Text.filter_sublist_join _⟩
  -- The segments enter only by the text that they make together.
  intro others hsame
  rw [CaseBuffer.text_performAll, hsame]

/-- Of three surrogates in three segments the last two are a pair. The one at the end has no other
half. -/
theorem text_eq_iff_units_halves :
    CaseMode.keep.writeAll
        [.emit [Text.highHalf, Text.highHalf, Text.lowHalf], .emit "A", .emit [Text.highHalf]]
      = CaseMode.keep.writeAll [.emit [Text.highHalf], .emit [Text.highHalf], .requestCase .upper,
        .emit [Text.lowHalf, 'a'], .endCase, .emit [Text.highHalf]]
      ∧ (CaseBuffer.empty.performAll
        [.emit [Text.highHalf, Text.highHalf, Text.lowHalf], .emit "A", .emit [Text.highHalf]]).text
        = [Text.highHalf] ++ "😀A" ++ [Text.highHalf]
      ∧ (CaseBuffer.empty.performAll [.emit [Text.highHalf], .emit [Text.highHalf],
        .requestCase .upper, .emit [Text.lowHalf, 'a'], .endCase, .emit [Text.highHalf]]).text
        = [Text.highHalf] ++ "😀A" ++ [Text.highHalf] := by
  have hsame : CaseMode.keep.writeAll
        [.emit [Text.highHalf, Text.highHalf, Text.lowHalf], .emit "A", .emit [Text.highHalf]]
      = CaseMode.keep.writeAll [.emit [Text.highHalf], .emit [Text.highHalf], .requestCase .upper,
        .emit [Text.lowHalf, 'a'], .endCase, .emit [Text.highHalf]] := by
    decide +kernel
  obtain ⟨-, hunits, hcut, -⟩ := text_eq_iff_units [.emit [Text.highHalf], .emit [Text.highHalf],
    .requestCase .upper, .emit [Text.lowHalf, 'a'], .endCase, .emit [Text.highHalf]]
  have htext := (hunits ([Text.highHalf] ++ "😀A" ++ [Text.highHalf])).mpr
    ⟨by decide, by decide +kernel⟩
  exact ⟨hsame, (hcut _ hsame).trans htext.symm, htext.symm⟩

end RegexSubst.Template
