import RegexSubst.Proofs.Template.Actions

/-!
# `RegexSubst.Proofs.Template.Composition`: templates one after another

A template after which no control is unfinished and no case mode is active leaves nothing behind but
its text. What follows it is expanded as if it stood alone.

The two answers are joined once more when they are put together. A pair may lie across the boundary,
and a part without a backslash is its own answer, in which no pair has been joined at all.

* `build_append`: the answer for `p ++ q` by the answers for `p` and `q`.
-/

set_option autoImplicit false

namespace RegexSubst.Template

/-- Expanding is compositional. If a scan of `p` leaves no control unfinished and no case mode
active, then the build of `p ++ q` fails exactly if that of `q` does, with the same fault, and
otherwise its text is that of `p` followed by that of `q`, with pairs joined. One of the two has a
backslash, because without one nothing is joined. -/
theorem build_append (b : Builder) (ctx : Context) (p q : Text) (before : CaseBuffer)
    (hvalid : ctx.regex.isValid = true) (hcontrol : introducer ∈ p ∨ introducer ∈ q)
    (hscan : Expansion.initial.scan ctx p = (⟨.literal, before⟩, none))
    (hmode : before.mode = .keep) :
    (∀ fault, (b.build ctx (p ++ q)).1 = .error fault ↔ (b.build ctx q).1 = .error fault)
      ∧ ∃ first, (b.build ctx p).1 = .ok ⟨true, first⟩
        ∧ ∀ second, (b.build ctx q).1 = .ok second →
          second.success = true
            ∧ (b.build ctx (p ++ q)).1 = .ok ⟨true, Text.join (first ++ second.text)⟩ := by
  have hp := Settled.of_scan hscan
  have hmem : introducer ∈ p ++ q := List.mem_append.mpr hcontrol
  constructor
  · intro fault
    rw [b.build_eq_error_iff hvalid, b.build_eq_error_iff hvalid]
    show firstFault? (p ++ q) = some fault ↔ firstFault? q = some fault
    rw [hp.firstFault?_append]
  · obtain ⟨first, hfirst, hjoin₁⟩ := b.exists_build_of_settled hvalid hp
    refine ⟨first, hfirst, ?_⟩
    intro second hsecond
    -- `q` has no fault, because its build has none.
    have hq : firstFault? q = none := by
      rw [Option.eq_none_iff_forall_ne_some]
      intro fault hfault
      rw [(b.build_eq_error_iff hvalid q fault).mpr hfault] at hsecond
      cases hsecond
    obtain ⟨text, htext, hjoin₂⟩ := b.exists_build_of_firstFault? hvalid hq
    rw [htext] at hsecond
    cases hsecond
    refine ⟨rfl, ?_⟩
    have hboth : firstFault? (p ++ q) = none := (hp.firstFault?_append q).trans hq
    have hwritten : CaseMode.keep.writeAll (actions ctx (p ++ q))
        = before.written ++ CaseMode.keep.writeAll (actions ctx q) := by
      rw [hp.writeAll_append, hmode]
    -- Each part is known up to its pairs, and more is not asked for where the whole is joined.
    rw [b.build_eq_actions hvalid hmem, hboth, hwritten]
    show Except.ok (Replacement.mk true _) = .ok ⟨true, _⟩
    rw [Text.join_append_congr hjoin₁ hjoin₂]

/-- An escape for the low half of a pair. -/
def lowHalfEscape : Text := "\\x\x7bDE00\x7d"

/-- Neither half is joined on its own: the first template is not scanned, and the second one has no
other half. -/
theorem build_append_halves :
    yearMatch.regex.isValid = true ∧ introducer ∈ lowHalfEscape
      ∧ (∃ before, Expansion.initial.scan yearMatch [Text.highHalf] = (⟨.literal, before⟩, none)
        ∧ before.mode = .keep)
      ∧ (Builder.fresh.build yearMatch [Text.highHalf]).1 = .ok ⟨true, [Text.highHalf]⟩
      ∧ (Builder.fresh.build yearMatch lowHalfEscape).1 = .ok ⟨true, [Text.lowHalf]⟩
      ∧ (Builder.fresh.build yearMatch ([Text.highHalf] ++ lowHalfEscape)).1
        = .ok ⟨true, "😀"⟩ := by
  have hcontrol : introducer ∈ lowHalfEscape := by decide
  have hscan : Expansion.initial.scan yearMatch [Text.highHalf]
      = (⟨.literal, ⟨.keep, #[[Text.highHalf]]⟩⟩, none) := rfl
  have hlow : (Builder.fresh.build yearMatch lowHalfEscape).1 = .ok ⟨true, [Text.lowHalf]⟩ :=
    except_eq_ok_of_toOption (by decide +kernel)
  obtain ⟨-, first, hfirst, hboth⟩ :=
    build_append .fresh yearMatch [Text.highHalf] lowHalfEscape _ rfl (.inr hcontrol) hscan rfl
  have hhigh : first = [Text.highHalf] := by cases hfirst; rfl
  subst hhigh
  exact ⟨rfl, hcontrol, ⟨_, hscan, rfl⟩, hfirst, hlow, (hboth _ hlow).2⟩

end RegexSubst.Template
