import RegexSubst.Text.Casing

/-!
# `RegexSubst.Proofs.Text.Casing`: the case of a text in parts

Upper-casing maps every code point on its own, so a text may be cut anywhere. Lower-casing looks
around a capital sigma and may not.

* `Text.upper_flatten`: upper-casing commutes with every way to cut a text.
* `Text.lower_of_not_mem`: without a capital sigma, lower-casing maps every code point on its own.
-/

set_option autoImplicit false

namespace RegexSubst.Text

/-- A text may be upper-cased in parts. -/
theorem upper_flatten (segments : List Text) : upper segments.flatten = segments.flatMap upper := by
  induction segments with
  | nil => rfl
  | cons segment rest ih =>
    rw [List.flatten_cons, List.flatMap_cons, ← ih]
    exact List.flatMap_append

/-- Without a capital sigma, what comes before a code point is not looked at. -/
theorem lowerAfter_of_not_mem (before : Text) {t : Text} (h : CodePoint.capitalSigma ∉ t) :
    lowerAfter before t = t.flatMap CodePoint.lower := by
  induction t generalizing before with
  | nil => rfl
  | cons c rest ih =>
    have hc : c ≠ CodePoint.capitalSigma := fun hc => h (by simp [hc])
    have hrest : CodePoint.capitalSigma ∉ rest := fun hrest => h (by simp [hrest])
    simp only [lowerAfter, if_neg hc, ih _ hrest, List.flatMap_cons]

/-- Without a capital sigma, lower-casing maps every code point on its own. -/
theorem lower_of_not_mem {t : Text} (h : CodePoint.capitalSigma ∉ t) :
    lower t = t.flatMap CodePoint.lower :=
  lowerAfter_of_not_mem [] h

end RegexSubst.Text
