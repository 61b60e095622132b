import RegexSubst.Proofs.Text.Casing
import RegexSubst.Proofs.Text.Surrogate

/-!
# `RegexSubst.Proofs.Text.FinalSigma`: lower-casing letter by letter

A text may be lower-cased as a whole or letter by letter. The two are the same up to the sigmas that
end a word, which have a form of their own in the whole text and none where they stand alone. That
form is no surrogate, so joining pairs does not hide the difference.

* `Text.IsFinalPosition` says what the end of a word is, and `Text.endsWord_iff` that it is what is
  tested.
* `Text.count_lowerAfter`: the whole text holds as many more final sigmas as there are sigmas that
  end a word.
* `Text.join_lower_eq_iff`: with pairs joined, the two forms are the same exactly if no sigma ends a
  word.
-/

set_option autoImplicit false

namespace RegexSubst.Text

/-- `c` is the first code point of `t` that is not ignored for case. -/
def IsNearest (t : Text) (c : CodePoint) : Prop :=
  ∃ ignored rest, t = ignored ++ c :: rest
    ∧ (∀ d ∈ ignored, Unicode.caseIgnorable.contains d.val = true)
    ∧ Unicode.caseIgnorable.contains c.val = false

/-- What stands between `before` and `after` ends a word: leaving aside what is ignored for case,
the nearest code point before it is a cased letter, and the nearest one after it is none, if there
is one at all. -/
def IsFinalPosition (before after : Text) : Prop :=
  (∃ c, IsNearest before.reverse c ∧ Unicode.cased.contains c.val = true)
    ∧ ∀ c, IsNearest after c → Unicode.cased.contains c.val = false

/-- A search for what is not ignored finds the nearest such code point. -/
theorem find?_eq_some_iff_isNearest (t : Text) (c : CodePoint) :
    (t.find? fun d => !Unicode.caseIgnorable.contains d.val) = some c ↔ IsNearest t c := by
  rw [List.find?_eq_some_iff_append]
  constructor
  · rintro ⟨hc, ignored, rest, rfl, hignored⟩
    exact ⟨ignored, rest, rfl, by simpa using hignored, by simpa using hc⟩
  · rintro ⟨ignored, rest, rfl, hignored, hc⟩
    exact ⟨by simpa using hc, ignored, rest, rfl, by simpa using hignored⟩

/-- The test for a cased letter looks at the nearest code point that is not ignored. -/
theorem meetsCased_iff (t : Text) :
    meetsCased t = true ↔ ∃ c, IsNearest t c ∧ Unicode.cased.contains c.val = true := by
  simp only [meetsCased, ← find?_eq_some_iff_isNearest]
  cases t.find? fun d => !Unicode.caseIgnorable.contains d.val with
  | none => simp
  | some c => simp

/-- The test for the end of a word, on the code points before it with the nearest first. -/
theorem endsWord_iff (before after : Text) :
    endsWord before.reverse after = true ↔ IsFinalPosition before after := by
  have hafter : meetsCased after = false ↔
      ∀ c, IsNearest after c → Unicode.cased.contains c.val = false := by
    rw [← Bool.not_eq_true, meetsCased_iff]
    simp
  rw [endsWord, Bool.and_eq_true, meetsCased_iff, Bool.not_eq_true', hafter]
  rfl

/-- The number of sigmas in `t` that end a word, where `t` follows the code points `before`, nearest
first. -/
def finalSigmas (before : Text) : Text → Nat
  | [] => 0
  | c :: rest =>
    (if c = CodePoint.capitalSigma ∧ endsWord before rest = true then 1 else 0)
      + finalSigmas (c :: before) rest

/-- No sigma is counted if and only if none ends a word, wherever the text is cut. -/
theorem finalSigmas_eq_zero_iff (before t : Text) :
    finalSigmas before t = 0 ↔
      ∀ first rest, t = first ++ CodePoint.capitalSigma :: rest →
        ¬ endsWord (first.reverse ++ before) rest = true := by
  induction t generalizing before with
  | nil => simp [finalSigmas]
  | cons c rest ih =>
    rw [finalSigmas, Nat.add_eq_zero_iff, ih]
    constructor
    · -- A cut in front of `c` is about `c`; all other cuts are cuts of the rest.
      rintro ⟨hc, hrest⟩ first after heq
      cases first with
      | nil =>
        cases heq
        intro hfinal
        rw [if_pos ⟨rfl, hfinal⟩] at hc
        cases hc
      | cons d others =>
        cases heq
        simpa using hrest others after rfl
    · intro h
      constructor
      · rw [if_neg]
        rintro ⟨rfl, hfinal⟩
        exact h [] rest rfl hfinal
      · rintro first after rfl
        simpa using h (c :: first) after rfl

/-- A sigma that stands alone ends no word. -/
theorem lower_singleton (c : CodePoint) :
    lower [c] = if c = CodePoint.capitalSigma then [CodePoint.smallSigma] else c.lower := by
  by_cases hc : c = CodePoint.capitalSigma
  · simp [lower, lowerAfter, hc, endsWord, meetsCased]
  · simp [lower, lowerAfter, hc]

/-- As a whole and letter by letter, only the sigmas that end a word are lower-cased differently. -/
theorem lowerAfter_eq {before t : Text} (h : finalSigmas before t = 0) :
    lowerAfter before t = t.flatMap fun c => lower [c] := by
  induction t generalizing before with
  | nil => rfl
  | cons c rest ih =>
    obtain ⟨hc, hrest⟩ := Nat.add_eq_zero_iff.mp h
    rw [lowerAfter, ih hrest, List.flatMap_cons, lower_singleton]
    by_cases hsigma : c = CodePoint.capitalSigma
    · -- A sigma that is not counted ends no word, as if it stood alone.
      have hfinal : ¬ endsWord before rest = true := fun hfinal => by simp [hsigma, hfinal] at hc
      simp only [if_pos hsigma, if_neg hfinal]
    · simp only [if_neg hsigma]

/-- Every sigma that ends a word is one more final sigma in the lower-case form of the whole. -/
theorem count_lowerAfter (before t : Text) :
    (lowerAfter before t).count CodePoint.finalSigma
      = (t.flatMap fun c => lower [c]).count CodePoint.finalSigma + finalSigmas before t := by
  have hforms : CodePoint.smallSigma ≠ CodePoint.finalSigma := by decide
  induction t generalizing before with
  | nil => rfl
  | cons c rest ih =>
    rw [lowerAfter, List.flatMap_cons, List.count_append, List.count_append, ih, finalSigmas,
      lower_singleton]
    by_cases hsigma : c = CodePoint.capitalSigma
    · by_cases hfinal : endsWord before rest = true
      · simp [hsigma, hfinal, hforms]
        omega
      · simp [hsigma, hfinal, hforms]
    · simp [hsigma]
      omega

/-- The final sigma is one of the code points that joining keeps. -/
theorem count_finalSigma_join (t : Text) :
    (join t).count CodePoint.finalSigma = t.count CodePoint.finalSigma :=
  count_join (by decide) (by decide) t

/-- With pairs joined, a text may be lower-cased letter by letter exactly if no sigma of it ends a
word. -/
theorem join_lower_eq_iff (t : Text) :
    join (t.flatMap fun c => lower [c]) = join (lower t) ↔
      ∀ before after, t = before ++ CodePoint.capitalSigma :: after →
        ¬ IsFinalPosition before after := by
  have hfinal : finalSigmas [] t = 0 ↔
      ∀ before after, t = before ++ CodePoint.capitalSigma :: after →
        ¬ IsFinalPosition before after := by
    simp only [finalSigmas_eq_zero_iff, List.append_nil, endsWord_iff]
  rw [← hfinal]
  constructor
  · intro h
    -- Equal texts hold equally many final sigmas, so none is one too many.
    have hcount := congrArg (List.count CodePoint.finalSigma) h
    rw [count_finalSigma_join, count_finalSigma_join, lower, count_lowerAfter] at hcount
    omega
  · intro h
    rw [lower, lowerAfter_eq h]

end RegexSubst.Text
