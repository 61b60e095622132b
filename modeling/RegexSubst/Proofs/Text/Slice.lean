import RegexSubst.Span

/-!
# `RegexSubst.Proofs.Text.Slice`: the text in a span

A span may come from anywhere, so its ends may be negative, reversed or behind the end of the text.

* `Text.slice_of_le`: a slice between positions that are not negative.
* `Text.IsBetween`: the part of a text between two positions, and `Text.isBetween_iff` that there is
  one such part.
* `Span.slice_natCast`: the text in a span whose ends are not negative.
* `Span.slice_eq_nil_iff`: the spans without a text.
* `Span.slice_congr`: the text in a span depends on the positions that it covers alone.
* `Span.Captures`: the text in a span by positions from the beginning, and `Span.captures_iff` that
  this is what is cut out.
-/

set_option autoImplicit false

namespace RegexSubst

/-- A slice from a position in the text or behind its end. -/
theorem Text.slice_of_le (t : Text) {start stop : Nat} (h : start ≤ stop) :
    t.slice start stop = (t.drop start).take (stop - start) := by
  have hplace (n : Nat) : t.place n = min n t.length := by
    have hneg : ¬ (n : Int) < 0 := by omega
    simp only [Text.place, if_neg hneg, Int.toNat_natCast]
  rw [Text.slice, hplace, hplace]
  by_cases hstart : t.length ≤ start
  · -- Nothing is left behind the end.
    rw [List.drop_eq_nil_of_le hstart, List.drop_eq_nil_of_le (by omega), List.take_nil,
      List.take_nil]
  · have hmin : min start t.length = start := by omega
    rw [hmin, List.take_eq_take_iff, List.length_drop]
    omega

/-- `part` stands in `t` from position `start` up to but not including `stop`. -/
def Text.IsBetween (t : Text) (start stop : Nat) (part : Text) : Prop :=
  ∃ before after, t = before ++ part ++ after ∧ before.length = start
    ∧ (before ++ part).length = stop

/-- Between two positions of a text stands exactly one part of it. -/
theorem Text.isBetween_iff {t part : Text} {start stop : Nat} (hstart : start ≤ stop)
    (hstop : stop ≤ t.length) : t.IsBetween start stop part ↔ (t.take stop).drop start = part := by
  constructor
  · rintro ⟨before, after, rfl, rfl, rfl⟩
    rw [List.take_left, List.drop_left]
  · rintro rfl
    refine ⟨(t.take stop).take start, t.drop stop, ?_, ?_, ?_⟩
    · rw [List.take_append_drop, List.take_append_drop]
    · rw [List.length_take, List.length_take]
      omega
    · rw [List.take_append_drop, List.length_take]
      omega

/-- Positions behind the end of a text may be moved to its end. -/
theorem Text.drop_take_min (t : Text) (start stop : Nat) :
    (t.take (min stop t.length)).drop (min start t.length) = (t.take stop).drop start := by
  rw [← List.take_eq_take_min]
  by_cases h : start ≤ t.length
  · rw [Nat.min_eq_left h]
  · -- Nothing is left behind the end.
    have hlength : (t.take stop).length ≤ t.length := List.length_take_le' ..
    rw [List.drop_eq_nil_of_le (by omega), List.drop_eq_nil_of_le (by omega)]

namespace Span

/-- The text from one position to another. -/
theorem slice_natCast (start stop : Nat) (t : Text) :
    slice ⟨start, stop⟩ t = (t.take stop).drop start := by
  rw [List.drop_take, slice]
  by_cases h : start ≤ stop
  · rw [if_neg (by simp; omega), Text.slice_of_le t h]
  · -- Of a stretch that ends before it begins nothing is left.
    rw [if_pos (by simp; omega), Nat.sub_eq_zero_of_le (by omega), List.take_zero]

/-- The text in a span is empty if the group took no part, if the span is reversed or has no length,
and if it begins behind the end of the text. -/
theorem slice_eq_nil_iff (s : Span) (t : Text) :
    s.slice t = [] ↔ s.start < 0 ∨ s.stop ≤ s.start ∨ t.length ≤ s.start := by
  unfold slice
  by_cases houtside : s.start < 0 ∨ s.stop < s.start
  · rw [if_pos (by simpa using houtside)]
    refine ⟨fun _ => ?_, fun _ => rfl⟩
    omega
  · obtain ⟨start, hstart⟩ := Int.eq_ofNat_of_zero_le (by omega : 0 ≤ s.start)
    obtain ⟨stop, hstop⟩ := Int.eq_ofNat_of_zero_le (by omega : 0 ≤ s.stop)
    rw [if_neg (by simpa using houtside), hstart, hstop, Text.slice_of_le t (by omega),
      List.take_eq_nil_iff, List.drop_eq_nil_iff]
    omega

/-- The positions of a text that a span covers. A span with a negative start covers none. -/
def Covers (s : Span) (position : Nat) : Prop :=
  0 ≤ s.start ∧ s.start ≤ position ∧ position < s.stop

/-- Texts with the same code points at the positions that a span covers have the same text in it. -/
theorem slice_congr (s : Span) {t t' : Text} (h : ∀ i, s.Covers i → t[i]? = t'[i]?) :
    s.slice t = s.slice t' := by
  unfold slice
  by_cases houtside : (s.start < 0 || s.stop < s.start) = true
  · rw [if_pos houtside, if_pos houtside]
  · rw [if_neg houtside, if_neg houtside]
    simp only [Bool.or_eq_true, decide_eq_true_eq] at houtside
    obtain ⟨start, hstart⟩ := Int.eq_ofNat_of_zero_le (by omega : 0 ≤ s.start)
    obtain ⟨stop, hstop⟩ := Int.eq_ofNat_of_zero_le (by omega : 0 ≤ s.stop)
    rw [hstart, hstop, Text.slice_of_le t (by omega), Text.slice_of_le t' (by omega)]
    refine List.ext_getElem? fun i => ?_
    rw [List.getElem?_take, List.getElem?_take]
    -- A position in the slice is one that the span covers.
    by_cases hi : i < stop - start
    · rw [if_pos hi, if_pos hi, List.getElem?_drop, List.getElem?_drop]
      exact h _ ⟨by omega, by omega, by omega⟩
    · rw [if_neg hi, if_neg hi]

/-- `part` is the text that a span captures in `t`. Its ends count from the beginning of `t`. -/
inductive Captures (s : Span) (t : Text) : Text → Prop
  /-- The part between two ends in order. An end behind the end of the text is moved there. -/
  | stretch (start stop : Nat) (part : Text) (ordered : start ≤ stop) (isStart : s.start = start)
    (isStop : s.stop = stop)
    (between : t.IsBetween (min start t.length) (min stop t.length) part) : Captures s t part
  /-- Nothing, if the start is negative or behind the stop. -/
  | nothing (disordered : ¬ (0 ≤ s.start ∧ s.start ≤ s.stop)) : Captures s t []

/-- What a span captures is what is cut out of the text. -/
theorem captures_iff (s : Span) (t part : Text) : s.Captures t part ↔ s.slice t = part := by
  have hstretch {start stop : Nat} {part : Text} (h : start ≤ stop) :
      t.IsBetween (min start t.length) (min stop t.length) part
        ↔ slice ⟨start, stop⟩ t = part := by
    rw [Text.isBetween_iff (by omega) (by omega), Text.drop_take_min, slice_natCast]
  have hnothing (h : ¬ (0 ≤ s.start ∧ s.start ≤ s.stop)) : s.slice t = [] :=
    if_pos (by simp; omega)
  constructor
  · intro h
    cases h with
    | stretch start stop part ordered isStart isStop between =>
      have hslice := (hstretch ordered).mp between
      rwa [← isStart, ← isStop] at hslice
    | nothing disordered => exact hnothing disordered
  · -- What is cut out is captured in one of the two ways, by the order of the ends.
    rintro rfl
    by_cases hordered : 0 ≤ s.start ∧ s.start ≤ s.stop
    · obtain ⟨start, hstart⟩ := Int.eq_ofNat_of_zero_le hordered.1
      obtain ⟨stop, hstop⟩ := Int.eq_ofNat_of_zero_le (by omega : 0 ≤ s.stop)
      have hle : start ≤ stop := by omega
      refine .stretch start stop _ hle hstart hstop ((hstretch hle).mpr ?_)
      rw [← hstart, ← hstop]
    · rw [hnothing hordered]
      exact .nothing hordered

end Span

end RegexSubst
