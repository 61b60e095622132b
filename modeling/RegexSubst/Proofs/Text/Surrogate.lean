import RegexSubst.Text.Surrogate

/-!
# `RegexSubst.Proofs.Text.Surrogate`: joining a text in parts

`Text.join` reads a text from left to right, with one code point of lookahead. It can also be built
up from the right, one code point at a time, because a code point that is put in front of a joined
text only ever meets the first code point of it.

* `Text.joinCons` puts a code point in front of a joined text, and `Text.join_cons` says that it
  does so.
* `Text.join_append_join` and `Text.join_join_append`: it does not matter whether a part of a text
  has been joined before, even if a pair lies across the end of that part.
* `Text.join_join`: joining twice is joining once.
* `Text.join_append_congr`: what a text is joined to depends on its parts only up to joining.
* `Text.count_join`: joining keeps what is no surrogate.
* `Text.join_eq_self_iff`: a text that joining leaves as it is has no pair, and
  `Text.hasPair_iff` says what a pair is.
-/

set_option autoImplicit false

namespace RegexSubst

namespace CodePoint

/-- A low surrogate does not begin a pair. -/
theorem isHigh_of_isLow {c : CodePoint} (h : c.isLow = true) : c.isHigh = false := by
  simp only [isLow, isHigh, Bool.and_eq_true, decide_eq_true_eq] at h ⊢
  grind

/-- A high half is a surrogate. -/
theorem isSurrogate_of_isHigh {c : CodePoint} (h : c.isHigh = true) : c.isSurrogate = true := by
  simp only [isHigh, isSurrogate, Bool.and_eq_true, decide_eq_true_eq] at h ⊢
  omega

/-- A low half is a surrogate. -/
theorem isSurrogate_of_isLow {c : CodePoint} (h : c.isLow = true) : c.isSurrogate = true := by
  simp only [isLow, isSurrogate, Bool.and_eq_true, decide_eq_true_eq] at h ⊢
  omega

/-- The code point of a pair is no surrogate, so it is not joined again. -/
theorem isHigh_ofPair (high low : CodePoint) : (ofPair high low).isHigh = false := by
  simp only [isHigh, ofPair]
  grind

/-- The code point of a pair is not the second half of another one either. -/
theorem isLow_ofPair (high low : CodePoint) : (ofPair high low).isLow = false := by
  simp only [isLow, ofPair]
  grind

end CodePoint

namespace Text

/-- A code point in front of a joined text. -/
def joinCons (c : CodePoint) : Text → Text
  | [] => [c]
  | d :: rest => if c.isHigh && d.isLow then CodePoint.ofPair c d :: rest else c :: d :: rest

/-- What is no high half joins nothing. -/
theorem joinCons_of_not_isHigh {c : CodePoint} (h : c.isHigh = false) (t : Text) :
    joinCons c t = c :: t := by
  cases t with
  | nil => rfl
  | cons d rest => simp [joinCons, h]

/-- A high half joins the low half that it meets. -/
theorem joinCons_of_pair {c d : CodePoint} (h : (c.isHigh && d.isLow) = true) (rest : Text) :
    joinCons c (d :: rest) = CodePoint.ofPair c d :: rest :=
  if_pos h

/-- A joined text begins as the text does, or with the code point of a pair. -/
theorem exists_join_cons (c : CodePoint) (t : Text) :
    ∃ d rest, join (c :: t) = d :: rest ∧ (d = c ∨ d.isLow = false) := by
  cases t with
  | nil => exact ⟨c, [], rfl, .inl rfl⟩
  | cons d rest =>
    unfold join
    split
    · exact ⟨_, _, rfl, .inr (CodePoint.isLow_ofPair c d)⟩
    · exact ⟨c, _, rfl, .inl rfl⟩

/-- Joining is done code point by code point from the right. -/
theorem join_cons (c : CodePoint) (t : Text) : join (c :: t) = joinCons c (join t) := by
  cases t with
  | nil => rfl
  | cons d rest =>
    by_cases hpair : (c.isHigh && d.isLow) = true
    · -- The low half is not the first half of another pair, so it is still there to be joined.
      have hlow : d.isLow = true := (Bool.and_eq_true _ _ ▸ hpair).2
      have hrest : join (d :: rest) = d :: join rest := by
        cases rest with
        | nil => rfl
        | cons e after => simp [join, CodePoint.isHigh_of_isLow hlow]
      rw [hrest]
      simp [join, joinCons, hpair]
    · -- What `c` meets is `d` or a pair that begins with `d`. A pair is not low.
      obtain ⟨e, after, hjoin, he⟩ := exists_join_cons d rest
      have hkept : ¬ (c.isHigh && e.isLow) = true := by
        rcases he with rfl | he
        · exact hpair
        · simp [he]
      simp [join, hpair, hjoin, joinCons, hkept]

/-- A code point joins the front of a joined text before or after more text is added at the end. -/
theorem join_joinCons_append (c : CodePoint) (s t : Text) :
    join (joinCons c s ++ t) = joinCons c (join (s ++ t)) := by
  cases s with
  | nil => exact join_cons c t
  | cons d rest =>
    by_cases hpair : (c.isHigh && d.isLow) = true
    · have hlow : d.isLow = true := (Bool.and_eq_true _ _ ▸ hpair).2
      have hhigh : (CodePoint.ofPair c d).isHigh = false := CodePoint.isHigh_ofPair c d
      -- The pair is joined on both sides, and neither half takes part in another pair.
      calc join (joinCons c (d :: rest) ++ t)
          = joinCons (CodePoint.ofPair c d) (join (rest ++ t)) := by
            rw [joinCons_of_pair hpair, List.cons_append, join_cons]
        _ = CodePoint.ofPair c d :: join (rest ++ t) := joinCons_of_not_isHigh hhigh _
        _ = joinCons c (d :: join (rest ++ t)) := (joinCons_of_pair hpair _).symm
        _ = joinCons c (joinCons d (join (rest ++ t))) := by
            rw [joinCons_of_not_isHigh (CodePoint.isHigh_of_isLow hlow)]
        _ = joinCons c (join (d :: rest ++ t)) := by rw [List.cons_append, join_cons]
    · simp only [joinCons, if_neg hpair, List.cons_append, join_cons]

/-- The first part of a text may have been joined. -/
theorem join_join_append (s t : Text) : join (join s ++ t) = join (s ++ t) := by
  induction s with
  | nil => rfl
  | cons c rest ih => rw [join_cons, join_joinCons_append, ih, List.cons_append, join_cons]

/-- Joining twice is joining once. -/
@[simp]
theorem join_join (t : Text) : join (join t) = join t := by
  simpa using join_join_append t []

/-- The last part of a text may have been joined. -/
theorem join_append_join (s t : Text) : join (s ++ join t) = join (s ++ t) := by
  induction s with
  | nil => exact join_join t
  | cons c rest ih => rw [List.cons_append, join_cons, ih, ← join_cons, List.cons_append]

/-- The high half of the pair of U+1F600. -/
def highHalf : CodePoint := ⟨0xD83D, by decide⟩

/-- The low half of the pair of U+1F600. -/
def lowHalf : CodePoint := ⟨0xDE00, by decide⟩

example : join (join [highHalf] ++ [lowHalf]) = "😀" := by decide

/-- Texts that are equal once they are joined may stand for each other in front of more text and
behind it. -/
theorem join_append_congr {s s' t t' : Text} (hs : join s = join s') (ht : join t = join t') :
    join (s ++ t) = join (s' ++ t') := by
  rw [← join_join_append, ← join_append_join, hs, ht, join_append_join, join_join_append]

/-- A code point that is no surrogate and not beyond those of one unit is neither joined nor the
code point of a pair. -/
theorem count_join {c : CodePoint} (hsurrogate : c.isSurrogate = false) (hunit : c.val < 0x10000)
    (t : Text) : (join t).count c = t.count c := by
  induction t with
  | nil => rfl
  | cons d rest ih =>
    rw [join_cons, List.count_cons, ← ih]
    cases join rest with
    | nil => exact List.count_cons
    | cons e others =>
      by_cases hpair : (d.isHigh && e.isLow) = true
      · -- Neither half is `c`, and their pair is none of the code points of one unit.
        obtain ⟨hhigh, hlow⟩ := Bool.and_eq_true_iff.mp hpair
        have hd : d ≠ c := by rintro rfl; simp [CodePoint.isSurrogate_of_isHigh hhigh] at hsurrogate
        have he : e ≠ c := by rintro rfl; simp [CodePoint.isSurrogate_of_isLow hlow] at hsurrogate
        have hjoined : CodePoint.ofPair d e ≠ c := by
          rintro rfl
          simp only [CodePoint.ofPair] at hunit
          omega
        rw [joinCons_of_pair hpair, List.count_cons_of_ne hjoined, List.count_cons_of_ne he]
        simp [hd]
      · rw [joinCons, if_neg hpair, List.count_cons]

/-! ### Texts that are joined already -/

/-- The test for a pair is exact: somewhere a high half stands directly in front of a low one. -/
theorem hasPair_iff (t : Text) :
    hasPair t = true ↔ ∃ before high low after,
      t = before ++ high :: low :: after ∧ high.isHigh = true ∧ low.isLow = true := by
  induction t with
  | nil => simp [hasPair]
  | cons c rest ih =>
    constructor
    · intro h
      cases rest with
      | nil => cases h
      | cons d others =>
        -- A pair begins at `c` or further behind.
        rcases Bool.or_eq_true_iff.mp h with hpair | hrest
        · obtain ⟨hhigh, hlow⟩ := Bool.and_eq_true_iff.mp hpair
          exact ⟨[], c, d, others, rfl, hhigh, hlow⟩
        · obtain ⟨before, high, low, after, hsplit, hhalves⟩ := ih.mp hrest
          exact ⟨c :: before, high, low, after, by rw [hsplit]; rfl, hhalves⟩
    · rintro ⟨before, high, low, after, hsplit, hhigh, hlow⟩
      cases before with
      | nil => cases hsplit; simp [hasPair, hhigh, hlow]
      | cons _ before =>
        obtain ⟨rfl, hrest⟩ := List.cons.inj hsplit
        have hlater : hasPair rest = true := ih.mpr ⟨before, high, low, after, hrest, hhigh, hlow⟩
        cases rest with
        | nil => cases hlater
        | cons d others => exact Bool.or_eq_true_iff.mpr (.inr hlater)

/-- Joining never makes a text longer, and a pair makes it shorter. -/
theorem length_join_le (t : Text) :
    (join t).length ≤ t.length ∧ (hasPair t = true → (join t).length < t.length) := by
  fun_induction join t with
  | case1 c d rest hpair ih =>
    -- Two code points become one.
    simp only [List.length_cons]
    omega
  | case2 c d rest hpair ih =>
    obtain ⟨hle, hlt⟩ := ih
    refine ⟨Nat.succ_le_succ hle, fun h => Nat.succ_lt_succ (hlt ?_)⟩
    exact (Bool.or_eq_true_iff.mp h).resolve_left hpair
  | case3 c => exact ⟨Nat.le_refl _, fun h => by cases h⟩
  | case4 => exact ⟨Nat.le_refl _, fun h => by cases h⟩

/-- Joining leaves exactly the texts without a pair as they are. -/
theorem join_eq_self_iff (t : Text) : join t = t ↔ hasPair t = false := by
  constructor
  · intro h
    rw [← Bool.not_eq_true]
    intro hpair
    have hlt := (length_join_le t).2 hpair
    rw [h] at hlt
    exact Nat.lt_irrefl _ hlt
  · intro h
    fun_induction join t with
    | case1 c d rest hpair ih => simp [hasPair, hpair] at h
    | case2 c d rest hpair ih => rw [ih (Bool.or_eq_false_iff.mp h).2]
    | case3 c => rfl
    | case4 => rfl

end Text

end RegexSubst
