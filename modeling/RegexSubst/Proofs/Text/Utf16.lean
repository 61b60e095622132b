import RegexSubst.Proofs.Text.Surrogate
import RegexSubst.Text.Utf16

/-!
# `RegexSubst.Proofs.Text.Utf16`: joining is the way through UTF-16 and back

`Text.join` is defined on code points. It is what remains of a text that is encoded in UTF-16 and
decoded again, so a joined text is known by its code units.

* `Utf16.decode_encode`: decoding what has been encoded never fails, and gives the joined text.
* `Text.units_join`: joining keeps the code units.
* `Text.eq_join_iff`: no other text without a pair has the same code units.
* `Text.filter_sublist_join`: what is no surrogate is kept, in order.
-/

set_option autoImplicit false

namespace RegexSubst

namespace CodePoint

/-- A code point of one code unit. -/
theorem units_of_lt {c : CodePoint} (h : c.val < 0x10000) : c.units = [c.val] :=
  if_pos h

/-- A code point of two code units. -/
theorem units_of_not_lt {c : CodePoint} (h : ¬ c.val < 0x10000) :
    c.units = [0xD800 + (c.val - 0x10000) / 0x400, 0xDC00 + (c.val - 0x10000) % 0x400] :=
  if_neg h

/-- A surrogate is its own code unit. -/
theorem units_of_isSurrogate {c : CodePoint} (h : c.isSurrogate = true) : c.units = [c.val] := by
  simp only [isSurrogate, Bool.and_eq_true, decide_eq_true_eq] at h
  exact units_of_lt (by omega)

/-- All code units have 16 bits. -/
theorem lt_of_mem_units {c : CodePoint} {unit : Nat} (h : unit ∈ c.units) : unit < 0x10000 := by
  have := c.isLt
  unfold units at h
  grind

/-- The first code unit of a code point is a low surrogate only if the code point is one. -/
theorem exists_units_cons (c : CodePoint) :
    ∃ first rest, c.units = first :: rest
      ∧ (0xDC00 ≤ first ∧ first < 0xE000 → c.isLow = true) := by
  have hlt := c.isLt
  by_cases h : c.val < 0x10000
  · refine ⟨c.val, [], units_of_lt h, fun hlow => ?_⟩
    simp only [isLow, Bool.and_eq_true, decide_eq_true_eq]
    exact hlow
  · refine ⟨_, _, units_of_not_lt h, fun hlow => ?_⟩
    omega

/-- The code units of a pair are its halves. -/
theorem units_ofPair {high low : CodePoint} (hhigh : high.isHigh = true) (hlow : low.isLow = true) :
    (ofPair high low).units = [high.val, low.val] := by
  simp only [isHigh, isLow, Bool.and_eq_true, decide_eq_true_eq] at hhigh hlow
  have hval : (ofPair high low).val = 0x10000 + 0x400 * (high.val % 0x400) + low.val % 0x400 := rfl
  rw [units_of_not_lt (by omega), hval, List.cons.injEq, List.cons.injEq]
  refine ⟨?_, ?_, rfl⟩ <;> omega

end CodePoint

/-- The code units of a text that begins with a pair. -/
theorem Text.units_of_pair {high low : CodePoint} (hhigh : high.isHigh = true)
    (hlow : low.isLow = true) (rest : Text) :
    units (high :: low :: rest) = high.val :: low.val :: units rest := by
  rw [units, List.flatMap_cons, List.flatMap_cons,
    CodePoint.units_of_isSurrogate (CodePoint.isSurrogate_of_isHigh hhigh),
    CodePoint.units_of_isSurrogate (CodePoint.isSurrogate_of_isLow hlow)]
  rfl

namespace Utf16

/-- The bytes of code units give them back. -/
theorem units?_flatMap_unitBytes {units : List Nat} (h : ∀ unit ∈ units, unit < 0x10000) :
    units? (units.flatMap unitBytes) = some units := by
  induction units with
  | nil => rfl
  | cons unit rest ih =>
    have hunit : unit < 0x10000 := h unit (by simp)
    have hrest := ih fun u hu => h u (by simp [hu])
    -- The low byte comes first.
    have hlow : unit.toUInt8.toNat = unit % 0x100 := rfl
    have hhigh : (unit / 0x100).toUInt8.toNat = unit / 0x100 % 0x100 := rfl
    have hvalue : unit % 0x100 + 0x100 * (unit / 0x100 % 0x100) = unit := by omega
    show (units? (rest.flatMap unitBytes)).map
      ((unit.toUInt8.toNat + 0x100 * (unit / 0x100).toUInt8.toNat) :: ·) = some (unit :: rest)
    rw [hrest, hlow, hhigh, hvalue]
    rfl

/-- The code units of a pair are decoded as the pair. -/
theorem decodeUnits_of_pair {high low : CodePoint} (hhigh : high.isHigh = true)
    (hlow : low.isLow = true) (rest : List Nat) :
    decodeUnits (high.val :: low.val :: rest) = CodePoint.ofPair high low :: decodeUnits rest := by
  simp only [CodePoint.isHigh, CodePoint.isLow, Bool.and_eq_true, decide_eq_true_eq] at hhigh hlow
  rw [decodeUnits, dif_pos ⟨hhigh, hlow⟩]
  refine congrArg (· :: decodeUnits rest) (CodePoint.val_injective ?_)
  simp only [CodePoint.ofPair]
  omega

/-- The code units of a code point of two units are decoded as the code point. -/
theorem decodeUnits_of_not_lt {c : CodePoint} (h : ¬ c.val < 0x10000) (rest : List Nat) :
    decodeUnits (c.units ++ rest) = c :: decodeUnits rest := by
  have hlt := c.isLt
  rw [CodePoint.units_of_not_lt h, List.cons_append, List.cons_append, List.nil_append, decodeUnits,
    dif_pos (by omega)]
  refine congrArg (· :: decodeUnits rest) (CodePoint.val_injective ?_)
  simp only
  omega

/-- A code point of one unit is decoded as itself, unless it is the first half of a pair. -/
theorem decodeUnits_of_lt {c : CodePoint} (h : c.val < 0x10000) {rest : Text}
    (hpair : ∀ d others, rest = d :: others → ¬ (c.isHigh && d.isLow) = true) :
    decodeUnits (c.units ++ rest.units) = c :: decodeUnits rest.units := by
  have hsingle : single c.val = c := CodePoint.val_injective (Nat.mod_eq_of_lt h)
  rw [CodePoint.units_of_lt h, List.singleton_append]
  cases rest with
  | nil => exact congrArg (· :: []) hsingle
  | cons d others =>
    obtain ⟨first, behind, hunits, hfirst⟩ := d.exists_units_cons
    have hrest : Text.units (d :: others) = first :: (behind ++ Text.units others) := by
      rw [Text.units, List.flatMap_cons, hunits]
      rfl
    have hsplit : ¬ ((0xD800 ≤ c.val ∧ c.val < 0xDC00) ∧ 0xDC00 ≤ first ∧ first < 0xE000) := by
      rintro ⟨hhigh, hlow⟩
      refine hpair d others rfl ?_
      simp only [hfirst hlow, Bool.and_true, CodePoint.isHigh, Bool.and_eq_true, decide_eq_true_eq]
      exact hhigh
    rw [hrest, decodeUnits, dif_neg hsplit, hsingle]

/-- Code units are decoded as the joined text. -/
theorem decodeUnits_units (t : Text) : decodeUnits t.units = t.join := by
  fun_induction Text.join t with
  | case1 c d rest hpair ih =>
    obtain ⟨hhigh, hlow⟩ := Bool.and_eq_true_iff.mp hpair
    rw [Text.units_of_pair hhigh hlow, decodeUnits_of_pair hhigh hlow, ih]
  -- No pair begins at `c`, so what is decoded first is `c` alone.
  | case2 c d rest hpair ih =>
    rw [← ih, Text.units, List.flatMap_cons]
    by_cases hc : c.val < 0x10000
    · exact decodeUnits_of_lt hc fun d' others heq => by cases heq; exact hpair
    · exact decodeUnits_of_not_lt hc _
  | case3 c =>
    rw [Text.units, List.flatMap_cons]
    by_cases hc : c.val < 0x10000
    · refine decodeUnits_of_lt hc fun d others heq => ?_
      cases heq
    · exact decodeUnits_of_not_lt hc _
  | case4 => rfl

/-- What has been encoded can be decoded, as the joined text. -/
theorem decode_encode (t : Text) : decode (encode t) = some t.join := by
  have hunits : ∀ unit ∈ t.units, unit < 0x10000 := by
    intro unit hunit
    obtain ⟨c, -, hc⟩ := List.mem_flatMap.mp hunit
    exact CodePoint.lt_of_mem_units hc
  rw [decode, encode, units?_flatMap_unitBytes hunits, Option.map_some, decodeUnits_units]

end Utf16

namespace Text

/-- Joining keeps the code units. -/
theorem units_join (t : Text) : t.join.units = t.units := by
  fun_induction join t with
  | case1 c d rest hpair ih =>
    obtain ⟨hhigh, hlow⟩ := Bool.and_eq_true_iff.mp hpair
    rw [units_of_pair hhigh hlow, ← ih, units, List.flatMap_cons,
      CodePoint.units_ofPair hhigh hlow]
    rfl
  | case2 c d rest hpair ih =>
    rw [units, List.flatMap_cons, ← units, ih]
    rfl
  | case3 c => rfl
  | case4 => rfl

/-- No pair is left in a joined text. -/
theorem hasPair_join (t : Text) : t.join.hasPair = false :=
  (join_eq_self_iff t.join).mp (join_join t)

/-- The joined text is the one text without a pair that has the same code units. -/
theorem eq_join_iff (s t : Text) : s = t.join ↔ s.hasPair = false ∧ s.units = t.units := by
  constructor
  · rintro rfl
    exact ⟨hasPair_join t, units_join t⟩
  · rintro ⟨hpair, hunits⟩
    calc s = s.join := ((join_eq_self_iff s).mpr hpair).symm
      _ = Utf16.decodeUnits s.units := (Utf16.decodeUnits_units s).symm
      _ = Utf16.decodeUnits t.units := by rw [hunits]
      _ = t.join := Utf16.decodeUnits_units t

/-- What is no surrogate is kept, in order. -/
theorem filter_sublist_join (t : Text) : (t.filter fun c => !c.isSurrogate).Sublist t.join := by
  fun_induction join t with
  | case1 c d rest hpair ih =>
    obtain ⟨hhigh, hlow⟩ := Bool.and_eq_true_iff.mp hpair
    -- The halves are left out, and their pair is one code point more.
    simpa [CodePoint.isSurrogate_of_isHigh hhigh, CodePoint.isSurrogate_of_isLow hlow]
      using ih.cons (CodePoint.ofPair c d)
  | case2 c d rest hpair ih =>
    rw [List.filter_cons]
    split
    · exact ih.cons_cons c
    · exact ih.cons c
  | case3 c => exact List.filter_sublist
  | case4 => exact List.filter_sublist

end Text

end RegexSubst
