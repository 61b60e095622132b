import Mathlib.Algebra.Group.Nat.Defs
import Mathlib.Tactic.SplitIfs
import RegexSubst.Text.Newline
import RegexSubst.Text.Utf8

/-!
# `RegexSubst.Proofs.Text.Utf8`: which texts have a UTF-8 form

* `Text.Encodable` texts hold no surrogate. `Utf8.exists_encode_iff`: they are the texts that can be
  encoded.
* `Utf8.encodable_of_decode`: every text that has been decoded is one of them. While the decoder is
  inside a sequence, the code points that it can still end in are an interval
  (`DecodeState.least`, `DecodeState.bound`), and every byte makes the interval smaller. For every
  leading byte it lies below or above the surrogates.
* `Text.encodable_ofString`, `Text.encodable_ofNat` and `Utf8.encodable_message`: what a program says
  on its own can be encoded.
-/

set_option autoImplicit false

namespace RegexSubst

/-- A character is no surrogate. -/
theorem CodePoint.isSurrogate_ofChar (c : Char) : (ofChar c).isSurrogate = false := by
  have h := c.valid
  simp only [UInt32.isValidChar, Nat.isValidChar] at h
  show (decide (0xD800 ≤ c.val.toNat) && decide (c.val.toNat < 0xE000)) = false
  grind

namespace Text

/-- A text without surrogates. -/
def Encodable (t : Text) : Prop :=
  ∀ c ∈ t, c.isSurrogate = false

/-- The empty text can be encoded. -/
theorem encodable_nil : Encodable [] := by
  simp [Encodable]

/-- A text can be encoded if both parts of it can. -/
theorem encodable_append {s t : Text} : Encodable (s ++ t) ↔ Encodable s ∧ Encodable t :=
  List.forall_mem_append

/-- A text can be encoded if its first code point is no surrogate and the rest can be encoded. -/
theorem encodable_cons {c : CodePoint} {t : Text} :
    Encodable (c :: t) ↔ c.isSurrogate = false ∧ Encodable t :=
  List.forall_mem_cons

/-- A text that is made of characters can be encoded. -/
theorem encodable_ofString (s : String) : Encodable (ofString s) := by
  intro c hc
  obtain ⟨d, -, rfl⟩ := List.mem_map.mp hc
  exact CodePoint.isSurrogate_ofChar d

/-- A row of one character can be encoded. -/
theorem encodable_replicate_ofChar (n : Nat) (c : Char) :
    Encodable (List.replicate n (CodePoint.ofChar c)) := by
  intro d hd
  rw [List.eq_of_mem_replicate hd]
  exact CodePoint.isSurrogate_ofChar c

/-- Digits are ASCII characters. -/
theorem isSurrogate_digit (d : Nat) : (digit d).isSurrogate = false := by
  simp only [digit, CodePoint.isSurrogate]
  grind

/-- A decimal form can be encoded. -/
theorem encodable_ofNat (n : Nat) : Encodable (ofNat n) := by
  intro c hc
  obtain ⟨d, -, rfl⟩ := List.mem_map.mp hc
  exact isSurrogate_digit d

/-- A hex form can be encoded. -/
theorem encodable_ofHex (width n : Nat) : Encodable (ofHex width n) := by
  refine encodable_append.mpr ⟨?_, ?_⟩
  · intro c hc
    rw [List.eq_of_mem_replicate hc]
    exact isSurrogate_digit 0
  · intro c hc
    obtain ⟨d, -, rfl⟩ := List.mem_map.mp hc
    exact isSurrogate_digit d

/-- A line feed in place of another line end is no surrogate. -/
theorem encodable_withLineFeeds {t : Text} (h : Encodable t) : Encodable (withLineFeeds t) := by
  have hfeed : lineFeed.isSurrogate = false := by decide
  fun_induction withLineFeeds t with
  | case1 => exact h
  | case2 => exact encodable_cons.mpr ⟨hfeed, encodable_nil⟩
  | case3 => exact h
  | case4 rest ih =>
    obtain ⟨-, -, hrest⟩ := encodable_cons.mp h |>.imp_right encodable_cons.mp
    exact encodable_cons.mpr ⟨hfeed, ih hrest⟩
  | case5 d rest hd ih => exact encodable_cons.mpr ⟨hfeed, ih (encodable_cons.mp h).2⟩
  | case6 c d rest hc ih =>
    exact encodable_cons.mpr ⟨(encodable_cons.mp h).1, ih (encodable_cons.mp h).2⟩

end Text

namespace Utf8

open Text (encodable_append encodable_cons encodable_ofString encodable_ofNat encodable_ofHex)

/-! ### Encoding -/

/-- The search for surrogates finds none exactly if there are none. -/
theorem firstSurrogates?_eq_none_iff (t : Text) : firstSurrogates? t = none ↔ t.Encodable := by
  unfold firstSurrogates?
  cases hfound : t.findIdx? CodePoint.isSurrogate with
  | none => simpa [Text.Encodable] using List.findIdx?_eq_none_iff.mp hfound
  | some start =>
    -- What stands at `start` is a surrogate, so the run that begins there is not empty.
    obtain ⟨hlt, hsurrogate, -⟩ := List.findIdx?_eq_some_iff_getElem.mp hfound
    simp only [List.drop_eq_getElem_cons hlt, List.takeWhile_cons, hsurrogate, if_true,
      List.head?_cons, Option.map_some, reduceCtorEq, false_iff]
    intro hnone
    rw [hnone _ (List.getElem_mem hlt)] at hsurrogate
    cases hsurrogate

/-- A text can be encoded if and only if it holds no surrogate. -/
theorem exists_encode_iff (t : Text) : (∃ bytes, encode t = .ok bytes) ↔ t.Encodable := by
  rw [← firstSurrogates?_eq_none_iff]
  unfold encode
  cases firstSurrogates? t <;> simp

/-- Only the empty text is encoded as no bytes. -/
theorem encode_eq_nil_iff {t : Text} {bytes : List UInt8} (h : encode t = .ok bytes) :
    bytes = [] ↔ t = [] := by
  -- Every code point takes at least one byte.
  have hvalue (n : Nat) : encodeValue n ≠ [] := by
    unfold encodeValue
    split_ifs <;> simp
  unfold encode at h
  split at h
  · cases h
  · cases h
    cases t with
    | nil => simp
    | cons c rest => simp [hvalue]

/-- What is said of a text that cannot be encoded can be encoded. -/
theorem encodable_message (e : EncodeError) : e.message.Encodable := by
  have hplace : ∀ place : Text, place.Encodable →
      ("'utf-8' codec can't encode " ++ place ++ ": surrogates not allowed" : Text).Encodable :=
    fun place h => encodable_append.mpr
      ⟨encodable_append.mpr ⟨encodable_ofString _, h⟩, encodable_ofString _⟩
  unfold EncodeError.message
  refine hplace _ ?_
  split
  · simp only [encodable_append, encodable_ofString, encodable_ofHex, encodable_ofNat, and_self]
  · simp only [positions, encodable_append, encodable_ofString, encodable_ofNat, and_self]

/-! ### Decoding -/

/-- The least code point that the decoder can end its sequence in. -/
def DecodeState.least : DecodeState → Nat
  | .start => 0
  | .inside _ _ missing value least _ => (0x40 * value + (least.toNat - 0x80)) * 0x40 ^ (missing - 1)

/-- A bound on the code points that the decoder can end its sequence in. -/
def DecodeState.bound : DecodeState → Nat
  | .start => 0
  | .inside _ _ missing value _ greatest =>
    (0x40 * value + (greatest.toNat - 0x80) + 1) * 0x40 ^ (missing - 1)

/-- No surrogate is among the code points that the decoder can end its sequence in. -/
def DecodeState.AvoidsSurrogates (state : DecodeState) : Prop :=
  state.bound ≤ 0xD800 ∨ 0xE000 ≤ state.least

/-- Every leading byte keeps the sequence on one side of the surrogates. -/
theorem avoidsSurrogates_lead {b : UInt8} {l : Lead} (h : lead? b = some l) :
    (DecodeState.inside b 1 l.following l.payload l.least l.greatest).AvoidsSurrogates := by
  unfold lead? at h
  split_ifs at h
  all_goals
    cases h
    simp only [DecodeState.AvoidsSurrogates, DecodeState.bound, DecodeState.least,
      UInt8.le_iff_toNat_le, ← UInt8.toNat_inj, Bool.and_eq_true, decide_eq_true_eq,
      UInt8.reduceToNat, Nat.reduceSub, Nat.reducePow] at *
    omega

/-- A continuation byte leaves no more code points to end in than there were. -/
theorem avoidsSurrogates_next {first b : UInt8} {seen missing value : Nat} {least greatest : UInt8}
    (h : (DecodeState.inside first seen missing value least greatest).AvoidsSurrogates)
    (hleast : least ≤ b) (hgreatest : b ≤ greatest) (hmissing : ¬ missing ≤ 1) :
    (DecodeState.inside first (seen + 1) (missing - 1) (0x40 * value + (b.toNat - 0x80)) 0x80
      0xBF).AvoidsSurrogates := by
  obtain ⟨n, rfl⟩ : ∃ n, missing = n + 2 := ⟨missing - 2, by omega⟩
  rw [UInt8.le_iff_toNat_le] at hleast hgreatest
  refine h.imp (fun hbound => ?_) fun hleast' => ?_
  · calc (0x40 * (0x40 * value + (b.toNat - 0x80)) + 0x3F + 1) * 0x40 ^ n
        ≤ (0x40 * value + (greatest.toNat - 0x80) + 1) * 0x40 * 0x40 ^ n :=
          Nat.mul_le_mul_right _ (by omega)
      _ = (0x40 * value + (greatest.toNat - 0x80) + 1) * 0x40 ^ (n + 1) := by
          rw [Nat.mul_assoc, ← Nat.pow_succ']
      _ ≤ 0xD800 := hbound
  · calc 0xE000
        ≤ (0x40 * value + (least.toNat - 0x80)) * 0x40 ^ (n + 1) := hleast'
      _ = (0x40 * value + (least.toNat - 0x80)) * 0x40 * 0x40 ^ n := by
          rw [Nat.mul_assoc, ← Nat.pow_succ']
      _ ≤ (0x40 * (0x40 * value + (b.toNat - 0x80)) + 0) * 0x40 ^ n :=
          Nat.mul_le_mul_right _ (by omega)

/-- The code point of a number on either side of the surrogates is none of them. -/
theorem encodable_toList_ofNat? {n : Nat} (h : n < 0xD800 ∨ 0xE000 ≤ n) :
    Text.Encodable (CodePoint.ofNat? n).toList := by
  intro c hc
  unfold CodePoint.ofNat? at hc
  split at hc
  · rw [List.mem_singleton.mp hc]
    simp only [CodePoint.isSurrogate, Bool.and_eq_false_iff, decide_eq_false_iff_not]
    omega
  · cases hc

/-- The last byte of a sequence ends it in a code point that is no surrogate. -/
theorem encodable_of_last {first b : UInt8} {seen missing value : Nat} {least greatest : UInt8}
    (h : (DecodeState.inside first seen missing value least greatest).AvoidsSurrogates)
    (hleast : least ≤ b) (hgreatest : b ≤ greatest) (hmissing : missing ≤ 1) :
    Text.Encodable (CodePoint.ofNat? (0x40 * value + (b.toNat - 0x80))).toList := by
  have hlast : missing - 1 = 0 := by omega
  rw [UInt8.le_iff_toNat_le] at hleast hgreatest
  simp only [DecodeState.AvoidsSurrogates, DecodeState.bound, DecodeState.least, hlast,
    Nat.pow_zero, Nat.mul_one] at h
  exact encodable_toList_ofNat? (by omega)

/-- Behind a state that avoids surrogates, what is decoded holds none. -/
theorem encodable_of_decodeFrom {pos : Nat} {state : DecodeState} {bytes : List UInt8} {t : Text}
    (hstate : state.AvoidsSurrogates) (h : decodeFrom pos state bytes = .ok t) : t.Encodable := by
  have hstart : DecodeState.start.AvoidsSurrogates := .inl (Nat.zero_le _)
  fun_induction decodeFrom pos state bytes generalizing t with
  | case1 pos => cases h; exact Text.encodable_nil
  | case2 pos b rest hb ih =>
    cases hrest : decodeFrom (pos + 1) .start rest with
    | error e => rw [hrest] at h; cases h
    | ok others =>
      rw [hrest] at h
      -- A byte below 0x80 is a code point by itself.
      have hascii : b.toNat < 0x80 := UInt8.lt_iff_toNat_lt.mp hb
      rw [← Except.ok.inj h]
      exact encodable_append.mpr ⟨encodable_toList_ofNat? (by omega), ih hstart hrest⟩
  | case3 pos b rest hb hlead => cases h
  | case4 pos b rest hb l hlead ih => exact ih (avoidsSurrogates_lead hlead) h
  | case5 => cases h
  | case6 => cases h
  | case7 pos first seen missing value least greatest b rest hb value' hmissing =>
    rename_i ih
    obtain ⟨hleast, hgreatest⟩ : least ≤ b ∧ b ≤ greatest := by simpa using hb
    cases hrest : decodeFrom (pos + 1) .start rest with
    | error e => rw [hrest] at h; cases h
    | ok others =>
      rw [hrest] at h
      have hlast := encodable_of_last hstate hleast hgreatest hmissing
      rw [← Except.ok.inj h]
      exact encodable_append.mpr ⟨hlast, ih hstart hrest⟩
  | case8 pos first seen missing value least greatest b rest hb value' hmissing =>
    rename_i ih
    obtain ⟨hleast, hgreatest⟩ : least ≤ b ∧ b ≤ greatest := by simpa using hb
    exact ih (avoidsSurrogates_next hstate hleast hgreatest hmissing) h

/-- A text that has been decoded holds no surrogate. -/
theorem encodable_of_decode {bytes : List UInt8} {t : Text} (h : decode bytes = .ok t) :
    t.Encodable := by
  have hstart : DecodeState.start.AvoidsSurrogates := .inl (Nat.zero_le _)
  exact encodable_of_decodeFrom hstart h

end Utf8

end RegexSubst
