import RegexSubst.Proofs.Text.Numeral
import RegexSubst.Template.Scanner
import RegexSubst.Template.Token

/-!
# `RegexSubst.Proofs.Template.Decoding`: the decoders on what the scanner hands them

The decoders and look-ups of a template can refuse their argument. Each of them is preceded by a
test, and behind its test none refuses, except for group numbers with too many digits.

* `Bracket.opening_of_ofOpening?`, `readNumber_digit`, `decodePair_of_hex`,
  `decodeBraced_of_isBracedHex` and `capture_eq` are the answers behind the tests.
* `isBracedHex_bounds` and `isBracedHex_of_hexValue_lt`: what may stand in braces are the code
  points.
* `resolveGroup_eq` is the group of a name, with the one fault that is left.
* `captureText?_eq` is the text of a group, and `captureText?_eq_some_iff` says which groups have one.
-/

set_option autoImplicit false

namespace RegexSubst.Template

section Except

variable {ε α β : Type}

/-- A step that follows an answer goes on with it. -/
@[simp]
theorem except_bind_ok (a : α) (f : α → Except ε β) : (Except.ok a >>= f) = f a := rfl

/-- No step follows a fault. -/
@[simp]
theorem except_bind_error (e : ε) (f : α → Except ε β) : (Except.error e >>= f) = .error e := rfl

/-- An answer as such is no fault. -/
@[simp]
theorem except_pure (a : α) : (pure a : Except ε α) = .ok a := rfl

/-- An answer that is not a fault. -/
theorem except_eq_ok_of_toOption {x : Except ε α} {a : α} (h : x.toOption = some a) :
    x = .ok a := by
  cases x with
  | error e => cases h
  | ok b => cases h; rfl

end Except

/-- A text of one code point sorts between `0` and `9` if it is a digit. -/
theorem isAsciiDigit_singleton (c : CodePoint) : isAsciiDigit [c] = c.isDigit := by
  have h0 : ("0" : Text) = [⟨0x30, by decide⟩] := rfl
  have h9 : ("9" : Text) = [⟨0x39, by decide⟩] := rfl
  simp only [isAsciiDigit, h0, h9, Text.le, CodePoint.isDigit]
  grind

/-- A text of one code point is a hex digit if the code point is. -/
theorem isHexDigit_singleton (c : CodePoint) : isHexDigit [c] = c.isHexDigit := rfl

namespace Bracket

/-- A text that opens a bracket is the opening bracket and nothing else. -/
theorem opening_of_ofOpening? {t : Text} {b : Bracket} (h : ofOpening? t = some b) :
    t = [b.opening] := by
  simpa using List.find?_some h

/-- Every opening bracket is found as the one that it is. -/
theorem ofOpening?_opening (b : Bracket) : ofOpening? [b.opening] = some b := by
  cases b <;> rfl

end Bracket

/-- A digit is read as the number of its group. -/
theorem readNumber_digit {d : CodePoint} (h : d.isDigit = true) :
    readNumber 10 [d] = .ok (Text.decimalValue [d]) := by
  have hread := Numeral.readInt_decimal (t := [d]) (by simp) (by simpa using h)
  have hlimit : ¬ Numeral.digitLimit < [d].length := by simp [Numeral.digitLimit]
  rw [if_neg hlimit] at hread
  simp only [readNumber, hread]

/-- Hex digits are read as their value, however many they are. -/
theorem readNumber_hex {digits : Text} (hne : digits ≠ [])
    (h : ∀ d ∈ digits, d.isHexDigit = true) :
    readNumber 16 digits = .ok (Text.hexValue digits) := by
  simp only [readNumber, Numeral.readInt_hex hne h]

/-- A natural number below the last code point is a code point. -/
theorem codePoint_ofNat {n : Nat} {c : CodePoint} (h : CodePoint.ofNat? n = some c) :
    codePoint n = .ok c := by
  have hn : (0 : Int) ≤ n := Int.natCast_nonneg n
  simp only [codePoint, if_pos hn, Int.toNat_natCast, h]

/-- A number in the range of the code points is one of them. -/
theorem ofNat?_of_lt {n : Nat} (h : n < 0x110000) : CodePoint.ofNat? n = some ⟨n, h⟩ :=
  dif_pos h

/-- Two hex digits are the code point of their value. -/
theorem decodePair_of_hex {digits : Text} (hlen : digits.length = 2)
    (h : ∀ d ∈ digits, d.isHexDigit = true) :
    ∃ c, CodePoint.ofNat? (Text.hexValue digits) = some c ∧ decodePair digits = .ok c := by
  -- Two hex digits are below 256, so every pair is a code point.
  have hlt : Text.hexValue digits < 0x110000 := by
    have := Text.hexValue_lt digits
    rw [hlen] at this
    omega
  refine ⟨_, ofNat?_of_lt hlt, ?_⟩
  have hne : digits ≠ [] := by rintro rfl; simp at hlen
  simp only [decodePair, if_pos hlen, readNumber_hex hne h]
  exact codePoint_ofNat (ofNat?_of_lt hlt)

/-- What may stand in braces: hex digits, two, four or six of them, and six are at most `10FFFF`. -/
theorem isBracedHex_bounds {digits : Text} (h : isBracedHex digits = true) :
    (digits.length = 2 ∨ digits.length = 4 ∨ digits.length = 6)
      ∧ (∀ d ∈ digits, d.isHexDigit = true) ∧ Text.hexValue digits < 0x110000 := by
  simp only [isBracedHex, Bool.and_eq_true, Bool.or_eq_true, decide_eq_true_eq,
    List.all_eq_true] at h
  obtain ⟨⟨hlen, hhex⟩, hfirst⟩ := h
  refine ⟨by omega, hhex, ?_⟩
  have hlt := Text.hexValue_lt digits
  rcases hlen with (hlen | hlen) | hlen
  · rw [hlen] at hlt; omega
  · rw [hlen] at hlt; omega
  · -- Six digits: the first one is `0`, or the first two are `10`.
    have hsplit (n : Nat) := Text.hexValue_append (digits.take n) (digits.drop n)
    simp only [List.take_append_drop, List.length_drop, hlen] at hsplit
    have hrest (n : Nat) := Text.hexValue_lt (digits.drop n)
    simp only [List.length_drop, hlen] at hrest
    rcases hfirst with (hfirst | hzero) | hten
    · omega
    · have hvalue : Text.hexValue (digits.take 1) = 0 := by rw [hzero]; rfl
      have := hsplit 1
      have := hrest 1
      omega
    · have hvalue : Text.hexValue (digits.take 2) = 16 := by rw [hten]; rfl
      have := hsplit 2
      have := hrest 2
      omega

/-- A hex digit whose value is a decimal digit is that digit. -/
theorem val_of_hexDigit? {d : CodePoint} {n : Nat} (h : d.hexDigit? = some n) (hn : n < 10) :
    d.val = 0x30 + n := by
  unfold CodePoint.hexDigit? at h
  grind

/-- Two, four or six hex digits may stand in braces if their value is a code point. -/
theorem isBracedHex_of_hexValue_lt {digits : Text}
    (hlen : digits.length = 2 ∨ digits.length = 4 ∨ digits.length = 6)
    (hhex : ∀ d ∈ digits, d.isHexDigit = true) (hlt : Text.hexValue digits < 0x110000) :
    isBracedHex digits = true := by
  have hall : digits.all CodePoint.isHexDigit = true := by simpa using hhex
  have hcount : (digits.length = 2 || digits.length = 4 || digits.length = 6) = true := by
    rcases hlen with h | h | h <;> simp [h]
  have hfirst : (digits.length < 6 || digits.take 1 = "0" || digits.take 2 = "10") = true := by
    -- Two and four digits pass in any case; of six the first two are looked at.
    match digits, hlen with
    | [_, _], _ => rfl
    | [_, _, _, _], _ => rfl
    | [p, q, _, _, _, _], _ =>
      obtain ⟨x, hx⟩ := Option.isSome_iff_exists.mp (hhex p (by simp))
      obtain ⟨y, hy⟩ := Option.isSome_iff_exists.mp (hhex q (by simp))
      simp only [Text.hexValue, List.foldl_cons, List.foldl_nil, hx, hy, Option.getD_some] at hlt
      -- The first two digits are at most `10`: the first one is zero, or they are one and zero.
      have hplane : x = 0 ∨ x = 1 ∧ y = 0 := by omega
      rcases hplane with rfl | ⟨rfl, rfl⟩
      · have hp : p = CodePoint.ofChar '0' :=
          CodePoint.val_injective (val_of_hexDigit? hx (by decide))
        rw [hp]
        rfl
      · have hp : p = CodePoint.ofChar '1' :=
          CodePoint.val_injective (val_of_hexDigit? hx (by decide))
        have hq : q = CodePoint.ofChar '0' :=
          CodePoint.val_injective (val_of_hexDigit? hy (by decide))
        rw [hp, hq]
        rfl
  simp only [isBracedHex, hcount, hall, hfirst, Bool.and_self]

/-- Six digits are a plane and an offset. -/
theorem decodeBraced_of_long {digits : Text} {plane offset : Int} (h : isBracedHex digits = true)
    (hlong : ¬ digits.length < 6) (hplane : readNumber 16 (digits.take 2) = .ok plane)
    (hoffset : readNumber 16 (digits.drop 2) = .ok offset) :
    decodeBraced digits = codePoint (plane * planeSize + offset) := by
  simp only [decodeBraced, if_pos h, if_neg hlong, hplane, hoffset, except_bind_ok]

/-- Hex digits that may stand in braces are the code point of their value; the plane and the offset
of six digits make up that value. -/
theorem decodeBraced_of_isBracedHex {digits : Text} (h : isBracedHex digits = true) :
    ∃ c, CodePoint.ofNat? (Text.hexValue digits) = some c ∧ decodeBraced digits = .ok c := by
  obtain ⟨hlen, hhex, hlt⟩ := isBracedHex_bounds h
  refine ⟨_, ofNat?_of_lt hlt, ?_⟩
  by_cases hshort : digits.length < 6
  · have hne : digits ≠ [] := by rintro rfl; simp at hlen
    simp only [decodeBraced, if_pos h, if_pos hshort, readNumber_hex hne hhex]
    exact codePoint_ofNat (ofNat?_of_lt hlt)
  · -- Each part of the six digits is read as a number of its own.
    have hsix : digits.length = 6 := by omega
    have hplane : readNumber 16 (digits.take 2) = .ok (Text.hexValue (digits.take 2)) :=
      readNumber_hex (List.ne_nil_of_length_pos (by simp [hsix]))
        fun d hd => hhex d (List.mem_of_mem_take hd)
    have hoffset : readNumber 16 (digits.drop 2) = .ok (Text.hexValue (digits.drop 2)) :=
      readNumber_hex (List.ne_nil_of_length_pos (by simp [hsix]))
        fun d hd => hhex d (List.mem_of_mem_drop hd)
    have hsplit := Text.hexValue_append (digits.take 2) (digits.drop 2)
    rw [List.take_append_drop] at hsplit
    have hvalue : Text.hexValue digits
        = Text.hexValue (digits.take 2) * planeSize + Text.hexValue (digits.drop 2) := by
      rw [hsplit, List.length_drop, hsix, show 16 ^ (6 - 2) = planeSize from rfl]
    rw [decodeBraced_of_long h hshort hplane hoffset, ← Int.natCast_mul, ← Int.natCast_add,
      ← hvalue]
    exact codePoint_ofNat (ofNat?_of_lt hlt)

/-- A name is read as its value if it is a decimal group number. Only a numeral with too many digits
is refused, whatever its value is. -/
theorem groupNumber?_eq (name : Text) :
    groupNumber? name =
      if Token.isOverlong name then .error (.tooManyDigits name.length)
      else .ok (if Token.isNumeral name then some (Text.decimalValue name : Int) else none) := by
  unfold groupNumber? Token.isOverlong Token.isNumeral
  by_cases hguard : name ≠ [] ∧ name.all CodePoint.isDigit = true
  · have hread := Numeral.readInt_decimal hguard.1 (by simpa using hguard.2)
    rw [if_pos (by simpa using hguard)]
    by_cases hlong : Numeral.digitLimit < name.length
    · rw [if_pos hlong] at hread
      simp only [readNumber, hread, except_bind_error, hguard.2, hlong, decide_true, Bool.and_self,
        if_true]
    · -- The value is read, and the test for zero decides between it and no number.
      rw [if_neg hlong] at hread
      simp only [readNumber, hread, except_bind_ok, except_pure, hguard.2, hlong]
      grind
  · -- The guard fails: the name is empty or holds a character that is no digit.
    have hempty : name.all CodePoint.isDigit = true → name = [] := fun h =>
      Classical.byContradiction fun hne => hguard ⟨hne, h⟩
    rw [if_neg (by simpa using hguard)]
    by_cases hall : name.all CodePoint.isDigit = true
    · rw [hempty hall]
      rfl
    · simp [hall]

/-- The group of a name: only a decimal numeral with too many digits has none. -/
theorem resolveGroup_eq (regex : RegexView) (name : Text) :
    resolveGroup regex name =
      if Token.isOverlong name then .error (.tooManyDigits name.length)
      else .ok (Token.groupOf regex name) := by
  unfold resolveGroup Token.groupOf
  rw [groupNumber?_eq]
  cases Token.isOverlong name with
  | true => rfl
  -- A numeral is its own group, and any other name is looked up.
  | false => cases Token.isNumeral name <;> rfl

/-- The text of a group is found exactly for the numbers that have a span, and no span is looked for
outside the list. -/
theorem captureText?_eq (number : Int) (spans : List Span) (text : Text) :
    captureText? number spans text =
      .ok (if number < 0 then none else spans[number.toNat]?.map fun span => span.slice text) := by
  unfold captureText? isAvailable Span.at?
  -- The test in front of the look-up lets through the indices of the list and nothing else.
  by_cases hneg : number < 0
  · have : ¬ 0 ≤ number := by omega
    simp [hneg, this]
  · have hnonneg : 0 ≤ number := by omega
    by_cases hlt : number < spans.length
    · simp [hneg, hnonneg, hlt]
    · have hindex : spans.length ≤ number.toNat := by omega
      simp [hneg, hlt, List.getElem?_eq_none hindex]

/-- The groups that have a text: their numbers are the indices of the list of spans. -/
theorem captureText?_eq_some_iff (number : Int) (spans : List Span) (text part : Text) :
    captureText? number spans text = .ok (some part) ↔
      ∃ (index : Nat) (span : Span), number = index ∧ spans[index]? = some span
        ∧ span.slice text = part := by
  rw [captureText?_eq]
  constructor
  · intro h
    have hcaptured := Except.ok.inj h
    by_cases hneg : number < 0
    · rw [if_pos hneg] at hcaptured
      cases hcaptured
    · rw [if_neg hneg] at hcaptured
      obtain ⟨span, hspan, hpart⟩ := Option.map_eq_some_iff.mp hcaptured
      exact ⟨number.toNat, span, by omega, hspan, hpart⟩
  · rintro ⟨index, span, rfl, hspan, rfl⟩
    have hneg : ¬ (index : Int) < 0 := by omega
    rw [if_neg hneg, Int.toNat_natCast, hspan, Option.map_some]

namespace ScanState.Transition

/-- A reference to a group ends the control, and writes the text of the group or the control. -/
theorem capture_eq (ctx : Context) (number : Int) (raw : Text) :
    capture ctx number raw = finish (Token.groupAction ctx number raw) := by
  unfold capture Token.groupAction
  rw [captureText?_eq, except_bind_ok]
  by_cases hneg : number < 0
  · simp only [if_pos hneg]
  · simp only [if_neg hneg]
    cases ctx.spans[number.toNat]? <;> rfl

end ScanState.Transition

end RegexSubst.Template
