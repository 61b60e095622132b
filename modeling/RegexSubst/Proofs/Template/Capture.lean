import RegexSubst.Proofs.Text.Integer
import RegexSubst.Proofs.Text.Slice
import RegexSubst.Proofs.Template.Reference

/-!
# `RegexSubst.Proofs.Template.Capture`: group numbers and captured text

A name in brackets is read as a number only if it is one of the numerals of `DecimalForm`, although
the reader of integers accepts more.

The text of a group is found in two steps, in the list of spans and in the text that was searched,
and in both a negative position would count from the end. The regex answers a negative number for a
name that it does not know, and a group that took no part in a match has a negative start, so either
step would find something that was not captured.

* `NotNumeral` are the names without a number, and `decimalForm_or_isOverlong_or_notNumeral` says
  that besides them there are only the decimal forms and the overlong names.
* `groupNumber_eq_iff`: which names have which number, which have none and which are refused.
* `Indexing` is a way to count positions, and `captureTextWith` finds the text of a group by it.
* `captureTextWith_eq`: how negative positions and those behind the end are counted does not matter.
* `captureText_within_bounds`: which groups have a text, and which text it is.
-/

set_option autoImplicit false

namespace RegexSubst.Template

/-! ### Group numbers -/

/-- The names that are left to the regex: the empty one, those with a character that is no digit,
and two or more zeros, if they are no more than are read. -/
inductive NotNumeral : Text → Prop
  | empty : NotNumeral []
  | other {name : Text} {c : CodePoint} (mem : c ∈ name) (notDigit : c.isDigit = false) :
    NotNumeral name
  | zeros (count : Nat) (several : 2 ≤ count) (short : count ≤ Numeral.digitLimit) :
    NotNumeral (Text.zeros count)

namespace NotNumeral

variable {name : Text}

/-- A name that is left to the regex is the decimal form of no number. -/
theorem not_decimalForm (h : NotNumeral name) (number : Nat) : ¬ DecimalForm number name := by
  intro hform
  cases h with
  | empty =>
    -- Even zero has a digit.
    obtain ⟨count, hname, -, -⟩ := hform
    exact Text.ofNat_ne_nil number (List.append_eq_nil_iff.mp hname.symm).2
  | other mem notDigit =>
    have hdigit := hform.isDigit_of_mem mem
    rw [notDigit] at hdigit
    cases hdigit
  | zeros count several short => exact not_decimalForm_zeros several number hform

/-- A name that is left to the regex is not refused. -/
theorem not_isOverlong (h : NotNumeral name) : ¬ IsOverlong name := by
  rintro ⟨hdigits, hlong⟩
  cases h with
  | empty => exact absurd hlong (by decide)
  | other mem notDigit =>
    have hdigit := hdigits _ mem
    rw [notDigit] at hdigit
    cases hdigit
  | zeros count several short =>
    rw [Text.length_zeros] at hlong
    exact Nat.not_lt.mpr short hlong

end NotNumeral

/-- Every name is a decimal form, or overlong, or no numeral. -/
theorem decimalForm_or_isOverlong_or_notNumeral (name : Text) :
    (∃ n, DecimalForm n name) ∨ IsOverlong name ∨ NotNumeral name := by
  -- The cases follow the tests of the reader: digits alone, not too many, and the rule for zero.
  by_cases hdigits : ∀ c ∈ name, c.isDigit = true
  · by_cases hlong : 4301 ≤ name.length
    · exact .inr (.inl ⟨hdigits, hlong⟩)
    · have hshort : name.length ≤ Numeral.digitLimit := Nat.le_of_lt_succ (Nat.lt_of_not_le hlong)
      by_cases hempty : name = []
      · rw [hempty]
        exact .inr (.inr .empty)
      · obtain ⟨count, hname⟩ := Text.exists_zeros_append_ofNat hempty hdigits
        by_cases hplain : Text.decimalValue name = 0 → count = 0
        · exact .inl ⟨_, count, hname, hplain, hshort⟩
        · -- The value is zero and is not written as `0`, so the name consists of zeros.
          obtain ⟨hzero, hcount⟩ := Classical.not_imp.mp hplain
          have hzeros : name = Text.zeros (count + 1) := by
            rw [hname, hzero, Text.zeros, Text.zeros, List.replicate_succ']
            rfl
          have hlength : name.length = count + 1 := by rw [hzeros, Text.length_zeros]
          rw [hzeros]
          exact .inr (.inr (.zeros _ (by omega) (by omega)))
  · obtain ⟨c, hc, hdigit⟩ : ∃ c ∈ name, c.isDigit = false := by simpa using hdigits
    exact .inr (.inr (.other hc hdigit))

/-- The names that are left to the regex are those that are neither refused nor a decimal form. -/
theorem notNumeral_iff (name : Text) :
    NotNumeral name ↔ ¬ IsOverlong name ∧ ∀ n, ¬ DecimalForm n name := by
  constructor
  · intro h
    exact ⟨h.not_isOverlong, h.not_decimalForm⟩
  · rintro ⟨hshort, hform⟩
    rcases decimalForm_or_isOverlong_or_notNumeral name with ⟨n, hn⟩ | hlong | hother
    · exact absurd hn (hform n)
    · exact absurd hlong hshort
    · exact hother

/-- A name that is not overlong has an answer: its value, if it is a numeral. -/
theorem groupNumber?_of_not_isOverlong {name : Text} (h : ¬ IsOverlong name) :
    groupNumber? name =
      .ok (if Token.isNumeral name then some (Text.decimalValue name : Int) else none) := by
  rw [groupNumber?_eq, if_neg fun hlong => h ((isOverlong_iff name).mp hlong)]

/-- A decimal form is read as its number. -/
theorem groupNumber?_of_decimalForm {number : Nat} {name : Text} (h : DecimalForm number name) :
    groupNumber? name = .ok (some (number : Int)) := by
  rw [groupNumber?_of_not_isOverlong h.not_isOverlong, if_pos h.isNumeral, h.decimalValue_eq]

/-- An overlong name is refused, with the number of its digits. -/
theorem groupNumber?_of_isOverlong {name : Text} (h : IsOverlong name) :
    groupNumber? name = .error (.tooManyDigits name.length) := by
  rw [groupNumber?_eq, if_pos ((isOverlong_iff name).mpr h)]

/-- A name that is no numeral has no number, and is not refused. -/
theorem groupNumber?_of_notNumeral {name : Text} (h : NotNumeral name) :
    groupNumber? name = .ok none := by
  have hnumeral : ¬ Token.isNumeral name = true := fun hnumeral =>
    h.not_decimalForm _ (decimalForm_of_isNumeral hnumeral h.not_isOverlong)
  rw [groupNumber?_of_not_isOverlong h.not_isOverlong, if_neg hnumeral]

/-- What an answer for a name says about the name. -/
def Answers (name : Text) : Except Fault (Option Int) → Prop
  | .ok (some number) => ∃ n : Nat, number = n ∧ DecimalForm n name
  | .ok none => NotNumeral name
  | .error fault => IsOverlong name ∧ fault = .tooManyDigits name.length

/-- The answer for a name says what the name is, and no other answer does. -/
theorem groupNumber?_eq_iff (name : Text) (answer : Except Fault (Option Int)) :
    groupNumber? name = answer ↔ Answers name answer := by
  constructor
  · rintro rfl
    rcases decimalForm_or_isOverlong_or_notNumeral name with ⟨n, hform⟩ | hlong | hother
    · rw [groupNumber?_of_decimalForm hform]
      exact ⟨n, rfl, hform⟩
    · rw [groupNumber?_of_isOverlong hlong]
      exact ⟨hlong, rfl⟩
    · rw [groupNumber?_of_notNumeral hother]
      exact hother
  · intro h
    -- Backwards, each kind of name has its own answer.
    match answer, h with
    | .ok (some _), ⟨n, rfl, hform⟩ => exact groupNumber?_of_decimalForm hform
    | .ok none, hother => exact groupNumber?_of_notNumeral hother
    | .error _, ⟨hlong, rfl⟩ => exact groupNumber?_of_isOverlong hlong

/-- Group numbers and their numerals. A name has a number exactly if it is a decimal form of the
number: its decimal digits behind leading zeros, which zero itself does not have, at most 4300
digits in all. It is refused exactly if it consists of more digits, and the fault has their number.
It has no number exactly if it is empty, holds a character that is no digit, or consists of two or
more zeros, and these are the names that are neither a decimal form nor refused. -/
theorem groupNumber_eq_iff (name : Text) :
    (∀ number : Int, groupNumber? name = .ok (some number) ↔
        ∃ n : Nat, number = n ∧ DecimalForm n name)
      ∧ (∀ fault, groupNumber? name = .error fault ↔
        IsOverlong name ∧ fault = .tooManyDigits name.length)
      ∧ (groupNumber? name = .ok none ↔ NotNumeral name)
      ∧ (NotNumeral name ↔ ¬ IsOverlong name ∧ ∀ n, ¬ DecimalForm n name) :=
  ⟨fun number => groupNumber?_eq_iff name (.ok (some number)),
    fun fault => groupNumber?_eq_iff name (.error fault), groupNumber?_eq_iff name (.ok none),
    notNumeral_iff name⟩

example : groupNumber? "007" = .ok (some 7) ∧ groupNumber? "00" = .ok none
    ∧ groupNumber? "1_0" = .ok none := ⟨rfl, rfl, rfl⟩

/-! ### Captured text -/

/-- How spans are found in a list and how a text is cut, for any two positions. -/
structure Indexing where
  span? : List Span → Int → Option Span
  cut : Text → Int → Int → Text

namespace Indexing

/-- Negative positions count from the end. -/
def fromEnd : Indexing := ⟨Span.at?, Text.slice⟩

/-- An indexing that finds the same spans under the indices of a list, and cuts the same parts out
of a text between positions in order that are not negative. Under all other indices and between all
other positions it may find anything. -/
structure IsUsual (indexing : Indexing) : Prop where
  span?_eq : ∀ (spans : List Span) (index : Int), 0 ≤ index → index < spans.length →
    indexing.span? spans index = fromEnd.span? spans index
  cut_eq : ∀ (t : Text) (start stop : Int), 0 ≤ start → start ≤ stop →
    indexing.cut t start stop = fromEnd.cut t start stop

/-- The text in a span, as the indexing cuts it. -/
def slice (indexing : Indexing) (s : Span) (t : Text) : Text :=
  if s.start < 0 || s.stop < s.start then [] else indexing.cut t s.start s.stop

/-- A usual indexing cuts the same text out of every span. -/
theorem IsUsual.slice_eq {indexing : Indexing} (h : indexing.IsUsual) (s : Span) (t : Text) :
    indexing.slice s t = fromEnd.slice s t := by
  unfold slice
  by_cases hdisordered : (s.start < 0 || s.stop < s.start) = true
  · rw [if_pos hdisordered, if_pos hdisordered]
  · -- The ends have passed the test, so they are in order and not negative.
    rw [if_neg hdisordered, if_neg hdisordered]
    simp only [Bool.or_eq_true, decide_eq_true_eq] at hdisordered
    exact h.cut_eq t s.start s.stop (by omega) (by omega)

end Indexing

/-- The text captured by group `number`, as the indexing finds it. -/
def captureTextWith (indexing : Indexing) (number : Int) (spans : List Span) (text : Text) :
    Except Fault (Option Text) :=
  if isAvailable number spans then
    match indexing.span? spans number with
    | some span => .ok (some (indexing.slice span text))
    | none => .error .spanIndex
  else .ok none

/-- The text of a group is found by counting negative positions from the end. -/
theorem captureTextWith_fromEnd : captureTextWith .fromEnd = captureText? := rfl

/-- No negative position and none behind the end of the list is ever looked up. -/
theorem captureTextWith_eq {indexing : Indexing} (h : indexing.IsUsual) (number : Int)
    (spans : List Span) (text : Text) :
    captureTextWith indexing number spans text = captureText? number spans text := by
  rw [← captureTextWith_fromEnd]
  unfold captureTextWith
  by_cases havailable : isAvailable number spans = true
  · -- The test in front of the look-up lets through the indices of the list and nothing else.
    have hbounds : 0 ≤ number ∧ number < spans.length := by
      simpa only [isAvailable, Bool.and_eq_true, decide_eq_true_eq] using havailable
    rw [if_pos havailable, if_pos havailable, h.span?_eq spans number hbounds.1 hbounds.2]
    cases Indexing.fromEnd.span? spans number with
    | none => rfl
    | some span => simp only [h.slice_eq]
  · rw [if_neg havailable, if_neg havailable]

/-- The groups without a text are those without a span. -/
theorem captureText?_eq_none_iff (number : Int) (spans : List Span) (text : Text) :
    captureText? number spans text = .ok none ↔ number < 0 ∨ spans.length ≤ number := by
  rw [captureText?_eq]
  by_cases hneg : number < 0
  · rw [if_pos hneg]
    exact ⟨fun _ => .inl hneg, fun _ => rfl⟩
  · rw [if_neg hneg, Except.ok.injEq, Option.map_eq_none_iff, List.getElem?_eq_none_iff]
    omega

/-- Captured text, for every group number, every list of spans and every text. There is none exactly
if the number is negative or behind the end of the list. Otherwise it is the stretch of the text
between the two ends of the span, moved to the end of the text if they are behind it, and the empty
text if the ends are not in order or the start is negative. There is always an answer. Negative
positions are never looked up: a look-up that would answer anything else for them has the same
result. -/
theorem captureText_within_bounds (number : Int) (spans : List Span) (text : Text) :
    (captureText? number spans text = .ok none ↔ number < 0 ∨ spans.length ≤ number)
      ∧ (∀ part, captureText? number spans text = .ok (some part) ↔
        ∃ (index : Nat) (span : Span), number = index ∧ spans[index]? = some span
          ∧ span.Captures text part)
      ∧ (∃ part?, captureText? number spans text = .ok part?)
      ∧ ∀ indexing : Indexing, indexing.IsUsual →
        captureTextWith indexing number spans text = captureText? number spans text := by
  refine ⟨captureText?_eq_none_iff number spans text, ?_, ?_, ?_⟩
  · intro part
    simp only [captureText?_eq_some_iff, Span.captures_iff]
  · exact ⟨_, captureText?_eq number spans text⟩
  · intro indexing h
    exact captureTextWith_eq h number spans text

/-- At negative positions no span is found, and the text is not cut. -/
def Indexing.fromStart : Indexing where
  span? spans index := if index < 0 then none else Span.at? spans index
  cut t start stop := if start < 0 then t else t.slice start stop

/-- Refusing negative positions is usual: they are no indices of a list and no ends of a stretch. -/
theorem isUsual_fromStart : Indexing.fromStart.IsUsual where
  span?_eq _ _ hnonneg _ := if_neg (Int.not_lt.mpr hnonneg)
  cut_eq _ _ _ hstart _ := if_neg (Int.not_lt.mpr hstart)

/-- A span inside of `in 2024`, one that ends behind it and one with negative ends. -/
def mixedSpans : List Span := [⟨0, 2⟩, ⟨3, 12⟩, ⟨-4, -1⟩]

/-- The look-up from the end would find the last span and cut `202`, but neither the number -1 nor a
negative start gets that far. -/
theorem captureText_within_bounds_last :
    Indexing.fromStart.IsUsual
      ∧ Span.at? mixedSpans (-1) = some ⟨-4, -1⟩
      ∧ captureText? (-1) mixedSpans "in 2024" = .ok none
      ∧ captureTextWith .fromStart (-1) mixedSpans "in 2024" = .ok none
      ∧ Text.slice "in 2024" (-4) (-1) = "202"
      ∧ captureText? 2 mixedSpans "in 2024" = .ok (some [])
      ∧ captureTextWith .fromStart 2 mixedSpans "in 2024" = .ok (some [])
      ∧ captureText? 1 mixedSpans "in 2024" = .ok (some "2024") := by
  obtain ⟨hnone, -, -, hwith⟩ := captureText_within_bounds (-1) mixedSpans "in 2024"
  obtain ⟨-, hsome, -, hwith'⟩ := captureText_within_bounds 2 mixedSpans "in 2024"
  obtain ⟨-, hstretch, -, -⟩ := captureText_within_bounds 1 mixedSpans "in 2024"
  have hnegative : captureText? (-1) mixedSpans "in 2024" = .ok none :=
    hnone.mpr (.inl (by decide))
  have habsent : captureText? 2 mixedSpans "in 2024" = .ok (some []) :=
    (hsome []).mpr ⟨2, ⟨-4, -1⟩, rfl, rfl, .nothing (by decide)⟩
  have hbehind : captureText? 1 mixedSpans "in 2024" = .ok (some "2024") :=
    (hstretch "2024").mpr ⟨1, ⟨3, 12⟩, rfl, rfl,
      .stretch 3 12 "2024" (by decide) rfl rfl ⟨"in ", [], rfl, rfl, rfl⟩⟩
  exact ⟨isUsual_fromStart, rfl, hnegative, (hwith _ isUsual_fromStart).trans hnegative, rfl,
    habsent, (hwith' _ isUsual_fromStart).trans habsent, hbehind⟩

end RegexSubst.Template
