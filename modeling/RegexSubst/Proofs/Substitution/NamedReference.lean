import RegexSubst.Proofs.Regex.GroupNames
import RegexSubst.Proofs.Substitution.Replacing
import RegexSubst.Proofs.Template.ControlScan
import RegexSubst.Proofs.Template.Observation
import RegexSubst.Proofs.Text.Slice

/-!
# `RegexSubst.Proofs.Substitution.NamedReference`: references in brackets to the groups of a match

A match has a text for every group of its regex, so a name of a group always finds one. In brackets
the name does what the number of the group does. Every other name that is no number of a group is
written as it stands, unless it is refused.

* `Match.groupText` is the text of a group, and `groupAction_eq` says that a reference by the number
  of the group writes it.
* `scansAs_of_resolved`: so does every name that is resolved to the number. `scansAs_of_name` and
  `scansAs_of_decimalForm` are the two kinds, and `scansAs_of_other` is about all other names.
* `reference_by_name` is the statement about all regexes, matches and templates.
-/

set_option autoImplicit false

namespace RegexSubst.Regex

open RegexSubst.Template (Bracket Builder DecimalForm Expansion IsOverlong ScansAs Token introducer
  isAvailable resolveGroup)

/-! ### The text of a group -/

/-- The ends of what group `number` covers, if it took part. Group zero is the whole match. -/
def Match.ends? {size : Nat} (m : Match size) : (number : Nat) → Option (Nat × Nat)
  | 0 => some (m.start, m.stop)
  | number + 1 => (m.captures[number]?).join

/-- The text of group `number`, empty if it took no part. -/
def Match.groupText {size : Nat} (m : Match size) (text : Text) (number : Nat) : Text :=
  match m.ends? number with
  | some (start, stop) => (text.take stop).drop start
  | none => []

section

variable {size : Nat} (m : Match size) (text : Text) {groups number : Nat}

/-- The span of a group in the list of all spans has the text of the group. -/
theorem Match.exists_span (h : number ≤ groups) :
    ∃ span, (m.spans groups)[number]? = some span ∧ span.slice text = m.groupText text number := by
  cases number with
  | zero => exact ⟨_, rfl, Span.slice_natCast _ _ _⟩
  | succ number =>
    have hnumber : number < groups := h
    refine ⟨m.captureSpan number, by simp [spans, hnumber], ?_⟩
    simp only [captureSpan, groupText, ends?]
    -- A group that took no part has a span without a text.
    cases (m.captures[number]?).join with
    | none => rfl
    | some ends => exact Span.slice_natCast _ _ _

/-- The expansion for a match sees the regex by its view. -/
@[simp]
theorem context_regex (r : Regex) (program : Program) :
    (r.context program text m).regex = r.view :=
  rfl

/-- A reference by the number of a group writes the text of the group. -/
theorem groupAction_eq (r : Regex) (program : Program)
    (h : number ≤ program.groups.count) (source : Text) :
    Token.groupAction (r.context program text m) number source
      = .emit (m.groupText text number) := by
  obtain ⟨span, hspan, htext⟩ := m.exists_span text h
  have hneg : ¬ (number : Int) < 0 := by omega
  rw [Token.groupAction, if_neg hneg, Int.toNat_natCast]
  simp only [context, hspan, htext]

/-! ### References to the groups of a match -/

variable {r : Regex} {program : Program}

/-- A name that is resolved to the number of a group writes the text of the group. -/
theorem scansAs_of_resolved (r : Regex) {bracket : Bracket} {name : Text}
    (hclosed : bracket.closing ∉ name) (hresolved : resolveGroup r.view name = .ok number)
    (h : number ≤ program.groups.count) :
    ScansAs (r.context program text m) (Token.reference bracket name).source
      (.emit (m.groupText text number)) := by
  obtain ⟨hshort, hgroup⟩ := (Template.resolveGroup_eq_ok_iff r.view name number).mp hresolved
  have hscans := ScansAs.reference (r.context program text m) hclosed hshort
  rwa [context_regex, hgroup, groupAction_eq m text r program h] at hscans

/-- The name of a group writes the text of the group. -/
theorem scansAs_of_name (hprogram : r.program = .ok program) {name : Text}
    (hname : program.groups.number? name = some number) (bracket : Bracket) :
    ScansAs (r.context program text m) (Token.reference bracket name).source
      (.emit (m.groupText text number)) := by
  have hclosed : bracket.closing ∉ name :=
    closing_not_mem_of_isIdentifier (GroupTable.isIdentifier_of_number? hname) bracket
  exact scansAs_of_resolved m text r hclosed (resolveGroup_of_number? hprogram hname)
    (GroupTable.inRange_of_number? hname).2

/-- The decimal form of the number of a group writes the text of the group. -/
theorem scansAs_of_decimalForm (r : Regex) (h : number ≤ program.groups.count) {numeral : Text}
    (hform : DecimalForm number numeral) (bracket : Bracket) :
    ScansAs (r.context program text m) (Token.reference bracket numeral).source
      (.emit (m.groupText text number)) := by
  have hclosed : bracket.closing ∉ numeral :=
    bracket.closing_not_mem_of_isDigit fun _ => hform.isDigit_of_mem
  exact scansAs_of_resolved m text r hclosed (Template.resolveGroup_of_decimalForm r.view hform) h

/-- A name that is neither the name of a group nor a decimal form of its number is written as it
stands. -/
theorem scansAs_of_other (hprogram : r.program = .ok program) {bracket : Bracket} {name : Text}
    (hclosed : bracket.closing ∉ name) (hshort : ¬ IsOverlong name)
    (hname : program.groups.number? name = none)
    (hnumeral : ∀ number ≤ program.groups.count, ¬ DecimalForm number name) :
    ScansAs (r.context program text m) (Token.reference bracket name).source
      (.emitRaw (Token.reference bracket name).source) := by
  have hscans := ScansAs.reference (r.context program text m) hclosed hshort
  have hnone : ¬ isAvailable (Token.groupOf r.view name)
      (r.context program text m).spans = true := by
    have hlength : (r.context program text m).spans.length = program.groups.count + 1 := by
      simp [context, Match.spans]
    simp only [isAvailable, hlength, Bool.and_eq_true, decide_eq_true_eq, Token.groupOf]
    split
    · -- A numeral is a decimal form, so its value is out of range.
      rename_i hnumeric
      have hform := Template.decimalForm_of_isNumeral hnumeric hshort
      have hout : ¬ Text.decimalValue name ≤ program.groups.count :=
        fun hle => hnumeral _ hle hform
      omega
    · -- Any other name is looked up, and no group has it.
      rw [groupNumber_of_program hprogram, hname]
      simp
  rwa [context_regex, Token.groupAction_of_not_isAvailable hnone] at hscans

end

/-- Every named group can be reached by its name. For a match in a text, after every part of a
template that leaves no control unfinished, and in front of every rest, the name of a group in
brackets hands the text of the group to the output, as one segment and never as it stands; that text
is empty if the group took no part. The numerals for the number of the group do the same, with the
same answers.

A name in brackets that is neither the name of a group nor a numeral for one is handed to the output
as it stands, as one segment, and a row of more digits than are read is refused. -/
theorem reference_by_name (r : Regex) (program : Program) (text : Text)
    (m : Match text.toArray.size) (hprogram : r.program = .ok program) :
    (∀ name number, program.groups.number? name = some number →
      ∀ bracket,
        ScansAs (r.context program text m) (Token.reference bracket name).source
            (.emit (m.groupText text number))
          ∧ ∀ second numeral, DecimalForm number numeral →
            ScansAs (r.context program text m) (Token.reference second numeral).source
                (.emit (m.groupText text number))
              ∧ ∀ p₁ p₂ before, Expansion.initial.scan (r.context program text m) p₁
                  = (⟨.literal, before⟩, none) →
                ∀ b : Builder,
                  b.build (r.context program text m)
                      (p₁ ++ (Token.reference bracket name).source ++ p₂)
                    = b.build (r.context program text m)
                      (p₁ ++ (Token.reference second numeral).source ++ p₂))
      ∧ (∀ bracket name, bracket.closing ∉ name → ¬ IsOverlong name →
        program.groups.number? name = none →
        (∀ number ≤ program.groups.count, ¬ DecimalForm number name) →
          ScansAs (r.context program text m) (Token.reference bracket name).source
            (.emitRaw (Token.reference bracket name).source))
      ∧ ∀ bracket name, IsOverlong name →
        ∀ p₁ p₂ before, Expansion.initial.scan (r.context program text m) p₁
            = (⟨.literal, before⟩, none) →
          ∀ b : Builder,
            (b.build (r.context program text m)
                (p₁ ++ (Token.reference bracket name).source ++ p₂)).1
              = .error (.tooManyDigits name.length) := by
  have hvalid : (r.context program text m).regex.isValid = true := isValid_of_program hprogram
  have hmem (bracket : Bracket) (name : Text) :
      introducer ∈ (Token.reference bracket name).source := by simp [Token.source]
  refine ⟨?_, ?_, ?_⟩
  · intro name number hname bracket
    -- The name and every numeral scan as the same action, so they can stand for each other.
    have hbyName := scansAs_of_name m text hprogram hname bracket
    refine ⟨hbyName, fun second numeral hform => ?_⟩
    have hbyNumber := scansAs_of_decimalForm m text r (GroupTable.inRange_of_number? hname).2 hform
      second
    exact ⟨hbyNumber, fun p₁ p₂ before hscan b =>
      hbyName.build_congr hbyNumber (hmem _ _) (hmem _ _) hscan p₂ b⟩
  · intro bracket name hclosed hshort hname hnumeral
    exact scansAs_of_other m text hprogram hclosed hshort hname hnumeral
  · intro bracket name hlong p₁ p₂ before hscan b
    exact b.build_of_isOverlong hvalid hscan bracket hlong p₂

/-- The program of a regex with two named groups, of which the second is optional. -/
def dateProgram : Program := compiled "(?P<month>[a-z]+)(?P<day>[0-9]+)?" (by decide +kernel)

/-- The regex of `dateProgram`. -/
def dateRegex : Regex := ⟨"(?P<month>[a-z]+)(?P<day>[0-9]+)?", 0, .ok dateProgram⟩

/-- In `may` the first group is the whole text and the second one takes no part. -/
theorem reference_by_name_date :
    compile dateRegex.pattern 0 = .ok dateRegex ∧ dateRegex.program = .ok dateProgram
      ∧ ∃ m ∈ dateProgram.findAll (Text.ofString "may").toArray,
        ScansAs (dateRegex.context dateProgram "may" m) "\\g\x7bmonth\x7d" (.emit "may")
          ∧ ScansAs (dateRegex.context dateProgram "may" m) "\\g<day>" (.emit [])
          ∧ ScansAs (dateRegex.context dateProgram "may" m) "\\g<year>" (.emitRaw "\\g<year>")
          ∧ ScansAs (dateRegex.context dateProgram "may" m) "\\g<3>" (.emitRaw "\\g<3>")
          ∧ (∀ b : Builder,
            b.build (dateRegex.context dateProgram "may" m) "\\u\\g\x7bmonth\x7d!\\x4"
              = b.build (dateRegex.context dateProgram "may" m) "\\u\\g<01>!\\x4")
          ∧ ∀ b : Builder,
            (b.build (dateRegex.context dateProgram "may" m)
                (Token.reference .angle (Text.zeros 4301)).source).1
              = .error (.tooManyDigits 4301) := by
  have hfound : (dateProgram.findAll (Text.ofString "may").toArray).map
      (fun m => (m.start, m.stop, m.captures)) = [(0, 3, #[some (0, 3), none])] := by
    decide +kernel
  obtain ⟨m, hm, hends⟩ := List.mem_map.mp (hfound ▸ List.mem_singleton_self _)
  obtain ⟨-, -, hcaptures⟩ : m.start = 0 ∧ m.stop = 3 ∧ m.captures = #[some (0, 3), none] := by
    simpa using hends
  have hmonth : m.groupText "may" 1 = "may" := by
    simp only [Match.groupText, Match.ends?, hcaptures]
    rfl
  have hday : m.groupText "may" 2 = [] := by
    simp only [Match.groupText, Match.ends?, hcaptures]
    rfl
  have hfirst : dateProgram.groups.number? "month" = some 1 := by decide +kernel
  have hsecond : dateProgram.groups.number? "day" = some 2 := by decide +kernel
  have hcount : dateProgram.groups.count = 2 := by decide +kernel
  have hform : DecimalForm 1 "01" := ⟨1, rfl, by decide, by decide⟩
  have hlong : IsOverlong (Text.zeros 4301) := Template.isOverlong_zeros (Nat.le_refl 4301)
  have hshort {name : Text} (h : name.length < 4301) : ¬ IsOverlong name :=
    fun hlong => Nat.not_le.mpr h hlong.2
  obtain ⟨hnamed, hother, hrefused⟩ := reference_by_name dateRegex dateProgram "may" m rfl
  refine ⟨compile_eq _ _, rfl, m, hm, ?_, ?_, ?_, ?_, ?_, ?_⟩
  · have hscans := (hnamed "month" 1 hfirst .brace).1
    rw [hmonth] at hscans
    exact hscans
  · have hscans := (hnamed "day" 2 hsecond .angle).1
    rw [hday] at hscans
    exact hscans
  · -- No group is called `year`, and a decimal form begins with a digit.
    refine hother .angle "year" (by decide) (hshort (by decide)) (by decide +kernel) ?_
    intro number _ hyear
    exact absurd (hyear.isDigit_of_mem (List.mem_cons_self ..)) (by decide)
  · -- There are two groups only.
    refine hother .angle "3" (by decide) (hshort (by decide)) (by decide +kernel) ?_
    intro number hle hthree
    have hvalue : 3 = number := hthree.decimalValue_eq
    omega
  · exact fun b => ((hnamed "month" 1 hfirst .brace).2 .angle "01" hform).2 "\\u" "!\\x4" _ rfl b
  · intro b
    have hbuild := hrefused .angle _ hlong [] [] .empty rfl b
    rwa [List.nil_append, List.append_nil, Text.length_zeros] at hbuild

end RegexSubst.Regex
