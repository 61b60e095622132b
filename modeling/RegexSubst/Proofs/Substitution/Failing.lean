import RegexSubst.Proofs.Substitution.Replacing
import RegexSubst.Proofs.Template.Faults

/-!
# `RegexSubst.Proofs.Substitution.Failing`: when a substitution fails

A substitution fails before it looks at the text if the regex is invalid or the limit is too large.
After that it fails with the first of the matches to be replaced that has no new text. A template
with a fault has it for every match, so it shows at the first one if there is a match at all. A
match that cannot be reported fails on its own.

* `Match.failure?` is the failure of one match, and `replaceMatches_eq_error_iff` says that the
  first failure of a match is the failure of all of them.
* `substitute_eq_error_of_overlong` and `substitute_eq_error_of_not_overlong` are the two kinds of
  templates, and `exists_substitute_eq_error_iff` is both.
* `substitute_error_iff` is the statement about all substitutions, and `substitute_error_crossed`
  shows a failure that is not the template's.
-/

set_option autoImplicit false

namespace RegexSubst.Regex

open RegexSubst.Template (FirstOverlong findSome?_fault_iff firstFault? firstOverlong_zeros
  zerosTemplate)

/-- Why a match has no new text for a template with the fault `fault?`. -/
def Match.failure? {size : Nat} (fault? : Option Template.Fault) (m : Match size) :
    Option SubstitutionError :=
  if m.isCrossed then some .crossedGroup else fault?.map .fault

/-- The matches fail with the first one that has no new text. -/
theorem replaceMatches_eq_error_iff {size : Nat}
    {replace : Match size → Except SubstitutionError Text}
    {failure? : Match size → Option SubstitutionError}
    (hreplace : ∀ m error, replace m = .error error ↔ failure? m = some error)
    (rest : Text) (position : Nat) (found : List (Match size)) (error : SubstitutionError) :
    replaceMatches replace rest position found = .error error
      ↔ found.findSome? failure? = some error := by
  induction found generalizing rest position with
  | nil => simp [replaceMatches]
  | cons m others ih =>
    cases hm : replace m with
    | error e =>
      -- The other matches are not looked at.
      simp [replaceMatches, hm, (hreplace m e).mp hm]
    | ok new =>
      -- A match with a new text has no failure, so the others decide.
      have hnone : failure? m = none := by
        rw [Option.eq_none_iff_forall_ne_some]
        intro e he
        rw [(hreplace m e).mpr he] at hm
        cases hm
      rw [List.findSome?_cons, hnone, ← ih (rest.drop (m.stop - position)) m.stop]
      simp only [replaceMatches, hm, Template.except_bind_ok]
      cases replaceMatches replace (rest.drop (m.stop - position)) m.stop others <;> simp

section

variable {size : Nat} {error : SubstitutionError}

/-- For a template with a fault, the first match decides. -/
theorem findSome?_failure_of_fault (fault : Template.Fault) (found : List (Match size)) :
    found.findSome? (Match.failure? (some fault)) = some error ↔
      ∃ m, found.head? = some m
        ∧ (m.isCrossed = true ∧ error = .crossedGroup
          ∨ m.isCrossed = false ∧ error = .fault fault) := by
  cases found with
  | nil => simp
  | cons m rest =>
    by_cases hcrossed : m.isCrossed = true
    · simp [Match.failure?, hcrossed, eq_comm (a := error)]
    · simp [Match.failure?, hcrossed, eq_comm (a := error)]

/-- For a template without a fault, only a match that cannot be reported fails. -/
theorem findSome?_failure_of_not_fault (found : List (Match size)) :
    found.findSome? (Match.failure? none) = some error ↔
      error = .crossedGroup ∧ ∃ m ∈ found, m.isCrossed = true := by
  induction found with
  | nil => simp
  | cons m rest ih =>
    by_cases hcrossed : m.isCrossed = true
    · simp [Match.failure?, hcrossed, eq_comm (a := error)]
    · -- This match has a new text, so a failure comes from the others.
      have hm : m.failure? none = none := by simp [Match.failure?, hcrossed]
      rw [List.findSome?_cons, hm]
      simpa [hcrossed] using ih

end

variable {r : Regex} {program : Program} {text template : Text} {count : Int}

/-- The failure of a match is the failure of its new text. -/
theorem newText_eq_error_iff (hprogram : r.program = .ok program) {size : Nat} (m : Match size)
    (error : SubstitutionError) :
    r.newText program text template m = .error error
      ↔ m.failure? (firstFault? template) = some error := by
  rw [newText_eq hprogram, Match.failure?]
  by_cases hcrossed : m.isCrossed = true
  · simp [hcrossed]
  · cases firstFault? template <;> simp [hcrossed]

/-- The first match is replaced under every limit. -/
theorem head?_replaced (program : Program) (text : Text) (count : Int) :
    (replaced program text count).head? = (program.findAll text.toArray).head? := by
  unfold replaced replacedCount
  cases hfound : program.findAll text.toArray with
  | nil => simp
  | cons m rest =>
    -- At least one match is replaced: a limit that takes effect is positive.
    obtain ⟨n, hn⟩ : ∃ n, (if count ≤ 0 then (m :: rest).length
        else min count.toNat (m :: rest).length) = n + 1 := by
      refine ⟨_, (Nat.succ_pred_eq_of_pos ?_).symm⟩
      split <;> simp only [List.length_cons] <;> omega
    rw [hn]
    rfl

/-- The failure of a substitution without a count is the same. -/
theorem substituteText_eq_error_iff (error : SubstitutionError) :
    r.substituteText text template count = .error error
      ↔ r.substitute text template count = .error error := by
  unfold substituteText
  cases r.substitute text template count <;> simp

/-- A substitution under a limit that is not too large fails as the first match that fails. -/
theorem substitute_eq_error_iff (hprogram : r.program = .ok program) (hcount : count < countBound)
    (error : SubstitutionError) :
    r.substitute text template count = .error error
      ↔ (replaced program text count).findSome? (Match.failure? (firstFault? template))
        = some error := by
  rw [substitute_of_program hprogram hcount,
    ← replaceMatches_eq_error_iff (newText_eq_error_iff hprogram) text 0]
  cases replaceMatches (r.newText program text template) text 0 (replaced program text count) <;>
    simp

/-- A template has no fault if and only if it has no overlong reference. -/
theorem firstFault?_eq_none_iff (template : Text) :
    firstFault? template = none ↔ ¬ ∃ digits, FirstOverlong template digits := by
  rw [Option.eq_none_iff_forall_ne_some]
  constructor
  · rintro hnone ⟨digits, hfirst⟩
    exact hnone _ ((findSome?_fault_iff template _).mpr ⟨digits, hfirst, rfl⟩)
  · intro hnone fault hfault
    obtain ⟨digits, hfirst, -⟩ := (findSome?_fault_iff template fault).mp hfault
    exact hnone ⟨digits, hfirst⟩

/-- With an overlong reference, a substitution fails if there is a match: with the overlong
reference, unless the first match cannot be reported. -/
theorem substitute_eq_error_of_overlong (hprogram : r.program = .ok program)
    (hcount : count < countBound) {digits : Nat} (hfirst : FirstOverlong template digits)
    (error : SubstitutionError) :
    r.substitute text template count = .error error ↔
      ∃ m, (program.findAll text.toArray).head? = some m
        ∧ (m.isCrossed = true ∧ error = .crossedGroup
          ∨ m.isCrossed = false ∧ error = .fault (.tooManyDigits digits)) := by
  have hfault : firstFault? template = some (.tooManyDigits digits) :=
    (findSome?_fault_iff template _).mpr ⟨digits, hfirst, rfl⟩
  rw [substitute_eq_error_iff hprogram hcount, hfault, findSome?_failure_of_fault, head?_replaced]

/-- Without an overlong reference, a substitution fails only for a match that cannot be reported. -/
theorem substitute_eq_error_of_not_overlong (hprogram : r.program = .ok program)
    (hcount : count < countBound) (hnone : ¬ ∃ digits, FirstOverlong template digits)
    (error : SubstitutionError) :
    r.substitute text template count = .error error ↔
      error = .crossedGroup ∧ ∃ m ∈ replaced program text count, m.isCrossed = true := by
  rw [substitute_eq_error_iff hprogram hcount, (firstFault?_eq_none_iff template).mpr hnone,
    findSome?_failure_of_not_fault]

/-- A substitution under a limit that is not too large fails if there is a match and an overlong
reference, or if a match cannot be reported. -/
theorem exists_substitute_eq_error_iff (hprogram : r.program = .ok program)
    (hcount : count < countBound) :
    (∃ error, r.substitute text template count = .error error) ↔
      program.findAll text.toArray ≠ [] ∧ (∃ digits, FirstOverlong template digits)
        ∨ ∃ m ∈ replaced program text count, m.isCrossed = true := by
  by_cases hoverlong : ∃ digits, FirstOverlong template digits
  · obtain ⟨digits, hfirst⟩ := hoverlong
    simp only [substitute_eq_error_of_overlong hprogram hcount hfirst]
    constructor
    · rintro ⟨-, m, hhead, -⟩
      exact .inl ⟨List.ne_nil_of_mem (List.mem_of_head? hhead), digits, hfirst⟩
    · intro hcause
      have hfound : program.findAll text.toArray ≠ [] := by
        rcases hcause with ⟨hfound, -⟩ | ⟨m, hm, -⟩
        · exact hfound
        · exact List.ne_nil_of_mem (List.mem_of_mem_take hm)
      -- The first match decides which of the two failures it is.
      have hhead := List.head?_eq_some_head hfound
      cases hcrossed : ((program.findAll text.toArray).head hfound).isCrossed with
      | true => exact ⟨_, _, hhead, .inl ⟨hcrossed, rfl⟩⟩
      | false => exact ⟨_, _, hhead, .inr ⟨hcrossed, rfl⟩⟩
  · -- Only the second cause is left, for the template has no fault.
    simp only [substitute_eq_error_of_not_overlong hprogram hcount hoverlong, exists_eq_left,
      hoverlong, and_false, false_or]

/-- When a substitution fails, and with what. An invalid regex is refused with its message, whatever
the other arguments are, and a limit that is too large is refused even if nothing matches. After
that a substitution fails exactly if there is a match and the template has an overlong reference, or
if one of the matches that are replaced cannot be reported. An overlong reference is the failure
whatever has been matched, unless the first match cannot be reported. Without a count the failure is
the same. -/
theorem substitute_error_iff (r : Regex) (text template : Text) (count : Int) :
    (r.isValid = false → ∃ message, r.errorMessage? = some message
        ∧ r.substitute text template count = .error (.invalidRegex message))
      ∧ (∀ program, r.program = .ok program → countBound ≤ count →
        r.substitute text template count = .error .countTooLarge)
      ∧ (∀ program, r.program = .ok program → count < countBound →
        ((∃ error, r.substitute text template count = .error error) ↔
            program.findAll text.toArray ≠ [] ∧ (∃ digits, FirstOverlong template digits)
              ∨ ∃ m ∈ replaced program text count, m.isCrossed = true)
          ∧ (∀ digits m, FirstOverlong template digits →
            (program.findAll text.toArray).head? = some m →
              r.substitute text template count
                = .error (if m.isCrossed then .crossedGroup else .fault (.tooManyDigits digits)))
          ∧ ∀ error, (¬ ∃ digits, FirstOverlong template digits) →
            r.substitute text template count = .error error → error = .crossedGroup)
      ∧ ∀ error, r.substituteText text template count = .error error
        ↔ r.substitute text template count = .error error := by
  refine ⟨?_, ?_, ?_, substituteText_eq_error_iff⟩
  · intro hvalid
    cases hprogram : r.program with
    | ok program => rw [isValid_of_program hprogram] at hvalid; cases hvalid
    | error e => exact ⟨invalidMessage r.pattern e, by simp [errorMessage?, hprogram],
        by simp [substitute, hprogram]⟩
  · intro program hprogram hcount
    simp only [substitute, hprogram, if_pos hcount]
  · intro program hprogram hcount
    refine ⟨exists_substitute_eq_error_iff hprogram hcount, ?_, ?_⟩
    · intro digits m hfirst hhead
      rw [substitute_eq_error_of_overlong hprogram hcount hfirst]
      cases hcrossed : m.isCrossed with
      | true => exact ⟨m, hhead, .inl ⟨hcrossed, rfl⟩⟩
      | false => exact ⟨m, hhead, .inr ⟨hcrossed, rfl⟩⟩
    · intro error hnone herror
      exact ((substitute_eq_error_of_not_overlong hprogram hcount hnone error).mp herror).1

/-- The regex `(`, whose group is not closed. -/
def openRegex : Regex := (compile "(" 0).toOption.get (by decide +kernel)

/-- An invalid regex is refused even with a limit that is too large, and the limit is refused even
without a match. An overlong reference does no harm without a match and fails at the first one. -/
theorem substitute_error_iff_letter :
    compile "(" 0 = .ok openRegex ∧ openRegex.isValid = false
      ∧ openRegex.substitute letterText zerosTemplate countBound = .error (.invalidRegex
        "invalid regex \x60(\x60: missing ), unterminated subpattern at position 0")
      ∧ compile "b" 0 = .ok ⟨"b", 0, .ok letterProgram⟩
      ∧ substitute ⟨"b", 0, .ok letterProgram⟩ "ac" zerosTemplate countBound = .error .countTooLarge
      ∧ (¬ ∃ error, substitute ⟨"b", 0, .ok letterProgram⟩ "ac" zerosTemplate 1 = .error error)
      ∧ FirstOverlong zerosTemplate 4301
      ∧ substitute ⟨"b", 0, .ok letterProgram⟩ letterText zerosTemplate 1
        = .error (.fault (.tooManyDigits 4301))
      ∧ substituteText ⟨"b", 0, .ok letterProgram⟩ letterText zerosTemplate 1
        = .error (.fault (.tooManyDigits 4301)) := by
  have hinvalid : openRegex.isValid = false := by decide +kernel
  have hmessage : openRegex.errorMessage?
      = some "invalid regex \x60(\x60: missing ), unterminated subpattern at position 0" := by
    decide +kernel
  have hunmatched : letterProgram.findAll (List.toArray ("ac" : Text)) = [] := by decide +kernel
  have hmatched : (letterProgram.findAll letterText.toArray).head?.any (!·.isCrossed) = true := by
    decide +kernel
  obtain ⟨m, hm, hreported⟩ := (Option.any_eq_true _ _).mp hmatched
  obtain ⟨hrefused, -⟩ := substitute_error_iff openRegex letterText zerosTemplate countBound
  obtain ⟨-, hlarge, -⟩ :=
    substitute_error_iff ⟨"b", 0, .ok letterProgram⟩ "ac" zerosTemplate countBound
  obtain ⟨-, -, hreturns, -⟩ :=
    substitute_error_iff ⟨"b", 0, .ok letterProgram⟩ "ac" zerosTemplate 1
  obtain ⟨-, -, hfails, htext⟩ :=
    substitute_error_iff ⟨"b", 0, .ok letterProgram⟩ letterText zerosTemplate 1
  obtain ⟨message, hsame, hanswer⟩ := hrefused hinvalid
  rw [hmessage] at hsame
  cases hsame
  have hoverlong := (hfails _ rfl (by decide)).2.1 4301 m firstOverlong_zeros hm
  have hcrossed : m.isCrossed = false := by simpa using hreported
  rw [hcrossed] at hoverlong
  refine ⟨Template.except_eq_ok_of_toOption (Option.some_get _).symm, hinvalid, hanswer,
    compile_eq _ _, hlarge _ rfl (Int.le_refl _), ?_, firstOverlong_zeros, hoverlong,
    (htext _).mpr hoverlong⟩
  rw [(hreturns _ rfl (by decide)).1]
  -- Either cause would need a match, and `ac` has none.
  rintro (⟨hfound, -⟩ | ⟨n, hn, -⟩)
  · exact hfound hunmatched
  · have hfound := List.mem_of_mem_take hn
    rw [hunmatched] at hfound
    cases hfound

/-- The program of a possessive repeat that opens a group again after its last end. -/
def repeatedProgram : Program := compiled "((x)|y|z){3}+" (by decide +kernel)

/-- A substitution by a valid regex fails although the template has no overlong reference. -/
theorem substitute_error_crossed :
    compile "((x)|y|z){3}+" 0 = .ok ⟨"((x)|y|z){3}+", 0, .ok repeatedProgram⟩
      ∧ (0 : Int) < countBound
      ∧ (¬ ∃ digits, FirstOverlong "<\\1>" digits)
      ∧ substitute ⟨"((x)|y|z){3}+", 0, .ok repeatedProgram⟩ "xyz" "<\\1>" 0 = .error .crossedGroup
      ∧ substituteText ⟨"((x)|y|z){3}+", 0, .ok repeatedProgram⟩ "xyz" "<\\1>" 0
        = .error .crossedGroup := by
  have hnone : ¬ ∃ digits, FirstOverlong "<\\1>" digits :=
    (firstFault?_eq_none_iff _).mp (by decide +kernel)
  have hanswer : substitute ⟨"((x)|y|z){3}+", 0, .ok repeatedProgram⟩ "xyz" "<\\1>" 0
      = .error .crossedGroup := substitute_of_crossed rfl (by decide) (by decide +kernel)
  exact ⟨compile_eq _ _, by decide, hnone, hanswer, (substituteText_eq_error_iff _).mpr hanswer⟩

end RegexSubst.Regex
