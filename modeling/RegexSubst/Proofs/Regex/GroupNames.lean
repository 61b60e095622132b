import RegexSubst.Proofs.Template.Capture
import RegexSubst.Regex.Basic

/-!
# `RegexSubst.Proofs.Regex.GroupNames`: the names of groups in a template

The name of a group is an identifier. It begins with no digit, so it is never read as a number, and
it holds no bracket, so it is never cut short. The table of the groups gives every name a number
that is in range.

* `notNumeral_of_isIdentifier` and `closing_not_mem_of_isIdentifier` are these two properties.
* `GroupTable.inRange_of_number?` and `GroupTable.isIdentifier_of_number?` are about a look-up.
* `resolveGroup_of_number?`: in a template the name of a group is resolved to its number.
-/

set_option autoImplicit false

namespace RegexSubst.Regex

open RegexSubst.Template (Bracket NotNumeral resolveGroup)

/-! ### Identifiers -/

/-- No digit begins an identifier. -/
theorem isDigit_of_identifierStart {c : CodePoint}
    (h : Unicode.identifierStart.contains c.val = true) : c.isDigit = false := by
  rw [← Bool.not_eq_true]
  intro hdigit
  simp only [CodePoint.isDigit, Bool.and_eq_true, decide_eq_true_eq] at hdigit
  -- The first characters that may begin an identifier are the capital letters.
  have hbelow : c.val < 0x41 := by omega
  have hnone : Unicode.identifierStart.contains c.val = false := if_pos hbelow
  rw [hnone] at h
  cases h

/-- An identifier begins with a character that is no digit. -/
theorem exists_cons_of_isIdentifier {name : Text} (h : isIdentifier name = true) :
    ∃ c rest, name = c :: rest ∧ c.isDigit = false := by
  cases name with
  | nil => cases h
  | cons c rest =>
    rw [isIdentifier, Bool.and_eq_true] at h
    exact ⟨c, rest, rfl, isDigit_of_identifierStart h.1⟩

/-- An identifier holds no bracket that closes a name. -/
theorem closing_not_mem_of_isIdentifier {name : Text} (h : isIdentifier name = true)
    (bracket : Bracket) : bracket.closing ∉ name := by
  have hstart : Unicode.identifierStart.contains bracket.closing.val = false := by
    cases bracket <;> rfl
  have hcontinue : Unicode.identifierContinue.contains bracket.closing.val = false := by
    cases bracket <;> rfl
  cases name with
  | nil => cases h
  | cons c rest =>
    rw [isIdentifier, Bool.and_eq_true, List.all_eq_true] at h
    intro hmem
    -- The bracket would begin the identifier or continue it, and it may do neither.
    rcases List.mem_cons.mp hmem with hc | hrest
    · rw [← hc, hstart] at h
      cases h.1
    · have hin := h.2 _ hrest
      rw [hcontinue] at hin
      cases hin

/-- An identifier is no numeral, short or long: its first character is no digit. -/
theorem notNumeral_of_isIdentifier {name : Text} (h : isIdentifier name = true) :
    NotNumeral name := by
  obtain ⟨c, rest, rfl, hc⟩ := exists_cons_of_isIdentifier h
  exact .other (List.mem_cons_self ..) hc

/-! ### Look-ups -/

namespace GroupTable

variable {t : GroupTable} {name : Text} {number : Nat}

/-- What is found is an entry of the table. -/
theorem exists_entry_of_number? (h : t.number? name = some number) :
    ∃ entry ∈ t.names, entry.name = name ∧ entry.number = number := by
  obtain ⟨entry, hfind, hnumber⟩ := Option.map_eq_some_iff.mp h
  exact ⟨entry, List.mem_of_find?_eq_some hfind, by simpa using List.find?_some hfind, hnumber⟩

/-- A name that is found is the name of one of the groups. -/
theorem inRange_of_number? (h : t.number? name = some number) :
    1 ≤ number ∧ number ≤ t.count := by
  obtain ⟨entry, hmem, -, rfl⟩ := exists_entry_of_number? h
  exact t.inRange entry hmem

/-- A name that is found is an identifier. -/
theorem isIdentifier_of_number? (h : t.number? name = some number) : isIdentifier name = true := by
  obtain ⟨entry, -, rfl, -⟩ := exists_entry_of_number? h
  exact entry.isIdentifier

end GroupTable

section

variable {r : Regex} {program : Program} {name : Text}

/-- A valid regex answers the number of a group for its name, and else a negative number. -/
theorem groupNumber_of_program (hprogram : r.program = .ok program) (name : Text) :
    r.view.groupNumber name = ((program.groups.number? name).map Int.ofNat).getD (-1) := by
  simp only [view, groupNumber, hprogram]

/-- In a template the name of a group is resolved to its number. -/
theorem resolveGroup_of_number? (hprogram : r.program = .ok program) {number : Nat}
    (h : program.groups.number? name = some number) : resolveGroup r.view name = .ok number := by
  have hname := notNumeral_of_isIdentifier (GroupTable.isIdentifier_of_number? h)
  -- The name is no number, so it is looked up.
  rw [Template.resolveGroup_of_name _ hname.not_decimalForm hname.not_isOverlong,
    groupNumber_of_program hprogram, h]
  rfl

end

end RegexSubst.Regex
