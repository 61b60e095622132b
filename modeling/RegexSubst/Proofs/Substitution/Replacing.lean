import RegexSubst.Proofs.Regex.MatchOrder
import RegexSubst.Proofs.Template.Actions
import RegexSubst.Proofs.Text.Slice
import RegexSubst.Substitution

/-!
# `RegexSubst.Proofs.Substitution.Replacing`: what a substitution keeps and what it replaces

The matches that are replaced cut a text into parts that are kept and stretches that are replaced.
The new text has the same kept parts in the same places, and for every stretch the expansion of the
template for its match. Each expansion is made for its match alone and put in as it is: neither a
case change nor an unfinished control reaches what comes behind it, and no pair is joined across its
ends.

* `Text.weave` puts parts together, and `keptParts` and `keptEnd` are what is kept.
* `weave_stretches`: the kept parts and the stretches are the whole text.
* `replaceMatches_eq_weave`: new texts come in place of the stretches.
* `substitute_of_newText`: a substitution by the new texts of its matches.
* `substitute_eq_rewritten` is the statement about all substitutions, and `substitute_crossed` shows
  a match that cannot be replaced.
-/

set_option autoImplicit false

namespace RegexSubst

namespace Text

/-- The parts `kept`, each followed by the text that is put in behind it, and `last` at the end. -/
def weave : (kept inserted : List Text) → (last : Text) → Text
  | part :: kept, new :: inserted, last => part ++ new ++ weave kept inserted last
  | _, _, last => last

/-- A slice and what comes behind it. -/
theorem slice_append_drop (t : Text) {start stop : Nat} (h : start ≤ stop) :
    t.slice start stop ++ t.drop stop = t.drop start := by
  have hdrop : t.drop stop = (t.drop start).drop (stop - start) := by
    rw [List.drop_drop, Nat.add_sub_cancel' h]
  rw [slice_of_le t h, hdrop, List.take_append_drop]

end Text

namespace Regex

/-- The stretch of a text that a match covers. -/
def Match.stretch {size : Nat} (m : Match size) (text : Text) : Text :=
  text.slice m.start m.stop

/-- What is kept in front of each match, from `position` on. -/
def keptParts {size : Nat} (text : Text) (position : Nat) : List (Match size) → List Text
  | [] => []
  | m :: rest => text.slice position m.start :: keptParts text m.stop rest

/-- What is kept behind the last match. -/
def keptEnd {size : Nat} (text : Text) (position : Nat) : List (Match size) → Text
  | [] => text.drop position
  | m :: rest => keptEnd text m.stop rest

/-- The text with `new m` in the place of every match `m`. -/
def rewritten {size : Nat} (text : Text) (found : List (Match size)) (new : Match size → Text) :
    Text :=
  Text.weave (keptParts text 0 found) (found.map new) (keptEnd text 0 found)

/-- The match of a regex in a text, as the expansion of a template sees it. -/
def context (r : Regex) (program : Program) (text : Text) {size : Nat} (m : Match size) :
    Template.Context :=
  ⟨r.view, text, m.spans program.groups.count⟩

/-- How many matches are replaced under the limit `count` if `found` of them are found. -/
def replacedCount (count : Int) (found : Nat) : Nat :=
  if count ≤ 0 then found else min count.toNat found

/-- The matches that are replaced under the limit `count`. -/
def replaced (program : Program) (text : Text) (count : Int) : List (Match text.toArray.size) :=
  (program.findAll text.toArray).take
    (replacedCount count (program.findAll text.toArray).length)

/-- A limit takes the first matches, and all of them if it is not positive. -/
theorem limited_eq_take {α : Type} (count : Int) (found : List α) :
    limited count found = found.take (replacedCount count found.length) := by
  unfold limited replacedCount
  by_cases hcount : 0 < count
  · rw [if_pos hcount, if_neg (by omega), List.take_eq_take_min]
  · rw [if_neg hcount, if_pos (by omega), List.take_length]

/-- As many matches are replaced as `replacedCount` says, since no more are found. -/
theorem length_replaced (program : Program) (text : Text) (count : Int) :
    (replaced program text count).length
      = replacedCount count (program.findAll text.toArray).length := by
  rw [replaced, List.length_take, Nat.min_eq_left]
  unfold replacedCount
  split <;> omega

/-! ### Kept parts and stretches -/

section

variable {size : Nat} {text : Text} {position : Nat} {found : List (Match size)}

/-- The kept parts and the stretches are the whole text. -/
theorem weave_stretches (h : InOrder position found) :
    Text.weave (keptParts text position found) (found.map (·.stretch text))
      (keptEnd text position found) = text.drop position := by
  induction found generalizing position with
  | nil => rfl
  | cons m rest ih =>
    -- The induction closes the text behind the match, then the match and the part before it.
    calc Text.weave (keptParts text position (m :: rest))
          ((m :: rest).map (·.stretch text)) (keptEnd text position (m :: rest))
        = text.slice position m.start ++ m.stretch text
            ++ Text.weave (keptParts text m.stop rest) (rest.map (·.stretch text))
              (keptEnd text m.stop rest) := rfl
      _ = text.slice position m.start ++ (m.stretch text ++ text.drop m.stop) := by
          rw [ih h.2, List.append_assoc]
      _ = text.slice position m.start ++ text.drop m.start := by
          rw [Match.stretch, text.slice_append_drop m.start_le_stop]
      _ = text.drop position := text.slice_append_drop h.1

/-- Matches with new texts are replaced by them, and all else is kept. -/
theorem replaceMatches_eq_weave {replace : Match size → Except SubstitutionError Text}
    {new : Match size → Text} (h : InOrder position found)
    (hnew : ∀ m ∈ found, replace m = .ok (new m)) :
    replaceMatches replace (text.drop position) position found
      = .ok (Text.weave (keptParts text position found) (found.map new)
        (keptEnd text position found)) := by
  induction found generalizing position with
  | nil => rfl
  | cons m rest ih =>
    -- `replaceMatches` cuts what is left of the text, and the kept parts are slices of the whole.
    have hkept : (text.drop position).take (m.start - position) = text.slice position m.start :=
      (text.slice_of_le h.1).symm
    have hrest : (text.drop position).drop (m.stop - position) = text.drop m.stop := by
      rw [List.drop_drop, Nat.add_sub_cancel' (Nat.le_trans h.1 m.start_le_stop)]
    have htail := ih h.2 fun n hn => hnew n (by simp [hn])
    simp only [replaceMatches, hnew m (by simp), hrest, htail, hkept, Template.except_bind_ok]
    rfl

end

/-! ### Substitutions -/

/-- What a match is replaced by. A match that cannot be reported has no new text. -/
def newText (r : Regex) (program : Program) (text template : Text) {size : Nat} (m : Match size) :
    Except SubstitutionError Text :=
  if m.isCrossed then .error .crossedGroup
  else r.expand text (m.spans program.groups.count) template

/-- The text of the expansion for a match, empty if there is none. -/
def expansionText (r : Regex) (program : Program) (text template : Text) {size : Nat}
    (m : Match size) : Text :=
  match Template.replacement (r.context program text m) template with
  | .ok answer => answer.text
  | .error _ => []

section

variable {r : Regex} {program : Program} {text template : Text} {count : Int}

/-- A regex with a program is valid. -/
theorem isValid_of_program (hprogram : r.program = .ok program) : r.isValid = true := by
  rw [isValid, hprogram]

/-- A valid regex expands every template that has no fault, for every match. -/
theorem replacement_eq (hprogram : r.program = .ok program) {size : Nat} (m : Match size) :
    Template.replacement (r.context program text m) template =
      match Template.firstFault? template with
      | some fault => .error fault
      | none => .ok ⟨true, r.expansionText program text template m⟩ := by
  have hvalid : (r.context program text m).regex.isValid = true := isValid_of_program hprogram
  have hbuild := Template.Builder.fresh.build_eq hvalid template
  -- Both sides read the template into the same tokens and look for a fault there.
  unfold expansionText Template.replacement Template.firstFault?
  rw [hbuild]
  cases (Template.Token.readAll template).findSome? Template.Token.fault? <;> rfl

/-- A match is replaced by the expansion for it, unless it cannot be reported or the template has a
fault. -/
theorem newText_eq (hprogram : r.program = .ok program) {size : Nat} (m : Match size) :
    r.newText program text template m =
      if m.isCrossed then .error .crossedGroup
      else
        match Template.firstFault? template with
        | some fault => .error (.fault fault)
        | none => .ok (r.expansionText program text template m) := by
  have hreplacement : Template.replacement (r.context program text m) template = _ :=
    replacement_eq hprogram m
  unfold context at hreplacement
  unfold newText expand
  rw [hreplacement]
  cases Template.firstFault? template <;> rfl

/-- A substitution by a valid regex under a limit that is not too large. -/
theorem substitute_of_program (hprogram : r.program = .ok program) (hcount : count < countBound) :
    r.substitute text template count = do
      let new ← replaceMatches (r.newText program text template) text 0
        (replaced program text count)
      return (new, (replaced program text count).length) := by
  have hlimit : ¬ countBound ≤ count := by omega
  simp only [substitute, hprogram, if_neg hlimit, limited_eq_take]
  rfl

/-- A first match that cannot be reported is the failure of the whole substitution. -/
theorem substitute_of_crossed (hprogram : r.program = .ok program) (hcount : count < countBound)
    (hcrossed : (replaced program text count).head?.any (·.isCrossed) = true) :
    r.substitute text template count = .error .crossedGroup := by
  rw [substitute_of_program hprogram hcount]
  cases hfound : replaced program text count with
  | nil => simp [hfound] at hcrossed
  | cons m rest =>
    have hm : m.isCrossed = true := by simpa [hfound] using hcrossed
    simp only [replaceMatches, newText, hm, if_true]
    rfl

/-- Without an effective limit, all matches are replaced. -/
theorem replaced_eq_findAll (h : count ≤ 0 ∨ (program.findAll text.toArray).length ≤ count) :
    replaced program text count = program.findAll text.toArray := by
  have hall : replacedCount count (program.findAll text.toArray).length
      = (program.findAll text.toArray).length := by
    unfold replacedCount
    split <;> omega
  rw [replaced, hall, List.take_length]

/-- A substitution puts in the new texts of the matches that are replaced, and counts these. -/
theorem substitute_of_newText (hprogram : r.program = .ok program) (hcount : count < countBound)
    {new : Match text.toArray.size → Text}
    (hnew : ∀ m ∈ replaced program text count, r.newText program text template m = .ok (new m)) :
    r.substitute text template count
      = .ok (rewritten text (replaced program text count) new,
        replacedCount count (program.findAll text.toArray).length) := by
  have horder : InOrder 0 (replaced program text count) := (program.inOrder_findAll _).take _
  have hweave : replaceMatches _ (text.drop 0) 0 _ = _ := replaceMatches_eq_weave horder hnew
  rw [List.drop_zero] at hweave
  rw [substitute_of_program hprogram hcount, hweave, length_replaced]
  rfl

/-- Every match that is replaced is replaced by the expansion of the template for that match alone,
and everything else is kept in its place: with the stretches of the matches put in instead of the
new texts, the same parts are the text itself. A new text is put in as it is. What its expansion
leaves behind, a case change or an unfinished control, is not there for the next one, and no pair is
joined across its ends. As many matches are replaced as the limit says, and all of them if it is not
positive or not below their number.

The regex is valid, the limit is below the bound, the template has no fault for a match that is
replaced, and each of these matches can be reported. -/
theorem substitute_eq_rewritten (r : Regex) (program : Program) (text template : Text) (count : Int)
    (hprogram : r.program = .ok program) (hcount : count < countBound)
    (hreported : ∀ m ∈ replaced program text count, m.isCrossed = false)
    (hok : ∀ m ∈ replaced program text count, ∀ fault,
      Template.replacement (r.context program text m) template ≠ .error fault) :
    (program.findAll text.toArray).Pairwise (fun m n => m.stop ≤ n.start)
      ∧ rewritten text (replaced program text count) (·.stretch text) = text
      ∧ ∃ new : Match text.toArray.size → Text,
        (∀ m ∈ replaced program text count,
          Template.replacement (r.context program text m) template = .ok ⟨true, new m⟩
            ∧ ∀ b : Template.Builder,
              (b.build (r.context program text m) template).1 = .ok ⟨true, new m⟩)
        ∧ r.substitute text template count
          = .ok (rewritten text (replaced program text count) new,
            replacedCount count (program.findAll text.toArray).length)
        ∧ r.substituteText text template count
          = .ok (rewritten text (replaced program text count) new)
        ∧ (count < 0 ∨ (program.findAll text.toArray).length ≤ count →
          r.substitute text template count = r.substitute text template 0
            ∧ r.substituteText text template count = r.substituteText text template 0) := by
  have horder : InOrder 0 (replaced program text count) := (program.inOrder_findAll _).take _
  -- A match shows that the template has no fault; without a match nothing is known of it.
  have hnone (m) (hm : m ∈ replaced program text count) : Template.firstFault? template = none := by
    rw [Option.eq_none_iff_forall_ne_some]
    intro fault hfault
    refine hok m hm fault ?_
    rw [replacement_eq hprogram, hfault]
  -- So every match that is replaced has a new text, the one of its own expansion.
  have hnew (m) (hm : m ∈ replaced program text count) :
      r.newText program text template m = .ok (r.expansionText program text template m) := by
    simp only [newText_eq hprogram, hreported m hm, hnone m hm, Bool.false_eq_true, if_false]
  have hanswer := substitute_of_newText hprogram hcount hnew
  refine ⟨(program.inOrder_findAll _).pairwise, weave_stretches horder,
    r.expansionText program text template, ?_, hanswer, ?_, ?_⟩
  · intro m hm
    have hreplacement : Template.replacement (r.context program text m) template
        = .ok ⟨true, r.expansionText program text template m⟩ := by
      rw [replacement_eq hprogram, hnone m hm]
    -- A builder that has been used forgets everything before it begins, so it does the same.
    exact ⟨hreplacement, fun b => hreplacement⟩
  · -- The function without a count answers with the text of the other one.
    rw [substituteText, hanswer]
    rfl
  · -- Under a limit without effect, and under none, all matches are replaced.
    intro heffect
    have hsame : r.substitute text template count = r.substitute text template 0 := by
      rw [substitute_of_program hprogram hcount, substitute_of_program hprogram (by decide),
        replaced_eq_findAll (by omega), replaced_eq_findAll (by omega)]
    exact ⟨hsame, by rw [substituteText, substituteText, hsame]⟩

end

/-- The regex `pattern` without flags, which is known to compile. -/
def compiled (pattern : Text) (h : (Program.compile pattern 0).toOption.isSome = true) : Program :=
  (Program.compile pattern 0).toOption.get h

/-- A pattern that is known to compile is the pattern of a valid regex. -/
theorem compile_eq (pattern : Text) (h : (Program.compile pattern 0).toOption.isSome = true) :
    compile pattern 0 = .ok ⟨pattern, 0, .ok (compiled pattern h)⟩ := by
  have hprogram : Program.compile pattern 0 = .ok (compiled pattern h) :=
    Template.except_eq_ok_of_toOption (Option.some_get h).symm
  simp only [compile, hprogram]

/-- The program of the regex `b`. -/
def letterProgram : Program := compiled "b" (by decide +kernel)

/-- A letter three times, in the end behind itself and in front of the low half of a pair. -/
def letterText : Text := "abcbb" ++ [Text.lowHalf]

/-- A template with a case change that is not ended, and with the high half of a pair as its last
character. -/
def openTemplate : Text := "\\U\\0\\x\x7bD83D\x7d"

/-- All three letters are replaced under a negative limit. The case change of one expansion does not
reach the letters kept behind it, and the high half at its end does not join the low half of the
text. -/
theorem substitute_eq_rewritten_letter :
    compile "b" 0 = .ok ⟨"b", 0, .ok letterProgram⟩ ∧ (-1 : Int) < countBound
      ∧ (∀ m ∈ replaced letterProgram letterText (-1), m.isCrossed = false)
      ∧ (∀ m ∈ replaced letterProgram letterText (-1), ∀ fault,
        Template.replacement (context ⟨"b", 0, .ok letterProgram⟩ letterProgram letterText m)
          openTemplate ≠ .error fault)
      ∧ (∃ new : Match letterText.toArray.size → Text,
        rewritten letterText (replaced letterProgram letterText (-1)) new
            = "aB" ++ [Text.highHalf] ++ "cB" ++ [Text.highHalf] ++ "B" ++ [Text.highHalf]
              ++ [Text.lowHalf]
          ∧ substitute ⟨"b", 0, .ok letterProgram⟩ letterText openTemplate (-1)
            = .ok (rewritten letterText (replaced letterProgram letterText (-1)) new, 3))
      ∧ substitute ⟨"b", 0, .ok letterProgram⟩ letterText openTemplate (-1)
        = substitute ⟨"b", 0, .ok letterProgram⟩ letterText openTemplate 0 := by
  have hreported : ∀ m ∈ replaced letterProgram letterText (-1), m.isCrossed = false := by
    decide +kernel
  have hfault : Template.firstFault? openTemplate = none := by decide +kernel
  have hok : ∀ m ∈ replaced letterProgram letterText (-1), ∀ fault,
      Template.replacement (context ⟨"b", 0, .ok letterProgram⟩ letterProgram letterText m)
        openTemplate ≠ .error fault :=
    fun m _ fault => Template.Builder.fresh.build_ne_error hfault _ fault
  have hcount : replacedCount (-1) (letterProgram.findAll letterText.toArray).length = 3 := by
    decide +kernel
  have hvalue : (substituteText ⟨"b", 0, .ok letterProgram⟩ letterText openTemplate (-1)).toOption
      = some ("aB" ++ [Text.highHalf] ++ "cB" ++ [Text.highHalf] ++ "B" ++ [Text.highHalf]
        ++ [Text.lowHalf]) := by
    decide +kernel
  obtain ⟨-, -, new, -, hanswer, htext, hlimit⟩ := substitute_eq_rewritten
    ⟨"b", 0, .ok letterProgram⟩ letterProgram letterText openTemplate (-1) rfl (by decide) hreported
    hok
  rw [htext] at hvalue
  rw [hcount] at hanswer
  exact ⟨compile_eq _ _, by decide, hreported, hok, ⟨new, Option.some.inj hvalue, hanswer⟩,
    (hlimit (.inl (by decide))).1⟩

/-- The program of a possessive repeat that opens a group again after its last end. -/
def crossingProgram : Program := compiled "((x)|y|z)*+" (by decide +kernel)

/-- A valid regex does not replace every match, although the template has no fault: a match in which
a group ends before it begins cannot be reported. -/
theorem substitute_crossed :
    compile "((x)|y|z)*+" 0 = .ok ⟨"((x)|y|z)*+", 0, .ok crossingProgram⟩ ∧ (0 : Int) < countBound
      ∧ (∀ ctx fault, Template.replacement ctx "\\0" ≠ .error fault)
      ∧ substitute ⟨"((x)|y|z)*+", 0, .ok crossingProgram⟩ "xyz" "\\0" 0
        = .error .crossedGroup := by
  have hfault : Template.firstFault? "\\0" = none := by decide +kernel
  exact ⟨compile_eq _ _, by decide, Template.Builder.fresh.build_ne_error hfault,
    substitute_of_crossed rfl (by decide) (by decide +kernel)⟩

end Regex

end RegexSubst
