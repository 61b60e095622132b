import RegexSubst.Proofs.Text.Decimal
import RegexSubst.Proofs.Template.Actions
import RegexSubst.Proofs.Template.Faults

/-!
# `RegexSubst.Proofs.Template.Reference`: the ways to refer to a group

A group has a number, and the regex may give it names. A template refers to it by a digit, by the
decimal form of the number in brackets, or by a name in brackets. The regex is not asked for a
decimal form. All other names are left to it, and it may know texts that look like numbers, such as
`00`.

* `Performs` is what a part of a template does, whatever follows it.
* `RefersTo` are the references to a group number, and `RefersTo.performs` is what they do.
* `DecimalForm` are the numerals that are read as a number, and `resolveGroup_of_decimalForm` and
  `resolveGroup_of_name` say how the two kinds of names are resolved.
* `build_reference_spelling`: the references to a group may stand for each other everywhere.
* `build_overlong_name`: a name that the regex knows is refused if it is a long row of digits.
-/

set_option autoImplicit false

namespace RegexSubst.Template

/-! ### Parts of a template -/

/-- What `part` does in the context of a match, whatever stands behind it in a template: it has no
fault, and its actions are `performed`. -/
structure Performs (ctx : Context) (part : Text) (performed : List Action) : Prop where
  firstFault?_append : ∀ rest, firstFault? (part ++ rest) = firstFault? rest
  actions_append : ∀ rest, actions ctx (part ++ rest) = performed ++ actions ctx rest

namespace Performs

variable {ctx : Context} {part : Text} {performed : List Action}

/-- A part that is always read as one token performs the action of the token. -/
theorem of_token {token : Token}
    (h : ∀ rest, Token.readAll (part ++ rest) = token :: Token.readAll rest)
    (hfault : token.fault? = none) : Performs ctx part [token.action ctx] where
  firstFault?_append rest := by simp only [firstFault?, h, List.findSome?_cons, hfault]
  actions_append rest := by simp only [actions, h, List.map_cons, List.singleton_append]

/-- A part that is read without a fault and leaves no control unfinished. -/
theorem of_run (h : ScanState.literal.run ctx part = .ok (.literal, performed)) :
    Performs ctx part performed := by
  obtain ⟨hlast, hfault, hactions⟩ := ScanState.completeAll_of_run ScanState.wellFormed_literal h
  have hread (rest : Text) := Token.readAll_append hlast rest
  -- The part is read as the tokens of the run, whatever stands behind it.
  rw [Token.readAll_of_completeAll hlast] at hread
  constructor
  · intro rest
    simp only [firstFault?, hread, List.findSome?_append, hfault, Option.none_or]
  · intro rest
    simp only [actions, hread, List.map_append, hactions]

/-- The answer for a template with the part behind a settled part `p₁` and in front of `p₂`. -/
theorem build_eq (h : Performs ctx part performed) (b : Builder) {p₁ p₂ : Text}
    {before : CaseBuffer} (hvalid : ctx.regex.isValid = true) (hp₁ : Settled ctx p₁ before)
    (hmem : introducer ∈ p₁ ++ part ++ p₂) :
    (b.build ctx (p₁ ++ part ++ p₂)).1 =
      match firstFault? p₂ with
      | some fault => .error fault
      | none => .ok ⟨true, Text.join (before.written ++ (before.mode.writeAll performed
          ++ (before.mode.nextAll performed).writeAll (actions ctx p₂)))⟩ := by
  have hbuild := b.build_eq_actions hvalid hmem
  rw [List.append_assoc, hp₁.firstFault?_append, h.firstFault?_append, hp₁.writeAll_append,
    h.actions_append, CaseMode.writeAll_append] at hbuild
  rw [List.append_assoc]
  exact hbuild

/-- The answer for a template that consists of the part alone. -/
theorem build_alone (h : Performs ctx part performed) (b : Builder)
    (hvalid : ctx.regex.isValid = true) (hmem : introducer ∈ part) :
    (b.build ctx part).1 = .ok ⟨true, Text.join (CaseMode.keep.writeAll performed)⟩ := by
  have hfault := h.firstFault?_append []
  have hactions := h.actions_append []
  rw [List.append_nil, firstFault?_nil] at hfault
  rw [List.append_nil, actions_nil, List.append_nil] at hactions
  rw [b.build_eq_actions hvalid hmem, hfault, hactions]

end Performs

/-! ### References -/

/-- No bracket is a digit. -/
theorem Bracket.closing_not_mem_of_isDigit {name : Text} (h : ∀ d ∈ name, d.isDigit = true)
    (bracket : Bracket) : bracket.closing ∉ name := by
  intro hmem
  have hdigit := h _ hmem
  cases bracket <;> cases hdigit

/-- The references to group `number`: the control of a digit, and a name in brackets that is
resolved to the number. The name does not hold the bracket that closes it. -/
inductive RefersTo (regex : RegexView) (number : Int) : Text → Prop
  | digit (d : CodePoint) (isDigit : d.isDigit = true) (value : Text.decimalValue [d] = number) :
    RefersTo regex number [introducer, d]
  | bracketed (bracket : Bracket) (name : Text) (closed : bracket.closing ∉ name)
    (resolved : resolveGroup regex name = .ok number) :
    RefersTo regex number ([introducer, 'g', bracket.opening] ++ name ++ [bracket.closing])

/-- A digit behind a backslash is one token, whatever follows it. -/
theorem Token.readAll_digit {d : CodePoint} (h : d.isDigit = true) (rest : Text) :
    readAll ((digit d).source ++ rest) = .digit d :: readAll rest := by
  have hread : read introducer (d :: rest) = (.digit d, rest) := if_pos h
  show readAll (introducer :: d :: rest) = _
  rw [readAll, hread]

/-- A name is resolved exactly if it is not overlong. -/
theorem resolveGroup_eq_ok_iff (regex : RegexView) (name : Text) (number : Int) :
    resolveGroup regex name = .ok number ↔
      ¬ IsOverlong name ∧ Token.groupOf regex name = number := by
  rw [resolveGroup_eq, ← isOverlong_iff]
  cases Token.isOverlong name <;> simp

/-- The action of a reference by the text of its group. -/
theorem Token.groupAction_eq_of_captureText? {ctx : Context} {number : Int}
    {segment? : Option Text} (h : captureText? number ctx.spans ctx.text = .ok segment?)
    (source : Text) :
    groupAction ctx number source = segment?.elim (.emitRaw source) .emit := by
  rw [captureText?_eq] at h
  cases h
  unfold groupAction
  by_cases hneg : number < 0
  · simp only [if_pos hneg, Option.elim_none]
  · simp only [if_neg hneg]
    cases ctx.spans[number.toNat]? <;> rfl

/-- A group with a span has a text. -/
theorem exists_captureText?_of_lt {spans : List Span} {number : Nat} (h : number < spans.length)
    (text : Text) : ∃ segment, captureText? number spans text = .ok (some segment) := by
  have hneg : ¬ (number : Int) < 0 := by omega
  rw [captureText?_eq, if_neg hneg, Int.toNat_natCast, List.getElem?_eq_getElem h]
  exact ⟨_, rfl⟩

namespace RefersTo

variable {ctx : Context} {number : Int} {control : Text}

/-- A reference is a control. -/
theorem introducer_mem {regex : RegexView} (h : RefersTo regex number control) :
    introducer ∈ control := by
  cases h <;> simp

/-- A reference writes the text of its group, or itself if there is no such group. -/
theorem performs (h : RefersTo ctx.regex number control) :
    Performs ctx control [Token.groupAction ctx number control] := by
  cases h with
  | digit d isDigit value =>
    have hperforms : Performs ctx _ [(Token.digit d).action ctx] :=
      .of_token (Token.readAll_digit isDigit) rfl
    rw [Token.action, value] at hperforms
    exact hperforms
  | bracketed bracket name closed resolved =>
    obtain ⟨hshort, hgroup⟩ := (resolveGroup_eq_ok_iff ctx.regex name number).mp resolved
    have hfault : (Token.reference bracket name).fault? = none :=
      if_neg fun hlong => hshort ((isOverlong_iff name).mp hlong)
    have hperforms : Performs ctx _ [(Token.reference bracket name).action ctx] :=
      .of_token (Token.readAll_reference closed) hfault
    rw [Token.action, hgroup] at hperforms
    exact hperforms

/-- A reference to a group that is there writes the text of the group. -/
theorem performs_of_captured (h : RefersTo ctx.regex number control) {segment : Text}
    (hcaptured : captureText? number ctx.spans ctx.text = .ok (some segment)) :
    Performs ctx control [.emit segment] := by
  have haction : Token.groupAction ctx number control = .emit segment :=
    Token.groupAction_eq_of_captureText? hcaptured control
  rw [← haction]
  exact h.performs

end RefersTo

/-! ### Decimal forms -/

/-- The numerals for a group number: its decimal form, with leading zeros unless it is zero, and
with no more digits than are read. -/
def DecimalForm (number : Nat) (name : Text) : Prop :=
  ∃ count, name = Text.zeros count ++ Text.ofNat number ∧ (number = 0 → count = 0)
    ∧ name.length ≤ Numeral.digitLimit

namespace DecimalForm

variable {number : Nat} {name : Text}

/-- A decimal form consists of digits. -/
theorem isDigit_of_mem (h : DecimalForm number name) {c : CodePoint} (hc : c ∈ name) :
    c.isDigit = true := by
  obtain ⟨count, rfl, -, -⟩ := h
  rcases List.mem_append.mp hc with hzero | hdigit
  · exact Text.isDigit_of_mem_zeros hzero
  · exact Text.isDigit_of_mem_ofNat hdigit

/-- The value of a decimal form is its number; leading zeros do not count. -/
theorem decimalValue_eq (h : DecimalForm number name) : Text.decimalValue name = number := by
  obtain ⟨count, rfl, -, -⟩ := h
  rw [Text.decimalValue_zeros_append, Text.decimalValue_ofNat]

/-- A decimal form is short enough to be read. -/
theorem not_isOverlong (h : DecimalForm number name) : ¬ IsOverlong name := by
  obtain ⟨count, -, -, hlength⟩ := h
  rintro ⟨-, hlong⟩
  exact Nat.not_lt.mpr hlength hlong

/-- A decimal form is read as a number. -/
theorem isNumeral (h : DecimalForm number name) : Token.isNumeral name = true := by
  have hdigits : name.all CodePoint.isDigit = true := List.all_eq_true.mpr fun _ => h.isDigit_of_mem
  have hvalue := h.decimalValue_eq
  obtain ⟨count, hname, hzero, -⟩ := h
  simp only [Token.isNumeral, hdigits, Bool.true_and, Bool.or_eq_true, decide_eq_true_eq, hvalue]
  by_cases hnumber : number = 0
  · -- Without leading zeros, the form of zero is `0` itself.
    right
    rw [hname, hzero hnumber, hnumber]
    rfl
  · exact .inl hnumber

end DecimalForm

/-- A numeral that is not overlong is the decimal form of its value. -/
theorem decimalForm_of_isNumeral {name : Text} (h : Token.isNumeral name = true)
    (hshort : ¬ IsOverlong name) : DecimalForm (Text.decimalValue name) name := by
  simp only [Token.isNumeral, Bool.and_eq_true, Bool.or_eq_true, decide_eq_true_eq,
    List.all_eq_true] at h
  obtain ⟨hdigits, hvalue⟩ := h
  have hlength : name.length ≤ Numeral.digitLimit :=
    Nat.le_of_not_lt fun hlong => hshort ⟨hdigits, hlong⟩
  rcases hvalue with hvalue | hname
  · -- A value other than zero is written behind some zeros, and the name `0` behind none.
    have hne : name ≠ [] := by rintro rfl; exact hvalue rfl
    obtain ⟨count, hcount⟩ := Text.exists_zeros_append_ofNat hne hdigits
    exact ⟨count, hcount, fun hzero => absurd hzero hvalue, hlength⟩
  · exact ⟨0, by rw [hname]; rfl, fun _ => rfl, hlength⟩

/-- A decimal form is resolved to its number, whatever names the regex knows. -/
theorem resolveGroup_of_decimalForm (regex : RegexView) {number : Nat} {name : Text}
    (h : DecimalForm number name) : resolveGroup regex name = .ok number :=
  (resolveGroup_eq_ok_iff regex name number).mpr ⟨h.not_isOverlong, by
    rw [Token.groupOf, if_pos h.isNumeral, h.decimalValue_eq]⟩

/-- A name that is no decimal form and not overlong is left to the regex. -/
theorem resolveGroup_of_name (regex : RegexView) {name : Text}
    (hother : ∀ number, ¬ DecimalForm number name) (hshort : ¬ IsOverlong name) :
    resolveGroup regex name = .ok (regex.groupNumber name) :=
  (resolveGroup_eq_ok_iff regex name _).mpr ⟨hshort, by
    rw [Token.groupOf, if_neg fun h => hother _ (decimalForm_of_isNumeral h hshort)]⟩

/-! ### Spellings of one reference -/

/-- The spellings of the reference to group `number`: the control of a digit, a decimal form of the
number in brackets, or in brackets a name that is no decimal form and for which the regex answers
the number. A name that consists of more digits than are read is none. -/
inductive SpellsGroup (regex : RegexView) (number : Nat) : Text → Prop
  | digit (single : number ≤ 9) : SpellsGroup regex number (introducer :: Text.ofNat number)
  | numeral (bracket : Bracket) (name : Text) (form : DecimalForm number name) :
    SpellsGroup regex number ([introducer, 'g', bracket.opening] ++ name ++ [bracket.closing])
  | name (bracket : Bracket) (name : Text) (closed : bracket.closing ∉ name)
    (other : ∀ n, ¬ DecimalForm n name) (short : ¬ IsOverlong name)
    (known : regex.groupNumber name = number) :
    SpellsGroup regex number ([introducer, 'g', bracket.opening] ++ name ++ [bracket.closing])

/-- Every spelling is a reference to the group. -/
theorem SpellsGroup.refersTo {regex : RegexView} {number : Nat} {control : Text}
    (h : SpellsGroup regex number control) : RefersTo regex number control := by
  cases h with
  | digit single =>
    have hlt : number < 10 := by omega
    have hvalue : Text.decimalValue [Text.digit number] = number := by
      rw [← Text.ofNat_of_lt hlt, Text.decimalValue_ofNat]
    rw [Text.ofNat_of_lt hlt]
    exact .digit _ (Text.isDigit_digit hlt) (congrArg Nat.cast hvalue)
  | numeral bracket name form =>
    exact .bracketed bracket name
      (bracket.closing_not_mem_of_isDigit fun _ => form.isDigit_of_mem)
      (resolveGroup_of_decimalForm regex form)
  | name bracket name closed other short known =>
    rw [← known]
    exact .bracketed bracket name closed (resolveGroup_of_name regex other short)

/-- The spellings of a reference are equivalent. After a part `p₁` of a template that leaves no
control unfinished, and in front of any `p₂`, the references to a group that has a span may stand
for each other: the build has the same text or the same fault, under every case mode. -/
theorem build_reference_spelling (b : Builder) (ctx : Context) (p₁ p₂ : Text) (before : CaseBuffer)
    (number : Nat) (first second : Text) (hvalid : ctx.regex.isValid = true)
    (hscan : Expansion.initial.scan ctx p₁ = (⟨.literal, before⟩, none))
    (hnumber : number < ctx.spans.length) (hfirst : SpellsGroup ctx.regex number first)
    (hsecond : SpellsGroup ctx.regex number second) :
    (b.build ctx (p₁ ++ first ++ p₂)).1 = (b.build ctx (p₁ ++ second ++ p₂)).1 := by
  have hp₁ := Settled.of_scan hscan
  obtain ⟨segment, hsegment⟩ := exists_captureText?_of_lt hnumber ctx.text
  have hmem : introducer ∈ p₁ ++ first ++ p₂ := by simp [hfirst.refersTo.introducer_mem]
  have hmem' : introducer ∈ p₁ ++ second ++ p₂ := by simp [hsecond.refersTo.introducer_mem]
  -- Both perform the same action: they write the text of the group.
  rw [(hfirst.refersTo.performs_of_captured hsegment).build_eq b hvalid hp₁ hmem,
    (hsecond.refersTo.performs_of_captured hsegment).build_eq b hvalid hp₁ hmem']

/-- The match of `(in) [0-9]+` in `in 2024`, for a regex that knows every row of two or more zeros
as a name of its group. -/
def zerosMatch : Context :=
  ⟨⟨true, fun name => if 2 ≤ name.length ∧ ∀ d ∈ name, d = CodePoint.ofChar '0' then 1 else -1⟩,
    "in 2024", [⟨0, 7⟩, ⟨0, 2⟩]⟩

/-- The regex of `zerosMatch` answers its group for every row of zeros. -/
theorem groupNumber_zeros {count : Nat} (h : 2 ≤ count) :
    zerosMatch.regex.groupNumber (Text.zeros count) = 1 := by
  exact if_pos ⟨by rwa [Text.length_zeros], fun d hd => List.eq_of_mem_replicate hd⟩

/-- A row of zeros with too many digits is overlong, although its value is zero. -/
theorem isOverlong_zeros {count : Nat} (h : 4301 ≤ count) : IsOverlong (Text.zeros count) :=
  ⟨fun _ => Text.isDigit_of_mem_zeros, by rwa [Text.length_zeros]⟩

/-- A row of two or more zeros is no decimal form. -/
theorem not_decimalForm_zeros {count : Nat} (h : 2 ≤ count) (number : Nat) :
    ¬ DecimalForm number (Text.zeros count) := by
  intro hform
  have hvalue := hform.decimalValue_eq
  rw [← List.append_nil (Text.zeros count), Text.decimalValue_zeros_append] at hvalue
  obtain ⟨leading, hname, hzero, -⟩ := hform
  -- The form of zero would be the only candidate, and it is one digit long.
  obtain rfl : number = 0 := hvalue.symm
  obtain rfl : leading = 0 := hzero rfl
  have hlength := congrArg List.length hname
  rw [List.length_append, Text.length_zeros, Text.length_zeros,
    Text.ofNat_of_lt (by decide : 0 < 10), List.length_singleton] at hlength
  omega

/-- The digit, a numeral with leading zeros and the name `00` write the same group, under a change
that still waits and in front of a control that goes wrong. -/
theorem build_reference_spelling_zeros :
    zerosMatch.regex.isValid = true
      ∧ (∃ before, Expansion.initial.scan zerosMatch "a\\u" = (⟨.literal, before⟩, none)
        ∧ before.mode = .upperNext)
      ∧ 1 < zerosMatch.spans.length
      ∧ SpellsGroup zerosMatch.regex 1 "\\1" ∧ SpellsGroup zerosMatch.regex 1 "\\g<0001>"
      ∧ SpellsGroup zerosMatch.regex 1 "\\g\x7b00\x7d"
      ∧ (Builder.fresh.build zerosMatch ("a\\u" ++ "\\1" ++ "\\x4")).1 = .ok ⟨true, "aIn\\x4"⟩
      ∧ (Builder.fresh.build zerosMatch ("a\\u" ++ "\\g<0001>" ++ "\\x4")).1
        = .ok ⟨true, "aIn\\x4"⟩
      ∧ (Builder.fresh.build zerosMatch ("a\\u" ++ "\\g\x7b00\x7d" ++ "\\x4")).1
        = .ok ⟨true, "aIn\\x4"⟩ := by
  have hscan : Expansion.initial.scan zerosMatch "a\\u"
      = (⟨.literal, ⟨.upperNext, #["a"]⟩⟩, none) := rfl
  have hnumber : 1 < zerosMatch.spans.length := by decide
  have hdigit : SpellsGroup zerosMatch.regex 1 "\\1" := .digit (by decide)
  have hnumeral : SpellsGroup zerosMatch.regex 1 "\\g<0001>" :=
    .numeral .angle "0001" ⟨3, rfl, by decide, by decide⟩
  have hname : SpellsGroup zerosMatch.regex 1 "\\g\x7b00\x7d" :=
    .name .brace (Text.zeros 2) (by decide) (not_decimalForm_zeros (Nat.le_refl 2))
      (fun hlong => absurd hlong.2 (by decide)) (groupNumber_zeros (Nat.le_refl 2))
  have hbuild : (Builder.fresh.build zerosMatch ("a\\u" ++ "\\1" ++ "\\x4")).1
      = .ok ⟨true, "aIn\\x4"⟩ := except_eq_ok_of_toOption (by decide +kernel)
  refine ⟨rfl, ⟨_, hscan, rfl⟩, hnumber, hdigit, hnumeral, hname, hbuild, ?_, ?_⟩
  · rw [← hbuild]
    exact build_reference_spelling _ _ _ _ _ 1 _ _ rfl hscan hnumber hnumeral hdigit
  · rw [← hbuild]
    exact build_reference_spelling _ _ _ _ _ 1 _ _ rfl hscan hnumber hname hdigit

/-- The reference to a row of zeros with one digit more than are read. -/
def longReference : Text :=
  [introducer, 'g', Bracket.brace.opening] ++ Text.zeros 4301 ++ [Bracket.brace.closing]

/-- A name is refused although it is no decimal form and the regex answers the number of a group
with a span. The same group is written by the control of its digit. -/
theorem build_overlong_name :
    zerosMatch.regex.isValid = true ∧ 1 < zerosMatch.spans.length
      ∧ Bracket.brace.closing ∉ Text.zeros 4301
      ∧ (∀ n, ¬ DecimalForm n (Text.zeros 4301))
      ∧ zerosMatch.regex.groupNumber (Text.zeros 4301) = 1
      ∧ (Builder.fresh.build zerosMatch "\\1").1 = .ok ⟨true, "in"⟩
      ∧ (Builder.fresh.build zerosMatch longReference).1 = .error (.tooManyDigits 4301) := by
  have hlong : IsOverlong (Text.zeros 4301) := isOverlong_zeros (Nat.le_refl 4301)
  have hclosed : Bracket.brace.closing ∉ Text.zeros 4301 :=
    Bracket.brace.closing_not_mem_of_isDigit hlong.1
  have hread : Token.readAll longReference = [.reference .brace (Text.zeros 4301)] := by
    have hreference := Token.readAll_reference hclosed []
    rw [List.append_nil, Token.readAll_nil] at hreference
    exact hreference
  have hfault : (Token.readAll longReference).findSome? Token.fault?
      = some (.tooManyDigits 4301) := by
    refine (findSome?_fault_iff longReference _).mpr ⟨4301, ?_, rfl⟩
    exact ⟨[], [], .brace, _, hread, by simp, hlong, Text.length_zeros 4301⟩
  exact ⟨rfl, by decide, hclosed, not_decimalForm_zeros (by decide), groupNumber_zeros (by decide),
    except_eq_ok_of_toOption (by decide +kernel),
    (Builder.fresh.build_eq_error_iff rfl longReference _).mpr hfault⟩

end RegexSubst.Template
