import RegexSubst.Proofs.Template.Replacement

/-!
# `RegexSubst.Proofs.Template.Faults`: when a build fails

A malformed control is written as it is, so a template is almost never refused. One fault is left: a
group number with more digits than are read. It depends on the template alone.

* `IsOverlong` names and `FirstOverlong` references of a template are the cause.
* `build_fault_iff`: a build fails with the fault of the first overlong reference and with no other,
  and a step of the scanner from a state that a scan has reached fails only where it closes one. So
  the decoders never refuse what the scanner hands them.
-/

set_option autoImplicit false

namespace RegexSubst.Template

/-- A name that is a numeral with too many digits, leading zeros counted. -/
def IsOverlong (name : Text) : Prop :=
  (∀ d ∈ name, d.isDigit = true) ∧ 4301 ≤ name.length

/-- The first reference of `template` with an overlong name, of `digits` digits. -/
def FirstOverlong (template : Text) (digits : Nat) : Prop :=
  ∃ (before after : List Token) (bracket : Bracket) (name : Text),
    Token.readAll template = before ++ .reference bracket name :: after
      ∧ (∀ b n, Token.reference b n ∈ before → ¬ IsOverlong n)
      ∧ IsOverlong name ∧ name.length = digits

/-- The test for an overlong name is exact. -/
theorem isOverlong_iff (name : Text) : Token.isOverlong name = true ↔ IsOverlong name := by
  simp only [Token.isOverlong, IsOverlong, Bool.and_eq_true, List.all_eq_true, decide_eq_true_eq]
  exact Iff.rfl

/-- The fault of a token: it is a reference with an overlong name. -/
theorem Token.fault?_eq_some_iff (token : Token) (fault : Fault) :
    token.fault? = some fault ↔
      ∃ bracket name, token = .reference bracket name ∧ IsOverlong name
        ∧ fault = .tooManyDigits name.length := by
  cases token with
  | reference bracket name =>
    constructor
    · intro h
      by_cases hlong : isOverlong name = true
      · have hfault : some (Fault.tooManyDigits name.length) = some fault := by
          simpa [fault?, hlong] using h
        exact ⟨bracket, name, rfl, (isOverlong_iff name).mp hlong, (Option.some.inj hfault).symm⟩
      · simp [fault?, hlong] at h
    · rintro ⟨b, n, htoken, hlong, rfl⟩
      cases htoken
      exact if_pos ((isOverlong_iff name).mpr hlong)
  | _ => simp [fault?]

/-- The first fault of the tokens of a template is that of its first overlong reference. -/
theorem findSome?_fault_iff (template : Text) (fault : Fault) :
    (Token.readAll template).findSome? Token.fault? = some fault ↔
      ∃ digits, FirstOverlong template digits ∧ fault = .tooManyDigits digits := by
  -- The references in front of the first fault are those that are not overlong.
  have hnone (token : Token) :
      token.fault? = none ↔ ∀ b n, token = .reference b n → ¬ IsOverlong n := by
    rw [Option.eq_none_iff_forall_ne_some]
    constructor
    · intro h b n htoken hlong
      exact h _ ((token.fault?_eq_some_iff _).mpr ⟨b, n, htoken, hlong, rfl⟩)
    · intro h f hf
      obtain ⟨b, n, htoken, hlong, -⟩ := (token.fault?_eq_some_iff f).mp hf
      exact h b n htoken hlong
  rw [List.findSome?_eq_some_iff]
  constructor
  · rintro ⟨before, token, after, hsplit, hfault, hbefore⟩
    obtain ⟨bracket, name, rfl, hlong, rfl⟩ := (token.fault?_eq_some_iff fault).mp hfault
    refine ⟨_, ⟨before, after, bracket, name, hsplit, ?_, hlong, rfl⟩, rfl⟩
    intro b n hmem
    exact (hnone _).mp (hbefore _ hmem) b n rfl
  · rintro ⟨_, ⟨before, after, bracket, name, hsplit, hbefore, hlong, rfl⟩, rfl⟩
    refine ⟨before, _, after, hsplit, ?_, ?_⟩
    · exact (Token.fault?_eq_some_iff _ _).mpr ⟨bracket, name, rfl, hlong, rfl⟩
    · rintro token hmem
      refine (hnone token).mpr fun b n htoken => hbefore b n (htoken ▸ hmem)

/-- A reference is completed by the closing bracket of its name. -/
theorem ScanState.complete_eq_reference_iff (state : ScanState) (c : CodePoint) (bracket : Bracket)
    (name : Text) :
    (state.complete c).2 = some (.reference bracket name) ↔
      ∃ raw, state = .named raw bracket name ∧ c = bracket.closing := by
  cases state <;> grind [complete]

/-- A step fails only where it closes an overlong reference. -/
theorem Expansion.advance_fault_iff {ctx : Context} {e : Expansion} (h : e.state.WellFormed)
    (c : CodePoint) (fault : Fault) :
    e.advance ctx c = .error fault ↔
      ∃ raw bracket name, e.state = .named raw bracket name ∧ c = bracket.closing
        ∧ IsOverlong name ∧ fault = .tooManyDigits name.length := by
  have hstep : e.advance ctx c = .error fault ↔
      (e.state.complete c).2.bind Token.fault? = some fault := by
    rw [advance_eq h]
    cases (e.state.complete c).2.bind Token.fault? with
    | none => simp
    | some f => simp
  rw [hstep, Option.bind_eq_some_iff]
  constructor
  · rintro ⟨token, htoken, hfault⟩
    obtain ⟨bracket, name, rfl, hlong, rfl⟩ := (token.fault?_eq_some_iff fault).mp hfault
    obtain ⟨raw, hstate, hc⟩ := (e.state.complete_eq_reference_iff c bracket name).mp htoken
    exact ⟨raw, bracket, name, hstate, hc, hlong, rfl⟩
  · rintro ⟨raw, bracket, name, hstate, hc, hlong, rfl⟩
    refine ⟨.reference bracket name, ?_, ?_⟩
    · exact (e.state.complete_eq_reference_iff c bracket name).mpr ⟨raw, hstate, hc⟩
    · exact (Token.fault?_eq_some_iff _ _).mpr ⟨bracket, name, rfl, hlong, rfl⟩

/-- A reference to group zero with 4301 digits, and a control that is not finished. -/
def zerosTemplate : Text :=
  (Token.reference .angle (List.replicate 4301 (CodePoint.ofChar '0'))).source ++ "\\x4"

/-- The reference of `zerosTemplate` is overlong, although its value is zero. -/
theorem firstOverlong_zeros : FirstOverlong zerosTemplate 4301 := by
  have hname : Bracket.angle.closing ∉ List.replicate 4301 (CodePoint.ofChar '0') := fun h =>
    absurd (List.eq_of_mem_replicate h) (by decide)
  refine ⟨[], _, .angle, _, Token.readAll_reference hname _, by simp, ⟨?_, ?_⟩, ?_⟩
  · intro d hd
    rw [List.eq_of_mem_replicate hd]
    rfl
  · exact Nat.le_of_eq List.length_replicate.symm
  · exact List.length_replicate

/-- A match of a regex that cannot be used. -/
def unusableMatch : Context := ⟨⟨false, fun _ => -1⟩, [], []⟩

/-- When a build fails, and with what. A regex that cannot be used is no fault, whatever the
template is. For every other regex a build fails exactly if the template has an overlong reference,
with the number of digits of the first one, and otherwise there is a replacement text. After every
part of a template that has been read, the next code point is refused only if it closes an overlong
name: no bracket, pair of hex digits, digits in braces, code point, digit or span is ever
refused. -/
theorem build_fault_iff (b : Builder) (ctx : Context) (template : Text) :
    (ctx.regex.isValid = false → (b.build ctx template).1 = .ok ⟨false, []⟩)
      ∧ (ctx.regex.isValid = true →
        (∀ fault, (b.build ctx template).1 = .error fault ↔
          ∃ digits, FirstOverlong template digits ∧ fault = .tooManyDigits digits)
        ∧ ((¬ ∃ digits, FirstOverlong template digits) →
          ∃ text, (b.build ctx template).1 = .ok ⟨true, text⟩))
      ∧ ∀ read e, Expansion.initial.scan ctx read = (e, none) →
        ∀ c fault, e.advance ctx c = .error fault ↔
          ∃ raw bracket name, e.state = .named raw bracket name ∧ c = bracket.closing
            ∧ IsOverlong name ∧ fault = .tooManyDigits name.length := by
  refine ⟨fun hvalid => b.build_of_not_valid hvalid template, fun hvalid => ⟨?_, ?_⟩, ?_⟩
  · intro fault
    rw [b.build_eq_error_iff hvalid, findSome?_fault_iff]
  · intro hnone
    have hfault : (Token.readAll template).findSome? Token.fault? = none := by
      rw [Option.eq_none_iff_forall_ne_some]
      intro f hf
      obtain ⟨digits, hfirst, -⟩ := (findSome?_fault_iff template f).mp hf
      exact hnone ⟨digits, hfirst⟩
    -- Without a fault there is a text, with a backslash in the template or without.
    rw [b.build_eq hvalid, hfault]
    exact ⟨_, rfl⟩
  · intro read e hscan c fault
    exact Expansion.advance_fault_iff (Expansion.wellFormed_of_scan_initial hscan) c fault

/-- The overlong reference is refused before the unfinished control is reached, and not at all if
the regex cannot be used. -/
theorem build_fault_iff_zeros :
    yearMatch.regex.isValid = true ∧ FirstOverlong zerosTemplate 4301
      ∧ (Builder.fresh.build yearMatch zerosTemplate).1 = .error (.tooManyDigits 4301)
      ∧ unusableMatch.regex.isValid = false
      ∧ (Builder.fresh.build unusableMatch zerosTemplate).1 = .ok ⟨false, []⟩ := by
  have hbuild := (build_fault_iff Builder.fresh yearMatch zerosTemplate).2.1 rfl
  exact ⟨rfl, firstOverlong_zeros, (hbuild.1 _).mpr ⟨4301, firstOverlong_zeros, rfl⟩, rfl,
    (build_fault_iff Builder.fresh unusableMatch zerosTemplate).1 rfl⟩

end RegexSubst.Template
