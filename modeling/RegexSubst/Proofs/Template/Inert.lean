import RegexSubst.Proofs.Text.Slice
import RegexSubst.Proofs.Template.Reference

/-!
# `RegexSubst.Proofs.Template.Inert`: controls that change nothing

Some controls leave the output and the case mode as they are: a request for a case mode while one is
active, the end of a case mode while none is, and a reference to a group that captured nothing. Such
a control may be put between any two parts of a template. What follows it is written as before, and
a change for the next segment still waits for one that is not empty.

It is a control all the same. A template without a backslash is its own text, and with the control
in it the template is scanned, so that its pairs of surrogates are joined.

* `captureText?_eq_nil_iff`: the groups that captured nothing.
* `Inert` are the controls that change nothing, and `Inert.exists_action` is what they do.
* `build_insert_inert`: a template with such a control and without it.
-/

set_option autoImplicit false

namespace RegexSubst.Template

/-- The references whose group captured nothing: there is a span for the group, and no text in
it. -/
theorem captureText?_eq_nil_iff (number : Int) (spans : List Span) (text : Text) :
    captureText? number spans text = .ok (some []) ↔
      ∃ (index : Nat) (span : Span), number = index ∧ spans[index]? = some span
        ∧ (span.start < 0 ∨ span.stop ≤ span.start ∨ text.length ≤ span.start) := by
  simp only [captureText?_eq_some_iff, Span.slice_eq_nil_iff]

/-- The controls that change nothing while `mode` is active. -/
inductive Inert (ctx : Context) (mode : CaseMode) : Text → Prop
  /-- A request while another mode is active. -/
  | request (letter : CodePoint) (requested : CaseMode) (known : caseMode? letter = some requested)
    (active : mode ≠ .keep) : Inert ctx mode [introducer, letter]
  /-- The end of a mode while none is active. -/
  | endCase (idle : mode = .keep) : Inert ctx mode [introducer, 'E']
  /-- A reference to a group that captured nothing. -/
  | reference (number : Int) (control : Text) (refers : RefersTo ctx.regex number control)
    (captured : captureText? number ctx.spans ctx.text = .ok (some [])) : Inert ctx mode control

/-- The control of a case mode asks for the mode. -/
theorem performs_request (ctx : Context) {letter : CodePoint} {requested : CaseMode}
    (h : caseMode? letter = some requested) :
    Performs ctx [introducer, letter] [.requestCase requested] := by
  obtain ⟨before, after, hsplit, -⟩ := List.lookup_eq_some_iff.mp h
  have hmem : (letter, requested) ∈ caseLetters := by simp [hsplit]
  simp only [caseLetters, List.mem_cons, Prod.mk.injEq, List.not_mem_nil, or_false] at hmem
  rcases hmem with ⟨rfl, rfl⟩ | ⟨rfl, rfl⟩ | ⟨rfl, rfl⟩ | ⟨rfl, rfl⟩
  all_goals exact .of_run rfl

namespace Inert

variable {ctx : Context} {mode : CaseMode} {control : Text}

/-- A control that changes nothing is a control all the same. -/
theorem introducer_mem (h : Inert ctx mode control) : introducer ∈ control := by
  cases h with
  | request letter requested known active => simp
  | endCase idle => simp
  | reference number control refers captured => exact refers.introducer_mem

/-- A control that changes nothing is one action, which writes nothing and leaves the mode. -/
theorem exists_action (h : Inert ctx mode control) :
    ∃ action, Performs ctx control [action] ∧ mode.next action = mode
      ∧ mode.write action = [] := by
  cases h with
  | request letter requested known active =>
    -- A request is dropped while a mode is active.
    have hnext : mode.request requested = mode := by
      cases mode with
      | keep => exact absurd rfl active
      | _ => rfl
    exact ⟨_, performs_request ctx known, hnext, rfl⟩
  | endCase idle => exact ⟨.endCase, .of_run rfl, idle.symm, rfl⟩
  | reference number control refers captured =>
    -- An empty segment is written, and a mode for the next segment passes it over.
    have hnext : mode.after [] = mode := by cases mode <;> rfl
    have hwrite : mode.apply [] = [] := by cases mode <;> rfl
    exact ⟨.emit [], refers.performs_of_captured captured, hnext, hwrite⟩

end Inert

/-- A control that changes nothing may be inserted. After a part `p₁` of a template that leaves no
control unfinished, let `control` be one that changes nothing in the mode that is then active. In
front of any `p₂` it makes no difference to the text or the fault of the build, except for a
template without a backslash, which it causes to be scanned: then the text is the template with its
pairs joined. -/
theorem build_insert_inert (b : Builder) (ctx : Context) (p₁ control p₂ : Text)
    (before : CaseBuffer) (hvalid : ctx.regex.isValid = true)
    (hscan : Expansion.initial.scan ctx p₁ = (⟨.literal, before⟩, none))
    (hinert : Inert ctx before.mode control) :
    (introducer ∈ p₁ ++ p₂ →
        (b.build ctx (p₁ ++ control ++ p₂)).1 = (b.build ctx (p₁ ++ p₂)).1)
      ∧ (introducer ∉ p₁ ++ p₂ →
        (b.build ctx (p₁ ++ control ++ p₂)).1 = .ok ⟨true, Text.join (p₁ ++ p₂)⟩) := by
  have hp₁ := Settled.of_scan hscan
  have hmem : introducer ∈ p₁ ++ control ++ p₂ := by simp [hinert.introducer_mem]
  obtain ⟨action, hperforms, hnext, hwrite⟩ := hinert.exists_action
  have hwritten : before.mode.writeAll [action] = [] := by
    rw [CaseMode.writeAll, hwrite, CaseMode.writeAll, List.append_nil]
  have hmode : before.mode.nextAll [action] = before.mode := hnext
  -- With the control the template is scanned, and writes what its two parts write.
  have hbuild := hperforms.build_eq b hvalid hp₁ hmem
  rw [hwritten, hmode, List.nil_append, ← hp₁.writeAll_append p₂] at hbuild
  rw [hbuild]
  constructor
  · intro hcontrol
    have hwithout := b.build_eq_actions hvalid hcontrol
    rw [hp₁.firstFault?_append] at hwithout
    exact hwithout.symm
  · intro hplain
    -- Nothing else of the template is a control, so its text is written as it stands.
    have hp₂ : introducer ∉ p₂ := fun h => hplain (List.mem_append_right p₁ h)
    rw [firstFault?_of_not_mem hp₂, writeAll_actions_of_not_mem ctx hplain]

/-- A match of a text of seven characters in which only the group of the whole match captured
something. Group 1, which has a name, took no part, the span of group 2 is reversed, that of group 3
has no length, and that of group 4 begins at the end of the text. -/
def hollowMatch : Context :=
  ⟨yearMatch.regex, yearMatch.text, [⟨0, 7⟩, .absent, ⟨5, 3⟩, ⟨2, 2⟩, ⟨7, 9⟩]⟩

/-- Every group of `hollowMatch` but the first one captured nothing. -/
theorem inert_hollow (mode : CaseMode) {number : Nat} (hpos : 0 < number) (hlt : number < 5)
    {control : Text} (h : RefersTo hollowMatch.regex number control) :
    Inert hollowMatch mode control := by
  refine .reference number control h ((captureText?_eq_nil_iff _ _ _).mpr ?_)
  obtain rfl | rfl | rfl | rfl : number = 1 ∨ number = 2 ∨ number = 3 ∨ number = 4 := by omega
  · exact ⟨1, .absent, rfl, rfl, .inl (by decide)⟩
  · exact ⟨2, ⟨5, 3⟩, rfl, rfl, .inr (.inl (by decide))⟩
  · exact ⟨3, ⟨2, 2⟩, rfl, rfl, .inr (.inl (by decide))⟩
  · exact ⟨4, ⟨7, 9⟩, rfl, rfl, .inr (.inr (by decide))⟩

/-- A dropped request and two groups without a text leave the request for a capital letter waiting.
An end that ends nothing causes a template to be scanned, and so its pair to be joined. -/
theorem build_insert_inert_hollow :
    hollowMatch.regex.isValid = true
      ∧ (∃ before, Expansion.initial.scan hollowMatch "a\\u" = (⟨.literal, before⟩, none)
        ∧ before.mode = .upperNext)
      ∧ Inert hollowMatch .upperNext "\\L" ∧ Inert hollowMatch .upperNext "\\g<year>"
      ∧ Inert hollowMatch .upperNext "\\4"
      ∧ (Builder.fresh.build hollowMatch ("a\\u" ++ "\\L" ++ "\\0")).1 = .ok ⟨true, "aIn 2024"⟩
      ∧ (Builder.fresh.build hollowMatch ("a\\u" ++ "\\g<year>" ++ "\\0")).1
        = .ok ⟨true, "aIn 2024"⟩
      ∧ (Builder.fresh.build hollowMatch ("a\\u" ++ "\\4" ++ "\\0")).1 = .ok ⟨true, "aIn 2024"⟩
      ∧ (∃ before, Expansion.initial.scan hollowMatch [Text.highHalf] = (⟨.literal, before⟩, none)
        ∧ before.mode = .keep)
      ∧ Inert hollowMatch .keep "\\E"
      ∧ (Builder.fresh.build hollowMatch ([Text.highHalf] ++ "\\E" ++ [Text.lowHalf])).1
        = .ok ⟨true, "😀"⟩ := by
  have hscan : Expansion.initial.scan hollowMatch "a\\u"
      = (⟨.literal, ⟨.upperNext, #["a"]⟩⟩, none) := rfl
  have hscan' : Expansion.initial.scan hollowMatch [Text.highHalf]
      = (⟨.literal, ⟨.keep, #[[Text.highHalf]]⟩⟩, none) := rfl
  have hrequest : Inert hollowMatch .upperNext "\\L" := .request 'L' .lower rfl (by decide)
  have hname : Inert hollowMatch .upperNext "\\g<year>" :=
    inert_hollow _ (by decide : 0 < 1) (by decide) (.bracketed .angle "year" (by decide) rfl)
  have hdigit : Inert hollowMatch .upperNext "\\4" :=
    inert_hollow _ (by decide : 0 < 4) (by decide) (.digit '4' rfl rfl)
  have hend : Inert hollowMatch .keep "\\E" := .endCase rfl
  have hcontrol : introducer ∈ ("a\\u" : Text) ++ ("\\0" : Text) := by decide
  have hbuild : (Builder.fresh.build hollowMatch ("a\\u" ++ "\\0")).1 = .ok ⟨true, "aIn 2024"⟩ :=
    except_eq_ok_of_toOption (by decide +kernel)
  have hsame {control : Text} (h : Inert hollowMatch .upperNext control) :
      (Builder.fresh.build hollowMatch ("a\\u" ++ control ++ "\\0")).1
        = .ok ⟨true, "aIn 2024"⟩ :=
    ((build_insert_inert _ _ _ control _ _ rfl hscan h).1 hcontrol).trans hbuild
  exact ⟨rfl, ⟨_, hscan, rfl⟩, hrequest, hname, hdigit, hsame hrequest, hsame hname, hsame hdigit,
    ⟨_, hscan', rfl⟩, hend,
    (build_insert_inert _ _ _ "\\E" [Text.lowHalf] _ rfl hscan' hend).2 (by decide)⟩

end RegexSubst.Template
