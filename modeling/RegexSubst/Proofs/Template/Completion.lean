import RegexSubst.Proofs.Template.Decoding
import RegexSubst.Template.Expansion

/-!
# `RegexSubst.Proofs.Template.Completion`: the tokens that the scanner completes

A step of the scanner looks at a match only to work out what a finished control writes. Which
control is finished is known from the template alone.

* `ScanState.complete` reads one code point with no match in view, and `ScanState.completeAll` reads
  a text.
* `ScanState.WellFormed` is what every state holds that is reached from `ScanState.literal`.
* `ScanState.step_eq`: from a well-formed state, a step goes to the state of `complete` and performs
  the token that is completed. The only fault is that of the token.
* `ScanState.raw_complete`: no code point is lost, none is read twice.
* `Expansion.scan_fault` and `Expansion.scan_eq` say the same of a whole scan.
-/

set_option autoImplicit false

namespace RegexSubst.Template

namespace ScanState

/-- Reads one code point with no match in view: the next state, and the token that the code point
completes, if any. -/
def complete (state : ScanState) (c : CodePoint) : ScanState × Option Token :=
  -- The control turns out to be none, `c` included.
  let malformed := (.literal, some (.malformed (state.raw ++ [c])))
  match state with
  | .literal => if c = introducer then (.control [c], none) else (.literal, some (.plain c))
  | .control raw =>
    if c.isDigit then (.literal, some (.digit c))
    else
      match controlCharacter? c with
      | some value => (.literal, some (.character c value))
      | none =>
        if c = 'E' then (.literal, some .endCase)
        else
          match caseMode? c with
          | some mode => (.literal, some (.requestCase c mode))
          | none =>
            if c = 'g' then (.reference (raw ++ [c]), none)
            else if c = 'x' then (.hexPair (raw ++ [c]) [], none)
            else malformed
  | .reference raw =>
    match Bracket.ofOpening? [c] with
    | some bracket => (.named (raw ++ [c]) bracket [], none)
    | none => malformed
  | .named raw bracket name =>
    if c = bracket.closing then (.literal, some (.reference bracket name))
    else (.named (raw ++ [c]) bracket (name ++ [c]), none)
  | .hexPair raw digits =>
    if c = Bracket.brace.opening && digits = [] then (.hexBrace (raw ++ [c]) [], none)
    else if !c.isHexDigit then malformed
    else if digits = [] then (.hexPair (raw ++ [c]) [c], none)
    else (.literal, some (.hexPair (digits ++ [c])))
  | .hexBrace raw digits =>
    if c = Bracket.brace.closing && isBracedHex digits then (.literal, some (.hexBrace digits))
    else if !c.isHexDigit then malformed
    else (.hexBrace (raw ++ [c]) (digits ++ [c]), none)

/-- Reads a text with no match in view: the last state, and the tokens that are completed. -/
def completeAll (state : ScanState) : Text → ScanState × List Token
  | [] => (state, [])
  | c :: rest =>
    let (next, token) := state.complete c
    let (last, tokens) := next.completeAll rest
    (last, token.toList ++ tokens)

/-- What a state keeps in step: all that has been read of the control, and the part of it that is a
name or digits. A name does not hold the bracket that closes it. -/
def WellFormed : ScanState → Prop
  | .literal => True
  | .control raw => raw = [introducer]
  | .reference raw => raw = [introducer, CodePoint.ofChar 'g']
  | .named raw bracket name =>
    raw = [introducer, CodePoint.ofChar 'g', bracket.opening] ++ name ∧ bracket.closing ∉ name
  | .hexPair raw digits =>
    raw = [introducer, CodePoint.ofChar 'x'] ++ digits ∧ digits.length ≤ 1
      ∧ ∀ d ∈ digits, d.isHexDigit = true
  | .hexBrace raw digits =>
    raw = [introducer, CodePoint.ofChar 'x', Bracket.brace.opening] ++ digits
      ∧ ∀ d ∈ digits, d.isHexDigit = true

/-- The state at the start is well-formed. -/
theorem wellFormed_literal : literal.WellFormed := trivial

/-- A code point leads from a well-formed state to a well-formed one. -/
theorem wellFormed_complete {state : ScanState} (h : state.WellFormed) (c : CodePoint) :
    (state.complete c).1.WellFormed := by
  -- A control that ends leads to the literal state, of which nothing is asked.
  cases state with
  | literal => grind [complete, WellFormed]
  | control raw => grind [complete, WellFormed]
  | reference raw => grind [complete, WellFormed, Bracket.opening_of_ofOpening?]
  | named raw bracket name => grind [complete, WellFormed]
  | hexPair raw digits => grind [complete, WellFormed]
  | hexBrace raw digits => grind [complete, WellFormed]

/-- The token that a code point completes and what is then pending are written as what was pending
and the code point. -/
theorem raw_complete {state : ScanState} (h : state.WellFormed) (c : CodePoint) :
    (state.complete c).2.toList.flatMap Token.source ++ (state.complete c).1.raw
      = state.raw ++ [c] := by
  -- A token has a source of its own only if it is no malformed control. There the well-formed state
  -- says that what has been kept is the source.
  cases state with
  | literal => grind [complete, WellFormed, raw, Token.source]
  | control raw => grind [complete, WellFormed, ScanState.raw, Token.source]
  | reference raw => grind [complete, WellFormed, ScanState.raw, Token.source]
  | named raw bracket name => grind [complete, WellFormed, ScanState.raw, Token.source]
  | hexPair raw digits => grind [complete, WellFormed, ScanState.raw, Token.source]
  | hexBrace raw digits => grind [complete, WellFormed, ScanState.raw, Token.source]

/-- A code point that completes a token ends the control. -/
theorem complete_fst_of_token {state next : ScanState} {c : CodePoint} {token : Token}
    (h : state.complete c = (next, some token)) : next = .literal := by
  -- Only the literal state comes with a token, in each branch of `complete`.
  cases state <;> grind [complete]

/-! ### A step performs the token that is completed -/

/-- The transition of a match that goes with what is known without one. -/
def Transition.answer (ctx : Context) : ScanState × Option Token → Transition
  | (next, none) => .ok (next, none)
  | (next, some token) =>
    match token.fault? with
    | some fault => .error fault
    | none => .ok (next, some (token.action ctx))

open Transition

/-- The code point behind the backslash: both functions try the same kinds of controls in the same
order. -/
theorem classify_eq (ctx : Context) (c : CodePoint) :
    classify ctx c [introducer, c] = answer ctx ((control [introducer]).complete c) := by
  unfold classify complete
  rw [isAsciiDigit_singleton]
  by_cases hdigit : c.isDigit = true
  · -- The digit is read as a number, which cannot fail.
    simp only [if_pos hdigit, readNumber_digit hdigit, except_bind_ok, capture_eq]
    rfl
  · simp only [if_neg hdigit]
    cases controlCharacter? c with
    | some value => rfl
    | none =>
      by_cases hend : c = CodePoint.ofChar 'E'
      · simp only [if_pos hend]; rfl
      · simp only [if_neg hend]
        cases caseMode? c with
        | some mode => rfl
        | none =>
          by_cases hg : c = CodePoint.ofChar 'g'
          · simp only [if_pos hg]; rfl
          · by_cases hx : c = CodePoint.ofChar 'x'
            · simp only [if_neg hg, if_pos hx]; rfl
            · simp only [if_neg hg, if_neg hx]; rfl

/-- The code point behind `\g` opens a name if it is a bracket. -/
theorem openReference_eq (ctx : Context) (raw : Text) (c : CodePoint) :
    openReference c (raw ++ [c]) = answer ctx ((reference raw).complete c) := by
  unfold openReference complete
  cases hopen : Bracket.ofOpening? [c] with
  | some bracket =>
    -- The character is an opening bracket, so the look-up behind the test finds it.
    have hc : c = bracket.opening := by simpa using Bracket.opening_of_ofOpening? hopen
    have htest : (c = Bracket.brace.opening || c = Bracket.angle.opening) = true := by
      cases bracket <;> simp [hc]
    simp only [if_pos htest, Bracket.ofOpening, hopen, except_bind_ok]
    rfl
  | none =>
    have htest : ¬ (c = Bracket.brace.opening || c = Bracket.angle.opening) = true := by
      intro h
      simp only [Bool.or_eq_true, decide_eq_true_eq] at h
      rcases h with rfl | rfl
      · rw [Bracket.ofOpening?_opening] at hopen; cases hopen
      · rw [Bracket.ofOpening?_opening] at hopen; cases hopen
    simp only [if_neg htest]
    rfl

/-- A name goes on to its closing bracket, where it is resolved. Only there a fault is possible. -/
theorem continueReference_eq (ctx : Context) {raw : Text} {bracket : Bracket} {name : Text}
    (hraw : raw = [introducer, CodePoint.ofChar 'g', bracket.opening] ++ name) (c : CodePoint) :
    continueReference ctx bracket name c (raw ++ [c])
      = answer ctx ((named raw bracket name).complete c) := by
  unfold continueReference complete
  by_cases hclose : c = bracket.closing
  · simp only [if_pos hclose, resolveGroup_eq, answer, Token.fault?]
    cases Token.isOverlong name with
    | true => rfl
    -- The name is short enough, so it has a number, which may be out of range.
    | false =>
      simp only [Bool.false_eq_true, if_false, except_bind_ok, capture_eq, hraw, hclose]
      rfl
  · simp only [if_neg hclose]
    rfl

/-- Behind `\x` come a brace or two hex digits, which are always decoded. -/
theorem continueHexPair_eq (ctx : Context) {raw digits : Text} (hlen : digits.length ≤ 1)
    (hhex : ∀ d ∈ digits, d.isHexDigit = true) (c : CodePoint) :
    continueHexPair digits c (raw ++ [c]) = answer ctx ((hexPair raw digits).complete c) := by
  unfold continueHexPair complete
  rw [isHexDigit_singleton]
  by_cases hbrace : (c = Bracket.brace.opening && digits = []) = true
  · simp only [if_pos hbrace]
    rfl
  · simp only [if_neg hbrace]
    by_cases hc : c.isHexDigit = true
    · have hc' : ¬ (!c.isHexDigit) = true := by simp [hc]
      simp only [if_neg hc']
      by_cases hempty : digits = []
      · subst hempty
        rfl
      · -- The second digit: the pair is decoded.
        have hpair : (digits ++ [c]).length = 2 := by
          have := List.length_pos_iff.mpr hempty
          simp only [List.length_append, List.length_singleton]
          omega
        have hlong : ¬ (digits ++ [c]).length < 2 := by omega
        obtain ⟨value, hvalue, hdecode⟩ := decodePair_of_hex hpair (by
          intro d hd
          rcases List.mem_append.mp hd with hd | hd
          · exact hhex d hd
          · rw [List.mem_singleton.mp hd]; exact hc)
        simp only [if_neg hempty, if_neg hlong, hdecode, except_bind_ok, answer, Token.fault?,
          Token.action, hvalue]
        rfl
    · have hc' : (!c.isHexDigit) = true := by simp [hc]
      simp only [if_pos hc']
      rfl

/-- Hex digits in braces go on to the closing brace, and are decoded if they pass the test. -/
theorem continueHexBrace_eq (ctx : Context) (raw digits : Text) (c : CodePoint) :
    continueHexBrace digits c (raw ++ [c]) = answer ctx ((hexBrace raw digits).complete c) := by
  unfold continueHexBrace complete
  rw [isHexDigit_singleton]
  by_cases hclose : (c = Bracket.brace.closing && isBracedHex digits) = true
  · -- The test is made in front of the decoding, so it does not fail there.
    have hdigits : isBracedHex digits = true := by
      simp only [Bool.and_eq_true] at hclose
      exact hclose.2
    obtain ⟨value, hvalue, hdecode⟩ := decodeBraced_of_isBracedHex hdigits
    simp only [if_pos hclose, hdecode, except_bind_ok, answer, Token.fault?, Token.action, hvalue]
    rfl
  · simp only [if_neg hclose]
    by_cases hc : (!c.isHexDigit) = true
    · simp only [if_pos hc]; rfl
    · simp only [if_neg hc]; rfl

/-- From a well-formed state, a step performs the token that is completed, if there is one. The only
fault is that of the token. -/
theorem step_eq (ctx : Context) {state : ScanState} (h : state.WellFormed) (c : CodePoint) :
    state.step ctx c = answer ctx (state.complete c) := by
  cases state with
  | literal =>
    unfold step complete
    by_cases hc : c = introducer
    · simp only [if_pos hc]; rfl
    · simp only [if_neg hc]; rfl
  | control raw =>
    have hraw : raw = [introducer] := h
    subst hraw
    exact classify_eq ctx c
  | reference raw => exact openReference_eq ctx raw c
  | named raw bracket name => exact continueReference_eq ctx h.1 c
  | hexPair raw digits => exact continueHexPair_eq ctx h.2.1 h.2.2 c
  | hexBrace raw digits => exact continueHexBrace_eq ctx raw digits c

/-! ### Reading a text -/

/-- A text leads from a well-formed state to a well-formed one. -/
theorem wellFormed_completeAll {state : ScanState} (h : state.WellFormed) (t : Text) :
    (state.completeAll t).1.WellFormed := by
  induction t generalizing state with
  | nil => exact h
  | cons c rest ih => exact ih (wellFormed_complete h c)

/-- A text is read in parts. -/
theorem completeAll_append (state : ScanState) (s t : Text) :
    state.completeAll (s ++ t) =
      (((state.completeAll s).1.completeAll t).1,
        (state.completeAll s).2 ++ ((state.completeAll s).1.completeAll t).2) := by
  induction s generalizing state with
  | nil => rfl
  | cons c rest ih => simp only [List.cons_append, completeAll, ih, List.append_assoc]

/-- No code point is lost, repeated or given to two tokens: what was pending and the text are the
completed tokens and what is pending then. -/
theorem raw_completeAll {state : ScanState} (h : state.WellFormed) (t : Text) :
    (state.completeAll t).2.flatMap Token.source ++ (state.completeAll t).1.raw
      = state.raw ++ t := by
  -- By induction on the text; each step keeps what was pending and adds one code point.
  induction t generalizing state with
  | nil => simp [completeAll]
  | cons c rest ih =>
    have hfirst := raw_complete h c
    have hrest := ih (wellFormed_complete h c)
    simp only [completeAll, List.flatMap_append, List.append_assoc, hrest]
    rw [← List.append_assoc, hfirst, List.append_assoc, List.singleton_append]

end ScanState

/-- Tokens in two parts are performed one part after the other. -/
theorem CaseBuffer.performTokens_append (ctx : Context) (b : CaseBuffer) (s t : List Token) :
    b.performTokens ctx (s ++ t) = (b.performTokens ctx s).performTokens ctx t :=
  List.foldl_append

namespace Expansion

variable {ctx : Context} {e : Expansion}

/-- One code point of an expansion: a fault of the token that is completed, or its action. -/
theorem advance_eq (h : e.state.WellFormed) (c : CodePoint) :
    e.advance ctx c =
      match (e.state.complete c).2.bind Token.fault? with
      | some fault => .error fault
      | none =>
        .ok ⟨(e.state.complete c).1,
          e.output.performTokens ctx (e.state.complete c).2.toList⟩ := by
  unfold advance
  rw [ScanState.step_eq ctx h]
  cases hcomplete : e.state.complete c with
  | mk next token =>
    cases token with
    | none => rfl
    | some token =>
      simp only [ScanState.Transition.answer, Option.bind_some]
      cases token.fault? with
      | none => rfl
      | some fault => rfl

/-- A scan ends with the first fault of a completed token. -/
theorem scan_fault (h : e.state.WellFormed) (t : Text) :
    (e.scan ctx t).2 = (e.state.completeAll t).2.findSome? Token.fault? := by
  -- By induction on the text, for every expansion; the state stays well-formed.
  induction t generalizing e with
  | nil => rfl
  | cons c rest ih =>
    have hnext := ScanState.wellFormed_complete h c
    simp only [scan, ScanState.completeAll, List.findSome?_append]
    rw [advance_eq h]
    -- Without a fault the rest decides; a fault of the first token comes before all others.
    cases htoken : (e.state.complete c).2 with
    | none => simpa [htoken] using ih (e := ⟨_, _⟩) hnext
    | some token =>
      cases hfault : token.fault? with
      | none => simpa [htoken, hfault] using ih (e := ⟨_, _⟩) hnext
      | some fault => simp [hfault]

/-- A scan without a fault ends in the state of `completeAll`, and has performed the completed
tokens in order. -/
theorem scan_eq (h : e.state.WellFormed) {t : Text} (hok : (e.scan ctx t).2 = none) :
    (e.scan ctx t).1 =
      ⟨(e.state.completeAll t).1, e.output.performTokens ctx (e.state.completeAll t).2⟩ := by
  induction t generalizing e with
  | nil => rfl
  | cons c rest ih =>
    have hnext := ScanState.wellFormed_complete h c
    simp only [scan, ScanState.completeAll, CaseBuffer.performTokens_append] at hok ⊢
    rw [advance_eq h] at hok ⊢
    -- A fault here would be the fault of the scan.
    cases hfault : (e.state.complete c).2.bind Token.fault? with
    | some fault => simp [hfault] at hok
    | none =>
      simp only [hfault] at hok ⊢
      exact ih (e := ⟨_, _⟩) hnext hok

/-- What a scan from the start reaches without a fault. -/
theorem eq_of_scan_initial {read : Text} (hscan : initial.scan ctx read = (e, none)) :
    e = ⟨(ScanState.literal.completeAll read).1,
      CaseBuffer.empty.performTokens ctx (ScanState.literal.completeAll read).2⟩ := by
  have hok : (initial.scan ctx read).2 = none := by rw [hscan]
  have he := scan_eq (e := initial) ScanState.wellFormed_literal hok
  rw [hscan] at he
  exact he

/-- A scan from the start only reaches well-formed states. -/
theorem wellFormed_of_scan_initial {read : Text} (hscan : initial.scan ctx read = (e, none)) :
    e.state.WellFormed := by
  rw [eq_of_scan_initial hscan]
  exact ScanState.wellFormed_completeAll ScanState.wellFormed_literal read

end Expansion

end RegexSubst.Template
