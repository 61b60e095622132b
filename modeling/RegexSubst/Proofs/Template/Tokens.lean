import RegexSubst.Proofs.Template.Completion
import RegexSubst.Template.Grammar

/-!
# `RegexSubst.Proofs.Template.Tokens`: the scanner and the grammar find the same tokens

`Token.readAll` reads a template with as much of it in view as a token needs. The scanner sees one
code point at a time and carries what it has seen in its state. Every state that is in the middle of
a control therefore stands for a token of the grammar that has been read in part.

* `ScanState.tokens` are the tokens that the scanner finds from a state, the unfinished control
  included.
* `ScanState.tokens_named`, `tokens_hexBrace`, `tokens_hexPair`, `tokens_reference` and
  `tokens_control` say what each state is in the middle of.
* `ScanState.tokens_literal`: from the start, they are the tokens of the grammar.
* `Token.readAll_append`: a template can be cut where no control is unfinished.
-/

set_option autoImplicit false

namespace RegexSubst.Template

namespace ScanState

/-- The token that an unfinished control becomes at the end of a template. -/
def unfinished (state : ScanState) : List Token :=
  if state = .literal then [] else [.malformed state.raw]

/-- The tokens that are found from a state on, the unfinished control included. -/
def tokens (state : ScanState) (t : Text) : List Token :=
  (state.completeAll t).2 ++ (state.completeAll t).1.unfinished

/-- At the end of a text only the unfinished control is left. -/
@[simp]
theorem tokens_nil (state : ScanState) : state.tokens [] = state.unfinished := rfl

/-- The first code point completes a token or none, and the others are read from the state that it
leads to. -/
theorem tokens_cons (state : ScanState) (c : CodePoint) (rest : Text) :
    state.tokens (c :: rest)
      = (state.complete c).2.toList ++ (state.complete c).1.tokens rest := by
  simp [tokens, completeAll]

/-- A name in brackets runs to the first bracket that closes it. -/
theorem tokens_named (raw : Text) (bracket : Bracket) (name rest : Text) :
    (named raw bracket name).tokens rest =
      match rest.dropWhile (· ≠ bracket.closing) with
      | _ :: after =>
        .reference bracket (name ++ rest.takeWhile (· ≠ bracket.closing)) :: literal.tokens after
      | [] => [.malformed (raw ++ rest)] := by
  -- By induction on the text that is left, for every part of the name that has been read.
  induction rest generalizing raw name with
  | nil => simp [unfinished, ScanState.raw]
  | cons c rest ih =>
    rw [tokens_cons]
    by_cases hc : c = bracket.closing
    · simp [complete, hc]
    · simp [complete, hc, ih]

/-- The digits in braces are all the hex digits that follow. -/
theorem tokens_hexBrace (raw digits rest : Text) :
    (hexBrace raw digits).tokens rest =
      match rest.dropWhile CodePoint.isHexDigit with
      | [] => [.malformed (raw ++ rest)]
      | c :: after =>
        (if c = Bracket.brace.closing && isBracedHex (digits ++ rest.takeWhile CodePoint.isHexDigit)
          then .hexBrace (digits ++ rest.takeWhile CodePoint.isHexDigit)
          else .malformed (raw ++ rest.takeWhile CodePoint.isHexDigit ++ [c]))
            :: literal.tokens after := by
  induction rest generalizing raw digits with
  | nil => simp [unfinished, ScanState.raw]
  | cons c rest ih =>
    rw [tokens_cons]
    by_cases hhex : c.isHexDigit = true
    · -- A digit is not the closing brace.
      have hc : c ≠ Bracket.brace.closing := CodePoint.ne_of_isHexDigit hhex rfl
      simp [complete, hc, hhex, ih]
    · -- The digits end here. A closing brace is malformed if they may not stand in braces.
      by_cases hclose : (c = Bracket.brace.closing && isBracedHex digits) = true
      · simp [complete, hhex, hclose]
      · simp [complete, hhex, hclose, ScanState.raw]

/-- After the opening brace of a hex escape, the grammar looks for the end of the digits. -/
theorem tokens_hexBrace_nil (rest : Text) :
    (hexBrace [introducer, CodePoint.ofChar 'x', Bracket.brace.opening] []).tokens rest =
      (Token.readHexBrace rest).1 :: literal.tokens (Token.readHexBrace rest).2 := by
  have hsplit := List.takeWhile_append_dropWhile (p := CodePoint.isHexDigit) (l := rest)
  rw [tokens_hexBrace]
  simp only [Token.readHexBrace, List.nil_append]
  cases hrest : rest.dropWhile CodePoint.isHexDigit with
  | nil =>
    -- Without a closing brace, all that is left are digits.
    rw [hrest, List.append_nil] at hsplit
    simp [hsplit, unfinished]
  | cons c after => simp only; split <;> rfl

/-- After its letter, a hex escape is a brace or two digits. -/
theorem tokens_hexPair (rest : Text) :
    (hexPair [introducer, CodePoint.ofChar 'x'] []).tokens rest =
      (Token.readHex rest).1 :: literal.tokens (Token.readHex rest).2 := by
  cases rest with
  | nil => rfl
  | cons c rest =>
    rw [tokens_cons]
    unfold Token.readHex
    by_cases hbrace : c = Bracket.brace.opening
    · subst hbrace
      exact tokens_hexBrace_nil rest
    · by_cases hhex : c.isHexDigit = true
      · -- The first digit is there, and the second one decides.
        simp only [complete, hbrace, hhex, decide_false, Bool.false_and, Bool.not_true,
          Bool.false_eq_true, if_false, if_true, Option.toList_none, List.nil_append]
        cases rest with
        | nil => rfl
        | cons d after =>
          rw [tokens_cons]
          by_cases hd : d.isHexDigit = true
          · simp [complete, hd]
          · simp [complete, hd, ScanState.raw]
      · simp [complete, hbrace, hhex, ScanState.raw]

/-- After its letter, a reference has a bracket and a name. -/
theorem tokens_reference (rest : Text) :
    (reference [introducer, CodePoint.ofChar 'g']).tokens rest =
      (Token.readReference rest).1 :: literal.tokens (Token.readReference rest).2 := by
  cases rest with
  | nil => rfl
  | cons c rest =>
    rw [tokens_cons]
    unfold Token.readReference
    cases hopen : Bracket.ofOpening? [c] with
    | none => simp [complete, hopen, ScanState.raw]
    | some bracket =>
      have hc : c = bracket.opening := by simpa using Bracket.opening_of_ofOpening? hopen
      simp only [complete, hopen, Option.toList_none, List.nil_append, tokens_named,
        Token.readName]
      cases rest.dropWhile (· ≠ bracket.closing) with
      | nil => simp [hc, unfinished]
      | cons d after => rfl

/-- After its backslash, a control is known by its letter. -/
theorem tokens_control (rest : Text) :
    (control [introducer]).tokens rest =
      (Token.readControl rest).1 :: literal.tokens (Token.readControl rest).2 := by
  cases rest with
  | nil => rfl
  | cons c rest =>
    rw [tokens_cons]
    unfold Token.readControl complete
    by_cases hdigit : c.isDigit = true
    · simp only [if_pos hdigit]; rfl
    · simp only [if_neg hdigit]
      cases controlCharacter? c with
      | some value => rfl
      | none =>
        by_cases hend : c = CodePoint.ofChar 'E'
        · -- The letter of the end of a case change asks for no mode.
          subst hend
          rfl
        · simp only [if_neg hend]
          cases caseMode? c with
          | some mode => rfl
          | none =>
            by_cases hg : c = CodePoint.ofChar 'g'
            · subst hg
              exact tokens_reference rest
            · by_cases hx : c = CodePoint.ofChar 'x'
              · subst hx
                exact tokens_hexPair rest
              · -- All other letters are no controls.
                simp only [if_neg hg, if_neg hx]; rfl

/-- From the start, the scanner finds the tokens of the grammar. -/
theorem tokens_literal (t : Text) : literal.tokens t = Token.readAll t := by
  -- By induction on the tokens, not on the code points: between two tokens both sides start anew.
  induction t using Token.readAll.induct with
  | case1 => rw [Token.readAll]; rfl
  | case2 c rest ih =>
    rw [Token.readAll, tokens_cons, ← ih]
    unfold Token.read
    by_cases hc : c = introducer
    · subst hc
      exact tokens_control rest
    · simp [complete, hc]

/-- A part of a text that leaves no control unfinished has all its tokens in front of those of the
rest. -/
theorem tokens_append {s : Text} (h : (literal.completeAll s).1 = .literal) (t : Text) :
    literal.tokens (s ++ t) = (literal.completeAll s).2 ++ literal.tokens t := by
  simp only [tokens, completeAll_append, h, List.append_assoc]

end ScanState

namespace Token

/-- The empty template has no tokens. -/
@[simp]
theorem readAll_nil : readAll [] = [] := by
  rw [readAll]

/-- The tokens of a template that leaves no control unfinished are those that are completed. -/
theorem readAll_of_completeAll {s : Text} (h : (ScanState.literal.completeAll s).1 = .literal) :
    readAll s = (ScanState.literal.completeAll s).2 := by
  simp [← ScanState.tokens_literal, ScanState.tokens, h, ScanState.unfinished]

/-- Between two controls a template can be cut. -/
theorem readAll_append {s : Text} (h : (ScanState.literal.completeAll s).1 = .literal) (t : Text) :
    readAll (s ++ t) = readAll s ++ readAll t := by
  rw [← ScanState.tokens_literal, ScanState.tokens_append h, readAll_of_completeAll h,
    ScanState.tokens_literal]

end Token

end RegexSubst.Template
