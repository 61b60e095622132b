import RegexSubst.Template.Token

/-!
# `RegexSubst.Template.Grammar`: templates as sequences of whole tokens

The grammar of templates, read token by token with as much of the template in view as a token needs:

* a character other than the backslash is a token;
* a backslash with a digit, with the letter of a control character, or with a letter for cases is
  one;
* a reference runs from its bracket to the first bracket that closes it;
* a hex escape has two hex digits, or braces around all the hex digits that follow if these can
  stand in braces;
* what begins like a reference or an escape but goes wrong is malformed up to and including the
  character that does not fit, or up to the end of the template.

`Token.readAll` cuts a template into its tokens, and `textByTokens` is the text that they write. The
scanner finds the same tokens one code point at a time (`ScanState.step`).
-/

set_option autoImplicit false

namespace RegexSubst.Template

namespace Token

/-- Reads a reference after its opening bracket. -/
def readName (bracket : Bracket) (rest : Text) : Token × Text :=
  match rest.dropWhile (· ≠ bracket.closing) with
  | _ :: after => (.reference bracket (rest.takeWhile (· ≠ bracket.closing)), after)
  | [] => (.malformed ([introducer, 'g', bracket.opening] ++ rest), [])

/-- Reads a reference after its letter. -/
def readReference : Text → Token × Text
  | [] => (.malformed [introducer, 'g'], [])
  | c :: rest =>
    match Bracket.ofOpening? [c] with
    | some bracket => readName bracket rest
    | none => (.malformed [introducer, 'g', c], rest)

/-- Reads a hex escape after its opening brace. -/
def readHexBrace (rest : Text) : Token × Text :=
  let digits := rest.takeWhile CodePoint.isHexDigit
  match rest.dropWhile CodePoint.isHexDigit with
  | [] => (.malformed ([introducer, 'x', Bracket.brace.opening] ++ digits), [])
  | c :: after =>
    if c = Bracket.brace.closing && isBracedHex digits then (.hexBrace digits, after)
    else (.malformed ([introducer, 'x', Bracket.brace.opening] ++ digits ++ [c]), after)

/-- Reads a hex escape after its letter. -/
def readHex : Text → Token × Text
  | [] => (.malformed [introducer, 'x'], [])
  | c :: rest =>
    if c = Bracket.brace.opening then readHexBrace rest
    else if !c.isHexDigit then (.malformed [introducer, 'x', c], rest)
    else
      match rest with
      | [] => (.malformed [introducer, 'x', c], [])
      | d :: after =>
        if d.isHexDigit then (.hexPair [c, d], after)
        else (.malformed [introducer, 'x', c, d], after)

/-- Reads a control after its backslash. -/
def readControl : Text → Token × Text
  | [] => (.malformed [introducer], [])
  | c :: rest =>
    if c.isDigit then (.digit c, rest)
    else
      match controlCharacter? c, caseMode? c with
      | some value, _ => (.character c value, rest)
      | none, some mode => (.requestCase c mode, rest)
      | none, none =>
        if c = 'E' then (.endCase, rest)
        else if c = 'g' then readReference rest
        else if c = 'x' then readHex rest
        else (.malformed [introducer, c], rest)

/-- Reads the token that begins with the character `c`. -/
def read (c : CodePoint) (rest : Text) : Token × Text :=
  if c = introducer then readControl rest else (.plain c, rest)

/-- What is left behind a name is no longer than what was read. -/
private theorem length_readName_le (bracket : Bracket) (rest : Text) :
    (readName bracket rest).2.length ≤ rest.length := by
  have h := (List.dropWhile_suffix (l := rest) (p := fun d => d ≠ bracket.closing)).length_le
  unfold readName
  split
  · next hd => rw [hd] at h; simp only [List.length_cons] at h; simp only; omega
  · simp

/-- What is left behind a reference is no longer than what was read. -/
private theorem length_readReference_le (rest : Text) :
    (readReference rest).2.length ≤ rest.length := by
  unfold readReference
  split
  · simp
  · next c after =>
    split
    · have := length_readName_le (by assumption) after
      simp only [List.length_cons]; omega
    · simp

/-- What is left behind digits in braces is no longer than what was read. -/
private theorem length_readHexBrace_le (rest : Text) :
    (readHexBrace rest).2.length ≤ rest.length := by
  have h := (List.dropWhile_suffix (l := rest) (p := CodePoint.isHexDigit)).length_le
  simp only [readHexBrace]
  split
  · simp
  · next hd =>
    rw [hd] at h
    simp only [List.length_cons] at h
    split <;> simp only <;> omega

/-- What is left behind a hex escape is no longer than what was read. -/
private theorem length_readHex_le (rest : Text) : (readHex rest).2.length ≤ rest.length := by
  unfold readHex
  split
  · simp
  · next c after =>
    split
    · have := length_readHexBrace_le after
      simp only [List.length_cons]; omega
    · split
      · simp
      · split
        · simp
        · split <;> simp only [List.length_cons] <;> omega

/-- What is left behind a control is no longer than what was read. -/
private theorem length_readControl_le (rest : Text) :
    (readControl rest).2.length ≤ rest.length := by
  unfold readControl
  split
  · simp
  · next c after =>
    have href := length_readReference_le after
    have hhex := length_readHex_le after
    grind

/-- A token leaves no more than what follows its first character. -/
theorem length_read_le (c : CodePoint) (rest : Text) : (read c rest).2.length ≤ rest.length := by
  unfold read
  split
  · exact length_readControl_le rest
  · simp

/-- The tokens of a template. -/
def readAll : Text → List Token
  | [] => []
  | c :: rest => (read c rest).1 :: readAll (read c rest).2
termination_by t => t.length
decreasing_by
  have := length_read_le c rest
  simp only [List.length_cons]
  omega

end Token

/-- The text of a template by its tokens. -/
def textByTokens (ctx : Context) (template : Text) : Text :=
  (CaseBuffer.empty.performTokens ctx (Token.readAll template)).text

end RegexSubst.Template
