import RegexSubst.Unicode.CodeSet

/-!
# `RegexSubst.Unicode.Blank`: white space

White space for the purpose of trimming and of the class `\s`: the characters whose bidirectional
type is white space, paragraph separator or segment separator, and the space separators.
-/

set_option autoImplicit false

namespace RegexSubst.Unicode

/-- White space. -/
def blank : CodeSet := ⟨[
  0x9, 0xE, 0x1C, 0x21, 0x85, 0x86, 0xA0, 0xA1, 0x1680, 0x1681, 0x2000, 0x200B, 0x2028, 0x202A,
  0x202F, 0x2030, 0x205F, 0x2060, 0x3000, 0x3001]⟩

end RegexSubst.Unicode
