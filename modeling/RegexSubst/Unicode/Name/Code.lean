import RegexSubst.Unicode.Name.Alias
import RegexSubst.Unicode.Name.Ancient
import RegexSubst.Unicode.Name.AsianAndAfrican
import RegexSubst.Unicode.Name.Brahmic
import RegexSubst.Unicode.Name.Cuneiform
import RegexSubst.Unicode.Name.EastAsian
import RegexSubst.Unicode.Name.European
import RegexSubst.Unicode.Name.Hangul
import RegexSubst.Unicode.Name.Hieroglyph
import RegexSubst.Unicode.Name.Indic
import RegexSubst.Unicode.Name.MiddleEastern
import RegexSubst.Unicode.Name.MinorityScript
import RegexSubst.Unicode.Name.Notation
import RegexSubst.Unicode.Name.Numbered
import RegexSubst.Unicode.Name.Phonetic
import RegexSubst.Unicode.Name.Pictograph
import RegexSubst.Unicode.Name.Presentation
import RegexSubst.Unicode.Name.RecentScript
import RegexSubst.Unicode.Name.Supplement
import RegexSubst.Unicode.Name.Syllabary
import RegexSubst.Unicode.Name.Symbol

/-!
# `RegexSubst.Unicode.Name.Code`: the character with a name

Most names are listed, those of Hangul syllables and of ideographs follow a rule. Whether the
letters of a name are capitals makes no difference, except in names of syllables and of unified
ideographs.

* `codeOfName?` is the code point that has a name.
-/

set_option autoImplicit false

namespace RegexSubst.Unicode

/-- All names that are listed. -/
def nameTables : List (List NameRun) :=
  [europeanNames, middleEasternNames, indicNames, asianAndAfricanNames, phoneticNames,
    symbolNames, supplementNames, eastAsianNames, syllabaryNames, presentationNames, ancientNames,
    brahmicNames, cuneiformNames, hieroglyphNames, recentScriptNames, notationNames,
    minorityScriptNames, pictographNames, aliases]

/-- The code point that has a name in the tables. -/
def listed? (name : List Char) : Option Nat :=
  nameTables.findSome? fun table => table.findSome? fun run => run.code? name

/-- The code point that has a name. -/
def codeOfName? (name : String) : Option Nat :=
  let upper := name.toList.map Char.toUpper
  syllable? name.toList <|> ideograph? name.toList <|> numbered? upper <|> listed? upper

end RegexSubst.Unicode
