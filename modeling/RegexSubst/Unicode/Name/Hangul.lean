/-!
# `RegexSubst.Unicode.Name.Hangul`: names of Hangul syllables

The name of a syllable is put together from the names of its leading consonant, its vowel and its
trailing consonant. The syllables are numbered in the order of these three.

* `syllable?` takes a name apart again.
-/

set_option autoImplicit false

namespace RegexSubst.Unicode

/-- The leading consonants of syllables. One of them is silent. -/
def leadingConsonants : List String :=
  ["G", "GG", "N", "D", "DD", "R", "M", "B", "BB", "S", "SS", "", "J", "JJ", "C", "K", "T", "P",
    "H"]

/-- The vowels of syllables. -/
def vowels : List String :=
  ["A", "AE", "YA", "YAE", "EO", "E", "YEO", "YE", "O", "WA", "WAE", "OE", "YO", "U", "WEO", "WE",
    "WI", "YU", "EU", "YI", "I"]

/-- The trailing consonants of syllables. The first one stands for none. -/
def trailingConsonants : List String :=
  ["", "G", "GG", "GS", "N", "NJ", "NH", "D", "L", "LG", "LM", "LB", "LS", "LT", "LP", "LH", "M",
    "B", "BS", "S", "SS", "NG", "J", "C", "K", "T", "P", "H"]

/-- The longest of the texts with which `name` begins: its place in the list, and what is left of
the name. -/
def longestBeginning? (texts : List String) (name : List Char) : Option (Nat × List Char) :=
  let found := texts.zipIdx.filterMap fun (text, place) =>
    (text.toList.isPrefixOf? name).map (place, ·)
  found.foldl
    (fun best next => best.filter (fun b => b.2.length ≤ next.2.length) |>.or (some next)) none

/-- The first syllable. -/
def firstSyllable : Nat := 0xAC00

/-- The syllable that has the name `name`, of which every part is read as far as possible. -/
def syllable? (name : List Char) : Option Nat := do
  let parts ← "HANGUL SYLLABLE ".toList.isPrefixOf? name
  let (leading, parts) ← longestBeginning? leadingConsonants parts
  let (vowel, parts) ← longestBeginning? vowels parts
  let (trailing, parts) ← longestBeginning? trailingConsonants parts
  guard parts.isEmpty
  return firstSyllable
    + (leading * vowels.length + vowel) * trailingConsonants.length + trailing

end RegexSubst.Unicode
