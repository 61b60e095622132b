import RegexSubst.Unicode.Name.Run

/-!
# `RegexSubst.Unicode.Name.Phonetic`: names of U+1D00 to U+1FFF

Phonetic letters, more Latin and more Greek.
-/

set_option autoImplicit false

namespace RegexSubst.Unicode

/-- The names of U+1D00 to U+1FFF. -/
def phoneticNames : List NameRun :=
  [⟨0x1D00, 1, "LATIN ", "LETTER SMALL CAPITAL A,LETTER SMALL CAPITAL AE,SMALL LETTER TURNED AE"⟩,
   ⟨0x1D03, 1, "LATIN LETTER SMALL CAPITAL ", "BARRED B,C,D,ETH,E"⟩,
   ⟨0x1D08, 1, "LATIN SMALL LETTER TURNED ", "OPEN E,I"⟩,
   ⟨0x1D0A, 1, "LATIN LETTER SMALL CAPITAL ", "J,K,L WITH STROKE,M,REVERSED N,O,OPEN O"⟩,
   ⟨0x1D11, 1, "LATIN SMALL LETTER SIDEWAYS ", "O,OPEN O,O WITH STROKE"⟩,
   ⟨0x1D14, 2, "LATIN SMALL LETTER ", "TURNED OE,TOP HALF O"⟩,
   ⟨0x1D15, 2, "LATIN ", "LETTER SMALL CAPITAL OU,SMALL LETTER BOTTOM HALF O"⟩,
   ⟨0x1D18, 1, "LATIN LETTER SMALL CAPITAL ", "P,REVERSED R,TURNED R,T,U"⟩,
   ⟨0x1D1D, 1, "LATIN SMALL LETTER SIDEWAYS ", "U,DIAERESIZED U,TURNED M"⟩,
   ⟨0x1D20, 1, "LATIN LETTER SMALL CAPITAL ", "V,W,Z,EZH"⟩,
   ⟨0x1D24, 1, "LATIN LETTER ", "VOICED LARYNGEAL SPIRANT,AIN"⟩,
   ⟨0x1D26, 1, "GREEK LETTER SMALL CAPITAL ", "GAMMA,LAMDA,PI,RHO,PSI"⟩,
   ⟨0x1D2B, 1, "CYRILLIC LETTER SMALL CAPITAL EL", ""⟩,
   ⟨0x1D2C, 2, "MODIFIER LETTER CAPITAL ", "A,B,D,REVERSED E,H,J,L,N,O,P,T,W"⟩,
   ⟨0x1D2D, 2, "MODIFIER LETTER CAPITAL ", "AE,BARRED B,E,G,I,K,M,REVERSED N,OU,R,U"⟩,
   ⟨0x1D43, 2, "MODIFIER LETTER SMALL ", "A,ALPHA,B,E,OPEN E,G"⟩,
   ⟨0x1D44, 2, "MODIFIER LETTER SMALL ", "TURNED A,TURNED AE,D,SCHWA,TURNED OPEN E,TURNED I"⟩,
   ⟨0x1D4F, 2,
    "MODIFIER LETTER SMALL ", "K,ENG,OPEN O,BOTTOM HALF O,T,SIDEWAYS U,V,BETA,DELTA,CHI"⟩,
   ⟨0x1D50, 2, "MODIFIER LETTER SMALL ", "M,O,TOP HALF O,P,U,TURNED M,AIN,GREEK GAMMA,GREEK PHI"⟩,
   ⟨0x1D62, 1, "LATIN SUBSCRIPT SMALL LETTER ", "I,R,U,V"⟩,
   ⟨0x1D66, 1, "GREEK SUBSCRIPT SMALL LETTER ", "BETA,GAMMA,RHO,PHI,CHI"⟩,
   ⟨0x1D6B, 2, "LATIN SMALL LETTER ", "UE,D WITH MIDDLE TILDE,M WITH MIDDLE TILDE"⟩,
   ⟨0x1D6C, 2, "LATIN SMALL LETTER ", "B WITH MIDDLE TILDE,F WITH MIDDLE TILDE"⟩,
   ⟨0x1D70, 2,
    "LATIN SMALL LETTER ", "N WITH MIDDLE TILDE,R WITH MIDDLE TILDE,S WITH MIDDLE TILDE"⟩,
   ⟨0x1D71, 2, "LATIN SMALL LETTER ", "P WITH MIDDLE TILDE,R WITH FISHHOOK AND MIDDLE TILDE"⟩,
   ⟨0x1D75, 1, "LATIN SMALL LETTER ", "T WITH MIDDLE TILDE,Z WITH MIDDLE TILDE,TURNED G"⟩,
   ⟨0x1D78, 1, "MODIFIER LETTER CYRILLIC EN", ""⟩,
   ⟨0x1D79, 1, "LATIN SMALL LETTER ", "INSULAR G,TH WITH STRIKETHROUGH"⟩,
   ⟨0x1D7B, 2, "LATIN SMALL ", "CAPITAL LETTER I WITH STROKE,LETTER P WITH STROKE"⟩,
   ⟨0x1D7C, 2, "LATIN SMALL ", "LETTER IOTA WITH STROKE,CAPITAL LETTER U WITH STROKE"⟩,
   ⟨0x1D7F, 2,
    "LATIN SMALL LETTER ", "UPSILON WITH STROKE,D WITH PALATAL HOOK,G WITH PALATAL HOOK"⟩,
   ⟨0x1D80, 2, "LATIN SMALL LETTER ", "B WITH PALATAL HOOK,F WITH PALATAL HOOK"⟩,
   ⟨0x1D84, 2,
    "LATIN SMALL LETTER ", "K WITH PALATAL HOOK,M WITH PALATAL HOOK,P WITH PALATAL HOOK"⟩,
   ⟨0x1D85, 2,
    "LATIN SMALL LETTER ", "L WITH PALATAL HOOK,N WITH PALATAL HOOK,R WITH PALATAL HOOK"⟩,
   ⟨0x1D8A, 2,
    "LATIN SMALL LETTER ", "S WITH PALATAL HOOK,V WITH PALATAL HOOK,Z WITH PALATAL HOOK"⟩,
   ⟨0x1D8B, 2, "LATIN SMALL LETTER ", "ESH WITH PALATAL HOOK,X WITH PALATAL HOOK"⟩,
   ⟨0x1D8F, 2, "LATIN SMALL LETTER ", "A WITH RETROFLEX HOOK,D WITH HOOK AND TAIL"⟩,
   ⟨0x1D90, 2, "LATIN SMALL LETTER ", "ALPHA WITH RETROFLEX HOOK,E WITH RETROFLEX HOOK"⟩,
   ⟨0x1D93, 2, "LATIN SMALL LETTER ", "OPEN E WITH RETROFLEX HOOK,SCHWA WITH RETROFLEX HOOK"⟩,
   ⟨0x1D94, 2, "LATIN SMALL LETTER ", "REVERSED OPEN E WITH RETROFLEX HOOK,I WITH RETROFLEX HOOK"⟩,
   ⟨0x1D97, 2, "LATIN SMALL LETTER ", "OPEN O WITH RETROFLEX HOOK,U WITH RETROFLEX HOOK"⟩,
   ⟨0x1D98, 2, "LATIN SMALL LETTER ", "ESH WITH RETROFLEX HOOK,EZH WITH RETROFLEX HOOK"⟩,
   ⟨0x1D9B, 1, "MODIFIER LETTER SMALL ", "TURNED ALPHA,C,C WITH CURL,ETH,REVERSED OPEN E"⟩,
   ⟨0x1DA0, 1, "MODIFIER LETTER SMALL ", "F,DOTLESS J WITH STROKE,SCRIPT G,TURNED H,I WITH STROKE"⟩,
   ⟨0x1DA5, 1,
    "MODIFIER LETTER SMALL ", "IOTA,CAPITAL I,CAPITAL I WITH STROKE,J WITH CROSSED-TAIL"⟩,
   ⟨0x1DA9, 2, "MODIFIER LETTER SMALL ", "L WITH RETROFLEX HOOK,CAPITAL L,TURNED M WITH LONG LEG"⟩,
   ⟨0x1DAA, 2, "MODIFIER LETTER SMALL ", "L WITH PALATAL HOOK,M WITH HOOK,N WITH LEFT HOOK"⟩,
   ⟨0x1DAF, 1,
    "MODIFIER LETTER SMALL ", "N WITH RETROFLEX HOOK,CAPITAL N,BARRED O,PHI,S WITH HOOK"⟩,
   ⟨0x1DB4, 2, "MODIFIER LETTER SMALL ", "ESH,U BAR,CAPITAL U,TURNED V,Z WITH RETROFLEX HOOK,EZH"⟩,
   ⟨0x1DB5, 2, "MODIFIER LETTER SMALL ", "T WITH PALATAL HOOK,UPSILON,V WITH HOOK,Z,Z WITH CURL"⟩,
   ⟨0x1DBF, 1, "", "MODIFIER LETTER SMALL THETA,COMBINING DOTTED GRAVE ACCENT"⟩,
   ⟨0x1DC1, 2, "COMBINING ", "DOTTED ACUTE ACCENT,SUSPENSION MARK,GRAVE-MACRON,ACUTE-MACRON"⟩,
   ⟨0x1DC2, 2, "COMBINING ", "SNAKE BELOW,MACRON-ACUTE,MACRON-GRAVE,GRAVE-ACUTE-GRAVE"⟩,
   ⟨0x1DC9, 2, "COMBINING ", "ACUTE-GRAVE-ACUTE,BREVE-MACRON,DOUBLE CIRCUMFLEX ABOVE,ZIGZAG BELOW"⟩,
   ⟨0x1DCA, 2, "COMBINING ", "LATIN SMALL LETTER R BELOW,MACRON-BREVE,OGONEK ABOVE"⟩,
   ⟨0x1DD0, 1,
    "COMBINING ", "IS BELOW,UR ABOVE,US ABOVE,LATIN SMALL LETTER FLATTENED OPEN A ABOVE"⟩,
   ⟨0x1DD4, 1, "COMBINING LATIN SMALL LETTER ", "AE,AO,AV,C CEDILLA,INSULAR D,ETH,G"⟩,
   ⟨0x1DDB, 1, "COMBINING LATIN ", "LETTER SMALL CAPITAL G,SMALL LETTER K,SMALL LETTER L"⟩,
   ⟨0x1DDE, 2, "COMBINING LATIN ", "LETTER SMALL CAPITAL L,SMALL LETTER N,LETTER SMALL CAPITAL R"⟩,
   ⟨0x1DDF, 2, "COMBINING LATIN LETTER SMALL CAPITAL ", "M,N"⟩,
   ⟨0x1DE3, 2, "COMBINING LATIN SMALL LETTER ", "R ROTUNDA,LONG S,ALPHA,BETA,F"⟩,
   ⟨0x1DE4, 2, "COMBINING LATIN SMALL LETTER ", "S,Z,B,SCHWA,L WITH DOUBLE MIDDLE TILDE"⟩,
   ⟨0x1DED, 2, "COMBINING LATIN SMALL LETTER ", "O WITH LIGHT CENTRALIZATION STROKE,ESH,W"⟩,
   ⟨0x1DEE, 2, "COMBINING LATIN SMALL LETTER ", "P,U WITH LIGHT CENTRALIZATION STROKE"⟩,
   ⟨0x1DF2, 2, "COMBINING LATIN SMALL LETTER ", "A WITH DIAERESIS,U WITH DIAERESIS"⟩,
   ⟨0x1DF3, 2, "COMBINING ", "LATIN SMALL LETTER O WITH DIAERESIS,UP TACK ABOVE"⟩,
   ⟨0x1DF6, 1, "COMBINING KAVYKA ABOVE ", "RIGHT,LEFT"⟩,
   ⟨0x1DF8, 2, "COMBINING ", "DOT ABOVE LEFT,DOT BELOW LEFT,DOUBLE INVERTED BREVE BELOW"⟩,
   ⟨0x1DF9, 2, "COMBINING ", "WIDE INVERTED BRIDGE BELOW,DELETION MARK,ALMOST EQUAL TO BELOW"⟩,
   ⟨0x1DFE, 1, "COMBINING ", "LEFT ARROWHEAD ABOVE,RIGHT ARROWHEAD AND DOWN ARROWHEAD BELOW"⟩,
   ⟨0x1E00, 2, "LATIN CAPITAL LETTER ", "A WITH RING BELOW,B WITH DOT ABOVE,B WITH DOT BELOW"⟩,
   ⟨0x1E01, 2, "LATIN SMALL LETTER ", "A WITH RING BELOW,B WITH DOT ABOVE"⟩,
   ⟨0x1E05, 2,
    "LATIN SMALL LETTER ", "B WITH DOT BELOW,B WITH LINE BELOW,C WITH CEDILLA AND ACUTE"⟩,
   ⟨0x1E06, 2, "LATIN CAPITAL LETTER ", "B WITH LINE BELOW,C WITH CEDILLA AND ACUTE"⟩,
   ⟨0x1E0A, 2, "LATIN CAPITAL LETTER D WITH ", "DOT ABOVE,DOT BELOW,LINE BELOW,CEDILLA"⟩,
   ⟨0x1E0B, 2, "LATIN SMALL LETTER D WITH ", "DOT ABOVE,DOT BELOW,LINE BELOW,CEDILLA"⟩,
   ⟨0x1E12, 2, "LATIN CAPITAL LETTER ", "D WITH CIRCUMFLEX BELOW,E WITH MACRON AND GRAVE"⟩,
   ⟨0x1E13, 2, "LATIN SMALL LETTER ", "D WITH CIRCUMFLEX BELOW,E WITH MACRON AND GRAVE"⟩,
   ⟨0x1E16, 2, "LATIN CAPITAL LETTER E WITH ", "MACRON AND ACUTE,CIRCUMFLEX BELOW,TILDE BELOW"⟩,
   ⟨0x1E17, 2, "LATIN SMALL LETTER E WITH ", "MACRON AND ACUTE,CIRCUMFLEX BELOW,TILDE BELOW"⟩,
   ⟨0x1E1C, 2, "LATIN CAPITAL LETTER ", "E WITH CEDILLA AND BREVE,F WITH DOT ABOVE,G WITH MACRON"⟩,
   ⟨0x1E1D, 2, "LATIN SMALL LETTER ", "E WITH CEDILLA AND BREVE,F WITH DOT ABOVE,G WITH MACRON"⟩,
   ⟨0x1E22, 2, "LATIN CAPITAL LETTER H WITH ", "DOT ABOVE,DOT BELOW,DIAERESIS,CEDILLA,BREVE BELOW"⟩,
   ⟨0x1E23, 2, "LATIN SMALL LETTER H WITH ", "DOT ABOVE,DOT BELOW,DIAERESIS,CEDILLA,BREVE BELOW"⟩,
   ⟨0x1E2C, 2, "LATIN CAPITAL LETTER I WITH ", "TILDE BELOW,DIAERESIS AND ACUTE"⟩,
   ⟨0x1E2D, 2, "LATIN SMALL LETTER I WITH ", "TILDE BELOW,DIAERESIS AND ACUTE"⟩,
   ⟨0x1E30, 2, "LATIN CAPITAL LETTER K WITH ", "ACUTE,DOT BELOW,LINE BELOW"⟩,
   ⟨0x1E31, 2, "LATIN SMALL LETTER K WITH ", "ACUTE,DOT BELOW,LINE BELOW"⟩,
   ⟨0x1E36, 1, "LATIN ", "CAPITAL LETTER L WITH DOT BELOW,SMALL LETTER L WITH DOT BELOW"⟩,
   ⟨0x1E38, 2, "LATIN CAPITAL LETTER L WITH ", "DOT BELOW AND MACRON,LINE BELOW,CIRCUMFLEX BELOW"⟩,
   ⟨0x1E39, 2, "LATIN SMALL LETTER L WITH ", "DOT BELOW AND MACRON,LINE BELOW,CIRCUMFLEX BELOW"⟩,
   ⟨0x1E3E, 2, "LATIN CAPITAL LETTER M WITH ", "ACUTE,DOT ABOVE,DOT BELOW"⟩,
   ⟨0x1E3F, 2, "LATIN SMALL LETTER M WITH ", "ACUTE,DOT ABOVE,DOT BELOW"⟩,
   ⟨0x1E44, 2, "LATIN CAPITAL LETTER N WITH ", "DOT ABOVE,DOT BELOW,LINE BELOW,CIRCUMFLEX BELOW"⟩,
   ⟨0x1E45, 2, "LATIN SMALL LETTER N WITH ", "DOT ABOVE,DOT BELOW,LINE BELOW,CIRCUMFLEX BELOW"⟩,
   ⟨0x1E4C, 2, "LATIN CAPITAL LETTER O WITH TILDE AND ", "ACUTE,DIAERESIS"⟩,
   ⟨0x1E4D, 2, "LATIN SMALL LETTER O WITH TILDE AND ", "ACUTE,DIAERESIS"⟩,
   ⟨0x1E50, 2, "LATIN CAPITAL LETTER O WITH MACRON AND ", "GRAVE,ACUTE"⟩,
   ⟨0x1E51, 2, "LATIN SMALL LETTER O WITH MACRON AND ", "GRAVE,ACUTE"⟩,
   ⟨0x1E54, 2, "LATIN CAPITAL LETTER ", "P WITH ACUTE,P WITH DOT ABOVE,R WITH DOT ABOVE"⟩,
   ⟨0x1E55, 2, "LATIN SMALL LETTER P WITH ", "ACUTE,DOT ABOVE"⟩,
   ⟨0x1E59, 2, "LATIN SMALL LETTER R WITH ", "DOT ABOVE,DOT BELOW,DOT BELOW AND MACRON,LINE BELOW"⟩,
   ⟨0x1E5A, 2, "LATIN CAPITAL LETTER R WITH ", "DOT BELOW,DOT BELOW AND MACRON,LINE BELOW"⟩,
   ⟨0x1E60, 2, "LATIN CAPITAL LETTER S WITH ", "DOT ABOVE,DOT BELOW,ACUTE AND DOT ABOVE"⟩,
   ⟨0x1E61, 2, "LATIN SMALL LETTER S WITH ", "DOT ABOVE,DOT BELOW,ACUTE AND DOT ABOVE"⟩,
   ⟨0x1E66, 2, "LATIN CAPITAL LETTER S WITH ", "CARON AND DOT ABOVE,DOT BELOW AND DOT ABOVE"⟩,
   ⟨0x1E67, 2, "LATIN SMALL LETTER S WITH ", "CARON AND DOT ABOVE,DOT BELOW AND DOT ABOVE"⟩,
   ⟨0x1E6A, 2, "LATIN CAPITAL LETTER T WITH ", "DOT ABOVE,DOT BELOW,LINE BELOW,CIRCUMFLEX BELOW"⟩,
   ⟨0x1E6B, 2, "LATIN SMALL LETTER T WITH ", "DOT ABOVE,DOT BELOW,LINE BELOW,CIRCUMFLEX BELOW"⟩,
   ⟨0x1E72, 2, "LATIN CAPITAL LETTER U WITH ", "DIAERESIS BELOW,TILDE BELOW,CIRCUMFLEX BELOW"⟩,
   ⟨0x1E73, 2, "LATIN SMALL LETTER U WITH ", "DIAERESIS BELOW,TILDE BELOW,CIRCUMFLEX BELOW"⟩,
   ⟨0x1E78, 2, "LATIN CAPITAL LETTER U WITH ", "TILDE AND ACUTE,MACRON AND DIAERESIS"⟩,
   ⟨0x1E79, 2, "LATIN SMALL LETTER U WITH ", "TILDE AND ACUTE,MACRON AND DIAERESIS"⟩,
   ⟨0x1E7C, 2, "LATIN CAPITAL LETTER V WITH ", "TILDE,DOT BELOW"⟩,
   ⟨0x1E7D, 2, "LATIN SMALL LETTER V WITH ", "TILDE,DOT BELOW"⟩,
   ⟨0x1E80, 2, "LATIN CAPITAL LETTER W WITH ", "GRAVE,ACUTE,DIAERESIS,DOT ABOVE,DOT BELOW"⟩,
   ⟨0x1E81, 2, "LATIN SMALL LETTER W WITH ", "GRAVE,ACUTE,DIAERESIS,DOT ABOVE,DOT BELOW"⟩,
   ⟨0x1E8A, 2, "LATIN CAPITAL LETTER ", "X WITH DOT ABOVE,X WITH DIAERESIS,Y WITH DOT ABOVE"⟩,
   ⟨0x1E8B, 2, "LATIN SMALL LETTER ", "X WITH DOT ABOVE,X WITH DIAERESIS,Y WITH DOT ABOVE"⟩,
   ⟨0x1E90, 2, "LATIN CAPITAL LETTER Z WITH ", "CIRCUMFLEX,DOT BELOW,LINE BELOW"⟩,
   ⟨0x1E91, 2, "LATIN SMALL LETTER Z WITH ", "CIRCUMFLEX,DOT BELOW,LINE BELOW"⟩,
   ⟨0x1E96, 2, "LATIN SMALL LETTER ", "H WITH LINE BELOW,W WITH RING ABOVE,A WITH RIGHT HALF RING"⟩,
   ⟨0x1E97, 2, "LATIN SMALL LETTER ", "T WITH DIAERESIS,Y WITH RING ABOVE"⟩,
   ⟨0x1E9B, 1, "LATIN SMALL LETTER LONG S WITH ", "DOT ABOVE,DIAGONAL STROKE,HIGH STROKE"⟩,
   ⟨0x1E9E, 1, "LATIN ", "CAPITAL LETTER SHARP S,SMALL LETTER DELTA"⟩,
   ⟨0x1EA0, 2, "LATIN CAPITAL LETTER A WITH ", "DOT BELOW,HOOK ABOVE,CIRCUMFLEX AND ACUTE"⟩,
   ⟨0x1EA1, 2, "LATIN SMALL LETTER A WITH ", "DOT BELOW,HOOK ABOVE,CIRCUMFLEX AND ACUTE"⟩,
   ⟨0x1EA6, 2, "LATIN CAPITAL LETTER A WITH CIRCUMFLEX AND ", "GRAVE,HOOK ABOVE,TILDE,DOT BELOW"⟩,
   ⟨0x1EA7, 2, "LATIN SMALL LETTER A WITH CIRCUMFLEX AND ", "GRAVE,HOOK ABOVE,TILDE,DOT BELOW"⟩,
   ⟨0x1EAE, 2, "LATIN CAPITAL LETTER A WITH BREVE AND ", "ACUTE,GRAVE,HOOK ABOVE,TILDE,DOT BELOW"⟩,
   ⟨0x1EAF, 2, "LATIN SMALL LETTER A WITH BREVE AND ", "ACUTE,GRAVE,HOOK ABOVE,TILDE,DOT BELOW"⟩,
   ⟨0x1EB8, 2, "LATIN CAPITAL LETTER E WITH ", "DOT BELOW,HOOK ABOVE,TILDE,CIRCUMFLEX AND ACUTE"⟩,
   ⟨0x1EB9, 2, "LATIN SMALL LETTER E WITH ", "DOT BELOW,HOOK ABOVE,TILDE,CIRCUMFLEX AND ACUTE"⟩,
   ⟨0x1EC0, 2, "LATIN CAPITAL LETTER E WITH CIRCUMFLEX AND ", "GRAVE,HOOK ABOVE,TILDE,DOT BELOW"⟩,
   ⟨0x1EC1, 2, "LATIN SMALL LETTER E WITH CIRCUMFLEX AND ", "GRAVE,HOOK ABOVE,TILDE,DOT BELOW"⟩,
   ⟨0x1EC8, 2, "LATIN CAPITAL LETTER I WITH ", "HOOK ABOVE,DOT BELOW"⟩,
   ⟨0x1EC9, 2, "LATIN SMALL LETTER I WITH ", "HOOK ABOVE,DOT BELOW"⟩,
   ⟨0x1ECC, 2, "LATIN CAPITAL LETTER O WITH ", "DOT BELOW,HOOK ABOVE,CIRCUMFLEX AND ACUTE"⟩,
   ⟨0x1ECD, 2, "LATIN SMALL LETTER O WITH ", "DOT BELOW,HOOK ABOVE,CIRCUMFLEX AND ACUTE"⟩,
   ⟨0x1ED2, 2, "LATIN CAPITAL LETTER O WITH CIRCUMFLEX AND ", "GRAVE,HOOK ABOVE,TILDE,DOT BELOW"⟩,
   ⟨0x1ED3, 2, "LATIN SMALL LETTER O WITH CIRCUMFLEX AND ", "GRAVE,HOOK ABOVE,TILDE,DOT BELOW"⟩,
   ⟨0x1EDA, 2, "LATIN CAPITAL LETTER O WITH HORN AND ", "ACUTE,GRAVE,HOOK ABOVE,TILDE,DOT BELOW"⟩,
   ⟨0x1EDB, 2, "LATIN SMALL LETTER O WITH HORN AND ", "ACUTE,GRAVE,HOOK ABOVE,TILDE,DOT BELOW"⟩,
   ⟨0x1EE4, 2, "LATIN CAPITAL LETTER U WITH ", "DOT BELOW,HOOK ABOVE"⟩,
   ⟨0x1EE5, 2, "LATIN SMALL LETTER U WITH ", "DOT BELOW,HOOK ABOVE"⟩,
   ⟨0x1EE8, 2, "LATIN CAPITAL LETTER U WITH HORN AND ", "ACUTE,GRAVE,HOOK ABOVE,TILDE,DOT BELOW"⟩,
   ⟨0x1EE9, 2, "LATIN SMALL LETTER U WITH HORN AND ", "ACUTE,GRAVE,HOOK ABOVE,TILDE,DOT BELOW"⟩,
   ⟨0x1EF2, 2, "LATIN CAPITAL LETTER Y WITH ", "GRAVE,DOT BELOW,HOOK ABOVE,TILDE"⟩,
   ⟨0x1EF3, 2, "LATIN SMALL LETTER Y WITH ", "GRAVE,DOT BELOW,HOOK ABOVE,TILDE"⟩,
   ⟨0x1EFA, 2, "LATIN CAPITAL LETTER ", "MIDDLE-WELSH LL,MIDDLE-WELSH V,Y WITH LOOP"⟩,
   ⟨0x1EFB, 2, "LATIN SMALL LETTER ", "MIDDLE-WELSH LL,MIDDLE-WELSH V,Y WITH LOOP"⟩,
   ⟨0x1F00, 1, "GREEK SMALL LETTER ALPHA WITH ", "PSILI,DASIA"⟩,
   ⟨0x1F02, 2, "GREEK SMALL LETTER ALPHA WITH PSILI AND ", "VARIA,OXIA,PERISPOMENI"⟩,
   ⟨0x1F03, 2, "GREEK SMALL LETTER ALPHA WITH DASIA AND ", "VARIA,OXIA,PERISPOMENI"⟩,
   ⟨0x1F08, 1, "GREEK CAPITAL LETTER ALPHA WITH ", "PSILI,DASIA"⟩,
   ⟨0x1F0A, 2, "GREEK CAPITAL LETTER ALPHA WITH PSILI AND ", "VARIA,OXIA,PERISPOMENI"⟩,
   ⟨0x1F0B, 2, "GREEK CAPITAL LETTER ALPHA WITH DASIA AND ", "VARIA,OXIA,PERISPOMENI"⟩,
   ⟨0x1F10, 2, "GREEK SMALL LETTER EPSILON WITH ", "PSILI,PSILI AND VARIA,PSILI AND OXIA"⟩,
   ⟨0x1F11, 2, "GREEK SMALL LETTER EPSILON WITH ", "DASIA,DASIA AND VARIA,DASIA AND OXIA"⟩,
   ⟨0x1F18, 2, "GREEK CAPITAL LETTER EPSILON WITH ", "PSILI,PSILI AND VARIA,PSILI AND OXIA"⟩,
   ⟨0x1F19, 2, "GREEK CAPITAL LETTER EPSILON WITH ", "DASIA,DASIA AND VARIA,DASIA AND OXIA"⟩,
   ⟨0x1F20, 1, "GREEK SMALL LETTER ETA WITH ", "PSILI,DASIA"⟩,
   ⟨0x1F22, 2, "GREEK SMALL LETTER ETA WITH PSILI AND ", "VARIA,OXIA,PERISPOMENI"⟩,
   ⟨0x1F23, 2, "GREEK SMALL LETTER ETA WITH DASIA AND ", "VARIA,OXIA,PERISPOMENI"⟩,
   ⟨0x1F28, 1, "GREEK CAPITAL LETTER ETA WITH ", "PSILI,DASIA"⟩,
   ⟨0x1F2A, 2, "GREEK CAPITAL LETTER ETA WITH PSILI AND ", "VARIA,OXIA,PERISPOMENI"⟩,
   ⟨0x1F2B, 2, "GREEK CAPITAL LETTER ETA WITH DASIA AND ", "VARIA,OXIA,PERISPOMENI"⟩,
   ⟨0x1F30, 1, "GREEK SMALL LETTER IOTA WITH ", "PSILI,DASIA"⟩,
   ⟨0x1F32, 2, "GREEK SMALL LETTER IOTA WITH PSILI AND ", "VARIA,OXIA,PERISPOMENI"⟩,
   ⟨0x1F33, 2, "GREEK SMALL LETTER IOTA WITH DASIA AND ", "VARIA,OXIA,PERISPOMENI"⟩,
   ⟨0x1F38, 1, "GREEK CAPITAL LETTER IOTA WITH ", "PSILI,DASIA"⟩,
   ⟨0x1F3A, 2, "GREEK CAPITAL LETTER IOTA WITH PSILI AND ", "VARIA,OXIA,PERISPOMENI"⟩,
   ⟨0x1F3B, 2, "GREEK CAPITAL LETTER IOTA WITH DASIA AND ", "VARIA,OXIA,PERISPOMENI"⟩,
   ⟨0x1F40, 2, "GREEK SMALL LETTER OMICRON WITH ", "PSILI,PSILI AND VARIA,PSILI AND OXIA"⟩,
   ⟨0x1F41, 2, "GREEK SMALL LETTER OMICRON WITH ", "DASIA,DASIA AND VARIA,DASIA AND OXIA"⟩,
   ⟨0x1F48, 2, "GREEK CAPITAL LETTER OMICRON WITH ", "PSILI,PSILI AND VARIA,PSILI AND OXIA"⟩,
   ⟨0x1F49, 2, "GREEK CAPITAL LETTER OMICRON WITH ", "DASIA,DASIA AND VARIA,DASIA AND OXIA"⟩,
   ⟨0x1F50, 1, "GREEK SMALL LETTER UPSILON WITH ", "PSILI,DASIA"⟩,
   ⟨0x1F52, 2, "GREEK SMALL LETTER UPSILON WITH PSILI AND ", "VARIA,OXIA,PERISPOMENI"⟩,
   ⟨0x1F53, 2, "GREEK SMALL LETTER UPSILON WITH DASIA AND ", "VARIA,OXIA,PERISPOMENI"⟩,
   ⟨0x1F59, 1, "GREEK CAPITAL LETTER UPSILON WITH DASIA", ""⟩,
   ⟨0x1F5B, 1, "GREEK CAPITAL LETTER UPSILON WITH DASIA AND VARIA", ""⟩,
   ⟨0x1F5D, 1, "GREEK CAPITAL LETTER UPSILON WITH DASIA AND OXIA", ""⟩,
   ⟨0x1F5F, 1, "GREEK CAPITAL LETTER UPSILON WITH DASIA AND PERISPOMENI", ""⟩,
   ⟨0x1F60, 1, "GREEK SMALL LETTER OMEGA WITH ", "PSILI,DASIA"⟩,
   ⟨0x1F62, 2, "GREEK SMALL LETTER OMEGA WITH PSILI AND ", "VARIA,OXIA,PERISPOMENI"⟩,
   ⟨0x1F63, 2, "GREEK SMALL LETTER OMEGA WITH DASIA AND ", "VARIA,OXIA,PERISPOMENI"⟩,
   ⟨0x1F68, 1, "GREEK CAPITAL LETTER OMEGA WITH ", "PSILI,DASIA"⟩,
   ⟨0x1F6A, 2, "GREEK CAPITAL LETTER OMEGA WITH PSILI AND ", "VARIA,OXIA,PERISPOMENI"⟩,
   ⟨0x1F6B, 2, "GREEK CAPITAL LETTER OMEGA WITH DASIA AND ", "VARIA,OXIA,PERISPOMENI"⟩,
   ⟨0x1F70, 1, "GREEK SMALL LETTER ALPHA WITH ", "VARIA,OXIA"⟩,
   ⟨0x1F72, 1, "GREEK SMALL LETTER EPSILON WITH ", "VARIA,OXIA"⟩,
   ⟨0x1F74, 1,
    "GREEK SMALL LETTER ", "ETA WITH VARIA,ETA WITH OXIA,IOTA WITH VARIA,IOTA WITH OXIA"⟩,
   ⟨0x1F78, 2, "GREEK SMALL LETTER ", "OMICRON WITH VARIA,UPSILON WITH VARIA,OMEGA WITH VARIA"⟩,
   ⟨0x1F79, 2, "GREEK SMALL LETTER ", "OMICRON WITH OXIA,UPSILON WITH OXIA,OMEGA WITH OXIA"⟩,
   ⟨0x1F80, 2, "GREEK SMALL LETTER ALPHA WITH PSILI AND ", "YPOGEGRAMMENI,VARIA AND YPOGEGRAMMENI"⟩,
   ⟨0x1F81, 2, "GREEK SMALL LETTER ALPHA WITH DASIA AND ", "YPOGEGRAMMENI,VARIA AND YPOGEGRAMMENI"⟩,
   ⟨0x1F84, 1, "GREEK SMALL LETTER ALPHA WITH PSILI AND OXIA AND YPOGEGRAMMENI", ""⟩,
   ⟨0x1F85, 1, "GREEK SMALL LETTER ALPHA WITH DASIA AND OXIA AND YPOGEGRAMMENI", ""⟩,
   ⟨0x1F86, 1, "GREEK SMALL LETTER ALPHA WITH PSILI AND PERISPOMENI AND YPOGEGRAMMENI", ""⟩,
   ⟨0x1F87, 1, "GREEK SMALL LETTER ALPHA WITH DASIA AND PERISPOMENI AND YPOGEGRAMMENI", ""⟩,
   ⟨0x1F88, 1, "GREEK CAPITAL LETTER ALPHA WITH PSILI AND PROSGEGRAMMENI", ""⟩,
   ⟨0x1F89, 1, "GREEK CAPITAL LETTER ALPHA WITH DASIA AND PROSGEGRAMMENI", ""⟩,
   ⟨0x1F8A, 1, "GREEK CAPITAL LETTER ALPHA WITH PSILI AND VARIA AND PROSGEGRAMMENI", ""⟩,
   ⟨0x1F8B, 1, "GREEK CAPITAL LETTER ALPHA WITH DASIA AND VARIA AND PROSGEGRAMMENI", ""⟩,
   ⟨0x1F8C, 1, "GREEK CAPITAL LETTER ALPHA WITH PSILI AND OXIA AND PROSGEGRAMMENI", ""⟩,
   ⟨0x1F8D, 1, "GREEK CAPITAL LETTER ALPHA WITH DASIA AND OXIA AND PROSGEGRAMMENI", ""⟩,
   ⟨0x1F8E, 1, "GREEK CAPITAL LETTER ALPHA WITH PSILI AND PERISPOMENI AND PROSGEGRAMMENI", ""⟩,
   ⟨0x1F8F, 1, "GREEK CAPITAL LETTER ALPHA WITH DASIA AND PERISPOMENI AND PROSGEGRAMMENI", ""⟩,
   ⟨0x1F90, 2, "GREEK SMALL LETTER ETA WITH PSILI AND ", "YPOGEGRAMMENI,VARIA AND YPOGEGRAMMENI"⟩,
   ⟨0x1F91, 2, "GREEK SMALL LETTER ETA WITH DASIA AND ", "YPOGEGRAMMENI,VARIA AND YPOGEGRAMMENI"⟩,
   ⟨0x1F94, 1, "GREEK SMALL LETTER ETA WITH PSILI AND OXIA AND YPOGEGRAMMENI", ""⟩,
   ⟨0x1F95, 1, "GREEK SMALL LETTER ETA WITH DASIA AND OXIA AND YPOGEGRAMMENI", ""⟩,
   ⟨0x1F96, 1, "GREEK SMALL LETTER ETA WITH PSILI AND PERISPOMENI AND YPOGEGRAMMENI", ""⟩,
   ⟨0x1F97, 1, "GREEK SMALL LETTER ETA WITH DASIA AND PERISPOMENI AND YPOGEGRAMMENI", ""⟩,
   ⟨0x1F98, 1, "GREEK CAPITAL LETTER ETA WITH PSILI AND PROSGEGRAMMENI", ""⟩,
   ⟨0x1F99, 1, "GREEK CAPITAL LETTER ETA WITH DASIA AND PROSGEGRAMMENI", ""⟩,
   ⟨0x1F9A, 1, "GREEK CAPITAL LETTER ETA WITH PSILI AND VARIA AND PROSGEGRAMMENI", ""⟩,
   ⟨0x1F9B, 1, "GREEK CAPITAL LETTER ETA WITH DASIA AND VARIA AND PROSGEGRAMMENI", ""⟩,
   ⟨0x1F9C, 1, "GREEK CAPITAL LETTER ETA WITH PSILI AND OXIA AND PROSGEGRAMMENI", ""⟩,
   ⟨0x1F9D, 1, "GREEK CAPITAL LETTER ETA WITH DASIA AND OXIA AND PROSGEGRAMMENI", ""⟩,
   ⟨0x1F9E, 1, "GREEK CAPITAL LETTER ETA WITH PSILI AND PERISPOMENI AND PROSGEGRAMMENI", ""⟩,
   ⟨0x1F9F, 1, "GREEK CAPITAL LETTER ETA WITH DASIA AND PERISPOMENI AND PROSGEGRAMMENI", ""⟩,
   ⟨0x1FA0, 2, "GREEK SMALL LETTER OMEGA WITH PSILI AND ", "YPOGEGRAMMENI,VARIA AND YPOGEGRAMMENI"⟩,
   ⟨0x1FA1, 2, "GREEK SMALL LETTER OMEGA WITH DASIA AND ", "YPOGEGRAMMENI,VARIA AND YPOGEGRAMMENI"⟩,
   ⟨0x1FA4, 1, "GREEK SMALL LETTER OMEGA WITH PSILI AND OXIA AND YPOGEGRAMMENI", ""⟩,
   ⟨0x1FA5, 1, "GREEK SMALL LETTER OMEGA WITH DASIA AND OXIA AND YPOGEGRAMMENI", ""⟩,
   ⟨0x1FA6, 1, "GREEK SMALL LETTER OMEGA WITH PSILI AND PERISPOMENI AND YPOGEGRAMMENI", ""⟩,
   ⟨0x1FA7, 1, "GREEK SMALL LETTER OMEGA WITH DASIA AND PERISPOMENI AND YPOGEGRAMMENI", ""⟩,
   ⟨0x1FA8, 1, "GREEK CAPITAL LETTER OMEGA WITH PSILI AND PROSGEGRAMMENI", ""⟩,
   ⟨0x1FA9, 1, "GREEK CAPITAL LETTER OMEGA WITH DASIA AND PROSGEGRAMMENI", ""⟩,
   ⟨0x1FAA, 1, "GREEK CAPITAL LETTER OMEGA WITH PSILI AND VARIA AND PROSGEGRAMMENI", ""⟩,
   ⟨0x1FAB, 1, "GREEK CAPITAL LETTER OMEGA WITH DASIA AND VARIA AND PROSGEGRAMMENI", ""⟩,
   ⟨0x1FAC, 1, "GREEK CAPITAL LETTER OMEGA WITH PSILI AND OXIA AND PROSGEGRAMMENI", ""⟩,
   ⟨0x1FAD, 1, "GREEK CAPITAL LETTER OMEGA WITH DASIA AND OXIA AND PROSGEGRAMMENI", ""⟩,
   ⟨0x1FAE, 1, "GREEK CAPITAL LETTER OMEGA WITH PSILI AND PERISPOMENI AND PROSGEGRAMMENI", ""⟩,
   ⟨0x1FAF, 1, "GREEK CAPITAL LETTER OMEGA WITH DASIA AND PERISPOMENI AND PROSGEGRAMMENI", ""⟩,
   ⟨0x1FB0, 1, "GREEK SMALL LETTER ALPHA WITH ", "VRACHY,MACRON,VARIA AND YPOGEGRAMMENI"⟩,
   ⟨0x1FB3, 1, "GREEK SMALL LETTER ALPHA WITH ", "YPOGEGRAMMENI,OXIA AND YPOGEGRAMMENI"⟩,
   ⟨0x1FB6, 1, "GREEK SMALL LETTER ALPHA WITH ", "PERISPOMENI,PERISPOMENI AND YPOGEGRAMMENI"⟩,
   ⟨0x1FB8, 1, "GREEK CAPITAL LETTER ALPHA WITH ", "VRACHY,MACRON,VARIA,OXIA,PROSGEGRAMMENI"⟩,
   ⟨0x1FBD, 1, "GREEK ", "KORONIS,PROSGEGRAMMENI,PSILI,PERISPOMENI"⟩,
   ⟨0x1FC1, 2, "GREEK ", "DIALYTIKA AND PERISPOMENI,SMALL LETTER ETA WITH YPOGEGRAMMENI"⟩,
   ⟨0x1FC2, 2, "GREEK SMALL LETTER ETA WITH ", "VARIA AND YPOGEGRAMMENI,OXIA AND YPOGEGRAMMENI"⟩,
   ⟨0x1FC6, 1, "GREEK SMALL LETTER ETA WITH ", "PERISPOMENI,PERISPOMENI AND YPOGEGRAMMENI"⟩,
   ⟨0x1FC8, 1, "GREEK CAPITAL LETTER EPSILON WITH ", "VARIA,OXIA"⟩,
   ⟨0x1FCA, 1, "GREEK CAPITAL LETTER ETA WITH ", "VARIA,OXIA,PROSGEGRAMMENI"⟩,
   ⟨0x1FCD, 1, "GREEK PSILI AND ", "VARIA,OXIA,PERISPOMENI"⟩,
   ⟨0x1FD0, 1, "GREEK SMALL LETTER IOTA WITH ", "VRACHY,MACRON"⟩,
   ⟨0x1FD2, 1, "GREEK SMALL LETTER IOTA WITH DIALYTIKA AND ", "VARIA,OXIA"⟩,
   ⟨0x1FD6, 1, "GREEK SMALL LETTER IOTA WITH ", "PERISPOMENI,DIALYTIKA AND PERISPOMENI"⟩,
   ⟨0x1FD8, 1, "GREEK CAPITAL LETTER IOTA WITH ", "VRACHY,MACRON,VARIA,OXIA"⟩,
   ⟨0x1FDD, 1, "GREEK DASIA AND ", "VARIA,OXIA,PERISPOMENI"⟩,
   ⟨0x1FE0, 1, "GREEK SMALL LETTER UPSILON WITH ", "VRACHY,MACRON"⟩,
   ⟨0x1FE2, 1, "GREEK SMALL LETTER UPSILON WITH DIALYTIKA AND ", "VARIA,OXIA"⟩,
   ⟨0x1FE4, 1, "GREEK SMALL LETTER RHO WITH ", "PSILI,DASIA"⟩,
   ⟨0x1FE6, 1, "GREEK SMALL LETTER UPSILON WITH ", "PERISPOMENI,DIALYTIKA AND PERISPOMENI"⟩,
   ⟨0x1FE8, 1, "GREEK CAPITAL LETTER UPSILON WITH ", "VRACHY,MACRON,VARIA,OXIA"⟩,
   ⟨0x1FEC, 2, "GREEK ", "CAPITAL LETTER RHO WITH DASIA,DIALYTIKA AND OXIA"⟩,
   ⟨0x1FED, 2, "GREEK ", "DIALYTIKA AND VARIA,VARIA"⟩,
   ⟨0x1FF2, 1, "GREEK SMALL LETTER OMEGA WITH VARIA AND YPOGEGRAMMENI", ""⟩,
   ⟨0x1FF3, 1, "GREEK SMALL LETTER OMEGA WITH ", "YPOGEGRAMMENI,OXIA AND YPOGEGRAMMENI"⟩,
   ⟨0x1FF6, 1, "GREEK SMALL LETTER OMEGA WITH ", "PERISPOMENI,PERISPOMENI AND YPOGEGRAMMENI"⟩,
   ⟨0x1FF8, 1, "GREEK CAPITAL LETTER OMICRON WITH ", "VARIA,OXIA"⟩,
   ⟨0x1FFA, 1, "GREEK CAPITAL LETTER OMEGA WITH ", "VARIA,OXIA,PROSGEGRAMMENI"⟩,
   ⟨0x1FFD, 1, "GREEK ", "OXIA,DASIA"⟩]

end RegexSubst.Unicode
