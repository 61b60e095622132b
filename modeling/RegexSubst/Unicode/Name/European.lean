import RegexSubst.Unicode.Name.Run

/-!
# `RegexSubst.Unicode.Name.European`: names of U+0000 to U+058F

Latin, Greek, Cyrillic and Armenian, with the marks that combine with letters.
-/

set_option autoImplicit false

namespace RegexSubst.Unicode

/-- The names of U+0000 to U+058F. -/
def europeanNames : List NameRun :=
  [⟨0x20, 1, "", "SPACE,EXCLAMATION MARK,QUOTATION MARK"⟩,
   ⟨0x23, 1, "", "NUMBER SIGN,DOLLAR SIGN,PERCENT SIGN,AMPERSAND,APOSTROPHE,LEFT PARENTHESIS"⟩,
   ⟨0x29, 1, "", "RIGHT PARENTHESIS,ASTERISK,PLUS SIGN,COMMA,HYPHEN-MINUS,FULL STOP,SOLIDUS"⟩,
   ⟨0x30, 1, "DIGIT ", "ZERO,ONE,TWO,THREE,FOUR,FIVE,SIX,SEVEN,EIGHT,NINE"⟩,
   ⟨0x3A, 1, "", "COLON,SEMICOLON"⟩,
   ⟨0x3C, 1, "", "LESS-THAN SIGN,EQUALS SIGN,GREATER-THAN SIGN,QUESTION MARK,COMMERCIAL AT"⟩,
   ⟨0x41, 1, "LATIN CAPITAL LETTER ", "A,B,C,D,E,F,G,H,I,J,K,L,M,N,O,P,Q,R,S,T,U,V,W,X,Y,Z"⟩,
   ⟨0x5B, 1, "LEFT SQUARE BRACKET", ""⟩,
   ⟨0x5C, 1, "", "REVERSE SOLIDUS,RIGHT SQUARE BRACKET,CIRCUMFLEX ACCENT,LOW LINE,GRAVE ACCENT"⟩,
   ⟨0x61, 1, "LATIN SMALL LETTER ", "A,B,C,D,E,F,G,H,I,J,K,L,M,N,O,P,Q,R,S,T,U,V,W,X,Y,Z"⟩,
   ⟨0x7B, 1, "", "LEFT CURLY BRACKET,VERTICAL LINE,RIGHT CURLY BRACKET,TILDE"⟩,
   ⟨0xA0, 1, "", "NO-BREAK SPACE,INVERTED EXCLAMATION MARK,CENT SIGN,POUND SIGN"⟩,
   ⟨0xA4, 1, "", "CURRENCY SIGN,YEN SIGN,BROKEN BAR,SECTION SIGN,DIAERESIS,COPYRIGHT SIGN"⟩,
   ⟨0xAA, 1, "", "FEMININE ORDINAL INDICATOR,LEFT-POINTING DOUBLE ANGLE QUOTATION MARK"⟩,
   ⟨0xAC, 1, "", "NOT SIGN,SOFT HYPHEN,REGISTERED SIGN,MACRON,DEGREE SIGN,PLUS-MINUS SIGN"⟩,
   ⟨0xB2, 1, "SUPERSCRIPT ", "TWO,THREE"⟩,
   ⟨0xB4, 1, "", "ACUTE ACCENT,MICRO SIGN,PILCROW SIGN,MIDDLE DOT,CEDILLA,SUPERSCRIPT ONE"⟩,
   ⟨0xBA, 1, "", "MASCULINE ORDINAL INDICATOR,RIGHT-POINTING DOUBLE ANGLE QUOTATION MARK"⟩,
   ⟨0xBC, 1, "VULGAR FRACTION ", "ONE QUARTER,ONE HALF,THREE QUARTERS"⟩,
   ⟨0xBF, 1, "INVERTED QUESTION MARK", ""⟩,
   ⟨0xC0, 1, "LATIN CAPITAL LETTER A WITH ", "GRAVE,ACUTE,CIRCUMFLEX,TILDE,DIAERESIS,RING ABOVE"⟩,
   ⟨0xC6, 1, "LATIN CAPITAL LETTER ", "AE,C WITH CEDILLA,E WITH GRAVE,E WITH ACUTE"⟩,
   ⟨0xCA, 2, "LATIN CAPITAL LETTER ", "E WITH CIRCUMFLEX,I WITH GRAVE,I WITH CIRCUMFLEX,ETH"⟩,
   ⟨0xCB, 2,
    "LATIN CAPITAL LETTER ", "E WITH DIAERESIS,I WITH ACUTE,I WITH DIAERESIS,N WITH TILDE"⟩,
   ⟨0xD2, 1, "LATIN CAPITAL LETTER O WITH ", "GRAVE,ACUTE,CIRCUMFLEX,TILDE,DIAERESIS"⟩,
   ⟨0xD7, 1, "", "MULTIPLICATION SIGN,LATIN CAPITAL LETTER O WITH STROKE"⟩,
   ⟨0xD9, 1, "LATIN CAPITAL LETTER U WITH ", "GRAVE,ACUTE,CIRCUMFLEX,DIAERESIS"⟩,
   ⟨0xDD, 1, "LATIN ", "CAPITAL LETTER Y WITH ACUTE,CAPITAL LETTER THORN,SMALL LETTER SHARP S"⟩,
   ⟨0xE0, 1, "LATIN SMALL LETTER A WITH ", "GRAVE,ACUTE,CIRCUMFLEX,TILDE,DIAERESIS,RING ABOVE"⟩,
   ⟨0xE6, 1, "LATIN SMALL LETTER ", "AE,C WITH CEDILLA,E WITH GRAVE,E WITH ACUTE"⟩,
   ⟨0xEA, 2, "LATIN SMALL LETTER ", "E WITH CIRCUMFLEX,I WITH GRAVE,I WITH CIRCUMFLEX,ETH"⟩,
   ⟨0xEB, 2, "LATIN SMALL LETTER ", "E WITH DIAERESIS,I WITH ACUTE,I WITH DIAERESIS,N WITH TILDE"⟩,
   ⟨0xF2, 1, "LATIN SMALL LETTER O WITH ", "GRAVE,ACUTE,CIRCUMFLEX,TILDE,DIAERESIS"⟩,
   ⟨0xF7, 1, "", "DIVISION SIGN,LATIN SMALL LETTER O WITH STROKE"⟩,
   ⟨0xF9, 1, "LATIN SMALL LETTER U WITH ", "GRAVE,ACUTE,CIRCUMFLEX,DIAERESIS"⟩,
   ⟨0xFD, 1, "LATIN SMALL LETTER ", "Y WITH ACUTE,THORN,Y WITH DIAERESIS"⟩,
   ⟨0x100, 2, "LATIN CAPITAL LETTER A WITH ", "MACRON,BREVE,OGONEK"⟩,
   ⟨0x101, 2, "LATIN SMALL LETTER A WITH ", "MACRON,BREVE,OGONEK"⟩,
   ⟨0x106, 2, "LATIN CAPITAL LETTER C WITH ", "ACUTE,CIRCUMFLEX,DOT ABOVE,CARON"⟩,
   ⟨0x107, 2, "LATIN SMALL LETTER C WITH ", "ACUTE,CIRCUMFLEX,DOT ABOVE,CARON"⟩,
   ⟨0x10E, 2, "LATIN CAPITAL LETTER D WITH ", "CARON,STROKE"⟩,
   ⟨0x10F, 2, "LATIN SMALL LETTER D WITH ", "CARON,STROKE"⟩,
   ⟨0x112, 2, "LATIN CAPITAL LETTER E WITH ", "MACRON,BREVE,DOT ABOVE,OGONEK,CARON"⟩,
   ⟨0x113, 2, "LATIN SMALL LETTER E WITH ", "MACRON,BREVE,DOT ABOVE,OGONEK,CARON"⟩,
   ⟨0x11C, 2, "LATIN CAPITAL LETTER G WITH ", "CIRCUMFLEX,BREVE,DOT ABOVE,CEDILLA"⟩,
   ⟨0x11D, 2, "LATIN SMALL LETTER G WITH ", "CIRCUMFLEX,BREVE,DOT ABOVE,CEDILLA"⟩,
   ⟨0x124, 2, "LATIN CAPITAL LETTER H WITH ", "CIRCUMFLEX,STROKE"⟩,
   ⟨0x125, 2, "LATIN SMALL LETTER H WITH ", "CIRCUMFLEX,STROKE"⟩,
   ⟨0x128, 2, "LATIN CAPITAL LETTER I WITH ", "TILDE,MACRON,BREVE,OGONEK,DOT ABOVE"⟩,
   ⟨0x129, 2, "LATIN SMALL LETTER I WITH ", "TILDE,MACRON,BREVE,OGONEK"⟩,
   ⟨0x131, 2, "LATIN SMALL ", "LETTER DOTLESS I,LIGATURE IJ,LETTER J WITH CIRCUMFLEX"⟩,
   ⟨0x132, 2, "LATIN CAPITAL ", "LIGATURE IJ,LETTER J WITH CIRCUMFLEX,LETTER K WITH CEDILLA"⟩,
   ⟨0x137, 1, "LATIN SMALL LETTER ", "K WITH CEDILLA,KRA"⟩,
   ⟨0x139, 2, "LATIN CAPITAL LETTER L WITH ", "ACUTE,CEDILLA,CARON,MIDDLE DOT,STROKE"⟩,
   ⟨0x13A, 2, "LATIN SMALL LETTER L WITH ", "ACUTE,CEDILLA,CARON,MIDDLE DOT,STROKE"⟩,
   ⟨0x143, 2, "LATIN CAPITAL LETTER N WITH ", "ACUTE,CEDILLA,CARON"⟩,
   ⟨0x144, 2, "LATIN SMALL LETTER N WITH ", "ACUTE,CEDILLA,CARON"⟩,
   ⟨0x149, 2, "LATIN SMALL LETTER ", "N PRECEDED BY APOSTROPHE,ENG,O WITH MACRON,O WITH BREVE"⟩,
   ⟨0x14A, 2, "LATIN CAPITAL LETTER ", "ENG,O WITH MACRON,O WITH BREVE,O WITH DOUBLE ACUTE"⟩,
   ⟨0x151, 1, "LATIN ", "SMALL LETTER O WITH DOUBLE ACUTE,CAPITAL LIGATURE OE,SMALL LIGATURE OE"⟩,
   ⟨0x154, 2, "LATIN CAPITAL LETTER R WITH ", "ACUTE,CEDILLA,CARON"⟩,
   ⟨0x155, 2, "LATIN SMALL LETTER R WITH ", "ACUTE,CEDILLA,CARON"⟩,
   ⟨0x15A, 2, "LATIN CAPITAL LETTER S WITH ", "ACUTE,CIRCUMFLEX,CEDILLA,CARON"⟩,
   ⟨0x15B, 2, "LATIN SMALL LETTER S WITH ", "ACUTE,CIRCUMFLEX,CEDILLA,CARON"⟩,
   ⟨0x162, 2, "LATIN CAPITAL LETTER T WITH ", "CEDILLA,CARON,STROKE"⟩,
   ⟨0x163, 2, "LATIN SMALL LETTER T WITH ", "CEDILLA,CARON,STROKE"⟩,
   ⟨0x168, 2, "LATIN CAPITAL LETTER U WITH ", "TILDE,MACRON,BREVE,RING ABOVE,DOUBLE ACUTE,OGONEK"⟩,
   ⟨0x169, 2, "LATIN SMALL LETTER U WITH ", "TILDE,MACRON,BREVE,RING ABOVE,DOUBLE ACUTE,OGONEK"⟩,
   ⟨0x174, 2, "LATIN CAPITAL LETTER ", "W WITH CIRCUMFLEX,Y WITH CIRCUMFLEX,Y WITH DIAERESIS"⟩,
   ⟨0x175, 2, "LATIN SMALL LETTER ", "W WITH CIRCUMFLEX,Y WITH CIRCUMFLEX"⟩,
   ⟨0x179, 2, "LATIN CAPITAL LETTER Z WITH ", "ACUTE,DOT ABOVE,CARON"⟩,
   ⟨0x17A, 2, "LATIN SMALL LETTER Z WITH ", "ACUTE,DOT ABOVE,CARON"⟩,
   ⟨0x17F, 1,
    "LATIN ", "SMALL LETTER LONG S,SMALL LETTER B WITH STROKE,CAPITAL LETTER B WITH HOOK"⟩,
   ⟨0x182, 2, "LATIN CAPITAL LETTER ", "B WITH TOPBAR,TONE SIX,OPEN O"⟩,
   ⟨0x183, 2, "LATIN SMALL LETTER ", "B WITH TOPBAR,TONE SIX"⟩,
   ⟨0x187, 2, "LATIN CAPITAL LETTER ", "C WITH HOOK,AFRICAN D,D WITH TOPBAR"⟩,
   ⟨0x188, 2, "LATIN ", "SMALL LETTER C WITH HOOK,CAPITAL LETTER D WITH HOOK"⟩,
   ⟨0x18C, 1, "LATIN SMALL LETTER ", "D WITH TOPBAR,TURNED DELTA"⟩,
   ⟨0x18E, 1, "LATIN CAPITAL LETTER ", "REVERSED E,SCHWA,OPEN E,F WITH HOOK"⟩,
   ⟨0x192, 1, "LATIN SMALL LETTER F WITH HOOK", ""⟩,
   ⟨0x193, 2, "LATIN ", "CAPITAL LETTER G WITH HOOK,SMALL LETTER HV,CAPITAL LETTER I WITH STROKE"⟩,
   ⟨0x194, 2, "LATIN CAPITAL LETTER ", "GAMMA,IOTA,K WITH HOOK"⟩,
   ⟨0x199, 1, "LATIN SMALL LETTER ", "K WITH HOOK,L WITH BAR,LAMBDA WITH STROKE"⟩,
   ⟨0x19C, 2, "LATIN ", "CAPITAL LETTER TURNED M,SMALL LETTER N WITH LONG RIGHT LEG"⟩,
   ⟨0x19D, 2, "LATIN CAPITAL LETTER ", "N WITH LEFT HOOK,O WITH MIDDLE TILDE"⟩,
   ⟨0x1A0, 2, "LATIN CAPITAL LETTER ", "O WITH HORN,OI,P WITH HOOK"⟩,
   ⟨0x1A1, 2, "LATIN SMALL LETTER ", "O WITH HORN,OI,P WITH HOOK"⟩,
   ⟨0x1A6, 2, "LATIN ", "LETTER YR,SMALL LETTER TONE TWO,LETTER REVERSED ESH LOOP"⟩,
   ⟨0x1A7, 2, "LATIN CAPITAL LETTER ", "TONE TWO,ESH"⟩,
   ⟨0x1AB, 2, "LATIN SMALL LETTER T WITH ", "PALATAL HOOK,HOOK"⟩,
   ⟨0x1AC, 2, "LATIN CAPITAL LETTER T WITH ", "HOOK,RETROFLEX HOOK"⟩,
   ⟨0x1AF, 1, "LATIN ", "CAPITAL LETTER U WITH HORN,SMALL LETTER U WITH HORN"⟩,
   ⟨0x1B1, 2, "LATIN CAPITAL LETTER ", "UPSILON,Y WITH HOOK,Z WITH STROKE"⟩,
   ⟨0x1B2, 2, "LATIN ", "CAPITAL LETTER V WITH HOOK,SMALL LETTER Y WITH HOOK"⟩,
   ⟨0x1B6, 1,
    "LATIN ", "SMALL LETTER Z WITH STROKE,CAPITAL LETTER EZH,CAPITAL LETTER EZH REVERSED"⟩,
   ⟨0x1B9, 1, "LATIN SMALL LETTER EZH ", "REVERSED,WITH TAIL"⟩,
   ⟨0x1BB, 1, "LATIN ", "LETTER TWO WITH STROKE,CAPITAL LETTER TONE FIVE,SMALL LETTER TONE FIVE"⟩,
   ⟨0x1BE, 1, "LATIN LETTER ", "INVERTED GLOTTAL STOP WITH STROKE,WYNN,DENTAL CLICK,LATERAL CLICK"⟩,
   ⟨0x1C2, 1,
    "LATIN ", "LETTER ALVEOLAR CLICK,LETTER RETROFLEX CLICK,CAPITAL LETTER DZ WITH CARON"⟩,
   ⟨0x1C5, 2, "LATIN CAPITAL LETTER ", "D WITH SMALL LETTER Z WITH CARON,LJ"⟩,
   ⟨0x1C6, 2, "LATIN ", "SMALL LETTER DZ WITH CARON,CAPITAL LETTER L WITH SMALL LETTER J"⟩,
   ⟨0x1C9, 1, "LATIN ", "SMALL LETTER LJ,CAPITAL LETTER NJ,CAPITAL LETTER N WITH SMALL LETTER J"⟩,
   ⟨0x1CC, 2, "LATIN SMALL LETTER ", "NJ,A WITH CARON,I WITH CARON,O WITH CARON,U WITH CARON"⟩,
   ⟨0x1CD, 2, "LATIN CAPITAL LETTER ", "A WITH CARON,I WITH CARON,O WITH CARON,U WITH CARON"⟩,
   ⟨0x1D5, 2, "LATIN CAPITAL LETTER U WITH DIAERESIS AND ", "MACRON,ACUTE,CARON,GRAVE"⟩,
   ⟨0x1D6, 2, "LATIN SMALL LETTER U WITH DIAERESIS AND ", "MACRON,ACUTE,CARON,GRAVE"⟩,
   ⟨0x1DD, 1, "LATIN SMALL LETTER TURNED E", ""⟩,
   ⟨0x1DE, 2, "LATIN CAPITAL LETTER A WITH ", "DIAERESIS AND MACRON,DOT ABOVE AND MACRON"⟩,
   ⟨0x1DF, 2, "LATIN SMALL LETTER A WITH ", "DIAERESIS AND MACRON,DOT ABOVE AND MACRON"⟩,
   ⟨0x1E2, 2, "LATIN CAPITAL LETTER ", "AE WITH MACRON,G WITH STROKE,G WITH CARON,K WITH CARON"⟩,
   ⟨0x1E3, 2, "LATIN SMALL LETTER ", "AE WITH MACRON,G WITH STROKE,G WITH CARON,K WITH CARON"⟩,
   ⟨0x1EA, 2, "LATIN CAPITAL LETTER ", "O WITH OGONEK,O WITH OGONEK AND MACRON,EZH WITH CARON"⟩,
   ⟨0x1EB, 2, "LATIN SMALL LETTER ", "O WITH OGONEK,O WITH OGONEK AND MACRON,EZH WITH CARON"⟩,
   ⟨0x1F0, 1, "LATIN ", "SMALL LETTER J WITH CARON,CAPITAL LETTER DZ"⟩,
   ⟨0x1F2, 2, "LATIN CAPITAL LETTER ", "D WITH SMALL LETTER Z,G WITH ACUTE,HWAIR"⟩,
   ⟨0x1F3, 2, "LATIN ", "SMALL LETTER DZ,SMALL LETTER G WITH ACUTE,CAPITAL LETTER WYNN"⟩,
   ⟨0x1F8, 2, "LATIN CAPITAL LETTER ", "N WITH GRAVE,A WITH RING ABOVE AND ACUTE"⟩,
   ⟨0x1F9, 2, "LATIN SMALL LETTER ", "N WITH GRAVE,A WITH RING ABOVE AND ACUTE"⟩,
   ⟨0x1FC, 2, "LATIN CAPITAL LETTER ", "AE WITH ACUTE,O WITH STROKE AND ACUTE,A WITH DOUBLE GRAVE"⟩,
   ⟨0x1FD, 2, "LATIN SMALL LETTER ", "AE WITH ACUTE,O WITH STROKE AND ACUTE,A WITH DOUBLE GRAVE"⟩,
   ⟨0x202, 1, "LATIN ", "CAPITAL LETTER A WITH INVERTED BREVE,SMALL LETTER A WITH INVERTED BREVE"⟩,
   ⟨0x204, 2, "LATIN CAPITAL LETTER E WITH ", "DOUBLE GRAVE,INVERTED BREVE"⟩,
   ⟨0x205, 2, "LATIN SMALL LETTER E WITH ", "DOUBLE GRAVE,INVERTED BREVE"⟩,
   ⟨0x208, 2, "LATIN CAPITAL LETTER I WITH ", "DOUBLE GRAVE,INVERTED BREVE"⟩,
   ⟨0x209, 2, "LATIN SMALL LETTER I WITH ", "DOUBLE GRAVE,INVERTED BREVE"⟩,
   ⟨0x20C, 2, "LATIN CAPITAL LETTER O WITH ", "DOUBLE GRAVE,INVERTED BREVE"⟩,
   ⟨0x20D, 2, "LATIN SMALL LETTER O WITH ", "DOUBLE GRAVE,INVERTED BREVE"⟩,
   ⟨0x210, 2, "LATIN CAPITAL LETTER R WITH ", "DOUBLE GRAVE,INVERTED BREVE"⟩,
   ⟨0x211, 2, "LATIN SMALL LETTER R WITH ", "DOUBLE GRAVE,INVERTED BREVE"⟩,
   ⟨0x214, 2, "LATIN CAPITAL LETTER U WITH ", "DOUBLE GRAVE,INVERTED BREVE"⟩,
   ⟨0x215, 2, "LATIN SMALL LETTER U WITH ", "DOUBLE GRAVE,INVERTED BREVE"⟩,
   ⟨0x218, 1, "LATIN CAPITAL LETTER S WITH COMMA BELOW", ""⟩,
   ⟨0x219, 2, "LATIN SMALL LETTER ", "S WITH COMMA BELOW,T WITH COMMA BELOW,YOGH,H WITH CARON"⟩,
   ⟨0x21A, 2,
    "LATIN CAPITAL LETTER ", "T WITH COMMA BELOW,YOGH,H WITH CARON,N WITH LONG RIGHT LEG"⟩,
   ⟨0x221, 2, "LATIN SMALL LETTER ", "D WITH CURL,OU,Z WITH HOOK,A WITH DOT ABOVE,E WITH CEDILLA"⟩,
   ⟨0x222, 2, "LATIN CAPITAL LETTER ", "OU,Z WITH HOOK,A WITH DOT ABOVE,E WITH CEDILLA"⟩,
   ⟨0x22A, 2, "LATIN CAPITAL LETTER O WITH ", "DIAERESIS AND MACRON,TILDE AND MACRON,DOT ABOVE"⟩,
   ⟨0x22B, 2, "LATIN SMALL LETTER O WITH ", "DIAERESIS AND MACRON,TILDE AND MACRON,DOT ABOVE"⟩,
   ⟨0x230, 2, "LATIN CAPITAL LETTER ", "O WITH DOT ABOVE AND MACRON,Y WITH MACRON"⟩,
   ⟨0x231, 2, "LATIN SMALL LETTER ", "O WITH DOT ABOVE AND MACRON,Y WITH MACRON"⟩,
   ⟨0x234, 1, "LATIN SMALL LETTER ", "L WITH CURL,N WITH CURL,T WITH CURL,DOTLESS J,DB DIGRAPH"⟩,
   ⟨0x239, 1, "LATIN ", "SMALL LETTER QP DIGRAPH,CAPITAL LETTER A WITH STROKE"⟩,
   ⟨0x23B, 2, "LATIN CAPITAL LETTER ", "C WITH STROKE,L WITH BAR"⟩,
   ⟨0x23C, 2, "LATIN ", "SMALL LETTER C WITH STROKE,CAPITAL LETTER T WITH DIAGONAL STROKE"⟩,
   ⟨0x23F, 2, "LATIN ", "SMALL LETTER S WITH SWASH TAIL,CAPITAL LETTER GLOTTAL STOP"⟩,
   ⟨0x240, 2, "LATIN SMALL LETTER ", "Z WITH SWASH TAIL,GLOTTAL STOP"⟩,
   ⟨0x243, 1, "LATIN CAPITAL LETTER ", "B WITH STROKE,U BAR,TURNED V,E WITH STROKE"⟩,
   ⟨0x247, 2, "LATIN SMALL LETTER ", "E WITH STROKE,J WITH STROKE,Q WITH HOOK TAIL,R WITH STROKE"⟩,
   ⟨0x248, 2, "LATIN CAPITAL LETTER ", "J WITH STROKE,SMALL Q WITH HOOK TAIL,R WITH STROKE"⟩,
   ⟨0x24E, 1, "LATIN CAPITAL LETTER Y WITH STROKE", ""⟩,
   ⟨0x24F, 2, "LATIN SMALL LETTER ", "Y WITH STROKE,ALPHA,B WITH HOOK,C WITH CURL,D WITH HOOK"⟩,
   ⟨0x250, 2, "LATIN SMALL LETTER ", "TURNED A,TURNED ALPHA,OPEN O,D WITH TAIL,REVERSED E"⟩,
   ⟨0x259, 2,
    "LATIN SMALL LETTER ", "SCHWA,OPEN E,REVERSED OPEN E WITH HOOK,DOTLESS J WITH STROKE"⟩,
   ⟨0x25A, 2, "LATIN SMALL LETTER ", "SCHWA WITH HOOK,REVERSED OPEN E,CLOSED REVERSED OPEN E"⟩,
   ⟨0x260, 1, "LATIN ", "SMALL LETTER G WITH HOOK,SMALL LETTER SCRIPT G,LETTER SMALL CAPITAL G"⟩,
   ⟨0x263, 1, "LATIN SMALL LETTER ", "GAMMA,RAMS HORN,TURNED H,H WITH HOOK,HENG WITH HOOK"⟩,
   ⟨0x268, 1, "LATIN ", "SMALL LETTER I WITH STROKE,SMALL LETTER IOTA,LETTER SMALL CAPITAL I"⟩,
   ⟨0x26B, 1, "LATIN SMALL LETTER ", "L WITH MIDDLE TILDE,L WITH BELT,L WITH RETROFLEX HOOK,LEZH"⟩,
   ⟨0x26F, 1,
    "LATIN SMALL LETTER ", "TURNED M,TURNED M WITH LONG LEG,M WITH HOOK,N WITH LEFT HOOK"⟩,
   ⟨0x273, 2, "LATIN SMALL LETTER ", "N WITH RETROFLEX HOOK,BARRED O,CLOSED OMEGA,TURNED R"⟩,
   ⟨0x274, 2, "LATIN ", "LETTER SMALL CAPITAL N,LETTER SMALL CAPITAL OE,SMALL LETTER PHI"⟩,
   ⟨0x27A, 2, "LATIN SMALL LETTER ", "TURNED R WITH LONG LEG,R WITH LONG LEG,R WITH FISHHOOK"⟩,
   ⟨0x27B, 2, "LATIN SMALL LETTER ", "TURNED R WITH HOOK,R WITH TAIL,REVERSED R WITH FISHHOOK"⟩,
   ⟨0x280, 1, "LATIN LETTER SMALL CAPITAL ", "R,INVERTED R"⟩,
   ⟨0x282, 1, "LATIN SMALL LETTER ", "S WITH HOOK,ESH,DOTLESS J WITH STROKE AND HOOK"⟩,
   ⟨0x285, 2, "LATIN SMALL LETTER ", "SQUAT REVERSED ESH,TURNED T,U BAR,V WITH HOOK,TURNED W"⟩,
   ⟨0x286, 2, "LATIN SMALL LETTER ", "ESH WITH CURL,T WITH RETROFLEX HOOK,UPSILON,TURNED V"⟩,
   ⟨0x28E, 1, "LATIN ", "SMALL LETTER TURNED Y,LETTER SMALL CAPITAL Y"⟩,
   ⟨0x290, 1, "LATIN SMALL LETTER ", "Z WITH RETROFLEX HOOK,Z WITH CURL,EZH,EZH WITH CURL"⟩,
   ⟨0x294, 2, "LATIN LETTER ", "GLOTTAL STOP,INVERTED GLOTTAL STOP,BILABIAL CLICK"⟩,
   ⟨0x295, 2, "LATIN LETTER ", "PHARYNGEAL VOICED FRICATIVE,STRETCHED C,SMALL CAPITAL B"⟩,
   ⟨0x29A, 2, "LATIN ", "SMALL LETTER CLOSED OPEN E,LETTER SMALL CAPITAL H"⟩,
   ⟨0x29B, 2, "LATIN ", "LETTER SMALL CAPITAL G WITH HOOK,SMALL LETTER J WITH CROSSED-TAIL"⟩,
   ⟨0x29E, 2, "LATIN SMALL LETTER ", "TURNED K,Q WITH HOOK"⟩,
   ⟨0x29F, 2, "LATIN LETTER ", "SMALL CAPITAL L,GLOTTAL STOP WITH STROKE"⟩,
   ⟨0x2A2, 1, "LATIN ", "LETTER REVERSED GLOTTAL STOP WITH STROKE,SMALL LETTER DZ DIGRAPH"⟩,
   ⟨0x2A4, 2, "LATIN SMALL LETTER ", "DEZH DIGRAPH,TS DIGRAPH,TC DIGRAPH WITH CURL,LS DIGRAPH"⟩,
   ⟨0x2A5, 2, "LATIN SMALL LETTER ", "DZ DIGRAPH WITH CURL,TESH DIGRAPH,FENG DIGRAPH,LZ DIGRAPH"⟩,
   ⟨0x2AC, 1, "LATIN LETTER ", "BILABIAL PERCUSSIVE,BIDENTAL PERCUSSIVE"⟩,
   ⟨0x2AE, 1, "LATIN SMALL LETTER TURNED H WITH ", "FISHHOOK,FISHHOOK AND TAIL"⟩,
   ⟨0x2B0, 1, "MODIFIER LETTER SMALL ", "H,H WITH HOOK,J,R,TURNED R,TURNED R WITH HOOK"⟩,
   ⟨0x2B6, 1, "MODIFIER LETTER ", "SMALL CAPITAL INVERTED R,SMALL W,SMALL Y,PRIME,DOUBLE PRIME"⟩,
   ⟨0x2BB, 1, "MODIFIER LETTER ", "TURNED COMMA,APOSTROPHE,REVERSED COMMA,RIGHT HALF RING"⟩,
   ⟨0x2BF, 1, "MODIFIER LETTER ", "LEFT HALF RING,GLOTTAL STOP,REVERSED GLOTTAL STOP"⟩,
   ⟨0x2C2, 1, "MODIFIER LETTER ", "LEFT ARROWHEAD,RIGHT ARROWHEAD,UP ARROWHEAD,DOWN ARROWHEAD"⟩,
   ⟨0x2C6, 1, "", "MODIFIER LETTER CIRCUMFLEX ACCENT,CARON"⟩,
   ⟨0x2C8, 1, "MODIFIER LETTER ", "VERTICAL LINE,MACRON,ACUTE ACCENT,GRAVE ACCENT"⟩,
   ⟨0x2CC, 1, "MODIFIER LETTER LOW ", "VERTICAL LINE,MACRON,GRAVE ACCENT,ACUTE ACCENT"⟩,
   ⟨0x2D0, 1, "MODIFIER LETTER ", "TRIANGULAR COLON,HALF TRIANGULAR COLON,CENTRED RIGHT HALF RING"⟩,
   ⟨0x2D3, 1, "MODIFIER LETTER ", "CENTRED LEFT HALF RING,UP TACK,DOWN TACK,PLUS SIGN,MINUS SIGN"⟩,
   ⟨0x2D8, 1, "", "BREVE,DOT ABOVE,RING ABOVE,OGONEK,SMALL TILDE,DOUBLE ACUTE ACCENT"⟩,
   ⟨0x2DE, 1, "MODIFIER LETTER ", "RHOTIC HOOK,CROSS ACCENT,SMALL GAMMA,SMALL L"⟩,
   ⟨0x2E2, 2, "MODIFIER LETTER ", "SMALL S,SMALL REVERSED GLOTTAL STOP,HIGH TONE BAR,LOW TONE BAR"⟩,
   ⟨0x2E3, 2, "MODIFIER LETTER ", "SMALL X,EXTRA-HIGH TONE BAR,MID TONE BAR,EXTRA-LOW TONE BAR"⟩,
   ⟨0x2EA, 2, "MODIFIER LETTER ", "YIN DEPARTING TONE MARK,VOICING,DOUBLE APOSTROPHE"⟩,
   ⟨0x2EB, 2, "MODIFIER LETTER ", "YANG DEPARTING TONE MARK,UNASPIRATED,LOW DOWN ARROWHEAD"⟩,
   ⟨0x2F0, 1, "MODIFIER LETTER LOW ", "UP ARROWHEAD,LEFT ARROWHEAD,RIGHT ARROWHEAD,RING"⟩,
   ⟨0x2F4, 1, "MODIFIER LETTER MIDDLE ", "GRAVE ACCENT,DOUBLE GRAVE ACCENT,DOUBLE ACUTE ACCENT"⟩,
   ⟨0x2F7, 2, "MODIFIER LETTER ", "LOW TILDE,BEGIN HIGH TONE,BEGIN LOW TONE,SHELF,LOW LEFT ARROW"⟩,
   ⟨0x2F8, 2, "MODIFIER LETTER ", "RAISED COLON,END HIGH TONE,END LOW TONE,OPEN SHELF"⟩,
   ⟨0x300, 2, "COMBINING ", "GRAVE ACCENT,CIRCUMFLEX ACCENT,MACRON,BREVE,DIAERESIS,RING ABOVE"⟩,
   ⟨0x301, 2, "COMBINING ", "ACUTE ACCENT,TILDE,OVERLINE,DOT ABOVE,HOOK ABOVE,DOUBLE ACUTE ACCENT"⟩,
   ⟨0x30C, 2, "COMBINING ", "CARON,DOUBLE VERTICAL LINE ABOVE,CANDRABINDU,TURNED COMMA ABOVE"⟩,
   ⟨0x30D, 2, "COMBINING ", "VERTICAL LINE ABOVE,DOUBLE GRAVE ACCENT,INVERTED BREVE"⟩,
   ⟨0x313, 1,
    "COMBINING ", "COMMA ABOVE,REVERSED COMMA ABOVE,COMMA ABOVE RIGHT,GRAVE ACCENT BELOW"⟩,
   ⟨0x317, 2, "COMBINING ", "ACUTE ACCENT BELOW,RIGHT TACK BELOW,HORN,UP TACK BELOW"⟩,
   ⟨0x318, 2,
    "COMBINING ", "LEFT TACK BELOW,LEFT ANGLE ABOVE,LEFT HALF RING BELOW,DOWN TACK BELOW"⟩,
   ⟨0x31F, 2, "COMBINING ", "PLUS SIGN BELOW,PALATALIZED HOOK BELOW,DOT BELOW,RING BELOW,CEDILLA"⟩,
   ⟨0x320, 2, "COMBINING ", "MINUS SIGN BELOW,RETROFLEX HOOK BELOW,DIAERESIS BELOW,COMMA BELOW"⟩,
   ⟨0x328, 1, "COMBINING ", "OGONEK,VERTICAL LINE BELOW,BRIDGE BELOW,INVERTED DOUBLE ARCH BELOW"⟩,
   ⟨0x32C, 1, "COMBINING ", "CARON BELOW,CIRCUMFLEX ACCENT BELOW,BREVE BELOW,INVERTED BREVE BELOW"⟩,
   ⟨0x330, 1, "COMBINING ", "TILDE BELOW,MACRON BELOW,LOW LINE,DOUBLE LOW LINE,TILDE OVERLAY"⟩,
   ⟨0x335, 2, "COMBINING ", "SHORT STROKE OVERLAY,SHORT SOLIDUS OVERLAY,RIGHT HALF RING BELOW"⟩,
   ⟨0x336, 2, "COMBINING ", "LONG STROKE OVERLAY,LONG SOLIDUS OVERLAY,INVERTED BRIDGE BELOW"⟩,
   ⟨0x33B, 1, "COMBINING ", "SQUARE BELOW,SEAGULL BELOW,X ABOVE,VERTICAL TILDE,DOUBLE OVERLINE"⟩,
   ⟨0x340, 2, "COMBINING ", "GRAVE TONE MARK,GREEK PERISPOMENI,GREEK DIALYTIKA TONOS,BRIDGE ABOVE"⟩,
   ⟨0x341, 2, "COMBINING ", "ACUTE TONE MARK,GREEK KORONIS,GREEK YPOGEGRAMMENI,EQUALS SIGN BELOW"⟩,
   ⟨0x348, 1, "COMBINING ", "DOUBLE VERTICAL LINE BELOW,LEFT ANGLE BELOW,NOT TILDE ABOVE"⟩,
   ⟨0x34B, 2, "COMBINING ", "HOMOTHETIC ABOVE,LEFT RIGHT ARROW BELOW,GRAPHEME JOINER"⟩,
   ⟨0x34C, 2, "COMBINING ", "ALMOST EQUAL TO ABOVE,UPWARDS ARROW BELOW,RIGHT ARROWHEAD ABOVE"⟩,
   ⟨0x351, 1, "COMBINING ", "LEFT HALF RING ABOVE,FERMATA,X BELOW,LEFT ARROWHEAD BELOW"⟩,
   ⟨0x355, 1, "COMBINING RIGHT ARROWHEAD ", "BELOW,AND UP ARROWHEAD BELOW"⟩,
   ⟨0x357, 1, "COMBINING ", "RIGHT HALF RING ABOVE,DOT ABOVE RIGHT,ASTERISK BELOW"⟩,
   ⟨0x35A, 2, "COMBINING DOUBLE ", "RING BELOW,BREVE BELOW,MACRON,TILDE,RIGHTWARDS ARROW BELOW"⟩,
   ⟨0x35B, 2, "COMBINING ", "ZIGZAG ABOVE,DOUBLE BREVE,DOUBLE MACRON BELOW,DOUBLE INVERTED BREVE"⟩,
   ⟨0x363, 1, "COMBINING LATIN SMALL LETTER ", "A,E,I,O,U,C,D,H,M,R,T,V,X"⟩,
   ⟨0x370, 2, "GREEK ", "CAPITAL LETTER HETA,CAPITAL LETTER ARCHAIC SAMPI,NUMERAL SIGN"⟩,
   ⟨0x371, 2, "GREEK ", "SMALL LETTER HETA,SMALL LETTER ARCHAIC SAMPI,LOWER NUMERAL SIGN"⟩,
   ⟨0x376, 1, "GREEK ", "CAPITAL LETTER PAMPHYLIAN DIGAMMA,SMALL LETTER PAMPHYLIAN DIGAMMA"⟩,
   ⟨0x37A, 2, "GREEK ", "YPOGEGRAMMENI,SMALL DOTTED LUNATE SIGMA SYMBOL"⟩,
   ⟨0x37B, 2, "GREEK SMALL REVERSED ", "LUNATE SIGMA SYMBOL,DOTTED LUNATE SIGMA SYMBOL"⟩,
   ⟨0x37E, 1, "GREEK ", "QUESTION MARK,CAPITAL LETTER YOT"⟩,
   ⟨0x384, 1, "GREEK ", "TONOS,DIALYTIKA TONOS,CAPITAL LETTER ALPHA WITH TONOS,ANO TELEIA"⟩,
   ⟨0x388, 1, "GREEK CAPITAL LETTER ", "EPSILON WITH TONOS,ETA WITH TONOS,IOTA WITH TONOS"⟩,
   ⟨0x38C, 1, "GREEK CAPITAL LETTER OMICRON WITH TONOS", ""⟩,
   ⟨0x38E, 1, "GREEK CAPITAL LETTER ", "UPSILON WITH TONOS,OMEGA WITH TONOS"⟩,
   ⟨0x390, 1, "GREEK SMALL LETTER IOTA WITH DIALYTIKA AND TONOS", ""⟩,
   ⟨0x391, 2, "GREEK CAPITAL LETTER ", "ALPHA,GAMMA,EPSILON,ETA,IOTA,LAMDA,NU,OMICRON,RHO"⟩,
   ⟨0x392, 2, "GREEK CAPITAL LETTER ", "BETA,DELTA,ZETA,THETA,KAPPA,MU,XI,PI"⟩,
   ⟨0x3A3, 2, "GREEK CAPITAL LETTER ", "SIGMA,UPSILON,CHI,OMEGA,UPSILON WITH DIALYTIKA"⟩,
   ⟨0x3A4, 2, "GREEK CAPITAL LETTER ", "TAU,PHI,PSI,IOTA WITH DIALYTIKA"⟩,
   ⟨0x3AC, 1, "GREEK SMALL LETTER ", "ALPHA WITH TONOS,EPSILON WITH TONOS,ETA WITH TONOS"⟩,
   ⟨0x3AF, 1, "GREEK SMALL LETTER ", "IOTA WITH TONOS,UPSILON WITH DIALYTIKA AND TONOS,ALPHA"⟩,
   ⟨0x3B2, 2, "GREEK SMALL LETTER ", "BETA,DELTA,ZETA,THETA,KAPPA,MU,XI,PI,FINAL SIGMA,TAU,PHI"⟩,
   ⟨0x3B3, 2, "GREEK SMALL LETTER ", "GAMMA,EPSILON,ETA,IOTA,LAMDA,NU,OMICRON,RHO,SIGMA,UPSILON"⟩,
   ⟨0x3C7, 2, "GREEK SMALL LETTER ", "CHI,OMEGA,UPSILON WITH DIALYTIKA,UPSILON WITH TONOS"⟩,
   ⟨0x3C8, 2, "GREEK SMALL LETTER ", "PSI,IOTA WITH DIALYTIKA,OMICRON WITH TONOS,OMEGA WITH TONOS"⟩,
   ⟨0x3CF, 1, "GREEK ", "CAPITAL KAI SYMBOL,BETA SYMBOL,THETA SYMBOL"⟩,
   ⟨0x3D2, 1, "GREEK UPSILON WITH ", "HOOK SYMBOL,ACUTE AND HOOK SYMBOL,DIAERESIS AND HOOK SYMBOL"⟩,
   ⟨0x3D5, 1, "GREEK ", "PHI SYMBOL,PI SYMBOL,KAI SYMBOL"⟩,
   ⟨0x3D8, 2, "GREEK LETTER ", "ARCHAIC KOPPA,STIGMA,DIGAMMA,KOPPA,SAMPI"⟩,
   ⟨0x3D9, 2, "GREEK SMALL LETTER ", "ARCHAIC KOPPA,STIGMA,DIGAMMA,KOPPA,SAMPI"⟩,
   ⟨0x3E2, 2, "COPTIC CAPITAL LETTER ", "SHEI,FEI,KHEI,HORI,GANGIA,SHIMA,DEI"⟩,
   ⟨0x3E3, 2, "COPTIC SMALL LETTER ", "SHEI,FEI,KHEI,HORI,GANGIA,SHIMA,DEI"⟩,
   ⟨0x3F0, 2, "GREEK ", "KAPPA SYMBOL,LUNATE SIGMA SYMBOL,CAPITAL THETA SYMBOL"⟩,
   ⟨0x3F1, 2, "GREEK ", "RHO SYMBOL,LETTER YOT,LUNATE EPSILON SYMBOL"⟩,
   ⟨0x3F6, 2, "GREEK ", "REVERSED LUNATE EPSILON SYMBOL,SMALL LETTER SHO,CAPITAL LETTER SAN"⟩,
   ⟨0x3F7, 2, "GREEK ", "CAPITAL LETTER SHO,CAPITAL LUNATE SIGMA SYMBOL,SMALL LETTER SAN"⟩,
   ⟨0x3FC, 2, "GREEK ", "RHO WITH STROKE SYMBOL,CAPITAL DOTTED LUNATE SIGMA SYMBOL"⟩,
   ⟨0x3FD, 2, "GREEK CAPITAL REVERSED ", "LUNATE SIGMA SYMBOL,DOTTED LUNATE SIGMA SYMBOL"⟩,
   ⟨0x400, 1, "CYRILLIC CAPITAL LETTER ", "IE WITH GRAVE,IO,DJE,GJE,UKRAINIAN IE"⟩,
   ⟨0x405, 2, "CYRILLIC CAPITAL LETTER ", "DZE,YI,LJE,TSHE,I WITH GRAVE,DZHE,BE,GHE"⟩,
   ⟨0x406, 2, "CYRILLIC CAPITAL LETTER ", "BYELORUSSIAN-UKRAINIAN I,JE,NJE,KJE,SHORT U,A,VE,DE"⟩,
   ⟨0x415, 2, "CYRILLIC CAPITAL LETTER ", "IE,ZE,SHORT I,EL,EN,PE,ES,U,HA,CHE,SHCHA,YERU,E,YA"⟩,
   ⟨0x416, 2, "CYRILLIC CAPITAL LETTER ", "ZHE,I,KA,EM,O,ER,TE,EF,TSE,SHA,HARD SIGN,SOFT SIGN,YU"⟩,
   ⟨0x430, 1, "CYRILLIC SMALL LETTER ", "A,BE,VE,GHE,DE,IE,ZHE,ZE,I,SHORT I,KA,EL,EM,EN,O"⟩,
   ⟨0x43F, 2, "CYRILLIC SMALL LETTER ", "PE,ES,U,HA,CHE,SHCHA,YERU,E,YA,IO"⟩,
   ⟨0x440, 2,
    "CYRILLIC SMALL LETTER ", "ER,TE,EF,TSE,SHA,HARD SIGN,SOFT SIGN,YU,IE WITH GRAVE,DJE"⟩,
   ⟨0x453, 2, "CYRILLIC SMALL LETTER ", "GJE,DZE,YI,LJE,TSHE,I WITH GRAVE"⟩,
   ⟨0x454, 2, "CYRILLIC SMALL LETTER ", "UKRAINIAN IE,BYELORUSSIAN-UKRAINIAN I,JE,NJE,KJE,SHORT U"⟩,
   ⟨0x45F, 2, "CYRILLIC SMALL LETTER ", "DZHE,OMEGA,YAT,IOTIFIED E"⟩,
   ⟨0x460, 2, "CYRILLIC CAPITAL LETTER ", "OMEGA,YAT,IOTIFIED E"⟩,
   ⟨0x466, 2,
    "CYRILLIC CAPITAL LETTER ", "LITTLE YUS,IOTIFIED LITTLE YUS,BIG YUS,IOTIFIED BIG YUS"⟩,
   ⟨0x467, 2, "CYRILLIC SMALL LETTER ", "LITTLE YUS,IOTIFIED LITTLE YUS,BIG YUS,IOTIFIED BIG YUS"⟩,
   ⟨0x46E, 2, "CYRILLIC CAPITAL LETTER ", "KSI,PSI,FITA,IZHITSA,IZHITSA WITH DOUBLE GRAVE ACCENT"⟩,
   ⟨0x46F, 2, "CYRILLIC SMALL LETTER ", "KSI,PSI,FITA,IZHITSA,IZHITSA WITH DOUBLE GRAVE ACCENT"⟩,
   ⟨0x478, 2, "CYRILLIC CAPITAL LETTER ", "UK,ROUND OMEGA,OMEGA WITH TITLO,OT,KOPPA"⟩,
   ⟨0x479, 2, "CYRILLIC SMALL LETTER ", "UK,ROUND OMEGA,OMEGA WITH TITLO,OT,KOPPA"⟩,
   ⟨0x482, 1, "CYRILLIC THOUSANDS SIGN", ""⟩,
   ⟨0x483, 2, "COMBINING CYRILLIC ", "TITLO,DASIA PNEUMATA,POKRYTIE,MILLIONS SIGN"⟩,
   ⟨0x484, 2, "COMBINING CYRILLIC ", "PALATALIZATION,PSILI PNEUMATA,HUNDRED THOUSANDS SIGN"⟩,
   ⟨0x48A, 2, "CYRILLIC CAPITAL LETTER ", "SHORT I WITH TAIL,SEMISOFT SIGN,ER WITH TICK"⟩,
   ⟨0x48B, 2, "CYRILLIC SMALL LETTER ", "SHORT I WITH TAIL,SEMISOFT SIGN,ER WITH TICK"⟩,
   ⟨0x490, 2, "CYRILLIC CAPITAL LETTER GHE WITH ", "UPTURN,STROKE,MIDDLE HOOK"⟩,
   ⟨0x491, 2, "CYRILLIC SMALL LETTER GHE WITH ", "UPTURN,STROKE,MIDDLE HOOK"⟩,
   ⟨0x496, 2, "CYRILLIC CAPITAL LETTER ", "ZHE WITH DESCENDER,ZE WITH DESCENDER"⟩,
   ⟨0x497, 2, "CYRILLIC SMALL LETTER ", "ZHE WITH DESCENDER,ZE WITH DESCENDER"⟩,
   ⟨0x49A, 2, "CYRILLIC CAPITAL LETTER KA WITH ", "DESCENDER,VERTICAL STROKE,STROKE"⟩,
   ⟨0x49B, 2, "CYRILLIC SMALL LETTER KA WITH ", "DESCENDER,VERTICAL STROKE,STROKE"⟩,
   ⟨0x4A0, 2, "CYRILLIC CAPITAL ", "LETTER BASHKIR KA,LETTER EN WITH DESCENDER,LIGATURE EN GHE"⟩,
   ⟨0x4A1, 2, "CYRILLIC SMALL ", "LETTER BASHKIR KA,LETTER EN WITH DESCENDER,LIGATURE EN GHE"⟩,
   ⟨0x4A6, 2, "CYRILLIC CAPITAL LETTER ", "PE WITH MIDDLE HOOK,ABKHASIAN HA,ES WITH DESCENDER"⟩,
   ⟨0x4A7, 2, "CYRILLIC SMALL LETTER ", "PE WITH MIDDLE HOOK,ABKHASIAN HA,ES WITH DESCENDER"⟩,
   ⟨0x4AC, 2, "CYRILLIC CAPITAL LETTER ", "TE WITH DESCENDER,STRAIGHT U,STRAIGHT U WITH STROKE"⟩,
   ⟨0x4AD, 2, "CYRILLIC SMALL LETTER ", "TE WITH DESCENDER,STRAIGHT U,STRAIGHT U WITH STROKE"⟩,
   ⟨0x4B2, 2, "CYRILLIC CAPITAL ", "LETTER HA WITH DESCENDER,LIGATURE TE TSE"⟩,
   ⟨0x4B3, 2, "CYRILLIC SMALL ", "LETTER HA WITH DESCENDER,LIGATURE TE TSE"⟩,
   ⟨0x4B6, 2, "CYRILLIC CAPITAL LETTER ", "CHE WITH DESCENDER,CHE WITH VERTICAL STROKE,SHHA"⟩,
   ⟨0x4B7, 2, "CYRILLIC SMALL LETTER ", "CHE WITH DESCENDER,CHE WITH VERTICAL STROKE,SHHA"⟩,
   ⟨0x4BC, 2, "CYRILLIC CAPITAL LETTER ABKHASIAN ", "CHE,CHE WITH DESCENDER"⟩,
   ⟨0x4BD, 2, "CYRILLIC SMALL LETTER ABKHASIAN ", "CHE,CHE WITH DESCENDER"⟩,
   ⟨0x4C0, 1, "CYRILLIC LETTER PALOCHKA", ""⟩,
   ⟨0x4C1, 2, "CYRILLIC CAPITAL LETTER ", "ZHE WITH BREVE,KA WITH HOOK,EL WITH TAIL"⟩,
   ⟨0x4C2, 2, "CYRILLIC SMALL LETTER ", "ZHE WITH BREVE,KA WITH HOOK,EL WITH TAIL"⟩,
   ⟨0x4C7, 2, "CYRILLIC CAPITAL LETTER ", "EN WITH HOOK,EN WITH TAIL,KHAKASSIAN CHE,EM WITH TAIL"⟩,
   ⟨0x4C8, 2, "CYRILLIC SMALL LETTER ", "EN WITH HOOK,EN WITH TAIL,KHAKASSIAN CHE,EM WITH TAIL"⟩,
   ⟨0x4CF, 2, "CYRILLIC SMALL LETTER ", "PALOCHKA,A WITH BREVE,A WITH DIAERESIS"⟩,
   ⟨0x4D0, 2, "CYRILLIC CAPITAL LETTER A WITH ", "BREVE,DIAERESIS"⟩,
   ⟨0x4D4, 1,
    "CYRILLIC ", "CAPITAL LIGATURE A IE,SMALL LIGATURE A IE,CAPITAL LETTER IE WITH BREVE"⟩,
   ⟨0x4D7, 2, "CYRILLIC SMALL LETTER ", "IE WITH BREVE,SCHWA,SCHWA WITH DIAERESIS"⟩,
   ⟨0x4D8, 2, "CYRILLIC CAPITAL LETTER ", "SCHWA,SCHWA WITH DIAERESIS,ZHE WITH DIAERESIS"⟩,
   ⟨0x4DD, 2, "CYRILLIC SMALL LETTER ", "ZHE WITH DIAERESIS,ZE WITH DIAERESIS,ABKHASIAN DZE"⟩,
   ⟨0x4DE, 2, "CYRILLIC CAPITAL LETTER ", "ZE WITH DIAERESIS,ABKHASIAN DZE,I WITH MACRON"⟩,
   ⟨0x4E3, 2, "CYRILLIC SMALL LETTER ", "I WITH MACRON,I WITH DIAERESIS,O WITH DIAERESIS"⟩,
   ⟨0x4E4, 2, "CYRILLIC CAPITAL LETTER ", "I WITH DIAERESIS,O WITH DIAERESIS,BARRED O"⟩,
   ⟨0x4E9, 2, "CYRILLIC SMALL LETTER ", "BARRED O,BARRED O WITH DIAERESIS,E WITH DIAERESIS"⟩,
   ⟨0x4EA, 2, "CYRILLIC CAPITAL LETTER ", "BARRED O WITH DIAERESIS,E WITH DIAERESIS,U WITH MACRON"⟩,
   ⟨0x4EF, 2, "CYRILLIC SMALL LETTER U WITH ", "MACRON,DIAERESIS,DOUBLE ACUTE"⟩,
   ⟨0x4F0, 2,
    "CYRILLIC CAPITAL LETTER ", "U WITH DIAERESIS,U WITH DOUBLE ACUTE,CHE WITH DIAERESIS"⟩,
   ⟨0x4F5, 2,
    "CYRILLIC SMALL LETTER ", "CHE WITH DIAERESIS,GHE WITH DESCENDER,YERU WITH DIAERESIS"⟩,
   ⟨0x4F6, 2, "CYRILLIC CAPITAL LETTER ", "GHE WITH DESCENDER,YERU WITH DIAERESIS"⟩,
   ⟨0x4FA, 2, "CYRILLIC CAPITAL LETTER ", "GHE WITH STROKE AND HOOK,HA WITH HOOK,HA WITH STROKE"⟩,
   ⟨0x4FB, 2, "CYRILLIC SMALL LETTER ", "GHE WITH STROKE AND HOOK,HA WITH HOOK,HA WITH STROKE"⟩,
   ⟨0x500, 2, "CYRILLIC CAPITAL LETTER KOMI ", "DE,DJE,ZJE,DZJE,LJE,NJE,SJE,TJE"⟩,
   ⟨0x501, 2, "CYRILLIC SMALL LETTER KOMI ", "DE,DJE,ZJE,DZJE,LJE,NJE,SJE,TJE"⟩,
   ⟨0x510, 2, "CYRILLIC CAPITAL LETTER ", "REVERSED ZE,EL WITH HOOK,LHA,RHA,YAE"⟩,
   ⟨0x511, 2, "CYRILLIC SMALL LETTER ", "REVERSED ZE,EL WITH HOOK,LHA,RHA"⟩,
   ⟨0x519, 2, "CYRILLIC SMALL LETTER ", "YAE,QA,WE,ALEUT KA,EL WITH MIDDLE HOOK"⟩,
   ⟨0x51A, 2, "CYRILLIC CAPITAL LETTER ", "QA,WE,ALEUT KA,EL WITH MIDDLE HOOK,EN WITH MIDDLE HOOK"⟩,
   ⟨0x523, 2,
    "CYRILLIC SMALL LETTER ", "EN WITH MIDDLE HOOK,PE WITH DESCENDER,SHHA WITH DESCENDER"⟩,
   ⟨0x524, 2, "CYRILLIC CAPITAL LETTER ", "PE WITH DESCENDER,SHHA WITH DESCENDER"⟩,
   ⟨0x528, 2, "CYRILLIC CAPITAL LETTER ", "EN WITH LEFT HOOK,DZZHE,DCHE,EL WITH DESCENDER"⟩,
   ⟨0x529, 2, "CYRILLIC SMALL LETTER ", "EN WITH LEFT HOOK,DZZHE,DCHE,EL WITH DESCENDER"⟩,
   ⟨0x531, 1, "ARMENIAN CAPITAL LETTER ", "AYB,BEN,GIM,DA,ECH,ZA,EH,ET,TO,ZHE"⟩,
   ⟨0x53B, 2,
    "ARMENIAN CAPITAL LETTER ", "INI,XEH,KEN,JA,CHEH,YI,SHA,CHA,JHEH,SEH,TIWN,CO,PIWR,OH"⟩,
   ⟨0x53C, 2, "ARMENIAN CAPITAL LETTER ", "LIWN,CA,HO,GHAD,MEN,NOW,VO,PEH,RA,VEW,REH,YIWN,KEH,FEH"⟩,
   ⟨0x559, 2, "ARMENIAN ", "MODIFIER LETTER LEFT HALF RING,EMPHASIS MARK,COMMA,ABBREVIATION MARK"⟩,
   ⟨0x55A, 2, "ARMENIAN ", "APOSTROPHE,EXCLAMATION MARK,QUESTION MARK"⟩,
   ⟨0x560, 1, "ARMENIAN SMALL LETTER ", "TURNED AYB,AYB,BEN,GIM,DA,ECH,ZA,EH,ET,TO,ZHE"⟩,
   ⟨0x56B, 2, "ARMENIAN SMALL LETTER ", "INI,XEH,KEN,JA,CHEH,YI,SHA,CHA,JHEH,SEH,TIWN,CO,PIWR,OH"⟩,
   ⟨0x56C, 2, "ARMENIAN SMALL LETTER ", "LIWN,CA,HO,GHAD,MEN,NOW,VO,PEH,RA,VEW,REH,YIWN,KEH,FEH"⟩,
   ⟨0x587, 1, "ARMENIAN ", "SMALL LIGATURE ECH YIWN,SMALL LETTER YI WITH STROKE,FULL STOP,HYPHEN"⟩,
   ⟨0x58D, 1, "RIGHT-FACING ARMENIAN ETERNITY SIGN", ""⟩,
   ⟨0x58E, 1, "", "LEFT-FACING ARMENIAN ETERNITY SIGN,ARMENIAN DRAM SIGN"⟩]

end RegexSubst.Unicode
