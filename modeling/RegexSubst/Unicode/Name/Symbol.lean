import RegexSubst.Unicode.Name.Run

/-!
# `RegexSubst.Unicode.Name.Symbol`: names of U+2000 to U+2BFF

Punctuation, currency, arrows, mathematics, shapes.
-/

set_option autoImplicit false

namespace RegexSubst.Unicode

/-- The names of U+2000 to U+2BFF. -/
def symbolNames : List NameRun :=
  [⟨0x2000, 1, "", "EN QUAD,EM QUAD,EN SPACE,EM SPACE,THREE-PER-EM SPACE,FOUR-PER-EM SPACE"⟩,
   ⟨0x2006, 1, "", "SIX-PER-EM SPACE,FIGURE SPACE,PUNCTUATION SPACE,THIN SPACE,HAIR SPACE"⟩,
   ⟨0x200B, 1, "ZERO WIDTH ", "SPACE,NON-JOINER,JOINER"⟩,
   ⟨0x200E, 1, "", "LEFT-TO-RIGHT MARK,RIGHT-TO-LEFT MARK,HYPHEN,NON-BREAKING HYPHEN"⟩,
   ⟨0x2012, 1, "", "FIGURE DASH,EN DASH,EM DASH,HORIZONTAL BAR,DOUBLE VERTICAL LINE"⟩,
   ⟨0x2017, 1, "", "DOUBLE LOW LINE,LEFT SINGLE QUOTATION MARK,RIGHT SINGLE QUOTATION MARK"⟩,
   ⟨0x201A, 1, "SINGLE ", "LOW-9 QUOTATION MARK,HIGH-REVERSED-9 QUOTATION MARK"⟩,
   ⟨0x201C, 1, "", "LEFT DOUBLE QUOTATION MARK,RIGHT DOUBLE QUOTATION MARK"⟩,
   ⟨0x201E, 1, "DOUBLE ", "LOW-9 QUOTATION MARK,HIGH-REVERSED-9 QUOTATION MARK"⟩,
   ⟨0x2020, 1, "", "DAGGER,DOUBLE DAGGER,BULLET,TRIANGULAR BULLET,ONE DOT LEADER"⟩,
   ⟨0x2025, 1, "", "TWO DOT LEADER,HORIZONTAL ELLIPSIS,HYPHENATION POINT,LINE SEPARATOR"⟩,
   ⟨0x2029, 1, "", "PARAGRAPH SEPARATOR,LEFT-TO-RIGHT EMBEDDING,RIGHT-TO-LEFT EMBEDDING"⟩,
   ⟨0x202C, 1, "", "POP DIRECTIONAL FORMATTING,LEFT-TO-RIGHT OVERRIDE,RIGHT-TO-LEFT OVERRIDE"⟩,
   ⟨0x202F, 1, "", "NARROW NO-BREAK SPACE,PER MILLE SIGN,PER TEN THOUSAND SIGN,PRIME,DOUBLE PRIME"⟩,
   ⟨0x2034, 1, "", "TRIPLE PRIME,REVERSED PRIME,REVERSED DOUBLE PRIME,REVERSED TRIPLE PRIME,CARET"⟩,
   ⟨0x2039, 1, "SINGLE ", "LEFT-POINTING ANGLE QUOTATION MARK,RIGHT-POINTING ANGLE QUOTATION MARK"⟩,
   ⟨0x203B, 1, "", "REFERENCE MARK,DOUBLE EXCLAMATION MARK"⟩,
   ⟨0x203D, 1, "", "INTERROBANG,OVERLINE,UNDERTIE,CHARACTER TIE,CARET INSERTION POINT"⟩,
   ⟨0x2042, 1, "", "ASTERISM,HYPHEN BULLET,FRACTION SLASH,LEFT SQUARE BRACKET WITH QUILL"⟩,
   ⟨0x2046, 1,
    "", "RIGHT SQUARE BRACKET WITH QUILL,DOUBLE QUESTION MARK,QUESTION EXCLAMATION MARK"⟩,
   ⟨0x2049, 1, "", "EXCLAMATION QUESTION MARK,TIRONIAN SIGN ET,REVERSED PILCROW SIGN"⟩,
   ⟨0x204C, 1, "BLACK ", "LEFTWARDS BULLET,RIGHTWARDS BULLET"⟩,
   ⟨0x204E, 1, "", "LOW ASTERISK,REVERSED SEMICOLON,CLOSE UP,TWO ASTERISKS ALIGNED VERTICALLY"⟩,
   ⟨0x2052, 1, "", "COMMERCIAL MINUS SIGN,SWUNG DASH,INVERTED UNDERTIE,FLOWER PUNCTUATION MARK"⟩,
   ⟨0x2056, 1, "", "THREE DOT PUNCTUATION,QUADRUPLE PRIME,FOUR DOT PUNCTUATION"⟩,
   ⟨0x2059, 1, "", "FIVE DOT PUNCTUATION,TWO DOT PUNCTUATION,FOUR DOT MARK,DOTTED CROSS,TRICOLON"⟩,
   ⟨0x205E, 1, "", "VERTICAL FOUR DOTS,MEDIUM MATHEMATICAL SPACE,WORD JOINER,FUNCTION APPLICATION"⟩,
   ⟨0x2062, 1, "INVISIBLE ", "TIMES,SEPARATOR,PLUS"⟩,
   ⟨0x2066, 1, "", "LEFT-TO-RIGHT ISOLATE,RIGHT-TO-LEFT ISOLATE,FIRST STRONG ISOLATE"⟩,
   ⟨0x2069, 1,
    "", "POP DIRECTIONAL ISOLATE,INHIBIT SYMMETRIC SWAPPING,ACTIVATE SYMMETRIC SWAPPING"⟩,
   ⟨0x206C, 1,
    "", "INHIBIT ARABIC FORM SHAPING,ACTIVATE ARABIC FORM SHAPING,NATIONAL DIGIT SHAPES"⟩,
   ⟨0x206F, 1, "", "NOMINAL DIGIT SHAPES,SUPERSCRIPT ZERO,SUPERSCRIPT LATIN SMALL LETTER I"⟩,
   ⟨0x2074, 2, "SUPERSCRIPT ", "FOUR,SIX,EIGHT,PLUS SIGN,EQUALS SIGN,RIGHT PARENTHESIS"⟩,
   ⟨0x2075, 2, "SUPERSCRIPT ", "FIVE,SEVEN,NINE,MINUS,LEFT PARENTHESIS,LATIN SMALL LETTER N"⟩,
   ⟨0x2080, 2, "SUBSCRIPT ", "ZERO,TWO,FOUR,SIX,EIGHT,PLUS SIGN,EQUALS SIGN,RIGHT PARENTHESIS"⟩,
   ⟨0x2081, 2, "SUBSCRIPT ", "ONE,THREE,FIVE,SEVEN,NINE,MINUS,LEFT PARENTHESIS"⟩,
   ⟨0x2090, 1, "LATIN SUBSCRIPT SMALL LETTER ", "A,E,O,X,SCHWA,H,K,L,M,N,P,S,T"⟩,
   ⟨0x20A0, 1, "", "EURO-CURRENCY SIGN,COLON SIGN,CRUZEIRO SIGN,FRENCH FRANC SIGN"⟩,
   ⟨0x20A4, 1,
    "", "LIRA SIGN,MILL SIGN,NAIRA SIGN,PESETA SIGN,RUPEE SIGN,WON SIGN,NEW SHEQEL SIGN"⟩,
   ⟨0x20AB, 1, "", "DONG SIGN,EURO SIGN,KIP SIGN,TUGRIK SIGN,DRACHMA SIGN,GERMAN PENNY SIGN"⟩,
   ⟨0x20B1, 1,
    "", "PESO SIGN,GUARANI SIGN,AUSTRAL SIGN,HRYVNIA SIGN,CEDI SIGN,LIVRE TOURNOIS SIGN"⟩,
   ⟨0x20B7, 1, "", "SPESMILO SIGN,TENGE SIGN,INDIAN RUPEE SIGN,TURKISH LIRA SIGN"⟩,
   ⟨0x20BB, 1, "", "NORDIC MARK SIGN,MANAT SIGN,RUBLE SIGN,LARI SIGN,BITCOIN SIGN,SOM SIGN"⟩,
   ⟨0x20D0, 1, "COMBINING ", "LEFT HARPOON ABOVE,RIGHT HARPOON ABOVE,LONG VERTICAL LINE OVERLAY"⟩,
   ⟨0x20D3, 2, "COMBINING ", "SHORT VERTICAL LINE OVERLAY,CLOCKWISE ARROW ABOVE,RIGHT ARROW ABOVE"⟩,
   ⟨0x20D4, 2, "COMBINING ", "ANTICLOCKWISE ARROW ABOVE,LEFT ARROW ABOVE"⟩,
   ⟨0x20D8, 2, "COMBINING ", "RING OVERLAY,ANTICLOCKWISE RING OVERLAY,FOUR DOTS ABOVE"⟩,
   ⟨0x20D9, 2, "COMBINING ", "CLOCKWISE RING OVERLAY,THREE DOTS ABOVE,ENCLOSING CIRCLE"⟩,
   ⟨0x20DE, 2, "COMBINING ENCLOSING ", "SQUARE,CIRCLE BACKSLASH,SCREEN,UPWARD POINTING TRIANGLE"⟩,
   ⟨0x20DF, 2, "COMBINING ", "ENCLOSING DIAMOND,LEFT RIGHT ARROW ABOVE,ENCLOSING KEYCAP"⟩,
   ⟨0x20E5, 2, "COMBINING ", "REVERSE SOLIDUS OVERLAY,ANNUITY SYMBOL,WIDE BRIDGE ABOVE"⟩,
   ⟨0x20E6, 2, "COMBINING ", "DOUBLE VERTICAL STROKE OVERLAY,TRIPLE UNDERDOT"⟩,
   ⟨0x20EA, 2, "COMBINING ", "LEFTWARDS ARROW OVERLAY,RIGHTWARDS HARPOON WITH BARB DOWNWARDS"⟩,
   ⟨0x20EB, 2, "COMBINING ", "LONG DOUBLE SOLIDUS OVERLAY,LEFTWARDS HARPOON WITH BARB DOWNWARDS"⟩,
   ⟨0x20EE, 1, "COMBINING ", "LEFT ARROW BELOW,RIGHT ARROW BELOW,ASTERISK ABOVE"⟩,
   ⟨0x2100, 1, "", "ACCOUNT OF,ADDRESSED TO THE SUBJECT,DOUBLE-STRUCK CAPITAL C,DEGREE CELSIUS"⟩,
   ⟨0x2104, 1, "", "CENTRE LINE SYMBOL,CARE OF,CADA UNA,EULER CONSTANT,SCRUPLE,DEGREE FAHRENHEIT"⟩,
   ⟨0x210A, 1,
    "", "SCRIPT SMALL G,SCRIPT CAPITAL H,BLACK-LETTER CAPITAL H,DOUBLE-STRUCK CAPITAL H"⟩,
   ⟨0x210E, 1, "", "PLANCK CONSTANT,PLANCK CONSTANT OVER TWO PI,SCRIPT CAPITAL I"⟩,
   ⟨0x2111, 1, "", "BLACK-LETTER CAPITAL I,SCRIPT CAPITAL L,SCRIPT SMALL L,L B BAR SYMBOL"⟩,
   ⟨0x2115, 1,
    "", "DOUBLE-STRUCK CAPITAL N,NUMERO SIGN,SOUND RECORDING COPYRIGHT,SCRIPT CAPITAL P"⟩,
   ⟨0x2119, 1, "DOUBLE-STRUCK CAPITAL ", "P,Q"⟩,
   ⟨0x211B, 1, "", "SCRIPT CAPITAL R,BLACK-LETTER CAPITAL R,DOUBLE-STRUCK CAPITAL R"⟩,
   ⟨0x211E, 1, "", "PRESCRIPTION TAKE,RESPONSE,SERVICE MARK,TELEPHONE SIGN,TRADE MARK SIGN"⟩,
   ⟨0x2123, 1, "", "VERSICLE,DOUBLE-STRUCK CAPITAL Z,OUNCE SIGN,OHM SIGN,INVERTED OHM SIGN"⟩,
   ⟨0x2128, 1, "", "BLACK-LETTER CAPITAL Z,TURNED GREEK SMALL LETTER IOTA,KELVIN SIGN"⟩,
   ⟨0x212B, 1, "", "ANGSTROM SIGN,SCRIPT CAPITAL B,BLACK-LETTER CAPITAL C,ESTIMATED SYMBOL"⟩,
   ⟨0x212F, 1, "SCRIPT ", "SMALL E,CAPITAL E,CAPITAL F"⟩,
   ⟨0x2132, 1, "", "TURNED CAPITAL F,SCRIPT CAPITAL M,SCRIPT SMALL O,ALEF SYMBOL,BET SYMBOL"⟩,
   ⟨0x2137, 1, "", "GIMEL SYMBOL,DALET SYMBOL,INFORMATION SOURCE,ROTATED CAPITAL Q,FACSIMILE SIGN"⟩,
   ⟨0x213C, 1, "DOUBLE-STRUCK ", "SMALL PI,SMALL GAMMA,CAPITAL GAMMA,CAPITAL PI,N-ARY SUMMATION"⟩,
   ⟨0x2141, 1, "TURNED SANS-SERIF CAPITAL ", "G,L"⟩,
   ⟨0x2143, 1, "", "REVERSED SANS-SERIF CAPITAL L,TURNED SANS-SERIF CAPITAL Y"⟩,
   ⟨0x2145, 1, "DOUBLE-STRUCK ITALIC ", "CAPITAL D,SMALL D,SMALL E,SMALL I,SMALL J"⟩,
   ⟨0x214A, 1, "", "PROPERTY LINE,TURNED AMPERSAND"⟩,
   ⟨0x214C, 1, "", "PER SIGN,AKTIESELSKAB,TURNED SMALL F,SYMBOL FOR SAMARITAN SOURCE"⟩,
   ⟨0x2150, 1, "VULGAR FRACTION ", "ONE SEVENTH,ONE NINTH,ONE TENTH,ONE THIRD,TWO THIRDS"⟩,
   ⟨0x2155, 2, "VULGAR FRACTION ", "ONE FIFTH,THREE FIFTHS,ONE SIXTH,ONE EIGHTH,FIVE EIGHTHS"⟩,
   ⟨0x2156, 2,
    "VULGAR FRACTION ", "TWO FIFTHS,FOUR FIFTHS,FIVE SIXTHS,THREE EIGHTHS,SEVEN EIGHTHS"⟩,
   ⟨0x215F, 1, "FRACTION NUMERATOR ONE", ""⟩,
   ⟨0x2160, 2, "ROMAN NUMERAL ", "ONE,THREE,FIVE,SEVEN,NINE,ELEVEN,FIFTY,FIVE HUNDRED"⟩,
   ⟨0x2161, 2, "ROMAN NUMERAL ", "TWO,FOUR,SIX,EIGHT,TEN,TWELVE,ONE HUNDRED,ONE THOUSAND"⟩,
   ⟨0x2170, 2, "SMALL ROMAN NUMERAL ", "ONE,THREE,FIVE,SEVEN,NINE,ELEVEN,FIFTY,FIVE HUNDRED"⟩,
   ⟨0x2171, 2, "SMALL ROMAN NUMERAL ", "TWO,FOUR,SIX,EIGHT,TEN,TWELVE,ONE HUNDRED,ONE THOUSAND"⟩,
   ⟨0x2180, 1,
    "ROMAN NUMERAL ", "ONE THOUSAND C D,FIVE THOUSAND,TEN THOUSAND,REVERSED ONE HUNDRED"⟩,
   ⟨0x2184, 1, "", "LATIN SMALL LETTER REVERSED C,ROMAN NUMERAL SIX LATE FORM"⟩,
   ⟨0x2186, 1, "ROMAN NUMERAL ", "FIFTY EARLY FORM,FIFTY THOUSAND,ONE HUNDRED THOUSAND"⟩,
   ⟨0x2189, 1, "", "VULGAR FRACTION ZERO THIRDS,TURNED DIGIT TWO,TURNED DIGIT THREE"⟩,
   ⟨0x2190, 1, "", "LEFTWARDS ARROW,UPWARDS ARROW,RIGHTWARDS ARROW,DOWNWARDS ARROW"⟩,
   ⟨0x2194, 1, "", "LEFT RIGHT ARROW,UP DOWN ARROW,NORTH WEST ARROW,NORTH EAST ARROW"⟩,
   ⟨0x2198, 1, "SOUTH ", "EAST ARROW,WEST ARROW"⟩,
   ⟨0x219A, 2, "LEFTWARDS ", "ARROW WITH STROKE,WAVE ARROW,TWO HEADED ARROW"⟩,
   ⟨0x219B, 2, "RIGHTWARDS ", "ARROW WITH STROKE,WAVE ARROW"⟩,
   ⟨0x219F, 1, "", "UPWARDS TWO HEADED ARROW,RIGHTWARDS TWO HEADED ARROW"⟩,
   ⟨0x21A1, 1, "", "DOWNWARDS TWO HEADED ARROW,LEFTWARDS ARROW WITH TAIL"⟩,
   ⟨0x21A3, 1, "", "RIGHTWARDS ARROW WITH TAIL,LEFTWARDS ARROW FROM BAR,UPWARDS ARROW FROM BAR"⟩,
   ⟨0x21A6, 1, "", "RIGHTWARDS ARROW FROM BAR,DOWNWARDS ARROW FROM BAR,UP DOWN ARROW WITH BASE"⟩,
   ⟨0x21A9, 2, "LEFTWARDS ARROW WITH ", "HOOK,LOOP"⟩,
   ⟨0x21AA, 2, "RIGHTWARDS ARROW WITH ", "HOOK,LOOP"⟩,
   ⟨0x21AD, 1, "", "LEFT RIGHT WAVE ARROW,LEFT RIGHT ARROW WITH STROKE,DOWNWARDS ZIGZAG ARROW"⟩,
   ⟨0x21B0, 1, "UPWARDS ARROW WITH TIP ", "LEFTWARDS,RIGHTWARDS"⟩,
   ⟨0x21B2, 1, "DOWNWARDS ARROW WITH TIP ", "LEFTWARDS,RIGHTWARDS"⟩,
   ⟨0x21B4, 1, "RIGHTWARDS ARROW WITH CORNER DOWNWARDS", ""⟩,
   ⟨0x21B5, 1, "", "DOWNWARDS ARROW WITH CORNER LEFTWARDS,ANTICLOCKWISE TOP SEMICIRCLE ARROW"⟩,
   ⟨0x21B7, 1, "", "CLOCKWISE TOP SEMICIRCLE ARROW,NORTH WEST ARROW TO LONG BAR"⟩,
   ⟨0x21B9, 1, "LEFTWARDS ARROW TO BAR OVER RIGHTWARDS ARROW TO BAR", ""⟩,
   ⟨0x21BA, 1, "", "ANTICLOCKWISE OPEN CIRCLE ARROW,CLOCKWISE OPEN CIRCLE ARROW"⟩,
   ⟨0x21BC, 1, "LEFTWARDS HARPOON WITH BARB ", "UPWARDS,DOWNWARDS"⟩,
   ⟨0x21BE, 1, "UPWARDS HARPOON WITH BARB ", "RIGHTWARDS,LEFTWARDS"⟩,
   ⟨0x21C0, 1, "RIGHTWARDS HARPOON WITH BARB ", "UPWARDS,DOWNWARDS"⟩,
   ⟨0x21C2, 1, "DOWNWARDS HARPOON WITH BARB ", "RIGHTWARDS,LEFTWARDS"⟩,
   ⟨0x21C4, 1, "RIGHTWARDS ARROW OVER LEFTWARDS ARROW", ""⟩,
   ⟨0x21C5, 1, "UPWARDS ARROW LEFTWARDS OF DOWNWARDS ARROW", ""⟩,
   ⟨0x21C6, 1, "LEFTWARDS ", "ARROW OVER RIGHTWARDS ARROW,PAIRED ARROWS"⟩,
   ⟨0x21C8, 1, "", "UPWARDS PAIRED ARROWS,RIGHTWARDS PAIRED ARROWS"⟩,
   ⟨0x21CA, 1, "", "DOWNWARDS PAIRED ARROWS,LEFTWARDS HARPOON OVER RIGHTWARDS HARPOON"⟩,
   ⟨0x21CC, 1, "", "RIGHTWARDS HARPOON OVER LEFTWARDS HARPOON,LEFTWARDS DOUBLE ARROW WITH STROKE"⟩,
   ⟨0x21CE, 1, "", "LEFT RIGHT DOUBLE ARROW WITH STROKE,RIGHTWARDS DOUBLE ARROW WITH STROKE"⟩,
   ⟨0x21D0, 1, "", "LEFTWARDS DOUBLE ARROW,UPWARDS DOUBLE ARROW,RIGHTWARDS DOUBLE ARROW"⟩,
   ⟨0x21D3, 1, "", "DOWNWARDS DOUBLE ARROW,LEFT RIGHT DOUBLE ARROW,UP DOWN DOUBLE ARROW"⟩,
   ⟨0x21D6, 1, "NORTH ", "WEST DOUBLE ARROW,EAST DOUBLE ARROW"⟩,
   ⟨0x21D8, 1, "SOUTH ", "EAST DOUBLE ARROW,WEST DOUBLE ARROW"⟩,
   ⟨0x21DA, 1, "", "LEFTWARDS TRIPLE ARROW,RIGHTWARDS TRIPLE ARROW,LEFTWARDS SQUIGGLE ARROW"⟩,
   ⟨0x21DD, 1, "", "RIGHTWARDS SQUIGGLE ARROW,UPWARDS ARROW WITH DOUBLE STROKE"⟩,
   ⟨0x21DF, 1, "", "DOWNWARDS ARROW WITH DOUBLE STROKE,LEFTWARDS DASHED ARROW"⟩,
   ⟨0x21E1, 1, "", "UPWARDS DASHED ARROW,RIGHTWARDS DASHED ARROW,DOWNWARDS DASHED ARROW"⟩,
   ⟨0x21E4, 1, "", "LEFTWARDS ARROW TO BAR,RIGHTWARDS ARROW TO BAR,LEFTWARDS WHITE ARROW"⟩,
   ⟨0x21E7, 1, "", "UPWARDS WHITE ARROW,RIGHTWARDS WHITE ARROW,DOWNWARDS WHITE ARROW"⟩,
   ⟨0x21EA, 1, "UPWARDS WHITE ARROW ", "FROM BAR,ON PEDESTAL,ON PEDESTAL WITH HORIZONTAL BAR"⟩,
   ⟨0x21ED, 1, "UPWARDS WHITE ", "ARROW ON PEDESTAL WITH VERTICAL BAR,DOUBLE ARROW"⟩,
   ⟨0x21EF, 1, "", "UPWARDS WHITE DOUBLE ARROW ON PEDESTAL,RIGHTWARDS WHITE ARROW FROM WALL"⟩,
   ⟨0x21F1, 1, "", "NORTH WEST ARROW TO CORNER,SOUTH EAST ARROW TO CORNER,UP DOWN WHITE ARROW"⟩,
   ⟨0x21F4, 1, "", "RIGHT ARROW WITH SMALL CIRCLE,DOWNWARDS ARROW LEFTWARDS OF UPWARDS ARROW"⟩,
   ⟨0x21F6, 1, "", "THREE RIGHTWARDS ARROWS,LEFTWARDS ARROW WITH VERTICAL STROKE"⟩,
   ⟨0x21F8, 1, "", "RIGHTWARDS ARROW WITH VERTICAL STROKE,LEFT RIGHT ARROW WITH VERTICAL STROKE"⟩,
   ⟨0x21FA, 1, "LEFTWARDS ARROW WITH DOUBLE VERTICAL STROKE", ""⟩,
   ⟨0x21FB, 1, "RIGHTWARDS ARROW WITH DOUBLE VERTICAL STROKE", ""⟩,
   ⟨0x21FC, 1, "", "LEFT RIGHT ARROW WITH DOUBLE VERTICAL STROKE,LEFTWARDS OPEN-HEADED ARROW"⟩,
   ⟨0x21FE, 1, "", "RIGHTWARDS OPEN-HEADED ARROW,LEFT RIGHT OPEN-HEADED ARROW"⟩,
   ⟨0x2200, 1, "", "FOR ALL,COMPLEMENT,PARTIAL DIFFERENTIAL,THERE EXISTS,THERE DOES NOT EXIST"⟩,
   ⟨0x2205, 1, "", "EMPTY SET,INCREMENT,NABLA,ELEMENT OF,NOT AN ELEMENT OF,SMALL ELEMENT OF"⟩,
   ⟨0x220B, 1, "", "CONTAINS AS MEMBER,DOES NOT CONTAIN AS MEMBER,SMALL CONTAINS AS MEMBER"⟩,
   ⟨0x220E, 1, "", "END OF PROOF,N-ARY PRODUCT,N-ARY COPRODUCT,N-ARY SUMMATION,MINUS SIGN"⟩,
   ⟨0x2213, 1, "", "MINUS-OR-PLUS SIGN,DOT PLUS,DIVISION SLASH,SET MINUS,ASTERISK OPERATOR"⟩,
   ⟨0x2218, 1, "", "RING OPERATOR,BULLET OPERATOR,SQUARE ROOT,CUBE ROOT,FOURTH ROOT"⟩,
   ⟨0x221D, 1, "", "PROPORTIONAL TO,INFINITY,RIGHT ANGLE,ANGLE,MEASURED ANGLE,SPHERICAL ANGLE"⟩,
   ⟨0x2223, 1, "", "DIVIDES,DOES NOT DIVIDE,PARALLEL TO,NOT PARALLEL TO,LOGICAL AND"⟩,
   ⟨0x2228, 1, "", "LOGICAL OR,INTERSECTION,UNION,INTEGRAL,DOUBLE INTEGRAL,TRIPLE INTEGRAL"⟩,
   ⟨0x222E, 1, "", "CONTOUR INTEGRAL,SURFACE INTEGRAL,VOLUME INTEGRAL,CLOCKWISE INTEGRAL"⟩,
   ⟨0x2232, 1, "", "CLOCKWISE CONTOUR INTEGRAL,ANTICLOCKWISE CONTOUR INTEGRAL,THEREFORE"⟩,
   ⟨0x2235, 1, "", "BECAUSE,RATIO,PROPORTION,DOT MINUS,EXCESS,GEOMETRIC PROPORTION,HOMOTHETIC"⟩,
   ⟨0x223C, 1, "", "TILDE OPERATOR,REVERSED TILDE,INVERTED LAZY S,SINE WAVE,WREATH PRODUCT"⟩,
   ⟨0x2241, 1, "", "NOT TILDE,MINUS TILDE,ASYMPTOTICALLY EQUAL TO,NOT ASYMPTOTICALLY EQUAL TO"⟩,
   ⟨0x2245, 1, "APPROXIMATELY ", "EQUAL TO,BUT NOT ACTUALLY EQUAL TO"⟩,
   ⟨0x2247, 1, "NEITHER APPROXIMATELY NOR ACTUALLY EQUAL TO", ""⟩,
   ⟨0x2248, 1, "", "ALMOST EQUAL TO,NOT ALMOST EQUAL TO"⟩,
   ⟨0x224A, 1, "", "ALMOST EQUAL OR EQUAL TO,TRIPLE TILDE,ALL EQUAL TO,EQUIVALENT TO"⟩,
   ⟨0x224E, 1, "", "GEOMETRICALLY EQUIVALENT TO,DIFFERENCE BETWEEN,APPROACHES THE LIMIT"⟩,
   ⟨0x2251, 1, "", "GEOMETRICALLY EQUAL TO,APPROXIMATELY EQUAL TO OR THE IMAGE OF"⟩,
   ⟨0x2253, 1, "", "IMAGE OF OR APPROXIMATELY EQUAL TO,COLON EQUALS,EQUALS COLON,RING IN EQUAL TO"⟩,
   ⟨0x2257, 1, "", "RING EQUAL TO,CORRESPONDS TO,ESTIMATES,EQUIANGULAR TO,STAR EQUALS"⟩,
   ⟨0x225C, 1, "", "DELTA EQUAL TO,EQUAL TO BY DEFINITION,MEASURED BY,QUESTIONED EQUAL TO"⟩,
   ⟨0x2260, 1, "", "NOT EQUAL TO,IDENTICAL TO,NOT IDENTICAL TO,STRICTLY EQUIVALENT TO"⟩,
   ⟨0x2264, 2, "LESS-THAN ", "OR EQUAL TO,OVER EQUAL TO,BUT NOT EQUAL TO"⟩,
   ⟨0x2265, 2, "GREATER-THAN ", "OR EQUAL TO,OVER EQUAL TO,BUT NOT EQUAL TO"⟩,
   ⟨0x226A, 1, "", "MUCH LESS-THAN,MUCH GREATER-THAN,BETWEEN,NOT EQUIVALENT TO"⟩,
   ⟨0x226E, 1, "", "NOT LESS-THAN,NOT GREATER-THAN,NEITHER LESS-THAN NOR EQUAL TO"⟩,
   ⟨0x2271, 1, "", "NEITHER GREATER-THAN NOR EQUAL TO,LESS-THAN OR EQUIVALENT TO"⟩,
   ⟨0x2273, 1, "", "GREATER-THAN OR EQUIVALENT TO,NEITHER LESS-THAN NOR EQUIVALENT TO"⟩,
   ⟨0x2275, 1, "", "NEITHER GREATER-THAN NOR EQUIVALENT TO,LESS-THAN OR GREATER-THAN"⟩,
   ⟨0x2277, 1, "", "GREATER-THAN OR LESS-THAN,NEITHER LESS-THAN NOR GREATER-THAN"⟩,
   ⟨0x2279, 1, "", "NEITHER GREATER-THAN NOR LESS-THAN,PRECEDES,SUCCEEDS,PRECEDES OR EQUAL TO"⟩,
   ⟨0x227D, 1, "", "SUCCEEDS OR EQUAL TO,PRECEDES OR EQUIVALENT TO,SUCCEEDS OR EQUIVALENT TO"⟩,
   ⟨0x2280, 1, "", "DOES NOT PRECEDE,DOES NOT SUCCEED,SUBSET OF,SUPERSET OF,NOT A SUBSET OF"⟩,
   ⟨0x2285, 1, "", "NOT A SUPERSET OF,SUBSET OF OR EQUAL TO,SUPERSET OF OR EQUAL TO"⟩,
   ⟨0x2288, 1, "NEITHER A ", "SUBSET OF NOR EQUAL TO,SUPERSET OF NOR EQUAL TO"⟩,
   ⟨0x228A, 1, "", "SUBSET OF WITH NOT EQUAL TO,SUPERSET OF WITH NOT EQUAL TO"⟩,
   ⟨0x228C, 1, "", "MULTISET,MULTISET MULTIPLICATION,MULTISET UNION,SQUARE IMAGE OF"⟩,
   ⟨0x2290, 1, "SQUARE ", "ORIGINAL OF,IMAGE OF OR EQUAL TO,ORIGINAL OF OR EQUAL TO,CAP,CUP"⟩,
   ⟨0x2295, 2, "CIRCLED ", "PLUS,TIMES,DOT OPERATOR,ASTERISK OPERATOR,DASH"⟩,
   ⟨0x2296, 2, "CIRCLED ", "MINUS,DIVISION SLASH,RING OPERATOR,EQUALS"⟩,
   ⟨0x229E, 1, "SQUARED ", "PLUS,MINUS,TIMES,DOT OPERATOR"⟩,
   ⟨0x22A2, 1, "", "RIGHT TACK,LEFT TACK,DOWN TACK,UP TACK,ASSERTION,MODELS,TRUE,FORCES"⟩,
   ⟨0x22AA, 1,
    "", "TRIPLE VERTICAL BAR RIGHT TURNSTILE,DOUBLE VERTICAL BAR DOUBLE RIGHT TURNSTILE"⟩,
   ⟨0x22AC, 1, "", "DOES NOT PROVE,NOT TRUE,DOES NOT FORCE"⟩,
   ⟨0x22AF, 1, "", "NEGATED DOUBLE VERTICAL BAR DOUBLE RIGHT TURNSTILE,PRECEDES UNDER RELATION"⟩,
   ⟨0x22B1, 1, "", "SUCCEEDS UNDER RELATION,NORMAL SUBGROUP OF,CONTAINS AS NORMAL SUBGROUP"⟩,
   ⟨0x22B4, 1, "", "NORMAL SUBGROUP OF OR EQUAL TO,CONTAINS AS NORMAL SUBGROUP OR EQUAL TO"⟩,
   ⟨0x22B6, 1, "", "ORIGINAL OF,IMAGE OF,MULTIMAP,HERMITIAN CONJUGATE MATRIX"⟩,
   ⟨0x22BA, 1, "", "INTERCALATE,XOR,NAND,NOR,RIGHT ANGLE WITH ARC,RIGHT TRIANGLE"⟩,
   ⟨0x22C0, 1, "N-ARY ", "LOGICAL AND,LOGICAL OR,INTERSECTION,UNION"⟩,
   ⟨0x22C4, 1, "", "DIAMOND OPERATOR,DOT OPERATOR,STAR OPERATOR,DIVISION TIMES,BOWTIE"⟩,
   ⟨0x22C9, 1, "", "LEFT NORMAL FACTOR SEMIDIRECT PRODUCT,RIGHT NORMAL FACTOR SEMIDIRECT PRODUCT"⟩,
   ⟨0x22CB, 1, "", "LEFT SEMIDIRECT PRODUCT,RIGHT SEMIDIRECT PRODUCT,REVERSED TILDE EQUALS"⟩,
   ⟨0x22CE, 1, "CURLY LOGICAL ", "OR,AND"⟩,
   ⟨0x22D0, 1, "DOUBLE ", "SUBSET,SUPERSET,INTERSECTION,UNION"⟩,
   ⟨0x22D4, 1, "", "PITCHFORK,EQUAL AND PARALLEL TO,LESS-THAN WITH DOT,GREATER-THAN WITH DOT"⟩,
   ⟨0x22D8, 1, "VERY MUCH ", "LESS-THAN,GREATER-THAN"⟩,
   ⟨0x22DA, 1, "", "LESS-THAN EQUAL TO OR GREATER-THAN,GREATER-THAN EQUAL TO OR LESS-THAN"⟩,
   ⟨0x22DC, 1, "EQUAL TO OR ", "LESS-THAN,GREATER-THAN,PRECEDES,SUCCEEDS"⟩,
   ⟨0x22E0, 1, "DOES NOT ", "PRECEDE OR EQUAL,SUCCEED OR EQUAL"⟩,
   ⟨0x22E2, 1, "NOT SQUARE ", "IMAGE OF OR EQUAL TO,ORIGINAL OF OR EQUAL TO"⟩,
   ⟨0x22E4, 1, "SQUARE ", "IMAGE OF OR NOT EQUAL TO,ORIGINAL OF OR NOT EQUAL TO"⟩,
   ⟨0x22E6, 1, "", "LESS-THAN BUT NOT EQUIVALENT TO,GREATER-THAN BUT NOT EQUIVALENT TO"⟩,
   ⟨0x22E8, 1, "", "PRECEDES BUT NOT EQUIVALENT TO,SUCCEEDS BUT NOT EQUIVALENT TO"⟩,
   ⟨0x22EA, 2, "NOT NORMAL SUBGROUP ", "OF,OF OR EQUAL TO"⟩,
   ⟨0x22EB, 2, "DOES NOT CONTAIN AS NORMAL ", "SUBGROUP,SUBGROUP OR EQUAL"⟩,
   ⟨0x22EE, 1, "", "VERTICAL ELLIPSIS,MIDLINE HORIZONTAL ELLIPSIS,UP RIGHT DIAGONAL ELLIPSIS"⟩,
   ⟨0x22F1, 1, "", "DOWN RIGHT DIAGONAL ELLIPSIS,ELEMENT OF WITH LONG HORIZONTAL STROKE"⟩,
   ⟨0x22F3, 1, "ELEMENT OF WITH VERTICAL BAR AT END OF HORIZONTAL STROKE", ""⟩,
   ⟨0x22F4, 1, "SMALL ELEMENT OF WITH VERTICAL BAR AT END OF HORIZONTAL STROKE", ""⟩,
   ⟨0x22F5, 1, "ELEMENT OF WITH ", "DOT ABOVE,OVERBAR"⟩,
   ⟨0x22F7, 1, "", "SMALL ELEMENT OF WITH OVERBAR,ELEMENT OF WITH UNDERBAR"⟩,
   ⟨0x22F9, 1, "", "ELEMENT OF WITH TWO HORIZONTAL STROKES,CONTAINS WITH LONG HORIZONTAL STROKE"⟩,
   ⟨0x22FB, 2, "CONTAINS WITH ", "VERTICAL BAR AT END OF HORIZONTAL STROKE,OVERBAR"⟩,
   ⟨0x22FC, 2, "SMALL CONTAINS WITH ", "VERTICAL BAR AT END OF HORIZONTAL STROKE,OVERBAR"⟩,
   ⟨0x22FF, 1, "", "Z NOTATION BAG MEMBERSHIP,DIAMETER SIGN"⟩,
   ⟨0x2301, 1, "", "ELECTRIC ARROW,HOUSE,UP ARROWHEAD,DOWN ARROWHEAD,PROJECTIVE,PERSPECTIVE"⟩,
   ⟨0x2307, 1, "", "WAVY LINE,LEFT CEILING,RIGHT CEILING,LEFT FLOOR,RIGHT FLOOR,BOTTOM RIGHT CROP"⟩,
   ⟨0x230D, 1,
    "", "BOTTOM LEFT CROP,TOP RIGHT CROP,TOP LEFT CROP,REVERSED NOT SIGN,SQUARE LOZENGE"⟩,
   ⟨0x2312, 1, "", "ARC,SEGMENT,SECTOR,TELEPHONE RECORDER,POSITION INDICATOR,VIEWDATA SQUARE"⟩,
   ⟨0x2318, 1, "", "PLACE OF INTEREST SIGN,TURNED NOT SIGN,WATCH,HOURGLASS,TOP LEFT CORNER"⟩,
   ⟨0x231D, 1, "", "TOP RIGHT CORNER,BOTTOM LEFT CORNER,BOTTOM RIGHT CORNER,TOP HALF INTEGRAL"⟩,
   ⟨0x2321, 1, "", "BOTTOM HALF INTEGRAL,FROWN,SMILE,UP ARROWHEAD BETWEEN TWO HORIZONTAL BARS"⟩,
   ⟨0x2325, 1, "", "OPTION KEY,ERASE TO THE RIGHT,X IN A RECTANGLE BOX"⟩,
   ⟨0x2328, 1, "", "KEYBOARD,LEFT-POINTING ANGLE BRACKET,RIGHT-POINTING ANGLE BRACKET"⟩,
   ⟨0x232B, 1, "", "ERASE TO THE LEFT,BENZENE RING,CYLINDRICITY,ALL AROUND-PROFILE,SYMMETRY"⟩,
   ⟨0x2330, 1, "", "TOTAL RUNOUT,DIMENSION ORIGIN,CONICAL TAPER,SLOPE,COUNTERBORE,COUNTERSINK"⟩,
   ⟨0x2336, 1, "APL FUNCTIONAL SYMBOL ", "I-BEAM,SQUISH QUAD"⟩,
   ⟨0x2338, 1, "APL FUNCTIONAL SYMBOL QUAD ", "EQUAL,DIVIDE,DIAMOND,JOT,CIRCLE"⟩,
   ⟨0x233D, 1, "APL FUNCTIONAL SYMBOL ", "CIRCLE STILE,CIRCLE JOT,SLASH BAR,BACKSLASH BAR"⟩,
   ⟨0x2341, 1, "APL FUNCTIONAL SYMBOL QUAD ", "SLASH,BACKSLASH,LESS-THAN,GREATER-THAN"⟩,
   ⟨0x2345, 1, "APL FUNCTIONAL SYMBOL ", "LEFTWARDS VANE,RIGHTWARDS VANE,QUAD LEFTWARDS ARROW"⟩,
   ⟨0x2348, 2,
    "APL FUNCTIONAL SYMBOL ", "QUAD RIGHTWARDS ARROW,DOWN TACK UNDERBAR,QUAD DOWN CARET"⟩,
   ⟨0x2349, 2, "APL FUNCTIONAL SYMBOL ", "CIRCLE BACKSLASH,DELTA STILE,QUAD DELTA"⟩,
   ⟨0x234E, 2, "APL FUNCTIONAL SYMBOL ", "DOWN TACK JOT,QUAD UPWARDS ARROW,DEL STILE,QUAD DEL"⟩,
   ⟨0x234F, 2, "APL FUNCTIONAL SYMBOL ", "UPWARDS VANE,UP TACK OVERBAR,QUAD UP CARET,UP TACK JOT"⟩,
   ⟨0x2356, 2, "APL FUNCTIONAL SYMBOL ", "DOWNWARDS VANE,QUOTE UNDERBAR,DIAMOND UNDERBAR"⟩,
   ⟨0x2357, 2, "APL FUNCTIONAL SYMBOL ", "QUAD DOWNWARDS ARROW,DELTA UNDERBAR,JOT UNDERBAR"⟩,
   ⟨0x235C, 2, "APL FUNCTIONAL SYMBOL ", "CIRCLE UNDERBAR,QUOTE QUAD,QUAD COLON,DEL DIAERESIS"⟩,
   ⟨0x235D, 2,
    "APL FUNCTIONAL SYMBOL ", "UP SHOE JOT,CIRCLE STAR,UP TACK DIAERESIS,STAR DIAERESIS"⟩,
   ⟨0x2364, 2, "APL FUNCTIONAL SYMBOL ", "JOT DIAERESIS,DOWN SHOE STILE,TILDE DIAERESIS"⟩,
   ⟨0x2365, 2, "APL FUNCTIONAL SYMBOL ", "CIRCLE DIAERESIS,LEFT SHOE STILE,GREATER-THAN DIAERESIS"⟩,
   ⟨0x236A, 2, "APL FUNCTIONAL SYMBOL ", "COMMA BAR,ZILDE,SEMICOLON UNDERBAR,QUAD QUESTION"⟩,
   ⟨0x236B, 2, "APL FUNCTIONAL SYMBOL ", "DEL TILDE,STILE TILDE,QUAD NOT EQUAL,DOWN CARET TILDE"⟩,
   ⟨0x2372, 2, "APL FUNCTIONAL SYMBOL ", "UP CARET TILDE,RHO,ALPHA UNDERBAR,IOTA UNDERBAR,ALPHA"⟩,
   ⟨0x2373, 2, "APL FUNCTIONAL SYMBOL ", "IOTA,OMEGA,EPSILON UNDERBAR,OMEGA UNDERBAR"⟩,
   ⟨0x237B, 1, "", "NOT CHECK MARK,RIGHT ANGLE WITH DOWNWARDS ZIGZAG ARROW"⟩,
   ⟨0x237D, 1,
    "", "SHOULDERED OPEN BOX,BELL SYMBOL,VERTICAL LINE WITH MIDDLE DOT,INSERTION SYMBOL"⟩,
   ⟨0x2381, 1, "", "CONTINUOUS UNDERLINE SYMBOL,DISCONTINUOUS UNDERLINE SYMBOL,EMPHASIS SYMBOL"⟩,
   ⟨0x2384, 1, "", "COMPOSITION SYMBOL,WHITE SQUARE WITH CENTRE VERTICAL LINE,ENTER SYMBOL"⟩,
   ⟨0x2387, 1, "", "ALTERNATIVE KEY SYMBOL,HELM SYMBOL,CIRCLED HORIZONTAL BAR WITH NOTCH"⟩,
   ⟨0x238A, 1, "", "CIRCLED TRIANGLE DOWN,BROKEN CIRCLE WITH NORTHWEST ARROW"⟩,
   ⟨0x238C, 1, "", "UNDO SYMBOL,MONOSTABLE SYMBOL,HYSTERESIS SYMBOL"⟩,
   ⟨0x238F, 1, "OPEN-CIRCUIT-OUTPUT ", "H-TYPE SYMBOL,L-TYPE SYMBOL"⟩,
   ⟨0x2391, 1, "PASSIVE-PULL-", "DOWN-OUTPUT SYMBOL,UP-OUTPUT SYMBOL"⟩,
   ⟨0x2393, 1, "", "DIRECT CURRENT SYMBOL FORM TWO,SOFTWARE-FUNCTION SYMBOL"⟩,
   ⟨0x2395, 1, "", "APL FUNCTIONAL SYMBOL QUAD,DECIMAL SEPARATOR KEY SYMBOL"⟩,
   ⟨0x2397, 1, "", "PREVIOUS PAGE,NEXT PAGE,PRINT SCREEN SYMBOL,CLEAR SCREEN SYMBOL"⟩,
   ⟨0x239B, 1, "LEFT PARENTHESIS ", "UPPER HOOK,EXTENSION,LOWER HOOK"⟩,
   ⟨0x239E, 1, "RIGHT PARENTHESIS ", "UPPER HOOK,EXTENSION,LOWER HOOK"⟩,
   ⟨0x23A1, 1, "LEFT SQUARE BRACKET ", "UPPER CORNER,EXTENSION,LOWER CORNER"⟩,
   ⟨0x23A4, 1, "RIGHT SQUARE BRACKET ", "UPPER CORNER,EXTENSION,LOWER CORNER"⟩,
   ⟨0x23A7, 1, "LEFT CURLY BRACKET ", "UPPER HOOK,MIDDLE PIECE,LOWER HOOK"⟩,
   ⟨0x23AA, 1, "CURLY BRACKET EXTENSION", ""⟩,
   ⟨0x23AB, 1, "RIGHT CURLY BRACKET ", "UPPER HOOK,MIDDLE PIECE,LOWER HOOK"⟩,
   ⟨0x23AE, 1, "INTEGRAL EXTENSION", ""⟩,
   ⟨0x23AF, 1, "", "HORIZONTAL LINE EXTENSION,UPPER LEFT OR LOWER RIGHT CURLY BRACKET SECTION"⟩,
   ⟨0x23B1, 1, "UPPER RIGHT OR LOWER LEFT CURLY BRACKET SECTION", ""⟩,
   ⟨0x23B2, 1, "", "SUMMATION TOP,SUMMATION BOTTOM,TOP SQUARE BRACKET"⟩,
   ⟨0x23B5, 1, "BOTTOM SQUARE ", "BRACKET,BRACKET OVER TOP SQUARE BRACKET"⟩,
   ⟨0x23B7, 1, "", "RADICAL SYMBOL BOTTOM,LEFT VERTICAL BOX LINE,RIGHT VERTICAL BOX LINE"⟩,
   ⟨0x23BA, 1, "HORIZONTAL SCAN LINE-", "1,3,7,9"⟩,
   ⟨0x23BE, 1, "DENTISTRY SYMBOL LIGHT VERTICAL ", "AND TOP RIGHT,AND BOTTOM RIGHT,WITH CIRCLE"⟩,
   ⟨0x23C1, 1, "DENTISTRY SYMBOL LIGHT DOWN AND HORIZONTAL WITH CIRCLE", ""⟩,
   ⟨0x23C2, 1, "DENTISTRY SYMBOL LIGHT UP AND HORIZONTAL WITH CIRCLE", ""⟩,
   ⟨0x23C3, 2, "DENTISTRY SYMBOL LIGHT ", "VERTICAL WITH TRIANGLE,UP AND HORIZONTAL WITH TRIANGLE"⟩,
   ⟨0x23C4, 2, "DENTISTRY SYMBOL LIGHT ", "DOWN AND HORIZONTAL WITH TRIANGLE,VERTICAL AND WAVE"⟩,
   ⟨0x23C7, 2, "DENTISTRY SYMBOL LIGHT DOWN AND ", "HORIZONTAL WITH WAVE,HORIZONTAL"⟩,
   ⟨0x23C8, 2, "DENTISTRY SYMBOL LIGHT UP AND ", "HORIZONTAL WITH WAVE,HORIZONTAL"⟩,
   ⟨0x23CB, 1, "DENTISTRY SYMBOL LIGHT VERTICAL AND ", "TOP LEFT,BOTTOM LEFT"⟩,
   ⟨0x23CD, 1, "", "SQUARE FOOT,RETURN SYMBOL,EJECT SYMBOL,VERTICAL LINE EXTENSION"⟩,
   ⟨0x23D1, 2, "METRICAL ", "BREVE,SHORT OVER LONG,TWO SHORTS OVER LONG,TRISEME,PENTASEME"⟩,
   ⟨0x23D2, 2, "METRICAL ", "LONG OVER SHORT,LONG OVER TWO SHORTS,TWO SHORTS JOINED,TETRASEME"⟩,
   ⟨0x23DA, 1, "", "EARTH GROUND,FUSE,TOP PARENTHESIS,BOTTOM PARENTHESIS,TOP CURLY BRACKET"⟩,
   ⟨0x23DF, 1, "", "BOTTOM CURLY BRACKET,TOP TORTOISE SHELL BRACKET,BOTTOM TORTOISE SHELL BRACKET"⟩,
   ⟨0x23E2, 1, "", "WHITE TRAPEZIUM,BENZENE RING WITH CIRCLE,STRAIGHTNESS"⟩,
   ⟨0x23E5, 1, "", "FLATNESS,AC CURRENT,ELECTRICAL INTERSECTION,DECIMAL EXPONENT SYMBOL"⟩,
   ⟨0x23E9, 2, "BLACK ", "RIGHT-POINTING DOUBLE TRIANGLE,UP-POINTING DOUBLE TRIANGLE"⟩,
   ⟨0x23EA, 2, "BLACK ", "LEFT-POINTING DOUBLE TRIANGLE,DOWN-POINTING DOUBLE TRIANGLE"⟩,
   ⟨0x23ED, 1, "BLACK RIGHT-POINTING DOUBLE TRIANGLE WITH VERTICAL BAR", ""⟩,
   ⟨0x23EE, 1, "BLACK LEFT-POINTING DOUBLE TRIANGLE WITH VERTICAL BAR", ""⟩,
   ⟨0x23EF, 1, "BLACK RIGHT-POINTING TRIANGLE WITH DOUBLE VERTICAL BAR", ""⟩,
   ⟨0x23F0, 1, "", "ALARM CLOCK,STOPWATCH,TIMER CLOCK,HOURGLASS WITH FLOWING SAND"⟩,
   ⟨0x23F4, 2, "BLACK MEDIUM ", "LEFT-POINTING TRIANGLE,UP-POINTING TRIANGLE"⟩,
   ⟨0x23F5, 2, "BLACK MEDIUM ", "RIGHT-POINTING TRIANGLE,DOWN-POINTING TRIANGLE"⟩,
   ⟨0x23F8, 1, "", "DOUBLE VERTICAL BAR,BLACK SQUARE FOR STOP,BLACK CIRCLE FOR RECORD"⟩,
   ⟨0x23FB, 1, "POWER ", "SYMBOL,ON-OFF SYMBOL,ON SYMBOL,SLEEP SYMBOL"⟩,
   ⟨0x23FF, 1, "", "OBSERVER EYE SYMBOL,SYMBOL FOR NULL,SYMBOL FOR START OF HEADING"⟩,
   ⟨0x2402, 2, "SYMBOL FOR ", "START OF TEXT,END OF TRANSMISSION,ACKNOWLEDGE,BACKSPACE,LINE FEED"⟩,
   ⟨0x2403, 2, "SYMBOL FOR ", "END OF TEXT,ENQUIRY,BELL,HORIZONTAL TABULATION,VERTICAL TABULATION"⟩,
   ⟨0x240C, 1, "SYMBOL FOR ", "FORM FEED,CARRIAGE RETURN,SHIFT OUT,SHIFT IN,DATA LINK ESCAPE"⟩,
   ⟨0x2411, 1, "SYMBOL FOR DEVICE CONTROL ", "ONE,TWO,THREE,FOUR"⟩,
   ⟨0x2415, 1, "SYMBOL FOR ", "NEGATIVE ACKNOWLEDGE,SYNCHRONOUS IDLE,END OF TRANSMISSION BLOCK"⟩,
   ⟨0x2418, 2, "SYMBOL FOR ", "CANCEL,SUBSTITUTE,FILE SEPARATOR,RECORD SEPARATOR,SPACE"⟩,
   ⟨0x2419, 2, "SYMBOL FOR ", "END OF MEDIUM,ESCAPE,GROUP SEPARATOR,UNIT SEPARATOR,DELETE"⟩,
   ⟨0x2422, 1, "", "BLANK SYMBOL,OPEN BOX"⟩,
   ⟨0x2424, 1, "SYMBOL FOR ", "NEWLINE,DELETE FORM TWO,SUBSTITUTE FORM TWO"⟩,
   ⟨0x2440, 2, "OCR ", "HOOK,FORK,BELT BUCKLE,BRANCH BANK IDENTIFICATION,DASH,DOUBLE BACKSLASH"⟩,
   ⟨0x2441, 2, "OCR ", "CHAIR,INVERTED FORK,BOW TIE,AMOUNT OF CHECK,CUSTOMER ACCOUNT NUMBER"⟩,
   ⟨0x2460, 1, "CIRCLED DIGIT ", "ONE,TWO,THREE,FOUR,FIVE,SIX,SEVEN,EIGHT,NINE"⟩,
   ⟨0x2469, 2, "CIRCLED NUMBER ", "TEN,TWELVE,FOURTEEN,SIXTEEN,EIGHTEEN,TWENTY"⟩,
   ⟨0x246A, 2, "CIRCLED NUMBER ", "ELEVEN,THIRTEEN,FIFTEEN,SEVENTEEN,NINETEEN"⟩,
   ⟨0x2474, 1, "PARENTHESIZED DIGIT ", "ONE,TWO,THREE,FOUR,FIVE,SIX,SEVEN,EIGHT,NINE"⟩,
   ⟨0x247D, 2, "PARENTHESIZED NUMBER ", "TEN,TWELVE,FOURTEEN,SIXTEEN,EIGHTEEN,TWENTY"⟩,
   ⟨0x247E, 2, "PARENTHESIZED NUMBER ", "ELEVEN,THIRTEEN,FIFTEEN,SEVENTEEN,NINETEEN"⟩,
   ⟨0x2488, 2, "DIGIT ", "ONE FULL STOP,THREE FULL STOP,FIVE FULL STOP,SEVEN FULL STOP"⟩,
   ⟨0x2489, 2, "DIGIT ", "TWO FULL STOP,FOUR FULL STOP,SIX FULL STOP,EIGHT FULL STOP"⟩,
   ⟨0x2490, 1, "", "DIGIT NINE FULL STOP,NUMBER TEN FULL STOP"⟩,
   ⟨0x2492, 1,
    "NUMBER ", "ELEVEN FULL STOP,TWELVE FULL STOP,THIRTEEN FULL STOP,FOURTEEN FULL STOP"⟩,
   ⟨0x2496, 2, "NUMBER ", "FIFTEEN FULL STOP,SEVENTEEN FULL STOP,NINETEEN FULL STOP"⟩,
   ⟨0x2497, 2, "NUMBER ", "SIXTEEN FULL STOP,EIGHTEEN FULL STOP,TWENTY FULL STOP"⟩,
   ⟨0x249C, 2, "PARENTHESIZED LATIN SMALL LETTER ", "A,C,E,G,I,K,M,O,Q,S,U,W,Y"⟩,
   ⟨0x249D, 2, "PARENTHESIZED LATIN SMALL LETTER ", "B,D,F,H,J,L,N,P,R,T,V,X,Z"⟩,
   ⟨0x24B6, 2, "CIRCLED LATIN CAPITAL LETTER ", "A,C,E,G,I,K,M,O,Q,S,U,W,Y"⟩,
   ⟨0x24B7, 2, "CIRCLED LATIN CAPITAL LETTER ", "B,D,F,H,J,L,N,P,R,T,V,X,Z"⟩,
   ⟨0x24D0, 1,
    "CIRCLED LATIN SMALL LETTER ", "A,B,C,D,E,F,G,H,I,J,K,L,M,N,O,P,Q,R,S,T,U,V,W,X,Y,Z"⟩,
   ⟨0x24EA, 1, "CIRCLED DIGIT ZERO", ""⟩,
   ⟨0x24EB, 2, "NEGATIVE CIRCLED NUMBER ", "ELEVEN,THIRTEEN,FIFTEEN,SEVENTEEN,NINETEEN"⟩,
   ⟨0x24EC, 2, "NEGATIVE CIRCLED NUMBER ", "TWELVE,FOURTEEN,SIXTEEN,EIGHTEEN,TWENTY"⟩,
   ⟨0x24F5, 1, "DOUBLE CIRCLED DIGIT ", "ONE,TWO,THREE,FOUR,FIVE,SIX,SEVEN,EIGHT,NINE"⟩,
   ⟨0x24FE, 1, "", "DOUBLE CIRCLED NUMBER TEN,NEGATIVE CIRCLED DIGIT ZERO"⟩,
   ⟨0x2500, 1, "BOX DRAWINGS ", "LIGHT HORIZONTAL,HEAVY HORIZONTAL,LIGHT VERTICAL,HEAVY VERTICAL"⟩,
   ⟨0x2504, 2, "BOX DRAWINGS LIGHT TRIPLE DASH ", "HORIZONTAL,VERTICAL"⟩,
   ⟨0x2505, 2, "BOX DRAWINGS HEAVY TRIPLE DASH ", "HORIZONTAL,VERTICAL"⟩,
   ⟨0x2508, 2, "BOX DRAWINGS LIGHT QUADRUPLE DASH ", "HORIZONTAL,VERTICAL"⟩,
   ⟨0x2509, 2, "BOX DRAWINGS HEAVY QUADRUPLE DASH ", "HORIZONTAL,VERTICAL"⟩,
   ⟨0x250C, 1, "BOX DRAWINGS LIGHT DOWN AND RIGHT", ""⟩,
   ⟨0x250D, 1, "BOX DRAWINGS DOWN ", "LIGHT AND RIGHT HEAVY,HEAVY AND RIGHT LIGHT"⟩,
   ⟨0x250F, 1, "BOX DRAWINGS ", "HEAVY DOWN AND RIGHT,LIGHT DOWN AND LEFT"⟩,
   ⟨0x2511, 1, "BOX DRAWINGS DOWN ", "LIGHT AND LEFT HEAVY,HEAVY AND LEFT LIGHT"⟩,
   ⟨0x2513, 2, "BOX DRAWINGS ", "HEAVY DOWN AND LEFT,UP LIGHT AND RIGHT HEAVY,HEAVY UP AND RIGHT"⟩,
   ⟨0x2514, 2, "BOX DRAWINGS ", "LIGHT UP AND RIGHT,UP HEAVY AND RIGHT LIGHT,LIGHT UP AND LEFT"⟩,
   ⟨0x2519, 1, "BOX DRAWINGS UP ", "LIGHT AND LEFT HEAVY,HEAVY AND LEFT LIGHT"⟩,
   ⟨0x251B, 2, "BOX DRAWINGS ", "HEAVY UP AND LEFT,VERTICAL LIGHT AND RIGHT HEAVY"⟩,
   ⟨0x251C, 2, "BOX DRAWINGS ", "LIGHT VERTICAL AND RIGHT,UP HEAVY AND RIGHT DOWN LIGHT"⟩,
   ⟨0x251F, 2, "BOX DRAWINGS DOWN ", "HEAVY AND RIGHT UP LIGHT,LIGHT AND RIGHT UP HEAVY"⟩,
   ⟨0x2520, 2, "BOX DRAWINGS ", "VERTICAL HEAVY AND RIGHT LIGHT,UP LIGHT AND RIGHT DOWN HEAVY"⟩,
   ⟨0x2523, 2, "BOX DRAWINGS ", "HEAVY VERTICAL AND RIGHT,VERTICAL LIGHT AND LEFT HEAVY"⟩,
   ⟨0x2524, 2, "BOX DRAWINGS ", "LIGHT VERTICAL AND LEFT,UP HEAVY AND LEFT DOWN LIGHT"⟩,
   ⟨0x2527, 2, "BOX DRAWINGS DOWN ", "HEAVY AND LEFT UP LIGHT,LIGHT AND LEFT UP HEAVY"⟩,
   ⟨0x2528, 2, "BOX DRAWINGS ", "VERTICAL HEAVY AND LEFT LIGHT,UP LIGHT AND LEFT DOWN HEAVY"⟩,
   ⟨0x252B, 2, "BOX DRAWINGS ", "HEAVY VERTICAL AND LEFT,LEFT HEAVY AND RIGHT DOWN LIGHT"⟩,
   ⟨0x252C, 2, "BOX DRAWINGS ", "LIGHT DOWN AND HORIZONTAL,RIGHT HEAVY AND LEFT DOWN LIGHT"⟩,
   ⟨0x252F, 1, "BOX DRAWINGS DOWN ", "LIGHT AND HORIZONTAL HEAVY,HEAVY AND HORIZONTAL LIGHT"⟩,
   ⟨0x2531, 1, "BOX DRAWINGS ", "RIGHT LIGHT AND LEFT DOWN HEAVY,LEFT LIGHT AND RIGHT DOWN HEAVY"⟩,
   ⟨0x2533, 2, "BOX DRAWINGS ", "HEAVY DOWN AND HORIZONTAL,LEFT HEAVY AND RIGHT UP LIGHT"⟩,
   ⟨0x2534, 2, "BOX DRAWINGS ", "LIGHT UP AND HORIZONTAL,RIGHT HEAVY AND LEFT UP LIGHT"⟩,
   ⟨0x2537, 1, "BOX DRAWINGS UP ", "LIGHT AND HORIZONTAL HEAVY,HEAVY AND HORIZONTAL LIGHT"⟩,
   ⟨0x2539, 1, "BOX DRAWINGS ", "RIGHT LIGHT AND LEFT UP HEAVY,LEFT LIGHT AND RIGHT UP HEAVY"⟩,
   ⟨0x253B, 2, "BOX DRAWINGS ", "HEAVY UP AND HORIZONTAL,LEFT HEAVY AND RIGHT VERTICAL LIGHT"⟩,
   ⟨0x253C, 2,
    "BOX DRAWINGS ", "LIGHT VERTICAL AND HORIZONTAL,RIGHT HEAVY AND LEFT VERTICAL LIGHT"⟩,
   ⟨0x253F, 1, "BOX DRAWINGS VERTICAL LIGHT AND HORIZONTAL HEAVY", ""⟩,
   ⟨0x2540, 1, "BOX DRAWINGS UP HEAVY AND DOWN HORIZONTAL LIGHT", ""⟩,
   ⟨0x2541, 1, "BOX DRAWINGS DOWN HEAVY AND UP HORIZONTAL LIGHT", ""⟩,
   ⟨0x2542, 1, "BOX DRAWINGS VERTICAL HEAVY AND HORIZONTAL LIGHT", ""⟩,
   ⟨0x2543, 2, "BOX DRAWINGS LEFT ", "UP HEAVY AND RIGHT DOWN LIGHT,DOWN HEAVY AND RIGHT UP LIGHT"⟩,
   ⟨0x2544, 2, "BOX DRAWINGS RIGHT ", "UP HEAVY AND LEFT DOWN LIGHT,DOWN HEAVY AND LEFT UP LIGHT"⟩,
   ⟨0x2547, 1, "BOX DRAWINGS DOWN LIGHT AND UP HORIZONTAL HEAVY", ""⟩,
   ⟨0x2548, 1, "BOX DRAWINGS UP LIGHT AND DOWN HORIZONTAL HEAVY", ""⟩,
   ⟨0x2549, 1, "BOX DRAWINGS RIGHT LIGHT AND LEFT VERTICAL HEAVY", ""⟩,
   ⟨0x254A, 1,
    "BOX DRAWINGS ", "LEFT LIGHT AND RIGHT VERTICAL HEAVY,HEAVY VERTICAL AND HORIZONTAL"⟩,
   ⟨0x254C, 2, "BOX DRAWINGS LIGHT DOUBLE DASH ", "HORIZONTAL,VERTICAL"⟩,
   ⟨0x254D, 2, "BOX DRAWINGS HEAVY DOUBLE DASH ", "HORIZONTAL,VERTICAL"⟩,
   ⟨0x2550, 1, "BOX DRAWINGS ", "DOUBLE HORIZONTAL,DOUBLE VERTICAL,DOWN SINGLE AND RIGHT DOUBLE"⟩,
   ⟨0x2553, 2, "BOX DRAWINGS DOWN ", "DOUBLE AND RIGHT SINGLE,SINGLE AND LEFT DOUBLE"⟩,
   ⟨0x2554, 2, "BOX DRAWINGS ", "DOUBLE DOWN AND RIGHT,DOWN DOUBLE AND LEFT SINGLE"⟩,
   ⟨0x2557, 1, "BOX DRAWINGS ", "DOUBLE DOWN AND LEFT,UP SINGLE AND RIGHT DOUBLE"⟩,
   ⟨0x2559, 2, "BOX DRAWINGS UP ", "DOUBLE AND RIGHT SINGLE,SINGLE AND LEFT DOUBLE"⟩,
   ⟨0x255A, 2, "BOX DRAWINGS ", "DOUBLE UP AND RIGHT,UP DOUBLE AND LEFT SINGLE"⟩,
   ⟨0x255D, 1, "BOX DRAWINGS ", "DOUBLE UP AND LEFT,VERTICAL SINGLE AND RIGHT DOUBLE"⟩,
   ⟨0x255F, 2, "BOX DRAWINGS VERTICAL ", "DOUBLE AND RIGHT SINGLE,SINGLE AND LEFT DOUBLE"⟩,
   ⟨0x2560, 2, "BOX DRAWINGS ", "DOUBLE VERTICAL AND RIGHT,VERTICAL DOUBLE AND LEFT SINGLE"⟩,
   ⟨0x2563, 2, "BOX DRAWINGS ", "DOUBLE VERTICAL AND LEFT,DOWN DOUBLE AND HORIZONTAL SINGLE"⟩,
   ⟨0x2564, 2, "BOX DRAWINGS ", "DOWN SINGLE AND HORIZONTAL DOUBLE,DOUBLE DOWN AND HORIZONTAL"⟩,
   ⟨0x2567, 1, "BOX DRAWINGS UP ", "SINGLE AND HORIZONTAL DOUBLE,DOUBLE AND HORIZONTAL SINGLE"⟩,
   ⟨0x2569, 1, "BOX DRAWINGS ", "DOUBLE UP AND HORIZONTAL,VERTICAL SINGLE AND HORIZONTAL DOUBLE"⟩,
   ⟨0x256B, 1, "BOX DRAWINGS VERTICAL DOUBLE AND HORIZONTAL SINGLE", ""⟩,
   ⟨0x256C, 1, "BOX DRAWINGS DOUBLE VERTICAL AND HORIZONTAL", ""⟩,
   ⟨0x256D, 1, "BOX DRAWINGS LIGHT ARC ", "DOWN AND RIGHT,DOWN AND LEFT,UP AND LEFT,UP AND RIGHT"⟩,
   ⟨0x2571, 1, "BOX DRAWINGS LIGHT DIAGONAL UPPER ", "RIGHT TO LOWER LEFT,LEFT TO LOWER RIGHT"⟩,
   ⟨0x2573, 1, "BOX DRAWINGS LIGHT ", "DIAGONAL CROSS,LEFT,UP,RIGHT,DOWN"⟩,
   ⟨0x2578, 1, "BOX DRAWINGS HEAVY ", "LEFT,UP,RIGHT,DOWN"⟩,
   ⟨0x257C, 1, "BOX DRAWINGS LIGHT ", "LEFT AND HEAVY RIGHT,UP AND HEAVY DOWN"⟩,
   ⟨0x257E, 1, "BOX DRAWINGS HEAVY ", "LEFT AND LIGHT RIGHT,UP AND LIGHT DOWN"⟩,
   ⟨0x2580, 1, "", "UPPER HALF BLOCK,LOWER ONE EIGHTH BLOCK,LOWER ONE QUARTER BLOCK"⟩,
   ⟨0x2583, 1, "LOWER ", "THREE EIGHTHS BLOCK,HALF BLOCK,FIVE EIGHTHS BLOCK,THREE QUARTERS BLOCK"⟩,
   ⟨0x2587, 1, "", "LOWER SEVEN EIGHTHS BLOCK,FULL BLOCK,LEFT SEVEN EIGHTHS BLOCK"⟩,
   ⟨0x258A, 1, "LEFT ", "THREE QUARTERS BLOCK,FIVE EIGHTHS BLOCK,HALF BLOCK,THREE EIGHTHS BLOCK"⟩,
   ⟨0x258E, 1, "", "LEFT ONE QUARTER BLOCK,LEFT ONE EIGHTH BLOCK,RIGHT HALF BLOCK,LIGHT SHADE"⟩,
   ⟨0x2592, 1, "", "MEDIUM SHADE,DARK SHADE,UPPER ONE EIGHTH BLOCK,RIGHT ONE EIGHTH BLOCK"⟩,
   ⟨0x2596, 1, "QUADRANT ", "LOWER LEFT,LOWER RIGHT,UPPER LEFT"⟩,
   ⟨0x2599, 1, "QUADRANT UPPER LEFT AND LOWER ", "LEFT AND LOWER RIGHT,RIGHT"⟩,
   ⟨0x259B, 1, "QUADRANT UPPER LEFT AND UPPER RIGHT AND LOWER ", "LEFT,RIGHT"⟩,
   ⟨0x259D, 1,
    "QUADRANT UPPER ", "RIGHT,RIGHT AND LOWER LEFT,RIGHT AND LOWER LEFT AND LOWER RIGHT"⟩,
   ⟨0x25A0, 1, "", "BLACK SQUARE,WHITE SQUARE"⟩,
   ⟨0x25A2, 1, "WHITE SQUARE ", "WITH ROUNDED CORNERS,CONTAINING BLACK SMALL SQUARE"⟩,
   ⟨0x25A4, 1, "SQUARE WITH ", "HORIZONTAL FILL,VERTICAL FILL,ORTHOGONAL CROSSHATCH FILL"⟩,
   ⟨0x25A7, 1, "SQUARE WITH UPPER ", "LEFT TO LOWER RIGHT FILL,RIGHT TO LOWER LEFT FILL"⟩,
   ⟨0x25A9, 1, "SQUARE WITH DIAGONAL CROSSHATCH FILL", ""⟩,
   ⟨0x25AA, 2, "BLACK ", "SMALL SQUARE,RECTANGLE,VERTICAL RECTANGLE,PARALLELOGRAM"⟩,
   ⟨0x25AB, 2, "WHITE ", "SMALL SQUARE,RECTANGLE,VERTICAL RECTANGLE,PARALLELOGRAM"⟩,
   ⟨0x25B2, 2, "BLACK UP-POINTING ", "TRIANGLE,SMALL TRIANGLE"⟩,
   ⟨0x25B3, 2, "WHITE UP-POINTING ", "TRIANGLE,SMALL TRIANGLE"⟩,
   ⟨0x25B6, 2, "BLACK RIGHT-POINTING ", "TRIANGLE,SMALL TRIANGLE,POINTER"⟩,
   ⟨0x25B7, 2, "WHITE RIGHT-POINTING ", "TRIANGLE,SMALL TRIANGLE,POINTER"⟩,
   ⟨0x25BC, 2, "BLACK DOWN-POINTING ", "TRIANGLE,SMALL TRIANGLE"⟩,
   ⟨0x25BD, 2, "WHITE DOWN-POINTING ", "TRIANGLE,SMALL TRIANGLE"⟩,
   ⟨0x25C0, 2, "BLACK LEFT-POINTING ", "TRIANGLE,SMALL TRIANGLE,POINTER"⟩,
   ⟨0x25C1, 2, "WHITE LEFT-POINTING ", "TRIANGLE,SMALL TRIANGLE,POINTER"⟩,
   ⟨0x25C6, 1, "", "BLACK DIAMOND,WHITE DIAMOND,WHITE DIAMOND CONTAINING BLACK SMALL DIAMOND"⟩,
   ⟨0x25C9, 1, "", "FISHEYE,LOZENGE,WHITE CIRCLE,DOTTED CIRCLE,CIRCLE WITH VERTICAL FILL"⟩,
   ⟨0x25CE, 1,
    "", "BULLSEYE,BLACK CIRCLE,CIRCLE WITH LEFT HALF BLACK,CIRCLE WITH RIGHT HALF BLACK"⟩,
   ⟨0x25D2, 1, "CIRCLE WITH ", "LOWER HALF BLACK,UPPER HALF BLACK,UPPER RIGHT QUADRANT BLACK"⟩,
   ⟨0x25D5, 1, "", "CIRCLE WITH ALL BUT UPPER LEFT QUADRANT BLACK,LEFT HALF BLACK CIRCLE"⟩,
   ⟨0x25D7, 1, "", "RIGHT HALF BLACK CIRCLE,INVERSE BULLET,INVERSE WHITE CIRCLE"⟩,
   ⟨0x25DA, 1, "", "UPPER HALF INVERSE WHITE CIRCLE,LOWER HALF INVERSE WHITE CIRCLE"⟩,
   ⟨0x25DC, 1, "UPPER ", "LEFT QUADRANT CIRCULAR ARC,RIGHT QUADRANT CIRCULAR ARC"⟩,
   ⟨0x25DE, 1, "LOWER ", "RIGHT QUADRANT CIRCULAR ARC,LEFT QUADRANT CIRCULAR ARC"⟩,
   ⟨0x25E0, 1, "", "UPPER HALF CIRCLE,LOWER HALF CIRCLE,BLACK LOWER RIGHT TRIANGLE"⟩,
   ⟨0x25E3, 1, "BLACK ", "LOWER LEFT TRIANGLE,UPPER LEFT TRIANGLE,UPPER RIGHT TRIANGLE"⟩,
   ⟨0x25E6, 1, "", "WHITE BULLET,SQUARE WITH LEFT HALF BLACK,SQUARE WITH RIGHT HALF BLACK"⟩,
   ⟨0x25E9, 1, "SQUARE WITH ", "UPPER LEFT DIAGONAL HALF BLACK,LOWER RIGHT DIAGONAL HALF BLACK"⟩,
   ⟨0x25EB, 1, "WHITE ", "SQUARE WITH VERTICAL BISECTING LINE,UP-POINTING TRIANGLE WITH DOT"⟩,
   ⟨0x25ED, 1, "UP-POINTING TRIANGLE WITH ", "LEFT HALF BLACK,RIGHT HALF BLACK"⟩,
   ⟨0x25EF, 1, "LARGE CIRCLE", ""⟩,
   ⟨0x25F0, 2, "WHITE SQUARE WITH ", "UPPER LEFT QUADRANT,LOWER RIGHT QUADRANT"⟩,
   ⟨0x25F1, 2, "WHITE SQUARE WITH ", "LOWER LEFT QUADRANT,UPPER RIGHT QUADRANT"⟩,
   ⟨0x25F4, 2, "WHITE CIRCLE WITH ", "UPPER LEFT QUADRANT,LOWER RIGHT QUADRANT"⟩,
   ⟨0x25F5, 2, "WHITE CIRCLE WITH ", "LOWER LEFT QUADRANT,UPPER RIGHT QUADRANT"⟩,
   ⟨0x25F8, 1, "", "UPPER LEFT TRIANGLE,UPPER RIGHT TRIANGLE,LOWER LEFT TRIANGLE"⟩,
   ⟨0x25FB, 1, "", "WHITE MEDIUM SQUARE,BLACK MEDIUM SQUARE,WHITE MEDIUM SMALL SQUARE"⟩,
   ⟨0x25FE, 1, "", "BLACK MEDIUM SMALL SQUARE,LOWER RIGHT TRIANGLE,BLACK SUN WITH RAYS"⟩,
   ⟨0x2601, 1, "", "CLOUD,UMBRELLA,SNOWMAN,COMET,BLACK STAR,WHITE STAR,LIGHTNING,THUNDERSTORM"⟩,
   ⟨0x2609, 1, "", "SUN,ASCENDING NODE,DESCENDING NODE,CONJUNCTION,OPPOSITION,BLACK TELEPHONE"⟩,
   ⟨0x260F, 1, "", "WHITE TELEPHONE,BALLOT BOX,BALLOT BOX WITH CHECK,BALLOT BOX WITH X,SALTIRE"⟩,
   ⟨0x2614, 1, "", "UMBRELLA WITH RAIN DROPS,HOT BEVERAGE,WHITE SHOGI PIECE,BLACK SHOGI PIECE"⟩,
   ⟨0x2618, 1, "", "SHAMROCK,REVERSED ROTATED FLORAL HEART BULLET,BLACK LEFT POINTING INDEX"⟩,
   ⟨0x261B, 1, "", "BLACK RIGHT POINTING INDEX,WHITE LEFT POINTING INDEX,WHITE UP POINTING INDEX"⟩,
   ⟨0x261E, 1, "", "WHITE RIGHT POINTING INDEX,WHITE DOWN POINTING INDEX,SKULL AND CROSSBONES"⟩,
   ⟨0x2621, 1, "", "CAUTION SIGN,RADIOACTIVE SIGN,BIOHAZARD SIGN,CADUCEUS,ANKH"⟩,
   ⟨0x2626, 1, "", "ORTHODOX CROSS,CHI RHO,CROSS OF LORRAINE,CROSS OF JERUSALEM,STAR AND CRESCENT"⟩,
   ⟨0x262B, 1, "", "FARSI SYMBOL,ADI SHAKTI,HAMMER AND SICKLE,PEACE SYMBOL,YIN YANG"⟩,
   ⟨0x2630, 1, "TRIGRAM FOR ", "HEAVEN,LAKE,FIRE,THUNDER,WIND,WATER,MOUNTAIN,EARTH"⟩,
   ⟨0x2638, 1, "", "WHEEL OF DHARMA,WHITE FROWNING FACE,WHITE SMILING FACE,BLACK SMILING FACE"⟩,
   ⟨0x263C, 1, "", "WHITE SUN WITH RAYS,FIRST QUARTER MOON,LAST QUARTER MOON,MERCURY"⟩,
   ⟨0x2640, 1, "", "FEMALE SIGN,EARTH,MALE SIGN,JUPITER,SATURN,URANUS,NEPTUNE,PLUTO,ARIES,TAURUS"⟩,
   ⟨0x264A, 1, "", "GEMINI,CANCER,LEO,VIRGO,LIBRA,SCORPIUS,SAGITTARIUS,CAPRICORN,AQUARIUS,PISCES"⟩,
   ⟨0x2654, 1, "WHITE CHESS ", "KING,QUEEN,ROOK,BISHOP,KNIGHT,PAWN"⟩,
   ⟨0x265A, 1, "BLACK CHESS ", "KING,QUEEN,ROOK,BISHOP,KNIGHT,PAWN"⟩,
   ⟨0x2660, 1, "", "BLACK SPADE SUIT,WHITE HEART SUIT,WHITE DIAMOND SUIT"⟩,
   ⟨0x2663, 1, "", "BLACK CLUB SUIT,WHITE SPADE SUIT,BLACK HEART SUIT,BLACK DIAMOND SUIT"⟩,
   ⟨0x2667, 1, "", "WHITE CLUB SUIT,HOT SPRINGS,QUARTER NOTE,EIGHTH NOTE,BEAMED EIGHTH NOTES"⟩,
   ⟨0x266C, 1, "", "BEAMED SIXTEENTH NOTES,MUSIC FLAT SIGN,MUSIC NATURAL SIGN,MUSIC SHARP SIGN"⟩,
   ⟨0x2670, 1, "", "WEST SYRIAC CROSS,EAST SYRIAC CROSS,UNIVERSAL RECYCLING SYMBOL"⟩,
   ⟨0x2673, 2, "RECYCLING SYMBOL FOR TYPE-", "1 PLASTICS,3 PLASTICS,5 PLASTICS,7 PLASTICS"⟩,
   ⟨0x2674, 2, "RECYCLING SYMBOL FOR TYPE-", "2 PLASTICS,4 PLASTICS,6 PLASTICS"⟩,
   ⟨0x267A, 1, "RECYCLING SYMBOL FOR GENERIC MATERIALS", ""⟩,
   ⟨0x267B, 1, "", "BLACK UNIVERSAL RECYCLING SYMBOL,RECYCLED PAPER SYMBOL"⟩,
   ⟨0x267D, 1, "", "PARTIALLY-RECYCLED PAPER SYMBOL,PERMANENT PAPER SIGN,WHEELCHAIR SYMBOL"⟩,
   ⟨0x2680, 1, "DIE FACE-", "1,2,3,4,5,6"⟩,
   ⟨0x2686, 1, "WHITE CIRCLE WITH ", "DOT RIGHT,TWO DOTS"⟩,
   ⟨0x2688, 1, "BLACK CIRCLE WITH ", "WHITE DOT RIGHT,TWO WHITE DOTS"⟩,
   ⟨0x268A, 1, "MONOGRAM FOR ", "YANG,YIN"⟩,
   ⟨0x268C, 1, "DIGRAM FOR ", "GREATER YANG,LESSER YIN,LESSER YANG,GREATER YIN"⟩,
   ⟨0x2690, 1, "", "WHITE FLAG,BLACK FLAG,HAMMER AND PICK,ANCHOR"⟩,
   ⟨0x2694, 1,
    "", "CROSSED SWORDS,STAFF OF AESCULAPIUS,SCALES,ALEMBIC,FLOWER,GEAR,STAFF OF HERMES"⟩,
   ⟨0x269B, 1, "", "ATOM SYMBOL,FLEUR-DE-LIS,OUTLINED WHITE STAR,THREE LINES CONVERGING RIGHT"⟩,
   ⟨0x269F, 1,
    "", "THREE LINES CONVERGING LEFT,WARNING SIGN,HIGH VOLTAGE SIGN,DOUBLED FEMALE SIGN"⟩,
   ⟨0x26A3, 1, "", "DOUBLED MALE SIGN,INTERLOCKED FEMALE AND MALE SIGN,MALE AND FEMALE SIGN"⟩,
   ⟨0x26A6, 1, "MALE WITH STROKE ", "SIGN,AND MALE AND FEMALE SIGN"⟩,
   ⟨0x26A8, 1, "", "VERTICAL MALE WITH STROKE SIGN,HORIZONTAL MALE WITH STROKE SIGN"⟩,
   ⟨0x26AA, 1, "MEDIUM ", "WHITE CIRCLE,BLACK CIRCLE,SMALL WHITE CIRCLE"⟩,
   ⟨0x26AD, 1, "", "MARRIAGE SYMBOL,DIVORCE SYMBOL,UNMARRIED PARTNERSHIP SYMBOL"⟩,
   ⟨0x26B0, 1, "", "COFFIN,FUNERAL URN,NEUTER,CERES,PALLAS,JUNO,VESTA,CHIRON"⟩,
   ⟨0x26B8, 1, "", "BLACK MOON LILITH,SEXTILE,SEMISEXTILE,QUINCUNX,SESQUIQUADRATE,SOCCER BALL"⟩,
   ⟨0x26BE, 1,
    "", "BASEBALL,SQUARED KEY,WHITE DRAUGHTS MAN,WHITE DRAUGHTS KING,BLACK DRAUGHTS MAN"⟩,
   ⟨0x26C3, 1, "", "BLACK DRAUGHTS KING,SNOWMAN WITHOUT SNOW,SUN BEHIND CLOUD,RAIN,BLACK SNOWMAN"⟩,
   ⟨0x26C8, 1, "", "THUNDER CLOUD AND RAIN,TURNED WHITE SHOGI PIECE,TURNED BLACK SHOGI PIECE"⟩,
   ⟨0x26CB, 1, "", "WHITE DIAMOND IN SQUARE,CROSSING LANES,DISABLED CAR,OPHIUCHUS"⟩,
   ⟨0x26CF, 1, "", "PICK,CAR SLIDING,HELMET WITH WHITE CROSS,CIRCLED CROSSING LANES,CHAINS"⟩,
   ⟨0x26D4, 1, "", "NO ENTRY,ALTERNATE ONE-WAY LEFT WAY TRAFFIC,BLACK TWO-WAY LEFT WAY TRAFFIC"⟩,
   ⟨0x26D7, 1, "", "WHITE TWO-WAY LEFT WAY TRAFFIC,BLACK LEFT LANE MERGE,WHITE LEFT LANE MERGE"⟩,
   ⟨0x26DA, 1, "", "DRIVE SLOW SIGN,HEAVY WHITE DOWN-POINTING TRIANGLE,LEFT CLOSED ENTRY"⟩,
   ⟨0x26DD, 1, "", "SQUARED SALTIRE,FALLING DIAGONAL IN WHITE CIRCLE IN BLACK SQUARE,BLACK TRUCK"⟩,
   ⟨0x26E0, 1, "RESTRICTED LEFT ENTRY-", "1,2"⟩,
   ⟨0x26E2, 1, "", "ASTRONOMICAL SYMBOL FOR URANUS,HEAVY CIRCLE WITH STROKE AND TWO DOTS ABOVE"⟩,
   ⟨0x26E4, 1, "", "PENTAGRAM,RIGHT-HANDED INTERLACED PENTAGRAM"⟩,
   ⟨0x26E6, 1, "", "LEFT-HANDED INTERLACED PENTAGRAM,INVERTED PENTAGRAM,BLACK CROSS ON SHIELD"⟩,
   ⟨0x26E9, 1, "", "SHINTO SHRINE,CHURCH,CASTLE,HISTORIC SITE,GEAR WITHOUT HUB"⟩,
   ⟨0x26EE, 1, "", "GEAR WITH HANDLES,MAP SYMBOL FOR LIGHTHOUSE,MOUNTAIN,UMBRELLA ON GROUND"⟩,
   ⟨0x26F2, 1, "", "FOUNTAIN,FLAG IN HOLE,FERRY,SAILBOAT,SQUARE FOUR CORNERS,SKIER,ICE SKATE"⟩,
   ⟨0x26F9, 1, "", "PERSON WITH BALL,TENT,JAPANESE BANK SYMBOL,HEADSTONE GRAVEYARD SYMBOL"⟩,
   ⟨0x26FD, 1, "", "FUEL PUMP,CUP ON BLACK SQUARE,WHITE FLAG WITH HORIZONTAL MIDDLE BLACK STRIPE"⟩,
   ⟨0x2700, 1,
    "", "BLACK SAFETY SCISSORS,UPPER BLADE SCISSORS,BLACK SCISSORS,LOWER BLADE SCISSORS"⟩,
   ⟨0x2704, 1, "", "WHITE SCISSORS,WHITE HEAVY CHECK MARK,TELEPHONE LOCATION SIGN"⟩,
   ⟨0x2707, 1, "", "TAPE DRIVE,AIRPLANE,ENVELOPE,RAISED FIST,RAISED HAND,VICTORY HAND"⟩,
   ⟨0x270D, 1, "", "WRITING HAND,LOWER RIGHT PENCIL,PENCIL,UPPER RIGHT PENCIL,WHITE NIB,BLACK NIB"⟩,
   ⟨0x2713, 1, "", "CHECK MARK,HEAVY CHECK MARK,MULTIPLICATION X,HEAVY MULTIPLICATION X,BALLOT X"⟩,
   ⟨0x2718, 1, "", "HEAVY BALLOT X,OUTLINED GREEK CROSS,HEAVY GREEK CROSS,OPEN CENTRE CROSS"⟩,
   ⟨0x271C, 1, "", "HEAVY OPEN CENTRE CROSS,LATIN CROSS,SHADOWED WHITE LATIN CROSS"⟩,
   ⟨0x271F, 1,
    "", "OUTLINED LATIN CROSS,MALTESE CROSS,STAR OF DAVID,FOUR TEARDROP-SPOKED ASTERISK"⟩,
   ⟨0x2723, 1, "", "FOUR BALLOON-SPOKED ASTERISK,HEAVY FOUR BALLOON-SPOKED ASTERISK"⟩,
   ⟨0x2725, 1, "", "FOUR CLUB-SPOKED ASTERISK,BLACK FOUR POINTED STAR,WHITE FOUR POINTED STAR"⟩,
   ⟨0x2728, 1, "", "SPARKLES,STRESS OUTLINED WHITE STAR,CIRCLED WHITE STAR,OPEN CENTRE BLACK STAR"⟩,
   ⟨0x272C, 1, "", "BLACK CENTRE WHITE STAR,OUTLINED BLACK STAR,HEAVY OUTLINED BLACK STAR"⟩,
   ⟨0x272F, 1, "", "PINWHEEL STAR,SHADOWED WHITE STAR,HEAVY ASTERISK,OPEN CENTRE ASTERISK"⟩,
   ⟨0x2733, 1, "EIGHT ", "SPOKED ASTERISK,POINTED BLACK STAR,POINTED PINWHEEL STAR"⟩,
   ⟨0x2736, 1, "", "SIX POINTED BLACK STAR,EIGHT POINTED RECTILINEAR BLACK STAR"⟩,
   ⟨0x2738, 1, "HEAVY EIGHT POINTED RECTILINEAR BLACK STAR", ""⟩,
   ⟨0x2739, 1, "", "TWELVE POINTED BLACK STAR,SIXTEEN POINTED ASTERISK"⟩,
   ⟨0x273B, 1, "", "TEARDROP-SPOKED ASTERISK,OPEN CENTRE TEARDROP-SPOKED ASTERISK"⟩,
   ⟨0x273D, 1, "", "HEAVY TEARDROP-SPOKED ASTERISK,SIX PETALLED BLACK AND WHITE FLORETTE"⟩,
   ⟨0x273F, 1, "", "BLACK FLORETTE,WHITE FLORETTE,EIGHT PETALLED OUTLINED BLACK FLORETTE"⟩,
   ⟨0x2742, 1,
    "", "CIRCLED OPEN CENTRE EIGHT POINTED STAR,HEAVY TEARDROP-SPOKED PINWHEEL ASTERISK"⟩,
   ⟨0x2744, 1, "", "SNOWFLAKE,TIGHT TRIFOLIATE SNOWFLAKE,HEAVY CHEVRON SNOWFLAKE,SPARKLE"⟩,
   ⟨0x2748, 1,
    "", "HEAVY SPARKLE,BALLOON-SPOKED ASTERISK,EIGHT TEARDROP-SPOKED PROPELLER ASTERISK"⟩,
   ⟨0x274B, 1, "HEAVY EIGHT TEARDROP-SPOKED PROPELLER ASTERISK", ""⟩,
   ⟨0x274C, 1, "", "CROSS MARK,SHADOWED WHITE CIRCLE,NEGATIVE SQUARED CROSS MARK"⟩,
   ⟨0x274F, 2, "LOWER RIGHT ", "DROP-SHADOWED WHITE SQUARE,SHADOWED WHITE SQUARE"⟩,
   ⟨0x2750, 2, "UPPER RIGHT ", "DROP-SHADOWED WHITE SQUARE,SHADOWED WHITE SQUARE"⟩,
   ⟨0x2753, 1, "", "BLACK QUESTION MARK ORNAMENT,WHITE QUESTION MARK ORNAMENT"⟩,
   ⟨0x2755, 1, "", "WHITE EXCLAMATION MARK ORNAMENT,BLACK DIAMOND MINUS WHITE X"⟩,
   ⟨0x2757, 1, "", "HEAVY EXCLAMATION MARK SYMBOL,LIGHT VERTICAL BAR,MEDIUM VERTICAL BAR"⟩,
   ⟨0x275A, 1, "HEAVY ", "VERTICAL BAR,SINGLE TURNED COMMA QUOTATION MARK ORNAMENT"⟩,
   ⟨0x275C, 1, "HEAVY SINGLE COMMA QUOTATION MARK ORNAMENT", ""⟩,
   ⟨0x275D, 1, "HEAVY DOUBLE TURNED COMMA QUOTATION MARK ORNAMENT", ""⟩,
   ⟨0x275E, 1, "HEAVY DOUBLE COMMA QUOTATION MARK ORNAMENT", ""⟩,
   ⟨0x275F, 1, "HEAVY LOW SINGLE COMMA QUOTATION MARK ORNAMENT", ""⟩,
   ⟨0x2760, 1, "HEAVY LOW DOUBLE COMMA QUOTATION MARK ORNAMENT", ""⟩,
   ⟨0x2761, 1, "CURVED STEM PARAGRAPH SIGN ORNAMENT", ""⟩,
   ⟨0x2762, 1, "HEAVY ", "EXCLAMATION MARK ORNAMENT,HEART EXCLAMATION MARK ORNAMENT,BLACK HEART"⟩,
   ⟨0x2765, 1, "", "ROTATED HEAVY BLACK HEART BULLET,FLORAL HEART,ROTATED FLORAL HEART BULLET"⟩,
   ⟨0x2768, 1, "MEDIUM ", "LEFT PARENTHESIS ORNAMENT,RIGHT PARENTHESIS ORNAMENT"⟩,
   ⟨0x276A, 1, "MEDIUM FLATTENED ", "LEFT PARENTHESIS ORNAMENT,RIGHT PARENTHESIS ORNAMENT"⟩,
   ⟨0x276C, 1, "MEDIUM LEFT-POINTING ANGLE BRACKET ORNAMENT", ""⟩,
   ⟨0x276D, 1, "MEDIUM RIGHT-POINTING ANGLE BRACKET ORNAMENT", ""⟩,
   ⟨0x276E, 2, "HEAVY LEFT-POINTING ANGLE ", "QUOTATION MARK ORNAMENT,BRACKET ORNAMENT"⟩,
   ⟨0x276F, 2, "HEAVY RIGHT-POINTING ANGLE ", "QUOTATION MARK ORNAMENT,BRACKET ORNAMENT"⟩,
   ⟨0x2772, 1, "LIGHT LEFT TORTOISE SHELL BRACKET ORNAMENT", ""⟩,
   ⟨0x2773, 1, "LIGHT RIGHT TORTOISE SHELL BRACKET ORNAMENT", ""⟩,
   ⟨0x2774, 1, "MEDIUM ", "LEFT CURLY BRACKET ORNAMENT,RIGHT CURLY BRACKET ORNAMENT"⟩,
   ⟨0x2776, 1, "DINGBAT NEGATIVE CIRCLED DIGIT ", "ONE,TWO,THREE,FOUR,FIVE,SIX,SEVEN,EIGHT,NINE"⟩,
   ⟨0x277F, 1, "DINGBAT NEGATIVE CIRCLED NUMBER TEN", ""⟩,
   ⟨0x2780, 1, "DINGBAT CIRCLED SANS-SERIF DIGIT ", "ONE,TWO,THREE,FOUR,FIVE,SIX,SEVEN,EIGHT,NINE"⟩,
   ⟨0x2789, 1, "DINGBAT CIRCLED SANS-SERIF NUMBER TEN", ""⟩,
   ⟨0x278A, 1, "DINGBAT NEGATIVE CIRCLED SANS-SERIF DIGIT ", "ONE,TWO,THREE,FOUR,FIVE,SIX,SEVEN"⟩,
   ⟨0x2791, 1, "DINGBAT NEGATIVE CIRCLED SANS-SERIF ", "DIGIT EIGHT,DIGIT NINE,NUMBER TEN"⟩,
   ⟨0x2794, 1, "HEAVY ", "WIDE-HEADED RIGHTWARDS ARROW,PLUS SIGN,MINUS SIGN"⟩,
   ⟨0x2797, 1, "HEAVY ", "DIVISION SIGN,SOUTH EAST ARROW,RIGHTWARDS ARROW,NORTH EAST ARROW"⟩,
   ⟨0x279B, 1, "DRAFTING POINT RIGHTWARDS ARROW", ""⟩,
   ⟨0x279C, 1, "", "HEAVY ROUND-TIPPED RIGHTWARDS ARROW,TRIANGLE-HEADED RIGHTWARDS ARROW"⟩,
   ⟨0x279E, 1,
    "", "HEAVY TRIANGLE-HEADED RIGHTWARDS ARROW,DASHED TRIANGLE-HEADED RIGHTWARDS ARROW"⟩,
   ⟨0x27A0, 1, "", "HEAVY DASHED TRIANGLE-HEADED RIGHTWARDS ARROW,BLACK RIGHTWARDS ARROW"⟩,
   ⟨0x27A2, 1, "THREE-D ", "TOP-LIGHTED RIGHTWARDS ARROWHEAD,BOTTOM-LIGHTED RIGHTWARDS ARROWHEAD"⟩,
   ⟨0x27A4, 1, "BLACK RIGHTWARDS ARROWHEAD", ""⟩,
   ⟨0x27A5, 1,
    "HEAVY BLACK CURVED ", "DOWNWARDS AND RIGHTWARDS ARROW,UPWARDS AND RIGHTWARDS ARROW"⟩,
   ⟨0x27A7, 1, "", "SQUAT BLACK RIGHTWARDS ARROW,HEAVY CONCAVE-POINTED BLACK RIGHTWARDS ARROW"⟩,
   ⟨0x27A9, 1, "RIGHT-SHADED WHITE RIGHTWARDS ARROW", ""⟩,
   ⟨0x27AA, 1,
    "", "LEFT-SHADED WHITE RIGHTWARDS ARROW,BACK-TILTED SHADOWED WHITE RIGHTWARDS ARROW"⟩,
   ⟨0x27AC, 1, "FRONT-TILTED SHADOWED WHITE RIGHTWARDS ARROW", ""⟩,
   ⟨0x27AD, 1, "HEAVY LOWER RIGHT-SHADOWED WHITE RIGHTWARDS ARROW", ""⟩,
   ⟨0x27AE, 1, "HEAVY UPPER RIGHT-SHADOWED WHITE RIGHTWARDS ARROW", ""⟩,
   ⟨0x27AF, 1, "NOTCHED LOWER RIGHT-SHADOWED WHITE RIGHTWARDS ARROW", ""⟩,
   ⟨0x27B0, 1, "", "CURLY LOOP,NOTCHED UPPER RIGHT-SHADOWED WHITE RIGHTWARDS ARROW"⟩,
   ⟨0x27B2, 1, "", "CIRCLED HEAVY WHITE RIGHTWARDS ARROW,WHITE-FEATHERED RIGHTWARDS ARROW"⟩,
   ⟨0x27B4, 1, "BLACK-FEATHERED ", "SOUTH EAST ARROW,RIGHTWARDS ARROW,NORTH EAST ARROW"⟩,
   ⟨0x27B7, 1, "HEAVY BLACK-FEATHERED ", "SOUTH EAST ARROW,RIGHTWARDS ARROW,NORTH EAST ARROW"⟩,
   ⟨0x27BA, 1, "", "TEARDROP-BARBED RIGHTWARDS ARROW,HEAVY TEARDROP-SHANKED RIGHTWARDS ARROW"⟩,
   ⟨0x27BC, 1, "", "WEDGE-TAILED RIGHTWARDS ARROW,HEAVY WEDGE-TAILED RIGHTWARDS ARROW"⟩,
   ⟨0x27BE, 1, "", "OPEN-OUTLINED RIGHTWARDS ARROW,DOUBLE CURLY LOOP,THREE DIMENSIONAL ANGLE"⟩,
   ⟨0x27C1, 1, "", "WHITE TRIANGLE CONTAINING SMALL WHITE TRIANGLE,PERPENDICULAR,OPEN SUBSET"⟩,
   ⟨0x27C4, 1, "", "OPEN SUPERSET,LEFT S-SHAPED BAG DELIMITER,RIGHT S-SHAPED BAG DELIMITER"⟩,
   ⟨0x27C7, 1,
    "", "OR WITH DOT INSIDE,REVERSE SOLIDUS PRECEDING SUBSET,SUPERSET PRECEDING SOLIDUS"⟩,
   ⟨0x27CA, 1,
    "", "VERTICAL BAR WITH HORIZONTAL STROKE,MATHEMATICAL RISING DIAGONAL,LONG DIVISION"⟩,
   ⟨0x27CD, 1, "", "MATHEMATICAL FALLING DIAGONAL,SQUARED LOGICAL AND,SQUARED LOGICAL OR"⟩,
   ⟨0x27D0, 1, "", "WHITE DIAMOND WITH CENTRED DOT,AND WITH DOT,ELEMENT OF OPENING UPWARDS"⟩,
   ⟨0x27D3, 1, "", "LOWER RIGHT CORNER WITH DOT,UPPER LEFT CORNER WITH DOT"⟩,
   ⟨0x27D5, 1,
    "", "LEFT OUTER JOIN,RIGHT OUTER JOIN,FULL OUTER JOIN,LARGE UP TACK,LARGE DOWN TACK"⟩,
   ⟨0x27DA, 1, "LEFT AND RIGHT ", "DOUBLE TURNSTILE,TACK"⟩,
   ⟨0x27DC, 1, "", "LEFT MULTIMAP,LONG RIGHT TACK,LONG LEFT TACK,UP TACK WITH CIRCLE ABOVE"⟩,
   ⟨0x27E0, 1, "", "LOZENGE DIVIDED BY HORIZONTAL RULE,WHITE CONCAVE-SIDED DIAMOND"⟩,
   ⟨0x27E2, 1, "WHITE CONCAVE-SIDED DIAMOND WITH ", "LEFTWARDS TICK,RIGHTWARDS TICK"⟩,
   ⟨0x27E4, 1, "WHITE SQUARE WITH ", "LEFTWARDS TICK,RIGHTWARDS TICK"⟩,
   ⟨0x27E6, 2, "MATHEMATICAL LEFT ", "WHITE SQUARE BRACKET,ANGLE BRACKET,DOUBLE ANGLE BRACKET"⟩,
   ⟨0x27E7, 2, "MATHEMATICAL RIGHT ", "WHITE SQUARE BRACKET,ANGLE BRACKET,DOUBLE ANGLE BRACKET"⟩,
   ⟨0x27EC, 2, "MATHEMATICAL LEFT ", "WHITE TORTOISE SHELL BRACKET,FLATTENED PARENTHESIS"⟩,
   ⟨0x27ED, 2, "MATHEMATICAL RIGHT ", "WHITE TORTOISE SHELL BRACKET,FLATTENED PARENTHESIS"⟩,
   ⟨0x27F0, 1, "UPWARDS QUADRUPLE ARROW", ""⟩,
   ⟨0x27F1, 1, "", "DOWNWARDS QUADRUPLE ARROW,ANTICLOCKWISE GAPPED CIRCLE ARROW"⟩,
   ⟨0x27F3, 1, "", "CLOCKWISE GAPPED CIRCLE ARROW,RIGHT ARROW WITH CIRCLED PLUS"⟩,
   ⟨0x27F5, 1, "LONG ", "LEFTWARDS ARROW,RIGHTWARDS ARROW,LEFT RIGHT ARROW,LEFTWARDS DOUBLE ARROW"⟩,
   ⟨0x27F9, 1, "LONG ", "RIGHTWARDS DOUBLE ARROW,LEFT RIGHT DOUBLE ARROW,LEFTWARDS ARROW FROM BAR"⟩,
   ⟨0x27FC, 2, "LONG RIGHTWARDS ", "ARROW FROM BAR,DOUBLE ARROW FROM BAR"⟩,
   ⟨0x27FD, 2, "LONG ", "LEFTWARDS DOUBLE ARROW FROM BAR,RIGHTWARDS SQUIGGLE ARROW"⟩,
   ⟨0x2800, 1, "BRAILLE PATTERN ", "BLANK,DOTS-1,DOTS-2"⟩,
   ⟨0x2803, 1,
    "BRAILLE PATTERN DOTS-", "12,3,13,23,123,4,14,24,124,34,134,234,1234,5,15,25,125,35"⟩,
   ⟨0x2815, 1, "BRAILLE PATTERN DOTS-", "135,235,1235,45,145,245,1245,345,1345,2345,12345,6,16,26"⟩,
   ⟨0x2823, 1, "BRAILLE PATTERN DOTS-", "126,36,136,236,1236,46,146,246,1246,346,1346,2346,12346"⟩,
   ⟨0x2830, 1, "BRAILLE PATTERN DOTS-", "56,156,256,1256,356,1356,2356,12356,456,1456,2456,12456"⟩,
   ⟨0x283C, 1, "BRAILLE PATTERN DOTS-", "3456,13456,23456,123456,7,17,27,127,37,137,237,1237,47"⟩,
   ⟨0x2849, 1,
    "BRAILLE PATTERN DOTS-", "147,247,1247,347,1347,2347,12347,57,157,257,1257,357,1357"⟩,
   ⟨0x2856, 1, "BRAILLE PATTERN DOTS-", "2357,12357,457,1457,2457,12457,3457,13457,23457,123457"⟩,
   ⟨0x2860, 1, "BRAILLE PATTERN DOTS-", "67,167,267,1267,367,1367,2367,12367,467,1467,2467,12467"⟩,
   ⟨0x286C, 2, "BRAILLE PATTERN DOTS-", "3467,23467,567,2567,3567,23567,4567,24567,34567,234567"⟩,
   ⟨0x286D, 2, "BRAILLE PATTERN DOTS-", "13467,123467,1567,12567,13567,123567,14567,124567,134567"⟩,
   ⟨0x287F, 1, "BRAILLE PATTERN DOTS-", "1234567,8,18,28,128,38,138,238,1238,48,148,248,1248,348"⟩,
   ⟨0x288D, 1, "BRAILLE PATTERN DOTS-", "1348,2348,12348,58,158,258,1258,358,1358,2358,12358,458"⟩,
   ⟨0x2899, 1, "BRAILLE PATTERN DOTS-", "1458,2458,12458,3458,13458,23458,123458,68,168,268,1268"⟩,
   ⟨0x28A4, 1, "BRAILLE PATTERN DOTS-", "368,1368,2368,12368,468,1468,2468,12468,3468,13468,23468"⟩,
   ⟨0x28AF, 1, "BRAILLE PATTERN DOTS-", "123468,568,1568,2568,12568,3568,13568,23568,123568,4568"⟩,
   ⟨0x28B9, 1,
    "BRAILLE PATTERN DOTS-", "14568,24568,124568,34568,134568,234568,1234568,78,178,278"⟩,
   ⟨0x28C3, 1, "BRAILLE PATTERN DOTS-", "1278,378,1378,2378,12378,478,1478,2478,12478,3478,13478"⟩,
   ⟨0x28CE, 1, "BRAILLE PATTERN DOTS-", "23478,123478,578,1578,2578,12578,3578,13578,23578,123578"⟩,
   ⟨0x28D8, 1, "BRAILLE PATTERN DOTS-", "4578,14578,24578,124578,34578,134578,234578,1234578"⟩,
   ⟨0x28E0, 2, "BRAILLE PATTERN DOTS-", "678,2678,3678,23678,4678,24678,34678,234678,5678"⟩,
   ⟨0x28E1, 2,
    "BRAILLE PATTERN DOTS-", "1678,12678,13678,123678,14678,124678,134678,1234678,15678"⟩,
   ⟨0x28F2, 2, "BRAILLE PATTERN DOTS-", "25678,35678,235678,45678,245678,345678,2345678"⟩,
   ⟨0x28F3, 2, "BRAILLE PATTERN DOTS-", "125678,135678,1235678,145678,1245678,1345678,12345678"⟩,
   ⟨0x2900, 1, "RIGHTWARDS TWO-HEADED ARROW WITH ", "VERTICAL STROKE,DOUBLE VERTICAL STROKE"⟩,
   ⟨0x2902, 1, "LEFTWARDS DOUBLE ARROW WITH VERTICAL STROKE", ""⟩,
   ⟨0x2903, 1, "RIGHTWARDS DOUBLE ARROW WITH VERTICAL STROKE", ""⟩,
   ⟨0x2904, 1, "LEFT RIGHT DOUBLE ARROW WITH VERTICAL STROKE", ""⟩,
   ⟨0x2905, 1, "", "RIGHTWARDS TWO-HEADED ARROW FROM BAR,LEFTWARDS DOUBLE ARROW FROM BAR"⟩,
   ⟨0x2907, 1, "", "RIGHTWARDS DOUBLE ARROW FROM BAR,DOWNWARDS ARROW WITH HORIZONTAL STROKE"⟩,
   ⟨0x2909, 1, "UPWARDS ", "ARROW WITH HORIZONTAL STROKE,TRIPLE ARROW"⟩,
   ⟨0x290B, 1, "", "DOWNWARDS TRIPLE ARROW,LEFTWARDS DOUBLE DASH ARROW"⟩,
   ⟨0x290D, 1, "", "RIGHTWARDS DOUBLE DASH ARROW,LEFTWARDS TRIPLE DASH ARROW"⟩,
   ⟨0x290F, 1, "RIGHTWARDS ", "TRIPLE DASH ARROW,TWO-HEADED TRIPLE DASH ARROW"⟩,
   ⟨0x2911, 1, "", "RIGHTWARDS ARROW WITH DOTTED STEM,UPWARDS ARROW TO BAR,DOWNWARDS ARROW TO BAR"⟩,
   ⟨0x2914, 1, "RIGHTWARDS ARROW WITH TAIL WITH ", "VERTICAL STROKE,DOUBLE VERTICAL STROKE"⟩,
   ⟨0x2916, 1, "RIGHTWARDS TWO-HEADED ARROW WITH ", "TAIL,TAIL WITH VERTICAL STROKE"⟩,
   ⟨0x2918, 2, "RIGHTWARDS ", "TWO-HEADED ARROW WITH TAIL WITH DOUBLE VERTICAL STROKE,ARROW-TAIL"⟩,
   ⟨0x2919, 2, "LEFTWARDS ", "ARROW-TAIL,DOUBLE ARROW-TAIL"⟩,
   ⟨0x291C, 2, "RIGHTWARDS ", "DOUBLE ARROW-TAIL,ARROW TO BLACK DIAMOND"⟩,
   ⟨0x291D, 2, "LEFTWARDS ARROW ", "TO BLACK DIAMOND,FROM BAR TO BLACK DIAMOND"⟩,
   ⟨0x2920, 1, "", "RIGHTWARDS ARROW FROM BAR TO BLACK DIAMOND,NORTH WEST AND SOUTH EAST ARROW"⟩,
   ⟨0x2922, 1, "NORTH ", "EAST AND SOUTH WEST ARROW,WEST ARROW WITH HOOK,EAST ARROW WITH HOOK"⟩,
   ⟨0x2925, 1, "SOUTH ", "EAST ARROW WITH HOOK,WEST ARROW WITH HOOK"⟩,
   ⟨0x2927, 1, "NORTH ", "WEST ARROW AND NORTH EAST ARROW,EAST ARROW AND SOUTH EAST ARROW"⟩,
   ⟨0x2929, 1, "SOUTH ", "EAST ARROW AND SOUTH WEST ARROW,WEST ARROW AND NORTH WEST ARROW"⟩,
   ⟨0x292B, 1, "RISING DIAGONAL CROSSING FALLING DIAGONAL", ""⟩,
   ⟨0x292C, 1, "FALLING DIAGONAL CROSSING RISING DIAGONAL", ""⟩,
   ⟨0x292D, 1, "SOUTH EAST ARROW CROSSING NORTH EAST ARROW", ""⟩,
   ⟨0x292E, 1, "NORTH EAST ARROW CROSSING SOUTH EAST ARROW", ""⟩,
   ⟨0x292F, 1, "FALLING DIAGONAL CROSSING NORTH EAST ARROW", ""⟩,
   ⟨0x2930, 1, "RISING DIAGONAL CROSSING SOUTH EAST ARROW", ""⟩,
   ⟨0x2931, 1, "NORTH EAST ARROW CROSSING NORTH WEST ARROW", ""⟩,
   ⟨0x2932, 1, "", "NORTH WEST ARROW CROSSING NORTH EAST ARROW,WAVE ARROW POINTING DIRECTLY RIGHT"⟩,
   ⟨0x2934, 1, "ARROW POINTING RIGHTWARDS THEN CURVING ", "UPWARDS,DOWNWARDS"⟩,
   ⟨0x2936, 1, "ARROW POINTING DOWNWARDS THEN CURVING ", "LEFTWARDS,RIGHTWARDS"⟩,
   ⟨0x2938, 1, "", "RIGHT-SIDE ARC CLOCKWISE ARROW,LEFT-SIDE ARC ANTICLOCKWISE ARROW"⟩,
   ⟨0x293A, 1, "", "TOP ARC ANTICLOCKWISE ARROW,BOTTOM ARC ANTICLOCKWISE ARROW"⟩,
   ⟨0x293C, 1, "TOP ARC ", "CLOCKWISE ARROW WITH MINUS,ANTICLOCKWISE ARROW WITH PLUS"⟩,
   ⟨0x293E, 1,
    "LOWER ", "RIGHT SEMICIRCULAR CLOCKWISE ARROW,LEFT SEMICIRCULAR ANTICLOCKWISE ARROW"⟩,
   ⟨0x2940, 1, "ANTICLOCKWISE CLOSED CIRCLE ARROW", ""⟩,
   ⟨0x2941, 1, "", "CLOCKWISE CLOSED CIRCLE ARROW,RIGHTWARDS ARROW ABOVE SHORT LEFTWARDS ARROW"⟩,
   ⟨0x2943, 1, "LEFTWARDS ARROW ABOVE SHORT RIGHTWARDS ARROW", ""⟩,
   ⟨0x2944, 1, "SHORT RIGHTWARDS ARROW ABOVE LEFTWARDS ARROW", ""⟩,
   ⟨0x2945, 1, "", "RIGHTWARDS ARROW WITH PLUS BELOW,LEFTWARDS ARROW WITH PLUS BELOW"⟩,
   ⟨0x2947, 1, "", "RIGHTWARDS ARROW THROUGH X,LEFT RIGHT ARROW THROUGH SMALL CIRCLE"⟩,
   ⟨0x2949, 1, "UPWARDS TWO-HEADED ARROW FROM SMALL CIRCLE", ""⟩,
   ⟨0x294A, 1, "LEFT BARB ", "UP RIGHT BARB DOWN HARPOON,DOWN RIGHT BARB UP HARPOON"⟩,
   ⟨0x294C, 1, "UP BARB ", "RIGHT DOWN BARB LEFT HARPOON,LEFT DOWN BARB RIGHT HARPOON"⟩,
   ⟨0x294E, 2, "LEFT BARB ", "UP RIGHT BARB UP HARPOON,DOWN RIGHT BARB DOWN HARPOON"⟩,
   ⟨0x294F, 2, "UP BARB ", "RIGHT DOWN BARB RIGHT HARPOON,LEFT DOWN BARB LEFT HARPOON"⟩,
   ⟨0x2952, 1, "LEFTWARDS HARPOON WITH BARB UP TO BAR", ""⟩,
   ⟨0x2953, 1, "", "RIGHTWARDS HARPOON WITH BARB UP TO BAR,UPWARDS HARPOON WITH BARB RIGHT TO BAR"⟩,
   ⟨0x2955, 1, "DOWNWARDS HARPOON WITH BARB RIGHT TO BAR", ""⟩,
   ⟨0x2956, 1, "LEFTWARDS HARPOON WITH BARB DOWN TO BAR", ""⟩,
   ⟨0x2957, 1, "RIGHTWARDS HARPOON WITH BARB DOWN TO BAR", ""⟩,
   ⟨0x2958, 1, "", "UPWARDS HARPOON WITH BARB LEFT TO BAR,DOWNWARDS HARPOON WITH BARB LEFT TO BAR"⟩,
   ⟨0x295A, 1, "LEFTWARDS HARPOON WITH BARB UP FROM BAR", ""⟩,
   ⟨0x295B, 1, "RIGHTWARDS HARPOON WITH BARB UP FROM BAR", ""⟩,
   ⟨0x295C, 1, "UPWARDS HARPOON WITH BARB RIGHT FROM BAR", ""⟩,
   ⟨0x295D, 1, "DOWNWARDS HARPOON WITH BARB RIGHT FROM BAR", ""⟩,
   ⟨0x295E, 1, "LEFTWARDS HARPOON WITH BARB DOWN FROM BAR", ""⟩,
   ⟨0x295F, 1, "RIGHTWARDS HARPOON WITH BARB DOWN FROM BAR", ""⟩,
   ⟨0x2960, 1, "UPWARDS HARPOON WITH BARB LEFT FROM BAR", ""⟩,
   ⟨0x2961, 1, "DOWNWARDS HARPOON WITH BARB LEFT FROM BAR", ""⟩,
   ⟨0x2962, 1, "LEFTWARDS HARPOON WITH BARB UP ABOVE LEFTWARDS HARPOON WITH BARB DOWN", ""⟩,
   ⟨0x2963, 1, "UPWARDS HARPOON WITH BARB LEFT BESIDE UPWARDS HARPOON WITH BARB RIGHT", ""⟩,
   ⟨0x2964, 1, "RIGHTWARDS HARPOON WITH BARB UP ABOVE RIGHTWARDS HARPOON WITH BARB DOWN", ""⟩,
   ⟨0x2965, 1, "DOWNWARDS HARPOON WITH BARB LEFT BESIDE DOWNWARDS HARPOON WITH BARB RIGHT", ""⟩,
   ⟨0x2966, 1, "LEFTWARDS HARPOON WITH BARB UP ABOVE RIGHTWARDS HARPOON WITH BARB UP", ""⟩,
   ⟨0x2967, 1, "LEFTWARDS HARPOON WITH BARB DOWN ABOVE RIGHTWARDS HARPOON WITH BARB DOWN", ""⟩,
   ⟨0x2968, 1, "RIGHTWARDS HARPOON WITH BARB UP ABOVE LEFTWARDS HARPOON WITH BARB UP", ""⟩,
   ⟨0x2969, 1, "RIGHTWARDS HARPOON WITH BARB DOWN ABOVE LEFTWARDS HARPOON WITH BARB DOWN", ""⟩,
   ⟨0x296A, 1, "LEFTWARDS HARPOON WITH BARB ", "UP ABOVE LONG DASH,DOWN BELOW LONG DASH"⟩,
   ⟨0x296C, 1, "RIGHTWARDS HARPOON WITH BARB ", "UP ABOVE LONG DASH,DOWN BELOW LONG DASH"⟩,
   ⟨0x296E, 1, "UPWARDS HARPOON WITH BARB LEFT BESIDE DOWNWARDS HARPOON WITH BARB RIGHT", ""⟩,
   ⟨0x296F, 1, "DOWNWARDS HARPOON WITH BARB LEFT BESIDE UPWARDS HARPOON WITH BARB RIGHT", ""⟩,
   ⟨0x2970, 1, "", "RIGHT DOUBLE ARROW WITH ROUNDED HEAD,EQUALS SIGN ABOVE RIGHTWARDS ARROW"⟩,
   ⟨0x2972, 1, "", "TILDE OPERATOR ABOVE RIGHTWARDS ARROW,LEFTWARDS ARROW ABOVE TILDE OPERATOR"⟩,
   ⟨0x2974, 1, "RIGHTWARDS ARROW ABOVE ", "TILDE OPERATOR,ALMOST EQUAL TO"⟩,
   ⟨0x2976, 1, "", "LESS-THAN ABOVE LEFTWARDS ARROW,LEFTWARDS ARROW THROUGH LESS-THAN"⟩,
   ⟨0x2978, 1, "", "GREATER-THAN ABOVE RIGHTWARDS ARROW,SUBSET ABOVE RIGHTWARDS ARROW"⟩,
   ⟨0x297A, 1, "", "LEFTWARDS ARROW THROUGH SUBSET,SUPERSET ABOVE LEFTWARDS ARROW,LEFT FISH TAIL"⟩,
   ⟨0x297D, 1, "", "RIGHT FISH TAIL,UP FISH TAIL,DOWN FISH TAIL,TRIPLE VERTICAL BAR DELIMITER"⟩,
   ⟨0x2981, 1, "", "Z NOTATION SPOT,Z NOTATION TYPE COLON,LEFT WHITE CURLY BRACKET"⟩,
   ⟨0x2984, 1, "", "RIGHT WHITE CURLY BRACKET,LEFT WHITE PARENTHESIS,RIGHT WHITE PARENTHESIS"⟩,
   ⟨0x2987, 2, "Z NOTATION LEFT ", "IMAGE BRACKET,BINDING BRACKET"⟩,
   ⟨0x2988, 2, "Z NOTATION RIGHT ", "IMAGE BRACKET,BINDING BRACKET"⟩,
   ⟨0x298B, 2, "LEFT SQUARE BRACKET WITH ", "UNDERBAR,TICK IN TOP CORNER,TICK IN BOTTOM CORNER"⟩,
   ⟨0x298C, 2, "RIGHT SQUARE BRACKET WITH ", "UNDERBAR,TICK IN BOTTOM CORNER,TICK IN TOP CORNER"⟩,
   ⟨0x2991, 2, "LEFT ", "ANGLE BRACKET WITH DOT,ARC LESS-THAN BRACKET"⟩,
   ⟨0x2992, 2, "RIGHT ", "ANGLE BRACKET WITH DOT,ARC GREATER-THAN BRACKET"⟩,
   ⟨0x2995, 1, "DOUBLE ", "LEFT ARC GREATER-THAN BRACKET,RIGHT ARC LESS-THAN BRACKET"⟩,
   ⟨0x2997, 1, "LEFT BLACK TORTOISE SHELL BRACKET", ""⟩,
   ⟨0x2998, 1, "", "RIGHT BLACK TORTOISE SHELL BRACKET,DOTTED FENCE,VERTICAL ZIGZAG LINE"⟩,
   ⟨0x299B, 1, "", "MEASURED ANGLE OPENING LEFT,RIGHT ANGLE VARIANT WITH SQUARE"⟩,
   ⟨0x299D, 1, "", "MEASURED RIGHT ANGLE WITH DOT,ANGLE WITH S INSIDE,ACUTE ANGLE"⟩,
   ⟨0x29A0, 1, "SPHERICAL ANGLE OPENING ", "LEFT,UP"⟩,
   ⟨0x29A2, 1, "", "TURNED ANGLE,REVERSED ANGLE,ANGLE WITH UNDERBAR,REVERSED ANGLE WITH UNDERBAR"⟩,
   ⟨0x29A6, 1, "OBLIQUE ANGLE OPENING ", "UP,DOWN"⟩,
   ⟨0x29A8, 1, "MEASURED ANGLE WITH OPEN ARM ENDING IN ARROW POINTING UP AND ", "RIGHT,LEFT"⟩,
   ⟨0x29AA, 1, "MEASURED ANGLE WITH OPEN ARM ENDING IN ARROW POINTING DOWN AND ", "RIGHT,LEFT"⟩,
   ⟨0x29AC, 2, "MEASURED ANGLE WITH OPEN ARM ENDING IN ARROW POINTING RIGHT AND ", "UP,DOWN"⟩,
   ⟨0x29AD, 2, "MEASURED ANGLE WITH OPEN ARM ENDING IN ARROW POINTING LEFT AND ", "UP,DOWN"⟩,
   ⟨0x29B0, 1, "REVERSED EMPTY SET", ""⟩,
   ⟨0x29B1, 1, "EMPTY SET WITH ", "OVERBAR,SMALL CIRCLE ABOVE,RIGHT ARROW ABOVE,LEFT ARROW ABOVE"⟩,
   ⟨0x29B5, 1, "CIRCLE WITH HORIZONTAL BAR", ""⟩,
   ⟨0x29B6, 1, "CIRCLED ", "VERTICAL BAR,PARALLEL,REVERSE SOLIDUS,PERPENDICULAR"⟩,
   ⟨0x29BA, 1, "CIRCLE DIVIDED BY HORIZONTAL BAR AND TOP HALF DIVIDED BY VERTICAL BAR", ""⟩,
   ⟨0x29BB, 1, "CIRCLE WITH SUPERIMPOSED X", ""⟩,
   ⟨0x29BC, 1, "", "CIRCLED ANTICLOCKWISE-ROTATED DIVISION SIGN,UP ARROW THROUGH CIRCLE"⟩,
   ⟨0x29BE, 1, "CIRCLED ", "WHITE BULLET,BULLET,LESS-THAN,GREATER-THAN"⟩,
   ⟨0x29C2, 1, "CIRCLE WITH ", "SMALL CIRCLE TO THE RIGHT,TWO HORIZONTAL STROKES TO THE RIGHT"⟩,
   ⟨0x29C4, 1, "SQUARED ", "RISING DIAGONAL SLASH,FALLING DIAGONAL SLASH,ASTERISK,SMALL CIRCLE"⟩,
   ⟨0x29C8, 1, "", "SQUARED SQUARE,TWO JOINED SQUARES"⟩,
   ⟨0x29CA, 1, "", "TRIANGLE WITH DOT ABOVE,TRIANGLE WITH UNDERBAR,S IN TRIANGLE"⟩,
   ⟨0x29CD, 1, "", "TRIANGLE WITH SERIFS AT BOTTOM,RIGHT TRIANGLE ABOVE LEFT TRIANGLE"⟩,
   ⟨0x29CF, 1, "", "LEFT TRIANGLE BESIDE VERTICAL BAR,VERTICAL BAR BESIDE RIGHT TRIANGLE"⟩,
   ⟨0x29D1, 1, "BOWTIE WITH ", "LEFT HALF BLACK,RIGHT HALF BLACK"⟩,
   ⟨0x29D3, 1, "", "BLACK BOWTIE,TIMES WITH LEFT HALF BLACK,TIMES WITH RIGHT HALF BLACK"⟩,
   ⟨0x29D6, 1, "", "WHITE HOURGLASS,BLACK HOURGLASS,LEFT WIGGLY FENCE,RIGHT WIGGLY FENCE"⟩,
   ⟨0x29DA, 1, "", "LEFT DOUBLE WIGGLY FENCE,RIGHT DOUBLE WIGGLY FENCE,INCOMPLETE INFINITY"⟩,
   ⟨0x29DD, 1, "", "TIE OVER INFINITY,INFINITY NEGATED WITH VERTICAL BAR,DOUBLE-ENDED MULTIMAP"⟩,
   ⟨0x29E0, 1, "", "SQUARE WITH CONTOURED OUTLINE,INCREASES AS,SHUFFLE PRODUCT"⟩,
   ⟨0x29E3, 1, "EQUALS SIGN AND SLANTED ", "PARALLEL,PARALLEL WITH TILDE ABOVE"⟩,
   ⟨0x29E5, 1, "", "IDENTICAL TO AND SLANTED PARALLEL,GLEICH STARK,THERMODYNAMIC"⟩,
   ⟨0x29E8, 1, "DOWN-POINTING TRIANGLE WITH ", "LEFT HALF BLACK,RIGHT HALF BLACK"⟩,
   ⟨0x29EA, 1, "BLACK ", "DIAMOND WITH DOWN ARROW,LOZENGE"⟩,
   ⟨0x29EC, 1, "", "WHITE CIRCLE WITH DOWN ARROW,BLACK CIRCLE WITH DOWN ARROW"⟩,
   ⟨0x29EE, 2, "ERROR-BARRED WHITE ", "SQUARE,DIAMOND,CIRCLE"⟩,
   ⟨0x29EF, 2, "ERROR-BARRED BLACK ", "SQUARE,DIAMOND,CIRCLE"⟩,
   ⟨0x29F4, 1, "", "RULE-DELAYED,REVERSE SOLIDUS OPERATOR"⟩,
   ⟨0x29F6, 1, "", "SOLIDUS WITH OVERBAR,REVERSE SOLIDUS WITH HORIZONTAL STROKE,BIG SOLIDUS"⟩,
   ⟨0x29F9, 1,
    "", "BIG REVERSE SOLIDUS,DOUBLE PLUS,TRIPLE PLUS,LEFT-POINTING CURVED ANGLE BRACKET"⟩,
   ⟨0x29FD, 1, "", "RIGHT-POINTING CURVED ANGLE BRACKET,TINY,MINY"⟩,
   ⟨0x2A00, 1, "N-ARY CIRCLED ", "DOT OPERATOR,PLUS OPERATOR,TIMES OPERATOR"⟩,
   ⟨0x2A03, 1, "N-ARY UNION OPERATOR WITH ", "DOT,PLUS"⟩,
   ⟨0x2A05, 1, "N-ARY SQUARE ", "INTERSECTION OPERATOR,UNION OPERATOR"⟩,
   ⟨0x2A07, 1, "TWO LOGICAL ", "AND OPERATOR,OR OPERATOR"⟩,
   ⟨0x2A09, 1, "", "N-ARY TIMES OPERATOR,MODULO TWO SUM"⟩,
   ⟨0x2A0B, 1, "", "SUMMATION WITH INTEGRAL,QUADRUPLE INTEGRAL OPERATOR,FINITE PART INTEGRAL"⟩,
   ⟨0x2A0E, 1, "", "INTEGRAL WITH DOUBLE STROKE,INTEGRAL AVERAGE WITH SLASH,CIRCULATION FUNCTION"⟩,
   ⟨0x2A11, 1, "", "ANTICLOCKWISE INTEGRATION,LINE INTEGRATION WITH RECTANGULAR PATH AROUND POLE"⟩,
   ⟨0x2A13, 1, "LINE INTEGRATION ", "WITH SEMICIRCULAR PATH AROUND POLE,NOT INCLUDING THE POLE"⟩,
   ⟨0x2A15, 1, "", "INTEGRAL AROUND A POINT OPERATOR,QUATERNION INTEGRAL OPERATOR"⟩,
   ⟨0x2A17, 1, "INTEGRAL WITH ", "LEFTWARDS ARROW WITH HOOK,TIMES SIGN,INTERSECTION,UNION,OVERBAR"⟩,
   ⟨0x2A1C, 1, "", "INTEGRAL WITH UNDERBAR,JOIN,LARGE LEFT TRIANGLE OPERATOR"⟩,
   ⟨0x2A1F, 1, "Z NOTATION SCHEMA ", "COMPOSITION,PIPING,PROJECTION"⟩,
   ⟨0x2A22, 2, "PLUS SIGN WITH ", "SMALL CIRCLE ABOVE,TILDE ABOVE,TILDE BELOW,BLACK TRIANGLE"⟩,
   ⟨0x2A23, 2, "PLUS SIGN WITH ", "CIRCUMFLEX ACCENT ABOVE,DOT BELOW,SUBSCRIPT TWO"⟩,
   ⟨0x2A29, 1, "MINUS SIGN WITH ", "COMMA ABOVE,DOT BELOW,FALLING DOTS,RISING DOTS"⟩,
   ⟨0x2A2D, 1, "PLUS SIGN IN ", "LEFT HALF CIRCLE,RIGHT HALF CIRCLE"⟩,
   ⟨0x2A2F, 1, "", "VECTOR OR CROSS PRODUCT,MULTIPLICATION SIGN WITH DOT ABOVE"⟩,
   ⟨0x2A31, 1, "", "MULTIPLICATION SIGN WITH UNDERBAR,SEMIDIRECT PRODUCT WITH BOTTOM CLOSED"⟩,
   ⟨0x2A33, 1, "", "SMASH PRODUCT,MULTIPLICATION SIGN IN LEFT HALF CIRCLE"⟩,
   ⟨0x2A35, 2, "MULTIPLICATION SIGN IN ", "RIGHT HALF CIRCLE,DOUBLE CIRCLE"⟩,
   ⟨0x2A36, 2, "CIRCLED ", "MULTIPLICATION SIGN WITH CIRCUMFLEX ACCENT,DIVISION SIGN"⟩,
   ⟨0x2A39, 1, "", "PLUS SIGN IN TRIANGLE,MINUS SIGN IN TRIANGLE,MULTIPLICATION SIGN IN TRIANGLE"⟩,
   ⟨0x2A3C, 1, "", "INTERIOR PRODUCT,RIGHTHAND INTERIOR PRODUCT,Z NOTATION RELATIONAL COMPOSITION"⟩,
   ⟨0x2A3F, 1, "", "AMALGAMATION OR COPRODUCT,INTERSECTION WITH DOT,UNION WITH MINUS SIGN"⟩,
   ⟨0x2A42, 1, "", "UNION WITH OVERBAR,INTERSECTION WITH OVERBAR,INTERSECTION WITH LOGICAL AND"⟩,
   ⟨0x2A45, 1, "", "UNION WITH LOGICAL OR,UNION ABOVE INTERSECTION,INTERSECTION ABOVE UNION"⟩,
   ⟨0x2A48, 2, "UNION ", "ABOVE BAR ABOVE INTERSECTION,BESIDE AND JOINED WITH UNION"⟩,
   ⟨0x2A49, 2, "INTERSECTION ", "ABOVE BAR ABOVE UNION,BESIDE AND JOINED WITH INTERSECTION"⟩,
   ⟨0x2A4C, 1, "CLOSED ", "UNION WITH SERIFS,INTERSECTION WITH SERIFS"⟩,
   ⟨0x2A4E, 1, "DOUBLE SQUARE ", "INTERSECTION,UNION"⟩,
   ⟨0x2A50, 1, "", "CLOSED UNION WITH SERIFS AND SMASH PRODUCT,LOGICAL AND WITH DOT ABOVE"⟩,
   ⟨0x2A52, 1, "", "LOGICAL OR WITH DOT ABOVE,DOUBLE LOGICAL AND,DOUBLE LOGICAL OR"⟩,
   ⟨0x2A55, 1, "TWO INTERSECTING LOGICAL ", "AND,OR"⟩,
   ⟨0x2A57, 1, "", "SLOPING LARGE OR,SLOPING LARGE AND,LOGICAL OR OVERLAPPING LOGICAL AND"⟩,
   ⟨0x2A5A, 2, "LOGICAL AND WITH ", "MIDDLE STEM,HORIZONTAL DASH,DOUBLE OVERBAR,DOUBLE UNDERBAR"⟩,
   ⟨0x2A5B, 2, "LOGICAL ", "OR WITH MIDDLE STEM,OR WITH HORIZONTAL DASH,AND WITH UNDERBAR"⟩,
   ⟨0x2A61, 1, "SMALL VEE WITH UNDERBAR", ""⟩,
   ⟨0x2A62, 1, "LOGICAL OR WITH DOUBLE ", "OVERBAR,UNDERBAR"⟩,
   ⟨0x2A64, 1, "Z NOTATION ", "DOMAIN ANTIRESTRICTION,RANGE ANTIRESTRICTION"⟩,
   ⟨0x2A66, 1, "", "EQUALS SIGN WITH DOT BELOW,IDENTICAL WITH DOT ABOVE"⟩,
   ⟨0x2A68, 1, "TRIPLE HORIZONTAL BAR WITH ", "DOUBLE VERTICAL STROKE,TRIPLE VERTICAL STROKE"⟩,
   ⟨0x2A6A, 1, "TILDE OPERATOR WITH ", "DOT ABOVE,RISING DOTS"⟩,
   ⟨0x2A6C, 1, "", "SIMILAR MINUS SIMILAR,CONGRUENT WITH DOT ABOVE"⟩,
   ⟨0x2A6E, 1, "", "EQUALS WITH ASTERISK,ALMOST EQUAL TO WITH CIRCUMFLEX ACCENT"⟩,
   ⟨0x2A70, 1, "", "APPROXIMATELY EQUAL OR EQUAL TO,EQUALS SIGN ABOVE PLUS SIGN"⟩,
   ⟨0x2A72, 1, "", "PLUS SIGN ABOVE EQUALS SIGN,EQUALS SIGN ABOVE TILDE OPERATOR"⟩,
   ⟨0x2A74, 1,
    "", "DOUBLE COLON EQUAL,TWO CONSECUTIVE EQUALS SIGNS,THREE CONSECUTIVE EQUALS SIGNS"⟩,
   ⟨0x2A77, 1, "EQUALS SIGN WITH TWO DOTS ABOVE AND TWO DOTS BELOW", ""⟩,
   ⟨0x2A78, 1, "EQUIVALENT WITH FOUR DOTS ABOVE", ""⟩,
   ⟨0x2A79, 2, "LESS-THAN ", "WITH CIRCLE INSIDE,WITH QUESTION MARK ABOVE,OR SLANTED EQUAL TO"⟩,
   ⟨0x2A7A, 2, "GREATER-THAN ", "WITH CIRCLE INSIDE,WITH QUESTION MARK ABOVE,OR SLANTED EQUAL TO"⟩,
   ⟨0x2A7F, 2, "LESS-THAN OR SLANTED EQUAL TO WITH DOT ", "INSIDE,ABOVE,ABOVE RIGHT"⟩,
   ⟨0x2A80, 2, "GREATER-THAN OR SLANTED EQUAL TO WITH DOT ", "INSIDE,ABOVE,ABOVE LEFT"⟩,
   ⟨0x2A85, 2, "LESS-THAN ", "OR APPROXIMATE,AND SINGLE-LINE NOT EQUAL TO"⟩,
   ⟨0x2A86, 2, "GREATER-THAN ", "OR APPROXIMATE,AND SINGLE-LINE NOT EQUAL TO"⟩,
   ⟨0x2A89, 2, "LESS-THAN ", "AND NOT APPROXIMATE,ABOVE DOUBLE-LINE EQUAL ABOVE GREATER-THAN"⟩,
   ⟨0x2A8A, 2, "GREATER-THAN ", "AND NOT APPROXIMATE,ABOVE DOUBLE-LINE EQUAL ABOVE LESS-THAN"⟩,
   ⟨0x2A8D, 2, "LESS-THAN ABOVE SIMILAR ", "OR EQUAL,ABOVE GREATER-THAN"⟩,
   ⟨0x2A8E, 2, "GREATER-THAN ABOVE SIMILAR ", "OR EQUAL,ABOVE LESS-THAN"⟩,
   ⟨0x2A91, 1, "LESS-THAN ABOVE GREATER-THAN ABOVE DOUBLE-LINE EQUAL", ""⟩,
   ⟨0x2A92, 1, "GREATER-THAN ABOVE LESS-THAN ABOVE DOUBLE-LINE EQUAL", ""⟩,
   ⟨0x2A93, 1, "LESS-THAN ABOVE SLANTED EQUAL ABOVE GREATER-THAN ABOVE SLANTED EQUAL", ""⟩,
   ⟨0x2A94, 1, "GREATER-THAN ABOVE SLANTED EQUAL ABOVE LESS-THAN ABOVE SLANTED EQUAL", ""⟩,
   ⟨0x2A95, 2, "SLANTED EQUAL TO OR LESS-", "THAN,THAN WITH DOT INSIDE"⟩,
   ⟨0x2A96, 2, "SLANTED EQUAL TO OR GREATER-", "THAN,THAN WITH DOT INSIDE"⟩,
   ⟨0x2A99, 1, "DOUBLE-LINE EQUAL TO OR ", "LESS-THAN,GREATER-THAN"⟩,
   ⟨0x2A9B, 1, "DOUBLE-LINE SLANTED EQUAL TO OR ", "LESS-THAN,GREATER-THAN"⟩,
   ⟨0x2A9D, 1, "SIMILAR OR ", "LESS-THAN,GREATER-THAN"⟩,
   ⟨0x2A9F, 1, "SIMILAR ABOVE ", "LESS-THAN ABOVE EQUALS SIGN,GREATER-THAN ABOVE EQUALS SIGN"⟩,
   ⟨0x2AA1, 1, "DOUBLE NESTED ", "LESS-THAN,GREATER-THAN,LESS-THAN WITH UNDERBAR"⟩,
   ⟨0x2AA4, 1, "GREATER-THAN ", "OVERLAPPING LESS-THAN,BESIDE LESS-THAN"⟩,
   ⟨0x2AA6, 2, "LESS-THAN CLOSED BY ", "CURVE,CURVE ABOVE SLANTED EQUAL"⟩,
   ⟨0x2AA7, 2, "GREATER-THAN CLOSED BY ", "CURVE,CURVE ABOVE SLANTED EQUAL"⟩,
   ⟨0x2AAA, 1, "", "SMALLER THAN,LARGER THAN"⟩,
   ⟨0x2AAC, 1, "", "SMALLER THAN OR EQUAL TO,LARGER THAN OR EQUAL TO,EQUALS SIGN WITH BUMPY ABOVE"⟩,
   ⟨0x2AAF, 2, "PRECEDES ABOVE SINGLE-LINE ", "EQUALS SIGN,NOT EQUAL TO"⟩,
   ⟨0x2AB0, 2, "SUCCEEDS ABOVE SINGLE-LINE ", "EQUALS SIGN,NOT EQUAL TO"⟩,
   ⟨0x2AB3, 2, "PRECEDES ABOVE ", "EQUALS SIGN,NOT EQUAL TO,ALMOST EQUAL TO,NOT ALMOST EQUAL TO"⟩,
   ⟨0x2AB4, 2, "SUCCEEDS ABOVE ", "EQUALS SIGN,NOT EQUAL TO,ALMOST EQUAL TO,NOT ALMOST EQUAL TO"⟩,
   ⟨0x2ABB, 1, "DOUBLE ", "PRECEDES,SUCCEEDS"⟩,
   ⟨0x2ABD, 2, "SUBSET WITH ", "DOT,PLUS SIGN BELOW,MULTIPLICATION SIGN BELOW"⟩,
   ⟨0x2ABE, 2, "SUPERSET WITH ", "DOT,PLUS SIGN BELOW,MULTIPLICATION SIGN BELOW"⟩,
   ⟨0x2AC3, 1, "", "SUBSET OF OR EQUAL TO WITH DOT ABOVE,SUPERSET OF OR EQUAL TO WITH DOT ABOVE"⟩,
   ⟨0x2AC5, 2, "SUBSET OF ABOVE ", "EQUALS SIGN,TILDE OPERATOR,ALMOST EQUAL TO,NOT EQUAL TO"⟩,
   ⟨0x2AC6, 2, "SUPERSET OF ABOVE ", "EQUALS SIGN,TILDE OPERATOR,ALMOST EQUAL TO,NOT EQUAL TO"⟩,
   ⟨0x2ACD, 1, "SQUARE ", "LEFT OPEN BOX OPERATOR,RIGHT OPEN BOX OPERATOR"⟩,
   ⟨0x2ACF, 1, "CLOSED ", "SUBSET,SUPERSET,SUBSET OR EQUAL TO,SUPERSET OR EQUAL TO"⟩,
   ⟨0x2AD3, 1, "", "SUBSET ABOVE SUPERSET,SUPERSET ABOVE SUBSET,SUBSET ABOVE SUBSET"⟩,
   ⟨0x2AD6, 1, "SUPERSET ", "ABOVE SUPERSET,BESIDE SUBSET,BESIDE AND JOINED BY DASH WITH SUBSET"⟩,
   ⟨0x2AD9, 1, "ELEMENT OF OPENING DOWNWARDS", ""⟩,
   ⟨0x2ADA, 1, "", "PITCHFORK WITH TEE TOP,TRANSVERSAL INTERSECTION,FORKING"⟩,
   ⟨0x2ADD, 1, "", "NONFORKING,SHORT LEFT TACK,SHORT DOWN TACK,SHORT UP TACK,PERPENDICULAR WITH S"⟩,
   ⟨0x2AE2, 2, "VERTICAL BAR ", "TRIPLE RIGHT TURNSTILE,DOUBLE LEFT TURNSTILE"⟩,
   ⟨0x2AE3, 2, "DOUBLE VERTICAL BAR ", "LEFT TURNSTILE,DOUBLE LEFT TURNSTILE"⟩,
   ⟨0x2AE6, 1, "", "LONG DASH FROM LEFT MEMBER OF DOUBLE VERTICAL,SHORT DOWN TACK WITH OVERBAR"⟩,
   ⟨0x2AE8, 1, "SHORT UP TACK ", "WITH UNDERBAR,ABOVE SHORT DOWN TACK"⟩,
   ⟨0x2AEA, 1, "DOUBLE ", "DOWN TACK,UP TACK,STROKE NOT SIGN"⟩,
   ⟨0x2AED, 1, "", "REVERSED DOUBLE STROKE NOT SIGN,DOES NOT DIVIDE WITH REVERSED NEGATION SLASH"⟩,
   ⟨0x2AEF, 1, "VERTICAL LINE WITH CIRCLE ", "ABOVE,BELOW"⟩,
   ⟨0x2AF1, 1, "DOWN TACK WITH CIRCLE BELOW", ""⟩,
   ⟨0x2AF2, 1, "PARALLEL WITH ", "HORIZONTAL STROKE,TILDE OPERATOR"⟩,
   ⟨0x2AF4, 1, "TRIPLE VERTICAL BAR ", "BINARY RELATION,WITH HORIZONTAL STROKE"⟩,
   ⟨0x2AF6, 1, "TRIPLE ", "COLON OPERATOR,NESTED LESS-THAN,NESTED GREATER-THAN"⟩,
   ⟨0x2AF9, 1, "DOUBLE-LINE SLANTED ", "LESS-THAN OR EQUAL TO,GREATER-THAN OR EQUAL TO"⟩,
   ⟨0x2AFB, 1, "", "TRIPLE SOLIDUS BINARY RELATION,LARGE TRIPLE VERTICAL BAR OPERATOR"⟩,
   ⟨0x2AFD, 1, "", "DOUBLE SOLIDUS OPERATOR,WHITE VERTICAL BAR,N-ARY WHITE VERTICAL BAR"⟩,
   ⟨0x2B00, 1, "NORTH ", "EAST WHITE ARROW,WEST WHITE ARROW"⟩,
   ⟨0x2B02, 1, "", "SOUTH EAST WHITE ARROW,SOUTH WEST WHITE ARROW,LEFT RIGHT WHITE ARROW"⟩,
   ⟨0x2B05, 1, "", "LEFTWARDS BLACK ARROW,UPWARDS BLACK ARROW,DOWNWARDS BLACK ARROW"⟩,
   ⟨0x2B08, 1, "", "NORTH EAST BLACK ARROW,NORTH WEST BLACK ARROW,SOUTH EAST BLACK ARROW"⟩,
   ⟨0x2B0B, 1, "", "SOUTH WEST BLACK ARROW,LEFT RIGHT BLACK ARROW,UP DOWN BLACK ARROW"⟩,
   ⟨0x2B0E, 1, "RIGHTWARDS ARROW WITH TIP ", "DOWNWARDS,UPWARDS"⟩,
   ⟨0x2B10, 1, "LEFTWARDS ARROW WITH TIP ", "DOWNWARDS,UPWARDS"⟩,
   ⟨0x2B12, 2, "SQUARE WITH ", "TOP HALF BLACK,UPPER RIGHT DIAGONAL HALF BLACK"⟩,
   ⟨0x2B13, 2, "SQUARE WITH ", "BOTTOM HALF BLACK,LOWER LEFT DIAGONAL HALF BLACK"⟩,
   ⟨0x2B16, 1,
    "DIAMOND WITH ", "LEFT HALF BLACK,RIGHT HALF BLACK,TOP HALF BLACK,BOTTOM HALF BLACK"⟩,
   ⟨0x2B1A, 1, "", "DOTTED SQUARE,BLACK LARGE SQUARE,WHITE LARGE SQUARE"⟩,
   ⟨0x2B1D, 1, "", "BLACK VERY SMALL SQUARE,WHITE VERY SMALL SQUARE,BLACK PENTAGON,WHITE PENTAGON"⟩,
   ⟨0x2B21, 1, "", "WHITE HEXAGON,BLACK HEXAGON,HORIZONTAL BLACK HEXAGON,BLACK LARGE CIRCLE"⟩,
   ⟨0x2B25, 2, "BLACK ", "MEDIUM DIAMOND,MEDIUM LOZENGE,SMALL DIAMOND"⟩,
   ⟨0x2B26, 2, "WHITE MEDIUM ", "DIAMOND,LOZENGE"⟩,
   ⟨0x2B2A, 2, "BLACK ", "SMALL LOZENGE,HORIZONTAL ELLIPSE,VERTICAL ELLIPSE"⟩,
   ⟨0x2B2B, 2, "WHITE ", "SMALL LOZENGE,HORIZONTAL ELLIPSE,VERTICAL ELLIPSE"⟩,
   ⟨0x2B30, 1, "", "LEFT ARROW WITH SMALL CIRCLE,THREE LEFTWARDS ARROWS"⟩,
   ⟨0x2B32, 1, "", "LEFT ARROW WITH CIRCLED PLUS,LONG LEFTWARDS SQUIGGLE ARROW"⟩,
   ⟨0x2B34, 1, "LEFTWARDS TWO-HEADED ARROW WITH ", "VERTICAL STROKE,DOUBLE VERTICAL STROKE"⟩,
   ⟨0x2B36, 1, "LEFTWARDS TWO-HEADED ", "ARROW FROM BAR,TRIPLE DASH ARROW"⟩,
   ⟨0x2B38, 1, "LEFTWARDS ARROW WITH DOTTED STEM", ""⟩,
   ⟨0x2B39, 1, "LEFTWARDS ARROW WITH TAIL WITH ", "VERTICAL STROKE,DOUBLE VERTICAL STROKE"⟩,
   ⟨0x2B3B, 2, "LEFTWARDS TWO-HEADED ARROW WITH ", "TAIL,TAIL WITH DOUBLE VERTICAL STROKE"⟩,
   ⟨0x2B3C, 2, "LEFTWARDS ", "TWO-HEADED ARROW WITH TAIL WITH VERTICAL STROKE,ARROW THROUGH X"⟩,
   ⟨0x2B3F, 1, "WAVE ARROW POINTING DIRECTLY LEFT", ""⟩,
   ⟨0x2B40, 1,
    "", "EQUALS SIGN ABOVE LEFTWARDS ARROW,REVERSE TILDE OPERATOR ABOVE LEFTWARDS ARROW"⟩,
   ⟨0x2B42, 1, "LEFTWARDS ARROW ABOVE REVERSE ALMOST EQUAL TO", ""⟩,
   ⟨0x2B43, 1, "RIGHTWARDS ARROW THROUGH ", "GREATER-THAN,SUPERSET"⟩,
   ⟨0x2B45, 1, "LEFTWARDS QUADRUPLE ARROW", ""⟩,
   ⟨0x2B46, 1, "", "RIGHTWARDS QUADRUPLE ARROW,REVERSE TILDE OPERATOR ABOVE RIGHTWARDS ARROW"⟩,
   ⟨0x2B48, 1, "RIGHTWARDS ARROW ABOVE REVERSE ALMOST EQUAL TO", ""⟩,
   ⟨0x2B49, 1, "TILDE OPERATOR ABOVE LEFTWARDS ARROW", ""⟩,
   ⟨0x2B4A, 1, "LEFTWARDS ARROW ABOVE ", "ALMOST EQUAL TO,REVERSE TILDE OPERATOR"⟩,
   ⟨0x2B4C, 1, "RIGHTWARDS ARROW ABOVE REVERSE TILDE OPERATOR", ""⟩,
   ⟨0x2B4D, 1, "DOWNWARDS TRIANGLE-HEADED ZIGZAG ARROW", ""⟩,
   ⟨0x2B4E, 1, "SHORT ", "SLANTED NORTH ARROW,BACKSLANTED SOUTH ARROW"⟩,
   ⟨0x2B50, 1, "", "WHITE MEDIUM STAR,BLACK SMALL STAR,WHITE SMALL STAR"⟩,
   ⟨0x2B53, 1,
    "", "BLACK RIGHT-POINTING PENTAGON,WHITE RIGHT-POINTING PENTAGON,HEAVY LARGE CIRCLE"⟩,
   ⟨0x2B56, 1, "HEAVY ", "OVAL WITH OVAL INSIDE,CIRCLE WITH CIRCLE INSIDE,CIRCLE,CIRCLED SALTIRE"⟩,
   ⟨0x2B5A, 2, "SLANTED NORTH ARROW WITH ", "HOOKED HEAD,HORIZONTAL TAIL"⟩,
   ⟨0x2B5B, 2, "BACKSLANTED SOUTH ARROW WITH ", "HOOKED TAIL,HORIZONTAL TAIL"⟩,
   ⟨0x2B5E, 1, "BENT ARROW POINTING DOWNWARDS THEN NORTH EAST", ""⟩,
   ⟨0x2B5F, 1, "SHORT BENT ARROW POINTING DOWNWARDS THEN NORTH EAST", ""⟩,
   ⟨0x2B60, 1, "", "LEFTWARDS TRIANGLE-HEADED ARROW,UPWARDS TRIANGLE-HEADED ARROW"⟩,
   ⟨0x2B62, 1, "", "RIGHTWARDS TRIANGLE-HEADED ARROW,DOWNWARDS TRIANGLE-HEADED ARROW"⟩,
   ⟨0x2B64, 1, "", "LEFT RIGHT TRIANGLE-HEADED ARROW,UP DOWN TRIANGLE-HEADED ARROW"⟩,
   ⟨0x2B66, 1, "NORTH ", "WEST TRIANGLE-HEADED ARROW,EAST TRIANGLE-HEADED ARROW"⟩,
   ⟨0x2B68, 1, "SOUTH ", "EAST TRIANGLE-HEADED ARROW,WEST TRIANGLE-HEADED ARROW"⟩,
   ⟨0x2B6A, 1, "", "LEFTWARDS TRIANGLE-HEADED DASHED ARROW,UPWARDS TRIANGLE-HEADED DASHED ARROW"⟩,
   ⟨0x2B6C, 1,
    "", "RIGHTWARDS TRIANGLE-HEADED DASHED ARROW,DOWNWARDS TRIANGLE-HEADED DASHED ARROW"⟩,
   ⟨0x2B6E, 1, "CLOCKWISE TRIANGLE-HEADED OPEN CIRCLE ARROW", ""⟩,
   ⟨0x2B6F, 1, "ANTICLOCKWISE TRIANGLE-HEADED OPEN CIRCLE ARROW", ""⟩,
   ⟨0x2B70, 1, "", "LEFTWARDS TRIANGLE-HEADED ARROW TO BAR,UPWARDS TRIANGLE-HEADED ARROW TO BAR"⟩,
   ⟨0x2B72, 1,
    "", "RIGHTWARDS TRIANGLE-HEADED ARROW TO BAR,DOWNWARDS TRIANGLE-HEADED ARROW TO BAR"⟩,
   ⟨0x2B76, 1, "NORTH ", "WEST TRIANGLE-HEADED ARROW TO BAR,EAST TRIANGLE-HEADED ARROW TO BAR"⟩,
   ⟨0x2B78, 1, "SOUTH ", "EAST TRIANGLE-HEADED ARROW TO BAR,WEST TRIANGLE-HEADED ARROW TO BAR"⟩,
   ⟨0x2B7A, 1, "LEFTWARDS TRIANGLE-HEADED ARROW WITH DOUBLE HORIZONTAL STROKE", ""⟩,
   ⟨0x2B7B, 1, "UPWARDS TRIANGLE-HEADED ARROW WITH DOUBLE HORIZONTAL STROKE", ""⟩,
   ⟨0x2B7C, 1, "RIGHTWARDS TRIANGLE-HEADED ARROW WITH DOUBLE HORIZONTAL STROKE", ""⟩,
   ⟨0x2B7D, 1, "DOWNWARDS TRIANGLE-HEADED ARROW WITH DOUBLE HORIZONTAL STROKE", ""⟩,
   ⟨0x2B7E, 1, "", "HORIZONTAL TAB KEY,VERTICAL TAB KEY"⟩,
   ⟨0x2B80, 1, "LEFTWARDS TRIANGLE-HEADED ARROW OVER RIGHTWARDS TRIANGLE-HEADED ARROW", ""⟩,
   ⟨0x2B81, 1, "UPWARDS TRIANGLE-HEADED ARROW LEFTWARDS OF DOWNWARDS TRIANGLE-HEADED ARROW", ""⟩,
   ⟨0x2B82, 1, "RIGHTWARDS TRIANGLE-HEADED ARROW OVER LEFTWARDS TRIANGLE-HEADED ARROW", ""⟩,
   ⟨0x2B83, 1, "DOWNWARDS TRIANGLE-HEADED ARROW LEFTWARDS OF UPWARDS TRIANGLE-HEADED ARROW", ""⟩,
   ⟨0x2B84, 1, "LEFTWARDS TRIANGLE-HEADED PAIRED ARROWS", ""⟩,
   ⟨0x2B85, 1,
    "", "UPWARDS TRIANGLE-HEADED PAIRED ARROWS,RIGHTWARDS TRIANGLE-HEADED PAIRED ARROWS"⟩,
   ⟨0x2B87, 1, "DOWNWARDS TRIANGLE-HEADED PAIRED ARROWS", ""⟩,
   ⟨0x2B88, 1, "", "LEFTWARDS BLACK CIRCLED WHITE ARROW,UPWARDS BLACK CIRCLED WHITE ARROW"⟩,
   ⟨0x2B8A, 1, "", "RIGHTWARDS BLACK CIRCLED WHITE ARROW,DOWNWARDS BLACK CIRCLED WHITE ARROW"⟩,
   ⟨0x2B8C, 2, "ANTICLOCKWISE TRIANGLE-HEADED ", "RIGHT U-SHAPED ARROW,LEFT U-SHAPED ARROW"⟩,
   ⟨0x2B8D, 2, "ANTICLOCKWISE TRIANGLE-HEADED ", "BOTTOM U-SHAPED ARROW,TOP U-SHAPED ARROW"⟩,
   ⟨0x2B90, 1, "", "RETURN LEFT,RETURN RIGHT,NEWLINE LEFT"⟩,
   ⟨0x2B93, 1,
    "", "NEWLINE RIGHT,FOUR CORNER ARROWS CIRCLING ANTICLOCKWISE,RIGHTWARDS BLACK ARROW"⟩,
   ⟨0x2B97, 1, "SYMBOL FOR TYPE A ELECTRONICS", ""⟩,
   ⟨0x2B98, 1, "THREE-D TOP-LIGHTED LEFTWARDS EQUILATERAL ARROWHEAD", ""⟩,
   ⟨0x2B99, 1, "THREE-D RIGHT-LIGHTED UPWARDS EQUILATERAL ARROWHEAD", ""⟩,
   ⟨0x2B9A, 1, "THREE-D TOP-LIGHTED RIGHTWARDS EQUILATERAL ARROWHEAD", ""⟩,
   ⟨0x2B9B, 1, "THREE-D LEFT-LIGHTED DOWNWARDS EQUILATERAL ARROWHEAD", ""⟩,
   ⟨0x2B9C, 2, "BLACK ", "LEFTWARDS EQUILATERAL ARROWHEAD,RIGHTWARDS EQUILATERAL ARROWHEAD"⟩,
   ⟨0x2B9D, 2, "BLACK ", "UPWARDS EQUILATERAL ARROWHEAD,DOWNWARDS EQUILATERAL ARROWHEAD"⟩,
   ⟨0x2BA0, 1, "DOWNWARDS TRIANGLE-HEADED ARROW WITH LONG TIP ", "LEFTWARDS,RIGHTWARDS"⟩,
   ⟨0x2BA2, 1, "UPWARDS TRIANGLE-HEADED ARROW WITH LONG TIP ", "LEFTWARDS,RIGHTWARDS"⟩,
   ⟨0x2BA4, 2, "LEFTWARDS TRIANGLE-HEADED ARROW WITH LONG TIP ", "UPWARDS,DOWNWARDS"⟩,
   ⟨0x2BA5, 2, "RIGHTWARDS TRIANGLE-HEADED ARROW WITH LONG TIP ", "UPWARDS,DOWNWARDS"⟩,
   ⟨0x2BA8, 1, "BLACK CURVED DOWNWARDS AND ", "LEFTWARDS ARROW,RIGHTWARDS ARROW"⟩,
   ⟨0x2BAA, 1, "BLACK CURVED UPWARDS AND ", "LEFTWARDS ARROW,RIGHTWARDS ARROW"⟩,
   ⟨0x2BAC, 2, "BLACK CURVED LEFTWARDS AND ", "UPWARDS ARROW,DOWNWARDS ARROW"⟩,
   ⟨0x2BAD, 2, "BLACK CURVED RIGHTWARDS AND ", "UPWARDS ARROW,DOWNWARDS ARROW"⟩,
   ⟨0x2BB0, 1, "RIBBON ARROW ", "DOWN LEFT,DOWN RIGHT,UP LEFT,UP RIGHT,LEFT UP,RIGHT UP,LEFT DOWN"⟩,
   ⟨0x2BB7, 1, "", "RIBBON ARROW RIGHT DOWN,UPWARDS WHITE ARROW FROM BAR WITH HORIZONTAL BAR"⟩,
   ⟨0x2BB9, 1, "UP ARROWHEAD IN A RECTANGLE BOX", ""⟩,
   ⟨0x2BBA, 1, "OVERLAPPING ", "WHITE SQUARES,WHITE AND BLACK SQUARES,BLACK SQUARES"⟩,
   ⟨0x2BBD, 1, "", "BALLOT BOX WITH LIGHT X,CIRCLED X,CIRCLED BOLD X"⟩,
   ⟨0x2BC0, 1, "BLACK ", "SQUARE CENTRED,DIAMOND CENTRED"⟩,
   ⟨0x2BC2, 1, "", "TURNED BLACK PENTAGON,HORIZONTAL BLACK OCTAGON,BLACK OCTAGON"⟩,
   ⟨0x2BC5, 2, "BLACK MEDIUM ", "UP-POINTING TRIANGLE CENTRED,LEFT-POINTING TRIANGLE CENTRED"⟩,
   ⟨0x2BC6, 2, "BLACK MEDIUM ", "DOWN-POINTING TRIANGLE CENTRED,RIGHT-POINTING TRIANGLE CENTRED"⟩,
   ⟨0x2BC9, 1, "", "NEPTUNE FORM TWO,TOP HALF BLACK CIRCLE,BOTTOM HALF BLACK CIRCLE"⟩,
   ⟨0x2BCC, 1, "", "LIGHT FOUR POINTED BLACK CUSP,ROTATED LIGHT FOUR POINTED BLACK CUSP"⟩,
   ⟨0x2BCE, 1, "", "WHITE FOUR POINTED CUSP,ROTATED WHITE FOUR POINTED CUSP"⟩,
   ⟨0x2BD0, 1, "", "SQUARE POSITION INDICATOR,UNCERTAINTY SIGN,GROUP MARK"⟩,
   ⟨0x2BD3, 1, "PLUTO FORM ", "TWO,THREE,FOUR,FIVE"⟩,
   ⟨0x2BD7, 1, "", "TRANSPLUTO,PROSERPINA,ASTRAEA,HYGIEA,PHOLUS,NESSUS,WHITE MOON SELENA"⟩,
   ⟨0x2BDE, 1, "", "BLACK DIAMOND ON CROSS,TRUE LIGHT MOON ARTA,CUPIDO,HADES,ZEUS,KRONOS"⟩,
   ⟨0x2BE4, 1, "", "APOLLON,ADMETOS,VULCANUS,POSEIDON,LEFT HALF BLACK STAR,RIGHT HALF BLACK STAR"⟩,
   ⟨0x2BEA, 1, "STAR WITH ", "LEFT HALF BLACK,RIGHT HALF BLACK"⟩,
   ⟨0x2BEC, 1, "LEFTWARDS TWO-HEADED ARROW WITH TRIANGLE ARROWHEADS", ""⟩,
   ⟨0x2BED, 1, "UPWARDS TWO-HEADED ARROW WITH TRIANGLE ARROWHEADS", ""⟩,
   ⟨0x2BEE, 1, "RIGHTWARDS TWO-HEADED ARROW WITH TRIANGLE ARROWHEADS", ""⟩,
   ⟨0x2BEF, 1, "DOWNWARDS TWO-HEADED ARROW WITH TRIANGLE ARROWHEADS", ""⟩,
   ⟨0x2BF0, 1, "", "ERIS FORM ONE,ERIS FORM TWO,SEDNA,RUSSIAN ASTROLOGICAL SYMBOL VIGINTILE"⟩,
   ⟨0x2BF4, 1, "RUSSIAN ASTROLOGICAL SYMBOL ", "NOVILE,QUINTILE,BINOVILE,SENTAGON,TREDECILE"⟩,
   ⟨0x2BF9, 1, "", "EQUALS SIGN WITH INFINITY BELOW,UNITED SYMBOL,SEPARATED SYMBOL"⟩,
   ⟨0x2BFC, 1, "", "DOUBLED SYMBOL,PASSED SYMBOL,REVERSED RIGHT ANGLE,HELLSCHREIBER PAUSE SYMBOL"⟩]

end RegexSubst.Unicode
