import RegexSubst.Unicode.Name.Run

/-!
# `RegexSubst.Unicode.Name.Alias`: further names

Controls have no name of their own, some names were misspelt when they were given, and some
characters are known by an abbreviation.
-/

set_option autoImplicit false

namespace RegexSubst.Unicode

/-- Names that characters have besides or instead of their own one. -/
def aliases : List NameRun :=
  [⟨0x0, 1, "NUL", ""⟩,
   ⟨0x0, 1, "NULL", ""⟩,
   ⟨0x1, 1, "SOH", ""⟩,
   ⟨0x1, 1, "START OF HEADING", ""⟩,
   ⟨0x2, 1, "START OF TEXT", ""⟩,
   ⟨0x2, 1, "STX", ""⟩,
   ⟨0x3, 1, "END OF TEXT", ""⟩,
   ⟨0x3, 1, "ETX", ""⟩,
   ⟨0x4, 1, "END OF TRANSMISSION", ""⟩,
   ⟨0x4, 1, "EOT", ""⟩,
   ⟨0x5, 1, "ENQ", ""⟩,
   ⟨0x5, 1, "ENQUIRY", ""⟩,
   ⟨0x6, 1, "ACK", ""⟩,
   ⟨0x6, 1, "ACKNOWLEDGE", ""⟩,
   ⟨0x7, 1, "ALERT", ""⟩,
   ⟨0x7, 1, "BEL", ""⟩,
   ⟨0x8, 1, "BACKSPACE", ""⟩,
   ⟨0x8, 1, "BS", ""⟩,
   ⟨0x9, 1, "CHARACTER TABULATION", ""⟩,
   ⟨0x9, 1, "HORIZONTAL TABULATION", ""⟩,
   ⟨0x9, 1, "HT", ""⟩,
   ⟨0x9, 1, "TAB", ""⟩,
   ⟨0xA, 1, "END OF LINE", ""⟩,
   ⟨0xA, 1, "EOL", ""⟩,
   ⟨0xA, 1, "LF", ""⟩,
   ⟨0xA, 1, "LINE FEED", ""⟩,
   ⟨0xA, 1, "NEW LINE", ""⟩,
   ⟨0xA, 1, "NL", ""⟩,
   ⟨0xB, 1, "LINE TABULATION", ""⟩,
   ⟨0xB, 1, "VERTICAL TABULATION", ""⟩,
   ⟨0xB, 1, "VT", ""⟩,
   ⟨0xC, 1, "FF", ""⟩,
   ⟨0xC, 1, "FORM FEED", ""⟩,
   ⟨0xD, 1, "CARRIAGE RETURN", ""⟩,
   ⟨0xD, 1, "CR", ""⟩,
   ⟨0xE, 1, "LOCKING-SHIFT ONE", ""⟩,
   ⟨0xE, 1, "SHIFT OUT", ""⟩,
   ⟨0xE, 1, "SO", ""⟩,
   ⟨0xF, 1, "LOCKING-SHIFT ZERO", ""⟩,
   ⟨0xF, 1, "SHIFT IN", ""⟩,
   ⟨0xF, 1, "SI", ""⟩,
   ⟨0x10, 1, "DATA LINK ESCAPE", ""⟩,
   ⟨0x10, 1, "DLE", ""⟩,
   ⟨0x11, 1, "DC1", ""⟩,
   ⟨0x11, 1, "DEVICE CONTROL ONE", ""⟩,
   ⟨0x12, 1, "DC2", ""⟩,
   ⟨0x12, 1, "DEVICE CONTROL TWO", ""⟩,
   ⟨0x13, 1, "DC3", ""⟩,
   ⟨0x13, 1, "DEVICE CONTROL THREE", ""⟩,
   ⟨0x14, 1, "DC4", ""⟩,
   ⟨0x14, 1, "DEVICE CONTROL FOUR", ""⟩,
   ⟨0x15, 1, "NAK", ""⟩,
   ⟨0x15, 1, "NEGATIVE ACKNOWLEDGE", ""⟩,
   ⟨0x16, 1, "SYN", ""⟩,
   ⟨0x16, 1, "SYNCHRONOUS IDLE", ""⟩,
   ⟨0x17, 1, "END OF TRANSMISSION BLOCK", ""⟩,
   ⟨0x17, 1, "ETB", ""⟩,
   ⟨0x18, 1, "CAN", ""⟩,
   ⟨0x18, 1, "CANCEL", ""⟩,
   ⟨0x19, 1, "END OF MEDIUM", ""⟩,
   ⟨0x19, 1, "EOM", ""⟩,
   ⟨0x1A, 1, "SUB", ""⟩,
   ⟨0x1A, 1, "SUBSTITUTE", ""⟩,
   ⟨0x1B, 1, "ESC", ""⟩,
   ⟨0x1B, 1, "ESCAPE", ""⟩,
   ⟨0x1C, 1, "FILE SEPARATOR", ""⟩,
   ⟨0x1C, 1, "FS", ""⟩,
   ⟨0x1C, 1, "INFORMATION SEPARATOR FOUR", ""⟩,
   ⟨0x1D, 1, "GROUP SEPARATOR", ""⟩,
   ⟨0x1D, 1, "GS", ""⟩,
   ⟨0x1D, 1, "INFORMATION SEPARATOR THREE", ""⟩,
   ⟨0x1E, 1, "INFORMATION SEPARATOR TWO", ""⟩,
   ⟨0x1E, 1, "RECORD SEPARATOR", ""⟩,
   ⟨0x1E, 1, "RS", ""⟩,
   ⟨0x1F, 1, "INFORMATION SEPARATOR ONE", ""⟩,
   ⟨0x1F, 1, "UNIT SEPARATOR", ""⟩,
   ⟨0x1F, 1, "US", ""⟩,
   ⟨0x20, 1, "SP", ""⟩,
   ⟨0x7F, 1, "DEL", ""⟩,
   ⟨0x7F, 1, "DELETE", ""⟩,
   ⟨0x80, 1, "PAD", ""⟩,
   ⟨0x80, 1, "PADDING CHARACTER", ""⟩,
   ⟨0x81, 1, "HIGH OCTET PRESET", ""⟩,
   ⟨0x81, 1, "HOP", ""⟩,
   ⟨0x82, 1, "BPH", ""⟩,
   ⟨0x82, 1, "BREAK PERMITTED HERE", ""⟩,
   ⟨0x83, 1, "NBH", ""⟩,
   ⟨0x83, 1, "NO BREAK HERE", ""⟩,
   ⟨0x84, 1, "IND", ""⟩,
   ⟨0x84, 1, "INDEX", ""⟩,
   ⟨0x85, 1, "NEL", ""⟩,
   ⟨0x85, 1, "NEXT LINE", ""⟩,
   ⟨0x86, 1, "SSA", ""⟩,
   ⟨0x86, 1, "START OF SELECTED AREA", ""⟩,
   ⟨0x87, 1, "END OF SELECTED AREA", ""⟩,
   ⟨0x87, 1, "ESA", ""⟩,
   ⟨0x88, 1, "CHARACTER TABULATION SET", ""⟩,
   ⟨0x88, 1, "HORIZONTAL TABULATION SET", ""⟩,
   ⟨0x88, 1, "HTS", ""⟩,
   ⟨0x89, 1, "CHARACTER TABULATION WITH JUSTIFICATION", ""⟩,
   ⟨0x89, 1, "HORIZONTAL TABULATION WITH JUSTIFICATION", ""⟩,
   ⟨0x89, 1, "HTJ", ""⟩,
   ⟨0x8A, 1, "LINE TABULATION SET", ""⟩,
   ⟨0x8A, 1, "VERTICAL TABULATION SET", ""⟩,
   ⟨0x8A, 1, "VTS", ""⟩,
   ⟨0x8B, 1, "PARTIAL LINE DOWN", ""⟩,
   ⟨0x8B, 1, "PARTIAL LINE FORWARD", ""⟩,
   ⟨0x8B, 1, "PLD", ""⟩,
   ⟨0x8C, 1, "PARTIAL LINE BACKWARD", ""⟩,
   ⟨0x8C, 1, "PARTIAL LINE UP", ""⟩,
   ⟨0x8C, 1, "PLU", ""⟩,
   ⟨0x8D, 1, "REVERSE INDEX", ""⟩,
   ⟨0x8D, 1, "REVERSE LINE FEED", ""⟩,
   ⟨0x8D, 1, "RI", ""⟩,
   ⟨0x8E, 1, "SINGLE SHIFT TWO", ""⟩,
   ⟨0x8E, 1, "SINGLE-SHIFT-2", ""⟩,
   ⟨0x8E, 1, "SS2", ""⟩,
   ⟨0x8F, 1, "SINGLE SHIFT THREE", ""⟩,
   ⟨0x8F, 1, "SINGLE-SHIFT-3", ""⟩,
   ⟨0x8F, 1, "SS3", ""⟩,
   ⟨0x90, 1, "DCS", ""⟩,
   ⟨0x90, 1, "DEVICE CONTROL STRING", ""⟩,
   ⟨0x91, 1, "PRIVATE USE ONE", ""⟩,
   ⟨0x91, 1, "PRIVATE USE-1", ""⟩,
   ⟨0x91, 1, "PU1", ""⟩,
   ⟨0x92, 1, "PRIVATE USE TWO", ""⟩,
   ⟨0x92, 1, "PRIVATE USE-2", ""⟩,
   ⟨0x92, 1, "PU2", ""⟩,
   ⟨0x93, 1, "SET TRANSMIT STATE", ""⟩,
   ⟨0x93, 1, "STS", ""⟩,
   ⟨0x94, 1, "CANCEL CHARACTER", ""⟩,
   ⟨0x94, 1, "CCH", ""⟩,
   ⟨0x95, 1, "MESSAGE WAITING", ""⟩,
   ⟨0x95, 1, "MW", ""⟩,
   ⟨0x96, 1, "SPA", ""⟩,
   ⟨0x96, 1, "START OF GUARDED AREA", ""⟩,
   ⟨0x96, 1, "START OF PROTECTED AREA", ""⟩,
   ⟨0x97, 1, "END OF GUARDED AREA", ""⟩,
   ⟨0x97, 1, "END OF PROTECTED AREA", ""⟩,
   ⟨0x97, 1, "EPA", ""⟩,
   ⟨0x98, 1, "SOS", ""⟩,
   ⟨0x98, 1, "START OF STRING", ""⟩,
   ⟨0x99, 1, "SGC", ""⟩,
   ⟨0x99, 1, "SINGLE GRAPHIC CHARACTER INTRODUCER", ""⟩,
   ⟨0x9A, 1, "SCI", ""⟩,
   ⟨0x9A, 1, "SINGLE CHARACTER INTRODUCER", ""⟩,
   ⟨0x9B, 1, "CONTROL SEQUENCE INTRODUCER", ""⟩,
   ⟨0x9B, 1, "CSI", ""⟩,
   ⟨0x9C, 1, "ST", ""⟩,
   ⟨0x9C, 1, "STRING TERMINATOR", ""⟩,
   ⟨0x9D, 1, "OPERATING SYSTEM COMMAND", ""⟩,
   ⟨0x9D, 1, "OSC", ""⟩,
   ⟨0x9E, 1, "PM", ""⟩,
   ⟨0x9E, 1, "PRIVACY MESSAGE", ""⟩,
   ⟨0x9F, 1, "APC", ""⟩,
   ⟨0x9F, 1, "APPLICATION PROGRAM COMMAND", ""⟩,
   ⟨0xA0, 1, "NBSP", ""⟩,
   ⟨0xAD, 1, "SHY", ""⟩,
   ⟨0x1A2, 1, "LATIN CAPITAL LETTER GHA", ""⟩,
   ⟨0x1A3, 1, "LATIN SMALL LETTER GHA", ""⟩,
   ⟨0x34F, 1, "CGJ", ""⟩,
   ⟨0x61C, 1, "ALM", ""⟩,
   ⟨0x709, 1, "SYRIAC SUBLINEAR COLON SKEWED LEFT", ""⟩,
   ⟨0xCDE, 1, "KANNADA LETTER LLLA", ""⟩,
   ⟨0xE9D, 1, "LAO LETTER FO FON", ""⟩,
   ⟨0xE9F, 1, "LAO LETTER FO FAY", ""⟩,
   ⟨0xEA3, 1, "LAO LETTER RO", ""⟩,
   ⟨0xEA5, 1, "LAO LETTER LO", ""⟩,
   ⟨0xFD0, 1, "TIBETAN MARK BKA- SHOG GI MGO RGYAN", ""⟩,
   ⟨0x11EC, 1, "HANGUL JONGSEONG YESIEUNG-KIYEOK", ""⟩,
   ⟨0x11ED, 1, "HANGUL JONGSEONG YESIEUNG-SSANGKIYEOK", ""⟩,
   ⟨0x11EE, 1, "HANGUL JONGSEONG SSANGYESIEUNG", ""⟩,
   ⟨0x11EF, 1, "HANGUL JONGSEONG YESIEUNG-KHIEUKH", ""⟩,
   ⟨0x180B, 1, "FVS1", ""⟩,
   ⟨0x180C, 1, "FVS2", ""⟩,
   ⟨0x180D, 1, "FVS3", ""⟩,
   ⟨0x180E, 1, "MVS", ""⟩,
   ⟨0x180F, 1, "FVS4", ""⟩,
   ⟨0x200B, 1, "ZWSP", ""⟩,
   ⟨0x200C, 1, "ZWNJ", ""⟩,
   ⟨0x200D, 1, "ZWJ", ""⟩,
   ⟨0x200E, 1, "LRM", ""⟩,
   ⟨0x200F, 1, "RLM", ""⟩,
   ⟨0x202A, 1, "LRE", ""⟩,
   ⟨0x202B, 1, "RLE", ""⟩,
   ⟨0x202C, 1, "PDF", ""⟩,
   ⟨0x202D, 1, "LRO", ""⟩,
   ⟨0x202E, 1, "RLO", ""⟩,
   ⟨0x202F, 1, "NNBSP", ""⟩,
   ⟨0x205F, 1, "MMSP", ""⟩,
   ⟨0x2060, 1, "WJ", ""⟩,
   ⟨0x2066, 1, "LRI", ""⟩,
   ⟨0x2067, 1, "RLI", ""⟩,
   ⟨0x2068, 1, "FSI", ""⟩,
   ⟨0x2069, 1, "PDI", ""⟩,
   ⟨0x2118, 1, "WEIERSTRASS ELLIPTIC FUNCTION", ""⟩,
   ⟨0x2448, 1, "MICR ON US SYMBOL", ""⟩,
   ⟨0x2449, 1, "MICR DASH SYMBOL", ""⟩,
   ⟨0x2B7A, 1, "LEFTWARDS TRIANGLE-HEADED ARROW WITH DOUBLE VERTICAL STROKE", ""⟩,
   ⟨0x2B7C, 1, "RIGHTWARDS TRIANGLE-HEADED ARROW WITH DOUBLE VERTICAL STROKE", ""⟩,
   ⟨0xA015, 1, "YI SYLLABLE ITERATION MARK", ""⟩,
   ⟨0xAA6E, 1, "MYANMAR LETTER KHAMTI LLA", ""⟩,
   ⟨0xFE18, 1, "PRESENTATION FORM FOR VERTICAL RIGHT WHITE LENTICULAR BRACKET", ""⟩,
   ⟨0xFEFF, 1, "BOM", ""⟩,
   ⟨0xFEFF, 1, "BYTE ORDER MARK", ""⟩,
   ⟨0xFEFF, 1, "ZWNBSP", ""⟩,
   ⟨0x122D4, 1, "CUNEIFORM SIGN NU11 TENU", ""⟩,
   ⟨0x122D5, 1, "CUNEIFORM SIGN NU11 OVER NU11 BUR OVER BUR", ""⟩,
   ⟨0x16E56, 1, "MEDEFAIDRIN CAPITAL LETTER H", ""⟩,
   ⟨0x16E57, 1, "MEDEFAIDRIN CAPITAL LETTER NG", ""⟩,
   ⟨0x16E76, 1, "MEDEFAIDRIN SMALL LETTER H", ""⟩,
   ⟨0x16E77, 1, "MEDEFAIDRIN SMALL LETTER NG", ""⟩,
   ⟨0x1B001, 1, "HENTAIGANA LETTER E-1", ""⟩,
   ⟨0x1D0C5, 1, "BYZANTINE MUSICAL SYMBOL FTHORA SKLIRON CHROMA VASIS", ""⟩,
   ⟨0xFE00, 1, "VS", "1,2,3,4,5,6,7,8,9,10,11,12,13,14,15,16"⟩,
   ⟨0xE0100, 1, "VS", "17,18,19,20,21,22,23,24,25,26,27,28,29,30,31,32,33,34,35,36,37,38,39,40,41"⟩,
   ⟨0xE0119, 1, "VS", "42,43,44,45,46,47,48,49,50,51,52,53,54,55,56,57,58,59,60,61,62,63,64,65,66"⟩,
   ⟨0xE0132, 1, "VS", "67,68,69,70,71,72,73,74,75,76,77,78,79,80,81,82,83,84,85,86,87,88,89,90,91"⟩,
   ⟨0xE014B, 1, "VS", "92,93,94,95,96,97,98,99,100,101,102,103,104,105,106,107,108,109,110,111"⟩,
   ⟨0xE015F, 1, "VS", "112,113,114,115,116,117,118,119,120,121,122,123,124,125,126,127,128,129"⟩,
   ⟨0xE0171, 1, "VS", "130,131,132,133,134,135,136,137,138,139,140,141,142,143,144,145,146,147"⟩,
   ⟨0xE0183, 1, "VS", "148,149,150,151,152,153,154,155,156,157,158,159,160,161,162,163,164,165"⟩,
   ⟨0xE0195, 1, "VS", "166,167,168,169,170,171,172,173,174,175,176,177,178,179,180,181,182,183"⟩,
   ⟨0xE01A7, 1, "VS", "184,185,186,187,188,189,190,191,192,193,194,195,196,197,198,199,200,201"⟩,
   ⟨0xE01B9, 1, "VS", "202,203,204,205,206,207,208,209,210,211,212,213,214,215,216,217,218,219"⟩,
   ⟨0xE01CB, 1, "VS", "220,221,222,223,224,225,226,227,228,229,230,231,232,233,234,235,236,237"⟩,
   ⟨0xE01DD, 1, "VS", "238,239,240,241,242,243,244,245,246,247,248,249,250,251,252,253,254,255"⟩,
   ⟨0xE01EF, 1, "VS", "256"⟩]

end RegexSubst.Unicode
