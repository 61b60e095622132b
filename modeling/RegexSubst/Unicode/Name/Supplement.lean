import RegexSubst.Unicode.Name.Run

/-!
# `RegexSubst.Unicode.Name.Supplement`: names of U+2C00 to U+2E7F

Glagolitic to supplemental punctuation.
-/

set_option autoImplicit false

namespace RegexSubst.Unicode

/-- The names of U+2C00 to U+2E7F. -/
def supplementNames : List NameRun :=
  [⟨0x2C00, 2, "GLAGOLITIC CAPITAL LETTER ", "AZU,VEDE,DOBRO,ZHIVETE,ZEMLJA,INITIAL IZHE"⟩,
   ⟨0x2C01, 2, "GLAGOLITIC CAPITAL LETTER ", "BUKY,GLAGOLI,YESTU,DZELO,IZHE,I"⟩,
   ⟨0x2C0C, 2, "GLAGOLITIC CAPITAL LETTER ", "DJERVI,LJUDIJE,NASHI,POKOJI,SLOVO,UKU,HERU,PE,TSI"⟩,
   ⟨0x2C0D, 2, "GLAGOLITIC CAPITAL LETTER ", "KAKO,MYSLITE,ONU,RITSI,TVRIDO,FRITU,OTU,SHTA,CHRIVI"⟩,
   ⟨0x2C1E, 2, "GLAGOLITIC CAPITAL LETTER ", "SHA,YERI,SPIDERY HA,SMALL YUS,YO"⟩,
   ⟨0x2C1F, 2, "GLAGOLITIC CAPITAL LETTER ", "YERU,YATI,YU,SMALL YUS WITH TAIL,IOTATED SMALL YUS"⟩,
   ⟨0x2C28, 2, "GLAGOLITIC CAPITAL LETTER ", "BIG YUS,FITA,SHTAPIC,LATINATE MYSLITE"⟩,
   ⟨0x2C29, 2, "GLAGOLITIC CAPITAL LETTER ", "IOTATED BIG YUS,IZHITSA,TROKUTASTI A,CAUDATE CHRIVI"⟩,
   ⟨0x2C30, 1, "GLAGOLITIC SMALL LETTER ", "AZU,BUKY,VEDE,GLAGOLI,DOBRO,YESTU,ZHIVETE,DZELO"⟩,
   ⟨0x2C38, 1,
    "GLAGOLITIC SMALL LETTER ", "ZEMLJA,IZHE,INITIAL IZHE,I,DJERVI,KAKO,LJUDIJE,MYSLITE"⟩,
   ⟨0x2C40, 2,
    "GLAGOLITIC SMALL LETTER ", "NASHI,POKOJI,SLOVO,UKU,HERU,PE,TSI,SHA,YERI,SPIDERY HA"⟩,
   ⟨0x2C41, 2, "GLAGOLITIC SMALL LETTER ", "ONU,RITSI,TVRIDO,FRITU,OTU,SHTA,CHRIVI,YERU,YATI"⟩,
   ⟨0x2C53, 1, "GLAGOLITIC SMALL LETTER ", "YU,SMALL YUS,SMALL YUS WITH TAIL,YO,IOTATED SMALL YUS"⟩,
   ⟨0x2C58, 2, "GLAGOLITIC SMALL LETTER ", "BIG YUS,FITA,SHTAPIC,LATINATE MYSLITE"⟩,
   ⟨0x2C59, 2, "GLAGOLITIC SMALL LETTER ", "IOTATED BIG YUS,IZHITSA,TROKUTASTI A,CAUDATE CHRIVI"⟩,
   ⟨0x2C60, 2, "LATIN CAPITAL LETTER ", "L WITH DOUBLE BAR,L WITH MIDDLE TILDE,R WITH TAIL"⟩,
   ⟨0x2C61, 2, "LATIN ", "SMALL LETTER L WITH DOUBLE BAR,CAPITAL LETTER P WITH STROKE"⟩,
   ⟨0x2C65, 1, "LATIN SMALL LETTER ", "A WITH STROKE,T WITH DIAGONAL STROKE"⟩,
   ⟨0x2C67, 2, "LATIN CAPITAL LETTER ", "H WITH DESCENDER,K WITH DESCENDER,Z WITH DESCENDER,ALPHA"⟩,
   ⟨0x2C68, 2, "LATIN SMALL LETTER ", "H WITH DESCENDER,K WITH DESCENDER,Z WITH DESCENDER"⟩,
   ⟨0x2C6E, 2, "LATIN CAPITAL LETTER ", "M WITH HOOK,TURNED ALPHA,W WITH HOOK"⟩,
   ⟨0x2C6F, 2, "LATIN ", "CAPITAL LETTER TURNED A,SMALL LETTER V WITH RIGHT HOOK"⟩,
   ⟨0x2C73, 1, "LATIN ", "SMALL LETTER W WITH HOOK,SMALL LETTER V WITH CURL,CAPITAL LETTER HALF H"⟩,
   ⟨0x2C76, 1, "LATIN SMALL LETTER ", "HALF H,TAILLESS PHI,E WITH NOTCH,TURNED R WITH TAIL"⟩,
   ⟨0x2C7A, 1, "LATIN ", "SMALL LETTER O WITH LOW RING INSIDE,LETTER SMALL CAPITAL TURNED E"⟩,
   ⟨0x2C7C, 1, "", "LATIN SUBSCRIPT SMALL LETTER J,MODIFIER LETTER CAPITAL V"⟩,
   ⟨0x2C7E, 1, "LATIN CAPITAL LETTER ", "S WITH SWASH TAIL,Z WITH SWASH TAIL"⟩,
   ⟨0x2C80, 2, "COPTIC CAPITAL LETTER ", "ALFA,VIDA,GAMMA,DALDA,EIE,SOU,ZATA,HATE,THETHE"⟩,
   ⟨0x2C81, 2, "COPTIC SMALL LETTER ", "ALFA,VIDA,GAMMA,DALDA,EIE,SOU,ZATA,HATE,THETHE"⟩,
   ⟨0x2C92, 2, "COPTIC CAPITAL LETTER ", "IAUDA,KAPA,LAULA,MI,NI,KSI,O,PI,RO,SIMA,TAU,UA,FI,KHI"⟩,
   ⟨0x2C93, 2, "COPTIC SMALL LETTER ", "IAUDA,KAPA,LAULA,MI,NI,KSI,O,PI,RO,SIMA,TAU,UA,FI,KHI"⟩,
   ⟨0x2CAE, 2, "COPTIC CAPITAL LETTER ", "PSI,OOU,DIALECT-P ALEF,OLD COPTIC AIN,CRYPTOGRAMMIC EIE"⟩,
   ⟨0x2CAF, 2, "COPTIC SMALL LETTER ", "PSI,OOU,DIALECT-P ALEF,OLD COPTIC AIN,CRYPTOGRAMMIC EIE"⟩,
   ⟨0x2CB8, 2, "COPTIC CAPITAL LETTER DIALECT-P ", "KAPA,NI"⟩,
   ⟨0x2CB9, 2, "COPTIC SMALL LETTER DIALECT-P ", "KAPA,NI"⟩,
   ⟨0x2CBC, 2, "COPTIC CAPITAL LETTER ", "CRYPTOGRAMMIC NI,OLD COPTIC OOU,SAMPI,CROSSED SHEI"⟩,
   ⟨0x2CBD, 2, "COPTIC SMALL LETTER ", "CRYPTOGRAMMIC NI,OLD COPTIC OOU,SAMPI"⟩,
   ⟨0x2CC3, 2, "COPTIC SMALL LETTER ", "CROSSED SHEI,OLD COPTIC SHEI,OLD COPTIC ESH,AKHMIMIC KHEI"⟩,
   ⟨0x2CC4, 2, "COPTIC CAPITAL LETTER ", "OLD COPTIC SHEI,OLD COPTIC ESH,AKHMIMIC KHEI"⟩,
   ⟨0x2CCA, 2,
    "COPTIC CAPITAL LETTER ", "DIALECT-P HORI,OLD COPTIC HORI,OLD COPTIC HA,L-SHAPED HA"⟩,
   ⟨0x2CCB, 2, "COPTIC SMALL LETTER ", "DIALECT-P HORI,OLD COPTIC HORI,OLD COPTIC HA,L-SHAPED HA"⟩,
   ⟨0x2CD2, 2, "COPTIC CAPITAL LETTER OLD COPTIC ", "HEI,HAT,GANGIA,DJA,SHIMA"⟩,
   ⟨0x2CD3, 2, "COPTIC SMALL LETTER OLD COPTIC ", "HEI,HAT,GANGIA,DJA,SHIMA"⟩,
   ⟨0x2CDC, 2, "COPTIC CAPITAL LETTER OLD NUBIAN ", "SHIMA,NGI,NYI,WAU"⟩,
   ⟨0x2CDD, 2, "COPTIC SMALL LETTER OLD NUBIAN ", "SHIMA,NGI,NYI,WAU"⟩,
   ⟨0x2CE4, 1, "COPTIC SYMBOL ", "KAI,MI RO,PI RO,STAUROS,TAU RO,KHI RO,SHIMA SIMA"⟩,
   ⟨0x2CEB, 2, "COPTIC CAPITAL LETTER CRYPTOGRAMMIC ", "SHEI,GANGIA"⟩,
   ⟨0x2CEC, 2, "COPTIC SMALL LETTER CRYPTOGRAMMIC ", "SHEI,GANGIA"⟩,
   ⟨0x2CEF, 1, "COPTIC COMBINING ", "NI ABOVE,SPIRITUS ASPER,SPIRITUS LENIS"⟩,
   ⟨0x2CF2, 1, "COPTIC ", "CAPITAL LETTER BOHAIRIC KHEI,SMALL LETTER BOHAIRIC KHEI"⟩,
   ⟨0x2CF9, 1, "COPTIC OLD NUBIAN ", "FULL STOP,DIRECT QUESTION MARK,INDIRECT QUESTION MARK"⟩,
   ⟨0x2CFC, 2, "COPTIC ", "OLD NUBIAN VERSE DIVIDER,FULL STOP"⟩,
   ⟨0x2CFD, 2, "COPTIC ", "FRACTION ONE HALF,MORPHOLOGICAL DIVIDER"⟩,
   ⟨0x2D00, 1, "GEORGIAN SMALL LETTER ", "AN,BAN,GAN,DON,EN,VIN,ZEN,TAN,IN,KAN,LAS"⟩,
   ⟨0x2D0B, 2,
    "GEORGIAN SMALL LETTER ", "MAN,ON,ZHAR,SAN,UN,KHAR,QAR,CHIN,JIL,CHAR,JHAN,HE,WE,HOE"⟩,
   ⟨0x2D0C, 2, "GEORGIAN SMALL LETTER ", "NAR,PAR,RAE,TAR,PHAR,GHAN,SHIN,CAN,CIL,XAN,HAE,HIE,HAR"⟩,
   ⟨0x2D27, 1, "GEORGIAN SMALL LETTER YN", ""⟩,
   ⟨0x2D2D, 1, "GEORGIAN SMALL LETTER AEN", ""⟩,
   ⟨0x2D30, 1, "TIFINAGH LETTER ", "YA,YAB,YABH,YAG,YAGHH,BERBER ACADEMY YAJ,YAJ,YAD,YADH"⟩,
   ⟨0x2D39, 1,
    "TIFINAGH LETTER ", "YADD,YADDH,YEY,YAF,YAK,TUAREG YAK,YAKHH,YAH,BERBER ACADEMY YAH"⟩,
   ⟨0x2D42, 1, "TIFINAGH LETTER ", "TUAREG YAH,YAHH,YAA,YAKH,TUAREG YAKH,YAQ,TUAREG YAQ,YI,YAZH"⟩,
   ⟨0x2D4B, 1, "TIFINAGH LETTER ", "AHAGGAR YAZH,TUAREG YAZH,YAL,YAM,YAN,TUAREG YAGN,TUAREG YANG"⟩,
   ⟨0x2D52, 2,
    "TIFINAGH LETTER ", "YAP,YAR,YAGH,AYER YAGH,YASS,YAT,YACH,YAV,YAY,TAWELLEMET YAZ,YE"⟩,
   ⟨0x2D53, 2, "TIFINAGH LETTER ", "YU,YARR,TUAREG YAGH,YAS,YASH,YATH,YATT,YAW,YAZ,YAZZ,YO"⟩,
   ⟨0x2D6F, 1, "TIFINAGH ", "MODIFIER LETTER LABIALIZATION MARK,SEPARATOR MARK"⟩,
   ⟨0x2D7F, 1, "TIFINAGH CONSONANT JOINER", ""⟩,
   ⟨0x2D80, 2, "ETHIOPIC SYLLABLE ", "LOA,ROA,SHOA,TOA,NOA,GLOTTAL OA,DOA,JOA,CHOA,POA,GGWI,GGWE"⟩,
   ⟨0x2D81, 2, "ETHIOPIC SYLLABLE ", "MOA,SOA,BOA,COA,NYOA,ZOA,DDOA,THOA,PHOA,GGWA,GGWEE"⟩,
   ⟨0x2DA0, 1, "ETHIOPIC SYLLABLE ", "SSA,SSU,SSI,SSAA,SSEE,SSE,SSO"⟩,
   ⟨0x2DA8, 1, "ETHIOPIC SYLLABLE ", "CCA,CCU,CCI,CCAA,CCEE,CCE,CCO"⟩,
   ⟨0x2DB0, 1, "ETHIOPIC SYLLABLE ", "ZZA,ZZU,ZZI,ZZAA,ZZEE,ZZE,ZZO"⟩,
   ⟨0x2DB8, 1, "ETHIOPIC SYLLABLE ", "CCHA,CCHU,CCHI,CCHAA,CCHEE,CCHE,CCHO"⟩,
   ⟨0x2DC0, 1, "ETHIOPIC SYLLABLE ", "QYA,QYU,QYI,QYAA,QYEE,QYE,QYO"⟩,
   ⟨0x2DC8, 1, "ETHIOPIC SYLLABLE ", "KYA,KYU,KYI,KYAA,KYEE,KYE,KYO"⟩,
   ⟨0x2DD0, 1, "ETHIOPIC SYLLABLE ", "XYA,XYU,XYI,XYAA,XYEE,XYE,XYO"⟩,
   ⟨0x2DD8, 1, "ETHIOPIC SYLLABLE ", "GYA,GYU,GYI,GYAA,GYEE,GYE,GYO"⟩,
   ⟨0x2DE0, 1,
    "COMBINING CYRILLIC LETTER ", "BE,VE,GHE,DE,ZHE,ZE,KA,EL,EM,EN,O,PE,ER,ES,TE,HA,TSE"⟩,
   ⟨0x2DF1, 1,
    "COMBINING CYRILLIC LETTER ", "CHE,SHA,SHCHA,FITA,ES-TE,A,IE,DJERV,MONOGRAPH UK,YAT"⟩,
   ⟨0x2DFB, 1, "COMBINING CYRILLIC LETTER ", "YU,IOTIFIED A,LITTLE YUS,BIG YUS,IOTIFIED BIG YUS"⟩,
   ⟨0x2E00, 1, "RIGHT ANGLE ", "SUBSTITUTION MARKER,DOTTED SUBSTITUTION MARKER"⟩,
   ⟨0x2E02, 2, "LEFT ", "SUBSTITUTION BRACKET,DOTTED SUBSTITUTION BRACKET"⟩,
   ⟨0x2E03, 2, "RIGHT ", "SUBSTITUTION BRACKET,DOTTED SUBSTITUTION BRACKET"⟩,
   ⟨0x2E06, 1, "RAISED ", "INTERPOLATION MARKER,DOTTED INTERPOLATION MARKER"⟩,
   ⟨0x2E08, 1, "DOTTED TRANSPOSITION MARKER", ""⟩,
   ⟨0x2E09, 1, "", "LEFT TRANSPOSITION BRACKET,RIGHT TRANSPOSITION BRACKET,RAISED SQUARE"⟩,
   ⟨0x2E0C, 1, "", "LEFT RAISED OMISSION BRACKET,RIGHT RAISED OMISSION BRACKET,EDITORIAL CORONIS"⟩,
   ⟨0x2E0F, 1, "", "PARAGRAPHOS,FORKED PARAGRAPHOS,REVERSED FORKED PARAGRAPHOS,HYPODIASTOLE"⟩,
   ⟨0x2E13, 1, "", "DOTTED OBELOS,DOWNWARDS ANCORA,UPWARDS ANCORA,DOTTED RIGHT-POINTING ANGLE"⟩,
   ⟨0x2E17, 1, "", "DOUBLE OBLIQUE HYPHEN,INVERTED INTERROBANG,PALM BRANCH,HYPHEN WITH DIAERESIS"⟩,
   ⟨0x2E1B, 1,
    "", "TILDE WITH RING ABOVE,LEFT LOW PARAPHRASE BRACKET,RIGHT LOW PARAPHRASE BRACKET"⟩,
   ⟨0x2E1E, 1, "", "TILDE WITH DOT ABOVE,TILDE WITH DOT BELOW,LEFT VERTICAL BAR WITH QUILL"⟩,
   ⟨0x2E21, 1, "", "RIGHT VERTICAL BAR WITH QUILL,TOP LEFT HALF BRACKET,TOP RIGHT HALF BRACKET"⟩,
   ⟨0x2E24, 1, "BOTTOM ", "LEFT HALF BRACKET,RIGHT HALF BRACKET"⟩,
   ⟨0x2E26, 1, "", "LEFT SIDEWAYS U BRACKET,RIGHT SIDEWAYS U BRACKET,LEFT DOUBLE PARENTHESIS"⟩,
   ⟨0x2E29, 1, "", "RIGHT DOUBLE PARENTHESIS,TWO DOTS OVER ONE DOT PUNCTUATION"⟩,
   ⟨0x2E2B, 1, "", "ONE DOT OVER TWO DOTS PUNCTUATION,SQUARED FOUR DOT PUNCTUATION,FIVE DOT MARK"⟩,
   ⟨0x2E2E, 1, "", "REVERSED QUESTION MARK,VERTICAL TILDE,RING POINT,WORD SEPARATOR MIDDLE DOT"⟩,
   ⟨0x2E32, 1, "", "TURNED COMMA,RAISED DOT,RAISED COMMA,TURNED SEMICOLON,DAGGER WITH LEFT GUARD"⟩,
   ⟨0x2E37, 1, "", "DAGGER WITH RIGHT GUARD,TURNED DAGGER,TOP HALF SECTION SIGN,TWO-EM DASH"⟩,
   ⟨0x2E3B, 1, "", "THREE-EM DASH,STENOGRAPHIC FULL STOP,VERTICAL SIX DOTS,WIGGLY VERTICAL LINE"⟩,
   ⟨0x2E3F, 1, "", "CAPITULUM,DOUBLE HYPHEN,REVERSED COMMA,DOUBLE LOW-REVERSED-9 QUOTATION MARK"⟩,
   ⟨0x2E43, 1, "", "DASH WITH LEFT UPTURN,DOUBLE SUSPENSION MARK"⟩,
   ⟨0x2E45, 1, "", "INVERTED LOW KAVYKA,INVERTED LOW KAVYKA WITH KAVYKA ABOVE,LOW KAVYKA"⟩,
   ⟨0x2E48, 1, "", "LOW KAVYKA WITH DOT,DOUBLE STACKED COMMA,DOTTED SOLIDUS,TRIPLE DAGGER"⟩,
   ⟨0x2E4C, 1, "", "MEDIEVAL COMMA,PARAGRAPHUS MARK,PUNCTUS ELEVATUS MARK,CORNISH VERSE DIVIDER"⟩,
   ⟨0x2E50, 1, "CROSS PATTY WITH ", "RIGHT CROSSBAR,LEFT CROSSBAR"⟩,
   ⟨0x2E52, 1, "", "TIRONIAN SIGN CAPITAL ET,MEDIEVAL EXCLAMATION MARK,MEDIEVAL QUESTION MARK"⟩,
   ⟨0x2E55, 2, "LEFT SQUARE BRACKET WITH ", "STROKE,DOUBLE STROKE"⟩,
   ⟨0x2E56, 2, "RIGHT SQUARE BRACKET WITH ", "STROKE,DOUBLE STROKE"⟩,
   ⟨0x2E59, 1, "TOP HALF ", "LEFT PARENTHESIS,RIGHT PARENTHESIS"⟩,
   ⟨0x2E5B, 1, "", "BOTTOM HALF LEFT PARENTHESIS,BOTTOM HALF RIGHT PARENTHESIS,OBLIQUE HYPHEN"⟩]

end RegexSubst.Unicode
