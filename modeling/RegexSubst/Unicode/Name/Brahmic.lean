import RegexSubst.Unicode.Name.Run

/-!
# `RegexSubst.Unicode.Name.Brahmic`: names of U+11000 to U+11FFF

Brahmi and the scripts that come from it.
-/

set_option autoImplicit false

namespace RegexSubst.Unicode

/-- The names of U+11000 to U+11FFF. -/
def brahmicNames : List NameRun :=
  [⟨0x11000, 1, "BRAHMI SIGN ", "CANDRABINDU,ANUSVARA,VISARGA,JIHVAMULIYA,UPADHMANIYA"⟩,
   ⟨0x11005, 1, "BRAHMI LETTER ", "A,AA,I,II,U,UU,VOCALIC R,VOCALIC RR,VOCALIC L,VOCALIC LL,E,AI"⟩,
   ⟨0x11011, 1, "BRAHMI LETTER ", "O,AU,KA,KHA,GA,GHA,NGA,CA,CHA,JA,JHA,NYA,TTA,TTHA,DDA,DDHA,NNA"⟩,
   ⟨0x11022, 1,
    "BRAHMI LETTER ", "TA,THA,DA,DHA,NA,PA,PHA,BA,BHA,MA,YA,RA,LA,VA,SHA,SSA,SA,HA,LLA"⟩,
   ⟨0x11035, 1, "BRAHMI LETTER OLD TAMIL ", "LLLA,RRA,NNNA"⟩,
   ⟨0x11038, 2, "BRAHMI VOWEL SIGN ", "AA,I,U,VOCALIC R,VOCALIC L,E,O"⟩,
   ⟨0x11039, 2, "BRAHMI VOWEL SIGN ", "BHATTIPROLU AA,II,UU,VOCALIC RR,VOCALIC LL,AI,AU"⟩,
   ⟨0x11046, 1, "BRAHMI ", "VIRAMA,DANDA,DOUBLE DANDA"⟩,
   ⟨0x11049, 1, "BRAHMI PUNCTUATION ", "DOT,DOUBLE DOT,LINE,CRESCENT BAR,LOTUS"⟩,
   ⟨0x11052, 2,
    "BRAHMI NUMBER ", "ONE,THREE,FIVE,SEVEN,NINE,TWENTY,FORTY,SIXTY,EIGHTY,ONE HUNDRED"⟩,
   ⟨0x11053, 2,
    "BRAHMI NUMBER ", "TWO,FOUR,SIX,EIGHT,TEN,THIRTY,FIFTY,SEVENTY,NINETY,ONE THOUSAND"⟩,
   ⟨0x11066, 1, "BRAHMI DIGIT ", "ZERO,ONE,TWO,THREE,FOUR,FIVE,SIX,SEVEN,EIGHT,NINE"⟩,
   ⟨0x11070, 1, "BRAHMI SIGN OLD TAMIL VIRAMA", ""⟩,
   ⟨0x11071, 1, "BRAHMI LETTER OLD TAMIL SHORT ", "E,O"⟩,
   ⟨0x11073, 1, "BRAHMI VOWEL SIGN OLD TAMIL SHORT ", "E,O"⟩,
   ⟨0x11075, 1, "BRAHMI LETTER OLD TAMIL LLA", ""⟩,
   ⟨0x1107F, 1, "BRAHMI NUMBER JOINER", ""⟩,
   ⟨0x11080, 1, "KAITHI SIGN ", "CANDRABINDU,ANUSVARA,VISARGA"⟩,
   ⟨0x11083, 1, "KAITHI LETTER ", "A,AA,I,II,U,UU,E,AI,O,AU,KA"⟩,
   ⟨0x1108E, 2, "KAITHI LETTER ", "KHA,GHA,CA,JA,NYA,TTHA,DDDHA,RHA,TA,DA,NA,PHA,BHA,YA,LA,SHA,SA"⟩,
   ⟨0x1108F, 2, "KAITHI LETTER ", "GA,NGA,CHA,JHA,TTA,DDA,DDHA,NNA,THA,DHA,PA,BA,MA,RA,VA,SSA,HA"⟩,
   ⟨0x110B0, 1, "KAITHI VOWEL SIGN ", "AA,I,II,U,UU,E,AI,O,AU"⟩,
   ⟨0x110B9, 1, "KAITHI ", "SIGN VIRAMA,SIGN NUKTA,ABBREVIATION SIGN,ENUMERATION SIGN,NUMBER SIGN"⟩,
   ⟨0x110BE, 2, "KAITHI ", "SECTION MARK,DANDA,VOWEL SIGN VOCALIC R"⟩,
   ⟨0x110BF, 2, "KAITHI DOUBLE ", "SECTION MARK,DANDA"⟩,
   ⟨0x110CD, 1, "KAITHI NUMBER SIGN ABOVE", ""⟩,
   ⟨0x110D0, 2, "SORA SOMPENG LETTER ", "SAH,BAH,DAH,MAH,LAH,VAH,YAH,HAH,JAH,AH,IH,OH,MAE"⟩,
   ⟨0x110D1, 2, "SORA SOMPENG LETTER ", "TAH,CAH,GAH,NGAH,NAH,PAH,RAH,KAH,NYAH,EEH,UH,EH"⟩,
   ⟨0x110F0, 1, "SORA SOMPENG DIGIT ", "ZERO,ONE,TWO,THREE,FOUR,FIVE,SIX,SEVEN,EIGHT,NINE"⟩,
   ⟨0x11100, 1, "CHAKMA SIGN ", "CANDRABINDU,ANUSVARA,VISARGA"⟩,
   ⟨0x11103, 1, "CHAKMA LETTER ", "AA,I,U,E,KAA,KHAA,GAA,GHAA"⟩,
   ⟨0x1110B, 2,
    "CHAKMA LETTER ", "NGAA,CHAA,JHAA,TTAA,DDAA,NNAA,THAA,DHAA,PAA,BAA,MAA,YAA,LAA,SAA"⟩,
   ⟨0x1110C, 2,
    "CHAKMA LETTER ", "CAA,JAA,NYAA,TTHAA,DDHAA,TAA,DAA,NAA,PHAA,BHAA,YYAA,RAA,WAA,HAA"⟩,
   ⟨0x11127, 1, "CHAKMA VOWEL SIGN ", "A,I,II,U,UU,E,AI,O,AU,OI"⟩,
   ⟨0x11131, 1, "CHAKMA ", "O MARK,AU MARK,VIRAMA,MAAYYAA"⟩,
   ⟨0x11136, 1, "CHAKMA DIGIT ", "ZERO,ONE,TWO,THREE,FOUR,FIVE,SIX,SEVEN,EIGHT,NINE"⟩,
   ⟨0x11140, 2, "CHAKMA ", "SECTION MARK,DOUBLE DANDA,LETTER LHAA,VOWEL SIGN EI"⟩,
   ⟨0x11141, 2, "CHAKMA ", "DANDA,QUESTION MARK,VOWEL SIGN AA,LETTER VAA"⟩,
   ⟨0x11150, 2, "MAHAJANI LETTER ", "A,U,O,KHA,GHA,CHA,JHA,TTA,DDA,NNA,THA,DHA,PA,BA,MA,LA,SA,RRA"⟩,
   ⟨0x11151, 2, "MAHAJANI LETTER ", "I,E,KA,GA,CA,JA,NYA,TTHA,DDHA,TA,DA,NA,PHA,BHA,RA,VA,HA"⟩,
   ⟨0x11173, 1, "MAHAJANI ", "SIGN NUKTA,ABBREVIATION SIGN,SECTION MARK,LIGATURE SHRI"⟩,
   ⟨0x11180, 1, "SHARADA ", "SIGN CANDRABINDU,SIGN ANUSVARA,SIGN VISARGA,LETTER A,LETTER AA"⟩,
   ⟨0x11185, 1, "SHARADA LETTER ", "I,II,U,UU,VOCALIC R,VOCALIC RR,VOCALIC L,VOCALIC LL,E,AI,O,AU"⟩,
   ⟨0x11191, 2, "SHARADA LETTER ", "KA,GA,NGA,CHA,JHA,TTA,DDA,NNA,THA,DHA,PA,BA,MA,RA,LLA,SHA,SA"⟩,
   ⟨0x11192, 2, "SHARADA LETTER ", "KHA,GHA,CA,JA,NYA,TTHA,DDHA,TA,DA,NA,PHA,BHA,YA,LA,VA,SSA,HA"⟩,
   ⟨0x111B3, 2, "SHARADA VOWEL SIGN ", "AA,II,UU,VOCALIC RR,VOCALIC LL,AI,AU"⟩,
   ⟨0x111B4, 2, "SHARADA VOWEL SIGN ", "I,U,VOCALIC R,VOCALIC L,E,O"⟩,
   ⟨0x111C0, 1, "SHARADA SIGN ", "VIRAMA,AVAGRAHA,JIHVAMULIYA,UPADHMANIYA"⟩,
   ⟨0x111C4, 1, "SHARADA ", "OM,DANDA,DOUBLE DANDA,ABBREVIATION SIGN,SEPARATOR"⟩,
   ⟨0x111C9, 2, "SHARADA ", "SANDHI MARK,VOWEL MODIFIER MARK,SUTRA MARK,SIGN INVERTED CANDRABINDU"⟩,
   ⟨0x111CA, 2, "SHARADA ", "SIGN NUKTA,EXTRA SHORT VOWEL MARK,VOWEL SIGN PRISHTHAMATRA E"⟩,
   ⟨0x111D0, 1, "SHARADA DIGIT ", "ZERO,ONE,TWO,THREE,FOUR,FIVE,SIX,SEVEN,EIGHT,NINE"⟩,
   ⟨0x111DA, 1, "SHARADA ", "EKAM,SIGN SIDDHAM,HEADSTROKE,CONTINUATION SIGN"⟩,
   ⟨0x111DE, 1, "SHARADA SECTION MARK-", "1,2"⟩,
   ⟨0x111E1, 1, "SINHALA ARCHAIC DIGIT ", "ONE,TWO,THREE,FOUR,FIVE,SIX,SEVEN,EIGHT,NINE"⟩,
   ⟨0x111EA, 2, "SINHALA ARCHAIC NUMBER ", "TEN,THIRTY,FIFTY,SEVENTY,NINETY,ONE THOUSAND"⟩,
   ⟨0x111EB, 2, "SINHALA ARCHAIC NUMBER ", "TWENTY,FORTY,SIXTY,EIGHTY,ONE HUNDRED"⟩,
   ⟨0x11200, 1, "KHOJKI LETTER ", "A,AA,I,U,E,AI,O,AU,KA,KHA,GA,GGA,GHA,NGA,CA,CHA,JA,JJA"⟩,
   ⟨0x11213, 2, "KHOJKI LETTER ", "NYA,TTHA,DDHA,TA,DA,DHA,PA,BA,BHA,YA,LA,SA,LLA"⟩,
   ⟨0x11214, 2, "KHOJKI LETTER ", "TTA,DDA,NNA,THA,DDDA,NA,PHA,BBA,MA,RA,VA,HA"⟩,
   ⟨0x1122C, 1, "KHOJKI VOWEL SIGN ", "AA,I,II,U,E,AI,O,AU"⟩,
   ⟨0x11234, 1, "KHOJKI SIGN ", "ANUSVARA,VIRAMA,NUKTA,SHADDA"⟩,
   ⟨0x11238, 2, "KHOJKI ", "DANDA,WORD SEPARATOR,DOUBLE SECTION MARK,SIGN SUKUN"⟩,
   ⟨0x11239, 2, "KHOJKI ", "DOUBLE DANDA,SECTION MARK,ABBREVIATION SIGN"⟩,
   ⟨0x11280, 1, "MULTANI LETTER ", "A,I,U,E,KA,KHA,GA"⟩,
   ⟨0x11288, 1, "MULTANI LETTER GHA", ""⟩,
   ⟨0x1128A, 1, "MULTANI LETTER ", "CA,CHA,JA,JJA"⟩,
   ⟨0x1128F, 1, "MULTANI LETTER ", "NYA,TTA,TTHA,DDA,DDDA,DDHA,NNA,TA,THA,DA,DHA,NA,PA,PHA,BA"⟩,
   ⟨0x1129F, 1, "MULTANI LETTER ", "BHA,MA,YA,RA,LA,VA,SA,HA,RRA,RHA"⟩,
   ⟨0x112A9, 1, "MULTANI SECTION MARK", ""⟩,
   ⟨0x112B0, 1, "KHUDAWADI LETTER ", "A,AA,I,II,U,UU,E,AI,O,AU,KA,KHA,GA,GGA"⟩,
   ⟨0x112BE, 2,
    "KHUDAWADI LETTER ", "GHA,CA,JA,JHA,TTA,DDA,RRA,NNA,THA,DHA,PA,BA,BHA,YA,LA,SHA,HA"⟩,
   ⟨0x112BF, 2, "KHUDAWADI LETTER ", "NGA,CHA,JJA,NYA,TTHA,DDDA,DDHA,TA,DA,NA,PHA,BBA,MA,RA,VA,SA"⟩,
   ⟨0x112DF, 1, "KHUDAWADI SIGN ANUSVARA", ""⟩,
   ⟨0x112E0, 1, "KHUDAWADI VOWEL SIGN ", "AA,I,II,U,UU,E,AI,O,AU"⟩,
   ⟨0x112E9, 1, "KHUDAWADI SIGN ", "NUKTA,VIRAMA"⟩,
   ⟨0x112F0, 1, "KHUDAWADI DIGIT ", "ZERO,ONE,TWO,THREE,FOUR,FIVE,SIX,SEVEN,EIGHT,NINE"⟩,
   ⟨0x11300, 1, "GRANTHA SIGN ", "COMBINING ANUSVARA ABOVE,CANDRABINDU,ANUSVARA,VISARGA"⟩,
   ⟨0x11305, 1, "GRANTHA LETTER ", "A,AA,I,II,U,UU,VOCALIC R,VOCALIC L"⟩,
   ⟨0x1130F, 1, "GRANTHA LETTER ", "EE,AI"⟩,
   ⟨0x11313, 2, "GRANTHA LETTER ", "OO,KA,GA,NGA,CHA,JHA,TTA,DDA,NNA,THA,DHA"⟩,
   ⟨0x11314, 2, "GRANTHA LETTER ", "AU,KHA,GHA,CA,JA,NYA,TTHA,DDHA,TA,DA,NA"⟩,
   ⟨0x1132A, 1, "GRANTHA LETTER ", "PA,PHA,BA,BHA,MA,YA,RA"⟩,
   ⟨0x11332, 1, "GRANTHA LETTER ", "LA,LLA"⟩,
   ⟨0x11335, 1, "GRANTHA LETTER ", "VA,SHA,SSA,SA,HA"⟩,
   ⟨0x1133B, 1, "", "COMBINING BINDU BELOW,GRANTHA SIGN NUKTA,GRANTHA SIGN AVAGRAHA"⟩,
   ⟨0x1133E, 1, "GRANTHA VOWEL SIGN ", "AA,I,II,U,UU,VOCALIC R,VOCALIC RR"⟩,
   ⟨0x11347, 1, "GRANTHA VOWEL SIGN ", "EE,AI"⟩,
   ⟨0x1134B, 1, "GRANTHA ", "VOWEL SIGN OO,VOWEL SIGN AU,SIGN VIRAMA"⟩,
   ⟨0x11350, 1, "GRANTHA OM", ""⟩,
   ⟨0x11357, 1, "GRANTHA AU LENGTH MARK", ""⟩,
   ⟨0x1135D, 1, "GRANTHA SIGN PLUTA", ""⟩,
   ⟨0x1135E, 1, "GRANTHA LETTER ", "VEDIC ANUSVARA,VEDIC DOUBLE ANUSVARA,VOCALIC RR,VOCALIC LL"⟩,
   ⟨0x11362, 1, "GRANTHA VOWEL SIGN VOCALIC ", "L,LL"⟩,
   ⟨0x11366, 1, "COMBINING GRANTHA DIGIT ", "ZERO,ONE,TWO,THREE,FOUR,FIVE,SIX"⟩,
   ⟨0x11370, 1, "COMBINING GRANTHA LETTER ", "A,KA,NA,VI,PA"⟩,
   ⟨0x11400, 2, "NEWA LETTER ", "A,I,U,VOCALIC R,VOCALIC L,E,O,KA,GA"⟩,
   ⟨0x11401, 2, "NEWA LETTER ", "AA,II,UU,VOCALIC RR,VOCALIC LL,AI,AU,KHA,GHA"⟩,
   ⟨0x11412, 2,
    "NEWA LETTER ", "NGA,CA,JA,NYA,TTA,DDA,NNA,THA,DHA,NHA,PHA,BHA,MHA,RA,LA,WA,SSA,HA"⟩,
   ⟨0x11413, 2, "NEWA LETTER ", "NGHA,CHA,JHA,NYHA,TTHA,DDHA,TA,DA,NA,PA,BA,MA,YA,RHA,LHA,SHA,SA"⟩,
   ⟨0x11435, 2, "NEWA VOWEL SIGN ", "AA,II,UU,VOCALIC RR,VOCALIC LL,AI,AU"⟩,
   ⟨0x11436, 2, "NEWA VOWEL SIGN ", "I,U,VOCALIC R,VOCALIC L,E,O"⟩,
   ⟨0x11442, 1, "NEWA SIGN ", "VIRAMA,CANDRABINDU,ANUSVARA,VISARGA,NUKTA,AVAGRAHA,FINAL ANUSVARA"⟩,
   ⟨0x11449, 1, "NEWA ", "OM,SIDDHI,DANDA,DOUBLE DANDA,COMMA,GAP FILLER,ABBREVIATION SIGN"⟩,
   ⟨0x11450, 1, "NEWA DIGIT ", "ZERO,ONE,TWO,THREE,FOUR,FIVE,SIX,SEVEN,EIGHT,NINE"⟩,
   ⟨0x1145A, 1, "NEWA ", "DOUBLE COMMA,PLACEHOLDER MARK"⟩,
   ⟨0x1145D, 1, "NEWA ", "INSERTION SIGN,SANDHI MARK,LETTER VEDIC ANUSVARA"⟩,
   ⟨0x11460, 1, "NEWA SIGN ", "JIHVAMULIYA,UPADHMANIYA"⟩,
   ⟨0x11480, 1, "TIRHUTA ANJI", ""⟩,
   ⟨0x11481, 1, "TIRHUTA LETTER ", "A,AA,I,II,U,UU,VOCALIC R,VOCALIC RR,VOCALIC L,VOCALIC LL,E,AI"⟩,
   ⟨0x1148D, 2, "TIRHUTA LETTER ", "O,KA,GA,NGA,CHA,JHA,TTA,DDA,NNA,THA,DHA,PA,BA,MA,RA,VA,SSA,HA"⟩,
   ⟨0x1148E, 2, "TIRHUTA LETTER ", "AU,KHA,GHA,CA,JA,NYA,TTHA,DDHA,TA,DA,NA,PHA,BHA,YA,LA,SHA,SA"⟩,
   ⟨0x114B0, 2, "TIRHUTA VOWEL SIGN ", "AA,II,UU,VOCALIC RR,VOCALIC LL,SHORT E,O,AU"⟩,
   ⟨0x114B1, 2, "TIRHUTA VOWEL SIGN ", "I,U,VOCALIC R,VOCALIC L,E,AI,SHORT O"⟩,
   ⟨0x114BF, 1, "TIRHUTA SIGN ", "CANDRABINDU,ANUSVARA,VISARGA,VIRAMA,NUKTA,AVAGRAHA"⟩,
   ⟨0x114C5, 1, "TIRHUTA ", "GVANG,ABBREVIATION SIGN,OM"⟩,
   ⟨0x114D0, 1, "TIRHUTA DIGIT ", "ZERO,ONE,TWO,THREE,FOUR,FIVE,SIX,SEVEN,EIGHT,NINE"⟩,
   ⟨0x11580, 1, "SIDDHAM LETTER ", "A,AA,I,II,U,UU,VOCALIC R,VOCALIC RR,VOCALIC L,VOCALIC LL,E,AI"⟩,
   ⟨0x1158C, 2, "SIDDHAM LETTER ", "O,KA,GA,NGA,CHA,JHA,TTA,DDA,NNA,THA,DHA,PA,BA,MA,RA,VA,SSA,HA"⟩,
   ⟨0x1158D, 2, "SIDDHAM LETTER ", "AU,KHA,GHA,CA,JA,NYA,TTHA,DDHA,TA,DA,NA,PHA,BHA,YA,LA,SHA,SA"⟩,
   ⟨0x115AF, 1, "SIDDHAM VOWEL SIGN ", "AA,I,II,U,UU,VOCALIC R,VOCALIC RR"⟩,
   ⟨0x115B8, 1, "SIDDHAM VOWEL SIGN ", "E,AI,O,AU"⟩,
   ⟨0x115BC, 1, "SIDDHAM SIGN ", "CANDRABINDU,ANUSVARA,VISARGA,VIRAMA,NUKTA,SIDDHAM"⟩,
   ⟨0x115C2, 2, "SIDDHAM ", "DANDA,SEPARATOR DOT,REPETITION MARK-1,REPETITION MARK-3"⟩,
   ⟨0x115C3, 2, "SIDDHAM ", "DOUBLE DANDA,SEPARATOR BAR,REPETITION MARK-2,END OF TEXT MARK"⟩,
   ⟨0x115CA, 1, "SIDDHAM SECTION MARK WITH TRIDENT AND ", "U-SHAPED ORNAMENTS,DOTTED CRESCENTS"⟩,
   ⟨0x115CC, 1, "SIDDHAM SECTION MARK WITH RAYS AND DOTTED CRESCENTS", ""⟩,
   ⟨0x115CD, 1, "SIDDHAM SECTION MARK WITH RAYS AND DOTTED ", "DOUBLE CRESCENTS,TRIPLE CRESCENTS"⟩,
   ⟨0x115CF, 1, "SIDDHAM SECTION MARK DOUBLE ", "RING,RING WITH RAYS"⟩,
   ⟨0x115D1, 2, "SIDDHAM SECTION MARK WITH ", "DOUBLE CRESCENTS,QUADRUPLE CRESCENTS"⟩,
   ⟨0x115D2, 2, "SIDDHAM SECTION MARK WITH ", "TRIPLE CRESCENTS,SEPTUPLE CRESCENTS"⟩,
   ⟨0x115D5, 1, "SIDDHAM SECTION MARK WITH CIRCLES AND ", "RAYS,TWO ENCLOSURES,FOUR ENCLOSURES"⟩,
   ⟨0x115D8, 2, "SIDDHAM LETTER ", "THREE-CIRCLE ALTERNATE I,TWO-CIRCLE ALTERNATE II"⟩,
   ⟨0x115D9, 2, "SIDDHAM LETTER ", "TWO-CIRCLE ALTERNATE I,ALTERNATE U"⟩,
   ⟨0x115DC, 1, "SIDDHAM VOWEL SIGN ALTERNATE ", "U,UU"⟩,
   ⟨0x11600, 1, "MODI LETTER ", "A,AA,I,II,U,UU,VOCALIC R,VOCALIC RR,VOCALIC L,VOCALIC LL,E,AI"⟩,
   ⟨0x1160C, 2, "MODI LETTER ", "O,KA,GA,NGA,CHA,JHA,TTA,DDA,NNA,THA,DHA,PA,BA,MA,RA,VA,SSA,HA"⟩,
   ⟨0x1160D, 2, "MODI LETTER ", "AU,KHA,GHA,CA,JA,NYA,TTHA,DDHA,TA,DA,NA,PHA,BHA,YA,LA,SHA,SA,LLA"⟩,
   ⟨0x11630, 1,
    "MODI VOWEL SIGN ", "AA,I,II,U,UU,VOCALIC R,VOCALIC RR,VOCALIC L,VOCALIC LL,E,AI,O"⟩,
   ⟨0x1163C, 2, "MODI ", "VOWEL SIGN AU,SIGN VISARGA,SIGN ARDHACANDRA,DOUBLE DANDA,SIGN HUVA"⟩,
   ⟨0x1163D, 2, "MODI ", "SIGN ANUSVARA,SIGN VIRAMA,DANDA,ABBREVIATION SIGN"⟩,
   ⟨0x11650, 1, "MODI DIGIT ", "ZERO,ONE,TWO,THREE,FOUR,FIVE,SIX,SEVEN,EIGHT,NINE"⟩,
   ⟨0x11660, 1, "MONGOLIAN ", "BIRGA WITH ORNAMENT,ROTATED BIRGA,DOUBLE BIRGA WITH ORNAMENT"⟩,
   ⟨0x11663, 1, "MONGOLIAN ", "TRIPLE BIRGA WITH ORNAMENT,BIRGA WITH DOUBLE ORNAMENT"⟩,
   ⟨0x11665, 1, "MONGOLIAN ROTATED BIRGA WITH ", "ORNAMENT,DOUBLE ORNAMENT"⟩,
   ⟨0x11667, 1, "MONGOLIAN INVERTED ", "BIRGA,BIRGA WITH DOUBLE ORNAMENT"⟩,
   ⟨0x11669, 1, "MONGOLIAN SWIRL ", "BIRGA,BIRGA WITH ORNAMENT,BIRGA WITH DOUBLE ORNAMENT"⟩,
   ⟨0x1166C, 1, "MONGOLIAN TURNED SWIRL BIRGA WITH DOUBLE ORNAMENT", ""⟩,
   ⟨0x11680, 1,
    "TAKRI LETTER ", "A,AA,I,II,U,UU,E,AI,O,AU,KA,KHA,GA,GHA,NGA,CA,CHA,JA,JHA,NYA,TTA"⟩,
   ⟨0x11695, 1, "TAKRI LETTER ", "TTHA,DDA,DDHA,NNA,TA,THA,DA,DHA,NA,PA,PHA,BA,BHA,MA,YA,RA,LA,VA"⟩,
   ⟨0x116A7, 1, "TAKRI ", "LETTER SHA,LETTER SA,LETTER HA,LETTER RRA,SIGN ANUSVARA,SIGN VISARGA"⟩,
   ⟨0x116AD, 1, "TAKRI VOWEL SIGN ", "AA,I,II,U,UU,E,AI,O,AU"⟩,
   ⟨0x116B6, 1, "TAKRI ", "SIGN VIRAMA,SIGN NUKTA,LETTER ARCHAIC KHA,ABBREVIATION SIGN"⟩,
   ⟨0x116C0, 1, "TAKRI DIGIT ", "ZERO,ONE,TWO,THREE,FOUR,FIVE,SIX,SEVEN,EIGHT,NINE"⟩,
   ⟨0x11700, 2,
    "AHOM LETTER ", "KA,NGA,TA,PA,BA,JA,THA,LA,NYA,A,DHA,ALTERNATE GA,BHA,ALTERNATE BA"⟩,
   ⟨0x11701, 2, "AHOM LETTER ", "KHA,NA,ALTERNATE TA,PHA,MA,CHA,RA,SA,HA,DA,GA,GHA,JHA"⟩,
   ⟨0x1171D, 1, "AHOM CONSONANT SIGN MEDIAL ", "LA,RA,LIGATING RA"⟩,
   ⟨0x11720, 1, "AHOM VOWEL SIGN ", "A,AA,I,II,U,UU,E,AW,O,AI,AM"⟩,
   ⟨0x1172B, 1, "AHOM SIGN KILLER", ""⟩,
   ⟨0x11730, 1, "AHOM DIGIT ", "ZERO,ONE,TWO,THREE,FOUR,FIVE,SIX,SEVEN,EIGHT,NINE"⟩,
   ⟨0x1173A, 1, "AHOM NUMBER ", "TEN,TWENTY"⟩,
   ⟨0x1173C, 1, "AHOM ", "SIGN SMALL SECTION,SIGN SECTION,SIGN RULAI,SYMBOL VI"⟩,
   ⟨0x11740, 1, "AHOM LETTER ", "CA,TTA,TTHA,DDA,DDHA,NNA,LLA"⟩,
   ⟨0x11800, 1, "DOGRA LETTER ", "A,AA,I,II,U,UU,E,AI"⟩,
   ⟨0x11808, 2, "DOGRA LETTER ", "O,KA,GA,NGA,CHA,JHA,TTA,DDA,NNA,THA,DHA,PA,BA,MA,RA,VA,SSA,HA"⟩,
   ⟨0x11809, 2,
    "DOGRA LETTER ", "AU,KHA,GHA,CA,JA,NYA,TTHA,DDHA,TA,DA,NA,PHA,BHA,YA,LA,SHA,SA,RRA"⟩,
   ⟨0x1182C, 1, "DOGRA VOWEL SIGN ", "AA,I,II,U,UU,VOCALIC R,VOCALIC RR,E,AI,O,AU"⟩,
   ⟨0x11837, 1, "DOGRA ", "SIGN ANUSVARA,SIGN VISARGA,SIGN VIRAMA,SIGN NUKTA,ABBREVIATION SIGN"⟩,
   ⟨0x118A0, 1, "WARANG CITI CAPITAL LETTER ", "NGAA,A,WI,YU,YA,YO"⟩,
   ⟨0x118A6, 2, "WARANG CITI CAPITAL LETTER ", "II,E,ANG,KO,YUJ,ENN,TTE,DA,AM,PU,HOLO,HAR,SII"⟩,
   ⟨0x118A7, 2, "WARANG CITI CAPITAL LETTER ", "UU,O,GA,ENY,UC,ODD,NUNG,AT,BU,HIYO,HORR,SSUU,VIYO"⟩,
   ⟨0x118C0, 1, "WARANG CITI SMALL LETTER ", "NGAA,A,WI,YU"⟩,
   ⟨0x118C4, 2, "WARANG CITI SMALL LETTER ", "YA,II,E,ANG,KO,YUJ,ENN,TTE,DA,AM,PU,HOLO,HAR,SII"⟩,
   ⟨0x118C5, 2,
    "WARANG CITI SMALL LETTER ", "YO,UU,O,GA,ENY,UC,ODD,NUNG,AT,BU,HIYO,HORR,SSUU,VIYO"⟩,
   ⟨0x118E0, 1, "WARANG CITI DIGIT ", "ZERO,ONE,TWO,THREE,FOUR,FIVE,SIX,SEVEN,EIGHT,NINE"⟩,
   ⟨0x118EA, 1, "WARANG CITI NUMBER ", "TEN,TWENTY,THIRTY,FORTY,FIFTY,SIXTY,SEVENTY,EIGHTY,NINETY"⟩,
   ⟨0x118FF, 1, "WARANG CITI OM", ""⟩,
   ⟨0x11900, 1, "DIVES AKURU LETTER ", "A,AA,I,II,U,UU,E"⟩,
   ⟨0x11909, 1, "DIVES AKURU LETTER O", ""⟩,
   ⟨0x1190C, 1, "DIVES AKURU LETTER ", "KA,KHA,GA,GHA,NGA,CA,CHA,JA"⟩,
   ⟨0x11915, 1, "DIVES AKURU LETTER ", "NYA,TTA"⟩,
   ⟨0x11918, 2, "DIVES AKURU LETTER ", "DDA,NNA,THA,DHA,PA,BA,MA,YYA,LA,SHA,SA,LLA"⟩,
   ⟨0x11919, 2, "DIVES AKURU LETTER ", "DDHA,TA,DA,NA,PHA,BHA,YA,RA,VA,SSA,HA,ZA"⟩,
   ⟨0x11930, 1, "DIVES AKURU VOWEL SIGN ", "AA,I,II,U,UU,E"⟩,
   ⟨0x11937, 1, "DIVES AKURU VOWEL SIGN ", "AI,O"⟩,
   ⟨0x1193B, 1, "DIVES AKURU SIGN ", "ANUSVARA,CANDRABINDU,HALANTA"⟩,
   ⟨0x1193E, 2, "DIVES AKURU ", "VIRAMA,MEDIAL YA,MEDIAL RA,DOUBLE DANDA,END OF TEXT MARK"⟩,
   ⟨0x1193F, 2, "DIVES AKURU ", "PREFIXED NASAL SIGN,INITIAL RA,SIGN NUKTA,GAP FILLER"⟩,
   ⟨0x11950, 1, "DIVES AKURU DIGIT ", "ZERO,ONE,TWO,THREE,FOUR,FIVE,SIX,SEVEN,EIGHT,NINE"⟩,
   ⟨0x119A0, 1, "NANDINAGARI LETTER ", "A,AA,I,II,U,UU,VOCALIC R,VOCALIC RR"⟩,
   ⟨0x119AA, 1, "NANDINAGARI LETTER ", "E,AI,O,AU,KA,KHA,GA"⟩,
   ⟨0x119B1, 2, "NANDINAGARI LETTER ", "GHA,CA,JA,NYA,TTHA,DDHA,TA,DA,NA,PHA,BHA,YA,LA,SHA,SA,LLA"⟩,
   ⟨0x119B2, 2, "NANDINAGARI LETTER ", "NGA,CHA,JHA,TTA,DDA,NNA,THA,DHA,PA,BA,MA,RA,VA,SSA,HA,RRA"⟩,
   ⟨0x119D1, 1, "NANDINAGARI VOWEL SIGN ", "AA,I,II,U,UU,VOCALIC R,VOCALIC RR"⟩,
   ⟨0x119DA, 1, "NANDINAGARI VOWEL SIGN ", "E,AI,O,AU"⟩,
   ⟨0x119DE, 1, "NANDINAGARI SIGN ", "ANUSVARA,VISARGA,VIRAMA,AVAGRAHA,SIDDHAM"⟩,
   ⟨0x119E3, 1, "NANDINAGARI ", "HEADSTROKE,VOWEL SIGN PRISHTHAMATRA E"⟩,
   ⟨0x11A00, 1, "ZANABAZAR SQUARE LETTER A", ""⟩,
   ⟨0x11A01, 1, "ZANABAZAR SQUARE VOWEL SIGN ", "I,UE,U,E,OE,O,AI,AU,REVERSED I"⟩,
   ⟨0x11A0A, 1, "ZANABAZAR SQUARE VOWEL LENGTH MARK", ""⟩,
   ⟨0x11A0B, 1, "ZANABAZAR SQUARE LETTER ", "KA,KHA,GA,GHA,NGA,CA,CHA,JA,NYA,TTA,TTHA,DDA"⟩,
   ⟨0x11A17, 2, "ZANABAZAR SQUARE LETTER ", "DDHA,TA,DA,NA,PHA,BHA,TSA,DZA,ZHA,-A,RA,VA,SSA,HA"⟩,
   ⟨0x11A18, 2, "ZANABAZAR SQUARE LETTER ", "NNA,THA,DHA,PA,BA,MA,TSHA,DZHA,ZA,YA,LA,SHA,SA,KSSA"⟩,
   ⟨0x11A33, 1, "ZANABAZAR SQUARE ", "FINAL CONSONANT MARK,SIGN VIRAMA,SIGN CANDRABINDU"⟩,
   ⟨0x11A36, 1,
    "ZANABAZAR SQUARE SIGN ", "CANDRABINDU WITH ORNAMENT,CANDRA WITH ORNAMENT,ANUSVARA"⟩,
   ⟨0x11A39, 1, "ZANABAZAR SQUARE ", "SIGN VISARGA,CLUSTER-INITIAL LETTER RA"⟩,
   ⟨0x11A3B, 1, "ZANABAZAR SQUARE CLUSTER-FINAL LETTER ", "YA,RA,LA,VA"⟩,
   ⟨0x11A3F, 1, "ZANABAZAR SQUARE ", "INITIAL HEAD MARK,CLOSING HEAD MARK,MARK TSHEG"⟩,
   ⟨0x11A42, 2, "ZANABAZAR SQUARE ", "MARK SHAD,MARK LONG TSHEG,CLOSING DOUBLE-LINED HEAD MARK"⟩,
   ⟨0x11A43, 2, "ZANABAZAR SQUARE ", "MARK DOUBLE SHAD,INITIAL DOUBLE-LINED HEAD MARK,SUBJOINER"⟩,
   ⟨0x11A50, 1, "SOYOMBO LETTER A", ""⟩,
   ⟨0x11A51, 1, "SOYOMBO VOWEL SIGN ", "I,UE,U,E,O,OE,AI,AU,VOCALIC R,VOCALIC L"⟩,
   ⟨0x11A5B, 1, "SOYOMBO ", "VOWEL LENGTH MARK,LETTER KA,LETTER KHA,LETTER GA"⟩,
   ⟨0x11A5F, 2, "SOYOMBO LETTER ", "GHA,CA,JA,NYA,TTHA,DDHA,TA,DA,NA,PHA,BHA,TSA,DZA,ZA,YA,LA,SHA"⟩,
   ⟨0x11A60, 2,
    "SOYOMBO LETTER ", "NGA,CHA,JHA,TTA,DDA,NNA,THA,DHA,PA,BA,MA,TSHA,ZHA,-A,RA,VA,SSA"⟩,
   ⟨0x11A81, 1, "SOYOMBO ", "LETTER SA,LETTER HA,LETTER KSSA,SIGN JIHVAMULIYA,SIGN UPADHMANIYA"⟩,
   ⟨0x11A86, 1, "SOYOMBO CLUSTER-INITIAL LETTER ", "RA,LA,SHA,SA"⟩,
   ⟨0x11A8A, 1, "SOYOMBO FINAL CONSONANT SIGN ", "G,K,NG,D,N,B,M,R,L,SH,S,-A"⟩,
   ⟨0x11A96, 1, "SOYOMBO ", "SIGN ANUSVARA,SIGN VISARGA,GEMINATION MARK,SUBJOINER"⟩,
   ⟨0x11A9A, 1, "SOYOMBO MARK ", "TSHEG,SHAD,DOUBLE SHAD,PLUTA"⟩,
   ⟨0x11A9E, 1, "SOYOMBO HEAD MARK WITH MOON AND ", "SUN AND TRIPLE FLAME,SUN AND FLAME,SUN"⟩,
   ⟨0x11AA1, 1, "SOYOMBO TERMINAL MARK-", "1,2"⟩,
   ⟨0x11AB0, 1, "CANADIAN SYLLABICS NATTILIK ", "HI,HII,HO,HOO,HA,HAA,SHRI,SHRII,SHRO,SHROO,SHRA"⟩,
   ⟨0x11ABB, 1, "CANADIAN SYLLABICS ", "NATTILIK SHRAA,SPE,SPI,SPO,SPA"⟩,
   ⟨0x11AC0, 2, "PAU CIN HAU LETTER ", "PA,LA,DA,VA,HA,KHA,BA,TA,NA,RA,CHA,E,O,UA"⟩,
   ⟨0x11AC1, 2, "PAU CIN HAU LETTER ", "KA,MA,ZA,NGA,GA,SA,CA,THA,PHA,FA,A,I,U,IA"⟩,
   ⟨0x11ADC, 1, "PAU CIN HAU LETTER FINAL ", "P,K,T,M,N,L,W,NG,Y"⟩,
   ⟨0x11AE5, 1, "PAU CIN HAU ", "RISING TONE LONG,RISING TONE,SANDHI GLOTTAL STOP"⟩,
   ⟨0x11AE8, 1, "PAU CIN HAU RISING TONE ", "LONG FINAL,FINAL"⟩,
   ⟨0x11AEA, 1, "PAU CIN HAU SANDHI ", "GLOTTAL STOP FINAL,TONE LONG,TONE,TONE LONG FINAL"⟩,
   ⟨0x11AEE, 1, "PAU CIN HAU ", "SANDHI TONE FINAL,MID-LEVEL TONE,GLOTTAL STOP VARIANT"⟩,
   ⟨0x11AF1, 1, "PAU CIN HAU MID-LEVEL TONE ", "LONG FINAL,FINAL"⟩,
   ⟨0x11AF3, 2, "PAU CIN HAU ", "LOW-FALLING TONE LONG,GLOTTAL STOP,LOW-FALLING TONE FINAL"⟩,
   ⟨0x11AF4, 2, "PAU CIN HAU ", "LOW-FALLING TONE,LOW-FALLING TONE LONG FINAL,GLOTTAL STOP FINAL"⟩,
   ⟨0x11C00, 1, "BHAIKSUKI LETTER ", "A,AA,I,II,U,UU,VOCALIC R,VOCALIC RR,VOCALIC L"⟩,
   ⟨0x11C0A, 1, "BHAIKSUKI LETTER ", "E,AI,O"⟩,
   ⟨0x11C0D, 2,
    "BHAIKSUKI LETTER ", "AU,KHA,GHA,CA,JA,NYA,TTHA,DDHA,TA,DA,NA,PHA,BHA,YA,LA,SHA,SA"⟩,
   ⟨0x11C0E, 2, "BHAIKSUKI LETTER ", "KA,GA,NGA,CHA,JHA,TTA,DDA,NNA,THA,DHA,PA,BA,MA,RA,VA,SSA,HA"⟩,
   ⟨0x11C2F, 1, "BHAIKSUKI VOWEL SIGN ", "AA,I,II,U,UU,VOCALIC R,VOCALIC RR,VOCALIC L"⟩,
   ⟨0x11C38, 1, "BHAIKSUKI VOWEL SIGN ", "E,AI,O,AU"⟩,
   ⟨0x11C3C, 1, "BHAIKSUKI SIGN ", "CANDRABINDU,ANUSVARA,VISARGA,VIRAMA,AVAGRAHA"⟩,
   ⟨0x11C41, 1, "BHAIKSUKI ", "DANDA,DOUBLE DANDA,WORD SEPARATOR,GAP FILLER-1,GAP FILLER-2"⟩,
   ⟨0x11C50, 1, "BHAIKSUKI DIGIT ", "ZERO,ONE,TWO,THREE,FOUR,FIVE,SIX,SEVEN,EIGHT,NINE"⟩,
   ⟨0x11C5A, 2, "BHAIKSUKI NUMBER ", "ONE,THREE,FIVE,SEVEN,NINE,TWENTY,FORTY,SIXTY,EIGHTY"⟩,
   ⟨0x11C5B, 2, "BHAIKSUKI NUMBER ", "TWO,FOUR,SIX,EIGHT,TEN,THIRTY,FIFTY,SEVENTY,NINETY"⟩,
   ⟨0x11C6C, 1, "BHAIKSUKI HUNDREDS UNIT MARK", ""⟩,
   ⟨0x11C70, 1, "MARCHEN ", "HEAD MARK,MARK SHAD"⟩,
   ⟨0x11C72, 2, "MARCHEN LETTER ", "KA,GA,CA,JA,TA,DA,PA,BA,TSA,DZA,ZHA,-A,RA,SHA,HA"⟩,
   ⟨0x11C73, 2, "MARCHEN LETTER ", "KHA,NGA,CHA,NYA,THA,NA,PHA,MA,TSHA,WA,ZA,YA,LA,SA,A"⟩,
   ⟨0x11C92, 2, "MARCHEN SUBJOINED LETTER ", "KA,GA,CA,JA,TA,DA,PA,BA,TSA,DZA,ZHA"⟩,
   ⟨0x11C93, 2, "MARCHEN SUBJOINED LETTER ", "KHA,NGA,CHA,NYA,THA,NA,PHA,MA,TSHA,WA,ZA"⟩,
   ⟨0x11CA9, 1, "MARCHEN SUBJOINED LETTER ", "YA,RA,LA,SHA,SA,HA,A"⟩,
   ⟨0x11CB0, 1, "MARCHEN VOWEL SIGN ", "AA,I,U,E,O"⟩,
   ⟨0x11CB5, 1, "MARCHEN SIGN ", "ANUSVARA,CANDRABINDU"⟩,
   ⟨0x11D00, 1, "MASARAM GONDI LETTER ", "A,AA,I,II,U,UU,E"⟩,
   ⟨0x11D08, 1, "MASARAM GONDI LETTER ", "AI,O"⟩,
   ⟨0x11D0B, 1, "MASARAM GONDI LETTER ", "AU,KA,KHA,GA,GHA,NGA,CA,CHA"⟩,
   ⟨0x11D13, 2, "MASARAM GONDI LETTER ", "JA,NYA,TTHA,DDHA,TA,DA,NA,PHA,BHA,YA,LA,SHA,SA,LLA,JNYA"⟩,
   ⟨0x11D14, 2, "MASARAM GONDI LETTER ", "JHA,TTA,DDA,NNA,THA,DHA,PA,BA,MA,RA,VA,SSA,HA,KSSA,TRA"⟩,
   ⟨0x11D31, 1, "MASARAM GONDI VOWEL SIGN ", "AA,I,II,U,UU,VOCALIC R"⟩,
   ⟨0x11D3A, 1, "MASARAM GONDI VOWEL SIGN E", ""⟩,
   ⟨0x11D3C, 1, "MASARAM GONDI VOWEL SIGN ", "AI,O"⟩,
   ⟨0x11D3F, 2, "MASARAM GONDI ", "VOWEL SIGN AU,SIGN VISARGA,SIGN CANDRA,VIRAMA,RA-KARA"⟩,
   ⟨0x11D40, 2, "MASARAM GONDI ", "SIGN ANUSVARA,SIGN NUKTA,SIGN HALANTA,REPHA"⟩,
   ⟨0x11D50, 1, "MASARAM GONDI DIGIT ", "ZERO,ONE,TWO,THREE,FOUR,FIVE,SIX,SEVEN,EIGHT,NINE"⟩,
   ⟨0x11D60, 1, "GUNJALA GONDI LETTER ", "A,AA,I,II,U,UU"⟩,
   ⟨0x11D67, 1, "GUNJALA GONDI LETTER ", "EE,AI"⟩,
   ⟨0x11D6A, 2, "GUNJALA GONDI LETTER ", "OO,YA,BA,MA,KHA,THA,GA,DA,NA,CHA,TTHA,JA,DDA,NGA,PHA,RA"⟩,
   ⟨0x11D6B, 2, "GUNJALA GONDI LETTER ", "AU,VA,BHA,KA,TA,LA,GHA,DHA,CA,TTA,LLA,JHA,DDHA,PA,HA,SA"⟩,
   ⟨0x11D8A, 1, "GUNJALA GONDI VOWEL SIGN ", "AA,I,II,U,UU"⟩,
   ⟨0x11D90, 1, "GUNJALA GONDI VOWEL SIGN ", "EE,AI"⟩,
   ⟨0x11D93, 1, "GUNJALA GONDI VOWEL SIGN ", "OO,AU"⟩,
   ⟨0x11D95, 1, "GUNJALA GONDI ", "SIGN ANUSVARA,SIGN VISARGA,VIRAMA,OM"⟩,
   ⟨0x11DA0, 1, "GUNJALA GONDI DIGIT ", "ZERO,ONE,TWO,THREE,FOUR,FIVE,SIX,SEVEN,EIGHT,NINE"⟩,
   ⟨0x11EE0, 1, "MAKASAR LETTER ", "KA,GA,NGA,PA,BA,MA,TA,DA,NA,CA,JA,NYA,YA,RA,LA,VA,SA,A"⟩,
   ⟨0x11EF2, 2, "MAKASAR ", "ANGKA,VOWEL SIGN U,VOWEL SIGN O,END OF SECTION"⟩,
   ⟨0x11EF3, 2, "MAKASAR ", "VOWEL SIGN I,VOWEL SIGN E,PASSIMBANG"⟩,
   ⟨0x11FB0, 1, "LISU LETTER YHA", ""⟩,
   ⟨0x11FC0, 2, "TAMIL FRACTION ONE ", "THREE-HUNDRED-AND-TWENTIETH,EIGHTIETH,FORTIETH"⟩,
   ⟨0x11FC1, 2, "TAMIL FRACTION ONE ", "ONE-HUNDRED-AND-SIXTIETH,SIXTY-FOURTH,THIRTY-SECOND"⟩,
   ⟨0x11FC6, 1, "TAMIL FRACTION THREE ", "EIGHTIETHS,SIXTY-FOURTHS"⟩,
   ⟨0x11FC8, 1, "TAMIL FRACTION ONE ", "TWENTIETH,SIXTEENTH-1,SIXTEENTH-2,TENTH,EIGHTH"⟩,
   ⟨0x11FCD, 1, "TAMIL FRACTION ", "THREE TWENTIETHS,THREE SIXTEENTHS,ONE FIFTH,ONE QUARTER"⟩,
   ⟨0x11FD1, 1, "TAMIL FRACTION ", "ONE HALF-1,ONE HALF-2,THREE QUARTERS,DOWNSCALING FACTOR KIIZH"⟩,
   ⟨0x11FD5, 2, "TAMIL SIGN ", "NEL,AAZHAAKKU,MUUVUZHAKKU,PATHAKKU,KAACU,PON,PAARAM,VELI"⟩,
   ⟨0x11FD6, 2, "TAMIL SIGN ", "CEVITU,UZHAKKU,KURUNI,MUKKURUNI,PANAM,VARAAKAN,KUZHI"⟩,
   ⟨0x11FE4, 1, "TAMIL ", "WET CULTIVATION SIGN,DRY CULTIVATION SIGN,LAND SIGN,SALT PAN SIGN"⟩,
   ⟨0x11FE8, 1, "TAMIL TRADITIONAL ", "CREDIT SIGN,NUMBER SIGN"⟩,
   ⟨0x11FEA, 2, "TAMIL ", "CURRENT SIGN,SPENT SIGN,IN POSSESSION SIGN,SIGN MUTHALIYA"⟩,
   ⟨0x11FEB, 2, "TAMIL ", "AND ODD SIGN,TOTAL SIGN,STARTING FROM SIGN,SIGN VAKAIYARAA"⟩,
   ⟨0x11FFF, 1, "TAMIL PUNCTUATION END OF TEXT", ""⟩]

end RegexSubst.Unicode
