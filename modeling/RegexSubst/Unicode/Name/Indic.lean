import RegexSubst.Unicode.Name.Run

/-!
# `RegexSubst.Unicode.Name.Indic`: names of U+0900 to U+0DFF

Devanagari to Sinhala.
-/

set_option autoImplicit false

namespace RegexSubst.Unicode

/-- The names of U+0900 to U+0DFF. -/
def indicNames : List NameRun :=
  [⟨0x900, 1, "DEVANAGARI SIGN ", "INVERTED CANDRABINDU,CANDRABINDU,ANUSVARA,VISARGA"⟩,
   ⟨0x904, 2, "DEVANAGARI LETTER ", "SHORT A,AA,II,UU,VOCALIC L,SHORT E,AI,SHORT O,AU,KHA,GHA"⟩,
   ⟨0x905, 2, "DEVANAGARI LETTER ", "A,I,U,VOCALIC R,CANDRA E,E,CANDRA O,O,KA,GA,NGA"⟩,
   ⟨0x91A, 2, "DEVANAGARI LETTER ", "CA,JA,NYA,TTHA,DDHA,TA,DA,NA,PA,BA,MA,RA,LA,LLLA,SHA,SA"⟩,
   ⟨0x91B, 2,
    "DEVANAGARI LETTER ", "CHA,JHA,TTA,DDA,NNA,THA,DHA,NNNA,PHA,BHA,YA,RRA,LLA,VA,SSA,HA"⟩,
   ⟨0x93A, 1, "DEVANAGARI ", "VOWEL SIGN OE,VOWEL SIGN OOE,SIGN NUKTA,SIGN AVAGRAHA"⟩,
   ⟨0x93E, 2, "DEVANAGARI VOWEL SIGN ", "AA,II,UU,VOCALIC RR,SHORT E,AI,SHORT O,AU"⟩,
   ⟨0x93F, 2, "DEVANAGARI VOWEL SIGN ", "I,U,VOCALIC R,CANDRA E,E,CANDRA O,O"⟩,
   ⟨0x94D, 2, "DEVANAGARI ", "SIGN VIRAMA,VOWEL SIGN AW,STRESS SIGN UDATTA,GRAVE ACCENT"⟩,
   ⟨0x94E, 2, "DEVANAGARI ", "VOWEL SIGN PRISHTHAMATRA E,OM,STRESS SIGN ANUDATTA,ACUTE ACCENT"⟩,
   ⟨0x955, 1, "DEVANAGARI VOWEL SIGN ", "CANDRA LONG E,UE,UUE"⟩,
   ⟨0x958, 1, "DEVANAGARI LETTER ", "QA,KHHA,GHHA,ZA,DDDHA,RHA,FA,YYA,VOCALIC RR,VOCALIC LL"⟩,
   ⟨0x962, 1, "DEVANAGARI ", "VOWEL SIGN VOCALIC L,VOWEL SIGN VOCALIC LL,DANDA,DOUBLE DANDA"⟩,
   ⟨0x966, 1, "DEVANAGARI DIGIT ", "ZERO,ONE,TWO,THREE,FOUR,FIVE,SIX,SEVEN,EIGHT,NINE"⟩,
   ⟨0x970, 1, "DEVANAGARI ", "ABBREVIATION SIGN,SIGN HIGH SPACING DOT"⟩,
   ⟨0x972, 2, "DEVANAGARI LETTER ", "CANDRA A,OOE,UE,MARWARI DDA,HEAVY YA,JJA,DDDA"⟩,
   ⟨0x973, 2, "DEVANAGARI LETTER ", "OE,AW,UUE,ZHA,GGA,GLOTTAL STOP,BBA"⟩,
   ⟨0x980, 1, "BENGALI ", "ANJI,SIGN CANDRABINDU,SIGN ANUSVARA,SIGN VISARGA"⟩,
   ⟨0x985, 1, "BENGALI LETTER ", "A,AA,I,II,U,UU,VOCALIC R,VOCALIC L"⟩,
   ⟨0x98F, 1, "BENGALI LETTER ", "E,AI"⟩,
   ⟨0x993, 2, "BENGALI LETTER ", "O,KA,GA,NGA,CHA,JHA,TTA,DDA,NNA,THA,DHA"⟩,
   ⟨0x994, 2, "BENGALI LETTER ", "AU,KHA,GHA,CA,JA,NYA,TTHA,DDHA,TA,DA,NA"⟩,
   ⟨0x9AA, 1, "BENGALI LETTER ", "PA,PHA,BA,BHA,MA,YA,RA"⟩,
   ⟨0x9B2, 1, "BENGALI LETTER LA", ""⟩,
   ⟨0x9B6, 1, "BENGALI LETTER ", "SHA,SSA,SA,HA"⟩,
   ⟨0x9BC, 1, "BENGALI SIGN ", "NUKTA,AVAGRAHA"⟩,
   ⟨0x9BE, 1, "BENGALI VOWEL SIGN ", "AA,I,II,U,UU,VOCALIC R,VOCALIC RR"⟩,
   ⟨0x9C7, 1, "BENGALI VOWEL SIGN ", "E,AI"⟩,
   ⟨0x9CB, 1, "BENGALI ", "VOWEL SIGN O,VOWEL SIGN AU,SIGN VIRAMA,LETTER KHANDA TA"⟩,
   ⟨0x9D7, 1, "BENGALI AU LENGTH MARK", ""⟩,
   ⟨0x9DC, 1, "BENGALI LETTER ", "RRA,RHA"⟩,
   ⟨0x9DF, 1, "BENGALI LETTER ", "YYA,VOCALIC RR,VOCALIC LL"⟩,
   ⟨0x9E2, 1, "BENGALI VOWEL SIGN VOCALIC ", "L,LL"⟩,
   ⟨0x9E6, 1, "BENGALI DIGIT ", "ZERO,ONE,TWO,THREE,FOUR,FIVE,SIX,SEVEN,EIGHT,NINE"⟩,
   ⟨0x9F0, 1, "BENGALI LETTER RA WITH ", "MIDDLE DIAGONAL,LOWER DIAGONAL"⟩,
   ⟨0x9F2, 1, "BENGALI RUPEE ", "MARK,SIGN"⟩,
   ⟨0x9F4, 1, "BENGALI CURRENCY NUMERATOR ", "ONE,TWO,THREE,FOUR,ONE LESS THAN THE DENOMINATOR"⟩,
   ⟨0x9F9, 2, "BENGALI ", "CURRENCY DENOMINATOR SIXTEEN,GANDA MARK,ABBREVIATION SIGN"⟩,
   ⟨0x9FA, 2, "BENGALI ", "ISSHAR,LETTER VEDIC ANUSVARA,SANDHI MARK"⟩,
   ⟨0xA01, 1, "GURMUKHI SIGN ", "ADAK BINDI,BINDI,VISARGA"⟩,
   ⟨0xA05, 1, "GURMUKHI LETTER ", "A,AA,I,II,U,UU"⟩,
   ⟨0xA0F, 1, "GURMUKHI LETTER ", "EE,AI"⟩,
   ⟨0xA13, 2, "GURMUKHI LETTER ", "OO,KA,GA,NGA,CHA,JHA,TTA,DDA,NNA,THA,DHA"⟩,
   ⟨0xA14, 2, "GURMUKHI LETTER ", "AU,KHA,GHA,CA,JA,NYA,TTHA,DDHA,TA,DA,NA"⟩,
   ⟨0xA2A, 1, "GURMUKHI LETTER ", "PA,PHA,BA,BHA,MA,YA,RA"⟩,
   ⟨0xA32, 1, "GURMUKHI LETTER ", "LA,LLA"⟩,
   ⟨0xA35, 1, "GURMUKHI LETTER ", "VA,SHA"⟩,
   ⟨0xA38, 1, "GURMUKHI LETTER ", "SA,HA"⟩,
   ⟨0xA3C, 1, "GURMUKHI SIGN NUKTA", ""⟩,
   ⟨0xA3E, 1, "GURMUKHI VOWEL SIGN ", "AA,I,II,U,UU"⟩,
   ⟨0xA47, 1, "GURMUKHI VOWEL SIGN ", "EE,AI"⟩,
   ⟨0xA4B, 1, "GURMUKHI ", "VOWEL SIGN OO,VOWEL SIGN AU,SIGN VIRAMA"⟩,
   ⟨0xA51, 1, "GURMUKHI SIGN UDAAT", ""⟩,
   ⟨0xA59, 1, "GURMUKHI LETTER ", "KHHA,GHHA,ZA,RRA"⟩,
   ⟨0xA5E, 1, "GURMUKHI LETTER FA", ""⟩,
   ⟨0xA66, 1, "GURMUKHI DIGIT ", "ZERO,ONE,TWO,THREE,FOUR,FIVE,SIX,SEVEN,EIGHT,NINE"⟩,
   ⟨0xA70, 1, "GURMUKHI ", "TIPPI,ADDAK,IRI,URA,EK ONKAR,SIGN YAKASH,ABBREVIATION SIGN"⟩,
   ⟨0xA81, 1, "GUJARATI SIGN ", "CANDRABINDU,ANUSVARA,VISARGA"⟩,
   ⟨0xA85, 1, "GUJARATI LETTER ", "A,AA,I,II,U,UU,VOCALIC R,VOCALIC L"⟩,
   ⟨0xA8D, 1, "GUJARATI VOWEL CANDRA E", ""⟩,
   ⟨0xA8F, 1, "GUJARATI ", "LETTER E,LETTER AI,VOWEL CANDRA O"⟩,
   ⟨0xA93, 2, "GUJARATI LETTER ", "O,KA,GA,NGA,CHA,JHA,TTA,DDA,NNA,THA,DHA"⟩,
   ⟨0xA94, 2, "GUJARATI LETTER ", "AU,KHA,GHA,CA,JA,NYA,TTHA,DDHA,TA,DA,NA"⟩,
   ⟨0xAAA, 1, "GUJARATI LETTER ", "PA,PHA,BA,BHA,MA,YA,RA"⟩,
   ⟨0xAB2, 1, "GUJARATI LETTER ", "LA,LLA"⟩,
   ⟨0xAB5, 1, "GUJARATI LETTER ", "VA,SHA,SSA,SA,HA"⟩,
   ⟨0xABC, 1, "GUJARATI SIGN ", "NUKTA,AVAGRAHA"⟩,
   ⟨0xABE, 1, "GUJARATI VOWEL SIGN ", "AA,I,II,U,UU,VOCALIC R,VOCALIC RR,CANDRA E"⟩,
   ⟨0xAC7, 1, "GUJARATI VOWEL SIGN ", "E,AI,CANDRA O"⟩,
   ⟨0xACB, 1, "GUJARATI ", "VOWEL SIGN O,VOWEL SIGN AU,SIGN VIRAMA"⟩,
   ⟨0xAD0, 1, "GUJARATI OM", ""⟩,
   ⟨0xAE0, 1, "GUJARATI LETTER VOCALIC ", "RR,LL"⟩,
   ⟨0xAE2, 1, "GUJARATI VOWEL SIGN VOCALIC ", "L,LL"⟩,
   ⟨0xAE6, 1, "GUJARATI DIGIT ", "ZERO,ONE,TWO,THREE,FOUR,FIVE,SIX,SEVEN,EIGHT,NINE"⟩,
   ⟨0xAF0, 1, "GUJARATI ", "ABBREVIATION SIGN,RUPEE SIGN"⟩,
   ⟨0xAF9, 1, "GUJARATI ", "LETTER ZHA,SIGN SUKUN,SIGN SHADDA,SIGN MADDAH"⟩,
   ⟨0xAFD, 1, "GUJARATI SIGN ", "THREE-DOT NUKTA ABOVE,CIRCLE NUKTA ABOVE,TWO-CIRCLE NUKTA ABOVE"⟩,
   ⟨0xB01, 1, "ORIYA SIGN ", "CANDRABINDU,ANUSVARA,VISARGA"⟩,
   ⟨0xB05, 1, "ORIYA LETTER ", "A,AA,I,II,U,UU,VOCALIC R,VOCALIC L"⟩,
   ⟨0xB0F, 1, "ORIYA LETTER ", "E,AI"⟩,
   ⟨0xB13, 2, "ORIYA LETTER ", "O,KA,GA,NGA,CHA,JHA,TTA,DDA,NNA,THA,DHA"⟩,
   ⟨0xB14, 2, "ORIYA LETTER ", "AU,KHA,GHA,CA,JA,NYA,TTHA,DDHA,TA,DA,NA"⟩,
   ⟨0xB2A, 1, "ORIYA LETTER ", "PA,PHA,BA,BHA,MA,YA,RA"⟩,
   ⟨0xB32, 1, "ORIYA LETTER ", "LA,LLA"⟩,
   ⟨0xB35, 1, "ORIYA LETTER ", "VA,SHA,SSA,SA,HA"⟩,
   ⟨0xB3C, 1, "ORIYA SIGN ", "NUKTA,AVAGRAHA"⟩,
   ⟨0xB3E, 1, "ORIYA VOWEL SIGN ", "AA,I,II,U,UU,VOCALIC R,VOCALIC RR"⟩,
   ⟨0xB47, 1, "ORIYA VOWEL SIGN ", "E,AI"⟩,
   ⟨0xB4B, 1, "ORIYA ", "VOWEL SIGN O,VOWEL SIGN AU,SIGN VIRAMA"⟩,
   ⟨0xB55, 1, "ORIYA ", "SIGN OVERLINE,AI LENGTH MARK,AU LENGTH MARK"⟩,
   ⟨0xB5C, 1, "ORIYA LETTER ", "RRA,RHA"⟩,
   ⟨0xB5F, 1, "ORIYA LETTER ", "YYA,VOCALIC RR,VOCALIC LL"⟩,
   ⟨0xB62, 1, "ORIYA VOWEL SIGN VOCALIC ", "L,LL"⟩,
   ⟨0xB66, 1, "ORIYA DIGIT ", "ZERO,ONE,TWO,THREE,FOUR,FIVE,SIX,SEVEN,EIGHT,NINE"⟩,
   ⟨0xB70, 1, "ORIYA ", "ISSHAR,LETTER WA,FRACTION ONE QUARTER,FRACTION ONE HALF"⟩,
   ⟨0xB74, 1, "ORIYA FRACTION ", "THREE QUARTERS,ONE SIXTEENTH,ONE EIGHTH,THREE SIXTEENTHS"⟩,
   ⟨0xB82, 1, "TAMIL SIGN ", "ANUSVARA,VISARGA"⟩,
   ⟨0xB85, 1, "TAMIL LETTER ", "A,AA,I,II,U,UU"⟩,
   ⟨0xB8E, 1, "TAMIL LETTER ", "E,EE,AI"⟩,
   ⟨0xB92, 1, "TAMIL LETTER ", "O,OO,AU,KA"⟩,
   ⟨0xB99, 1, "TAMIL LETTER ", "NGA,CA"⟩,
   ⟨0xB9C, 1, "TAMIL LETTER JA", ""⟩,
   ⟨0xB9E, 1, "TAMIL LETTER ", "NYA,TTA"⟩,
   ⟨0xBA3, 1, "TAMIL LETTER ", "NNA,TA"⟩,
   ⟨0xBA8, 1, "TAMIL LETTER ", "NA,NNNA,PA"⟩,
   ⟨0xBAE, 1, "TAMIL LETTER ", "MA,YA,RA,RRA,LA,LLA,LLLA,VA,SHA,SSA,SA,HA"⟩,
   ⟨0xBBE, 1, "TAMIL VOWEL SIGN ", "AA,I,II,U,UU"⟩,
   ⟨0xBC6, 1, "TAMIL VOWEL SIGN ", "E,EE,AI"⟩,
   ⟨0xBCA, 1, "TAMIL ", "VOWEL SIGN O,VOWEL SIGN OO,VOWEL SIGN AU,SIGN VIRAMA"⟩,
   ⟨0xBD0, 1, "TAMIL OM", ""⟩,
   ⟨0xBD7, 1, "TAMIL AU LENGTH MARK", ""⟩,
   ⟨0xBE6, 1, "TAMIL DIGIT ", "ZERO,ONE,TWO,THREE,FOUR,FIVE,SIX,SEVEN,EIGHT,NINE"⟩,
   ⟨0xBF0, 1, "TAMIL ", "NUMBER TEN,NUMBER ONE HUNDRED,NUMBER ONE THOUSAND,DAY SIGN,MONTH SIGN"⟩,
   ⟨0xBF5, 1, "TAMIL ", "YEAR SIGN,DEBIT SIGN,CREDIT SIGN,AS ABOVE SIGN,RUPEE SIGN,NUMBER SIGN"⟩,
   ⟨0xC00, 2, "TELUGU SIGN ", "COMBINING CANDRABINDU ABOVE,ANUSVARA,COMBINING ANUSVARA ABOVE"⟩,
   ⟨0xC01, 2, "TELUGU SIGN ", "CANDRABINDU,VISARGA"⟩,
   ⟨0xC05, 1, "TELUGU LETTER ", "A,AA,I,II,U,UU,VOCALIC R,VOCALIC L"⟩,
   ⟨0xC0E, 1, "TELUGU LETTER ", "E,EE,AI"⟩,
   ⟨0xC12, 2, "TELUGU LETTER ", "O,AU,KHA,GHA,CA,JA,NYA,TTHA,DDHA,TA,DA,NA"⟩,
   ⟨0xC13, 2, "TELUGU LETTER ", "OO,KA,GA,NGA,CHA,JHA,TTA,DDA,NNA,THA,DHA"⟩,
   ⟨0xC2A, 1, "TELUGU LETTER ", "PA,PHA,BA,BHA,MA,YA,RA,RRA,LA,LLA,LLLA,VA,SHA,SSA,SA,HA"⟩,
   ⟨0xC3C, 1, "TELUGU SIGN ", "NUKTA,AVAGRAHA"⟩,
   ⟨0xC3E, 1, "TELUGU VOWEL SIGN ", "AA,I,II,U,UU,VOCALIC R,VOCALIC RR"⟩,
   ⟨0xC46, 1, "TELUGU VOWEL SIGN ", "E,EE,AI"⟩,
   ⟨0xC4A, 1, "TELUGU ", "VOWEL SIGN O,VOWEL SIGN OO,VOWEL SIGN AU,SIGN VIRAMA"⟩,
   ⟨0xC55, 1, "TELUGU ", "LENGTH MARK,AI LENGTH MARK"⟩,
   ⟨0xC58, 1, "TELUGU LETTER ", "TSA,DZA,RRRA"⟩,
   ⟨0xC5D, 1, "TELUGU LETTER NAKAARA POLLU", ""⟩,
   ⟨0xC60, 1, "TELUGU LETTER VOCALIC ", "RR,LL"⟩,
   ⟨0xC62, 1, "TELUGU VOWEL SIGN VOCALIC ", "L,LL"⟩,
   ⟨0xC66, 1, "TELUGU DIGIT ", "ZERO,ONE,TWO,THREE,FOUR,FIVE,SIX,SEVEN,EIGHT,NINE"⟩,
   ⟨0xC77, 1, "TELUGU SIGN SIDDHAM", ""⟩,
   ⟨0xC78, 2, "TELUGU FRACTION DIGIT ", "ZERO FOR ODD POWERS OF FOUR,TWO FOR ODD POWERS OF FOUR"⟩,
   ⟨0xC79, 2, "TELUGU FRACTION DIGIT ", "ONE FOR ODD POWERS OF FOUR,THREE FOR ODD POWERS OF FOUR"⟩,
   ⟨0xC7C, 2,
    "TELUGU FRACTION DIGIT ", "ONE FOR EVEN POWERS OF FOUR,THREE FOR EVEN POWERS OF FOUR"⟩,
   ⟨0xC7D, 2, "TELUGU ", "FRACTION DIGIT TWO FOR EVEN POWERS OF FOUR,SIGN TUUMU"⟩,
   ⟨0xC80, 1, "KANNADA SIGN ", "SPACING CANDRABINDU,CANDRABINDU,ANUSVARA,VISARGA,SIDDHAM"⟩,
   ⟨0xC85, 1, "KANNADA LETTER ", "A,AA,I,II,U,UU,VOCALIC R,VOCALIC L"⟩,
   ⟨0xC8E, 1, "KANNADA LETTER ", "E,EE,AI"⟩,
   ⟨0xC92, 2, "KANNADA LETTER ", "O,AU,KHA,GHA,CA,JA,NYA,TTHA,DDHA,TA,DA,NA"⟩,
   ⟨0xC93, 2, "KANNADA LETTER ", "OO,KA,GA,NGA,CHA,JHA,TTA,DDA,NNA,THA,DHA"⟩,
   ⟨0xCAA, 1, "KANNADA LETTER ", "PA,PHA,BA,BHA,MA,YA,RA,RRA,LA,LLA"⟩,
   ⟨0xCB5, 1, "KANNADA LETTER ", "VA,SHA,SSA,SA,HA"⟩,
   ⟨0xCBC, 1, "KANNADA SIGN ", "NUKTA,AVAGRAHA"⟩,
   ⟨0xCBE, 1, "KANNADA VOWEL SIGN ", "AA,I,II,U,UU,VOCALIC R,VOCALIC RR"⟩,
   ⟨0xCC6, 1, "KANNADA VOWEL SIGN ", "E,EE,AI"⟩,
   ⟨0xCCA, 1, "KANNADA ", "VOWEL SIGN O,VOWEL SIGN OO,VOWEL SIGN AU,SIGN VIRAMA"⟩,
   ⟨0xCD5, 1, "KANNADA ", "LENGTH MARK,AI LENGTH MARK"⟩,
   ⟨0xCDD, 1, "KANNADA LETTER ", "NAKAARA POLLU,FA"⟩,
   ⟨0xCE0, 1, "KANNADA LETTER VOCALIC ", "RR,LL"⟩,
   ⟨0xCE2, 1, "KANNADA VOWEL SIGN VOCALIC ", "L,LL"⟩,
   ⟨0xCE6, 1, "KANNADA DIGIT ", "ZERO,ONE,TWO,THREE,FOUR,FIVE,SIX,SEVEN,EIGHT,NINE"⟩,
   ⟨0xCF1, 1, "KANNADA SIGN ", "JIHVAMULIYA,UPADHMANIYA"⟩,
   ⟨0xD00, 1, "MALAYALAM SIGN ", "COMBINING ANUSVARA ABOVE,CANDRABINDU,ANUSVARA,VISARGA"⟩,
   ⟨0xD04, 1, "MALAYALAM LETTER ", "VEDIC ANUSVARA,A,AA,I,II,U,UU,VOCALIC R,VOCALIC L"⟩,
   ⟨0xD0E, 1, "MALAYALAM LETTER ", "E,EE,AI"⟩,
   ⟨0xD12, 1, "MALAYALAM LETTER ", "O,OO,AU,KA,KHA,GA,GHA,NGA"⟩,
   ⟨0xD1A, 2, "MALAYALAM LETTER ", "CA,JA,NYA,TTHA,DDHA,TA,DA,NA,PA,BA,MA,RA,LA,LLLA,SHA,SA,TTTA"⟩,
   ⟨0xD1B, 2, "MALAYALAM LETTER ", "CHA,JHA,TTA,DDA,NNA,THA,DHA,NNNA,PHA,BHA,YA,RRA,LLA,VA,SSA,HA"⟩,
   ⟨0xD3B, 1, "MALAYALAM SIGN ", "VERTICAL BAR VIRAMA,CIRCULAR VIRAMA,AVAGRAHA"⟩,
   ⟨0xD3E, 1, "MALAYALAM VOWEL SIGN ", "AA,I,II,U,UU,VOCALIC R,VOCALIC RR"⟩,
   ⟨0xD46, 1, "MALAYALAM VOWEL SIGN ", "E,EE,AI"⟩,
   ⟨0xD4A, 1, "MALAYALAM VOWEL SIGN ", "O,OO,AU"⟩,
   ⟨0xD4D, 1, "MALAYALAM ", "SIGN VIRAMA,LETTER DOT REPH,SIGN PARA"⟩,
   ⟨0xD54, 1, "MALAYALAM ", "LETTER CHILLU M,LETTER CHILLU Y,LETTER CHILLU LLL,AU LENGTH MARK"⟩,
   ⟨0xD58, 1, "MALAYALAM FRACTION ", "ONE ONE-HUNDRED-AND-SIXTIETH,ONE FORTIETH,THREE EIGHTIETHS"⟩,
   ⟨0xD5B, 1, "MALAYALAM FRACTION ", "ONE TWENTIETH,ONE TENTH,THREE TWENTIETHS,ONE FIFTH"⟩,
   ⟨0xD5F, 1, "MALAYALAM LETTER ", "ARCHAIC II,VOCALIC RR,VOCALIC LL"⟩,
   ⟨0xD62, 1, "MALAYALAM VOWEL SIGN VOCALIC ", "L,LL"⟩,
   ⟨0xD66, 1, "MALAYALAM DIGIT ", "ZERO,ONE,TWO,THREE,FOUR,FIVE,SIX,SEVEN,EIGHT,NINE"⟩,
   ⟨0xD70, 1, "MALAYALAM NUMBER ", "TEN,ONE HUNDRED,ONE THOUSAND"⟩,
   ⟨0xD73, 1,
    "MALAYALAM FRACTION ", "ONE QUARTER,ONE HALF,THREE QUARTERS,ONE SIXTEENTH,ONE EIGHTH"⟩,
   ⟨0xD78, 1, "MALAYALAM ", "FRACTION THREE SIXTEENTHS,DATE MARK"⟩,
   ⟨0xD7A, 1, "MALAYALAM LETTER CHILLU ", "NN,N,RR,L,LL,K"⟩,
   ⟨0xD81, 1, "SINHALA SIGN ", "CANDRABINDU,ANUSVARAYA,VISARGAYA"⟩,
   ⟨0xD85, 1, "SINHALA LETTER ", "AYANNA,AAYANNA,AEYANNA,AEEYANNA"⟩,
   ⟨0xD89, 2, "SINHALA LETTER ", "IYANNA,UYANNA,IRUYANNA,ILUYANNA,EYANNA,AIYANNA,OOYANNA"⟩,
   ⟨0xD8A, 2, "SINHALA LETTER ", "IIYANNA,UUYANNA,IRUUYANNA,ILUUYANNA,EEYANNA,OYANNA,AUYANNA"⟩,
   ⟨0xD9A, 2, "SINHALA LETTER ALPAPRAANA ", "KAYANNA,GAYANNA"⟩,
   ⟨0xD9B, 2, "SINHALA LETTER MAHAAPRAANA ", "KAYANNA,GAYANNA"⟩,
   ⟨0xD9E, 2, "SINHALA LETTER ", "KANTAJA NAASIKYAYA,ALPAPRAANA CAYANNA,ALPAPRAANA JAYANNA"⟩,
   ⟨0xD9F, 2, "SINHALA LETTER ", "SANYAKA GAYANNA,MAHAAPRAANA CAYANNA,MAHAAPRAANA JAYANNA"⟩,
   ⟨0xDA4, 1, "SINHALA LETTER ", "TAALUJA NAASIKYAYA,TAALUJA SANYOOGA NAAKSIKYAYA,SANYAKA JAYANNA"⟩,
   ⟨0xDA7, 2, "SINHALA LETTER ", "ALPAPRAANA TTAYANNA,ALPAPRAANA DDAYANNA,MUURDHAJA NAYANNA"⟩,
   ⟨0xDA8, 2, "SINHALA LETTER MAHAAPRAANA ", "TTAYANNA,DDAYANNA"⟩,
   ⟨0xDAC, 2, "SINHALA LETTER ", "SANYAKA DDAYANNA,MAHAAPRAANA TAYANNA,MAHAAPRAANA DAYANNA"⟩,
   ⟨0xDAD, 2, "SINHALA LETTER ", "ALPAPRAANA TAYANNA,ALPAPRAANA DAYANNA,DANTAJA NAYANNA"⟩,
   ⟨0xDB3, 2, "SINHALA LETTER ", "SANYAKA DAYANNA,MAHAAPRAANA PAYANNA"⟩,
   ⟨0xDB4, 2, "SINHALA LETTER ALPAPRAANA ", "PAYANNA,BAYANNA"⟩,
   ⟨0xDB7, 1, "SINHALA LETTER ", "MAHAAPRAANA BAYANNA,MAYANNA,AMBA BAYANNA,YAYANNA,RAYANNA"⟩,
   ⟨0xDBD, 1, "SINHALA LETTER DANTAJA LAYANNA", ""⟩,
   ⟨0xDC0, 2, "SINHALA LETTER ", "VAYANNA,MUURDHAJA SAYANNA,HAYANNA,FAYANNA"⟩,
   ⟨0xDC1, 2, "SINHALA LETTER ", "TAALUJA SAYANNA,DANTAJA SAYANNA,MUURDHAJA LAYANNA"⟩,
   ⟨0xDCA, 1, "SINHALA SIGN AL-LAKUNA", ""⟩,
   ⟨0xDCF, 2, "SINHALA VOWEL SIGN ", "AELA-PILLA,DIGA AEDA-PILLA,DIGA IS-PILLA"⟩,
   ⟨0xDD0, 2, "SINHALA VOWEL SIGN KETTI ", "AEDA-PILLA,IS-PILLA,PAA-PILLA"⟩,
   ⟨0xDD6, 1, "SINHALA VOWEL SIGN DIGA PAA-PILLA", ""⟩,
   ⟨0xDD8, 1, "SINHALA VOWEL SIGN ", "GAETTA-PILLA,KOMBUVA,DIGA KOMBUVA,KOMBU DEKA"⟩,
   ⟨0xDDC, 1, "SINHALA VOWEL SIGN KOMBUVA HAA ", "AELA-PILLA,DIGA AELA-PILLA,GAYANUKITTA"⟩,
   ⟨0xDDF, 1, "SINHALA VOWEL SIGN GAYANUKITTA", ""⟩,
   ⟨0xDE6, 1, "SINHALA LITH DIGIT ", "ZERO,ONE,TWO,THREE,FOUR,FIVE,SIX,SEVEN,EIGHT,NINE"⟩,
   ⟨0xDF2, 1, "SINHALA VOWEL SIGN DIGA ", "GAETTA-PILLA,GAYANUKITTA"⟩,
   ⟨0xDF4, 1, "SINHALA PUNCTUATION KUNDDALIYA", ""⟩]

end RegexSubst.Unicode
