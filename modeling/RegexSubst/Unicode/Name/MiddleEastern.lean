import RegexSubst.Unicode.Name.Run

/-!
# `RegexSubst.Unicode.Name.MiddleEastern`: names of U+0590 to U+08FF

Hebrew, Arabic, Syriac and the scripts near them.
-/

set_option autoImplicit false

namespace RegexSubst.Unicode

/-- The names of U+0590 to U+08FF. -/
def middleEasternNames : List NameRun :=
  [⟨0x591, 1, "HEBREW ACCENT ", "ETNAHTA,SEGOL,SHALSHELET,ZAQEF QATAN,ZAQEF GADOL,TIPEHA"⟩,
   ⟨0x597, 2, "HEBREW ACCENT ", "REVIA,PASHTA,TEVIR,GERESH MUQDAM,QARNEY PARA,PAZER,MUNAH,MERKHA"⟩,
   ⟨0x598, 2,
    "HEBREW ACCENT ", "ZARQA,YETIV,GERESH,GERSHAYIM,TELISHA GEDOLA,ATNAH HAFUKH,MAHAPAKH"⟩,
   ⟨0x5A6, 1, "HEBREW ACCENT ", "MERKHA KEFULA,DARGA,QADMA,TELISHA QETANA,YERAH BEN YOMO,OLE,ILUY"⟩,
   ⟨0x5AD, 1, "HEBREW ", "ACCENT DEHI,ACCENT ZINOR,MARK MASORA CIRCLE"⟩,
   ⟨0x5B0, 1,
    "HEBREW POINT ", "SHEVA,HATAF SEGOL,HATAF PATAH,HATAF QAMATS,HIRIQ,TSERE,SEGOL,PATAH"⟩,
   ⟨0x5B8, 1, "HEBREW POINT ", "QAMATS,HOLAM,HOLAM HASER FOR VAV,QUBUTS,DAGESH OR MAPIQ,METEG"⟩,
   ⟨0x5BE, 1, "HEBREW ", "PUNCTUATION MAQAF,POINT RAFE"⟩,
   ⟨0x5C0, 2, "HEBREW ", "PUNCTUATION PASEQ,POINT SIN DOT,MARK UPPER DOT,PUNCTUATION NUN HAFUKHA"⟩,
   ⟨0x5C1, 2, "HEBREW ", "POINT SHIN DOT,PUNCTUATION SOF PASUQ,MARK LOWER DOT,POINT QAMATS QATAN"⟩,
   ⟨0x5D0, 1, "HEBREW LETTER ", "ALEF,BET,GIMEL,DALET,HE,VAV,ZAYIN,HET"⟩,
   ⟨0x5D8, 2, "HEBREW LETTER ", "TET,FINAL KAF,LAMED,MEM,NUN,AYIN,PE,TSADI,RESH,TAV"⟩,
   ⟨0x5D9, 2, "HEBREW LETTER ", "YOD,KAF,FINAL MEM,FINAL NUN,SAMEKH,FINAL PE,FINAL TSADI,QOF,SHIN"⟩,
   ⟨0x5EF, 1, "HEBREW YOD TRIANGLE", ""⟩,
   ⟨0x5F0, 1, "HEBREW LIGATURE YIDDISH ", "DOUBLE VAV,VAV YOD,DOUBLE YOD"⟩,
   ⟨0x5F3, 1, "HEBREW PUNCTUATION ", "GERESH,GERSHAYIM"⟩,
   ⟨0x600, 1, "ARABIC ", "NUMBER SIGN,SIGN SANAH,FOOTNOTE MARKER,SIGN SAFHA,SIGN SAMVAT"⟩,
   ⟨0x605, 1, "", "ARABIC NUMBER MARK ABOVE,ARABIC-INDIC CUBE ROOT,ARABIC-INDIC FOURTH ROOT"⟩,
   ⟨0x608, 1, "", "ARABIC RAY,ARABIC-INDIC PER MILLE SIGN,ARABIC-INDIC PER TEN THOUSAND SIGN"⟩,
   ⟨0x60B, 1, "", "AFGHANI SIGN,ARABIC COMMA,ARABIC DATE SEPARATOR"⟩,
   ⟨0x60E, 1, "ARABIC ", "POETIC VERSE SIGN,SIGN MISRA,SIGN SALLALLAHOU ALAYHE WASSALLAM"⟩,
   ⟨0x611, 1, "ARABIC SIGN ", "ALAYHE ASSALLAM,RAHMATULLAH ALAYHE,RADI ALLAHOU ANHU,TAKHALLUS"⟩,
   ⟨0x615, 1, "ARABIC SMALL HIGH ", "TAH,LIGATURE ALEF WITH LAM WITH YEH,ZAIN"⟩,
   ⟨0x618, 2, "ARABIC ", "SMALL FATHA,SMALL KASRA,LETTER MARK,TRIPLE DOT PUNCTUATION MARK"⟩,
   ⟨0x619, 2, "ARABIC ", "SMALL DAMMA,SEMICOLON,END OF TEXT MARK,QUESTION MARK"⟩,
   ⟨0x620, 1, "ARABIC LETTER ", "KASHMIRI YEH,HAMZA,ALEF WITH MADDA ABOVE,ALEF WITH HAMZA ABOVE"⟩,
   ⟨0x624, 1, "ARABIC LETTER ", "WAW WITH HAMZA ABOVE,ALEF WITH HAMZA BELOW,YEH WITH HAMZA ABOVE"⟩,
   ⟨0x627, 2, "ARABIC LETTER ", "ALEF,TEH MARBUTA,THEH,HAH,DAL,REH,SEEN,SAD,TAH,AIN"⟩,
   ⟨0x628, 2, "ARABIC LETTER ", "BEH,TEH,JEEM,KHAH,THAL,ZAIN,SHEEN,DAD,ZAH,GHAIN"⟩,
   ⟨0x63B, 1, "ARABIC LETTER KEHEH WITH ", "TWO DOTS ABOVE,THREE DOTS BELOW"⟩,
   ⟨0x63D, 1, "ARABIC LETTER FARSI YEH WITH ", "INVERTED V,TWO DOTS ABOVE,THREE DOTS ABOVE"⟩,
   ⟨0x640, 1, "ARABIC TATWEEL", ""⟩,
   ⟨0x641, 1, "ARABIC LETTER ", "FEH,QAF,KAF,LAM,MEEM,NOON,HEH,WAW,ALEF MAKSURA,YEH"⟩,
   ⟨0x64B, 1, "ARABIC ", "FATHATAN,DAMMATAN,KASRATAN,FATHA,DAMMA,KASRA,SHADDA,SUKUN,MADDAH ABOVE"⟩,
   ⟨0x654, 2, "ARABIC ", "HAMZA ABOVE,SUBSCRIPT ALEF,MARK NOON GHUNNA,VOWEL SIGN SMALL V ABOVE"⟩,
   ⟨0x655, 2, "ARABIC ", "HAMZA BELOW,INVERTED DAMMA,ZWARAKAY,VOWEL SIGN INVERTED SMALL V ABOVE"⟩,
   ⟨0x65C, 1,
    "ARABIC ", "VOWEL SIGN DOT BELOW,REVERSED DAMMA,FATHA WITH TWO DOTS,WAVY HAMZA BELOW"⟩,
   ⟨0x660, 1, "ARABIC-INDIC DIGIT ", "ZERO,ONE,TWO,THREE,FOUR,FIVE,SIX,SEVEN,EIGHT,NINE"⟩,
   ⟨0x66A, 1, "ARABIC ", "PERCENT SIGN,DECIMAL SEPARATOR,THOUSANDS SEPARATOR,FIVE POINTED STAR"⟩,
   ⟨0x66E, 1, "ARABIC LETTER ", "DOTLESS BEH,DOTLESS QAF,SUPERSCRIPT ALEF,ALEF WASLA"⟩,
   ⟨0x672, 1, "ARABIC LETTER ALEF WITH WAVY HAMZA ", "ABOVE,BELOW"⟩,
   ⟨0x674, 1, "ARABIC LETTER HIGH ", "HAMZA,HAMZA ALEF,HAMZA WAW"⟩,
   ⟨0x677, 1, "ARABIC LETTER ", "U WITH HAMZA ABOVE,HIGH HAMZA YEH,TTEH,TTEHEH"⟩,
   ⟨0x67B, 1, "ARABIC LETTER ", "BEEH,TEH WITH RING,TEH WITH THREE DOTS ABOVE DOWNWARDS,PEH,TEHEH"⟩,
   ⟨0x680, 1, "ARABIC LETTER ", "BEHEH,HAH WITH HAMZA ABOVE,HAH WITH TWO DOTS VERTICAL ABOVE,NYEH"⟩,
   ⟨0x684, 1, "ARABIC LETTER ", "DYEH,HAH WITH THREE DOTS ABOVE,TCHEH,TCHEHEH,DDAL,DAL WITH RING"⟩,
   ⟨0x68A, 1, "ARABIC LETTER ", "DAL WITH DOT BELOW,DAL WITH DOT BELOW AND SMALL TAH,DAHAL,DDAHAL"⟩,
   ⟨0x68E, 1, "ARABIC LETTER ", "DUL,DAL WITH THREE DOTS ABOVE DOWNWARDS,DAL WITH FOUR DOTS ABOVE"⟩,
   ⟨0x691, 2,
    "ARABIC LETTER ", "RREH,REH WITH RING,REH WITH SMALL V BELOW,REH WITH TWO DOTS ABOVE"⟩,
   ⟨0x692, 2, "ARABIC LETTER REH WITH ", "SMALL V,DOT BELOW,DOT BELOW AND DOT ABOVE"⟩,
   ⟨0x698, 1, "ARABIC LETTER ", "JEH,REH WITH FOUR DOTS ABOVE,SEEN WITH DOT BELOW AND DOT ABOVE"⟩,
   ⟨0x69B, 1, "ARABIC LETTER SEEN WITH THREE DOTS ", "BELOW,BELOW AND THREE DOTS ABOVE"⟩,
   ⟨0x69D, 1, "ARABIC LETTER SAD WITH ", "TWO DOTS BELOW,THREE DOTS ABOVE"⟩,
   ⟨0x69F, 1, "ARABIC LETTER ", "TAH WITH THREE DOTS ABOVE,AIN WITH THREE DOTS ABOVE,DOTLESS FEH"⟩,
   ⟨0x6A2, 1, "ARABIC LETTER FEH WITH DOT ", "MOVED BELOW,BELOW"⟩,
   ⟨0x6A4, 2, "ARABIC LETTER ", "VEH,PEHEH,QAF WITH THREE DOTS ABOVE,SWASH KAF"⟩,
   ⟨0x6A5, 2, "ARABIC LETTER ", "FEH WITH THREE DOTS BELOW,QAF WITH DOT ABOVE,KEHEH,KAF WITH RING"⟩,
   ⟨0x6AC, 1,
    "ARABIC LETTER ", "KAF WITH DOT ABOVE,NG,KAF WITH THREE DOTS BELOW,GAF,GAF WITH RING"⟩,
   ⟨0x6B1, 1, "ARABIC LETTER ", "NGOEH,GAF WITH TWO DOTS BELOW,GUEH,GAF WITH THREE DOTS ABOVE"⟩,
   ⟨0x6B5, 1, "ARABIC LETTER LAM WITH ", "SMALL V,DOT ABOVE,THREE DOTS ABOVE,THREE DOTS BELOW"⟩,
   ⟨0x6B9, 1, "ARABIC LETTER ", "NOON WITH DOT BELOW,NOON GHUNNA,RNOON"⟩,
   ⟨0x6BC, 1, "ARABIC LETTER NOON WITH ", "RING,THREE DOTS ABOVE"⟩,
   ⟨0x6BE, 1, "ARABIC LETTER ", "HEH DOACHASHMEE,TCHEH WITH DOT ABOVE,HEH WITH YEH ABOVE"⟩,
   ⟨0x6C1, 1,
    "ARABIC LETTER ", "HEH GOAL,HEH GOAL WITH HAMZA ABOVE,TEH MARBUTA GOAL,WAW WITH RING"⟩,
   ⟨0x6C5, 2, "ARABIC LETTER ", "KIRGHIZ OE,U,KIRGHIZ YU,VE,YEH WITH TAIL,WAW WITH DOT ABOVE"⟩,
   ⟨0x6C6, 2, "ARABIC LETTER ", "OE,YU,WAW WITH TWO DOTS ABOVE,FARSI YEH,YEH WITH SMALL V,E"⟩,
   ⟨0x6D1, 1, "ARABIC LETTER YEH ", "WITH THREE DOTS BELOW,BARREE,BARREE WITH HAMZA ABOVE"⟩,
   ⟨0x6D4, 1, "ARABIC ", "FULL STOP,LETTER AE,SMALL HIGH LIGATURE SAD WITH LAM WITH ALEF MAKSURA"⟩,
   ⟨0x6D7, 2, "ARABIC SMALL HIGH ", "LIGATURE QAF WITH LAM WITH ALEF MAKSURA,LAM ALEF,THREE DOTS"⟩,
   ⟨0x6D8, 2, "ARABIC SMALL HIGH ", "MEEM INITIAL FORM,JEEM,SEEN"⟩,
   ⟨0x6DD, 1, "ARABIC ", "END OF AYAH,START OF RUB EL HIZB"⟩,
   ⟨0x6DF, 1, "ARABIC SMALL HIGH ", "ROUNDED ZERO,UPRIGHT RECTANGULAR ZERO,DOTLESS HEAD OF KHAH"⟩,
   ⟨0x6E2, 1, "ARABIC SMALL ", "HIGH MEEM ISOLATED FORM,LOW SEEN,HIGH MADDA,WAW,YEH,HIGH YEH"⟩,
   ⟨0x6E8, 1, "ARABIC ", "SMALL HIGH NOON,PLACE OF SAJDAH,EMPTY CENTRE LOW STOP"⟩,
   ⟨0x6EB, 2, "ARABIC ", "EMPTY CENTRE HIGH STOP,SMALL LOW MEEM,LETTER REH WITH INVERTED V"⟩,
   ⟨0x6EC, 2, "ARABIC ", "ROUNDED HIGH STOP WITH FILLED CENTRE,LETTER DAL WITH INVERTED V"⟩,
   ⟨0x6F0, 1, "EXTENDED ARABIC-INDIC DIGIT ", "ZERO,ONE,TWO,THREE,FOUR,FIVE,SIX,SEVEN,EIGHT,NINE"⟩,
   ⟨0x6FA, 1, "ARABIC LETTER ", "SHEEN WITH DOT BELOW,DAD WITH DOT BELOW,GHAIN WITH DOT BELOW"⟩,
   ⟨0x6FD, 1, "ARABIC SIGN SINDHI ", "AMPERSAND,POSTPOSITION MEN"⟩,
   ⟨0x6FF, 1, "", "ARABIC LETTER HEH WITH INVERTED V,SYRIAC END OF PARAGRAPH"⟩,
   ⟨0x701, 1, "SYRIAC ", "SUPRALINEAR FULL STOP,SUBLINEAR FULL STOP,SUPRALINEAR COLON"⟩,
   ⟨0x704, 1, "SYRIAC ", "SUBLINEAR COLON,HORIZONTAL COLON,COLON SKEWED LEFT,COLON SKEWED RIGHT"⟩,
   ⟨0x708, 1, "SYRIAC ", "SUPRALINEAR COLON SKEWED LEFT,SUBLINEAR COLON SKEWED RIGHT,CONTRACTION"⟩,
   ⟨0x70B, 1, "SYRIAC HARKLEAN ", "OBELUS,METOBELUS,ASTERISCUS"⟩,
   ⟨0x70F, 1, "SYRIAC ", "ABBREVIATION MARK,LETTER ALAPH,LETTER SUPERSCRIPT ALAPH"⟩,
   ⟨0x712, 1, "SYRIAC LETTER ", "BETH,GAMAL,GAMAL GARSHUNI,DALATH,DOTLESS DALATH RISH,HE"⟩,
   ⟨0x718, 1,
    "SYRIAC LETTER ", "WAW,ZAIN,HETH,TETH,TETH GARSHUNI,YUDH,YUDH HE,KAPH,LAMADH,MIM,NUN"⟩,
   ⟨0x723, 1, "SYRIAC LETTER ", "SEMKATH,FINAL SEMKATH,E,PE,REVERSED PE,SADHE,QAPH,RISH,SHIN,TAW"⟩,
   ⟨0x72D, 1, "SYRIAC LETTER PERSIAN ", "BHETH,GHAMAL,DHALATH"⟩,
   ⟨0x730, 1, "SYRIAC ", "PTHAHA ABOVE,PTHAHA BELOW,PTHAHA DOTTED,ZQAPHA ABOVE,ZQAPHA BELOW"⟩,
   ⟨0x735, 1, "SYRIAC ", "ZQAPHA DOTTED,RBASA ABOVE,RBASA BELOW,DOTTED ZLAMA HORIZONTAL"⟩,
   ⟨0x739, 2, "SYRIAC ", "DOTTED ZLAMA ANGULAR,HBASA BELOW,ESASA ABOVE,RWAHA,QUSHSHAYA"⟩,
   ⟨0x73A, 2, "SYRIAC ", "HBASA ABOVE,HBASA-ESASA DOTTED,ESASA BELOW,FEMININE DOT,RUKKAKHA"⟩,
   ⟨0x743, 2, "SYRIAC ", "TWO VERTICAL DOTS ABOVE,THREE DOTS ABOVE,OBLIQUE LINE ABOVE,MUSIC"⟩,
   ⟨0x744, 2, "SYRIAC ", "TWO VERTICAL DOTS BELOW,THREE DOTS BELOW,OBLIQUE LINE BELOW,BARREKH"⟩,
   ⟨0x74D, 1, "SYRIAC LETTER SOGDIAN ", "ZHAIN,KHAPH,FE"⟩,
   ⟨0x750, 1, "ARABIC LETTER BEH WITH THREE DOTS HORIZONTALLY BELOW", ""⟩,
   ⟨0x751, 1, "ARABIC LETTER BEH WITH DOT BELOW AND THREE DOTS ABOVE", ""⟩,
   ⟨0x752, 1, "ARABIC LETTER BEH WITH THREE DOTS POINTING UPWARDS BELOW", ""⟩,
   ⟨0x753, 1, "ARABIC LETTER BEH WITH THREE DOTS POINTING UPWARDS BELOW AND TWO DOTS ABOVE", ""⟩,
   ⟨0x754, 1, "ARABIC LETTER BEH WITH TWO DOTS BELOW AND DOT ABOVE", ""⟩,
   ⟨0x755, 1, "ARABIC LETTER BEH WITH ", "INVERTED SMALL V BELOW,SMALL V"⟩,
   ⟨0x757, 1, "ARABIC LETTER HAH WITH ", "TWO DOTS ABOVE,THREE DOTS POINTING UPWARDS BELOW"⟩,
   ⟨0x759, 2, "ARABIC LETTER ", "DAL WITH TWO DOTS VERTICALLY BELOW AND SMALL TAH,REH WITH STROKE"⟩,
   ⟨0x75A, 2, "ARABIC LETTER ", "DAL WITH INVERTED SMALL V BELOW,SEEN WITH FOUR DOTS ABOVE"⟩,
   ⟨0x75D, 1, "ARABIC LETTER AIN WITH ", "TWO DOTS ABOVE,THREE DOTS POINTING DOWNWARDS ABOVE"⟩,
   ⟨0x75F, 1, "ARABIC LETTER ", "AIN WITH TWO DOTS VERTICALLY ABOVE,FEH WITH TWO DOTS BELOW"⟩,
   ⟨0x761, 1, "ARABIC LETTER ", "FEH WITH THREE DOTS POINTING UPWARDS BELOW,KEHEH WITH DOT ABOVE"⟩,
   ⟨0x763, 1, "ARABIC LETTER KEHEH WITH THREE DOTS ", "ABOVE,POINTING UPWARDS BELOW"⟩,
   ⟨0x765, 1, "ARABIC LETTER MEEM WITH DOT ", "ABOVE,BELOW"⟩,
   ⟨0x767, 1, "ARABIC LETTER NOON WITH ", "TWO DOTS BELOW,SMALL TAH,SMALL V"⟩,
   ⟨0x76A, 1, "ARABIC LETTER ", "LAM WITH BAR,REH WITH TWO DOTS VERTICALLY ABOVE"⟩,
   ⟨0x76C, 1, "ARABIC LETTER ", "REH WITH HAMZA ABOVE,SEEN WITH TWO DOTS VERTICALLY ABOVE"⟩,
   ⟨0x76E, 1, "ARABIC LETTER HAH WITH SMALL ARABIC LETTER TAH ", "BELOW,AND TWO DOTS"⟩,
   ⟨0x770, 1, "ARABIC LETTER SEEN WITH SMALL ARABIC LETTER TAH AND TWO DOTS", ""⟩,
   ⟨0x771, 1, "ARABIC LETTER REH WITH SMALL ARABIC LETTER TAH AND TWO DOTS", ""⟩,
   ⟨0x772, 1, "ARABIC LETTER HAH WITH SMALL ARABIC LETTER TAH ABOVE", ""⟩,
   ⟨0x773, 1, "ARABIC LETTER ALEF WITH EXTENDED ARABIC-INDIC DIGIT ", "TWO ABOVE,THREE ABOVE"⟩,
   ⟨0x775, 1, "ARABIC LETTER FARSI YEH WITH EXTENDED ARABIC-INDIC DIGIT TWO ABOVE", ""⟩,
   ⟨0x776, 1,
    "ARABIC LETTER FARSI YEH WITH EXTENDED ARABIC-INDIC DIGIT ", "THREE ABOVE,FOUR BELOW"⟩,
   ⟨0x778, 1, "ARABIC LETTER WAW WITH EXTENDED ARABIC-INDIC DIGIT ", "TWO ABOVE,THREE ABOVE"⟩,
   ⟨0x77A, 1,
    "ARABIC LETTER YEH BARREE WITH EXTENDED ARABIC-INDIC DIGIT ", "TWO ABOVE,THREE ABOVE"⟩,
   ⟨0x77C, 1, "ARABIC LETTER HAH WITH EXTENDED ARABIC-INDIC DIGIT FOUR BELOW", ""⟩,
   ⟨0x77D, 1, "ARABIC LETTER SEEN WITH ", "EXTENDED ARABIC-INDIC DIGIT FOUR ABOVE,INVERTED V"⟩,
   ⟨0x77F, 1, "ARABIC LETTER KAF WITH TWO DOTS ABOVE", ""⟩,
   ⟨0x780, 1, "THAANA LETTER ", "HAA,SHAVIYANI,NOONU,RAA,BAA,LHAVIYANI,KAAFU,ALIFU,VAAVU,MEEMU"⟩,
   ⟨0x78A, 2, "THAANA LETTER ", "FAAFU,THAA,GAAFU,SEENU,ZAVIYANI,YAA,JAVIYANI,TTAA,KHAA"⟩,
   ⟨0x78B, 2, "THAANA LETTER ", "DHAALU,LAAMU,GNAVIYANI,DAVIYANI,TAVIYANI,PAVIYANI,CHAVIYANI,HHAA"⟩,
   ⟨0x79B, 1, "THAANA LETTER ", "THAALU,ZAA,SHEENU,SAADHU,DAADHU,TO,ZO,AINU,GHAINU,QAAFU,WAAVU"⟩,
   ⟨0x7A6, 2, "THAANA ", "ABAFILI,IBIFILI,UBUFILI,EBEFILI,OBOFILI,SUKUN"⟩,
   ⟨0x7A7, 2, "THAANA ", "AABAAFILI,EEBEEFILI,OOBOOFILI,EYBEYFILI,OABOAFILI,LETTER NAA"⟩,
   ⟨0x7C0, 1, "NKO DIGIT ", "ZERO,ONE,TWO,THREE,FOUR,FIVE,SIX,SEVEN,EIGHT,NINE"⟩,
   ⟨0x7CA, 1, "NKO LETTER ", "A,EE,I,E,U,OO,O,DAGBASINNA,N,BA,PA,TA,JA,CHA,DA,RA,RRA,SA,GBA,FA,KA"⟩,
   ⟨0x7DF, 1, "NKO LETTER ", "LA,NA WOLOSO,MA,NYA,NA,HA,WA,YA,NYA WOLOSO,JONA JA,JONA CHA,JONA RA"⟩,
   ⟨0x7EB, 1, "NKO COMBINING SHORT ", "HIGH TONE,LOW TONE,RISING TONE"⟩,
   ⟨0x7EE, 1, "NKO COMBINING LONG ", "DESCENDING TONE,HIGH TONE,LOW TONE,RISING TONE"⟩,
   ⟨0x7F2, 1, "NKO COMBINING ", "NASALIZATION MARK,DOUBLE DOT ABOVE"⟩,
   ⟨0x7F4, 2, "NKO ", "HIGH TONE APOSTROPHE,SYMBOL OO DENNEN,COMMA,LAJANYALAN"⟩,
   ⟨0x7F5, 2, "NKO ", "LOW TONE APOSTROPHE,SYMBOL GBAKURUNEN,EXCLAMATION MARK"⟩,
   ⟨0x7FD, 1, "NKO ", "DANTAYALAN,DOROME SIGN,TAMAN SIGN"⟩,
   ⟨0x800, 2, "SAMARITAN LETTER ", "ALAF,GAMAN,IY,ZEN,TIT,KAAF,MIM,SINGAAT,FI,QUF,SHAN"⟩,
   ⟨0x801, 2, "SAMARITAN LETTER ", "BIT,DALAT,BAA,IT,YUT,LABAT,NUN,IN,TSAADIY,RISH,TAAF"⟩,
   ⟨0x816, 1, "SAMARITAN MARK ", "IN,IN-ALAF,OCCLUSION,DAGESH"⟩,
   ⟨0x81A, 1, "SAMARITAN ", "MODIFIER LETTER EPENTHETIC YUT,MARK EPENTHETIC YUT"⟩,
   ⟨0x81C, 1, "SAMARITAN VOWEL SIGN ", "LONG E,E,OVERLONG AA,LONG AA,AA,OVERLONG A,LONG A"⟩,
   ⟨0x823, 2, "SAMARITAN VOWEL SIGN ", "A,SHORT A,U,LONG I"⟩,
   ⟨0x824, 2, "SAMARITAN ", "MODIFIER LETTER SHORT A,VOWEL SIGN LONG U,MODIFIER LETTER I"⟩,
   ⟨0x82A, 1, "SAMARITAN ", "VOWEL SIGN I,VOWEL SIGN O,VOWEL SIGN SUKUN,MARK NEQUDAA"⟩,
   ⟨0x830, 1, "SAMARITAN PUNCTUATION ", "NEQUDAA,AFSAAQ,ANGED,BAU,ATMAAU,SHIYYAALAA"⟩,
   ⟨0x836, 1, "SAMARITAN ", "ABBREVIATION MARK,PUNCTUATION MELODIC QITSA"⟩,
   ⟨0x838, 1, "SAMARITAN PUNCTUATION ", "ZIQAA,QITSA,ZAEF,TURU,ARKAANU,SOF MASHFAAT,ANNAAU"⟩,
   ⟨0x840, 2, "MANDAIC LETTER ", "HALQA,AG,AH,AZ,ATT,AK,AM,AS,AP,AQ,ASH,DUSHENNA,AIN"⟩,
   ⟨0x841, 2, "MANDAIC LETTER ", "AB,AD,USHENNA,IT,AKSA,AL,AN,IN,ASZ,AR,AT,KAD"⟩,
   ⟨0x859, 1, "MANDAIC ", "AFFRICATION MARK,VOCALIZATION MARK,GEMINATION MARK"⟩,
   ⟨0x85E, 1, "MANDAIC PUNCTUATION", ""⟩,
   ⟨0x860, 1, "SYRIAC LETTER MALAYALAM ", "NGA,JA,NYA,TTA,NNA,NNNA,BHA,RA,LLA,LLLA,SSA"⟩,
   ⟨0x870, 1, "ARABIC LETTER ALEF WITH ATTACHED ", "FATHA,TOP RIGHT FATHA"⟩,
   ⟨0x872, 1, "ARABIC LETTER ALEF WITH ", "RIGHT MIDDLE STROKE,LEFT MIDDLE STROKE"⟩,
   ⟨0x874, 2, "ARABIC LETTER ALEF WITH ATTACHED ", "KASRA,ROUND DOT ABOVE,LEFT ROUND DOT"⟩,
   ⟨0x875, 2, "ARABIC LETTER ALEF WITH ATTACHED ", "BOTTOM RIGHT KASRA,RIGHT ROUND DOT"⟩,
   ⟨0x879, 2, "ARABIC LETTER ALEF WITH ATTACHED ", "ROUND DOT BELOW,TOP RIGHT FATHA AND DOT ABOVE"⟩,
   ⟨0x87A, 2, "ARABIC LETTER ALEF WITH ", "DOT ABOVE,RIGHT MIDDLE STROKE AND DOT ABOVE"⟩,
   ⟨0x87D, 1, "ARABIC LETTER ALEF WITH ATTACHED BOTTOM RIGHT KASRA AND DOT ABOVE", ""⟩,
   ⟨0x87E, 1, "ARABIC LETTER ALEF WITH ATTACHED TOP RIGHT FATHA AND LEFT RING", ""⟩,
   ⟨0x87F, 2, "ARABIC LETTER ALEF WITH ", "RIGHT MIDDLE STROKE AND LEFT RING,ATTACHED RIGHT HAMZA"⟩,
   ⟨0x880, 2, "ARABIC LETTER ALEF WITH ATTACHED ", "BOTTOM RIGHT KASRA AND LEFT RING,LEFT HAMZA"⟩,
   ⟨0x883, 1, "ARABIC TATWEEL WITH ", "OVERSTRUCK HAMZA,OVERSTRUCK WAW,TWO DOTS BELOW"⟩,
   ⟨0x886, 1, "ARABIC ", "LETTER THIN YEH,BASELINE ROUND DOT,RAISED ROUND DOT"⟩,
   ⟨0x889, 1, "ARABIC LETTER ", "NOON WITH INVERTED SMALL V,HAH WITH INVERTED SMALL V BELOW"⟩,
   ⟨0x88B, 1, "ARABIC LETTER TAH WITH ", "DOT BELOW,THREE DOTS BELOW"⟩,
   ⟨0x88D, 1, "ARABIC ", "LETTER KEHEH WITH TWO DOTS VERTICALLY BELOW,VERTICAL TAIL"⟩,
   ⟨0x890, 1, "ARABIC ", "POUND MARK ABOVE,PIASTRE MARK ABOVE"⟩,
   ⟨0x898, 1,
    "ARABIC SMALL ", "HIGH WORD AL-JUZ,LOW WORD ISHMAAM,LOW WORD IMAALA,LOW WORD TASHEEL"⟩,
   ⟨0x89C, 2, "ARABIC ", "MADDA WAAJIB,DOUBLED MADDA,LETTER BEH WITH SMALL V BELOW"⟩,
   ⟨0x89D, 2, "ARABIC ", "SUPERSCRIPT ALEF MOKHASSAS,HALF MADDA OVER MADDA"⟩,
   ⟨0x8A1, 2, "ARABIC LETTER ", "BEH WITH HAMZA ABOVE,TAH WITH TWO DOTS ABOVE"⟩,
   ⟨0x8A2, 2, "ARABIC LETTER ", "JEEM WITH TWO DOTS ABOVE,FEH WITH DOT BELOW AND THREE DOTS ABOVE"⟩,
   ⟨0x8A5, 1,
    "ARABIC LETTER ", "QAF WITH DOT BELOW,LAM WITH DOUBLE BAR,MEEM WITH THREE DOTS ABOVE"⟩,
   ⟨0x8A8, 1, "ARABIC LETTER YEH WITH TWO DOTS BELOW AND ", "HAMZA ABOVE,DOT ABOVE"⟩,
   ⟨0x8AA, 2, "ARABIC LETTER ", "REH WITH LOOP,ROHINGYA YEH,DAL WITH THREE DOTS BELOW"⟩,
   ⟨0x8AB, 2, "ARABIC LETTER ", "WAW WITH DOT WITHIN,LOW ALEF,SAD WITH THREE DOTS BELOW"⟩,
   ⟨0x8B0, 1, "ARABIC LETTER ", "GAF WITH INVERTED STROKE,STRAIGHT WAW,ZAIN WITH INVERTED V ABOVE"⟩,
   ⟨0x8B3, 1, "ARABIC LETTER ", "AIN WITH THREE DOTS BELOW,KAF WITH DOT BELOW"⟩,
   ⟨0x8B5, 2, "ARABIC LETTER ", "QAF WITH DOT BELOW AND NO DOTS ABOVE,PEH WITH SMALL MEEM ABOVE"⟩,
   ⟨0x8B6, 2, "ARABIC LETTER ", "BEH WITH SMALL MEEM ABOVE,TEH WITH SMALL TEH ABOVE"⟩,
   ⟨0x8B9, 2, "ARABIC LETTER ", "REH WITH SMALL NOON ABOVE,AFRICAN FEH,AFRICAN NOON"⟩,
   ⟨0x8BA, 2, "ARABIC LETTER ", "YEH WITH TWO DOTS BELOW AND SMALL NOON ABOVE,AFRICAN QAF"⟩,
   ⟨0x8BE, 2, "ARABIC LETTER ", "PEH WITH SMALL V,TTEH WITH SMALL V,KEHEH WITH SMALL V"⟩,
   ⟨0x8BF, 2, "ARABIC LETTER ", "TEH WITH SMALL V,TCHEH WITH SMALL V,GHAIN WITH THREE DOTS ABOVE"⟩,
   ⟨0x8C4, 2,
    "ARABIC LETTER ", "AFRICAN QAF WITH THREE DOTS ABOVE,JEEM WITH THREE DOTS BELOW,GRAF"⟩,
   ⟨0x8C5, 2,
    "ARABIC LETTER ", "JEEM WITH THREE DOTS ABOVE,LAM WITH SMALL ARABIC LETTER TAH ABOVE"⟩,
   ⟨0x8C9, 1, "ARABIC SMALL FARSI YEH", ""⟩,
   ⟨0x8CA, 1, "ARABIC SMALL HIGH ", "FARSI YEH,YEH BARREE WITH TWO DOTS BELOW,WORD SAH,ZAH"⟩,
   ⟨0x8CE, 1, "ARABIC LARGE ROUND DOT ", "ABOVE,BELOW"⟩,
   ⟨0x8D0, 1, "ARABIC ", "SUKUN BELOW,LARGE CIRCLE BELOW,LARGE ROUND DOT INSIDE CIRCLE BELOW"⟩,
   ⟨0x8D3, 2, "ARABIC SMALL ", "LOW WAW,HIGH SAD,HIGH QAF,LOW NOON WITH KASRA,HIGH WORD AS-SAJDA"⟩,
   ⟨0x8D4, 2, "ARABIC SMALL HIGH ", "WORD AR-RUB,AIN,NOON WITH KASRA,WORD ATH-THALATHA"⟩,
   ⟨0x8DC, 1, "ARABIC SMALL HIGH ", "WORD AN-NISF,WORD SAKTA,WORD QIF,WORD WAQFA,FOOTNOTE MARKER"⟩,
   ⟨0x8E1, 1, "ARABIC ", "SMALL HIGH SIGN SAFHA,DISPUTED END OF AYAH,TURNED DAMMA BELOW"⟩,
   ⟨0x8E4, 1, "ARABIC CURLY ", "FATHA,DAMMA,KASRA,FATHATAN,DAMMATAN,KASRATAN"⟩,
   ⟨0x8EA, 1, "ARABIC TONE ", "ONE DOT ABOVE,TWO DOTS ABOVE,LOOP ABOVE,ONE DOT BELOW"⟩,
   ⟨0x8EE, 2, "ARABIC ", "TONE TWO DOTS BELOW,OPEN FATHATAN,OPEN KASRATAN,FATHA WITH RING"⟩,
   ⟨0x8EF, 2, "ARABIC ", "TONE LOOP BELOW,OPEN DAMMATAN,SMALL HIGH WAW,FATHA WITH DOT ABOVE"⟩,
   ⟨0x8F6, 2, "ARABIC ", "KASRA WITH DOT BELOW,RIGHT ARROWHEAD ABOVE,RIGHT ARROWHEAD BELOW"⟩,
   ⟨0x8F7, 2, "ARABIC LEFT ARROWHEAD ", "ABOVE,BELOW"⟩,
   ⟨0x8FB, 1, "ARABIC DOUBLE RIGHT ARROWHEAD ", "ABOVE,ABOVE WITH DOT"⟩,
   ⟨0x8FD, 1, "ARABIC ", "RIGHT ARROWHEAD ABOVE WITH DOT,DAMMA WITH DOT,MARK SIDEWAYS NOON GHUNNA"⟩]

end RegexSubst.Unicode
