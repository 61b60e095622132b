import RegexSubst.Unicode.Name.Run

/-!
# `RegexSubst.Unicode.Name.AsianAndAfrican`: names of U+0E00 to U+1CFF

Thai to Vedic signs, with Ethiopic, Cherokee and the Canadian syllables.
-/

set_option autoImplicit false

namespace RegexSubst.Unicode

/-- The names of U+0E00 to U+1CFF. -/
def asianAndAfricanNames : List NameRun :=
  [⟨0xE01, 1,
    "THAI CHARACTER ", "KO KAI,KHO KHAI,KHO KHUAT,KHO KHWAI,KHO KHON,KHO RAKHANG,NGO NGU"⟩,
   ⟨0xE08, 1, "THAI CHARACTER ", "CHO CHAN,CHO CHING,CHO CHANG,SO SO,CHO CHOE,YO YING,DO CHADA"⟩,
   ⟨0xE0F, 2, "THAI CHARACTER ", "TO PATAK,THO NANGMONTHO,NO NEN,TO TAO,THO THAHAN,NO NU"⟩,
   ⟨0xE10, 2, "THAI CHARACTER ", "THO THAN,THO PHUTHAO,DO DEK,THO THUNG,THO THONG,BO BAIMAI"⟩,
   ⟨0xE1B, 2, "THAI CHARACTER ", "PO PLA,FO FA,FO FAN,MO MA,RO RUA,LO LING,WO WAEN,SO RUSI,HO HIP"⟩,
   ⟨0xE1C, 2, "THAI CHARACTER ", "PHO PHUNG,PHO PHAN,PHO SAMPHAO,YO YAK,RU,LU,SO SALA,SO SUA"⟩,
   ⟨0xE2C, 2, "THAI CHARACTER ", "LO CHULA,HO NOKHUK,SARA A,SARA AA,SARA I,SARA UE,SARA U,PHINTHU"⟩,
   ⟨0xE2D, 2, "THAI CHARACTER ", "O ANG,PAIYANNOI,MAI HAN-AKAT,SARA AM,SARA II,SARA UEE,SARA UU"⟩,
   ⟨0xE3F, 1, "THAI CURRENCY SYMBOL BAHT", ""⟩,
   ⟨0xE40, 1, "THAI CHARACTER SARA ", "E,AE,O,AI MAIMUAN,AI MAIMALAI"⟩,
   ⟨0xE45, 2, "THAI CHARACTER ", "LAKKHANGYAO,MAITAIKHU,MAI THO,MAI CHATTAWA,NIKHAHIT,FONGMAN"⟩,
   ⟨0xE46, 2, "THAI CHARACTER ", "MAIYAMOK,MAI EK,MAI TRI,THANTHAKHAT,YAMAKKAN"⟩,
   ⟨0xE50, 1, "THAI DIGIT ", "ZERO,ONE,TWO,THREE,FOUR,FIVE,SIX,SEVEN,EIGHT,NINE"⟩,
   ⟨0xE5A, 1, "THAI CHARACTER ", "ANGKHANKHU,KHOMUT"⟩,
   ⟨0xE81, 1, "LAO LETTER ", "KO,KHO SUNG"⟩,
   ⟨0xE84, 1, "LAO LETTER KHO TAM", ""⟩,
   ⟨0xE86, 1, "LAO LETTER ", "PALI GHA,NGO,CO,PALI CHA,SO TAM"⟩,
   ⟨0xE8C, 1, "LAO LETTER ", "PALI JHA,NYO,PALI NYA,PALI TTA,PALI TTHA"⟩,
   ⟨0xE91, 2, "LAO LETTER ", "PALI DDA,PALI NNA,TO,THO TAM,NO,PO,FO TAM,FO SUNG,MO,LO LING"⟩,
   ⟨0xE92, 2, "LAO LETTER ", "PALI DDHA,DO,THO SUNG,PALI DHA,BO,PHO SUNG,PHO TAM,PALI BHA,YO"⟩,
   ⟨0xEA5, 1, "LAO LETTER LO LOOT", ""⟩,
   ⟨0xEA7, 1, "LAO LETTER ", "WO,SANSKRIT SHA,SANSKRIT SSA,SO SUNG,HO SUNG,PALI LLA,O,HO TAM"⟩,
   ⟨0xEAF, 1, "LAO ELLIPSIS", ""⟩,
   ⟨0xEB0, 1, "LAO VOWEL SIGN ", "A,MAI KAN,AA,AM,I,II,Y,YY,U,UU"⟩,
   ⟨0xEBA, 1, "LAO ", "SIGN PALI VIRAMA,VOWEL SIGN MAI KON,SEMIVOWEL SIGN LO,SEMIVOWEL SIGN NYO"⟩,
   ⟨0xEC0, 1, "LAO VOWEL SIGN ", "E,EI,O,AY,AI"⟩,
   ⟨0xEC6, 1, "LAO KO LA", ""⟩,
   ⟨0xEC8, 1, "LAO TONE MAI ", "EK,THO,TI,CATAWA"⟩,
   ⟨0xECC, 1, "LAO ", "CANCELLATION MARK,NIGGAHITA"⟩,
   ⟨0xED0, 1, "LAO DIGIT ", "ZERO,ONE,TWO,THREE,FOUR,FIVE,SIX,SEVEN,EIGHT,NINE"⟩,
   ⟨0xEDC, 1, "LAO ", "HO NO,HO MO,LETTER KHMU GO,LETTER KHMU NYO"⟩,
   ⟨0xF00, 1, "TIBETAN SYLLABLE OM", ""⟩,
   ⟨0xF01, 1, "TIBETAN MARK GTER YIG MGO ", "TRUNCATED A,-UM RNAM BCAD MA,-UM GTER TSHEG MA"⟩,
   ⟨0xF04, 2, "TIBETAN MARK ", "INITIAL YIG MGO MDUN MA,CARET YIG MGO PHUR SHAD MA,SBRUL SHAD"⟩,
   ⟨0xF05, 2, "TIBETAN MARK ", "CLOSING YIG MGO SGAB MA,YIG MGO TSHEG SHAD MA,BSKUR YIG MGO"⟩,
   ⟨0xF0A, 1, "TIBETAN MARK ", "BKA- SHOG YIG MGO,INTERSYLLABIC TSHEG,DELIMITER TSHEG BSTAR"⟩,
   ⟨0xF0D, 2,
    "TIBETAN MARK ", "SHAD,TSHEG SHAD,RIN CHEN SPUNGS SHAD,CARET -DZUD RTAGS ME LONG CAN"⟩,
   ⟨0xF0E, 2, "TIBETAN MARK ", "NYIS SHAD,NYIS TSHEG SHAD,RGYA GRAM SHAD,GTER TSHEG"⟩,
   ⟨0xF15, 1, "TIBETAN LOGOTYPE SIGN ", "CHAD RTAGS,LHAG RTAGS"⟩,
   ⟨0xF17, 1, "TIBETAN ASTROLOGICAL SIGN ", "SGRA GCAN -CHAR RTAGS,-KHYUD PA,SDONG TSHUGS"⟩,
   ⟨0xF1A, 1, "TIBETAN SIGN RDEL DKAR ", "GCIG,GNYIS,GSUM"⟩,
   ⟨0xF1D, 1, "TIBETAN SIGN RDEL ", "NAG GCIG,NAG GNYIS,DKAR RDEL NAG"⟩,
   ⟨0xF20, 1, "TIBETAN DIGIT ", "ZERO,ONE,TWO,THREE,FOUR,FIVE,SIX,SEVEN,EIGHT,NINE"⟩,
   ⟨0xF2A, 1, "TIBETAN DIGIT HALF ", "ONE,TWO,THREE,FOUR,FIVE,SIX,SEVEN,EIGHT,NINE,ZERO"⟩,
   ⟨0xF34, 2, "TIBETAN MARK ", "BSDUS RTAGS,CARET -DZUD RTAGS BZHI MIG CAN,CHE MGO,GUG RTAGS GYON"⟩,
   ⟨0xF35, 2, "TIBETAN MARK ", "NGAS BZUNG NYI ZLA,NGAS BZUNG SGOR RTAGS,TSA -PHRU,GUG RTAGS GYAS"⟩,
   ⟨0xF3C, 1, "TIBETAN ", "MARK ANG KHANG GYON,MARK ANG KHANG GYAS,SIGN YAR TSHES,SIGN MAR TSHES"⟩,
   ⟨0xF40, 1, "TIBETAN LETTER ", "KA,KHA,GA,GHA,NGA,CA,CHA,JA"⟩,
   ⟨0xF49, 1, "TIBETAN LETTER ", "NYA,TTA,TTHA,DDA,DDHA,NNA"⟩,
   ⟨0xF4F, 2, "TIBETAN LETTER ", "TA,DA,NA,PHA,BHA,TSA,DZA,WA,ZA,YA,LA,SSA,HA,KSSA,KKA"⟩,
   ⟨0xF50, 2, "TIBETAN LETTER ", "THA,DHA,PA,BA,MA,TSHA,DZHA,ZHA,-A,RA,SHA,SA,A,FIXED-FORM RA,RRA"⟩,
   ⟨0xF71, 1, "TIBETAN VOWEL SIGN ", "AA,I,II,U,UU,VOCALIC R,VOCALIC RR,VOCALIC L,VOCALIC LL,E,EE"⟩,
   ⟨0xF7C, 1, "TIBETAN ", "VOWEL SIGN O,VOWEL SIGN OO,SIGN RJES SU NGA RO,SIGN RNAM BCAD"⟩,
   ⟨0xF80, 1, "TIBETAN VOWEL SIGN REVERSED ", "I,II"⟩,
   ⟨0xF82, 1, "TIBETAN ", "SIGN NYI ZLA NAA DA,SIGN SNA LDAN,MARK HALANTA,MARK PALUTA"⟩,
   ⟨0xF86, 2, "TIBETAN SIGN ", "LCI RTAGS,LCE TSA CAN,GRU CAN RGYINGS,INVERTED MCHU CAN"⟩,
   ⟨0xF87, 2, "TIBETAN SIGN ", "YANG RTAGS,MCHU CAN,GRU MED RGYINGS"⟩,
   ⟨0xF8D, 1, "TIBETAN SUBJOINED SIGN ", "LCE TSA CAN,MCHU CAN,INVERTED MCHU CAN"⟩,
   ⟨0xF90, 1, "TIBETAN SUBJOINED LETTER ", "KA,KHA,GA,GHA,NGA,CA,CHA,JA"⟩,
   ⟨0xF99, 2,
    "TIBETAN SUBJOINED LETTER ", "NYA,TTHA,DDHA,TA,DA,NA,PHA,BHA,TSA,DZA,WA,ZA,YA,LA,SSA"⟩,
   ⟨0xF9A, 2, "TIBETAN SUBJOINED LETTER ", "TTA,DDA,NNA,THA,DHA,PA,BA,MA,TSHA,DZHA,ZHA,-A,RA,SHA"⟩,
   ⟨0xFB6, 1,
    "TIBETAN SUBJOINED LETTER ", "SA,HA,A,KSSA,FIXED-FORM WA,FIXED-FORM YA,FIXED-FORM RA"⟩,
   ⟨0xFBE, 1, "TIBETAN KU RU ", "KHA,KHA BZHI MIG CAN"⟩,
   ⟨0xFC0, 1, "TIBETAN CANTILLATION SIGN ", "HEAVY BEAT,LIGHT BEAT,CANG TE-U,SBUB -CHAL"⟩,
   ⟨0xFC4, 1, "TIBETAN SYMBOL ", "DRIL BU,RDO RJE,PADMA GDAN,RDO RJE RGYA GRAM,PHUR PA,NOR BU"⟩,
   ⟨0xFCA, 1, "TIBETAN SYMBOL NOR BU ", "NYIS -KHYIL,GSUM -KHYIL,BZHI -KHYIL"⟩,
   ⟨0xFCE, 1,
    "TIBETAN ", "SIGN RDEL NAG RDEL DKAR,SIGN RDEL NAG GSUM,MARK BSKA- SHOG GI MGO RGYAN"⟩,
   ⟨0xFD1, 2, "TIBETAN MARK ", "MNYAM YIG GI MGO RGYAN,INITIAL BRDA RNYING YIG MGO MDUN MA"⟩,
   ⟨0xFD2, 2, "TIBETAN MARK ", "NYIS TSHEG,CLOSING BRDA RNYING YIG MGO SGAB MA"⟩,
   ⟨0xFD5, 2, "RIGHT-FACING SVASTI ", "SIGN,SIGN WITH DOTS"⟩,
   ⟨0xFD6, 2, "LEFT-FACING SVASTI ", "SIGN,SIGN WITH DOTS"⟩,
   ⟨0xFD9, 1, "TIBETAN MARK ", "LEADING MCHAN RTAGS,TRAILING MCHAN RTAGS"⟩,
   ⟨0x1000, 1, "MYANMAR LETTER ", "KA,KHA,GA,GHA,NGA,CA,CHA,JA,JHA,NYA,NNYA"⟩,
   ⟨0x100B, 2, "MYANMAR LETTER ", "TTA,DDA,NNA,THA,DHA,PA,BA,MA,RA,WA,HA,A,I,U,E,O"⟩,
   ⟨0x100C, 2, "MYANMAR LETTER ", "TTHA,DDHA,TA,DA,NA,PHA,BHA,YA,LA,SA,LLA,SHAN A,II,UU,MON E,AU"⟩,
   ⟨0x102B, 1, "MYANMAR VOWEL SIGN ", "TALL AA,AA,I,II,U,UU,E,AI,MON II,MON O,E ABOVE"⟩,
   ⟨0x1036, 1, "MYANMAR SIGN ", "ANUSVARA,DOT BELOW,VISARGA,VIRAMA,ASAT"⟩,
   ⟨0x103B, 1, "MYANMAR CONSONANT SIGN MEDIAL ", "YA,RA,WA,HA"⟩,
   ⟨0x103F, 1, "MYANMAR LETTER GREAT SA", ""⟩,
   ⟨0x1040, 1, "MYANMAR DIGIT ", "ZERO,ONE,TWO,THREE,FOUR,FIVE,SIX,SEVEN,EIGHT,NINE"⟩,
   ⟨0x104A, 1, "MYANMAR SIGN ", "LITTLE SECTION,SECTION"⟩,
   ⟨0x104C, 1, "MYANMAR SYMBOL ", "LOCATIVE,COMPLETED,AFOREMENTIONED,GENITIVE"⟩,
   ⟨0x1050, 1, "MYANMAR LETTER ", "SHA,SSA,VOCALIC R,VOCALIC RR,VOCALIC L,VOCALIC LL"⟩,
   ⟨0x1056, 1, "MYANMAR VOWEL SIGN VOCALIC ", "R,RR,L,LL"⟩,
   ⟨0x105A, 1, "MYANMAR LETTER MON ", "NGA,JHA,BBA,BBE"⟩,
   ⟨0x105E, 1, "MYANMAR CONSONANT SIGN MON MEDIAL ", "NA,MA,LA"⟩,
   ⟨0x1061, 1, "MYANMAR ", "LETTER SGAW KAREN SHA,VOWEL SIGN SGAW KAREN EU"⟩,
   ⟨0x1063, 1, "MYANMAR TONE MARK SGAW KAREN ", "HATHI,KE PHO"⟩,
   ⟨0x1065, 1, "MYANMAR LETTER WESTERN PWO KAREN ", "THA,PWA"⟩,
   ⟨0x1067, 1, "MYANMAR VOWEL SIGN WESTERN PWO KAREN ", "EU,UE"⟩,
   ⟨0x1069, 1, "MYANMAR SIGN WESTERN PWO KAREN TONE-", "1,2,3,4,5"⟩,
   ⟨0x106E, 1, "MYANMAR LETTER EASTERN PWO KAREN ", "NNA,YWA,GHWA"⟩,
   ⟨0x1071, 1, "MYANMAR VOWEL SIGN ", "GEBA KAREN I,KAYAH OE,KAYAH U,KAYAH EE"⟩,
   ⟨0x1075, 1, "MYANMAR LETTER SHAN ", "KA,KHA,GA,CA,ZA,NYA,DA,NA,PHA,FA,BA,THA,HA"⟩,
   ⟨0x1082, 1, "MYANMAR CONSONANT SIGN SHAN MEDIAL WA", ""⟩,
   ⟨0x1083, 1, "MYANMAR VOWEL SIGN SHAN ", "AA,E,E ABOVE,FINAL Y"⟩,
   ⟨0x1087, 1, "MYANMAR SIGN SHAN TONE-", "2,3,5,6"⟩,
   ⟨0x108B, 1, "MYANMAR SIGN SHAN COUNCIL ", "TONE-2,TONE-3,EMPHATIC TONE"⟩,
   ⟨0x108E, 1, "MYANMAR ", "LETTER RUMAI PALAUNG FA,SIGN RUMAI PALAUNG TONE-5"⟩,
   ⟨0x1090, 1, "MYANMAR SHAN DIGIT ", "ZERO,ONE,TWO,THREE,FOUR,FIVE,SIX,SEVEN,EIGHT,NINE"⟩,
   ⟨0x109A, 1, "MYANMAR SIGN KHAMTI TONE-", "1,3"⟩,
   ⟨0x109C, 1, "MYANMAR VOWEL SIGN AITON ", "A,AI"⟩,
   ⟨0x109E, 1, "MYANMAR SYMBOL SHAN ", "ONE,EXCLAMATION"⟩,
   ⟨0x10A0, 1, "GEORGIAN CAPITAL LETTER ", "AN,BAN,GAN,DON,EN,VIN,ZEN,TAN,IN,KAN,LAS,MAN"⟩,
   ⟨0x10AC, 2,
    "GEORGIAN CAPITAL LETTER ", "NAR,PAR,RAE,TAR,PHAR,GHAN,SHIN,CAN,CIL,XAN,HAE,HIE,HAR"⟩,
   ⟨0x10AD, 2, "GEORGIAN CAPITAL LETTER ", "ON,ZHAR,SAN,UN,KHAR,QAR,CHIN,JIL,CHAR,JHAN,HE,WE,HOE"⟩,
   ⟨0x10C7, 1, "GEORGIAN CAPITAL LETTER YN", ""⟩,
   ⟨0x10CD, 1, "GEORGIAN CAPITAL LETTER AEN", ""⟩,
   ⟨0x10D0, 1, "GEORGIAN LETTER ", "AN,BAN,GAN,DON,EN,VIN,ZEN,TAN,IN,KAN,LAS,MAN,NAR,ON,PAR,ZHAR"⟩,
   ⟨0x10E0, 2, "GEORGIAN LETTER ", "RAE,TAR,PHAR,GHAN,SHIN,CAN,CIL,XAN,HAE,HIE,HAR,FI,ELIFI,AIN"⟩,
   ⟨0x10E1, 2, "GEORGIAN LETTER ", "SAN,UN,KHAR,QAR,CHIN,JIL,CHAR,JHAN,HE,WE,HOE,YN,TURNED GAN"⟩,
   ⟨0x10FB, 1, "", "GEORGIAN PARAGRAPH SEPARATOR,MODIFIER LETTER GEORGIAN NAR"⟩,
   ⟨0x10FD, 1, "GEORGIAN LETTER ", "AEN,HARD SIGN,LABIAL SIGN"⟩,
   ⟨0x1100, 2, "HANGUL CHOSEONG ", "KIYEOK,NIEUN,SSANGTIKEUT,MIEUM,SSANGPIEUP,SSANGSIOS,CIEUC"⟩,
   ⟨0x1101, 2, "HANGUL CHOSEONG ", "SSANGKIYEOK,TIKEUT,RIEUL,PIEUP,SIOS,IEUNG,SSANGCIEUC"⟩,
   ⟨0x110E, 2, "HANGUL CHOSEONG ", "CHIEUCH,THIEUTH,HIEUH,SSANGNIEUN,NIEUN-PIEUP,RIEUL-NIEUN"⟩,
   ⟨0x110F, 2, "HANGUL CHOSEONG ", "KHIEUKH,PHIEUPH,NIEUN-KIYEOK,NIEUN-TIKEUT,TIKEUT-KIYEOK"⟩,
   ⟨0x1119, 1,
    "HANGUL CHOSEONG ", "SSANGRIEUL,RIEUL-HIEUH,KAPYEOUNRIEUL,MIEUM-PIEUP,KAPYEOUNMIEUM"⟩,
   ⟨0x111E, 2, "HANGUL CHOSEONG PIEUP-", "KIYEOK,TIKEUT,SIOS-KIYEOK,SIOS-PIEUP,SIOS-CIEUC,CHIEUCH"⟩,
   ⟨0x111F, 2, "HANGUL CHOSEONG PIEUP-", "NIEUN,SIOS,SIOS-TIKEUT,SSANGSIOS,CIEUC,THIEUTH"⟩,
   ⟨0x112A, 1, "HANGUL CHOSEONG ", "PIEUP-PHIEUPH,KAPYEOUNPIEUP,KAPYEOUNSSANGPIEUP"⟩,
   ⟨0x112D, 2, "HANGUL CHOSEONG SIOS-", "KIYEOK,TIKEUT,MIEUM,PIEUP-KIYEOK,IEUNG,CHIEUCH,THIEUTH"⟩,
   ⟨0x112E, 2, "HANGUL CHOSEONG SIOS-", "NIEUN,RIEUL,PIEUP,SSANGSIOS,CIEUC,KHIEUKH,PHIEUPH"⟩,
   ⟨0x113B, 2,
    "HANGUL CHOSEONG ", "SIOS-HIEUH,CHITUEUMSSANGSIOS,CEONGCHIEUMSSANGSIOS,IEUNG-KIYEOK"⟩,
   ⟨0x113C, 2, "HANGUL CHOSEONG ", "CHITUEUMSIOS,CEONGCHIEUMSIOS,PANSIOS"⟩,
   ⟨0x1142, 2, "HANGUL CHOSEONG IEUNG-", "TIKEUT,PIEUP,PANSIOS,CIEUC,THIEUTH"⟩,
   ⟨0x1143, 2, "HANGUL CHOSEONG ", "IEUNG-MIEUM,IEUNG-SIOS,SSANGIEUNG,IEUNG-CHIEUCH,IEUNG-PHIEUPH"⟩,
   ⟨0x114C, 1, "HANGUL CHOSEONG ", "YESIEUNG,CIEUC-IEUNG,CHITUEUMCIEUC,CHITUEUMSSANGCIEUC"⟩,
   ⟨0x1150, 2,
    "HANGUL CHOSEONG ", "CEONGCHIEUMCIEUC,CHIEUCH-KHIEUKH,CHITUEUMCHIEUCH,PHIEUPH-PIEUP"⟩,
   ⟨0x1151, 2, "HANGUL CHOSEONG ", "CEONGCHIEUMSSANGCIEUC,CHIEUCH-HIEUH,CEONGCHIEUMCHIEUCH"⟩,
   ⟨0x1157, 2, "HANGUL CHOSEONG ", "KAPYEOUNPHIEUPH,YEORINHIEUH,NIEUN-SIOS,NIEUN-HIEUH,FILLER"⟩,
   ⟨0x1158, 2, "HANGUL CHOSEONG ", "SSANGHIEUH,KIYEOK-TIKEUT,NIEUN-CIEUC,TIKEUT-RIEUL"⟩,
   ⟨0x1160, 2, "HANGUL JUNGSEONG ", "FILLER,AE,YAE,E,YE,WA,OE,U,WE,YU,YI,A-O,YA-O,EO-O,EO-EU"⟩,
   ⟨0x1161, 2, "HANGUL JUNGSEONG ", "A,YA,EO,YEO,O,WAE,YO,WEO,WI,EU,I,A-U,YA-YO,EO-U,YEO-O"⟩,
   ⟨0x117E, 2, "HANGUL JUNGSEONG ", "YEO-U,O-E,O-O,YO-YA,YO-YEO,YO-I,U-AE,U-YE,YU-A,YU-E,YU-YE"⟩,
   ⟨0x117F, 2, "HANGUL JUNGSEONG ", "O-EO,O-YE,O-U,YO-YAE,YO-O,U-A,U-EO-EU,U-U,YU-EO,YU-YEO,YU-U"⟩,
   ⟨0x1194, 2, "HANGUL JUNGSEONG ", "YU-I,EU-EU,I-A,I-O,I-EU,ARAEA,ARAEA-U,SSANGARAEA,YA-U,O-YA"⟩,
   ⟨0x1195, 2,
    "HANGUL JUNGSEONG ", "EU-U,YI-U,I-YA,I-U,I-ARAEA,ARAEA-EO,ARAEA-I,A-EU,YEO-YA,O-YAE"⟩,
   ⟨0x11A8, 2, "HANGUL JONGSEONG ", "KIYEOK,KIYEOK-SIOS,NIEUN-CIEUC,TIKEUT"⟩,
   ⟨0x11A9, 2, "HANGUL JONGSEONG ", "SSANGKIYEOK,NIEUN,NIEUN-HIEUH,RIEUL"⟩,
   ⟨0x11B0, 1, "HANGUL JONGSEONG RIEUL-", "KIYEOK,MIEUM,PIEUP,SIOS,THIEUTH,PHIEUPH,HIEUH"⟩,
   ⟨0x11B7, 2,
    "HANGUL JONGSEONG ", "MIEUM,PIEUP-SIOS,SSANGSIOS,CIEUC,KHIEUKH,PHIEUPH,KIYEOK-RIEUL"⟩,
   ⟨0x11B8, 2, "HANGUL JONGSEONG ", "PIEUP,SIOS,IEUNG,CHIEUCH,THIEUTH,HIEUH,KIYEOK-SIOS-KIYEOK"⟩,
   ⟨0x11C5, 1, "HANGUL JONGSEONG NIEUN-", "KIYEOK,TIKEUT,SIOS,PANSIOS,THIEUTH"⟩,
   ⟨0x11CA, 1, "HANGUL JONGSEONG ", "TIKEUT-KIYEOK,TIKEUT-RIEUL,RIEUL-KIYEOK-SIOS"⟩,
   ⟨0x11CD, 2, "HANGUL JONGSEONG RIEUL-", "NIEUN,TIKEUT-HIEUH,MIEUM-KIYEOK,PIEUP-SIOS"⟩,
   ⟨0x11CE, 2, "HANGUL JONGSEONG ", "RIEUL-TIKEUT,SSANGRIEUL,RIEUL-MIEUM-SIOS,RIEUL-PIEUP-HIEUH"⟩,
   ⟨0x11D5, 1, "HANGUL JONGSEONG RIEUL-", "KAPYEOUNPIEUP,SSANGSIOS,PANSIOS,KHIEUKH,YEORINHIEUH"⟩,
   ⟨0x11DA, 1,
    "HANGUL JONGSEONG MIEUM-", "KIYEOK,RIEUL,PIEUP,SIOS,SSANGSIOS,PANSIOS,CHIEUCH,HIEUH"⟩,
   ⟨0x11E2, 1, "HANGUL JONGSEONG ", "KAPYEOUNMIEUM,PIEUP-RIEUL,PIEUP-PHIEUPH"⟩,
   ⟨0x11E5, 2, "HANGUL JONGSEONG ", "PIEUP-HIEUH,SIOS-KIYEOK,SIOS-RIEUL,PANSIOS,IEUNG-SSANGKIYEOK"⟩,
   ⟨0x11E6, 2, "HANGUL JONGSEONG ", "KAPYEOUNPIEUP,SIOS-TIKEUT,SIOS-PIEUP,IEUNG-KIYEOK,SSANGIEUNG"⟩,
   ⟨0x11EF, 2, "HANGUL JONGSEONG ", "IEUNG-KHIEUKH,YESIEUNG-SIOS,PHIEUPH-PIEUP,HIEUH-NIEUN"⟩,
   ⟨0x11F0, 2, "HANGUL JONGSEONG ", "YESIEUNG,YESIEUNG-PANSIOS,KAPYEOUNPHIEUPH,HIEUH-RIEUL"⟩,
   ⟨0x11F7, 1,
    "HANGUL JONGSEONG ", "HIEUH-MIEUM,HIEUH-PIEUP,YEORINHIEUH,KIYEOK-NIEUN,KIYEOK-PIEUP"⟩,
   ⟨0x11FC, 1, "HANGUL JONGSEONG ", "KIYEOK-CHIEUCH,KIYEOK-KHIEUKH,KIYEOK-HIEUH,SSANGNIEUN"⟩,
   ⟨0x1200, 1, "ETHIOPIC SYLLABLE ", "HA,HU,HI,HAA,HEE,HE,HO,HOA,LA,LU"⟩,
   ⟨0x120A, 2, "ETHIOPIC SYLLABLE ", "LI,LEE,LO,HHA,HHI,HHEE,HHO,MA,MI,MEE,MO,SZA,SZI,SZEE,SZO"⟩,
   ⟨0x120B, 2,
    "ETHIOPIC SYLLABLE ", "LAA,LE,LWA,HHU,HHAA,HHE,HHWA,MU,MAA,ME,MWA,SZU,SZAA,SZE,SZWA"⟩,
   ⟨0x1228, 2, "ETHIOPIC SYLLABLE ", "RA,RI,REE,RO,SA,SI,SEE,SO,SHA,SHI,SHEE,SHO,QA,QI,QEE,QO,QWA"⟩,
   ⟨0x1229, 2, "ETHIOPIC SYLLABLE ", "RU,RAA,RE,RWA,SU,SAA,SE,SWA,SHU,SHAA,SHE,SHWA,QU,QAA,QE,QOA"⟩,
   ⟨0x124A, 1, "ETHIOPIC SYLLABLE ", "QWI,QWAA,QWEE,QWE"⟩,
   ⟨0x1250, 1, "ETHIOPIC SYLLABLE ", "QHA,QHU,QHI,QHAA,QHEE,QHE,QHO"⟩,
   ⟨0x1258, 1, "ETHIOPIC SYLLABLE QHWA", ""⟩,
   ⟨0x125A, 1, "ETHIOPIC SYLLABLE ", "QHWI,QHWAA,QHWEE,QHWE"⟩,
   ⟨0x1260, 1, "ETHIOPIC SYLLABLE ", "BA,BU,BI,BAA,BEE,BE"⟩,
   ⟨0x1266, 2, "ETHIOPIC SYLLABLE ", "BO,VA,VI,VEE,VO,TA,TI,TEE,TO,CA,CI,CEE,CO,XA,XI,XEE,XO,XWA"⟩,
   ⟨0x1267, 2, "ETHIOPIC SYLLABLE ", "BWA,VU,VAA,VE,VWA,TU,TAA,TE,TWA,CU,CAA,CE,CWA,XU,XAA,XE,XOA"⟩,
   ⟨0x128A, 1, "ETHIOPIC SYLLABLE ", "XWI,XWAA,XWEE,XWE"⟩,
   ⟨0x1290, 2, "ETHIOPIC SYLLABLE ", "NA,NI,NEE,NO,NYA,NYI,NYEE,NYO"⟩,
   ⟨0x1291, 2, "ETHIOPIC SYLLABLE ", "NU,NAA,NE,NWA,NYU,NYAA,NYE,NYWA"⟩,
   ⟨0x12A0, 1, "ETHIOPIC SYLLABLE GLOTTAL ", "A,U,I,AA,EE,E,O,WA"⟩,
   ⟨0x12A8, 1, "ETHIOPIC SYLLABLE ", "KA,KU,KI,KAA,KEE,KE,KO,KOA,KWA"⟩,
   ⟨0x12B2, 1, "ETHIOPIC SYLLABLE ", "KWI,KWAA,KWEE,KWE"⟩,
   ⟨0x12B8, 1, "ETHIOPIC SYLLABLE ", "KXA,KXU,KXI,KXAA,KXEE,KXE,KXO"⟩,
   ⟨0x12C0, 1, "ETHIOPIC SYLLABLE KXWA", ""⟩,
   ⟨0x12C2, 1, "ETHIOPIC SYLLABLE ", "KXWI,KXWAA,KXWEE,KXWE"⟩,
   ⟨0x12C8, 1, "ETHIOPIC SYLLABLE ", "WA,WU,WI,WAA,WEE,WE,WO,WOA"⟩,
   ⟨0x12D0, 1, "ETHIOPIC SYLLABLE PHARYNGEAL ", "A,U,I,AA,EE,E,O"⟩,
   ⟨0x12D8, 2, "ETHIOPIC SYLLABLE ", "ZA,ZI,ZEE,ZO,ZHA,ZHI,ZHEE,ZHO,YA,YI,YEE,YO"⟩,
   ⟨0x12D9, 2, "ETHIOPIC SYLLABLE ", "ZU,ZAA,ZE,ZWA,ZHU,ZHAA,ZHE,ZHWA,YU,YAA,YE,YOA"⟩,
   ⟨0x12F0, 2, "ETHIOPIC SYLLABLE ", "DA,DI,DEE,DO,DDA,DDI,DDEE,DDO,JA,JI,JEE,JO,GA,GI,GEE,GO,GWA"⟩,
   ⟨0x12F1, 2, "ETHIOPIC SYLLABLE ", "DU,DAA,DE,DWA,DDU,DDAA,DDE,DDWA,JU,JAA,JE,JWA,GU,GAA,GE,GOA"⟩,
   ⟨0x1312, 1, "ETHIOPIC SYLLABLE ", "GWI,GWAA,GWEE,GWE"⟩,
   ⟨0x1318, 1, "ETHIOPIC SYLLABLE ", "GGA,GGU,GGI,GGAA,GGEE,GGE,GGO,GGWAA,THA,THU"⟩,
   ⟨0x1322, 2, "ETHIOPIC SYLLABLE ", "THI,THEE,THO,CHA,CHI,CHEE,CHO,PHA,PHI,PHEE,PHO,TSA,TSI"⟩,
   ⟨0x1323, 2, "ETHIOPIC SYLLABLE ", "THAA,THE,THWA,CHU,CHAA,CHE,CHWA,PHU,PHAA,PHE,PHWA,TSU,TSAA"⟩,
   ⟨0x133C, 2, "ETHIOPIC SYLLABLE ", "TSEE,TSO,TZA,TZI,TZEE,TZO,FA,FI,FEE,FO,PA,PI,PEE,PO,RYA,FYA"⟩,
   ⟨0x133D, 2, "ETHIOPIC SYLLABLE ", "TSE,TSWA,TZU,TZAA,TZE,TZOA,FU,FAA,FE,FWA,PU,PAA,PE,PWA,MYA"⟩,
   ⟨0x135D, 1, "ETHIOPIC COMBINING ", "GEMINATION AND VOWEL LENGTH MARK,VOWEL LENGTH MARK"⟩,
   ⟨0x135F, 2, "ETHIOPIC ", "COMBINING GEMINATION MARK,WORDSPACE,COMMA,COLON,QUESTION MARK"⟩,
   ⟨0x1360, 2, "ETHIOPIC ", "SECTION MARK,FULL STOP,SEMICOLON,PREFACE COLON,PARAGRAPH SEPARATOR"⟩,
   ⟨0x1369, 1, "ETHIOPIC DIGIT ", "ONE,TWO,THREE,FOUR,FIVE,SIX,SEVEN,EIGHT,NINE"⟩,
   ⟨0x1372, 2, "ETHIOPIC NUMBER ", "TEN,THIRTY,FIFTY,SEVENTY,NINETY,TEN THOUSAND"⟩,
   ⟨0x1373, 2, "ETHIOPIC NUMBER ", "TWENTY,FORTY,SIXTY,EIGHTY,HUNDRED"⟩,
   ⟨0x1380, 1, "ETHIOPIC SYLLABLE ", "SEBATBEIT MWA,MWI,MWEE,MWE,SEBATBEIT BWA,BWI,BWEE"⟩,
   ⟨0x1387, 1, "ETHIOPIC SYLLABLE ", "BWE,SEBATBEIT FWA,FWI,FWEE,FWE,SEBATBEIT PWA,PWI,PWEE,PWE"⟩,
   ⟨0x1390, 2, "ETHIOPIC TONAL MARK ", "YIZET,RIKRIK,DIFAT,CHIRET,DERET-HIDET"⟩,
   ⟨0x1391, 2, "ETHIOPIC TONAL MARK ", "DERET,SHORT RIKRIK,KENAT,HIDET,KURT"⟩,
   ⟨0x13A0, 1, "CHEROKEE LETTER ", "A,E,I,O,U,V,GA,KA,GE,GI,GO"⟩,
   ⟨0x13AB, 2, "CHEROKEE LETTER ", "GU,HA,HI,HU,LA,LI,LU,MA,MI,MU,HNA,NE,NO,NV,QUE,QUO,QUV,S,SI"⟩,
   ⟨0x13AC, 2, "CHEROKEE LETTER ", "GV,HE,HO,HV,LE,LO,LV,ME,MO,NA,NAH,NI,NU,QUA,QUI,QUU,SA,SE,SO"⟩,
   ⟨0x13D1, 2,
    "CHEROKEE LETTER ", "SU,DA,DE,DI,DO,DV,TLA,TLI,TLU,TSA,TSI,TSU,WA,WI,WU,YA,YI,YU,MV"⟩,
   ⟨0x13D2, 2, "CHEROKEE LETTER ", "SV,TA,TE,TI,DU,DLA,TLE,TLO,TLV,TSE,TSO,TSV,WE,WO,WV,YE,YO,YV"⟩,
   ⟨0x13F8, 1, "CHEROKEE SMALL LETTER ", "YE,YI,YO,YU,YV,MV"⟩,
   ⟨0x1400, 1, "CANADIAN SYLLABICS ", "HYPHEN,E,AAI,I,II,O,OO,Y-CREE OO,CARRIER EE,CARRIER I,A,AA"⟩,
   ⟨0x140C, 2, "CANADIAN SYLLABICS ", "WE,WI,WII,WO,WOO,NASKAPI WOO"⟩,
   ⟨0x140D, 2, "CANADIAN SYLLABICS WEST-CREE ", "WE,WI,WII,WO,WOO"⟩,
   ⟨0x1417, 2, "CANADIAN SYLLABICS ", "WA,WAA,NASKAPI WAA,Y-CREE W,FINAL ACUTE"⟩,
   ⟨0x1418, 2, "CANADIAN SYLLABICS ", "WEST-CREE WA,WEST-CREE WAA,AI,GLOTTAL STOP,FINAL GRAVE"⟩,
   ⟨0x1421, 1, "CANADIAN SYLLABICS FINAL ", "BOTTOM HALF RING,TOP HALF RING,RIGHT HALF RING,RING"⟩,
   ⟨0x1425, 1, "CANADIAN SYLLABICS FINAL DOUBLE ", "ACUTE,SHORT VERTICAL STROKES"⟩,
   ⟨0x1427, 1, "CANADIAN SYLLABICS FINAL ", "MIDDLE DOT,SHORT HORIZONTAL STROKE,PLUS,DOWN TACK"⟩,
   ⟨0x142B, 2, "CANADIAN SYLLABICS ", "EN,ON,PE,PI,PO,Y-CREE POO,CARRIER HI,PAA"⟩,
   ⟨0x142C, 2, "CANADIAN SYLLABICS ", "IN,AN,PAAI,PII,POO,CARRIER HEE,PA"⟩,
   ⟨0x143A, 2, "CANADIAN SYLLABICS ", "PWE,PWI,PWII,PWO,PWOO,PWA,PWAA"⟩,
   ⟨0x143B, 2, "CANADIAN SYLLABICS WEST-CREE ", "PWE,PWI,PWII,PWO,PWOO,PWA,PWAA"⟩,
   ⟨0x1448, 2, "CANADIAN SYLLABICS ", "Y-CREE PWAA,WEST-CREE P,TE,TI,TO,Y-CREE TOO,CARRIER DI,TAA"⟩,
   ⟨0x1449, 2, "CANADIAN SYLLABICS ", "P,CARRIER H,TAAI,TII,TOO,CARRIER DEE,TA"⟩,
   ⟨0x1457, 2, "CANADIAN SYLLABICS ", "TWE,TWI,TWII,TWO,TWOO,TWA,TWAA,NASKAPI TWAA"⟩,
   ⟨0x1458, 2, "CANADIAN SYLLABICS WEST-CREE ", "TWE,TWI,TWII,TWO,TWOO,TWA,TWAA"⟩,
   ⟨0x1466, 1, "CANADIAN SYLLABICS ", "T,TTE,TTI,TTO,TTA,KE,KAAI,KI,KII,KO,KOO,Y-CREE KOO,KA,KAA"⟩,
   ⟨0x1474, 2, "CANADIAN SYLLABICS ", "KWE,KWI,KWII,KWO,KWOO,KWA,KWAA,NASKAPI KWAA"⟩,
   ⟨0x1475, 2, "CANADIAN SYLLABICS WEST-CREE ", "KWE,KWI,KWII,KWO,KWOO,KWA,KWAA"⟩,
   ⟨0x1483, 2,
    "CANADIAN SYLLABICS ", "K,SOUTH-SLAVEY KEH,SOUTH-SLAVEY KOH,CE,CI,CO,Y-CREE COO,CAA"⟩,
   ⟨0x1484, 2, "CANADIAN SYLLABICS ", "KW,SOUTH-SLAVEY KIH,SOUTH-SLAVEY KAH,CAAI,CII,COO,CA"⟩,
   ⟨0x1492, 2, "CANADIAN SYLLABICS ", "CWE,CWI,CWII,CWO,CWOO,CWA,CWAA,NASKAPI CWAA"⟩,
   ⟨0x1493, 2, "CANADIAN SYLLABICS WEST-CREE ", "CWE,CWI,CWII,CWO,CWOO,CWA,CWAA"⟩,
   ⟨0x14A1, 1, "CANADIAN SYLLABICS ", "C,SAYISI TH,ME,MAAI,MI,MII,MO,MOO,Y-CREE MOO,MA,MAA"⟩,
   ⟨0x14AC, 2, "CANADIAN SYLLABICS ", "MWE,MWI,MWII,MWO,MWOO,MWA,MWAA"⟩,
   ⟨0x14AD, 2, "CANADIAN SYLLABICS WEST-CREE ", "MWE,MWI,MWII,MWO,MWOO,MWA,MWAA"⟩,
   ⟨0x14BA, 1, "CANADIAN SYLLABICS ", "NASKAPI MWAA,M,WEST-CREE M,MH,ATHAPASCAN M,SAYISI M"⟩,
   ⟨0x14C0, 1, "CANADIAN SYLLABICS ", "NE,NAAI,NI,NII,NO,NOO,Y-CREE NOO,NA,NAA,NWE,WEST-CREE NWE"⟩,
   ⟨0x14CB, 2, "CANADIAN SYLLABICS ", "NWA,NWAA,NASKAPI NWAA,CARRIER NG,LE,LI,LO,Y-CREE LOO,LAA"⟩,
   ⟨0x14CC, 2, "CANADIAN SYLLABICS ", "WEST-CREE NWA,WEST-CREE NWAA,N,NH,LAAI,LII,LOO,LA"⟩,
   ⟨0x14DC, 2, "CANADIAN SYLLABICS ", "LWE,LWI,LWII,LWO,LWOO,LWA,LWAA,L"⟩,
   ⟨0x14DD, 2, "CANADIAN SYLLABICS WEST-CREE ", "LWE,LWI,LWII,LWO,LWOO,LWA,LWAA,L"⟩,
   ⟨0x14EC, 1, "CANADIAN SYLLABICS ", "MEDIAL L,SE,SAAI,SI,SII,SO,SOO,Y-CREE SOO,SA,SAA"⟩,
   ⟨0x14F6, 2, "CANADIAN SYLLABICS ", "SWE,SWI,SWII,SWO,SWOO,SWA,SWAA"⟩,
   ⟨0x14F7, 2, "CANADIAN SYLLABICS WEST-CREE ", "SWE,SWI,SWII,SWO,SWOO,SWA,SWAA"⟩,
   ⟨0x1504, 1, "CANADIAN SYLLABICS ", "NASKAPI SWAA,S,ATHAPASCAN S,SW,BLACKFOOT S,MOOSE-CREE SK"⟩,
   ⟨0x150A, 1, "CANADIAN SYLLABICS NASKAPI ", "SKW,S-W,SPWA,STWA,SKWA,SCWA"⟩,
   ⟨0x1510, 1, "CANADIAN SYLLABICS ", "SHE,SHI,SHII,SHO,SHOO,SHA,SHAA"⟩,
   ⟨0x1517, 2, "CANADIAN SYLLABICS ", "SHWE,SHWI,SHWII,SHWO,SHWOO,SHWA,SHWAA"⟩,
   ⟨0x1518, 2, "CANADIAN SYLLABICS WEST-CREE ", "SHWE,SHWI,SHWII,SHWO,SHWOO,SHWA,SHWAA"⟩,
   ⟨0x1525, 1, "CANADIAN SYLLABICS ", "SH,YE,YAAI,YI,YII,YO,YOO,Y-CREE YOO,YA,YAA"⟩,
   ⟨0x152F, 2, "CANADIAN SYLLABICS ", "YWE,YWI,YWII,YWO,YWOO,YWA,YWAA,NASKAPI YWAA"⟩,
   ⟨0x1530, 2, "CANADIAN SYLLABICS WEST-CREE ", "YWE,YWI,YWII,YWO,YWOO,YWA,YWAA"⟩,
   ⟨0x153E, 1, "CANADIAN SYLLABICS ", "Y,BIBLE-CREE Y,WEST-CREE Y,SAYISI YI,RE,R-CREE RE"⟩,
   ⟨0x1544, 2, "CANADIAN SYLLABICS ", "WEST-CREE LE,RI,RO,WEST-CREE LO,RAA,RWAA,R,MEDIAL R"⟩,
   ⟨0x1545, 2, "CANADIAN SYLLABICS ", "RAAI,RII,ROO,RA,WEST-CREE LA,WEST-CREE RWAA,WEST-CREE R,FE"⟩,
   ⟨0x1554, 2, "CANADIAN SYLLABICS ", "FAAI,FII,FOO,FAA,WEST-CREE FWAA,THE,THI,THII,THO,THA,THWAA"⟩,
   ⟨0x1555, 2,
    "CANADIAN SYLLABICS ", "FI,FO,FA,FWAA,F,N-CREE THE,N-CREE THI,N-CREE THII,THOO,THAA"⟩,
   ⟨0x1569, 1, "CANADIAN SYLLABICS ", "WEST-CREE THWAA,TH,TTHE,TTHI,TTHO,TTHA,TTH,TYE,TYI,TYO,TYA"⟩,
   ⟨0x1574, 1, "CANADIAN SYLLABICS NUNAVIK ", "HE,HI,HII,HO,HOO,HA,HAA,H"⟩,
   ⟨0x157C, 1, "CANADIAN SYLLABICS ", "NUNAVUT H,HK,QAAI,QI,QII,QO,QOO,QA,QAA,Q,TLHE"⟩,
   ⟨0x1587, 2, "CANADIAN SYLLABICS ", "TLHI,TLHA,WEST-CREE RI,WEST-CREE RA,NGI,NGO,NGA,NG"⟩,
   ⟨0x1588, 2, "CANADIAN SYLLABICS ", "TLHO,WEST-CREE RE,WEST-CREE RO,NGAAI,NGII,NGOO,NGAA,NNG"⟩,
   ⟨0x1597, 1, "CANADIAN SYLLABICS SAYISI ", "SHE,SHI,SHO,SHA"⟩,
   ⟨0x159B, 1, "CANADIAN SYLLABICS WOODS-CREE ", "THE,THI,THO,THA,TH"⟩,
   ⟨0x15A0, 1, "CANADIAN SYLLABICS ", "LHI,LHII,LHO,LHOO,LHA,LHAA,LH"⟩,
   ⟨0x15A7, 1, "CANADIAN SYLLABICS TH-CREE ", "THE,THI,THII,THO,THOO,THA,THAA,TH"⟩,
   ⟨0x15AF, 1, "CANADIAN SYLLABICS AIVILIK B", ""⟩,
   ⟨0x15B0, 1, "CANADIAN SYLLABICS BLACKFOOT ", "E,I,O,A,WE,WI,WO,WA,NE,NI,NO,NA,KE,KI,KO,KA"⟩,
   ⟨0x15C0, 1, "CANADIAN SYLLABICS SAYISI ", "HE,HI,HO,HA"⟩,
   ⟨0x15C4, 2, "CANADIAN SYLLABICS CARRIER ", "GHU,GHE,GHI,RU,RE,RI,WU,WE,WI,HWU,HWE,HWI,THU"⟩,
   ⟨0x15C5, 2, "CANADIAN SYLLABICS CARRIER ", "GHO,GHEE,GHA,RO,REE,RA,WO,WEE,WA,HWO,HWEE,HWA,THO"⟩,
   ⟨0x15DE, 2, "CANADIAN SYLLABICS CARRIER ", "THE,THI,TTU,TTE,TTI,PU,PE,PI,P,GO,GEE,GA,KHO"⟩,
   ⟨0x15DF, 2, "CANADIAN SYLLABICS CARRIER ", "THEE,THA,TTO,TTEE,TTA,PO,PEE,PA,GU,GE,GI,KHU,KHE"⟩,
   ⟨0x15F8, 2,
    "CANADIAN SYLLABICS CARRIER ", "KHEE,KHA,KKO,KKEE,KKA,NU,NE,NI,MU,ME,MI,YU,YE,YI,JU"⟩,
   ⟨0x15F9, 2, "CANADIAN SYLLABICS CARRIER ", "KHI,KKU,KKE,KKI,KK,NO,NEE,NA,MO,MEE,MA,YO,YEE,YA"⟩,
   ⟨0x1615, 2, "CANADIAN SYLLABICS ", "SAYISI JU,CARRIER JE,CARRIER JI,CARRIER JA,CARRIER JJO"⟩,
   ⟨0x1616, 2, "CANADIAN SYLLABICS ", "CARRIER JO,CARRIER JEE,SAYISI JI,CARRIER JJU"⟩,
   ⟨0x161E, 2, "CANADIAN SYLLABICS CARRIER ", "JJE,JJI,LU,LE,LI,DLU,DLE,DLI,LHU,LHE,LHI,TLHU,TLHE"⟩,
   ⟨0x161F, 2, "CANADIAN SYLLABICS CARRIER ", "JJEE,JJA,LO,LEE,LA,DLO,DLEE,DLA,LHO,LHEE,LHA,TLHO"⟩,
   ⟨0x1637, 1, "CANADIAN SYLLABICS CARRIER ", "TLHEE,TLHI,TLHA,TLU,TLO,TLE,TLEE,TLI,TLA,ZU,ZO,ZE"⟩,
   ⟨0x1643, 1, "CANADIAN SYLLABICS CARRIER ", "ZEE,ZI,ZA,Z,INITIAL Z,DZU,DZO,DZE,DZEE,DZI,DZA,SU"⟩,
   ⟨0x164F, 2,
    "CANADIAN SYLLABICS CARRIER ", "SO,SEE,SA,SHO,SHEE,SHA,TSU,TSE,TSI,CHU,CHE,CHI,TTSU"⟩,
   ⟨0x1650, 2,
    "CANADIAN SYLLABICS CARRIER ", "SE,SI,SHU,SHE,SHI,SH,TSO,TSEE,TSA,CHO,CHEE,CHA,TTSO"⟩,
   ⟨0x1669, 2, "CANADIAN SYLLABICS ", "CARRIER TTSE,CARRIER TTSI,CHI SIGN,QAI,NNGI,NNGO,NNGA"⟩,
   ⟨0x166A, 2,
    "CANADIAN SYLLABICS ", "CARRIER TTSEE,CARRIER TTSA,FULL STOP,NGAI,NNGII,NNGOO,NNGAA"⟩,
   ⟨0x1677, 1, "CANADIAN SYLLABICS WOODS-CREE ", "THWEE,THWI,THWII,THWO,THWOO,THWA,THWAA,FINAL TH"⟩,
   ⟨0x167F, 1, "", "CANADIAN SYLLABICS BLACKFOOT W,OGHAM SPACE MARK,OGHAM LETTER BEITH"⟩,
   ⟨0x1682, 1,
    "OGHAM LETTER ", "LUIS,FEARN,SAIL,NION,UATH,DAIR,TINNE,COLL,CEIRT,MUIN,GORT,NGEADAL"⟩,
   ⟨0x168E, 1, "OGHAM LETTER ", "STRAIF,RUIS,AILM,ONN,UR,EADHADH,IODHADH,EABHADH,OR,UILLEANN,IFIN"⟩,
   ⟨0x1699, 1, "OGHAM ", "LETTER EAMHANCHOLL,LETTER PEITH,FEATHER MARK,REVERSED FEATHER MARK"⟩,
   ⟨0x16A0, 1, "RUNIC LETTER ", "FEHU FEOH FE F,V,URUZ UR U,YR,Y,W,THURISAZ THURS THORN,ETH"⟩,
   ⟨0x16A8, 2, "RUNIC LETTER ", "ANSUZ A,AC A,LONG-BRANCH-OSS O,O,ON,KAUNA,KAUN K,ENG"⟩,
   ⟨0x16A9, 2, "RUNIC LETTER ", "OS O,AESC,SHORT-TWIG-OSS O,OE,RAIDO RAD REID R,CEN,G,GEBO GYFU G"⟩,
   ⟨0x16B8, 2, "RUNIC LETTER ", "GAR,HAGLAZ H,LONG-BRANCH-HAGALL H,NAUDIZ NYD NAUD N"⟩,
   ⟨0x16B9, 2, "RUNIC LETTER ", "WUNJO WYNN W,HAEGL H,SHORT-TWIG-HAGALL H,SHORT-TWIG-NAUD N"⟩,
   ⟨0x16C0, 2, "RUNIC LETTER ", "DOTTED-N,E,GER,SHORT-TWIG-AR A,PERTHO PEORTH P,SOWILO S"⟩,
   ⟨0x16C1, 2, "RUNIC LETTER ", "ISAZ IS ISS I,JERAN J,LONG-BRANCH-AR AE,IWAZ EOH,ALGIZ EOLHX"⟩,
   ⟨0x16CB, 2, "RUNIC LETTER ", "SIGEL LONG-BRANCH-SOL S,C,TIWAZ TIR TYR T,D,SHORT-TWIG-BJARKAN B"⟩,
   ⟨0x16CC, 2, "RUNIC LETTER ", "SHORT-TWIG-SOL S,Z,SHORT-TWIG-TYR T,BERKANAN BEORC BJARKAN B"⟩,
   ⟨0x16D4, 2, "RUNIC LETTER ", "DOTTED-P,EHWAZ EH E,LONG-BRANCH-MADR M,LAUKAZ LAGU LOGR L,INGWAZ"⟩,
   ⟨0x16D5, 2, "RUNIC LETTER ", "OPEN-P,MANNAZ MAN M,SHORT-TWIG-MADR M,DOTTED-L"⟩,
   ⟨0x16DD, 2, "RUNIC LETTER ", "ING,OTHALAN ETHEL O,IOR,CALC,STAN,SHORT-TWIG-YR,Q"⟩,
   ⟨0x16DE, 2, "RUNIC LETTER ", "DAGAZ DAEG D,EAR,CWEORTH,CEALC,LONG-BRANCH-YR,ICELANDIC-YR,X"⟩,
   ⟨0x16EB, 2, "RUNIC ", "SINGLE PUNCTUATION,CROSS PUNCTUATION,TVIMADUR SYMBOL,LETTER K,LETTER OO"⟩,
   ⟨0x16EC, 2, "RUNIC ", "MULTIPLE PUNCTUATION,ARLAUG SYMBOL,BELGTHOR SYMBOL,LETTER SH"⟩,
   ⟨0x16F4, 1, "RUNIC LETTER FRANKS CASKET ", "OS,IS,EH,AC,AESC"⟩,
   ⟨0x1700, 1, "TAGALOG LETTER ", "A,I,U,KA,GA,NGA,TA,DA,NA,PA,BA,MA,YA,RA,LA,WA,SA,HA"⟩,
   ⟨0x1712, 1, "TAGALOG ", "VOWEL SIGN I,VOWEL SIGN U,SIGN VIRAMA,SIGN PAMUDPOD"⟩,
   ⟨0x171F, 1, "TAGALOG LETTER ARCHAIC RA", ""⟩,
   ⟨0x1720, 1, "HANUNOO LETTER ", "A,I,U,KA,GA,NGA,TA,DA,NA,PA,BA,MA,YA,RA,LA,WA,SA,HA"⟩,
   ⟨0x1732, 1, "HANUNOO ", "VOWEL SIGN I,VOWEL SIGN U,SIGN PAMUDPOD"⟩,
   ⟨0x1735, 1, "PHILIPPINE ", "SINGLE PUNCTUATION,DOUBLE PUNCTUATION"⟩,
   ⟨0x1740, 1, "BUHID LETTER ", "A,I,U,KA,GA,NGA,TA,DA,NA,PA,BA,MA,YA,RA,LA,WA,SA,HA"⟩,
   ⟨0x1752, 1, "BUHID VOWEL SIGN ", "I,U"⟩,
   ⟨0x1760, 1, "TAGBANWA LETTER ", "A,I,U,KA,GA,NGA,TA,DA,NA,PA,BA,MA,YA"⟩,
   ⟨0x176E, 1, "TAGBANWA LETTER ", "LA,WA,SA"⟩,
   ⟨0x1772, 1, "TAGBANWA VOWEL SIGN ", "I,U"⟩,
   ⟨0x1780, 2, "KHMER LETTER ", "KA,KO,NGO,CHA,CHO,DA,DO,NNO,THA,THO,BA,PO,MO,RO,VO,SSO,HA,QA"⟩,
   ⟨0x1781, 2, "KHMER LETTER ", "KHA,KHO,CA,CO,NYO,TTHA,TTHO,TA,TO,NO,PHA,PHO,YO,LO,SHA,SA,LA"⟩,
   ⟨0x17A3, 2, "KHMER INDEPENDENT VOWEL ", "QAQ,QI,QU,QUU,RY,LY,QE,QOO TYPE ONE,QAU"⟩,
   ⟨0x17A4, 2, "KHMER INDEPENDENT VOWEL ", "QAA,QII,QUK,QUUV,RYY,LYY,QAI,QOO TYPE TWO"⟩,
   ⟨0x17B4, 1, "KHMER VOWEL INHERENT ", "AQ,AA"⟩,
   ⟨0x17B6, 1, "KHMER VOWEL SIGN ", "AA,I,II,Y,YY,U,UU,UA,OE,YA,IE,E,AE,AI,OO,AU"⟩,
   ⟨0x17C6, 1, "KHMER SIGN ", "NIKAHIT,REAHMUK,YUUKALEAPINTU,MUUSIKATOAN,TRIISAP,BANTOC,ROBAT"⟩,
   ⟨0x17CD, 2, "KHMER SIGN ", "TOANDAKHIAT,AHSDA,VIRIAM,BATHAMASAT,BARIYOOSAN,LEK TOO,PHNAEK MUAN"⟩,
   ⟨0x17CE, 2, "KHMER SIGN ", "KAKABAT,SAMYOK SANNYA,COENG,KHAN,CAMNUC PII KUUH,BEYYAL,KOOMUUT"⟩,
   ⟨0x17DB, 1, "KHMER ", "CURRENCY SYMBOL RIEL,SIGN AVAKRAHASANYA,SIGN ATTHACAN"⟩,
   ⟨0x17E0, 1, "KHMER DIGIT ", "ZERO,ONE,TWO,THREE,FOUR,FIVE,SIX,SEVEN,EIGHT,NINE"⟩,
   ⟨0x17F0, 1, "KHMER SYMBOL LEK ATTAK ", "SON,MUOY,PII,BEI,BUON,PRAM"⟩,
   ⟨0x17F6, 1, "KHMER SYMBOL LEK ATTAK PRAM-", "MUOY,PII,BEI,BUON"⟩,
   ⟨0x1800, 1, "MONGOLIAN ", "BIRGA,ELLIPSIS,COMMA,FULL STOP,COLON,FOUR DOTS,TODO SOFT HYPHEN"⟩,
   ⟨0x1807, 1, "MONGOLIAN ", "SIBE SYLLABLE BOUNDARY MARKER,MANCHU COMMA,MANCHU FULL STOP"⟩,
   ⟨0x180A, 2, "MONGOLIAN ", "NIRUGU,FREE VARIATION SELECTOR TWO,VOWEL SEPARATOR"⟩,
   ⟨0x180B, 2, "MONGOLIAN FREE VARIATION SELECTOR ", "ONE,THREE,FOUR"⟩,
   ⟨0x1810, 1, "MONGOLIAN DIGIT ", "ZERO,ONE,TWO,THREE,FOUR,FIVE,SIX,SEVEN,EIGHT,NINE"⟩,
   ⟨0x1820, 2, "MONGOLIAN LETTER ", "A,I,U,UE,NA,BA,QA,MA,SA,TA,CHA,YA,WA,KA,TSA,HAA,LHA,CHI"⟩,
   ⟨0x1821, 2, "MONGOLIAN LETTER ", "E,O,OE,EE,ANG,PA,GA,LA,SHA,DA,JA,RA,FA,KHA,ZA,ZRA,ZHI"⟩,
   ⟨0x1843, 2, "MONGOLIAN LETTER TODO ", "LONG VOWEL SIGN,I,U,UE,BA,QA,MA,DA,JA,YA,KA,HAA,NIA"⟩,
   ⟨0x1844, 2, "MONGOLIAN LETTER TODO ", "E,O,OE,ANG,PA,GA,TA,CHA,TSA,WA,GAA,JIA,DZA"⟩,
   ⟨0x185D, 1, "MONGOLIAN LETTER SIBE ", "E,I,IY,UE,U,ANG,KA,GA,HA,PA,SHA,TA,DA,JA,FA,GAA,HAA,TSA"⟩,
   ⟨0x186F, 2, "MONGOLIAN LETTER ", "SIBE ZA,SIBE CHA,MANCHU I,MANCHU RA,MANCHU ZHA"⟩,
   ⟨0x1870, 2, "MONGOLIAN LETTER ", "SIBE RAA,SIBE ZHA,MANCHU KA,MANCHU FA,CHA WITH TWO DOTS"⟩,
   ⟨0x1880, 2, "MONGOLIAN LETTER ALI GALI ", "ANUSVARA ONE,DAMARU,INVERTED UBADAMA,THREE BALUDA,I"⟩,
   ⟨0x1881, 2, "MONGOLIAN LETTER ALI GALI ", "VISARGA ONE,UBADAMA,BALUDA,A,KA"⟩,
   ⟨0x188A, 1, "MONGOLIAN LETTER ALI GALI ", "NGA,CA,TTA,TTHA,DDA,NNA,TA,DA,PA,PHA,SSA,ZHA,ZA,AH"⟩,
   ⟨0x1898, 1, "MONGOLIAN LETTER TODO ALI GALI ", "TA,ZHA"⟩,
   ⟨0x189A, 1,
    "MONGOLIAN LETTER MANCHU ALI GALI ", "GHA,NGA,CA,JHA,TTA,DDHA,TA,DHA,SSA,CYA,ZHA,ZA"⟩,
   ⟨0x18A6, 1, "MONGOLIAN LETTER ALI GALI HALF ", "U,YA"⟩,
   ⟨0x18A8, 1, "MONGOLIAN LETTER ", "MANCHU ALI GALI BHA,ALI GALI DAGALGA,MANCHU ALI GALI LHA"⟩,
   ⟨0x18B0, 2, "CANADIAN SYLLABICS ", "OY,AAY,POY,PWOY,KAY,MAY,NAY,SOY,SHOY,SHWOY,YAY,NWI"⟩,
   ⟨0x18B1, 2, "CANADIAN SYLLABICS ", "AY,WAY,PAY,TAY,KWAY,NOY,LAY,SAY,SHAY,YOY,RAY,OJIBWAY NWI"⟩,
   ⟨0x18C8, 2, "CANADIAN SYLLABICS ", "NWII,NWO,NWOO,RWEE,RWII,RWOO"⟩,
   ⟨0x18C9, 2, "CANADIAN SYLLABICS ", "OJIBWAY NWII,OJIBWAY NWO,OJIBWAY NWOO,RWI,RWO,RWA"⟩,
   ⟨0x18D4, 1, "CANADIAN SYLLABICS OJIBWAY ", "P,T,K,C,M,N,S,SH"⟩,
   ⟨0x18DC, 2, "CANADIAN SYLLABICS ", "EASTERN W,FINAL SMALL RING,R-CREE RWE,WEST-CREE LAA,THWA"⟩,
   ⟨0x18DD, 2, "CANADIAN SYLLABICS ", "WESTERN W,FINAL RAISED DOT,WEST-CREE LOO,THWE,TTHWE"⟩,
   ⟨0x18E6, 1, "CANADIAN SYLLABICS ", "TTHOO,TTHAA,TLHWE,TLHOO,SAYISI SHWE,SAYISI SHOO,SAYISI HOO"⟩,
   ⟨0x18ED, 1, "CANADIAN SYLLABICS CARRIER ", "GWU,DENE GEE,GAA,GWA"⟩,
   ⟨0x18F1, 2, "CANADIAN SYLLABICS ", "SAYISI JUU,BEAVER DENE L,CARRIER DENTAL S"⟩,
   ⟨0x18F2, 2, "CANADIAN SYLLABICS ", "CARRIER JWA,BEAVER DENE R"⟩,
   ⟨0x1900, 1, "LIMBU VOWEL-CARRIER LETTER", ""⟩,
   ⟨0x1901, 2, "LIMBU LETTER ", "KA,GA,NGA,CHA,JHA,TA,DA,NA,PHA,BHA,YA,LA,SHA,SA,GYAN"⟩,
   ⟨0x1902, 2, "LIMBU LETTER ", "KHA,GHA,CA,JA,YAN,THA,DHA,PA,BA,MA,RA,WA,SSA,HA,TRA"⟩,
   ⟨0x1920, 1, "LIMBU VOWEL SIGN ", "A,I,U,EE,AI,OO,AU,E,O"⟩,
   ⟨0x1929, 1, "LIMBU SUBJOINED LETTER ", "YA,RA,WA"⟩,
   ⟨0x1930, 1, "LIMBU SMALL LETTER ", "KA,NGA,ANUSVARA,TA,NA,PA,MA,RA,LA"⟩,
   ⟨0x1939, 1, "LIMBU SIGN ", "MUKPHRENG,KEMPHRENG,SA-I"⟩,
   ⟨0x1940, 1, "LIMBU SIGN LOO", ""⟩,
   ⟨0x1944, 1, "LIMBU ", "EXCLAMATION MARK,QUESTION MARK"⟩,
   ⟨0x1946, 1, "LIMBU DIGIT ", "ZERO,ONE,TWO,THREE,FOUR,FIVE,SIX,SEVEN,EIGHT,NINE"⟩,
   ⟨0x1950, 2, "TAI LE LETTER ", "KA,NGA,SA,TA,LA,PHA,FA,HA,KHA,NA,I,EH,OO,UE,AUE"⟩,
   ⟨0x1951, 2, "TAI LE LETTER ", "XA,TSA,YA,THA,PA,MA,VA,QA,TSHA,A,EE,U,O,E,AI"⟩,
   ⟨0x1970, 1, "TAI LE LETTER TONE-", "2,3,4,5,6"⟩,
   ⟨0x1980, 2, "NEW TAI LUE LETTER ", "HIGH QA,HIGH KA,HIGH NGA,LOW XA,HIGH TSA,HIGH YA,LOW SA"⟩,
   ⟨0x1981, 2, "NEW TAI LUE LETTER ", "LOW QA,HIGH XA,LOW KA,LOW NGA,HIGH SA,LOW TSA,LOW YA"⟩,
   ⟨0x198E, 1, "NEW TAI LUE LETTER HIGH ", "TA,THA,NA"⟩,
   ⟨0x1991, 2, "NEW TAI LUE LETTER ", "LOW TA,LOW NA,HIGH PHA,LOW PA,LOW MA,HIGH VA,LOW FA"⟩,
   ⟨0x1992, 2, "NEW TAI LUE LETTER ", "LOW THA,HIGH PA,HIGH MA,LOW PHA,HIGH FA,HIGH LA"⟩,
   ⟨0x199E, 2, "NEW TAI LUE LETTER ", "LOW VA,HIGH HA,HIGH BA,LOW DA,HIGH KVA,LOW KVA,HIGH SUA"⟩,
   ⟨0x199F, 2, "NEW TAI LUE LETTER ", "LOW LA,HIGH DA,LOW HA,LOW BA,HIGH XVA,LOW XVA,LOW SUA"⟩,
   ⟨0x19B0, 2, "NEW TAI LUE VOWEL SIGN ", "VOWEL SHORTENER,II,UU,AE,OA,AY,UY,OAY,IY"⟩,
   ⟨0x19B1, 2, "NEW TAI LUE VOWEL SIGN ", "AA,U,E,O,UE,AAY,OY,UEY"⟩,
   ⟨0x19C1, 1, "NEW TAI LUE LETTER FINAL ", "V,NG,N,M,K,D,B"⟩,
   ⟨0x19C8, 1, "NEW TAI LUE TONE MARK-", "1,2"⟩,
   ⟨0x19D0, 1, "NEW TAI LUE DIGIT ", "ZERO,ONE,TWO,THREE,FOUR,FIVE,SIX,SEVEN,EIGHT,NINE"⟩,
   ⟨0x19DA, 1, "NEW TAI LUE THAM DIGIT ONE", ""⟩,
   ⟨0x19DE, 1, "", "NEW TAI LUE SIGN LAE,NEW TAI LUE SIGN LAEV,KHMER SYMBOL PATHAMASAT"⟩,
   ⟨0x19E1, 2, "KHMER SYMBOL ", "MUOY KOET,BEI KOET,PRAM KOET,PRAM-PII KOET,PRAM-BUON KOET"⟩,
   ⟨0x19E2, 2, "KHMER SYMBOL ", "PII KOET,BUON KOET,PRAM-MUOY KOET,PRAM-BEI KOET,DAP KOET"⟩,
   ⟨0x19EB, 1, "KHMER SYMBOL DAP-", "MUOY KOET,PII KOET,BEI KOET,BUON KOET,PRAM KOET"⟩,
   ⟨0x19F0, 2, "KHMER SYMBOL ", "TUTEYASAT,PII ROC,BUON ROC,PRAM-MUOY ROC,PRAM-BEI ROC,DAP ROC"⟩,
   ⟨0x19F1, 2, "KHMER SYMBOL ", "MUOY ROC,BEI ROC,PRAM ROC,PRAM-PII ROC,PRAM-BUON ROC"⟩,
   ⟨0x19FB, 1, "KHMER SYMBOL DAP-", "MUOY ROC,PII ROC,BEI ROC,BUON ROC,PRAM ROC"⟩,
   ⟨0x1A00, 2, "BUGINESE LETTER ", "KA,NGA,PA,MA,TA,NA,CA,NYA,YA,LA,SA,HA"⟩,
   ⟨0x1A01, 2, "BUGINESE LETTER ", "GA,NGKA,BA,MPA,DA,NRA,JA,NYCA,RA,VA,A"⟩,
   ⟨0x1A17, 1, "BUGINESE VOWEL SIGN ", "I,U,E,O,AE"⟩,
   ⟨0x1A1E, 1, "BUGINESE ", "PALLAWA,END OF SECTION"⟩,
   ⟨0x1A20, 1, "TAI THAM LETTER HIGH ", "KA,KHA,KXA"⟩,
   ⟨0x1A23, 2, "TAI THAM LETTER ", "LOW KA,LOW KHA,HIGH CA,LOW CA,LOW CHA,RATA,DA,RANA,HIGH THA"⟩,
   ⟨0x1A24, 2, "TAI THAM LETTER ", "LOW KXA,NGA,HIGH CHA,LOW SA,NYA,HIGH RATHA,LOW RATHA,HIGH TA"⟩,
   ⟨0x1A34, 2, "TAI THAM LETTER ", "LOW TA,NA,HIGH PA,HIGH FA,LOW FA,MA,HIGH YA,RUE,LUE,HIGH SHA"⟩,
   ⟨0x1A35, 2, "TAI THAM LETTER ", "LOW THA,BA,HIGH PHA,LOW PA,LOW PHA,LOW YA,RA,LA,WA,HIGH SSA"⟩,
   ⟨0x1A48, 1, "TAI THAM LETTER ", "HIGH SA,HIGH HA,LLA,A,LOW HA,I,II,U,UU,EE,OO,LAE,GREAT SA"⟩,
   ⟨0x1A55, 1, "TAI THAM CONSONANT SIGN ", "MEDIAL RA,MEDIAL LA,LA TANG LAI"⟩,
   ⟨0x1A58, 1, "TAI THAM SIGN MAI KANG LAI", ""⟩,
   ⟨0x1A59, 1, "TAI THAM CONSONANT SIGN ", "FINAL NGA,LOW PA,HIGH RATHA OR LOW PA,MA,BA,SA"⟩,
   ⟨0x1A60, 1, "TAI THAM SIGN SAKOT", ""⟩,
   ⟨0x1A61, 2, "TAI THAM VOWEL SIGN ", "A,AA,I,UE,U,O,OY,AE,AI,OA ABOVE"⟩,
   ⟨0x1A62, 2, "TAI THAM VOWEL SIGN ", "MAI SAT,TALL AA,II,UUE,UU,OA BELOW,E,OO,THAM AI"⟩,
   ⟨0x1A74, 2, "TAI THAM SIGN ", "MAI KANG,TONE-2,KHUEN TONE-4,RA HAAM,KHUEN-LUE KARAN"⟩,
   ⟨0x1A75, 2, "TAI THAM SIGN ", "TONE-1,KHUEN TONE-3,KHUEN TONE-5,MAI SAM"⟩,
   ⟨0x1A7F, 1, "TAI THAM COMBINING CRYPTOGRAMMIC DOT", ""⟩,
   ⟨0x1A80, 1, "TAI THAM HORA DIGIT ", "ZERO,ONE,TWO,THREE,FOUR,FIVE,SIX,SEVEN,EIGHT,NINE"⟩,
   ⟨0x1A90, 1, "TAI THAM THAM DIGIT ", "ZERO,ONE,TWO,THREE,FOUR,FIVE,SIX,SEVEN,EIGHT,NINE"⟩,
   ⟨0x1AA0, 2, "TAI THAM SIGN ", "WIANG,SAWAN,HOY,REVERSED ROTATED RANA,KAAN,SATKAAN,HANG"⟩,
   ⟨0x1AA1, 2, "TAI THAM SIGN ", "WIANGWAAK,KEOW,DOKMAI,MAI YAMOK,KAANKUU,SATKAANKUU,CAANG"⟩,
   ⟨0x1AB0, 2, "COMBINING ", "DOUBLED CIRCUMFLEX ACCENT,INFINITY,TRIPLE DOT,WIGGLY LINE BELOW"⟩,
   ⟨0x1AB1, 2, "COMBINING ", "DIAERESIS-RING,DOWNWARDS ARROW,X-X BELOW"⟩,
   ⟨0x1AB7, 2, "COMBINING ", "OPEN MARK BELOW,LIGHT CENTRALIZATION STROKE BELOW,PARENTHESES ABOVE"⟩,
   ⟨0x1AB8, 2, "COMBINING ", "DOUBLE OPEN MARK BELOW,STRONG CENTRALIZATION STROKE BELOW"⟩,
   ⟨0x1ABC, 1, "COMBINING ", "DOUBLE PARENTHESES ABOVE,PARENTHESES BELOW,PARENTHESES OVERLAY"⟩,
   ⟨0x1ABF, 1, "COMBINING LATIN SMALL LETTER ", "W BELOW,TURNED W BELOW"⟩,
   ⟨0x1AC1, 2, "COMBINING LEFT PARENTHESIS ", "ABOVE LEFT,BELOW LEFT"⟩,
   ⟨0x1AC2, 2, "COMBINING RIGHT PARENTHESIS ", "ABOVE RIGHT,BELOW RIGHT"⟩,
   ⟨0x1AC5, 1, "COMBINING ", "SQUARE BRACKETS ABOVE,NUMBER SIGN ABOVE,INVERTED DOUBLE ARCH ABOVE"⟩,
   ⟨0x1AC8, 2, "COMBINING ", "PLUS SIGN ABOVE,DOUBLE PLUS SIGN BELOW"⟩,
   ⟨0x1AC9, 2, "COMBINING ", "DOUBLE PLUS SIGN ABOVE,TRIPLE ACUTE ACCENT"⟩,
   ⟨0x1ACC, 1, "COMBINING LATIN SMALL LETTER INSULAR ", "G,R,T"⟩,
   ⟨0x1B00, 1, "BALINESE SIGN ", "ULU RICEM,ULU CANDRA,CECEK,SURANG,BISAH"⟩,
   ⟨0x1B05, 1, "BALINESE LETTER ", "AKARA,AKARA TEDUNG,IKARA,IKARA TEDUNG,UKARA,UKARA TEDUNG"⟩,
   ⟨0x1B0B, 1, "BALINESE LETTER ", "RA REPA,RA REPA TEDUNG,LA LENGA,LA LENGA TEDUNG,EKARA,AIKARA"⟩,
   ⟨0x1B11, 1, "BALINESE LETTER ", "OKARA,OKARA TEDUNG,KA,KA MAHAPRANA,GA,GA GORA,NGA,CA,CA LACA"⟩,
   ⟨0x1B1A, 2, "BALINESE LETTER ", "JA,NYA,TA MURDA MAHAPRANA,DA MURDA MAHAPRANA,TA,DA,NA"⟩,
   ⟨0x1B1B, 2, "BALINESE LETTER ", "JA JERA,TA LATIK,DA MURDA ALPAPRANA,NA RAMBAT,TA TAWA,DA MADU"⟩,
   ⟨0x1B27, 1,
    "BALINESE LETTER ", "PA,PA KAPAL,BA,BA KEMBANG,MA,YA,RA,LA,WA,SA SAGA,SA SAPA,SA,HA"⟩,
   ⟨0x1B34, 1, "BALINESE SIGN REREKAN", ""⟩,
   ⟨0x1B35, 1, "BALINESE VOWEL SIGN ", "TEDUNG,ULU,ULU SARI,SUKU,SUKU ILUT,RA REPA"⟩,
   ⟨0x1B3B, 1,
    "BALINESE VOWEL SIGN ", "RA REPA TEDUNG,LA LENGA,LA LENGA TEDUNG,TALING,TALING REPA"⟩,
   ⟨0x1B40, 1, "BALINESE VOWEL SIGN ", "TALING TEDUNG,TALING REPA TEDUNG,PEPET,PEPET TEDUNG"⟩,
   ⟨0x1B44, 1, "BALINESE ", "ADEG ADEG,LETTER KAF SASAK,LETTER KHOT SASAK,LETTER TZIR SASAK"⟩,
   ⟨0x1B48, 1, "BALINESE LETTER ", "EF SASAK,VE SASAK,ZAL SASAK,ASYURA SASAK,ARCHAIC JNYA"⟩,
   ⟨0x1B50, 1, "BALINESE DIGIT ", "ZERO,ONE,TWO,THREE,FOUR,FIVE,SIX,SEVEN,EIGHT,NINE"⟩,
   ⟨0x1B5A, 1, "BALINESE ", "PANTI,PAMADA,WINDU,CARIK PAMUNGKAH,CARIK SIKI,CARIK PAREREN,PAMENENG"⟩,
   ⟨0x1B61, 2, "BALINESE MUSICAL SYMBOL ", "DONG,DUNG,DANG SURANG,DAENG,DAING,COMBINING TEGEH"⟩,
   ⟨0x1B62, 2, "BALINESE MUSICAL SYMBOL ", "DENG,DANG,DING,DEUNG,DANG GEDE"⟩,
   ⟨0x1B6C, 2, "BALINESE MUSICAL SYMBOL COMBINING ", "ENDEP,KEMPLI,KEMPUL WITH JEGOGAN,BENDE"⟩,
   ⟨0x1B6D, 2, "BALINESE MUSICAL SYMBOL COMBINING ", "KEMPUL,JEGOGAN,KEMPLI WITH JEGOGAN,GONG"⟩,
   ⟨0x1B74, 1, "BALINESE MUSICAL SYMBOL RIGHT-HAND ", "OPEN DUG,OPEN DAG,CLOSED TUK,CLOSED TAK"⟩,
   ⟨0x1B78, 1, "BALINESE MUSICAL SYMBOL LEFT-HAND ", "OPEN PANG,OPEN PUNG,CLOSED PLAK,CLOSED PLUK"⟩,
   ⟨0x1B7C, 1, "BALINESE ", "MUSICAL SYMBOL LEFT-HAND OPEN PING,PANTI LANTANG,PAMADA LANTANG"⟩,
   ⟨0x1B80, 1, "SUNDANESE SIGN ", "PANYECEK,PANGLAYAR,PANGWISAD"⟩,
   ⟨0x1B83, 2, "SUNDANESE LETTER ", "A,U,O,EU,QA,NGA,JA,NYA,DA,PA,VA,MA,RA,WA,XA"⟩,
   ⟨0x1B84, 2, "SUNDANESE LETTER ", "I,AE,E,KA,GA,CA,ZA,TA,NA,FA,BA,YA,LA,SA,HA"⟩,
   ⟨0x1BA1, 1, "SUNDANESE CONSONANT SIGN ", "PAMINGKAL,PANYAKRA,PANYIKU"⟩,
   ⟨0x1BA4, 1, "SUNDANESE VOWEL SIGN ", "PANGHULU,PANYUKU,PANAELAENG,PANOLONG,PAMEPET,PANEULEUNG"⟩,
   ⟨0x1BAA, 2, "SUNDANESE ", "SIGN PAMAAEH,CONSONANT SIGN PASANGAN MA,LETTER KHA"⟩,
   ⟨0x1BAB, 2, "SUNDANESE ", "SIGN VIRAMA,CONSONANT SIGN PASANGAN WA,LETTER SYA"⟩,
   ⟨0x1BB0, 1, "SUNDANESE DIGIT ", "ZERO,ONE,TWO,THREE,FOUR,FIVE,SIX,SEVEN,EIGHT,NINE"⟩,
   ⟨0x1BBA, 1, "SUNDANESE AVAGRAHA", ""⟩,
   ⟨0x1BBB, 1, "SUNDANESE LETTER ", "REU,LEU,BHA,FINAL K,FINAL M"⟩,
   ⟨0x1BC0, 1, "BATAK LETTER ", "A,SIMALUNGUN A,HA,SIMALUNGUN HA,MANDAILING HA,BA"⟩,
   ⟨0x1BC6, 2, "BATAK LETTER ", "KARO BA,SIMALUNGUN PA,MANDAILING NA,SIMALUNGUN WA,GA,JA,RA,MA"⟩,
   ⟨0x1BC7, 2, "BATAK LETTER ", "PA,NA,WA,PAKPAK WA,SIMALUNGUN GA,DA,SIMALUNGUN RA,SIMALUNGUN MA"⟩,
   ⟨0x1BD6, 2, "BATAK LETTER ", "SOUTHERN TA,SA,MANDAILING SA,SIMALUNGUN YA,LA,NYA,NDA,I"⟩,
   ⟨0x1BD7, 2, "BATAK LETTER ", "NORTHERN TA,SIMALUNGUN SA,YA,NGA,SIMALUNGUN LA,CA,MBA,U"⟩,
   ⟨0x1BE6, 1, "BATAK SIGN TOMPI", ""⟩,
   ⟨0x1BE7, 1, "BATAK VOWEL SIGN ", "E,PAKPAK E,EE,I,KARO I,O,KARO O,U,U FOR SIMALUNGUN SA"⟩,
   ⟨0x1BF0, 1, "BATAK ", "CONSONANT SIGN NG,CONSONANT SIGN H,PANGOLAT,PANONGONAN"⟩,
   ⟨0x1BFC, 1, "BATAK SYMBOL BINDU ", "NA METEK,PINARBORAS,JUDUL,PANGOLAT"⟩,
   ⟨0x1C00, 2, "LEPCHA LETTER ", "KA,KHA,GLA,CA,JA,TA,DA,PA,PHA,FLA,BLA,MLA,TSHA,YA,LA,HLA,SA,WA"⟩,
   ⟨0x1C01, 2, "LEPCHA LETTER ", "KLA,GA,NGA,CHA,NYA,THA,NA,PLA,FA,BA,MA,TSA,DZA,RA,HA,VA,SHA,A"⟩,
   ⟨0x1C24, 1, "LEPCHA SUBJOINED LETTER ", "YA,RA"⟩,
   ⟨0x1C26, 1, "LEPCHA VOWEL SIGN ", "AA,I,O,OO,U,UU,E"⟩,
   ⟨0x1C2D, 1, "LEPCHA CONSONANT SIGN ", "K,M,L,N,P,R,T,NYIN-DO,KANG"⟩,
   ⟨0x1C36, 1, "LEPCHA SIGN ", "RAN,NUKTA"⟩,
   ⟨0x1C3B, 1, "LEPCHA PUNCTUATION ", "TA-ROL,NYET THYOOM TA-ROL,CER-WA,TSHOOK CER-WA,TSHOOK"⟩,
   ⟨0x1C40, 1, "LEPCHA DIGIT ", "ZERO,ONE,TWO,THREE,FOUR,FIVE,SIX,SEVEN,EIGHT,NINE"⟩,
   ⟨0x1C4D, 1, "LEPCHA LETTER ", "TTA,TTHA,DDA"⟩,
   ⟨0x1C50, 1, "OL CHIKI DIGIT ", "ZERO,ONE,TWO,THREE,FOUR,FIVE,SIX,SEVEN,EIGHT,NINE"⟩,
   ⟨0x1C5A, 2, "OL CHIKI LETTER ", "LA,AG,AL,AAK,AAM,LI,IH,IR,UC,UNN,LE,EDD,ERR,OTT,OV"⟩,
   ⟨0x1C5B, 2, "OL CHIKI LETTER ", "AT,ANG,LAA,AAJ,AAW,IS,INY,LU,UD,UY,EP,EN,LO,OB,OH"⟩,
   ⟨0x1C78, 1, "OL CHIKI ", "MU TTUDDAG,GAAHLAA TTUDDAAG,MU-GAAHLAA TTUDDAAG,RELAA,PHAARKAA,AHAD"⟩,
   ⟨0x1C7E, 1, "OL CHIKI PUNCTUATION ", "MUCAAD,DOUBLE MUCAAD"⟩,
   ⟨0x1C80, 2, "CYRILLIC SMALL LETTER ", "ROUNDED VE,NARROW O,TALL TE,TALL HARD SIGN,UNBLENDED UK"⟩,
   ⟨0x1C81, 2, "CYRILLIC SMALL LETTER ", "LONG-LEGGED DE,WIDE ES,THREE-LEGGED TE,TALL YAT"⟩,
   ⟨0x1C90, 1, "GEORGIAN MTAVRULI CAPITAL LETTER ", "AN,BAN,GAN,DON,EN,VIN,ZEN,TAN,IN,KAN,LAS,MAN"⟩,
   ⟨0x1C9C, 1,
    "GEORGIAN MTAVRULI CAPITAL LETTER ", "NAR,ON,PAR,ZHAR,RAE,SAN,TAR,UN,PHAR,KHAR,GHAN"⟩,
   ⟨0x1CA7, 1, "GEORGIAN MTAVRULI CAPITAL LETTER ", "QAR,SHIN,CHIN,CAN,JIL,CIL,CHAR,XAN,JHAN,HAE"⟩,
   ⟨0x1CB1, 1, "GEORGIAN MTAVRULI CAPITAL LETTER ", "HE,HIE,WE,HAR,HOE,FI,YN,ELIFI,TURNED GAN,AIN"⟩,
   ⟨0x1CBD, 1, "GEORGIAN MTAVRULI CAPITAL LETTER ", "AEN,HARD SIGN,LABIAL SIGN"⟩,
   ⟨0x1CC0, 2, "SUNDANESE PUNCTUATION BINDU ", "SURYA,PURNAMA,LEU SATANGA,DA SATANGA"⟩,
   ⟨0x1CC1, 2, "SUNDANESE PUNCTUATION BINDU ", "PANGLONG,CAKRA,KA SATANGA,BA SATANGA"⟩,
   ⟨0x1CD0, 2, "VEDIC ", "TONE KARSHANA,TONE PRENKHA,SIGN YAJURVEDIC MIDLINE SVARITA"⟩,
   ⟨0x1CD1, 2,
    "VEDIC ", "TONE SHARA,SIGN NIHSHVASA,TONE YAJURVEDIC AGGRAVATED INDEPENDENT SVARITA"⟩,
   ⟨0x1CD6, 2, "VEDIC TONE ", "YAJURVEDIC INDEPENDENT SVARITA,CANDRA BELOW,DOUBLE SVARITA"⟩,
   ⟨0x1CD7, 2, "VEDIC TONE YAJURVEDIC KATHAKA INDEPENDENT ", "SVARITA,SVARITA SCHROEDER"⟩,
   ⟨0x1CDB, 1, "VEDIC TONE ", "TRIPLE SVARITA,KATHAKA ANUDATTA,DOT BELOW,TWO DOTS BELOW"⟩,
   ⟨0x1CDF, 2, "VEDIC TONE ", "THREE DOTS BELOW,ATHARVAVEDIC INDEPENDENT SVARITA"⟩,
   ⟨0x1CE0, 2, "VEDIC ", "TONE RIGVEDIC KASHMIRI INDEPENDENT SVARITA,SIGN VISARGA SVARITA"⟩,
   ⟨0x1CE3, 2, "VEDIC SIGN VISARGA ", "UDATTA,ANUDATTA,UDATTA WITH TAIL"⟩,
   ⟨0x1CE4, 2, "VEDIC SIGN REVERSED VISARGA ", "UDATTA,ANUDATTA"⟩,
   ⟨0x1CE8, 1, "VEDIC SIGN ", "VISARGA ANUDATTA WITH TAIL,ANUSVARA ANTARGOMUKHA"⟩,
   ⟨0x1CEA, 1, "VEDIC SIGN ANUSVARA ", "BAHIRGOMUKHA,VAMAGOMUKHA,VAMAGOMUKHA WITH TAIL"⟩,
   ⟨0x1CED, 1, "VEDIC SIGN ", "TIRYAK,HEXIFORM LONG ANUSVARA,LONG ANUSVARA,RTHANG LONG ANUSVARA"⟩,
   ⟨0x1CF1, 2, "VEDIC SIGN ", "ANUSVARA UBHAYATO MUKHA,ROTATED ARDHAVISARGA,JIHVAMULIYA,ATIKRAMA"⟩,
   ⟨0x1CF2, 2, "VEDIC ", "SIGN ARDHAVISARGA,TONE CANDRA ABOVE,SIGN UPADHMANIYA"⟩,
   ⟨0x1CF8, 1,
    "VEDIC ", "TONE RING ABOVE,TONE DOUBLE RING ABOVE,SIGN DOUBLE ANUSVARA ANTARGOMUKHA"⟩]

end RegexSubst.Unicode
