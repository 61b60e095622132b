import RegexSubst.Unicode.Name.Run

/-!
# `RegexSubst.Unicode.Name.MinorityScript`: names of U+1E000 to U+1EFFF

Glagolitic marks to Arabic letters for mathematics.
-/

set_option autoImplicit false

namespace RegexSubst.Unicode

/-- The names of U+1E000 to U+1EFFF. -/
def minorityScriptNames : List NameRun :=
  [⟨0x1E000, 1, "COMBINING GLAGOLITIC LETTER ", "AZU,BUKY,VEDE,GLAGOLI,DOBRO,YESTU,ZHIVETE"⟩,
   ⟨0x1E008, 1, "COMBINING GLAGOLITIC LETTER ", "ZEMLJA,IZHE,INITIAL IZHE"⟩,
   ⟨0x1E00B, 2, "COMBINING GLAGOLITIC LETTER ", "I,KAKO,MYSLITE,ONU,RITSI,TVRIDO,FRITU"⟩,
   ⟨0x1E00C, 2, "COMBINING GLAGOLITIC LETTER ", "DJERVI,LJUDIJE,NASHI,POKOJI,SLOVO,UKU,HERU"⟩,
   ⟨0x1E01B, 1, "COMBINING GLAGOLITIC LETTER ", "SHTA,TSI,CHRIVI,SHA,YERU,YERI,YATI"⟩,
   ⟨0x1E023, 1, "COMBINING GLAGOLITIC LETTER ", "YU,SMALL YUS"⟩,
   ⟨0x1E026, 1,
    "COMBINING GLAGOLITIC LETTER ", "YO,IOTATED SMALL YUS,BIG YUS,IOTATED BIG YUS,FITA"⟩,
   ⟨0x1E100, 2, "NYIAKENG PUACHUE HMONG LETTER ", "MA,NTA,HA,XA,CA,SA,NCA,KA,NYA"⟩,
   ⟨0x1E101, 2, "NYIAKENG PUACHUE HMONG LETTER ", "TSA,TA,NA,NKA,LA,ZA,NTSA,DA,NRA"⟩,
   ⟨0x1E112, 2, "NYIAKENG PUACHUE HMONG LETTER ", "VA,TXA,RA,YA,PA,NPA,NPLA,MLA,GA,A,I,O,E,W"⟩,
   ⟨0x1E113, 2, "NYIAKENG PUACHUE HMONG LETTER ", "NTXA,FA,QA,NQA,XYA,DLA,HAH,PLA,RRA,AA,U,OO,EE"⟩,
   ⟨0x1E130, 1, "NYIAKENG PUACHUE HMONG TONE-", "B,M,J,V,S,G,D"⟩,
   ⟨0x1E137, 1, "NYIAKENG PUACHUE HMONG SIGN FOR ", "PERSON,THING,LOCATION,ANIMAL,INVERTEBRATE"⟩,
   ⟨0x1E13C, 1, "NYIAKENG PUACHUE HMONG ", "SIGN XW XW,SYLLABLE LENGTHENER"⟩,
   ⟨0x1E140, 2, "NYIAKENG PUACHUE HMONG DIGIT ", "ZERO,TWO,FOUR,SIX,EIGHT"⟩,
   ⟨0x1E141, 2, "NYIAKENG PUACHUE HMONG DIGIT ", "ONE,THREE,FIVE,SEVEN,NINE"⟩,
   ⟨0x1E14E, 1, "NYIAKENG PUACHUE HMONG ", "LOGOGRAM NYAJ,CIRCLED CA"⟩,
   ⟨0x1E290, 1, "TOTO LETTER ", "PA,BA,TA,DA,KA,GA,MA,NA,NGA,SA,CHA,YA,WA,JA,HA,RA,LA,I,BREATHY I"⟩,
   ⟨0x1E2A3, 1, "TOTO LETTER ", "IU,BREATHY IU,U,E,BREATHY E,EO,BREATHY EO,O,AE,BREATHY AE,A"⟩,
   ⟨0x1E2AE, 1, "TOTO SIGN RISING TONE", ""⟩,
   ⟨0x1E2C0, 1, "WANCHO LETTER ", "AA,A,BA,CA,DA,GA,YA,PHA"⟩,
   ⟨0x1E2C8, 2, "WANCHO LETTER ", "LA,PA,THA,SA,JA,WA,KA,AU,MA,HA,I,U,TSA,ONG,ANG,ON,AAN,UEN"⟩,
   ⟨0x1E2C9, 2, "WANCHO LETTER ", "NA,TA,FA,SHA,ZA,VA,O,RA,KHA,E,NGA,LLHA,TRA,AANG,ING,EN,NYA,YIH"⟩,
   ⟨0x1E2EC, 1, "WANCHO TONE ", "TUP,TUPNI,KOI,KOINI"⟩,
   ⟨0x1E2F0, 1, "WANCHO DIGIT ", "ZERO,ONE,TWO,THREE,FOUR,FIVE,SIX,SEVEN,EIGHT,NINE"⟩,
   ⟨0x1E2FF, 1, "WANCHO NGUN SIGN", ""⟩,
   ⟨0x1E7E0, 1, "ETHIOPIC SYLLABLE ", "HHYA,HHYU,HHYI,HHYAA,HHYEE,HHYE,HHYO"⟩,
   ⟨0x1E7E8, 1, "ETHIOPIC SYLLABLE ", "GURAGE HHWA,HHWI,HHWEE,HHWE"⟩,
   ⟨0x1E7ED, 1, "ETHIOPIC SYLLABLE GURAGE ", "MWI,MWEE"⟩,
   ⟨0x1E7F0, 2, "ETHIOPIC SYLLABLE GURAGE ", "QWI,QWE,BWEE,KWEE,GWI,GWE,FWEE,PWEE"⟩,
   ⟨0x1E7F1, 2, "ETHIOPIC SYLLABLE GURAGE ", "QWEE,BWI,KWI,KWE,GWEE,FWI,PWI"⟩,
   ⟨0x1E800, 2, "MENDE KIKAKUI SYLLABLE ", "M001 KI,M003 KU,M095 KE,M048 KO,M004 WI,M006 WU"⟩,
   ⟨0x1E801, 2, "MENDE KIKAKUI SYLLABLE ", "M002 KA,M065 KEE,M076 KOO,M179 KUA,M005 WA"⟩,
   ⟨0x1E80B, 2, "MENDE KIKAKUI SYLLABLE ", "M126 WEE,M114 WOO,M194 WUI,M061 WVI,M139 WVE,M008 MAN"⟩,
   ⟨0x1E80C, 2, "MENDE KIKAKUI SYLLABLE ", "M118 WE,M045 WO,M143 WEI,M049 WVA,M007 MIN,M009 MUN"⟩,
   ⟨0x1E817, 2, "MENDE KIKAKUI SYLLABLE ", "M059 MEN,M154 MUAN,M010 BI,M012 BU,M097 BE,M138 BO"⟩,
   ⟨0x1E818, 2, "MENDE KIKAKUI SYLLABLE ", "M094 MON,M189 MUEN,M011 BA,M150 BEE,M103 BOO,M013 I"⟩,
   ⟨0x1E823, 2,
    "MENDE KIKAKUI SYLLABLE ", "M014 A,M163 EE,M165 OO,M137 EI,M135 IN,M178 EN,M020 SA"⟩,
   ⟨0x1E824, 2, "MENDE KIKAKUI SYLLABLE ", "M015 U,M100 E,M147 O,M131 IN,M195 AN,M019 SI,M021 SU"⟩,
   ⟨0x1E831, 2, "MENDE KIKAKUI SYLLABLE ", "M162 SEE,M136 SOO,M196 SIA,M026 LA,M084 LEE,M054 LOO"⟩,
   ⟨0x1E832, 2, "MENDE KIKAKUI SYLLABLE ", "M116 SE,M079 SO,M025 LI,M027 LU,M073 LE,M153 LO"⟩,
   ⟨0x1E83D, 2,
    "MENDE KIKAKUI SYLLABLE ", "M110 LONG LE,M017 DA,M089 DEE,M181 DO,M023 TA,M091 TEE"⟩,
   ⟨0x1E83E, 2, "MENDE KIKAKUI SYLLABLE ", "M016 DI,M018 DU,M180 DOO,M022 TI,M024 TU,M055 TE"⟩,
   ⟨0x1E849, 2, "MENDE KIKAKUI SYLLABLE ", "M104 TOO,M028 JI,M030 JU,M113 JE,M063 JO,M031 YI"⟩,
   ⟨0x1E84A, 2,
    "MENDE KIKAKUI SYLLABLE ", "M069 TO,M029 JA,M157 JEE,M160 JOO,M175 LONG JO,M032 YA"⟩,
   ⟨0x1E855, 1, "MENDE KIKAKUI SYLLABLE ", "M033 YU,M109 YEE,M080 YE,M141 YOO,M121 YO,M034 FI"⟩,
   ⟨0x1E85B, 2, "MENDE KIKAKUI SYLLABLE ", "M035 FA,M078 FEE,M133 FOO,M197 FUA,M037 NIN,M039 NUN"⟩,
   ⟨0x1E85C, 2, "MENDE KIKAKUI SYLLABLE ", "M036 FU,M075 FE,M088 FO,M101 FAN,M038 NAN,M117 NEN"⟩,
   ⟨0x1E867, 2, "MENDE KIKAKUI SYLLABLE ", "M169 NON,M041 HA,M040 HEE,M042 HOO,M083 HEEI,M053 HIN"⟩,
   ⟨0x1E868, 2, "MENDE KIKAKUI SYLLABLE ", "M176 HI,M186 HU,M096 HE,M140 HO,M128 HOOU,M130 HAN"⟩,
   ⟨0x1E873, 2, "MENDE KIKAKUI SYLLABLE ", "M087 HUN,M193 HON,M090 NGGI,M082 NGGU,M146 NGGE"⟩,
   ⟨0x1E874, 2, "MENDE KIKAKUI SYLLABLE ", "M052 HEN,M046 HUAN,M043 NGGA,M115 NGGEE,M156 NGGOO"⟩,
   ⟨0x1E87D, 2, "MENDE KIKAKUI SYLLABLE ", "M120 NGGO,M127 NGGUA,M106 LONG NGGOO,M155 GI,M168 GU"⟩,
   ⟨0x1E87E, 2, "MENDE KIKAKUI SYLLABLE ", "M159 NGGAA,M086 LONG NGGE,M183 LONG NGGO,M111 GA"⟩,
   ⟨0x1E886, 2, "MENDE KIKAKUI SYLLABLE ", "M190 GEE,M167 GUAN,M057 NGON,M068 PI,M050 PU"⟩,
   ⟨0x1E887, 2, "MENDE KIKAKUI SYLLABLE ", "M166 GUEI,M184 NGEN,M177 NGUAN,M099 PA,M081 PEE"⟩,
   ⟨0x1E890, 2, "MENDE KIKAKUI SYLLABLE ", "M051 PE,M066 PO,M062 MBA,M047 MBEE,M072 MBE,M174 MBO"⟩,
   ⟨0x1E891, 2, "MENDE KIKAKUI SYLLABLE ", "M102 POO,M145 MBI,M122 MBU,M188 MBEE,M172 MBOO"⟩,
   ⟨0x1E89B, 2, "MENDE KIKAKUI SYLLABLE ", "M187 MBUU,M105 LONG MBOO,M132 KPI,M074 KPU,M108 KPE"⟩,
   ⟨0x1E89C, 2, "MENDE KIKAKUI SYLLABLE ", "M161 LONG MBE,M142 LONG MBO,M092 KPA,M044 KPEE"⟩,
   ⟨0x1E8A4, 2,
    "MENDE KIKAKUI SYLLABLE ", "M112 KPOO,M124 GBI,M148 GBU,M107 GBE,M070 GBO,M123 NDI"⟩,
   ⟨0x1E8A5, 2,
    "MENDE KIKAKUI SYLLABLE ", "M158 KPO,M056 GBA,M093 GBEE,M071 GBOO,M171 RA,M129 NDA"⟩,
   ⟨0x1E8B0, 2, "MENDE KIKAKUI SYLLABLE ", "M125 NDU,M119 NDE,M064 NDO,M192 NJU,M134 NJOO,M185 VA"⟩,
   ⟨0x1E8B1, 2, "MENDE KIKAKUI SYLLABLE ", "M191 NDEE,M067 NDOO,M152 NJA,M149 NJEE,M182 VI"⟩,
   ⟨0x1E8BB, 2, "MENDE KIKAKUI SYLLABLE ", "M151 VU,M085 VE,M077 VO,M058 NYAN,M098 NYEN"⟩,
   ⟨0x1E8BC, 2, "MENDE KIKAKUI SYLLABLE ", "M173 VEE,M144 VOO,M164 NYIN,M170 NYUN,M060 NYON"⟩,
   ⟨0x1E8C7, 1, "MENDE KIKAKUI DIGIT ", "ONE,TWO,THREE,FOUR,FIVE,SIX,SEVEN,EIGHT,NINE"⟩,
   ⟨0x1E8D0, 2, "MENDE KIKAKUI COMBINING NUMBER ", "TEENS,HUNDREDS,TEN THOUSANDS,MILLIONS"⟩,
   ⟨0x1E8D1, 2, "MENDE KIKAKUI COMBINING NUMBER ", "TENS,THOUSANDS,HUNDRED THOUSANDS"⟩,
   ⟨0x1E900, 1, "ADLAM CAPITAL LETTER ", "ALIF,DAALI,LAAM,MIIM,BA,SINNYIIYHE"⟩,
   ⟨0x1E906, 2, "ADLAM CAPITAL LETTER ", "PE,RA,FA,O,YHE,NUN,YA,JIIM,HA,GA,TU,VA,GBE,KPO"⟩,
   ⟨0x1E907, 2, "ADLAM CAPITAL LETTER ", "BHE,E,I,DHA,WAW,KAF,U,CHI,QAAF,NYA,NHA,KHA,ZAL,SHA"⟩,
   ⟨0x1E922, 1, "ADLAM SMALL LETTER ", "ALIF,DAALI,LAAM,MIIM,BA,SINNYIIYHE"⟩,
   ⟨0x1E928, 2, "ADLAM SMALL LETTER ", "PE,RA,FA,O,YHE,NUN,YA,JIIM,HA,GA,TU,VA,GBE,KPO"⟩,
   ⟨0x1E929, 2, "ADLAM SMALL LETTER ", "BHE,E,I,DHA,WAW,KAF,U,CHI,QAAF,NYA,NHA,KHA,ZAL,SHA"⟩,
   ⟨0x1E944, 2, "ADLAM ", "ALIF LENGTHENER,GEMINATION MARK,CONSONANT MODIFIER,NUKTA"⟩,
   ⟨0x1E945, 2, "ADLAM ", "VOWEL LENGTHENER,HAMZA,GEMINATE CONSONANT MODIFIER,NASALIZATION MARK"⟩,
   ⟨0x1E950, 1, "ADLAM DIGIT ", "ZERO,ONE,TWO,THREE,FOUR,FIVE,SIX,SEVEN,EIGHT,NINE"⟩,
   ⟨0x1E95E, 1, "ADLAM INITIAL ", "EXCLAMATION MARK,QUESTION MARK"⟩,
   ⟨0x1EC71, 1, "INDIC SIYAQ NUMBER ", "ONE,TWO,THREE,FOUR,FIVE,SIX,SEVEN,EIGHT,NINE,TEN,TWENTY"⟩,
   ⟨0x1EC7C, 2, "INDIC SIYAQ NUMBER ", "THIRTY,FIFTY,SEVENTY,NINETY,TWO HUNDRED,FOUR HUNDRED"⟩,
   ⟨0x1EC7D, 2, "INDIC SIYAQ NUMBER ", "FORTY,SIXTY,EIGHTY,ONE HUNDRED,THREE HUNDRED,FIVE HUNDRED"⟩,
   ⟨0x1EC88, 2, "INDIC SIYAQ NUMBER ", "SIX HUNDRED,EIGHT HUNDRED,ONE THOUSAND,THREE THOUSAND"⟩,
   ⟨0x1EC89, 2, "INDIC SIYAQ NUMBER ", "SEVEN HUNDRED,NINE HUNDRED,TWO THOUSAND,FOUR THOUSAND"⟩,
   ⟨0x1EC90, 2,
    "INDIC SIYAQ NUMBER ", "FIVE THOUSAND,SEVEN THOUSAND,NINE THOUSAND,TWENTY THOUSAND"⟩,
   ⟨0x1EC91, 2, "INDIC SIYAQ NUMBER ", "SIX THOUSAND,EIGHT THOUSAND,TEN THOUSAND,THIRTY THOUSAND"⟩,
   ⟨0x1EC98, 2, "INDIC SIYAQ NUMBER ", "FORTY THOUSAND,SIXTY THOUSAND,EIGHTY THOUSAND,LAKH"⟩,
   ⟨0x1EC99, 2, "INDIC SIYAQ NUMBER ", "FIFTY THOUSAND,SEVENTY THOUSAND,NINETY THOUSAND,LAKHAN"⟩,
   ⟨0x1ECA0, 1, "INDIC SIYAQ ", "LAKH MARK,NUMBER KAROR,NUMBER KARORAN"⟩,
   ⟨0x1ECA3, 1, "INDIC SIYAQ NUMBER PREFIXED ", "ONE,TWO,THREE,FOUR,FIVE,SIX,SEVEN,EIGHT,NINE"⟩,
   ⟨0x1ECAC, 2, "INDIC SIYAQ ", "PLACEHOLDER,FRACTION ONE HALF,RUPEE MARK,NUMBER ALTERNATE TWO"⟩,
   ⟨0x1ECAD, 2,
    "INDIC SIYAQ ", "FRACTION ONE QUARTER,FRACTION THREE QUARTERS,NUMBER ALTERNATE ONE"⟩,
   ⟨0x1ECB3, 1, "INDIC SIYAQ ", "NUMBER ALTERNATE TEN THOUSAND,ALTERNATE LAKH MARK"⟩,
   ⟨0x1ED01, 2, "OTTOMAN SIYAQ NUMBER ", "ONE,THREE,FIVE,SEVEN,NINE,TWENTY,FORTY,SIXTY,EIGHTY"⟩,
   ⟨0x1ED02, 2, "OTTOMAN SIYAQ NUMBER ", "TWO,FOUR,SIX,EIGHT,TEN,THIRTY,FIFTY,SEVENTY,NINETY"⟩,
   ⟨0x1ED13, 2, "OTTOMAN SIYAQ NUMBER ", "ONE HUNDRED,THREE HUNDRED,FIVE HUNDRED,SEVEN HUNDRED"⟩,
   ⟨0x1ED14, 2, "OTTOMAN SIYAQ NUMBER ", "TWO HUNDRED,FOUR HUNDRED,SIX HUNDRED,EIGHT HUNDRED"⟩,
   ⟨0x1ED1B, 2, "OTTOMAN SIYAQ NUMBER ", "NINE HUNDRED,TWO THOUSAND,FOUR THOUSAND,SIX THOUSAND"⟩,
   ⟨0x1ED1C, 2,
    "OTTOMAN SIYAQ NUMBER ", "ONE THOUSAND,THREE THOUSAND,FIVE THOUSAND,SEVEN THOUSAND"⟩,
   ⟨0x1ED23, 2, "OTTOMAN SIYAQ NUMBER ", "EIGHT THOUSAND,TEN THOUSAND,THIRTY THOUSAND"⟩,
   ⟨0x1ED24, 2, "OTTOMAN SIYAQ NUMBER ", "NINE THOUSAND,TWENTY THOUSAND,FORTY THOUSAND"⟩,
   ⟨0x1ED29, 2, "OTTOMAN SIYAQ NUMBER ", "FIFTY THOUSAND,SEVENTY THOUSAND,NINETY THOUSAND"⟩,
   ⟨0x1ED2A, 2, "OTTOMAN SIYAQ ", "NUMBER SIXTY THOUSAND,NUMBER EIGHTY THOUSAND,MARRATAN"⟩,
   ⟨0x1ED2F, 1, "OTTOMAN SIYAQ ALTERNATE NUMBER ", "TWO,THREE"⟩,
   ⟨0x1ED31, 2, "OTTOMAN SIYAQ ALTERNATE NUMBER ", "FOUR,SIX,EIGHT,TEN,SIX HUNDRED,TEN THOUSAND"⟩,
   ⟨0x1ED32, 2, "OTTOMAN SIYAQ ALTERNATE NUMBER ", "FIVE,SEVEN,NINE,FOUR HUNDRED,TWO THOUSAND"⟩,
   ⟨0x1ED3C, 1, "OTTOMAN SIYAQ FRACTION ONE ", "HALF,SIXTH"⟩,
   ⟨0x1EE00, 1, "ARABIC MATHEMATICAL ", "ALEF,BEH,JEEM,DAL"⟩,
   ⟨0x1EE05, 2, "ARABIC MATHEMATICAL ", "WAW,HAH,YEH,LAM,NOON,AIN,SAD,REH,TEH,KHAH,DAD,GHAIN"⟩,
   ⟨0x1EE06, 2, "ARABIC MATHEMATICAL ", "ZAIN,TAH,KAF,MEEM,SEEN,FEH,QAF,SHEEN,THEH,THAL,ZAH"⟩,
   ⟨0x1EE1C, 1, "ARABIC MATHEMATICAL DOTLESS ", "BEH,NOON,FEH,QAF"⟩,
   ⟨0x1EE21, 1, "ARABIC MATHEMATICAL INITIAL ", "BEH,JEEM"⟩,
   ⟨0x1EE24, 1, "ARABIC MATHEMATICAL INITIAL HEH", ""⟩,
   ⟨0x1EE27, 1, "ARABIC MATHEMATICAL INITIAL HAH", ""⟩,
   ⟨0x1EE29, 1, "ARABIC MATHEMATICAL INITIAL ", "YEH,KAF,LAM,MEEM,NOON,SEEN,AIN,FEH,SAD,QAF"⟩,
   ⟨0x1EE34, 1, "ARABIC MATHEMATICAL INITIAL ", "SHEEN,TEH,THEH,KHAH"⟩,
   ⟨0x1EE39, 1, "ARABIC MATHEMATICAL INITIAL DAD", ""⟩,
   ⟨0x1EE3B, 1, "ARABIC MATHEMATICAL INITIAL GHAIN", ""⟩,
   ⟨0x1EE42, 1, "ARABIC MATHEMATICAL TAILED JEEM", ""⟩,
   ⟨0x1EE47, 1, "ARABIC MATHEMATICAL TAILED HAH", ""⟩,
   ⟨0x1EE49, 1, "ARABIC MATHEMATICAL TAILED YEH", ""⟩,
   ⟨0x1EE4B, 1, "ARABIC MATHEMATICAL TAILED LAM", ""⟩,
   ⟨0x1EE4D, 1, "ARABIC MATHEMATICAL TAILED ", "NOON,SEEN,AIN"⟩,
   ⟨0x1EE51, 1, "ARABIC MATHEMATICAL TAILED ", "SAD,QAF"⟩,
   ⟨0x1EE54, 1, "ARABIC MATHEMATICAL TAILED SHEEN", ""⟩,
   ⟨0x1EE57, 1, "ARABIC MATHEMATICAL TAILED KHAH", ""⟩,
   ⟨0x1EE59, 1, "ARABIC MATHEMATICAL TAILED DAD", ""⟩,
   ⟨0x1EE5B, 1, "ARABIC MATHEMATICAL TAILED GHAIN", ""⟩,
   ⟨0x1EE5D, 1, "ARABIC MATHEMATICAL TAILED DOTLESS NOON", ""⟩,
   ⟨0x1EE5F, 1, "ARABIC MATHEMATICAL TAILED DOTLESS QAF", ""⟩,
   ⟨0x1EE61, 1, "ARABIC MATHEMATICAL STRETCHED ", "BEH,JEEM"⟩,
   ⟨0x1EE64, 1, "ARABIC MATHEMATICAL STRETCHED HEH", ""⟩,
   ⟨0x1EE67, 1, "ARABIC MATHEMATICAL STRETCHED ", "HAH,TAH,YEH,KAF"⟩,
   ⟨0x1EE6C, 1, "ARABIC MATHEMATICAL STRETCHED ", "MEEM,NOON,SEEN,AIN,FEH,SAD,QAF"⟩,
   ⟨0x1EE74, 1, "ARABIC MATHEMATICAL STRETCHED ", "SHEEN,TEH,THEH,KHAH"⟩,
   ⟨0x1EE79, 1, "ARABIC MATHEMATICAL STRETCHED ", "DAD,ZAH,GHAIN,DOTLESS BEH"⟩,
   ⟨0x1EE7E, 1, "ARABIC MATHEMATICAL STRETCHED DOTLESS FEH", ""⟩,
   ⟨0x1EE80, 1, "ARABIC MATHEMATICAL LOOPED ", "ALEF,BEH,JEEM,DAL,HEH,WAW,ZAIN,HAH,TAH,YEH"⟩,
   ⟨0x1EE8B, 2, "ARABIC MATHEMATICAL LOOPED ", "LAM,NOON,AIN,SAD,REH,TEH,KHAH,DAD,GHAIN"⟩,
   ⟨0x1EE8C, 2, "ARABIC MATHEMATICAL LOOPED ", "MEEM,SEEN,FEH,QAF,SHEEN,THEH,THAL,ZAH"⟩,
   ⟨0x1EEA1, 1, "ARABIC MATHEMATICAL DOUBLE-STRUCK ", "BEH,JEEM,DAL"⟩,
   ⟨0x1EEA5, 1, "ARABIC MATHEMATICAL DOUBLE-STRUCK ", "WAW,ZAIN,HAH,TAH,YEH"⟩,
   ⟨0x1EEAB, 2, "ARABIC MATHEMATICAL DOUBLE-STRUCK ", "LAM,NOON,AIN,SAD,REH,TEH,KHAH,DAD,GHAIN"⟩,
   ⟨0x1EEAC, 2, "ARABIC MATHEMATICAL DOUBLE-STRUCK ", "MEEM,SEEN,FEH,QAF,SHEEN,THEH,THAL,ZAH"⟩,
   ⟨0x1EEF0, 1, "ARABIC MATHEMATICAL OPERATOR ", "MEEM WITH HAH WITH TATWEEL,HAH WITH DAL"⟩]

end RegexSubst.Unicode
