import RegexSubst.Unicode.Name.Run

/-!
# `RegexSubst.Unicode.Name.Ancient`: names of U+10000 to U+10FFF

Scripts beyond the basic plane, from Linear B to Elymaic.
-/

set_option autoImplicit false

namespace RegexSubst.Unicode

/-- The names of U+10000 to U+10FFF. -/
def ancientNames : List NameRun :=
  [⟨0x10000, 2, "LINEAR B SYLLABLE ", "B008 A,B028 I,B010 U,B045 DE,B014 DO,B057 JA"⟩,
   ⟨0x10001, 2, "LINEAR B SYLLABLE ", "B038 E,B061 O,B001 DA,B007 DI,B051 DU,B046 JE"⟩,
   ⟨0x1000D, 2, "LINEAR B SYLLABLE ", "B036 JO,B077 KA,B067 KI,B081 KU,B013 ME,B015 MO"⟩,
   ⟨0x1000E, 2, "LINEAR B SYLLABLE ", "B065 JU,B044 KE,B070 KO,B080 MA,B073 MI,B023 MU"⟩,
   ⟨0x10019, 2, "LINEAR B SYLLABLE ", "B006 NA,B030 NI,B055 NU,B072 PE,B011 PO,B016 QA,B021 QI"⟩,
   ⟨0x1001A, 2, "LINEAR B SYLLABLE ", "B024 NE,B052 NO,B003 PA,B039 PI,B050 PU,B078 QE,B032 QO"⟩,
   ⟨0x10028, 1, "LINEAR B SYLLABLE ", "B060 RA,B027 RE,B053 RI,B002 RO,B026 RU"⟩,
   ⟨0x1002D, 2, "LINEAR B SYLLABLE ", "B031 SA,B041 SI,B058 SU,B004 TE,B005 TO,B054 WA,B040 WI"⟩,
   ⟨0x1002E, 2, "LINEAR B SYLLABLE ", "B009 SE,B012 SO,B059 TA,B037 TI,B069 TU,B075 WE,B042 WO"⟩,
   ⟨0x1003C, 1, "LINEAR B SYLLABLE ", "B017 ZA,B074 ZE"⟩,
   ⟨0x1003F, 1, "LINEAR B SYLLABLE ", "B020 ZO,B025 A2,B043 A3"⟩,
   ⟨0x10042, 2, "LINEAR B SYLLABLE ", "B085 AU,B090 DWO,B029 PU2,B076 RA2,B068 RO2,B087 TWE"⟩,
   ⟨0x10043, 2, "LINEAR B SYLLABLE ", "B071 DWE,B048 NWA,B062 PTE,B033 RA3,B066 TA2,B091 TWO"⟩,
   ⟨0x10050, 2, "LINEAR B SYMBOL ", "B018,B022,B047,B056,B064,B082,B086"⟩,
   ⟨0x10051, 2, "LINEAR B SYMBOL ", "B019,B034,B049,B063,B079,B083,B089"⟩,
   ⟨0x10080, 2, "LINEAR B IDEOGRAM ", "B100 MAN,B104 DEER,B105F MARE,B106F EWE,B107F SHE-GOAT"⟩,
   ⟨0x10081, 2, "LINEAR B IDEOGRAM ", "B102 WOMAN,B105 EQUID,B105M STALLION,B106M RAM"⟩,
   ⟨0x10089, 2, "LINEAR B IDEOGRAM ", "B107M HE-GOAT,B108M BOAR,B109M BULL,B121 BARLEY,B123 SPICE"⟩,
   ⟨0x1008A, 2, "LINEAR B IDEOGRAM ", "B108F SOW,B109F COW,B120 WHEAT,B122 OLIVE,B125 CYPERUS"⟩,
   ⟨0x10093, 1, "LINEAR B MONOGRAM ", "B127 KAPO,B128 KANAKO"⟩,
   ⟨0x10095, 1, "LINEAR B IDEOGRAM ", "B130 OIL,B131 WINE,B132"⟩,
   ⟨0x10098, 1, "LINEAR B ", "MONOGRAM B133 AREPA,MONOGRAM B135 MERI,IDEOGRAM B140 BRONZE"⟩,
   ⟨0x1009B, 1,
    "LINEAR B IDEOGRAM ", "B141 GOLD,B142,B145 WOOL,B146,B150,B151 HORN,B152,B153,B154"⟩,
   ⟨0x100A4, 1, "LINEAR B ", "MONOGRAM B156 TURO2,IDEOGRAM B157"⟩,
   ⟨0x100A6, 2, "LINEAR B IDEOGRAM ", "B158,B160,B162 GARMENT,B164,B166,B168,B170,B172,B174"⟩,
   ⟨0x100A7, 2, "LINEAR B IDEOGRAM ", "B159 CLOTH,B161,B163 ARMOUR,B165,B167,B169,B171,B173 MONTH"⟩,
   ⟨0x100B7, 2,
    "LINEAR B IDEOGRAM ", "B176 TREE,B178,B180,B182,B184,B189,B191 HELMET,B225 BATHTUB"⟩,
   ⟨0x100B8, 2, "LINEAR B IDEOGRAM ", "B177,B179,B181,B183,B185,B190,B220 FOOTSTOOL,B230 SPEAR"⟩,
   ⟨0x100C7, 2, "LINEAR B IDEOGRAM ", "B231 ARROW,B233 SWORD,B236,B241 CHARIOT,B243 WHEEL,B246"⟩,
   ⟨0x100C8, 2, "LINEAR B IDEOGRAM ", "B232,B234,B240 WHEELED CHARIOT,B242 CHARIOT FRAME,B245"⟩,
   ⟨0x100D2, 1, "LINEAR B MONOGRAM B247 DIPTE", ""⟩,
   ⟨0x100D3, 1,
    "LINEAR B IDEOGRAM ", "B248,B249,B251,B252,B253,B254 DART,B255,B256,B257,B258,B259"⟩,
   ⟨0x100DE, 1, "LINEAR B IDEOGRAM VESSEL ", "B155,B200,B201,B202,B203,B204,B205,B206,B207"⟩,
   ⟨0x100E7, 2, "LINEAR B IDEOGRAM VESSEL ", "B208,B210,B212,B214,B216,B218,B221,B226,B228,B250"⟩,
   ⟨0x100E8, 2, "LINEAR B IDEOGRAM VESSEL ", "B209,B211,B213,B215,B217,B219,B222,B227,B229,B305"⟩,
   ⟨0x10100, 1, "AEGEAN ", "WORD SEPARATOR LINE,WORD SEPARATOR DOT,CHECK MARK"⟩,
   ⟨0x10107, 1, "AEGEAN NUMBER ", "ONE,TWO,THREE,FOUR,FIVE"⟩,
   ⟨0x1010C, 2, "AEGEAN NUMBER ", "SIX,EIGHT,TEN,THIRTY,FIFTY,SEVENTY,NINETY,TWO HUNDRED"⟩,
   ⟨0x1010D, 2, "AEGEAN NUMBER ", "SEVEN,NINE,TWENTY,FORTY,SIXTY,EIGHTY,ONE HUNDRED,THREE HUNDRED"⟩,
   ⟨0x1011C, 2, "AEGEAN NUMBER ", "FOUR HUNDRED,SIX HUNDRED,EIGHT HUNDRED,ONE THOUSAND"⟩,
   ⟨0x1011D, 2, "AEGEAN NUMBER ", "FIVE HUNDRED,SEVEN HUNDRED,NINE HUNDRED,TWO THOUSAND"⟩,
   ⟨0x10124, 2, "AEGEAN NUMBER ", "THREE THOUSAND,FIVE THOUSAND,SEVEN THOUSAND,NINE THOUSAND"⟩,
   ⟨0x10125, 2, "AEGEAN NUMBER ", "FOUR THOUSAND,SIX THOUSAND,EIGHT THOUSAND,TEN THOUSAND"⟩,
   ⟨0x1012C, 2, "AEGEAN NUMBER ", "TWENTY THOUSAND,FORTY THOUSAND,SIXTY THOUSAND,EIGHTY THOUSAND"⟩,
   ⟨0x1012D, 2,
    "AEGEAN NUMBER ", "THIRTY THOUSAND,FIFTY THOUSAND,SEVENTY THOUSAND,NINETY THOUSAND"⟩,
   ⟨0x10137, 1, "AEGEAN WEIGHT ", "BASE UNIT,FIRST SUBUNIT,SECOND SUBUNIT,THIRD SUBUNIT"⟩,
   ⟨0x1013B, 2, "AEGEAN ", "WEIGHT FOURTH SUBUNIT,LIQUID MEASURE FIRST SUBUNIT"⟩,
   ⟨0x1013C, 2, "AEGEAN ", "DRY MEASURE FIRST SUBUNIT,MEASURE SECOND SUBUNIT"⟩,
   ⟨0x1013F, 1, "", "AEGEAN MEASURE THIRD SUBUNIT,GREEK ACROPHONIC ATTIC ONE QUARTER"⟩,
   ⟨0x10141, 2, "GREEK ACROPHONIC ATTIC ", "ONE HALF,FIVE,FIVE HUNDRED,FIFTY THOUSAND,TEN TALENTS"⟩,
   ⟨0x10142, 2, "GREEK ACROPHONIC ATTIC ", "ONE DRACHMA,FIFTY,FIVE THOUSAND,FIVE TALENTS"⟩,
   ⟨0x1014A, 1,
    "GREEK ACROPHONIC ATTIC ", "FIFTY TALENTS,ONE HUNDRED TALENTS,FIVE HUNDRED TALENTS"⟩,
   ⟨0x1014D, 2, "GREEK ACROPHONIC ATTIC ", "ONE THOUSAND TALENTS,FIVE STATERS,FIFTY STATERS"⟩,
   ⟨0x1014E, 2, "GREEK ACROPHONIC ATTIC ", "FIVE THOUSAND TALENTS,TEN STATERS,ONE HUNDRED STATERS"⟩,
   ⟨0x10153, 2, "GREEK ACROPHONIC ATTIC ", "FIVE HUNDRED STATERS,TEN THOUSAND STATERS,TEN MNAS"⟩,
   ⟨0x10154, 2, "GREEK ACROPHONIC ATTIC ", "ONE THOUSAND STATERS,FIFTY THOUSAND STATERS"⟩,
   ⟨0x10158, 2, "GREEK ACROPHONIC ", "HERAEUM ONE PLETHRON,HERMIONIAN ONE,THESPIAN TWO"⟩,
   ⟨0x10159, 2, "GREEK ACROPHONIC ", "THESPIAN ONE,EPIDAUREAN TWO,CYRENAIC TWO DRACHMAS"⟩,
   ⟨0x1015E, 2, "GREEK ACROPHONIC ", "EPIDAUREAN TWO DRACHMAS,TROEZENIAN TEN,HERMIONIAN TEN"⟩,
   ⟨0x1015F, 2, "GREEK ACROPHONIC TROEZENIAN ", "FIVE,TEN ALTERNATE FORM"⟩,
   ⟨0x10163, 1, "GREEK ACROPHONIC ", "MESSENIAN TEN,THESPIAN TEN,THESPIAN THIRTY,TROEZENIAN FIFTY"⟩,
   ⟨0x10167, 1, "GREEK ACROPHONIC ", "TROEZENIAN FIFTY ALTERNATE FORM,HERMIONIAN FIFTY"⟩,
   ⟨0x10169, 1, "GREEK ACROPHONIC THESPIAN ", "FIFTY,ONE HUNDRED,THREE HUNDRED"⟩,
   ⟨0x1016C, 1, "GREEK ACROPHONIC ", "EPIDAUREAN FIVE HUNDRED,TROEZENIAN FIVE HUNDRED"⟩,
   ⟨0x1016E, 2, "GREEK ACROPHONIC ", "THESPIAN FIVE HUNDRED,NAXIAN FIVE HUNDRED"⟩,
   ⟨0x1016F, 2, "GREEK ACROPHONIC ", "CARYSTIAN FIVE HUNDRED,THESPIAN ONE THOUSAND"⟩,
   ⟨0x10172, 1,
    "GREEK ACROPHONIC ", "THESPIAN FIVE THOUSAND,DELPHIC FIVE MNAS,STRATIAN FIFTY MNAS"⟩,
   ⟨0x10175, 2, "GREEK ", "ONE HALF SIGN,TWO THIRDS SIGN,YEAR SIGN,DRACHMA SIGN,TWO OBOLS SIGN"⟩,
   ⟨0x10176, 2, "GREEK ", "ONE HALF SIGN ALTERNATE FORM,THREE QUARTERS SIGN,TALENT SIGN,OBOL SIGN"⟩,
   ⟨0x1017E, 1, "GREEK ", "THREE OBOLS SIGN,FOUR OBOLS SIGN,FIVE OBOLS SIGN,METRETES SIGN"⟩,
   ⟨0x10182, 2, "GREEK ", "KYATHOS BASE SIGN,OUNKIA SIGN,ARTABE SIGN,GRAMMA SIGN,ZERO SIGN"⟩,
   ⟨0x10183, 2, "GREEK ", "LITRA SIGN,XESTES SIGN,AROURA SIGN,TRYBLION BASE SIGN,ONE QUARTER SIGN"⟩,
   ⟨0x1018C, 1, "", "GREEK SINUSOID SIGN,GREEK INDICTION SIGN,NOMISMA SIGN"⟩,
   ⟨0x10190, 1,
    "ROMAN ", "SEXTANS SIGN,UNCIA SIGN,SEMUNCIA SIGN,SEXTULA SIGN,DIMIDIA SEXTULA SIGN"⟩,
   ⟨0x10195, 1, "ROMAN ", "SILIQUA SIGN,DENARIUS SIGN,QUINARIUS SIGN,SESTERTIUS SIGN"⟩,
   ⟨0x10199, 1, "", "ROMAN DUPONDIUS SIGN,ROMAN AS SIGN,ROMAN CENTURIAL SIGN,ASCIA SYMBOL"⟩,
   ⟨0x101A0, 1, "GREEK SYMBOL TAU RHO", ""⟩,
   ⟨0x101D0, 1, "PHAISTOS DISC SIGN ", "PEDESTRIAN,PLUMED HEAD,TATTOOED HEAD"⟩,
   ⟨0x101D3, 2,
    "PHAISTOS DISC SIGN ", "CAPTIVE,WOMAN,GAUNTLET,ARROW,SHIELD,MANACLES,SAW,BOOMERANG"⟩,
   ⟨0x101D4, 2, "PHAISTOS DISC SIGN ", "CHILD,HELMET,TIARA,BOW,CLUB,MATTOCK,LID,CARPENTRY PLANE"⟩,
   ⟨0x101E3, 2, "PHAISTOS DISC SIGN ", "DOLIUM,SLING,BEEHIVE,HORN,BULLS LEG,RAM,DOVE,BEE,VINE"⟩,
   ⟨0x101E4, 2, "PHAISTOS DISC SIGN ", "COMB,COLUMN,SHIP,HIDE,CAT,EAGLE,TUNNY,PLANE TREE"⟩,
   ⟨0x101F4, 2, "PHAISTOS DISC SIGN ", "PAPYRUS,LILY,FLUTE,STRAINER,WAVY BAND"⟩,
   ⟨0x101F5, 2, "PHAISTOS DISC SIGN ", "ROSETTE,OX BACK,GRATER,SMALL AXE,COMBINING OBLIQUE STROKE"⟩,
   ⟨0x10280, 2, "LYCIAN LETTER ", "A,B,G,I,Z,J,Q,M,MM,U,KK,S,TT,EN,X"⟩,
   ⟨0x10281, 2, "LYCIAN LETTER ", "E,BH,D,W,TH,K,L,N,NN,P,R,T,AN,H"⟩,
   ⟨0x102A0, 1, "CARIAN LETTER ", "A,P2,D,L,UUU,R,LD,A2"⟩,
   ⟨0x102A8, 2,
    "CARIAN LETTER ", "Q,M,D2,SH,S,U,X,TT2,SS,E,K,ND,G,ST,NG,C-39,UUU2,MB,MB3,LD2,UUU3"⟩,
   ⟨0x102A9, 2, "CARIAN LETTER ", "B,O,T,SH2,C-18,NN,N,P,I,UUUU,K2,UU,G2,ST2,II,TT,RR,MB2,MB4,E2"⟩,
   ⟨0x102E0, 1, "COPTIC EPACT THOUSANDS MARK", ""⟩,
   ⟨0x102E1, 1, "COPTIC EPACT DIGIT ", "ONE,TWO,THREE,FOUR,FIVE,SIX,SEVEN,EIGHT,NINE"⟩,
   ⟨0x102EA, 2, "COPTIC EPACT NUMBER ", "TEN,THIRTY,FIFTY,SEVENTY,NINETY"⟩,
   ⟨0x102EB, 2, "COPTIC EPACT NUMBER ", "TWENTY,FORTY,SIXTY,EIGHTY,ONE HUNDRED"⟩,
   ⟨0x102F4, 2, "COPTIC EPACT NUMBER ", "TWO HUNDRED,FOUR HUNDRED,SIX HUNDRED,EIGHT HUNDRED"⟩,
   ⟨0x102F5, 2, "COPTIC EPACT NUMBER ", "THREE HUNDRED,FIVE HUNDRED,SEVEN HUNDRED,NINE HUNDRED"⟩,
   ⟨0x10300, 2, "OLD ITALIC LETTER ", "A,KE,E,ZE,THE,KA,EM,ESH,PE,KU,ES,U,PHE,EF,CHE,UU"⟩,
   ⟨0x10301, 2, "OLD ITALIC LETTER ", "BE,DE,VE,HE,I,EL,EN,O,SHE,ER,TE,EKS,KHE,ERS,II,ESS"⟩,
   ⟨0x10320, 1, "OLD ITALIC NUMERAL ", "ONE,FIVE,TEN,FIFTY"⟩,
   ⟨0x1032D, 1, "OLD ITALIC LETTER ", "YE,NORTHERN TSE,SOUTHERN TSE"⟩,
   ⟨0x10330, 1, "GOTHIC LETTER ", "AHSA,BAIRKAN,GIBA,DAGS,AIHVUS,QAIRTHRA,IUJA,HAGL,THIUTH"⟩,
   ⟨0x10339, 2, "GOTHIC LETTER ", "EIS,LAGUS,NAUTHS,URUS,NINETY,SAUIL,WINJA,IGGWS,OTHAL"⟩,
   ⟨0x1033A, 2, "GOTHIC LETTER ", "KUSMA,MANNA,JER,PAIRTHRA,RAIDA,TEIWS,FAIHU,HWAIR,NINE HUNDRED"⟩,
   ⟨0x10350, 1, "OLD PERMIC LETTER ", "AN,BUR,GAI,DOI,E,ZHOI,DZHOI,ZATA,DZITA,I,KOKE"⟩,
   ⟨0x1035B, 2, "OLD PERMIC LETTER ", "LEI,NENOE,PEEI,SII,U,SHOOI,YRY,O,EF,TSIU,YER,YAT,YU,IA"⟩,
   ⟨0x1035C, 2, "OLD PERMIC LETTER ", "MENOE,VOOI,REI,TAI,CHERY,SHCHOOI,YERU,OO,HA,VER,YERI,IE,YA"⟩,
   ⟨0x10376, 1, "COMBINING OLD PERMIC LETTER ", "AN,DOI,ZATA,NENOE,SII"⟩,
   ⟨0x10380, 1, "UGARITIC LETTER ", "ALPA,BETA,GAMLA"⟩,
   ⟨0x10383, 2, "UGARITIC LETTER ", "KHA,HO,ZETA,TET,KAF,LAMDA,DHAL,ZU,AIN,SADE,RASHA,GHAIN,I,SSU"⟩,
   ⟨0x10384, 2, "UGARITIC LETTER ", "DELTA,WO,HOTA,YOD,SHIN,MEM,NUN,SAMKA,PU,QOPA,THANNA,TO,U"⟩,
   ⟨0x1039F, 1, "UGARITIC WORD DIVIDER", ""⟩,
   ⟨0x103A0, 2, "OLD PERSIAN SIGN ", "A,U,KU,GU,CA,JI,TU,DI,THA,BA,NA,MA,MU,VA,RA,LA,ZA,SSA"⟩,
   ⟨0x103A1, 2, "OLD PERSIAN SIGN ", "I,KA,GA,XA,JA,TA,DA,DU,PA,FA,NU,MI,YA,VI,RU,SA,SHA,HA"⟩,
   ⟨0x103C8, 1, "OLD PERSIAN SIGN ", "AURAMAZDAA,AURAMAZDAA-2,AURAMAZDAAHA,XSHAAYATHIYA,DAHYAAUSH"⟩,
   ⟨0x103CD, 1, "OLD PERSIAN ", "SIGN DAHYAAUSH-2,SIGN BAGA,SIGN BUUMISH,WORD DIVIDER"⟩,
   ⟨0x103D1, 1, "OLD PERSIAN NUMBER ", "ONE,TWO,TEN,TWENTY,HUNDRED"⟩,
   ⟨0x10400, 1, "DESERET CAPITAL LETTER LONG ", "I,E,A,AH,O,OO"⟩,
   ⟨0x10406, 1, "DESERET CAPITAL LETTER SHORT ", "I,E,A,AH,O,OO"⟩,
   ⟨0x1040C, 2, "DESERET CAPITAL LETTER ", "AY,WU,H,BEE,DEE,JEE,GAY,VEE,THEE,ZEE,ZHEE,EL,EN,OI"⟩,
   ⟨0x1040D, 2, "DESERET CAPITAL LETTER ", "OW,YEE,PEE,TEE,CHEE,KAY,EF,ETH,ES,ESH,ER,EM,ENG,EW"⟩,
   ⟨0x10428, 1, "DESERET SMALL LETTER LONG ", "I,E,A,AH,O,OO"⟩,
   ⟨0x1042E, 1, "DESERET SMALL LETTER SHORT ", "I,E,A,AH,O,OO"⟩,
   ⟨0x10434, 2, "DESERET SMALL LETTER ", "AY,WU,H,BEE,DEE,JEE,GAY,VEE,THEE,ZEE,ZHEE,EL,EN,OI"⟩,
   ⟨0x10435, 2, "DESERET SMALL LETTER ", "OW,YEE,PEE,TEE,CHEE,KAY,EF,ETH,ES,ESH,ER,EM,ENG,EW"⟩,
   ⟨0x10450, 2, "SHAVIAN LETTER ", "PEEP,KICK,THIGH,SURE,YEA,BIB,GAG,THEY,MEASURE"⟩,
   ⟨0x10451, 2, "SHAVIAN LETTER ", "TOT,FEE,SO,CHURCH,HUNG,DEAD,VOW,ZOO,JUDGE"⟩,
   ⟨0x10462, 2, "SHAVIAN LETTER ", "WOE,LOLL,IF,ASH,ON,OUT,ROAR,EAT,ICE,OAK,OIL,ARE,AIR,ARRAY,IAN"⟩,
   ⟨0x10463, 2, "SHAVIAN LETTER ", "HA-HA,MIME,EGG,ADO,WOOL,AH,NUN,AGE,UP,OOZE,AWE,OR,ERR,EAR,YEW"⟩,
   ⟨0x10480, 2, "OSMANYA LETTER ", "ALEF,TA,XA,DEEL,SA,DHA,GA,QAAF,LAAN,NUUN,HA,A,I,U,EE"⟩,
   ⟨0x10481, 2, "OSMANYA LETTER ", "BA,JA,KHA,RA,SHIIN,CAYN,FA,KAAF,MIIN,WAW,YA,E,O,AA,OO"⟩,
   ⟨0x104A0, 1, "OSMANYA DIGIT ", "ZERO,ONE,TWO,THREE,FOUR,FIVE,SIX,SEVEN,EIGHT,NINE"⟩,
   ⟨0x104B0, 1, "OSAGE CAPITAL LETTER ", "A,AI,AIN,AH,BRA,CHA"⟩,
   ⟨0x104B6, 2, "OSAGE CAPITAL LETTER ", "EHCHA,EIN,HYA,KA,KYA,MA,O,PA,SA,TA,TSA,TSHA,U,KHA,ZA"⟩,
   ⟨0x104B7, 2,
    "OSAGE CAPITAL LETTER ", "E,HA,I,EHKA,LA,NA,OIN,EHPA,SHA,EHTA,EHTSA,DHA,WA,GHA,ZHA"⟩,
   ⟨0x104D8, 1, "OSAGE SMALL LETTER ", "A,AI,AIN,AH,BRA,CHA"⟩,
   ⟨0x104DE, 2, "OSAGE SMALL LETTER ", "EHCHA,EIN,HYA,KA,KYA,MA,O,PA,SA,TA,TSA,TSHA,U,KHA,ZA"⟩,
   ⟨0x104DF, 2, "OSAGE SMALL LETTER ", "E,HA,I,EHKA,LA,NA,OIN,EHPA,SHA,EHTA,EHTSA,DHA,WA,GHA,ZHA"⟩,
   ⟨0x10500, 1, "ELBASAN LETTER ", "A,BE"⟩,
   ⟨0x10502, 2,
    "ELBASAN LETTER ", "CE,DE,DHE,E,GE,HE,JE,LE,ME,NA,O,QE,RRE,SHE,THE,VE,Y,ZHE,GHAMMA"⟩,
   ⟨0x10503, 2, "ELBASAN LETTER ", "CHE,NDE,EI,FE,GJE,I,KE,LLE,NE,NJE,PE,RE,SE,TE,U,XE,ZE,GHE,KHE"⟩,
   ⟨0x10530, 1, "CAUCASIAN ALBANIAN LETTER ", "ALT,BET,GIM,DAT,EB,ZARL,EYN,ZHIL,TAS,CHA"⟩,
   ⟨0x1053A, 2, "CAUCASIAN ALBANIAN LETTER ", "YOWD,IRB,LAN,XEYN,CAR,KAR,HEYT,AOR,CHI,MAQ,NOWC"⟩,
   ⟨0x1053B, 2,
    "CAUCASIAN ALBANIAN LETTER ", "ZHA,SHA,INYA,DYAN,JHOX,LYIT,QAY,CHOY,CYAY,QAR,DZYAY"⟩,
   ⟨0x10550, 2, "CAUCASIAN ALBANIAN LETTER ", "SHAK,ON,FAM,CHAT,GHEYS,SEYK,TIWR,IWN,CAYN,PIWR"⟩,
   ⟨0x10551, 2, "CAUCASIAN ALBANIAN LETTER ", "JAYN,TYAY,DZAY,PEN,RAT,VEYZ,SHOY,CYAW,YAYD,KIW"⟩,
   ⟨0x1056F, 1, "CAUCASIAN ALBANIAN CITATION MARK", ""⟩,
   ⟨0x10570, 1, "VITHKUQI CAPITAL LETTER ", "A,BBE,BE,CE,CHE,DE,DHE,EI,E,FE,GA"⟩,
   ⟨0x1057C, 1, "VITHKUQI CAPITAL LETTER ", "HA,HHA,I,IJE,JE,KA,LA,LLA,ME,NE,NJE,O,PE,QA,RE"⟩,
   ⟨0x1058C, 1, "VITHKUQI CAPITAL LETTER ", "SE,SHE,TE,THE,U,VE,XE"⟩,
   ⟨0x10594, 1, "VITHKUQI CAPITAL LETTER ", "Y,ZE"⟩,
   ⟨0x10597, 1, "VITHKUQI SMALL LETTER ", "A,BBE,BE,CE,CHE,DE,DHE,EI,E,FE,GA"⟩,
   ⟨0x105A3, 1, "VITHKUQI SMALL LETTER ", "HA,HHA,I,IJE,JE,KA,LA,LLA,ME,NE,NJE,O,PE,QA,RE"⟩,
   ⟨0x105B3, 1, "VITHKUQI SMALL LETTER ", "SE,SHE,TE,THE,U,VE,XE"⟩,
   ⟨0x105BB, 1, "VITHKUQI SMALL LETTER ", "Y,ZE"⟩,
   ⟨0x10600, 1, "LINEAR A SIGN ", "AB001,AB002,AB003,AB004,AB005,AB006,AB007"⟩,
   ⟨0x10607, 2, "LINEAR A SIGN ", "AB008,AB010,AB013,AB017,AB021,AB021M,AB022F,AB023,AB024,AB027"⟩,
   ⟨0x10608, 2, "LINEAR A SIGN ", "AB009,AB011,AB016,AB020,AB021F,AB022,AB022M,AB023M,AB026,AB028"⟩,
   ⟨0x1061B, 2, "LINEAR A SIGN ", "A028B,AB030,AB034,AB038,AB040,AB044,AB046,AB048,AB050,AB053"⟩,
   ⟨0x1061C, 2, "LINEAR A SIGN ", "AB029,AB031,AB037,AB039,AB041,AB045,AB047,AB049,AB051,AB054"⟩,
   ⟨0x1062F, 2, "LINEAR A SIGN ", "AB055,AB057,AB059,AB061,AB066,AB069,AB073,AB076,AB078,AB080"⟩,
   ⟨0x10630, 2, "LINEAR A SIGN ", "AB056,AB058,AB060,AB065,AB067,AB070,AB074,AB077,AB079,AB081"⟩,
   ⟨0x10643, 2, "LINEAR A SIGN ", "AB082,AB086,A100-102,AB120,AB122,AB131A,A131C,AB171,AB188,A301"⟩,
   ⟨0x10644, 2, "LINEAR A SIGN ", "AB085,AB087,AB118,A120B,AB123,AB131B,AB164,AB180,AB191,A302"⟩,
   ⟨0x10657, 2,
    "LINEAR A SIGN ", "A303,A305,A307,A309A,A309C,A311,A313A,A313C,A315,A317,A319,A321"⟩,
   ⟨0x10658, 2, "LINEAR A SIGN ", "A304,A306,A308,A309B,A310,A312,A313B,A314,A316,A318,A320,A322"⟩,
   ⟨0x1066F, 2, "LINEAR A SIGN ", "A323,A325,A327,A329,A331,A333,A335,A337,A339,A341,A343,A345"⟩,
   ⟨0x10670, 2, "LINEAR A SIGN ", "A324,A326,A328,A330,A332,A334,A336,A338,A340,A342,A344,A346"⟩,
   ⟨0x10687, 2, "LINEAR A SIGN ", "A347,A349,A351,A353,A355,A357,A359,A361,A363,A365,A367,A369"⟩,
   ⟨0x10688, 2, "LINEAR A SIGN ", "A348,A350,A352,A354,A356,A358,A360,A362,A364,A366,A368,A370"⟩,
   ⟨0x1069F, 2, "LINEAR A SIGN ", "A371,A401-VAS,A403-VAS,A405-VAS,A407-VAS,A409-VAS,A411-VAS"⟩,
   ⟨0x106A0, 2, "LINEAR A SIGN ", "A400-VAS,A402-VAS,A404-VAS,A406-VAS,A408-VAS,A410-VAS,A412-VAS"⟩,
   ⟨0x106AD, 2, "LINEAR A SIGN ", "A413-VAS,A415-VAS,A417-VAS,A501,A503,A505,A508,A510,A512"⟩,
   ⟨0x106AE, 2, "LINEAR A SIGN ", "A414-VAS,A416-VAS,A418-VAS,A502,A504,A506,A509,A511,A513"⟩,
   ⟨0x106BF, 2, "LINEAR A SIGN ", "A515,A520,A523,A525,A527,A529,A531,A534,A536,A538,A540,A542"⟩,
   ⟨0x106C0, 2, "LINEAR A SIGN ", "A516,A521,A524,A526,A528,A530,A532,A535,A537,A539,A541,A545"⟩,
   ⟨0x106D7, 2, "LINEAR A SIGN ", "A547,A549,A551,A553,A555,A557,A563,A565,A568,A570,A572,A574"⟩,
   ⟨0x106D8, 2, "LINEAR A SIGN ", "A548,A550,A552,A554,A556,A559,A564,A566,A569,A571,A573,A575"⟩,
   ⟨0x106EF, 2, "LINEAR A SIGN ", "A576,A578,A580,A582,A584,A586,A588,A591,A594,A596,A600,A602"⟩,
   ⟨0x106F0, 2, "LINEAR A SIGN ", "A577,A579,A581,A583,A585,A587,A589,A592,A595,A598,A601,A603"⟩,
   ⟨0x10707, 2, "LINEAR A SIGN ", "A604,A608,A610,A612,A614,A616,A618,A620,A622,A624,A627,A629"⟩,
   ⟨0x10708, 2, "LINEAR A SIGN ", "A606,A609,A611,A613,A615,A617,A619,A621,A623,A626,A628,A634"⟩,
   ⟨0x1071F, 2, "LINEAR A SIGN ", "A637,A640,A643,A645,A648,A651,A653,A655,A657,A659,A661,A663"⟩,
   ⟨0x10720, 2, "LINEAR A SIGN ", "A638,A642,A644,A646,A649,A652,A654,A656,A658,A660,A662,A664"⟩,
   ⟨0x10740, 1, "LINEAR A SIGN ", "A701 A,A702 B,A703 D,A704 E,A705 F,A706 H,A707 J,A708 K"⟩,
   ⟨0x10748, 2, "LINEAR A SIGN ", "A709 L,A709-3 L3,A709-6 L6,A711 X,A713 OMEGA,A715 BB,A726 EYYY"⟩,
   ⟨0x10749, 2, "LINEAR A SIGN ", "A709-2 L2,A709-4 L4,A710 W,A712 Y,A714 ABB,A717 DD,A732 JE"⟩,
   ⟨0x10760, 1, "LINEAR A SIGN ", "A800,A801,A802,A803,A804,A805,A806,A807"⟩,
   ⟨0x10780, 1, "MODIFIER LETTER SMALL CAPITAL AA", ""⟩,
   ⟨0x10781, 1, "MODIFIER LETTER SUPERSCRIPT ", "TRIANGULAR COLON,HALF TRIANGULAR COLON"⟩,
   ⟨0x10783, 1, "MODIFIER LETTER SMALL ", "AE,CAPITAL B,B WITH HOOK"⟩,
   ⟨0x10787, 2, "MODIFIER LETTER SMALL DZ ", "DIGRAPH,DIGRAPH WITH CURL"⟩,
   ⟨0x10788, 2, "MODIFIER LETTER SMALL ", "DZ DIGRAPH WITH RETROFLEX HOOK,DEZH DIGRAPH"⟩,
   ⟨0x1078B, 1, "MODIFIER LETTER SMALL D WITH ", "TAIL,HOOK,HOOK AND TAIL"⟩,
   ⟨0x1078E, 2, "MODIFIER LETTER SMALL ", "REVERSED E,FENG DIGRAPH,CAPITAL G,CAPITAL G WITH HOOK"⟩,
   ⟨0x1078F, 2, "MODIFIER LETTER SMALL ", "CLOSED REVERSED OPEN E,RAMS HORN,G WITH HOOK"⟩,
   ⟨0x10795, 2, "MODIFIER LETTER SMALL ", "H WITH STROKE,HENG WITH HOOK,LS DIGRAPH,L WITH BELT"⟩,
   ⟨0x10796, 2, "MODIFIER LETTER SMALL ", "CAPITAL H,DOTLESS J WITH STROKE AND HOOK,LZ DIGRAPH"⟩,
   ⟨0x1079C, 1,
    "MODIFIER LETTER SMALL ", "CAPITAL L WITH BELT,L WITH RETROFLEX HOOK AND BELT,LEZH"⟩,
   ⟨0x1079F, 1, "MODIFIER LETTER SMALL ", "LEZH WITH RETROFLEX HOOK,TURNED Y,TURNED Y WITH BELT"⟩,
   ⟨0x107A2, 1, "MODIFIER LETTER SMALL ", "O WITH STROKE,CAPITAL OE,CLOSED OMEGA,Q"⟩,
   ⟨0x107A6, 1, "MODIFIER LETTER SMALL TURNED R WITH LONG ", "LEG,LEG AND RETROFLEX HOOK"⟩,
   ⟨0x107A8, 1, "MODIFIER LETTER SMALL R WITH ", "TAIL,FISHHOOK"⟩,
   ⟨0x107AA, 1, "MODIFIER LETTER SMALL ", "CAPITAL R,TC DIGRAPH WITH CURL"⟩,
   ⟨0x107AC, 1, "MODIFIER LETTER SMALL TS ", "DIGRAPH,DIGRAPH WITH RETROFLEX HOOK"⟩,
   ⟨0x107AE, 1, "MODIFIER LETTER SMALL ", "TESH DIGRAPH,T WITH RETROFLEX HOOK,V WITH RIGHT HOOK"⟩,
   ⟨0x107B2, 2, "MODIFIER LETTER ", "SMALL CAPITAL Y,REVERSED GLOTTAL STOP WITH STROKE"⟩,
   ⟨0x107B3, 2, "MODIFIER LETTER ", "GLOTTAL STOP WITH STROKE,BILABIAL CLICK"⟩,
   ⟨0x107B6, 2, "MODIFIER LETTER ", "DENTAL CLICK,ALVEOLAR CLICK,SMALL S WITH CURL"⟩,
   ⟨0x107B7, 2, "MODIFIER LETTER ", "LATERAL CLICK,RETROFLEX CLICK WITH RETROFLEX HOOK"⟩,
   ⟨0x10800, 1, "CYPRIOT SYLLABLE ", "A,E,I,O,U,JA"⟩,
   ⟨0x10808, 1, "CYPRIOT SYLLABLE JO", ""⟩,
   ⟨0x1080A, 1, "CYPRIOT SYLLABLE ", "KA,KE,KI,KO"⟩,
   ⟨0x1080E, 2, "CYPRIOT SYLLABLE ", "KU,LE,LO,MA,MI,MU,NE,NO,PA,PI,PU,RE,RO,SA,SI,SU,TE,TO,WA,WI"⟩,
   ⟨0x1080F, 2, "CYPRIOT SYLLABLE ", "LA,LI,LU,ME,MO,NA,NI,NU,PE,PO,RA,RI,RU,SE,SO,TA,TI,TU,WE,WO"⟩,
   ⟨0x10837, 1, "CYPRIOT SYLLABLE ", "XA,XE"⟩,
   ⟨0x1083C, 1, "CYPRIOT SYLLABLE ZA", ""⟩,
   ⟨0x1083F, 1, "CYPRIOT SYLLABLE ZO", ""⟩,
   ⟨0x10840, 1, "IMPERIAL ARAMAIC LETTER ", "ALEPH,BETH"⟩,
   ⟨0x10842, 2, "IMPERIAL ARAMAIC LETTER ", "GIMEL,HE,ZAYIN,TETH,KAPH,MEM,SAMEKH,PE,QOPH,SHIN"⟩,
   ⟨0x10843, 2, "IMPERIAL ARAMAIC LETTER ", "DALETH,WAW,HETH,YODH,LAMEDH,NUN,AYIN,SADHE,RESH,TAW"⟩,
   ⟨0x10857, 1, "IMPERIAL ARAMAIC ", "SECTION SIGN,NUMBER ONE,NUMBER TWO,NUMBER THREE"⟩,
   ⟨0x1085B, 1, "IMPERIAL ARAMAIC NUMBER ", "TEN,TWENTY,ONE HUNDRED,ONE THOUSAND,TEN THOUSAND"⟩,
   ⟨0x10860, 1, "PALMYRENE LETTER ", "ALEPH,BETH,GIMEL,DALETH,HE,WAW,ZAYIN,HETH,TETH,YODH,KAPH"⟩,
   ⟨0x1086B, 1,
    "PALMYRENE LETTER ", "LAMEDH,MEM,FINAL NUN,NUN,SAMEKH,AYIN,PE,SADHE,QOPH,RESH,SHIN"⟩,
   ⟨0x10876, 1, "PALMYRENE ", "LETTER TAW,LEFT-POINTING FLEURON,RIGHT-POINTING FLEURON"⟩,
   ⟨0x10879, 1, "PALMYRENE NUMBER ", "ONE,TWO,THREE,FOUR,FIVE,TEN,TWENTY"⟩,
   ⟨0x10880, 2, "NABATAEAN LETTER ", "FINAL ALEPH,FINAL BETH,GIMEL,FINAL HE,WAW,HETH,FINAL YODH"⟩,
   ⟨0x10881, 2, "NABATAEAN LETTER ", "ALEPH,BETH,DALETH,HE,ZAYIN,TETH,YODH"⟩,
   ⟨0x1088E, 1, "NABATAEAN LETTER ", "FINAL KAPH,KAPH,FINAL LAMEDH,LAMEDH,FINAL MEM,MEM,FINAL NUN"⟩,
   ⟨0x10895, 1, "NABATAEAN LETTER ", "NUN,SAMEKH,AYIN,PE,SADHE,QOPH,RESH,FINAL SHIN,SHIN,TAW"⟩,
   ⟨0x108A7, 1, "NABATAEAN NUMBER ", "ONE,TWO,THREE,FOUR"⟩,
   ⟨0x108AB, 1, "NABATAEAN CRUCIFORM NUMBER FOUR", ""⟩,
   ⟨0x108AC, 1, "NABATAEAN NUMBER ", "FIVE,TEN,TWENTY,ONE HUNDRED"⟩,
   ⟨0x108E0, 2, "HATRAN LETTER ", "ALEPH,GIMEL,HE,ZAYN,TETH,KAPH,MEM,SAMEKH,PE,QOPH"⟩,
   ⟨0x108E1, 2, "HATRAN LETTER ", "BETH,DALETH-RESH,WAW,HETH,YODH,LAMEDH,NUN,AYN,SADHE"⟩,
   ⟨0x108F4, 1, "HATRAN LETTER ", "SHIN,TAW"⟩,
   ⟨0x108FB, 1, "HATRAN NUMBER ", "ONE,FIVE,TEN,TWENTY,ONE HUNDRED"⟩,
   ⟨0x10900, 2, "PHOENICIAN LETTER ", "ALF,GAML,HE,ZAI,TET,KAF,MEM,SEMK,PE,QOF,SHIN"⟩,
   ⟨0x10901, 2, "PHOENICIAN LETTER ", "BET,DELT,WAU,HET,YOD,LAMD,NUN,AIN,SADE,ROSH,TAU"⟩,
   ⟨0x10916, 1, "PHOENICIAN NUMBER ", "ONE,TEN,TWENTY,ONE HUNDRED,TWO,THREE"⟩,
   ⟨0x1091F, 1, "PHOENICIAN WORD SEPARATOR", ""⟩,
   ⟨0x10920, 1, "LYDIAN LETTER ", "A,B,G,D,E,V,I,Y,K,L,M,N,O,R,SS,T,U,F,Q,S,TT,AN,EN,LY,NN,C"⟩,
   ⟨0x1093F, 1, "LYDIAN TRIANGULAR MARK", ""⟩,
   ⟨0x10980, 1, "MEROITIC HIEROGLYPHIC LETTER ", "A,E,I,O,YA,WA,BA,BA-2,PA,MA,NA,NA-2,NE,NE-2,RA"⟩,
   ⟨0x1098F, 1,
    "MEROITIC HIEROGLYPHIC LETTER ", "RA-2,LA,KHA,HHA,SA,SA-2,SE,KA,QA,TA,TA-2,TE,TE-2"⟩,
   ⟨0x1099C, 1, "MEROITIC HIEROGLYPHIC ", "LETTER TO,LETTER DA,SYMBOL VIDJ,SYMBOL VIDJ-2"⟩,
   ⟨0x109A0, 2, "MEROITIC CURSIVE LETTER ", "A,I,YA,BA,MA,NE,LA,HHA,ARCHAIC SA,KA,TA,TO"⟩,
   ⟨0x109A1, 2, "MEROITIC CURSIVE LETTER ", "E,O,WA,PA,NA,RA,KHA,SA,SE,QA,TE,DA"⟩,
   ⟨0x109BC, 1, "MEROITIC CURSIVE FRACTION ", "ELEVEN TWELFTHS,ONE HALF"⟩,
   ⟨0x109BE, 1, "MEROITIC CURSIVE LOGOGRAM ", "RMT,IMN"⟩,
   ⟨0x109C0, 2, "MEROITIC CURSIVE NUMBER ", "ONE,THREE,FIVE,SEVEN,NINE,TWENTY,FORTY,SIXTY"⟩,
   ⟨0x109C1, 2, "MEROITIC CURSIVE NUMBER ", "TWO,FOUR,SIX,EIGHT,TEN,THIRTY,FIFTY,SEVENTY"⟩,
   ⟨0x109D2, 1, "MEROITIC CURSIVE NUMBER ", "ONE HUNDRED,TWO HUNDRED,THREE HUNDRED"⟩,
   ⟨0x109D5, 2, "MEROITIC CURSIVE NUMBER ", "FOUR HUNDRED,SIX HUNDRED,EIGHT HUNDRED,ONE THOUSAND"⟩,
   ⟨0x109D6, 2, "MEROITIC CURSIVE NUMBER ", "FIVE HUNDRED,SEVEN HUNDRED,NINE HUNDRED,TWO THOUSAND"⟩,
   ⟨0x109DD, 2, "MEROITIC CURSIVE NUMBER ", "THREE THOUSAND,FIVE THOUSAND,SEVEN THOUSAND"⟩,
   ⟨0x109DE, 2, "MEROITIC CURSIVE NUMBER ", "FOUR THOUSAND,SIX THOUSAND,EIGHT THOUSAND"⟩,
   ⟨0x109E3, 2, "MEROITIC CURSIVE NUMBER ", "NINE THOUSAND,TWENTY THOUSAND,FORTY THOUSAND"⟩,
   ⟨0x109E4, 2, "MEROITIC CURSIVE NUMBER ", "TEN THOUSAND,THIRTY THOUSAND,FIFTY THOUSAND"⟩,
   ⟨0x109E9, 2, "MEROITIC CURSIVE NUMBER ", "SIXTY THOUSAND,EIGHTY THOUSAND,ONE HUNDRED THOUSAND"⟩,
   ⟨0x109EA, 2,
    "MEROITIC CURSIVE NUMBER ", "SEVENTY THOUSAND,NINETY THOUSAND,TWO HUNDRED THOUSAND"⟩,
   ⟨0x109EF, 2, "MEROITIC CURSIVE NUMBER ", "THREE HUNDRED THOUSAND,FIVE HUNDRED THOUSAND"⟩,
   ⟨0x109F0, 2, "MEROITIC CURSIVE NUMBER ", "FOUR HUNDRED THOUSAND,SIX HUNDRED THOUSAND"⟩,
   ⟨0x109F3, 2, "MEROITIC CURSIVE NUMBER ", "SEVEN HUNDRED THOUSAND,NINE HUNDRED THOUSAND"⟩,
   ⟨0x109F4, 2, "MEROITIC CURSIVE ", "NUMBER EIGHT HUNDRED THOUSAND,FRACTION ONE TWELFTH"⟩,
   ⟨0x109F7, 1, "MEROITIC CURSIVE FRACTION ", "TWO TWELFTHS,THREE TWELFTHS,FOUR TWELFTHS"⟩,
   ⟨0x109FA, 2, "MEROITIC CURSIVE FRACTION ", "FIVE TWELFTHS,SEVEN TWELFTHS,NINE TWELFTHS"⟩,
   ⟨0x109FB, 2, "MEROITIC CURSIVE FRACTION ", "SIX TWELFTHS,EIGHT TWELFTHS,TEN TWELFTHS"⟩,
   ⟨0x10A00, 1, "KHAROSHTHI ", "LETTER A,VOWEL SIGN I,VOWEL SIGN U,VOWEL SIGN VOCALIC R"⟩,
   ⟨0x10A05, 1, "KHAROSHTHI VOWEL SIGN ", "E,O"⟩,
   ⟨0x10A0C, 2, "KHAROSHTHI ", "VOWEL LENGTH MARK,SIGN ANUSVARA,LETTER KA,LETTER GA"⟩,
   ⟨0x10A0D, 2, "KHAROSHTHI ", "SIGN DOUBLE RING BELOW,SIGN VISARGA,LETTER KHA,LETTER GHA"⟩,
   ⟨0x10A15, 1, "KHAROSHTHI LETTER ", "CA,CHA,JA"⟩,
   ⟨0x10A19, 2, "KHAROSHTHI LETTER ", "NYA,TTHA,DDHA,TA,DA,NA,PHA,BHA,YA,LA,SHA,SA,HA,TTTHA,VHA"⟩,
   ⟨0x10A1A, 2, "KHAROSHTHI LETTER ", "TTA,DDA,NNA,THA,DHA,PA,BA,MA,RA,VA,SSA,ZA,KKA,TTTA"⟩,
   ⟨0x10A38, 1, "KHAROSHTHI SIGN ", "BAR ABOVE,CAUDA,DOT BELOW"⟩,
   ⟨0x10A3F, 1, "KHAROSHTHI ", "VIRAMA,DIGIT ONE,DIGIT TWO,DIGIT THREE,DIGIT FOUR"⟩,
   ⟨0x10A44, 1, "KHAROSHTHI NUMBER ", "TEN,TWENTY,ONE HUNDRED,ONE THOUSAND"⟩,
   ⟨0x10A48, 1, "KHAROSHTHI FRACTION ONE HALF", ""⟩,
   ⟨0x10A50, 2, "KHAROSHTHI PUNCTUATION ", "DOT,CIRCLE,MANGALAM,DANDA,LINES"⟩,
   ⟨0x10A51, 2, "KHAROSHTHI PUNCTUATION ", "SMALL CIRCLE,CRESCENT BAR,LOTUS,DOUBLE DANDA"⟩,
   ⟨0x10A60, 1, "OLD SOUTH ARABIAN LETTER ", "HE,LAMEDH,HETH,MEM,QOPH,WAW,SHIN,RESH,BETH,TAW"⟩,
   ⟨0x10A6A, 1, "OLD SOUTH ARABIAN LETTER ", "SAT,KAPH,NUN,KHETH,SADHE,SAMEKH,FE,ALEF,AYN,DHADHE"⟩,
   ⟨0x10A74, 1,
    "OLD SOUTH ARABIAN LETTER ", "GIMEL,DALETH,GHAYN,TETH,ZAYN,DHALETH,YODH,THAW,THETH"⟩,
   ⟨0x10A7D, 1, "OLD SOUTH ARABIAN ", "NUMBER ONE,NUMBER FIFTY,NUMERIC INDICATOR"⟩,
   ⟨0x10A80, 1, "OLD NORTH ARABIAN LETTER ", "HEH,LAM,HAH,MEEM,QAF,WAW,ES-2"⟩,
   ⟨0x10A87, 2, "OLD NORTH ARABIAN LETTER ", "REH,TEH,KAF,KHAH,ES-3,ALEF,DAD,DAL,TAH,THAL,THEH"⟩,
   ⟨0x10A88, 2, "OLD NORTH ARABIAN LETTER ", "BEH,ES-1,NOON,SAD,FEH,AIN,GEEM,GHAIN,ZAIN,YEH,ZAH"⟩,
   ⟨0x10A9D, 1, "OLD NORTH ARABIAN NUMBER ", "ONE,TEN,TWENTY"⟩,
   ⟨0x10AC0, 1, "MANICHAEAN LETTER ", "ALEPH,BETH,BHETH,GIMEL,GHIMEL,DALETH,HE,WAW"⟩,
   ⟨0x10AC8, 1, "MANICHAEAN SIGN UD", ""⟩,
   ⟨0x10AC9, 1, "MANICHAEAN LETTER ", "ZAYIN,ZHAYIN,JAYIN,JHAYIN,HETH,TETH"⟩,
   ⟨0x10ACF, 2, "MANICHAEAN LETTER ", "YODH,XAPH,LAMEDH,THAMEDH,NUN,AYIN,PE,SADHE,XOPH,RESH,SSHIN"⟩,
   ⟨0x10AD0, 2, "MANICHAEAN LETTER ", "KAPH,KHAPH,DHAMEDH,MEM,SAMEKH,AAYIN,FE,QOPH,QHOPH,SHIN,TAW"⟩,
   ⟨0x10AE5, 1, "MANICHAEAN ABBREVIATION MARK ", "ABOVE,BELOW"⟩,
   ⟨0x10AEB, 1, "MANICHAEAN NUMBER ", "ONE,FIVE,TEN,TWENTY,ONE HUNDRED"⟩,
   ⟨0x10AF0, 2, "MANICHAEAN PUNCTUATION ", "STAR,DOUBLE DOT WITHIN DOT,DOT,LINE FILLER"⟩,
   ⟨0x10AF1, 2, "MANICHAEAN PUNCTUATION ", "FLEURON,DOT WITHIN DOT,TWO DOTS"⟩,
   ⟨0x10B00, 1, "AVESTAN LETTER ", "A,AA,AO,AAO,AN,AAN,AE,AEE,E,EE,O,OO,I,II,U,UU,KE,XE,XYE,XVE"⟩,
   ⟨0x10B14, 2, "AVESTAN LETTER ", "GE,GHE,JE,THE,DHE,PE,BE,NGE,NGVE,NYE,ME,YYE,VE,LE,ZE,ZHE,SSHE"⟩,
   ⟨0x10B15, 2, "AVESTAN LETTER ", "GGE,CE,TE,DE,TTE,FE,BHE,NGYE,NE,NNE,HME,YE,RE,SE,SHE,SHYE,HE"⟩,
   ⟨0x10B39, 1, "", "AVESTAN ABBREVIATION MARK,TINY TWO DOTS OVER ONE DOT PUNCTUATION"⟩,
   ⟨0x10B3B, 1, "SMALL TWO DOTS OVER ONE DOT PUNCTUATION", ""⟩,
   ⟨0x10B3C, 2, "LARGE TWO ", "DOTS OVER ONE DOT PUNCTUATION,RINGS OVER ONE RING PUNCTUATION"⟩,
   ⟨0x10B3D, 2, "LARGE ONE ", "DOT OVER TWO DOTS PUNCTUATION,RING OVER TWO RINGS PUNCTUATION"⟩,
   ⟨0x10B40, 1, "INSCRIPTIONAL PARTHIAN LETTER ", "ALEPH,BETH,GIMEL,DALETH"⟩,
   ⟨0x10B44, 2, "INSCRIPTIONAL PARTHIAN LETTER ", "HE,ZAYIN,TETH,KAPH,MEM,SAMEKH,PE,QOPH,SHIN"⟩,
   ⟨0x10B45, 2, "INSCRIPTIONAL PARTHIAN LETTER ", "WAW,HETH,YODH,LAMEDH,NUN,AYIN,SADHE,RESH,TAW"⟩,
   ⟨0x10B58, 1, "INSCRIPTIONAL PARTHIAN NUMBER ", "ONE,TWO,THREE,FOUR,TEN,TWENTY"⟩,
   ⟨0x10B5E, 1, "INSCRIPTIONAL PARTHIAN NUMBER ONE ", "HUNDRED,THOUSAND"⟩,
   ⟨0x10B60, 1, "INSCRIPTIONAL PAHLAVI LETTER ", "ALEPH,BETH,GIMEL,DALETH"⟩,
   ⟨0x10B64, 2, "INSCRIPTIONAL PAHLAVI LETTER ", "HE,ZAYIN,TETH,KAPH,MEM-QOPH,SAMEKH,SADHE,TAW"⟩,
   ⟨0x10B65, 2, "INSCRIPTIONAL PAHLAVI LETTER ", "WAW-AYIN-RESH,HETH,YODH,LAMEDH,NUN,PE,SHIN"⟩,
   ⟨0x10B78, 1, "INSCRIPTIONAL PAHLAVI NUMBER ", "ONE,TWO,THREE,FOUR,TEN,TWENTY"⟩,
   ⟨0x10B7E, 1, "INSCRIPTIONAL PAHLAVI NUMBER ONE ", "HUNDRED,THOUSAND"⟩,
   ⟨0x10B80, 1, "PSALTER PAHLAVI LETTER ", "ALEPH,BETH,GIMEL,DALETH,HE,WAW-AYIN-RESH,ZAYIN,HETH"⟩,
   ⟨0x10B88, 1,
    "PSALTER PAHLAVI LETTER ", "YODH,KAPH,LAMEDH,MEM-QOPH,NUN,SAMEKH,PE,SADHE,SHIN,TAW"⟩,
   ⟨0x10B99, 1, "PSALTER PAHLAVI ", "SECTION MARK,TURNED SECTION MARK"⟩,
   ⟨0x10B9B, 1, "PSALTER PAHLAVI FOUR DOTS WITH ", "CROSS,DOT"⟩,
   ⟨0x10BA9, 1, "PSALTER PAHLAVI NUMBER ", "ONE,TWO,THREE,FOUR,TEN,TWENTY,ONE HUNDRED"⟩,
   ⟨0x10C00, 2, "OLD TURKIC LETTER ", "ORKHON A,YENISEI AE,YENISEI I,ORKHON O"⟩,
   ⟨0x10C01, 2, "OLD TURKIC LETTER ", "YENISEI A,ORKHON I,YENISEI E"⟩,
   ⟨0x10C07, 2, "OLD TURKIC LETTER ORKHON ", "OE,AB,AEB,AG,AEG,AD,AED"⟩,
   ⟨0x10C08, 2, "OLD TURKIC LETTER YENISEI ", "OE,AB,AEB,AG,AEG,AD"⟩,
   ⟨0x10C14, 2, "OLD TURKIC LETTER ORKHON ", "EZ,AY,AEY,AEK,OEK,AL"⟩,
   ⟨0x10C15, 2, "OLD TURKIC LETTER YENISEI ", "EZ,AY,AEY,AEK,OEK,AL"⟩,
   ⟨0x10C20, 1, "OLD TURKIC LETTER ORKHON ", "AEL,ELT,EM,AN,AEN"⟩,
   ⟨0x10C25, 2, "OLD TURKIC LETTER YENISEI ", "AEN,ENT,ENC,ENY"⟩,
   ⟨0x10C26, 2, "OLD TURKIC LETTER ", "ORKHON ENT,ORKHON ENC,ORKHON ENY,YENISEI ANG"⟩,
   ⟨0x10C2D, 1, "OLD TURKIC LETTER ", "ORKHON ENG,YENISEI AENG,ORKHON EP,ORKHON OP,ORKHON IC"⟩,
   ⟨0x10C32, 2, "OLD TURKIC LETTER ORKHON ", "EC,AQ,IQ,OQ,AR"⟩,
   ⟨0x10C33, 2, "OLD TURKIC LETTER YENISEI ", "EC,AQ,IQ,OQ,AR"⟩,
   ⟨0x10C3C, 1, "OLD TURKIC LETTER ORKHON ", "AER,AS,AES"⟩,
   ⟨0x10C3F, 2, "OLD TURKIC LETTER ORKHON ", "ASH,ESH,AT,AET,OT"⟩,
   ⟨0x10C40, 2, "OLD TURKIC LETTER ", "YENISEI ASH,YENISEI ESH,YENISEI AT,YENISEI AET,ORKHON BASH"⟩,
   ⟨0x10C80, 2,
    "OLD HUNGARIAN CAPITAL LETTER ", "A,EB,EC,ECS,AND,CLOSE E,EF,EGY,I,EJ,AK,EL,EM,ENY"⟩,
   ⟨0x10C81, 2, "OLD HUNGARIAN CAPITAL LETTER ", "AA,AMB,ENC,ED,E,EE,EG,EH,II,EK,UNK,ELY,EN"⟩,
   ⟨0x10C9B, 2, "OLD HUNGARIAN CAPITAL LETTER ", "O,NIKOLSBURG OE,OEE,EMP,SHORT ER,ESZ,ENT,ECH,UU"⟩,
   ⟨0x10C9C, 2, "OLD HUNGARIAN CAPITAL LETTER ", "OO,RUDIMENTA OE,EP,ER,ES,ET,ETY,U,NIKOLSBURG UE"⟩,
   ⟨0x10CAD, 1, "OLD HUNGARIAN CAPITAL LETTER ", "RUDIMENTA UE,EV,EZ,EZS,ENT-SHAPED SIGN,US"⟩,
   ⟨0x10CC0, 1, "OLD HUNGARIAN SMALL LETTER ", "A,AA,EB,AMB,EC,ENC,ECS,ED,AND,E,CLOSE E,EE,EF"⟩,
   ⟨0x10CCD, 1, "OLD HUNGARIAN SMALL LETTER ", "EG,EGY,EH,I,II,EJ,EK,AK,UNK,EL,ELY,EM,EN,ENY,O,OO"⟩,
   ⟨0x10CDD, 1, "OLD HUNGARIAN SMALL LETTER ", "NIKOLSBURG OE,RUDIMENTA OE,OEE,EP,EMP,ER,SHORT ER"⟩,
   ⟨0x10CE4, 2, "OLD HUNGARIAN SMALL LETTER ", "ES,ET,ETY,U,NIKOLSBURG UE,EV,EZS,US"⟩,
   ⟨0x10CE5, 2, "OLD HUNGARIAN SMALL LETTER ", "ESZ,ENT,ECH,UU,RUDIMENTA UE,EZ,ENT-SHAPED SIGN"⟩,
   ⟨0x10CFA, 1, "OLD HUNGARIAN NUMBER ", "ONE,FIVE,TEN,FIFTY,ONE HUNDRED,ONE THOUSAND"⟩,
   ⟨0x10D00, 1, "HANIFI ROHINGYA LETTER ", "A,BA,PA,TA,TTA,JA,CA,HA,KHA,FA,DA,DDA,RA,RRA,ZA,SA"⟩,
   ⟨0x10D10, 1, "HANIFI ROHINGYA LETTER ", "SHA,KA,GA,LA,MA,NA,WA,KINNA WA,YA,KINNA YA,NGA,NYA,VA"⟩,
   ⟨0x10D1D, 2,
    "HANIFI ROHINGYA ", "VOWEL A,VOWEL U,VOWEL O,MARK NA KHONNA,SIGN TAHALA,SIGN TASSI"⟩,
   ⟨0x10D1E, 2, "HANIFI ROHINGYA ", "VOWEL I,VOWEL E,MARK SAKIN,SIGN HARBAHAY,SIGN TANA"⟩,
   ⟨0x10D30, 1, "HANIFI ROHINGYA DIGIT ", "ZERO,ONE,TWO,THREE,FOUR,FIVE,SIX,SEVEN,EIGHT,NINE"⟩,
   ⟨0x10E60, 1, "RUMI DIGIT ", "ONE,TWO,THREE,FOUR,FIVE,SIX,SEVEN,EIGHT,NINE"⟩,
   ⟨0x10E69, 1, "RUMI NUMBER ", "TEN,TWENTY,THIRTY,FORTY,FIFTY,SIXTY,SEVENTY,EIGHTY"⟩,
   ⟨0x10E71, 2, "RUMI NUMBER ", "NINETY,TWO HUNDRED,FOUR HUNDRED,SIX HUNDRED,EIGHT HUNDRED"⟩,
   ⟨0x10E72, 2,
    "RUMI NUMBER ", "ONE HUNDRED,THREE HUNDRED,FIVE HUNDRED,SEVEN HUNDRED,NINE HUNDRED"⟩,
   ⟨0x10E7B, 1, "RUMI FRACTION ", "ONE HALF,ONE QUARTER,ONE THIRD,TWO THIRDS"⟩,
   ⟨0x10E80, 1, "YEZIDI LETTER ", "ELIF,BE,PE,PHE,THE,SE,CIM,CHIM,CHHIM,HHA,XA,DAL,ZAL,RA"⟩,
   ⟨0x10E8E, 2, "YEZIDI LETTER ", "RHA,JA,SHIN,DAD,ZE,XHEYN,VA,QAF,KHAF,LAM,NUN,WAW,EW,YOT"⟩,
   ⟨0x10E8F, 2,
    "YEZIDI LETTER ", "ZA,SIN,SAD,TA,EYN,FA,VA ALTERNATE FORM,KAF,GAF,MIM,UM,OW,HAY,ET"⟩,
   ⟨0x10EAB, 1, "YEZIDI ", "COMBINING HAMZA MARK,COMBINING MADDA MARK,HYPHENATION MARK"⟩,
   ⟨0x10EB0, 1, "YEZIDI LETTER ", "LAM WITH DOT ABOVE,YOT WITH CIRCUMFLEX ABOVE"⟩,
   ⟨0x10F00, 2, "OLD SOGDIAN LETTER ", "ALEPH,BETH,GIMEL,FINAL HE,ZAYIN,YODH,LAMEDH,NUN"⟩,
   ⟨0x10F01, 2, "OLD SOGDIAN LETTER ", "FINAL ALEPH,FINAL BETH,HE,WAW,HETH,KAPH,MEM"⟩,
   ⟨0x10F0F, 1, "OLD SOGDIAN LETTER FINAL ", "NUN,NUN WITH VERTICAL TAIL"⟩,
   ⟨0x10F11, 1, "OLD SOGDIAN LETTER ", "SAMEKH,AYIN,ALTERNATE AYIN,PE,SADHE,FINAL SADHE"⟩,
   ⟨0x10F17, 1, "OLD SOGDIAN LETTER ", "FINAL SADHE WITH VERTICAL TAIL,RESH-AYIN-DALETH,SHIN,TAW"⟩,
   ⟨0x10F1B, 1, "OLD SOGDIAN LETTER FINAL ", "TAW,TAW WITH VERTICAL TAIL"⟩,
   ⟨0x10F1D, 1, "OLD SOGDIAN NUMBER ", "ONE,TWO,THREE,FOUR,FIVE,TEN,TWENTY,THIRTY,ONE HUNDRED"⟩,
   ⟨0x10F26, 1, "OLD SOGDIAN ", "FRACTION ONE HALF,LIGATURE AYIN-DALETH"⟩,
   ⟨0x10F30, 2, "SOGDIAN LETTER ", "ALEPH,GIMEL,WAW,HETH,KAPH,MEM,SAMEKH,PE,RESH-AYIN,TAW,LESH"⟩,
   ⟨0x10F31, 2, "SOGDIAN LETTER ", "BETH,HE,ZAYIN,YODH,LAMEDH,NUN,AYIN,SADHE,SHIN,FETH"⟩,
   ⟨0x10F45, 1, "SOGDIAN ", "INDEPENDENT SHIN,COMBINING DOT BELOW,COMBINING TWO DOTS BELOW"⟩,
   ⟨0x10F48, 1,
    "SOGDIAN COMBINING ", "DOT ABOVE,TWO DOTS ABOVE,CURVE ABOVE,CURVE BELOW,HOOK ABOVE"⟩,
   ⟨0x10F4D, 1, "SOGDIAN COMBINING ", "HOOK BELOW,LONG HOOK BELOW,RESH BELOW,STROKE BELOW"⟩,
   ⟨0x10F51, 1, "SOGDIAN NUMBER ", "ONE,TEN,TWENTY,ONE HUNDRED"⟩,
   ⟨0x10F55, 2, "SOGDIAN PUNCTUATION ", "TWO VERTICAL BARS,CIRCLE WITH DOT,HALF CIRCLE WITH DOT"⟩,
   ⟨0x10F56, 2, "SOGDIAN PUNCTUATION TWO ", "VERTICAL BARS WITH DOTS,CIRCLES WITH DOTS"⟩,
   ⟨0x10F70, 2, "OLD UYGHUR LETTER ", "ALEPH,GIMEL-HETH,ZAYIN,YODH,LAMEDH,NUN,PE,RESH,TAW"⟩,
   ⟨0x10F71, 2, "OLD UYGHUR LETTER ", "BETH,WAW,FINAL HETH,KAPH,MEM,SAMEKH,SADHE,SHIN,LESH"⟩,
   ⟨0x10F82, 1, "OLD UYGHUR COMBINING ", "DOT ABOVE,DOT BELOW,TWO DOTS ABOVE,TWO DOTS BELOW"⟩,
   ⟨0x10F86, 1, "OLD UYGHUR PUNCTUATION ", "BAR,TWO BARS,TWO DOTS,FOUR DOTS"⟩,
   ⟨0x10FB0, 1,
    "CHORASMIAN LETTER ", "ALEPH,SMALL ALEPH,BETH,GIMEL,DALETH,HE,WAW,CURLED WAW,ZAYIN"⟩,
   ⟨0x10FB9, 1, "CHORASMIAN LETTER ", "HETH,YODH,KAPH,LAMEDH,MEM,NUN,SAMEKH,AYIN,PE,RESH,SHIN,TAW"⟩,
   ⟨0x10FC5, 1, "CHORASMIAN NUMBER ", "ONE,TWO,THREE,FOUR,TEN,TWENTY,ONE HUNDRED"⟩,
   ⟨0x10FE0, 2, "ELYMAIC LETTER ", "ALEPH,GIMEL,HE,ZAYIN,TETH,KAPH,MEM,SAMEKH,PE,QOPH,SHIN"⟩,
   ⟨0x10FE1, 2, "ELYMAIC LETTER ", "BETH,DALETH,WAW,HETH,YODH,LAMEDH,NUN,AYIN,SADHE,RESH,TAW"⟩,
   ⟨0x10FF6, 1, "ELYMAIC LIGATURE ZAYIN-YODH", ""⟩]

end RegexSubst.Unicode
