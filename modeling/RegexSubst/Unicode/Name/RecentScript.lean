import RegexSubst.Unicode.Name.Run

/-!
# `RegexSubst.Unicode.Name.RecentScript`: names of U+16800 to U+1CFFF

Bamum to Duployan, with Tangut components and more kana.
-/

set_option autoImplicit false

namespace RegexSubst.Unicode

/-- The names of U+16800 to U+1CFFF. -/
def recentScriptNames : List NameRun :=
  [⟨0x16800, 2, "BAMUM LETTER PHASE-A ", "NGKUE MFON,PON MFON PIPAEMGBIEE,NAA MFON,TITA MFON"⟩,
   ⟨0x16801, 2, "BAMUM LETTER PHASE-A ", "GBIEE FON,PON MFON PIPAEMBA,SHUENSHUET,NZA MFON"⟩,
   ⟨0x16808, 1,
    "BAMUM LETTER PHASE-A ", "SHINDA PA NJI,PON PA NJI PIPAEMGBIEE,PON PA NJI PIPAEMBA"⟩,
   ⟨0x1680B, 1, "BAMUM LETTER PHASE-A ", "MAEMBGBIEE,TU MAEMBA,NGANGU,MAEMVEUX,MANSUAE,MVEUAENGAM"⟩,
   ⟨0x16811, 2, "BAMUM LETTER PHASE-A ", "SEUNYAM,KEUKEUTNDA,SUU,LAPAQ,NTAP MFAA,PASHAE,PAMSHAE"⟩,
   ⟨0x16812, 2, "BAMUM LETTER PHASE-A ", "NTOQPEN,NKINDI,NGKUENZEUM,LET KUT,MAEKEUP,GHEUAERAE"⟩,
   ⟨0x1681E, 1, "BAMUM LETTER PHASE-A ", "MON NGGEUAET,NZUN MEUT,U YUQ NAE,GHEUAEGHEUAE,NTAP NTAA"⟩,
   ⟨0x16823, 1, "BAMUM LETTER PHASE-A ", "SISA,MGBASA,MEUNJOMNDEUQ,MOOMPUQ,KAFA,PA LEERAEWA"⟩,
   ⟨0x16829, 2, "BAMUM LETTER PHASE-A ", "NDA LEERAEWA,MAEMKPEN,PUP,LUAEP,TEUTEUWEN,KET,KUOQ,SHUM"⟩,
   ⟨0x1682A, 2,
    "BAMUM LETTER PHASE-A ", "PET,NIKA,TUAEP,SONJAM,MAENYI,NDAANGGEUAET,MOOMEUT,LOMMAE"⟩,
   ⟨0x16839, 1, "BAMUM LETTER PHASE-A ", "FIRI,ROM,KPOQ,SOQ,MAP PIEET,SHIRAE,NTAP,SHOQ NSHUT YUM"⟩,
   ⟨0x16841, 1, "BAMUM LETTER PHASE-A ", "NYIT MONGKEUAEQ,PAARAE,NKAARAE,UNKNOWN,NGGEN,MAESI,NJAM"⟩,
   ⟨0x16848, 1,
    "BAMUM LETTER PHASE-A ", "MBANYI,NYET,TEUAEN,SOT,PAAM,NSHIEE,MAEM,NYI,KAQ,NSHA,VEE"⟩,
   ⟨0x16853, 1, "BAMUM LETTER PHASE-", "A LU,A NEN,A NAQ,A MBAQ,B NSHUET,B TU MAEMGBIEE"⟩,
   ⟨0x16859, 2, "BAMUM LETTER PHASE-B ", "SIEE,LOM NTEUM,KIEEM,MBAARAE,PEESHI,LAM NSHUT NYAM"⟩,
   ⟨0x1685A, 2, "BAMUM LETTER PHASE-B ", "SET TU,MBA MAELEE,YEURAE,KAM,YAFU LEERAEWA,NTIEE SHEUOQ"⟩,
   ⟨0x16865, 1, "BAMUM LETTER PHASE-B ", "NDU NJAA,GHEUGHEUAEM,PIT,TU NSIEE,SHET NJAQ,SHEUAEQTU"⟩,
   ⟨0x1686B, 2, "BAMUM LETTER PHASE-B ", "MFON TEUAEQ,NYI NTEUM,GHEUGHEN,LAANAE,VEUM,NGGEU MBU"⟩,
   ⟨0x1686C, 2, "BAMUM LETTER PHASE-B ", "MBIT MBAAKET,KEUPUQ,KEUYEUX,PARUM,NGKINDI MVOP,WUAET"⟩,
   ⟨0x16877, 1, "BAMUM LETTER PHASE-B ", "SAKEUAE,TAAM,MEUQ,NGGUOQ,NGGUOQ LARGE,MFIYAQ,SUE,MBEURI"⟩,
   ⟨0x1687F, 2, "BAMUM LETTER PHASE-B ", "MONTIEEN,PUNGAAM,FEUX,FEE,MA NJEUAENA,LET,NSEN,KIQ"⟩,
   ⟨0x16880, 2,
    "BAMUM LETTER PHASE-B ", "NYAEMAE,MEUT NGGEET,MBUOQ,KEUAEM,MA NJUQA,NGGAAM,MA,NGOM"⟩,
   ⟨0x1688F, 1, "BAMUM LETTER PHASE-C ", "NGKUE MAEMBA,NZA,YUM,WANGKUOQ,NGGEN,NDEUAEREE"⟩,
   ⟨0x16895, 2, "BAMUM LETTER PHASE-C ", "NGKAQ,MBEEKEET,NYIR MKPARAQ MEUN,MBEUM,NDOMBU"⟩,
   ⟨0x16896, 2, "BAMUM LETTER PHASE-C ", "GHARAE,GBAYI,NTU MBIT,PIRIEEN,MBAA CABBAGE-TREE"⟩,
   ⟨0x1689F, 2, "BAMUM LETTER PHASE-C ", "KEUSHEUAEP,KEUKAQ,NZEUM,NSEUAEN,YEUQ,KAA,NDIDA"⟩,
   ⟨0x168A0, 2, "BAMUM LETTER PHASE-C ", "GHAP,YU MUOMAE,MBUE,MBIT,KPARAQ,SEUX,TAASHAE"⟩,
   ⟨0x168AD, 2, "BAMUM LETTER PHASE-C ", "NJUEQ,SUAET,VEUX,MA KEUAERI,NGGUON,MBIRIEEN,NTEUNGBA"⟩,
   ⟨0x168AE, 2, "BAMUM LETTER PHASE-C ", "TITA YUE,NGGUAEN NYAM,NANSANAQ,NTAA,LAP,MGBASAQ,TEUTEUX"⟩,
   ⟨0x168BB, 2, "BAMUM LETTER PHASE-C ", "NGGUM,NDEUT,NSHAQ,VEUAEPEN,RU,LAM,NSUOT NGOM,KET,MAESI"⟩,
   ⟨0x168BC, 2, "BAMUM LETTER PHASE-C ", "FUE,NSA,BUNG,MBERAE,NJAEM,TITUAEP,NJEEEE,NGGU,MBUAEM"⟩,
   ⟨0x168CD, 2, "BAMUM LETTER PHASE-C ", "LU,NJAM,WUP,NSOM,KUOP NKAARAE,NDAM,YAA,SHUEQ,MBI"⟩,
   ⟨0x168CE, 2, "BAMUM LETTER PHASE-C ", "KUT,NGOM,NGGUEET,NTEN,NSUN,MA NSIEE,NDAP,SETFON,MAEMBA"⟩,
   ⟨0x168DF, 2,
    "BAMUM LETTER PHASE-C ", "MBANYI,MBEUX,MBAA PICKET,NJEUX,MUAE,KEN LAW,NGAQ,LIQ,PEN"⟩,
   ⟨0x168E0, 2, "BAMUM LETTER PHASE-C ", "KEUSEUX,KEUM,YUWOQ,MIEE,SHIQ,KEN FATIGUE,NAQ,PIN,TET"⟩,
   ⟨0x168F1, 1, "BAMUM LETTER PHASE-D ", "MBUO,WAP,NJI,MFON,NJIEE,LIEE,NJEUT,NSHEE,NGGAAMAE"⟩,
   ⟨0x168FA, 2,
    "BAMUM LETTER PHASE-D ", "NYAM,NGKUN,NGKAP,TEUT,NJAP,KET,KUOM,MFEUT,MALEERI,SEUAEQ"⟩,
   ⟨0x168FB, 2, "BAMUM LETTER PHASE-D ", "WUAEN,SHEE,KEUAETMEUN,SHEUAE,SUE,YAEMMAE,SAP,NDEUX,MEUT"⟩,
   ⟨0x1690D, 1,
    "BAMUM LETTER PHASE-D ", "YEN,NJEUAEM,KEUOT MBUAE,NGKEURI,TU,GHAA,NGKYEE,FEUFEUAET"⟩,
   ⟨0x16915, 1, "BAMUM LETTER PHASE-D ", "NDEE,MGBOFUM,LEUAEP,NDON,MONI,MGBEUN,PUUT,MGBIEE,MFO"⟩,
   ⟨0x1691E, 2, "BAMUM LETTER PHASE-D ", "LUM,MBAA,NYET,SOT,KEUM,TEEEE,MFEUAE,KEUP,PEUTAE,LET"⟩,
   ⟨0x1691F, 2, "BAMUM LETTER PHASE-D ", "NSIEEP,KWAET,TEUAEN,YUWOQ,RAEM,NGKEUAEQ,NSIEET,PIP,NYUE"⟩,
   ⟨0x16931, 2, "BAMUM LETTER PHASE-D ", "NGGAAM,NGGWAEN,PAP,NDAM,SUAE,NGGEUX,TUOT,KUQ,TEUN,NGGAP"⟩,
   ⟨0x16932, 2, "BAMUM LETTER PHASE-D ", "MFIEE,YUOM,YUOP,NTEUM,KUN,NGKIEE,MEUN,NSUM,MAENJET,LEUM"⟩,
   ⟨0x16945, 1, "BAMUM LETTER PHASE-D ", "NGGUOM,NSHUT,NJUEQ,GHEUAE,KU,REN OLD,TAE,TOQ,NYI,RII"⟩,
   ⟨0x1694F, 2, "BAMUM LETTER PHASE-D ", "LEEEE,M,MU,SHEUX,NU,NTEE,NI,PUQ,LOQ,TI,MBAA SEVEN,FAA"⟩,
   ⟨0x16950, 2, "BAMUM LETTER PHASE-D ", "MEEEE,SUU,SHII,KYEE,SHU,PEE,SHOQ,MVOP,REN MUCH,NTUU,SAQ"⟩,
   ⟨0x16966, 2, "BAMUM LETTER PHASE-E ", "NDAP,MBEUM,VOM,PAA,RAQ,NDUN,TAM,KPEUX,SEE,PAAM,KUOP"⟩,
   ⟨0x16967, 2, "BAMUM LETTER PHASE-E ", "TOON,LAP,LOON,SOM,NSHUOP,PUAE,NGKA,WUO,NGGEUAET,TOO,LOM"⟩,
   ⟨0x1697C, 1,
    "BAMUM LETTER PHASE-E ", "NSHIEE,NGOP,MAEM,NGKEUX,NGOQ,NSHUE,RIMGBA,NJEUX,PEEM,SAA"⟩,
   ⟨0x16986, 2, "BAMUM LETTER PHASE-E ", "NGGURAE,GHEUX,NJAEMLI,LOOT,NDIQ,SET,NDAA SOFTNESS,YIEE"⟩,
   ⟨0x16987, 2,
    "BAMUM LETTER PHASE-E ", "MGBA,NGKEUAEM,MAP,NGGEEEE,TAEN NTEUM,PUM,NGGUAESHAE NYAM"⟩,
   ⟨0x16995, 1, "BAMUM LETTER PHASE-E ", "GHEUN,TUAE,YEUAE,PO,TUMAE,KEUAE,SUAEN,TEUAEQ,VEUAE,WEUX"⟩,
   ⟨0x1699F, 1, "BAMUM LETTER PHASE-E ", "LAAM,PU,TAAQ,GHAAMAE,NGEUREUT,SHEUAEQ,MGBEN,MBEE,NZAQ"⟩,
   ⟨0x169A8, 1,
    "BAMUM LETTER PHASE-E ", "NKOM,GBET,TUM,KUET,YAP,NYI CLEAVER,YIT,MFEUQ,NDIAQ,PIEEQ"⟩,
   ⟨0x169B2, 1,
    "BAMUM LETTER PHASE-E ", "YUEQ,LEUAEM,FUE,GBEUX,NGKUP,KET,MAE,NGKAAMI,GHET,FA,NTUM"⟩,
   ⟨0x169BD, 2, "BAMUM LETTER PHASE-E ", "PEUT,NGGEUAE,NZUQ,MIEE,NAE,GHEUAE,MVI,NGKUM,PIET,YEUAET"⟩,
   ⟨0x169BE, 2,
    "BAMUM LETTER PHASE-E ", "YEUM,NYI BETWEEN,POON,FUET,MUAE,FU I,PUAQ,KUT,NTAP,NGGUP"⟩,
   ⟨0x169D1, 1, "BAMUM LETTER PHASE-E ", "PA PEOPLE,FU CALL,FOM,NJEE,A,TOQ,O,I,LAQ,PA PLURAL,TAA"⟩,
   ⟨0x169DC, 2, "BAMUM LETTER PHASE-E ", "TAQ,SHIQ,NGUAE,YOQ SWIMMING,YUQ,KEUX,NJEE EPOCH,WUE,VEE"⟩,
   ⟨0x169DD, 2, "BAMUM LETTER PHASE-E ", "NDAA MY HOUSE,YEUX,YUAEN,YOQ COVER,YUN,PEUX,PUE,FEE,LU"⟩,
   ⟨0x169EE, 1, "BAMUM LETTER PHASE-E ", "MI,REUX,RAE,NGUAET,NGA,SHO,SHOQ,FU REMEDY,NA,PI,LOQ,KO"⟩,
   ⟨0x169FA, 1, "BAMUM LETTER PHASE-", "E MEN,E MA,E MAQ,E TEU,E KI,E MON,E TEN,E FAQ,E GHOM,F KA"⟩,
   ⟨0x16A04, 1, "BAMUM LETTER PHASE-F ", "U,KU,EE,REE,TAE,NYI,LA,RII,RIEE,MEEEE,TAA,NDAA,NJAEM,M"⟩,
   ⟨0x16A12, 1, "BAMUM LETTER PHASE-F ", "SUU,SHII,SI,SEUX,KYEE,KET,NUAE,NU,NJUAE,YOQ,SHU,YA,NSHA"⟩,
   ⟨0x16A1F, 2, "BAMUM LETTER PHASE-F ", "PEUX,WUE,RU,REUX,NGKWAEN,SHO,FOM,LI,KO,REN,MO,TET,SAMBA"⟩,
   ⟨0x16A20, 2, "BAMUM LETTER PHASE-F ", "NTEE,PEE,NI,KEN,NGGA,PUAE,WA,LOQ,MBEN,MA,MBAA,KPA,VUEQ"⟩,
   ⟨0x16A40, 2, "MRO LETTER ", "TA,YO,BA,A,KHAI,DAI,KEAAE,MAEM,PA,O,SHI,EA,E,LAN,HAI,TEK"⟩,
   ⟨0x16A41, 2, "MRO LETTER ", "NGI,MIM,DA,PHI,HAO,CHU,OL,NIN,OO,RO,THEA,WA,KO,LA,RI"⟩,
   ⟨0x16A60, 1, "MRO DIGIT ", "ZERO,ONE,TWO,THREE,FOUR,FIVE,SIX,SEVEN,EIGHT,NINE"⟩,
   ⟨0x16A6E, 1, "MRO ", "DANDA,DOUBLE DANDA"⟩,
   ⟨0x16A70, 1, "TANGSA LETTER ", "OZ,OC,OQ,OX,AZ,AC,AQ,AX,VZ,VC,VQ,VX,EZ,EC,EQ,EX,IZ"⟩,
   ⟨0x16A81, 2, "TANGSA LETTER ", "IC,IX,UC,UX,AWC,AWX,UIC,UIX,LONG UEX,SHORT AWX,UEZ,UEX,UIUC"⟩,
   ⟨0x16A82, 2, "TANGSA LETTER ", "IQ,UZ,UQ,AWZ,AWQ,UIZ,UIQ,FINAL NG,SHORT UEZ,UEC,UEQ,UIUZ,UIUQ"⟩,
   ⟨0x16A9B, 2,
    "TANGSA LETTER ", "UIUX,MC,MX,KHA,NGA,YA,PA,PHA,MA,HA,HTA,DA,NHA,CA,GHA,THA,FA,CHA"⟩,
   ⟨0x16A9C, 2, "TANGSA LETTER ", "MZ,MQ,KA,GA,SA,WA,NYA,BA,NA,LA,TA,RA,SHA,TSA,HTTA,XA,DHA,ZA"⟩,
   ⟨0x16AC0, 1, "TANGSA DIGIT ", "ZERO,ONE,TWO,THREE,FOUR,FIVE,SIX,SEVEN,EIGHT,NINE"⟩,
   ⟨0x16AD0, 2, "BASSA VAH LETTER ", "ENNI,SE,MBE,GAH,KPAH,HWAH,ZO,DO,UWU,BA,YEIN,WADDA,O,U,E"⟩,
   ⟨0x16AD1, 2, "BASSA VAH LETTER ", "KA,FA,YIE,DHII,JO,WA,GBU,CE,TO,VU,PA,A,OO,EE,I"⟩,
   ⟨0x16AF0, 1, "BASSA VAH COMBINING ", "HIGH TONE,LOW TONE,MID TONE,LOW-MID TONE,HIGH-LOW TONE"⟩,
   ⟨0x16AF5, 1, "BASSA VAH FULL STOP", ""⟩,
   ⟨0x16B00, 1, "PAHAWH HMONG VOWEL ", "KEEB,KEEV"⟩,
   ⟨0x16B02, 2,
    "PAHAWH HMONG VOWEL ", "KIB,KAUB,KUB,KEB,KAIB,KOOB,KAWB,KUAB,KOB,KIAB,KAB,KWB,KAAB"⟩,
   ⟨0x16B03, 2,
    "PAHAWH HMONG VOWEL ", "KIV,KAUV,KUV,KEV,KAIV,KOOV,KAWV,KUAV,KOV,KIAV,KAV,KWV,KAAV"⟩,
   ⟨0x16B1C, 2, "PAHAWH HMONG CONSONANT ", "VAU,LAU,NLAU,NKAU,YAU,MAU,NCHAU,PLHAU,NAU,XAU"⟩,
   ⟨0x16B1D, 2, "PAHAWH HMONG CONSONANT ", "NTSAU,HAU,RAU,QHAU,HLAU,CHAU,HNAU,NTHAU,AU,CAU"⟩,
   ⟨0x16B30, 1, "PAHAWH HMONG MARK CIM ", "TUB,SO,KES,KHAV,SUAM,HOM,TAUM"⟩,
   ⟨0x16B37, 1, "PAHAWH HMONG SIGN ", "VOS THOM,VOS TSHAB CEEB,CIM CHEEM,VOS THIAB,VOS FEEM"⟩,
   ⟨0x16B3C, 1, "PAHAWH HMONG SIGN XYEEM ", "NTXIV,RHO,TOV,FAIB"⟩,
   ⟨0x16B40, 1, "PAHAWH HMONG SIGN ", "VOS SEEV,MEEJ SUAB,VOS NRUA,IB YAM,XAUS,CIM TSOV ROG"⟩,
   ⟨0x16B50, 1, "PAHAWH HMONG DIGIT ", "ZERO,ONE,TWO,THREE,FOUR,FIVE,SIX,SEVEN,EIGHT,NINE"⟩,
   ⟨0x16B5B, 2, "PAHAWH HMONG NUMBER ", "TENS,TEN THOUSANDS,HUNDRED MILLIONS,TRILLIONS"⟩,
   ⟨0x16B5C, 2, "PAHAWH HMONG NUMBER ", "HUNDREDS,MILLIONS,TEN BILLIONS"⟩,
   ⟨0x16B63, 2, "PAHAWH HMONG SIGN ", "VOS LUB,HLI,ZWJ THAJ,NQIG,NTUJ,TXHEEJ CEEV,TAU,MUS"⟩,
   ⟨0x16B64, 2, "PAHAWH HMONG SIGN ", "XYOO,THIRD-STAGE HLI,HNUB,XIAB,AV,MEEJ TSEEB,LOS"⟩,
   ⟨0x16B72, 2, "PAHAWH HMONG SIGN CIM ", "HAIS LUS NTOG NTOG,TXWV,PUB DAWB"⟩,
   ⟨0x16B73, 2, "PAHAWH HMONG SIGN CIM ", "CUAM TSHOOJ,TXWV CHWV,NRES TOS"⟩,
   ⟨0x16B7D, 2, "PAHAWH HMONG CLAN SIGN ", "TSHEEJ,LIS,XYOOJ,HAWJ,THOJ,PHAB,HAM,FAJ,TSWB,VWJ"⟩,
   ⟨0x16B7E, 2, "PAHAWH HMONG CLAN SIGN ", "YEEG,LAUJ,KOO,MUAS,TSAB,KHAB,VAJ,YAJ,KWM"⟩,
   ⟨0x16E40, 2, "MEDEFAIDRIN CAPITAL LETTER ", "M,V,ATIU,KP,T,F,K,J,B,U,L,HP,X,OE,R,AI"⟩,
   ⟨0x16E41, 2, "MEDEFAIDRIN CAPITAL LETTER ", "S,W,Z,P,G,I,A,E,C,YU,Q,NY,D,N,O,Y"⟩,
   ⟨0x16E60, 2, "MEDEFAIDRIN SMALL LETTER ", "M,V,ATIU,KP,T,F,K,J,B,U,L,HP,X,OE,R,AI"⟩,
   ⟨0x16E61, 2, "MEDEFAIDRIN SMALL LETTER ", "S,W,Z,P,G,I,A,E,C,YU,Q,NY,D,N,O,Y"⟩,
   ⟨0x16E80, 1, "MEDEFAIDRIN DIGIT ", "ZERO,ONE,TWO,THREE,FOUR,FIVE,SIX,SEVEN,EIGHT,NINE"⟩,
   ⟨0x16E8A, 2, "MEDEFAIDRIN NUMBER ", "TEN,TWELVE,FOURTEEN,SIXTEEN,EIGHTEEN"⟩,
   ⟨0x16E8B, 2, "MEDEFAIDRIN NUMBER ", "ELEVEN,THIRTEEN,FIFTEEN,SEVENTEEN,NINETEEN"⟩,
   ⟨0x16E94, 1, "MEDEFAIDRIN DIGIT ", "ONE ALTERNATE FORM,TWO ALTERNATE FORM,THREE ALTERNATE FORM"⟩,
   ⟨0x16E97, 1, "MEDEFAIDRIN ", "COMMA,FULL STOP,SYMBOL AIVA,EXCLAMATION OH"⟩,
   ⟨0x16F00, 2, "MIAO LETTER ", "PA,YI PA,MA,ARCHAIC MA,VA,TA,YI TTA,TTA,NA,YI NNA,NNA,LA,LHA"⟩,
   ⟨0x16F01, 2, "MIAO LETTER ", "BA,PLA,MHA,FA,VFA,DA,YI TA,DDA,NHA,ARCHAIC NA,NNHA,LYA,LHYA"⟩,
   ⟨0x16F1A, 2, "MIAO LETTER ", "TLHA,TLHYA,KA,YI KA,QGA,NGHA,HA,GHA,TSSA,NYA,TSHA,YI TSHA"⟩,
   ⟨0x16F1B, 2, "MIAO LETTER ", "DLHA,DLHYA,GA,QA,NGA,ARCHAIC NGA,XA,GHHA,DZZA,NYHA,DZHA,YI DZHA"⟩,
   ⟨0x16F32, 2, "MIAO LETTER ", "REFORMED TSHA,SSA,ZSHA,DZA,SA,ZSA,ZZSA,ZZYA,WA,HHA,SYI,TE,RTE"⟩,
   ⟨0x16F33, 2, "MIAO LETTER ", "SHA,ZHA,TSA,YI TSA,ZA,ZZA,ARCHAIC ZZA,ZZSYA,AH,BRI,DZYI,TSE"⟩,
   ⟨0x16F4F, 1, "MIAO ", "SIGN CONSONANT MODIFIER BAR,LETTER NASALIZATION,SIGN ASPIRATION"⟩,
   ⟨0x16F52, 1, "MIAO SIGN REFORMED ", "VOICING,ASPIRATION"⟩,
   ⟨0x16F54, 2, "MIAO VOWEL SIGN ", "A,AHH,ANG,OO,W,EN,OEY,IA,IANG,IE,IU,U,UAN"⟩,
   ⟨0x16F55, 2, "MIAO VOWEL SIGN ", "AA,AN,O,WO,E,ENG,I,IAN,IO,II,ING,UA"⟩,
   ⟨0x16F6D, 2, "MIAO VOWEL SIGN ", "UANG,UEI,Y,AE,ERR,ER,AI,AU,N,UOG,OG,VW,EA,UI"⟩,
   ⟨0x16F6E, 2,
    "MIAO VOWEL SIGN ", "UU,UNG,YI,AEE,ROUNDED ERR,ROUNDED ER,EI,OU,NG,YUI,OER,IG,IONG"⟩,
   ⟨0x16F8F, 1, "MIAO TONE ", "RIGHT,TOP RIGHT,ABOVE,BELOW"⟩,
   ⟨0x16F93, 1, "MIAO LETTER TONE-", "2,3,4,5,6,7,8"⟩,
   ⟨0x16F9A, 1, "MIAO LETTER REFORMED TONE-", "1,2,4,5,6,8"⟩,
   ⟨0x16FE0, 1, "", "TANGUT ITERATION MARK,NUSHU ITERATION MARK"⟩,
   ⟨0x16FE2, 1, "", "OLD CHINESE HOOK MARK,OLD CHINESE ITERATION MARK,KHITAN SMALL SCRIPT FILLER"⟩,
   ⟨0x16FF0, 1, "VIETNAMESE ALTERNATE READING MARK ", "CA,NHAY"⟩,
   ⟨0x18800, 2, "TANGUT COMPONENT-", "001,003,005,007,009,011,013,015,017"⟩,
   ⟨0x18801, 2, "TANGUT COMPONENT-", "002,004,006,008,010,012,014,016,018"⟩,
   ⟨0x18812, 2, "TANGUT COMPONENT-", "019,021,023,025,027,029,031,033,035,037,039,041,043,045,047"⟩,
   ⟨0x18813, 2, "TANGUT COMPONENT-", "020,022,024,026,028,030,032,034,036,038,040,042,044,046,048"⟩,
   ⟨0x18830, 2, "TANGUT COMPONENT-", "049,051,053,055,057,059,061,063,065,067,069,071,073,075,077"⟩,
   ⟨0x18831, 2, "TANGUT COMPONENT-", "050,052,054,056,058,060,062,064,066,068,070,072,074,076,078"⟩,
   ⟨0x1884E, 2, "TANGUT COMPONENT-", "079,081,083,085,087,089,091,093,095,097,099,101,103,105,107"⟩,
   ⟨0x1884F, 2, "TANGUT COMPONENT-", "080,082,084,086,088,090,092,094,096,098,100,102,104,106,108"⟩,
   ⟨0x1886C, 2, "TANGUT COMPONENT-", "109,111,113,115,117,119,121,123,125,127,129,131,133,135,137"⟩,
   ⟨0x1886D, 2, "TANGUT COMPONENT-", "110,112,114,116,118,120,122,124,126,128,130,132,134,136,138"⟩,
   ⟨0x1888A, 2, "TANGUT COMPONENT-", "139,141,143,145,147,149,151,153,155,157,159,161,163,165,167"⟩,
   ⟨0x1888B, 2, "TANGUT COMPONENT-", "140,142,144,146,148,150,152,154,156,158,160,162,164,166,168"⟩,
   ⟨0x188A8, 2, "TANGUT COMPONENT-", "169,171,173,175,177,179,181,183,185,187,189,191,193,195,197"⟩,
   ⟨0x188A9, 2, "TANGUT COMPONENT-", "170,172,174,176,178,180,182,184,186,188,190,192,194,196,198"⟩,
   ⟨0x188C6, 2, "TANGUT COMPONENT-", "199,201,203,205,207,209,211,213,215,217,219,221,223,225,227"⟩,
   ⟨0x188C7, 2, "TANGUT COMPONENT-", "200,202,204,206,208,210,212,214,216,218,220,222,224,226,228"⟩,
   ⟨0x188E4, 2, "TANGUT COMPONENT-", "229,231,233,235,237,239,241,243,245,247,249,251,253,255,257"⟩,
   ⟨0x188E5, 2, "TANGUT COMPONENT-", "230,232,234,236,238,240,242,244,246,248,250,252,254,256,258"⟩,
   ⟨0x18902, 2, "TANGUT COMPONENT-", "259,261,263,265,267,269,271,273,275,277,279,281,283,285,287"⟩,
   ⟨0x18903, 2, "TANGUT COMPONENT-", "260,262,264,266,268,270,272,274,276,278,280,282,284,286,288"⟩,
   ⟨0x18920, 2, "TANGUT COMPONENT-", "289,291,293,295,297,299,301,303,305,307,309,311,313,315,317"⟩,
   ⟨0x18921, 2, "TANGUT COMPONENT-", "290,292,294,296,298,300,302,304,306,308,310,312,314,316,318"⟩,
   ⟨0x1893E, 2, "TANGUT COMPONENT-", "319,321,323,325,327,329,331,333,335,337,339,341,343,345,347"⟩,
   ⟨0x1893F, 2, "TANGUT COMPONENT-", "320,322,324,326,328,330,332,334,336,338,340,342,344,346,348"⟩,
   ⟨0x1895C, 2, "TANGUT COMPONENT-", "349,351,353,355,357,359,361,363,365,367,369,371,373,375,377"⟩,
   ⟨0x1895D, 2, "TANGUT COMPONENT-", "350,352,354,356,358,360,362,364,366,368,370,372,374,376,378"⟩,
   ⟨0x1897A, 2, "TANGUT COMPONENT-", "379,381,383,385,387,389,391,393,395,397,399,401,403,405,407"⟩,
   ⟨0x1897B, 2, "TANGUT COMPONENT-", "380,382,384,386,388,390,392,394,396,398,400,402,404,406,408"⟩,
   ⟨0x18998, 2, "TANGUT COMPONENT-", "409,411,413,415,417,419,421,423,425,427,429,431,433,435,437"⟩,
   ⟨0x18999, 2, "TANGUT COMPONENT-", "410,412,414,416,418,420,422,424,426,428,430,432,434,436,438"⟩,
   ⟨0x189B6, 2, "TANGUT COMPONENT-", "439,441,443,445,447,449,451,453,455,457,459,461,463,465,467"⟩,
   ⟨0x189B7, 2, "TANGUT COMPONENT-", "440,442,444,446,448,450,452,454,456,458,460,462,464,466,468"⟩,
   ⟨0x189D4, 2, "TANGUT COMPONENT-", "469,471,473,475,477,479,481,483,485,487,489,491,493,495,497"⟩,
   ⟨0x189D5, 2, "TANGUT COMPONENT-", "470,472,474,476,478,480,482,484,486,488,490,492,494,496,498"⟩,
   ⟨0x189F2, 2, "TANGUT COMPONENT-", "499,501,503,505,507,509,511,513,515,517,519,521,523,525,527"⟩,
   ⟨0x189F3, 2, "TANGUT COMPONENT-", "500,502,504,506,508,510,512,514,516,518,520,522,524,526,528"⟩,
   ⟨0x18A10, 2, "TANGUT COMPONENT-", "529,531,533,535,537,539,541,543,545,547,549,551,553,555,557"⟩,
   ⟨0x18A11, 2, "TANGUT COMPONENT-", "530,532,534,536,538,540,542,544,546,548,550,552,554,556,558"⟩,
   ⟨0x18A2E, 2, "TANGUT COMPONENT-", "559,561,563,565,567,569,571,573,575,577,579,581,583,585,587"⟩,
   ⟨0x18A2F, 2, "TANGUT COMPONENT-", "560,562,564,566,568,570,572,574,576,578,580,582,584,586,588"⟩,
   ⟨0x18A4C, 2, "TANGUT COMPONENT-", "589,591,593,595,597,599,601,603,605,607,609,611,613,615,617"⟩,
   ⟨0x18A4D, 2, "TANGUT COMPONENT-", "590,592,594,596,598,600,602,604,606,608,610,612,614,616,618"⟩,
   ⟨0x18A6A, 2, "TANGUT COMPONENT-", "619,621,623,625,627,629,631,633,635,637,639,641,643,645,647"⟩,
   ⟨0x18A6B, 2, "TANGUT COMPONENT-", "620,622,624,626,628,630,632,634,636,638,640,642,644,646,648"⟩,
   ⟨0x18A88, 2, "TANGUT COMPONENT-", "649,651,653,655,657,659,661,663,665,667,669,671,673,675,677"⟩,
   ⟨0x18A89, 2, "TANGUT COMPONENT-", "650,652,654,656,658,660,662,664,666,668,670,672,674,676,678"⟩,
   ⟨0x18AA6, 2, "TANGUT COMPONENT-", "679,681,683,685,687,689,691,693,695,697,699,701,703,705,707"⟩,
   ⟨0x18AA7, 2, "TANGUT COMPONENT-", "680,682,684,686,688,690,692,694,696,698,700,702,704,706,708"⟩,
   ⟨0x18AC4, 2, "TANGUT COMPONENT-", "709,711,713,715,717,719,721,723,725,727,729,731,733,735,737"⟩,
   ⟨0x18AC5, 2, "TANGUT COMPONENT-", "710,712,714,716,718,720,722,724,726,728,730,732,734,736,738"⟩,
   ⟨0x18AE2, 2, "TANGUT COMPONENT-", "739,741,743,745,747,749,751,753,755,757,759,761,763,765,767"⟩,
   ⟨0x18AE3, 2, "TANGUT COMPONENT-", "740,742,744,746,748,750,752,754,756,758,760,762,764,766,768"⟩,
   ⟨0x1AFF0, 1, "KATAKANA LETTER MINNAN TONE-", "2,3,4,5"⟩,
   ⟨0x1AFF5, 1, "KATAKANA LETTER MINNAN TONE-", "7,8"⟩,
   ⟨0x1AFF7, 1, "KATAKANA LETTER MINNAN NASALIZED TONE-", "1,2,3,4,5"⟩,
   ⟨0x1AFFD, 1, "KATAKANA LETTER MINNAN NASALIZED TONE-", "7,8"⟩,
   ⟨0x1B000, 1, "", "KATAKANA LETTER ARCHAIC E,HIRAGANA LETTER ARCHAIC YE"⟩,
   ⟨0x1B002, 1, "HENTAIGANA LETTER ", "A-1,A-2,A-3,A-WO,I-1,I-2,I-3,I-4,U-1,U-2,U-3,U-4,U-5,E-2"⟩,
   ⟨0x1B010, 2, "HENTAIGANA LETTER ", "E-3,E-5,O-1,O-3,KA-2,KA-4,KA-6,KA-8,KA-10,KA-KE,KI-2,KI-4"⟩,
   ⟨0x1B011, 2, "HENTAIGANA LETTER ", "E-4,E-6,O-2,KA-1,KA-3,KA-5,KA-7,KA-9,KA-11,KI-1,KI-3,KI-5"⟩,
   ⟨0x1B028, 1,
    "HENTAIGANA LETTER ", "KI-6,KI-7,KI-8,KU-1,KU-2,KU-3,KU-4,KU-5,KU-6,KU-7,KE-1,KE-2"⟩,
   ⟨0x1B034, 2,
    "HENTAIGANA LETTER ", "KE-3,KE-5,KO-1,KO-3,SA-1,SA-3,SA-5,SA-7,SI-1,SI-3,SI-5,SU-1"⟩,
   ⟨0x1B035, 2, "HENTAIGANA LETTER ", "KE-4,KE-6,KO-2,KO-KI,SA-2,SA-4,SA-6,SA-8,SI-2,SI-4,SI-6"⟩,
   ⟨0x1B04B, 2,
    "HENTAIGANA LETTER ", "SU-2,SU-4,SU-6,SU-8,SE-2,SE-4,SO-1,SO-3,SO-5,SO-7,TA-2,TA-4"⟩,
   ⟨0x1B04C, 2,
    "HENTAIGANA LETTER ", "SU-3,SU-5,SU-7,SE-1,SE-3,SE-5,SO-2,SO-4,SO-6,TA-1,TA-3,TI-1"⟩,
   ⟨0x1B063, 1, "HENTAIGANA LETTER ", "TI-2,TI-3,TI-4,TI-5,TI-6,TI-7,TU-1,TU-2,TU-3,TU-4,TU-TO"⟩,
   ⟨0x1B06E, 1, "HENTAIGANA LETTER TE-", "1,2,3,4,5,6,7,8,9"⟩,
   ⟨0x1B077, 1, "HENTAIGANA LETTER TO-", "1,2,3,4,5,6,RA"⟩,
   ⟨0x1B07E, 1, "HENTAIGANA LETTER NA-", "1,2,3,4,5,6,7,8,9"⟩,
   ⟨0x1B087, 2,
    "HENTAIGANA LETTER ", "NI-1,NI-3,NI-5,NI-7,NU-1,NU-3,NE-2,NE-4,NE-6,NO-1,NO-3,NO-5"⟩,
   ⟨0x1B088, 2, "HENTAIGANA LETTER ", "NI-2,NI-4,NI-6,NI-TE,NU-2,NE-1,NE-3,NE-5,NE-KO,NO-2,NO-4"⟩,
   ⟨0x1B09E, 1, "HENTAIGANA LETTER HA-", "1,2,3,4,5,6,7,8,9,10,11"⟩,
   ⟨0x1B0A9, 1,
    "HENTAIGANA LETTER ", "HI-1,HI-2,HI-3,HI-4,HI-5,HI-6,HI-7,HU-1,HU-2,HU-3,HE-1,HE-2"⟩,
   ⟨0x1B0B5, 2,
    "HENTAIGANA LETTER ", "HE-3,HE-5,HE-7,HO-2,HO-4,HO-6,HO-8,MA-2,MA-4,MA-6,MI-1,MI-3"⟩,
   ⟨0x1B0B6, 2,
    "HENTAIGANA LETTER ", "HE-4,HE-6,HO-1,HO-3,HO-5,HO-7,MA-1,MA-3,MA-5,MA-7,MI-2,MI-4"⟩,
   ⟨0x1B0CD, 2,
    "HENTAIGANA LETTER ", "MI-5,MI-7,MU-2,MU-4,ME-2,MO-1,MO-3,MO-5,YA-1,YA-3,YA-5,YU-1"⟩,
   ⟨0x1B0CE, 2, "HENTAIGANA LETTER ", "MI-6,MU-1,MU-3,ME-1,ME-MA,MO-2,MO-4,MO-6,YA-2,YA-4,YA-YO"⟩,
   ⟨0x1B0E4, 1,
    "HENTAIGANA LETTER ", "YU-2,YU-3,YU-4,YO-1,YO-2,YO-3,YO-4,YO-5,YO-6,RA-1,RA-2,RA-3"⟩,
   ⟨0x1B0F0, 2,
    "HENTAIGANA LETTER ", "RA-4,RI-2,RI-4,RI-6,RU-1,RU-3,RU-5,RE-1,RE-3,RO-1,RO-3,RO-5"⟩,
   ⟨0x1B0F1, 2,
    "HENTAIGANA LETTER ", "RI-1,RI-3,RI-5,RI-7,RU-2,RU-4,RU-6,RE-2,RE-4,RO-2,RO-4,RO-6"⟩,
   ⟨0x1B108, 2, "HENTAIGANA LETTER ", "WA-1,WA-3,WA-5,WI-2,WI-4,WE-1,WE-3,WO-1,WO-3,WO-5,WO-7"⟩,
   ⟨0x1B109, 2,
    "HENTAIGANA LETTER ", "WA-2,WA-4,WI-1,WI-3,WI-5,WE-2,WE-4,WO-2,WO-4,WO-6,N-MU-MO-1"⟩,
   ⟨0x1B11E, 1, "", "HENTAIGANA LETTER N-MU-MO-2,HIRAGANA LETTER ARCHAIC WU"⟩,
   ⟨0x1B120, 1, "KATAKANA LETTER ARCHAIC ", "YI,YE,WU"⟩,
   ⟨0x1B150, 1, "HIRAGANA LETTER SMALL ", "WI,WE,WO"⟩,
   ⟨0x1B164, 1, "KATAKANA LETTER SMALL ", "WI,WE,WO,N"⟩,
   ⟨0x1BC00, 1, "DUPLOYAN LETTER ", "H,X,P,T,F,K,L,B,D,V,G,R,P N,D S,F N,K M,R S,TH,SLOAN DH"⟩,
   ⟨0x1BC13, 2, "DUPLOYAN LETTER ", "DH,SLOAN J,LH,M,J,M N,J M,M WITH DOT,J WITH DOT,S WITH DOT"⟩,
   ⟨0x1BC14, 2, "DUPLOYAN LETTER ", "KK,HL,RH,N,S,N M,S J,N WITH DOT,J WITH DOTS INSIDE AND ABOVE"⟩,
   ⟨0x1BC26, 2, "DUPLOYAN LETTER ", "S WITH DOT BELOW,N S,S S,N M S,S J S,J N,S T,S P,T S,W,W R"⟩,
   ⟨0x1BC27, 2, "DUPLOYAN LETTER ", "M S,J S,M N S,J M S,J S WITH DOT,J N S,S T R,S P R,T R S,WH"⟩,
   ⟨0x1BC3B, 2, "DUPLOYAN LETTER ", "S N,K R S,S K,A,OA,AOU,E,SHORT I,EE,ROMANIAN I,LONG I,U,XW"⟩,
   ⟨0x1BC3C, 2, "DUPLOYAN LETTER ", "S M,G R S,S K R,SLOAN OW,O,I,IE,UI,SLOAN EH,SLOAN EE,YE,EU"⟩,
   ⟨0x1BC54, 1, "DUPLOYAN LETTER ", "U N,LONG U,ROMANIAN U,UH,SLOAN U,OOH,OW,OU,WA,WO,WI,WEI,WOW"⟩,
   ⟨0x1BC61, 1, "DUPLOYAN LETTER NASAL ", "U,O,I,A"⟩,
   ⟨0x1BC65, 1, "DUPLOYAN LETTER ", "PERNIN AN,PERNIN AM,SLOAN EN,SLOAN AN,SLOAN ON,VOCALIC M"⟩,
   ⟨0x1BC70, 1, "DUPLOYAN AFFIX LEFT HORIZONTAL SECANT", ""⟩,
   ⟨0x1BC71, 2,
    "DUPLOYAN AFFIX ", "MID HORIZONTAL SECANT,LOW VERTICAL SECANT,HIGH VERTICAL SECANT"⟩,
   ⟨0x1BC72, 2, "DUPLOYAN AFFIX ", "RIGHT HORIZONTAL SECANT,MID VERTICAL SECANT"⟩,
   ⟨0x1BC76, 2, "DUPLOYAN AFFIX ATTACHED ", "SECANT,TANGENT,E HOOK,TANGENT HOOK"⟩,
   ⟨0x1BC77, 2, "DUPLOYAN AFFIX ATTACHED ", "LEFT-TO-RIGHT SECANT,TAIL,I HOOK"⟩,
   ⟨0x1BC80, 2, "DUPLOYAN AFFIX HIGH ", "ACUTE,GRAVE,DOT,LINE,VERTICAL"⟩,
   ⟨0x1BC81, 2, "DUPLOYAN AFFIX HIGH ", "TIGHT ACUTE,LONG GRAVE,CIRCLE,WAVE"⟩,
   ⟨0x1BC90, 2, "DUPLOYAN AFFIX LOW ", "ACUTE,GRAVE,DOT,LINE,VERTICAL"⟩,
   ⟨0x1BC91, 2, "DUPLOYAN AFFIX LOW ", "TIGHT ACUTE,LONG GRAVE,CIRCLE,WAVE,ARROW"⟩,
   ⟨0x1BC9C, 2, "DUPLOYAN ", "SIGN O WITH CROSS,DOUBLE MARK"⟩,
   ⟨0x1BC9D, 2, "DUPLOYAN ", "THICK LETTER SELECTOR,PUNCTUATION CHINOOK FULL STOP"⟩,
   ⟨0x1BCA0, 1, "SHORTHAND FORMAT ", "LETTER OVERLAP,CONTINUING OVERLAP,DOWN STEP,UP STEP"⟩,
   ⟨0x1CF00, 2, "ZNAMENNY COMBINING MARK ", "GORAZDO NIZKO S KRYZHEM ON LEFT,TSATA ON LEFT"⟩,
   ⟨0x1CF01, 2, "ZNAMENNY COMBINING MARK ", "NIZKO S KRYZHEM ON LEFT,GORAZDO NIZKO ON LEFT"⟩,
   ⟨0x1CF04, 1, "ZNAMENNY COMBINING MARK ", "NIZKO ON LEFT,SREDNE ON LEFT,MALO POVYSHE ON LEFT"⟩,
   ⟨0x1CF07, 2, "ZNAMENNY COMBINING MARK ", "POVYSHE ON LEFT,MALO POVYSHE S KHOKHLOM ON LEFT"⟩,
   ⟨0x1CF08, 2, "ZNAMENNY COMBINING MARK ", "VYSOKO ON LEFT,POVYSHE S KHOKHLOM ON LEFT"⟩,
   ⟨0x1CF0B, 2, "ZNAMENNY COMBINING MARK ", "VYSOKO S KHOKHLOM ON LEFT,NIZKO S KRYZHEM ON RIGHT"⟩,
   ⟨0x1CF0C, 2, "ZNAMENNY COMBINING MARK ", "GORAZDO NIZKO S KRYZHEM ON RIGHT,TSATA ON RIGHT"⟩,
   ⟨0x1CF0F, 2, "ZNAMENNY COMBINING MARK ", "GORAZDO NIZKO ON RIGHT,SREDNE ON RIGHT"⟩,
   ⟨0x1CF10, 2, "ZNAMENNY COMBINING MARK ", "NIZKO ON RIGHT,MALO POVYSHE ON RIGHT"⟩,
   ⟨0x1CF13, 2, "ZNAMENNY COMBINING MARK ", "POVYSHE ON RIGHT,MALO POVYSHE S KHOKHLOM ON RIGHT"⟩,
   ⟨0x1CF14, 2, "ZNAMENNY COMBINING MARK ", "VYSOKO ON RIGHT,POVYSHE S KHOKHLOM ON RIGHT"⟩,
   ⟨0x1CF17, 2, "ZNAMENNY COMBINING MARK ", "VYSOKO S KHOKHLOM ON RIGHT,MALO POVYSHE S KRYZHEM"⟩,
   ⟨0x1CF18, 2, "ZNAMENNY COMBINING MARK ", "TSATA S KRYZHEM,STRANNO MALO POVYSHE"⟩,
   ⟨0x1CF1B, 1, "ZNAMENNY COMBINING MARK POVYSHE ", "S KRYZHEM,STRANNO"⟩,
   ⟨0x1CF1D, 1, "ZNAMENNY COMBINING MARK ", "VYSOKO S KRYZHEM,MALO POVYSHE STRANNO,GORAZDO VYSOKO"⟩,
   ⟨0x1CF20, 2, "ZNAMENNY COMBINING MARK ", "ZELO,RAVNO,BORZAYA,PODVERTKA,KUPNAYA,ZEVOK,RAZSEKA"⟩,
   ⟨0x1CF21, 2, "ZNAMENNY COMBINING MARK ", "ON,TIKHAYA,UDARKA,LOMKA,KACHKA,SKOBA,KRYZH ON LEFT"⟩,
   ⟨0x1CF30, 1, "ZNAMENNY COMBINING TONAL RANGE MARK ", "MRACHNO,SVETLO,TRESVETLO"⟩,
   ⟨0x1CF33, 2, "ZNAMENNY COMBINING MARK ", "ZADERZHKA,OTSECHKA,PODCHASHIE WITH VERTICAL STROKE"⟩,
   ⟨0x1CF34, 2, "ZNAMENNY COMBINING MARK ", "DEMESTVENNY ZADERZHKA,PODCHASHIE,CHASHKA"⟩,
   ⟨0x1CF39, 1, "ZNAMENNY COMBINING MARK ", "CHASHKA POLNAYA,OBLACHKO,SOROCHYA NOZHKA,TOCHKA"⟩,
   ⟨0x1CF3D, 1, "ZNAMENNY COMBINING ", "MARK DVOETOCHIE,ATTACHING VERTICAL OMET"⟩,
   ⟨0x1CF3F, 1, "ZNAMENNY COMBINING ", "MARK CURVED OMET,MARK KRYZH,LOWER TONAL RANGE INDICATOR"⟩,
   ⟨0x1CF42, 1, "ZNAMENNY PRIZNAK MODIFIER ", "LEVEL-2,LEVEL-3,DIRECTION FLIP,KRYZH,ROG"⟩,
   ⟨0x1CF50, 1, "ZNAMENNY NEUME ", "KRYUK,KRYUK TIKHY,PARAKLIT,DVA V CHELNU,KLYUCH,ZANOZHEK"⟩,
   ⟨0x1CF56, 1, "ZNAMENNY NEUME ", "STOPITSA,STOPITSA S OCHKOM,PEREVODKA,PEREVODKA NEPOSTOYANNAYA"⟩,
   ⟨0x1CF5A, 1, "ZNAMENNY NEUME ", "STOPITSA WITH SOROCHYA NOZHKA,CHELYUSTKA,PALKA,ZAPYATAYA"⟩,
   ⟨0x1CF5E, 1, "ZNAMENNY NEUME GOLUBCHIK ", "BORZY,TIKHY,MRACHNY,SVETLY,TRESVETLY"⟩,
   ⟨0x1CF63, 1, "ZNAMENNY NEUME VRAKHIYA ", "PROSTAYA,MRACHNAYA,SVETLAYA,TRESVETLAYA"⟩,
   ⟨0x1CF67, 1, "ZNAMENNY NEUME VRAKHIYA KLYUCHEVAYA ", "PROSTAYA,MRACHNAYA,SVETLAYA,TRESVETLAYA"⟩,
   ⟨0x1CF6B, 1, "ZNAMENNY NEUME ", "DOUBLE ZAPYATAYA,REVERSED CHELYUSTKA,DERBITSA,KHAMILO,CHASHKA"⟩,
   ⟨0x1CF70, 2, "ZNAMENNY NEUME ", "PODCHASHIE,SKAMEYTSA SVETLAYA,SKAMEYTSA TIKHAYA"⟩,
   ⟨0x1CF71, 2, "ZNAMENNY NEUME ", "SKAMEYTSA MRACHNAYA,SKAMEYTSA TRESVETLAYA,DEMESTVENNY KLYUCH"⟩,
   ⟨0x1CF76, 2, "ZNAMENNY NEUME SKAMEYTSA KLYUCHEVAYA ", "SVETLAYA,TIKHAYA"⟩,
   ⟨0x1CF77, 2, "ZNAMENNY NEUME SKAMEYTSA ", "KLYUCHENEPOSTOYANNAYA,DVOECHELNAYA PROSTAYA"⟩,
   ⟨0x1CF7A, 1, "ZNAMENNY NEUME SKAMEYTSA DVOECHELNAYA ", "SVETLAYA,NEPOSTOYANNAYA,KLYUCHEVAYA"⟩,
   ⟨0x1CF7D, 2, "ZNAMENNY NEUME ", "SLOZHITIE,SLOZHITIE ZAKRYTOE,KRYZH,FITA,ZMEYTSA"⟩,
   ⟨0x1CF7E, 2, "ZNAMENNY NEUME ", "SLOZHITIE S ZAPYATOY,SLOZHITIE S KRYZHEM,ROG,KOBYLA,STATYA"⟩,
   ⟨0x1CF87, 1, "ZNAMENNY NEUME STATYA S ", "ZAPYATOY,KRYZHEM,ZAPYATOY I KRYZHEM"⟩,
   ⟨0x1CF8A, 1, "ZNAMENNY NEUME STATYA ", "S KRYZHEM I ZAPYATOY,ZAKRYTAYA,ZAKRYTAYA S ZAPYATOY"⟩,
   ⟨0x1CF8D, 1, "ZNAMENNY NEUME STATYA S ", "ROGOM,DVUMYA ZAPYATYMI,ZAPYATOY I PODCHASHIEM"⟩,
   ⟨0x1CF90, 1, "ZNAMENNY NEUME ", "POLKULIZMY,STATYA NEPOSTOYANNAYA,STRELA PROSTAYA"⟩,
   ⟨0x1CF93, 1, "ZNAMENNY NEUME STRELA ", "MRACHNOTIKHAYA,KRYZHEVAYA,POLUPOVODNAYA,POVODNAYA"⟩,
   ⟨0x1CF97, 2, "ZNAMENNY NEUME STRELA ", "NEPOSTOYANNAYA,KLYUCHENEPOSTOYANNAYA,DVOECHELNAYA"⟩,
   ⟨0x1CF98, 2, "ZNAMENNY NEUME STRELA ", "KLYUCHEPOVODNAYA,TIKHAYA PUTNAYA,DVOECHELNOKRYZHEVAYA"⟩,
   ⟨0x1CF9D, 2, "ZNAMENNY NEUME STRELA ", "DVOECHELNOPOVODNAYA,DVOECHELNOPOVODNAYA KLYUCHEVAYA"⟩,
   ⟨0x1CF9E, 2,
    "ZNAMENNY NEUME STRELA ", "DVOECHELNAYA KLYUCHEVAYA,GROMNAYA WITH SINGLE ZAPYATAYA"⟩,
   ⟨0x1CFA1, 2, "ZNAMENNY NEUME STRELA ", "GROMOPOVODNAYA WITH SINGLE ZAPYATAYA,GROMOPOVODNAYA"⟩,
   ⟨0x1CFA2, 2, "ZNAMENNY NEUME STRELA ", "GROMNAYA,GROMOPOVODNAYA WITH DOUBLE ZAPYATAYA"⟩,
   ⟨0x1CFA5, 1,
    "ZNAMENNY NEUME ", "STRELA GROMOKRYZHEVAYA,STRELA GROMOKRYZHEVAYA POVODNAYA,MECHIK"⟩,
   ⟨0x1CFA8, 1, "ZNAMENNY NEUME MECHIK ", "POVODNY,KLYUCHEVOY,KLYUCHEPOVODNY,KLYUCHENEPOSTOYANNY"⟩,
   ⟨0x1CFAC, 1, "ZNAMENNY NEUME STRELA ", "TRYASOGLASNAYA,TRYASOPOVODNAYA,TRYASOSTRELNAYA"⟩,
   ⟨0x1CFAF, 1, "ZNAMENNY NEUME OSOKA", ""⟩,
   ⟨0x1CFB0, 2, "ZNAMENNY NEUME OSOKA ", "SVETLAYA,KRYUKOVAYA SVETLAYA,KLYUCHEVAYA NEPOSTOYANNAYA"⟩,
   ⟨0x1CFB1, 2,
    "ZNAMENNY NEUME ", "OSOKA TRESVETLAYA,OSOKA KLYUCHEVAYA SVETLAYA,STRELA KRYUKOVAYA"⟩,
   ⟨0x1CFB6, 1, "ZNAMENNY NEUME STRELA KRYUKOVAYA ", "POVODNAYA,GROMNAYA WITH SINGLE ZAPYATAYA"⟩,
   ⟨0x1CFB8, 1, "ZNAMENNY NEUME STRELA KRYUKOVAYA GROMOPOVODNAYA WITH SINGLE ZAPYATAYA", ""⟩,
   ⟨0x1CFB9, 1, "ZNAMENNY NEUME STRELA KRYUKOVAYA ", "GROMNAYA,GROMOPOVODNAYA"⟩,
   ⟨0x1CFBB, 1, "ZNAMENNY NEUME STRELA KRYUKOVAYA GROMOPOVODNAYA WITH DOUBLE ZAPYATAYA", ""⟩,
   ⟨0x1CFBC, 1, "ZNAMENNY NEUME STRELA KRYUKOVAYA ", "GROMOKRYZHEVAYA,GROMOKRYZHEVAYA POVODNAYA"⟩,
   ⟨0x1CFBE, 1, "ZNAMENNY NEUME ", "STRELA KRYUKOVAYA TRYASKA,KUFISMA,OBLAKO,DUDA,NEMKA,PAUK"⟩]

end RegexSubst.Unicode
