import RegexSubst.Unicode.Name.Run

/-!
# `RegexSubst.Unicode.Name.Syllabary`: names of U+A000 to U+F8FF

Yi to Meetei Mayek, but no Hangul syllables.
-/

set_option autoImplicit false

namespace RegexSubst.Unicode

/-- The names of U+A000 to U+F8FF. -/
def syllabaryNames : List NameRun :=
  [⟨0xA000, 1,
    "YI SYLLABLE ", "IT,IX,I,IP,IET,IEX,IE,IEP,AT,AX,A,AP,UOX,UO,UOP,OT,OX,O,OP,EX,E,WU"⟩,
   ⟨0xA016, 1,
    "YI SYLLABLE ", "BIT,BIX,BI,BIP,BIET,BIEX,BIE,BIEP,BAT,BAX,BA,BAP,BUOX,BUO,BUOP,BOT"⟩,
   ⟨0xA026, 1, "YI SYLLABLE ", "BOX,BO,BOP,BEX,BE,BEP,BUT,BUX,BU,BUP,BURX,BUR,BYT,BYX,BY,BYP,BYRX"⟩,
   ⟨0xA037, 2, "YI SYLLABLE ", "BYR,PIX,PIP,PIE,PAT,PA,PUOX,PUOP,POX,POP,PUX,PUP,PUR,PYX,PYP,PYR"⟩,
   ⟨0xA038, 2, "YI SYLLABLE ", "PIT,PI,PIEX,PIEP,PAX,PAP,PUO,POT,PO,PUT,PU,PURX,PYT,PY,PYRX,BBIT"⟩,
   ⟨0xA057, 2, "YI SYLLABLE ", "BBIX,BBIP,BBIEX,BBIEP,BBAX,BBAP,BBUO,BBOT,BBO,BBEX,BBEP,BBUX,BBUP"⟩,
   ⟨0xA058, 2, "YI SYLLABLE ", "BBI,BBIET,BBIE,BBAT,BBA,BBUOX,BBUOP,BBOX,BBOP,BBE,BBUT,BBU,BBURX"⟩,
   ⟨0xA071, 2, "YI SYLLABLE ", "BBUR,BBYX,BBYP,NBIX,NBIP,NBIE,NBAT,NBA,NBOT,NBO,NBUT,NBU,NBURX"⟩,
   ⟨0xA072, 2, "YI SYLLABLE ", "BBYT,BBY,NBIT,NBI,NBIEX,NBIEP,NBAX,NBAP,NBOX,NBOP,NBUX,NBUP,NBUR"⟩,
   ⟨0xA08B, 2, "YI SYLLABLE ", "NBYT,NBY,NBYRX,HMIT,HMI,HMIEX,HMIEP,HMAX,HMAP,HMUO,HMOT,HMO,HMUT"⟩,
   ⟨0xA08C, 2, "YI SYLLABLE ", "NBYX,NBYP,NBYR,HMIX,HMIP,HMIE,HMAT,HMA,HMUOX,HMUOP,HMOX,HMOP,HMUX"⟩,
   ⟨0xA0A5, 1, "YI SYLLABLE ", "HMU,HMUP,HMURX,HMUR,HMYX,HMY,HMYP,HMYRX,HMYR,MIT,MIX,MI,MIP,MIEX"⟩,
   ⟨0xA0B3, 2, "YI SYLLABLE ", "MIE,MAT,MA,MUOT,MUO,MOT,MO,MEX,MUT,MU,MURX,MYT,MY,FIT,FI,FAT,FA"⟩,
   ⟨0xA0B4, 2, "YI SYLLABLE ", "MIEP,MAX,MAP,MUOX,MUOP,MOX,MOP,ME,MUX,MUP,MUR,MYX,MYP,FIX,FIP,FAX"⟩,
   ⟨0xA0D4, 2, "YI SYLLABLE ", "FAP,FO,FUT,FU,FURX,FYT,FY,VIT,VI,VIET,VIE,VAT,VA,VOT,VO,VEX,VUT"⟩,
   ⟨0xA0D5, 2, "YI SYLLABLE ", "FOX,FOP,FUX,FUP,FUR,FYX,FYP,VIX,VIP,VIEX,VIEP,VAX,VAP,VOX,VOP,VEP"⟩,
   ⟨0xA0F5, 2,
    "YI SYLLABLE ", "VUX,VUP,VUR,VYX,VYP,VYR,DIX,DIP,DIE,DAT,DA,DUOX,DOT,DO,DEX,DEP,DUX"⟩,
   ⟨0xA0F6, 2,
    "YI SYLLABLE ", "VU,VURX,VYT,VY,VYRX,DIT,DI,DIEX,DIEP,DAX,DAP,DUO,DOX,DOP,DE,DUT,DU"⟩,
   ⟨0xA117, 1,
    "YI SYLLABLE ", "DUP,DURX,DUR,TIT,TIX,TI,TIP,TIEX,TIE,TIEP,TAT,TAX,TA,TAP,TUOT,TUOX"⟩,
   ⟨0xA127, 2,
    "YI SYLLABLE ", "TUO,TOT,TO,TEX,TEP,TUX,TUP,TUR,DDIX,DDIP,DDIE,DDAT,DDA,DDUOX,DDUOP"⟩,
   ⟨0xA128, 2, "YI SYLLABLE ", "TUOP,TOX,TOP,TE,TUT,TU,TURX,DDIT,DDI,DDIEX,DDIEP,DDAX,DDAP,DDUO"⟩,
   ⟨0xA144, 2, "YI SYLLABLE ", "DDOT,DDO,DDEX,DDEP,DDUX,DDUP,DDUR,NDIX,NDIP,NDIE,NDAX,NDAP,NDOX"⟩,
   ⟨0xA145, 2, "YI SYLLABLE ", "DDOX,DDOP,DDE,DDUT,DDU,DDURX,NDIT,NDI,NDIEX,NDAT,NDA,NDOT,NDO"⟩,
   ⟨0xA15E, 2, "YI SYLLABLE ", "NDOP,NDE,NDUT,NDU,NDURX,HNIT,HNI,HNIET,HNIE,HNAT,HNA,HNUOX,HNOT"⟩,
   ⟨0xA15F, 2,
    "YI SYLLABLE ", "NDEX,NDEP,NDUX,NDUP,NDUR,HNIX,HNIP,HNIEX,HNIEP,HNAX,HNAP,HNUO,HNOX"⟩,
   ⟨0xA178, 2, "YI SYLLABLE ", "HNOP,HNE,HNUT,NIX,NIP,NIE,NAX,NAP,NUO,NOT,NO,NEX,NEP,NUX,NUP,NUR"⟩,
   ⟨0xA179, 2, "YI SYLLABLE ", "HNEX,HNEP,NIT,NI,NIEX,NIEP,NA,NUOX,NUOP,NOX,NOP,NE,NUT,NU,NURX"⟩,
   ⟨0xA197, 2, "YI SYLLABLE ", "HLIT,HLI,HLIEX,HLIEP,HLAX,HLAP,HLUO,HLOX,HLOP,HLE,HLUT,HLU,HLURX"⟩,
   ⟨0xA198, 2, "YI SYLLABLE ", "HLIX,HLIP,HLIE,HLAT,HLA,HLUOX,HLUOP,HLO,HLEX,HLEP,HLUX,HLUP,HLUR"⟩,
   ⟨0xA1B1, 2, "YI SYLLABLE ", "HLYT,HLY,HLYRX,LIT,LI,LIET,LIE,LAT,LA,LUOT,LUO,LOT,LO,LEX,LEP,LUX"⟩,
   ⟨0xA1B2, 2, "YI SYLLABLE ", "HLYX,HLYP,HLYR,LIX,LIP,LIEX,LIEP,LAX,LAP,LUOX,LUOP,LOX,LOP,LE,LUT"⟩,
   ⟨0xA1D0, 1, "YI SYLLABLE ", "LU,LUP,LURX,LUR,LYT,LYX,LY,LYP,LYRX,LYR,GIT,GIX,GI,GIP,GIET,GIEX"⟩,
   ⟨0xA1E0, 2,
    "YI SYLLABLE ", "GIE,GAT,GA,GUOT,GUO,GOT,GO,GET,GE,GUT,GU,GURX,KIT,KI,KIEX,KIEP,KAX"⟩,
   ⟨0xA1E1, 2,
    "YI SYLLABLE ", "GIEP,GAX,GAP,GUOX,GUOP,GOX,GOP,GEX,GEP,GUX,GUP,GUR,KIX,KIP,KIE,KAT"⟩,
   ⟨0xA201, 1, "YI SYLLABLE ", "KA,KAP,KUOX,KUO,KUOP,KOT,KOX,KO,KOP,KET,KEX,KE,KEP,KUT,KUX,KU,KUP"⟩,
   ⟨0xA212, 1, "YI SYLLABLE ", "KURX,KUR,GGIT,GGIX,GGI,GGIEX,GGIE,GGIEP,GGAT,GGAX,GGA,GGAP,GGUOT"⟩,
   ⟨0xA21F, 2,
    "YI SYLLABLE ", "GGUOX,GGUOP,GGOX,GGOP,GGEX,GGEP,GGUX,GGUP,GGUR,MGIE,MGAX,MGAP,MGUO"⟩,
   ⟨0xA220, 2, "YI SYLLABLE ", "GGUO,GGOT,GGO,GGET,GGE,GGUT,GGU,GGURX,MGIEX,MGAT,MGA,MGUOX,MGUOP"⟩,
   ⟨0xA239, 2, "YI SYLLABLE ", "MGOT,MGO,MGEX,MGEP,MGUX,MGUP,MGUR,HXIX,HXIP,HXIEX,HXIEP,HXAX,HXAP"⟩,
   ⟨0xA23A, 2, "YI SYLLABLE ", "MGOX,MGOP,MGE,MGUT,MGU,MGURX,HXIT,HXI,HXIET,HXIE,HXAT,HXA,HXUOT"⟩,
   ⟨0xA253, 1,
    "YI SYLLABLE ", "HXUOX,HXUO,HXUOP,HXOT,HXOX,HXO,HXOP,HXEX,HXE,HXEP,NGIEX,NGIE,NGIEP"⟩,
   ⟨0xA260, 1, "YI SYLLABLE ", "NGAT,NGAX,NGA,NGAP,NGUOT,NGUOX,NGUO,NGOT,NGOX,NGO,NGOP,NGEX,NGE"⟩,
   ⟨0xA26D, 1,
    "YI SYLLABLE ", "NGEP,HIT,HIEX,HIE,HAT,HAX,HA,HAP,HUOT,HUOX,HUO,HUOP,HOT,HOX,HO,HOP"⟩,
   ⟨0xA27D, 2,
    "YI SYLLABLE ", "HEX,HEP,WAX,WAP,WUO,WOX,WOP,WE,ZIT,ZI,ZIEX,ZIEP,ZAX,ZAP,ZUO,ZOT,ZO"⟩,
   ⟨0xA27E, 2, "YI SYLLABLE ", "HE,WAT,WA,WUOX,WUOP,WO,WEX,WEP,ZIX,ZIP,ZIE,ZAT,ZA,ZUOX,ZUOP,ZOX"⟩,
   ⟨0xA29E, 1,
    "YI SYLLABLE ", "ZOP,ZEX,ZE,ZEP,ZUT,ZUX,ZU,ZUP,ZURX,ZUR,ZYT,ZYX,ZY,ZYP,ZYRX,ZYR,CIT"⟩,
   ⟨0xA2AF, 1,
    "YI SYLLABLE ", "CIX,CI,CIP,CIET,CIEX,CIE,CIEP,CAT,CAX,CA,CAP,CUOX,CUO,CUOP,COT,COX"⟩,
   ⟨0xA2BF, 2,
    "YI SYLLABLE ", "CO,CEX,CEP,CUX,CUP,CUR,CYX,CYP,CYR,ZZIX,ZZIP,ZZIEX,ZZIEP,ZZAX,ZZAP"⟩,
   ⟨0xA2C0, 2, "YI SYLLABLE ", "COP,CE,CUT,CU,CURX,CYT,CY,CYRX,ZZIT,ZZI,ZZIET,ZZIE,ZZAT,ZZA,ZZOX"⟩,
   ⟨0xA2DD, 1,
    "YI SYLLABLE ", "ZZO,ZZOP,ZZEX,ZZE,ZZEP,ZZUX,ZZU,ZZUP,ZZURX,ZZUR,ZZYT,ZZYX,ZZY,ZZYP"⟩,
   ⟨0xA2EB, 2, "YI SYLLABLE ", "ZZYRX,NZIT,NZI,NZIEX,NZIEP,NZAX,NZAP,NZUO,NZOP,NZE,NZU,NZURX,NZYT"⟩,
   ⟨0xA2EC, 2, "YI SYLLABLE ", "ZZYR,NZIX,NZIP,NZIE,NZAT,NZA,NZUOX,NZOX,NZEX,NZUX,NZUP,NZUR,NZYX"⟩,
   ⟨0xA305, 2, "YI SYLLABLE ", "NZY,NZYRX,SIT,SI,SIEX,SIEP,SAX,SAP,SUO,SOT,SO,SEX,SEP,SUX,SUP,SUR"⟩,
   ⟨0xA306, 2, "YI SYLLABLE ", "NZYP,NZYR,SIX,SIP,SIE,SAT,SA,SUOX,SUOP,SOX,SOP,SE,SUT,SU,SURX,SYT"⟩,
   ⟨0xA325, 1, "YI SYLLABLE ", "SYX,SY,SYP,SYRX,SYR,SSIT,SSIX,SSI,SSIP,SSIEX,SSIE,SSIEP,SSAT,SSAX"⟩,
   ⟨0xA333, 2, "YI SYLLABLE ", "SSA,SSOT,SSO,SSEX,SSEP,SSUX,SSUP,SSYX,SSYP,SSYR,ZHAX,ZHAP,ZHUO"⟩,
   ⟨0xA334, 2, "YI SYLLABLE ", "SSAP,SSOX,SSOP,SSE,SSUT,SSU,SSYT,SSY,SSYRX,ZHAT,ZHA,ZHUOX,ZHUOP"⟩,
   ⟨0xA34D, 2, "YI SYLLABLE ", "ZHOT,ZHO,ZHET,ZHE,ZHUT,ZHU,ZHURX,ZHYT,ZHY,ZHYRX,CHAT,CHA,CHUOT"⟩,
   ⟨0xA34E, 2, "YI SYLLABLE ", "ZHOX,ZHOP,ZHEX,ZHEP,ZHUX,ZHUP,ZHUR,ZHYX,ZHYP,ZHYR,CHAX,CHAP,CHUOX"⟩,
   ⟨0xA367, 2,
    "YI SYLLABLE ", "CHUO,CHOT,CHO,CHET,CHE,CHUX,CHUP,CHUR,CHYX,CHYP,CHYR,RRA,RRUO,RROX"⟩,
   ⟨0xA368, 2,
    "YI SYLLABLE ", "CHUOP,CHOX,CHOP,CHEX,CHEP,CHU,CHURX,CHYT,CHY,CHYRX,RRAX,RRUOX,RROT"⟩,
   ⟨0xA382, 2,
    "YI SYLLABLE ", "RRO,RRET,RRE,RRUT,RRU,RRURX,RRYT,RRY,RRYRX,NRAT,NRA,NROX,NROP,NREX"⟩,
   ⟨0xA383, 2, "YI SYLLABLE ", "RROP,RREX,RREP,RRUX,RRUP,RRUR,RRYX,RRYP,RRYR,NRAX,NRAP,NRO,NRET"⟩,
   ⟨0xA39D, 2, "YI SYLLABLE ", "NRE,NRUT,NRU,NRURX,NRYT,NRY,NRYRX,SHAT,SHA,SHUOX,SHUOP,SHOX,SHOP"⟩,
   ⟨0xA39E, 2, "YI SYLLABLE ", "NREP,NRUX,NRUP,NRUR,NRYX,NRYP,NRYR,SHAX,SHAP,SHUO,SHOT,SHO,SHET"⟩,
   ⟨0xA3B7, 2,
    "YI SYLLABLE ", "SHEX,SHEP,SHUX,SHUP,SHUR,SHYX,SHYP,SHYR,RAX,RAP,RUO,ROT,RO,REX,REP"⟩,
   ⟨0xA3B8, 2, "YI SYLLABLE ", "SHE,SHUT,SHU,SHURX,SHYT,SHY,SHYRX,RAT,RA,RUOX,RUOP,ROX,ROP,RE,RUT"⟩,
   ⟨0xA3D5, 1, "YI SYLLABLE ", "RUX,RU,RUP,RURX,RUR,RYT,RYX,RY,RYP,RYRX,RYR,JIT,JIX,JI,JIP,JIET"⟩,
   ⟨0xA3E5, 1, "YI SYLLABLE ", "JIEX,JIE,JIEP,JUOT,JUOX,JUO,JUOP,JOT,JOX,JO,JOP,JUT,JUX,JU,JUP"⟩,
   ⟨0xA3F4, 1,
    "YI SYLLABLE ", "JURX,JUR,JYT,JYX,JY,JYP,JYRX,JYR,QIT,QIX,QI,QIP,QIET,QIEX,QIE,QIEP"⟩,
   ⟨0xA404, 2, "YI SYLLABLE ", "QUOT,QUO,QOT,QO,QUT,QU,QURX,QYT,QY,QYRX,JJIT,JJI,JJIET,JJIE,JJUOX"⟩,
   ⟨0xA405, 2, "YI SYLLABLE ", "QUOX,QUOP,QOX,QOP,QUX,QUP,QUR,QYX,QYP,QYR,JJIX,JJIP,JJIEX,JJIEP"⟩,
   ⟨0xA421, 2, "YI SYLLABLE ", "JJUO,JJOT,JJO,JJUT,JJU,JJURX,JJYT,JJY,NJIT,NJI,NJIET,NJIE"⟩,
   ⟨0xA422, 2, "YI SYLLABLE ", "JJUOP,JJOX,JJOP,JJUX,JJUP,JJUR,JJYX,JJYP,NJIX,NJIP,NJIEX,NJIEP"⟩,
   ⟨0xA439, 2,
    "YI SYLLABLE ", "NJUOX,NJOT,NJO,NJUX,NJUP,NJUR,NJYX,NJYP,NJYR,NYIX,NYIP,NYIEX,NYIEP"⟩,
   ⟨0xA43A, 2, "YI SYLLABLE ", "NJUO,NJOX,NJOP,NJU,NJURX,NJYT,NJY,NJYRX,NYIT,NYI,NYIET,NYIE,NYUOX"⟩,
   ⟨0xA453, 2, "YI SYLLABLE ", "NYUO,NYOT,NYO,NYUT,NYU,XIT,XI,XIET,XIE,XUOX,XOT,XO,XYT,XY"⟩,
   ⟨0xA454, 2, "YI SYLLABLE ", "NYUOP,NYOX,NYOP,NYUX,NYUP,XIX,XIP,XIEX,XIEP,XUO,XOX,XOP,XYX,XYP"⟩,
   ⟨0xA46F, 2, "YI SYLLABLE ", "XYRX,YIT,YI,YIET,YIE,YUOT,YUO,YOT,YO,YUT,YU,YURX,YYT,YY,YYRX"⟩,
   ⟨0xA470, 2, "YI SYLLABLE ", "XYR,YIX,YIP,YIEX,YIEP,YUOX,YUOP,YOX,YOP,YUX,YUP,YUR,YYX,YYP,YYR"⟩,
   ⟨0xA490, 2, "YI RADICAL ", "QOT,KIT,CYP,GGOP,MI,LYR,MOP,PUT,TAT,ZUP,DDUR,GGUO"⟩,
   ⟨0xA491, 2, "YI RADICAL ", "LI,NYIP,SSI,GEP,HXIT,BBUT,YO,HXUO,GA,CYT,BUR"⟩,
   ⟨0xA4A7, 2, "YI RADICAL ", "NYOP,OP,ZOT,HMO,VUR,VEP,JO,JJY,JJIE,DU,LIE,CUOP,HXOP,ZUR,CHE,NBIE"⟩,
   ⟨0xA4A8, 2, "YI RADICAL ", "TU,JJUT,PYT,YIT,SHY,ZA,NZUP,GOT,WO,SHUR,CY,CIP,SHAT,SHOP,ZZIET,KE"⟩,
   ⟨0xA4D0, 2, "LISU LETTER ", "BA,PHA,TA,GA,KHA,CA,DZA,TSHA,NA,SA,ZA,HA,HHA,WA,YA,A,E,I,U,UH"⟩,
   ⟨0xA4D1, 2, "LISU LETTER ", "PA,DA,THA,KA,JA,CHA,TSA,MA,LA,ZHA,NGA,XA,FA,SHA,GHA,AE,EU,O,UE,OE"⟩,
   ⟨0xA4F8, 1, "LISU LETTER TONE ", "MYA TI,NA PO,MYA CYA,MYA BO,MYA NA,MYA JEU"⟩,
   ⟨0xA4FE, 1, "LISU PUNCTUATION ", "COMMA,FULL STOP"⟩,
   ⟨0xA500, 2,
    "VAI SYLLABLE ", "EE,HEE,WEEN,BHEE,MBEE,MGBEE,FEE,TEE,DHEE,LEE,DEE,SEE,ZEE,CEE,NJEE"⟩,
   ⟨0xA501, 2, "VAI SYLLABLE ", "EEN,WEE,PEE,BEE,KPEE,GBEE,VEE,THEE,DHHEE,REE,NDEE,SHEE,ZHEE,JEE"⟩,
   ⟨0xA51D, 1, "VAI SYLLABLE ", "YEE,KEE,NGGEE,GEE,MEE,NEE,NYEE,I,IN,HI,HIN,WI,WIN,PI,BHI,BI,MBI"⟩,
   ⟨0xA52E, 1, "VAI SYLLABLE ", "KPI,MGBI,GBI,FI,VI,TI,THI,DHI,DHHI,LI,RI,DI,NDI,SI,SHI,ZI,ZHI,CI"⟩,
   ⟨0xA540, 1, "VAI SYLLABLE ", "JI,NJI,YI,KI,NGGI,GI,MI,NI,NYI,A,AN,NGAN,HA,HAN,WA,WAN,PA,BHA,BA"⟩,
   ⟨0xA553, 1, "VAI SYLLABLE ", "MBA,KPA,KPAN,MGBA,GBA,FA,VA,TA,THA,DHA,DHHA,LA,RA,DA,NDA,SA,SHA"⟩,
   ⟨0xA564, 2,
    "VAI SYLLABLE ", "ZA,CA,NJA,KA,NGGA,MA,NYA,OON,WOO,POO,BOO,KPOO,GBOO,VOO,THOO,DHHOO"⟩,
   ⟨0xA565, 2, "VAI SYLLABLE ", "ZHA,JA,YA,KAN,GA,NA,OO,HOO,WOON,BHOO,MBOO,MGBOO,FOO,TOO,DHOO,LOO"⟩,
   ⟨0xA584, 1,
    "VAI SYLLABLE ", "ROO,DOO,NDOO,SOO,SHOO,ZOO,ZHOO,COO,JOO,NJOO,YOO,KOO,NGGOO,GOO,MOO"⟩,
   ⟨0xA593, 1, "VAI SYLLABLE ", "NOO,NYOO,U,UN,HU,HUN,WU,WUN,PU,BHU,BU,MBU,KPU,MGBU,GBU,FU,VU,TU"⟩,
   ⟨0xA5A5, 2, "VAI SYLLABLE ", "THU,DHHU,RU,NDU,SHU,ZHU,JU,YU,NGGU,MU,NYU,ON,HO,WO,PO,BO,KPO,GBO"⟩,
   ⟨0xA5A6, 2, "VAI SYLLABLE ", "DHU,LU,DU,SU,ZU,CU,NJU,KU,GU,NU,O,NGON,HON,WON,BHO,MBO,MGBO,GBON"⟩,
   ⟨0xA5C9, 1, "VAI SYLLABLE ", "FO,VO,TO,THO,DHO,DHHO,LO,RO,DO,NDO,SO,SHO,ZO,ZHO,CO,JO,NJO,YO"⟩,
   ⟨0xA5DB, 2, "VAI SYLLABLE ", "KO,GO,NO,E,NGEN,HEN,WEN,BHE,MBE,KPEN,GBE,FE,TE,DHE,LE,DE,SE"⟩,
   ⟨0xA5DC, 2, "VAI SYLLABLE ", "NGGO,MO,NYO,EN,HE,WE,PE,BE,KPE,MGBE,GBEN,VE,THE,DHHE,RE,NDE,SHE"⟩,
   ⟨0xA5FD, 1, "VAI SYLLABLE ", "ZE,ZHE,CE,JE,NJE,YE,KE,NGGE,NGGEN,GE,GEN,ME,NE,NYE,NG,LENGTHENER"⟩,
   ⟨0xA60D, 1, "VAI ", "COMMA,FULL STOP,QUESTION MARK"⟩,
   ⟨0xA610, 1, "VAI SYLLABLE NDOLE ", "FA,KA,SOO"⟩,
   ⟨0xA613, 1, "VAI SYMBOL ", "FEENG,KEENG,TING,NII,BANG,FAA,TAA,DANG,DOONG,KUNG,TONG,DO-O,JONG"⟩,
   ⟨0xA620, 1, "VAI DIGIT ", "ZERO,ONE,TWO,THREE,FOUR,FIVE,SIX,SEVEN,EIGHT,NINE"⟩,
   ⟨0xA62A, 1, "VAI SYLLABLE NDOLE ", "MA,DO"⟩,
   ⟨0xA640, 2, "CYRILLIC CAPITAL LETTER ", "ZEMLYA,DZELO,REVERSED DZE,IOTA,DJERV,MONOGRAPH UK"⟩,
   ⟨0xA641, 2, "CYRILLIC SMALL LETTER ", "ZEMLYA,DZELO,REVERSED DZE,IOTA,DJERV"⟩,
   ⟨0xA64B, 2, "CYRILLIC SMALL LETTER ", "MONOGRAPH UK,BROAD OMEGA,NEUTRAL YER,YERU WITH BACK YER"⟩,
   ⟨0xA64C, 2, "CYRILLIC CAPITAL LETTER ", "BROAD OMEGA,NEUTRAL YER,YERU WITH BACK YER"⟩,
   ⟨0xA652, 2, "CYRILLIC CAPITAL LETTER ", "IOTIFIED YAT,REVERSED YU,IOTIFIED A,CLOSED LITTLE YUS"⟩,
   ⟨0xA653, 2, "CYRILLIC SMALL LETTER ", "IOTIFIED YAT,REVERSED YU,IOTIFIED A,CLOSED LITTLE YUS"⟩,
   ⟨0xA65A, 2,
    "CYRILLIC CAPITAL LETTER ", "BLENDED YUS,IOTIFIED CLOSED LITTLE YUS,YN,REVERSED TSE"⟩,
   ⟨0xA65B, 2, "CYRILLIC SMALL LETTER ", "BLENDED YUS,IOTIFIED CLOSED LITTLE YUS,YN"⟩,
   ⟨0xA661, 2, "CYRILLIC SMALL LETTER ", "REVERSED TSE,SOFT DE,SOFT EL,SOFT EM,MONOCULAR O"⟩,
   ⟨0xA662, 2, "CYRILLIC CAPITAL LETTER ", "SOFT DE,SOFT EL,SOFT EM,MONOCULAR O,BINOCULAR O"⟩,
   ⟨0xA66B, 2, "CYRILLIC SMALL LETTER ", "BINOCULAR O,DOUBLE MONOCULAR O"⟩,
   ⟨0xA66C, 2, "CYRILLIC ", "CAPITAL LETTER DOUBLE MONOCULAR O,LETTER MULTIOCULAR O"⟩,
   ⟨0xA66F, 1, "COMBINING CYRILLIC ", "VZMET,TEN MILLIONS SIGN,HUNDRED MILLIONS SIGN"⟩,
   ⟨0xA672, 1, "", "COMBINING CYRILLIC THOUSAND MILLIONS SIGN,SLAVONIC ASTERISK"⟩,
   ⟨0xA674, 1, "COMBINING CYRILLIC LETTER ", "UKRAINIAN IE,I,YI,U,HARD SIGN,YERU,SOFT SIGN,OMEGA"⟩,
   ⟨0xA67C, 1, "COMBINING CYRILLIC ", "KAVYKA,PAYEROK"⟩,
   ⟨0xA67E, 1, "CYRILLIC ", "KAVYKA,PAYEROK"⟩,
   ⟨0xA680, 2, "CYRILLIC CAPITAL LETTER ", "DWE,DZWE,ZHWE,CCHE,DZZE,TE WITH MIDDLE HOOK"⟩,
   ⟨0xA681, 2, "CYRILLIC SMALL LETTER ", "DWE,DZWE,ZHWE,CCHE,DZZE,TE WITH MIDDLE HOOK"⟩,
   ⟨0xA68C, 2, "CYRILLIC CAPITAL LETTER ", "TWE,TSWE,TSSE,TCHE,HWE,SHWE,DOUBLE O,CROSSED O"⟩,
   ⟨0xA68D, 2, "CYRILLIC SMALL LETTER ", "TWE,TSWE,TSSE,TCHE,HWE,SHWE,DOUBLE O,CROSSED O"⟩,
   ⟨0xA69C, 1, "MODIFIER LETTER CYRILLIC ", "HARD SIGN,SOFT SIGN"⟩,
   ⟨0xA69E, 1, "COMBINING CYRILLIC LETTER ", "EF,IOTIFIED E"⟩,
   ⟨0xA6A0, 1, "BAMUM LETTER ", "A,KA,U,KU,EE,REE,TAE,O,NYI,I,LA,PA,RII,RIEE,LEEEE,MEEEE,TAA"⟩,
   ⟨0xA6B1, 1,
    "BAMUM LETTER ", "NDAA,NJAEM,M,SUU,MU,SHII,SI,SHEUX,SEUX,KYEE,KET,NUAE,NU,NJUAE,YOQ"⟩,
   ⟨0xA6C0, 1, "BAMUM LETTER ", "SHU,YUQ,YA,NSHA,KEUX,PEUX,NJEE,NTEE,PUE,WUE,PEE,FEE,RU,LU,MI,NI"⟩,
   ⟨0xA6D0, 2,
    "BAMUM LETTER ", "REUX,KEN,NGGA,SHO,FU,WA,LI,LOQ,MBEN,MEN,TI,MO,TET,TEN,SAMBA,KOVUU"⟩,
   ⟨0xA6D1, 2, "BAMUM LETTER ", "RAE,NGKWAEN,NGA,PUAE,FOM,NA,PI,KO,REN,MA,KI,MBAA,KPA,NTUU,FAAMAE"⟩,
   ⟨0xA6EF, 2, "BAMUM ", "LETTER KOGHOM,COMBINING MARK TUKWENTIS,FULL STOP,COMMA,QUESTION MARK"⟩,
   ⟨0xA6F0, 2, "BAMUM ", "COMBINING MARK KOQNDON,NJAEMLI,COLON,SEMICOLON"⟩,
   ⟨0xA700, 2, "MODIFIER LETTER CHINESE TONE YIN ", "PING,SHANG,QU,RU"⟩,
   ⟨0xA701, 2, "MODIFIER LETTER CHINESE TONE YANG ", "PING,SHANG,QU,RU"⟩,
   ⟨0xA708, 2, "MODIFIER LETTER ", "EXTRA-HIGH DOTTED TONE BAR,MID DOTTED TONE BAR"⟩,
   ⟨0xA709, 2, "MODIFIER LETTER ", "HIGH DOTTED TONE BAR,LOW DOTTED TONE BAR"⟩,
   ⟨0xA70C, 1, "MODIFIER LETTER EXTRA-", "LOW DOTTED TONE BAR,HIGH DOTTED LEFT-STEM TONE BAR"⟩,
   ⟨0xA70E, 1, "MODIFIER LETTER ", "HIGH DOTTED LEFT-STEM TONE BAR,MID DOTTED LEFT-STEM TONE BAR"⟩,
   ⟨0xA710, 2, "MODIFIER LETTER ", "LOW DOTTED LEFT-STEM TONE BAR,EXTRA-HIGH LEFT-STEM TONE BAR"⟩,
   ⟨0xA711, 2, "MODIFIER LETTER ", "EXTRA-LOW DOTTED LEFT-STEM TONE BAR,HIGH LEFT-STEM TONE BAR"⟩,
   ⟨0xA714, 2, "MODIFIER LETTER ", "MID LEFT-STEM TONE BAR,EXTRA-LOW LEFT-STEM TONE BAR"⟩,
   ⟨0xA715, 2, "MODIFIER LETTER ", "LOW LEFT-STEM TONE BAR,DOT VERTICAL BAR"⟩,
   ⟨0xA718, 1, "MODIFIER LETTER ", "DOT SLASH,DOT HORIZONTAL BAR,LOWER RIGHT CORNER ANGLE"⟩,
   ⟨0xA71B, 1, "MODIFIER LETTER RAISED ", "UP ARROW,DOWN ARROW,EXCLAMATION MARK"⟩,
   ⟨0xA71E, 1,
    "MODIFIER LETTER ", "RAISED INVERTED EXCLAMATION MARK,LOW INVERTED EXCLAMATION MARK"⟩,
   ⟨0xA720, 1, "MODIFIER LETTER STRESS AND ", "HIGH TONE,LOW TONE"⟩,
   ⟨0xA722, 2, "LATIN CAPITAL LETTER EGYPTOLOGICAL ", "ALEF,AIN"⟩,
   ⟨0xA723, 2, "LATIN SMALL LETTER EGYPTOLOGICAL ", "ALEF,AIN"⟩,
   ⟨0xA726, 2, "LATIN CAPITAL LETTER ", "HENG,TZ,TRESILLO,CUATRILLO,CUATRILLO WITH COMMA"⟩,
   ⟨0xA727, 2, "LATIN SMALL LETTER ", "HENG,TZ,TRESILLO,CUATRILLO,CUATRILLO WITH COMMA"⟩,
   ⟨0xA730, 1, "LATIN LETTER SMALL CAPITAL ", "F,S"⟩,
   ⟨0xA732, 2,
    "LATIN CAPITAL LETTER ", "AA,AO,AU,AV,AV WITH HORIZONTAL BAR,AY,REVERSED C WITH DOT"⟩,
   ⟨0xA733, 2, "LATIN SMALL LETTER ", "AA,AO,AU,AV,AV WITH HORIZONTAL BAR,AY,REVERSED C WITH DOT"⟩,
   ⟨0xA740, 2, "LATIN CAPITAL LETTER K WITH ", "STROKE,DIAGONAL STROKE,STROKE AND DIAGONAL STROKE"⟩,
   ⟨0xA741, 2, "LATIN SMALL LETTER K WITH ", "STROKE,DIAGONAL STROKE,STROKE AND DIAGONAL STROKE"⟩,
   ⟨0xA746, 2, "LATIN CAPITAL LETTER ", "BROKEN L,L WITH HIGH STROKE,O WITH LONG STROKE OVERLAY"⟩,
   ⟨0xA747, 2, "LATIN SMALL LETTER ", "BROKEN L,L WITH HIGH STROKE,O WITH LONG STROKE OVERLAY"⟩,
   ⟨0xA74C, 1, "LATIN ", "CAPITAL LETTER O WITH LOOP,SMALL LETTER O WITH LOOP,CAPITAL LETTER OO"⟩,
   ⟨0xA74F, 2, "LATIN SMALL LETTER ", "OO,P WITH STROKE THROUGH DESCENDER,P WITH FLOURISH"⟩,
   ⟨0xA750, 2, "LATIN CAPITAL LETTER P WITH ", "STROKE THROUGH DESCENDER,FLOURISH,SQUIRREL TAIL"⟩,
   ⟨0xA755, 2, "LATIN SMALL LETTER ", "P WITH SQUIRREL TAIL,Q WITH STROKE THROUGH DESCENDER"⟩,
   ⟨0xA756, 2, "LATIN CAPITAL LETTER Q WITH ", "STROKE THROUGH DESCENDER,DIAGONAL STROKE"⟩,
   ⟨0xA759, 2, "LATIN SMALL LETTER ", "Q WITH DIAGONAL STROKE,R ROTUNDA,RUM ROTUNDA"⟩,
   ⟨0xA75A, 2, "LATIN CAPITAL LETTER ", "R ROTUNDA,RUM ROTUNDA"⟩,
   ⟨0xA75E, 2, "LATIN CAPITAL LETTER ", "V WITH DIAGONAL STROKE,VY,VISIGOTHIC Z,THORN WITH STROKE"⟩,
   ⟨0xA75F, 2, "LATIN SMALL LETTER ", "V WITH DIAGONAL STROKE,VY,VISIGOTHIC Z,THORN WITH STROKE"⟩,
   ⟨0xA766, 2, "LATIN CAPITAL LETTER ", "THORN WITH STROKE THROUGH DESCENDER,VEND,ET,IS,CON"⟩,
   ⟨0xA767, 2, "LATIN SMALL LETTER ", "THORN WITH STROKE THROUGH DESCENDER,VEND,ET,IS,CON"⟩,
   ⟨0xA770, 1, "MODIFIER LETTER US", ""⟩,
   ⟨0xA771, 1, "LATIN SMALL LETTER ", "DUM,LUM,MUM,NUM,RUM"⟩,
   ⟨0xA776, 1, "LATIN ", "LETTER SMALL CAPITAL RUM,SMALL LETTER TUM"⟩,
   ⟨0xA778, 2, "LATIN SMALL LETTER ", "UM,INSULAR D,INSULAR F"⟩,
   ⟨0xA779, 2, "LATIN CAPITAL LETTER INSULAR ", "D,F,G"⟩,
   ⟨0xA77E, 2, "LATIN CAPITAL LETTER ", "TURNED INSULAR G,TURNED L,INSULAR R,INSULAR S,INSULAR T"⟩,
   ⟨0xA77F, 2, "LATIN SMALL LETTER ", "TURNED INSULAR G,TURNED L,INSULAR R,INSULAR S,INSULAR T"⟩,
   ⟨0xA788, 1, "MODIFIER LETTER ", "LOW CIRCUMFLEX ACCENT,COLON,SHORT EQUALS SIGN"⟩,
   ⟨0xA78B, 2, "LATIN CAPITAL LETTER ", "SALTILLO,TURNED H"⟩,
   ⟨0xA78C, 2, "LATIN SMALL LETTER ", "SALTILLO,L WITH RETROFLEX HOOK AND BELT"⟩,
   ⟨0xA78F, 2, "LATIN ", "LETTER SINOLOGICAL DOT,SMALL LETTER N WITH DESCENDER"⟩,
   ⟨0xA790, 2, "LATIN CAPITAL LETTER ", "N WITH DESCENDER,C WITH BAR"⟩,
   ⟨0xA793, 1, "LATIN SMALL LETTER ", "C WITH BAR,C WITH PALATAL HOOK,H WITH PALATAL HOOK"⟩,
   ⟨0xA796, 2, "LATIN CAPITAL LETTER ", "B WITH FLOURISH,F WITH STROKE,VOLAPUK AE,VOLAPUK OE"⟩,
   ⟨0xA797, 2, "LATIN SMALL LETTER ", "B WITH FLOURISH,F WITH STROKE,VOLAPUK AE,VOLAPUK OE"⟩,
   ⟨0xA79E, 2, "LATIN CAPITAL LETTER ", "VOLAPUK UE,G WITH OBLIQUE STROKE,K WITH OBLIQUE STROKE"⟩,
   ⟨0xA79F, 2, "LATIN SMALL LETTER ", "VOLAPUK UE,G WITH OBLIQUE STROKE,K WITH OBLIQUE STROKE"⟩,
   ⟨0xA7A4, 1, "LATIN ", "CAPITAL LETTER N WITH OBLIQUE STROKE,SMALL LETTER N WITH OBLIQUE STROKE"⟩,
   ⟨0xA7A6, 2, "LATIN CAPITAL LETTER ", "R WITH OBLIQUE STROKE,S WITH OBLIQUE STROKE,H WITH HOOK"⟩,
   ⟨0xA7A7, 2, "LATIN SMALL LETTER ", "R WITH OBLIQUE STROKE,S WITH OBLIQUE STROKE"⟩,
   ⟨0xA7AB, 1, "LATIN CAPITAL LETTER ", "REVERSED OPEN E,SCRIPT G,L WITH BELT,SMALL CAPITAL I"⟩,
   ⟨0xA7AF, 1, "LATIN LETTER SMALL CAPITAL Q", ""⟩,
   ⟨0xA7B0, 1, "LATIN CAPITAL LETTER ", "TURNED K,TURNED T,J WITH CROSSED-TAIL,CHI"⟩,
   ⟨0xA7B4, 2, "LATIN CAPITAL LETTER ", "BETA,OMEGA,U WITH STROKE"⟩,
   ⟨0xA7B5, 2, "LATIN SMALL LETTER ", "BETA,OMEGA,U WITH STROKE"⟩,
   ⟨0xA7BA, 2, "LATIN CAPITAL LETTER ", "GLOTTAL A,GLOTTAL I,GLOTTAL U,OLD POLISH O,ANGLICANA W"⟩,
   ⟨0xA7BB, 2, "LATIN SMALL LETTER ", "GLOTTAL A,GLOTTAL I,GLOTTAL U,OLD POLISH O,ANGLICANA W"⟩,
   ⟨0xA7C4, 1, "LATIN CAPITAL LETTER ", "C WITH PALATAL HOOK,S WITH HOOK,Z WITH PALATAL HOOK"⟩,
   ⟨0xA7C7, 2, "LATIN CAPITAL LETTER ", "D WITH SHORT STROKE OVERLAY,S WITH SHORT STROKE OVERLAY"⟩,
   ⟨0xA7C8, 2, "LATIN SMALL LETTER ", "D WITH SHORT STROKE OVERLAY,S WITH SHORT STROKE OVERLAY"⟩,
   ⟨0xA7D0, 1, "LATIN ", "CAPITAL LETTER CLOSED INSULAR G,SMALL LETTER CLOSED INSULAR G"⟩,
   ⟨0xA7D3, 1, "LATIN SMALL LETTER DOUBLE THORN", ""⟩,
   ⟨0xA7D5, 2, "LATIN SMALL LETTER ", "DOUBLE WYNN,MIDDLE SCOTS S,SIGMOID S"⟩,
   ⟨0xA7D6, 2, "LATIN CAPITAL LETTER ", "MIDDLE SCOTS S,SIGMOID S"⟩,
   ⟨0xA7F2, 1, "MODIFIER LETTER CAPITAL ", "C,F,Q"⟩,
   ⟨0xA7F5, 1, "LATIN ", "CAPITAL LETTER REVERSED HALF H,SMALL LETTER REVERSED HALF H"⟩,
   ⟨0xA7F7, 1, "", "LATIN EPIGRAPHIC LETTER SIDEWAYS I,MODIFIER LETTER CAPITAL H WITH STROKE"⟩,
   ⟨0xA7F9, 1, "", "MODIFIER LETTER SMALL LIGATURE OE,LATIN LETTER SMALL CAPITAL TURNED M"⟩,
   ⟨0xA7FB, 1, "LATIN EPIGRAPHIC LETTER ", "REVERSED F,REVERSED P,INVERTED M,I LONGA,ARCHAIC M"⟩,
   ⟨0xA800, 2, "SYLOTI NAGRI ", "LETTER A,SIGN DVISVARA,LETTER E,SIGN HASANTA,LETTER KHO"⟩,
   ⟨0xA801, 2, "SYLOTI NAGRI LETTER ", "I,U,O,KO,GO"⟩,
   ⟨0xA80A, 1, "SYLOTI NAGRI ", "LETTER GHO,SIGN ANUSVARA"⟩,
   ⟨0xA80C, 2, "SYLOTI NAGRI LETTER ", "CO,JO,TTO,DDO,TO,DO,NO,PHO,BHO,RO,RRO,HO"⟩,
   ⟨0xA80D, 2, "SYLOTI NAGRI LETTER ", "CHO,JHO,TTHO,DDHO,THO,DHO,PO,BO,MO,LO,SO"⟩,
   ⟨0xA823, 1, "SYLOTI NAGRI VOWEL SIGN ", "A,I,U,E,OO"⟩,
   ⟨0xA828, 1, "SYLOTI NAGRI POETRY MARK-", "1,2,3,4"⟩,
   ⟨0xA82C, 1, "SYLOTI NAGRI SIGN ALTERNATE HASANTA", ""⟩,
   ⟨0xA830, 1, "NORTH INDIC FRACTION ONE ", "QUARTER,HALF"⟩,
   ⟨0xA832, 1, "NORTH INDIC FRACTION ", "THREE QUARTERS,ONE SIXTEENTH,ONE EIGHTH,THREE SIXTEENTHS"⟩,
   ⟨0xA836, 1, "NORTH INDIC ", "QUARTER MARK,PLACEHOLDER MARK,RUPEE MARK,QUANTITY MARK"⟩,
   ⟨0xA840, 1, "PHAGS-PA LETTER ", "KA,KHA,GA"⟩,
   ⟨0xA843, 2, "PHAGS-PA LETTER ", "NGA,CHA,NYA,THA,NA,PHA,MA,TSHA,WA,ZA,YA,LA,SA,A,U,O,XA,GGA"⟩,
   ⟨0xA844, 2, "PHAGS-PA LETTER ", "CA,JA,TA,DA,PA,BA,TSA,DZA,ZHA,SMALL A,RA,SHA,HA,I,E,QA,FA,EE"⟩,
   ⟨0xA867, 1, "PHAGS-PA ", "SUBJOINED LETTER WA,SUBJOINED LETTER YA,LETTER TTA"⟩,
   ⟨0xA86A, 1,
    "PHAGS-PA LETTER ", "TTHA,DDA,NNA,ALTERNATE YA,VOICELESS SHA,VOICED HA,ASPIRATED FA"⟩,
   ⟨0xA871, 1, "PHAGS-PA ", "SUBJOINED LETTER RA,SUPERFIXED LETTER RA,LETTER CANDRABINDU"⟩,
   ⟨0xA874, 1, "PHAGS-PA ", "SINGLE HEAD MARK,DOUBLE HEAD MARK,MARK SHAD,MARK DOUBLE SHAD"⟩,
   ⟨0xA880, 1, "SAURASHTRA ", "SIGN ANUSVARA,SIGN VISARGA,LETTER A"⟩,
   ⟨0xA883, 1, "SAURASHTRA LETTER ", "AA,I,II,U,UU,VOCALIC R,VOCALIC RR,VOCALIC L,VOCALIC LL,E,EE"⟩,
   ⟨0xA88E, 2, "SAURASHTRA LETTER ", "AI,OO,KA,GA,NGA,CHA,JHA,TTA,DDA,NNA,THA,DHA,PA,BA,MA,RA,VA"⟩,
   ⟨0xA88F, 2, "SAURASHTRA LETTER ", "O,AU,KHA,GHA,CA,JA,NYA,TTHA,DDHA,TA,DA,NA,PHA,BHA,YA,LA,SHA"⟩,
   ⟨0xA8B0, 1, "SAURASHTRA ", "LETTER SSA,LETTER SA,LETTER HA,LETTER LLA,CONSONANT SIGN HAARU"⟩,
   ⟨0xA8B5, 2, "SAURASHTRA VOWEL SIGN ", "AA,II,UU,VOCALIC RR,VOCALIC LL,EE,O,AU"⟩,
   ⟨0xA8B6, 2, "SAURASHTRA VOWEL SIGN ", "I,U,VOCALIC R,VOCALIC L,E,AI,OO"⟩,
   ⟨0xA8C4, 1, "SAURASHTRA SIGN ", "VIRAMA,CANDRABINDU"⟩,
   ⟨0xA8CE, 1, "SAURASHTRA ", "DANDA,DOUBLE DANDA"⟩,
   ⟨0xA8D0, 1, "SAURASHTRA DIGIT ", "ZERO,ONE,TWO,THREE,FOUR,FIVE,SIX,SEVEN,EIGHT,NINE"⟩,
   ⟨0xA8E0, 1, "COMBINING DEVANAGARI DIGIT ", "ZERO,ONE,TWO,THREE,FOUR,FIVE,SIX,SEVEN,EIGHT,NINE"⟩,
   ⟨0xA8EA, 1, "COMBINING DEVANAGARI LETTER ", "A,U,KA,NA,PA,RA,VI"⟩,
   ⟨0xA8F1, 1, "", "COMBINING DEVANAGARI SIGN AVAGRAHA,DEVANAGARI SIGN SPACING CANDRABINDU"⟩,
   ⟨0xA8F3, 2, "DEVANAGARI SIGN CANDRABINDU ", "VIRAMA,TWO,AVAGRAHA"⟩,
   ⟨0xA8F4, 2, "DEVANAGARI SIGN ", "DOUBLE CANDRABINDU VIRAMA,CANDRABINDU THREE,PUSHPIKA"⟩,
   ⟨0xA8F9, 2, "DEVANAGARI ", "GAP FILLER,HEADSTROKE,JAIN OM,VOWEL SIGN AY"⟩,
   ⟨0xA8FA, 2, "DEVANAGARI ", "CARET,SIGN SIDDHAM,LETTER AY"⟩,
   ⟨0xA900, 1, "KAYAH LI DIGIT ", "ZERO,ONE,TWO,THREE,FOUR,FIVE,SIX,SEVEN,EIGHT,NINE"⟩,
   ⟨0xA90A, 2, "KAYAH LI LETTER ", "KA,GA,SA,ZA,TA,NA,PHA,DA,RA,LA,THA,VA,A,I"⟩,
   ⟨0xA90B, 2, "KAYAH LI LETTER ", "KHA,NGA,SHA,NYA,HTA,PA,MA,BA,YA,WA,HA,CA,OE,OO"⟩,
   ⟨0xA926, 1, "KAYAH LI VOWEL ", "UE,E,U,EE,O"⟩,
   ⟨0xA92B, 1, "KAYAH LI ", "TONE PLOPHU,TONE CALYA,TONE CALYA PLOPHU,SIGN CWI,SIGN SHYA"⟩,
   ⟨0xA930, 2, "REJANG LETTER ", "KA,NGA,DA,PA,MA,JA,SA,LA,WA,MBA,NDA,A"⟩,
   ⟨0xA931, 2, "REJANG LETTER ", "GA,TA,NA,BA,CA,NYA,RA,YA,HA,NGGA,NYJA"⟩,
   ⟨0xA947, 1, "REJANG VOWEL SIGN ", "I,U,E,AI,O,AU,EU,EA"⟩,
   ⟨0xA94F, 1, "REJANG CONSONANT SIGN ", "NG,N,R,H"⟩,
   ⟨0xA953, 1, "REJANG VIRAMA", ""⟩,
   ⟨0xA95F, 1, "REJANG SECTION MARK", ""⟩,
   ⟨0xA960, 1, "HANGUL CHOSEONG TIKEUT-", "MIEUM,PIEUP,SIOS,CIEUC"⟩,
   ⟨0xA964, 2, "HANGUL CHOSEONG RIEUL-", "KIYEOK,TIKEUT,MIEUM,SSANGPIEUP,SIOS,KHIEUKH"⟩,
   ⟨0xA965, 2, "HANGUL CHOSEONG RIEUL-", "SSANGKIYEOK,SSANGTIKEUT,PIEUP,KAPYEOUNPIEUP,CIEUC"⟩,
   ⟨0xA96F, 1, "HANGUL CHOSEONG MIEUM-", "KIYEOK,TIKEUT,SIOS"⟩,
   ⟨0xA972, 1, "HANGUL CHOSEONG PIEUP-", "SIOS-THIEUTH,KHIEUKH,HIEUH"⟩,
   ⟨0xA975, 2, "HANGUL CHOSEONG ", "SSANGSIOS-PIEUP,IEUNG-HIEUH,SSANGTHIEUTH,HIEUH-SIOS"⟩,
   ⟨0xA976, 2, "HANGUL CHOSEONG ", "IEUNG-RIEUL,SSANGCIEUC-HIEUH,PHIEUPH-HIEUH,SSANGYEORINHIEUH"⟩,
   ⟨0xA980, 1, "JAVANESE SIGN ", "PANYANGGA,CECAK,LAYAR,WIGNYAN"⟩,
   ⟨0xA984, 1, "JAVANESE LETTER ", "A,I KAWI,I,II,U,PA CEREK,NGA LELET,NGA LELET RASWADI"⟩,
   ⟨0xA98C, 1, "JAVANESE LETTER ", "E,AI,O,KA,KA SASAK,KA MURDA,GA,GA MURDA,NGA,CA,CA MURDA,JA"⟩,
   ⟨0xA998, 1,
    "JAVANESE LETTER ", "NYA MURDA,JA MAHAPRANA,NYA,TTA,TTA MAHAPRANA,DDA,DDA MAHAPRANA"⟩,
   ⟨0xA99F, 2, "JAVANESE LETTER ", "NA MURDA,TA MURDA,DA MAHAPRANA,PA,BA,MA,RA,LA,SA MURDA,SA"⟩,
   ⟨0xA9A0, 2, "JAVANESE LETTER ", "TA,DA,NA,PA MURDA,BA MURDA,YA,RA AGUNG,WA,SA MAHAPRANA,HA"⟩,
   ⟨0xA9B3, 1, "JAVANESE ", "SIGN CECAK TELU,VOWEL SIGN TARUNG,VOWEL SIGN TOLONG"⟩,
   ⟨0xA9B6, 1, "JAVANESE VOWEL SIGN ", "WULU,WULU MELIK,SUKU,SUKU MENDUT,TALING,DIRGA MURE,PEPET"⟩,
   ⟨0xA9BD, 1, "JAVANESE CONSONANT SIGN ", "KERET,PENGKAL,CAKRA"⟩,
   ⟨0xA9C0, 1, "JAVANESE ", "PANGKON,LEFT RERENGGAN,RIGHT RERENGGAN"⟩,
   ⟨0xA9C3, 1, "JAVANESE PADA ", "ANDAP,MADYA,LUHUR,WINDU,PANGKAT,LINGSA,LUNGSI,ADEG,ADEG ADEG"⟩,
   ⟨0xA9CC, 1, "JAVANESE ", "PADA PISELEH,TURNED PADA PISELEH"⟩,
   ⟨0xA9CF, 1, "JAVANESE PANGRANGKEP", ""⟩,
   ⟨0xA9D0, 1, "JAVANESE DIGIT ", "ZERO,ONE,TWO,THREE,FOUR,FIVE,SIX,SEVEN,EIGHT,NINE"⟩,
   ⟨0xA9DE, 1, "JAVANESE PADA ", "TIRTA TUMETES,ISEN-ISEN"⟩,
   ⟨0xA9E0, 1, "MYANMAR LETTER SHAN ", "GHA,CHA,JHA,NNA,BHA"⟩,
   ⟨0xA9E5, 1, "MYANMAR ", "SIGN SHAN SAW,MODIFIER LETTER SHAN REDUPLICATION"⟩,
   ⟨0xA9E7, 1, "MYANMAR LETTER TAI LAING ", "NYA,FA,GA,GHA,JA,JHA,DDA,DDHA,NNA"⟩,
   ⟨0xA9F0, 1, "MYANMAR TAI LAING DIGIT ", "ZERO,ONE,TWO,THREE,FOUR,FIVE,SIX,SEVEN,EIGHT,NINE"⟩,
   ⟨0xA9FA, 1, "MYANMAR LETTER TAI LAING ", "LLA,DA,DHA,BA,BHA"⟩,
   ⟨0xAA00, 1, "CHAM LETTER ", "A,I,U,E,AI"⟩,
   ⟨0xAA05, 2, "CHAM LETTER ", "O,KHA,GHA,NGA,CHHA,JHA,NHA,TA,DA,NUE,DDA,PPA,BA,MUE,BBA,RA,VA,SA"⟩,
   ⟨0xAA06, 2, "CHAM LETTER ", "KA,GA,NGUE,CHA,JA,NHUE,NHJA,THA,DHA,NA,PA,PHA,BHA,MA,YA,LA,SSA,HA"⟩,
   ⟨0xAA29, 1, "CHAM VOWEL SIGN ", "AA,I,II,EI,U,OE,O,AI,AU,UE"⟩,
   ⟨0xAA33, 1, "CHAM CONSONANT SIGN ", "YA,RA,LA,WA"⟩,
   ⟨0xAA40, 1, "CHAM ", "LETTER FINAL K,LETTER FINAL G,LETTER FINAL NG,CONSONANT SIGN FINAL NG"⟩,
   ⟨0xAA44, 1, "CHAM LETTER FINAL ", "CH,T,N,P,Y,R,L,SS"⟩,
   ⟨0xAA4C, 1, "CHAM CONSONANT SIGN FINAL ", "M,H"⟩,
   ⟨0xAA50, 1, "CHAM DIGIT ", "ZERO,ONE,TWO,THREE,FOUR,FIVE,SIX,SEVEN,EIGHT,NINE"⟩,
   ⟨0xAA5C, 1, "CHAM PUNCTUATION ", "SPIRAL,DANDA,DOUBLE DANDA,TRIPLE DANDA"⟩,
   ⟨0xAA60, 1, "MYANMAR LETTER KHAMTI ", "GA,CA,CHA,JA,JHA,NYA,TTA,TTHA,DDA,DDHA,DHA,NA,SA,HA,HHA"⟩,
   ⟨0xAA6F, 2, "MYANMAR LETTER KHAMTI ", "FA,XA,RA"⟩,
   ⟨0xAA70, 2, "MYANMAR ", "MODIFIER LETTER KHAMTI REDUPLICATION,LETTER KHAMTI ZA"⟩,
   ⟨0xAA74, 1, "MYANMAR LOGOGRAM KHAMTI ", "OAY,QN,HM"⟩,
   ⟨0xAA77, 1, "MYANMAR SYMBOL AITON ", "EXCLAMATION,ONE,TWO"⟩,
   ⟨0xAA7A, 2, "MYANMAR ", "LETTER AITON RA,SIGN TAI LAING TONE-2,LETTER SHWE PALAUNG CHA"⟩,
   ⟨0xAA7B, 2, "MYANMAR ", "SIGN PAO KAREN TONE,SIGN TAI LAING TONE-5,LETTER SHWE PALAUNG SHA"⟩,
   ⟨0xAA80, 2, "TAI VIET LETTER LOW ", "KO,KHO,KHHO,GO,NGO,CO"⟩,
   ⟨0xAA81, 2, "TAI VIET LETTER HIGH ", "KO,KHO,KHHO,GO,NGO,CO"⟩,
   ⟨0xAA8C, 2, "TAI VIET LETTER LOW ", "CHO,SO,NYO,DO,TO,THO,NO,BO,PO,PHO,FO,MO,YO,RO,LO,VO,HO,O"⟩,
   ⟨0xAA8D, 2, "TAI VIET LETTER HIGH ", "CHO,SO,NYO,DO,TO,THO,NO,BO,PO,PHO,FO,MO,YO,RO,LO,VO,HO,O"⟩,
   ⟨0xAAB0, 1, "TAI VIET ", "MAI KANG,VOWEL AA,VOWEL I,VOWEL UE,VOWEL U,VOWEL E,VOWEL O,MAI KHIT"⟩,
   ⟨0xAAB8, 1, "TAI VIET VOWEL ", "IA,UEA,UA,AUE,AY,AN,AM"⟩,
   ⟨0xAABF, 1, "TAI VIET TONE MAI ", "EK,NUENG,THO,SONG"⟩,
   ⟨0xAADB, 1, "TAI VIET SYMBOL ", "KON,NUENG,SAM,HO HOI,KOI KOI"⟩,
   ⟨0xAAE0, 1, "MEETEI MAYEK LETTER ", "E,O,CHA,NYA,TTA,TTHA,DDA,DDHA,NNA,SHA,SSA"⟩,
   ⟨0xAAEB, 1, "MEETEI MAYEK VOWEL SIGN ", "II,UU,AAI,AU,AAU"⟩,
   ⟨0xAAF0, 2, "MEETEI MAYEK ", "CHEIKHAN,ANJI,WORD REPETITION MARK,VIRAMA"⟩,
   ⟨0xAAF1, 2, "MEETEI MAYEK ", "AHANG KHUDAM,SYLLABLE REPETITION MARK,VOWEL SIGN VISARGA"⟩,
   ⟨0xAB01, 1, "ETHIOPIC SYLLABLE ", "TTHU,TTHI,TTHAA,TTHEE,TTHE,TTHO"⟩,
   ⟨0xAB09, 1, "ETHIOPIC SYLLABLE ", "DDHU,DDHI,DDHAA,DDHEE,DDHE,DDHO"⟩,
   ⟨0xAB11, 1, "ETHIOPIC SYLLABLE ", "DZU,DZI,DZAA,DZEE,DZE,DZO"⟩,
   ⟨0xAB20, 1, "ETHIOPIC SYLLABLE ", "CCHHA,CCHHU,CCHHI,CCHHAA,CCHHEE,CCHHE,CCHHO"⟩,
   ⟨0xAB28, 1, "ETHIOPIC SYLLABLE ", "BBA,BBU,BBI,BBAA,BBEE,BBE,BBO"⟩,
   ⟨0xAB30, 1, "LATIN SMALL LETTER ", "BARRED ALPHA,A REVERSED-SCHWA,BLACKLETTER E"⟩,
   ⟨0xAB33, 1,
    "LATIN SMALL LETTER ", "BARRED E,E WITH FLOURISH,LENIS F,SCRIPT G WITH CROSSED-TAIL"⟩,
   ⟨0xAB37, 1, "LATIN SMALL LETTER L WITH ", "INVERTED LAZY S,DOUBLE MIDDLE TILDE,MIDDLE RING"⟩,
   ⟨0xAB3A, 1, "LATIN SMALL LETTER M WITH CROSSED-TAIL", ""⟩,
   ⟨0xAB3B, 2, "LATIN SMALL LETTER ", "N WITH CROSSED-TAIL,BLACKLETTER O,OPEN O WITH STROKE"⟩,
   ⟨0xAB3C, 2,
    "LATIN SMALL LETTER ", "ENG WITH CROSSED-TAIL,BLACKLETTER O WITH STROKE,INVERTED OE"⟩,
   ⟨0xAB41, 1, "LATIN SMALL LETTER TURNED OE WITH ", "STROKE,HORIZONTAL STROKE"⟩,
   ⟨0xAB43, 1, "LATIN SMALL LETTER TURNED O OPEN-", "O,O WITH STROKE"⟩,
   ⟨0xAB45, 1, "LATIN ", "SMALL LETTER STIRRUP R,LETTER SMALL CAPITAL R WITH RIGHT LEG"⟩,
   ⟨0xAB47, 2, "LATIN SMALL LETTER ", "R WITHOUT HANDLE,R WITH CROSSED-TAIL,SCRIPT R,BASELINE ESH"⟩,
   ⟨0xAB48, 2, "LATIN SMALL LETTER ", "DOUBLE R,DOUBLE R WITH CROSSED-TAIL,SCRIPT R WITH RING"⟩,
   ⟨0xAB4E, 1, "LATIN SMALL LETTER U ", "WITH SHORT RIGHT LEG,BAR WITH SHORT RIGHT LEG"⟩,
   ⟨0xAB50, 1, "LATIN SMALL LETTER ", "UI,TURNED UI,U WITH LEFT HOOK,CHI,CHI WITH LOW RIGHT RING"⟩,
   ⟨0xAB55, 1, "LATIN SMALL LETTER ", "CHI WITH LOW LEFT SERIF,X WITH LOW RIGHT RING"⟩,
   ⟨0xAB57, 1, "LATIN SMALL LETTER X WITH LONG LEFT ", "LEG,LEG AND LOW RIGHT RING,LEG WITH SERIF"⟩,
   ⟨0xAB5A, 1, "", "LATIN SMALL LETTER Y WITH SHORT RIGHT LEG,MODIFIER BREVE WITH INVERTED BREVE"⟩,
   ⟨0xAB5C, 2, "MODIFIER LETTER SMALL ", "HENG,L WITH MIDDLE TILDE"⟩,
   ⟨0xAB5D, 2, "MODIFIER LETTER SMALL ", "L WITH INVERTED LAZY S,U WITH LEFT HOOK"⟩,
   ⟨0xAB60, 1, "LATIN SMALL LETTER ", "SAKHA YAT,IOTIFIED E,OPEN OE,UO,INVERTED ALPHA"⟩,
   ⟨0xAB65, 1, "GREEK LETTER SMALL CAPITAL OMEGA", ""⟩,
   ⟨0xAB66, 1, "LATIN SMALL LETTER DZ DIGRAPH WITH RETROFLEX HOOK", ""⟩,
   ⟨0xAB67, 1, "LATIN SMALL LETTER ", "TS DIGRAPH WITH RETROFLEX HOOK,TURNED R WITH MIDDLE TILDE"⟩,
   ⟨0xAB69, 1, "MODIFIER LETTER ", "SMALL TURNED W,LEFT TACK,RIGHT TACK"⟩,
   ⟨0xAB70, 1, "CHEROKEE SMALL LETTER ", "A,E,I,O,U,V,GA,KA,GE,GI,GO,GU,GV"⟩,
   ⟨0xAB7D, 2, "CHEROKEE SMALL LETTER ", "HA,HI,HU,LA,LI,LU,MA,MI,MU,HNA,NE,NO,NV,QUE,QUO,QUV,S"⟩,
   ⟨0xAB7E, 2, "CHEROKEE SMALL LETTER ", "HE,HO,HV,LE,LO,LV,ME,MO,NA,NAH,NI,NU,QUA,QUI,QUU,SA,SE"⟩,
   ⟨0xAB9F, 2,
    "CHEROKEE SMALL LETTER ", "SI,SU,DA,DE,DI,DO,DV,TLA,TLI,TLU,TSA,TSI,TSU,WA,WI,WU,YA"⟩,
   ⟨0xABA0, 2, "CHEROKEE SMALL LETTER ", "SO,SV,TA,TE,TI,DU,DLA,TLE,TLO,TLV,TSE,TSO,TSV,WE,WO,WV"⟩,
   ⟨0xABC0, 2, "MEETEI MAYEK LETTER ", "KOK,LAI,PA,CHIL,KHOU,THOU,YANG,UN,PHAM,GOK"⟩,
   ⟨0xABC1, 2, "MEETEI MAYEK LETTER ", "SAM,MIT,NA,TIL,NGOU,WAI,HUK,I,ATIYA,JHAM"⟩,
   ⟨0xABD4, 2,
    "MEETEI MAYEK LETTER ", "RAI,JIL,GHOU,BHAM,LAI LONSUM,PA LONSUM,TIL LONSUM,I LONSUM"⟩,
   ⟨0xABD5, 2, "MEETEI MAYEK LETTER ", "BA,DIL,DHOU,KOK LONSUM,MIT LONSUM,NA LONSUM,NGOU LONSUM"⟩,
   ⟨0xABE3, 1, "MEETEI MAYEK VOWEL SIGN ", "ONAP,INAP,ANAP,YENAP,SOUNAP,UNAP,CHEINAP,NUNG"⟩,
   ⟨0xABEB, 1, "MEETEI MAYEK ", "CHEIKHEI,LUM IYEK,APUN IYEK"⟩,
   ⟨0xABF0, 1, "MEETEI MAYEK DIGIT ", "ZERO,ONE,TWO,THREE,FOUR,FIVE,SIX,SEVEN,EIGHT,NINE"⟩,
   ⟨0xD7B0, 1, "HANGUL JUNGSEONG ", "O-YEO,O-O-I,YO-A,YO-AE,YO-EO,U-YEO,U-I-I,YU-AE,YU-O"⟩,
   ⟨0xD7B9, 1, "HANGUL JUNGSEONG EU-", "A,EO,E,O"⟩,
   ⟨0xD7BD, 1, "HANGUL JUNGSEONG ", "I-YA-O,I-YAE,I-YEO,I-YE,I-O-I,I-YO,I-YU,I-I,ARAEA-A,ARAEA-E"⟩,
   ⟨0xD7CB, 1, "HANGUL JONGSEONG ", "NIEUN-RIEUL,NIEUN-CHIEUCH,SSANGTIKEUT,SSANGTIKEUT-PIEUP"⟩,
   ⟨0xD7CF, 1, "HANGUL JONGSEONG TIKEUT-", "PIEUP,SIOS,SIOS-KIYEOK,CIEUC,CHIEUCH,THIEUTH"⟩,
   ⟨0xD7D5, 1, "HANGUL JONGSEONG ", "RIEUL-SSANGKIYEOK,RIEUL-KIYEOK-HIEUH,SSANGRIEUL-KHIEUKH"⟩,
   ⟨0xD7D8, 1, "HANGUL JONGSEONG RIEUL-", "MIEUM-HIEUH,PIEUP-TIKEUT,PIEUP-PHIEUPH,YESIEUNG"⟩,
   ⟨0xD7DC, 2, "HANGUL JONGSEONG ", "RIEUL-YEORINHIEUH-HIEUH,MIEUM-NIEUN,SSANGMIEUM,MIEUM-CIEUC"⟩,
   ⟨0xD7DD, 2, "HANGUL JONGSEONG ", "KAPYEOUNRIEUL,MIEUM-SSANGNIEUN,MIEUM-PIEUP-SIOS,PIEUP-TIKEUT"⟩,
   ⟨0xD7E4, 1, "HANGUL JONGSEONG ", "PIEUP-RIEUL-PHIEUPH,PIEUP-MIEUM,SSANGPIEUP,PIEUP-SIOS-TIKEUT"⟩,
   ⟨0xD7E8, 2, "HANGUL JONGSEONG ", "PIEUP-CIEUC,SIOS-MIEUM,SSANGSIOS-KIYEOK,SIOS-PANSIOS"⟩,
   ⟨0xD7E9, 2, "HANGUL JONGSEONG ", "PIEUP-CHIEUCH,SIOS-KAPYEOUNPIEUP,SSANGSIOS-TIKEUT,SIOS-CIEUC"⟩,
   ⟨0xD7F0, 2, "HANGUL JONGSEONG ", "SIOS-CHIEUCH,SIOS-HIEUH,PANSIOS-KAPYEOUNPIEUP,YESIEUNG-HIEUH"⟩,
   ⟨0xD7F1, 2, "HANGUL JONGSEONG ", "SIOS-THIEUTH,PANSIOS-PIEUP,YESIEUNG-MIEUM,CIEUC-PIEUP"⟩,
   ⟨0xD7F8, 1, "HANGUL JONGSEONG ", "CIEUC-SSANGPIEUP,SSANGCIEUC,PHIEUPH-SIOS,PHIEUPH-THIEUTH"⟩]

end RegexSubst.Unicode
