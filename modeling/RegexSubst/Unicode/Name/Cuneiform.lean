import RegexSubst.Unicode.Name.Run

/-!
# `RegexSubst.Unicode.Name.Cuneiform`: names of U+12000 to U+12FFF

Cuneiform and Cypro-Minoan.
-/

set_option autoImplicit false

namespace RegexSubst.Unicode

/-- The names of U+12000 to U+12FFF. -/
def cuneiformNames : List NameRun :=
  [⟨0x12000, 1, "CUNEIFORM SIGN A", ""⟩,
   ⟨0x12001, 1, "CUNEIFORM SIGN A TIMES ", "A,BAD,GAN2 TENU,HA,IGI,LAGAR GUNU,MUSH,SAG"⟩,
   ⟨0x12009, 1, "CUNEIFORM SIGN ", "A2,AB"⟩,
   ⟨0x1200B, 1, "CUNEIFORM SIGN AB TIMES ", "ASH2,DUN3 GUNU,GAL,GAN2 TENU,HA,IGI GUNU,IMIN,LAGAB"⟩,
   ⟨0x12013, 1, "CUNEIFORM SIGN ", "AB TIMES SHESH,AB TIMES U PLUS U PLUS U,AB GUNU,AB2"⟩,
   ⟨0x12017, 1, "CUNEIFORM SIGN AB2 TIMES ", "BALAG,GAN2 TENU,ME PLUS EN,SHA3,TAK4"⟩,
   ⟨0x1201C, 1, "CUNEIFORM SIGN ", "AD,AK,AK TIMES ERIN2,AK TIMES SHITA PLUS GISH,AL"⟩,
   ⟨0x12021, 1, "CUNEIFORM SIGN AL TIMES ", "AL,DIM2,GISH,HA,KAD3,KI,SHE,USH"⟩,
   ⟨0x12029, 1, "CUNEIFORM SIGN ", "ALAN,ALEPH,AMAR,AMAR TIMES SHE,AN,AN OVER AN,AN THREE TIMES"⟩,
   ⟨0x12030, 1, "CUNEIFORM SIGN AN PLUS NAGA ", "OPPOSING AN PLUS NAGA,SQUARED"⟩,
   ⟨0x12032, 1, "CUNEIFORM SIGN ", "ANSHE,APIN,ARAD,ARAD TIMES KUR,ARKAB,ASAL2,ASH,ASH ZIDA TENU"⟩,
   ⟨0x1203A, 1, "CUNEIFORM SIGN ASH ", "KABA TENU,OVER ASH TUG2 OVER TUG2 TUG2 OVER TUG2 PAP"⟩,
   ⟨0x1203C, 1, "CUNEIFORM SIGN ASH OVER ASH OVER ", "ASH,ASH CROSSING ASH OVER ASH OVER ASH"⟩,
   ⟨0x1203E, 2, "CUNEIFORM SIGN ", "ASH2,BA,BAG3,BAL,BALAG,BARA2,BI TIMES A,BI TIMES IGI GUNU"⟩,
   ⟨0x1203F, 2, "CUNEIFORM SIGN ", "ASHGAB,BAD,BAHAR2,BAL OVER BAL,BAR,BI,BI TIMES GAR"⟩,
   ⟨0x1204D, 2, "CUNEIFORM SIGN ", "BU,BU OVER BU UN,BULUG,BUR,DA,DAG KISIM5 TIMES A PLUS MASH"⟩,
   ⟨0x1204E, 2, "CUNEIFORM SIGN ", "BU OVER BU AB,BU CROSSING BU,BULUG OVER BULUG,BUR2,DAG"⟩,
   ⟨0x12058, 1, "CUNEIFORM SIGN DAG KISIM5 TIMES ", "AMAR,BALAG,BI,GA,GA PLUS MASH,GI,GIR2"⟩,
   ⟨0x1205F, 1, "CUNEIFORM SIGN DAG KISIM5 TIMES ", "GUD,HA,IR,IR PLUS LU,KAK,LA,LU,LU PLUS MASH2"⟩,
   ⟨0x12067, 1, "CUNEIFORM SIGN DAG KISIM5 TIMES ", "LUM,NE,PAP PLUS PAP,SI,TAK4,U2 PLUS GIR2,USH"⟩,
   ⟨0x1206E, 2, "CUNEIFORM SIGN ", "DAM,DARA3,DI,DIM,DIM2,DIN KASKAL U GUNU DISH,DU,DU GUNU"⟩,
   ⟨0x1206F, 2, "CUNEIFORM SIGN ", "DAR,DARA4,DIB,DIM TIMES SHE,DIN,DISH,DU OVER DU,DU SHESHIG"⟩,
   ⟨0x1207E, 2, "CUNEIFORM SIGN ", "DUB,DUB2,DUGUD,DUN,DUN3 GUNU,DUN4,E,E OVER E NUN OVER NUN"⟩,
   ⟨0x1207F, 2,
    "CUNEIFORM SIGN ", "DUB TIMES ESH2,DUG,DUH,DUN3,DUN3 GUNU GUNU,DUR2,E TIMES PAP,E2"⟩,
   ⟨0x1208E, 1, "CUNEIFORM SIGN E2 TIMES ", "A PLUS HA PLUS DA,GAR,MI,SAL,SHE,U"⟩,
   ⟨0x12094, 1, "CUNEIFORM SIGN ", "EDIN,EGIR,EL,EN,EN TIMES GAN2,EN TIMES GAN2 TENU,EN TIMES ME"⟩,
   ⟨0x1209B, 1, "CUNEIFORM SIGN ", "EN CROSSING EN,EN OPPOSING EN,EN SQUARED,EREN,ERIN2,ESH2,EZEN"⟩,
   ⟨0x120A2, 1, "CUNEIFORM SIGN EZEN TIMES ", "A,A PLUS LAL,A PLUS LAL TIMES LAL,AN,BAD"⟩,
   ⟨0x120A7, 1,
    "CUNEIFORM SIGN EZEN TIMES ", "DUN3 GUNU,DUN3 GUNU GUNU,HA,HA GUNU,IGI GUNU,KASKAL"⟩,
   ⟨0x120AD, 1, "CUNEIFORM SIGN EZEN TIMES ", "KASKAL SQUARED,KU3,LA,LAL TIMES LAL,LI,LU,U2,UD"⟩,
   ⟨0x120B5, 1,
    "CUNEIFORM SIGN ", "GA,GA GUNU,GA2,GA2 TIMES A PLUS DA PLUS HA,GA2 TIMES A PLUS HA"⟩,
   ⟨0x120BA, 1, "CUNEIFORM SIGN GA2 TIMES ", "A PLUS IGI,AB2 TENU PLUS TAB,AN,ASH,ASH2 PLUS GAL"⟩,
   ⟨0x120BF, 1, "CUNEIFORM SIGN GA2 TIMES ", "BAD,BAR PLUS RA,BUR,BUR PLUS RA,DA,DI,DIM TIMES SHE"⟩,
   ⟨0x120C6, 1, "CUNEIFORM SIGN GA2 TIMES ", "DUB,EL,EL PLUS LA,EN,EN TIMES GAN2 TENU,GAN2 TENU"⟩,
   ⟨0x120CC, 2, "CUNEIFORM SIGN GA2 TIMES ", "GAR,GI4,GIR2 PLUS SU,HAL,HI PLUS LI,IGI GUNU"⟩,
   ⟨0x120CD, 2, "CUNEIFORM SIGN GA2 TIMES ", "GI,GI4 PLUS A,HA PLUS LU PLUS ESH2,HAL PLUS LA,HUB2"⟩,
   ⟨0x120D7, 1, "CUNEIFORM SIGN GA2 TIMES ", "ISH PLUS HU PLUS ASH,KAK,KASKAL,KID,KID PLUS LAL"⟩,
   ⟨0x120DC, 1,
    "CUNEIFORM SIGN GA2 TIMES ", "KU3 PLUS AN,LA,ME PLUS EN,MI,NUN,NUN OVER NUN,PA,SAL"⟩,
   ⟨0x120E4, 1, "CUNEIFORM SIGN GA2 TIMES ", "SAR,SHE,SHE PLUS TUR,SHID,SUM,TAK4,U,UD,UD PLUS DU"⟩,
   ⟨0x120ED, 1, "CUNEIFORM SIGN ", "GA2 OVER GA2,GABA,GABA CROSSING GABA,GAD"⟩,
   ⟨0x120F1, 1, "CUNEIFORM SIGN ", "GAD OVER GAD GAR OVER GAR,GAL,GAL GAD OVER GAD GAR OVER GAR"⟩,
   ⟨0x120F4, 2, "CUNEIFORM SIGN ", "GALAM,GAN,GAN2 TENU,GAN2 CROSSING GAN2,GAR3,GESHTIN,GI"⟩,
   ⟨0x120F5, 2, "CUNEIFORM SIGN ", "GAM,GAN2,GAN2 OVER GAN2,GAR,GASHAN,GESHTIN TIMES KUR"⟩,
   ⟨0x12101, 1, "CUNEIFORM SIGN GI ", "TIMES E,TIMES U,CROSSING GI"⟩,
   ⟨0x12104, 1, "CUNEIFORM SIGN ", "GI4,GI4 OVER GI4,GI4 CROSSING GI4,GIDIM,GIR2,GIR2 GUNU,GIR3"⟩,
   ⟨0x1210B, 1, "CUNEIFORM SIGN GIR3 TIMES ", "A PLUS IGI,GAN2 TENU,IGI,LU PLUS IGI,PA"⟩,
   ⟨0x12110, 2, "CUNEIFORM SIGN ", "GISAL,GISH CROSSING GISH,GISH TIMES TAK4,GU,GU2"⟩,
   ⟨0x12111, 2, "CUNEIFORM SIGN ", "GISH,GISH TIMES BAD,GISH TENU,GU CROSSING GU"⟩,
   ⟨0x12119, 1, "CUNEIFORM SIGN GU2 TIMES ", "KAK,KAK TIMES IGI GUNU,NUN,SAL PLUS TUG2"⟩,
   ⟨0x1211D, 1, "CUNEIFORM SIGN ", "GU2 GUNU,GUD,GUD TIMES A PLUS KUR"⟩,
   ⟨0x12120, 2, "CUNEIFORM SIGN ", "GUD TIMES KUR,GUL,GUM TIMES SHE,GUR7,GURUSH,HA TENU,HAL"⟩,
   ⟨0x12121, 2, "CUNEIFORM SIGN ", "GUD OVER GUD LUGAL,GUM,GUR,GURUN,HA,HA GUNU,HI"⟩,
   ⟨0x1212E, 1, "CUNEIFORM SIGN HI TIMES ", "ASH,ASH2,BAD,DISH,GAD,KIN,NUN,SHE,U"⟩,
   ⟨0x12137, 1, "CUNEIFORM SIGN ", "HU,HUB2"⟩,
   ⟨0x12139, 1, "CUNEIFORM SIGN HUB2 TIMES ", "AN,HAL,KASKAL,LISH,UD"⟩,
   ⟨0x1213E, 1, "CUNEIFORM SIGN ", "HUL2,I,I A,IB,IDIM,IDIM OVER IDIM BUR,IDIM OVER IDIM SQUARED"⟩,
   ⟨0x12145, 1, "CUNEIFORM SIGN ", "IG,IGI,IGI DIB,IGI RI,IGI OVER IGI SHIR OVER SHIR UD OVER UD"⟩,
   ⟨0x1214A, 1, "CUNEIFORM SIGN ", "IGI GUNU,IL,IL TIMES GAN2 TENU,IL2,IM,IM TIMES TAK4"⟩,
   ⟨0x12150, 1, "CUNEIFORM SIGN ", "IM CROSSING IM,IM OPPOSING IM,IM SQUARED,IMIN,IN,IR,ISH,KA"⟩,
   ⟨0x12158, 1, "CUNEIFORM SIGN KA TIMES ", "A,AD,AD PLUS KU3,ASH2,BAD,BALAG,BAR,BI,ERIN2"⟩,
   ⟨0x12161, 1, "CUNEIFORM SIGN KA TIMES ", "ESH2,GA,GAL,GAN2 TENU,GAR,GAR PLUS SHA3 PLUS A,GI"⟩,
   ⟨0x12168, 2, "CUNEIFORM SIGN KA TIMES ", "GIR2,GISH CROSSING GISH,GUR7,IM,KI,LI,ME,ME PLUS GI"⟩,
   ⟨0x12169, 2,
    "CUNEIFORM SIGN KA TIMES ", "GISH PLUS SAR,GU,IGI,KAK,KID,LU,ME PLUS DU,ME PLUS TE"⟩,
   ⟨0x12178, 2, "CUNEIFORM SIGN KA TIMES ", "MI,NE,PI,SA,SHA,SHID,SIG,TAR,U2,UMUM TIMES PA,ZI"⟩,
   ⟨0x12179, 2, "CUNEIFORM SIGN KA TIMES ", "MI PLUS NUNUZ,NUN,RU,SAR,SHE,SHU,SUHUR,U,UD,USH"⟩,
   ⟨0x1218D, 1, "CUNEIFORM SIGN ", "KA2,KA2 CROSSING KA2,KAB,KAD2,KAD3,KAD4,KAD5,KAD5 OVER KAD5"⟩,
   ⟨0x12195, 1,
    "CUNEIFORM SIGN ", "KAK,KAK TIMES IGI GUNU,KAL,KAL TIMES BAD,KAL CROSSING KAL,KAM2"⟩,
   ⟨0x1219B, 2, "CUNEIFORM SIGN ", "KAM4,KASKAL LAGAB TIMES U OVER LAGAB TIMES U,KESH2"⟩,
   ⟨0x1219C, 2, "CUNEIFORM SIGN ", "KASKAL,KASKAL OVER KASKAL LAGAB TIMES U OVER LAGAB TIMES U,KI"⟩,
   ⟨0x121A1, 1, "CUNEIFORM SIGN KI TIMES ", "BAD,U,UD"⟩,
   ⟨0x121A4, 1, "CUNEIFORM SIGN ", "KID,KIN,KISAL,KISH,KISIM5,KISIM5 OVER KISIM5"⟩,
   ⟨0x121AA, 1, "CUNEIFORM SIGN ", "KU,KU OVER HI TIMES ASH2 KU OVER HI TIMES ASH2"⟩,
   ⟨0x121AC, 2, "CUNEIFORM SIGN ", "KU3,KU4 VARIANT FORM,KUL,KUN,KUR OPPOSING KUR,KWU318,LAGAB"⟩,
   ⟨0x121AD, 2, "CUNEIFORM SIGN ", "KU4,KU7,KUL GUNU,KUR,KUSHU2,LA,LAGAB TIMES A"⟩,
   ⟨0x121BA, 2, "CUNEIFORM SIGN LAGAB TIMES ", "A PLUS DA PLUS HA,A PLUS LAL,AN,BAD,DAR,GA,GUD"⟩,
   ⟨0x121BB, 2,
    "CUNEIFORM SIGN LAGAB TIMES ", "A PLUS GAR,AL,ASH ZIDA TENU,BI,EN,GAR,GUD PLUS GUD"⟩,
   ⟨0x121C8, 1, "CUNEIFORM SIGN LAGAB TIMES ", "HA,HAL,HI TIMES NUN,IGI GUNU,IM,IM PLUS HA"⟩,
   ⟨0x121CE, 2, "CUNEIFORM SIGN LAGAB TIMES ", "IM PLUS LU,KIN,KUL,LAGAB,LU,ME,MUSH,SHE PLUS SUM"⟩,
   ⟨0x121CF, 2, "CUNEIFORM SIGN LAGAB TIMES ", "KI,KU3,KUL PLUS HI PLUS A,LISH,LUL,ME PLUS EN,NE"⟩,
   ⟨0x121DD, 1, "CUNEIFORM SIGN LAGAB TIMES SHITA PLUS GISH ", "PLUS ERIN2,TENU"⟩,
   ⟨0x121DF, 1, "CUNEIFORM SIGN LAGAB TIMES ", "SHU2,SHU2 PLUS SHU2,SUM,TAG"⟩,
   ⟨0x121E3, 2, "CUNEIFORM SIGN LAGAB TIMES ", "TAK4,U,U PLUS U PLUS U,UD"⟩,
   ⟨0x121E4, 2,
    "CUNEIFORM SIGN LAGAB TIMES ", "TE PLUS A PLUS SU PLUS NA,U PLUS A,U2 PLUS ASH,USH"⟩,
   ⟨0x121EB, 1, "CUNEIFORM SIGN ", "LAGAB SQUARED,LAGAR,LAGAR TIMES SHE"⟩,
   ⟨0x121EE, 1, "CUNEIFORM SIGN LAGAR ", "TIMES SHE PLUS SUM,GUNU,GUNU OVER LAGAR GUNU SHE"⟩,
   ⟨0x121F1, 2, "CUNEIFORM SIGN ", "LAHSHU,LAL TIMES LAL,LAM TIMES KUR,LI,LIMMU2,LU,LU2"⟩,
   ⟨0x121F2, 2, "CUNEIFORM SIGN ", "LAL,LAM,LAM TIMES KUR PLUS RU,LIL,LISH,LU TIMES BAD"⟩,
   ⟨0x121FE, 1,
    "CUNEIFORM SIGN LU2 TIMES ", "AL,BAD,ESH2,ESH2 TENU,GAN2 TENU,HI TIMES BAD,IM,KAD2"⟩,
   ⟨0x12206, 2, "CUNEIFORM SIGN LU2 TIMES ", "KAD3,KI,LAGAB,NE,SI PLUS ASH,TUG2"⟩,
   ⟨0x12207, 2,
    "CUNEIFORM SIGN LU2 TIMES ", "KAD3 PLUS ASH,LA PLUS ASH,ME PLUS EN,NU,SIK2 PLUS BU"⟩,
   ⟨0x12211, 1, "CUNEIFORM SIGN LU2 ", "TENU,CROSSING LU2,OPPOSING LU2,SQUARED,SHESHIG"⟩,
   ⟨0x12216, 2, "CUNEIFORM SIGN ", "LU3,LUGAL OVER LUGAL,LUGAL SHESHIG,LUL,LUM OVER LUM"⟩,
   ⟨0x12217, 2, "CUNEIFORM SIGN ", "LUGAL,LUGAL OPPOSING LUGAL,LUH,LUM,LUM OVER LUM GAR OVER GAR"⟩,
   ⟨0x12220, 1, "CUNEIFORM SIGN ", "MA,MA TIMES TAK4,MA GUNU,MA2,MAH,MAR,MASH,MASH2,ME,MES,MI"⟩,
   ⟨0x1222B, 1,
    "CUNEIFORM SIGN ", "MIN,MU,MU OVER MU,MUG,MUG GUNU,MUNSUB,MURGU2,MUSH,MUSH TIMES A"⟩,
   ⟨0x12234, 1, "CUNEIFORM SIGN MUSH ", "TIMES KUR,TIMES ZA,OVER MUSH,OVER MUSH TIMES A PLUS NA"⟩,
   ⟨0x12238, 2, "CUNEIFORM SIGN ", "MUSH CROSSING MUSH,MUSH3 TIMES A,MUSH3 TIMES DI,NA,NAGA"⟩,
   ⟨0x12239, 2, "CUNEIFORM SIGN ", "MUSH3,MUSH3 TIMES A PLUS DI,MUSH3 GUNU,NA2"⟩,
   ⟨0x12241, 1, "CUNEIFORM SIGN NAGA ", "INVERTED,TIMES SHU TENU,OPPOSING NAGA"⟩,
   ⟨0x12244, 2, "CUNEIFORM SIGN ", "NAGAR,NAM,NE,NE TIMES UD,NI,NI2,NIM TIMES GAN2 TENU"⟩,
   ⟨0x12245, 2, "CUNEIFORM SIGN ", "NAM NUTILLU,NAM2,NE TIMES A,NE SHESHIG,NI TIMES E,NIM"⟩,
   ⟨0x12251, 1, "CUNEIFORM SIGN ", "NIM TIMES GAR PLUS GAN2 TENU,NINDA2,NINDA2 TIMES AN"⟩,
   ⟨0x12254, 1,
    "CUNEIFORM SIGN NINDA2 TIMES ", "ASH,ASH PLUS ASH,GUD,ME PLUS GAN2 TENU,NE,NUN,SHE"⟩,
   ⟨0x1225B, 1, "CUNEIFORM SIGN NINDA2 TIMES SHE PLUS ", "A AN,ASH,ASH PLUS ASH"⟩,
   ⟨0x1225E, 1, "CUNEIFORM SIGN ", "NINDA2 TIMES U2 PLUS ASH,NINDA2 TIMES USH,NISAG,NU,NU11,NUN"⟩,
   ⟨0x12264, 1, "CUNEIFORM SIGN NUN LAGAR TIMES ", "GAR,MASH,SAL,SAL OVER NUN LAGAR TIMES SAL,USH"⟩,
   ⟨0x12269, 1, "CUNEIFORM SIGN NUN ", "TENU,OVER NUN,CROSSING NUN,CROSSING NUN LAGAR OVER LAGAR"⟩,
   ⟨0x1226D, 1, "CUNEIFORM SIGN NUNUZ", ""⟩,
   ⟨0x1226E, 1,
    "CUNEIFORM SIGN NUNUZ AB2 TIMES ", "ASHGAB,BI,DUG,GUD,IGI GUNU,KAD3,LA,NE,SILA3,U2"⟩,
   ⟨0x12278, 1, "CUNEIFORM SIGN NUNUZ KISIM5 TIMES ", "BI,BI U"⟩,
   ⟨0x1227A, 1, "CUNEIFORM SIGN ", "PA,PAD,PAN,PAP,PESH2,PI"⟩,
   ⟨0x12280, 1, "CUNEIFORM SIGN PI TIMES ", "A,AB,BI,BU,E,I,IB,U,U2"⟩,
   ⟨0x12289, 2, "CUNEIFORM SIGN ", "PI CROSSING PI,PIRIG TIMES KAL,PIRIG TIMES ZA,RA,RI,SA,SAG"⟩,
   ⟨0x1228A, 2, "CUNEIFORM SIGN ", "PIRIG,PIRIG TIMES UD,PIRIG OPPOSING PIRIG,RAB,RU,SAG NUTILLU"⟩,
   ⟨0x12296, 1,
    "CUNEIFORM SIGN SAG TIMES ", "A,DU,DUB,HA,KAK,KUR,LUM,MI,NUN,SAL,SHID,TAB,U2,UB,UM"⟩,
   ⟨0x122A5, 1, "CUNEIFORM SIGN SAG ", "TIMES UR,TIMES USH,OVER SAG,GUNU"⟩,
   ⟨0x122A9, 1, "CUNEIFORM SIGN ", "SAL,SAL LAGAB TIMES ASH2,SANGA2,SAR,SHA,SHA3"⟩,
   ⟨0x122AF, 1, "CUNEIFORM SIGN SHA3 TIMES ", "A,BAD,GISH,NE,SHU2,TUR,U,U PLUS A"⟩,
   ⟨0x122B7, 2, "CUNEIFORM SIGN ", "SHA6,SHAR2,SHE HU,SHE OVER SHE TAB OVER TAB GAR OVER GAR,SHEN"⟩,
   ⟨0x122B8, 2, "CUNEIFORM SIGN ", "SHAB6,SHE,SHE OVER SHE GAD OVER GAD GAR OVER GAR,SHEG9"⟩,
   ⟨0x122C0, 1, "CUNEIFORM SIGN ", "SHESH,SHESH2,SHESHLAM,SHID,SHID TIMES A,SHID TIMES IM,SHIM"⟩,
   ⟨0x122C7, 1,
    "CUNEIFORM SIGN SHIM TIMES ", "A,BAL,BULUG,DIN,GAR,IGI,IGI GUNU,KUSHU2,LUL,MUG,SAL"⟩,
   ⟨0x122D2, 1, "CUNEIFORM SIGN ", "SHINIG,SHIR,SHIR TENU,SHIR OVER SHIR BUR OVER BUR,SHITA"⟩,
   ⟨0x122D7, 2, "CUNEIFORM SIGN ", "SHU,SHU2,SI,SIG,SIG4 OVER SIG4 SHU2,SILA3,SU OVER SU,SUD2,SUM"⟩,
   ⟨0x122D8, 2, "CUNEIFORM SIGN ", "SHU OVER INVERTED SHU,SHUBUR,SI GUNU,SIG4,SIK2,SU,SUD,SUHUR"⟩,
   ⟨0x122E8, 1,
    "CUNEIFORM SIGN ", "SUMASH,SUR,SUR9,TA,TA ASTERISK,TA TIMES HI,TA TIMES MI,TA GUNU"⟩,
   ⟨0x122F0, 1, "CUNEIFORM SIGN ", "TAB,TAB OVER TAB NI OVER NI DISH OVER DISH,TAB SQUARED,TAG"⟩,
   ⟨0x122F4, 1, "CUNEIFORM SIGN TAG TIMES ", "BI,GUD,SHE,SHU,TUG2,UD"⟩,
   ⟨0x122FA, 1, "CUNEIFORM SIGN ", "TAK4,TAR,TE,TE GUNU,TI,TI TENU,TIL,TIR,TIR TIMES TAK4"⟩,
   ⟨0x12303, 1, "CUNEIFORM SIGN TIR OVER ", "TIR,TIR GAD OVER GAD GAR OVER GAR"⟩,
   ⟨0x12305, 1, "CUNEIFORM SIGN ", "TU,TUG2,TUK,TUM,TUR,TUR OVER TUR ZA OVER ZA,U,U GUD,U U U"⟩,
   ⟨0x1230E, 1, "CUNEIFORM SIGN U OVER U ", "PA OVER PA GAR OVER GAR,SUR OVER SUR"⟩,
   ⟨0x12310, 1, "CUNEIFORM SIGN ", "U OVER U U REVERSED OVER U REVERSED,U2,UB,UD,UD KUSHU2"⟩,
   ⟨0x12315, 1, "CUNEIFORM SIGN UD TIMES ", "BAD,MI,U PLUS U PLUS U,U PLUS U PLUS U GUNU"⟩,
   ⟨0x12319, 1, "CUNEIFORM SIGN ", "UD GUNU,UD SHESHIG,UD SHESHIG TIMES BAD,UDUG,UM"⟩,
   ⟨0x1231E, 1, "CUNEIFORM SIGN UM TIMES ", "LAGAB,ME PLUS DA,SHA3,U"⟩,
   ⟨0x12322, 2, "CUNEIFORM SIGN ", "UMBIN,UMUM TIMES KASKAL,UN,UR,UR SHESHIG"⟩,
   ⟨0x12323, 2, "CUNEIFORM SIGN ", "UMUM,UMUM TIMES PA,UN GUNU,UR CROSSING UR,UR2"⟩,
   ⟨0x1232C, 1, "CUNEIFORM SIGN UR2 TIMES ", "A PLUS HA,A PLUS NA,AL,HA,NUN,U2,U2 PLUS ASH"⟩,
   ⟨0x12333, 1, "CUNEIFORM SIGN ", "UR2 TIMES U2 PLUS BI,UR4,URI,URI3,URU"⟩,
   ⟨0x12338, 1, "CUNEIFORM SIGN URU TIMES ", "A,ASHGAB,BAR,DUN,GA,GAL,GAN2 TENU,GAR,GU,HA,IGI"⟩,
   ⟨0x12343, 1,
    "CUNEIFORM SIGN URU TIMES ", "IM,ISH,KI,LUM,MIN,PA,SHE,SIG4,TU,U PLUS GUD,UD,URUDA"⟩,
   ⟨0x1234F, 1,
    "CUNEIFORM SIGN ", "URUDA,URUDA TIMES U,USH,USH TIMES A,USH TIMES KU,USH TIMES KUR"⟩,
   ⟨0x12355, 1, "CUNEIFORM SIGN ", "USH TIMES TAK4,USHX,USH2,USHUMX,UTUKI,UZ3,UZ3 TIMES KASKAL"⟩,
   ⟨0x1235C, 1,
    "CUNEIFORM SIGN ", "UZU,ZA,ZA TENU,ZA SQUARED TIMES KUR,ZAG,ZAMX,ZE2,ZI,ZI OVER ZI"⟩,
   ⟨0x12365, 2, "CUNEIFORM SIGN ", "ZI3,ZIB KABA TENU,ZIZ2,ZU5,ZUBUR,KAP ELAMITE,AB2 TIMES A"⟩,
   ⟨0x12366, 2, "CUNEIFORM SIGN ", "ZIB,ZIG,ZU,ZU5 TIMES A,ZUM,AB TIMES NUN,AMAR TIMES KUG"⟩,
   ⟨0x12373, 1,
    "CUNEIFORM SIGN ", "DAG KISIM5 TIMES U2 PLUS MASH,DAG3,DISH PLUS SHU,DUB TIMES SHE"⟩,
   ⟨0x12377, 1, "CUNEIFORM SIGN EZEN TIMES ", "GUD,SHE"⟩,
   ⟨0x12379, 1, "CUNEIFORM SIGN ", "GA2 TIMES AN PLUS KAK PLUS A,GA2 TIMES ASH2,GE22,GIG,HUSH"⟩,
   ⟨0x1237E, 1, "CUNEIFORM SIGN KA TIMES ", "ANSHE,ASH3,GISH,GUD,HI TIMES ASH2,LUM,PA,SHUL,TU,UR2"⟩,
   ⟨0x12388, 2, "CUNEIFORM SIGN ", "LAGAB TIMES GI,LU2 TIMES ESH2 PLUS LAL,MESH,NA4,NIN9"⟩,
   ⟨0x12389, 2, "CUNEIFORM SIGN ", "LU2 SHESHIG TIMES BAD,LU2 TIMES SHU,MUSH3 TIMES ZA,NIN"⟩,
   ⟨0x12391, 2, "CUNEIFORM SIGN ", "NINDA2 TIMES BAL,NU11 ROTATED NINETY DEGREES,PIR2,TI2,U U"⟩,
   ⟨0x12392, 2, "CUNEIFORM SIGN ", "NINDA2 TIMES GI,PESH2 ASTERISK,SAG TIMES IGI GUNU,UM TIMES ME"⟩,
   ⟨0x12400, 1, "CUNEIFORM NUMERIC SIGN ", "TWO ASH,THREE ASH,FOUR ASH,FIVE ASH"⟩,
   ⟨0x12404, 2, "CUNEIFORM NUMERIC SIGN ", "SIX ASH,EIGHT ASH,THREE DISH,FIVE DISH,SEVEN DISH"⟩,
   ⟨0x12405, 2, "CUNEIFORM NUMERIC SIGN ", "SEVEN ASH,NINE ASH,FOUR DISH,SIX DISH,EIGHT DISH"⟩,
   ⟨0x1240E, 2, "CUNEIFORM NUMERIC SIGN ", "NINE DISH,FIVE U,SEVEN U,NINE U,TWO GESH2,FOUR GESH2"⟩,
   ⟨0x1240F, 2, "CUNEIFORM NUMERIC SIGN ", "FOUR U,SIX U,EIGHT U,ONE GESH2,THREE GESH2,FIVE GESH2"⟩,
   ⟨0x1241A, 2,
    "CUNEIFORM NUMERIC SIGN ", "SIX GESH2,EIGHT GESH2,ONE GESHU,THREE GESHU,FIVE GESHU"⟩,
   ⟨0x1241B, 2, "CUNEIFORM NUMERIC SIGN ", "SEVEN GESH2,NINE GESH2,TWO GESHU,FOUR GESHU,TWO SHAR2"⟩,
   ⟨0x12424, 1, "CUNEIFORM NUMERIC SIGN THREE ", "SHAR2,SHAR2 VARIANT FORM"⟩,
   ⟨0x12426, 2,
    "CUNEIFORM NUMERIC SIGN ", "FOUR SHAR2,SIX SHAR2,EIGHT SHAR2,ONE SHARU,THREE SHARU"⟩,
   ⟨0x12427, 2, "CUNEIFORM NUMERIC SIGN ", "FIVE SHAR2,SEVEN SHAR2,NINE SHAR2,TWO SHARU"⟩,
   ⟨0x1242F, 1, "CUNEIFORM NUMERIC SIGN ", "THREE SHARU VARIANT FORM,FOUR SHARU,FIVE SHARU"⟩,
   ⟨0x12432, 1, "CUNEIFORM NUMERIC SIGN SHAR2 TIMES GAL PLUS ", "DISH,MIN"⟩,
   ⟨0x12434, 2, "CUNEIFORM NUMERIC SIGN ", "ONE BURU,THREE BURU,FOUR BURU"⟩,
   ⟨0x12435, 2, "CUNEIFORM NUMERIC SIGN ", "TWO BURU,THREE BURU VARIANT FORM,FIVE BURU"⟩,
   ⟨0x1243A, 1, "CUNEIFORM NUMERIC SIGN THREE VARIANT FORM ", "ESH16,ESH21"⟩,
   ⟨0x1243C, 1, "CUNEIFORM NUMERIC SIGN FOUR VARIANT FORM ", "LIMMU,LIMMU4,LIMMU A,LIMMU B"⟩,
   ⟨0x12440, 1, "CUNEIFORM NUMERIC SIGN SIX VARIANT FORM ASH9", ""⟩,
   ⟨0x12441, 1, "CUNEIFORM NUMERIC SIGN SEVEN VARIANT FORM ", "IMIN3,IMIN A,IMIN B"⟩,
   ⟨0x12444, 1, "CUNEIFORM NUMERIC SIGN EIGHT VARIANT FORM ", "USSU,USSU3"⟩,
   ⟨0x12446, 1, "CUNEIFORM NUMERIC SIGN NINE VARIANT FORM ", "ILIMMU,ILIMMU3,ILIMMU4,ILIMMU A"⟩,
   ⟨0x1244A, 2, "CUNEIFORM NUMERIC SIGN ", "TWO ASH TENU,FOUR ASH TENU,SIX ASH TENU,TWO BAN2"⟩,
   ⟨0x1244B, 2, "CUNEIFORM NUMERIC SIGN ", "THREE ASH TENU,FIVE ASH TENU,ONE BAN2,THREE BAN2"⟩,
   ⟨0x12452, 1, "CUNEIFORM NUMERIC SIGN FOUR ", "BAN2,BAN2 VARIANT FORM"⟩,
   ⟨0x12454, 1, "CUNEIFORM NUMERIC SIGN FIVE ", "BAN2,BAN2 VARIANT FORM"⟩,
   ⟨0x12456, 1,
    "CUNEIFORM NUMERIC SIGN ", "NIGIDAMIN,NIGIDAESH,ONE ESHE3,TWO ESHE3,ONE THIRD DISH"⟩,
   ⟨0x1245B, 2, "CUNEIFORM NUMERIC SIGN ", "TWO THIRDS DISH,ONE THIRD VARIANT FORM A"⟩,
   ⟨0x1245C, 2, "CUNEIFORM NUMERIC SIGN ", "FIVE SIXTHS DISH,TWO THIRDS VARIANT FORM A"⟩,
   ⟨0x1245F, 2, "CUNEIFORM NUMERIC SIGN ", "ONE EIGHTH ASH,OLD ASSYRIAN ONE SIXTH,ONE QUARTER GUR"⟩,
   ⟨0x12460, 2, "CUNEIFORM NUMERIC SIGN ", "ONE QUARTER ASH,OLD ASSYRIAN ONE QUARTER,ONE HALF GUR"⟩,
   ⟨0x12465, 1, "CUNEIFORM NUMERIC SIGN ELAMITE ", "ONE THIRD,TWO THIRDS,FORTY,FIFTY"⟩,
   ⟨0x12469, 1, "CUNEIFORM NUMERIC SIGN ", "FOUR U VARIANT FORM,FIVE U VARIANT FORM"⟩,
   ⟨0x1246B, 2, "CUNEIFORM NUMERIC SIGN ", "SIX U VARIANT FORM,EIGHT U VARIANT FORM"⟩,
   ⟨0x1246C, 2, "CUNEIFORM NUMERIC SIGN ", "SEVEN U VARIANT FORM,NINE U VARIANT FORM"⟩,
   ⟨0x12470, 1, "CUNEIFORM PUNCTUATION SIGN ", "OLD ASSYRIAN WORD DIVIDER,VERTICAL COLON"⟩,
   ⟨0x12472, 1, "CUNEIFORM PUNCTUATION SIGN DIAGONAL ", "COLON,TRICOLON,QUADCOLON"⟩,
   ⟨0x12480, 1, "CUNEIFORM SIGN AB TIMES ", "NUN TENU,SHU2"⟩,
   ⟨0x12482, 2, "CUNEIFORM SIGN ", "AD TIMES ESH2,BAHAR2 TIMES AB2,BAHAR2 TIMES ZA,DA TIMES TAK4"⟩,
   ⟨0x12483, 2, "CUNEIFORM SIGN ", "BAD TIMES DISH TENU,BAHAR2 TIMES NI,BU OVER BU TIMES NA2"⟩,
   ⟨0x12489, 1, "CUNEIFORM SIGN ", "DAG TIMES KUR,DIM TIMES IGI,DIM TIMES U U U,DIM2 TIMES UD"⟩,
   ⟨0x1248D, 2, "CUNEIFORM SIGN DUG TIMES ", "ANSHE,ASH AT LEFT,DUN,GA,GIR2 GUNU,HA,IGI GUNU"⟩,
   ⟨0x1248E, 2, "CUNEIFORM SIGN DUG TIMES ", "ASH,DIN,ERIN2,GI,GISH,HI,KASKAL"⟩,
   ⟨0x1249B, 2, "CUNEIFORM SIGN DUG TIMES ", "KUR,KUSHU2 PLUS KASKAL,LAM,LUH PLUS GISH,MES,NI,SHE"⟩,
   ⟨0x1249C, 2, "CUNEIFORM SIGN DUG TIMES ", "KUSHU2,LAK-020,LAM TIMES KUR,MASH,MI,PI,SI GUNU"⟩,
   ⟨0x124A9, 1, "CUNEIFORM SIGN ", "E2 TIMES KUR,E2 TIMES PAP,ERIN2 X,ESH2 CROSSING ESH2"⟩,
   ⟨0x124AD, 1, "CUNEIFORM SIGN EZEN SHESHIG TIMES ", "ASH,HI,IGI GUNU,LA,LAL,ME,MES,SU"⟩,
   ⟨0x124B5, 1, "CUNEIFORM SIGN ", "EZEN TIMES SU,GA2 TIMES BAHAR2,GA2 TIMES DIM GUNU"⟩,
   ⟨0x124B8, 2, "CUNEIFORM SIGN GA2 TIMES ", "DUG TIMES IGI GUNU,EREN,GAR PLUS DI,HA PLUS A,LAM"⟩,
   ⟨0x124B9, 2, "CUNEIFORM SIGN GA2 TIMES ", "DUG TIMES KASKAL,GA,GAR PLUS NE,KUSHU2 PLUS KASKAL"⟩,
   ⟨0x124C1, 1,
    "CUNEIFORM SIGN GA2 TIMES ", "LAM TIMES KUR,LUH,MUSH,NE,NE PLUS E2,NE PLUS GI,SHIM"⟩,
   ⟨0x124C8, 2, "CUNEIFORM SIGN ", "GA2 TIMES ZIZ2,GESHTIN TIMES U"⟩,
   ⟨0x124C9, 2, "CUNEIFORM SIGN ", "GABA ROTATED NINETY DEGREES,GISH TIMES GISH CROSSING GISH"⟩,
   ⟨0x124CC, 2, "CUNEIFORM SIGN ", "GU2 TIMES IGI GUNU,HA TENU GUNU"⟩,
   ⟨0x124CD, 2, "CUNEIFORM SIGN ", "GUD PLUS GISH TIMES TAK4,HI TIMES ASH OVER HI TIMES ASH"⟩,
   ⟨0x124D0, 1, "CUNEIFORM SIGN KA TIMES ", "BU,KA,U U U,UR"⟩,
   ⟨0x124D4, 1, "CUNEIFORM SIGN ", "LAGAB TIMES ZU OVER ZU,LAK-003,LAK-021,LAK-025"⟩,
   ⟨0x124D8, 1,
    "CUNEIFORM SIGN LAK-", "030,050,051,062,079 OVER LAK-079 GUNU,080,081 OVER LAK-081"⟩,
   ⟨0x124DF, 2, "CUNEIFORM SIGN LAK-", "092,142,219,225,238,266,347,383,390,449,449 TIMES IGI"⟩,
   ⟨0x124E0, 2, "CUNEIFORM SIGN LAK-", "130,210,220,228,265,343,348,384,441,449 TIMES GU"⟩,
   ⟨0x124F4, 1, "CUNEIFORM SIGN LAK-449 TIMES ", "PAP PLUS LU3,PAP PLUS PAP PLUS LU3,U2 PLUS BA"⟩,
   ⟨0x124F7, 1, "CUNEIFORM SIGN LAK-", "450,457,470,483,490,492,493,495,550,608,617"⟩,
   ⟨0x12502, 1,
    "CUNEIFORM SIGN LAK-617 TIMES ", "ASH,BAD,DUN3 GUNU GUNU,KU3,LA,TAR,TE,U2,UD,URUDA"⟩,
   ⟨0x1250C, 1, "CUNEIFORM SIGN LAK-", "636,648"⟩,
   ⟨0x1250E, 2, "CUNEIFORM SIGN LAK-648 TIMES ", "DUB,IGI,NI,SHESH PLUS KI,URUDA"⟩,
   ⟨0x1250F, 2, "CUNEIFORM SIGN LAK-648 TIMES ", "GA,IGI GUNU,PAP PLUS PAP PLUS LU3,UD"⟩,
   ⟨0x12517, 1, "CUNEIFORM SIGN ", "LAK-724,LAK-749,LU2 GUNU TIMES ASH"⟩,
   ⟨0x1251A, 1, "CUNEIFORM SIGN LU2 TIMES ", "DISH,HAL,PAP,PAP PLUS PAP PLUS LU3,TAK4"⟩,
   ⟨0x1251F, 1, "CUNEIFORM SIGN ", "MI PLUS ZA7,MUSH OVER MUSH TIMES GA,MUSH OVER MUSH TIMES KAK"⟩,
   ⟨0x12522, 2, "CUNEIFORM SIGN NINDA2 TIMES ", "DIM GUNU,GUL,KESH2,MASH,U,URUDA"⟩,
   ⟨0x12523, 2, "CUNEIFORM SIGN NINDA2 TIMES ", "GISH,HI,LAK-050,PAP PLUS PAP,U PLUS U"⟩,
   ⟨0x1252D, 1, "CUNEIFORM SIGN SAG ", "GUNU TIMES HA,TIMES EN,TIMES SHE AT LEFT,TIMES TAK4"⟩,
   ⟨0x12531, 2, "CUNEIFORM SIGN ", "SHA6 TENU,SHE PLUS HUB2,SHE PLUS SAR,SHU2 PLUS E2 TIMES AN"⟩,
   ⟨0x12532, 2, "CUNEIFORM SIGN ", "SHE OVER SHE,SHE PLUS NAM2,SHU2 PLUS DUG TIMES NI"⟩,
   ⟨0x12538, 2, "CUNEIFORM SIGN ", "SI TIMES TAK4,TUM TIMES GAN2 TENU,UR2 INVERTED"⟩,
   ⟨0x12539, 2, "CUNEIFORM SIGN ", "TAK4 PLUS SAG,TUM TIMES THREE DISH,UR2 TIMES UD"⟩,
   ⟨0x1253E, 1, "CUNEIFORM SIGN URU TIMES ", "DARA3,LAK-668,LU3"⟩,
   ⟨0x12541, 1, "CUNEIFORM SIGN ", "ZA7,ZU OVER ZU PLUS SAR,ZU5 TIMES THREE DISH TENU"⟩,
   ⟨0x12F90, 1, "CYPRO-MINOAN SIGN ", "CM001,CM002"⟩,
   ⟨0x12F92, 2,
    "CYPRO-MINOAN SIGN ", "CM004,CM006,CM008,CM010,CM012,CM013,CM017,CM021,CM024,CM026"⟩,
   ⟨0x12F93, 2, "CYPRO-MINOAN SIGN ", "CM005,CM007,CM009,CM011,CM012B,CM015,CM019,CM023,CM025"⟩,
   ⟨0x12FA5, 2,
    "CYPRO-MINOAN SIGN ", "CM027,CM029,CM033,CM035,CM037,CM039,CM041,CM046,CM049,CM051"⟩,
   ⟨0x12FA6, 2,
    "CYPRO-MINOAN SIGN ", "CM028,CM030,CM034,CM036,CM038,CM040,CM044,CM047,CM050,CM052"⟩,
   ⟨0x12FB9, 2,
    "CYPRO-MINOAN SIGN ", "CM053,CM055,CM058,CM060,CM062,CM064,CM067,CM069,CM071,CM073"⟩,
   ⟨0x12FBA, 2,
    "CYPRO-MINOAN SIGN ", "CM054,CM056,CM059,CM061,CM063,CM066,CM068,CM070,CM072,CM074"⟩,
   ⟨0x12FCD, 2, "CYPRO-MINOAN SIGN ", "CM075,CM076,CM079,CM081,CM083,CM085,CM087,CM089,CM091"⟩,
   ⟨0x12FCE, 2, "CYPRO-MINOAN SIGN ", "CM075B,CM078,CM080,CM082,CM084,CM086,CM088,CM090,CM092"⟩,
   ⟨0x12FDF, 2,
    "CYPRO-MINOAN SIGN ", "CM094,CM096,CM098,CM100,CM102,CM104,CM107,CM109,CM112,CM301"⟩,
   ⟨0x12FE0, 2,
    "CYPRO-MINOAN SIGN ", "CM095,CM097,CM099,CM101,CM103,CM105,CM108,CM110,CM114,CM302"⟩]

end RegexSubst.Unicode
