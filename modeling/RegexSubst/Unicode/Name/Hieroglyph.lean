import RegexSubst.Unicode.Name.Run

/-!
# `RegexSubst.Unicode.Name.Hieroglyph`: names of U+13000 to U+167FF

Egyptian and Anatolian hieroglyphs.
-/

set_option autoImplicit false

namespace RegexSubst.Unicode

/-- The names of U+13000 to U+167FF. -/
def hieroglyphNames : List NameRun :=
  [⟨0x13000, 1,
    "EGYPTIAN HIEROGLYPH ", "A001,A002,A003,A004,A005,A005A,A006,A006A,A006B,A007,A008"⟩,
   ⟨0x1300B, 1, "EGYPTIAN HIEROGLYPH ", "A009,A010,A011,A012,A013,A014,A014A,A015,A016,A017,A017A"⟩,
   ⟨0x13016, 2, "EGYPTIAN HIEROGLYPH ", "A018,A020,A022,A024,A026,A028,A030,A032,A033,A035,A037"⟩,
   ⟨0x13017, 2, "EGYPTIAN HIEROGLYPH ", "A019,A021,A023,A025,A027,A029,A031,A032A,A034,A036,A038"⟩,
   ⟨0x1302C, 2, "EGYPTIAN HIEROGLYPH ", "A039,A040A,A042,A043,A044,A045A,A047,A049,A051,A053,A055"⟩,
   ⟨0x1302D, 2, "EGYPTIAN HIEROGLYPH ", "A040,A041,A042A,A043A,A045,A046,A048,A050,A052,A054,A056"⟩,
   ⟨0x13042, 2, "EGYPTIAN HIEROGLYPH ", "A057,A059,A061,A063,A065,A067,A069,B001,B003,B005,B006"⟩,
   ⟨0x13043, 2, "EGYPTIAN HIEROGLYPH ", "A058,A060,A062,A064,A066,A068,A070,B002,B004,B005A,B007"⟩,
   ⟨0x13058, 2, "EGYPTIAN HIEROGLYPH ", "B008,C001,C002A,C002C,C004,C006,C008,C010,C011,C013,C015"⟩,
   ⟨0x13059, 2, "EGYPTIAN HIEROGLYPH ", "B009,C002,C002B,C003,C005,C007,C009,C010A,C012,C014,C016"⟩,
   ⟨0x1306E, 2, "EGYPTIAN HIEROGLYPH ", "C017,C019,C021,C023,D001,D003,D005,D007,D008A,D010,D012"⟩,
   ⟨0x1306F, 2, "EGYPTIAN HIEROGLYPH ", "C018,C020,C022,C024,D002,D004,D006,D008,D009,D011,D013"⟩,
   ⟨0x13084, 2, "EGYPTIAN HIEROGLYPH ", "D014,D016,D018,D020,D022,D024,D026,D027A,D029,D031,D032"⟩,
   ⟨0x13085, 2, "EGYPTIAN HIEROGLYPH ", "D015,D017,D019,D021,D023,D025,D027,D028,D030,D031A,D033"⟩,
   ⟨0x1309A, 2, "EGYPTIAN HIEROGLYPH ", "D034,D035,D037,D039,D041,D043,D045,D046A,D048,D049,D050A"⟩,
   ⟨0x1309B, 2,
    "EGYPTIAN HIEROGLYPH ", "D034A,D036,D038,D040,D042,D044,D046,D047,D048A,D050,D050B"⟩,
   ⟨0x130B0, 1,
    "EGYPTIAN HIEROGLYPH ", "D050C,D050D,D050E,D050F,D050G,D050H,D050I,D051,D052,D052A"⟩,
   ⟨0x130BA, 1, "EGYPTIAN HIEROGLYPH ", "D053,D054,D054A,D055,D056,D057,D058,D059,D060,D061,D062"⟩,
   ⟨0x130C5, 1, "EGYPTIAN HIEROGLYPH ", "D063,D064,D065,D066,D067,D067A,D067B,D067C,D067D,D067E"⟩,
   ⟨0x130CF, 1,
    "EGYPTIAN HIEROGLYPH ", "D067F,D067G,D067H,E001,E002,E003,E004,E005,E006,E007,E008"⟩,
   ⟨0x130DA, 1,
    "EGYPTIAN HIEROGLYPH ", "E008A,E009,E009A,E010,E011,E012,E013,E014,E015,E016,E016A"⟩,
   ⟨0x130E5, 1, "EGYPTIAN HIEROGLYPH ", "E017,E017A,E018,E019,E020,E020A,E021,E022,E023,E024,E025"⟩,
   ⟨0x130F0, 2, "EGYPTIAN HIEROGLYPH ", "E026,E028,E029,E031,E033,E034A,E037,F001,F002,F004,F006"⟩,
   ⟨0x130F1, 2, "EGYPTIAN HIEROGLYPH ", "E027,E028A,E030,E032,E034,E036,E038,F001A,F003,F005,F007"⟩,
   ⟨0x13106, 2, "EGYPTIAN HIEROGLYPH ", "F008,F010,F012,F013A,F015,F017,F019,F021,F022,F024,F026"⟩,
   ⟨0x13107, 2, "EGYPTIAN HIEROGLYPH ", "F009,F011,F013,F014,F016,F018,F020,F021A,F023,F025,F027"⟩,
   ⟨0x1311C, 2, "EGYPTIAN HIEROGLYPH ", "F028,F030,F031A,F033,F035,F037,F038,F039,F041,F043,F045"⟩,
   ⟨0x1311D, 2,
    "EGYPTIAN HIEROGLYPH ", "F029,F031,F032,F034,F036,F037A,F038A,F040,F042,F044,F045A"⟩,
   ⟨0x13132, 2, "EGYPTIAN HIEROGLYPH ", "F046,F047,F048,F050,F051A,F051C,F053,G002,G004,G006"⟩,
   ⟨0x13133, 2, "EGYPTIAN HIEROGLYPH ", "F046A,F047A,F049,F051,F051B,F052,G001,G003,G005,G006A"⟩,
   ⟨0x13146, 2, "EGYPTIAN HIEROGLYPH ", "G007,G007B,G009,G011,G012,G014,G016,G018,G020,G021,G023"⟩,
   ⟨0x13147, 2,
    "EGYPTIAN HIEROGLYPH ", "G007A,G008,G010,G011A,G013,G015,G017,G019,G020A,G022,G024"⟩,
   ⟨0x1315C, 2, "EGYPTIAN HIEROGLYPH ", "G025,G026A,G028,G030,G032,G034,G036,G037,G038,G040,G042"⟩,
   ⟨0x1315D, 2, "EGYPTIAN HIEROGLYPH ", "G026,G027,G029,G031,G033,G035,G036A,G037A,G039,G041,G043"⟩,
   ⟨0x13172, 2, "EGYPTIAN HIEROGLYPH ", "G043A,G045,G046,G048,G050,G052,G054,H002,H004,H006,H007"⟩,
   ⟨0x13173, 2, "EGYPTIAN HIEROGLYPH ", "G044,G045A,G047,G049,G051,G053,H001,H003,H005,H006A,H008"⟩,
   ⟨0x13188, 2,
    "EGYPTIAN HIEROGLYPH ", "I001,I003,I005,I006,I008,I009A,I010A,I011A,I013,I015,K002"⟩,
   ⟨0x13189, 2, "EGYPTIAN HIEROGLYPH ", "I002,I004,I005A,I007,I009,I010,I011,I012,I014,K001,K003"⟩,
   ⟨0x1319E, 2,
    "EGYPTIAN HIEROGLYPH ", "K004,K006,K008,L002,L003,L005,L006A,L008,M001A,M002,M003A"⟩,
   ⟨0x1319F, 2, "EGYPTIAN HIEROGLYPH ", "K005,K007,L001,L002A,L004,L006,L007,M001,M001B,M003,M004"⟩,
   ⟨0x131B4, 1,
    "EGYPTIAN HIEROGLYPH ", "M005,M006,M007,M008,M009,M010,M010A,M011,M012,M012A,M012B"⟩,
   ⟨0x131BF, 2,
    "EGYPTIAN HIEROGLYPH ", "M012C,M012E,M012G,M013,M015,M016,M017,M018,M020,M022,M023"⟩,
   ⟨0x131C0, 2, "EGYPTIAN HIEROGLYPH ", "M012D,M012F,M012H,M014,M015A,M016A,M017A,M019,M021,M022A"⟩,
   ⟨0x131D4, 1,
    "EGYPTIAN HIEROGLYPH ", "M024,M024A,M025,M026,M027,M028,M028A,M029,M030,M031,M031A"⟩,
   ⟨0x131DF, 2, "EGYPTIAN HIEROGLYPH ", "M032,M033A,M034,M036,M038,M040,M041,M043,N001,N003,N005"⟩,
   ⟨0x131E0, 2, "EGYPTIAN HIEROGLYPH ", "M033,M033B,M035,M037,M039,M040A,M042,M044,N002,N004,N006"⟩,
   ⟨0x131F5, 2, "EGYPTIAN HIEROGLYPH ", "N007,N009,N011,N013,N015,N017,N018A,N019,N021,N023,N025"⟩,
   ⟨0x131F6, 2, "EGYPTIAN HIEROGLYPH ", "N008,N010,N012,N014,N016,N018,N018B,N020,N022,N024,N025A"⟩,
   ⟨0x1320B, 2,
    "EGYPTIAN HIEROGLYPH ", "N026,N028,N030,N032,N033A,N034A,N035A,N037,N038,N040,N042"⟩,
   ⟨0x1320C, 2, "EGYPTIAN HIEROGLYPH ", "N027,N029,N031,N033,N034,N035,N036,N037A,N039,N041,NL001"⟩,
   ⟨0x13221, 2, "EGYPTIAN HIEROGLYPH ", "NL002,NL004,NL005A,NL007,NL009,NL011,NL013,NL015,NL017"⟩,
   ⟨0x13222, 2, "EGYPTIAN HIEROGLYPH ", "NL003,NL005,NL006,NL008,NL010,NL012,NL014,NL016,NL017A"⟩,
   ⟨0x13233, 2, "EGYPTIAN HIEROGLYPH ", "NL018,NL020,NU002,NU004,NU006,NU008,NU010,NU011,NU012"⟩,
   ⟨0x13234, 2, "EGYPTIAN HIEROGLYPH ", "NL019,NU001,NU003,NU005,NU007,NU009,NU010A,NU011A,NU013"⟩,
   ⟨0x13245, 2,
    "EGYPTIAN HIEROGLYPH ", "NU014,NU016,NU018,NU019,NU021,NU022A,O001A,O003,O005,O006"⟩,
   ⟨0x13246, 2,
    "EGYPTIAN HIEROGLYPH ", "NU015,NU017,NU018A,NU020,NU022,O001,O002,O004,O005A,O006A"⟩,
   ⟨0x13259, 1, "EGYPTIAN HIEROGLYPH ", "O006B,O006C,O006D,O006E,O006F,O007,O008,O009,O010,O010A"⟩,
   ⟨0x13263, 2, "EGYPTIAN HIEROGLYPH ", "O010B,O011,O013,O015,O017,O019,O020,O021,O023,O024A"⟩,
   ⟨0x13264, 2, "EGYPTIAN HIEROGLYPH ", "O010C,O012,O014,O016,O018,O019A,O020A,O022,O024,O025"⟩,
   ⟨0x13277, 2,
    "EGYPTIAN HIEROGLYPH ", "O025A,O027,O029,O030,O031,O033,O034,O036,O036B,O036D,O038"⟩,
   ⟨0x13278, 2, "EGYPTIAN HIEROGLYPH ", "O026,O028,O029A,O030A,O032,O033A,O035,O036A,O036C,O037"⟩,
   ⟨0x1328C, 2, "EGYPTIAN HIEROGLYPH ", "O039,O041,O043,O045,O047,O049,O050A,O051,P001A,P003,P004"⟩,
   ⟨0x1328D, 2, "EGYPTIAN HIEROGLYPH ", "O040,O042,O044,O046,O048,O050,O050B,P001,P002,P003A,P005"⟩,
   ⟨0x132A2, 2, "EGYPTIAN HIEROGLYPH ", "P006,P008,P010,Q001,Q003,Q005,Q007,R002,R003,R003B,R005"⟩,
   ⟨0x132A3, 2, "EGYPTIAN HIEROGLYPH ", "P007,P009,P011,Q002,Q004,Q006,R001,R002A,R003A,R004,R006"⟩,
   ⟨0x132B8, 2, "EGYPTIAN HIEROGLYPH ", "R007,R009,R010A,R012,R014,R016,R017,R019,R021,R023,R025"⟩,
   ⟨0x132B9, 2, "EGYPTIAN HIEROGLYPH ", "R008,R010,R011,R013,R015,R016A,R018,R020,R022,R024,R026"⟩,
   ⟨0x132CE, 2, "EGYPTIAN HIEROGLYPH ", "R027,R029,S002,S003,S005,S006A,S008,S010,S012,S014,S014B"⟩,
   ⟨0x132CF, 2, "EGYPTIAN HIEROGLYPH ", "R028,S001,S002A,S004,S006,S007,S009,S011,S013,S014A,S015"⟩,
   ⟨0x132E4, 2, "EGYPTIAN HIEROGLYPH ", "S016,S017A,S019,S021,S023,S025,S026A,S027,S029,S031,S033"⟩,
   ⟨0x132E5, 2, "EGYPTIAN HIEROGLYPH ", "S017,S018,S020,S022,S024,S026,S026B,S028,S030,S032,S034"⟩,
   ⟨0x132FA, 2, "EGYPTIAN HIEROGLYPH ", "S035,S036,S038,S040,S042,S044,S046,T002,T003A,T005,T007"⟩,
   ⟨0x132FB, 2, "EGYPTIAN HIEROGLYPH ", "S035A,S037,S039,S041,S043,S045,T001,T003,T004,T006,T007A"⟩,
   ⟨0x13310, 2, "EGYPTIAN HIEROGLYPH ", "T008,T009,T010,T011A,T013,T015,T016A,T018,T020,T022,T024"⟩,
   ⟨0x13311, 2, "EGYPTIAN HIEROGLYPH ", "T008A,T009A,T011,T012,T014,T016,T017,T019,T021,T023,T025"⟩,
   ⟨0x13326, 2, "EGYPTIAN HIEROGLYPH ", "T026,T028,T030,T032,T033,T034,T036,U002,U004,U006,U006B"⟩,
   ⟨0x13327, 2,
    "EGYPTIAN HIEROGLYPH ", "T027,T029,T031,T032A,T033A,T035,U001,U003,U005,U006A,U007"⟩,
   ⟨0x1333C, 2, "EGYPTIAN HIEROGLYPH ", "U008,U010,U012,U014,U016,U018,U020,U022,U023A,U025,U027"⟩,
   ⟨0x1333D, 2, "EGYPTIAN HIEROGLYPH ", "U009,U011,U013,U015,U017,U019,U021,U023,U024,U026,U028"⟩,
   ⟨0x13352, 2, "EGYPTIAN HIEROGLYPH ", "U029,U030,U032,U033,U035,U037,U039,U041,V001,V001B,V001D"⟩,
   ⟨0x13353, 2, "EGYPTIAN HIEROGLYPH ", "U029A,U031,U032A,U034,U036,U038,U040,U042,V001A,V001C"⟩,
   ⟨0x13367, 2, "EGYPTIAN HIEROGLYPH ", "V001E,V001G,V001I,V002A,V004,V006,V007A,V008,V010,V011A"⟩,
   ⟨0x13368, 2, "EGYPTIAN HIEROGLYPH ", "V001F,V001H,V002,V003,V005,V007,V007B,V009,V011,V011B"⟩,
   ⟨0x1337B, 2, "EGYPTIAN HIEROGLYPH ", "V011C,V012A,V013,V015,V017,V019,V020A,V020C,V020E,V020G"⟩,
   ⟨0x1337C, 2, "EGYPTIAN HIEROGLYPH ", "V012,V012B,V014,V016,V018,V020,V020B,V020D,V020F,V020H"⟩,
   ⟨0x1338F, 2, "EGYPTIAN HIEROGLYPH ", "V020I,V020K,V021,V023,V024,V026,V028,V029,V030,V031"⟩,
   ⟨0x13390, 2, "EGYPTIAN HIEROGLYPH ", "V020J,V020L,V022,V023A,V025,V027,V028A,V029A,V030A,V031A"⟩,
   ⟨0x133A3, 2, "EGYPTIAN HIEROGLYPH ", "V032,V033A,V035,V037,V038,V040,W001,W003,W004,W006"⟩,
   ⟨0x133A4, 2, "EGYPTIAN HIEROGLYPH ", "V033,V034,V036,V037A,V039,V040A,W002,W003A,W005,W007"⟩,
   ⟨0x133B7, 2, "EGYPTIAN HIEROGLYPH ", "W008,W009A,W010A,W012,W014,W015,W017,W018,W019,W021,W023"⟩,
   ⟨0x133B8, 2,
    "EGYPTIAN HIEROGLYPH ", "W009,W010,W011,W013,W014A,W016,W017A,W018A,W020,W022,W024"⟩,
   ⟨0x133CD, 2,
    "EGYPTIAN HIEROGLYPH ", "W024A,X001,X003,X004A,X005,X006A,X008,Y001,Y002,Y004,Y006"⟩,
   ⟨0x133CE, 2,
    "EGYPTIAN HIEROGLYPH ", "W025,X002,X004,X004B,X006,X007,X008A,Y001A,Y003,Y005,Y007"⟩,
   ⟨0x133E3, 2, "EGYPTIAN HIEROGLYPH ", "Y008,Z002,Z002B,Z002D,Z003A,Z004,Z005,Z006,Z008,Z010"⟩,
   ⟨0x133E4, 2, "EGYPTIAN HIEROGLYPH ", "Z001,Z002A,Z002C,Z003,Z003B,Z004A,Z005A,Z007,Z009,Z011"⟩,
   ⟨0x133F7, 2,
    "EGYPTIAN HIEROGLYPH ", "Z012,Z014,Z015A,Z015C,Z015E,Z015G,Z015I,Z016A,Z016C,Z016E"⟩,
   ⟨0x133F8, 2, "EGYPTIAN HIEROGLYPH ", "Z013,Z015,Z015B,Z015D,Z015F,Z015H,Z016,Z016B,Z016D,Z016F"⟩,
   ⟨0x1340B, 2, "EGYPTIAN HIEROGLYPH ", "Z016G,AA001,AA003,AA005,AA007,AA007B,AA009,AA011,AA013"⟩,
   ⟨0x1340C, 2, "EGYPTIAN HIEROGLYPH ", "Z016H,AA002,AA004,AA006,AA007A,AA008,AA010,AA012,AA014"⟩,
   ⟨0x1341D, 2, "EGYPTIAN HIEROGLYPH ", "AA015,AA017,AA019,AA021,AA023,AA025,AA027,AA029,AA031"⟩,
   ⟨0x1341E, 2, "EGYPTIAN HIEROGLYPH ", "AA016,AA018,AA020,AA022,AA024,AA026,AA028,AA030,AA032"⟩,
   ⟨0x13430, 1, "EGYPTIAN HIEROGLYPH ", "VERTICAL JOINER,HORIZONTAL JOINER"⟩,
   ⟨0x13432, 1, "EGYPTIAN HIEROGLYPH INSERT AT ", "TOP START,BOTTOM START,TOP END,BOTTOM END"⟩,
   ⟨0x13436, 1, "EGYPTIAN HIEROGLYPH ", "OVERLAY MIDDLE,BEGIN SEGMENT,END SEGMENT"⟩,
   ⟨0x14400, 1, "ANATOLIAN HIEROGLYPH ", "A001,A002,A003,A004,A005,A006"⟩,
   ⟨0x14406, 2, "ANATOLIAN HIEROGLYPH ", "A007,A009,A010A,A012,A014,A016,A018,A020,A022,A024,A026"⟩,
   ⟨0x14407, 2, "ANATOLIAN HIEROGLYPH ", "A008,A010,A011,A013,A015,A017,A019,A021,A023,A025,A026A"⟩,
   ⟨0x1441C, 2, "ANATOLIAN HIEROGLYPH ", "A027,A029,A031,A033,A035,A037,A039,A040,A041A,A043,A045"⟩,
   ⟨0x1441D, 2,
    "ANATOLIAN HIEROGLYPH ", "A028,A030,A032,A034,A036,A038,A039A,A041,A042,A044,A045A"⟩,
   ⟨0x14432, 2, "ANATOLIAN HIEROGLYPH ", "A046,A046B,A048,A050,A052,A054,A056,A058,A060,A062,A064"⟩,
   ⟨0x14433, 2, "ANATOLIAN HIEROGLYPH ", "A046A,A047,A049,A051,A053,A055,A057,A059,A061,A063,A065"⟩,
   ⟨0x14448, 2, "ANATOLIAN HIEROGLYPH ", "A066,A066B,A067,A069,A071,A073,A075,A077,A079,A081,A083"⟩,
   ⟨0x14449, 2,
    "ANATOLIAN HIEROGLYPH ", "A066A,A066C,A068,A070,A072,A074,A076,A078,A080,A082,A084"⟩,
   ⟨0x1445E, 2,
    "ANATOLIAN HIEROGLYPH ", "A085,A087,A089,A091,A093,A095,A097,A098,A099,A100A,A101A"⟩,
   ⟨0x1445F, 2,
    "ANATOLIAN HIEROGLYPH ", "A086,A088,A090,A092,A094,A096,A097A,A098A,A100,A101,A102"⟩,
   ⟨0x14474, 2, "ANATOLIAN HIEROGLYPH ", "A102A,A104,A104B,A105,A105B,A107,A107B,A108,A110,A110B"⟩,
   ⟨0x14475, 2, "ANATOLIAN HIEROGLYPH ", "A103,A104A,A104C,A105A,A106,A107A,A107C,A109,A110A,A111"⟩,
   ⟨0x14488, 2, "ANATOLIAN HIEROGLYPH ", "A112,A114,A115A,A117,A119,A121,A123,A125,A126,A128,A130"⟩,
   ⟨0x14489, 2, "ANATOLIAN HIEROGLYPH ", "A113,A115,A116,A118,A120,A122,A124,A125A,A127,A129,A131"⟩,
   ⟨0x1449E, 2, "ANATOLIAN HIEROGLYPH ", "A132,A134,A135A,A137,A139,A141,A143,A145,A147,A149,A151"⟩,
   ⟨0x1449F, 2, "ANATOLIAN HIEROGLYPH ", "A133,A135,A136,A138,A140,A142,A144,A146,A148,A150,A152"⟩,
   ⟨0x144B4, 2, "ANATOLIAN HIEROGLYPH ", "A153,A155,A157,A159,A161,A163,A165,A167,A169,A171,A173"⟩,
   ⟨0x144B5, 2, "ANATOLIAN HIEROGLYPH ", "A154,A156,A158,A160,A162,A164,A166,A168,A170,A172,A174"⟩,
   ⟨0x144CA, 2, "ANATOLIAN HIEROGLYPH ", "A175,A177,A179,A181,A183,A185,A187,A189,A191,A193,A195"⟩,
   ⟨0x144CB, 2, "ANATOLIAN HIEROGLYPH ", "A176,A178,A180,A182,A184,A186,A188,A190,A192,A194,A196"⟩,
   ⟨0x144E0, 2,
    "ANATOLIAN HIEROGLYPH ", "A197,A199,A201,A202A,A203,A205,A207,A208,A209A,A211,A213"⟩,
   ⟨0x144E1, 2,
    "ANATOLIAN HIEROGLYPH ", "A198,A200,A202,A202B,A204,A206,A207A,A209,A210,A212,A214"⟩,
   ⟨0x144F6, 2, "ANATOLIAN HIEROGLYPH ", "A215,A216,A217,A219,A221,A223,A225,A227,A228,A230"⟩,
   ⟨0x144F7, 2, "ANATOLIAN HIEROGLYPH ", "A215A,A216A,A218,A220,A222,A224,A226,A227A,A229,A231"⟩,
   ⟨0x1450A, 2, "ANATOLIAN HIEROGLYPH ", "A232,A234,A236,A238,A240,A242,A244,A246,A248,A250,A252"⟩,
   ⟨0x1450B, 2, "ANATOLIAN HIEROGLYPH ", "A233,A235,A237,A239,A241,A243,A245,A247,A249,A251,A253"⟩,
   ⟨0x14520, 2, "ANATOLIAN HIEROGLYPH ", "A254,A256,A258,A260,A262,A264,A266,A267A,A269,A271,A273"⟩,
   ⟨0x14521, 2, "ANATOLIAN HIEROGLYPH ", "A255,A257,A259,A261,A263,A265,A267,A268,A270,A272,A274"⟩,
   ⟨0x14536, 2, "ANATOLIAN HIEROGLYPH ", "A275,A277,A279,A281,A283,A285,A287,A289,A290,A292,A294"⟩,
   ⟨0x14537, 2,
    "ANATOLIAN HIEROGLYPH ", "A276,A278,A280,A282,A284,A286,A288,A289A,A291,A293,A294A"⟩,
   ⟨0x1454C, 2, "ANATOLIAN HIEROGLYPH ", "A295,A297,A299,A300,A302,A304,A306,A308,A309A,A311,A313"⟩,
   ⟨0x1454D, 2, "ANATOLIAN HIEROGLYPH ", "A296,A298,A299A,A301,A303,A305,A307,A309,A310,A312,A314"⟩,
   ⟨0x14562, 2,
    "ANATOLIAN HIEROGLYPH ", "A315,A317,A319,A321,A323,A325,A327,A329,A330,A332A,A332C"⟩,
   ⟨0x14563, 2,
    "ANATOLIAN HIEROGLYPH ", "A316,A318,A320,A322,A324,A326,A328,A329A,A331,A332B,A333"⟩,
   ⟨0x14578, 2, "ANATOLIAN HIEROGLYPH ", "A334,A336,A336B,A337,A339,A341,A343,A345,A347,A349,A351"⟩,
   ⟨0x14579, 2,
    "ANATOLIAN HIEROGLYPH ", "A335,A336A,A336C,A338,A340,A342,A344,A346,A348,A350,A352"⟩,
   ⟨0x1458E, 2, "ANATOLIAN HIEROGLYPH ", "A353,A355,A357,A359,A360,A362,A364,A365,A367,A368A,A370"⟩,
   ⟨0x1458F, 2,
    "ANATOLIAN HIEROGLYPH ", "A354,A356,A358,A359A,A361,A363,A364A,A366,A368,A369,A371"⟩,
   ⟨0x145A4, 2, "ANATOLIAN HIEROGLYPH ", "A371A,A373,A375,A377,A379,A381,A382,A383A,A385"⟩,
   ⟨0x145A5, 2, "ANATOLIAN HIEROGLYPH ", "A372,A374,A376,A378,A380,A381A,A383 RA OR RI,A384,A386"⟩,
   ⟨0x145B6, 2, "ANATOLIAN HIEROGLYPH ", "A386A,A388,A390,A392,A394,A396,A398,A400,A402,A404,A406"⟩,
   ⟨0x145B7, 2, "ANATOLIAN HIEROGLYPH ", "A387,A389,A391,A393 EIGHT,A395,A397,A399,A401,A403,A405"⟩,
   ⟨0x145CB, 2, "ANATOLIAN HIEROGLYPH ", "A407,A409,A410A END LOGOGRAM MARK,A412,A414,A416,A418"⟩,
   ⟨0x145CC, 2, "ANATOLIAN HIEROGLYPH ", "A408,A410 BEGIN LOGOGRAM MARK,A411,A413,A415,A417,A419"⟩,
   ⟨0x145D9, 2, "ANATOLIAN HIEROGLYPH ", "A420,A422,A424,A426,A428,A430,A432,A434,A436,A438,A440"⟩,
   ⟨0x145DA, 2, "ANATOLIAN HIEROGLYPH ", "A421,A423,A425,A427,A429,A431,A433,A435,A437,A439,A441"⟩,
   ⟨0x145EF, 2, "ANATOLIAN HIEROGLYPH ", "A442,A444,A446,A448,A450,A451,A453,A455,A457,A458,A460"⟩,
   ⟨0x145F0, 2,
    "ANATOLIAN HIEROGLYPH ", "A443,A445,A447,A449,A450A,A452,A454,A456,A457A,A459,A461"⟩,
   ⟨0x14605, 2, "ANATOLIAN HIEROGLYPH ", "A462,A464,A466,A468,A470,A472,A474,A476,A478,A480,A482"⟩,
   ⟨0x14606, 2, "ANATOLIAN HIEROGLYPH ", "A463,A465,A467,A469,A471,A473,A475,A477,A479,A481,A483"⟩,
   ⟨0x1461B, 2, "ANATOLIAN HIEROGLYPH ", "A484,A486,A488,A490,A492,A494,A496,A501,A503,A505,A507"⟩,
   ⟨0x1461C, 2, "ANATOLIAN HIEROGLYPH ", "A485,A487,A489,A491,A493,A495,A497,A502,A504,A506,A508"⟩,
   ⟨0x14631, 2, "ANATOLIAN HIEROGLYPH ", "A509,A511,A513,A515,A517,A519,A521,A523,A525,A527,A529"⟩,
   ⟨0x14632, 2, "ANATOLIAN HIEROGLYPH ", "A510,A512,A514,A516,A518,A520,A522,A524,A526,A528,A530"⟩]

end RegexSubst.Unicode
