import RegexSubst.Unicode.Name.Run

/-!
# `RegexSubst.Unicode.Name.Notation`: names of U+1D000 to U+1DFFF

Signs of music, letters for mathematics, sign writing.
-/

set_option autoImplicit false

namespace RegexSubst.Unicode

/-- The names of U+1D000 to U+1DFFF. -/
def notationNames : List NameRun :=
  [⟨0x1D000, 2,
    "BYZANTINE MUSICAL SYMBOL ", "PSILI,PERISPOMENI,OXEIA DIPLI,VAREIA DIPLI,SYRMATIKI"⟩,
   ⟨0x1D001, 2,
    "BYZANTINE MUSICAL SYMBOL ", "DASEIA,OXEIA EKFONITIKON,VAREIA EKFONITIKON,KATHISTI"⟩,
   ⟨0x1D009, 2,
    "BYZANTINE MUSICAL SYMBOL ", "PARAKLITIKI,YPOKRISIS DIPLI,APESO EKFONITIKON,TELEIA"⟩,
   ⟨0x1D00A, 2, "BYZANTINE MUSICAL SYMBOL ", "YPOKRISIS,KREMASTI,EXO EKFONITIKON,KENTIMATA"⟩,
   ⟨0x1D011, 2, "BYZANTINE MUSICAL SYMBOL ", "APOSTROFOS,SYNEVMA,OLIGON ARCHAION,PSILON,VATHY"⟩,
   ⟨0x1D012, 2, "BYZANTINE MUSICAL SYMBOL ", "APOSTROFOS DIPLI,THITA,GORGON ARCHAION,CHAMILON"⟩,
   ⟨0x1D01A, 1, "BYZANTINE MUSICAL SYMBOL ", "ISON ARCHAION,KENTIMA ARCHAION,KENTIMATA ARCHAION"⟩,
   ⟨0x1D01D, 2, "BYZANTINE MUSICAL SYMBOL ", "SAXIMATA,STAVROS APODEXIA,VAREIAI ARCHAION,APOTHEMA"⟩,
   ⟨0x1D01E, 2, "BYZANTINE MUSICAL SYMBOL ", "PARICHON,OXEIAI ARCHAION,APODERMA ARCHAION,KLASMA"⟩,
   ⟨0x1D025, 1, "BYZANTINE MUSICAL SYMBOL ", "REVMA,PIASMA ARCHAION,TINAGMA,ANATRICHISMA,SEISMA"⟩,
   ⟨0x1D02A, 1, "BYZANTINE MUSICAL SYMBOL SYNAGMA ", "ARCHAION,META STAVROU"⟩,
   ⟨0x1D02C, 1, "BYZANTINE MUSICAL SYMBOL ", "OYRANISMA ARCHAION,THEMA,LEMOI,DYO,TRIA,TESSERA"⟩,
   ⟨0x1D032, 2,
    "BYZANTINE MUSICAL SYMBOL ", "KRATIMATA,FTHORA ARCHAION,TROMIKON ARCHAION,PELASTON"⟩,
   ⟨0x1D033, 2, "BYZANTINE MUSICAL SYMBOL ", "APESO EXO NEO,IMIFTHORA,KATAVA TROMIKON,PSIFISTON"⟩,
   ⟨0x1D03A, 2, "BYZANTINE MUSICAL SYMBOL ", "KONTEVMA,RAPISMA,PARAKLITIKI ARCHAION"⟩,
   ⟨0x1D03B, 2, "BYZANTINE MUSICAL SYMBOL ", "CHOREVMA ARCHAION,PARAKALESMA ARCHAION,ICHADIN"⟩,
   ⟨0x1D040, 2, "BYZANTINE MUSICAL SYMBOL ", "NANA,KONTEVMA ALLO,STRAGGISMATA,ISON NEO,OXEIA NEO"⟩,
   ⟨0x1D041, 2, "BYZANTINE MUSICAL SYMBOL ", "PETASMA,TROMIKON ALLO,GRONTHISMATA,OLIGON NEO"⟩,
   ⟨0x1D049, 2,
    "BYZANTINE MUSICAL SYMBOL ", "PETASTI,PETASTOKOUFISMA,PELASTON NEO,KENTIMA NEO ANO"⟩,
   ⟨0x1D04A, 2, "BYZANTINE MUSICAL SYMBOL ", "KOUFISMA,KRATIMOKOUFISMA,KENTIMATA NEO ANO,YPSILI"⟩,
   ⟨0x1D051, 2, "BYZANTINE MUSICAL SYMBOL ", "APOSTROFOS NEO,YPORROI,ELAFRON,MIKRON ISON"⟩,
   ⟨0x1D052, 2, "BYZANTINE MUSICAL SYMBOL ", "APOSTROFOI SYNDESMOS NEO,KRATIMOYPORROON,CHAMILI"⟩,
   ⟨0x1D058, 2, "BYZANTINE MUSICAL SYMBOL ", "VAREIA NEO,PSIFISTON NEO,ANTIKENOMA,PARAKLITIKI NEO"⟩,
   ⟨0x1D059, 2, "BYZANTINE MUSICAL SYMBOL ", "PIASMA NEO,OMALON,LYGISMA,PARAKALESMA NEO"⟩,
   ⟨0x1D060, 2, "BYZANTINE MUSICAL SYMBOL ", "ETERON PARAKALESMA,ANTIKENOKYLISMA,EKSTREPTON,SYRMA"⟩,
   ⟨0x1D061, 2, "BYZANTINE MUSICAL SYMBOL ", "KYLISMA,TROMIKON NEO,SYNAGMA NEO,CHOREVMA NEO"⟩,
   ⟨0x1D068, 1, "BYZANTINE MUSICAL SYMBOL ", "EPEGERMA,SEISMA NEO,XIRON KLASMA,TROMIKOPSIFISTON"⟩,
   ⟨0x1D06C, 2, "BYZANTINE MUSICAL SYMBOL ", "PSIFISTOLYGISMA,TROMIKOPARAKALESMA,TROMIKOSYNAGMA"⟩,
   ⟨0x1D06D, 2, "BYZANTINE MUSICAL SYMBOL ", "TROMIKOLYGISMA,PSIFISTOPARAKALESMA,PSIFISTOSYNAGMA"⟩,
   ⟨0x1D072, 2, "BYZANTINE MUSICAL SYMBOL ", "GORGOSYNTHETON,ETERON ARGOSYNTHETON,THEMATISMOS ESO"⟩,
   ⟨0x1D073, 2, "BYZANTINE MUSICAL SYMBOL ", "ARGOSYNTHETON,OYRANISMA NEO,THEMATISMOS EXO"⟩,
   ⟨0x1D078, 1, "BYZANTINE MUSICAL SYMBOL ", "THEMA APLOUN,THES KAI APOTHES,KATAVASMA,ENDOFONON"⟩,
   ⟨0x1D07C, 1,
    "BYZANTINE MUSICAL SYMBOL ", "YFEN KATO,YFEN ANO,STAVROS,KLASMA ANO,DIPLI ARCHAION"⟩,
   ⟨0x1D081, 1, "BYZANTINE MUSICAL SYMBOL KRATIMA ", "ARCHAION,ALLO,NEO"⟩,
   ⟨0x1D084, 1, "BYZANTINE MUSICAL SYMBOL ", "APODERMA NEO,APLI,DIPLI,TRIPLI,TETRAPLI,KORONIS"⟩,
   ⟨0x1D08A, 2, "BYZANTINE MUSICAL SYMBOL LEIMMA ", "ENOS CHRONOU,TRION CHRONON,IMISEOS CHRONOU"⟩,
   ⟨0x1D08B, 2, "BYZANTINE MUSICAL SYMBOL LEIMMA ", "DYO CHRONON,TESSARON CHRONON"⟩,
   ⟨0x1D08F, 1, "BYZANTINE MUSICAL SYMBOL GORGON NEO ANO", ""⟩,
   ⟨0x1D090, 1, "BYZANTINE MUSICAL SYMBOL GORGON PARESTIGMENON ", "ARISTERA,DEXIA"⟩,
   ⟨0x1D092, 2, "BYZANTINE MUSICAL SYMBOL ", "DIGORGON,DIGORGON PARESTIGMENON ARISTERA ANO"⟩,
   ⟨0x1D093, 2, "BYZANTINE MUSICAL SYMBOL DIGORGON PARESTIGMENON ", "ARISTERA KATO,DEXIA"⟩,
   ⟨0x1D096, 1, "BYZANTINE MUSICAL SYMBOL ", "TRIGORGON,ARGON,IMIDIARGON,DIARGON,AGOGI POLI ARGI"⟩,
   ⟨0x1D09B, 1, "BYZANTINE MUSICAL SYMBOL AGOGI ", "ARGOTERI,ARGI,METRIA,MESI,GORGI,GORGOTERI"⟩,
   ⟨0x1D0A1, 2, "BYZANTINE MUSICAL SYMBOL ", "AGOGI POLI GORGI,MARTYRIA ALLI PROTOS ICHOS"⟩,
   ⟨0x1D0A2, 2, "BYZANTINE MUSICAL SYMBOL MARTYRIA ", "PROTOS ICHOS,DEYTEROS ICHOS"⟩,
   ⟨0x1D0A5, 1, "BYZANTINE MUSICAL SYMBOL MARTYRIA ", "ALLI DEYTEROS ICHOS,TRITOS ICHOS,TRIFONIAS"⟩,
   ⟨0x1D0A8, 1, "BYZANTINE MUSICAL SYMBOL MARTYRIA TETARTOS ", "ICHOS,LEGETOS ICHOS"⟩,
   ⟨0x1D0AA, 1, "BYZANTINE MUSICAL SYMBOL MARTYRIA ", "LEGETOS ICHOS,PLAGIOS ICHOS"⟩,
   ⟨0x1D0AC, 1, "BYZANTINE MUSICAL SYMBOL ", "ISAKIA TELOUS ICHIMATOS,APOSTROFOI TELOUS ICHIMATOS"⟩,
   ⟨0x1D0AE, 1, "BYZANTINE MUSICAL SYMBOL FANEROSIS ", "TETRAFONIAS,MONOFONIAS,DIFONIAS"⟩,
   ⟨0x1D0B1, 1, "BYZANTINE MUSICAL SYMBOL MARTYRIA ", "VARYS ICHOS,PROTOVARYS ICHOS"⟩,
   ⟨0x1D0B3, 2,
    "BYZANTINE MUSICAL SYMBOL ", "MARTYRIA PLAGIOS TETARTOS ICHOS,GORTHMIKON N DIPLOUN"⟩,
   ⟨0x1D0B4, 2, "BYZANTINE MUSICAL SYMBOL ", "GORTHMIKON N APLOUN,ENARXIS KAI FTHORA VOU"⟩,
   ⟨0x1D0B7, 1, "BYZANTINE MUSICAL SYMBOL ", "IMIFONON,IMIFTHORON,FTHORA ARCHAION DEYTEROU ICHOU"⟩,
   ⟨0x1D0BA, 2, "BYZANTINE MUSICAL SYMBOL FTHORA ", "DIATONIKI PA,NAOS ICHOS,SKLIRON DIATONON DI"⟩,
   ⟨0x1D0BB, 2, "BYZANTINE MUSICAL SYMBOL FTHORA DIATONIKI ", "NANA,DI"⟩,
   ⟨0x1D0BF, 1, "BYZANTINE MUSICAL SYMBOL FTHORA DIATONIKI ", "KE,ZO,NI KATO,NI ANO"⟩,
   ⟨0x1D0C3, 1, "BYZANTINE MUSICAL SYMBOL FTHORA MALAKON CHROMA ", "DIFONIAS,MONOFONIAS"⟩,
   ⟨0x1D0C5, 1, "BYZANTINE MUSICAL SYMBOL FHTORA SKLIRON CHROMA VASIS", ""⟩,
   ⟨0x1D0C6, 1, "BYZANTINE MUSICAL SYMBOL FTHORA ", "SKLIRON CHROMA SYNAFI,NENANO"⟩,
   ⟨0x1D0C8, 1, "BYZANTINE MUSICAL SYMBOL CHROA ", "ZYGOS,KLITON,SPATHI"⟩,
   ⟨0x1D0CB, 1, "BYZANTINE MUSICAL SYMBOL FTHORA ", "I YFESIS TETARTIMORION,ENARMONIOS ANTIFONIA"⟩,
   ⟨0x1D0CD, 1, "BYZANTINE MUSICAL SYMBOL ", "YFESIS TRITIMORION,DIESIS TRITIMORION"⟩,
   ⟨0x1D0CF, 2, "BYZANTINE MUSICAL SYMBOL DIESIS ", "TETARTIMORION,MONOGRAMMOS TESSERA DODEKATA"⟩,
   ⟨0x1D0D0, 2, "BYZANTINE MUSICAL SYMBOL DIESIS ", "APLI DYO DODEKATA,DIGRAMMOS EX DODEKATA"⟩,
   ⟨0x1D0D3, 1, "BYZANTINE MUSICAL SYMBOL DIESIS TRIGRAMMOS OKTO DODEKATA", ""⟩,
   ⟨0x1D0D4, 1, "BYZANTINE MUSICAL SYMBOL YFESIS APLI DYO DODEKATA", ""⟩,
   ⟨0x1D0D5, 1, "BYZANTINE MUSICAL SYMBOL YFESIS MONOGRAMMOS TESSERA DODEKATA", ""⟩,
   ⟨0x1D0D6, 2, "BYZANTINE MUSICAL SYMBOL ", "YFESIS DIGRAMMOS EX DODEKATA,GENIKI DIESIS"⟩,
   ⟨0x1D0D7, 2, "BYZANTINE MUSICAL SYMBOL ", "YFESIS TRIGRAMMOS OKTO DODEKATA,GENIKI YFESIS"⟩,
   ⟨0x1D0DA, 1, "BYZANTINE MUSICAL SYMBOL DIASTOLI ", "APLI MIKRI,APLI MEGALI,DIPLI,THESEOS"⟩,
   ⟨0x1D0DE, 2, "BYZANTINE MUSICAL SYMBOL SIMANSIS ", "THESEOS,THESEOS TRISIMOU,ARSEOS"⟩,
   ⟨0x1D0DF, 2, "BYZANTINE MUSICAL SYMBOL SIMANSIS THESEOS ", "DISIMOU,TETRASIMOU"⟩,
   ⟨0x1D0E3, 1, "BYZANTINE MUSICAL SYMBOL SIMANSIS ARSEOS ", "DISIMOU,TRISIMOU,TETRASIMOU"⟩,
   ⟨0x1D0E6, 1, "BYZANTINE MUSICAL SYMBOL ", "DIGRAMMA GG,DIFTOGGOS OU,STIGMA"⟩,
   ⟨0x1D0E9, 1, "BYZANTINE MUSICAL SYMBOL ARKTIKO ", "PA,VOU,GA,DI,KE,ZO,NI"⟩,
   ⟨0x1D0F0, 2, "BYZANTINE MUSICAL SYMBOL ", "KENTIMATA NEO MESO,KENTIMATA NEO KATO,KLASMA KATO"⟩,
   ⟨0x1D0F1, 2, "BYZANTINE MUSICAL SYMBOL ", "KENTIMA NEO MESO,KENTIMA NEO KATO,GORGON NEO KATO"⟩,
   ⟨0x1D100, 2, "MUSICAL SYMBOL ", "SINGLE BARLINE,FINAL BARLINE,DASHED BARLINE,LEFT REPEAT SIGN"⟩,
   ⟨0x1D101, 2, "MUSICAL SYMBOL ", "DOUBLE BARLINE,REVERSE FINAL BARLINE,SHORT BARLINE"⟩,
   ⟨0x1D107, 1, "MUSICAL SYMBOL ", "RIGHT REPEAT SIGN,REPEAT DOTS,DAL SEGNO,DA CAPO,SEGNO,CODA"⟩,
   ⟨0x1D10D, 1, "MUSICAL SYMBOL REPEATED FIGURE-", "1,2,3"⟩,
   ⟨0x1D110, 2, "MUSICAL SYMBOL ", "FERMATA,BREATH MARK,BRACE,ONE-LINE STAFF"⟩,
   ⟨0x1D111, 2, "MUSICAL SYMBOL ", "FERMATA BELOW,CAESURA,BRACKET,TWO-LINE STAFF"⟩,
   ⟨0x1D118, 2, "MUSICAL SYMBOL ", "THREE-LINE STAFF,FIVE-LINE STAFF,SIX-STRING FRETBOARD,G CLEF"⟩,
   ⟨0x1D119, 2, "MUSICAL SYMBOL ", "FOUR-LINE STAFF,SIX-LINE STAFF,FOUR-STRING FRETBOARD"⟩,
   ⟨0x1D11F, 2, "MUSICAL SYMBOL ", "G CLEF OTTAVA ALTA,C CLEF,F CLEF OTTAVA ALTA,DRUM CLEF-1"⟩,
   ⟨0x1D120, 2, "MUSICAL SYMBOL ", "G CLEF OTTAVA BASSA,F CLEF,F CLEF OTTAVA BASSA,DRUM CLEF-2"⟩,
   ⟨0x1D129, 1, "MUSICAL SYMBOL ", "MULTIPLE MEASURE REST,DOUBLE SHARP,DOUBLE FLAT"⟩,
   ⟨0x1D12C, 1, "MUSICAL SYMBOL ", "FLAT UP,FLAT DOWN,NATURAL UP,NATURAL DOWN,SHARP UP,SHARP DOWN"⟩,
   ⟨0x1D132, 2, "MUSICAL SYMBOL ", "QUARTER TONE SHARP,COMMON TIME,OTTAVA ALTA,QUINDICESIMA ALTA"⟩,
   ⟨0x1D133, 2, "MUSICAL SYMBOL ", "QUARTER TONE FLAT,CUT TIME,OTTAVA BASSA,QUINDICESIMA BASSA"⟩,
   ⟨0x1D13A, 2, "MUSICAL SYMBOL ", "MULTI REST,HALF REST,EIGHTH REST,THIRTY-SECOND REST"⟩,
   ⟨0x1D13B, 2, "MUSICAL SYMBOL ", "WHOLE REST,QUARTER REST,SIXTEENTH REST,SIXTY-FOURTH REST"⟩,
   ⟨0x1D142, 1, "MUSICAL SYMBOL ", "ONE HUNDRED TWENTY-EIGHTH REST,X NOTEHEAD,PLUS NOTEHEAD"⟩,
   ⟨0x1D145, 1, "MUSICAL SYMBOL ", "CIRCLE X NOTEHEAD,SQUARE NOTEHEAD WHITE,SQUARE NOTEHEAD BLACK"⟩,
   ⟨0x1D148, 2, "MUSICAL SYMBOL TRIANGLE NOTEHEAD ", "UP WHITE,LEFT WHITE,RIGHT WHITE,DOWN WHITE"⟩,
   ⟨0x1D149, 2, "MUSICAL SYMBOL TRIANGLE NOTEHEAD ", "UP BLACK,LEFT BLACK,RIGHT BLACK,DOWN BLACK"⟩,
   ⟨0x1D150, 1, "MUSICAL SYMBOL TRIANGLE NOTEHEAD UP RIGHT ", "WHITE,BLACK"⟩,
   ⟨0x1D152, 1, "MUSICAL SYMBOL MOON NOTEHEAD ", "WHITE,BLACK"⟩,
   ⟨0x1D154, 1, "MUSICAL SYMBOL TRIANGLE-ROUND NOTEHEAD DOWN ", "WHITE,BLACK"⟩,
   ⟨0x1D156, 1, "MUSICAL SYMBOL PARENTHESIS NOTEHEAD", ""⟩,
   ⟨0x1D157, 2, "MUSICAL SYMBOL ", "VOID NOTEHEAD,NULL NOTEHEAD,CLUSTER NOTEHEAD BLACK,WHOLE NOTE"⟩,
   ⟨0x1D158, 2, "MUSICAL SYMBOL ", "NOTEHEAD BLACK,CLUSTER NOTEHEAD WHITE,BREVE,HALF NOTE"⟩,
   ⟨0x1D15F, 2, "MUSICAL SYMBOL ", "QUARTER NOTE,SIXTEENTH NOTE,SIXTY-FOURTH NOTE"⟩,
   ⟨0x1D160, 2, "MUSICAL SYMBOL ", "EIGHTH NOTE,THIRTY-SECOND NOTE,ONE HUNDRED TWENTY-EIGHTH NOTE"⟩,
   ⟨0x1D165, 1,
    "MUSICAL SYMBOL COMBINING ", "STEM,SPRECHGESANG STEM,TREMOLO-1,TREMOLO-2,TREMOLO-3"⟩,
   ⟨0x1D16A, 1, "MUSICAL SYMBOL FINGERED TREMOLO-", "1,2,3"⟩,
   ⟨0x1D16D, 1, "MUSICAL SYMBOL COMBINING ", "AUGMENTATION DOT,FLAG-1,FLAG-2,FLAG-3,FLAG-4,FLAG-5"⟩,
   ⟨0x1D173, 2, "MUSICAL SYMBOL BEGIN ", "BEAM,TIE,SLUR,PHRASE"⟩,
   ⟨0x1D174, 2, "MUSICAL SYMBOL END ", "BEAM,TIE,SLUR,PHRASE"⟩,
   ⟨0x1D17B, 2, "MUSICAL SYMBOL COMBINING ", "ACCENT,TENUTO,MARCATO,ACCENT-STACCATO"⟩,
   ⟨0x1D17C, 2, "MUSICAL SYMBOL COMBINING ", "STACCATO,STACCATISSIMO,MARCATO-STACCATO,LOURE"⟩,
   ⟨0x1D183, 1, "MUSICAL SYMBOL ARPEGGIATO ", "UP,DOWN"⟩,
   ⟨0x1D185, 1,
    "MUSICAL SYMBOL COMBINING ", "DOIT,RIP,FLIP,SMEAR,BEND,DOUBLE TONGUE,TRIPLE TONGUE"⟩,
   ⟨0x1D18C, 1, "MUSICAL SYMBOL ", "RINFORZANDO,SUBITO,Z,PIANO,MEZZO,FORTE,CRESCENDO,DECRESCENDO"⟩,
   ⟨0x1D194, 1, "MUSICAL SYMBOL GRACE NOTE ", "SLASH,NO SLASH"⟩,
   ⟨0x1D196, 1, "MUSICAL SYMBOL ", "TR,TURN,INVERTED TURN,TURN SLASH,TURN UP"⟩,
   ⟨0x1D19B, 1, "MUSICAL SYMBOL ORNAMENT STROKE-", "1,2,3,4,5,6,7,8,9,10,11"⟩,
   ⟨0x1D1A6, 1, "MUSICAL SYMBOL ", "HAUPTSTIMME,NEBENSTIMME,END OF STIMME,DEGREE SLASH"⟩,
   ⟨0x1D1AA, 1, "MUSICAL SYMBOL COMBINING ", "DOWN BOW,UP BOW,HARMONIC,SNAP PIZZICATO"⟩,
   ⟨0x1D1AE, 2, "MUSICAL SYMBOL ", "PEDAL MARK,HALF PEDAL MARK,GLISSANDO DOWN,DAMP,MAXIMA,BREVIS"⟩,
   ⟨0x1D1AF, 2, "MUSICAL SYMBOL ", "PEDAL UP MARK,GLISSANDO UP,WITH FINGERNAILS,DAMP ALL,LONGA"⟩,
   ⟨0x1D1B9, 1, "MUSICAL SYMBOL SEMIBREVIS ", "WHITE,BLACK"⟩,
   ⟨0x1D1BB, 1, "MUSICAL SYMBOL ", "MINIMA,MINIMA BLACK,SEMIMINIMA WHITE,SEMIMINIMA BLACK"⟩,
   ⟨0x1D1BF, 2, "MUSICAL SYMBOL ", "FUSA WHITE,LONGA PERFECTA REST,BREVIS REST,MINIMA REST"⟩,
   ⟨0x1D1C0, 2, "MUSICAL SYMBOL ", "FUSA BLACK,LONGA IMPERFECTA REST,SEMIBREVIS REST"⟩,
   ⟨0x1D1C6, 2, "MUSICAL SYMBOL ", "SEMIMINIMA REST,TEMPUS PERFECTUM CUM PROLATIONE IMPERFECTA"⟩,
   ⟨0x1D1C7, 2,
    "MUSICAL SYMBOL TEMPUS PERFECTUM CUM PROLATIONE ", "PERFECTA,PERFECTA DIMINUTION-1"⟩,
   ⟨0x1D1CA, 1, "MUSICAL SYMBOL TEMPUS IMPERFECTUM CUM PROLATIONE ", "PERFECTA,IMPERFECTA"⟩,
   ⟨0x1D1CC, 1, "MUSICAL SYMBOL TEMPUS IMPERFECTUM CUM PROLATIONE IMPERFECTA DIMINUTION-", "1,2,3"⟩,
   ⟨0x1D1CF, 1, "MUSICAL SYMBOL ", "CROIX,GREGORIAN C CLEF,GREGORIAN F CLEF,SQUARE B,VIRGA"⟩,
   ⟨0x1D1D4, 2,
    "MUSICAL SYMBOL ", "PODATUS,SCANDICUS,TORCULUS,PORRECTUS FLEXUS,TORCULUS RESUPINUS"⟩,
   ⟨0x1D1D5, 2, "MUSICAL SYMBOL ", "CLIVIS,CLIMACUS,PORRECTUS,SCANDICUS FLEXUS,PES SUBPUNCTIS"⟩,
   ⟨0x1D1DE, 1, "MUSICAL SYMBOL KIEVAN ", "C CLEF,END OF PIECE,FINAL NOTE,RECITATIVE MARK"⟩,
   ⟨0x1D1E2, 2,
    "MUSICAL SYMBOL KIEVAN ", "WHOLE NOTE,QUARTER NOTE STEM DOWN,EIGHTH NOTE STEM DOWN"⟩,
   ⟨0x1D1E3, 2, "MUSICAL SYMBOL KIEVAN ", "HALF NOTE,QUARTER NOTE STEM UP,EIGHTH NOTE STEM UP"⟩,
   ⟨0x1D1E8, 1, "MUSICAL SYMBOL ", "KIEVAN FLAT SIGN,SORI,KORON"⟩,
   ⟨0x1D200, 2, "GREEK VOCAL NOTATION SYMBOL-", "1,3,5,7,9,11,13,15,17,19,21,23,50,52,54"⟩,
   ⟨0x1D201, 2, "GREEK VOCAL NOTATION SYMBOL-", "2,4,6,8,10,12,14,16,18,20,22,24,51,53"⟩,
   ⟨0x1D21D, 1, "GREEK INSTRUMENTAL NOTATION SYMBOL-", "1,2,4,5,7,8,11,12,13"⟩,
   ⟨0x1D226, 2, "GREEK INSTRUMENTAL NOTATION SYMBOL-", "14,18,23,25,27,30,36,38,40,43,47,49,51,53"⟩,
   ⟨0x1D227, 2, "GREEK INSTRUMENTAL NOTATION SYMBOL-", "17,19,24,26,29,32,37,39,42,45,48,50,52,54"⟩,
   ⟨0x1D242, 1, "COMBINING GREEK MUSICAL ", "TRISEME,TETRASEME,PENTASEME"⟩,
   ⟨0x1D245, 1, "GREEK MUSICAL LEIMMA", ""⟩,
   ⟨0x1D2E0, 1, "MAYAN NUMERAL ", "ZERO,ONE,TWO,THREE"⟩,
   ⟨0x1D2E4, 2, "MAYAN NUMERAL ", "FOUR,SIX,EIGHT,TEN,TWELVE,FOURTEEN,SIXTEEN,EIGHTEEN"⟩,
   ⟨0x1D2E5, 2, "MAYAN NUMERAL ", "FIVE,SEVEN,NINE,ELEVEN,THIRTEEN,FIFTEEN,SEVENTEEN,NINETEEN"⟩,
   ⟨0x1D300, 1, "MONOGRAM FOR EARTH", ""⟩,
   ⟨0x1D301, 1, "DIGRAM FOR ", "HEAVENLY EARTH,HUMAN EARTH,EARTHLY HEAVEN,EARTHLY HUMAN,EARTH"⟩,
   ⟨0x1D306, 1, "TETRAGRAM FOR ", "CENTRE,FULL CIRCLE,MIRED,BARRIER,KEEPING SMALL,CONTRARIETY"⟩,
   ⟨0x1D30C, 1, "TETRAGRAM FOR ", "ASCENT,OPPOSITION,BRANCHING OUT,DEFECTIVENESS OR DISTORTION"⟩,
   ⟨0x1D310, 2, "TETRAGRAM FOR ", "DIVERGENCE,INCREASE,REACH,HOLDING BACK,FOLLOWING"⟩,
   ⟨0x1D311, 2, "TETRAGRAM FOR ", "YOUTHFULNESS,PENETRATION,CONTACT,WAITING,ADVANCE"⟩,
   ⟨0x1D31A, 2, "TETRAGRAM FOR ", "RELEASE,EASE,CONTENTION,DUTIES,DECISIVENESS,PACKING,CLOSENESS"⟩,
   ⟨0x1D31B, 2, "TETRAGRAM FOR ", "RESISTANCE,JOY,ENDEAVOUR,CHANGE,BOLD RESOLUTION,LEGION,KINSHIP"⟩,
   ⟨0x1D328, 2, "TETRAGRAM FOR ", "GATHERING,PURITY,RESIDENCE,RESPONSE,ENCOUNTERS,GREATNESS"⟩,
   ⟨0x1D329, 2, "TETRAGRAM FOR ", "STRENGTH,FULLNESS,LAW OR MODEL,GOING TO MEET,STOVE,ENLARGEMENT"⟩,
   ⟨0x1D334, 2, "TETRAGRAM FOR ", "PATTERN,FLIGHT,CONSTANCY,ETERNITY,DIMINISHMENT,GUARDEDNESS"⟩,
   ⟨0x1D335, 2, "TETRAGRAM FOR ", "RITUAL,VASTNESS OR WASTING,MEASURE,UNITY,CLOSED MOUTH"⟩,
   ⟨0x1D33F, 2, "TETRAGRAM FOR ", "GATHERING IN,ACCUMULATION,DOUBT,SINKING,DEPARTURE,DIMMING"⟩,
   ⟨0x1D340, 2, "TETRAGRAM FOR ", "MASSING,EMBELLISHMENT,WATCH,INNER,DARKENING,EXHAUSTION"⟩,
   ⟨0x1D34B, 2, "TETRAGRAM FOR ", "SEVERANCE,HARDNESS,CLOSURE,AGGRAVATION,ON THE VERGE,LABOURING"⟩,
   ⟨0x1D34C, 2, "TETRAGRAM FOR ", "STOPPAGE,COMPLETION,FAILURE,COMPLIANCE,DIFFICULTIES,FOSTERING"⟩,
   ⟨0x1D360, 1, "COUNTING ROD UNIT DIGIT ", "ONE,TWO,THREE,FOUR,FIVE,SIX,SEVEN,EIGHT,NINE"⟩,
   ⟨0x1D369, 1, "COUNTING ROD TENS DIGIT ", "ONE,TWO,THREE,FOUR,FIVE,SIX,SEVEN,EIGHT,NINE"⟩,
   ⟨0x1D372, 1, "IDEOGRAPHIC TALLY MARK ", "ONE,TWO,THREE,FOUR,FIVE"⟩,
   ⟨0x1D377, 1, "TALLY MARK ", "ONE,FIVE"⟩,
   ⟨0x1D400, 1,
    "MATHEMATICAL BOLD CAPITAL ", "A,B,C,D,E,F,G,H,I,J,K,L,M,N,O,P,Q,R,S,T,U,V,W,X,Y,Z"⟩,
   ⟨0x1D41A, 1, "MATHEMATICAL BOLD SMALL ", "A,B,C,D,E,F,G,H,I,J,K,L,M,N,O,P,Q,R,S,T,U,V,W,X,Y,Z"⟩,
   ⟨0x1D434, 2, "MATHEMATICAL ITALIC CAPITAL ", "A,C,E,G,I,K,M,O,Q,S,U,W,Y"⟩,
   ⟨0x1D435, 2, "MATHEMATICAL ITALIC CAPITAL ", "B,D,F,H,J,L,N,P,R,T,V,X,Z"⟩,
   ⟨0x1D44E, 1, "MATHEMATICAL ITALIC SMALL ", "A,B,C,D,E,F,G"⟩,
   ⟨0x1D456, 1, "MATHEMATICAL ITALIC SMALL ", "I,J,K,L,M,N,O,P,Q,R,S,T,U,V,W,X,Y,Z"⟩,
   ⟨0x1D468, 1, "MATHEMATICAL BOLD ITALIC CAPITAL ", "A,B,C,D,E,F,G,H,I,J,K,L,M,N,O,P,Q,R,S,T,U,V"⟩,
   ⟨0x1D47E, 1, "MATHEMATICAL BOLD ITALIC ", "CAPITAL W,CAPITAL X,CAPITAL Y,CAPITAL Z,SMALL A"⟩,
   ⟨0x1D483, 1, "MATHEMATICAL BOLD ITALIC SMALL ", "B,C,D,E,F,G,H,I,J,K,L,M,N,O,P,Q,R,S,T,U,V,W,X"⟩,
   ⟨0x1D49A, 1, "MATHEMATICAL ", "BOLD ITALIC SMALL Y,BOLD ITALIC SMALL Z,SCRIPT CAPITAL A"⟩,
   ⟨0x1D49E, 1, "MATHEMATICAL SCRIPT CAPITAL ", "C,D"⟩,
   ⟨0x1D4A2, 1, "MATHEMATICAL SCRIPT CAPITAL G", ""⟩,
   ⟨0x1D4A5, 1, "MATHEMATICAL SCRIPT CAPITAL ", "J,K"⟩,
   ⟨0x1D4A9, 1, "MATHEMATICAL SCRIPT CAPITAL ", "N,O,P,Q"⟩,
   ⟨0x1D4AE, 1, "MATHEMATICAL SCRIPT CAPITAL ", "S,T,U,V,W,X,Y,Z"⟩,
   ⟨0x1D4B6, 1, "MATHEMATICAL SCRIPT SMALL ", "A,B,C,D"⟩,
   ⟨0x1D4BB, 1, "MATHEMATICAL SCRIPT SMALL F", ""⟩,
   ⟨0x1D4BD, 1, "MATHEMATICAL SCRIPT SMALL ", "H,I,J,K,L,M,N"⟩,
   ⟨0x1D4C5, 1, "MATHEMATICAL SCRIPT SMALL ", "P,Q,R,S,T,U,V,W,X,Y,Z"⟩,
   ⟨0x1D4D0, 2, "MATHEMATICAL BOLD SCRIPT CAPITAL ", "A,C,E,G,I,K,M,O,Q,S,U,W,Y"⟩,
   ⟨0x1D4D1, 2, "MATHEMATICAL BOLD SCRIPT CAPITAL ", "B,D,F,H,J,L,N,P,R,T,V,X,Z"⟩,
   ⟨0x1D4EA, 2, "MATHEMATICAL BOLD SCRIPT SMALL ", "A,C,E,G,I,K,M,O,Q,S,U,W,Y"⟩,
   ⟨0x1D4EB, 2, "MATHEMATICAL BOLD SCRIPT SMALL ", "B,D,F,H,J,L,N,P,R,T,V,X,Z"⟩,
   ⟨0x1D504, 1, "MATHEMATICAL FRAKTUR CAPITAL ", "A,B"⟩,
   ⟨0x1D507, 1, "MATHEMATICAL FRAKTUR CAPITAL ", "D,E,F,G"⟩,
   ⟨0x1D50D, 1, "MATHEMATICAL FRAKTUR CAPITAL ", "J,K,L,M,N,O,P,Q"⟩,
   ⟨0x1D516, 1, "MATHEMATICAL FRAKTUR CAPITAL ", "S,T,U,V,W,X,Y"⟩,
   ⟨0x1D51E, 1, "MATHEMATICAL FRAKTUR SMALL ", "A,B,C,D,E,F,G,H,I,J,K,L,M,N,O,P,Q,R,S,T,U,V,W,X,Y"⟩,
   ⟨0x1D537, 1, "MATHEMATICAL ", "FRAKTUR SMALL Z,DOUBLE-STRUCK CAPITAL A,DOUBLE-STRUCK CAPITAL B"⟩,
   ⟨0x1D53B, 1, "MATHEMATICAL DOUBLE-STRUCK CAPITAL ", "D,E,F,G"⟩,
   ⟨0x1D540, 1, "MATHEMATICAL DOUBLE-STRUCK CAPITAL ", "I,J,K,L,M"⟩,
   ⟨0x1D546, 1, "MATHEMATICAL DOUBLE-STRUCK CAPITAL O", ""⟩,
   ⟨0x1D54A, 1, "MATHEMATICAL DOUBLE-STRUCK CAPITAL ", "S,T,U,V,W,X,Y"⟩,
   ⟨0x1D552, 2, "MATHEMATICAL DOUBLE-STRUCK SMALL ", "A,C,E,G,I,K,M,O,Q,S,U,W,Y"⟩,
   ⟨0x1D553, 2, "MATHEMATICAL DOUBLE-STRUCK SMALL ", "B,D,F,H,J,L,N,P,R,T,V,X,Z"⟩,
   ⟨0x1D56C, 2, "MATHEMATICAL BOLD FRAKTUR CAPITAL ", "A,C,E,G,I,K,M,O,Q,S,U,W,Y"⟩,
   ⟨0x1D56D, 2, "MATHEMATICAL BOLD FRAKTUR CAPITAL ", "B,D,F,H,J,L,N,P,R,T,V,X,Z"⟩,
   ⟨0x1D586, 2, "MATHEMATICAL BOLD FRAKTUR SMALL ", "A,C,E,G,I,K,M,O,Q,S,U,W,Y"⟩,
   ⟨0x1D587, 2, "MATHEMATICAL BOLD FRAKTUR SMALL ", "B,D,F,H,J,L,N,P,R,T,V,X,Z"⟩,
   ⟨0x1D5A0, 1,
    "MATHEMATICAL SANS-SERIF CAPITAL ", "A,B,C,D,E,F,G,H,I,J,K,L,M,N,O,P,Q,R,S,T,U,V,W"⟩,
   ⟨0x1D5B7, 1, "MATHEMATICAL SANS-SERIF ", "CAPITAL X,CAPITAL Y,CAPITAL Z,SMALL A,SMALL B"⟩,
   ⟨0x1D5BC, 1,
    "MATHEMATICAL SANS-SERIF SMALL ", "C,D,E,F,G,H,I,J,K,L,M,N,O,P,Q,R,S,T,U,V,W,X,Y,Z"⟩,
   ⟨0x1D5D4, 2, "MATHEMATICAL SANS-SERIF BOLD CAPITAL ", "A,C,E,G,I,K,M,O,Q,S,U,W,Y"⟩,
   ⟨0x1D5D5, 2, "MATHEMATICAL SANS-SERIF BOLD CAPITAL ", "B,D,F,H,J,L,N,P,R,T,V,X,Z"⟩,
   ⟨0x1D5EE, 2, "MATHEMATICAL SANS-SERIF BOLD SMALL ", "A,C,E,G,I,K,M,O,Q,S,U,W,Y"⟩,
   ⟨0x1D5EF, 2, "MATHEMATICAL SANS-SERIF BOLD SMALL ", "B,D,F,H,J,L,N,P,R,T,V,X,Z"⟩,
   ⟨0x1D608, 2, "MATHEMATICAL SANS-SERIF ITALIC CAPITAL ", "A,C,E,G,I,K,M,O,Q,S,U,W,Y"⟩,
   ⟨0x1D609, 2, "MATHEMATICAL SANS-SERIF ITALIC CAPITAL ", "B,D,F,H,J,L,N,P,R,T,V,X,Z"⟩,
   ⟨0x1D622, 2, "MATHEMATICAL SANS-SERIF ITALIC SMALL ", "A,C,E,G,I,K,M,O,Q,S,U,W,Y"⟩,
   ⟨0x1D623, 2, "MATHEMATICAL SANS-SERIF ITALIC SMALL ", "B,D,F,H,J,L,N,P,R,T,V,X,Z"⟩,
   ⟨0x1D63C, 2, "MATHEMATICAL SANS-SERIF BOLD ITALIC CAPITAL ", "A,C,E,G,I,K,M,O,Q,S,U,W,Y"⟩,
   ⟨0x1D63D, 2, "MATHEMATICAL SANS-SERIF BOLD ITALIC CAPITAL ", "B,D,F,H,J,L,N,P,R,T,V,X,Z"⟩,
   ⟨0x1D656, 2, "MATHEMATICAL SANS-SERIF BOLD ITALIC SMALL ", "A,C,E,G,I,K,M,O,Q,S,U,W,Y"⟩,
   ⟨0x1D657, 2, "MATHEMATICAL SANS-SERIF BOLD ITALIC SMALL ", "B,D,F,H,J,L,N,P,R,T,V,X,Z"⟩,
   ⟨0x1D670, 1, "MATHEMATICAL MONOSPACE CAPITAL ", "A,B,C,D,E,F,G,H,I,J,K,L,M,N,O,P,Q,R,S,T,U,V,W"⟩,
   ⟨0x1D687, 1, "MATHEMATICAL MONOSPACE ", "CAPITAL X,CAPITAL Y,CAPITAL Z,SMALL A,SMALL B"⟩,
   ⟨0x1D68C, 1, "MATHEMATICAL MONOSPACE SMALL ", "C,D,E,F,G,H,I,J,K,L,M,N,O,P,Q,R,S,T,U,V,W,X,Y,Z"⟩,
   ⟨0x1D6A4, 1, "MATHEMATICAL ITALIC SMALL DOTLESS ", "I,J"⟩,
   ⟨0x1D6A8, 1, "MATHEMATICAL BOLD CAPITAL ", "ALPHA,BETA,GAMMA,DELTA,EPSILON,ZETA,ETA"⟩,
   ⟨0x1D6AF, 2, "MATHEMATICAL BOLD CAPITAL ", "THETA,KAPPA,MU,XI,PI,THETA SYMBOL,TAU,PHI,PSI"⟩,
   ⟨0x1D6B0, 2, "MATHEMATICAL BOLD CAPITAL ", "IOTA,LAMDA,NU,OMICRON,RHO,SIGMA,UPSILON,CHI,OMEGA"⟩,
   ⟨0x1D6C1, 1, "MATHEMATICAL BOLD ", "NABLA,SMALL ALPHA,SMALL BETA,SMALL GAMMA,SMALL DELTA"⟩,
   ⟨0x1D6C6, 1, "MATHEMATICAL BOLD SMALL ", "EPSILON,ZETA,ETA,THETA,IOTA,KAPPA,LAMDA,MU,NU,XI"⟩,
   ⟨0x1D6D0, 1, "MATHEMATICAL BOLD SMALL ", "OMICRON,PI,RHO,FINAL SIGMA,SIGMA,TAU,UPSILON,PHI,CHI"⟩,
   ⟨0x1D6D9, 1, "MATHEMATICAL BOLD ", "SMALL PSI,SMALL OMEGA,PARTIAL DIFFERENTIAL,EPSILON SYMBOL"⟩,
   ⟨0x1D6DD, 1, "MATHEMATICAL BOLD ", "THETA SYMBOL,KAPPA SYMBOL,PHI SYMBOL,RHO SYMBOL,PI SYMBOL"⟩,
   ⟨0x1D6E2, 1, "MATHEMATICAL ITALIC CAPITAL ", "ALPHA,BETA,GAMMA,DELTA,EPSILON,ZETA,ETA"⟩,
   ⟨0x1D6E9, 2, "MATHEMATICAL ITALIC CAPITAL ", "THETA,KAPPA,MU,XI,PI,THETA SYMBOL,TAU,PHI,PSI"⟩,
   ⟨0x1D6EA, 2,
    "MATHEMATICAL ITALIC CAPITAL ", "IOTA,LAMDA,NU,OMICRON,RHO,SIGMA,UPSILON,CHI,OMEGA"⟩,
   ⟨0x1D6FB, 1, "MATHEMATICAL ITALIC NABLA", ""⟩,
   ⟨0x1D6FC, 1, "MATHEMATICAL ITALIC SMALL ", "ALPHA,BETA,GAMMA,DELTA,EPSILON,ZETA,ETA"⟩,
   ⟨0x1D703, 2, "MATHEMATICAL ITALIC SMALL ", "THETA,KAPPA,MU,XI,PI,FINAL SIGMA,TAU,PHI,PSI"⟩,
   ⟨0x1D704, 2, "MATHEMATICAL ITALIC SMALL ", "IOTA,LAMDA,NU,OMICRON,RHO,SIGMA,UPSILON,CHI,OMEGA"⟩,
   ⟨0x1D715, 2, "MATHEMATICAL ITALIC ", "PARTIAL DIFFERENTIAL,THETA SYMBOL,PHI SYMBOL,PI SYMBOL"⟩,
   ⟨0x1D716, 2, "MATHEMATICAL ITALIC ", "EPSILON SYMBOL,KAPPA SYMBOL,RHO SYMBOL"⟩,
   ⟨0x1D71C, 1, "MATHEMATICAL BOLD ITALIC CAPITAL ", "ALPHA,BETA,GAMMA,DELTA,EPSILON,ZETA,ETA"⟩,
   ⟨0x1D723, 2, "MATHEMATICAL BOLD ITALIC CAPITAL ", "THETA,KAPPA,MU,XI,PI,THETA SYMBOL,TAU,PHI"⟩,
   ⟨0x1D724, 2, "MATHEMATICAL BOLD ITALIC CAPITAL ", "IOTA,LAMDA,NU,OMICRON,RHO,SIGMA,UPSILON,CHI"⟩,
   ⟨0x1D733, 1, "MATHEMATICAL BOLD ITALIC ", "CAPITAL PSI,CAPITAL OMEGA,NABLA,SMALL ALPHA"⟩,
   ⟨0x1D737, 1, "MATHEMATICAL BOLD ITALIC SMALL ", "BETA,GAMMA,DELTA,EPSILON,ZETA,ETA,THETA,IOTA"⟩,
   ⟨0x1D73F, 2, "MATHEMATICAL BOLD ITALIC SMALL ", "KAPPA,MU,XI,PI,FINAL SIGMA,TAU,PHI,PSI"⟩,
   ⟨0x1D740, 2, "MATHEMATICAL BOLD ITALIC SMALL ", "LAMDA,NU,OMICRON,RHO,SIGMA,UPSILON,CHI,OMEGA"⟩,
   ⟨0x1D74F, 1, "MATHEMATICAL BOLD ITALIC ", "PARTIAL DIFFERENTIAL,EPSILON SYMBOL,THETA SYMBOL"⟩,
   ⟨0x1D752, 1, "MATHEMATICAL BOLD ITALIC ", "KAPPA SYMBOL,PHI SYMBOL,RHO SYMBOL,PI SYMBOL"⟩,
   ⟨0x1D756, 2, "MATHEMATICAL SANS-SERIF BOLD CAPITAL ", "ALPHA,GAMMA,EPSILON,ETA,IOTA,LAMDA"⟩,
   ⟨0x1D757, 2, "MATHEMATICAL SANS-SERIF BOLD CAPITAL ", "BETA,DELTA,ZETA,THETA,KAPPA"⟩,
   ⟨0x1D761, 2, "MATHEMATICAL SANS-SERIF BOLD CAPITAL ", "MU,XI,PI,THETA SYMBOL,TAU,PHI,PSI"⟩,
   ⟨0x1D762, 2, "MATHEMATICAL SANS-SERIF BOLD CAPITAL ", "NU,OMICRON,RHO,SIGMA,UPSILON,CHI,OMEGA"⟩,
   ⟨0x1D76F, 1, "MATHEMATICAL SANS-SERIF BOLD ", "NABLA,SMALL ALPHA,SMALL BETA,SMALL GAMMA"⟩,
   ⟨0x1D773, 1, "MATHEMATICAL SANS-SERIF BOLD SMALL ", "DELTA,EPSILON,ZETA,ETA,THETA,IOTA,KAPPA"⟩,
   ⟨0x1D77A, 1, "MATHEMATICAL SANS-SERIF BOLD SMALL ", "LAMDA,MU,NU,XI,OMICRON,PI,RHO,FINAL SIGMA"⟩,
   ⟨0x1D782, 1, "MATHEMATICAL SANS-SERIF BOLD SMALL ", "SIGMA,TAU,UPSILON,PHI,CHI,PSI,OMEGA"⟩,
   ⟨0x1D789, 1,
    "MATHEMATICAL SANS-SERIF BOLD ", "PARTIAL DIFFERENTIAL,EPSILON SYMBOL,THETA SYMBOL"⟩,
   ⟨0x1D78C, 1, "MATHEMATICAL SANS-SERIF BOLD ", "KAPPA SYMBOL,PHI SYMBOL,RHO SYMBOL,PI SYMBOL"⟩,
   ⟨0x1D790, 1, "MATHEMATICAL SANS-SERIF BOLD ITALIC CAPITAL ", "ALPHA,BETA,GAMMA,DELTA,EPSILON"⟩,
   ⟨0x1D795, 1, "MATHEMATICAL SANS-SERIF BOLD ITALIC CAPITAL ", "ZETA,ETA,THETA,IOTA,KAPPA,LAMDA"⟩,
   ⟨0x1D79B, 2,
    "MATHEMATICAL SANS-SERIF BOLD ITALIC CAPITAL ", "MU,XI,PI,THETA SYMBOL,TAU,PHI,PSI"⟩,
   ⟨0x1D79C, 2, "MATHEMATICAL SANS-SERIF BOLD ITALIC CAPITAL ", "NU,OMICRON,RHO,SIGMA,UPSILON,CHI"⟩,
   ⟨0x1D7A8, 1, "MATHEMATICAL SANS-SERIF BOLD ITALIC ", "CAPITAL OMEGA,NABLA"⟩,
   ⟨0x1D7AA, 1,
    "MATHEMATICAL SANS-SERIF BOLD ITALIC SMALL ", "ALPHA,BETA,GAMMA,DELTA,EPSILON,ZETA"⟩,
   ⟨0x1D7B0, 1, "MATHEMATICAL SANS-SERIF BOLD ITALIC SMALL ", "ETA,THETA,IOTA,KAPPA,LAMDA,MU,NU"⟩,
   ⟨0x1D7B7, 2, "MATHEMATICAL SANS-SERIF BOLD ITALIC SMALL ", "XI,PI,FINAL SIGMA,TAU,PHI,PSI"⟩,
   ⟨0x1D7B8, 2,
    "MATHEMATICAL SANS-SERIF BOLD ITALIC SMALL ", "OMICRON,RHO,SIGMA,UPSILON,CHI,OMEGA"⟩,
   ⟨0x1D7C3, 1, "MATHEMATICAL SANS-SERIF BOLD ITALIC PARTIAL DIFFERENTIAL", ""⟩,
   ⟨0x1D7C4, 2, "MATHEMATICAL SANS-SERIF BOLD ITALIC ", "EPSILON SYMBOL,KAPPA SYMBOL,RHO SYMBOL"⟩,
   ⟨0x1D7C5, 2, "MATHEMATICAL SANS-SERIF BOLD ITALIC ", "THETA SYMBOL,PHI SYMBOL,PI SYMBOL"⟩,
   ⟨0x1D7CA, 1, "MATHEMATICAL BOLD ", "CAPITAL DIGAMMA,SMALL DIGAMMA"⟩,
   ⟨0x1D7CE, 1, "MATHEMATICAL BOLD DIGIT ", "ZERO,ONE,TWO,THREE,FOUR,FIVE,SIX,SEVEN,EIGHT,NINE"⟩,
   ⟨0x1D7D8, 1,
    "MATHEMATICAL DOUBLE-STRUCK DIGIT ", "ZERO,ONE,TWO,THREE,FOUR,FIVE,SIX,SEVEN,EIGHT"⟩,
   ⟨0x1D7E1, 1, "MATHEMATICAL ", "DOUBLE-STRUCK DIGIT NINE,SANS-SERIF DIGIT ZERO"⟩,
   ⟨0x1D7E3, 1, "MATHEMATICAL SANS-SERIF DIGIT ", "ONE,TWO,THREE,FOUR,FIVE,SIX,SEVEN,EIGHT,NINE"⟩,
   ⟨0x1D7EC, 2, "MATHEMATICAL SANS-SERIF BOLD DIGIT ", "ZERO,TWO,FOUR,SIX,EIGHT"⟩,
   ⟨0x1D7ED, 2, "MATHEMATICAL SANS-SERIF BOLD DIGIT ", "ONE,THREE,FIVE,SEVEN,NINE"⟩,
   ⟨0x1D7F6, 2, "MATHEMATICAL MONOSPACE DIGIT ", "ZERO,TWO,FOUR,SIX,EIGHT"⟩,
   ⟨0x1D7F7, 2, "MATHEMATICAL MONOSPACE DIGIT ", "ONE,THREE,FIVE,SEVEN,NINE"⟩,
   ⟨0x1D800, 1, "SIGNWRITING HAND-", "FIST INDEX,CIRCLE INDEX,CUP INDEX,OVAL INDEX,HINGE INDEX"⟩,
   ⟨0x1D805, 2, "SIGNWRITING HAND-", "ANGLE INDEX,CIRCLE INDEX BENT"⟩,
   ⟨0x1D806, 2, "SIGNWRITING HAND-FIST ", "INDEX BENT,THUMB UNDER INDEX BENT"⟩,
   ⟨0x1D809, 1, "SIGNWRITING HAND-FIST INDEX ", "RAISED KNUCKLE,CUPPED,HINGED,HINGED LOW"⟩,
   ⟨0x1D80D, 1, "SIGNWRITING HAND-", "CIRCLE INDEX HINGE,FIST INDEX MIDDLE,CIRCLE INDEX MIDDLE"⟩,
   ⟨0x1D810, 1, "SIGNWRITING HAND-FIST INDEX MIDDLE ", "BENT,RAISED KNUCKLES,HINGED"⟩,
   ⟨0x1D813, 1, "SIGNWRITING HAND-FIST INDEX ", "UP MIDDLE HINGED,HINGED MIDDLE UP"⟩,
   ⟨0x1D815, 1, "SIGNWRITING HAND-FIST INDEX MIDDLE ", "CONJOINED,CONJOINED INDEX BENT"⟩,
   ⟨0x1D817, 1, "SIGNWRITING HAND-FIST INDEX MIDDLE CONJOINED ", "MIDDLE BENT,CUPPED,HINGED"⟩,
   ⟨0x1D81A, 1, "SIGNWRITING HAND-", "FIST INDEX MIDDLE CROSSED,CIRCLE INDEX MIDDLE CROSSED"⟩,
   ⟨0x1D81C, 2, "SIGNWRITING HAND-FIST ", "MIDDLE BENT OVER INDEX,INDEX MIDDLE THUMB"⟩,
   ⟨0x1D81D, 2, "SIGNWRITING HAND-", "FIST INDEX BENT OVER MIDDLE,CIRCLE INDEX MIDDLE THUMB"⟩,
   ⟨0x1D820, 1, "SIGNWRITING HAND-FIST INDEX MIDDLE ", "STRAIGHT THUMB BENT,BENT THUMB STRAIGHT"⟩,
   ⟨0x1D822, 1, "SIGNWRITING HAND-FIST INDEX MIDDLE ", "THUMB BENT,HINGED SPREAD THUMB SIDE"⟩,
   ⟨0x1D824, 1, "SIGNWRITING HAND-FIST INDEX UP MIDDLE HINGED THUMB ", "SIDE,CONJOINED"⟩,
   ⟨0x1D826, 1, "SIGNWRITING HAND-FIST INDEX HINGED MIDDLE UP THUMB SIDE", ""⟩,
   ⟨0x1D827, 1, "SIGNWRITING HAND-FIST INDEX MIDDLE UP SPREAD THUMB FORWARD", ""⟩,
   ⟨0x1D828, 1, "SIGNWRITING HAND-FIST INDEX MIDDLE THUMB ", "CUPPED,CIRCLED,HOOKED,HINGED"⟩,
   ⟨0x1D82C, 1, "SIGNWRITING HAND-FIST THUMB BETWEEN INDEX MIDDLE STRAIGHT", ""⟩,
   ⟨0x1D82D, 1, "SIGNWRITING HAND-FIST INDEX MIDDLE CONJOINED THUMB SIDE", ""⟩,
   ⟨0x1D82E, 1, "SIGNWRITING HAND-FIST INDEX MIDDLE CONJOINED THUMB SIDE ", "CONJOINED,BENT"⟩,
   ⟨0x1D830, 1, "SIGNWRITING HAND-FIST MIDDLE THUMB HOOKED INDEX UP", ""⟩,
   ⟨0x1D831, 2, "SIGNWRITING HAND-FIST INDEX ", "THUMB HOOKED MIDDLE UP,MIDDLE CROSSED THUMB SIDE"⟩,
   ⟨0x1D832, 2, "SIGNWRITING HAND-FIST INDEX MIDDLE CONJOINED ", "HINGED THUMB SIDE,THUMB FORWARD"⟩,
   ⟨0x1D835, 1, "SIGNWRITING HAND-FIST INDEX MIDDLE CONJOINED CUPPED THUMB FORWARD", ""⟩,
   ⟨0x1D836, 1, "SIGNWRITING HAND-FIST MIDDLE THUMB CUPPED INDEX UP", ""⟩,
   ⟨0x1D837, 1, "SIGNWRITING HAND-FIST INDEX THUMB CUPPED MIDDLE UP", ""⟩,
   ⟨0x1D838, 1, "SIGNWRITING HAND-FIST MIDDLE THUMB CIRCLED INDEX ", "UP,HINGED"⟩,
   ⟨0x1D83A, 1, "SIGNWRITING HAND-FIST INDEX THUMB ANGLED ", "OUT MIDDLE UP,IN MIDDLE UP"⟩,
   ⟨0x1D83C, 1, "SIGNWRITING HAND-FIST INDEX THUMB CIRCLED MIDDLE UP", ""⟩,
   ⟨0x1D83D, 1, "SIGNWRITING HAND-FIST INDEX MIDDLE THUMB ", "CONJOINED HINGED,ANGLED OUT,ANGLED"⟩,
   ⟨0x1D840, 1, "SIGNWRITING HAND-FIST MIDDLE THUMB ANGLED OUT INDEX ", "UP,CROSSED"⟩,
   ⟨0x1D842, 1, "SIGNWRITING HAND-FIST MIDDLE THUMB ANGLED INDEX UP", ""⟩,
   ⟨0x1D843, 1, "SIGNWRITING HAND-", "FIST INDEX THUMB HOOKED MIDDLE HINGED,FLAT FOUR FINGERS"⟩,
   ⟨0x1D845, 1, "SIGNWRITING HAND-FLAT FOUR FINGERS ", "BENT,HINGED,CONJOINED,CONJOINED SPLIT"⟩,
   ⟨0x1D849, 2, "SIGNWRITING HAND-", "CLAW FOUR FINGERS CONJOINED,HINGE FOUR FINGERS CONJOINED"⟩,
   ⟨0x1D84A, 2, "SIGNWRITING HAND-", "FIST FOUR FINGERS CONJOINED BENT,FLAT FIVE FINGERS SPREAD"⟩,
   ⟨0x1D84D, 2, "SIGNWRITING HAND-FLAT HEEL FIVE FINGERS ", "SPREAD,SPREAD FOUR BENT,SPREAD BENT"⟩,
   ⟨0x1D84E, 2, "SIGNWRITING HAND-FLAT FIVE FINGERS SPREAD ", "FOUR BENT,BENT,THUMB FORWARD"⟩,
   ⟨0x1D853, 1, "SIGNWRITING HAND-CUP FIVE FINGERS ", "SPREAD,SPREAD OPEN"⟩,
   ⟨0x1D855, 1, "SIGNWRITING HAND-", "HINGE FIVE FINGERS SPREAD OPEN,OVAL FIVE FINGERS SPREAD"⟩,
   ⟨0x1D857, 2, "SIGNWRITING HAND-FLAT FIVE FINGERS SPREAD ", "HINGED,HINGED NO THUMB"⟩,
   ⟨0x1D858, 2, "SIGNWRITING HAND-", "FLAT FIVE FINGERS SPREAD HINGED THUMB SIDE,FLAT"⟩,
   ⟨0x1D85B, 1, "SIGNWRITING HAND-FLAT ", "BETWEEN PALM FACINGS,HEEL,THUMB SIDE,HEEL THUMB SIDE"⟩,
   ⟨0x1D85F, 1, "SIGNWRITING HAND-FLAT ", "THUMB BENT,THUMB FORWARD,SPLIT INDEX THUMB SIDE"⟩,
   ⟨0x1D862, 1, "SIGNWRITING HAND-FLAT SPLIT ", "CENTRE,CENTRE THUMB SIDE,CENTRE THUMB SIDE BENT"⟩,
   ⟨0x1D865, 1, "SIGNWRITING HAND-", "FLAT SPLIT LITTLE,CLAW,CLAW THUMB SIDE,CLAW NO THUMB"⟩,
   ⟨0x1D869, 1, "SIGNWRITING HAND-", "CLAW THUMB FORWARD,HOOK CURLICUE,HOOK,CUP OPEN,CUP"⟩,
   ⟨0x1D86E, 2, "SIGNWRITING HAND-CUP OPEN ", "THUMB SIDE,NO THUMB,THUMB FORWARD"⟩,
   ⟨0x1D86F, 2, "SIGNWRITING HAND-CUP ", "THUMB SIDE,NO THUMB,THUMB FORWARD"⟩,
   ⟨0x1D874, 1, "SIGNWRITING HAND-", "CURLICUE OPEN,CURLICUE,CIRCLE,OVAL"⟩,
   ⟨0x1D878, 1, "SIGNWRITING HAND-OVAL ", "THUMB SIDE,NO THUMB,THUMB FORWARD"⟩,
   ⟨0x1D87B, 2, "SIGNWRITING HAND-", "HINGE OPEN,HINGE,HINGE OPEN THUMB SIDE,HINGE OPEN NO THUMB"⟩,
   ⟨0x1D87C, 2, "SIGNWRITING HAND-HINGE ", "OPEN THUMB FORWARD,SMALL,THUMB SIDE,NO THUMB"⟩,
   ⟨0x1D883, 1, "SIGNWRITING HAND-HINGE THUMB ", "SIDE TOUCHING INDEX,BETWEEN MIDDLE RING"⟩,
   ⟨0x1D885, 2, "SIGNWRITING HAND-", "ANGLE,CIRCLE INDEX MIDDLE RING,ANGLE INDEX MIDDLE RING"⟩,
   ⟨0x1D886, 2, "SIGNWRITING HAND-", "FIST INDEX MIDDLE RING,HINGE INDEX MIDDLE RING,HINGE LITTLE"⟩,
   ⟨0x1D88B, 1, "SIGNWRITING HAND-FIST INDEX MIDDLE RING ", "BENT,CONJOINED"⟩,
   ⟨0x1D88D, 1, "SIGNWRITING HAND-HINGE INDEX MIDDLE RING CONJOINED", ""⟩,
   ⟨0x1D88E, 2, "SIGNWRITING HAND-FIST LITTLE ", "DOWN,DOWN RIPPLE CURVED,UP"⟩,
   ⟨0x1D88F, 2, "SIGNWRITING HAND-FIST LITTLE DOWN ", "RIPPLE STRAIGHT,OTHERS CIRCLED"⟩,
   ⟨0x1D893, 2, "SIGNWRITING HAND-", "FIST THUMB UNDER LITTLE UP,OVAL LITTLE UP"⟩,
   ⟨0x1D894, 2, "SIGNWRITING HAND-", "CIRCLE LITTLE UP,ANGLE LITTLE UP"⟩,
   ⟨0x1D897, 1, "SIGNWRITING HAND-FIST LITTLE ", "RAISED KNUCKLE,BENT,TOUCHES THUMB"⟩,
   ⟨0x1D89A, 2, "SIGNWRITING HAND-FIST LITTLE ", "THUMB,INDEX THUMB"⟩,
   ⟨0x1D89B, 2, "SIGNWRITING HAND-HINGE LITTLE ", "THUMB,INDEX THUMB"⟩,
   ⟨0x1D89E, 1, "SIGNWRITING HAND-ANGLE LITTLE INDEX THUMB INDEX ", "THUMB OUT,THUMB"⟩,
   ⟨0x1D8A0, 1, "SIGNWRITING HAND-", "FIST LITTLE INDEX,CIRCLE LITTLE INDEX,HINGE LITTLE INDEX"⟩,
   ⟨0x1D8A3, 2, "SIGNWRITING HAND-", "ANGLE LITTLE INDEX,CIRCLE INDEX MIDDLE LITTLE,HINGE RING"⟩,
   ⟨0x1D8A4, 2, "SIGNWRITING HAND-", "FIST INDEX MIDDLE LITTLE,HINGE INDEX MIDDLE LITTLE"⟩,
   ⟨0x1D8A8, 2, "SIGNWRITING HAND-", "ANGLE INDEX MIDDLE LITTLE,CIRCLE INDEX MIDDLE CROSS LITTLE"⟩,
   ⟨0x1D8A9, 2, "SIGNWRITING HAND-FIST ", "INDEX MIDDLE CROSS LITTLE,RING DOWN"⟩,
   ⟨0x1D8AC, 1, "SIGNWRITING HAND-HINGE RING DOWN INDEX THUMB HOOK MIDDLE", ""⟩,
   ⟨0x1D8AD, 1, "SIGNWRITING HAND-", "ANGLE RING DOWN MIDDLE THUMB INDEX CROSS,FIST RING UP"⟩,
   ⟨0x1D8AF, 1,
    "SIGNWRITING HAND-", "FIST RING RAISED KNUCKLE,FIST RING LITTLE,CIRCLE RING LITTLE"⟩,
   ⟨0x1D8B2, 1, "SIGNWRITING HAND-", "OVAL RING LITTLE,ANGLE RING LITTLE,FIST RING MIDDLE"⟩,
   ⟨0x1D8B5, 1, "SIGNWRITING HAND-FIST RING ", "MIDDLE CONJOINED,MIDDLE RAISED KNUCKLES,INDEX"⟩,
   ⟨0x1D8B8, 1, "SIGNWRITING HAND-", "FIST RING THUMB,HOOK RING THUMB,FIST INDEX RING LITTLE"⟩,
   ⟨0x1D8BB, 1, "SIGNWRITING HAND-", "CIRCLE INDEX RING LITTLE,CURLICUE INDEX RING LITTLE ON"⟩,
   ⟨0x1D8BD, 1, "SIGNWRITING HAND-HOOK INDEX RING LITTLE ", "OUT,IN,UNDER"⟩,
   ⟨0x1D8C0, 1, "SIGNWRITING HAND-", "CUP INDEX RING LITTLE,HINGE INDEX RING LITTLE"⟩,
   ⟨0x1D8C2, 1, "SIGNWRITING HAND-ANGLE INDEX RING ", "LITTLE OUT,LITTLE"⟩,
   ⟨0x1D8C4, 2, "SIGNWRITING HAND-FIST MIDDLE ", "DOWN,UP,RAISED KNUCKLE"⟩,
   ⟨0x1D8C5, 2, "SIGNWRITING HAND-", "HINGE MIDDLE,CIRCLE MIDDLE UP"⟩,
   ⟨0x1D8C9, 2, "SIGNWRITING HAND-FIST MIDDLE ", "UP THUMB SIDE,THUMB LITTLE,RING LITTLE"⟩,
   ⟨0x1D8CA, 2, "SIGNWRITING HAND-", "HOOK MIDDLE THUMB,FIST MIDDLE LITTLE"⟩,
   ⟨0x1D8CE, 2, "SIGNWRITING HAND-", "CIRCLE MIDDLE RING LITTLE,CUP MIDDLE RING LITTLE"⟩,
   ⟨0x1D8CF, 2, "SIGNWRITING HAND-", "CURLICUE MIDDLE RING LITTLE ON,HINGE MIDDLE RING LITTLE"⟩,
   ⟨0x1D8D2, 1, "SIGNWRITING HAND-ANGLE MIDDLE RING ", "LITTLE OUT,LITTLE IN,LITTLE"⟩,
   ⟨0x1D8D5, 1, "SIGNWRITING HAND-CIRCLE MIDDLE RING LITTLE BENT", ""⟩,
   ⟨0x1D8D6, 1, "SIGNWRITING HAND-CLAW MIDDLE RING LITTLE ", "CONJOINED,CONJOINED SIDE"⟩,
   ⟨0x1D8D8, 1,
    "SIGNWRITING HAND-HOOK MIDDLE RING LITTLE ", "CONJOINED OUT,CONJOINED IN,CONJOINED"⟩,
   ⟨0x1D8DB, 2, "SIGNWRITING HAND-HINGE INDEX ", "HINGED,THUMB SIDE"⟩,
   ⟨0x1D8DC, 2, "SIGNWRITING HAND-FIST INDEX THUMB ", "SIDE,SIDE THUMB DIAGONAL"⟩,
   ⟨0x1D8DF, 1, "SIGNWRITING HAND-FIST INDEX THUMB SIDE THUMB ", "CONJOINED,BENT"⟩,
   ⟨0x1D8E1, 1, "SIGNWRITING HAND-FIST INDEX THUMB SIDE ", "INDEX BENT,BOTH BENT,INDEX HINGE"⟩,
   ⟨0x1D8E4, 1, "SIGNWRITING HAND-FIST INDEX THUMB FORWARD INDEX ", "STRAIGHT,BENT"⟩,
   ⟨0x1D8E6, 1, "SIGNWRITING HAND-FIST INDEX THUMB ", "HOOK,CURLICUE,CURVE THUMB INSIDE"⟩,
   ⟨0x1D8E9, 1, "SIGNWRITING HAND-CLAW INDEX THUMB CURVE THUMB INSIDE", ""⟩,
   ⟨0x1D8EA, 1, "SIGNWRITING HAND-FIST INDEX THUMB ", "CURVE THUMB UNDER,CIRCLE"⟩,
   ⟨0x1D8EC, 1, "SIGNWRITING HAND-CUP INDEX ", "THUMB,THUMB OPEN"⟩,
   ⟨0x1D8EE, 1, "SIGNWRITING HAND-HINGE INDEX ", "THUMB OPEN,THUMB LARGE,THUMB,THUMB SMALL"⟩,
   ⟨0x1D8F2, 1, "SIGNWRITING HAND-ANGLE INDEX ", "THUMB OUT,THUMB IN,THUMB"⟩,
   ⟨0x1D8F5, 1, "SIGNWRITING HAND-FIST ", "THUMB,THUMB HEEL"⟩,
   ⟨0x1D8F7, 1, "SIGNWRITING HAND-FIST THUMB ", "SIDE DIAGONAL,SIDE CONJOINED,SIDE BENT,FORWARD"⟩,
   ⟨0x1D8FB, 1, "SIGNWRITING HAND-FIST THUMB BETWEEN ", "INDEX MIDDLE,MIDDLE RING,RING LITTLE"⟩,
   ⟨0x1D8FE, 2, "SIGNWRITING HAND-FIST THUMB UNDER ", "TWO FINGERS,THREE FINGERS"⟩,
   ⟨0x1D8FF, 2, "SIGNWRITING HAND-FIST THUMB ", "OVER TWO FINGERS,UNDER FOUR FINGERS"⟩,
   ⟨0x1D902, 1, "SIGNWRITING HAND-", "FIST THUMB OVER FOUR RAISED KNUCKLES,FIST,FIST HEEL"⟩,
   ⟨0x1D905, 1, "SIGNWRITING TOUCH ", "SINGLE,MULTIPLE,BETWEEN"⟩,
   ⟨0x1D908, 1, "SIGNWRITING GRASP ", "SINGLE,MULTIPLE,BETWEEN"⟩,
   ⟨0x1D90B, 1, "SIGNWRITING STRIKE ", "SINGLE,MULTIPLE,BETWEEN"⟩,
   ⟨0x1D90E, 1,
    "SIGNWRITING ", "BRUSH SINGLE,BRUSH MULTIPLE,BRUSH BETWEEN,RUB SINGLE,RUB MULTIPLE"⟩,
   ⟨0x1D913, 1, "SIGNWRITING ", "RUB BETWEEN,SURFACE SYMBOLS,SURFACE BETWEEN,SQUEEZE LARGE SINGLE"⟩,
   ⟨0x1D917, 1, "SIGNWRITING SQUEEZE ", "SMALL SINGLE,LARGE MULTIPLE,SMALL MULTIPLE,SEQUENTIAL"⟩,
   ⟨0x1D91B, 1, "SIGNWRITING FLICK ", "LARGE SINGLE,SMALL SINGLE,LARGE MULTIPLE,SMALL MULTIPLE"⟩,
   ⟨0x1D91F, 1, "SIGNWRITING ", "FLICK SEQUENTIAL,SQUEEZE FLICK ALTERNATING"⟩,
   ⟨0x1D921, 1, "SIGNWRITING MOVEMENT-HINGE UP ", "DOWN LARGE,DOWN SMALL,SEQUENTIAL"⟩,
   ⟨0x1D924, 2, "SIGNWRITING MOVEMENT-HINGE ", "DOWN SEQUENTIAL,UP DOWN ALTERNATING SMALL"⟩,
   ⟨0x1D925, 2, "SIGNWRITING MOVEMENT-HINGE ", "UP DOWN ALTERNATING LARGE,SIDE TO SIDE SCISSORS"⟩,
   ⟨0x1D928, 1, "SIGNWRITING MOVEMENT-", "WALLPLANE FINGER CONTACT,FLOORPLANE FINGER CONTACT"⟩,
   ⟨0x1D92A, 1, "SIGNWRITING MOVEMENT-WALLPLANE SINGLE STRAIGHT ", "SMALL,MEDIUM,LARGE,LARGEST"⟩,
   ⟨0x1D92E, 1, "SIGNWRITING MOVEMENT-WALLPLANE SINGLE WRIST FLEX", ""⟩,
   ⟨0x1D92F, 1, "SIGNWRITING MOVEMENT-WALLPLANE DOUBLE ", "STRAIGHT,WRIST FLEX,ALTERNATING"⟩,
   ⟨0x1D932, 1, "SIGNWRITING MOVEMENT-WALLPLANE ", "DOUBLE ALTERNATING WRIST FLEX,CROSS"⟩,
   ⟨0x1D934, 2, "SIGNWRITING MOVEMENT-WALLPLANE TRIPLE ", "STRAIGHT MOVEMENT,ALTERNATING"⟩,
   ⟨0x1D935, 2, "SIGNWRITING MOVEMENT-WALLPLANE TRIPLE ", "WRIST FLEX,ALTERNATING WRIST FLEX"⟩,
   ⟨0x1D938, 1, "SIGNWRITING MOVEMENT-WALLPLANE BEND ", "SMALL,MEDIUM,LARGE"⟩,
   ⟨0x1D93B, 1, "SIGNWRITING MOVEMENT-WALLPLANE CORNER ", "SMALL,MEDIUM,LARGE,ROTATION"⟩,
   ⟨0x1D93F, 1, "SIGNWRITING MOVEMENT-WALLPLANE CHECK ", "SMALL,MEDIUM,LARGE"⟩,
   ⟨0x1D942, 1, "SIGNWRITING MOVEMENT-WALLPLANE BOX ", "SMALL,MEDIUM,LARGE"⟩,
   ⟨0x1D945, 1, "SIGNWRITING MOVEMENT-WALLPLANE ZIGZAG ", "SMALL,MEDIUM,LARGE"⟩,
   ⟨0x1D948, 1, "SIGNWRITING MOVEMENT-WALLPLANE PEAKS ", "SMALL,MEDIUM,LARGE"⟩,
   ⟨0x1D94B, 1, "SIGNWRITING TRAVEL-WALLPLANE ROTATION-WALLPLANE ", "SINGLE,DOUBLE,ALTERNATING"⟩,
   ⟨0x1D94E, 1, "SIGNWRITING TRAVEL-WALLPLANE ROTATION-FLOORPLANE ", "SINGLE,DOUBLE,ALTERNATING"⟩,
   ⟨0x1D951, 1, "SIGNWRITING TRAVEL-WALLPLANE SHAKING", ""⟩,
   ⟨0x1D952, 1, "SIGNWRITING TRAVEL-WALLPLANE ARM SPIRAL ", "SINGLE,DOUBLE,TRIPLE"⟩,
   ⟨0x1D955, 1, "SIGNWRITING MOVEMENT-DIAGONAL AWAY ", "SMALL,MEDIUM,LARGE,LARGEST"⟩,
   ⟨0x1D959, 1, "SIGNWRITING MOVEMENT-DIAGONAL TOWARDS ", "SMALL,MEDIUM,LARGE,LARGEST"⟩,
   ⟨0x1D95D, 1, "SIGNWRITING MOVEMENT-DIAGONAL BETWEEN AWAY ", "SMALL,MEDIUM,LARGE,LARGEST"⟩,
   ⟨0x1D961, 1, "SIGNWRITING MOVEMENT-DIAGONAL BETWEEN TOWARDS ", "SMALL,MEDIUM,LARGE,LARGEST"⟩,
   ⟨0x1D965, 1, "SIGNWRITING MOVEMENT-FLOORPLANE SINGLE STRAIGHT ", "SMALL,MEDIUM,LARGE,LARGEST"⟩,
   ⟨0x1D969, 1, "SIGNWRITING MOVEMENT-FLOORPLANE SINGLE WRIST FLEX", ""⟩,
   ⟨0x1D96A, 1, "SIGNWRITING MOVEMENT-FLOORPLANE DOUBLE ", "STRAIGHT,WRIST FLEX,ALTERNATING"⟩,
   ⟨0x1D96D, 1, "SIGNWRITING MOVEMENT-FLOORPLANE ", "DOUBLE ALTERNATING WRIST FLEX,CROSS"⟩,
   ⟨0x1D96F, 1, "SIGNWRITING MOVEMENT-FLOORPLANE TRIPLE ", "STRAIGHT MOVEMENT,WRIST FLEX"⟩,
   ⟨0x1D971, 1, "SIGNWRITING MOVEMENT-FLOORPLANE TRIPLE ALTERNATING ", "MOVEMENT,WRIST FLEX"⟩,
   ⟨0x1D973, 2, "SIGNWRITING MOVEMENT-FLOORPLANE ", "BEND,CORNER MEDIUM,CHECK,BOX MEDIUM"⟩,
   ⟨0x1D974, 2,
    "SIGNWRITING MOVEMENT-FLOORPLANE ", "CORNER SMALL,CORNER LARGE,BOX SMALL,BOX LARGE"⟩,
   ⟨0x1D97B, 1, "SIGNWRITING MOVEMENT-FLOORPLANE ZIGZAG ", "SMALL,MEDIUM,LARGE"⟩,
   ⟨0x1D97E, 1, "SIGNWRITING MOVEMENT-FLOORPLANE PEAKS ", "SMALL,MEDIUM,LARGE"⟩,
   ⟨0x1D981, 1, "SIGNWRITING TRAVEL-FLOORPLANE ROTATION-FLOORPLANE ", "SINGLE,DOUBLE,ALTERNATING"⟩,
   ⟨0x1D984, 1, "SIGNWRITING TRAVEL-FLOORPLANE ROTATION-WALLPLANE ", "SINGLE,DOUBLE,ALTERNATING"⟩,
   ⟨0x1D987, 1, "SIGNWRITING TRAVEL-FLOORPLANE SHAKING", ""⟩,
   ⟨0x1D988, 1, "SIGNWRITING MOVEMENT-WALLPLANE CURVE QUARTER ", "SMALL,MEDIUM,LARGE,LARGEST"⟩,
   ⟨0x1D98C, 1, "SIGNWRITING MOVEMENT-WALLPLANE CURVE HALF-CIRCLE ", "SMALL,MEDIUM,LARGE,LARGEST"⟩,
   ⟨0x1D990, 1, "SIGNWRITING MOVEMENT-WALLPLANE CURVE THREE-QUARTER CIRCLE ", "SMALL,MEDIUM"⟩,
   ⟨0x1D992, 1, "SIGNWRITING MOVEMENT-WALLPLANE HUMP ", "SMALL,MEDIUM,LARGE"⟩,
   ⟨0x1D995, 1, "SIGNWRITING MOVEMENT-WALLPLANE LOOP ", "SMALL,MEDIUM,LARGE,SMALL DOUBLE"⟩,
   ⟨0x1D999, 1, "SIGNWRITING MOVEMENT-WALLPLANE WAVE CURVE DOUBLE ", "SMALL,MEDIUM,LARGE"⟩,
   ⟨0x1D99C, 1, "SIGNWRITING MOVEMENT-WALLPLANE WAVE CURVE TRIPLE ", "SMALL,MEDIUM,LARGE"⟩,
   ⟨0x1D99F, 1, "SIGNWRITING MOVEMENT-WALLPLANE CURVE THEN STRAIGHT", ""⟩,
   ⟨0x1D9A0, 1, "SIGNWRITING MOVEMENT-WALLPLANE CURVED CROSS ", "SMALL,MEDIUM"⟩,
   ⟨0x1D9A2, 1, "SIGNWRITING ROTATION-WALLPLANE ", "SINGLE,DOUBLE,ALTERNATE"⟩,
   ⟨0x1D9A5, 1, "SIGNWRITING MOVEMENT-WALLPLANE ", "SHAKING,CURVE HITTING FRONT WALL"⟩,
   ⟨0x1D9A7, 1, "SIGNWRITING MOVEMENT-WALLPLANE HUMP HITTING FRONT WALL", ""⟩,
   ⟨0x1D9A8, 1, "SIGNWRITING MOVEMENT-WALLPLANE LOOP HITTING FRONT WALL", ""⟩,
   ⟨0x1D9A9, 1, "SIGNWRITING MOVEMENT-WALLPLANE WAVE HITTING FRONT WALL", ""⟩,
   ⟨0x1D9AA, 1, "SIGNWRITING ROTATION-WALLPLANE SINGLE HITTING FRONT WALL", ""⟩,
   ⟨0x1D9AB, 1, "SIGNWRITING ROTATION-WALLPLANE DOUBLE HITTING FRONT WALL", ""⟩,
   ⟨0x1D9AC, 1, "SIGNWRITING ROTATION-WALLPLANE ALTERNATING HITTING FRONT WALL", ""⟩,
   ⟨0x1D9AD, 2, "SIGNWRITING MOVEMENT-WALLPLANE ", "CURVE HITTING CHEST,LOOP HITTING CHEST"⟩,
   ⟨0x1D9AE, 2, "SIGNWRITING MOVEMENT-WALLPLANE ", "HUMP HITTING CHEST,WAVE HITTING CHEST"⟩,
   ⟨0x1D9B1, 1, "SIGNWRITING ROTATION-WALLPLANE SINGLE HITTING CHEST", ""⟩,
   ⟨0x1D9B2, 1,
    "SIGNWRITING ROTATION-WALLPLANE ", "DOUBLE HITTING CHEST,ALTERNATING HITTING CHEST"⟩,
   ⟨0x1D9B4, 1, "SIGNWRITING MOVEMENT-WALLPLANE WAVE DIAGONAL PATH ", "SMALL,MEDIUM,LARGE"⟩,
   ⟨0x1D9B7, 1, "SIGNWRITING MOVEMENT-FLOORPLANE CURVE HITTING CEILING ", "SMALL,LARGE"⟩,
   ⟨0x1D9B9, 2, "SIGNWRITING MOVEMENT-FLOORPLANE HUMP HITTING CEILING SMALL ", "DOUBLE,TRIPLE"⟩,
   ⟨0x1D9BA, 2, "SIGNWRITING MOVEMENT-FLOORPLANE HUMP HITTING CEILING LARGE ", "DOUBLE,TRIPLE"⟩,
   ⟨0x1D9BD, 2, "SIGNWRITING MOVEMENT-FLOORPLANE LOOP HITTING CEILING SMALL ", "SINGLE,DOUBLE"⟩,
   ⟨0x1D9BE, 2, "SIGNWRITING MOVEMENT-FLOORPLANE LOOP HITTING CEILING LARGE ", "SINGLE,DOUBLE"⟩,
   ⟨0x1D9C1, 1, "SIGNWRITING MOVEMENT-FLOORPLANE WAVE HITTING CEILING ", "SMALL,LARGE"⟩,
   ⟨0x1D9C3, 1,
    "SIGNWRITING ROTATION-FLOORPLANE ", "SINGLE HITTING CEILING,DOUBLE HITTING CEILING"⟩,
   ⟨0x1D9C5, 1, "SIGNWRITING ROTATION-FLOORPLANE ALTERNATING HITTING CEILING", ""⟩,
   ⟨0x1D9C6, 1, "SIGNWRITING MOVEMENT-FLOORPLANE CURVE HITTING FLOOR ", "SMALL,LARGE"⟩,
   ⟨0x1D9C8, 1, "SIGNWRITING MOVEMENT-FLOORPLANE HUMP HITTING FLOOR ", "SMALL DOUBLE,LARGE DOUBLE"⟩,
   ⟨0x1D9CA, 1, "SIGNWRITING MOVEMENT-FLOORPLANE HUMP HITTING FLOOR TRIPLE SMALL TRIPLE", ""⟩,
   ⟨0x1D9CB, 1, "SIGNWRITING MOVEMENT-FLOORPLANE HUMP HITTING FLOOR TRIPLE LARGE TRIPLE", ""⟩,
   ⟨0x1D9CC, 2, "SIGNWRITING MOVEMENT-FLOORPLANE LOOP HITTING FLOOR SMALL ", "SINGLE,DOUBLE"⟩,
   ⟨0x1D9CD, 2, "SIGNWRITING MOVEMENT-FLOORPLANE LOOP HITTING FLOOR LARGE ", "SINGLE,DOUBLE"⟩,
   ⟨0x1D9D0, 1, "SIGNWRITING MOVEMENT-FLOORPLANE WAVE HITTING FLOOR ", "SMALL,LARGE"⟩,
   ⟨0x1D9D2, 1, "SIGNWRITING ROTATION-FLOORPLANE ", "SINGLE HITTING FLOOR,DOUBLE HITTING FLOOR"⟩,
   ⟨0x1D9D4, 1, "SIGNWRITING ROTATION-FLOORPLANE ALTERNATING HITTING FLOOR", ""⟩,
   ⟨0x1D9D5, 1, "SIGNWRITING MOVEMENT-FLOORPLANE CURVE ", "SMALL,MEDIUM,LARGE,LARGEST,COMBINED"⟩,
   ⟨0x1D9DA, 1, "SIGNWRITING MOVEMENT-FLOORPLANE ", "HUMP SMALL,LOOP SMALL"⟩,
   ⟨0x1D9DC, 1, "SIGNWRITING MOVEMENT-FLOORPLANE WAVE ", "SNAKE,SMALL,LARGE"⟩,
   ⟨0x1D9DF, 1, "SIGNWRITING ROTATION-FLOORPLANE ", "SINGLE,DOUBLE,ALTERNATING"⟩,
   ⟨0x1D9E2, 1, "SIGNWRITING MOVEMENT-FLOORPLANE SHAKING PARALLEL", ""⟩,
   ⟨0x1D9E3, 2, "SIGNWRITING MOVEMENT-WALLPLANE ARM CIRCLE SMALL ", "SINGLE,DOUBLE"⟩,
   ⟨0x1D9E4, 2, "SIGNWRITING MOVEMENT-WALLPLANE ARM CIRCLE MEDIUM ", "SINGLE,DOUBLE"⟩,
   ⟨0x1D9E7, 1, "SIGNWRITING MOVEMENT-FLOORPLANE ARM CIRCLE HITTING WALL SMALL SINGLE", ""⟩,
   ⟨0x1D9E8, 1, "SIGNWRITING MOVEMENT-FLOORPLANE ARM CIRCLE HITTING WALL MEDIUM SINGLE", ""⟩,
   ⟨0x1D9E9, 1, "SIGNWRITING MOVEMENT-FLOORPLANE ARM CIRCLE HITTING WALL LARGE SINGLE", ""⟩,
   ⟨0x1D9EA, 1, "SIGNWRITING MOVEMENT-FLOORPLANE ARM CIRCLE HITTING WALL SMALL DOUBLE", ""⟩,
   ⟨0x1D9EB, 1, "SIGNWRITING MOVEMENT-FLOORPLANE ARM CIRCLE HITTING WALL MEDIUM DOUBLE", ""⟩,
   ⟨0x1D9EC, 1, "SIGNWRITING MOVEMENT-FLOORPLANE ARM CIRCLE HITTING WALL LARGE DOUBLE", ""⟩,
   ⟨0x1D9ED, 1, "SIGNWRITING MOVEMENT-WALLPLANE WRIST CIRCLE FRONT ", "SINGLE,DOUBLE"⟩,
   ⟨0x1D9EF, 1, "SIGNWRITING MOVEMENT-FLOORPLANE WRIST CIRCLE HITTING WALL ", "SINGLE,DOUBLE"⟩,
   ⟨0x1D9F1, 1, "SIGNWRITING MOVEMENT-WALLPLANE FINGER CIRCLES ", "SINGLE,DOUBLE"⟩,
   ⟨0x1D9F3, 1, "SIGNWRITING MOVEMENT-FLOORPLANE FINGER CIRCLES HITTING WALL ", "SINGLE,DOUBLE"⟩,
   ⟨0x1D9F5, 2, "SIGNWRITING DYNAMIC ", "ARROWHEAD SMALL,FAST,TENSE,SIMULTANEOUS,EVERY OTHER TIME"⟩,
   ⟨0x1D9F6, 2, "SIGNWRITING DYNAMIC ", "ARROWHEAD LARGE,SLOW,RELAXED,SIMULTANEOUS ALTERNATING"⟩,
   ⟨0x1D9FE, 1, "SIGNWRITING ", "DYNAMIC GRADUAL,HEAD,HEAD RIM,HEAD MOVEMENT-WALLPLANE STRAIGHT"⟩,
   ⟨0x1DA02, 2, "SIGNWRITING HEAD MOVEMENT-WALLPLANE ", "TILT,CURVE"⟩,
   ⟨0x1DA03, 2, "SIGNWRITING HEAD MOVEMENT-FLOORPLANE ", "STRAIGHT,CURVE"⟩,
   ⟨0x1DA06, 1,
    "SIGNWRITING ", "HEAD MOVEMENT CIRCLE,FACE DIRECTION POSITION NOSE FORWARD TILTING"⟩,
   ⟨0x1DA08, 1, "SIGNWRITING FACE DIRECTION POSITION NOSE UP OR ", "DOWN,DOWN TILTING"⟩,
   ⟨0x1DA0A, 1, "SIGNWRITING EYEBROWS STRAIGHT ", "UP,NEUTRAL,DOWN"⟩,
   ⟨0x1DA0D, 1, "SIGNWRITING DREAMY EYEBROWS ", "NEUTRAL DOWN,DOWN NEUTRAL,UP NEUTRAL,NEUTRAL UP"⟩,
   ⟨0x1DA11, 2,
    "SIGNWRITING ", "FOREHEAD NEUTRAL,FOREHEAD WRINKLED,EYES SQUEEZED,EYE BLINK SINGLE"⟩,
   ⟨0x1DA12, 2, "SIGNWRITING ", "FOREHEAD CONTACT,EYES OPEN,EYES CLOSED,EYE BLINK MULTIPLE"⟩,
   ⟨0x1DA19, 1, "SIGNWRITING EYES ", "HALF OPEN,WIDE OPEN,HALF CLOSED,WIDENING MOVEMENT"⟩,
   ⟨0x1DA1D, 1, "SIGNWRITING ", "EYE WINK,EYELASHES UP,EYELASHES DOWN,EYELASHES FLUTTERING"⟩,
   ⟨0x1DA21, 1, "SIGNWRITING EYEGAZE-WALLPLANE ", "STRAIGHT,STRAIGHT DOUBLE,STRAIGHT ALTERNATING"⟩,
   ⟨0x1DA24, 1, "SIGNWRITING EYEGAZE-FLOORPLANE ", "STRAIGHT,STRAIGHT DOUBLE,STRAIGHT ALTERNATING"⟩,
   ⟨0x1DA27, 1, "SIGNWRITING EYEGAZE-", "WALLPLANE CURVED,FLOORPLANE CURVED,WALLPLANE CIRCLING"⟩,
   ⟨0x1DA2A, 1, "SIGNWRITING CHEEKS ", "PUFFED,NEUTRAL,SUCKED"⟩,
   ⟨0x1DA2D, 1, "SIGNWRITING TENSE CHEEKS ", "HIGH,MIDDLE,LOW"⟩,
   ⟨0x1DA30, 1, "SIGNWRITING ", "EARS,NOSE NEUTRAL,NOSE CONTACT,NOSE WRINKLES,NOSE WIGGLES"⟩,
   ⟨0x1DA35, 1, "SIGNWRITING AIR ", "BLOWING OUT,SUCKING IN,BLOW SMALL ROTATIONS"⟩,
   ⟨0x1DA38, 1, "SIGNWRITING ", "AIR SUCK SMALL ROTATIONS,BREATH INHALE,BREATH EXHALE"⟩,
   ⟨0x1DA3B, 1, "SIGNWRITING MOUTH ", "CLOSED NEUTRAL,CLOSED FORWARD,CLOSED CONTACT,SMILE"⟩,
   ⟨0x1DA3F, 1, "SIGNWRITING MOUTH ", "SMILE WRINKLED,SMILE OPEN,FROWN,FROWN WRINKLED,FROWN OPEN"⟩,
   ⟨0x1DA44, 2,
    "SIGNWRITING MOUTH OPEN ", "CIRCLE,WRINKLED,OVAL WRINKLED,RECTANGLE,RECTANGLE YAWN"⟩,
   ⟨0x1DA45, 2, "SIGNWRITING MOUTH OPEN ", "FORWARD,OVAL,OVAL YAWN,RECTANGLE WRINKLED"⟩,
   ⟨0x1DA4D, 1, "SIGNWRITING MOUTH ", "KISS,KISS FORWARD,KISS WRINKLED,TENSE,TENSE FORWARD"⟩,
   ⟨0x1DA52, 2, "SIGNWRITING ", "MOUTH TENSE SUCKED,LIP LOWER OVER UPPER,MOUTH CORNERS"⟩,
   ⟨0x1DA53, 2, "SIGNWRITING ", "LIPS PRESSED TOGETHER,LIP UPPER OVER LOWER,MOUTH WRINKLES SINGLE"⟩,
   ⟨0x1DA58, 1, "SIGNWRITING ", "MOUTH WRINKLES DOUBLE,TONGUE STICKING OUT FAR"⟩,
   ⟨0x1DA5A, 2,
    "SIGNWRITING TONGUE ", "LICKING LIPS,TIP TOUCHING INSIDE MOUTH,MOVES AGAINST CHEEK"⟩,
   ⟨0x1DA5B, 2, "SIGNWRITING TONGUE ", "TIP BETWEEN LIPS,INSIDE MOUTH RELAXED,CENTRE STICKING OUT"⟩,
   ⟨0x1DA60, 1, "SIGNWRITING ", "TONGUE CENTRE INSIDE MOUTH,TEETH,TEETH MOVEMENT"⟩,
   ⟨0x1DA63, 1, "SIGNWRITING TEETH ON ", "TONGUE,TONGUE MOVEMENT,LIPS,LIPS MOVEMENT"⟩,
   ⟨0x1DA67, 2, "SIGNWRITING ", "TEETH BITE LIPS,MOVEMENT-FLOORPLANE JAW,HAIR,SHOULDER HIP SPINE"⟩,
   ⟨0x1DA68, 2, "SIGNWRITING ", "MOVEMENT-WALLPLANE JAW,NECK,EXCITEMENT,SHOULDER HIP POSITIONS"⟩,
   ⟨0x1DA6F, 1, "SIGNWRITING ", "WALLPLANE SHOULDER HIP MOVE,FLOORPLANE SHOULDER HIP MOVE"⟩,
   ⟨0x1DA71, 2, "SIGNWRITING ", "SHOULDER TILTING FROM WAIST,TORSO-WALLPLANE CURVED BEND"⟩,
   ⟨0x1DA72, 2, "SIGNWRITING TORSO-", "WALLPLANE STRAIGHT STRETCH,FLOORPLANE TWISTING"⟩,
   ⟨0x1DA75, 1, "SIGNWRITING ", "UPPER BODY TILTING FROM HIP JOINTS,LIMB COMBINATION"⟩,
   ⟨0x1DA77, 1, "SIGNWRITING LIMB LENGTH-", "1,2,3,4,5,6,7"⟩,
   ⟨0x1DA7E, 1, "SIGNWRITING ", "FINGER,LOCATION-WALLPLANE SPACE,LOCATION-FLOORPLANE SPACE"⟩,
   ⟨0x1DA81, 1, "SIGNWRITING LOCATION ", "HEIGHT,WIDTH,DEPTH,HEAD NECK,TORSO,LIMBS DIGITS"⟩,
   ⟨0x1DA87, 1, "SIGNWRITING ", "COMMA,FULL STOP,SEMICOLON,COLON,PARENTHESIS"⟩,
   ⟨0x1DA9B, 1, "SIGNWRITING FILL MODIFIER-", "2,3,4,5,6"⟩,
   ⟨0x1DAA1, 1, "SIGNWRITING ROTATION MODIFIER-", "2,3,4,5,6,7,8,9,10,11,12,13,14,15,16"⟩,
   ⟨0x1DF00, 1, "LATIN SMALL LETTER FENG DIGRAPH WITH TRILL", ""⟩,
   ⟨0x1DF01, 2, "LATIN SMALL LETTER ", "REVERSED SCRIPT G,REVERSED K,LEZH WITH RETROFLEX HOOK"⟩,
   ⟨0x1DF02, 2, "LATIN LETTER SMALL CAPITAL ", "TURNED G,L WITH BELT"⟩,
   ⟨0x1DF06, 2, "LATIN SMALL LETTER TURNED ", "Y WITH BELT,R WITH LONG LEG AND RETROFLEX HOOK"⟩,
   ⟨0x1DF07, 2, "LATIN SMALL LETTER ", "REVERSED ENG,T WITH HOOK AND RETROFLEX HOOK"⟩,
   ⟨0x1DF0A, 1, "LATIN LETTER RETROFLEX CLICK WITH RETROFLEX HOOK", ""⟩,
   ⟨0x1DF0B, 1, "LATIN SMALL LETTER ESH WITH DOUBLE ", "BAR,BAR AND CURL"⟩,
   ⟨0x1DF0D, 2, "LATIN ", "SMALL LETTER TURNED T WITH CURL,LETTER STRETCHED C WITH CURL"⟩,
   ⟨0x1DF0E, 2, "LATIN LETTER ", "INVERTED GLOTTAL STOP WITH CURL,SMALL CAPITAL TURNED K"⟩,
   ⟨0x1DF11, 2, "LATIN SMALL LETTER L WITH ", "FISHHOOK,BELT AND PALATAL HOOK"⟩,
   ⟨0x1DF12, 2, "LATIN SMALL LETTER ", "DEZH DIGRAPH WITH PALATAL HOOK,ENG WITH PALATAL HOOK"⟩,
   ⟨0x1DF15, 2, "LATIN SMALL LETTER ", "TURNED R WITH PALATAL HOOK,TESH DIGRAPH WITH PALATAL HOOK"⟩,
   ⟨0x1DF16, 2, "LATIN SMALL LETTER ", "R WITH FISHHOOK AND PALATAL HOOK,EZH WITH PALATAL HOOK"⟩,
   ⟨0x1DF19, 1, "LATIN SMALL LETTER DEZH DIGRAPH WITH RETROFLEX HOOK", ""⟩,
   ⟨0x1DF1A, 1, "LATIN SMALL LETTER I WITH STROKE AND RETROFLEX HOOK", ""⟩,
   ⟨0x1DF1B, 2, "LATIN SMALL LETTER ", "O WITH RETROFLEX HOOK,C WITH RETROFLEX HOOK"⟩,
   ⟨0x1DF1C, 2, "LATIN SMALL LETTER ", "TESH DIGRAPH WITH RETROFLEX HOOK,S WITH CURL"⟩]

end RegexSubst.Unicode
