import RegexSubst.Unicode.Name.Run

/-!
# `RegexSubst.Unicode.Name.EastAsian`: names of U+2E80 to U+9FFF

Radicals, kana, bopomofo and enclosed letters, but no ideographs.
-/

set_option autoImplicit false

namespace RegexSubst.Unicode

/-- The names of U+2E80 to U+9FFF. -/
def eastAsianNames : List NameRun :=
  [⟨0x2E80, 2, "CJK RADICAL ", "REPEAT,SECOND ONE,SECOND THREE,BOX,KNIFE ONE,DIVINATION,SMALL ONE"⟩,
   ⟨0x2E81, 2, "CJK RADICAL ", "CLIFF,SECOND TWO,PERSON,TABLE,KNIFE TWO,SEAL,SMALL TWO"⟩,
   ⟨0x2E8E, 1, "CJK RADICAL LAME ", "ONE,TWO,THREE,FOUR"⟩,
   ⟨0x2E92, 1, "CJK RADICAL ", "SNAKE,THREAD,SNOUT ONE,SNOUT TWO,HEART ONE,HEART TWO,HAND,RAP"⟩,
   ⟨0x2E9B, 1, "CJK RADICAL ", "CHOKE,SUN,MOON,DEATH,MOTHER,CIVILIAN,WATER ONE"⟩,
   ⟨0x2EA2, 1, "CJK RADICAL ", "WATER TWO,FIRE,PAW ONE,PAW TWO,SIMPLIFIED HALF TREE TRUNK,COW,DOG"⟩,
   ⟨0x2EA9, 2, "CJK RADICAL ", "JADE,EYE,SPIRIT TWO,SILK,NET ONE,NET THREE,MESH"⟩,
   ⟨0x2EAA, 2,
    "CJK RADICAL ", "BOLT OF CLOTH,SPIRIT ONE,BAMBOO,C-SIMPLIFIED SILK,NET TWO,NET FOUR"⟩,
   ⟨0x2EB6, 2, "CJK RADICAL ", "SHEEP,EWE,BRUSH ONE,MEAT,GRASS ONE,GRASS THREE,CLOTHES,WEST TWO"⟩,
   ⟨0x2EB7, 2,
    "CJK RADICAL ", "RAM,OLD,BRUSH TWO,MORTAR,GRASS TWO,TIGER,WEST ONE,C-SIMPLIFIED SEE"⟩,
   ⟨0x2EC6, 2, "CJK RADICAL ", "SIMPLIFIED HORN,C-SIMPLIFIED SPEECH,FOOT,SIMPLIFIED WALK,WALK TWO"⟩,
   ⟨0x2EC7, 2, "CJK RADICAL ", "HORN,C-SIMPLIFIED SHELL,C-SIMPLIFIED CART,WALK ONE"⟩,
   ⟨0x2ECF, 2, "CJK RADICAL ", "CITY,LONG ONE,C-SIMPLIFIED LONG,MOUND ONE,RAIN"⟩,
   ⟨0x2ED0, 2, "CJK RADICAL ", "C-SIMPLIFIED GOLD,LONG TWO,C-SIMPLIFIED GATE,MOUND TWO,BLUE"⟩,
   ⟨0x2ED9, 1, "CJK RADICAL C-SIMPLIFIED ", "TANNED LEATHER,LEAF,WIND,FLY"⟩,
   ⟨0x2EDD, 1,
    "CJK RADICAL ", "EAT ONE,EAT TWO,EAT THREE,C-SIMPLIFIED EAT,HEAD,C-SIMPLIFIED HORSE"⟩,
   ⟨0x2EE3, 1, "CJK RADICAL ", "BONE,GHOST,C-SIMPLIFIED FISH,C-SIMPLIFIED BIRD,C-SIMPLIFIED SALT"⟩,
   ⟨0x2EE8, 1, "CJK RADICAL SIMPLIFIED ", "WHEAT,YELLOW"⟩,
   ⟨0x2EEA, 2, "CJK RADICAL C-SIMPLIFIED ", "FROG,EVEN,TOOTH,DRAGON"⟩,
   ⟨0x2EEB, 2, "CJK RADICAL J-SIMPLIFIED ", "EVEN,TOOTH,DRAGON"⟩,
   ⟨0x2EF1, 1, "CJK RADICAL ", "TURTLE,J-SIMPLIFIED TURTLE,C-SIMPLIFIED TURTLE"⟩,
   ⟨0x2F00, 2, "KANGXI RADICAL ", "ONE,DOT,SECOND,TWO,MAN,ENTER,DOWN BOX,ICE,OPEN BOX,POWER"⟩,
   ⟨0x2F01, 2, "KANGXI RADICAL ", "LINE,SLASH,HOOK,LID,LEGS,EIGHT,COVER,TABLE,KNIFE,WRAP"⟩,
   ⟨0x2F14, 1,
    "KANGXI RADICAL ", "SPOON,RIGHT OPEN BOX,HIDING ENCLOSURE,TEN,DIVINATION,SEAL,CLIFF"⟩,
   ⟨0x2F1B, 2,
    "KANGXI RADICAL ", "PRIVATE,MOUTH,EARTH,GO,EVENING,WOMAN,ROOF,SMALL,CORPSE,MOUNTAIN"⟩,
   ⟨0x2F1C, 2, "KANGXI RADICAL ", "AGAIN,ENCLOSURE,SCHOLAR,GO SLOWLY,BIG,CHILD,INCH,LAME,SPROUT"⟩,
   ⟨0x2F2E, 2,
    "KANGXI RADICAL ", "RIVER,ONESELF,DRY,DOTTED CLIFF,TWO HANDS,BOW,BRISTLE,HEART,DOOR"⟩,
   ⟨0x2F2F, 2, "KANGXI RADICAL ", "WORK,TURBAN,SHORT THREAD,LONG STRIDE,SHOOT,SNOUT,STEP,HALBERD"⟩,
   ⟨0x2F3F, 1, "KANGXI RADICAL ", "HAND,BRANCH,RAP,SCRIPT,DIPPER,AXE,SQUARE,NOT,SUN,SAY,MOON,TREE"⟩,
   ⟨0x2F4B, 1,
    "KANGXI RADICAL ", "LACK,STOP,DEATH,WEAPON,DO NOT,COMPARE,FUR,CLAN,STEAM,WATER,FIRE"⟩,
   ⟨0x2F56, 2, "KANGXI RADICAL ", "CLAW,DOUBLE X,SLICE,COW,PROFOUND,MELON,SWEET,USE,BOLT OF CLOTH"⟩,
   ⟨0x2F57, 2, "KANGXI RADICAL ", "FATHER,HALF TREE TRUNK,FANG,DOG,JADE,TILE,LIFE,FIELD,SICKNESS"⟩,
   ⟨0x2F68, 1, "KANGXI RADICAL ", "DOTTED TENT,WHITE,SKIN,DISH,EYE,SPEAR,ARROW,STONE,SPIRIT,TRACK"⟩,
   ⟨0x2F72, 1,
    "KANGXI RADICAL ", "GRAIN,CAVE,STAND,BAMBOO,RICE,SILK,JAR,NET,SHEEP,FEATHER,OLD,AND"⟩,
   ⟨0x2F7E, 1, "KANGXI RADICAL ", "PLOW,EAR,BRUSH,MEAT,MINISTER,SELF,ARRIVE,MORTAR,TONGUE,OPPOSE"⟩,
   ⟨0x2F88, 1, "KANGXI RADICAL ", "BOAT,STOPPING,COLOR,GRASS,TIGER,INSECT,BLOOD,WALK ENCLOSURE"⟩,
   ⟨0x2F90, 2, "KANGXI RADICAL ", "CLOTHES,SEE,SPEECH,BEAN,BADGER,RED,FOOT,CART,MORNING,CITY"⟩,
   ⟨0x2F91, 2, "KANGXI RADICAL ", "WEST,HORN,VALLEY,PIG,SHELL,RUN,BODY,BITTER,WALK,WINE"⟩,
   ⟨0x2FA4, 2, "KANGXI RADICAL ", "DISTINGUISH,GOLD,GATE,SLAVE,RAIN,WRONG,LEATHER"⟩,
   ⟨0x2FA5, 2, "KANGXI RADICAL ", "VILLAGE,LONG,MOUND,SHORT TAILED BIRD,BLUE,FACE,TANNED LEATHER"⟩,
   ⟨0x2FB2, 2, "KANGXI RADICAL ", "LEEK,LEAF,FLY,HEAD,HORSE,TALL,FIGHT,CAULDRON"⟩,
   ⟨0x2FB3, 2, "KANGXI RADICAL ", "SOUND,WIND,EAT,FRAGRANT,BONE,HAIR,SACRIFICIAL WINE,GHOST"⟩,
   ⟨0x2FC2, 2, "KANGXI RADICAL ", "FISH,SALT,WHEAT,YELLOW,BLACK,FROG,DRUM,NOSE,TOOTH,TURTLE"⟩,
   ⟨0x2FC3, 2, "KANGXI RADICAL ", "BIRD,DEER,HEMP,MILLET,EMBROIDERY,TRIPOD,RAT,EVEN,DRAGON,FLUTE"⟩,
   ⟨0x2FF0, 2, "IDEOGRAPHIC DESCRIPTION CHARACTER LEFT TO ", "RIGHT,MIDDLE AND RIGHT"⟩,
   ⟨0x2FF1, 2, "IDEOGRAPHIC DESCRIPTION CHARACTER ABOVE TO ", "BELOW,MIDDLE AND BELOW"⟩,
   ⟨0x2FF4, 1, "IDEOGRAPHIC DESCRIPTION CHARACTER FULL SURROUND", ""⟩,
   ⟨0x2FF5, 2, "IDEOGRAPHIC DESCRIPTION CHARACTER SURROUND FROM ", "ABOVE,LEFT,UPPER RIGHT"⟩,
   ⟨0x2FF6, 2, "IDEOGRAPHIC DESCRIPTION CHARACTER SURROUND FROM ", "BELOW,UPPER LEFT,LOWER LEFT"⟩,
   ⟨0x2FFB, 1, "IDEOGRAPHIC DESCRIPTION CHARACTER OVERLAID", ""⟩,
   ⟨0x3000, 1, "IDEOGRAPHIC ", "SPACE,COMMA,FULL STOP"⟩,
   ⟨0x3003, 1, "", "DITTO MARK,JAPANESE INDUSTRIAL STANDARD SYMBOL"⟩,
   ⟨0x3005, 1, "IDEOGRAPHIC ", "ITERATION MARK,CLOSING MARK,NUMBER ZERO"⟩,
   ⟨0x3008, 2, "LEFT ", "ANGLE BRACKET,DOUBLE ANGLE BRACKET,CORNER BRACKET,WHITE CORNER BRACKET"⟩,
   ⟨0x3009, 2, "RIGHT ", "ANGLE BRACKET,DOUBLE ANGLE BRACKET,CORNER BRACKET,WHITE CORNER BRACKET"⟩,
   ⟨0x3010, 1, "", "LEFT BLACK LENTICULAR BRACKET,RIGHT BLACK LENTICULAR BRACKET"⟩,
   ⟨0x3012, 1,
    "", "POSTAL MARK,GETA MARK,LEFT TORTOISE SHELL BRACKET,RIGHT TORTOISE SHELL BRACKET"⟩,
   ⟨0x3016, 2, "LEFT WHITE ", "LENTICULAR BRACKET,TORTOISE SHELL BRACKET,SQUARE BRACKET"⟩,
   ⟨0x3017, 2, "RIGHT WHITE ", "LENTICULAR BRACKET,TORTOISE SHELL BRACKET,SQUARE BRACKET"⟩,
   ⟨0x301C, 1, "", "WAVE DASH,REVERSED DOUBLE PRIME QUOTATION MARK"⟩,
   ⟨0x301E, 1, "", "DOUBLE PRIME QUOTATION MARK,LOW DOUBLE PRIME QUOTATION MARK,POSTAL MARK FACE"⟩,
   ⟨0x3021, 1, "HANGZHOU NUMERAL ", "ONE,TWO,THREE,FOUR,FIVE,SIX,SEVEN,EIGHT,NINE"⟩,
   ⟨0x302A, 2, "IDEOGRAPHIC ", "LEVEL TONE MARK,DEPARTING TONE MARK"⟩,
   ⟨0x302B, 2, "IDEOGRAPHIC ", "RISING TONE MARK,ENTERING TONE MARK"⟩,
   ⟨0x302E, 1, "", "HANGUL SINGLE DOT TONE MARK,HANGUL DOUBLE DOT TONE MARK,WAVY DASH"⟩,
   ⟨0x3031, 2, "VERTICAL KANA REPEAT ", "MARK,MARK UPPER HALF,MARK LOWER HALF"⟩,
   ⟨0x3032, 2, "VERTICAL KANA REPEAT WITH VOICED SOUND ", "MARK,MARK UPPER HALF"⟩,
   ⟨0x3036, 1, "", "CIRCLED POSTAL MARK,IDEOGRAPHIC TELEGRAPH LINE FEED SEPARATOR SYMBOL"⟩,
   ⟨0x3038, 1, "HANGZHOU NUMERAL ", "TEN,TWENTY,THIRTY"⟩,
   ⟨0x303B, 1, "", "VERTICAL IDEOGRAPHIC ITERATION MARK,MASU MARK,PART ALTERNATION MARK"⟩,
   ⟨0x303E, 1, "IDEOGRAPHIC ", "VARIATION INDICATOR,HALF FILL SPACE"⟩,
   ⟨0x3041, 1, "HIRAGANA LETTER ", "SMALL A,A,SMALL I,I,SMALL U,U,SMALL E,E,SMALL O,O,KA,GA,KI"⟩,
   ⟨0x304E, 1,
    "HIRAGANA LETTER ", "GI,KU,GU,KE,GE,KO,GO,SA,ZA,SI,ZI,SU,ZU,SE,ZE,SO,ZO,TA,DA,TI,DI"⟩,
   ⟨0x3063, 1,
    "HIRAGANA LETTER ", "SMALL TU,TU,DU,TE,DE,TO,DO,NA,NI,NU,NE,NO,HA,BA,PA,HI,BI,PI,HU"⟩,
   ⟨0x3076, 2, "HIRAGANA LETTER ", "BU,HE,PE,BO,MA,MU,MO,YA,YU,YO,RI,RE,SMALL WA,WI,WO,VU"⟩,
   ⟨0x3077, 2, "HIRAGANA LETTER ", "PU,BE,HO,PO,MI,ME,SMALL YA,SMALL YU,SMALL YO,RA,RU,RO,WA,WE,N"⟩,
   ⟨0x3095, 1, "HIRAGANA LETTER SMALL ", "KA,KE"⟩,
   ⟨0x3099, 1, "COMBINING KATAKANA-HIRAGANA ", "VOICED SOUND MARK,SEMI-VOICED SOUND MARK"⟩,
   ⟨0x309B, 1, "KATAKANA-HIRAGANA ", "VOICED SOUND MARK,SEMI-VOICED SOUND MARK"⟩,
   ⟨0x309D, 1, "HIRAGANA ", "ITERATION MARK,VOICED ITERATION MARK,DIGRAPH YORI"⟩,
   ⟨0x30A0, 1, "KATAKANA-HIRAGANA DOUBLE HYPHEN", ""⟩,
   ⟨0x30A1, 1, "KATAKANA LETTER ", "SMALL A,A,SMALL I,I,SMALL U,U,SMALL E"⟩,
   ⟨0x30A8, 1, "KATAKANA LETTER ", "E,SMALL O,O,KA,GA,KI,GI,KU,GU,KE,GE,KO,GO,SA,ZA,SI,ZI,SU"⟩,
   ⟨0x30BA, 2, "KATAKANA LETTER ", "ZU,ZE,ZO,DA,DI,TU,TE,TO,NA,NU,NO,BA,HI,PI,BU,HE,PE,BO,MA"⟩,
   ⟨0x30BB, 2,
    "KATAKANA LETTER ", "SE,SO,TA,TI,SMALL TU,DU,DE,DO,NI,NE,HA,PA,BI,HU,PU,BE,HO,PO,MI"⟩,
   ⟨0x30E0, 2, "KATAKANA LETTER ", "MU,MO,YA,YU,YO,RI,RE,SMALL WA,WI,WO,VU,SMALL KE,VI,VO"⟩,
   ⟨0x30E1, 2, "KATAKANA LETTER ", "ME,SMALL YA,SMALL YU,SMALL YO,RA,RU,RO,WA,WE,N,SMALL KA,VA,VE"⟩,
   ⟨0x30FB, 1, "", "KATAKANA MIDDLE DOT,KATAKANA-HIRAGANA PROLONGED SOUND MARK"⟩,
   ⟨0x30FD, 1, "KATAKANA ", "ITERATION MARK,VOICED ITERATION MARK,DIGRAPH KOTO"⟩,
   ⟨0x3105, 1, "BOPOMOFO LETTER ", "B,P,M,F,D,T,N,L,G,K,H,J,Q,X,ZH,CH,SH,R,Z,C,S,A,O,E,EH,AI,EI"⟩,
   ⟨0x3120, 1, "BOPOMOFO LETTER ", "AU,OU,AN,EN,ANG,ENG,ER,I,U,IU,V,NG,GN,IH,O WITH DOT ABOVE,NN"⟩,
   ⟨0x3131, 2, "HANGUL LETTER ", "KIYEOK,KIYEOK-SIOS,NIEUN-CIEUC,TIKEUT,RIEUL"⟩,
   ⟨0x3132, 2, "HANGUL LETTER ", "SSANGKIYEOK,NIEUN,NIEUN-HIEUH,SSANGTIKEUT"⟩,
   ⟨0x313A, 1, "HANGUL LETTER RIEUL-", "KIYEOK,MIEUM,PIEUP,SIOS,THIEUTH,PHIEUPH,HIEUH"⟩,
   ⟨0x3141, 1, "HANGUL LETTER ", "MIEUM,PIEUP,SSANGPIEUP,PIEUP-SIOS,SIOS,SSANGSIOS,IEUNG"⟩,
   ⟨0x3148, 2, "HANGUL LETTER ", "CIEUC,CHIEUCH,THIEUTH,HIEUH,AE,YAE,E,YE,WA,OE,U,WE,YU,YI"⟩,
   ⟨0x3149, 2, "HANGUL LETTER ", "SSANGCIEUC,KHIEUKH,PHIEUPH,A,YA,EO,YEO,O,WAE,YO,WEO,WI,EU,I"⟩,
   ⟨0x3164, 1, "HANGUL ", "FILLER,LETTER SSANGNIEUN"⟩,
   ⟨0x3166, 1, "HANGUL LETTER NIEUN-", "TIKEUT,SIOS,PANSIOS"⟩,
   ⟨0x3169, 1, "HANGUL LETTER RIEUL-", "KIYEOK-SIOS,TIKEUT,PIEUP-SIOS,PANSIOS,YEORINHIEUH"⟩,
   ⟨0x316E, 1, "HANGUL LETTER ", "MIEUM-PIEUP,MIEUM-SIOS,MIEUM-PANSIOS,KAPYEOUNMIEUM"⟩,
   ⟨0x3172, 1, "HANGUL LETTER PIEUP-", "KIYEOK,TIKEUT,SIOS-KIYEOK,SIOS-TIKEUT,CIEUC,THIEUTH"⟩,
   ⟨0x3178, 1, "HANGUL LETTER ", "KAPYEOUNPIEUP,KAPYEOUNSSANGPIEUP,SIOS-KIYEOK,SIOS-NIEUN"⟩,
   ⟨0x317C, 2, "HANGUL LETTER ", "SIOS-TIKEUT,SIOS-CIEUC,SSANGIEUNG,YESIEUNG-SIOS,KAPYEOUNPHIEUPH"⟩,
   ⟨0x317D, 2, "HANGUL LETTER ", "SIOS-PIEUP,PANSIOS,YESIEUNG,YESIEUNG-PANSIOS,SSANGHIEUH"⟩,
   ⟨0x3186, 1, "HANGUL LETTER ", "YEORINHIEUH,YO-YA,YO-YAE,YO-I,YU-YEO,YU-YE,YU-I,ARAEA,ARAEAE"⟩,
   ⟨0x3190, 2, "IDEOGRAPHIC ANNOTATION ", "LINKING MARK,ONE MARK,THREE MARK"⟩,
   ⟨0x3191, 2, "IDEOGRAPHIC ANNOTATION ", "REVERSE MARK,TWO MARK,FOUR MARK"⟩,
   ⟨0x3196, 2,
    "IDEOGRAPHIC ANNOTATION ", "TOP MARK,BOTTOM MARK,SECOND MARK,FOURTH MARK,EARTH MARK"⟩,
   ⟨0x3197, 2, "IDEOGRAPHIC ANNOTATION ", "MIDDLE MARK,FIRST MARK,THIRD MARK,HEAVEN MARK,MAN MARK"⟩,
   ⟨0x31A0, 2, "BOPOMOFO LETTER ", "BU,JI,EE,OO,IR,INN,IM,AINN,AM,ONG"⟩,
   ⟨0x31A1, 2, "BOPOMOFO LETTER ", "ZI,GU,ENN,ONN,ANN,UNN,NGG,AUNN,OM,INNN"⟩,
   ⟨0x31B4, 1, "BOPOMOFO FINAL LETTER ", "P,T,K,H"⟩,
   ⟨0x31B8, 2, "BOPOMOFO LETTER ", "GH,ZY,GW,OE"⟩,
   ⟨0x31B9, 2, "BOPOMOFO ", "LETTER LH,FINAL LETTER G,LETTER KW,LETTER AH"⟩,
   ⟨0x31C0, 2, "CJK STROKE ", "T,XG,SW,HZG,HZWG,HZT,HPWG,HZZZ,H,P,D,HG,SWZ,SG,PZ,SZZ,HXWG,PG"⟩,
   ⟨0x31C1, 2, "CJK STROKE ", "WG,BXG,HZZ,HP,SZWG,HZZP,HZW,N,S,SP,HZ,SZ,ST,PD,TN,SWG,HZZZG,Q"⟩,
   ⟨0x31F0, 1, "KATAKANA LETTER SMALL ", "KU,SI,SU,TO,NU,HA,HI,HU,HE,HO,MU,RA,RI,RU,RE,RO"⟩,
   ⟨0x3200, 1, "PARENTHESIZED HANGUL ", "KIYEOK,NIEUN,TIKEUT,RIEUL,MIEUM,PIEUP,SIOS,IEUNG,CIEUC"⟩,
   ⟨0x3209, 2, "PARENTHESIZED HANGUL ", "CHIEUCH,THIEUTH,HIEUH,NIEUN A,RIEUL A,PIEUP A,IEUNG A"⟩,
   ⟨0x320A, 2, "PARENTHESIZED HANGUL ", "KHIEUKH,PHIEUPH,KIYEOK A,TIKEUT A,MIEUM A,SIOS A,CIEUC A"⟩,
   ⟨0x3217, 1, "PARENTHESIZED HANGUL ", "CHIEUCH A,KHIEUKH A,THIEUTH A,PHIEUPH A,HIEUH A,CIEUC U"⟩,
   ⟨0x321D, 1, "PARENTHESIZED KOREAN CHARACTER ", "OJEON,O HU"⟩,
   ⟨0x3220, 1, "PARENTHESIZED IDEOGRAPH ", "ONE,TWO,THREE,FOUR,FIVE,SIX,SEVEN,EIGHT,NINE,TEN"⟩,
   ⟨0x322A, 2, "PARENTHESIZED IDEOGRAPH ", "MOON,WATER,METAL,SUN,HAVE,NAME,FINANCIAL"⟩,
   ⟨0x322B, 2, "PARENTHESIZED IDEOGRAPH ", "FIRE,WOOD,EARTH,STOCK,SOCIETY,SPECIAL,CONGRATULATION"⟩,
   ⟨0x3238, 2, "PARENTHESIZED IDEOGRAPH ", "LABOR,CALL,SUPERVISE,RESOURCE,FESTIVAL,SELF"⟩,
   ⟨0x3239, 2, "PARENTHESIZED IDEOGRAPH ", "REPRESENT,STUDY,ENTERPRISE,ALLIANCE,REST,REACH"⟩,
   ⟨0x3244, 1, "CIRCLED IDEOGRAPH ", "QUESTION,KINDERGARTEN,SCHOOL,KOTO"⟩,
   ⟨0x3248, 2, "CIRCLED NUMBER ", "TEN ON BLACK SQUARE,THIRTY ON BLACK SQUARE"⟩,
   ⟨0x3249, 2, "CIRCLED NUMBER ", "TWENTY ON BLACK SQUARE,FORTY ON BLACK SQUARE"⟩,
   ⟨0x324C, 2, "CIRCLED NUMBER ", "FIFTY ON BLACK SQUARE,SEVENTY ON BLACK SQUARE"⟩,
   ⟨0x324D, 2, "CIRCLED NUMBER ", "SIXTY ON BLACK SQUARE,EIGHTY ON BLACK SQUARE"⟩,
   ⟨0x3250, 1, "PARTNERSHIP SIGN", ""⟩,
   ⟨0x3251, 1, "CIRCLED NUMBER TWENTY ", "ONE,TWO,THREE,FOUR,FIVE,SIX,SEVEN,EIGHT,NINE"⟩,
   ⟨0x325A, 1, "CIRCLED NUMBER THIRTY", ""⟩,
   ⟨0x325B, 1, "CIRCLED NUMBER THIRTY ", "ONE,TWO,THREE,FOUR,FIVE"⟩,
   ⟨0x3260, 2, "CIRCLED HANGUL ", "KIYEOK,TIKEUT,MIEUM,SIOS,CIEUC,KHIEUKH,PHIEUPH"⟩,
   ⟨0x3261, 2, "CIRCLED HANGUL ", "NIEUN,RIEUL,PIEUP,IEUNG,CHIEUCH,THIEUTH,HIEUH"⟩,
   ⟨0x326E, 2, "CIRCLED HANGUL ", "KIYEOK A,TIKEUT A,MIEUM A,SIOS A,CIEUC A,KHIEUKH A,PHIEUPH A"⟩,
   ⟨0x326F, 2, "CIRCLED HANGUL ", "NIEUN A,RIEUL A,PIEUP A,IEUNG A,CHIEUCH A,THIEUTH A,HIEUH A"⟩,
   ⟨0x327C, 1, "CIRCLED KOREAN CHARACTER ", "CHAMKO,JUEUI"⟩,
   ⟨0x327E, 1, "", "CIRCLED HANGUL IEUNG U,KOREAN STANDARD SYMBOL"⟩,
   ⟨0x3280, 2, "CIRCLED IDEOGRAPH ", "ONE,THREE,FIVE,SEVEN,NINE,MOON,WATER,METAL,SUN,HAVE"⟩,
   ⟨0x3281, 2, "CIRCLED IDEOGRAPH ", "TWO,FOUR,SIX,EIGHT,TEN,FIRE,WOOD,EARTH,STOCK,SOCIETY"⟩,
   ⟨0x3294, 2, "CIRCLED IDEOGRAPH ", "NAME,FINANCIAL,LABOR,MALE,SUITABLE,PRINT"⟩,
   ⟨0x3295, 2, "CIRCLED IDEOGRAPH ", "SPECIAL,CONGRATULATION,SECRET,FEMALE,EXCELLENT,ATTENTION"⟩,
   ⟨0x32A0, 2, "CIRCLED IDEOGRAPH ", "ITEM,COPY,HIGH,LOW,RIGHT,RELIGION,SUPERVISE,RESOURCE,NIGHT"⟩,
   ⟨0x32A1, 2, "CIRCLED IDEOGRAPH ", "REST,CORRECT,CENTRE,LEFT,MEDICINE,STUDY,ENTERPRISE,ALLIANCE"⟩,
   ⟨0x32B1, 1, "CIRCLED NUMBER ", "THIRTY SIX,THIRTY SEVEN,THIRTY EIGHT,THIRTY NINE,FORTY"⟩,
   ⟨0x32B6, 1, "CIRCLED NUMBER FORTY ", "ONE,TWO,THREE,FOUR,FIVE,SIX,SEVEN,EIGHT,NINE"⟩,
   ⟨0x32BF, 1, "CIRCLED NUMBER FIFTY", ""⟩,
   ⟨0x32C0, 2, "IDEOGRAPHIC TELEGRAPH SYMBOL FOR ", "JANUARY,MARCH,MAY,JULY,SEPTEMBER,NOVEMBER"⟩,
   ⟨0x32C1, 2, "IDEOGRAPHIC TELEGRAPH SYMBOL FOR ", "FEBRUARY,APRIL,JUNE,AUGUST,OCTOBER,DECEMBER"⟩,
   ⟨0x32CC, 1, "", "SQUARE HG,SQUARE ERG,SQUARE EV,LIMITED LIABILITY SIGN"⟩,
   ⟨0x32D0, 1, "CIRCLED KATAKANA ", "A,I,U,E,O,KA,KI"⟩,
   ⟨0x32D7, 2, "CIRCLED KATAKANA ", "KU,KO,SI,SE,TA,TU,TO,NI,NE,HA,HU,HO,MI,ME,YA,YO,RI,RE,WA,WE"⟩,
   ⟨0x32D8, 2, "CIRCLED KATAKANA ", "KE,SA,SU,SO,TI,TE,NA,NU,NO,HI,HE,MA,MU,MO,YU,RA,RU,RO,WI,WO"⟩,
   ⟨0x32FF, 1, "SQUARE ", "ERA NAME REIWA,APAATO,ARUHUA,ANPEA,AARU,ININGU,INTI,UON,ESUKUUDO"⟩,
   ⟨0x3308, 2, "SQUARE ", "EEKAA,OOMU,KARATTO,GARON,GIGA,KYURII,KIRO,KIROMEETORU,GURAMU,KURUZEIRO"⟩,
   ⟨0x3309, 2, "SQUARE ", "ONSU,KAIRI,KARORII,GANMA,GINII,GIRUDAA,KIROGURAMU,KIROWATTO,GURAMUTON"⟩,
   ⟨0x331B, 2, "SQUARE ", "KUROONE,KORUNA,SAIKURU,SIRINGU,SENTO,DESI,TON,NOTTO,PAASENTO,BAARERU"⟩,
   ⟨0x331C, 2, "SQUARE ", "KEESU,KOOPO,SANTIIMU,SENTI,DAASU,DORU,NANO,HAITU,PAATU,PIASUTORU"⟩,
   ⟨0x332F, 2, "SQUARE ", "PIKURU,BIRU,HUIITO,HURAN,PESO,HERUTU,PEEZI,POINTO,HON,HOORU"⟩,
   ⟨0x3330, 2, "SQUARE ", "PIKO,HUARADDO,BUSSYERU,HEKUTAARU,PENIHI,PENSU,BEETA,BORUTO,PONDO,HOON"⟩,
   ⟨0x3343, 2, "SQUARE ", "MAIKURO,MAHHA,MANSYON,MIRI,MEGA,MEETORU,YAARU,RITTORU,RUPII,REMU,WATTO"⟩,
   ⟨0x3344, 2,
    "SQUARE ", "MAIRU,MARUKU,MIKURON,MIRIBAARU,MEGATON,YAADO,YUAN,RIRA,RUUBURU,RENTOGEN"⟩,
   ⟨0x3358, 2, "IDEOGRAPHIC TELEGRAPH SYMBOL FOR HOUR ", "ZERO,TWO,FOUR,SIX,EIGHT,TEN"⟩,
   ⟨0x3359, 2, "IDEOGRAPHIC TELEGRAPH SYMBOL FOR HOUR ", "ONE,THREE,FIVE,SEVEN,NINE,ELEVEN"⟩,
   ⟨0x3364, 2, "IDEOGRAPHIC TELEGRAPH SYMBOL FOR HOUR ", "TWELVE,FOURTEEN,SIXTEEN,EIGHTEEN,TWENTY"⟩,
   ⟨0x3365, 2, "IDEOGRAPHIC TELEGRAPH SYMBOL FOR HOUR ", "THIRTEEN,FIFTEEN,SEVENTEEN,NINETEEN"⟩,
   ⟨0x336D, 1, "IDEOGRAPHIC TELEGRAPH SYMBOL FOR HOUR TWENTY-", "ONE,TWO,THREE,FOUR"⟩,
   ⟨0x3371, 2, "SQUARE ", "HPA,AU,OV,DM,DM CUBED,ERA NAME HEISEI,ERA NAME TAISYOU,CORPORATION,NA"⟩,
   ⟨0x3372, 2, "SQUARE ", "DA,BAR,PC,DM SQUARED,IU,ERA NAME SYOUWA,ERA NAME MEIZI,PA AMPS"⟩,
   ⟨0x3382, 1, "SQUARE ", "MU A,MA,KA,KB,MB,GB,CAL,KCAL,PF,NF,MU F,MU G,MG,KG,HZ,KHZ,MHZ,GHZ,THZ"⟩,
   ⟨0x3395, 2, "SQUARE ", "MU L,DL,FM,MU M,CM,MM SQUARED,M SQUARED,MM CUBED,M CUBED,M OVER S"⟩,
   ⟨0x3396, 2,
    "SQUARE ", "ML,KL,NM,MM,KM,CM SQUARED,KM SQUARED,CM CUBED,KM CUBED,M OVER S SQUARED"⟩,
   ⟨0x33A9, 2, "SQUARE ", "PA,MPA,RAD,RAD OVER S SQUARED,NS,MS,NV,MV,MV MEGA,NW,MW,MW MEGA,M OHM"⟩,
   ⟨0x33AA, 2, "SQUARE ", "KPA,GPA,RAD OVER S,PS,MU S,PV,MU V,KV,PW,MU W,KW,K OHM,AM"⟩,
   ⟨0x33C3, 2, "SQUARE ", "BQ,CD,CO,GY,HP,KK,KT,LN,LX,MIL,PH,PPM,SR,WB,A OVER M"⟩,
   ⟨0x33C4, 2, "SQUARE ", "CC,C OVER KG,DB,HA,IN,KM CAPITAL,LM,LOG,MB SMALL,MOL,PM,PR,SV,V OVER M"⟩,
   ⟨0x33E0, 2,
    "IDEOGRAPHIC TELEGRAPH SYMBOL FOR DAY ", "ONE,THREE,FIVE,SEVEN,NINE,ELEVEN,THIRTEEN"⟩,
   ⟨0x33E1, 2, "IDEOGRAPHIC TELEGRAPH SYMBOL FOR DAY ", "TWO,FOUR,SIX,EIGHT,TEN,TWELVE,FOURTEEN"⟩,
   ⟨0x33EE, 2, "IDEOGRAPHIC TELEGRAPH SYMBOL FOR DAY ", "FIFTEEN,SEVENTEEN,NINETEEN,TWENTY-ONE"⟩,
   ⟨0x33EF, 2, "IDEOGRAPHIC TELEGRAPH SYMBOL FOR DAY ", "SIXTEEN,EIGHTEEN,TWENTY,TWENTY-TWO"⟩,
   ⟨0x33F6, 1, "IDEOGRAPHIC TELEGRAPH SYMBOL FOR DAY TWENTY-", "THREE,FOUR,FIVE,SIX,SEVEN,EIGHT"⟩,
   ⟨0x33FC, 1, "IDEOGRAPHIC TELEGRAPH SYMBOL FOR DAY ", "TWENTY-NINE,THIRTY,THIRTY-ONE"⟩,
   ⟨0x33FF, 1, "SQUARE GAL", ""⟩,
   ⟨0x4DC0, 1, "HEXAGRAM FOR THE ", "CREATIVE HEAVEN,RECEPTIVE EARTH"⟩,
   ⟨0x4DC2, 1, "HEXAGRAM FOR ", "DIFFICULTY AT THE BEGINNING,YOUTHFUL FOLLY,WAITING,CONFLICT"⟩,
   ⟨0x4DC6, 2, "HEXAGRAM FOR ", "THE ARMY,SMALL TAMING,PEACE,FELLOWSHIP,MODESTY,FOLLOWING"⟩,
   ⟨0x4DC7, 2, "HEXAGRAM FOR ", "HOLDING TOGETHER,TREADING,STANDSTILL,GREAT POSSESSION,ENTHUSIASM"⟩,
   ⟨0x4DD1, 2, "HEXAGRAM FOR ", "WORK ON THE DECAYED,CONTEMPLATION,GRACE,RETURN,GREAT TAMING"⟩,
   ⟨0x4DD2, 2, "HEXAGRAM FOR ", "APPROACH,BITING THROUGH,SPLITTING APART,INNOCENCE,MOUTH CORNERS"⟩,
   ⟨0x4DDB, 1,
    "HEXAGRAM FOR ", "GREAT PREPONDERANCE,THE ABYSMAL WATER,THE CLINGING FIRE,INFLUENCE"⟩,
   ⟨0x4DDF, 1, "HEXAGRAM FOR ", "DURATION,RETREAT,GREAT POWER,PROGRESS,DARKENING OF THE LIGHT"⟩,
   ⟨0x4DE4, 2, "HEXAGRAM FOR ", "THE FAMILY,OBSTRUCTION,DECREASE,BREAKTHROUGH,GATHERING TOGETHER"⟩,
   ⟨0x4DE5, 2, "HEXAGRAM FOR ", "OPPOSITION,DELIVERANCE,INCREASE,COMING TO MEET,PUSHING UPWARD"⟩,
   ⟨0x4DEE, 2, "HEXAGRAM FOR ", "OPPRESSION,REVOLUTION,THE AROUSING THUNDER,DEVELOPMENT,ABUNDANCE"⟩,
   ⟨0x4DEF, 2,
    "HEXAGRAM FOR THE ", "WELL,CAULDRON,KEEPING STILL MOUNTAIN,MARRYING MAIDEN,WANDERER"⟩,
   ⟨0x4DF8, 2, "HEXAGRAM FOR ", "THE GENTLE WIND,DISPERSION,INNER TRUTH,AFTER COMPLETION"⟩,
   ⟨0x4DF9, 2, "HEXAGRAM FOR ", "THE JOYOUS LAKE,LIMITATION,SMALL PREPONDERANCE,BEFORE COMPLETION"⟩]

end RegexSubst.Unicode
