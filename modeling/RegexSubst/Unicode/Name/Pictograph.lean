import RegexSubst.Unicode.Name.Run

/-!
# `RegexSubst.Unicode.Name.Pictograph`: names of U+1F000 and above

Game pieces, enclosed letters, emoji, tags.
-/

set_option autoImplicit false

namespace RegexSubst.Unicode

/-- The names of U+1F000 and above. -/
def pictographNames : List NameRun :=
  [⟨0x1F000, 2, "MAHJONG TILE ", "EAST WIND,WEST WIND,RED DRAGON,WHITE DRAGON,TWO OF CHARACTERS"⟩,
   ⟨0x1F001, 2, "MAHJONG TILE ", "SOUTH WIND,NORTH WIND,GREEN DRAGON,ONE OF CHARACTERS"⟩,
   ⟨0x1F009, 2, "MAHJONG TILE ", "THREE OF CHARACTERS,FIVE OF CHARACTERS,SEVEN OF CHARACTERS"⟩,
   ⟨0x1F00A, 2, "MAHJONG TILE ", "FOUR OF CHARACTERS,SIX OF CHARACTERS,EIGHT OF CHARACTERS"⟩,
   ⟨0x1F00F, 2,
    "MAHJONG TILE ", "NINE OF CHARACTERS,TWO OF BAMBOOS,FOUR OF BAMBOOS,SIX OF BAMBOOS"⟩,
   ⟨0x1F010, 2,
    "MAHJONG TILE ", "ONE OF BAMBOOS,THREE OF BAMBOOS,FIVE OF BAMBOOS,SEVEN OF BAMBOOS"⟩,
   ⟨0x1F017, 2,
    "MAHJONG TILE ", "EIGHT OF BAMBOOS,ONE OF CIRCLES,THREE OF CIRCLES,FIVE OF CIRCLES"⟩,
   ⟨0x1F018, 2, "MAHJONG TILE ", "NINE OF BAMBOOS,TWO OF CIRCLES,FOUR OF CIRCLES,SIX OF CIRCLES"⟩,
   ⟨0x1F01F, 1, "MAHJONG TILE ", "SEVEN OF CIRCLES,EIGHT OF CIRCLES,NINE OF CIRCLES,PLUM,ORCHID"⟩,
   ⟨0x1F024, 1, "MAHJONG TILE ", "BAMBOO,CHRYSANTHEMUM,SPRING,SUMMER,AUTUMN,WINTER,JOKER,BACK"⟩,
   ⟨0x1F030, 1, "DOMINO TILE HORIZONTAL BACK", ""⟩,
   ⟨0x1F031, 1, "DOMINO TILE HORIZONTAL-00-", "00,01,02,03,04,05,06"⟩,
   ⟨0x1F038, 1, "DOMINO TILE HORIZONTAL-01-", "00,01,02,03,04,05,06"⟩,
   ⟨0x1F03F, 1, "DOMINO TILE HORIZONTAL-02-", "00,01,02,03,04,05,06"⟩,
   ⟨0x1F046, 1, "DOMINO TILE HORIZONTAL-03-", "00,01,02,03,04,05,06"⟩,
   ⟨0x1F04D, 1, "DOMINO TILE HORIZONTAL-04-", "00,01,02,03,04,05,06"⟩,
   ⟨0x1F054, 1, "DOMINO TILE HORIZONTAL-05-", "00,01,02,03,04,05,06"⟩,
   ⟨0x1F05B, 1, "DOMINO TILE HORIZONTAL-06-", "00,01,02,03,04,05,06"⟩,
   ⟨0x1F062, 1, "DOMINO TILE VERTICAL BACK", ""⟩,
   ⟨0x1F063, 1, "DOMINO TILE VERTICAL-00-", "00,01,02,03,04,05,06"⟩,
   ⟨0x1F06A, 1, "DOMINO TILE VERTICAL-01-", "00,01,02,03,04,05,06"⟩,
   ⟨0x1F071, 1, "DOMINO TILE VERTICAL-02-", "00,01,02,03,04,05,06"⟩,
   ⟨0x1F078, 1, "DOMINO TILE VERTICAL-03-", "00,01,02,03,04,05,06"⟩,
   ⟨0x1F07F, 1, "DOMINO TILE VERTICAL-04-", "00,01,02,03,04,05,06"⟩,
   ⟨0x1F086, 1, "DOMINO TILE VERTICAL-05-", "00,01,02,03,04,05,06"⟩,
   ⟨0x1F08D, 1, "DOMINO TILE VERTICAL-06-", "00,01,02,03,04,05,06"⟩,
   ⟨0x1F0A0, 2, "PLAYING CARD ", "BACK,TWO OF SPADES,FOUR OF SPADES,SIX OF SPADES"⟩,
   ⟨0x1F0A1, 2, "PLAYING CARD ", "ACE OF SPADES,THREE OF SPADES,FIVE OF SPADES"⟩,
   ⟨0x1F0A7, 2, "PLAYING CARD ", "SEVEN OF SPADES,NINE OF SPADES,JACK OF SPADES,QUEEN OF SPADES"⟩,
   ⟨0x1F0A8, 2, "PLAYING CARD ", "EIGHT OF SPADES,TEN OF SPADES,KNIGHT OF SPADES,KING OF SPADES"⟩,
   ⟨0x1F0B1, 2, "PLAYING CARD ", "ACE OF HEARTS,THREE OF HEARTS,FIVE OF HEARTS,SEVEN OF HEARTS"⟩,
   ⟨0x1F0B2, 2, "PLAYING CARD ", "TWO OF HEARTS,FOUR OF HEARTS,SIX OF HEARTS"⟩,
   ⟨0x1F0B8, 2, "PLAYING CARD ", "EIGHT OF HEARTS,TEN OF HEARTS,KNIGHT OF HEARTS,KING OF HEARTS"⟩,
   ⟨0x1F0B9, 2, "PLAYING CARD ", "NINE OF HEARTS,JACK OF HEARTS,QUEEN OF HEARTS,RED JOKER"⟩,
   ⟨0x1F0C1, 1, "PLAYING CARD ", "ACE OF DIAMONDS,TWO OF DIAMONDS"⟩,
   ⟨0x1F0C3, 2, "PLAYING CARD ", "THREE OF DIAMONDS,FIVE OF DIAMONDS,SEVEN OF DIAMONDS"⟩,
   ⟨0x1F0C4, 2, "PLAYING CARD ", "FOUR OF DIAMONDS,SIX OF DIAMONDS,EIGHT OF DIAMONDS"⟩,
   ⟨0x1F0C9, 2, "PLAYING CARD ", "NINE OF DIAMONDS,JACK OF DIAMONDS,QUEEN OF DIAMONDS,BLACK JOKER"⟩,
   ⟨0x1F0CA, 2, "PLAYING CARD ", "TEN OF DIAMONDS,KNIGHT OF DIAMONDS,KING OF DIAMONDS"⟩,
   ⟨0x1F0D1, 2, "PLAYING CARD ", "ACE OF CLUBS,THREE OF CLUBS,FIVE OF CLUBS,SEVEN OF CLUBS"⟩,
   ⟨0x1F0D2, 2, "PLAYING CARD ", "TWO OF CLUBS,FOUR OF CLUBS,SIX OF CLUBS"⟩,
   ⟨0x1F0D8, 2, "PLAYING CARD ", "EIGHT OF CLUBS,TEN OF CLUBS,KNIGHT OF CLUBS,KING OF CLUBS,FOOL"⟩,
   ⟨0x1F0D9, 2, "PLAYING CARD ", "NINE OF CLUBS,JACK OF CLUBS,QUEEN OF CLUBS,WHITE JOKER"⟩,
   ⟨0x1F0E1, 1, "PLAYING CARD TRUMP-", "1,2,3,4,5,6,7,8,9,10,11,12,13,14,15,16,17,18,19,20,21"⟩,
   ⟨0x1F100, 2, "DIGIT ", "ZERO FULL STOP,ONE COMMA,THREE COMMA,FIVE COMMA,SEVEN COMMA,NINE COMMA"⟩,
   ⟨0x1F101, 2, "DIGIT ", "ZERO COMMA,TWO COMMA,FOUR COMMA,SIX COMMA,EIGHT COMMA"⟩,
   ⟨0x1F10B, 1, "DINGBAT ", "CIRCLED SANS-SERIF DIGIT ZERO,NEGATIVE CIRCLED SANS-SERIF DIGIT ZERO"⟩,
   ⟨0x1F10D, 1, "CIRCLED ZERO WITH SLASH", ""⟩,
   ⟨0x1F10E, 1, "CIRCLED ", "ANTICLOCKWISE ARROW,DOLLAR SIGN WITH OVERLAID BACKSLASH"⟩,
   ⟨0x1F110, 2, "PARENTHESIZED LATIN CAPITAL LETTER ", "A,C,E,G,I,K,M,O,Q,S,U,W,Y"⟩,
   ⟨0x1F111, 2, "PARENTHESIZED LATIN CAPITAL LETTER ", "B,D,F,H,J,L,N,P,R,T,V,X,Z"⟩,
   ⟨0x1F12A, 1, "TORTOISE SHELL BRACKETED LATIN CAPITAL LETTER S", ""⟩,
   ⟨0x1F12B, 1, "CIRCLED ITALIC LATIN CAPITAL LETTER ", "C,R"⟩,
   ⟨0x1F12D, 1, "", "CIRCLED CD,CIRCLED WZ,COPYLEFT SYMBOL"⟩,
   ⟨0x1F130, 1, "SQUARED LATIN CAPITAL LETTER ", "A,B,C,D,E,F,G,H,I,J,K,L,M,N,O,P,Q,R,S,T,U,V,W,X"⟩,
   ⟨0x1F148, 1, "SQUARED ", "LATIN CAPITAL LETTER Y,LATIN CAPITAL LETTER Z,HV,MV,SD,SS,PPV,WC"⟩,
   ⟨0x1F150, 2, "NEGATIVE CIRCLED LATIN CAPITAL LETTER ", "A,C,E,G,I,K,M,O,Q,S,U,W,Y"⟩,
   ⟨0x1F151, 2, "NEGATIVE CIRCLED LATIN CAPITAL LETTER ", "B,D,F,H,J,L,N,P,R,T,V,X,Z"⟩,
   ⟨0x1F16A, 1, "RAISED ", "MC SIGN,MD SIGN,MR SIGN"⟩,
   ⟨0x1F16D, 1, "CIRCLED ", "CC,C WITH OVERLAID BACKSLASH,HUMAN FIGURE"⟩,
   ⟨0x1F170, 2, "NEGATIVE SQUARED LATIN CAPITAL LETTER ", "A,C,E,G,I,K,M,O,Q,S,U,W,Y"⟩,
   ⟨0x1F171, 2, "NEGATIVE SQUARED LATIN CAPITAL LETTER ", "B,D,F,H,J,L,N,P,R,T,V,X,Z"⟩,
   ⟨0x1F18A, 1, "CROSSED NEGATIVE SQUARED LATIN CAPITAL LETTER P", ""⟩,
   ⟨0x1F18B, 1, "NEGATIVE SQUARED ", "IC,PA,SA,AB,WC"⟩,
   ⟨0x1F190, 1, "SQUARE DJ", ""⟩,
   ⟨0x1F191, 2, "SQUARED ", "CL,FREE,NEW,OK,UP WITH EXCLAMATION MARK,THREE D,TWO K,EIGHT K"⟩,
   ⟨0x1F192, 2, "SQUARED ", "COOL,ID,NG,SOS,VS,SECOND SCREEN,FOUR K,FIVE POINT ONE"⟩,
   ⟨0x1F1A1, 2, "SQUARED ", "SEVEN POINT ONE,SIXTY P,LATIN SMALL LETTER D,HDR,LOSSLESS,UHD"⟩,
   ⟨0x1F1A2, 2, "SQUARED ", "TWENTY-TWO POINT TWO,ONE HUNDRED TWENTY P,HC,HI-RES,SHV,VOD"⟩,
   ⟨0x1F1AD, 1, "MASK WORK SYMBOL", ""⟩,
   ⟨0x1F1E6, 2, "REGIONAL INDICATOR SYMBOL LETTER ", "A,C,E,G,I,K,M,O,Q,S,U,W,Y"⟩,
   ⟨0x1F1E7, 2, "REGIONAL INDICATOR SYMBOL LETTER ", "B,D,F,H,J,L,N,P,R,T,V,X,Z"⟩,
   ⟨0x1F200, 1, "", "SQUARE HIRAGANA HOKA,SQUARED KATAKANA KOKO,SQUARED KATAKANA SA"⟩,
   ⟨0x1F210, 1, "SQUARED CJK UNIFIED IDEOGRAPH-", "624B,5B57,53CC"⟩,
   ⟨0x1F213, 1, "SQUARED KATAKANA DE", ""⟩,
   ⟨0x1F214, 1, "SQUARED CJK UNIFIED IDEOGRAPH-", "4E8C,591A,89E3,5929"⟩,
   ⟨0x1F218, 2, "SQUARED CJK UNIFIED IDEOGRAPH-", "4EA4,7121,524D,518D,521D,751F,58F0,6F14,6355"⟩,
   ⟨0x1F219, 2, "SQUARED CJK UNIFIED IDEOGRAPH-", "6620,6599,5F8C,65B0,7D42,8CA9,5439,6295,4E00"⟩,
   ⟨0x1F22A, 2, "SQUARED CJK UNIFIED IDEOGRAPH-", "4E09,5DE6,53F3,8D70,7981,5408,6709,7533,55B6"⟩,
   ⟨0x1F22B, 2, "SQUARED CJK UNIFIED IDEOGRAPH-", "904A,4E2D,6307,6253,7A7A,6E80,6708,5272,914D"⟩,
   ⟨0x1F240, 2, "TORTOISE SHELL BRACKETED CJK UNIFIED IDEOGRAPH-", "672C,4E8C,70B9,76D7,6557"⟩,
   ⟨0x1F241, 2, "TORTOISE SHELL BRACKETED CJK UNIFIED IDEOGRAPH-", "4E09,5B89,6253,52DD"⟩,
   ⟨0x1F250, 1, "CIRCLED IDEOGRAPH ", "ADVANTAGE,ACCEPT"⟩,
   ⟨0x1F260, 1, "ROUNDED SYMBOL FOR ", "FU,LU,SHOU,XI,SHUANGXI,CAI"⟩,
   ⟨0x1F300, 1, "", "CYCLONE,FOGGY,CLOSED UMBRELLA"⟩,
   ⟨0x1F303, 1, "", "NIGHT WITH STARS,SUNRISE OVER MOUNTAINS,SUNRISE,CITYSCAPE AT DUSK"⟩,
   ⟨0x1F307, 1, "", "SUNSET OVER BUILDINGS,RAINBOW,BRIDGE AT NIGHT,WATER WAVE,VOLCANO,MILKY WAY"⟩,
   ⟨0x1F30D, 1, "EARTH GLOBE ", "EUROPE-AFRICA,AMERICAS,ASIA-AUSTRALIA"⟩,
   ⟨0x1F310, 1, "", "GLOBE WITH MERIDIANS,NEW MOON SYMBOL,WAXING CRESCENT MOON SYMBOL"⟩,
   ⟨0x1F313, 1, "", "FIRST QUARTER MOON SYMBOL,WAXING GIBBOUS MOON SYMBOL"⟩,
   ⟨0x1F315, 1, "", "FULL MOON SYMBOL,WANING GIBBOUS MOON SYMBOL,LAST QUARTER MOON SYMBOL"⟩,
   ⟨0x1F318, 1, "", "WANING CRESCENT MOON SYMBOL,CRESCENT MOON,NEW MOON WITH FACE"⟩,
   ⟨0x1F31B, 1, "", "FIRST QUARTER MOON WITH FACE,LAST QUARTER MOON WITH FACE,FULL MOON WITH FACE"⟩,
   ⟨0x1F31E, 1, "", "SUN WITH FACE,GLOWING STAR,SHOOTING STAR,THERMOMETER,BLACK DROPLET,WHITE SUN"⟩,
   ⟨0x1F324, 1, "WHITE SUN ", "WITH SMALL CLOUD,BEHIND CLOUD,BEHIND CLOUD WITH RAIN"⟩,
   ⟨0x1F327, 1, "CLOUD WITH ", "RAIN,SNOW,LIGHTNING,TORNADO"⟩,
   ⟨0x1F32B, 1, "", "FOG,WIND BLOWING FACE,HOT DOG,TACO,BURRITO,CHESTNUT,SEEDLING,EVERGREEN TREE"⟩,
   ⟨0x1F333, 1,
    "", "DECIDUOUS TREE,PALM TREE,CACTUS,HOT PEPPER,TULIP,CHERRY BLOSSOM,ROSE,HIBISCUS"⟩,
   ⟨0x1F33B, 1, "", "SUNFLOWER,BLOSSOM,EAR OF MAIZE,EAR OF RICE,HERB,FOUR LEAF CLOVER,MAPLE LEAF"⟩,
   ⟨0x1F342, 1, "", "FALLEN LEAF,LEAF FLUTTERING IN WIND,MUSHROOM,TOMATO,AUBERGINE,GRAPES"⟩,
   ⟨0x1F348, 1, "", "MELON,WATERMELON,TANGERINE,LEMON,BANANA,PINEAPPLE,RED APPLE,GREEN APPLE,PEAR"⟩,
   ⟨0x1F351, 1, "", "PEACH,CHERRIES,STRAWBERRY,HAMBURGER,SLICE OF PIZZA,MEAT ON BONE,POULTRY LEG"⟩,
   ⟨0x1F358, 1, "", "RICE CRACKER,RICE BALL,COOKED RICE,CURRY AND RICE,STEAMING BOWL,SPAGHETTI"⟩,
   ⟨0x1F35E, 1, "", "BREAD,FRENCH FRIES,ROASTED SWEET POTATO,DANGO,ODEN,SUSHI,FRIED SHRIMP"⟩,
   ⟨0x1F365, 1, "", "FISH CAKE WITH SWIRL DESIGN,SOFT ICE CREAM,SHAVED ICE,ICE CREAM,DOUGHNUT"⟩,
   ⟨0x1F36A, 1, "", "COOKIE,CHOCOLATE BAR,CANDY,LOLLIPOP,CUSTARD,HONEY POT,SHORTCAKE,BENTO BOX"⟩,
   ⟨0x1F372, 1, "", "POT OF FOOD,COOKING,FORK AND KNIFE,TEACUP WITHOUT HANDLE,SAKE BOTTLE AND CUP"⟩,
   ⟨0x1F377, 1, "", "WINE GLASS,COCKTAIL GLASS,TROPICAL DRINK,BEER MUG,CLINKING BEER MUGS"⟩,
   ⟨0x1F37C, 1, "", "BABY BOTTLE,FORK AND KNIFE WITH PLATE,BOTTLE WITH POPPING CORK"⟩,
   ⟨0x1F37F, 1, "", "POPCORN,RIBBON,WRAPPED PRESENT,BIRTHDAY CAKE,JACK-O-LANTERN,CHRISTMAS TREE"⟩,
   ⟨0x1F385, 1, "", "FATHER CHRISTMAS,FIREWORKS,FIREWORK SPARKLER,BALLOON,PARTY POPPER"⟩,
   ⟨0x1F38A, 1, "", "CONFETTI BALL,TANABATA TREE,CROSSED FLAGS,PINE DECORATION,JAPANESE DOLLS"⟩,
   ⟨0x1F38F, 1, "", "CARP STREAMER,WIND CHIME,MOON VIEWING CEREMONY,SCHOOL SATCHEL,GRADUATION CAP"⟩,
   ⟨0x1F394, 1, "", "HEART WITH TIP ON THE LEFT,BOUQUET OF FLOWERS,MILITARY MEDAL,REMINDER RIBBON"⟩,
   ⟨0x1F398, 1, "", "MUSICAL KEYBOARD WITH JACKS,STUDIO MICROPHONE,LEVEL SLIDER,CONTROL KNOBS"⟩,
   ⟨0x1F39C, 1, "BEAMED ", "ASCENDING MUSICAL NOTES,DESCENDING MUSICAL NOTES"⟩,
   ⟨0x1F39E, 1, "", "FILM FRAMES,ADMISSION TICKETS,CAROUSEL HORSE,FERRIS WHEEL,ROLLER COASTER"⟩,
   ⟨0x1F3A3, 1,
    "", "FISHING POLE AND FISH,MICROPHONE,MOVIE CAMERA,CINEMA,HEADPHONE,ARTIST PALETTE"⟩,
   ⟨0x1F3A9, 1, "", "TOP HAT,CIRCUS TENT,TICKET,CLAPPER BOARD,PERFORMING ARTS,VIDEO GAME"⟩,
   ⟨0x1F3AF, 1, "", "DIRECT HIT,SLOT MACHINE,BILLIARDS,GAME DIE,BOWLING,FLOWER PLAYING CARDS"⟩,
   ⟨0x1F3B5, 1, "", "MUSICAL NOTE,MULTIPLE MUSICAL NOTES,SAXOPHONE,GUITAR,MUSICAL KEYBOARD"⟩,
   ⟨0x1F3BA, 1, "", "TRUMPET,VIOLIN,MUSICAL SCORE,RUNNING SHIRT WITH SASH,TENNIS RACQUET AND BALL"⟩,
   ⟨0x1F3BF, 1,
    "", "SKI AND SKI BOOT,BASKETBALL AND HOOP,CHEQUERED FLAG,SNOWBOARDER,RUNNER,SURFER"⟩,
   ⟨0x1F3C5, 1, "", "SPORTS MEDAL,TROPHY,HORSE RACING,AMERICAN FOOTBALL,RUGBY FOOTBALL,SWIMMER"⟩,
   ⟨0x1F3CB, 1, "", "WEIGHT LIFTER,GOLFER,RACING MOTORCYCLE,RACING CAR,CRICKET BAT AND BALL"⟩,
   ⟨0x1F3D0, 1, "", "VOLLEYBALL,FIELD HOCKEY STICK AND BALL,ICE HOCKEY STICK AND PUCK"⟩,
   ⟨0x1F3D3, 1,
    "", "TABLE TENNIS PADDLE AND BALL,SNOW CAPPED MOUNTAIN,CAMPING,BEACH WITH UMBRELLA"⟩,
   ⟨0x1F3D7, 1, "", "BUILDING CONSTRUCTION,HOUSE BUILDINGS,CITYSCAPE,DERELICT HOUSE BUILDING"⟩,
   ⟨0x1F3DB, 1, "", "CLASSICAL BUILDING,DESERT,DESERT ISLAND,NATIONAL PARK,STADIUM"⟩,
   ⟨0x1F3E0, 1, "HOUSE ", "BUILDING,WITH GARDEN"⟩,
   ⟨0x1F3E2, 1, "", "OFFICE BUILDING,JAPANESE POST OFFICE,EUROPEAN POST OFFICE,HOSPITAL"⟩,
   ⟨0x1F3E6, 1, "", "BANK,AUTOMATED TELLER MACHINE,HOTEL,LOVE HOTEL,CONVENIENCE STORE,SCHOOL"⟩,
   ⟨0x1F3EC, 1, "", "DEPARTMENT STORE,FACTORY,IZAKAYA LANTERN,JAPANESE CASTLE,EUROPEAN CASTLE"⟩,
   ⟨0x1F3F1, 1, "", "WHITE PENNANT,BLACK PENNANT,WAVING WHITE FLAG,WAVING BLACK FLAG,ROSETTE"⟩,
   ⟨0x1F3F6, 1, "", "BLACK ROSETTE,LABEL,BADMINTON RACQUET AND SHUTTLECOCK,BOW AND ARROW,AMPHORA"⟩,
   ⟨0x1F3FB, 1, "EMOJI MODIFIER FITZPATRICK TYPE-", "1-2,3,4,5,6"⟩,
   ⟨0x1F400, 1, "", "RAT,MOUSE,OX,WATER BUFFALO,COW,TIGER,LEOPARD,RABBIT,CAT,DRAGON,CROCODILE"⟩,
   ⟨0x1F40B, 1, "", "WHALE,SNAIL,SNAKE,HORSE,RAM,GOAT,SHEEP,MONKEY,ROOSTER,CHICKEN,DOG,PIG,BOAR"⟩,
   ⟨0x1F418, 1,
    "", "ELEPHANT,OCTOPUS,SPIRAL SHELL,BUG,ANT,HONEYBEE,LADY BEETLE,FISH,TROPICAL FISH"⟩,
   ⟨0x1F421, 1, "", "BLOWFISH,TURTLE,HATCHING CHICK,BABY CHICK,FRONT-FACING BABY CHICK"⟩,
   ⟨0x1F426, 1, "", "BIRD,PENGUIN,KOALA,POODLE,DROMEDARY CAMEL,BACTRIAN CAMEL,DOLPHIN,MOUSE FACE"⟩,
   ⟨0x1F42E, 1, "", "COW FACE,TIGER FACE,RABBIT FACE,CAT FACE,DRAGON FACE,SPOUTING WHALE"⟩,
   ⟨0x1F434, 1, "", "HORSE FACE,MONKEY FACE,DOG FACE,PIG FACE,FROG FACE,HAMSTER FACE,WOLF FACE"⟩,
   ⟨0x1F43B, 1, "", "BEAR FACE,PANDA FACE,PIG NOSE,PAW PRINTS,CHIPMUNK,EYES,EYE,EAR,NOSE,MOUTH"⟩,
   ⟨0x1F445, 1, "", "TONGUE,WHITE UP POINTING BACKHAND INDEX,WHITE DOWN POINTING BACKHAND INDEX"⟩,
   ⟨0x1F448, 1, "WHITE ", "LEFT POINTING BACKHAND INDEX,RIGHT POINTING BACKHAND INDEX"⟩,
   ⟨0x1F44A, 1, "", "FISTED HAND SIGN,WAVING HAND SIGN,OK HAND SIGN"⟩,
   ⟨0x1F44D, 1, "", "THUMBS UP SIGN,THUMBS DOWN SIGN,CLAPPING HANDS SIGN,OPEN HANDS SIGN"⟩,
   ⟨0x1F451, 1, "", "CROWN,WOMANS HAT,EYEGLASSES,NECKTIE,T-SHIRT,JEANS,DRESS,KIMONO,BIKINI"⟩,
   ⟨0x1F45A, 1, "", "WOMANS CLOTHES,PURSE,HANDBAG,POUCH,MANS SHOE,ATHLETIC SHOE,HIGH-HEELED SHOE"⟩,
   ⟨0x1F461, 1, "", "WOMANS SANDAL,WOMANS BOOTS,FOOTPRINTS,BUST IN SILHOUETTE,BUSTS IN SILHOUETTE"⟩,
   ⟨0x1F466, 1, "", "BOY,GIRL,MAN,WOMAN,FAMILY,MAN AND WOMAN HOLDING HANDS,TWO MEN HOLDING HANDS"⟩,
   ⟨0x1F46D, 1, "", "TWO WOMEN HOLDING HANDS,POLICE OFFICER,WOMAN WITH BUNNY EARS"⟩,
   ⟨0x1F470, 1, "", "BRIDE WITH VEIL,PERSON WITH BLOND HAIR,MAN WITH GUA PI MAO,MAN WITH TURBAN"⟩,
   ⟨0x1F474, 1, "", "OLDER MAN,OLDER WOMAN,BABY,CONSTRUCTION WORKER,PRINCESS,JAPANESE OGRE"⟩,
   ⟨0x1F47A, 1, "", "JAPANESE GOBLIN,GHOST,BABY ANGEL,EXTRATERRESTRIAL ALIEN,ALIEN MONSTER"⟩,
   ⟨0x1F47F, 1, "", "IMP,SKULL,INFORMATION DESK PERSON,GUARDSMAN,DANCER,LIPSTICK,NAIL POLISH"⟩,
   ⟨0x1F486, 1, "", "FACE MASSAGE,HAIRCUT,BARBER POLE,SYRINGE,PILL,KISS MARK,LOVE LETTER,RING"⟩,
   ⟨0x1F48E, 1, "", "GEM STONE,KISS,BOUQUET,COUPLE WITH HEART,WEDDING,BEATING HEART,BROKEN HEART"⟩,
   ⟨0x1F495, 1, "", "TWO HEARTS,SPARKLING HEART,GROWING HEART,HEART WITH ARROW,BLUE HEART"⟩,
   ⟨0x1F49A, 1, "", "GREEN HEART,YELLOW HEART,PURPLE HEART,HEART WITH RIBBON,REVOLVING HEARTS"⟩,
   ⟨0x1F49F, 1, "", "HEART DECORATION,DIAMOND SHAPE WITH A DOT INSIDE,ELECTRIC LIGHT BULB"⟩,
   ⟨0x1F4A2, 1, "", "ANGER SYMBOL,BOMB,SLEEPING SYMBOL,COLLISION SYMBOL,SPLASHING SWEAT SYMBOL"⟩,
   ⟨0x1F4A7, 1, "", "DROPLET,DASH SYMBOL,PILE OF POO,FLEXED BICEPS,DIZZY SYMBOL"⟩,
   ⟨0x1F4AC, 1, "", "SPEECH BALLOON,THOUGHT BALLOON,WHITE FLOWER,HUNDRED POINTS SYMBOL"⟩,
   ⟨0x1F4B0, 1, "", "MONEY BAG,CURRENCY EXCHANGE,HEAVY DOLLAR SIGN,CREDIT CARD"⟩,
   ⟨0x1F4B4, 1, "BANKNOTE WITH ", "YEN SIGN,DOLLAR SIGN,EURO SIGN,POUND SIGN"⟩,
   ⟨0x1F4B8, 1,
    "", "MONEY WITH WINGS,CHART WITH UPWARDS TREND AND YEN SIGN,SEAT,PERSONAL COMPUTER"⟩,
   ⟨0x1F4BC, 1, "", "BRIEFCASE,MINIDISC,FLOPPY DISK,OPTICAL DISC,DVD,FILE FOLDER,OPEN FILE FOLDER"⟩,
   ⟨0x1F4C3, 1, "", "PAGE WITH CURL,PAGE FACING UP,CALENDAR,TEAR-OFF CALENDAR,CARD INDEX"⟩,
   ⟨0x1F4C8, 1, "CHART WITH ", "UPWARDS TREND,DOWNWARDS TREND"⟩,
   ⟨0x1F4CA, 1, "", "BAR CHART,CLIPBOARD,PUSHPIN,ROUND PUSHPIN,PAPERCLIP,STRAIGHT RULER"⟩,
   ⟨0x1F4D0, 1,
    "", "TRIANGULAR RULER,BOOKMARK TABS,LEDGER,NOTEBOOK,NOTEBOOK WITH DECORATIVE COVER"⟩,
   ⟨0x1F4D5, 1, "", "CLOSED BOOK,OPEN BOOK,GREEN BOOK,BLUE BOOK,ORANGE BOOK,BOOKS"⟩,
   ⟨0x1F4DB, 1,
    "", "NAME BADGE,SCROLL,MEMO,TELEPHONE RECEIVER,PAGER,FAX MACHINE,SATELLITE ANTENNA"⟩,
   ⟨0x1F4E2, 1, "", "PUBLIC ADDRESS LOUDSPEAKER,CHEERING MEGAPHONE,OUTBOX TRAY,INBOX TRAY"⟩,
   ⟨0x1F4E6, 1, "", "PACKAGE,E-MAIL SYMBOL,INCOMING ENVELOPE,ENVELOPE WITH DOWNWARDS ARROW ABOVE"⟩,
   ⟨0x1F4EA, 1, "CLOSED MAILBOX WITH ", "LOWERED FLAG,RAISED FLAG"⟩,
   ⟨0x1F4EC, 1, "", "OPEN MAILBOX WITH RAISED FLAG,OPEN MAILBOX WITH LOWERED FLAG,POSTBOX"⟩,
   ⟨0x1F4EF, 1,
    "", "POSTAL HORN,NEWSPAPER,MOBILE PHONE,MOBILE PHONE WITH RIGHTWARDS ARROW AT LEFT"⟩,
   ⟨0x1F4F3, 1, "", "VIBRATION MODE,MOBILE PHONE OFF,NO MOBILE PHONES,ANTENNA WITH BARS"⟩,
   ⟨0x1F4F7, 1, "", "CAMERA,CAMERA WITH FLASH,VIDEO CAMERA,TELEVISION,RADIO,VIDEOCASSETTE"⟩,
   ⟨0x1F4FD, 1, "", "FILM PROJECTOR,PORTABLE STEREO,PRAYER BEADS,TWISTED RIGHTWARDS ARROWS"⟩,
   ⟨0x1F501, 1, "CLOCKWISE RIGHTWARDS AND LEFTWARDS OPEN CIRCLE ARROWS", ""⟩,
   ⟨0x1F502, 1,
    "CLOCKWISE RIGHTWARDS AND LEFTWARDS OPEN CIRCLE ARROWS WITH CIRCLED ONE OVERLAY", ""⟩,
   ⟨0x1F503, 1, "CLOCKWISE DOWNWARDS AND UPWARDS OPEN CIRCLE ARROWS", ""⟩,
   ⟨0x1F504, 1, "", "ANTICLOCKWISE DOWNWARDS AND UPWARDS OPEN CIRCLE ARROWS,LOW BRIGHTNESS SYMBOL"⟩,
   ⟨0x1F506, 1, "", "HIGH BRIGHTNESS SYMBOL,SPEAKER WITH CANCELLATION STROKE,SPEAKER"⟩,
   ⟨0x1F509, 1, "SPEAKER WITH ", "ONE SOUND WAVE,THREE SOUND WAVES"⟩,
   ⟨0x1F50B, 1, "", "BATTERY,ELECTRIC PLUG,LEFT-POINTING MAGNIFYING GLASS"⟩,
   ⟨0x1F50E, 1, "", "RIGHT-POINTING MAGNIFYING GLASS,LOCK WITH INK PEN,CLOSED LOCK WITH KEY"⟩,
   ⟨0x1F511, 1, "", "KEY,LOCK,OPEN LOCK,BELL,BELL WITH CANCELLATION STROKE,BOOKMARK,LINK SYMBOL"⟩,
   ⟨0x1F518, 1, "", "RADIO BUTTON,BACK WITH LEFTWARDS ARROW ABOVE,END WITH LEFTWARDS ARROW ABOVE"⟩,
   ⟨0x1F51B, 1, "ON WITH EXCLAMATION MARK WITH LEFT RIGHT ARROW ABOVE", ""⟩,
   ⟨0x1F51C, 1, "SOON WITH RIGHTWARDS ARROW ABOVE", ""⟩,
   ⟨0x1F51D, 1, "", "TOP WITH UPWARDS ARROW ABOVE,NO ONE UNDER EIGHTEEN SYMBOL,KEYCAP TEN"⟩,
   ⟨0x1F520, 1, "INPUT SYMBOL FOR ", "LATIN CAPITAL LETTERS,LATIN SMALL LETTERS,NUMBERS,SYMBOLS"⟩,
   ⟨0x1F524, 1, "", "INPUT SYMBOL FOR LATIN LETTERS,FIRE"⟩,
   ⟨0x1F526, 1, "", "ELECTRIC TORCH,WRENCH,HAMMER,NUT AND BOLT,HOCHO,PISTOL,MICROSCOPE,TELESCOPE"⟩,
   ⟨0x1F52E, 1, "", "CRYSTAL BALL,SIX POINTED STAR WITH MIDDLE DOT,JAPANESE SYMBOL FOR BEGINNER"⟩,
   ⟨0x1F531, 1, "", "TRIDENT EMBLEM,BLACK SQUARE BUTTON,WHITE SQUARE BUTTON"⟩,
   ⟨0x1F534, 1, "LARGE ", "RED CIRCLE,BLUE CIRCLE,ORANGE DIAMOND,BLUE DIAMOND"⟩,
   ⟨0x1F538, 1, "SMALL ", "ORANGE DIAMOND,BLUE DIAMOND"⟩,
   ⟨0x1F53A, 2, "UP-POINTING ", "RED TRIANGLE,SMALL RED TRIANGLE"⟩,
   ⟨0x1F53B, 2, "DOWN-POINTING ", "RED TRIANGLE,SMALL RED TRIANGLE"⟩,
   ⟨0x1F53E, 1, "", "LOWER RIGHT SHADOWED WHITE CIRCLE,UPPER RIGHT SHADOWED WHITE CIRCLE"⟩,
   ⟨0x1F540, 1, "", "CIRCLED CROSS POMMEE,CROSS POMMEE WITH HALF-CIRCLE BELOW,CROSS POMMEE"⟩,
   ⟨0x1F543, 1, "NOTCHED ", "LEFT SEMICIRCLE WITH THREE DOTS,RIGHT SEMICIRCLE WITH THREE DOTS"⟩,
   ⟨0x1F545, 1, "SYMBOL FOR MARKS CHAPTER", ""⟩,
   ⟨0x1F546, 1, "", "WHITE LATIN CROSS,HEAVY LATIN CROSS,CELTIC CROSS,OM SYMBOL,DOVE OF PEACE"⟩,
   ⟨0x1F54B, 1, "", "KAABA,MOSQUE,SYNAGOGUE,MENORAH WITH NINE BRANCHES,BOWL OF HYGIEIA"⟩,
   ⟨0x1F550, 1, "CLOCK FACE ", "ONE OCLOCK,TWO OCLOCK,THREE OCLOCK,FOUR OCLOCK"⟩,
   ⟨0x1F554, 2, "CLOCK FACE ", "FIVE OCLOCK,SEVEN OCLOCK,NINE OCLOCK,ELEVEN OCLOCK,ONE-THIRTY"⟩,
   ⟨0x1F555, 2, "CLOCK FACE ", "SIX OCLOCK,EIGHT OCLOCK,TEN OCLOCK,TWELVE OCLOCK,TWO-THIRTY"⟩,
   ⟨0x1F55E, 2, "CLOCK FACE ", "THREE-THIRTY,FIVE-THIRTY,SEVEN-THIRTY,NINE-THIRTY,ELEVEN-THIRTY"⟩,
   ⟨0x1F55F, 2, "CLOCK FACE ", "FOUR-THIRTY,SIX-THIRTY,EIGHT-THIRTY,TEN-THIRTY,TWELVE-THIRTY"⟩,
   ⟨0x1F568, 1, "RIGHT ", "SPEAKER,SPEAKER WITH ONE SOUND WAVE,SPEAKER WITH THREE SOUND WAVES"⟩,
   ⟨0x1F56B, 1,
    "", "BULLHORN,BULLHORN WITH SOUND WAVES,RINGING BELL,BOOK,CANDLE,MANTELPIECE CLOCK"⟩,
   ⟨0x1F571, 1, "", "BLACK SKULL AND CROSSBONES,NO PIRACY,HOLE,MAN IN BUSINESS SUIT LEVITATING"⟩,
   ⟨0x1F575, 1, "", "SLEUTH OR SPY,DARK SUNGLASSES,SPIDER,SPIDER WEB,JOYSTICK"⟩,
   ⟨0x1F57A, 1, "", "MAN DANCING,LEFT HAND TELEPHONE RECEIVER,TELEPHONE RECEIVER WITH PAGE"⟩,
   ⟨0x1F57D, 1, "", "RIGHT HAND TELEPHONE RECEIVER,WHITE TOUCHTONE TELEPHONE"⟩,
   ⟨0x1F57F, 1, "", "BLACK TOUCHTONE TELEPHONE,TELEPHONE ON TOP OF MODEM,CLAMSHELL MOBILE PHONE"⟩,
   ⟨0x1F582, 1, "", "BACK OF ENVELOPE,STAMPED ENVELOPE,ENVELOPE WITH LIGHTNING"⟩,
   ⟨0x1F585, 1, "", "FLYING ENVELOPE,PEN OVER STAMPED ENVELOPE,LINKED PAPERCLIPS,BLACK PUSHPIN"⟩,
   ⟨0x1F589, 1, "LOWER LEFT ", "PENCIL,BALLPOINT PEN,FOUNTAIN PEN,PAINTBRUSH,CRAYON"⟩,
   ⟨0x1F58E, 1, "", "LEFT WRITING HAND,TURNED OK HAND SIGN,RAISED HAND WITH FINGERS SPLAYED"⟩,
   ⟨0x1F591, 1, "REVERSED ", "RAISED HAND WITH FINGERS SPLAYED,THUMBS UP SIGN"⟩,
   ⟨0x1F593, 1, "REVERSED ", "THUMBS DOWN SIGN,VICTORY HAND,HAND WITH MIDDLE FINGER EXTENDED"⟩,
   ⟨0x1F596, 1, "RAISED HAND WITH PART BETWEEN MIDDLE AND RING FINGERS", ""⟩,
   ⟨0x1F597, 1, "WHITE DOWN POINTING LEFT HAND INDEX", ""⟩,
   ⟨0x1F598, 1, "SIDEWAYS WHITE ", "LEFT POINTING INDEX,RIGHT POINTING INDEX"⟩,
   ⟨0x1F59A, 1, "SIDEWAYS BLACK ", "LEFT POINTING INDEX,RIGHT POINTING INDEX"⟩,
   ⟨0x1F59C, 1, "BLACK ", "LEFT POINTING BACKHAND INDEX,RIGHT POINTING BACKHAND INDEX"⟩,
   ⟨0x1F59E, 1, "SIDEWAYS WHITE ", "UP POINTING INDEX,DOWN POINTING INDEX"⟩,
   ⟨0x1F5A0, 1, "SIDEWAYS BLACK ", "UP POINTING INDEX,DOWN POINTING INDEX"⟩,
   ⟨0x1F5A2, 1, "BLACK ", "UP POINTING BACKHAND INDEX,DOWN POINTING BACKHAND INDEX,HEART"⟩,
   ⟨0x1F5A5, 1, "", "DESKTOP COMPUTER,KEYBOARD AND MOUSE,THREE NETWORKED COMPUTERS,PRINTER"⟩,
   ⟨0x1F5A9, 1, "", "POCKET CALCULATOR,BLACK HARD SHELL FLOPPY DISK,WHITE HARD SHELL FLOPPY DISK"⟩,
   ⟨0x1F5AC, 1, "", "SOFT SHELL FLOPPY DISK,TAPE CARTRIDGE,WIRED KEYBOARD,ONE BUTTON MOUSE"⟩,
   ⟨0x1F5B0, 1, "", "TWO BUTTON MOUSE,THREE BUTTON MOUSE,TRACKBALL,OLD PERSONAL COMPUTER"⟩,
   ⟨0x1F5B4, 1, "", "HARD DISK,SCREEN,PRINTER ICON,FAX ICON,OPTICAL DISC ICON"⟩,
   ⟨0x1F5B9, 1, "DOCUMENT WITH ", "TEXT,TEXT AND PICTURE,PICTURE"⟩,
   ⟨0x1F5BC, 1, "FRAME WITH ", "PICTURE,TILES,AN X"⟩,
   ⟨0x1F5BF, 1, "", "BLACK FOLDER,FOLDER,OPEN FOLDER,CARD INDEX DIVIDERS"⟩,
   ⟨0x1F5C3, 1, "", "CARD FILE BOX,FILE CABINET,EMPTY NOTE,EMPTY NOTE PAGE,EMPTY NOTE PAD"⟩,
   ⟨0x1F5C8, 1, "", "NOTE,NOTE PAGE,NOTE PAD,EMPTY DOCUMENT,EMPTY PAGE,EMPTY PAGES,DOCUMENT,PAGE"⟩,
   ⟨0x1F5D0, 1,
    "", "PAGES,WASTEBASKET,SPIRAL NOTE PAD,SPIRAL CALENDAR PAD,DESKTOP WINDOW,MINIMIZE"⟩,
   ⟨0x1F5D6, 1, "", "MAXIMIZE,OVERLAP,CLOCKWISE RIGHT AND LEFT SEMICIRCLE ARROWS,CANCELLATION X"⟩,
   ⟨0x1F5DA, 1, "", "INCREASE FONT SIZE SYMBOL,DECREASE FONT SIZE SYMBOL,COMPRESSION"⟩,
   ⟨0x1F5DD, 1, "", "OLD KEY,ROLLED-UP NEWSPAPER,PAGE WITH CIRCLED TEXT,STOCK CHART,DAGGER KNIFE"⟩,
   ⟨0x1F5E2, 1, "", "LIPS,SPEAKING HEAD IN SILHOUETTE,THREE RAYS ABOVE,THREE RAYS BELOW"⟩,
   ⟨0x1F5E6, 1, "", "THREE RAYS LEFT,THREE RAYS RIGHT,LEFT SPEECH BUBBLE,RIGHT SPEECH BUBBLE"⟩,
   ⟨0x1F5EA, 1, "", "TWO SPEECH BUBBLES,THREE SPEECH BUBBLES,LEFT THOUGHT BUBBLE"⟩,
   ⟨0x1F5ED, 1, "", "RIGHT THOUGHT BUBBLE,LEFT ANGER BUBBLE,RIGHT ANGER BUBBLE,MOOD BUBBLE"⟩,
   ⟨0x1F5F1, 1, "LIGHTNING ", "MOOD BUBBLE,MOOD"⟩,
   ⟨0x1F5F3, 1, "BALLOT ", "BOX WITH BALLOT,SCRIPT X,BOX WITH SCRIPT X,BOLD SCRIPT X"⟩,
   ⟨0x1F5F7, 1, "", "BALLOT BOX WITH BOLD SCRIPT X,LIGHT CHECK MARK,BALLOT BOX WITH BOLD CHECK"⟩,
   ⟨0x1F5FA, 1, "", "WORLD MAP,MOUNT FUJI,TOKYO TOWER,STATUE OF LIBERTY,SILHOUETTE OF JAPAN"⟩,
   ⟨0x1F5FF, 1, "", "MOYAI,GRINNING FACE,GRINNING FACE WITH SMILING EYES,FACE WITH TEARS OF JOY"⟩,
   ⟨0x1F603, 1, "SMILING FACE WITH OPEN ", "MOUTH,MOUTH AND SMILING EYES,MOUTH AND COLD SWEAT"⟩,
   ⟨0x1F606, 1, "SMILING FACE WITH ", "OPEN MOUTH AND TIGHTLY-CLOSED EYES,HALO,HORNS"⟩,
   ⟨0x1F609, 1, "", "WINKING FACE,SMILING FACE WITH SMILING EYES,FACE SAVOURING DELICIOUS FOOD"⟩,
   ⟨0x1F60C, 1, "", "RELIEVED FACE,SMILING FACE WITH HEART-SHAPED EYES"⟩,
   ⟨0x1F60E, 1, "", "SMILING FACE WITH SUNGLASSES,SMIRKING FACE,NEUTRAL FACE,EXPRESSIONLESS FACE"⟩,
   ⟨0x1F612, 1,
    "", "UNAMUSED FACE,FACE WITH COLD SWEAT,PENSIVE FACE,CONFUSED FACE,CONFOUNDED FACE"⟩,
   ⟨0x1F617, 1, "", "KISSING FACE,FACE THROWING A KISS,KISSING FACE WITH SMILING EYES"⟩,
   ⟨0x1F61A, 1, "", "KISSING FACE WITH CLOSED EYES,FACE WITH STUCK-OUT TONGUE"⟩,
   ⟨0x1F61C, 1, "FACE WITH STUCK-OUT TONGUE AND ", "WINKING EYE,TIGHTLY-CLOSED EYES"⟩,
   ⟨0x1F61E, 1, "", "DISAPPOINTED FACE,WORRIED FACE,ANGRY FACE,POUTING FACE,CRYING FACE"⟩,
   ⟨0x1F623, 1, "", "PERSEVERING FACE,FACE WITH LOOK OF TRIUMPH,DISAPPOINTED BUT RELIEVED FACE"⟩,
   ⟨0x1F626, 1, "", "FROWNING FACE WITH OPEN MOUTH,ANGUISHED FACE,FEARFUL FACE"⟩,
   ⟨0x1F629, 1, "", "WEARY FACE,SLEEPY FACE,TIRED FACE,GRIMACING FACE,LOUDLY CRYING FACE"⟩,
   ⟨0x1F62E, 1, "", "FACE WITH OPEN MOUTH,HUSHED FACE,FACE WITH OPEN MOUTH AND COLD SWEAT"⟩,
   ⟨0x1F631, 1, "", "FACE SCREAMING IN FEAR,ASTONISHED FACE,FLUSHED FACE,SLEEPING FACE,DIZZY FACE"⟩,
   ⟨0x1F636, 1, "FACE ", "WITHOUT MOUTH,WITH MEDICAL MASK"⟩,
   ⟨0x1F638, 1, "", "GRINNING CAT FACE WITH SMILING EYES,CAT FACE WITH TEARS OF JOY"⟩,
   ⟨0x1F63A, 1, "SMILING CAT FACE WITH ", "OPEN MOUTH,HEART-SHAPED EYES"⟩,
   ⟨0x1F63C, 1, "", "CAT FACE WITH WRY SMILE,KISSING CAT FACE WITH CLOSED EYES,POUTING CAT FACE"⟩,
   ⟨0x1F63F, 1, "", "CRYING CAT FACE,WEARY CAT FACE,SLIGHTLY FROWNING FACE,SLIGHTLY SMILING FACE"⟩,
   ⟨0x1F643, 1, "", "UPSIDE-DOWN FACE,FACE WITH ROLLING EYES,FACE WITH NO GOOD GESTURE"⟩,
   ⟨0x1F646, 1, "", "FACE WITH OK GESTURE,PERSON BOWING DEEPLY,SEE-NO-EVIL MONKEY"⟩,
   ⟨0x1F649, 1, "", "HEAR-NO-EVIL MONKEY,SPEAK-NO-EVIL MONKEY,HAPPY PERSON RAISING ONE HAND"⟩,
   ⟨0x1F64C, 1, "PERSON ", "RAISING BOTH HANDS IN CELEBRATION,FROWNING,WITH POUTING FACE"⟩,
   ⟨0x1F64F, 1, "", "PERSON WITH FOLDED HANDS,NORTH WEST POINTING LEAF"⟩,
   ⟨0x1F651, 1, "", "SOUTH WEST POINTING LEAF,NORTH EAST POINTING LEAF,SOUTH EAST POINTING LEAF"⟩,
   ⟨0x1F654, 2, "TURNED NORTH ", "WEST POINTING LEAF,EAST POINTING LEAF"⟩,
   ⟨0x1F655, 2, "TURNED SOUTH ", "WEST POINTING LEAF,EAST POINTING LEAF"⟩,
   ⟨0x1F658, 2, "NORTH ", "WEST POINTING VINE LEAF,EAST POINTING VINE LEAF"⟩,
   ⟨0x1F659, 2, "SOUTH ", "WEST POINTING VINE LEAF,EAST POINTING VINE LEAF"⟩,
   ⟨0x1F65C, 2, "HEAVY NORTH ", "WEST POINTING VINE LEAF,EAST POINTING VINE LEAF"⟩,
   ⟨0x1F65D, 2, "HEAVY SOUTH ", "WEST POINTING VINE LEAF,EAST POINTING VINE LEAF"⟩,
   ⟨0x1F660, 1, "", "NORTH WEST POINTING BUD,SOUTH WEST POINTING BUD"⟩,
   ⟨0x1F662, 1,
    "", "NORTH EAST POINTING BUD,SOUTH EAST POINTING BUD,HEAVY NORTH WEST POINTING BUD"⟩,
   ⟨0x1F665, 1,
    "HEAVY ", "SOUTH WEST POINTING BUD,NORTH EAST POINTING BUD,SOUTH EAST POINTING BUD"⟩,
   ⟨0x1F668, 1, "HOLLOW QUILT SQUARE ", "ORNAMENT,ORNAMENT IN BLACK SQUARE"⟩,
   ⟨0x1F66A, 1, "SOLID QUILT SQUARE ", "ORNAMENT,ORNAMENT IN BLACK SQUARE"⟩,
   ⟨0x1F66C, 1, "", "LEFTWARDS ROCKET,UPWARDS ROCKET,RIGHTWARDS ROCKET,DOWNWARDS ROCKET"⟩,
   ⟨0x1F670, 1, "", "SCRIPT LIGATURE ET ORNAMENT,HEAVY SCRIPT LIGATURE ET ORNAMENT"⟩,
   ⟨0x1F672, 1, "", "LIGATURE OPEN ET ORNAMENT,HEAVY LIGATURE OPEN ET ORNAMENT"⟩,
   ⟨0x1F674, 1, "", "HEAVY AMPERSAND ORNAMENT,SWASH AMPERSAND ORNAMENT"⟩,
   ⟨0x1F676, 1, "SANS-SERIF HEAVY DOUBLE TURNED COMMA QUOTATION MARK ORNAMENT", ""⟩,
   ⟨0x1F677, 1, "SANS-SERIF HEAVY DOUBLE COMMA QUOTATION MARK ORNAMENT", ""⟩,
   ⟨0x1F678, 1, "SANS-SERIF HEAVY LOW DOUBLE COMMA QUOTATION MARK ORNAMENT", ""⟩,
   ⟨0x1F679, 1, "HEAVY INTERROBANG ORNAMENT", ""⟩,
   ⟨0x1F67A, 1, "", "SANS-SERIF INTERROBANG ORNAMENT,HEAVY SANS-SERIF INTERROBANG ORNAMENT"⟩,
   ⟨0x1F67C, 1, "VERY HEAVY ", "SOLIDUS,REVERSE SOLIDUS"⟩,
   ⟨0x1F67E, 1, "", "CHECKER BOARD,REVERSE CHECKER BOARD,ROCKET,HELICOPTER,STEAM LOCOMOTIVE"⟩,
   ⟨0x1F683, 1, "", "RAILWAY CAR,HIGH-SPEED TRAIN,HIGH-SPEED TRAIN WITH BULLET NOSE"⟩,
   ⟨0x1F686, 1, "", "TRAIN,METRO,LIGHT RAIL,STATION,TRAM,TRAM CAR"⟩,
   ⟨0x1F68C, 1,
    "", "BUS,ONCOMING BUS,TROLLEYBUS,BUS STOP,MINIBUS,AMBULANCE,FIRE ENGINE,POLICE CAR"⟩,
   ⟨0x1F694, 1, "", "ONCOMING POLICE CAR,TAXI,ONCOMING TAXI,AUTOMOBILE,ONCOMING AUTOMOBILE"⟩,
   ⟨0x1F699, 1, "", "RECREATIONAL VEHICLE,DELIVERY TRUCK,ARTICULATED LORRY,TRACTOR"⟩,
   ⟨0x1F69D, 1,
    "", "MONORAIL,MOUNTAIN RAILWAY,SUSPENSION RAILWAY,MOUNTAIN CABLEWAY,AERIAL TRAMWAY"⟩,
   ⟨0x1F6A2, 1, "", "SHIP,ROWBOAT,SPEEDBOAT,HORIZONTAL TRAFFIC LIGHT,VERTICAL TRAFFIC LIGHT"⟩,
   ⟨0x1F6A7, 1, "", "CONSTRUCTION SIGN,POLICE CARS REVOLVING LIGHT,TRIANGULAR FLAG ON POST,DOOR"⟩,
   ⟨0x1F6AB, 1,
    "", "NO ENTRY SIGN,SMOKING SYMBOL,NO SMOKING SYMBOL,PUT LITTER IN ITS PLACE SYMBOL"⟩,
   ⟨0x1F6AF, 1, "", "DO NOT LITTER SYMBOL,POTABLE WATER SYMBOL,NON-POTABLE WATER SYMBOL"⟩,
   ⟨0x1F6B2, 1, "", "BICYCLE,NO BICYCLES,BICYCLIST,MOUNTAIN BICYCLIST,PEDESTRIAN"⟩,
   ⟨0x1F6B7, 1, "", "NO PEDESTRIANS,CHILDREN CROSSING,MENS SYMBOL,WOMENS SYMBOL,RESTROOM"⟩,
   ⟨0x1F6BC, 1, "", "BABY SYMBOL,TOILET,WATER CLOSET,SHOWER,BATH,BATHTUB,PASSPORT CONTROL,CUSTOMS"⟩,
   ⟨0x1F6C4, 1, "", "BAGGAGE CLAIM,LEFT LUGGAGE,TRIANGLE WITH ROUNDED CORNERS,PROHIBITED SIGN"⟩,
   ⟨0x1F6C8, 1, "", "CIRCLED INFORMATION SOURCE,BOYS SYMBOL,GIRLS SYMBOL,COUCH AND LAMP"⟩,
   ⟨0x1F6CC, 1, "", "SLEEPING ACCOMMODATION,SHOPPING BAGS,BELLHOP BELL,BED,PLACE OF WORSHIP"⟩,
   ⟨0x1F6D1, 1, "", "OCTAGONAL SIGN,SHOPPING TROLLEY,STUPA,PAGODA,HINDU TEMPLE,HUT,ELEVATOR"⟩,
   ⟨0x1F6DD, 1, "", "PLAYGROUND SLIDE,WHEEL,RING BUOY,HAMMER AND WRENCH,SHIELD,OIL DRUM,MOTORWAY"⟩,
   ⟨0x1F6E4, 1, "", "RAILWAY TRACK,MOTOR BOAT,UP-POINTING MILITARY AIRPLANE,UP-POINTING AIRPLANE"⟩,
   ⟨0x1F6E8, 1, "", "UP-POINTING SMALL AIRPLANE,SMALL AIRPLANE,NORTHEAST-POINTING AIRPLANE"⟩,
   ⟨0x1F6EB, 1, "AIRPLANE ", "DEPARTURE,ARRIVING"⟩,
   ⟨0x1F6F0, 1, "SATELLITE", ""⟩,
   ⟨0x1F6F1, 1, "", "ONCOMING FIRE ENGINE,DIESEL LOCOMOTIVE,PASSENGER SHIP,SCOOTER,MOTOR SCOOTER"⟩,
   ⟨0x1F6F6, 1, "", "CANOE,SLED,FLYING SAUCER,SKATEBOARD,AUTO RICKSHAW,PICKUP TRUCK,ROLLER SKATE"⟩,
   ⟨0x1F700, 1,
    "ALCHEMICAL SYMBOL FOR ", "QUINTESSENCE,AIR,FIRE,EARTH,WATER,AQUAFORTIS,AQUA REGIA"⟩,
   ⟨0x1F707, 2,
    "ALCHEMICAL SYMBOL FOR ", "AQUA REGIA-2,AQUA VITAE-2,VINEGAR-2,SULFUR,BLACK SULFUR"⟩,
   ⟨0x1F708, 2, "ALCHEMICAL SYMBOL FOR ", "AQUA VITAE,VINEGAR,VINEGAR-3,PHILOSOPHERS SULFUR"⟩,
   ⟨0x1F710, 1, "ALCHEMICAL SYMBOL FOR MERCURY ", "SUBLIMATE,SUBLIMATE-2,SUBLIMATE-3"⟩,
   ⟨0x1F713, 2, "ALCHEMICAL SYMBOL FOR ", "CINNABAR,NITRE,VITRIOL-2,ROCK SALT-2,SILVER,IRON ORE-2"⟩,
   ⟨0x1F714, 2, "ALCHEMICAL SYMBOL FOR ", "SALT,VITRIOL,ROCK SALT,GOLD,IRON ORE,CROCUS OF IRON"⟩,
   ⟨0x1F71F, 2, "ALCHEMICAL SYMBOL FOR ", "REGULUS OF IRON,IRON-COPPER ORE,CROCUS OF COPPER"⟩,
   ⟨0x1F720, 2, "ALCHEMICAL SYMBOL FOR ", "COPPER ORE,SUBLIMATE OF COPPER,CROCUS OF COPPER-2"⟩,
   ⟨0x1F725, 2, "ALCHEMICAL SYMBOL FOR ", "COPPER ANTIMONIATE,SUBLIMATE OF SALT OF COPPER,TIN ORE"⟩,
   ⟨0x1F726, 2, "ALCHEMICAL SYMBOL FOR ", "SALT OF COPPER ANTIMONIATE,VERDIGRIS,LEAD ORE"⟩,
   ⟨0x1F72B, 2, "ALCHEMICAL SYMBOL FOR ", "ANTIMONY ORE,SALT OF ANTIMONY,VINEGAR OF ANTIMONY"⟩,
   ⟨0x1F72C, 2, "ALCHEMICAL SYMBOL FOR SUBLIMATE OF ", "ANTIMONY,SALT OF ANTIMONY"⟩,
   ⟨0x1F730, 1, "ALCHEMICAL SYMBOL FOR REGULUS OF ", "ANTIMONY,ANTIMONY-2"⟩,
   ⟨0x1F732, 2, "ALCHEMICAL SYMBOL FOR ", "REGULUS,REGULUS-3,ALKALI,MARCASITE,ARSENIC,REALGAR-2"⟩,
   ⟨0x1F733, 2, "ALCHEMICAL SYMBOL FOR ", "REGULUS-2,REGULUS-4,ALKALI-2,SAL-AMMONIAC,REALGAR"⟩,
   ⟨0x1F73D, 2, "ALCHEMICAL SYMBOL FOR ", "AURIPIGMENT,TARTAR,QUICK LIME,BORAX-2,ALUM,SPIRIT,GUM"⟩,
   ⟨0x1F73E, 2, "ALCHEMICAL SYMBOL FOR ", "BISMUTH ORE,TARTAR-2,BORAX,BORAX-3,OIL,TINCTURE"⟩,
   ⟨0x1F74A, 2, "ALCHEMICAL SYMBOL FOR ", "WAX,CALX,CAPUT MORTUUM,CADUCEUS,STARRED TRIDENT,SOAP"⟩,
   ⟨0x1F74B, 2, "ALCHEMICAL SYMBOL FOR ", "POWDER,TUTTY,SCEPTER OF JOVE,TRIDENT,LODESTONE,URINE"⟩,
   ⟨0x1F756, 1,
    "ALCHEMICAL SYMBOL FOR ", "HORSE DUNG,ASHES,POT ASHES,BRICK,POWDERED BRICK,AMALGAM"⟩,
   ⟨0x1F75C, 2, "ALCHEMICAL SYMBOL FOR ", "STRATUM SUPER STRATUM,SUBLIMATION,DISTILL,DISSOLVE-2"⟩,
   ⟨0x1F75D, 2, "ALCHEMICAL SYMBOL FOR ", "STRATUM SUPER STRATUM-2,PRECIPITATE,DISSOLVE,PURIFY"⟩,
   ⟨0x1F764, 1, "ALCHEMICAL SYMBOL FOR ", "PUTREFACTION,CRUCIBLE,CRUCIBLE-2,CRUCIBLE-3,CRUCIBLE-4"⟩,
   ⟨0x1F769, 2, "ALCHEMICAL SYMBOL FOR ", "CRUCIBLE-5,BATH OF MARY,RETORT,NIGHT,MONTH,HALF OUNCE"⟩,
   ⟨0x1F76A, 2, "ALCHEMICAL SYMBOL FOR ", "ALEMBIC,BATH OF VAPOURS,HOUR,DAY-NIGHT,HALF DRAM"⟩,
   ⟨0x1F780, 1, "BLACK LEFT-POINTING ISOSCELES RIGHT TRIANGLE", ""⟩,
   ⟨0x1F781, 1, "BLACK UP-POINTING ISOSCELES RIGHT TRIANGLE", ""⟩,
   ⟨0x1F782, 1, "BLACK RIGHT-POINTING ISOSCELES RIGHT TRIANGLE", ""⟩,
   ⟨0x1F783, 1, "BLACK ", "DOWN-POINTING ISOSCELES RIGHT TRIANGLE,SLIGHTLY SMALL CIRCLE"⟩,
   ⟨0x1F785, 1, "", "MEDIUM BOLD WHITE CIRCLE,BOLD WHITE CIRCLE"⟩,
   ⟨0x1F787, 1, "", "HEAVY WHITE CIRCLE,VERY HEAVY WHITE CIRCLE,EXTREMELY HEAVY WHITE CIRCLE"⟩,
   ⟨0x1F78A, 1, "", "WHITE CIRCLE CONTAINING BLACK SMALL CIRCLE,ROUND TARGET,BLACK TINY SQUARE"⟩,
   ⟨0x1F78D, 1, "", "BLACK SLIGHTLY SMALL SQUARE,LIGHT WHITE SQUARE,MEDIUM WHITE SQUARE"⟩,
   ⟨0x1F790, 1, "", "BOLD WHITE SQUARE,HEAVY WHITE SQUARE,VERY HEAVY WHITE SQUARE"⟩,
   ⟨0x1F793, 1, "", "EXTREMELY HEAVY WHITE SQUARE,WHITE SQUARE CONTAINING BLACK VERY SMALL SQUARE"⟩,
   ⟨0x1F795, 1, "", "WHITE SQUARE CONTAINING BLACK MEDIUM SQUARE,SQUARE TARGET"⟩,
   ⟨0x1F797, 1, "BLACK ", "TINY DIAMOND,VERY SMALL DIAMOND,MEDIUM SMALL DIAMOND"⟩,
   ⟨0x1F79A, 1, "WHITE DIAMOND CONTAINING BLACK ", "VERY SMALL DIAMOND,MEDIUM DIAMOND"⟩,
   ⟨0x1F79C, 1, "", "DIAMOND TARGET,BLACK TINY LOZENGE,BLACK VERY SMALL LOZENGE"⟩,
   ⟨0x1F79F, 1, "", "BLACK MEDIUM SMALL LOZENGE,WHITE LOZENGE CONTAINING BLACK SMALL LOZENGE"⟩,
   ⟨0x1F7A1, 1, "", "THIN GREEK CROSS,LIGHT GREEK CROSS,MEDIUM GREEK CROSS,BOLD GREEK CROSS"⟩,
   ⟨0x1F7A5, 1, "", "VERY BOLD GREEK CROSS,VERY HEAVY GREEK CROSS,EXTREMELY HEAVY GREEK CROSS"⟩,
   ⟨0x1F7A8, 1, "", "THIN SALTIRE,LIGHT SALTIRE,MEDIUM SALTIRE,BOLD SALTIRE,HEAVY SALTIRE"⟩,
   ⟨0x1F7AD, 1, "", "VERY HEAVY SALTIRE,EXTREMELY HEAVY SALTIRE,LIGHT FIVE SPOKED ASTERISK"⟩,
   ⟨0x1F7B0, 1, "", "MEDIUM FIVE SPOKED ASTERISK,BOLD FIVE SPOKED ASTERISK"⟩,
   ⟨0x1F7B2, 1, "", "HEAVY FIVE SPOKED ASTERISK,VERY HEAVY FIVE SPOKED ASTERISK"⟩,
   ⟨0x1F7B4, 1, "", "EXTREMELY HEAVY FIVE SPOKED ASTERISK,LIGHT SIX SPOKED ASTERISK"⟩,
   ⟨0x1F7B6, 1,
    "", "MEDIUM SIX SPOKED ASTERISK,BOLD SIX SPOKED ASTERISK,HEAVY SIX SPOKED ASTERISK"⟩,
   ⟨0x1F7B9, 1, "", "VERY HEAVY SIX SPOKED ASTERISK,EXTREMELY HEAVY SIX SPOKED ASTERISK"⟩,
   ⟨0x1F7BB, 1, "", "LIGHT EIGHT SPOKED ASTERISK,MEDIUM EIGHT SPOKED ASTERISK"⟩,
   ⟨0x1F7BD, 1, "", "BOLD EIGHT SPOKED ASTERISK,HEAVY EIGHT SPOKED ASTERISK"⟩,
   ⟨0x1F7BF, 1, "", "VERY HEAVY EIGHT SPOKED ASTERISK,LIGHT THREE POINTED BLACK STAR"⟩,
   ⟨0x1F7C1, 1, "", "MEDIUM THREE POINTED BLACK STAR,THREE POINTED BLACK STAR"⟩,
   ⟨0x1F7C3, 1, "", "MEDIUM THREE POINTED PINWHEEL STAR,LIGHT FOUR POINTED BLACK STAR"⟩,
   ⟨0x1F7C5, 1, "", "MEDIUM FOUR POINTED BLACK STAR,FOUR POINTED BLACK STAR"⟩,
   ⟨0x1F7C7, 1, "", "MEDIUM FOUR POINTED PINWHEEL STAR,REVERSE LIGHT FOUR POINTED PINWHEEL STAR"⟩,
   ⟨0x1F7C9, 1, "", "LIGHT FIVE POINTED BLACK STAR,HEAVY FIVE POINTED BLACK STAR"⟩,
   ⟨0x1F7CB, 1, "", "MEDIUM SIX POINTED BLACK STAR,HEAVY SIX POINTED BLACK STAR"⟩,
   ⟨0x1F7CD, 1, "", "SIX POINTED PINWHEEL STAR,MEDIUM EIGHT POINTED BLACK STAR"⟩,
   ⟨0x1F7CF, 1, "", "HEAVY EIGHT POINTED BLACK STAR,VERY HEAVY EIGHT POINTED BLACK STAR"⟩,
   ⟨0x1F7D1, 1, "", "HEAVY EIGHT POINTED PINWHEEL STAR,LIGHT TWELVE POINTED BLACK STAR"⟩,
   ⟨0x1F7D3, 1, "HEAVY TWELVE POINTED ", "BLACK STAR,PINWHEEL STAR"⟩,
   ⟨0x1F7D5, 2, "CIRCLED ", "TRIANGLE,SQUARE"⟩,
   ⟨0x1F7D6, 2, "NEGATIVE CIRCLED ", "TRIANGLE,SQUARE"⟩,
   ⟨0x1F7E0, 1, "LARGE ", "ORANGE CIRCLE,YELLOW CIRCLE"⟩,
   ⟨0x1F7E2, 2, "LARGE ", "GREEN CIRCLE,BROWN CIRCLE,BLUE SQUARE,YELLOW SQUARE,PURPLE SQUARE"⟩,
   ⟨0x1F7E3, 2, "LARGE ", "PURPLE CIRCLE,RED SQUARE,ORANGE SQUARE,GREEN SQUARE,BROWN SQUARE"⟩,
   ⟨0x1F7F0, 1, "HEAVY EQUALS SIGN", ""⟩,
   ⟨0x1F800, 1, "LEFTWARDS ARROW WITH SMALL TRIANGLE ARROWHEAD", ""⟩,
   ⟨0x1F801, 1, "UPWARDS ARROW WITH SMALL TRIANGLE ARROWHEAD", ""⟩,
   ⟨0x1F802, 1, "RIGHTWARDS ARROW WITH SMALL TRIANGLE ARROWHEAD", ""⟩,
   ⟨0x1F803, 1, "DOWNWARDS ARROW WITH SMALL TRIANGLE ARROWHEAD", ""⟩,
   ⟨0x1F804, 1, "LEFTWARDS ARROW WITH MEDIUM TRIANGLE ARROWHEAD", ""⟩,
   ⟨0x1F805, 1, "UPWARDS ARROW WITH MEDIUM TRIANGLE ARROWHEAD", ""⟩,
   ⟨0x1F806, 1, "RIGHTWARDS ARROW WITH MEDIUM TRIANGLE ARROWHEAD", ""⟩,
   ⟨0x1F807, 1, "DOWNWARDS ARROW WITH MEDIUM TRIANGLE ARROWHEAD", ""⟩,
   ⟨0x1F808, 1, "LEFTWARDS ARROW WITH LARGE TRIANGLE ARROWHEAD", ""⟩,
   ⟨0x1F809, 1, "UPWARDS ARROW WITH LARGE TRIANGLE ARROWHEAD", ""⟩,
   ⟨0x1F80A, 1, "RIGHTWARDS ARROW WITH LARGE TRIANGLE ARROWHEAD", ""⟩,
   ⟨0x1F80B, 1, "DOWNWARDS ARROW WITH LARGE TRIANGLE ARROWHEAD", ""⟩,
   ⟨0x1F810, 1, "LEFTWARDS ARROW WITH SMALL EQUILATERAL ARROWHEAD", ""⟩,
   ⟨0x1F811, 1, "UPWARDS ARROW WITH SMALL EQUILATERAL ARROWHEAD", ""⟩,
   ⟨0x1F812, 1, "RIGHTWARDS ARROW WITH SMALL EQUILATERAL ARROWHEAD", ""⟩,
   ⟨0x1F813, 1, "DOWNWARDS ARROW WITH SMALL EQUILATERAL ARROWHEAD", ""⟩,
   ⟨0x1F814, 1, "LEFTWARDS ARROW WITH EQUILATERAL ARROWHEAD", ""⟩,
   ⟨0x1F815, 1, "UPWARDS ARROW WITH EQUILATERAL ARROWHEAD", ""⟩,
   ⟨0x1F816, 1, "RIGHTWARDS ARROW WITH EQUILATERAL ARROWHEAD", ""⟩,
   ⟨0x1F817, 1, "DOWNWARDS ARROW WITH EQUILATERAL ARROWHEAD", ""⟩,
   ⟨0x1F818, 1, "HEAVY LEFTWARDS ARROW WITH EQUILATERAL ARROWHEAD", ""⟩,
   ⟨0x1F819, 1, "HEAVY UPWARDS ARROW WITH EQUILATERAL ARROWHEAD", ""⟩,
   ⟨0x1F81A, 1, "HEAVY RIGHTWARDS ARROW WITH EQUILATERAL ARROWHEAD", ""⟩,
   ⟨0x1F81B, 1, "HEAVY DOWNWARDS ARROW WITH EQUILATERAL ARROWHEAD", ""⟩,
   ⟨0x1F81C, 1, "HEAVY LEFTWARDS ARROW WITH LARGE EQUILATERAL ARROWHEAD", ""⟩,
   ⟨0x1F81D, 1, "HEAVY UPWARDS ARROW WITH LARGE EQUILATERAL ARROWHEAD", ""⟩,
   ⟨0x1F81E, 1, "HEAVY RIGHTWARDS ARROW WITH LARGE EQUILATERAL ARROWHEAD", ""⟩,
   ⟨0x1F81F, 1, "HEAVY DOWNWARDS ARROW WITH LARGE EQUILATERAL ARROWHEAD", ""⟩,
   ⟨0x1F820, 1, "LEFTWARDS TRIANGLE-HEADED ARROW WITH NARROW SHAFT", ""⟩,
   ⟨0x1F821, 1, "UPWARDS TRIANGLE-HEADED ARROW WITH NARROW SHAFT", ""⟩,
   ⟨0x1F822, 1, "RIGHTWARDS TRIANGLE-HEADED ARROW WITH NARROW SHAFT", ""⟩,
   ⟨0x1F823, 1, "DOWNWARDS TRIANGLE-HEADED ARROW WITH NARROW SHAFT", ""⟩,
   ⟨0x1F824, 1, "LEFTWARDS TRIANGLE-HEADED ARROW WITH MEDIUM SHAFT", ""⟩,
   ⟨0x1F825, 1, "UPWARDS TRIANGLE-HEADED ARROW WITH MEDIUM SHAFT", ""⟩,
   ⟨0x1F826, 1, "RIGHTWARDS TRIANGLE-HEADED ARROW WITH MEDIUM SHAFT", ""⟩,
   ⟨0x1F827, 1, "DOWNWARDS TRIANGLE-HEADED ARROW WITH MEDIUM SHAFT", ""⟩,
   ⟨0x1F828, 1, "LEFTWARDS TRIANGLE-HEADED ARROW WITH BOLD SHAFT", ""⟩,
   ⟨0x1F829, 1, "UPWARDS TRIANGLE-HEADED ARROW WITH BOLD SHAFT", ""⟩,
   ⟨0x1F82A, 1, "RIGHTWARDS TRIANGLE-HEADED ARROW WITH BOLD SHAFT", ""⟩,
   ⟨0x1F82B, 1, "DOWNWARDS TRIANGLE-HEADED ARROW WITH BOLD SHAFT", ""⟩,
   ⟨0x1F82C, 1, "LEFTWARDS TRIANGLE-HEADED ARROW WITH HEAVY SHAFT", ""⟩,
   ⟨0x1F82D, 1, "UPWARDS TRIANGLE-HEADED ARROW WITH HEAVY SHAFT", ""⟩,
   ⟨0x1F82E, 1, "RIGHTWARDS TRIANGLE-HEADED ARROW WITH HEAVY SHAFT", ""⟩,
   ⟨0x1F82F, 1, "DOWNWARDS TRIANGLE-HEADED ARROW WITH HEAVY SHAFT", ""⟩,
   ⟨0x1F830, 1, "LEFTWARDS TRIANGLE-HEADED ARROW WITH VERY HEAVY SHAFT", ""⟩,
   ⟨0x1F831, 1, "UPWARDS TRIANGLE-HEADED ARROW WITH VERY HEAVY SHAFT", ""⟩,
   ⟨0x1F832, 1, "RIGHTWARDS TRIANGLE-HEADED ARROW WITH VERY HEAVY SHAFT", ""⟩,
   ⟨0x1F833, 1, "DOWNWARDS TRIANGLE-HEADED ARROW WITH VERY HEAVY SHAFT", ""⟩,
   ⟨0x1F834, 1, "LEFTWARDS FINGER-POST ARROW", ""⟩,
   ⟨0x1F835, 1, "", "UPWARDS FINGER-POST ARROW,RIGHTWARDS FINGER-POST ARROW"⟩,
   ⟨0x1F837, 1, "", "DOWNWARDS FINGER-POST ARROW,LEFTWARDS SQUARED ARROW,UPWARDS SQUARED ARROW"⟩,
   ⟨0x1F83A, 1, "", "RIGHTWARDS SQUARED ARROW,DOWNWARDS SQUARED ARROW,LEFTWARDS COMPRESSED ARROW"⟩,
   ⟨0x1F83D, 1, "", "UPWARDS COMPRESSED ARROW,RIGHTWARDS COMPRESSED ARROW"⟩,
   ⟨0x1F83F, 1, "", "DOWNWARDS COMPRESSED ARROW,LEFTWARDS HEAVY COMPRESSED ARROW"⟩,
   ⟨0x1F841, 1, "", "UPWARDS HEAVY COMPRESSED ARROW,RIGHTWARDS HEAVY COMPRESSED ARROW"⟩,
   ⟨0x1F843, 1, "", "DOWNWARDS HEAVY COMPRESSED ARROW,LEFTWARDS HEAVY ARROW"⟩,
   ⟨0x1F845, 1, "", "UPWARDS HEAVY ARROW,RIGHTWARDS HEAVY ARROW,DOWNWARDS HEAVY ARROW"⟩,
   ⟨0x1F850, 1, "", "LEFTWARDS SANS-SERIF ARROW,UPWARDS SANS-SERIF ARROW"⟩,
   ⟨0x1F852, 1, "", "RIGHTWARDS SANS-SERIF ARROW,DOWNWARDS SANS-SERIF ARROW"⟩,
   ⟨0x1F854, 1, "NORTH ", "WEST SANS-SERIF ARROW,EAST SANS-SERIF ARROW"⟩,
   ⟨0x1F856, 1, "SOUTH ", "EAST SANS-SERIF ARROW,WEST SANS-SERIF ARROW"⟩,
   ⟨0x1F858, 1, "", "LEFT RIGHT SANS-SERIF ARROW,UP DOWN SANS-SERIF ARROW"⟩,
   ⟨0x1F860, 2, "WIDE-HEADED ", "LEFTWARDS LIGHT BARB ARROW,RIGHTWARDS LIGHT BARB ARROW"⟩,
   ⟨0x1F861, 2, "WIDE-HEADED ", "UPWARDS LIGHT BARB ARROW,DOWNWARDS LIGHT BARB ARROW"⟩,
   ⟨0x1F864, 1, "WIDE-HEADED NORTH ", "WEST LIGHT BARB ARROW,EAST LIGHT BARB ARROW"⟩,
   ⟨0x1F866, 1, "WIDE-HEADED SOUTH ", "EAST LIGHT BARB ARROW,WEST LIGHT BARB ARROW"⟩,
   ⟨0x1F868, 2, "WIDE-HEADED ", "LEFTWARDS BARB ARROW,RIGHTWARDS BARB ARROW,NORTH WEST BARB ARROW"⟩,
   ⟨0x1F869, 2, "WIDE-HEADED ", "UPWARDS BARB ARROW,DOWNWARDS BARB ARROW,NORTH EAST BARB ARROW"⟩,
   ⟨0x1F86E, 1, "WIDE-HEADED SOUTH ", "EAST BARB ARROW,WEST BARB ARROW"⟩,
   ⟨0x1F870, 2, "WIDE-HEADED ", "LEFTWARDS MEDIUM BARB ARROW,RIGHTWARDS MEDIUM BARB ARROW"⟩,
   ⟨0x1F871, 2, "WIDE-HEADED ", "UPWARDS MEDIUM BARB ARROW,DOWNWARDS MEDIUM BARB ARROW"⟩,
   ⟨0x1F874, 1, "WIDE-HEADED NORTH ", "WEST MEDIUM BARB ARROW,EAST MEDIUM BARB ARROW"⟩,
   ⟨0x1F876, 1, "WIDE-HEADED SOUTH ", "EAST MEDIUM BARB ARROW,WEST MEDIUM BARB ARROW"⟩,
   ⟨0x1F878, 2, "WIDE-HEADED ", "LEFTWARDS HEAVY BARB ARROW,RIGHTWARDS HEAVY BARB ARROW"⟩,
   ⟨0x1F879, 2, "WIDE-HEADED ", "UPWARDS HEAVY BARB ARROW,DOWNWARDS HEAVY BARB ARROW"⟩,
   ⟨0x1F87C, 1, "WIDE-HEADED NORTH ", "WEST HEAVY BARB ARROW,EAST HEAVY BARB ARROW"⟩,
   ⟨0x1F87E, 1, "WIDE-HEADED SOUTH ", "EAST HEAVY BARB ARROW,WEST HEAVY BARB ARROW"⟩,
   ⟨0x1F880, 2, "WIDE-HEADED ", "LEFTWARDS VERY HEAVY BARB ARROW,RIGHTWARDS VERY HEAVY BARB ARROW"⟩,
   ⟨0x1F881, 2, "WIDE-HEADED ", "UPWARDS VERY HEAVY BARB ARROW,DOWNWARDS VERY HEAVY BARB ARROW"⟩,
   ⟨0x1F884, 1, "WIDE-HEADED NORTH ", "WEST VERY HEAVY BARB ARROW,EAST VERY HEAVY BARB ARROW"⟩,
   ⟨0x1F886, 1, "WIDE-HEADED SOUTH ", "EAST VERY HEAVY BARB ARROW,WEST VERY HEAVY BARB ARROW"⟩,
   ⟨0x1F890, 1, "LEFTWARDS TRIANGLE ARROWHEAD", ""⟩,
   ⟨0x1F891, 1, "", "UPWARDS TRIANGLE ARROWHEAD,RIGHTWARDS TRIANGLE ARROWHEAD"⟩,
   ⟨0x1F893, 1, "", "DOWNWARDS TRIANGLE ARROWHEAD,LEFTWARDS WHITE ARROW WITHIN TRIANGLE ARROWHEAD"⟩,
   ⟨0x1F895, 1, "UPWARDS WHITE ARROW WITHIN TRIANGLE ARROWHEAD", ""⟩,
   ⟨0x1F896, 1, "RIGHTWARDS WHITE ARROW WITHIN TRIANGLE ARROWHEAD", ""⟩,
   ⟨0x1F897, 1, "DOWNWARDS WHITE ARROW WITHIN TRIANGLE ARROWHEAD", ""⟩,
   ⟨0x1F898, 1, "", "LEFTWARDS ARROW WITH NOTCHED TAIL,UPWARDS ARROW WITH NOTCHED TAIL"⟩,
   ⟨0x1F89A, 1, "", "RIGHTWARDS ARROW WITH NOTCHED TAIL,DOWNWARDS ARROW WITH NOTCHED TAIL"⟩,
   ⟨0x1F89C, 1, "HEAVY ARROW SHAFT WIDTH ", "ONE,TWO THIRDS,ONE HALF,ONE THIRD"⟩,
   ⟨0x1F8A0, 2, "LEFTWARDS ", "BOTTOM-SHADED WHITE ARROW,TOP SHADED WHITE ARROW"⟩,
   ⟨0x1F8A1, 2, "RIGHTWARDS ", "BOTTOM SHADED WHITE ARROW,TOP SHADED WHITE ARROW"⟩,
   ⟨0x1F8A4, 2, "LEFTWARDS ", "LEFT-SHADED WHITE ARROW,RIGHT-SHADED WHITE ARROW"⟩,
   ⟨0x1F8A5, 2, "RIGHTWARDS ", "RIGHT-SHADED WHITE ARROW,LEFT-SHADED WHITE ARROW"⟩,
   ⟨0x1F8A8, 2, "LEFTWARDS ", "BACK-TILTED SHADOWED WHITE ARROW,FRONT-TILTED SHADOWED WHITE ARROW"⟩,
   ⟨0x1F8A9, 2,
    "RIGHTWARDS ", "BACK-TILTED SHADOWED WHITE ARROW,FRONT-TILTED SHADOWED WHITE ARROW"⟩,
   ⟨0x1F8AC, 1, "WHITE ARROW SHAFT WIDTH ", "ONE,TWO THIRDS"⟩,
   ⟨0x1F8B0, 1, "ARROW POINTING ", "UPWARDS THEN NORTH WEST,RIGHTWARDS THEN CURVING SOUTH WEST"⟩,
   ⟨0x1F900, 1, "CIRCLED CROSS ", "FORMEE WITH FOUR DOTS,FORMEE WITH TWO DOTS,FORMEE"⟩,
   ⟨0x1F903, 1, "LEFT HALF CIRCLE WITH ", "FOUR DOTS,THREE DOTS,TWO DOTS,DOT"⟩,
   ⟨0x1F907, 1, "LEFT HALF CIRCLE", ""⟩,
   ⟨0x1F908, 1, "DOWNWARD FACING ", "HOOK,NOTCHED HOOK,HOOK WITH DOT,NOTCHED HOOK WITH DOT"⟩,
   ⟨0x1F90C, 1, "", "PINCHED FINGERS,WHITE HEART,BROWN HEART,PINCHING HAND,ZIPPER-MOUTH FACE"⟩,
   ⟨0x1F911, 1, "", "MONEY-MOUTH FACE,FACE WITH THERMOMETER,NERD FACE,THINKING FACE"⟩,
   ⟨0x1F915, 1, "", "FACE WITH HEAD-BANDAGE,ROBOT FACE,HUGGING FACE,SIGN OF THE HORNS"⟩,
   ⟨0x1F919, 1, "", "CALL ME HAND,RAISED BACK OF HAND,LEFT-FACING FIST,RIGHT-FACING FIST"⟩,
   ⟨0x1F91D, 1, "", "HANDSHAKE,HAND WITH INDEX AND MIDDLE FINGERS CROSSED,I LOVE YOU HAND SIGN"⟩,
   ⟨0x1F920, 1, "", "FACE WITH COWBOY HAT,CLOWN FACE,NAUSEATED FACE,ROLLING ON THE FLOOR LAUGHING"⟩,
   ⟨0x1F924, 1,
    "", "DROOLING FACE,LYING FACE,FACE PALM,SNEEZING FACE,FACE WITH ONE EYEBROW RAISED"⟩,
   ⟨0x1F929, 1, "GRINNING FACE WITH ", "STAR EYES,ONE LARGE AND ONE SMALL EYE"⟩,
   ⟨0x1F92B, 1, "FACE WITH FINGER COVERING CLOSED LIPS", ""⟩,
   ⟨0x1F92C, 1, "SERIOUS FACE WITH SYMBOLS COVERING MOUTH", ""⟩,
   ⟨0x1F92D, 1, "SMILING FACE WITH SMILING EYES AND HAND COVERING MOUTH", ""⟩,
   ⟨0x1F92E, 1,
    "", "FACE WITH OPEN MOUTH VOMITING,SHOCKED FACE WITH EXPLODING HEAD,PREGNANT WOMAN"⟩,
   ⟨0x1F931, 1,
    "", "BREAST-FEEDING,PALMS UP TOGETHER,SELFIE,PRINCE,MAN IN TUXEDO,MOTHER CHRISTMAS"⟩,
   ⟨0x1F937, 1, "", "SHRUG,PERSON DOING CARTWHEEL,JUGGLING,FENCER,MODERN PENTATHLON"⟩,
   ⟨0x1F93C, 1, "", "WRESTLERS,WATER POLO,HANDBALL,DIVING MASK,WILTED FLOWER,DRUM WITH DRUMSTICKS"⟩,
   ⟨0x1F942, 1, "", "CLINKING GLASSES,TUMBLER GLASS,SPOON,GOAL NET,RIFLE,FIRST PLACE MEDAL"⟩,
   ⟨0x1F948, 1, "", "SECOND PLACE MEDAL,THIRD PLACE MEDAL,BOXING GLOVE,MARTIAL ARTS UNIFORM"⟩,
   ⟨0x1F94C, 1, "", "CURLING STONE,LACROSSE STICK AND BALL,SOFTBALL,FLYING DISC,CROISSANT,AVOCADO"⟩,
   ⟨0x1F952, 1, "", "CUCUMBER,BACON,POTATO,CARROT,BAGUETTE BREAD,GREEN SALAD,SHALLOW PAN OF FOOD"⟩,
   ⟨0x1F959, 1, "", "STUFFED FLATBREAD,EGG,GLASS OF MILK,PEANUTS,KIWIFRUIT,PANCAKES"⟩,
   ⟨0x1F95F, 1,
    "", "DUMPLING,FORTUNE COOKIE,TAKEOUT BOX,CHOPSTICKS,BOWL WITH SPOON,CUP WITH STRAW"⟩,
   ⟨0x1F965, 1, "", "COCONUT,BROCCOLI,PIE,PRETZEL,CUT OF MEAT,SANDWICH,CANNED FOOD,LEAFY GREEN"⟩,
   ⟨0x1F96D, 1, "", "MANGO,MOON CAKE,BAGEL,SMILING FACE WITH SMILING EYES AND THREE HEARTS"⟩,
   ⟨0x1F971, 1, "", "YAWNING FACE,SMILING FACE WITH TEAR"⟩,
   ⟨0x1F973, 1, "FACE WITH ", "PARTY HORN AND PARTY HAT,UNEVEN EYES AND WAVY MOUTH"⟩,
   ⟨0x1F975, 1, "", "OVERHEATED FACE,FREEZING FACE,NINJA,DISGUISED FACE,FACE HOLDING BACK TEARS"⟩,
   ⟨0x1F97A, 1, "", "FACE WITH PLEADING EYES,SARI,LAB COAT,GOGGLES,HIKING BOOT,FLAT SHOE"⟩,
   ⟨0x1F980, 1,
    "", "CRAB,LION FACE,SCORPION,TURKEY,UNICORN FACE,EAGLE,DUCK,BAT,SHARK,OWL,FOX FACE"⟩,
   ⟨0x1F98B, 1,
    "", "BUTTERFLY,DEER,GORILLA,LIZARD,RHINOCEROS,SHRIMP,SQUID,GIRAFFE FACE,ZEBRA FACE"⟩,
   ⟨0x1F994, 1, "", "HEDGEHOG,SAUROPOD,T-REX,CRICKET,KANGAROO,LLAMA,PEACOCK,HIPPOPOTAMUS"⟩,
   ⟨0x1F99C, 1, "", "PARROT,RACCOON,LOBSTER,MOSQUITO,MICROBE,BADGER,SWAN,MAMMOTH,DODO,SLOTH,OTTER"⟩,
   ⟨0x1F9A7, 1, "", "ORANGUTAN,SKUNK,FLAMINGO,OYSTER,BEAVER,BISON,SEAL,GUIDE DOG,PROBING CANE"⟩,
   ⟨0x1F9B0, 1, "EMOJI COMPONENT ", "RED HAIR,CURLY HAIR,BALD,WHITE HAIR"⟩,
   ⟨0x1F9B4, 1, "", "BONE,LEG,FOOT,TOOTH,SUPERHERO,SUPERVILLAIN,SAFETY VEST,EAR WITH HEARING AID"⟩,
   ⟨0x1F9BC, 1, "", "MOTORIZED WHEELCHAIR,MANUAL WHEELCHAIR,MECHANICAL ARM,MECHANICAL LEG"⟩,
   ⟨0x1F9C0, 1, "", "CHEESE WEDGE,CUPCAKE,SALT SHAKER,BEVERAGE BOX,GARLIC,ONION,FALAFEL,WAFFLE"⟩,
   ⟨0x1F9C8, 1, "", "BUTTER,MATE DRINK,ICE CUBE,BUBBLE TEA,TROLL,STANDING PERSON,KNEELING PERSON"⟩,
   ⟨0x1F9CF, 1, "", "DEAF PERSON,FACE WITH MONOCLE,ADULT,CHILD,OLDER ADULT,BEARDED PERSON"⟩,
   ⟨0x1F9D5, 1, "PERSON ", "WITH HEADSCARF,IN STEAMY ROOM,CLIMBING,IN LOTUS POSITION"⟩,
   ⟨0x1F9D9, 1, "MAGE", ""⟩,
   ⟨0x1F9DA, 1, "", "FAIRY,VAMPIRE,MERPERSON,ELF,GENIE,ZOMBIE,BRAIN,ORANGE HEART,BILLED CAP,SCARF"⟩,
   ⟨0x1F9E4, 1,
    "", "GLOVES,COAT,SOCKS,RED GIFT ENVELOPE,FIRECRACKER,JIGSAW PUZZLE PIECE,TEST TUBE"⟩,
   ⟨0x1F9EB, 1, "", "PETRI DISH,DNA DOUBLE HELIX,COMPASS,ABACUS,FIRE EXTINGUISHER,TOOLBOX"⟩,
   ⟨0x1F9F1, 1, "", "BRICK,MAGNET,LUGGAGE,LOTION BOTTLE,SPOOL OF THREAD,BALL OF YARN,SAFETY PIN"⟩,
   ⟨0x1F9F8, 1,
    "", "TEDDY BEAR,BROOM,BASKET,ROLL OF PAPER,BAR OF SOAP,SPONGE,RECEIPT,NAZAR AMULET"⟩,
   ⟨0x1FA00, 1, "NEUTRAL CHESS ", "KING,QUEEN,ROOK,BISHOP,KNIGHT,PAWN"⟩,
   ⟨0x1FA06, 1, "WHITE CHESS KNIGHT ROTATED FORTY-FIVE DEGREES", ""⟩,
   ⟨0x1FA07, 1, "BLACK CHESS KNIGHT ROTATED FORTY-FIVE DEGREES", ""⟩,
   ⟨0x1FA08, 1, "NEUTRAL CHESS KNIGHT ROTATED FORTY-FIVE DEGREES", ""⟩,
   ⟨0x1FA09, 1, "WHITE CHESS ", "KING ROTATED NINETY DEGREES,QUEEN ROTATED NINETY DEGREES"⟩,
   ⟨0x1FA0B, 2, "WHITE CHESS ", "ROOK ROTATED NINETY DEGREES,KNIGHT ROTATED NINETY DEGREES"⟩,
   ⟨0x1FA0C, 2, "WHITE CHESS ", "BISHOP ROTATED NINETY DEGREES,PAWN ROTATED NINETY DEGREES"⟩,
   ⟨0x1FA0F, 1, "BLACK CHESS ", "KING ROTATED NINETY DEGREES,QUEEN ROTATED NINETY DEGREES"⟩,
   ⟨0x1FA11, 2, "BLACK CHESS ", "ROOK ROTATED NINETY DEGREES,KNIGHT ROTATED NINETY DEGREES"⟩,
   ⟨0x1FA12, 2, "BLACK CHESS ", "BISHOP ROTATED NINETY DEGREES,PAWN ROTATED NINETY DEGREES"⟩,
   ⟨0x1FA15, 1, "NEUTRAL CHESS ", "KING ROTATED NINETY DEGREES,QUEEN ROTATED NINETY DEGREES"⟩,
   ⟨0x1FA17, 2, "NEUTRAL CHESS ", "ROOK ROTATED NINETY DEGREES,KNIGHT ROTATED NINETY DEGREES"⟩,
   ⟨0x1FA18, 2, "NEUTRAL CHESS ", "BISHOP ROTATED NINETY DEGREES,PAWN ROTATED NINETY DEGREES"⟩,
   ⟨0x1FA1B, 1, "WHITE CHESS KNIGHT ROTATED ONE HUNDRED THIRTY-FIVE DEGREES", ""⟩,
   ⟨0x1FA1C, 1, "BLACK CHESS KNIGHT ROTATED ONE HUNDRED THIRTY-FIVE DEGREES", ""⟩,
   ⟨0x1FA1D, 1, "NEUTRAL CHESS KNIGHT ROTATED ONE HUNDRED THIRTY-FIVE DEGREES", ""⟩,
   ⟨0x1FA1E, 1, "WHITE CHESS TURNED ", "KING,QUEEN,ROOK,BISHOP,KNIGHT,PAWN"⟩,
   ⟨0x1FA24, 1, "BLACK CHESS TURNED ", "KING,QUEEN,ROOK,BISHOP,KNIGHT,PAWN"⟩,
   ⟨0x1FA2A, 1, "NEUTRAL CHESS TURNED ", "KING,QUEEN,ROOK,BISHOP,KNIGHT,PAWN"⟩,
   ⟨0x1FA30, 1, "WHITE CHESS KNIGHT ROTATED TWO HUNDRED TWENTY-FIVE DEGREES", ""⟩,
   ⟨0x1FA31, 1, "BLACK CHESS KNIGHT ROTATED TWO HUNDRED TWENTY-FIVE DEGREES", ""⟩,
   ⟨0x1FA32, 1, "NEUTRAL CHESS KNIGHT ROTATED TWO HUNDRED TWENTY-FIVE DEGREES", ""⟩,
   ⟨0x1FA33, 1, "WHITE CHESS KING ROTATED TWO HUNDRED SEVENTY DEGREES", ""⟩,
   ⟨0x1FA34, 1, "WHITE CHESS QUEEN ROTATED TWO HUNDRED SEVENTY DEGREES", ""⟩,
   ⟨0x1FA35, 1, "WHITE CHESS ROOK ROTATED TWO HUNDRED SEVENTY DEGREES", ""⟩,
   ⟨0x1FA36, 1, "WHITE CHESS BISHOP ROTATED TWO HUNDRED SEVENTY DEGREES", ""⟩,
   ⟨0x1FA37, 1, "WHITE CHESS KNIGHT ROTATED TWO HUNDRED SEVENTY DEGREES", ""⟩,
   ⟨0x1FA38, 1, "WHITE CHESS PAWN ROTATED TWO HUNDRED SEVENTY DEGREES", ""⟩,
   ⟨0x1FA39, 1, "BLACK CHESS KING ROTATED TWO HUNDRED SEVENTY DEGREES", ""⟩,
   ⟨0x1FA3A, 1, "BLACK CHESS QUEEN ROTATED TWO HUNDRED SEVENTY DEGREES", ""⟩,
   ⟨0x1FA3B, 1, "BLACK CHESS ROOK ROTATED TWO HUNDRED SEVENTY DEGREES", ""⟩,
   ⟨0x1FA3C, 1, "BLACK CHESS BISHOP ROTATED TWO HUNDRED SEVENTY DEGREES", ""⟩,
   ⟨0x1FA3D, 1, "BLACK CHESS KNIGHT ROTATED TWO HUNDRED SEVENTY DEGREES", ""⟩,
   ⟨0x1FA3E, 1, "BLACK CHESS PAWN ROTATED TWO HUNDRED SEVENTY DEGREES", ""⟩,
   ⟨0x1FA3F, 1, "NEUTRAL CHESS KING ROTATED TWO HUNDRED SEVENTY DEGREES", ""⟩,
   ⟨0x1FA40, 1, "NEUTRAL CHESS QUEEN ROTATED TWO HUNDRED SEVENTY DEGREES", ""⟩,
   ⟨0x1FA41, 1, "NEUTRAL CHESS ROOK ROTATED TWO HUNDRED SEVENTY DEGREES", ""⟩,
   ⟨0x1FA42, 1, "NEUTRAL CHESS BISHOP ROTATED TWO HUNDRED SEVENTY DEGREES", ""⟩,
   ⟨0x1FA43, 1, "NEUTRAL CHESS KNIGHT ROTATED TWO HUNDRED SEVENTY DEGREES", ""⟩,
   ⟨0x1FA44, 1, "NEUTRAL CHESS PAWN ROTATED TWO HUNDRED SEVENTY DEGREES", ""⟩,
   ⟨0x1FA45, 1, "WHITE CHESS KNIGHT ROTATED THREE HUNDRED FIFTEEN DEGREES", ""⟩,
   ⟨0x1FA46, 1, "BLACK CHESS KNIGHT ROTATED THREE HUNDRED FIFTEEN DEGREES", ""⟩,
   ⟨0x1FA47, 1, "NEUTRAL CHESS KNIGHT ROTATED THREE HUNDRED FIFTEEN DEGREES", ""⟩,
   ⟨0x1FA48, 1, "", "WHITE CHESS EQUIHOPPER,BLACK CHESS EQUIHOPPER"⟩,
   ⟨0x1FA4A, 1, "", "NEUTRAL CHESS EQUIHOPPER,WHITE CHESS EQUIHOPPER ROTATED NINETY DEGREES"⟩,
   ⟨0x1FA4C, 1, "BLACK CHESS EQUIHOPPER ROTATED NINETY DEGREES", ""⟩,
   ⟨0x1FA4D, 1, "NEUTRAL CHESS EQUIHOPPER ROTATED NINETY DEGREES", ""⟩,
   ⟨0x1FA4E, 1, "WHITE CHESS KNIGHT-", "QUEEN,ROOK,BISHOP"⟩,
   ⟨0x1FA51, 1, "BLACK CHESS KNIGHT-", "QUEEN,ROOK,BISHOP"⟩,
   ⟨0x1FA60, 1, "XIANGQI RED ", "GENERAL,MANDARIN,ELEPHANT,HORSE,CHARIOT,CANNON,SOLDIER"⟩,
   ⟨0x1FA67, 1, "XIANGQI BLACK ", "GENERAL,MANDARIN,ELEPHANT,HORSE,CHARIOT,CANNON,SOLDIER"⟩,
   ⟨0x1FA70, 1, "", "BALLET SHOES,ONE-PIECE SWIMSUIT,BRIEFS,SHORTS,THONG SANDAL"⟩,
   ⟨0x1FA78, 1, "", "DROP OF BLOOD,ADHESIVE BANDAGE,STETHOSCOPE,X-RAY,CRUTCH"⟩,
   ⟨0x1FA80, 1, "", "YO-YO,KITE,PARACHUTE,BOOMERANG,MAGIC WAND,PINATA,NESTING DOLLS"⟩,
   ⟨0x1FA90, 1, "", "RINGED PLANET,CHAIR,RAZOR,AXE,DIYA LAMP,BANJO"⟩,
   ⟨0x1FA96, 1, "", "MILITARY HELMET,ACCORDION,LONG DRUM,COIN,CARPENTRY SAW,SCREWDRIVER,LADDER"⟩,
   ⟨0x1FA9D, 1, "", "HOOK,MIRROR,WINDOW,PLUNGER,SEWING NEEDLE,KNOT,BUCKET,MOUSE TRAP,TOOTHBRUSH"⟩,
   ⟨0x1FAA6, 1, "", "HEADSTONE,PLACARD,ROCK,MIRROR BALL,IDENTIFICATION CARD,LOW BATTERY,HAMSA"⟩,
   ⟨0x1FAB0, 1, "", "FLY,WORM,BEETLE"⟩,
   ⟨0x1FAB3, 1, "", "COCKROACH,POTTED PLANT,WOOD,FEATHER,LOTUS,CORAL,EMPTY NEST,NEST WITH EGGS"⟩,
   ⟨0x1FAC0, 1, "ANATOMICAL HEART", ""⟩,
   ⟨0x1FAC1, 1, "", "LUNGS,PEOPLE HUGGING,PREGNANT MAN,PREGNANT PERSON,PERSON WITH CROWN"⟩,
   ⟨0x1FAD0, 1, "BLUEBERRIES", ""⟩,
   ⟨0x1FAD1, 1, "", "BELL PEPPER,OLIVE,FLATBREAD,TAMALE,FONDUE,TEAPOT,POURING LIQUID,BEANS,JAR"⟩,
   ⟨0x1FAE0, 1, "", "MELTING FACE,SALUTING FACE"⟩,
   ⟨0x1FAE2, 1, "FACE WITH ", "OPEN EYES AND HAND OVER MOUTH,PEEKING EYE,DIAGONAL MOUTH"⟩,
   ⟨0x1FAE5, 1, "", "DOTTED LINE FACE,BITING LIP,BUBBLES"⟩,
   ⟨0x1FAF0, 1, "", "HAND WITH INDEX FINGER AND THUMB CROSSED,RIGHTWARDS HAND,LEFTWARDS HAND"⟩,
   ⟨0x1FAF3, 1, "", "PALM DOWN HAND,PALM UP HAND,INDEX POINTING AT THE VIEWER,HEART HANDS"⟩,
   ⟨0x1FB00, 2, "BLOCK SEXTANT-", "1,12,13,123,14,124,134,1234,15,125,235,45,245,345,2345,6,26"⟩,
   ⟨0x1FB01, 2, "BLOCK SEXTANT-", "2,3,23,4,24,34,234,5,25,35,1235,145,1245,1345,12345,16"⟩,
   ⟨0x1FB21, 2, "BLOCK SEXTANT-", "126,136,1236,146,346,2346,56,256,356,2356,456,2456,3456,23456"⟩,
   ⟨0x1FB22, 2, "BLOCK SEXTANT-", "36,236,46,1246,1346,12346,156,1256,1356,12356,1456,12456,13456"⟩,
   ⟨0x1FB3C, 1, "LOWER LEFT BLOCK DIAGONAL LOWER MIDDLE LEFT TO LOWER ", "CENTRE,RIGHT"⟩,
   ⟨0x1FB3E, 1, "LOWER LEFT BLOCK DIAGONAL UPPER MIDDLE LEFT TO LOWER ", "CENTRE,RIGHT"⟩,
   ⟨0x1FB40, 1, "LOWER LEFT BLOCK DIAGONAL UPPER LEFT TO LOWER CENTRE", ""⟩,
   ⟨0x1FB41, 1, "LOWER RIGHT BLOCK DIAGONAL UPPER MIDDLE LEFT TO UPPER ", "CENTRE,RIGHT"⟩,
   ⟨0x1FB43, 1, "LOWER RIGHT BLOCK DIAGONAL LOWER MIDDLE LEFT TO UPPER ", "CENTRE,RIGHT"⟩,
   ⟨0x1FB45, 1, "LOWER RIGHT BLOCK DIAGONAL LOWER LEFT TO UPPER CENTRE", ""⟩,
   ⟨0x1FB46, 1, "LOWER RIGHT BLOCK DIAGONAL LOWER MIDDLE LEFT TO UPPER MIDDLE RIGHT", ""⟩,
   ⟨0x1FB47, 1, "LOWER RIGHT BLOCK DIAGONAL LOWER CENTRE TO LOWER MIDDLE RIGHT", ""⟩,
   ⟨0x1FB48, 1, "LOWER RIGHT BLOCK DIAGONAL LOWER LEFT TO LOWER MIDDLE RIGHT", ""⟩,
   ⟨0x1FB49, 1, "LOWER RIGHT BLOCK DIAGONAL LOWER CENTRE TO UPPER MIDDLE RIGHT", ""⟩,
   ⟨0x1FB4A, 1, "LOWER RIGHT BLOCK DIAGONAL LOWER LEFT TO UPPER MIDDLE RIGHT", ""⟩,
   ⟨0x1FB4B, 1, "LOWER RIGHT BLOCK DIAGONAL LOWER CENTRE TO UPPER RIGHT", ""⟩,
   ⟨0x1FB4C, 1, "LOWER LEFT BLOCK DIAGONAL UPPER CENTRE TO UPPER MIDDLE RIGHT", ""⟩,
   ⟨0x1FB4D, 2,
    "LOWER LEFT BLOCK DIAGONAL UPPER LEFT TO ", "UPPER MIDDLE RIGHT,LOWER MIDDLE RIGHT"⟩,
   ⟨0x1FB4E, 2, "LOWER LEFT BLOCK DIAGONAL UPPER CENTRE TO LOWER ", "MIDDLE RIGHT,RIGHT"⟩,
   ⟨0x1FB51, 1, "LOWER LEFT BLOCK DIAGONAL UPPER MIDDLE LEFT TO LOWER MIDDLE RIGHT", ""⟩,
   ⟨0x1FB52, 1, "UPPER RIGHT BLOCK DIAGONAL LOWER MIDDLE LEFT TO LOWER ", "CENTRE,RIGHT"⟩,
   ⟨0x1FB54, 1, "UPPER RIGHT BLOCK DIAGONAL UPPER MIDDLE LEFT TO LOWER ", "CENTRE,RIGHT"⟩,
   ⟨0x1FB56, 1, "UPPER RIGHT BLOCK DIAGONAL UPPER LEFT TO LOWER CENTRE", ""⟩,
   ⟨0x1FB57, 1, "UPPER LEFT BLOCK DIAGONAL UPPER MIDDLE LEFT TO UPPER ", "CENTRE,RIGHT"⟩,
   ⟨0x1FB59, 1, "UPPER LEFT BLOCK DIAGONAL LOWER MIDDLE LEFT TO UPPER ", "CENTRE,RIGHT"⟩,
   ⟨0x1FB5B, 1, "UPPER LEFT BLOCK DIAGONAL LOWER LEFT TO UPPER CENTRE", ""⟩,
   ⟨0x1FB5C, 1, "UPPER LEFT BLOCK DIAGONAL LOWER MIDDLE LEFT TO UPPER MIDDLE RIGHT", ""⟩,
   ⟨0x1FB5D, 1, "UPPER LEFT BLOCK DIAGONAL LOWER CENTRE TO LOWER MIDDLE RIGHT", ""⟩,
   ⟨0x1FB5E, 2,
    "UPPER LEFT BLOCK DIAGONAL LOWER LEFT TO ", "LOWER MIDDLE RIGHT,UPPER MIDDLE RIGHT"⟩,
   ⟨0x1FB5F, 2, "UPPER LEFT BLOCK DIAGONAL LOWER CENTRE TO UPPER ", "MIDDLE RIGHT,RIGHT"⟩,
   ⟨0x1FB62, 1, "UPPER RIGHT BLOCK DIAGONAL UPPER CENTRE TO UPPER MIDDLE RIGHT", ""⟩,
   ⟨0x1FB63, 1, "UPPER RIGHT BLOCK DIAGONAL UPPER LEFT TO UPPER MIDDLE RIGHT", ""⟩,
   ⟨0x1FB64, 1, "UPPER RIGHT BLOCK DIAGONAL UPPER CENTRE TO LOWER MIDDLE RIGHT", ""⟩,
   ⟨0x1FB65, 1, "UPPER RIGHT BLOCK DIAGONAL UPPER LEFT TO LOWER MIDDLE RIGHT", ""⟩,
   ⟨0x1FB66, 1, "UPPER RIGHT BLOCK DIAGONAL UPPER CENTRE TO LOWER RIGHT", ""⟩,
   ⟨0x1FB67, 1, "UPPER RIGHT BLOCK DIAGONAL UPPER MIDDLE LEFT TO LOWER MIDDLE RIGHT", ""⟩,
   ⟨0x1FB68, 1, "UPPER AND RIGHT AND LOWER TRIANGULAR THREE QUARTERS BLOCK", ""⟩,
   ⟨0x1FB69, 1, "LEFT AND LOWER AND RIGHT TRIANGULAR THREE QUARTERS BLOCK", ""⟩,
   ⟨0x1FB6A, 1, "UPPER AND LEFT AND LOWER TRIANGULAR THREE QUARTERS BLOCK", ""⟩,
   ⟨0x1FB6B, 1, "LEFT AND UPPER AND RIGHT TRIANGULAR THREE QUARTERS BLOCK", ""⟩,
   ⟨0x1FB6C, 1, "", "LEFT TRIANGULAR ONE QUARTER BLOCK,UPPER TRIANGULAR ONE QUARTER BLOCK"⟩,
   ⟨0x1FB6E, 1, "", "RIGHT TRIANGULAR ONE QUARTER BLOCK,LOWER TRIANGULAR ONE QUARTER BLOCK"⟩,
   ⟨0x1FB70, 1, "VERTICAL ONE EIGHTH BLOCK-", "2,3,4,5,6,7"⟩,
   ⟨0x1FB76, 1, "HORIZONTAL ONE EIGHTH BLOCK-", "2,3,4,5,6,7"⟩,
   ⟨0x1FB7C, 1, "LEFT AND ", "LOWER ONE EIGHTH BLOCK,UPPER ONE EIGHTH BLOCK"⟩,
   ⟨0x1FB7E, 1, "RIGHT AND ", "UPPER ONE EIGHTH BLOCK,LOWER ONE EIGHTH BLOCK"⟩,
   ⟨0x1FB80, 1, "", "UPPER AND LOWER ONE EIGHTH BLOCK,HORIZONTAL ONE EIGHTH BLOCK-1358"⟩,
   ⟨0x1FB82, 2, "UPPER ", "ONE QUARTER BLOCK,FIVE EIGHTHS BLOCK,SEVEN EIGHTHS BLOCK"⟩,
   ⟨0x1FB83, 2, "UPPER THREE ", "EIGHTHS BLOCK,QUARTERS BLOCK"⟩,
   ⟨0x1FB87, 1, "RIGHT ", "ONE QUARTER BLOCK,THREE EIGHTHS BLOCK,FIVE EIGHTHS BLOCK"⟩,
   ⟨0x1FB8A, 1, "", "RIGHT THREE QUARTERS BLOCK,RIGHT SEVEN EIGHTHS BLOCK,LEFT HALF MEDIUM SHADE"⟩,
   ⟨0x1FB8D, 1, "", "RIGHT HALF MEDIUM SHADE,UPPER HALF MEDIUM SHADE,LOWER HALF MEDIUM SHADE"⟩,
   ⟨0x1FB90, 1, "", "INVERSE MEDIUM SHADE,UPPER HALF BLOCK AND LOWER HALF INVERSE MEDIUM SHADE"⟩,
   ⟨0x1FB92, 1, "UPPER HALF INVERSE MEDIUM SHADE AND LOWER HALF BLOCK", ""⟩,
   ⟨0x1FB94, 1, "LEFT HALF INVERSE MEDIUM SHADE AND RIGHT HALF BLOCK", ""⟩,
   ⟨0x1FB95, 1, "", "CHECKER BOARD FILL,INVERSE CHECKER BOARD FILL,HEAVY HORIZONTAL FILL"⟩,
   ⟨0x1FB98, 1, "UPPER ", "LEFT TO LOWER RIGHT FILL,RIGHT TO LOWER LEFT FILL"⟩,
   ⟨0x1FB9A, 1, "", "UPPER AND LOWER TRIANGULAR HALF BLOCK,LEFT AND RIGHT TRIANGULAR HALF BLOCK"⟩,
   ⟨0x1FB9C, 1, "UPPER ", "LEFT TRIANGULAR MEDIUM SHADE,RIGHT TRIANGULAR MEDIUM SHADE"⟩,
   ⟨0x1FB9E, 1, "LOWER ", "RIGHT TRIANGULAR MEDIUM SHADE,LEFT TRIANGULAR MEDIUM SHADE"⟩,
   ⟨0x1FBA0, 1, "BOX DRAWINGS LIGHT DIAGONAL UPPER CENTRE TO MIDDLE ", "LEFT,RIGHT"⟩,
   ⟨0x1FBA2, 1,
    "BOX DRAWINGS LIGHT DIAGONAL MIDDLE ", "LEFT TO LOWER CENTRE,RIGHT TO LOWER CENTRE"⟩,
   ⟨0x1FBA4, 1, "BOX DRAWINGS LIGHT DIAGONAL UPPER CENTRE TO MIDDLE LEFT TO LOWER CENTRE", ""⟩,
   ⟨0x1FBA5, 1, "BOX DRAWINGS LIGHT DIAGONAL UPPER CENTRE TO MIDDLE RIGHT TO LOWER CENTRE", ""⟩,
   ⟨0x1FBA6, 1, "BOX DRAWINGS LIGHT DIAGONAL MIDDLE LEFT TO LOWER CENTRE TO MIDDLE RIGHT", ""⟩,
   ⟨0x1FBA7, 1, "BOX DRAWINGS LIGHT DIAGONAL MIDDLE LEFT TO UPPER CENTRE TO MIDDLE RIGHT", ""⟩,
   ⟨0x1FBA8, 1,
    "BOX DRAWINGS LIGHT DIAGONAL UPPER CENTRE TO MIDDLE LEFT AND MIDDLE RIGHT TO LOWER CENTRE", ""⟩,
   ⟨0x1FBA9, 1,
    "BOX DRAWINGS LIGHT DIAGONAL UPPER CENTRE TO MIDDLE RIGHT AND MIDDLE LEFT TO LOWER CENTRE", ""⟩,
   ⟨0x1FBAA, 1,
    "BOX DRAWINGS LIGHT DIAGONAL UPPER CENTRE TO MIDDLE RIGHT TO LOWER CENTRE TO MIDDLE LEFT", ""⟩,
   ⟨0x1FBAB, 1,
    "BOX DRAWINGS LIGHT DIAGONAL UPPER CENTRE TO MIDDLE LEFT TO LOWER CENTRE TO MIDDLE RIGHT", ""⟩,
   ⟨0x1FBAC, 1,
    "BOX DRAWINGS LIGHT DIAGONAL MIDDLE LEFT TO UPPER CENTRE TO MIDDLE RIGHT TO LOWER CENTRE", ""⟩,
   ⟨0x1FBAD, 1,
    "BOX DRAWINGS LIGHT DIAGONAL MIDDLE RIGHT TO UPPER CENTRE TO MIDDLE LEFT TO LOWER CENTRE", ""⟩,
   ⟨0x1FBAE, 1, "BOX DRAWINGS LIGHT ", "DIAGONAL DIAMOND,HORIZONTAL WITH VERTICAL STROKE"⟩,
   ⟨0x1FBB0, 1, "", "ARROWHEAD-SHAPED POINTER,INVERSE CHECK MARK,LEFT HALF RUNNING MAN"⟩,
   ⟨0x1FBB3, 1, "", "RIGHT HALF RUNNING MAN,INVERSE DOWNWARDS ARROW WITH TIP LEFTWARDS"⟩,
   ⟨0x1FBB5, 1, "LEFTWARDS ARROW AND UPPER AND LOWER ONE EIGHTH BLOCK", ""⟩,
   ⟨0x1FBB6, 1, "RIGHTWARDS ARROW AND UPPER AND LOWER ONE EIGHTH BLOCK", ""⟩,
   ⟨0x1FBB7, 1, "DOWNWARDS ARROW AND RIGHT ONE EIGHTH BLOCK", ""⟩,
   ⟨0x1FBB8, 1, "UPWARDS ARROW AND RIGHT ONE EIGHTH BLOCK", ""⟩,
   ⟨0x1FBB9, 1, "", "LEFT HALF FOLDER,RIGHT HALF FOLDER,VOIDED GREEK CROSS,RIGHT OPEN SQUARED DOT"⟩,
   ⟨0x1FBBD, 1, "NEGATIVE DIAGONAL ", "CROSS,MIDDLE RIGHT TO LOWER CENTRE,DIAMOND"⟩,
   ⟨0x1FBC0, 1, "WHITE HEAVY SALTIRE WITH ROUNDED CORNERS", ""⟩,
   ⟨0x1FBC1, 1,
    "", "LEFT THIRD WHITE RIGHT POINTING INDEX,MIDDLE THIRD WHITE RIGHT POINTING INDEX"⟩,
   ⟨0x1FBC3, 1, "", "RIGHT THIRD WHITE RIGHT POINTING INDEX,NEGATIVE SQUARED QUESTION MARK"⟩,
   ⟨0x1FBC5, 1,
    "STICK ", "FIGURE,FIGURE WITH ARMS RAISED,FIGURE LEANING LEFT,FIGURE LEANING RIGHT"⟩,
   ⟨0x1FBC9, 1, "", "STICK FIGURE WITH DRESS,WHITE UP-POINTING CHEVRON"⟩,
   ⟨0x1FBF0, 1, "SEGMENTED DIGIT ", "ZERO,ONE,TWO,THREE,FOUR,FIVE,SIX,SEVEN,EIGHT,NINE"⟩,
   ⟨0xE0001, 1, "LANGUAGE TAG", ""⟩,
   ⟨0xE0020, 1, "TAG ", "SPACE,EXCLAMATION MARK,QUOTATION MARK,NUMBER SIGN"⟩,
   ⟨0xE0024, 2, "TAG ", "DOLLAR SIGN,AMPERSAND,LEFT PARENTHESIS,ASTERISK,COMMA,FULL STOP"⟩,
   ⟨0xE0025, 2, "TAG ", "PERCENT SIGN,APOSTROPHE,RIGHT PARENTHESIS,PLUS SIGN,HYPHEN-MINUS,SOLIDUS"⟩,
   ⟨0xE0030, 1, "TAG DIGIT ", "ZERO,ONE,TWO,THREE,FOUR,FIVE,SIX,SEVEN,EIGHT,NINE"⟩,
   ⟨0xE003A, 2, "TAG ", "COLON,LESS-THAN SIGN,GREATER-THAN SIGN,COMMERCIAL AT"⟩,
   ⟨0xE003B, 2, "TAG ", "SEMICOLON,EQUALS SIGN,QUESTION MARK"⟩,
   ⟨0xE0041, 1, "TAG LATIN CAPITAL LETTER ", "A,B,C,D,E,F,G,H,I,J,K,L,M,N,O,P,Q,R,S,T,U,V,W,X,Y,Z"⟩,
   ⟨0xE005B, 2, "TAG ", "LEFT SQUARE BRACKET,RIGHT SQUARE BRACKET,LOW LINE"⟩,
   ⟨0xE005C, 2, "TAG ", "REVERSE SOLIDUS,CIRCUMFLEX ACCENT,GRAVE ACCENT"⟩,
   ⟨0xE0061, 1, "TAG LATIN SMALL LETTER ", "A,B,C,D,E,F,G,H,I,J,K,L,M,N,O,P,Q,R,S,T,U,V,W,X,Y,Z"⟩,
   ⟨0xE007B, 1, "TAG ", "LEFT CURLY BRACKET,VERTICAL LINE,RIGHT CURLY BRACKET,TILDE"⟩,
   ⟨0xE007F, 1, "CANCEL TAG", ""⟩,
   ⟨0xE0100, 2, "VARIATION SELECTOR-", "17,19,21,23,25,27,29,31,33,35,37,39,41,43,45"⟩,
   ⟨0xE0101, 2, "VARIATION SELECTOR-", "18,20,22,24,26,28,30,32,34,36,38,40,42,44,46"⟩,
   ⟨0xE011E, 2, "VARIATION SELECTOR-", "47,49,51,53,55,57,59,61,63,65,67,69,71,73,75,77,79,81,83"⟩,
   ⟨0xE011F, 2, "VARIATION SELECTOR-", "48,50,52,54,56,58,60,62,64,66,68,70,72,74,76,78,80,82,84"⟩,
   ⟨0xE0144, 2, "VARIATION SELECTOR-", "85,87,89,91,93,95,97,99,101,103,105,107,109,111,113,115"⟩,
   ⟨0xE0145, 2, "VARIATION SELECTOR-", "86,88,90,92,94,96,98,100,102,104,106,108,110,112,114,116"⟩,
   ⟨0xE0164, 2, "VARIATION SELECTOR-", "117,119,121,123,125,127,129,131,133,135,137,139,141,143"⟩,
   ⟨0xE0165, 2, "VARIATION SELECTOR-", "118,120,122,124,126,128,130,132,134,136,138,140,142,144"⟩,
   ⟨0xE0180, 2, "VARIATION SELECTOR-", "145,147,149,151,153,155,157,159,161,163,165,167,169,171"⟩,
   ⟨0xE0181, 2, "VARIATION SELECTOR-", "146,148,150,152,154,156,158,160,162,164,166,168,170,172"⟩,
   ⟨0xE019C, 2, "VARIATION SELECTOR-", "173,175,177,179,181,183,185,187,189,191,193,195,197,199"⟩,
   ⟨0xE019D, 2, "VARIATION SELECTOR-", "174,176,178,180,182,184,186,188,190,192,194,196,198,200"⟩,
   ⟨0xE01B8, 2, "VARIATION SELECTOR-", "201,203,205,207,209,211,213,215,217,219,221,223,225,227"⟩,
   ⟨0xE01B9, 2, "VARIATION SELECTOR-", "202,204,206,208,210,212,214,216,218,220,222,224,226,228"⟩,
   ⟨0xE01D4, 2, "VARIATION SELECTOR-", "229,231,233,235,237,239,241,243,245,247,249,251,253,255"⟩,
   ⟨0xE01D5, 2, "VARIATION SELECTOR-", "230,232,234,236,238,240,242,244,246,248,250,252,254,256"⟩]

end RegexSubst.Unicode
