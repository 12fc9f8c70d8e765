/-! # Scripts of East Asia

Letters of Hangul, kana, Yi, Tibetan and Mongolian, parts of ideographs, wide and narrow forms.
-/

namespace AwaitLint.Text

def eastAsianNames : List (List String × List String) := [
  ([""], [
    "CENTRELINE LOW LINE,CENTRELINE OVERLINE,COMBINING KATAKANA-HIRAGANA SEMI-VOICED SOUND MARK",
    "COMBINING KATAKANA-HIRAGANA VOICED SOUND MARK,DASHED LOW LINE,DASHED OVERLINE,DITTO MARK",
    "DOUBLE PRIME QUOTATION MARK,DOUBLE WAVY OVERLINE,GETA MARK",
    "JAPANESE INDUSTRIAL STANDARD SYMBOL,KHITAN SMALL SCRIPT FILLER,KOREAN STANDARD SYMBOL",
    "LEFT-FACING SVASTI SIGN,LEFT-FACING SVASTI SIGN WITH DOTS,LIMITED LIABILITY SIGN",
    "LOW DOUBLE PRIME QUOTATION MARK,MASU MARK,NUSHU ITERATION MARK,PART ALTERNATION MARK",
    "PARTNERSHIP SIGN,POSTAL MARK,POSTAL MARK FACE,REVERSED DOUBLE PRIME QUOTATION MARK",
    "RIGHT-FACING SVASTI SIGN,RIGHT-FACING SVASTI SIGN WITH DOTS,SESAME DOT",
    "VIETNAMESE ALTERNATE READING MARK CA,VIETNAMESE ALTERNATE READING MARK NHAY,WAVE DASH",
    "WAVY DASH,WAVY LOW LINE,WAVY OVERLINE,WHITE SESAME DOT"]),
  (["BOPOMOFO"], ["FINAL LETTER G,FINAL LETTER H,FINAL LETTER K,FINAL LETTER P,FINAL LETTER T"]),
  (["BOPOMOFO LETTER"], [
    "A,AH,AI,AINN,AM,AN,ANG,ANN,AU,AUNN,B,BU,C,CH,D,E,EE,EH,EI,EN,ENG,ENN,ER,F,G,GH,GN,GU,GW,H,I",
    "IH,IM,INN,INNN,IR,IU,J,JI,K,KW,L,LH,M,N,NG,NGG,NN,O,O WITH DOT ABOVE,OE,OM,ONG,ONN,OO,OU,P",
    "Q,R,S,SH,T,U,UNN,V,X,Z,ZH,ZI,ZY"]),
  (["CIRCLED"], ["KOREAN CHARACTER CHAMKO,KOREAN CHARACTER JUEUI,POSTAL MARK"]),
  (["CIRCLED HANGUL"], [
    "CHIEUCH,CHIEUCH A,CIEUC,CIEUC A,HIEUH,HIEUH A,IEUNG,IEUNG A,IEUNG U,KHIEUKH,KHIEUKH A",
    "KIYEOK,KIYEOK A,MIEUM,MIEUM A,NIEUN,NIEUN A,PHIEUPH,PHIEUPH A,PIEUP,PIEUP A,RIEUL,RIEUL A",
    "SIOS,SIOS A,THIEUTH,THIEUTH A,TIKEUT,TIKEUT A"]),
  (["CIRCLED IDEOGRAPH"], [
    "ALLIANCE,ATTENTION,CENTRE,CONGRATULATION,COPY,CORRECT,EARTH,EIGHT,ENTERPRISE,EXCELLENT",
    "FEMALE,FINANCIAL,FIRE,FIVE,FOUR,HAVE,HIGH,ITEM,KINDERGARTEN,KOTO,LABOR,LEFT,LOW,MALE",
    "MEDICINE,METAL,MOON,NAME,NIGHT,NINE,ONE,PRINT,QUESTION,RELIGION,RESOURCE,REST,RIGHT,SCHOOL",
    "SECRET,SEVEN,SIX,SOCIETY,SPECIAL,STOCK,STUDY,SUITABLE,SUN,SUPERVISE,TEN,THREE,TWO,WATER",
    "WOOD"]),
  (["CIRCLED KATAKANA"], [
    "A,E,HA,HE,HI,HO,HU,I,KA,KE,KI,KO,KU,MA,ME,MI,MO,MU,NA,NE,NI,NO,NU,O,RA,RE,RI,RO,RU,SA,SE,SI",
    "SO,SU,TA,TE,TI,TO,TU,U,WA,WE,WI,WO,YA,YO,YU"]),
  (["CIRCLED NUMBER"], [
    "EIGHTY ON BLACK SQUARE,FIFTY,FIFTY ON BLACK SQUARE,FORTY,SEVENTY ON BLACK SQUARE",
    "SIXTY ON BLACK SQUARE,TEN ON BLACK SQUARE,THIRTY"]),
  (["CIRCLED NUMBER FORTY", "CIRCLED NUMBER THIRTY", "CIRCLED NUMBER TWENTY"], [
    "EIGHT,FIVE,FOUR,NINE,ON BLACK SQUARE,ONE,SEVEN,SIX,THREE,TWO"]),
  (["CJK RADICAL"], [
    "BAMBOO,BLUE,BOLT OF CLOTH,BONE,BOX,BRUSH ONE,BRUSH TWO,CHOKE,CITY,CIVILIAN,CLIFF,CLOTHES",
    "COW,DEATH,DIVINATION,DOG,EAT ONE,EAT THREE,EAT TWO,EWE,EYE,FIRE,FOOT,GHOST,GRASS ONE",
    "GRASS THREE,GRASS TWO,HAND,HEAD,HEART ONE,HEART TWO,HORN,JADE,KNIFE ONE,KNIFE TWO,LAME FOUR",
    "LAME ONE,LAME THREE,LAME TWO,LONG ONE,LONG TWO,MEAT,MESH,MOON,MORTAR,MOTHER,MOUND ONE",
    "MOUND TWO,NET FOUR,NET ONE,NET THREE,NET TWO,OLD,PAW ONE,PAW TWO,PERSON,RAIN,RAM,RAP,REPEAT",
    "SEAL,SECOND ONE,SECOND THREE,SECOND TWO,SHEEP,SILK,SMALL ONE,SMALL TWO,SNAKE,SNOUT ONE",
    "SNOUT TWO,SPIRIT ONE,SPIRIT TWO,SUN,TABLE,THREAD,TIGER,TURTLE,WALK ONE,WALK TWO,WATER ONE",
    "WATER TWO,WEST ONE,WEST TWO"]),
  (["CJK RADICAL C-SIMPLIFIED"], [
    "BIRD,CART,DRAGON,EAT,EVEN,FISH,FLY,FROG,GATE,GOLD,HORSE,LEAF,LONG,SALT,SEE,SHELL,SILK",
    "SPEECH,TANNED LEATHER,TOOTH,TURTLE,WIND"]),
  (["CJK RADICAL J-SIMPLIFIED"], ["DRAGON,EVEN,TOOTH,TURTLE"]),
  (["CJK RADICAL SIMPLIFIED"], ["HALF TREE TRUNK,HORN,WALK,WHEAT,YELLOW"]),
  (["CJK STROKE"], [
    "BXG,D,H,HG,HP,HPWG,HXWG,HZ,HZG,HZT,HZW,HZWG,HZZ,HZZP,HZZZ,HZZZG,N,P,PD,PG,PZ,Q,S,SG,SP,ST",
    "SW,SWG,SWZ,SZ,SZWG,SZZ,T,TN,WG,XG"]),
  (["FULLWIDTH"], [
    "AMPERSAND,APOSTROPHE,ASTERISK,BROKEN BAR,CENT SIGN,CIRCUMFLEX ACCENT,COLON,COMMA",
    "COMMERCIAL AT,DOLLAR SIGN,EQUALS SIGN,EXCLAMATION MARK,FULL STOP,GRAVE ACCENT",
    "GREATER-THAN SIGN,HYPHEN-MINUS,LEFT CURLY BRACKET,LEFT PARENTHESIS,LEFT SQUARE BRACKET",
    "LEFT WHITE PARENTHESIS,LESS-THAN SIGN,LOW LINE,MACRON,NOT SIGN,NUMBER SIGN,PERCENT SIGN",
    "PLUS SIGN,POUND SIGN,QUESTION MARK,QUOTATION MARK,REVERSE SOLIDUS,RIGHT CURLY BRACKET",
    "RIGHT PARENTHESIS,RIGHT SQUARE BRACKET,RIGHT WHITE PARENTHESIS,SEMICOLON,SOLIDUS,TILDE",
    "VERTICAL LINE,WON SIGN,YEN SIGN"]),
  (["FULLWIDTH DIGIT", "MONGOLIAN DIGIT", "TIBETAN DIGIT", "TIBETAN DIGIT HALF"], [
    "EIGHT,FIVE,FOUR,NINE,ONE,SEVEN,SIX,THREE,TWO,ZERO"]),
  (["FULLWIDTH LATIN CAPITAL LETTER", "FULLWIDTH LATIN SMALL LETTER"], [
    "A,B,C,D,E,F,G,H,I,J,K,L,M,N,O,P,Q,R,S,T,U,V,W,X,Y,Z"]),
  (["HALFWIDTH"], [
    "BLACK SQUARE,DOWNWARDS ARROW,FORMS LIGHT VERTICAL,IDEOGRAPHIC COMMA,IDEOGRAPHIC FULL STOP",
    "KATAKANA-HIRAGANA PROLONGED SOUND MARK,LEFT CORNER BRACKET,LEFTWARDS ARROW",
    "RIGHT CORNER BRACKET,RIGHTWARDS ARROW,UPWARDS ARROW,WHITE CIRCLE"]),
  (["HALFWIDTH HANGUL"], ["FILLER"]),
  (["HALFWIDTH HANGUL LETTER"], [
    "A,AE,CHIEUCH,CIEUC,E,EO,EU,HIEUH,I,IEUNG,KHIEUKH,KIYEOK,KIYEOK-SIOS,MIEUM,NIEUN,NIEUN-CIEUC",
    "NIEUN-HIEUH,O,OE,PHIEUPH,PIEUP,PIEUP-SIOS,RIEUL,RIEUL-HIEUH,RIEUL-KIYEOK,RIEUL-MIEUM",
    "RIEUL-PHIEUPH,RIEUL-PIEUP,RIEUL-SIOS,RIEUL-THIEUTH,SIOS,SSANGCIEUC,SSANGKIYEOK,SSANGPIEUP",
    "SSANGSIOS,SSANGTIKEUT,THIEUTH,TIKEUT,U,WA,WAE,WE,WEO,WI,YA,YAE,YE,YEO,YI,YO,YU"]),
  (["HALFWIDTH KATAKANA"], ["MIDDLE DOT,SEMI-VOICED SOUND MARK,VOICED SOUND MARK"]),
  (["HALFWIDTH KATAKANA LETTER"], [
    "A,E,HA,HE,HI,HO,HU,I,KA,KE,KI,KO,KU,MA,ME,MI,MO,MU,N,NA,NE,NI,NO,NU,O,RA,RE,RI,RO,RU,SA,SE",
    "SI,SO,SU,TA,TE,TI,TO,TU,U,WA,WO,YA,YO,YU"]),
  (["HALFWIDTH KATAKANA LETTER SMALL"], ["A,E,I,O,TU,U,YA,YO,YU"]),
  (["HANGUL"], ["DOUBLE DOT TONE MARK,FILLER,SINGLE DOT TONE MARK"]),
  (["HANGUL CHOSEONG"], [
    "CEONGCHIEUMCHIEUCH,CEONGCHIEUMCIEUC,CEONGCHIEUMSIOS,CEONGCHIEUMSSANGCIEUC",
    "CEONGCHIEUMSSANGSIOS,CHIEUCH,CHIEUCH-HIEUH,CHIEUCH-KHIEUKH,CHITUEUMCHIEUCH,CHITUEUMCIEUC",
    "CHITUEUMSIOS,CHITUEUMSSANGCIEUC,CHITUEUMSSANGSIOS,CIEUC,CIEUC-IEUNG,FILLER,HIEUH,HIEUH-SIOS",
    "IEUNG,IEUNG-CHIEUCH,IEUNG-CIEUC,IEUNG-HIEUH,IEUNG-KIYEOK,IEUNG-MIEUM,IEUNG-PANSIOS",
    "IEUNG-PHIEUPH,IEUNG-PIEUP,IEUNG-RIEUL,IEUNG-SIOS,IEUNG-THIEUTH,IEUNG-TIKEUT,KAPYEOUNMIEUM",
    "KAPYEOUNPHIEUPH,KAPYEOUNPIEUP,KAPYEOUNRIEUL,KAPYEOUNSSANGPIEUP,KHIEUKH,KIYEOK,KIYEOK-TIKEUT",
    "MIEUM,MIEUM-KIYEOK,MIEUM-PIEUP,MIEUM-SIOS,MIEUM-TIKEUT,NIEUN,NIEUN-CIEUC,NIEUN-HIEUH",
    "NIEUN-KIYEOK,NIEUN-PIEUP,NIEUN-SIOS,NIEUN-TIKEUT,PANSIOS,PHIEUPH,PHIEUPH-HIEUH",
    "PHIEUPH-PIEUP,PIEUP,PIEUP-CHIEUCH,PIEUP-CIEUC,PIEUP-HIEUH,PIEUP-KHIEUKH,PIEUP-KIYEOK",
    "PIEUP-NIEUN,PIEUP-PHIEUPH,PIEUP-SIOS,PIEUP-SIOS-CIEUC,PIEUP-SIOS-KIYEOK,PIEUP-SIOS-PIEUP",
    "PIEUP-SIOS-THIEUTH,PIEUP-SIOS-TIKEUT,PIEUP-SSANGSIOS,PIEUP-THIEUTH,PIEUP-TIKEUT,RIEUL",
    "RIEUL-CIEUC,RIEUL-HIEUH,RIEUL-KAPYEOUNPIEUP,RIEUL-KHIEUKH,RIEUL-KIYEOK,RIEUL-MIEUM",
    "RIEUL-NIEUN,RIEUL-PIEUP,RIEUL-SIOS,RIEUL-SSANGKIYEOK,RIEUL-SSANGPIEUP,RIEUL-SSANGTIKEUT",
    "RIEUL-TIKEUT,SIOS,SIOS-CHIEUCH,SIOS-CIEUC,SIOS-HIEUH,SIOS-IEUNG,SIOS-KHIEUKH,SIOS-KIYEOK",
    "SIOS-MIEUM,SIOS-NIEUN,SIOS-PHIEUPH,SIOS-PIEUP,SIOS-PIEUP-KIYEOK,SIOS-RIEUL,SIOS-SSANGSIOS",
    "SIOS-THIEUTH,SIOS-TIKEUT,SSANGCIEUC,SSANGCIEUC-HIEUH,SSANGHIEUH,SSANGIEUNG,SSANGKIYEOK",
    "SSANGNIEUN,SSANGPIEUP,SSANGRIEUL,SSANGSIOS,SSANGSIOS-PIEUP,SSANGTHIEUTH,SSANGTIKEUT",
    "SSANGYEORINHIEUH,THIEUTH,TIKEUT,TIKEUT-CIEUC,TIKEUT-KIYEOK,TIKEUT-MIEUM,TIKEUT-PIEUP",
    "TIKEUT-RIEUL,TIKEUT-SIOS,YEORINHIEUH,YESIEUNG"]),
  (["HANGUL JONGSEONG"], [
    "CHIEUCH,CIEUC,CIEUC-PIEUP,CIEUC-SSANGPIEUP,HIEUH,HIEUH-MIEUM,HIEUH-NIEUN,HIEUH-PIEUP",
    "HIEUH-RIEUL,IEUNG,IEUNG-KHIEUKH,IEUNG-KIYEOK,IEUNG-SSANGKIYEOK,KAPYEOUNMIEUM",
    "KAPYEOUNPHIEUPH,KAPYEOUNPIEUP,KAPYEOUNRIEUL,KHIEUKH,KIYEOK,KIYEOK-CHIEUCH,KIYEOK-HIEUH",
    "KIYEOK-KHIEUKH,KIYEOK-NIEUN,KIYEOK-PIEUP,KIYEOK-RIEUL,KIYEOK-SIOS,KIYEOK-SIOS-KIYEOK,MIEUM",
    "MIEUM-CHIEUCH,MIEUM-CIEUC,MIEUM-HIEUH,MIEUM-KIYEOK,MIEUM-NIEUN,MIEUM-PANSIOS,MIEUM-PIEUP",
    "MIEUM-PIEUP-SIOS,MIEUM-RIEUL,MIEUM-SIOS,MIEUM-SSANGNIEUN,MIEUM-SSANGSIOS,NIEUN",
    "NIEUN-CHIEUCH,NIEUN-CIEUC,NIEUN-HIEUH,NIEUN-KIYEOK,NIEUN-PANSIOS,NIEUN-RIEUL,NIEUN-SIOS",
    "NIEUN-THIEUTH,NIEUN-TIKEUT,PANSIOS,PANSIOS-KAPYEOUNPIEUP,PANSIOS-PIEUP,PHIEUPH",
    "PHIEUPH-PIEUP,PHIEUPH-SIOS,PHIEUPH-THIEUTH,PIEUP,PIEUP-CHIEUCH,PIEUP-CIEUC,PIEUP-HIEUH",
    "PIEUP-MIEUM,PIEUP-PHIEUPH,PIEUP-RIEUL,PIEUP-RIEUL-PHIEUPH,PIEUP-SIOS,PIEUP-SIOS-TIKEUT",
    "PIEUP-TIKEUT,RIEUL,RIEUL-HIEUH,RIEUL-KAPYEOUNPIEUP,RIEUL-KHIEUKH,RIEUL-KIYEOK",
    "RIEUL-KIYEOK-HIEUH,RIEUL-KIYEOK-SIOS,RIEUL-MIEUM,RIEUL-MIEUM-HIEUH,RIEUL-MIEUM-KIYEOK",
    "RIEUL-MIEUM-SIOS,RIEUL-NIEUN,RIEUL-PANSIOS,RIEUL-PHIEUPH,RIEUL-PIEUP,RIEUL-PIEUP-HIEUH",
    "RIEUL-PIEUP-PHIEUPH,RIEUL-PIEUP-SIOS,RIEUL-PIEUP-TIKEUT,RIEUL-SIOS,RIEUL-SSANGKIYEOK",
    "RIEUL-SSANGSIOS,RIEUL-THIEUTH,RIEUL-TIKEUT,RIEUL-TIKEUT-HIEUH,RIEUL-YEORINHIEUH",
    "RIEUL-YEORINHIEUH-HIEUH,RIEUL-YESIEUNG,SIOS,SIOS-CHIEUCH,SIOS-CIEUC,SIOS-HIEUH",
    "SIOS-KAPYEOUNPIEUP,SIOS-KIYEOK,SIOS-MIEUM,SIOS-PANSIOS,SIOS-PIEUP,SIOS-RIEUL,SIOS-THIEUTH",
    "SIOS-TIKEUT,SSANGCIEUC,SSANGIEUNG,SSANGKIYEOK,SSANGMIEUM,SSANGNIEUN,SSANGPIEUP,SSANGRIEUL",
    "SSANGRIEUL-KHIEUKH,SSANGSIOS,SSANGSIOS-KIYEOK,SSANGSIOS-TIKEUT,SSANGTIKEUT",
    "SSANGTIKEUT-PIEUP,THIEUTH,TIKEUT,TIKEUT-CHIEUCH,TIKEUT-CIEUC,TIKEUT-KIYEOK,TIKEUT-PIEUP",
    "TIKEUT-RIEUL,TIKEUT-SIOS,TIKEUT-SIOS-KIYEOK,TIKEUT-THIEUTH,YEORINHIEUH,YESIEUNG",
    "YESIEUNG-HIEUH,YESIEUNG-MIEUM,YESIEUNG-PANSIOS,YESIEUNG-SIOS"]),
  (["HANGUL JUNGSEONG"], [
    "A,A-EU,A-O,A-U,AE,ARAEA,ARAEA-A,ARAEA-E,ARAEA-EO,ARAEA-I,ARAEA-U,E,EO,EO-EU,EO-O,EO-U,EU",
    "EU-A,EU-E,EU-EO,EU-EU,EU-O,EU-U,FILLER,I,I-A,I-ARAEA,I-EU,I-I,I-O,I-O-I,I-U,I-YA,I-YA-O",
    "I-YAE,I-YE,I-YEO,I-YO,I-YU,O,O-E,O-EO,O-O,O-O-I,O-U,O-YA,O-YAE,O-YE,O-YEO,OE,SSANGARAEA,U",
    "U-A,U-AE,U-EO-EU,U-I-I,U-U,U-YE,U-YEO,WA,WAE,WE,WEO,WI,YA,YA-O,YA-U,YA-YO,YAE,YE,YEO,YEO-O",
    "YEO-U,YEO-YA,YI,YI-U,YO,YO-A,YO-AE,YO-EO,YO-I,YO-O,YO-YA,YO-YAE,YO-YEO,YU,YU-A,YU-AE,YU-E",
    "YU-EO,YU-I,YU-O,YU-U,YU-YE,YU-YEO"]),
  (["HANGUL LETTER"], [
    "A,AE,ARAEA,ARAEAE,CHIEUCH,CIEUC,E,EO,EU,HIEUH,I,IEUNG,KAPYEOUNMIEUM,KAPYEOUNPHIEUPH",
    "KAPYEOUNPIEUP,KAPYEOUNSSANGPIEUP,KHIEUKH,KIYEOK,KIYEOK-SIOS,MIEUM,MIEUM-PANSIOS,MIEUM-PIEUP",
    "MIEUM-SIOS,NIEUN,NIEUN-CIEUC,NIEUN-HIEUH,NIEUN-PANSIOS,NIEUN-SIOS,NIEUN-TIKEUT,O,OE,PANSIOS",
    "PHIEUPH,PIEUP,PIEUP-CIEUC,PIEUP-KIYEOK,PIEUP-SIOS,PIEUP-SIOS-KIYEOK,PIEUP-SIOS-TIKEUT",
    "PIEUP-THIEUTH,PIEUP-TIKEUT,RIEUL,RIEUL-HIEUH,RIEUL-KIYEOK,RIEUL-KIYEOK-SIOS,RIEUL-MIEUM",
    "RIEUL-PANSIOS,RIEUL-PHIEUPH,RIEUL-PIEUP,RIEUL-PIEUP-SIOS,RIEUL-SIOS,RIEUL-THIEUTH",
    "RIEUL-TIKEUT,RIEUL-YEORINHIEUH,SIOS,SIOS-CIEUC,SIOS-KIYEOK,SIOS-NIEUN,SIOS-PIEUP",
    "SIOS-TIKEUT,SSANGCIEUC,SSANGHIEUH,SSANGIEUNG,SSANGKIYEOK,SSANGNIEUN,SSANGPIEUP,SSANGSIOS",
    "SSANGTIKEUT,THIEUTH,TIKEUT,U,WA,WAE,WE,WEO,WI,YA,YAE,YE,YEO,YEORINHIEUH,YESIEUNG",
    "YESIEUNG-PANSIOS,YESIEUNG-SIOS,YI,YO,YO-I,YO-YA,YO-YAE,YU,YU-I,YU-YE,YU-YEO"]),
  (["HANGZHOU NUMERAL"], ["EIGHT,FIVE,FOUR,NINE,ONE,SEVEN,SIX,TEN,THIRTY,THREE,TWENTY,TWO"]),
  (["HENTAIGANA LETTER"], [
    "A-1..A-3,A-WO,E-2..E-6,HA-1..HA-9,HA-10,HA-11,HE-1..HE-7,HI-1..HI-7,HO-1..HO-8,HU-1..HU-3",
    "I-1..I-4,KA-1..KA-9,KA-10,KA-11,KA-KE,KE-1..KE-6,KI-1..KI-8,KO-1..KO-3,KO-KI,KU-1..KU-7",
    "MA-1..MA-7,ME-1,ME-2,ME-MA,MI-1..MI-7,MO-1..MO-6,MU-1..MU-4,N-MU-MO-1,N-MU-MO-2,NA-1..NA-9",
    "NE-1..NE-6,NE-KO,NI-1..NI-7,NI-TE,NO-1..NO-5,NU-1..NU-3,O-1..O-3,RA-1..RA-4,RE-1..RE-4",
    "RI-1..RI-7,RO-1..RO-6,RU-1..RU-6,SA-1..SA-8,SE-1..SE-5,SI-1..SI-6,SO-1..SO-7,SU-1..SU-8",
    "TA-1..TA-4,TE-1..TE-9,TI-1..TI-7,TO-1..TO-6,TO-RA,TU-1..TU-4,TU-TO,U-1..U-5,WA-1..WA-5",
    "WE-1..WE-4,WI-1..WI-5,WO-1..WO-7,YA-1..YA-5,YA-YO,YO-1..YO-6,YU-1..YU-4"]),
  (["HEXAGRAM FOR"], [
    "ABUNDANCE,AFTER COMPLETION,APPROACH,BEFORE COMPLETION,BITING THROUGH,BREAKTHROUGH",
    "COMING TO MEET,CONFLICT,CONTEMPLATION,DARKENING OF THE LIGHT,DECREASE,DELIVERANCE",
    "DEVELOPMENT,DIFFICULTY AT THE BEGINNING,DISPERSION,DURATION,ENTHUSIASM,FELLOWSHIP,FOLLOWING",
    "GATHERING TOGETHER,GRACE,GREAT POSSESSION,GREAT POWER,GREAT PREPONDERANCE,GREAT TAMING",
    "HOLDING TOGETHER,INCREASE,INFLUENCE,INNER TRUTH,INNOCENCE,LIMITATION,MODESTY,MOUTH CORNERS",
    "OBSTRUCTION,OPPOSITION,OPPRESSION,PEACE,PROGRESS,PUSHING UPWARD,RETREAT,RETURN,REVOLUTION",
    "SMALL PREPONDERANCE,SMALL TAMING,SPLITTING APART,STANDSTILL,TREADING,WAITING",
    "WORK ON THE DECAYED,YOUTHFUL FOLLY"]),
  (["HEXAGRAM FOR THE"], [
    "ABYSMAL WATER,ARMY,AROUSING THUNDER,CAULDRON,CLINGING FIRE,CREATIVE HEAVEN,FAMILY",
    "GENTLE WIND,JOYOUS LAKE,KEEPING STILL MOUNTAIN,MARRYING MAIDEN,RECEPTIVE EARTH,WANDERER",
    "WELL"]),
  (["HIRAGANA"], ["DIGRAPH YORI,ITERATION MARK,VOICED ITERATION MARK"]),
  (["HIRAGANA LETTER"], [
    "A,ARCHAIC WU,ARCHAIC YE,BA,BE,BI,BO,BU,DA,DE,DI,DO,DU,E,GA,GE,GI,GO,GU,HA,HE,HI,HO,HU,I,KA",
    "KE,KI,KO,KU,MA,ME,MI,MO,MU,N,NA,NE,NI,NO,NU,O,PA,PE,PI,PO,PU,RA,RE,RI,RO,RU,SA,SE,SI,SO,SU",
    "TA,TE,TI,TO,TU,U,VU,WA,WE,WI,WO,YA,YO,YU,ZA,ZE,ZI,ZO,ZU"]),
  (["HIRAGANA LETTER SMALL"], ["A,E,I,KA,KE,O,TU,U,WA,WE,WI,WO,YA,YO,YU"]),
  (["IDEOGRAPHIC"], [
    "CLOSING MARK,COMMA,DEPARTING TONE MARK,ENTERING TONE MARK,FULL STOP,HALF FILL SPACE",
    "ITERATION MARK,LEVEL TONE MARK,NUMBER ZERO,RISING TONE MARK,SPACE,VARIATION INDICATOR"]),
  (["IDEOGRAPHIC ANNOTATION"], [
    "BOTTOM MARK,EARTH MARK,FIRST MARK,FOUR MARK,FOURTH MARK,HEAVEN MARK,LINKING MARK,MAN MARK",
    "MIDDLE MARK,ONE MARK,REVERSE MARK,SECOND MARK,THIRD MARK,THREE MARK,TOP MARK,TWO MARK"]),
  (["IDEOGRAPHIC DESCRIPTION CHARACTER"], [
    "ABOVE TO BELOW,ABOVE TO MIDDLE AND BELOW,FULL SURROUND,LEFT TO MIDDLE AND RIGHT",
    "LEFT TO RIGHT,OVERLAID,SURROUND FROM ABOVE,SURROUND FROM BELOW,SURROUND FROM LEFT",
    "SURROUND FROM LOWER LEFT,SURROUND FROM UPPER LEFT,SURROUND FROM UPPER RIGHT"]),
  (["IDEOGRAPHIC TELEGRAPH"], ["LINE FEED SEPARATOR SYMBOL"]),
  (["IDEOGRAPHIC TELEGRAPH SYMBOL FOR"], [
    "APRIL,AUGUST,DECEMBER,FEBRUARY,JANUARY,JULY,JUNE,MARCH,MAY,NOVEMBER,OCTOBER,SEPTEMBER"]),
  (["IDEOGRAPHIC TELEGRAPH SYMBOL FOR DAY"], [
    "EIGHT,EIGHTEEN,ELEVEN,FIFTEEN,FIVE,FOUR,FOURTEEN,NINE,NINETEEN,ONE,SEVEN,SEVENTEEN,SIX",
    "SIXTEEN,TEN,THIRTEEN,THIRTY,THIRTY-ONE,THREE,TWELVE,TWENTY,TWENTY-EIGHT,TWENTY-FIVE",
    "TWENTY-FOUR,TWENTY-NINE,TWENTY-ONE,TWENTY-SEVEN,TWENTY-SIX,TWENTY-THREE,TWENTY-TWO,TWO"]),
  (["IDEOGRAPHIC TELEGRAPH SYMBOL FOR HOUR"], [
    "EIGHT,EIGHTEEN,ELEVEN,FIFTEEN,FIVE,FOUR,FOURTEEN,NINE,NINETEEN,ONE,SEVEN,SEVENTEEN,SIX",
    "SIXTEEN,TEN,THIRTEEN,THREE,TWELVE,TWENTY,TWENTY-FOUR,TWENTY-ONE,TWENTY-THREE,TWENTY-TWO,TWO",
    "ZERO"]),
  (["KANGXI RADICAL"], [
    "AGAIN,AND,ARRIVE,ARROW,AXE,BADGER,BAMBOO,BEAN,BIG,BIRD,BITTER,BLACK,BLOOD,BLUE,BOAT,BODY",
    "BOLT OF CLOTH,BONE,BOW,BRANCH,BRISTLE,BRUSH,CART,CAULDRON,CAVE,CHILD,CITY,CLAN,CLAW,CLIFF",
    "CLOTHES,COLOR,COMPARE,CORPSE,COVER,COW,DEATH,DEER,DIPPER,DISH,DISTINGUISH,DIVINATION,DO NOT",
    "DOG,DOOR,DOT,DOTTED CLIFF,DOTTED TENT,DOUBLE X,DOWN BOX,DRAGON,DRUM,DRY,EAR,EARTH,EAT,EIGHT",
    "EMBROIDERY,ENCLOSURE,ENTER,EVEN,EVENING,EYE,FACE,FANG,FATHER,FEATHER,FIELD,FIGHT,FIRE,FISH",
    "FLUTE,FLY,FOOT,FRAGRANT,FROG,FUR,GATE,GHOST,GO,GO SLOWLY,GOLD,GRAIN,GRASS,HAIR,HALBERD",
    "HALF TREE TRUNK,HAND,HEAD,HEART,HEMP,HIDING ENCLOSURE,HOOK,HORN,HORSE,ICE,INCH,INSECT,JADE",
    "JAR,KNIFE,LACK,LAME,LEAF,LEATHER,LEEK,LEGS,LID,LIFE,LINE,LONG,LONG STRIDE,MAN,MEAT,MELON",
    "MILLET,MINISTER,MOON,MORNING,MORTAR,MOUND,MOUNTAIN,MOUTH,NET,NOSE,NOT,OLD,ONE,ONESELF",
    "OPEN BOX,OPPOSE,PIG,PLOW,POWER,PRIVATE,PROFOUND,RAIN,RAP,RAT,RED,RICE,RIGHT OPEN BOX,RIVER",
    "ROOF,RUN,SACRIFICIAL WINE,SALT,SAY,SCHOLAR,SCRIPT,SEAL,SECOND,SEE,SELF,SHEEP,SHELL,SHOOT",
    "SHORT TAILED BIRD,SHORT THREAD,SICKNESS,SILK,SKIN,SLASH,SLAVE,SLICE,SMALL,SNOUT,SOUND,SPEAR",
    "SPEECH,SPIRIT,SPOON,SPROUT,SQUARE,STAND,STEAM,STEP,STONE,STOP,STOPPING,SUN,SWEET,TABLE,TALL",
    "TANNED LEATHER,TEN,TIGER,TILE,TONGUE,TOOTH,TRACK,TREE,TRIPOD,TURBAN,TURTLE,TWO,TWO HANDS",
    "USE,VALLEY,VILLAGE,WALK,WALK ENCLOSURE,WATER,WEAPON,WEST,WHEAT,WHITE,WIND,WINE,WOMAN,WORK",
    "WRAP,WRONG,YELLOW"]),
  (["KATAKANA"], ["DIGRAPH KOTO,ITERATION MARK,MIDDLE DOT,VOICED ITERATION MARK"]),
  (["KATAKANA LETTER"], [
    "A,ARCHAIC E,ARCHAIC WU,ARCHAIC YE,ARCHAIC YI,BA,BE,BI,BO,BU,DA,DE,DI,DO,DU,E,GA,GE,GI,GO,GU",
    "HA,HE,HI,HO,HU,I,KA,KE,KI,KO,KU,MA,ME,MI,MO,MU,N,NA,NE,NI,NO,NU,O,PA,PE,PI,PO,PU,RA,RE,RI",
    "RO,RU,SA,SE,SI,SO,SU,TA,TE,TI,TO,TU,U,VA,VE,VI,VO,VU,WA,WE,WI,WO,YA,YO,YU,ZA,ZE,ZI,ZO,ZU"]),
  (["KATAKANA LETTER MINNAN"], [
    "NASALIZED TONE-1..NASALIZED TONE-5,NASALIZED TONE-7,NASALIZED TONE-8,TONE-2..TONE-5,TONE-7",
    "TONE-8"]),
  (["KATAKANA LETTER SMALL"], [
    "A,E,HA,HE,HI,HO,HU,I,KA,KE,KU,MU,N,NU,O,RA,RE,RI,RO,RU,SI,SU,TO,TU,U,WA,WE,WI,WO,YA,YO,YU"]),
  (["KATAKANA-HIRAGANA"], [
    "DOUBLE HYPHEN,PROLONGED SOUND MARK,SEMI-VOICED SOUND MARK,VOICED SOUND MARK"]),
  (["LEFT", "RIGHT"], [
    "ANGLE BRACKET,BLACK LENTICULAR BRACKET,CORNER BRACKET,DOUBLE ANGLE BRACKET",
    "TORTOISE SHELL BRACKET,WHITE CORNER BRACKET,WHITE LENTICULAR BRACKET,WHITE SQUARE BRACKET",
    "WHITE TORTOISE SHELL BRACKET"]),
  (["LISU"], ["PUNCTUATION COMMA,PUNCTUATION FULL STOP"]),
  (["LISU LETTER"], [
    "A,AE,BA,CA,CHA,DA,DZA,E,EU,FA,GA,GHA,HA,HHA,I,JA,KA,KHA,LA,MA,NA,NGA,O,OE,PA,PHA,SA,SHA,TA",
    "THA,TONE MYA BO,TONE MYA CYA,TONE MYA JEU,TONE MYA NA,TONE MYA TI,TONE NA PO,TSA,TSHA,U,UE",
    "UH,WA,XA,YA,YHA,ZA,ZHA"]),
  (["MIAO"], [
    "SIGN ASPIRATION,SIGN CONSONANT MODIFIER BAR,SIGN REFORMED ASPIRATION,SIGN REFORMED VOICING",
    "TONE ABOVE,TONE BELOW,TONE RIGHT,TONE TOP RIGHT"]),
  (["MIAO LETTER"], [
    "AH,ARCHAIC MA,ARCHAIC NA,ARCHAIC NGA,ARCHAIC ZZA,BA,BRI,DA,DDA,DLHA,DLHYA,DZA,DZHA,DZYI",
    "DZZA,FA,GA,GHA,GHHA,HA,HHA,KA,LA,LHA,LHYA,LYA,MA,MHA,NA,NASALIZATION,NGA,NGHA,NHA,NNA,NNHA",
    "NYA,NYHA,PA,PLA,QA,QGA,REFORMED TONE-1,REFORMED TONE-2,REFORMED TONE-4..REFORMED TONE-6",
    "REFORMED TONE-8,REFORMED TSHA,RTE,SA,SHA,SSA,SYI,TA,TE,TLHA,TLHYA,TONE-2..TONE-8,TSA,TSE",
    "TSHA,TSSA,TTA,VA,VFA,WA,XA,YI DZHA,YI KA,YI NNA,YI PA,YI TA,YI TSA,YI TSHA,YI TTA,ZA,ZHA",
    "ZSA,ZSHA,ZZA,ZZSA,ZZSYA,ZZYA"]),
  (["MIAO VOWEL SIGN"], [
    "A,AA,AE,AEE,AHH,AI,AN,ANG,AU,E,EA,EI,EN,ENG,ER,ERR,I,IA,IAN,IANG,IE,IG,II,ING,IO,IONG,IU,N",
    "NG,O,OER,OEY,OG,OO,OU,ROUNDED ER,ROUNDED ERR,U,UA,UAN,UANG,UEI,UI,UNG,UOG,UU,VW,W,WO,Y,YI",
    "YUI"]),
  (["MONGOLIAN"], [
    "BIRGA,COLON,COMMA,ELLIPSIS,FOUR DOTS,FREE VARIATION SELECTOR FOUR",
    "FREE VARIATION SELECTOR ONE,FREE VARIATION SELECTOR THREE,FREE VARIATION SELECTOR TWO",
    "FULL STOP,MANCHU COMMA,MANCHU FULL STOP,NIRUGU,SIBE SYLLABLE BOUNDARY MARKER",
    "TODO SOFT HYPHEN,VOWEL SEPARATOR"]),
  (["MONGOLIAN LETTER"], [
    "A,ANG,BA,CHA,CHA WITH TWO DOTS,CHI,DA,E,EE,FA,GA,HAA,I,JA,KA,KHA,LA,LHA,MA,NA,O,OE,PA,QA,RA",
    "SA,SHA,TA,TSA,U,UE,WA,YA,ZA,ZHI,ZRA"]),
  (["MONGOLIAN LETTER ALI GALI"], [
    "A,AH,ANUSVARA ONE,BALUDA,CA,DA,DAGALGA,DAMARU,DDA,HALF U,HALF YA,I,INVERTED UBADAMA,KA,NGA",
    "NNA,PA,PHA,SSA,TA,THREE BALUDA,TTA,TTHA,UBADAMA,VISARGA ONE,ZA,ZHA"]),
  (["MONGOLIAN LETTER MANCHU"], ["FA,I,KA,RA,ZHA"]),
  (["MONGOLIAN LETTER MANCHU ALI GALI"], [
    "BHA,CA,CYA,DDHA,DHA,GHA,JHA,LHA,NGA,SSA,TA,TTA,ZA,ZHA"]),
  (["MONGOLIAN LETTER SIBE"], [
    "ANG,CHA,DA,E,FA,GA,GAA,HA,HAA,I,IY,JA,KA,PA,RAA,SHA,TA,TSA,U,UE,ZA,ZHA"]),
  (["MONGOLIAN LETTER TODO"], [
    "ALI GALI TA,ALI GALI ZHA,ANG,BA,CHA,DA,DZA,E,GA,GAA,HAA,I,JA,JIA,KA,LONG VOWEL SIGN,MA,NIA",
    "O,OE,PA,QA,TA,TSA,U,UE,WA,YA"]),
  (["OLD"], ["CHINESE HOOK MARK,CHINESE ITERATION MARK"]),
  (["OLD TURKIC LETTER ORKHON"], [
    "A,AB,AD,AEB,AED,AEG,AEK,AEL,AEN,AER,AES,AET,AEY,AG,AL,AN,AQ,AR,AS,ASH,AT,AY,BASH,EC,ELT,EM",
    "ENC,ENG,ENT,ENY,EP,ESH,EZ,I,IC,IQ,O,OE,OEK,OP,OQ,OT"]),
  (["OLD TURKIC LETTER YENISEI"], [
    "A,AB,AD,AE,AEB,AEG,AEK,AEN,AENG,AET,AEY,AG,AL,ANG,AQ,AR,ASH,AT,AY,E,EC,ENC,ENT,ENY,ESH,EZ,I",
    "IQ,OE,OEK,OQ"]),
  (["PARENTHESIZED"], ["KOREAN CHARACTER O HU,KOREAN CHARACTER OJEON"]),
  (["PARENTHESIZED HANGUL"], [
    "CHIEUCH,CHIEUCH A,CIEUC,CIEUC A,CIEUC U,HIEUH,HIEUH A,IEUNG,IEUNG A,KHIEUKH,KHIEUKH A",
    "KIYEOK,KIYEOK A,MIEUM,MIEUM A,NIEUN,NIEUN A,PHIEUPH,PHIEUPH A,PIEUP,PIEUP A,RIEUL,RIEUL A",
    "SIOS,SIOS A,THIEUTH,THIEUTH A,TIKEUT,TIKEUT A"]),
  (["PARENTHESIZED IDEOGRAPH"], [
    "ALLIANCE,CALL,CONGRATULATION,EARTH,EIGHT,ENTERPRISE,FESTIVAL,FINANCIAL,FIRE,FIVE,FOUR,HAVE",
    "LABOR,METAL,MOON,NAME,NINE,ONE,REACH,REPRESENT,RESOURCE,REST,SELF,SEVEN,SIX,SOCIETY,SPECIAL",
    "STOCK,STUDY,SUN,SUPERVISE,TEN,THREE,TWO,WATER,WOOD"]),
  (["PRESENTATION FORM FOR VERTICAL"], [
    "COLON,COMMA,EM DASH,EN DASH,EXCLAMATION MARK,HORIZONTAL ELLIPSIS,IDEOGRAPHIC COMMA",
    "IDEOGRAPHIC FULL STOP,LEFT ANGLE BRACKET,LEFT BLACK LENTICULAR BRACKET,LEFT CORNER BRACKET",
    "LEFT CURLY BRACKET,LEFT DOUBLE ANGLE BRACKET,LEFT PARENTHESIS,LEFT SQUARE BRACKET",
    "LEFT TORTOISE SHELL BRACKET,LEFT WHITE CORNER BRACKET,LEFT WHITE LENTICULAR BRACKET",
    "LOW LINE,QUESTION MARK,SEMICOLON,TWO DOT LEADER,WAVY LOW LINE"]),
  (["PRESENTATION FORM FOR VERTICAL RIGHT"], [
    "ANGLE BRACKET,BLACK LENTICULAR BRACKET,CORNER BRACKET,CURLY BRACKET,DOUBLE ANGLE BRACKET",
    "PARENTHESIS,SQUARE BRACKET,TORTOISE SHELL BRACKET,WHITE CORNER BRACKET",
    "WHITE LENTICULAR BRAKCET"]),
  (["SMALL"], [
    "AMPERSAND,ASTERISK,COLON,COMMA,COMMERCIAL AT,DOLLAR SIGN,EM DASH,EQUALS SIGN",
    "EXCLAMATION MARK,FULL STOP,GREATER-THAN SIGN,HYPHEN-MINUS,IDEOGRAPHIC COMMA",
    "LEFT CURLY BRACKET,LEFT PARENTHESIS,LEFT TORTOISE SHELL BRACKET,LESS-THAN SIGN,NUMBER SIGN",
    "PERCENT SIGN,PLUS SIGN,QUESTION MARK,REVERSE SOLIDUS,RIGHT CURLY BRACKET,RIGHT PARENTHESIS",
    "RIGHT TORTOISE SHELL BRACKET,SEMICOLON"]),
  (["SQUARE"], [
    "A OVER M,AARU,AM,ANPEA,APAATO,ARUHUA,AU,BAARERU,BAR,BEETA,BIRU,BORUTO,BQ,BUSSYERU,C OVER KG",
    "CAL,CC,CD,CM,CM CUBED,CM SQUARED,CO,CORPORATION,DA,DAASU,DB,DESI,DL,DM,DM CUBED,DM SQUARED",
    "DORU,EEKAA,ERA NAME HEISEI,ERA NAME MEIZI,ERA NAME REIWA,ERA NAME SYOUWA,ERA NAME TAISYOU",
    "ERG,ESUKUUDO,EV,FM,GAL,GANMA,GARON,GB,GHZ,GIGA,GINII,GIRUDAA,GPA,GURAMU,GURAMUTON,GY,HA",
    "HAITU,HEKUTAARU,HERUTU,HG,HON,HOON,HOORU,HP,HPA,HUARADDO,HUIITO,HURAN,HZ,IN,ININGU,INTI,IU",
    "K OHM,KA,KAIRI,KARATTO,KARORII,KB,KCAL,KEESU,KG,KHZ,KIRO,KIROGURAMU,KIROMEETORU,KIROWATTO",
    "KK,KL,KM,KM CAPITAL,KM CUBED,KM SQUARED,KOOPO,KORUNA,KPA,KT,KUROONE,KURUZEIRO,KV,KW,KYURII",
    "LM,LN,LOG,LX,M CUBED,M OHM,M OVER S,M OVER S SQUARED,M SQUARED,MA,MAHHA,MAIKURO,MAIRU",
    "MANSYON,MARUKU,MB,MB SMALL,MEETORU,MEGA,MEGATON,MG,MHZ,MIKURON,MIL,MIRI,MIRIBAARU,ML,MM",
    "MM CUBED,MM SQUARED,MOL,MPA,MS,MU A,MU F,MU G,MU L,MU M,MU S,MU V,MU W,MV,MV MEGA,MW",
    "MW MEGA,NA,NANO,NF,NM,NOTTO,NS,NV,NW,ONSU,OOMU,OV,PA,PA AMPS,PAASENTO,PAATU,PC,PEEZI,PENIHI",
    "PENSU,PESO,PF,PH,PIASUTORU,PIKO,PIKURU,PM,POINTO,PONDO,PPM,PR,PS,PV,PW,RAD,RAD OVER S",
    "RAD OVER S SQUARED,REMU,RENTOGEN,RIRA,RITTORU,RUPII,RUUBURU,SAIKURU,SANTIIMU,SENTI,SENTO",
    "SIRINGU,SR,SV,THZ,TON,UON,V OVER M,WATTO,WB,YAADO,YAARU,YUAN"]),
  (["TANGUT"], ["COMPONENT-001..COMPONENT-768,ITERATION MARK"]),
  (["TIBETAN"], [
    "ASTROLOGICAL SIGN -KHYUD PA,ASTROLOGICAL SIGN SDONG TSHUGS",
    "ASTROLOGICAL SIGN SGRA GCAN -CHAR RTAGS,KU RU KHA,KU RU KHA BZHI MIG CAN",
    "LOGOTYPE SIGN CHAD RTAGS,LOGOTYPE SIGN LHAG RTAGS,SYLLABLE OM"]),
  (["TIBETAN CANTILLATION"], ["SIGN CANG TE-U,SIGN HEAVY BEAT,SIGN LIGHT BEAT,SIGN SBUB -CHAL"]),
  (["TIBETAN LETTER"], [
    "-A,A,BA,BHA,CA,CHA,DA,DDA,DDHA,DHA,DZA,DZHA,FIXED-FORM RA,GA,GHA,HA,JA,KA,KHA,KKA,KSSA,LA",
    "MA,NA,NGA,NNA,NYA,PA,PHA,RA,RRA,SA,SHA,SSA,TA,THA,TSA,TSHA,TTA,TTHA,WA,YA,ZA,ZHA"]),
  (["TIBETAN MARK"], [
    "ANG KHANG GYAS,ANG KHANG GYON,BKA- SHOG YIG MGO,BSDUS RTAGS,BSKA- SHOG GI MGO RGYAN",
    "BSKUR YIG MGO,CARET -DZUD RTAGS BZHI MIG CAN,CARET -DZUD RTAGS ME LONG CAN",
    "CARET YIG MGO PHUR SHAD MA,CHE MGO,CLOSING BRDA RNYING YIG MGO SGAB MA",
    "CLOSING YIG MGO SGAB MA,DELIMITER TSHEG BSTAR,GTER TSHEG,GTER YIG MGO -UM GTER TSHEG MA",
    "GTER YIG MGO -UM RNAM BCAD MA,GTER YIG MGO TRUNCATED A,GUG RTAGS GYAS,GUG RTAGS GYON",
    "HALANTA,INITIAL BRDA RNYING YIG MGO MDUN MA,INITIAL YIG MGO MDUN MA,INTERSYLLABIC TSHEG",
    "LEADING MCHAN RTAGS,MNYAM YIG GI MGO RGYAN,NGAS BZUNG NYI ZLA,NGAS BZUNG SGOR RTAGS",
    "NYIS SHAD,NYIS TSHEG,NYIS TSHEG SHAD,PALUTA,RGYA GRAM SHAD,RIN CHEN SPUNGS SHAD,SBRUL SHAD",
    "SHAD,TRAILING MCHAN RTAGS,TSA -PHRU,TSHEG SHAD,YIG MGO TSHEG SHAD MA"]),
  (["TIBETAN SIGN"], [
    "GRU CAN RGYINGS,GRU MED RGYINGS,INVERTED MCHU CAN,LCE TSA CAN,LCI RTAGS,MAR TSHES,MCHU CAN",
    "NYI ZLA NAA DA,RJES SU NGA RO,RNAM BCAD,SNA LDAN,YANG RTAGS,YAR TSHES"]),
  (["TIBETAN SIGN RDEL"], [
    "DKAR GCIG,DKAR GNYIS,DKAR GSUM,DKAR RDEL NAG,NAG GCIG,NAG GNYIS,NAG GSUM,NAG RDEL DKAR"]),
  (["TIBETAN SUBJOINED"], ["SIGN INVERTED MCHU CAN,SIGN LCE TSA CAN,SIGN MCHU CAN"]),
  (["TIBETAN SUBJOINED LETTER"], [
    "-A,A,BA,BHA,CA,CHA,DA,DDA,DDHA,DHA,DZA,DZHA,FIXED-FORM RA,FIXED-FORM WA,FIXED-FORM YA,GA",
    "GHA,HA,JA,KA,KHA,KSSA,LA,MA,NA,NGA,NNA,NYA,PA,PHA,RA,SA,SHA,SSA,TA,THA,TSA,TSHA,TTA,TTHA,WA",
    "YA,ZA,ZHA"]),
  (["TIBETAN SYMBOL"], [
    "DRIL BU,NOR BU,NOR BU BZHI -KHYIL,NOR BU GSUM -KHYIL,NOR BU NYIS -KHYIL,PADMA GDAN,PHUR PA",
    "RDO RJE,RDO RJE RGYA GRAM"]),
  (["TIBETAN VOWEL SIGN"], [
    "AA,E,EE,I,II,O,OO,REVERSED I,REVERSED II,U,UU,VOCALIC L,VOCALIC LL,VOCALIC R,VOCALIC RR"]),
  (["VERTICAL"], [
    "IDEOGRAPHIC ITERATION MARK,KANA REPEAT MARK,KANA REPEAT MARK LOWER HALF",
    "KANA REPEAT MARK UPPER HALF,KANA REPEAT WITH VOICED SOUND MARK",
    "KANA REPEAT WITH VOICED SOUND MARK UPPER HALF"]),
  (["YI RADICAL"], [
    "BBUT,BUR,CHE,CIP,CUOP,CY,CYP,CYT,DDUR,DU,GA,GEP,GGOP,GGUO,GOT,HMO,HXIT,HXOP,HXUO,JJIE,JJUT",
    "JJY,JO,KE,KIT,LI,LIE,LYR,MI,MOP,NBIE,NYIP,NYOP,NZUP,OP,PUT,PYT,QOT,SHAT,SHOP,SHUR,SHY,SSI",
    "TAT,TU,VEP,VUR,WO,YIT,YO,ZA,ZOT,ZUP,ZUR,ZZIET"]),
  (["YI SYLLABLE"], [
    "A,AP,AT,AX,BA,BAP,BAT,BAX,BBA,BBAP,BBAT,BBAX,BBE,BBEP,BBEX,BBI,BBIE,BBIEP,BBIET,BBIEX,BBIP",
    "BBIT,BBIX,BBO,BBOP,BBOT,BBOX,BBU,BBUO,BBUOP,BBUOX,BBUP,BBUR,BBURX,BBUT,BBUX,BBY,BBYP,BBYT",
    "BBYX,BE,BEP,BEX,BI,BIE,BIEP,BIET,BIEX,BIP,BIT,BIX,BO,BOP,BOT,BOX,BU,BUO,BUOP,BUOX,BUP,BUR",
    "BURX,BUT,BUX,BY,BYP,BYR,BYRX,BYT,BYX,CA,CAP,CAT,CAX,CE,CEP,CEX,CHA,CHAP,CHAT,CHAX,CHE,CHEP",
    "CHET,CHEX,CHO,CHOP,CHOT,CHOX,CHU,CHUO,CHUOP,CHUOT,CHUOX,CHUP,CHUR,CHURX,CHUX,CHY,CHYP,CHYR",
    "CHYRX,CHYT,CHYX,CI,CIE,CIEP,CIET,CIEX,CIP,CIT,CIX,CO,COP,COT,COX,CU,CUO,CUOP,CUOX,CUP,CUR",
    "CURX,CUT,CUX,CY,CYP,CYR,CYRX,CYT,CYX,DA,DAP,DAT,DAX,DDA,DDAP,DDAT,DDAX,DDE,DDEP,DDEX,DDI",
    "DDIE,DDIEP,DDIEX,DDIP,DDIT,DDIX,DDO,DDOP,DDOT,DDOX,DDU,DDUO,DDUOP,DDUOX,DDUP,DDUR,DDURX",
    "DDUT,DDUX,DE,DEP,DEX,DI,DIE,DIEP,DIEX,DIP,DIT,DIX,DO,DOP,DOT,DOX,DU,DUO,DUOX,DUP,DUR,DURX",
    "DUT,DUX,E,EX,FA,FAP,FAT,FAX,FI,FIP,FIT,FIX,FO,FOP,FOX,FU,FUP,FUR,FURX,FUT,FUX,FY,FYP,FYT",
    "FYX,GA,GAP,GAT,GAX,GE,GEP,GET,GEX,GGA,GGAP,GGAT,GGAX,GGE,GGEP,GGET,GGEX,GGI,GGIE,GGIEP",
    "GGIEX,GGIT,GGIX,GGO,GGOP,GGOT,GGOX,GGU,GGUO,GGUOP,GGUOT,GGUOX,GGUP,GGUR,GGURX,GGUT,GGUX,GI",
    "GIE,GIEP,GIET,GIEX,GIP,GIT,GIX,GO,GOP,GOT,GOX,GU,GUO,GUOP,GUOT,GUOX,GUP,GUR,GURX,GUT,GUX,HA",
    "HAP,HAT,HAX,HE,HEP,HEX,HIE,HIEX,HIT,HLA,HLAP,HLAT,HLAX,HLE,HLEP,HLEX,HLI,HLIE,HLIEP,HLIEX",
    "HLIP,HLIT,HLIX,HLO,HLOP,HLOX,HLU,HLUO,HLUOP,HLUOX,HLUP,HLUR,HLURX,HLUT,HLUX,HLY,HLYP,HLYR",
    "HLYRX,HLYT,HLYX,HMA,HMAP,HMAT,HMAX,HMI,HMIE,HMIEP,HMIEX,HMIP,HMIT,HMIX,HMO,HMOP,HMOT,HMOX",
    "HMU,HMUO,HMUOP,HMUOX,HMUP,HMUR,HMURX,HMUT,HMUX,HMY,HMYP,HMYR,HMYRX,HMYX,HNA,HNAP,HNAT,HNAX",
    "HNE,HNEP,HNEX,HNI,HNIE,HNIEP,HNIET,HNIEX,HNIP,HNIT,HNIX,HNOP,HNOT,HNOX,HNUO,HNUOX,HNUT,HO",
    "HOP,HOT,HOX,HUO,HUOP,HUOT,HUOX,HXA,HXAP,HXAT,HXAX,HXE,HXEP,HXEX,HXI,HXIE,HXIEP,HXIET,HXIEX",
    "HXIP,HXIT,HXIX,HXO,HXOP,HXOT,HXOX,HXUO,HXUOP,HXUOT,HXUOX,I,IE,IEP,IET,IEX,IP,IT,IX,JI,JIE",
    "JIEP,JIET,JIEX,JIP,JIT,JIX,JJI,JJIE,JJIEP,JJIET,JJIEX,JJIP,JJIT,JJIX,JJO,JJOP,JJOT,JJOX,JJU",
    "JJUO,JJUOP,JJUOX,JJUP,JJUR,JJURX,JJUT,JJUX,JJY,JJYP,JJYT,JJYX,JO,JOP,JOT,JOX,JU,JUO,JUOP",
    "JUOT,JUOX,JUP,JUR,JURX,JUT,JUX,JY,JYP,JYR,JYRX,JYT,JYX,KA,KAP,KAT,KAX,KE,KEP,KET,KEX,KI,KIE",
    "KIEP,KIEX,KIP,KIT,KIX,KO,KOP,KOT,KOX,KU,KUO,KUOP,KUOX,KUP,KUR,KURX,KUT,KUX,LA,LAP,LAT,LAX",
    "LE,LEP,LEX,LI,LIE,LIEP,LIET,LIEX,LIP,LIT,LIX,LO,LOP,LOT,LOX,LU,LUO,LUOP,LUOT,LUOX,LUP,LUR",
    "LURX,LUT,LUX,LY,LYP,LYR,LYRX,LYT,LYX,MA,MAP,MAT,MAX,ME,MEX,MGA,MGAP,MGAT,MGAX,MGE,MGEP,MGEX",
    "MGIE,MGIEX,MGO,MGOP,MGOT,MGOX,MGU,MGUO,MGUOP,MGUOX,MGUP,MGUR,MGURX,MGUT,MGUX,MI,MIE,MIEP",
    "MIEX,MIP,MIT,MIX,MO,MOP,MOT,MOX,MU,MUO,MUOP,MUOT,MUOX,MUP,MUR,MURX,MUT,MUX,MY,MYP,MYT,MYX",
    "NA,NAP,NAX,NBA,NBAP,NBAT,NBAX,NBI,NBIE,NBIEP,NBIEX,NBIP,NBIT,NBIX,NBO,NBOP,NBOT,NBOX,NBU",
    "NBUP,NBUR,NBURX,NBUT,NBUX,NBY,NBYP,NBYR,NBYRX,NBYT,NBYX,NDA,NDAP,NDAT,NDAX,NDE,NDEP,NDEX",
    "NDI,NDIE,NDIEX,NDIP,NDIT,NDIX,NDO,NDOP,NDOT,NDOX,NDU,NDUP,NDUR,NDURX,NDUT,NDUX,NE,NEP,NEX",
    "NGA,NGAP,NGAT,NGAX,NGE,NGEP,NGEX,NGIE,NGIEP,NGIEX,NGO,NGOP,NGOT,NGOX,NGUO,NGUOT,NGUOX,NI",
    "NIE,NIEP,NIEX,NIP,NIT,NIX,NJI,NJIE,NJIEP,NJIET,NJIEX,NJIP,NJIT,NJIX,NJO,NJOP,NJOT,NJOX,NJU",
    "NJUO,NJUOX,NJUP,NJUR,NJURX,NJUX,NJY,NJYP,NJYR,NJYRX,NJYT,NJYX,NO,NOP,NOT,NOX,NRA,NRAP,NRAT",
    "NRAX,NRE,NREP,NRET,NREX,NRO,NROP,NROX,NRU,NRUP,NRUR,NRURX,NRUT,NRUX,NRY,NRYP,NRYR,NRYRX",
    "NRYT,NRYX,NU,NUO,NUOP,NUOX,NUP,NUR,NURX,NUT,NUX,NYI,NYIE,NYIEP,NYIET,NYIEX,NYIP,NYIT,NYIX",
    "NYO,NYOP,NYOT,NYOX,NYU,NYUO,NYUOP,NYUOX,NYUP,NYUT,NYUX,NZA,NZAP,NZAT,NZAX,NZE,NZEX,NZI,NZIE",
    "NZIEP,NZIEX,NZIP,NZIT,NZIX,NZOP,NZOX,NZU,NZUO,NZUOX,NZUP,NZUR,NZURX,NZUX,NZY,NZYP,NZYR",
    "NZYRX,NZYT,NZYX,O,OP,OT,OX,PA,PAP,PAT,PAX,PI,PIE,PIEP,PIEX,PIP,PIT,PIX,PO,POP,POT,POX,PU",
    "PUO,PUOP,PUOX,PUP,PUR,PURX,PUT,PUX,PY,PYP,PYR,PYRX,PYT,PYX,QI,QIE,QIEP,QIET,QIEX,QIP,QIT",
    "QIX,QO,QOP,QOT,QOX,QU,QUO,QUOP,QUOT,QUOX,QUP,QUR,QURX,QUT,QUX,QY,QYP,QYR,QYRX,QYT,QYX,RA",
    "RAP,RAT,RAX,RE,REP,REX,RO,ROP,ROT,ROX,RRA,RRAX,RRE,RREP,RRET,RREX,RRO,RROP,RROT,RROX,RRU",
    "RRUO,RRUOX,RRUP,RRUR,RRURX,RRUT,RRUX,RRY,RRYP,RRYR,RRYRX,RRYT,RRYX,RU,RUO,RUOP,RUOX,RUP,RUR",
    "RURX,RUT,RUX,RY,RYP,RYR,RYRX,RYT,RYX,SA,SAP,SAT,SAX,SE,SEP,SEX,SHA,SHAP,SHAT,SHAX,SHE,SHEP",
    "SHET,SHEX,SHO,SHOP,SHOT,SHOX,SHU,SHUO,SHUOP,SHUOX,SHUP,SHUR,SHURX,SHUT,SHUX,SHY,SHYP,SHYR",
    "SHYRX,SHYT,SHYX,SI,SIE,SIEP,SIEX,SIP,SIT,SIX,SO,SOP,SOT,SOX,SSA,SSAP,SSAT,SSAX,SSE,SSEP",
    "SSEX,SSI,SSIE,SSIEP,SSIEX,SSIP,SSIT,SSIX,SSO,SSOP,SSOT,SSOX,SSU,SSUP,SSUT,SSUX,SSY,SSYP",
    "SSYR,SSYRX,SSYT,SSYX,SU,SUO,SUOP,SUOX,SUP,SUR,SURX,SUT,SUX,SY,SYP,SYR,SYRX,SYT,SYX,TA,TAP",
    "TAT,TAX,TE,TEP,TEX,TI,TIE,TIEP,TIEX,TIP,TIT,TIX,TO,TOP,TOT,TOX,TU,TUO,TUOP,TUOT,TUOX,TUP",
    "TUR,TURX,TUT,TUX,UO,UOP,UOX,VA,VAP,VAT,VAX,VEP,VEX,VI,VIE,VIEP,VIET,VIEX,VIP,VIT,VIX,VO,VOP",
    "VOT,VOX,VU,VUP,VUR,VURX,VUT,VUX,VY,VYP,VYR,VYRX,VYT,VYX,WA,WAP,WAT,WAX,WE,WEP,WEX,WO,WOP",
    "WOX,WU,WUO,WUOP,WUOX,XI,XIE,XIEP,XIET,XIEX,XIP,XIT,XIX,XO,XOP,XOT,XOX,XUO,XUOX,XY,XYP,XYR",
    "XYRX,XYT,XYX,YI,YIE,YIEP,YIET,YIEX,YIP,YIT,YIX,YO,YOP,YOT,YOX,YU,YUO,YUOP,YUOT,YUOX,YUP,YUR",
    "YURX,YUT,YUX,YY,YYP,YYR,YYRX,YYT,YYX,ZA,ZAP,ZAT,ZAX,ZE,ZEP,ZEX,ZHA,ZHAP,ZHAT,ZHAX,ZHE,ZHEP",
    "ZHET,ZHEX,ZHO,ZHOP,ZHOT,ZHOX,ZHU,ZHUO,ZHUOP,ZHUOX,ZHUP,ZHUR,ZHURX,ZHUT,ZHUX,ZHY,ZHYP,ZHYR",
    "ZHYRX,ZHYT,ZHYX,ZI,ZIE,ZIEP,ZIEX,ZIP,ZIT,ZIX,ZO,ZOP,ZOT,ZOX,ZU,ZUO,ZUOP,ZUOX,ZUP,ZUR,ZURX",
    "ZUT,ZUX,ZY,ZYP,ZYR,ZYRX,ZYT,ZYX,ZZA,ZZAP,ZZAT,ZZAX,ZZE,ZZEP,ZZEX,ZZI,ZZIE,ZZIEP,ZZIET,ZZIEX",
    "ZZIP,ZZIT,ZZIX,ZZO,ZZOP,ZZOX,ZZU,ZZUP,ZZUR,ZZURX,ZZUX,ZZY,ZZYP,ZZYR,ZZYRX,ZZYT,ZZYX"])]

end AwaitLint.Text
