/-! # Punctuation and symbols

Signs of print, mathematics, music, engineering and the sign languages.
-/

namespace AwaitLint.Text

def symbolNames : List (List String × List String) := [
  ([""], [
    "AC CURRENT,ACCOUNT OF,ACTIVATE ARABIC FORM SHAPING,ACTIVATE SYMMETRIC SWAPPING,ACUTE ANGLE",
    "ADDRESSED TO THE SUBJECT,ADI SHAKTI,ADMETOS,AIRPLANE,AKTIESELSKAB,ALARM CLOCK,ALEF SYMBOL",
    "ALEMBIC,ALL AROUND-PROFILE,ALL EQUAL TO,ALMOST EQUAL OR EQUAL TO,ALMOST EQUAL TO",
    "ALMOST EQUAL TO WITH CIRCUMFLEX ACCENT,ALTERNATE ONE-WAY LEFT WAY TRAFFIC",
    "ALTERNATIVE KEY SYMBOL,AMALGAMATION OR COPRODUCT,ANCHOR,AND WITH DOT,ANGLE",
    "ANGLE WITH S INSIDE,ANGLE WITH UNDERBAR,ANGSTROM SIGN,ANKH,APOLLON,APPROACHES THE LIMIT",
    "AQUARIUS,ARC,ARIES,ARROWHEAD-SHAPED POINTER,ASCENDING NODE,ASSERTION,ASTERISK OPERATOR",
    "ASTERISM,ASTRAEA,ASTRONOMICAL SYMBOL FOR URANUS,ASYMPTOTICALLY EQUAL TO,ATOM SYMBOL",
    "AUSTRAL SIGN,BACK-TILTED SHADOWED WHITE RIGHTWARDS ARROW",
    "BACKSLANTED SOUTH ARROW WITH HOOKED TAIL,BACKSLANTED SOUTH ARROW WITH HORIZONTAL TAIL",
    "BALLOON-SPOKED ASTERISK,BASEBALL,BEAMED EIGHTH NOTES,BEAMED SIXTEENTH NOTES,BECAUSE",
    "BELL SYMBOL,BENT ARROW POINTING DOWNWARDS THEN NORTH EAST,BENZENE RING",
    "BENZENE RING WITH CIRCLE,BET SYMBOL,BETWEEN,BIG REVERSE SOLIDUS,BIG SOLIDUS,BIOHAZARD SIGN",
    "BITCOIN SIGN,BLANK SYMBOL,BOWTIE,BOWTIE WITH LEFT HALF BLACK,BOWTIE WITH RIGHT HALF BLACK",
    "BRAILLE PATTERN BLANK,BROKEN CIRCLE WITH NORTHWEST ARROW,BULLET,BULLET OPERATOR,BULLSEYE",
    "CADA UNA,CADUCEUS,CANCEL TAG,CANCER,CAPITULUM,CAPRICORN,CAR SLIDING,CARE OF,CARET",
    "CARET INSERTION POINT,CASTLE,CAUTION SIGN,CEDI SIGN,CENTRE LINE SYMBOL,CERES,CHAINS",
    "CHARACTER TIE,CHECK MARK,CHECKER BOARD FILL,CHI RHO,CHIRON,CHURCH,CIRCULATION FUNCTION",
    "CLEAR SCREEN SYMBOL,CLOSE UP,CLOUD,COFFIN,COLON EQUALS,COLON SIGN,COMET",
    "COMMERCIAL MINUS SIGN,COMPLEMENT,COMPOSITION SYMBOL,CONGRUENT WITH DOT ABOVE,CONICAL TAPER",
    "CONJUNCTION,CONTINUOUS UNDERLINE SYMBOL,CONTOUR INTEGRAL,COPYLEFT SYMBOL",
    "CORNISH VERSE DIVIDER,CORRESPONDS TO,COUNTERBORE,COUNTERSINK",
    "CROSSED NEGATIVE SQUARED LATIN CAPITAL LETTER P,CROSSED SWORDS,CROSSING LANES,CRUZEIRO SIGN",
    "CUBE ROOT,CUP ON BLACK SQUARE,CUPIDO,CURLY BRACKET EXTENSION,CURLY LOGICAL AND",
    "CURLY LOGICAL OR,CURLY LOOP,CURVED STEM PARAGRAPH SIGN ORNAMENT,CYLINDRICITY,DAGGER",
    "DAGGER WITH LEFT GUARD,DAGGER WITH RIGHT GUARD,DALET SYMBOL,DARK SHADE",
    "DASH WITH LEFT UPTURN,DASHED TRIANGLE-HEADED RIGHTWARDS ARROW,DECIMAL EXPONENT SYMBOL",
    "DECIMAL SEPARATOR KEY SYMBOL,DEGREE CELSIUS,DEGREE FAHRENHEIT,DELTA EQUAL TO",
    "DESCENDING NODE,DIAMETER SIGN,DIE FACE-1..DIE FACE-6,DIFFERENCE BETWEEN,DIMENSION ORIGIN",
    "DIRECT CURRENT SYMBOL FORM TWO,DISABLED CAR,DISCONTINUOUS UNDERLINE SYMBOL,DIVIDES",
    "DIVISION SLASH,DIVISION TIMES,DIVORCE SYMBOL,DONG SIGN,DOT MINUS,DOT OPERATOR,DOT PLUS",
    "DOUBLE-ENDED MULTIMAP,DOUBLED FEMALE SIGN,DOUBLED MALE SIGN,DOUBLED SYMBOL",
    "DOWN-POINTING TRIANGLE WITH LEFT HALF BLACK,DOWN-POINTING TRIANGLE WITH RIGHT HALF BLACK",
    "DRACHMA SIGN,DRAFTING POINT RIGHTWARDS ARROW,DRIVE SLOW SIGN,EARTH,EARTH GROUND",
    "EAST SYRIAC CROSS,EDITORIAL CORONIS,EIGHTH NOTE,EJECT SYMBOL,ELECTRIC ARROW",
    "ELECTRICAL INTERSECTION,EM DASH,EM QUAD,EM SPACE,EMPHASIS SYMBOL,EN DASH,EN QUAD,EN SPACE",
    "END OF PROOF,ENTER SYMBOL,ENVELOPE,EQUIANGULAR TO,EQUIVALENT TO",
    "EQUIVALENT WITH FOUR DOTS ABOVE,ERASE TO THE LEFT,ERASE TO THE RIGHT,ERIS FORM ONE",
    "ERIS FORM TWO,ESTIMATED SYMBOL,ESTIMATES,EULER CONSTANT,EURO SIGN,EURO-CURRENCY SIGN,EXCESS",
    "EXCLAMATION QUESTION MARK,FACSIMILE SIGN,FALLING DIAGONAL CROSSING NORTH EAST ARROW",
    "FALLING DIAGONAL CROSSING RISING DIAGONAL,FALLING DIAGONAL IN WHITE CIRCLE IN BLACK SQUARE",
    "FARSI SYMBOL,FEMALE SIGN,FERRY,FIGURE DASH,FIGURE SPACE,FINITE PART INTEGRAL",
    "FIRST QUARTER MOON,FIRST STRONG ISOLATE,FISHEYE,FIVE DOT MARK,FIVE DOT PUNCTUATION",
    "FLAG IN HOLE,FLATNESS,FLEUR-DE-LIS,FLORAL HEART,FLOWER,FLOWER PUNCTUATION MARK,FOR ALL",
    "FORCES,FORKED PARAGRAPHOS,FORKING,FOUNTAIN,FOUR-PER-EM SPACE,FOURTH ROOT",
    "FRACTION NUMERATOR ONE,FRACTION SLASH,FRENCH FRANC SIGN",
    "FRONT-TILTED SHADOWED WHITE RIGHTWARDS ARROW,FROWN,FUEL PUMP,FULL BLOCK,FULL OUTER JOIN",
    "FUNCTION APPLICATION,FUNERAL URN,FUSE,GEAR,GEAR WITH HANDLES,GEAR WITHOUT HUB,GEMINI",
    "GEOMETRIC PROPORTION,GEOMETRICALLY EQUAL TO,GEOMETRICALLY EQUIVALENT TO,GERMAN PENNY SIGN",
    "GIMEL SYMBOL,GLEICH STARK,GROUP MARK,GUARANI SIGN,HADES,HAIR SPACE,HAMMER AND PICK",
    "HAMMER AND SICKLE,HEADSTONE GRAVEYARD SYMBOL,HELLSCHREIBER PAUSE SYMBOL,HELM SYMBOL",
    "HELMET WITH WHITE CROSS,HERMITIAN CONJUGATE MATRIX,HIGH VOLTAGE SIGN,HISTORIC SITE",
    "HOMOTHETIC,HOT BEVERAGE,HOT SPRINGS,HOURGLASS,HOURGLASS WITH FLOWING SAND,HOUSE",
    "HRYVNIA SIGN,HYGIEA,HYPHEN,HYPHEN BULLET,HYPHEN WITH DIAERESIS,HYPHENATION POINT",
    "HYPODIASTOLE,HYSTERESIS SYMBOL,ICE SKATE,IMAGE OF,IMAGE OF OR APPROXIMATELY EQUAL TO",
    "INCOMPLETE INFINITY,INCREASES AS,INCREMENT,INDIAN RUPEE SIGN,INFINITY",
    "INFINITY NEGATED WITH VERTICAL BAR,INFORMATION SOURCE,INHIBIT ARABIC FORM SHAPING",
    "INHIBIT SYMMETRIC SWAPPING,INSERTION SYMBOL,INTEGRAL,INTERCALATE,INTERIOR PRODUCT",
    "INTERLOCKED FEMALE AND MALE SIGN,INTERROBANG,INTERSECTION,JAPANESE BANK SYMBOL,JOIN,JUNO",
    "JUPITER,KELVIN SIGN,KEYBOARD,KIP SIGN,KRONOS,L B BAR SYMBOL,LANGUAGE TAG,LARGER THAN",
    "LARGER THAN OR EQUAL TO,LARI SIGN,LAST QUARTER MOON,LEFT-HANDED INTERLACED PENTAGRAM",
    "LEFT-POINTING ANGLE BRACKET,LEFT-POINTING CURVED ANGLE BRACKET",
    "LEFT-SHADED WHITE RIGHTWARDS ARROW,LEFT-SIDE ARC ANTICLOCKWISE ARROW,LEO,LIBRA,LIGHTNING",
    "LINE INTEGRATION NOT INCLUDING THE POLE,LINE INTEGRATION WITH RECTANGULAR PATH AROUND POLE",
    "LINE INTEGRATION WITH SEMICIRCULAR PATH AROUND POLE,LINE SEPARATOR,LIRA SIGN",
    "LIVRE TOURNOIS SIGN,LOW ASTERISK,LOW KAVYKA,LOW KAVYKA WITH DOT,LOZENGE",
    "LOZENGE DIVIDED BY HORIZONTAL RULE,MALE AND FEMALE SIGN,MALE SIGN",
    "MALE WITH STROKE AND MALE AND FEMALE SIGN,MALE WITH STROKE SIGN,MALTESE CROSS,MANAT SIGN",
    "MAP SYMBOL FOR LIGHTHOUSE,MARRIAGE SYMBOL,MASK WORK SYMBOL,MEDIEVAL COMMA",
    "MEDIEVAL EXCLAMATION MARK,MEDIEVAL QUESTION MARK,MERCURY",
    "MIDDLE THIRD WHITE RIGHT POINTING INDEX,MIDLINE HORIZONTAL ELLIPSIS,MILL SIGN",
    "MINUS-OR-PLUS SIGN,MINY,MODELS,MODULO TWO SUM,MONOGRAM FOR EARTH,MONOGRAM FOR YANG",
    "MONOGRAM FOR YIN,MONOSTABLE SYMBOL,MOUNTAIN,MUCH GREATER-THAN,MUCH LESS-THAN,MULTIMAP",
    "MULTISET,MULTISET MULTIPLICATION,MULTISET UNION,MUSIC FLAT SIGN,MUSIC NATURAL SIGN",
    "MUSIC SHARP SIGN,NABLA,NAIRA SIGN,NAND,NARROW NO-BREAK SPACE,NATIONAL DIGIT SHAPES",
    "NEGATED DOUBLE VERTICAL BAR DOUBLE RIGHT TURNSTILE,NEPTUNE,NEPTUNE FORM TWO,NESSUS,NEUTER",
    "NEW SHEQEL SIGN,NEWLINE LEFT,NEWLINE RIGHT,NEXT PAGE,NO ENTRY,NOMINAL DIGIT SHAPES",
    "NON-BREAKING HYPHEN,NONFORKING,NOR,NORDIC MARK SIGN,NORMAL SUBGROUP OF",
    "NORMAL SUBGROUP OF OR EQUAL TO,NOTCHED LOWER RIGHT-SHADOWED WHITE RIGHTWARDS ARROW",
    "NOTCHED UPPER RIGHT-SHADOWED WHITE RIGHTWARDS ARROW,NUMERO SIGN",
    "OBJECT REPLACEMENT CHARACTER,OBLIQUE ANGLE OPENING DOWN,OBLIQUE ANGLE OPENING UP",
    "OBLIQUE HYPHEN,OBSERVER EYE SYMBOL,OHM SIGN,ONE DOT LEADER",
    "ONE DOT OVER TWO DOTS PUNCTUATION,OPEN-OUTLINED RIGHTWARDS ARROW,OPHIUCHUS,OPPOSITION",
    "OPTION KEY,OR WITH DOT INSIDE,ORIGINAL OF,ORTHODOX CROSS,OUNCE SIGN,OVERLINE,PALLAS",
    "PALM BRANCH,PARAGRAPH SEPARATOR,PARAGRAPHOS,PARAGRAPHUS MARK,PARALLEL TO",
    "PARALLEL WITH HORIZONTAL STROKE,PARALLEL WITH TILDE OPERATOR,PARTIAL DIFFERENTIAL",
    "PARTIALLY-RECYCLED PAPER SYMBOL,PASSED SYMBOL,PASSIVE-PULL-DOWN-OUTPUT SYMBOL",
    "PASSIVE-PULL-UP-OUTPUT SYMBOL,PEACE SYMBOL,PENCIL,PENTAGRAM,PER MILLE SIGN,PER SIGN",
    "PER TEN THOUSAND SIGN,PERMANENT PAPER SIGN,PERPENDICULAR,PERPENDICULAR WITH S",
    "PERSON WITH BALL,PERSPECTIVE,PESETA SIGN,PESO SIGN,PHOLUS,PICK,PINWHEEL STAR,PISCES",
    "PITCHFORK,PITCHFORK WITH TEE TOP,PLACE OF INTEREST SIGN,PLANCK CONSTANT",
    "PLANCK CONSTANT OVER TWO PI,PLUTO,POP DIRECTIONAL FORMATTING,POP DIRECTIONAL ISOLATE",
    "POSEIDON,POSITION INDICATOR,POWER ON SYMBOL,POWER ON-OFF SYMBOL,POWER SLEEP SYMBOL",
    "POWER SYMBOL,PRECEDES,PRESCRIPTION TAKE,PREVIOUS PAGE,PRIME,PRINT SCREEN SYMBOL,PROJECTIVE",
    "PROPERTY LINE,PROPORTION,PROPORTIONAL TO,PROSERPINA,PUNCTUATION SPACE,PUNCTUS ELEVATUS MARK",
    "QUADRUPLE INTEGRAL OPERATOR,QUADRUPLE PRIME,QUARTER NOTE,QUATERNION INTEGRAL OPERATOR",
    "QUESTION EXCLAMATION MARK,QUESTIONED EQUAL TO,QUINCUNX,RADICAL SYMBOL BOTTOM",
    "RADIOACTIVE SIGN,RAIN,RATIO,RECYCLED PAPER SYMBOL,REFERENCE MARK,REPLACEMENT CHARACTER",
    "RESPONSE,RESTRICTED LEFT ENTRY-1,RESTRICTED LEFT ENTRY-2,RETURN LEFT,RETURN RIGHT",
    "RETURN SYMBOL,RIGHT-HANDED INTERLACED PENTAGRAM,RIGHT-POINTING ANGLE BRACKET",
    "RIGHT-POINTING CURVED ANGLE BRACKET,RIGHT-SHADED WHITE RIGHTWARDS ARROW",
    "RIGHT-SIDE ARC CLOCKWISE ARROW,RIGHTHAND INTERIOR PRODUCT,RING EQUAL TO,RING IN EQUAL TO",
    "RING OPERATOR,RING POINT,RISING DIAGONAL CROSSING FALLING DIAGONAL",
    "RISING DIAGONAL CROSSING SOUTH EAST ARROW,ROUND TARGET,RUBLE SIGN,RULE-DELAYED,RUPEE SIGN",
    "S IN TRIANGLE,SAGITTARIUS,SAILBOAT,SALTIRE,SATURN,SCALES,SCORPIUS,SCRUPLE,SECTOR,SEDNA",
    "SEGMENT,SEMIDIRECT PRODUCT WITH BOTTOM CLOSED,SEMISEXTILE,SEPARATED SYMBOL,SERVICE MARK",
    "SESQUIQUADRATE,SET MINUS,SEXTILE,SHADOWED WHITE CIRCLE,SHADOWED WHITE LATIN CROSS",
    "SHADOWED WHITE STAR,SHAMROCK,SHINTO SHRINE,SHOULDERED OPEN BOX,SHUFFLE PRODUCT,SINE WAVE",
    "SIX PETALLED BLACK AND WHITE FLORETTE,SIX POINTED BLACK STAR,SIX POINTED PINWHEEL STAR",
    "SIX-PER-EM SPACE,SIXTEEN POINTED ASTERISK,SKIER,SKULL AND CROSSBONES,SLOPE",
    "SLOPING LARGE AND,SLOPING LARGE OR,SMALLER THAN,SMALLER THAN OR EQUAL TO,SMASH PRODUCT",
    "SMILE,SNOWFLAKE,SNOWMAN,SNOWMAN WITHOUT SNOW,SOCCER BALL,SOFTWARE-FUNCTION SYMBOL",
    "SOLIDUS WITH OVERBAR,SOM SIGN,SOUND RECORDING COPYRIGHT,SPARKLE,SPARKLES,SPESMILO SIGN",
    "SQUAT BLACK RIGHTWARDS ARROW,STAFF OF AESCULAPIUS,STAFF OF HERMES,STENOGRAPHIC FULL STOP",
    "STOPWATCH,STRAIGHTNESS,STRESS OUTLINED WHITE STAR,STRICTLY EQUIVALENT TO,SUCCEEDS,SUN",
    "SUN BEHIND CLOUD,SURFACE INTEGRAL,SWUNG DASH,SYMMETRY,TALLY MARK FIVE,TALLY MARK ONE",
    "TAPE DRIVE,TAURUS,TEARDROP-BARBED RIGHTWARDS ARROW,TEARDROP-SPOKED ASTERISK,TENGE SIGN,TENT",
    "THERE DOES NOT EXIST,THERE EXISTS,THEREFORE,THERMODYNAMIC,THIN GREEK CROSS,THIN SALTIRE",
    "THIN SPACE,THREE-EM DASH,THREE-PER-EM SPACE,THUNDER CLOUD AND RAIN,THUNDERSTORM",
    "TIE OVER INFINITY,TIGHT TRIFOLIATE SNOWFLAKE,TIMER CLOCK,TIMES WITH LEFT HALF BLACK",
    "TIMES WITH RIGHT HALF BLACK,TINY,TIRONIAN SIGN CAPITAL ET,TIRONIAN SIGN ET,TOTAL RUNOUT",
    "TRADE MARK SIGN,TRANSPLUTO,TRANSVERSAL INTERSECTION,TRIANGLE WITH DOT ABOVE",
    "TRIANGLE WITH SERIFS AT BOTTOM,TRIANGLE WITH UNDERBAR,TRIANGLE-HEADED RIGHTWARDS ARROW",
    "TRIANGULAR BULLET,TRICOLON,TRUE,TRUE LIGHT MOON ARTA,TUGRIK SIGN,TURKISH LIRA SIGN",
    "TWELVE POINTED BLACK STAR,TWO-EM DASH,UMBRELLA,UMBRELLA ON GROUND,UMBRELLA WITH RAIN DROPS",
    "UNCERTAINTY SIGN,UNDERTIE,UNDO SYMBOL,UNION,UNITED SYMBOL,UNIVERSAL RECYCLING SYMBOL",
    "UNMARRIED PARTNERSHIP SYMBOL,UP-POINTING TRIANGLE WITH LEFT HALF BLACK",
    "UP-POINTING TRIANGLE WITH RIGHT HALF BLACK,URANUS,VECTOR OR CROSS PRODUCT,VERSICLE,VESTA",
    "VICTORY HAND,VIEWDATA SQUARE,VIRGO,VOIDED GREEK CROSS,VOLUME INTEGRAL,VULCANUS,WARNING SIGN",
    "WATCH,WAVE ARROW POINTING DIRECTLY LEFT,WAVE ARROW POINTING DIRECTLY RIGHT,WAVY LINE",
    "WEDGE-TAILED RIGHTWARDS ARROW,WEST SYRIAC CROSS,WHEEL OF DHARMA,WHEELCHAIR SYMBOL",
    "WHITE-FEATHERED RIGHTWARDS ARROW,WIGGLY VERTICAL LINE,WON SIGN,WORD JOINER",
    "WORD SEPARATOR MIDDLE DOT,WREATH PRODUCT,WRITING HAND,X IN A RECTANGLE BOX,XOR,YIN YANG",
    "ZERO WIDTH JOINER,ZERO WIDTH NO-BREAK SPACE,ZERO WIDTH NON-JOINER,ZERO WIDTH SPACE,ZEUS"]),
  (["ALCHEMICAL SYMBOL FOR"], [
    "AIR,ALEMBIC,ALKALI,ALKALI-2,ALUM,AMALGAM,ANTIMONY ORE,AQUA REGIA,AQUA REGIA-2,AQUA VITAE",
    "AQUA VITAE-2,AQUAFORTIS,ARSENIC,ASHES,AURIPIGMENT,BATH OF MARY,BATH OF VAPOURS,BISMUTH ORE",
    "BLACK SULFUR,BORAX,BORAX-2,BORAX-3,BRICK,CADUCEUS,CALX,CAPUT MORTUUM,CINNABAR",
    "COPPER ANTIMONIATE,COPPER ORE,CROCUS OF COPPER,CROCUS OF COPPER-2,CROCUS OF IRON,CRUCIBLE",
    "CRUCIBLE-2..CRUCIBLE-5,DAY-NIGHT,DISSOLVE,DISSOLVE-2,DISTILL,EARTH,FIRE,GOLD,GUM,HALF DRAM",
    "HALF OUNCE,HORSE DUNG,HOUR,IRON ORE,IRON ORE-2,IRON-COPPER ORE,LEAD ORE,LODESTONE,MARCASITE",
    "MERCURY SUBLIMATE,MERCURY SUBLIMATE-2,MERCURY SUBLIMATE-3,MONTH,NIGHT,NITRE,OIL",
    "PHILOSOPHERS SULFUR,POT ASHES,POWDER,POWDERED BRICK,PRECIPITATE,PURIFY,PUTREFACTION",
    "QUICK LIME,QUINTESSENCE,REALGAR,REALGAR-2,REGULUS,REGULUS OF ANTIMONY,REGULUS OF ANTIMONY-2",
    "REGULUS OF IRON,REGULUS-2..REGULUS-4,RETORT,ROCK SALT,ROCK SALT-2,SAL-AMMONIAC,SALT",
    "SALT OF ANTIMONY,SALT OF COPPER ANTIMONIATE,SCEPTER OF JOVE,SILVER,SOAP,SPIRIT",
    "STARRED TRIDENT,STRATUM SUPER STRATUM,STRATUM SUPER STRATUM-2,SUBLIMATE OF ANTIMONY",
    "SUBLIMATE OF COPPER,SUBLIMATE OF SALT OF ANTIMONY,SUBLIMATE OF SALT OF COPPER,SUBLIMATION",
    "SULFUR,TARTAR,TARTAR-2,TIN ORE,TINCTURE,TRIDENT,TUTTY,URINE,VERDIGRIS,VINEGAR",
    "VINEGAR OF ANTIMONY,VINEGAR-2,VINEGAR-3,VITRIOL,VITRIOL-2,WATER,WAX"]),
  (["ANTICLOCKWISE"], [
    "CLOSED CIRCLE ARROW,CONTOUR INTEGRAL,GAPPED CIRCLE ARROW,INTEGRATION,OPEN CIRCLE ARROW",
    "TOP SEMICIRCLE ARROW"]),
  (["ANTICLOCKWISE TRIANGLE-HEADED"], [
    "BOTTOM U-SHAPED ARROW,LEFT U-SHAPED ARROW,OPEN CIRCLE ARROW,RIGHT U-SHAPED ARROW",
    "TOP U-SHAPED ARROW"]),
  (["APL FUNCTIONAL SYMBOL"], [
    "ALPHA,ALPHA UNDERBAR,BACKSLASH BAR,CIRCLE BACKSLASH,CIRCLE DIAERESIS,CIRCLE JOT,CIRCLE STAR",
    "CIRCLE STILE,CIRCLE UNDERBAR,COMMA BAR,DEL DIAERESIS,DEL STILE,DEL TILDE,DELTA STILE",
    "DELTA UNDERBAR,DIAMOND UNDERBAR,DOWN CARET TILDE,DOWN SHOE STILE,DOWN TACK JOT",
    "DOWN TACK UNDERBAR,DOWNWARDS VANE,EPSILON UNDERBAR,GREATER-THAN DIAERESIS,I-BEAM,IOTA",
    "IOTA UNDERBAR,JOT DIAERESIS,JOT UNDERBAR,LEFT SHOE STILE,LEFTWARDS VANE,OMEGA",
    "OMEGA UNDERBAR,QUAD,QUOTE QUAD,QUOTE UNDERBAR,RHO,RIGHTWARDS VANE,SEMICOLON UNDERBAR",
    "SLASH BAR,SQUISH QUAD,STAR DIAERESIS,STILE TILDE,TILDE DIAERESIS,UP CARET TILDE,UP SHOE JOT",
    "UP TACK DIAERESIS,UP TACK JOT,UP TACK OVERBAR,UPWARDS VANE,ZILDE"]),
  (["APL FUNCTIONAL SYMBOL QUAD"], [
    "BACKSLASH,CIRCLE,COLON,DEL,DELTA,DIAMOND,DIVIDE,DOWN CARET,DOWNWARDS ARROW,EQUAL",
    "GREATER-THAN,JOT,LEFTWARDS ARROW,LESS-THAN,NOT EQUAL,QUESTION,RIGHTWARDS ARROW,SLASH",
    "UP CARET,UPWARDS ARROW"]),
  (["APPROXIMATELY"], [
    "BUT NOT ACTUALLY EQUAL TO,EQUAL OR EQUAL TO,EQUAL TO,EQUAL TO OR THE IMAGE OF"]),
  (["ARROW POINTING"], [
    "DOWNWARDS THEN CURVING LEFTWARDS,DOWNWARDS THEN CURVING RIGHTWARDS",
    "RIGHTWARDS THEN CURVING DOWNWARDS,RIGHTWARDS THEN CURVING SOUTH WEST",
    "RIGHTWARDS THEN CURVING UPWARDS,UPWARDS THEN NORTH WEST"]),
  (["BALLOT"], ["BOX,BOX WITH CHECK,BOX WITH LIGHT X,BOX WITH X,X"]),
  (["BLACK"], [
    "BOWTIE,CENTRE WHITE STAR,CIRCLE,CLUB SUIT,CROSS ON SHIELD,DIAMOND",
    "DOWNWARDS EQUILATERAL ARROWHEAD,DRAUGHTS KING,DRAUGHTS MAN,FLAG,FLORETTE,FOUR POINTED STAR",
    "HEART SUIT,HEXAGON,HORIZONTAL ELLIPSE,HOURGLASS,LARGE CIRCLE,LARGE SQUARE,LEFT LANE MERGE",
    "LEFT POINTING INDEX,LEFTWARDS BULLET,LEFTWARDS EQUILATERAL ARROWHEAD,LOWER LEFT TRIANGLE",
    "LOWER RIGHT TRIANGLE,LOZENGE,MOON LILITH,NIB,OCTAGON,PARALLELOGRAM,PENTAGON",
    "QUESTION MARK ORNAMENT,RECTANGLE,RIGHT POINTING INDEX,SAFETY SCISSORS,SCISSORS,SHOGI PIECE",
    "SLIGHTLY SMALL CIRCLE,SLIGHTLY SMALL SQUARE,SMALL DIAMOND,SMALL LOZENGE,SMALL SQUARE",
    "SMALL STAR,SMILING FACE,SNOWMAN,SPADE SUIT,SQUARE,SQUARE CENTRED,SQUARE FOR STOP,STAR",
    "SUN WITH RAYS,TELEPHONE,TINY DIAMOND,TINY LOZENGE,TINY SQUARE,TRUCK",
    "TWO-WAY LEFT WAY TRAFFIC,UNIVERSAL RECYCLING SYMBOL,UPPER LEFT TRIANGLE",
    "UPPER RIGHT TRIANGLE,UPWARDS EQUILATERAL ARROWHEAD,VERTICAL ELLIPSE,VERTICAL RECTANGLE",
    "VERY SMALL DIAMOND,VERY SMALL LOZENGE,VERY SMALL SQUARE"]),
  (["BLACK CHESS", "WHITE CHESS"], ["BISHOP,KING,KNIGHT,PAWN,QUEEN,ROOK"]),
  (["BLACK CIRCLE"], ["FOR RECORD,WITH DOWN ARROW,WITH TWO WHITE DOTS,WITH WHITE DOT RIGHT"]),
  (["BLACK CURVED"], [
    "DOWNWARDS AND LEFTWARDS ARROW,DOWNWARDS AND RIGHTWARDS ARROW,LEFTWARDS AND DOWNWARDS ARROW",
    "LEFTWARDS AND UPWARDS ARROW,RIGHTWARDS AND DOWNWARDS ARROW,RIGHTWARDS AND UPWARDS ARROW",
    "UPWARDS AND LEFTWARDS ARROW,UPWARDS AND RIGHTWARDS ARROW"]),
  (["BLACK DIAMOND"], ["CENTRED,MINUS WHITE X,ON CROSS,SUIT,WITH DOWN ARROW"]),
  (["BLACK DOWN-POINTING", "BLACK UP-POINTING"], [
    "DOUBLE TRIANGLE,ISOSCELES RIGHT TRIANGLE,SMALL TRIANGLE,TRIANGLE"]),
  (["BLACK LEFT-POINTING"], [
    "DOUBLE TRIANGLE,DOUBLE TRIANGLE WITH VERTICAL BAR,ISOSCELES RIGHT TRIANGLE,POINTER",
    "SMALL TRIANGLE,TRIANGLE"]),
  (["BLACK MEDIUM"], [
    "DIAMOND,DOWN-POINTING TRIANGLE,DOWN-POINTING TRIANGLE CENTRED,LEFT-POINTING TRIANGLE",
    "LEFT-POINTING TRIANGLE CENTRED,LOZENGE,RIGHT-POINTING TRIANGLE",
    "RIGHT-POINTING TRIANGLE CENTRED,SMALL DIAMOND,SMALL LOZENGE,SMALL SQUARE,SQUARE",
    "UP-POINTING TRIANGLE,UP-POINTING TRIANGLE CENTRED"]),
  (["BLACK RIGHT-POINTING"], [
    "DOUBLE TRIANGLE,DOUBLE TRIANGLE WITH VERTICAL BAR,ISOSCELES RIGHT TRIANGLE,PENTAGON,POINTER",
    "SMALL TRIANGLE,TRIANGLE,TRIANGLE WITH DOUBLE VERTICAL BAR"]),
  (["BLACK RIGHTWARDS"], ["ARROW,ARROWHEAD,BULLET,EQUILATERAL ARROWHEAD"]),
  (["BLACK-FEATHERED", "HEAVY BLACK-FEATHERED"], [
    "NORTH EAST ARROW,RIGHTWARDS ARROW,SOUTH EAST ARROW"]),
  (["BLACK-LETTER"], ["CAPITAL C,CAPITAL H,CAPITAL I,CAPITAL R,CAPITAL Z"]),
  (["BLOCK"], [
    "SEXTANT-1..SEXTANT-6,SEXTANT-12..SEXTANT-16,SEXTANT-123..SEXTANT-126",
    "SEXTANT-1234..SEXTANT-1236,SEXTANT-12345,SEXTANT-12346,SEXTANT-12356,SEXTANT-1245",
    "SEXTANT-12456,SEXTANT-1246,SEXTANT-1256,SEXTANT-134,SEXTANT-1345,SEXTANT-13456,SEXTANT-1346",
    "SEXTANT-1356,SEXTANT-136,SEXTANT-145,SEXTANT-1456,SEXTANT-146,SEXTANT-156",
    "SEXTANT-23..SEXTANT-26,SEXTANT-234..SEXTANT-236,SEXTANT-2345,SEXTANT-23456,SEXTANT-2346",
    "SEXTANT-2356,SEXTANT-245,SEXTANT-2456,SEXTANT-256,SEXTANT-34..SEXTANT-36,SEXTANT-345",
    "SEXTANT-3456,SEXTANT-346,SEXTANT-356,SEXTANT-45,SEXTANT-456,SEXTANT-46,SEXTANT-56"]),
  (["BOLD"], [
    "EIGHT SPOKED ASTERISK,FIVE SPOKED ASTERISK,GREEK CROSS,SALTIRE,SIX SPOKED ASTERISK",
    "WHITE CIRCLE,WHITE SQUARE"]),
  (["BOTTOM"], [
    "ARC ANTICLOCKWISE ARROW,CURLY BRACKET,HALF BLACK CIRCLE,HALF INTEGRAL,HALF LEFT PARENTHESIS",
    "HALF RIGHT PARENTHESIS,LEFT CORNER,LEFT CROP,LEFT HALF BRACKET,PARENTHESIS,RIGHT CORNER",
    "RIGHT CROP,RIGHT HALF BRACKET,SQUARE BRACKET,SQUARE BRACKET OVER TOP SQUARE BRACKET",
    "TORTOISE SHELL BRACKET"]),
  (["BOX DRAWINGS DOUBLE"], [
    "DOWN AND HORIZONTAL,DOWN AND LEFT,DOWN AND RIGHT,HORIZONTAL,UP AND HORIZONTAL,UP AND LEFT",
    "UP AND RIGHT,VERTICAL,VERTICAL AND HORIZONTAL,VERTICAL AND LEFT,VERTICAL AND RIGHT"]),
  (["BOX DRAWINGS DOWN"], [
    "DOUBLE AND HORIZONTAL SINGLE,DOUBLE AND LEFT SINGLE,DOUBLE AND RIGHT SINGLE",
    "HEAVY AND HORIZONTAL LIGHT,HEAVY AND LEFT LIGHT,HEAVY AND LEFT UP LIGHT",
    "HEAVY AND RIGHT LIGHT,HEAVY AND RIGHT UP LIGHT,HEAVY AND UP HORIZONTAL LIGHT",
    "LIGHT AND HORIZONTAL HEAVY,LIGHT AND LEFT HEAVY,LIGHT AND LEFT UP HEAVY",
    "LIGHT AND RIGHT HEAVY,LIGHT AND RIGHT UP HEAVY,LIGHT AND UP HORIZONTAL HEAVY",
    "SINGLE AND HORIZONTAL DOUBLE,SINGLE AND LEFT DOUBLE,SINGLE AND RIGHT DOUBLE"]),
  (["BOX DRAWINGS HEAVY"], [
    "DOUBLE DASH HORIZONTAL,DOUBLE DASH VERTICAL,DOWN,DOWN AND HORIZONTAL,DOWN AND LEFT",
    "DOWN AND RIGHT,HORIZONTAL,LEFT,LEFT AND LIGHT RIGHT,QUADRUPLE DASH HORIZONTAL",
    "QUADRUPLE DASH VERTICAL,RIGHT,TRIPLE DASH HORIZONTAL,TRIPLE DASH VERTICAL,UP",
    "UP AND HORIZONTAL,UP AND LEFT,UP AND LIGHT DOWN,UP AND RIGHT,VERTICAL",
    "VERTICAL AND HORIZONTAL,VERTICAL AND LEFT,VERTICAL AND RIGHT"]),
  (["BOX DRAWINGS LEFT"], [
    "DOWN HEAVY AND RIGHT UP LIGHT,HEAVY AND RIGHT DOWN LIGHT,HEAVY AND RIGHT UP LIGHT",
    "HEAVY AND RIGHT VERTICAL LIGHT,LIGHT AND RIGHT DOWN HEAVY,LIGHT AND RIGHT UP HEAVY",
    "LIGHT AND RIGHT VERTICAL HEAVY,UP HEAVY AND RIGHT DOWN LIGHT"]),
  (["BOX DRAWINGS LIGHT"], [
    "ARC DOWN AND LEFT,ARC DOWN AND RIGHT,ARC UP AND LEFT,ARC UP AND RIGHT",
    "DOUBLE DASH HORIZONTAL,DOUBLE DASH VERTICAL,DOWN,DOWN AND HORIZONTAL,DOWN AND LEFT",
    "DOWN AND RIGHT,HORIZONTAL,HORIZONTAL WITH VERTICAL STROKE,LEFT,LEFT AND HEAVY RIGHT",
    "QUADRUPLE DASH HORIZONTAL,QUADRUPLE DASH VERTICAL,RIGHT,TRIPLE DASH HORIZONTAL",
    "TRIPLE DASH VERTICAL,UP,UP AND HEAVY DOWN,UP AND HORIZONTAL,UP AND LEFT,UP AND RIGHT",
    "VERTICAL,VERTICAL AND HORIZONTAL,VERTICAL AND LEFT,VERTICAL AND RIGHT"]),
  (["BOX DRAWINGS LIGHT DIAGONAL"], [
    "CROSS,DIAMOND,MIDDLE LEFT TO LOWER CENTRE,MIDDLE LEFT TO LOWER CENTRE TO MIDDLE RIGHT",
    "MIDDLE LEFT TO UPPER CENTRE TO MIDDLE RIGHT",
    "MIDDLE LEFT TO UPPER CENTRE TO MIDDLE RIGHT TO LOWER CENTRE,MIDDLE RIGHT TO LOWER CENTRE",
    "MIDDLE RIGHT TO UPPER CENTRE TO MIDDLE LEFT TO LOWER CENTRE"]),
  (["BOX DRAWINGS LIGHT DIAGONAL UPPER"], [
    "CENTRE TO MIDDLE LEFT,CENTRE TO MIDDLE LEFT AND MIDDLE RIGHT TO LOWER CENTRE",
    "CENTRE TO MIDDLE LEFT TO LOWER CENTRE,CENTRE TO MIDDLE LEFT TO LOWER CENTRE TO MIDDLE RIGHT",
    "CENTRE TO MIDDLE RIGHT,CENTRE TO MIDDLE RIGHT AND MIDDLE LEFT TO LOWER CENTRE",
    "CENTRE TO MIDDLE RIGHT TO LOWER CENTRE",
    "CENTRE TO MIDDLE RIGHT TO LOWER CENTRE TO MIDDLE LEFT,LEFT TO LOWER RIGHT",
    "RIGHT TO LOWER LEFT"]),
  (["BOX DRAWINGS RIGHT"], [
    "DOWN HEAVY AND LEFT UP LIGHT,HEAVY AND LEFT DOWN LIGHT,HEAVY AND LEFT UP LIGHT",
    "HEAVY AND LEFT VERTICAL LIGHT,LIGHT AND LEFT DOWN HEAVY,LIGHT AND LEFT UP HEAVY",
    "LIGHT AND LEFT VERTICAL HEAVY,UP HEAVY AND LEFT DOWN LIGHT"]),
  (["BOX DRAWINGS UP"], [
    "DOUBLE AND HORIZONTAL SINGLE,DOUBLE AND LEFT SINGLE,DOUBLE AND RIGHT SINGLE",
    "HEAVY AND DOWN HORIZONTAL LIGHT,HEAVY AND HORIZONTAL LIGHT,HEAVY AND LEFT DOWN LIGHT",
    "HEAVY AND LEFT LIGHT,HEAVY AND RIGHT DOWN LIGHT,HEAVY AND RIGHT LIGHT",
    "LIGHT AND DOWN HORIZONTAL HEAVY,LIGHT AND HORIZONTAL HEAVY,LIGHT AND LEFT DOWN HEAVY",
    "LIGHT AND LEFT HEAVY,LIGHT AND RIGHT DOWN HEAVY,LIGHT AND RIGHT HEAVY",
    "SINGLE AND HORIZONTAL DOUBLE,SINGLE AND LEFT DOUBLE,SINGLE AND RIGHT DOUBLE"]),
  (["BOX DRAWINGS VERTICAL"], [
    "DOUBLE AND HORIZONTAL SINGLE,DOUBLE AND LEFT SINGLE,DOUBLE AND RIGHT SINGLE",
    "HEAVY AND HORIZONTAL LIGHT,HEAVY AND LEFT LIGHT,HEAVY AND RIGHT LIGHT",
    "LIGHT AND HORIZONTAL HEAVY,LIGHT AND LEFT HEAVY,LIGHT AND RIGHT HEAVY",
    "SINGLE AND HORIZONTAL DOUBLE,SINGLE AND LEFT DOUBLE,SINGLE AND RIGHT DOUBLE"]),
  (["BYZANTINE MUSICAL SYMBOL"], [
    "AGOGI ARGI,AGOGI ARGOTERI,AGOGI GORGI,AGOGI GORGOTERI,AGOGI MESI,AGOGI METRIA",
    "AGOGI POLI ARGI,AGOGI POLI GORGI,ANATRICHISMA,ANTIKENOKYLISMA,ANTIKENOMA,APESO EKFONITIKON",
    "APESO EXO NEO,APLI,APODERMA ARCHAION,APODERMA NEO,APOSTROFOI SYNDESMOS NEO",
    "APOSTROFOI TELOUS ICHIMATOS,APOSTROFOS,APOSTROFOS DIPLI,APOSTROFOS NEO,APOTHEMA,ARGON",
    "ARGOSYNTHETON,CHAMILI,CHAMILON,CHOREVMA ARCHAION,CHOREVMA NEO,CHROA KLITON,CHROA SPATHI",
    "CHROA ZYGOS,DASEIA,DIARGON,DIASTOLI APLI MEGALI,DIASTOLI APLI MIKRI,DIASTOLI DIPLI",
    "DIASTOLI THESEOS,DIESIS APLI DYO DODEKATA,DIESIS DIGRAMMOS EX DODEKATA",
    "DIESIS MONOGRAMMOS TESSERA DODEKATA,DIESIS TETARTIMORION,DIESIS TRIGRAMMOS OKTO DODEKATA",
    "DIESIS TRITIMORION,DIFTOGGOS OU,DIGORGON,DIGORGON PARESTIGMENON ARISTERA ANO",
    "DIGORGON PARESTIGMENON ARISTERA KATO,DIGORGON PARESTIGMENON DEXIA,DIGRAMMA GG,DIPLI",
    "DIPLI ARCHAION,DYO,EKSTREPTON,ELAFRON,ENARXIS KAI FTHORA VOU,ENDOFONON,EPEGERMA",
    "ETERON ARGOSYNTHETON,ETERON PARAKALESMA,EXO EKFONITIKON,FANEROSIS DIFONIAS",
    "FANEROSIS MONOFONIAS,FANEROSIS TETRAFONIAS,FHTORA SKLIRON CHROMA VASIS,GENIKI DIESIS",
    "GENIKI YFESIS,GORGON ARCHAION,GORGON NEO ANO,GORGON NEO KATO,GORGON PARESTIGMENON ARISTERA",
    "GORGON PARESTIGMENON DEXIA,GORGOSYNTHETON,GORTHMIKON N APLOUN,GORTHMIKON N DIPLOUN",
    "GRONTHISMATA,ICHADIN,IMIDIARGON,IMIFONON,IMIFTHORA,IMIFTHORON,ISAKIA TELOUS ICHIMATOS",
    "ISON ARCHAION,ISON NEO,KATAVA TROMIKON,KATAVASMA,KATHISTI,KENTIMA ARCHAION,KENTIMA NEO ANO",
    "KENTIMA NEO KATO,KENTIMA NEO MESO,KENTIMATA,KENTIMATA ARCHAION,KENTIMATA NEO ANO",
    "KENTIMATA NEO KATO,KENTIMATA NEO MESO,KLASMA,KLASMA ANO,KLASMA KATO,KONTEVMA,KONTEVMA ALLO",
    "KORONIS,KOUFISMA,KRATIMA ALLO,KRATIMA ARCHAION,KRATIMA NEO,KRATIMATA,KRATIMOKOUFISMA",
    "KRATIMOYPORROON,KREMASTI,KYLISMA,LEIMMA DYO CHRONON,LEIMMA ENOS CHRONOU",
    "LEIMMA IMISEOS CHRONOU,LEIMMA TESSARON CHRONON,LEIMMA TRION CHRONON,LEMOI,LYGISMA",
    "MIKRON ISON,NANA,OLIGON ARCHAION,OLIGON NEO,OMALON,OXEIA DIPLI,OXEIA EKFONITIKON,OXEIA NEO",
    "OXEIAI ARCHAION,OYRANISMA ARCHAION,OYRANISMA NEO,PARAKALESMA ARCHAION,PARAKALESMA NEO",
    "PARAKLITIKI,PARAKLITIKI ARCHAION,PARAKLITIKI NEO,PARICHON,PELASTON,PELASTON NEO,PERISPOMENI",
    "PETASMA,PETASTI,PETASTOKOUFISMA,PIASMA ARCHAION,PIASMA NEO,PSIFISTOLYGISMA,PSIFISTON",
    "PSIFISTON NEO,PSIFISTOPARAKALESMA,PSIFISTOSYNAGMA,PSILI,PSILON,RAPISMA,REVMA,SAXIMATA",
    "SEISMA,SEISMA NEO,STAVROS,STAVROS APODEXIA,STIGMA,STRAGGISMATA,SYNAGMA ARCHAION",
    "SYNAGMA META STAVROU,SYNAGMA NEO,SYNEVMA,SYRMA,SYRMATIKI,TELEIA,TESSERA,TETRAPLI,THEMA",
    "THEMA APLOUN,THEMATISMOS ESO,THEMATISMOS EXO,THES KAI APOTHES,THITA,TINAGMA,TRIA,TRIGORGON",
    "TRIPLI,TROMIKOLYGISMA,TROMIKON ALLO,TROMIKON ARCHAION,TROMIKON NEO,TROMIKOPARAKALESMA",
    "TROMIKOPSIFISTON,TROMIKOSYNAGMA,VAREIA DIPLI,VAREIA EKFONITIKON,VAREIA NEO,VAREIAI ARCHAION",
    "VATHY,XIRON KLASMA,YFEN ANO,YFEN KATO,YFESIS APLI DYO DODEKATA,YFESIS DIGRAMMOS EX DODEKATA",
    "YFESIS MONOGRAMMOS TESSERA DODEKATA,YFESIS TRIGRAMMOS OKTO DODEKATA,YFESIS TRITIMORION",
    "YPOKRISIS,YPOKRISIS DIPLI,YPORROI,YPSILI"]),
  (["BYZANTINE MUSICAL SYMBOL ARKTIKO"], ["DI,GA,KE,NI,PA,VOU,ZO"]),
  (["BYZANTINE MUSICAL SYMBOL FTHORA"], [
    "ARCHAION,ARCHAION DEYTEROU ICHOU,ENARMONIOS ANTIFONIA,I YFESIS TETARTIMORION",
    "MALAKON CHROMA DIFONIAS,MALAKON CHROMA MONOFONIAS,NAOS ICHOS,NENANO,SKLIRON CHROMA SYNAFI",
    "SKLIRON DIATONON DI"]),
  (["BYZANTINE MUSICAL SYMBOL FTHORA DIATONIKI"], ["DI,KE,NANA,NI ANO,NI KATO,PA,ZO"]),
  (["BYZANTINE MUSICAL SYMBOL MARTYRIA"], [
    "ALLI DEYTEROS ICHOS,ALLI PROTOS ICHOS,DEYTEROS ICHOS,LEGETOS ICHOS,PLAGIOS ICHOS",
    "PLAGIOS TETARTOS ICHOS,PROTOS ICHOS,PROTOVARYS ICHOS,TETARTOS ICHOS,TETARTOS LEGETOS ICHOS",
    "TRIFONIAS,TRITOS ICHOS,VARYS ICHOS"]),
  (["BYZANTINE MUSICAL SYMBOL SIMANSIS"], [
    "ARSEOS,ARSEOS DISIMOU,ARSEOS TETRASIMOU,ARSEOS TRISIMOU,THESEOS,THESEOS DISIMOU",
    "THESEOS TETRASIMOU,THESEOS TRISIMOU"]),
  (["CIRCLE"], ["DIVIDED BY HORIZONTAL BAR AND TOP HALF DIVIDED BY VERTICAL BAR"]),
  (["CIRCLE WITH"], [
    "ALL BUT UPPER LEFT QUADRANT BLACK,HORIZONTAL BAR,LEFT HALF BLACK,LOWER HALF BLACK",
    "RIGHT HALF BLACK,SMALL CIRCLE TO THE RIGHT,SUPERIMPOSED X",
    "TWO HORIZONTAL STROKES TO THE RIGHT,UPPER HALF BLACK,UPPER RIGHT QUADRANT BLACK",
    "VERTICAL FILL"]),
  (["CIRCLED"], [
    "ANTICLOCKWISE ARROW,ANTICLOCKWISE-ROTATED DIVISION SIGN,ASTERISK OPERATOR,BOLD X,BULLET",
    "C WITH OVERLAID BACKSLASH,CC,CD,CROSSING LANES,DASH,DIVISION SIGN,DIVISION SLASH",
    "DOLLAR SIGN WITH OVERLAID BACKSLASH,DOT OPERATOR,EQUALS,GREATER-THAN",
    "HEAVY WHITE RIGHTWARDS ARROW,HORIZONTAL BAR WITH NOTCH,HUMAN FIGURE,IDEOGRAPH ACCEPT",
    "IDEOGRAPH ADVANTAGE,ITALIC LATIN CAPITAL LETTER C,ITALIC LATIN CAPITAL LETTER R,LESS-THAN",
    "MINUS,MULTIPLICATION SIGN WITH CIRCUMFLEX ACCENT,OPEN CENTRE EIGHT POINTED STAR,PARALLEL",
    "PERPENDICULAR,PLUS,REVERSE SOLIDUS,RING OPERATOR,SQUARE,TIMES,TRIANGLE,TRIANGLE DOWN",
    "VERTICAL BAR,WHITE BULLET,WHITE STAR,WZ,X,ZERO WITH SLASH"]),
  (["CIRCLED DIGIT", "DINGBAT CIRCLED SANS-SERIF DIGIT", "MATHEMATICAL BOLD DIGIT",
    "MATHEMATICAL DOUBLE-STRUCK DIGIT", "MATHEMATICAL MONOSPACE DIGIT",
    "MATHEMATICAL SANS-SERIF BOLD DIGIT", "MATHEMATICAL SANS-SERIF DIGIT", "SEGMENTED DIGIT",
    "TAG DIGIT"], [
    "EIGHT,FIVE,FOUR,NINE,ONE,SEVEN,SIX,THREE,TWO,ZERO"]),
  (["CIRCLED LATIN CAPITAL LETTER", "CIRCLED LATIN SMALL LETTER",
    "MATHEMATICAL BOLD FRAKTUR CAPITAL", "MATHEMATICAL BOLD FRAKTUR SMALL",
    "MATHEMATICAL BOLD SCRIPT CAPITAL", "MATHEMATICAL BOLD SCRIPT SMALL",
    "MATHEMATICAL DOUBLE-STRUCK SMALL", "MATHEMATICAL FRAKTUR SMALL",
    "MATHEMATICAL MONOSPACE CAPITAL", "MATHEMATICAL MONOSPACE SMALL",
    "MATHEMATICAL SANS-SERIF CAPITAL", "MATHEMATICAL SANS-SERIF ITALIC CAPITAL",
    "MATHEMATICAL SANS-SERIF ITALIC SMALL", "MATHEMATICAL SANS-SERIF SMALL",
    "NEGATIVE CIRCLED LATIN CAPITAL LETTER", "NEGATIVE SQUARED LATIN CAPITAL LETTER",
    "PARENTHESIZED LATIN CAPITAL LETTER", "PARENTHESIZED LATIN SMALL LETTER",
    "REGIONAL INDICATOR SYMBOL LETTER", "SQUARED LATIN CAPITAL LETTER",
    "TAG LATIN CAPITAL LETTER", "TAG LATIN SMALL LETTER"], [
    "A,B,C,D,E,F,G,H,I,J,K,L,M,N,O,P,Q,R,S,T,U,V,W,X,Y,Z"]),
  (["CIRCLED NUMBER", "PARENTHESIZED NUMBER"], [
    "EIGHTEEN,ELEVEN,FIFTEEN,FOURTEEN,NINETEEN,SEVENTEEN,SIXTEEN,TEN,THIRTEEN,TWELVE,TWENTY"]),
  (["CLOCKWISE"], [
    "CLOSED CIRCLE ARROW,CONTOUR INTEGRAL,GAPPED CIRCLE ARROW,INTEGRAL,OPEN CIRCLE ARROW",
    "TOP SEMICIRCLE ARROW,TRIANGLE-HEADED OPEN CIRCLE ARROW"]),
  (["CLOSED"], [
    "INTERSECTION WITH SERIFS,SUBSET,SUBSET OR EQUAL TO,SUPERSET,SUPERSET OR EQUAL TO",
    "UNION WITH SERIFS,UNION WITH SERIFS AND SMASH PRODUCT"]),
  (["COMBINING"], [
    "ANNUITY SYMBOL,ANTICLOCKWISE ARROW ABOVE,ANTICLOCKWISE RING OVERLAY,ASTERISK ABOVE",
    "CLOCKWISE ARROW ABOVE,CLOCKWISE RING OVERLAY,DOUBLE VERTICAL STROKE OVERLAY,FOUR DOTS ABOVE",
    "LEFT ARROW ABOVE,LEFT ARROW BELOW,LEFT HARPOON ABOVE,LEFT RIGHT ARROW ABOVE",
    "LEFTWARDS ARROW OVERLAY,LEFTWARDS HARPOON WITH BARB DOWNWARDS,LONG DOUBLE SOLIDUS OVERLAY",
    "LONG VERTICAL LINE OVERLAY,REVERSE SOLIDUS OVERLAY,RIGHT ARROW ABOVE,RIGHT ARROW BELOW",
    "RIGHT HARPOON ABOVE,RIGHTWARDS HARPOON WITH BARB DOWNWARDS,RING OVERLAY",
    "SHORT VERTICAL LINE OVERLAY,THREE DOTS ABOVE,TRIPLE UNDERDOT,WIDE BRIDGE ABOVE"]),
  (["COMBINING ENCLOSING"], [
    "CIRCLE,CIRCLE BACKSLASH,DIAMOND,KEYCAP,SCREEN,SQUARE,UPWARD POINTING TRIANGLE"]),
  (["CONTAINS"], [
    "AS MEMBER,AS NORMAL SUBGROUP,AS NORMAL SUBGROUP OR EQUAL TO,WITH LONG HORIZONTAL STROKE",
    "WITH OVERBAR,WITH VERTICAL BAR AT END OF HORIZONTAL STROKE"]),
  (["COUNTING ROD TENS DIGIT", "COUNTING ROD UNIT DIGIT", "DINGBAT NEGATIVE CIRCLED DIGIT",
    "DOUBLE CIRCLED DIGIT", "PARENTHESIZED DIGIT"], [
    "EIGHT,FIVE,FOUR,NINE,ONE,SEVEN,SIX,THREE,TWO"]),
  (["CROSS"], [
    "MARK,OF JERUSALEM,OF LORRAINE,PATTY WITH LEFT CROSSBAR,PATTY WITH RIGHT CROSSBAR"]),
  (["DENTISTRY SYMBOL LIGHT"], [
    "DOWN AND HORIZONTAL,DOWN AND HORIZONTAL WITH CIRCLE,DOWN AND HORIZONTAL WITH TRIANGLE",
    "DOWN AND HORIZONTAL WITH WAVE,UP AND HORIZONTAL,UP AND HORIZONTAL WITH CIRCLE",
    "UP AND HORIZONTAL WITH TRIANGLE,UP AND HORIZONTAL WITH WAVE"]),
  (["DENTISTRY SYMBOL LIGHT VERTICAL"], [
    "AND BOTTOM LEFT,AND BOTTOM RIGHT,AND TOP LEFT,AND TOP RIGHT,AND WAVE,WITH CIRCLE",
    "WITH TRIANGLE"]),
  (["DIAMOND"], [
    "OPERATOR,TARGET,WITH BOTTOM HALF BLACK,WITH LEFT HALF BLACK,WITH RIGHT HALF BLACK",
    "WITH TOP HALF BLACK"]),
  (["DIGIT"], [
    "EIGHT COMMA,EIGHT FULL STOP,FIVE COMMA,FIVE FULL STOP,FOUR COMMA,FOUR FULL STOP,NINE COMMA",
    "NINE FULL STOP,ONE COMMA,ONE FULL STOP,SEVEN COMMA,SEVEN FULL STOP,SIX COMMA,SIX FULL STOP",
    "THREE COMMA,THREE FULL STOP,TWO COMMA,TWO FULL STOP,ZERO COMMA,ZERO FULL STOP"]),
  (["DIGRAM FOR"], [
    "EARTH,EARTHLY HEAVEN,EARTHLY HUMAN,GREATER YANG,GREATER YIN,HEAVENLY EARTH,HUMAN EARTH",
    "LESSER YANG,LESSER YIN"]),
  (["DINGBAT CIRCLED SANS-SERIF", "DINGBAT NEGATIVE CIRCLED", "DOUBLE CIRCLED"], ["NUMBER TEN"]),
  (["DINGBAT NEGATIVE CIRCLED SANS-SERIF"], [
    "DIGIT EIGHT,DIGIT FIVE,DIGIT FOUR,DIGIT NINE,DIGIT ONE,DIGIT SEVEN,DIGIT SIX,DIGIT THREE",
    "DIGIT TWO,DIGIT ZERO,NUMBER TEN"]),
  (["DOES NOT"], [
    "CONTAIN AS MEMBER,CONTAIN AS NORMAL SUBGROUP,CONTAIN AS NORMAL SUBGROUP OR EQUAL,DIVIDE",
    "DIVIDE WITH REVERSED NEGATION SLASH,FORCE,PRECEDE,PRECEDE OR EQUAL,PROVE,SUCCEED",
    "SUCCEED OR EQUAL"]),
  (["DOTTED"], [
    "CIRCLE,CROSS,FENCE,OBELOS,RIGHT-POINTING ANGLE,SOLIDUS,SQUARE,TRANSPOSITION MARKER"]),
  (["DOUBLE"], [
    "COLON EQUAL,CURLY LOOP,DAGGER,DOWN TACK,EXCLAMATION MARK,HIGH-REVERSED-9 QUOTATION MARK",
    "HYPHEN,INTEGRAL,INTERSECTION,LEFT ARC GREATER-THAN BRACKET,LOGICAL AND,LOGICAL OR,LOW LINE",
    "LOW-9 QUOTATION MARK,LOW-REVERSED-9 QUOTATION MARK,NESTED GREATER-THAN,NESTED LESS-THAN",
    "NESTED LESS-THAN WITH UNDERBAR,OBLIQUE HYPHEN,PLUS,PRECEDES,PRIME,QUESTION MARK",
    "RIGHT ARC LESS-THAN BRACKET,SOLIDUS OPERATOR,SQUARE INTERSECTION,SQUARE UNION,STACKED COMMA",
    "STROKE NOT SIGN,SUBSET,SUCCEEDS,SUPERSET,SUSPENSION MARK,UNION,UP TACK"]),
  (["DOUBLE VERTICAL"], [
    "BAR,BAR DOUBLE LEFT TURNSTILE,BAR DOUBLE RIGHT TURNSTILE,BAR LEFT TURNSTILE,LINE"]),
  (["DOUBLE-LINE"], [
    "EQUAL TO OR GREATER-THAN,EQUAL TO OR LESS-THAN,SLANTED EQUAL TO OR GREATER-THAN",
    "SLANTED EQUAL TO OR LESS-THAN,SLANTED GREATER-THAN OR EQUAL TO",
    "SLANTED LESS-THAN OR EQUAL TO"]),
  (["DOUBLE-STRUCK"], [
    "ITALIC CAPITAL D,ITALIC SMALL D,ITALIC SMALL E,ITALIC SMALL I,ITALIC SMALL J",
    "N-ARY SUMMATION,SMALL GAMMA,SMALL PI"]),
  (["DOUBLE-STRUCK CAPITAL"], ["C,GAMMA,H,N,P,PI,Q,R,Z"]),
  (["DOWN"], ["ARROWHEAD,FISH TAIL,RIGHT DIAGONAL ELLIPSIS,TACK,TACK WITH CIRCLE BELOW"]),
  (["DOWNWARDS"], [
    "ANCORA,ARROW,BLACK ARROW,BLACK CIRCLED WHITE ARROW,COMPRESSED ARROW,DASHED ARROW",
    "DOUBLE ARROW,FINGER-POST ARROW,HEAVY ARROW,HEAVY COMPRESSED ARROW,PAIRED ARROWS",
    "QUADRUPLE ARROW,SANS-SERIF ARROW,SQUARED ARROW,TRIANGLE ARROWHEAD,TRIPLE ARROW",
    "TWO HEADED ARROW,TWO-HEADED ARROW WITH TRIANGLE ARROWHEADS,WHITE ARROW",
    "WHITE ARROW WITHIN TRIANGLE ARROWHEAD,ZIGZAG ARROW"]),
  (["DOWNWARDS ARROW"], [
    "AND RIGHT ONE EIGHTH BLOCK,FROM BAR,LEFTWARDS OF UPWARDS ARROW,TO BAR"]),
  (["DOWNWARDS ARROW WITH"], [
    "CORNER LEFTWARDS,DOUBLE STROKE,EQUILATERAL ARROWHEAD,HORIZONTAL STROKE",
    "LARGE TRIANGLE ARROWHEAD,MEDIUM TRIANGLE ARROWHEAD,NOTCHED TAIL,SMALL EQUILATERAL ARROWHEAD",
    "SMALL TRIANGLE ARROWHEAD,TIP LEFTWARDS,TIP RIGHTWARDS"]),
  (["DOWNWARDS HARPOON", "UPWARDS HARPOON"], [
    "WITH BARB LEFT BESIDE DOWNWARDS HARPOON WITH BARB RIGHT",
    "WITH BARB LEFT BESIDE UPWARDS HARPOON WITH BARB RIGHT,WITH BARB LEFT FROM BAR",
    "WITH BARB LEFT TO BAR,WITH BARB LEFTWARDS,WITH BARB RIGHT FROM BAR,WITH BARB RIGHT TO BAR",
    "WITH BARB RIGHTWARDS"]),
  (["DOWNWARDS TRIANGLE-HEADED"], ["ARROW,DASHED ARROW,PAIRED ARROWS,ZIGZAG ARROW"]),
  (["DOWNWARDS TRIANGLE-HEADED ARROW"], [
    "LEFTWARDS OF UPWARDS TRIANGLE-HEADED ARROW,TO BAR,WITH BOLD SHAFT",
    "WITH DOUBLE HORIZONTAL STROKE,WITH HEAVY SHAFT,WITH LONG TIP LEFTWARDS",
    "WITH LONG TIP RIGHTWARDS,WITH MEDIUM SHAFT,WITH NARROW SHAFT,WITH VERY HEAVY SHAFT"]),
  (["DUPLOYAN"], [
    "DOUBLE MARK,PUNCTUATION CHINOOK FULL STOP,SIGN O WITH CROSS,THICK LETTER SELECTOR"]),
  (["DUPLOYAN AFFIX"], [
    "LEFT HORIZONTAL SECANT,MID HORIZONTAL SECANT,MID VERTICAL SECANT,RIGHT HORIZONTAL SECANT"]),
  (["DUPLOYAN AFFIX ATTACHED"], [
    "E HOOK,I HOOK,LEFT-TO-RIGHT SECANT,SECANT,TAIL,TANGENT,TANGENT HOOK"]),
  (["DUPLOYAN AFFIX HIGH"], [
    "ACUTE,CIRCLE,DOT,GRAVE,LINE,LONG GRAVE,TIGHT ACUTE,VERTICAL,VERTICAL SECANT,WAVE"]),
  (["DUPLOYAN AFFIX LOW"], [
    "ACUTE,ARROW,CIRCLE,DOT,GRAVE,LINE,LONG GRAVE,TIGHT ACUTE,VERTICAL,VERTICAL SECANT,WAVE"]),
  (["DUPLOYAN LETTER"], [
    "A,AOU,B,D,D S,DH,E,EE,EU,F,F N,G,G R S,H,HL,I,IE,J,J M,J M S,J N,J N S,J S,J S WITH DOT",
    "J WITH DOT,J WITH DOTS INSIDE AND ABOVE,K,K M,K R S,KK,L,LH,LONG I,LONG U,M,M N,M N S,M S",
    "M WITH DOT,N,N M,N M S,N S,N WITH DOT,NASAL A,NASAL I,NASAL O,NASAL U,O,OA,OOH,OU,OW,P,P N",
    "PERNIN AM,PERNIN AN,R,R S,RH,ROMANIAN I,ROMANIAN U,S,S J,S J S,S K,S K R,S M,S N,S P,S P R",
    "S S,S T,S T R,S WITH DOT,S WITH DOT BELOW,SHORT I,T,T R S,T S,TH,U,U N,UH,UI,V,VOCALIC M,W",
    "W R,WA,WEI,WH,WI,WO,WOW,X,XW,YE"]),
  (["DUPLOYAN LETTER SLOAN"], ["AN,DH,EE,EH,EN,J,ON,OW,U"]),
  (["EIGHT"], [
    "PETALLED OUTLINED BLACK FLORETTE,POINTED BLACK STAR,POINTED PINWHEEL STAR",
    "POINTED RECTILINEAR BLACK STAR,SPOKED ASTERISK,TEARDROP-SPOKED PROPELLER ASTERISK"]),
  (["ELEMENT"], [
    "OF,OF OPENING DOWNWARDS,OF OPENING UPWARDS,OF WITH DOT ABOVE,OF WITH LONG HORIZONTAL STROKE",
    "OF WITH OVERBAR,OF WITH TWO HORIZONTAL STROKES,OF WITH UNDERBAR",
    "OF WITH VERTICAL BAR AT END OF HORIZONTAL STROKE"]),
  (["EMPTY"], [
    "SET,SET WITH LEFT ARROW ABOVE,SET WITH OVERBAR,SET WITH RIGHT ARROW ABOVE",
    "SET WITH SMALL CIRCLE ABOVE"]),
  (["EQUAL"], [
    "AND PARALLEL TO,TO BY DEFINITION,TO OR GREATER-THAN,TO OR LESS-THAN,TO OR PRECEDES",
    "TO OR SUCCEEDS"]),
  (["EQUALS"], ["COLON,WITH ASTERISK"]),
  (["EQUALS SIGN"], [
    "ABOVE LEFTWARDS ARROW,ABOVE PLUS SIGN,ABOVE RIGHTWARDS ARROW,ABOVE TILDE OPERATOR",
    "AND SLANTED PARALLEL,AND SLANTED PARALLEL WITH TILDE ABOVE,WITH BUMPY ABOVE,WITH DOT BELOW",
    "WITH INFINITY BELOW,WITH TWO DOTS ABOVE AND TWO DOTS BELOW"]),
  (["ERROR-BARRED"], [
    "BLACK CIRCLE,BLACK DIAMOND,BLACK SQUARE,WHITE CIRCLE,WHITE DIAMOND,WHITE SQUARE"]),
  (["EXTREMELY HEAVY"], [
    "FIVE SPOKED ASTERISK,GREEK CROSS,SALTIRE,SIX SPOKED ASTERISK,WHITE CIRCLE,WHITE SQUARE"]),
  (["FOUR"], [
    "BALLOON-SPOKED ASTERISK,CLUB-SPOKED ASTERISK,CORNER ARROWS CIRCLING ANTICLOCKWISE,DOT MARK",
    "DOT PUNCTUATION,POINTED BLACK STAR,TEARDROP-SPOKED ASTERISK"]),
  (["GREATER-THAN"], [
    "ABOVE DOUBLE-LINE EQUAL ABOVE LESS-THAN,ABOVE LESS-THAN ABOVE DOUBLE-LINE EQUAL",
    "ABOVE RIGHTWARDS ARROW,ABOVE SIMILAR ABOVE LESS-THAN,ABOVE SIMILAR OR EQUAL",
    "ABOVE SLANTED EQUAL ABOVE LESS-THAN ABOVE SLANTED EQUAL,AND NOT APPROXIMATE",
    "AND SINGLE-LINE NOT EQUAL TO,BESIDE LESS-THAN,BUT NOT EQUAL TO,BUT NOT EQUIVALENT TO",
    "CLOSED BY CURVE,CLOSED BY CURVE ABOVE SLANTED EQUAL,EQUAL TO OR LESS-THAN,OR APPROXIMATE",
    "OR EQUAL TO,OR EQUIVALENT TO,OR LESS-THAN,OR SLANTED EQUAL TO",
    "OR SLANTED EQUAL TO WITH DOT ABOVE,OR SLANTED EQUAL TO WITH DOT ABOVE LEFT",
    "OR SLANTED EQUAL TO WITH DOT INSIDE,OVER EQUAL TO,OVERLAPPING LESS-THAN,WITH CIRCLE INSIDE",
    "WITH DOT,WITH QUESTION MARK ABOVE"]),
  (["HEAVY"], [
    "ARROW SHAFT WIDTH ONE,ARROW SHAFT WIDTH ONE HALF,ARROW SHAFT WIDTH ONE THIRD",
    "ARROW SHAFT WIDTH TWO THIRDS,ASTERISK,BALLOT X,BLACK CURVED DOWNWARDS AND RIGHTWARDS ARROW",
    "BLACK CURVED UPWARDS AND RIGHTWARDS ARROW,BLACK HEART,CHECK MARK,CHEVRON SNOWFLAKE,CIRCLE",
    "CIRCLE WITH CIRCLE INSIDE,CIRCLE WITH STROKE AND TWO DOTS ABOVE,CIRCLED SALTIRE",
    "CONCAVE-POINTED BLACK RIGHTWARDS ARROW,DASHED TRIANGLE-HEADED RIGHTWARDS ARROW",
    "DIVISION SIGN,DOUBLE COMMA QUOTATION MARK ORNAMENT",
    "DOUBLE TURNED COMMA QUOTATION MARK ORNAMENT,DOWNWARDS ARROW WITH EQUILATERAL ARROWHEAD",
    "DOWNWARDS ARROW WITH LARGE EQUILATERAL ARROWHEAD,EIGHT POINTED BLACK STAR",
    "EIGHT POINTED PINWHEEL STAR,EIGHT POINTED RECTILINEAR BLACK STAR,EIGHT SPOKED ASTERISK",
    "EIGHT TEARDROP-SPOKED PROPELLER ASTERISK,EQUALS SIGN,EXCLAMATION MARK ORNAMENT",
    "EXCLAMATION MARK SYMBOL,FIVE POINTED BLACK STAR,FIVE SPOKED ASTERISK",
    "FOUR BALLOON-SPOKED ASTERISK,GREEK CROSS,HEART EXCLAMATION MARK ORNAMENT,HORIZONTAL FILL",
    "LARGE CIRCLE,LEFT-POINTING ANGLE BRACKET ORNAMENT",
    "LEFT-POINTING ANGLE QUOTATION MARK ORNAMENT,LEFTWARDS ARROW WITH EQUILATERAL ARROWHEAD",
    "LEFTWARDS ARROW WITH LARGE EQUILATERAL ARROWHEAD,LOW DOUBLE COMMA QUOTATION MARK ORNAMENT",
    "LOW SINGLE COMMA QUOTATION MARK ORNAMENT,LOWER RIGHT-SHADOWED WHITE RIGHTWARDS ARROW",
    "MINUS SIGN,MULTIPLICATION X,NORTH EAST ARROW,OPEN CENTRE CROSS,OUTLINED BLACK STAR",
    "OVAL WITH OVAL INSIDE,PLUS SIGN,RIGHT-POINTING ANGLE BRACKET ORNAMENT",
    "RIGHT-POINTING ANGLE QUOTATION MARK ORNAMENT,RIGHTWARDS ARROW",
    "RIGHTWARDS ARROW WITH EQUILATERAL ARROWHEAD",
    "RIGHTWARDS ARROW WITH LARGE EQUILATERAL ARROWHEAD,ROUND-TIPPED RIGHTWARDS ARROW,SALTIRE",
    "SINGLE COMMA QUOTATION MARK ORNAMENT,SINGLE TURNED COMMA QUOTATION MARK ORNAMENT",
    "SIX POINTED BLACK STAR,SIX SPOKED ASTERISK,SOUTH EAST ARROW,SPARKLE",
    "TEARDROP-SHANKED RIGHTWARDS ARROW,TEARDROP-SPOKED ASTERISK",
    "TEARDROP-SPOKED PINWHEEL ASTERISK,TRIANGLE-HEADED RIGHTWARDS ARROW",
    "TWELVE POINTED BLACK STAR,TWELVE POINTED PINWHEEL STAR",
    "UPPER RIGHT-SHADOWED WHITE RIGHTWARDS ARROW,UPWARDS ARROW WITH EQUILATERAL ARROWHEAD",
    "UPWARDS ARROW WITH LARGE EQUILATERAL ARROWHEAD,VERTICAL BAR,WEDGE-TAILED RIGHTWARDS ARROW",
    "WHITE CIRCLE,WHITE DOWN-POINTING TRIANGLE,WHITE SQUARE,WIDE-HEADED RIGHTWARDS ARROW"]),
  (["HORIZONTAL"], [
    "BAR,BLACK HEXAGON,BLACK OCTAGON,ELLIPSIS,LINE EXTENSION,MALE WITH STROKE SIGN,SCAN LINE-1",
    "SCAN LINE-3,SCAN LINE-7,SCAN LINE-9,TAB KEY"]),
  (["HORIZONTAL ONE"], ["EIGHTH BLOCK-1358,EIGHTH BLOCK-2..EIGHTH BLOCK-7"]),
  (["IDENTICAL"], ["TO,TO AND SLANTED PARALLEL,WITH DOT ABOVE"]),
  (["IDEOGRAPHIC"], [
    "TALLY MARK FIVE,TALLY MARK FOUR,TALLY MARK ONE,TALLY MARK THREE,TALLY MARK TWO"]),
  (["INTEGRAL"], ["AROUND A POINT OPERATOR,AVERAGE WITH SLASH,EXTENSION"]),
  (["INTEGRAL WITH"], [
    "DOUBLE STROKE,INTERSECTION,LEFTWARDS ARROW WITH HOOK,OVERBAR,TIMES SIGN,UNDERBAR,UNION"]),
  (["INTERLINEAR"], ["ANNOTATION ANCHOR,ANNOTATION SEPARATOR,ANNOTATION TERMINATOR"]),
  (["INTERSECTION"], [
    "ABOVE BAR ABOVE UNION,ABOVE UNION,BESIDE AND JOINED WITH INTERSECTION,WITH DOT",
    "WITH LOGICAL AND,WITH OVERBAR"]),
  (["INVERSE"], [
    "BULLET,CHECK MARK,CHECKER BOARD FILL,DOWNWARDS ARROW WITH TIP LEFTWARDS,MEDIUM SHADE",
    "WHITE CIRCLE"]),
  (["INVERTED"], [
    "INTERROBANG,LAZY S,LOW KAVYKA,LOW KAVYKA WITH KAVYKA ABOVE,OHM SIGN,PENTAGRAM,UNDERTIE"]),
  (["INVISIBLE"], ["PLUS,SEPARATOR,TIMES"]),
  (["LARGE"], [
    "BLUE SQUARE,BROWN CIRCLE,BROWN SQUARE,CIRCLE,DOWN TACK,GREEN CIRCLE,GREEN SQUARE",
    "LEFT TRIANGLE OPERATOR,ORANGE CIRCLE,ORANGE SQUARE,PURPLE CIRCLE,PURPLE SQUARE,RED SQUARE",
    "TRIPLE VERTICAL BAR OPERATOR,UP TACK,YELLOW CIRCLE,YELLOW SQUARE"]),
  (["LATIN"], ["CROSS,SMALL LETTER REVERSED C"]),
  (["LATIN SUBSCRIPT SMALL LETTER"], ["A,E,H,K,L,M,N,O,P,S,SCHWA,T,X"]),
  (["LEFT"], [
    "AND LOWER AND RIGHT TRIANGULAR THREE QUARTERS BLOCK,AND LOWER ONE EIGHTH BLOCK",
    "AND RIGHT DOUBLE TURNSTILE,AND RIGHT TACK,AND RIGHT TRIANGULAR HALF BLOCK",
    "AND UPPER AND RIGHT TRIANGULAR THREE QUARTERS BLOCK,AND UPPER ONE EIGHTH BLOCK",
    "ANGLE BRACKET WITH DOT,ARC LESS-THAN BRACKET,ARROW WITH CIRCLED PLUS",
    "ARROW WITH SMALL CIRCLE,BARB DOWN RIGHT BARB DOWN HARPOON,BARB DOWN RIGHT BARB UP HARPOON",
    "BARB UP RIGHT BARB DOWN HARPOON,BARB UP RIGHT BARB UP HARPOON,BLACK TORTOISE SHELL BRACKET",
    "CEILING,CLOSED ENTRY,CURLY BRACKET LOWER HOOK,CURLY BRACKET MIDDLE PIECE",
    "CURLY BRACKET UPPER HOOK,DOTTED SUBSTITUTION BRACKET,DOUBLE PARENTHESIS",
    "DOUBLE QUOTATION MARK,DOUBLE WIGGLY FENCE,FISH TAIL,FIVE EIGHTHS BLOCK,FLOOR",
    "LOW PARAPHRASE BRACKET,MULTIMAP,NORMAL FACTOR SEMIDIRECT PRODUCT,ONE EIGHTH BLOCK",
    "ONE QUARTER BLOCK,OUTER JOIN,PARENTHESIS EXTENSION,PARENTHESIS LOWER HOOK",
    "PARENTHESIS UPPER HOOK,RAISED OMISSION BRACKET,S-SHAPED BAG DELIMITER,SEMIDIRECT PRODUCT",
    "SEVEN EIGHTHS BLOCK,SIDEWAYS U BRACKET,SINGLE QUOTATION MARK,SUBSTITUTION BRACKET,TACK",
    "THIRD WHITE RIGHT POINTING INDEX,THREE EIGHTHS BLOCK,THREE QUARTERS BLOCK",
    "TRANSPOSITION BRACKET,TRIANGLE BESIDE VERTICAL BAR,TRIANGULAR ONE QUARTER BLOCK",
    "VERTICAL BAR WITH QUILL,VERTICAL BOX LINE,WHITE CURLY BRACKET,WHITE PARENTHESIS",
    "WIGGLY FENCE"]),
  (["LEFT HALF"], [
    "BLACK CIRCLE,BLACK STAR,BLOCK,FOLDER,INVERSE MEDIUM SHADE AND RIGHT HALF BLOCK,MEDIUM SHADE",
    "RUNNING MAN"]),
  (["LEFT RIGHT"], [
    "ARROW,ARROW THROUGH SMALL CIRCLE,ARROW WITH DOUBLE VERTICAL STROKE,ARROW WITH STROKE",
    "ARROW WITH VERTICAL STROKE,BLACK ARROW,DOUBLE ARROW,DOUBLE ARROW WITH STROKE",
    "DOUBLE ARROW WITH VERTICAL STROKE,OPEN-HEADED ARROW,SANS-SERIF ARROW,TRIANGLE-HEADED ARROW",
    "WAVE ARROW,WHITE ARROW"]),
  (["LEFT SQUARE BRACKET", "RIGHT SQUARE BRACKET"], [
    "EXTENSION,LOWER CORNER,UPPER CORNER,WITH DOUBLE STROKE,WITH QUILL,WITH STROKE",
    "WITH TICK IN BOTTOM CORNER,WITH TICK IN TOP CORNER,WITH UNDERBAR"]),
  (["LEFT-TO-RIGHT", "RIGHT-TO-LEFT"], ["EMBEDDING,ISOLATE,MARK,OVERRIDE"]),
  (["LEFTWARDS"], [
    "ARROW,ARROW-TAIL,BACK-TILTED SHADOWED WHITE ARROW,BLACK ARROW,BLACK CIRCLED WHITE ARROW",
    "BOTTOM-SHADED WHITE ARROW,COMPRESSED ARROW,DASHED ARROW,FINGER-POST ARROW",
    "FRONT-TILTED SHADOWED WHITE ARROW,HEAVY ARROW,HEAVY COMPRESSED ARROW",
    "LEFT-SHADED WHITE ARROW,OPEN-HEADED ARROW,PAIRED ARROWS,QUADRUPLE ARROW",
    "RIGHT-SHADED WHITE ARROW,SANS-SERIF ARROW,SQUARED ARROW,SQUIGGLE ARROW",
    "TOP SHADED WHITE ARROW,TRIANGLE ARROWHEAD,TRIPLE ARROW,TRIPLE DASH ARROW,TWO HEADED ARROW",
    "WAVE ARROW,WHITE ARROW,WHITE ARROW WITHIN TRIANGLE ARROWHEAD"]),
  (["LEFTWARDS ARROW"], [
    "ABOVE ALMOST EQUAL TO,ABOVE REVERSE ALMOST EQUAL TO,ABOVE REVERSE TILDE OPERATOR",
    "ABOVE SHORT RIGHTWARDS ARROW,ABOVE TILDE OPERATOR,AND UPPER AND LOWER ONE EIGHTH BLOCK",
    "FROM BAR,FROM BAR TO BLACK DIAMOND,OVER RIGHTWARDS ARROW,THROUGH LESS-THAN,THROUGH SUBSET",
    "THROUGH X,TO BAR,TO BAR OVER RIGHTWARDS ARROW TO BAR,TO BLACK DIAMOND"]),
  (["LEFTWARDS ARROW WITH"], [
    "DOTTED STEM,DOUBLE VERTICAL STROKE,EQUILATERAL ARROWHEAD,HOOK,LARGE TRIANGLE ARROWHEAD,LOOP",
    "MEDIUM TRIANGLE ARROWHEAD,NOTCHED TAIL,PLUS BELOW,SMALL EQUILATERAL ARROWHEAD",
    "SMALL TRIANGLE ARROWHEAD,STROKE,TAIL,TAIL WITH DOUBLE VERTICAL STROKE",
    "TAIL WITH VERTICAL STROKE,TIP DOWNWARDS,TIP UPWARDS,VERTICAL STROKE"]),
  (["LEFTWARDS DOUBLE", "RIGHTWARDS DOUBLE"], [
    "ARROW,ARROW FROM BAR,ARROW WITH STROKE,ARROW WITH VERTICAL STROKE,ARROW-TAIL,DASH ARROW"]),
  (["LEFTWARDS HARPOON"], ["OVER RIGHTWARDS HARPOON"]),
  (["LEFTWARDS HARPOON WITH BARB"], [
    "DOWN ABOVE RIGHTWARDS HARPOON WITH BARB DOWN,DOWN BELOW LONG DASH,DOWN FROM BAR,DOWN TO BAR",
    "DOWNWARDS,UP ABOVE LEFTWARDS HARPOON WITH BARB DOWN,UP ABOVE LONG DASH",
    "UP ABOVE RIGHTWARDS HARPOON WITH BARB UP,UP FROM BAR,UP TO BAR,UPWARDS"]),
  (["LEFTWARDS TRIANGLE-HEADED", "RIGHTWARDS TRIANGLE-HEADED", "UPWARDS TRIANGLE-HEADED"], [
    "ARROW,DASHED ARROW,PAIRED ARROWS"]),
  (["LEFTWARDS TRIANGLE-HEADED ARROW"], [
    "OVER RIGHTWARDS TRIANGLE-HEADED ARROW,TO BAR,WITH BOLD SHAFT,WITH DOUBLE HORIZONTAL STROKE",
    "WITH HEAVY SHAFT,WITH LONG TIP DOWNWARDS,WITH LONG TIP UPWARDS,WITH MEDIUM SHAFT",
    "WITH NARROW SHAFT,WITH VERY HEAVY SHAFT"]),
  (["LEFTWARDS TWO-HEADED", "RIGHTWARDS TWO-HEADED"], [
    "ARROW FROM BAR,ARROW WITH DOUBLE VERTICAL STROKE,ARROW WITH TAIL",
    "ARROW WITH TAIL WITH DOUBLE VERTICAL STROKE,ARROW WITH TAIL WITH VERTICAL STROKE",
    "ARROW WITH TRIANGLE ARROWHEADS,ARROW WITH VERTICAL STROKE,TRIPLE DASH ARROW"]),
  (["LESS-THAN"], [
    "AND NOT APPROXIMATE,AND SINGLE-LINE NOT EQUAL TO,BUT NOT EQUAL TO,BUT NOT EQUIVALENT TO",
    "CLOSED BY CURVE,CLOSED BY CURVE ABOVE SLANTED EQUAL,EQUAL TO OR GREATER-THAN,OR APPROXIMATE",
    "OR EQUAL TO,OR EQUIVALENT TO,OR GREATER-THAN,OR SLANTED EQUAL TO",
    "OR SLANTED EQUAL TO WITH DOT ABOVE,OR SLANTED EQUAL TO WITH DOT ABOVE RIGHT",
    "OR SLANTED EQUAL TO WITH DOT INSIDE,OVER EQUAL TO,WITH CIRCLE INSIDE,WITH DOT",
    "WITH QUESTION MARK ABOVE"]),
  (["LESS-THAN ABOVE"], [
    "DOUBLE-LINE EQUAL ABOVE GREATER-THAN,GREATER-THAN ABOVE DOUBLE-LINE EQUAL,LEFTWARDS ARROW",
    "SIMILAR ABOVE GREATER-THAN,SIMILAR OR EQUAL",
    "SLANTED EQUAL ABOVE GREATER-THAN ABOVE SLANTED EQUAL"]),
  (["LIGHT"], [
    "EIGHT SPOKED ASTERISK,FIVE POINTED BLACK STAR,FIVE SPOKED ASTERISK,FOUR POINTED BLACK CUSP",
    "FOUR POINTED BLACK STAR,GREEK CROSS,LEFT TORTOISE SHELL BRACKET ORNAMENT",
    "RIGHT TORTOISE SHELL BRACKET ORNAMENT,SALTIRE,SHADE,SIX SPOKED ASTERISK",
    "THREE POINTED BLACK STAR,TWELVE POINTED BLACK STAR,VERTICAL BAR,WHITE SQUARE"]),
  (["LOGICAL"], [
    "AND,AND WITH DOT ABOVE,AND WITH DOUBLE OVERBAR,AND WITH DOUBLE UNDERBAR",
    "AND WITH HORIZONTAL DASH,AND WITH MIDDLE STEM,AND WITH UNDERBAR,OR",
    "OR OVERLAPPING LOGICAL AND,OR WITH DOT ABOVE,OR WITH DOUBLE OVERBAR,OR WITH DOUBLE UNDERBAR",
    "OR WITH HORIZONTAL DASH,OR WITH MIDDLE STEM"]),
  (["LONG"], [
    "DASH FROM LEFT MEMBER OF DOUBLE VERTICAL,DIVISION,LEFT RIGHT ARROW,LEFT RIGHT DOUBLE ARROW",
    "LEFT TACK,RIGHT TACK"]),
  (["LONG LEFTWARDS", "LONG RIGHTWARDS"], [
    "ARROW,ARROW FROM BAR,DOUBLE ARROW,DOUBLE ARROW FROM BAR,SQUIGGLE ARROW"]),
  (["LOWER"], [
    "BLADE SCISSORS,FIVE EIGHTHS BLOCK,HALF BLOCK,HALF CIRCLE,HALF INVERSE WHITE CIRCLE",
    "HALF MEDIUM SHADE,ONE EIGHTH BLOCK,ONE QUARTER BLOCK,SEVEN EIGHTHS BLOCK",
    "THREE EIGHTHS BLOCK,THREE QUARTERS BLOCK,TRIANGULAR ONE QUARTER BLOCK"]),
  (["LOWER LEFT"], [
    "QUADRANT CIRCULAR ARC,SEMICIRCULAR ANTICLOCKWISE ARROW,TRIANGLE,TRIANGULAR MEDIUM SHADE"]),
  (["LOWER LEFT BLOCK DIAGONAL", "UPPER RIGHT BLOCK DIAGONAL"], [
    "LOWER MIDDLE LEFT TO LOWER CENTRE,LOWER MIDDLE LEFT TO LOWER RIGHT"]),
  (["LOWER LEFT BLOCK DIAGONAL UPPER", "UPPER RIGHT BLOCK DIAGONAL UPPER"], [
    "CENTRE TO LOWER MIDDLE RIGHT,CENTRE TO LOWER RIGHT,CENTRE TO UPPER MIDDLE RIGHT",
    "LEFT TO LOWER CENTRE,LEFT TO LOWER MIDDLE RIGHT,LEFT TO UPPER MIDDLE RIGHT",
    "MIDDLE LEFT TO LOWER CENTRE,MIDDLE LEFT TO LOWER MIDDLE RIGHT,MIDDLE LEFT TO LOWER RIGHT"]),
  (["LOWER RIGHT"], [
    "CORNER WITH DOT,DROP-SHADOWED WHITE SQUARE,PENCIL,QUADRANT CIRCULAR ARC",
    "SEMICIRCULAR CLOCKWISE ARROW,SHADOWED WHITE SQUARE,TRIANGLE,TRIANGULAR MEDIUM SHADE"]),
  (["LOWER RIGHT BLOCK DIAGONAL", "UPPER LEFT BLOCK DIAGONAL"], [
    "UPPER MIDDLE LEFT TO UPPER CENTRE,UPPER MIDDLE LEFT TO UPPER RIGHT"]),
  (["LOWER RIGHT BLOCK DIAGONAL LOWER", "UPPER LEFT BLOCK DIAGONAL LOWER"], [
    "CENTRE TO LOWER MIDDLE RIGHT,CENTRE TO UPPER MIDDLE RIGHT,CENTRE TO UPPER RIGHT",
    "LEFT TO LOWER MIDDLE RIGHT,LEFT TO UPPER CENTRE,LEFT TO UPPER MIDDLE RIGHT",
    "MIDDLE LEFT TO UPPER CENTRE,MIDDLE LEFT TO UPPER MIDDLE RIGHT,MIDDLE LEFT TO UPPER RIGHT"]),
  (["MATHEMATICAL"], [
    "FALLING DIAGONAL,LEFT ANGLE BRACKET,LEFT DOUBLE ANGLE BRACKET,LEFT FLATTENED PARENTHESIS",
    "LEFT WHITE SQUARE BRACKET,LEFT WHITE TORTOISE SHELL BRACKET,RIGHT ANGLE BRACKET",
    "RIGHT DOUBLE ANGLE BRACKET,RIGHT FLATTENED PARENTHESIS,RIGHT WHITE SQUARE BRACKET",
    "RIGHT WHITE TORTOISE SHELL BRACKET,RISING DIAGONAL"]),
  (["MATHEMATICAL BOLD", "MATHEMATICAL BOLD ITALIC", "MATHEMATICAL ITALIC",
    "MATHEMATICAL SANS-SERIF BOLD", "MATHEMATICAL SANS-SERIF BOLD ITALIC"], [
    "EPSILON SYMBOL,KAPPA SYMBOL,NABLA,PARTIAL DIFFERENTIAL,PHI SYMBOL,PI SYMBOL,RHO SYMBOL",
    "THETA SYMBOL"]),
  (["MATHEMATICAL BOLD CAPITAL"], [
    "A,ALPHA,B,BETA,C,CHI,D,DELTA,DIGAMMA,E,EPSILON,ETA,F,G,GAMMA,H,I,IOTA,J,K,KAPPA,L,LAMDA,M",
    "MU,N,NU,O,OMEGA,OMICRON,P,PHI,PI,PSI,Q,R,RHO,S,SIGMA,T,TAU,THETA,THETA SYMBOL,U,UPSILON,V,W",
    "X,XI,Y,Z,ZETA"]),
  (["MATHEMATICAL BOLD ITALIC CAPITAL", "MATHEMATICAL ITALIC CAPITAL",
    "MATHEMATICAL SANS-SERIF BOLD CAPITAL", "MATHEMATICAL SANS-SERIF BOLD ITALIC CAPITAL"], [
    "A,ALPHA,B,BETA,C,CHI,D,DELTA,E,EPSILON,ETA,F,G,GAMMA,H,I,IOTA,J,K,KAPPA,L,LAMDA,M,MU,N,NU,O",
    "OMEGA,OMICRON,P,PHI,PI,PSI,Q,R,RHO,S,SIGMA,T,TAU,THETA,THETA SYMBOL,U,UPSILON,V,W,X,XI,Y,Z",
    "ZETA"]),
  (["MATHEMATICAL BOLD ITALIC SMALL", "MATHEMATICAL SANS-SERIF BOLD ITALIC SMALL",
    "MATHEMATICAL SANS-SERIF BOLD SMALL"], [
    "A,ALPHA,B,BETA,C,CHI,D,DELTA,E,EPSILON,ETA,F,FINAL SIGMA,G,GAMMA,H,I,IOTA,J,K,KAPPA,L,LAMDA",
    "M,MU,N,NU,O,OMEGA,OMICRON,P,PHI,PI,PSI,Q,R,RHO,S,SIGMA,T,TAU,THETA,U,UPSILON,V,W,X,XI,Y,Z",
    "ZETA"]),
  (["MATHEMATICAL BOLD SMALL"], [
    "A,ALPHA,B,BETA,C,CHI,D,DELTA,DIGAMMA,E,EPSILON,ETA,F,FINAL SIGMA,G,GAMMA,H,I,IOTA,J,K,KAPPA",
    "L,LAMDA,M,MU,N,NU,O,OMEGA,OMICRON,P,PHI,PI,PSI,Q,R,RHO,S,SIGMA,T,TAU,THETA,U,UPSILON,V,W,X",
    "XI,Y,Z,ZETA"]),
  (["MATHEMATICAL DOUBLE-STRUCK CAPITAL"], ["A,B,D,E,F,G,I,J,K,L,M,O,S,T,U,V,W,X,Y"]),
  (["MATHEMATICAL FRAKTUR CAPITAL"], ["A,B,D,E,F,G,J,K,L,M,N,O,P,Q,S,T,U,V,W,X,Y"]),
  (["MATHEMATICAL ITALIC SMALL"], [
    "A,ALPHA,B,BETA,C,CHI,D,DELTA,DOTLESS I,DOTLESS J,E,EPSILON,ETA,F,FINAL SIGMA,G,GAMMA,I,IOTA",
    "J,K,KAPPA,L,LAMDA,M,MU,N,NU,O,OMEGA,OMICRON,P,PHI,PI,PSI,Q,R,RHO,S,SIGMA,T,TAU,THETA,U",
    "UPSILON,V,W,X,XI,Y,Z,ZETA"]),
  (["MATHEMATICAL SCRIPT CAPITAL"], ["A,C,D,G,J,K,N,O,P,Q,S,T,U,V,W,X,Y,Z"]),
  (["MATHEMATICAL SCRIPT SMALL"], ["A,B,C,D,F,H,I,J,K,L,M,N,P,Q,R,S,T,U,V,W,X,Y,Z"]),
  (["MAYAN NUMERAL"], [
    "EIGHT,EIGHTEEN,ELEVEN,FIFTEEN,FIVE,FOUR,FOURTEEN,NINE,NINETEEN,ONE,SEVEN,SEVENTEEN,SIX",
    "SIXTEEN,TEN,THIRTEEN,THREE,TWELVE,TWO,ZERO"]),
  (["MEASURED"], ["ANGLE,BY,RIGHT ANGLE WITH DOT"]),
  (["MEASURED ANGLE"], ["OPENING LEFT"]),
  (["MEASURED ANGLE WITH OPEN ARM ENDING"], [
    "IN ARROW POINTING DOWN AND LEFT,IN ARROW POINTING DOWN AND RIGHT",
    "IN ARROW POINTING LEFT AND DOWN,IN ARROW POINTING LEFT AND UP",
    "IN ARROW POINTING RIGHT AND DOWN,IN ARROW POINTING RIGHT AND UP",
    "IN ARROW POINTING UP AND LEFT,IN ARROW POINTING UP AND RIGHT"]),
  (["MEDIUM"], [
    "BLACK CIRCLE,BOLD WHITE CIRCLE,EIGHT POINTED BLACK STAR,EIGHT SPOKED ASTERISK",
    "FIVE SPOKED ASTERISK,FLATTENED LEFT PARENTHESIS ORNAMENT",
    "FLATTENED RIGHT PARENTHESIS ORNAMENT,FOUR POINTED BLACK STAR,FOUR POINTED PINWHEEL STAR",
    "GREEK CROSS,LEFT CURLY BRACKET ORNAMENT,LEFT PARENTHESIS ORNAMENT",
    "LEFT-POINTING ANGLE BRACKET ORNAMENT,MATHEMATICAL SPACE,RIGHT CURLY BRACKET ORNAMENT",
    "RIGHT PARENTHESIS ORNAMENT,RIGHT-POINTING ANGLE BRACKET ORNAMENT,SALTIRE,SHADE",
    "SIX POINTED BLACK STAR,SIX SPOKED ASTERISK,SMALL WHITE CIRCLE,THREE POINTED BLACK STAR",
    "THREE POINTED PINWHEEL STAR,VERTICAL BAR,WHITE CIRCLE,WHITE SQUARE"]),
  (["METRICAL"], [
    "BREVE,LONG OVER SHORT,LONG OVER TWO SHORTS,PENTASEME,SHORT OVER LONG,TETRASEME,TRISEME",
    "TWO SHORTS JOINED,TWO SHORTS OVER LONG"]),
  (["MINUS"], [
    "SIGN,SIGN IN TRIANGLE,SIGN WITH COMMA ABOVE,SIGN WITH DOT BELOW,SIGN WITH FALLING DOTS",
    "SIGN WITH RISING DOTS,TILDE"]),
  (["MULTIPLICATION"], [
    "SIGN IN DOUBLE CIRCLE,SIGN IN LEFT HALF CIRCLE,SIGN IN RIGHT HALF CIRCLE,SIGN IN TRIANGLE",
    "SIGN WITH DOT ABOVE,SIGN WITH UNDERBAR,X"]),
  (["MUSICAL SYMBOL"], [
    "ARPEGGIATO DOWN,ARPEGGIATO UP,BEGIN BEAM,BEGIN PHRASE,BEGIN SLUR,BEGIN TIE,BRACE,BRACKET",
    "BREATH MARK,BREVE,BREVIS,BREVIS REST,C CLEF,CAESURA,CIRCLE X NOTEHEAD,CLIMACUS,CLIVIS",
    "CLUSTER NOTEHEAD BLACK,CLUSTER NOTEHEAD WHITE,CODA,COMMON TIME,CRESCENDO,CROIX,CUT TIME",
    "DA CAPO,DAL SEGNO,DAMP,DAMP ALL,DASHED BARLINE,DECRESCENDO,DEGREE SLASH,DOUBLE BARLINE",
    "DOUBLE FLAT,DOUBLE SHARP,DRUM CLEF-1,DRUM CLEF-2,EIGHTH NOTE,EIGHTH REST,END BEAM",
    "END OF STIMME,END PHRASE,END SLUR,END TIE,F CLEF,F CLEF OTTAVA ALTA,F CLEF OTTAVA BASSA",
    "FERMATA,FERMATA BELOW,FINAL BARLINE,FINGERED TREMOLO-1,FINGERED TREMOLO-2",
    "FINGERED TREMOLO-3,FIVE-LINE STAFF,FLAT DOWN,FLAT UP,FORTE,FOUR-LINE STAFF",
    "FOUR-STRING FRETBOARD,FUSA BLACK,FUSA WHITE,G CLEF,G CLEF OTTAVA ALTA,G CLEF OTTAVA BASSA",
    "GLISSANDO DOWN,GLISSANDO UP,GRACE NOTE NO SLASH,GRACE NOTE SLASH,GREGORIAN C CLEF",
    "GREGORIAN F CLEF,HALF NOTE,HALF PEDAL MARK,HALF REST,HAUPTSTIMME,INVERTED TURN,KORON",
    "LEFT REPEAT SIGN,LONGA,LONGA IMPERFECTA REST,LONGA PERFECTA REST,MAXIMA,MEZZO,MINIMA",
    "MINIMA BLACK,MINIMA REST,MOON NOTEHEAD BLACK,MOON NOTEHEAD WHITE,MULTI REST",
    "MULTIPLE MEASURE REST,NATURAL DOWN,NATURAL UP,NEBENSTIMME,NOTEHEAD BLACK,NULL NOTEHEAD",
    "ONE HUNDRED TWENTY-EIGHTH NOTE,ONE HUNDRED TWENTY-EIGHTH REST,ONE-LINE STAFF",
    "ORNAMENT STROKE-1..ORNAMENT STROKE-9,ORNAMENT STROKE-10,ORNAMENT STROKE-11,OTTAVA ALTA",
    "OTTAVA BASSA,PARENTHESIS NOTEHEAD,PEDAL MARK,PEDAL UP MARK,PES SUBPUNCTIS,PIANO",
    "PLUS NOTEHEAD,PODATUS,PORRECTUS,PORRECTUS FLEXUS,QUARTER NOTE,QUARTER REST",
    "QUARTER TONE FLAT,QUARTER TONE SHARP,QUINDICESIMA ALTA,QUINDICESIMA BASSA,REPEAT DOTS",
    "REPEATED FIGURE-1..REPEATED FIGURE-3,REVERSE FINAL BARLINE,RIGHT REPEAT SIGN,RINFORZANDO",
    "SCANDICUS,SCANDICUS FLEXUS,SEGNO,SEMIBREVIS BLACK,SEMIBREVIS REST,SEMIBREVIS WHITE",
    "SEMIMINIMA BLACK,SEMIMINIMA REST,SEMIMINIMA WHITE,SHARP DOWN,SHARP UP,SHORT BARLINE",
    "SINGLE BARLINE,SIX-LINE STAFF,SIX-STRING FRETBOARD,SIXTEENTH NOTE,SIXTEENTH REST",
    "SIXTY-FOURTH NOTE,SIXTY-FOURTH REST,SORI,SQUARE B,SQUARE NOTEHEAD BLACK",
    "SQUARE NOTEHEAD WHITE,SUBITO,THIRTY-SECOND NOTE,THIRTY-SECOND REST,THREE-LINE STAFF",
    "TORCULUS,TORCULUS RESUPINUS,TR,TRIANGLE-ROUND NOTEHEAD DOWN BLACK",
    "TRIANGLE-ROUND NOTEHEAD DOWN WHITE,TURN,TURN SLASH,TURN UP,TWO-LINE STAFF,VIRGA",
    "VOID NOTEHEAD,WHOLE NOTE,WHOLE REST,WITH FINGERNAILS,X NOTEHEAD,Z"]),
  (["MUSICAL SYMBOL COMBINING"], [
    "ACCENT,ACCENT-STACCATO,AUGMENTATION DOT,BEND,DOIT,DOUBLE TONGUE,DOWN BOW,FLAG-1..FLAG-5",
    "FLIP,HARMONIC,LOURE,MARCATO,MARCATO-STACCATO,RIP,SMEAR,SNAP PIZZICATO,SPRECHGESANG STEM",
    "STACCATISSIMO,STACCATO,STEM,TENUTO,TREMOLO-1..TREMOLO-3,TRIPLE TONGUE,UP BOW"]),
  (["MUSICAL SYMBOL KIEVAN"], [
    "C CLEF,EIGHTH NOTE STEM DOWN,EIGHTH NOTE STEM UP,END OF PIECE,FINAL NOTE,FLAT SIGN",
    "HALF NOTE,QUARTER NOTE STEM DOWN,QUARTER NOTE STEM UP,RECITATIVE MARK,WHOLE NOTE"]),
  (["MUSICAL SYMBOL TEMPUS"], [
    "PERFECTUM CUM PROLATIONE IMPERFECTA,PERFECTUM CUM PROLATIONE PERFECTA",
    "PERFECTUM CUM PROLATIONE PERFECTA DIMINUTION-1"]),
  (["MUSICAL SYMBOL TEMPUS IMPERFECTUM"], [
    "CUM PROLATIONE IMPERFECTA,CUM PROLATIONE IMPERFECTA DIMINUTION-1",
    "CUM PROLATIONE IMPERFECTA DIMINUTION-2,CUM PROLATIONE IMPERFECTA DIMINUTION-3",
    "CUM PROLATIONE PERFECTA"]),
  (["MUSICAL SYMBOL TRIANGLE NOTEHEAD"], [
    "DOWN BLACK,DOWN WHITE,LEFT BLACK,LEFT WHITE,RIGHT BLACK,RIGHT WHITE,UP BLACK,UP RIGHT BLACK",
    "UP RIGHT WHITE,UP WHITE"]),
  (["N-ARY"], [
    "CIRCLED DOT OPERATOR,CIRCLED PLUS OPERATOR,CIRCLED TIMES OPERATOR,COPRODUCT,INTERSECTION",
    "LOGICAL AND,LOGICAL OR,PRODUCT,SQUARE INTERSECTION OPERATOR,SQUARE UNION OPERATOR,SUMMATION",
    "TIMES OPERATOR,UNION,UNION OPERATOR WITH DOT,UNION OPERATOR WITH PLUS,WHITE VERTICAL BAR"]),
  (["NEGATIVE"], ["DIAGONAL CROSS,DIAGONAL DIAMOND,DIAGONAL MIDDLE RIGHT TO LOWER CENTRE"]),
  (["NEGATIVE CIRCLED"], ["DIGIT ZERO,SQUARE,TRIANGLE"]),
  (["NEGATIVE CIRCLED NUMBER"], [
    "EIGHTEEN,ELEVEN,FIFTEEN,FOURTEEN,NINETEEN,SEVENTEEN,SIXTEEN,THIRTEEN,TWELVE,TWENTY"]),
  (["NEGATIVE SQUARED"], ["AB,CROSS MARK,IC,PA,QUESTION MARK,SA,WC"]),
  (["NEITHER"], [
    "A SUBSET OF NOR EQUAL TO,A SUPERSET OF NOR EQUAL TO,APPROXIMATELY NOR ACTUALLY EQUAL TO",
    "GREATER-THAN NOR EQUAL TO,GREATER-THAN NOR EQUIVALENT TO,GREATER-THAN NOR LESS-THAN",
    "LESS-THAN NOR EQUAL TO,LESS-THAN NOR EQUIVALENT TO,LESS-THAN NOR GREATER-THAN"]),
  (["NORTH EAST"], [
    "AND SOUTH WEST ARROW,ARROW,ARROW AND SOUTH EAST ARROW,ARROW CROSSING NORTH WEST ARROW",
    "ARROW CROSSING SOUTH EAST ARROW,ARROW WITH HOOK,BLACK ARROW,DOUBLE ARROW,SANS-SERIF ARROW",
    "TRIANGLE-HEADED ARROW,TRIANGLE-HEADED ARROW TO BAR,WHITE ARROW"]),
  (["NORTH WEST"], [
    "AND SOUTH EAST ARROW,ARROW,ARROW AND NORTH EAST ARROW,ARROW CROSSING NORTH EAST ARROW",
    "ARROW TO CORNER,ARROW TO LONG BAR,ARROW WITH HOOK,BLACK ARROW,DOUBLE ARROW,SANS-SERIF ARROW",
    "TRIANGLE-HEADED ARROW,TRIANGLE-HEADED ARROW TO BAR,WHITE ARROW"]),
  (["NOT"], [
    "A SUBSET OF,A SUPERSET OF,ALMOST EQUAL TO,AN ELEMENT OF,ASYMPTOTICALLY EQUAL TO,CHECK MARK",
    "EQUAL TO,EQUIVALENT TO,GREATER-THAN,IDENTICAL TO,LESS-THAN,NORMAL SUBGROUP OF",
    "NORMAL SUBGROUP OF OR EQUAL TO,PARALLEL TO,SQUARE IMAGE OF OR EQUAL TO",
    "SQUARE ORIGINAL OF OR EQUAL TO,TILDE,TRUE"]),
  (["NUMBER"], [
    "EIGHTEEN FULL STOP,ELEVEN FULL STOP,FIFTEEN FULL STOP,FOURTEEN FULL STOP,NINETEEN FULL STOP",
    "SEVENTEEN FULL STOP,SIXTEEN FULL STOP,TEN FULL STOP,THIRTEEN FULL STOP,TWELVE FULL STOP",
    "TWENTY FULL STOP"]),
  (["OCR"], [
    "AMOUNT OF CHECK,BELT BUCKLE,BOW TIE,BRANCH BANK IDENTIFICATION,CHAIR",
    "CUSTOMER ACCOUNT NUMBER,DASH,DOUBLE BACKSLASH,FORK,HOOK,INVERTED FORK"]),
  (["OPEN"], [
    "BOX,CENTRE ASTERISK,CENTRE BLACK STAR,CENTRE CROSS,CENTRE TEARDROP-SPOKED ASTERISK,SUBSET",
    "SUPERSET"]),
  (["OPEN-CIRCUIT-OUTPUT"], ["H-TYPE SYMBOL,L-TYPE SYMBOL"]),
  (["OUTLINED"], ["BLACK STAR,GREEK CROSS,LATIN CROSS,WHITE STAR"]),
  (["OVERLAPPING"], ["BLACK SQUARES,WHITE AND BLACK SQUARES,WHITE SQUARES"]),
  (["PLUS SIGN"], ["ABOVE EQUALS SIGN,IN LEFT HALF CIRCLE,IN RIGHT HALF CIRCLE,IN TRIANGLE"]),
  (["PLUS SIGN WITH"], [
    "BLACK TRIANGLE,CIRCUMFLEX ACCENT ABOVE,DOT BELOW,SMALL CIRCLE ABOVE,SUBSCRIPT TWO",
    "TILDE ABOVE,TILDE BELOW"]),
  (["PLUTO"], ["FORM FIVE,FORM FOUR,FORM THREE,FORM TWO"]),
  (["PRECEDES", "SUCCEEDS"], [
    "BUT NOT EQUIVALENT TO,OR EQUAL TO,OR EQUIVALENT TO,UNDER RELATION"]),
  (["PRECEDES ABOVE", "SUCCEEDS ABOVE"], [
    "ALMOST EQUAL TO,EQUALS SIGN,NOT ALMOST EQUAL TO,NOT EQUAL TO,SINGLE-LINE EQUALS SIGN",
    "SINGLE-LINE NOT EQUAL TO"]),
  (["QUADRANT"], ["LOWER LEFT,LOWER RIGHT"]),
  (["QUADRANT UPPER"], [
    "LEFT,LEFT AND LOWER LEFT AND LOWER RIGHT,LEFT AND LOWER RIGHT",
    "LEFT AND UPPER RIGHT AND LOWER LEFT,LEFT AND UPPER RIGHT AND LOWER RIGHT,RIGHT",
    "RIGHT AND LOWER LEFT,RIGHT AND LOWER LEFT AND LOWER RIGHT"]),
  (["RAISED"], [
    "COMMA,DOT,DOTTED INTERPOLATION MARKER,FIST,HAND,INTERPOLATION MARKER,MC SIGN,MD SIGN",
    "MR SIGN,SQUARE"]),
  (["RECYCLING SYMBOL"], [
    "FOR GENERIC MATERIALS,FOR TYPE-1 PLASTICS,FOR TYPE-2 PLASTICS,FOR TYPE-3 PLASTICS",
    "FOR TYPE-4 PLASTICS,FOR TYPE-5 PLASTICS,FOR TYPE-6 PLASTICS,FOR TYPE-7 PLASTICS"]),
  (["REVERSE"], [
    "LIGHT FOUR POINTED PINWHEEL STAR,SOLIDUS OPERATOR,SOLIDUS PRECEDING SUBSET",
    "SOLIDUS WITH HORIZONTAL STROKE,TILDE OPERATOR ABOVE LEFTWARDS ARROW",
    "TILDE OPERATOR ABOVE RIGHTWARDS ARROW"]),
  (["REVERSED"], [
    "ANGLE,ANGLE WITH UNDERBAR,COMMA,DOUBLE PRIME,DOUBLE STROKE NOT SIGN,EMPTY SET",
    "FORKED PARAGRAPHOS,NOT SIGN,PILCROW SIGN,PRIME,QUESTION MARK,RIGHT ANGLE",
    "ROTATED FLORAL HEART BULLET,SANS-SERIF CAPITAL L,SEMICOLON,TILDE,TILDE EQUALS,TRIPLE PRIME"]),
  (["RIBBON ARROW"], [
    "DOWN LEFT,DOWN RIGHT,LEFT DOWN,LEFT UP,RIGHT DOWN,RIGHT UP,UP LEFT,UP RIGHT"]),
  (["RIGHT"], [
    "AND LOWER ONE EIGHTH BLOCK,AND UPPER ONE EIGHTH BLOCK,ANGLE,ARC GREATER-THAN BRACKET",
    "ARROW WITH CIRCLED PLUS,ARROW WITH SMALL CIRCLE,BLACK TORTOISE SHELL BRACKET,CEILING",
    "CURLY BRACKET LOWER HOOK,CURLY BRACKET MIDDLE PIECE,CURLY BRACKET UPPER HOOK",
    "DOTTED SUBSTITUTION BRACKET,DOUBLE ARROW WITH ROUNDED HEAD,DOUBLE PARENTHESIS",
    "DOUBLE QUOTATION MARK,DOUBLE WIGGLY FENCE,FISH TAIL,FIVE EIGHTHS BLOCK,FLOOR",
    "HALF BLACK CIRCLE,HALF BLACK STAR,HALF BLOCK,HALF FOLDER,HALF MEDIUM SHADE,HALF RUNNING MAN",
    "LOW PARAPHRASE BRACKET,NORMAL FACTOR SEMIDIRECT PRODUCT,ONE EIGHTH BLOCK,ONE QUARTER BLOCK",
    "OPEN SQUARED DOT,OUTER JOIN,PARENTHESIS EXTENSION,PARENTHESIS LOWER HOOK",
    "PARENTHESIS UPPER HOOK,RAISED OMISSION BRACKET,S-SHAPED BAG DELIMITER,SEMIDIRECT PRODUCT",
    "SEVEN EIGHTHS BLOCK,SIDEWAYS U BRACKET,SINGLE QUOTATION MARK,SUBSTITUTION BRACKET,TACK",
    "THIRD WHITE RIGHT POINTING INDEX,THREE EIGHTHS BLOCK,THREE QUARTERS BLOCK",
    "TRANSPOSITION BRACKET,TRIANGLE,TRIANGLE ABOVE LEFT TRIANGLE,TRIANGULAR ONE QUARTER BLOCK",
    "VERTICAL BAR WITH QUILL,VERTICAL BOX LINE,WHITE CURLY BRACKET,WHITE PARENTHESIS",
    "WIGGLY FENCE"]),
  (["RIGHT ANGLE"], [
    "BRACKET WITH DOT,DOTTED SUBSTITUTION MARKER,SUBSTITUTION MARKER,VARIANT WITH SQUARE",
    "WITH ARC,WITH DOWNWARDS ZIGZAG ARROW"]),
  (["RIGHTWARDS"], [
    "ARROW,ARROW-TAIL,BACK-TILTED SHADOWED WHITE ARROW,BLACK ARROW,BLACK CIRCLED WHITE ARROW",
    "BOTTOM SHADED WHITE ARROW,COMPRESSED ARROW,DASHED ARROW,FINGER-POST ARROW",
    "FRONT-TILTED SHADOWED WHITE ARROW,HEAVY ARROW,HEAVY COMPRESSED ARROW",
    "LEFT-SHADED WHITE ARROW,OPEN-HEADED ARROW,PAIRED ARROWS,QUADRUPLE ARROW",
    "RIGHT-SHADED WHITE ARROW,SANS-SERIF ARROW,SQUARED ARROW,SQUIGGLE ARROW",
    "TOP SHADED WHITE ARROW,TRIANGLE ARROWHEAD,TRIPLE ARROW,TRIPLE DASH ARROW,TWO HEADED ARROW",
    "WAVE ARROW,WHITE ARROW,WHITE ARROW FROM WALL,WHITE ARROW WITHIN TRIANGLE ARROWHEAD"]),
  (["RIGHTWARDS ARROW"], [
    "ABOVE ALMOST EQUAL TO,ABOVE REVERSE ALMOST EQUAL TO,ABOVE REVERSE TILDE OPERATOR",
    "ABOVE SHORT LEFTWARDS ARROW,ABOVE TILDE OPERATOR,AND UPPER AND LOWER ONE EIGHTH BLOCK",
    "FROM BAR,FROM BAR TO BLACK DIAMOND,OVER LEFTWARDS ARROW,THROUGH GREATER-THAN",
    "THROUGH SUPERSET,THROUGH X,TO BAR,TO BLACK DIAMOND"]),
  (["RIGHTWARDS ARROW WITH"], [
    "CORNER DOWNWARDS,DOTTED STEM,DOUBLE VERTICAL STROKE,EQUILATERAL ARROWHEAD,HOOK",
    "LARGE TRIANGLE ARROWHEAD,LOOP,MEDIUM TRIANGLE ARROWHEAD,NOTCHED TAIL,PLUS BELOW",
    "SMALL EQUILATERAL ARROWHEAD,SMALL TRIANGLE ARROWHEAD,STROKE,TAIL",
    "TAIL WITH DOUBLE VERTICAL STROKE,TAIL WITH VERTICAL STROKE,TIP DOWNWARDS,TIP UPWARDS",
    "VERTICAL STROKE"]),
  (["RIGHTWARDS HARPOON"], ["OVER LEFTWARDS HARPOON"]),
  (["RIGHTWARDS HARPOON WITH BARB"], [
    "DOWN ABOVE LEFTWARDS HARPOON WITH BARB DOWN,DOWN BELOW LONG DASH,DOWN FROM BAR,DOWN TO BAR",
    "DOWNWARDS,UP ABOVE LEFTWARDS HARPOON WITH BARB UP,UP ABOVE LONG DASH",
    "UP ABOVE RIGHTWARDS HARPOON WITH BARB DOWN,UP FROM BAR,UP TO BAR,UPWARDS"]),
  (["RIGHTWARDS TRIANGLE-HEADED ARROW"], [
    "OVER LEFTWARDS TRIANGLE-HEADED ARROW,TO BAR,WITH BOLD SHAFT,WITH DOUBLE HORIZONTAL STROKE",
    "WITH HEAVY SHAFT,WITH LONG TIP DOWNWARDS,WITH LONG TIP UPWARDS,WITH MEDIUM SHAFT",
    "WITH NARROW SHAFT,WITH VERY HEAVY SHAFT"]),
  (["ROMAN NUMERAL"], [
    "EIGHT,ELEVEN,FIFTY,FIFTY EARLY FORM,FIFTY THOUSAND,FIVE,FIVE HUNDRED,FIVE THOUSAND,FOUR",
    "NINE,ONE,ONE HUNDRED,ONE HUNDRED THOUSAND,ONE THOUSAND,ONE THOUSAND C D",
    "REVERSED ONE HUNDRED,SEVEN,SIX,SIX LATE FORM,TEN,TEN THOUSAND,THREE,TWELVE,TWO"]),
  (["ROTATED"], [
    "CAPITAL Q,FLORAL HEART BULLET,HEAVY BLACK HEART BULLET,LIGHT FOUR POINTED BLACK CUSP",
    "WHITE FOUR POINTED CUSP"]),
  (["ROUNDED SYMBOL"], ["FOR CAI,FOR FU,FOR LU,FOR SHOU,FOR SHUANGXI,FOR XI"]),
  (["RUSSIAN ASTROLOGICAL"], [
    "SYMBOL BINOVILE,SYMBOL NOVILE,SYMBOL QUINTILE,SYMBOL SENTAGON,SYMBOL TREDECILE",
    "SYMBOL VIGINTILE"]),
  (["SCRIPT"], ["SMALL E,SMALL G,SMALL L,SMALL O"]),
  (["SCRIPT CAPITAL"], ["B,E,F,H,I,L,M,P,R"]),
  (["SHORT"], [
    "BACKSLANTED SOUTH ARROW,BENT ARROW POINTING DOWNWARDS THEN NORTH EAST,DOWN TACK",
    "DOWN TACK WITH OVERBAR,LEFT TACK,RIGHTWARDS ARROW ABOVE LEFTWARDS ARROW,SLANTED NORTH ARROW",
    "UP TACK,UP TACK ABOVE SHORT DOWN TACK,UP TACK WITH UNDERBAR"]),
  (["SHORTHAND"], [
    "FORMAT CONTINUING OVERLAP,FORMAT DOWN STEP,FORMAT LETTER OVERLAP,FORMAT UP STEP"]),
  (["SIGNWRITING"], [
    "AIR BLOW SMALL ROTATIONS,AIR BLOWING OUT,AIR SUCK SMALL ROTATIONS,AIR SUCKING IN",
    "BREATH EXHALE,BREATH INHALE,BRUSH BETWEEN,BRUSH MULTIPLE,BRUSH SINGLE,CHEEKS NEUTRAL",
    "CHEEKS PUFFED,CHEEKS SUCKED,COLON,COMMA,DREAMY EYEBROWS DOWN NEUTRAL",
    "DREAMY EYEBROWS NEUTRAL DOWN,DREAMY EYEBROWS NEUTRAL UP,DREAMY EYEBROWS UP NEUTRAL,EARS",
    "EXCITEMENT,EYE BLINK MULTIPLE,EYE BLINK SINGLE,EYE WINK,EYEBROWS STRAIGHT DOWN",
    "EYEBROWS STRAIGHT NEUTRAL,EYEBROWS STRAIGHT UP,EYELASHES DOWN,EYELASHES FLUTTERING",
    "EYELASHES UP,EYES CLOSED,EYES HALF CLOSED,EYES HALF OPEN,EYES OPEN,EYES SQUEEZED",
    "EYES WIDE OPEN,EYES WIDENING MOVEMENT,FACE DIRECTION POSITION NOSE FORWARD TILTING",
    "FACE DIRECTION POSITION NOSE UP OR DOWN,FACE DIRECTION POSITION NOSE UP OR DOWN TILTING",
    "FILL MODIFIER-2..FILL MODIFIER-6,FINGER,FLICK LARGE MULTIPLE,FLICK LARGE SINGLE",
    "FLICK SEQUENTIAL,FLICK SMALL MULTIPLE,FLICK SMALL SINGLE,FLOORPLANE SHOULDER HIP MOVE",
    "FOREHEAD CONTACT,FOREHEAD NEUTRAL,FOREHEAD WRINKLED,FULL STOP,GRASP BETWEEN,GRASP MULTIPLE",
    "GRASP SINGLE,HAIR,HAND-ANGLE,HAND-CIRCLE,HAND-CLAW,HAND-CUP,HAND-CURLICUE,HAND-FIST",
    "HAND-FLAT,HAND-HINGE,HAND-HOOK,HAND-OVAL,HEAD,LIMB COMBINATION,LIMB LENGTH-1..LIMB LENGTH-7",
    "LIP LOWER OVER UPPER,LIP UPPER OVER LOWER,LIPS PRESSED TOGETHER,LOCATION-FLOORPLANE SPACE",
    "LOCATION-WALLPLANE SPACE,NECK,NOSE CONTACT,NOSE NEUTRAL,NOSE WIGGLES,NOSE WRINKLES",
    "PARENTHESIS,RUB BETWEEN,RUB MULTIPLE,RUB SINGLE,SEMICOLON,SHOULDER HIP POSITIONS",
    "SHOULDER HIP SPINE,SHOULDER TILTING FROM WAIST,STRIKE BETWEEN,STRIKE MULTIPLE,STRIKE SINGLE",
    "SURFACE BETWEEN,SURFACE SYMBOLS,TEETH,TENSE CHEEKS HIGH,TENSE CHEEKS LOW",
    "TENSE CHEEKS MIDDLE,TORSO-FLOORPLANE TWISTING,TORSO-WALLPLANE CURVED BEND",
    "TORSO-WALLPLANE STRAIGHT STRETCH,TOUCH BETWEEN,TOUCH MULTIPLE,TOUCH SINGLE",
    "UPPER BODY TILTING FROM HIP JOINTS,WALLPLANE SHOULDER HIP MOVE"]),
  (["SIGNWRITING DYNAMIC"], [
    "ARROWHEAD LARGE,ARROWHEAD SMALL,EVERY OTHER TIME,FAST,GRADUAL,RELAXED,SIMULTANEOUS",
    "SIMULTANEOUS ALTERNATING,SLOW,TENSE"]),
  (["SIGNWRITING EYEGAZE-FLOORPLANE"], ["CURVED,STRAIGHT,STRAIGHT ALTERNATING,STRAIGHT DOUBLE"]),
  (["SIGNWRITING EYEGAZE-WALLPLANE"], [
    "CIRCLING,CURVED,STRAIGHT,STRAIGHT ALTERNATING,STRAIGHT DOUBLE"]),
  (["SIGNWRITING HAND-ANGLE"], [
    "INDEX,INDEX MIDDLE LITTLE,INDEX MIDDLE RING,INDEX RING LITTLE,INDEX RING LITTLE OUT",
    "INDEX THUMB,INDEX THUMB IN,INDEX THUMB OUT,LITTLE INDEX,LITTLE INDEX THUMB INDEX THUMB",
    "LITTLE INDEX THUMB INDEX THUMB OUT,LITTLE UP,MIDDLE RING LITTLE,MIDDLE RING LITTLE IN",
    "MIDDLE RING LITTLE OUT,RING DOWN MIDDLE THUMB INDEX CROSS,RING LITTLE"]),
  (["SIGNWRITING HAND-CIRCLE"], [
    "INDEX,LITTLE INDEX,LITTLE UP,MIDDLE RING LITTLE,MIDDLE RING LITTLE BENT,MIDDLE UP",
    "RING LITTLE"]),
  (["SIGNWRITING HAND-CIRCLE INDEX"], [
    "BENT,HINGE,MIDDLE,MIDDLE CROSS LITTLE,MIDDLE CROSSED,MIDDLE LITTLE,MIDDLE RING,MIDDLE THUMB",
    "RING LITTLE"]),
  (["SIGNWRITING HAND-CLAW"], [
    "FOUR FINGERS CONJOINED,INDEX THUMB CURVE THUMB INSIDE,MIDDLE RING LITTLE CONJOINED",
    "MIDDLE RING LITTLE CONJOINED SIDE,NO THUMB,THUMB FORWARD,THUMB SIDE"]),
  (["SIGNWRITING HAND-CUP"], [
    "FIVE FINGERS SPREAD,FIVE FINGERS SPREAD OPEN,INDEX,INDEX RING LITTLE,INDEX THUMB",
    "INDEX THUMB OPEN,MIDDLE RING LITTLE,NO THUMB,OPEN,OPEN NO THUMB,OPEN THUMB FORWARD",
    "OPEN THUMB SIDE,THUMB FORWARD,THUMB SIDE"]),
  (["SIGNWRITING HAND-CURLICUE"], ["INDEX RING LITTLE ON,MIDDLE RING LITTLE ON,OPEN"]),
  (["SIGNWRITING HAND-FIST"], [
    "FOUR FINGERS CONJOINED BENT,HEEL,INDEX,RING DOWN,RING INDEX,RING LITTLE,RING MIDDLE",
    "RING MIDDLE CONJOINED,RING MIDDLE RAISED KNUCKLES,RING RAISED KNUCKLE,RING THUMB,RING UP",
    "THUMB"]),
  (["SIGNWRITING HAND-FIST INDEX"], [
    "BENT,BENT OVER MIDDLE,CUPPED,HINGED,HINGED LOW,HINGED MIDDLE UP,HINGED MIDDLE UP THUMB SIDE",
    "MIDDLE,RAISED KNUCKLE,RING LITTLE,UP MIDDLE HINGED,UP MIDDLE HINGED THUMB CONJOINED",
    "UP MIDDLE HINGED THUMB SIDE"]),
  (["SIGNWRITING HAND-FIST INDEX MIDDLE"], [
    "BENT,BENT THUMB STRAIGHT,CONJOINED,CROSS LITTLE,CROSSED,CROSSED THUMB SIDE,HINGED",
    "HINGED SPREAD THUMB SIDE,LITTLE,RAISED KNUCKLES,RING,RING BENT,RING CONJOINED",
    "STRAIGHT THUMB BENT,THUMB,THUMB ANGLED,THUMB ANGLED OUT,THUMB BENT,THUMB CIRCLED",
    "THUMB CONJOINED HINGED,THUMB CUPPED,THUMB HINGED,THUMB HOOKED,UP SPREAD THUMB FORWARD"]),
  (["SIGNWRITING HAND-FIST INDEX MIDDLE CONJOINED"], [
    "CUPPED,CUPPED THUMB FORWARD,HINGED,HINGED THUMB SIDE,INDEX BENT,MIDDLE BENT,THUMB FORWARD",
    "THUMB SIDE,THUMB SIDE BENT,THUMB SIDE CONJOINED"]),
  (["SIGNWRITING HAND-FIST INDEX THUMB"], [
    "ANGLED IN MIDDLE UP,ANGLED OUT MIDDLE UP,CIRCLE,CIRCLED MIDDLE UP,CUPPED MIDDLE UP,CURLICUE",
    "CURVE THUMB INSIDE,CURVE THUMB UNDER,FORWARD INDEX BENT,FORWARD INDEX STRAIGHT,HOOK",
    "HOOKED MIDDLE HINGED,HOOKED MIDDLE UP,SIDE,SIDE BOTH BENT,SIDE INDEX BENT,SIDE INDEX HINGE",
    "SIDE THUMB BENT,SIDE THUMB CONJOINED,SIDE THUMB DIAGONAL"]),
  (["SIGNWRITING HAND-FIST LITTLE"], [
    "BENT,DOWN,DOWN OTHERS CIRCLED,DOWN RIPPLE CURVED,DOWN RIPPLE STRAIGHT,INDEX,INDEX THUMB",
    "RAISED KNUCKLE,THUMB,TOUCHES THUMB,UP"]),
  (["SIGNWRITING HAND-FIST MIDDLE"], [
    "BENT OVER INDEX,DOWN,LITTLE,RAISED KNUCKLE,RING LITTLE,THUMB ANGLED INDEX UP",
    "THUMB ANGLED OUT INDEX CROSSED,THUMB ANGLED OUT INDEX UP,THUMB CIRCLED INDEX HINGED",
    "THUMB CIRCLED INDEX UP,THUMB CUPPED INDEX UP,THUMB HOOKED INDEX UP,THUMB LITTLE,UP",
    "UP THUMB SIDE"]),
  (["SIGNWRITING HAND-FIST THUMB"], [
    "BETWEEN INDEX MIDDLE,BETWEEN INDEX MIDDLE STRAIGHT,BETWEEN MIDDLE RING,BETWEEN RING LITTLE",
    "FORWARD,HEEL,OVER FOUR RAISED KNUCKLES,OVER TWO FINGERS,SIDE BENT,SIDE CONJOINED",
    "SIDE DIAGONAL,UNDER FOUR FINGERS,UNDER INDEX BENT,UNDER LITTLE UP,UNDER THREE FINGERS",
    "UNDER TWO FINGERS"]),
  (["SIGNWRITING HAND-FLAT"], [
    "BETWEEN PALM FACINGS,FOUR FINGERS,FOUR FINGERS BENT,FOUR FINGERS CONJOINED",
    "FOUR FINGERS CONJOINED SPLIT,FOUR FINGERS HINGED,HEEL,HEEL FIVE FINGERS SPREAD",
    "HEEL FIVE FINGERS SPREAD BENT,HEEL FIVE FINGERS SPREAD FOUR BENT,HEEL THUMB SIDE",
    "SPLIT CENTRE,SPLIT CENTRE THUMB SIDE,SPLIT CENTRE THUMB SIDE BENT,SPLIT INDEX THUMB SIDE",
    "SPLIT LITTLE,THUMB BENT,THUMB FORWARD,THUMB SIDE"]),
  (["SIGNWRITING HAND-FLAT FIVE FINGERS"], [
    "SPREAD,SPREAD BENT,SPREAD FOUR BENT,SPREAD HINGED,SPREAD HINGED NO THUMB",
    "SPREAD HINGED THUMB SIDE,SPREAD THUMB FORWARD"]),
  (["SIGNWRITING HAND-HINGE"], [
    "FIVE FINGERS SPREAD OPEN,FOUR FINGERS CONJOINED,INDEX,LITTLE,LITTLE INDEX",
    "LITTLE INDEX THUMB,LITTLE THUMB,MIDDLE,MIDDLE RING LITTLE,NO THUMB,OPEN,OPEN NO THUMB",
    "OPEN THUMB FORWARD,OPEN THUMB SIDE,RING,RING DOWN INDEX THUMB HOOK MIDDLE,SMALL",
    "THUMB BETWEEN MIDDLE RING,THUMB SIDE,THUMB SIDE TOUCHING INDEX"]),
  (["SIGNWRITING HAND-HINGE INDEX"], [
    "HINGED,MIDDLE LITTLE,MIDDLE RING,MIDDLE RING CONJOINED,RING LITTLE,THUMB,THUMB LARGE",
    "THUMB OPEN,THUMB SIDE,THUMB SMALL"]),
  (["SIGNWRITING HAND-HOOK"], [
    "CURLICUE,INDEX RING LITTLE IN,INDEX RING LITTLE OUT,INDEX RING LITTLE UNDER",
    "MIDDLE RING LITTLE CONJOINED,MIDDLE RING LITTLE CONJOINED IN",
    "MIDDLE RING LITTLE CONJOINED OUT,MIDDLE THUMB,RING THUMB"]),
  (["SIGNWRITING HAND-OVAL"], [
    "FIVE FINGERS SPREAD,INDEX,LITTLE UP,NO THUMB,RING LITTLE,THUMB FORWARD,THUMB SIDE"]),
  (["SIGNWRITING HEAD"], [
    "MOVEMENT CIRCLE,MOVEMENT-FLOORPLANE CURVE,MOVEMENT-FLOORPLANE STRAIGHT,RIM"]),
  (["SIGNWRITING HEAD MOVEMENT-WALLPLANE"], ["CURVE,STRAIGHT,TILT"]),
  (["SIGNWRITING LOCATION"], ["DEPTH,HEAD NECK,HEIGHT,LIMBS DIGITS,TORSO,WIDTH"]),
  (["SIGNWRITING MOUTH"], [
    "CLOSED CONTACT,CLOSED FORWARD,CLOSED NEUTRAL,CORNERS,FROWN,FROWN OPEN,FROWN WRINKLED,KISS",
    "KISS FORWARD,KISS WRINKLED,SMILE,SMILE OPEN,SMILE WRINKLED,TENSE,TENSE FORWARD,TENSE SUCKED",
    "WRINKLES DOUBLE,WRINKLES SINGLE"]),
  (["SIGNWRITING MOUTH OPEN"], [
    "CIRCLE,FORWARD,OVAL,OVAL WRINKLED,OVAL YAWN,RECTANGLE,RECTANGLE WRINKLED,RECTANGLE YAWN",
    "WRINKLED"]),
  (["SIGNWRITING MOVEMENT-DIAGONAL", "SIGNWRITING MOVEMENT-DIAGONAL BETWEEN"], [
    "AWAY LARGE,AWAY LARGEST,AWAY MEDIUM,AWAY SMALL,TOWARDS LARGE,TOWARDS LARGEST,TOWARDS MEDIUM",
    "TOWARDS SMALL"]),
  (["SIGNWRITING MOVEMENT-FLOORPLANE"], [
    "ARM CIRCLE HITTING WALL LARGE DOUBLE,ARM CIRCLE HITTING WALL LARGE SINGLE",
    "ARM CIRCLE HITTING WALL MEDIUM DOUBLE,ARM CIRCLE HITTING WALL MEDIUM SINGLE",
    "ARM CIRCLE HITTING WALL SMALL DOUBLE,ARM CIRCLE HITTING WALL SMALL SINGLE,BEND,BOX LARGE",
    "BOX MEDIUM,BOX SMALL,CHECK,CORNER LARGE,CORNER MEDIUM,CORNER SMALL,CROSS,CURVE COMBINED",
    "CURVE HITTING CEILING LARGE,CURVE HITTING CEILING SMALL,CURVE HITTING FLOOR LARGE",
    "CURVE HITTING FLOOR SMALL,CURVE LARGE,CURVE LARGEST,CURVE MEDIUM,CURVE SMALL",
    "DOUBLE ALTERNATING,DOUBLE ALTERNATING WRIST FLEX,DOUBLE STRAIGHT,DOUBLE WRIST FLEX",
    "FINGER CIRCLES HITTING WALL DOUBLE,FINGER CIRCLES HITTING WALL SINGLE,FINGER CONTACT",
    "HUMP HITTING CEILING LARGE DOUBLE,HUMP HITTING CEILING LARGE TRIPLE",
    "HUMP HITTING CEILING SMALL DOUBLE,HUMP HITTING CEILING SMALL TRIPLE",
    "HUMP HITTING FLOOR LARGE DOUBLE,HUMP HITTING FLOOR SMALL DOUBLE",
    "HUMP HITTING FLOOR TRIPLE LARGE TRIPLE,HUMP HITTING FLOOR TRIPLE SMALL TRIPLE,HUMP SMALL",
    "JAW,LOOP HITTING CEILING LARGE DOUBLE,LOOP HITTING CEILING LARGE SINGLE",
    "LOOP HITTING CEILING SMALL DOUBLE,LOOP HITTING CEILING SMALL SINGLE",
    "LOOP HITTING FLOOR LARGE DOUBLE,LOOP HITTING FLOOR LARGE SINGLE",
    "LOOP HITTING FLOOR SMALL DOUBLE,LOOP HITTING FLOOR SMALL SINGLE,LOOP SMALL,PEAKS LARGE",
    "PEAKS MEDIUM,PEAKS SMALL,SHAKING PARALLEL,SINGLE STRAIGHT LARGE,SINGLE STRAIGHT LARGEST",
    "SINGLE STRAIGHT MEDIUM,SINGLE STRAIGHT SMALL,SINGLE WRIST FLEX,TRIPLE ALTERNATING MOVEMENT",
    "TRIPLE ALTERNATING WRIST FLEX,TRIPLE STRAIGHT MOVEMENT,TRIPLE WRIST FLEX",
    "WAVE HITTING CEILING LARGE,WAVE HITTING CEILING SMALL,WAVE HITTING FLOOR LARGE",
    "WAVE HITTING FLOOR SMALL,WAVE LARGE,WAVE SMALL,WAVE SNAKE,WRIST CIRCLE HITTING WALL DOUBLE",
    "WRIST CIRCLE HITTING WALL SINGLE,ZIGZAG LARGE,ZIGZAG MEDIUM,ZIGZAG SMALL"]),
  (["SIGNWRITING MOVEMENT-HINGE"], [
    "DOWN SEQUENTIAL,SIDE TO SIDE SCISSORS,UP DOWN ALTERNATING LARGE,UP DOWN ALTERNATING SMALL",
    "UP DOWN LARGE,UP DOWN SMALL,UP SEQUENTIAL"]),
  (["SIGNWRITING MOVEMENT-WALLPLANE"], [
    "ARM CIRCLE MEDIUM DOUBLE,ARM CIRCLE MEDIUM SINGLE,ARM CIRCLE SMALL DOUBLE",
    "ARM CIRCLE SMALL SINGLE,BEND LARGE,BEND MEDIUM,BEND SMALL,BOX LARGE,BOX MEDIUM,BOX SMALL",
    "CHECK LARGE,CHECK MEDIUM,CHECK SMALL,CORNER LARGE,CORNER MEDIUM,CORNER ROTATION",
    "CORNER SMALL,CROSS,CURVED CROSS MEDIUM,CURVED CROSS SMALL,DOUBLE ALTERNATING",
    "DOUBLE ALTERNATING WRIST FLEX,DOUBLE STRAIGHT,DOUBLE WRIST FLEX,FINGER CIRCLES DOUBLE",
    "FINGER CIRCLES SINGLE,FINGER CONTACT,HUMP HITTING CHEST,HUMP HITTING FRONT WALL,HUMP LARGE",
    "HUMP MEDIUM,HUMP SMALL,JAW,LOOP HITTING CHEST,LOOP HITTING FRONT WALL,LOOP LARGE",
    "LOOP MEDIUM,LOOP SMALL,LOOP SMALL DOUBLE,PEAKS LARGE,PEAKS MEDIUM,PEAKS SMALL,SHAKING",
    "SINGLE STRAIGHT LARGE,SINGLE STRAIGHT LARGEST,SINGLE STRAIGHT MEDIUM,SINGLE STRAIGHT SMALL",
    "SINGLE WRIST FLEX,TRIPLE ALTERNATING,TRIPLE ALTERNATING WRIST FLEX,TRIPLE STRAIGHT MOVEMENT",
    "TRIPLE WRIST FLEX,WAVE CURVE DOUBLE LARGE,WAVE CURVE DOUBLE MEDIUM,WAVE CURVE DOUBLE SMALL",
    "WAVE CURVE TRIPLE LARGE,WAVE CURVE TRIPLE MEDIUM,WAVE CURVE TRIPLE SMALL",
    "WAVE DIAGONAL PATH LARGE,WAVE DIAGONAL PATH MEDIUM,WAVE DIAGONAL PATH SMALL",
    "WAVE HITTING CHEST,WAVE HITTING FRONT WALL,WRIST CIRCLE FRONT DOUBLE",
    "WRIST CIRCLE FRONT SINGLE,ZIGZAG LARGE,ZIGZAG MEDIUM,ZIGZAG SMALL"]),
  (["SIGNWRITING MOVEMENT-WALLPLANE CURVE"], [
    "HALF-CIRCLE LARGE,HALF-CIRCLE LARGEST,HALF-CIRCLE MEDIUM,HALF-CIRCLE SMALL,HITTING CHEST",
    "HITTING FRONT WALL,QUARTER LARGE,QUARTER LARGEST,QUARTER MEDIUM,QUARTER SMALL,THEN STRAIGHT",
    "THREE-QUARTER CIRCLE MEDIUM,THREE-QUARTER CIRCLE SMALL"]),
  (["SIGNWRITING ROTATION"], ["MODIFIER-10..MODIFIER-16,MODIFIER-2..MODIFIER-9"]),
  (["SIGNWRITING ROTATION-FLOORPLANE"], [
    "ALTERNATING,ALTERNATING HITTING CEILING,ALTERNATING HITTING FLOOR,DOUBLE",
    "DOUBLE HITTING CEILING,DOUBLE HITTING FLOOR,SINGLE,SINGLE HITTING CEILING",
    "SINGLE HITTING FLOOR"]),
  (["SIGNWRITING ROTATION-WALLPLANE"], [
    "ALTERNATE,ALTERNATING HITTING CHEST,ALTERNATING HITTING FRONT WALL,DOUBLE",
    "DOUBLE HITTING CHEST,DOUBLE HITTING FRONT WALL,SINGLE,SINGLE HITTING CHEST",
    "SINGLE HITTING FRONT WALL"]),
  (["SIGNWRITING SQUEEZE"], [
    "FLICK ALTERNATING,LARGE MULTIPLE,LARGE SINGLE,SEQUENTIAL,SMALL MULTIPLE,SMALL SINGLE"]),
  (["SIGNWRITING TEETH"], [
    "BITE LIPS,MOVEMENT,ON LIPS,ON LIPS MOVEMENT,ON TONGUE,ON TONGUE MOVEMENT"]),
  (["SIGNWRITING TONGUE"], [
    "CENTRE INSIDE MOUTH,CENTRE STICKING OUT,INSIDE MOUTH RELAXED,LICKING LIPS",
    "MOVES AGAINST CHEEK,STICKING OUT FAR,TIP BETWEEN LIPS,TIP TOUCHING INSIDE MOUTH"]),
  (["SIGNWRITING TRAVEL-FLOORPLANE"], [
    "ROTATION-FLOORPLANE ALTERNATING,ROTATION-FLOORPLANE DOUBLE,ROTATION-FLOORPLANE SINGLE",
    "ROTATION-WALLPLANE ALTERNATING,ROTATION-WALLPLANE DOUBLE,ROTATION-WALLPLANE SINGLE,SHAKING"]),
  (["SIGNWRITING TRAVEL-WALLPLANE"], [
    "ARM SPIRAL DOUBLE,ARM SPIRAL SINGLE,ARM SPIRAL TRIPLE,ROTATION-FLOORPLANE ALTERNATING",
    "ROTATION-FLOORPLANE DOUBLE,ROTATION-FLOORPLANE SINGLE,ROTATION-WALLPLANE ALTERNATING",
    "ROTATION-WALLPLANE DOUBLE,ROTATION-WALLPLANE SINGLE,SHAKING"]),
  (["SIMILAR"], [
    "ABOVE GREATER-THAN ABOVE EQUALS SIGN,ABOVE LESS-THAN ABOVE EQUALS SIGN,MINUS SIMILAR",
    "OR GREATER-THAN,OR LESS-THAN"]),
  (["SINGLE"], [
    "HIGH-REVERSED-9 QUOTATION MARK,LEFT-POINTING ANGLE QUOTATION MARK,LOW-9 QUOTATION MARK",
    "RIGHT-POINTING ANGLE QUOTATION MARK"]),
  (["SLANTED"], [
    "EQUAL TO OR GREATER-THAN,EQUAL TO OR GREATER-THAN WITH DOT INSIDE,EQUAL TO OR LESS-THAN",
    "EQUAL TO OR LESS-THAN WITH DOT INSIDE,NORTH ARROW WITH HOOKED HEAD",
    "NORTH ARROW WITH HORIZONTAL TAIL"]),
  (["SMALL"], [
    "CONTAINS AS MEMBER,CONTAINS WITH OVERBAR",
    "CONTAINS WITH VERTICAL BAR AT END OF HORIZONTAL STROKE,ELEMENT OF,ELEMENT OF WITH OVERBAR",
    "ELEMENT OF WITH VERTICAL BAR AT END OF HORIZONTAL STROKE,VEE WITH UNDERBAR"]),
  (["SMALL ROMAN NUMERAL"], [
    "EIGHT,ELEVEN,FIFTY,FIVE,FIVE HUNDRED,FOUR,NINE,ONE,ONE HUNDRED,ONE THOUSAND,SEVEN,SIX,TEN",
    "THREE,TWELVE,TWO"]),
  (["SOUTH EAST"], [
    "ARROW,ARROW AND SOUTH WEST ARROW,ARROW CROSSING NORTH EAST ARROW,ARROW TO CORNER",
    "ARROW WITH HOOK,BLACK ARROW,DOUBLE ARROW,SANS-SERIF ARROW,TRIANGLE-HEADED ARROW",
    "TRIANGLE-HEADED ARROW TO BAR,WHITE ARROW"]),
  (["SOUTH WEST"], [
    "ARROW,ARROW AND NORTH WEST ARROW,ARROW WITH HOOK,BLACK ARROW,DOUBLE ARROW,SANS-SERIF ARROW",
    "TRIANGLE-HEADED ARROW,TRIANGLE-HEADED ARROW TO BAR,WHITE ARROW"]),
  (["SPHERICAL"], ["ANGLE,ANGLE OPENING LEFT,ANGLE OPENING UP"]),
  (["SQUARE"], [
    "CAP,CUP,DJ,FOOT,FOUR CORNERS,HIRAGANA HOKA,IMAGE OF,IMAGE OF OR EQUAL TO",
    "IMAGE OF OR NOT EQUAL TO,LEFT OPEN BOX OPERATOR,LOZENGE,ORIGINAL OF,ORIGINAL OF OR EQUAL TO",
    "ORIGINAL OF OR NOT EQUAL TO,POSITION INDICATOR,RIGHT OPEN BOX OPERATOR,ROOT,TARGET"]),
  (["SQUARE WITH"], [
    "BOTTOM HALF BLACK,CONTOURED OUTLINE,DIAGONAL CROSSHATCH FILL,HORIZONTAL FILL",
    "LEFT HALF BLACK,LOWER LEFT DIAGONAL HALF BLACK,LOWER RIGHT DIAGONAL HALF BLACK",
    "ORTHOGONAL CROSSHATCH FILL,RIGHT HALF BLACK,TOP HALF BLACK,UPPER LEFT DIAGONAL HALF BLACK",
    "UPPER LEFT TO LOWER RIGHT FILL,UPPER RIGHT DIAGONAL HALF BLACK",
    "UPPER RIGHT TO LOWER LEFT FILL,VERTICAL FILL"]),
  (["SQUARED"], [
    "ASTERISK,CL,COOL,DOT OPERATOR,EIGHT K,FALLING DIAGONAL SLASH,FIVE POINT ONE",
    "FOUR DOT PUNCTUATION,FOUR K,FREE,HC,HDR,HI-RES,HV,ID,KATAKANA DE,KATAKANA KOKO,KATAKANA SA",
    "KEY,LOGICAL AND,LOGICAL OR,LOSSLESS,MINUS,MV,NEW,NG,OK,ONE HUNDRED TWENTY P,PLUS,PPV",
    "RISING DIAGONAL SLASH,SALTIRE,SD,SECOND SCREEN,SEVEN POINT ONE,SHV,SIXTY P,SMALL CIRCLE,SOS",
    "SQUARE,SS,THREE D,TIMES,TWENTY-TWO POINT TWO,TWO K,UHD,UP WITH EXCLAMATION MARK,VOD,VS,WC"]),
  (["SQUARED CJK UNIFIED"], [
    "IDEOGRAPH-4E00,IDEOGRAPH-4E09,IDEOGRAPH-4E2D,IDEOGRAPH-4E8C,IDEOGRAPH-4EA4,IDEOGRAPH-518D",
    "IDEOGRAPH-521D,IDEOGRAPH-524D,IDEOGRAPH-5272,IDEOGRAPH-53CC,IDEOGRAPH-53F3,IDEOGRAPH-5408",
    "IDEOGRAPH-5439,IDEOGRAPH-55B6,IDEOGRAPH-58F0,IDEOGRAPH-591A,IDEOGRAPH-5929,IDEOGRAPH-5B57",
    "IDEOGRAPH-5DE6,IDEOGRAPH-5F8C,IDEOGRAPH-624B,IDEOGRAPH-6253,IDEOGRAPH-6295,IDEOGRAPH-6307",
    "IDEOGRAPH-6355,IDEOGRAPH-6599,IDEOGRAPH-65B0,IDEOGRAPH-6620,IDEOGRAPH-6708,IDEOGRAPH-6709",
    "IDEOGRAPH-6E80,IDEOGRAPH-6F14,IDEOGRAPH-7121,IDEOGRAPH-751F,IDEOGRAPH-7533,IDEOGRAPH-7981",
    "IDEOGRAPH-7A7A,IDEOGRAPH-7D42,IDEOGRAPH-89E3,IDEOGRAPH-8CA9,IDEOGRAPH-8D70,IDEOGRAPH-904A",
    "IDEOGRAPH-914D"]),
  (["SQUARED LATIN"], ["SMALL LETTER D"]),
  (["STAR"], [
    "AND CRESCENT,EQUALS,OF DAVID,OPERATOR,WITH LEFT HALF BLACK,WITH RIGHT HALF BLACK"]),
  (["STICK"], ["FIGURE"]),
  (["STICK FIGURE"], ["LEANING LEFT,LEANING RIGHT,WITH ARMS RAISED,WITH DRESS"]),
  (["SUBSCRIPT"], [
    "EIGHT,EQUALS SIGN,FIVE,FOUR,LEFT PARENTHESIS,MINUS,NINE,ONE,PLUS SIGN,RIGHT PARENTHESIS",
    "SEVEN,SIX,THREE,TWO,ZERO"]),
  (["SUBSET"], [
    "ABOVE RIGHTWARDS ARROW,ABOVE SUBSET,ABOVE SUPERSET,OF,OF ABOVE ALMOST EQUAL TO",
    "OF ABOVE EQUALS SIGN,OF ABOVE NOT EQUAL TO,OF ABOVE TILDE OPERATOR,OF OR EQUAL TO",
    "OF OR EQUAL TO WITH DOT ABOVE,OF WITH NOT EQUAL TO,WITH DOT,WITH MULTIPLICATION SIGN BELOW",
    "WITH PLUS SIGN BELOW"]),
  (["SUMMATION"], ["BOTTOM,TOP,WITH INTEGRAL"]),
  (["SUPERSCRIPT"], [
    "EIGHT,EQUALS SIGN,FIVE,FOUR,LATIN SMALL LETTER I,LATIN SMALL LETTER N,LEFT PARENTHESIS",
    "MINUS,NINE,PLUS SIGN,RIGHT PARENTHESIS,SEVEN,SIX,ZERO"]),
  (["SUPERSET"], [
    "ABOVE LEFTWARDS ARROW,ABOVE SUBSET,ABOVE SUPERSET,BESIDE AND JOINED BY DASH WITH SUBSET",
    "BESIDE SUBSET,OF,OF ABOVE ALMOST EQUAL TO,OF ABOVE EQUALS SIGN,OF ABOVE NOT EQUAL TO",
    "OF ABOVE TILDE OPERATOR,OF OR EQUAL TO,OF OR EQUAL TO WITH DOT ABOVE,OF WITH NOT EQUAL TO",
    "PRECEDING SOLIDUS,WITH DOT,WITH MULTIPLICATION SIGN BELOW,WITH PLUS SIGN BELOW"]),
  (["SYMBOL FOR"], [
    "ACKNOWLEDGE,BACKSPACE,BELL,CANCEL,CARRIAGE RETURN,DATA LINK ESCAPE,DELETE,DELETE FORM TWO",
    "DEVICE CONTROL FOUR,DEVICE CONTROL ONE,DEVICE CONTROL THREE,DEVICE CONTROL TWO",
    "END OF MEDIUM,END OF TEXT,END OF TRANSMISSION,END OF TRANSMISSION BLOCK,ENQUIRY,ESCAPE",
    "FILE SEPARATOR,FORM FEED,GROUP SEPARATOR,HORIZONTAL TABULATION,LINE FEED",
    "NEGATIVE ACKNOWLEDGE,NEWLINE,NULL,RECORD SEPARATOR,SAMARITAN SOURCE,SHIFT IN,SHIFT OUT",
    "SPACE,START OF HEADING,START OF TEXT,SUBSTITUTE,SUBSTITUTE FORM TWO,SYNCHRONOUS IDLE",
    "TYPE A ELECTRONICS,UNIT SEPARATOR,VERTICAL TABULATION"]),
  (["TAG"], [
    "AMPERSAND,APOSTROPHE,ASTERISK,CIRCUMFLEX ACCENT,COLON,COMMA,COMMERCIAL AT,DOLLAR SIGN",
    "EQUALS SIGN,EXCLAMATION MARK,FULL STOP,GRAVE ACCENT,GREATER-THAN SIGN,HYPHEN-MINUS",
    "LEFT CURLY BRACKET,LEFT PARENTHESIS,LEFT SQUARE BRACKET,LESS-THAN SIGN,LOW LINE,NUMBER SIGN",
    "PERCENT SIGN,PLUS SIGN,QUESTION MARK,QUOTATION MARK,REVERSE SOLIDUS,RIGHT CURLY BRACKET",
    "RIGHT PARENTHESIS,RIGHT SQUARE BRACKET,SEMICOLON,SOLIDUS,SPACE,TILDE,VERTICAL LINE"]),
  (["TELEPHONE"], ["LOCATION SIGN,RECORDER,SIGN"]),
  (["TETRAGRAM FOR"], [
    "ACCUMULATION,ADVANCE,AGGRAVATION,ASCENT,BARRIER,BOLD RESOLUTION,BRANCHING OUT,CENTRE,CHANGE",
    "CLOSED MOUTH,CLOSENESS,CLOSURE,COMPLETION,COMPLIANCE,CONSTANCY,CONTACT,CONTENTION",
    "CONTRARIETY,DARKENING,DECISIVENESS,DEFECTIVENESS OR DISTORTION,DEPARTURE,DIFFICULTIES",
    "DIMINISHMENT,DIMMING,DIVERGENCE,DOUBT,DUTIES,EASE,EMBELLISHMENT,ENCOUNTERS,ENDEAVOUR",
    "ENLARGEMENT,ETERNITY,EXHAUSTION,FAILURE,FLIGHT,FOLLOWING,FOSTERING,FULL CIRCLE,FULLNESS",
    "GATHERING,GATHERING IN,GOING TO MEET,GREATNESS,GUARDEDNESS,HARDNESS,HOLDING BACK,INCREASE",
    "INNER,JOY,KEEPING SMALL,KINSHIP,LABOURING,LAW OR MODEL,LEGION,MASSING,MEASURE,MIRED",
    "ON THE VERGE,OPPOSITION,PACKING,PATTERN,PENETRATION,PURITY,REACH,RELEASE,RESIDENCE",
    "RESISTANCE,RESPONSE,RITUAL,SEVERANCE,SINKING,STOPPAGE,STOVE,STRENGTH,UNITY",
    "VASTNESS OR WASTING,WAITING,WATCH,YOUTHFULNESS"]),
  (["THREE"], [
    "CONSECUTIVE EQUALS SIGNS,DIMENSIONAL ANGLE,DOT PUNCTUATION,LEFTWARDS ARROWS",
    "LINES CONVERGING LEFT,LINES CONVERGING RIGHT,POINTED BLACK STAR,RIGHTWARDS ARROWS"]),
  (["THREE-D"], [
    "BOTTOM-LIGHTED RIGHTWARDS ARROWHEAD,LEFT-LIGHTED DOWNWARDS EQUILATERAL ARROWHEAD",
    "RIGHT-LIGHTED UPWARDS EQUILATERAL ARROWHEAD,TOP-LIGHTED LEFTWARDS EQUILATERAL ARROWHEAD",
    "TOP-LIGHTED RIGHTWARDS ARROWHEAD,TOP-LIGHTED RIGHTWARDS EQUILATERAL ARROWHEAD"]),
  (["TILDE"], ["OPERATOR,WITH DOT ABOVE,WITH DOT BELOW,WITH RING ABOVE"]),
  (["TILDE OPERATOR"], [
    "ABOVE LEFTWARDS ARROW,ABOVE RIGHTWARDS ARROW,WITH DOT ABOVE,WITH RISING DOTS"]),
  (["TOP"], [
    "ARC ANTICLOCKWISE ARROW,ARC ANTICLOCKWISE ARROW WITH PLUS,ARC CLOCKWISE ARROW WITH MINUS",
    "CURLY BRACKET,HALF BLACK CIRCLE,HALF INTEGRAL,HALF LEFT PARENTHESIS,HALF RIGHT PARENTHESIS",
    "HALF SECTION SIGN,LEFT CORNER,LEFT CROP,LEFT HALF BRACKET,PARENTHESIS,RIGHT CORNER",
    "RIGHT CROP,RIGHT HALF BRACKET,SQUARE BRACKET,TORTOISE SHELL BRACKET"]),
  (["TORTOISE SHELL BRACKETED"], ["LATIN CAPITAL LETTER S"]),
  (["TORTOISE SHELL BRACKETED CJK UNIFIED"], [
    "IDEOGRAPH-4E09,IDEOGRAPH-4E8C,IDEOGRAPH-52DD,IDEOGRAPH-5B89,IDEOGRAPH-6253,IDEOGRAPH-6557",
    "IDEOGRAPH-672C,IDEOGRAPH-70B9,IDEOGRAPH-76D7"]),
  (["TRIGRAM FOR"], ["EARTH,FIRE,HEAVEN,LAKE,MOUNTAIN,THUNDER,WATER,WIND"]),
  (["TRIPLE"], [
    "COLON OPERATOR,DAGGER,HORIZONTAL BAR WITH DOUBLE VERTICAL STROKE",
    "HORIZONTAL BAR WITH TRIPLE VERTICAL STROKE,INTEGRAL,NESTED GREATER-THAN,NESTED LESS-THAN",
    "PLUS,PRIME,SOLIDUS BINARY RELATION,TILDE"]),
  (["TRIPLE VERTICAL"], [
    "BAR BINARY RELATION,BAR DELIMITER,BAR RIGHT TURNSTILE,BAR WITH HORIZONTAL STROKE"]),
  (["TURNED"], [
    "AMPERSAND,ANGLE,BLACK PENTAGON,BLACK SHOGI PIECE,CAPITAL F,COMMA,DAGGER,DIGIT THREE",
    "DIGIT TWO,GREEK SMALL LETTER IOTA,NOT SIGN,SANS-SERIF CAPITAL G,SANS-SERIF CAPITAL L",
    "SANS-SERIF CAPITAL Y,SEMICOLON,SMALL F,WHITE SHOGI PIECE"]),
  (["TWO"], [
    "ASTERISKS ALIGNED VERTICALLY,CONSECUTIVE EQUALS SIGNS,DOT LEADER,DOT PUNCTUATION",
    "DOTS OVER ONE DOT PUNCTUATION,INTERSECTING LOGICAL AND,INTERSECTING LOGICAL OR",
    "JOINED SQUARES,LOGICAL AND OPERATOR,LOGICAL OR OPERATOR"]),
  (["UNION"], [
    "ABOVE BAR ABOVE INTERSECTION,ABOVE INTERSECTION,BESIDE AND JOINED WITH UNION",
    "WITH LOGICAL OR,WITH MINUS SIGN,WITH OVERBAR"]),
  (["UP"], [
    "ARROW THROUGH CIRCLE,ARROWHEAD,ARROWHEAD BETWEEN TWO HORIZONTAL BARS",
    "ARROWHEAD IN A RECTANGLE BOX,BARB LEFT DOWN BARB LEFT HARPOON",
    "BARB LEFT DOWN BARB RIGHT HARPOON,BARB RIGHT DOWN BARB LEFT HARPOON",
    "BARB RIGHT DOWN BARB RIGHT HARPOON,FISH TAIL,RIGHT DIAGONAL ELLIPSIS,TACK",
    "TACK WITH CIRCLE ABOVE"]),
  (["UP DOWN"], [
    "ARROW,ARROW WITH BASE,BLACK ARROW,DOUBLE ARROW,SANS-SERIF ARROW,TRIANGLE-HEADED ARROW",
    "WHITE ARROW"]),
  (["UPPER"], [
    "AND LEFT AND LOWER TRIANGULAR THREE QUARTERS BLOCK,AND LOWER ONE EIGHTH BLOCK",
    "AND LOWER TRIANGULAR HALF BLOCK,AND RIGHT AND LOWER TRIANGULAR THREE QUARTERS BLOCK",
    "BLADE SCISSORS,FIVE EIGHTHS BLOCK,HALF BLOCK,HALF BLOCK AND LOWER HALF INVERSE MEDIUM SHADE",
    "HALF CIRCLE,HALF INVERSE MEDIUM SHADE AND LOWER HALF BLOCK,HALF INVERSE WHITE CIRCLE",
    "HALF MEDIUM SHADE,ONE EIGHTH BLOCK,ONE QUARTER BLOCK,SEVEN EIGHTHS BLOCK",
    "THREE EIGHTHS BLOCK,THREE QUARTERS BLOCK,TRIANGULAR ONE QUARTER BLOCK"]),
  (["UPPER LEFT"], [
    "CORNER WITH DOT,OR LOWER RIGHT CURLY BRACKET SECTION,QUADRANT CIRCULAR ARC",
    "TO LOWER RIGHT FILL,TRIANGLE,TRIANGULAR MEDIUM SHADE"]),
  (["UPPER RIGHT"], [
    "DROP-SHADOWED WHITE SQUARE,OR LOWER LEFT CURLY BRACKET SECTION,PENCIL,QUADRANT CIRCULAR ARC",
    "SHADOWED WHITE SQUARE,TO LOWER LEFT FILL,TRIANGLE,TRIANGULAR MEDIUM SHADE"]),
  (["UPWARDS"], [
    "ANCORA,ARROW,BLACK ARROW,BLACK CIRCLED WHITE ARROW,COMPRESSED ARROW,DASHED ARROW",
    "DOUBLE ARROW,FINGER-POST ARROW,HEAVY ARROW,HEAVY COMPRESSED ARROW,PAIRED ARROWS",
    "QUADRUPLE ARROW,SANS-SERIF ARROW,SQUARED ARROW,TRIANGLE ARROWHEAD,TRIPLE ARROW",
    "TWO HEADED ARROW,TWO-HEADED ARROW FROM SMALL CIRCLE",
    "TWO-HEADED ARROW WITH TRIANGLE ARROWHEADS"]),
  (["UPWARDS ARROW"], [
    "AND RIGHT ONE EIGHTH BLOCK,FROM BAR,LEFTWARDS OF DOWNWARDS ARROW,TO BAR"]),
  (["UPWARDS ARROW WITH"], [
    "DOUBLE STROKE,EQUILATERAL ARROWHEAD,HORIZONTAL STROKE,LARGE TRIANGLE ARROWHEAD",
    "MEDIUM TRIANGLE ARROWHEAD,NOTCHED TAIL,SMALL EQUILATERAL ARROWHEAD,SMALL TRIANGLE ARROWHEAD",
    "TIP LEFTWARDS,TIP RIGHTWARDS"]),
  (["UPWARDS TRIANGLE-HEADED ARROW"], [
    "LEFTWARDS OF DOWNWARDS TRIANGLE-HEADED ARROW,TO BAR,WITH BOLD SHAFT",
    "WITH DOUBLE HORIZONTAL STROKE,WITH HEAVY SHAFT,WITH LONG TIP LEFTWARDS",
    "WITH LONG TIP RIGHTWARDS,WITH MEDIUM SHAFT,WITH NARROW SHAFT,WITH VERY HEAVY SHAFT"]),
  (["UPWARDS WHITE"], ["ARROW,DOUBLE ARROW,DOUBLE ARROW ON PEDESTAL"]),
  (["UPWARDS WHITE ARROW"], [
    "FROM BAR,FROM BAR WITH HORIZONTAL BAR,ON PEDESTAL,ON PEDESTAL WITH HORIZONTAL BAR",
    "ON PEDESTAL WITH VERTICAL BAR,WITHIN TRIANGLE ARROWHEAD"]),
  (["VERTICAL"], [
    "BAR BESIDE RIGHT TRIANGLE,BAR DOUBLE LEFT TURNSTILE,BAR TRIPLE RIGHT TURNSTILE",
    "BAR WITH HORIZONTAL STROKE,ELLIPSIS,FOUR DOTS,LINE EXTENSION,LINE WITH CIRCLE ABOVE",
    "LINE WITH CIRCLE BELOW,LINE WITH MIDDLE DOT,MALE WITH STROKE SIGN,SIX DOTS,TAB KEY,TILDE",
    "ZIGZAG LINE"]),
  (["VERTICAL ONE"], ["EIGHTH BLOCK-2..EIGHTH BLOCK-7"]),
  (["VERY"], ["BOLD GREEK CROSS,MUCH GREATER-THAN,MUCH LESS-THAN"]),
  (["VERY HEAVY"], [
    "EIGHT POINTED BLACK STAR,EIGHT SPOKED ASTERISK,FIVE SPOKED ASTERISK,GREEK CROSS,SALTIRE",
    "SIX SPOKED ASTERISK,WHITE CIRCLE,WHITE SQUARE"]),
  (["VULGAR FRACTION"], [
    "FIVE EIGHTHS,FIVE SIXTHS,FOUR FIFTHS,ONE EIGHTH,ONE FIFTH,ONE NINTH,ONE SEVENTH,ONE SIXTH",
    "ONE TENTH,ONE THIRD,SEVEN EIGHTHS,THREE EIGHTHS,THREE FIFTHS,TWO FIFTHS,TWO THIRDS",
    "ZERO THIRDS"]),
  (["WHITE"], [
    "ARROW SHAFT WIDTH ONE,ARROW SHAFT WIDTH TWO THIRDS,BULLET,CIRCLE,CLUB SUIT,DIAMOND",
    "DOWN POINTING INDEX,DOWN-POINTING SMALL TRIANGLE,DOWN-POINTING TRIANGLE,DRAUGHTS KING",
    "DRAUGHTS MAN,EXCLAMATION MARK ORNAMENT,FLAG,FLAG WITH HORIZONTAL MIDDLE BLACK STRIPE",
    "FLORETTE,FOUR POINTED CUSP,FOUR POINTED STAR,FROWNING FACE,HEART SUIT,HEAVY CHECK MARK",
    "HEAVY SALTIRE WITH ROUNDED CORNERS,HEXAGON,HORIZONTAL ELLIPSE,HOURGLASS,LARGE SQUARE",
    "LEFT LANE MERGE,LEFT POINTING INDEX,LOZENGE CONTAINING BLACK SMALL LOZENGE,MOON SELENA,NIB",
    "PARALLELOGRAM,PENTAGON,QUESTION MARK ORNAMENT,RECTANGLE,RIGHT POINTING INDEX,SCISSORS",
    "SHOGI PIECE,SMALL LOZENGE,SMALL SQUARE,SMALL STAR,SMILING FACE,SPADE SUIT,SQUARE,STAR",
    "SUN WITH RAYS,TELEPHONE,TRAPEZIUM,TRIANGLE CONTAINING SMALL WHITE TRIANGLE",
    "TWO-WAY LEFT WAY TRAFFIC,UP POINTING INDEX,VERTICAL BAR,VERTICAL ELLIPSE,VERTICAL RECTANGLE",
    "VERY SMALL SQUARE"]),
  (["WHITE CIRCLE"], [
    "CONTAINING BLACK SMALL CIRCLE,WITH DOT RIGHT,WITH DOWN ARROW,WITH LOWER LEFT QUADRANT",
    "WITH LOWER RIGHT QUADRANT,WITH TWO DOTS,WITH UPPER LEFT QUADRANT,WITH UPPER RIGHT QUADRANT"]),
  (["WHITE CONCAVE-SIDED"], ["DIAMOND,DIAMOND WITH LEFTWARDS TICK,DIAMOND WITH RIGHTWARDS TICK"]),
  (["WHITE DIAMOND"], [
    "CONTAINING BLACK MEDIUM DIAMOND,CONTAINING BLACK SMALL DIAMOND",
    "CONTAINING BLACK VERY SMALL DIAMOND,IN SQUARE,SUIT,WITH CENTRED DOT"]),
  (["WHITE LEFT-POINTING"], ["POINTER,SMALL TRIANGLE,TRIANGLE"]),
  (["WHITE MEDIUM"], ["DIAMOND,LOZENGE,SMALL SQUARE,SQUARE,STAR"]),
  (["WHITE RIGHT-POINTING"], ["PENTAGON,POINTER,SMALL TRIANGLE,TRIANGLE"]),
  (["WHITE SQUARE"], [
    "CONTAINING BLACK MEDIUM SQUARE,CONTAINING BLACK SMALL SQUARE",
    "CONTAINING BLACK VERY SMALL SQUARE"]),
  (["WHITE SQUARE WITH"], [
    "CENTRE VERTICAL LINE,LEFTWARDS TICK,LOWER LEFT QUADRANT,LOWER RIGHT QUADRANT",
    "RIGHTWARDS TICK,ROUNDED CORNERS,UPPER LEFT QUADRANT,UPPER RIGHT QUADRANT",
    "VERTICAL BISECTING LINE"]),
  (["WHITE UP-POINTING"], ["CHEVRON,SMALL TRIANGLE,TRIANGLE,TRIANGLE WITH DOT"]),
  (["WIDE-HEADED DOWNWARDS", "WIDE-HEADED LEFTWARDS", "WIDE-HEADED RIGHTWARDS",
    "WIDE-HEADED UPWARDS"], [
    "BARB ARROW,HEAVY BARB ARROW,LIGHT BARB ARROW,MEDIUM BARB ARROW,VERY HEAVY BARB ARROW"]),
  (["WIDE-HEADED NORTH", "WIDE-HEADED SOUTH"], [
    "EAST BARB ARROW,EAST HEAVY BARB ARROW,EAST LIGHT BARB ARROW,EAST MEDIUM BARB ARROW",
    "EAST VERY HEAVY BARB ARROW,WEST BARB ARROW,WEST HEAVY BARB ARROW,WEST LIGHT BARB ARROW",
    "WEST MEDIUM BARB ARROW,WEST VERY HEAVY BARB ARROW"]),
  (["Z NOTATION"], [
    "BAG MEMBERSHIP,DOMAIN ANTIRESTRICTION,LEFT BINDING BRACKET,LEFT IMAGE BRACKET",
    "RANGE ANTIRESTRICTION,RELATIONAL COMPOSITION,RIGHT BINDING BRACKET,RIGHT IMAGE BRACKET",
    "SCHEMA COMPOSITION,SCHEMA PIPING,SCHEMA PROJECTION,SPOT,TYPE COLON"]),
  (["ZNAMENNY COMBINING"], [
    "ATTACHING VERTICAL OMET,LOWER TONAL RANGE INDICATOR,TONAL RANGE MARK MRACHNO",
    "TONAL RANGE MARK SVETLO,TONAL RANGE MARK TRESVETLO"]),
  (["ZNAMENNY COMBINING MARK"], [
    "BORZAYA,CHASHKA,CHASHKA POLNAYA,CURVED OMET,DEMESTVENNY ZADERZHKA,DVOETOCHIE",
    "GORAZDO NIZKO ON LEFT,GORAZDO NIZKO ON RIGHT,GORAZDO NIZKO S KRYZHEM ON LEFT",
    "GORAZDO NIZKO S KRYZHEM ON RIGHT,GORAZDO VYSOKO,KACHKA,KRYZH,KRYZH ON LEFT,KUPNAYA,LOMKA",
    "MALO POVYSHE ON LEFT,MALO POVYSHE ON RIGHT,MALO POVYSHE S KHOKHLOM ON LEFT",
    "MALO POVYSHE S KHOKHLOM ON RIGHT,MALO POVYSHE S KRYZHEM,MALO POVYSHE STRANNO,NIZKO ON LEFT",
    "NIZKO ON RIGHT,NIZKO S KRYZHEM ON LEFT,NIZKO S KRYZHEM ON RIGHT,OBLACHKO,ON,OTSECHKA",
    "PODCHASHIE,PODCHASHIE WITH VERTICAL STROKE,PODVERTKA,POVYSHE ON LEFT,POVYSHE ON RIGHT",
    "POVYSHE S KHOKHLOM ON LEFT,POVYSHE S KHOKHLOM ON RIGHT,POVYSHE S KRYZHEM,POVYSHE STRANNO",
    "RAVNO,RAZSEKA,SKOBA,SOROCHYA NOZHKA,SREDNE ON LEFT,SREDNE ON RIGHT,STRANNO MALO POVYSHE",
    "TIKHAYA,TOCHKA,TSATA ON LEFT,TSATA ON RIGHT,TSATA S KRYZHEM,UDARKA,VYSOKO ON LEFT",
    "VYSOKO ON RIGHT,VYSOKO S KHOKHLOM ON LEFT,VYSOKO S KHOKHLOM ON RIGHT,VYSOKO S KRYZHEM",
    "ZADERZHKA,ZELO,ZEVOK"]),
  (["ZNAMENNY NEUME"], [
    "CHASHKA,CHELYUSTKA,DEMESTVENNY KLYUCH,DERBITSA,DOUBLE ZAPYATAYA,DUDA,DVA V CHELNU,FITA",
    "KHAMILO,KLYUCH,KOBYLA,KRYUK,KRYUK TIKHY,KRYZH,KUFISMA,MECHIK,MECHIK KLYUCHENEPOSTOYANNY",
    "MECHIK KLYUCHEPOVODNY,MECHIK KLYUCHEVOY,MECHIK POVODNY,NEMKA,OBLAKO,OSOKA",
    "OSOKA KLYUCHEVAYA NEPOSTOYANNAYA,OSOKA KLYUCHEVAYA SVETLAYA,OSOKA KRYUKOVAYA SVETLAYA",
    "OSOKA SVETLAYA,OSOKA TRESVETLAYA,PALKA,PARAKLIT,PAUK,PEREVODKA,PEREVODKA NEPOSTOYANNAYA",
    "PODCHASHIE,POLKULIZMY,REVERSED CHELYUSTKA,ROG,SLOZHITIE,SLOZHITIE S KRYZHEM",
    "SLOZHITIE S ZAPYATOY,SLOZHITIE ZAKRYTOE,STATYA,STOPITSA,STOPITSA S OCHKOM",
    "STOPITSA WITH SOROCHYA NOZHKA,ZANOZHEK,ZAPYATAYA,ZMEYTSA"]),
  (["ZNAMENNY NEUME GOLUBCHIK"], ["BORZY,MRACHNY,SVETLY,TIKHY,TRESVETLY"]),
  (["ZNAMENNY NEUME SKAMEYTSA"], [
    "DVOECHELNAYA KLYUCHEVAYA,DVOECHELNAYA NEPOSTOYANNAYA,DVOECHELNAYA PROSTAYA",
    "DVOECHELNAYA SVETLAYA,KLYUCHENEPOSTOYANNAYA,KLYUCHEVAYA SVETLAYA,KLYUCHEVAYA TIKHAYA",
    "MRACHNAYA,SVETLAYA,TIKHAYA,TRESVETLAYA"]),
  (["ZNAMENNY NEUME STATYA"], [
    "NEPOSTOYANNAYA,S DVUMYA ZAPYATYMI,S KRYZHEM,S KRYZHEM I ZAPYATOY,S ROGOM,S ZAPYATOY",
    "S ZAPYATOY I KRYZHEM,S ZAPYATOY I PODCHASHIEM,ZAKRYTAYA,ZAKRYTAYA S ZAPYATOY"]),
  (["ZNAMENNY NEUME STRELA"], [
    "DVOECHELNAYA,DVOECHELNAYA KLYUCHEVAYA,DVOECHELNOKRYZHEVAYA,DVOECHELNOPOVODNAYA",
    "DVOECHELNOPOVODNAYA KLYUCHEVAYA,GROMNAYA,GROMNAYA WITH SINGLE ZAPYATAYA,GROMOKRYZHEVAYA",
    "GROMOKRYZHEVAYA POVODNAYA,GROMOPOVODNAYA,GROMOPOVODNAYA WITH DOUBLE ZAPYATAYA",
    "GROMOPOVODNAYA WITH SINGLE ZAPYATAYA,KLYUCHENEPOSTOYANNAYA,KLYUCHEPOVODNAYA,KRYUKOVAYA",
    "KRYZHEVAYA,MRACHNOTIKHAYA,NEPOSTOYANNAYA,POLUPOVODNAYA,POVODNAYA,PROSTAYA,TIKHAYA PUTNAYA",
    "TRYASOGLASNAYA,TRYASOPOVODNAYA,TRYASOSTRELNAYA"]),
  (["ZNAMENNY NEUME STRELA KRYUKOVAYA"], [
    "GROMNAYA,GROMNAYA WITH SINGLE ZAPYATAYA,GROMOKRYZHEVAYA,GROMOKRYZHEVAYA POVODNAYA",
    "GROMOPOVODNAYA,GROMOPOVODNAYA WITH DOUBLE ZAPYATAYA,GROMOPOVODNAYA WITH SINGLE ZAPYATAYA",
    "POVODNAYA,TRYASKA"]),
  (["ZNAMENNY NEUME VRAKHIYA"], [
    "KLYUCHEVAYA MRACHNAYA,KLYUCHEVAYA PROSTAYA,KLYUCHEVAYA SVETLAYA,KLYUCHEVAYA TRESVETLAYA",
    "MRACHNAYA,PROSTAYA,SVETLAYA,TRESVETLAYA"]),
  (["ZNAMENNY PRIZNAK"], [
    "MODIFIER DIRECTION FLIP,MODIFIER KRYZH,MODIFIER LEVEL-2,MODIFIER LEVEL-3,MODIFIER ROG"])]

end AwaitLint.Text
