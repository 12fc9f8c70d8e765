/-! # Pictographs

Game pieces, emoji and other pictures.
-/

namespace AwaitLint.Text

def pictographNames : List (List String × List String) := [
  ([""], [
    "ABACUS,ACCORDION,ADHESIVE BANDAGE,ADMISSION TICKETS,ADULT,AERIAL TRAMWAY,AIRPLANE ARRIVING",
    "AIRPLANE DEPARTURE,ALIEN MONSTER,AMBULANCE,AMERICAN FOOTBALL,AMPHORA,ANATOMICAL HEART",
    "ANGER SYMBOL,ANGRY FACE,ANGUISHED FACE,ANT,ANTENNA WITH BARS",
    "ANTICLOCKWISE DOWNWARDS AND UPWARDS OPEN CIRCLE ARROWS,ARTICULATED LORRY,ARTIST PALETTE",
    "ASTONISHED FACE,ATHLETIC SHOE,AUBERGINE,AUTO RICKSHAW,AUTOMATED TELLER MACHINE,AUTOMOBILE",
    "AVOCADO,AXE,BABY,BACK OF ENVELOPE,BACK WITH LEFTWARDS ARROW ABOVE,BACON,BACTRIAN CAMEL",
    "BADGER,BADMINTON RACQUET AND SHUTTLECOCK,BAGEL,BAGGAGE CLAIM,BAGUETTE BREAD,BALL OF YARN",
    "BALLET SHOES,BALLOON,BANANA,BANJO,BANK,BAR CHART,BAR OF SOAP,BARBER POLE,BASKET",
    "BASKETBALL AND HOOP,BAT,BATH,BATHTUB,BATTERY,BEACH WITH UMBRELLA",
    "BEAMED ASCENDING MUSICAL NOTES,BEAMED DESCENDING MUSICAL NOTES,BEANS,BEAR FACE",
    "BEARDED PERSON,BEATING HEART,BEAVER,BED,BEER MUG,BEETLE,BELL,BELL PEPPER",
    "BELL WITH CANCELLATION STROKE,BELLHOP BELL,BENTO BOX,BEVERAGE BOX,BICYCLE,BICYCLIST,BIKINI",
    "BILLED CAP,BILLIARDS,BIRD,BIRTHDAY CAKE,BISON,BITING LIP,BLOSSOM,BLOWFISH,BLUE BOOK",
    "BLUE HEART,BLUEBERRIES,BOAR,BOMB,BONE,BOOK,BOOKMARK,BOOKMARK TABS,BOOKS,BOOMERANG",
    "BOTTLE WITH POPPING CORK,BOUQUET,BOUQUET OF FLOWERS,BOW AND ARROW,BOWL OF HYGIEIA",
    "BOWL WITH SPOON,BOWLING,BOXING GLOVE,BOY,BOYS SYMBOL,BRAIN,BREAD,BREAST-FEEDING,BRICK",
    "BRIDE WITH VEIL,BRIDGE AT NIGHT,BRIEFCASE,BRIEFS,BROCCOLI,BROKEN HEART,BROOM,BROWN HEART",
    "BUBBLE TEA,BUBBLES,BUCKET,BUG,BUILDING CONSTRUCTION,BULLHORN,BULLHORN WITH SOUND WAVES",
    "BURRITO,BUS,BUS STOP,BUST IN SILHOUETTE,BUSTS IN SILHOUETTE,BUTTER,BUTTERFLY,CACTUS",
    "CALENDAR,CALL ME HAND,CAMERA,CAMERA WITH FLASH,CAMPING,CANCELLATION X,CANDLE,CANDY",
    "CANNED FOOD,CANOE,CARD FILE BOX,CARD INDEX,CARD INDEX DIVIDERS,CAROUSEL HORSE,CARP STREAMER",
    "CARPENTRY SAW,CARROT,CAT,CAT FACE,CAT FACE WITH TEARS OF JOY,CAT FACE WITH WRY SMILE",
    "CELTIC CROSS,CHAIR,CHART WITH DOWNWARDS TREND,CHART WITH UPWARDS TREND",
    "CHART WITH UPWARDS TREND AND YEN SIGN,CHECKER BOARD,CHEERING MEGAPHONE,CHEESE WEDGE",
    "CHEQUERED FLAG,CHERRIES,CHERRY BLOSSOM,CHESTNUT,CHICKEN,CHILD,CHILDREN CROSSING,CHIPMUNK",
    "CHOCOLATE BAR,CHOPSTICKS,CHRISTMAS TREE,CINEMA,CIRCUS TENT,CITYSCAPE,CITYSCAPE AT DUSK",
    "CLAMSHELL MOBILE PHONE,CLAPPER BOARD,CLAPPING HANDS SIGN,CLASSICAL BUILDING",
    "CLINKING BEER MUGS,CLINKING GLASSES,CLIPBOARD,CLOUD WITH LIGHTNING,CLOUD WITH RAIN",
    "CLOUD WITH SNOW,CLOUD WITH TORNADO,CLOWN FACE,COAT,COCKROACH,COCKTAIL GLASS,COCONUT,COIN",
    "COLLISION SYMBOL,COMPASS,COMPRESSION,CONFETTI BALL,CONFOUNDED FACE,CONFUSED FACE",
    "CONSTRUCTION SIGN,CONSTRUCTION WORKER,CONTROL KNOBS,CONVENIENCE STORE,COOKED RICE,COOKIE",
    "COOKING,CORAL,COUCH AND LAMP,COUPLE WITH HEART,COW,COW FACE,CRAB,CREDIT CARD,CRESCENT MOON",
    "CRICKET,CRICKET BAT AND BALL,CROCODILE,CROISSANT,CROSS POMMEE",
    "CROSS POMMEE WITH HALF-CIRCLE BELOW,CROSSED FLAGS,CROWN,CRUTCH,CRYING CAT FACE,CRYING FACE",
    "CRYSTAL BALL,CUCUMBER,CUP WITH STRAW,CUPCAKE,CURLING STONE,CURRENCY EXCHANGE,CURRY AND RICE",
    "CUSTARD,CUSTOMS,CUT OF MEAT,CYCLONE,DAGGER KNIFE,DANCER,DANGO,DARK SUNGLASSES,DASH SYMBOL",
    "DEAF PERSON,DECIDUOUS TREE,DECREASE FONT SIZE SYMBOL,DEER,DELIVERY TRUCK,DEPARTMENT STORE",
    "DERELICT HOUSE BUILDING,DESERT,DESERT ISLAND,DESKTOP COMPUTER,DESKTOP WINDOW",
    "DIAMOND SHAPE WITH A DOT INSIDE,DIESEL LOCOMOTIVE,DIRECT HIT,DISAPPOINTED BUT RELIEVED FACE",
    "DISAPPOINTED FACE,DISGUISED FACE,DIVING MASK,DIYA LAMP,DIZZY FACE,DIZZY SYMBOL",
    "DNA DOUBLE HELIX,DO NOT LITTER SYMBOL,DOCUMENT,DODO,DOG,DOG FACE,DOLPHIN,DOOR",
    "DOTTED LINE FACE,DOUGHNUT,DOVE OF PEACE,DOWN-POINTING RED TRIANGLE",
    "DOWN-POINTING SMALL RED TRIANGLE,DOWNWARDS ROCKET,DRAGON,DRAGON FACE,DRESS,DROMEDARY CAMEL",
    "DROOLING FACE,DROP OF BLOOD,DROPLET,DRUM WITH DRUMSTICKS,DUCK,DUMPLING,DVD,E-MAIL SYMBOL",
    "EAGLE,EAR,EAR OF MAIZE,EAR OF RICE,EAR WITH HEARING AID,EARTH GLOBE AMERICAS",
    "EARTH GLOBE ASIA-AUSTRALIA,EARTH GLOBE EUROPE-AFRICA,EGG,ELECTRIC LIGHT BULB,ELECTRIC PLUG",
    "ELECTRIC TORCH,ELEPHANT,ELEVATOR,ELF,END WITH LEFTWARDS ARROW ABOVE",
    "ENVELOPE WITH DOWNWARDS ARROW ABOVE,ENVELOPE WITH LIGHTNING,EUROPEAN CASTLE",
    "EUROPEAN POST OFFICE,EVERGREEN TREE,EXPRESSIONLESS FACE,EXTRATERRESTRIAL ALIEN,EYE",
    "EYEGLASSES,EYES,FACTORY,FAIRY,FALAFEL,FALLEN LEAF,FAMILY,FATHER CHRISTMAS,FAX ICON",
    "FAX MACHINE,FEARFUL FACE,FEATHER,FENCER,FERRIS WHEEL,FIELD HOCKEY STICK AND BALL",
    "FILE CABINET,FILE FOLDER,FILM FRAMES,FILM PROJECTOR,FIRE,FIRE ENGINE,FIRE EXTINGUISHER",
    "FIRECRACKER,FIREWORK SPARKLER,FIREWORKS,FIRST PLACE MEDAL,FIRST QUARTER MOON SYMBOL",
    "FIRST QUARTER MOON WITH FACE,FISH,FISH CAKE WITH SWIRL DESIGN,FISHING POLE AND FISH",
    "FISTED HAND SIGN,FLAMINGO,FLAT SHOE,FLATBREAD,FLEXED BICEPS,FLOPPY DISK",
    "FLOWER PLAYING CARDS,FLUSHED FACE,FLY,FLYING DISC,FLYING ENVELOPE,FLYING SAUCER,FOG,FOGGY",
    "FOLDER,FONDUE,FOOT,FOOTPRINTS,FORK AND KNIFE,FORK AND KNIFE WITH PLATE,FORTUNE COOKIE",
    "FOUR LEAF CLOVER,FOX FACE,FRAME WITH AN X,FRAME WITH PICTURE,FRAME WITH TILES,FREEZING FACE",
    "FRENCH FRIES,FRIED SHRIMP,FROG FACE,FRONT-FACING BABY CHICK,FROWNING FACE WITH OPEN MOUTH",
    "FULL MOON SYMBOL,FULL MOON WITH FACE,GAME DIE,GARLIC,GEM STONE,GENIE,GHOST,GIRAFFE FACE",
    "GIRL,GIRLS SYMBOL,GLASS OF MILK,GLOBE WITH MERIDIANS,GLOVES,GLOWING STAR,GOAL NET,GOAT",
    "GOGGLES,GOLFER,GORILLA,GRADUATION CAP,GRAPES,GREEN APPLE,GREEN BOOK,GREEN HEART,GREEN SALAD",
    "GRIMACING FACE,GROWING HEART,GUARDSMAN,GUIDE DOG,GUITAR,HAIRCUT,HAMBURGER,HAMMER",
    "HAMMER AND WRENCH,HAMSA,HAMSTER FACE,HAND WITH INDEX AND MIDDLE FINGERS CROSSED",
    "HAND WITH INDEX FINGER AND THUMB CROSSED,HANDBAG,HANDBALL,HANDSHAKE",
    "HAPPY PERSON RAISING ONE HAND,HARD DISK,HATCHING CHICK,HEADPHONE,HEADSTONE",
    "HEAR-NO-EVIL MONKEY,HEDGEHOG,HELICOPTER,HERB,HIBISCUS,HIGH BRIGHTNESS SYMBOL",
    "HIGH-HEELED SHOE,HIGH-SPEED TRAIN,HIGH-SPEED TRAIN WITH BULLET NOSE,HIKING BOOT",
    "HINDU TEMPLE,HIPPOPOTAMUS,HOCHO,HOLE,HOLLOW QUILT SQUARE ORNAMENT",
    "HOLLOW QUILT SQUARE ORNAMENT IN BLACK SQUARE,HONEY POT,HONEYBEE,HOOK",
    "HORIZONTAL TRAFFIC LIGHT,HORSE,HORSE FACE,HORSE RACING,HOSPITAL,HOT DOG,HOT PEPPER,HOTEL",
    "HOUSE BUILDING,HOUSE BUILDINGS,HOUSE WITH GARDEN,HUGGING FACE,HUNDRED POINTS SYMBOL",
    "HUSHED FACE,HUT,I LOVE YOU HAND SIGN,ICE CREAM,ICE CUBE,ICE HOCKEY STICK AND PUCK",
    "IDENTIFICATION CARD,IMP,INBOX TRAY,INCOMING ENVELOPE,INCREASE FONT SIZE SYMBOL",
    "INDEX POINTING AT THE VIEWER,INFORMATION DESK PERSON,IZAKAYA LANTERN,JACK-O-LANTERN,JAR",
    "JEANS,JIGSAW PUZZLE PIECE,JOYSTICK,JUGGLING,KAABA,KANGAROO,KEY,KEYBOARD AND MOUSE",
    "KEYCAP TEN,KIMONO,KISS,KISS MARK,KITE,KIWIFRUIT,KNEELING PERSON,KNOT,KOALA,LAB COAT,LABEL",
    "LACROSSE STICK AND BALL,LADDER,LADY BEETLE,LARGE BLUE CIRCLE,LARGE BLUE DIAMOND",
    "LARGE ORANGE DIAMOND,LARGE RED CIRCLE,LAST QUARTER MOON SYMBOL,LAST QUARTER MOON WITH FACE",
    "LEAF FLUTTERING IN WIND,LEAFY GREEN,LEDGER,LEFT-FACING FIST,LEFT-POINTING MAGNIFYING GLASS",
    "LEFTWARDS HAND,LEFTWARDS ROCKET,LEG,LEMON,LEOPARD,LEVEL SLIDER,LIGATURE OPEN ET ORNAMENT",
    "LIGHT CHECK MARK,LIGHT RAIL,LIGHTNING MOOD,LIGHTNING MOOD BUBBLE,LINK SYMBOL",
    "LINKED PAPERCLIPS,LION FACE,LIPS,LIPSTICK,LIZARD,LLAMA,LOBSTER,LOCK,LOCK WITH INK PEN",
    "LOLLIPOP,LONG DRUM,LOTION BOTTLE,LOTUS,LOUDLY CRYING FACE,LOVE HOTEL,LOVE LETTER",
    "LOW BATTERY,LOW BRIGHTNESS SYMBOL,LUGGAGE,LUNGS,LYING FACE,MAGE,MAGIC WAND,MAGNET,MAMMOTH",
    "MAN,MANGO,MANS SHOE,MANTELPIECE CLOCK,MANUAL WHEELCHAIR,MAPLE LEAF,MARTIAL ARTS UNIFORM",
    "MATE DRINK,MAXIMIZE,MEAT ON BONE,MECHANICAL ARM,MECHANICAL LEG,MELON,MELTING FACE,MEMO",
    "MENORAH WITH NINE BRANCHES,MENS SYMBOL,MERPERSON,METRO,MICROBE,MICROPHONE,MICROSCOPE",
    "MILITARY HELMET,MILITARY MEDAL,MILKY WAY,MINIBUS,MINIDISC,MINIMIZE,MIRROR,MIRROR BALL",
    "MOBILE PHONE,MOBILE PHONE OFF,MOBILE PHONE WITH RIGHTWARDS ARROW AT LEFT,MODERN PENTATHLON",
    "MONEY BAG,MONEY WITH WINGS,MONEY-MOUTH FACE,MONKEY,MONKEY FACE,MONORAIL,MOOD BUBBLE",
    "MOON CAKE,MOON VIEWING CEREMONY,MOSQUE,MOSQUITO,MOTHER CHRISTMAS,MOTOR BOAT,MOTOR SCOOTER",
    "MOTORIZED WHEELCHAIR,MOTORWAY,MOUNT FUJI,MOUNTAIN BICYCLIST,MOUNTAIN CABLEWAY",
    "MOUNTAIN RAILWAY,MOUSE,MOUSE FACE,MOUSE TRAP,MOUTH,MOVIE CAMERA,MOYAI",
    "MULTIPLE MUSICAL NOTES,MUSHROOM,NAIL POLISH,NAME BADGE,NATIONAL PARK,NAUSEATED FACE",
    "NAZAR AMULET,NECKTIE,NERD FACE,NEST WITH EGGS,NESTING DOLLS,NEW MOON SYMBOL",
    "NEW MOON WITH FACE,NEWSPAPER,NIGHT WITH STARS,NINJA,NO BICYCLES,NO ENTRY SIGN",
    "NO MOBILE PHONES,NO ONE UNDER EIGHTEEN SYMBOL,NO PEDESTRIANS,NO PIRACY,NO SMOKING SYMBOL",
    "NON-POTABLE WATER SYMBOL,NORTHEAST-POINTING AIRPLANE,NOSE",
    "NOTCHED LEFT SEMICIRCLE WITH THREE DOTS,NOTCHED RIGHT SEMICIRCLE WITH THREE DOTS,NOTE",
    "NOTE PAD,NOTE PAGE,NOTEBOOK,NOTEBOOK WITH DECORATIVE COVER,NUT AND BOLT,OCTAGONAL SIGN",
    "OCTOPUS,ODEN,OFFICE BUILDING,OIL DRUM,OK HAND SIGN,OLD KEY,OLD PERSONAL COMPUTER",
    "OLDER ADULT,OLDER MAN,OLDER WOMAN,OLIVE,OM SYMBOL",
    "ON WITH EXCLAMATION MARK WITH LEFT RIGHT ARROW ABOVE,ONE BUTTON MOUSE,ONE-PIECE SWIMSUIT",
    "ONION,OPTICAL DISC,OPTICAL DISC ICON,ORANGE BOOK,ORANGE HEART,ORANGUTAN,OTTER,OUTBOX TRAY",
    "OVERHEATED FACE,OVERLAP,OWL,OX,OYSTER,PACKAGE,PAGE,PAGE FACING UP,PAGE WITH CIRCLED TEXT",
    "PAGE WITH CURL,PAGER,PAGES,PAGODA,PALM DOWN HAND,PALM TREE,PALM UP HAND,PALMS UP TOGETHER",
    "PANCAKES,PANDA FACE,PAPERCLIP,PARACHUTE,PARROT,PARTY POPPER,PASSENGER SHIP,PASSPORT CONTROL",
    "PAW PRINTS,PEACH,PEACOCK,PEANUTS,PEAR,PEDESTRIAN,PEN OVER STAMPED ENVELOPE,PENGUIN",
    "PENSIVE FACE,PEOPLE HUGGING,PERFORMING ARTS,PERSEVERING FACE,PERSONAL COMPUTER,PETRI DISH",
    "PICKUP TRUCK,PIE,PIG,PIG FACE,PIG NOSE,PILE OF POO,PILL,PINATA,PINCHED FINGERS",
    "PINCHING HAND,PINE DECORATION,PINEAPPLE,PISTOL,PLACARD,PLACE OF WORSHIP,PLAYGROUND SLIDE",
    "PLUNGER,POCKET CALCULATOR,POLICE CAR,POLICE CARS REVOLVING LIGHT,POLICE OFFICER,POODLE",
    "POPCORN,PORTABLE STEREO,POSTAL HORN,POSTBOX,POT OF FOOD,POTABLE WATER SYMBOL,POTATO",
    "POTTED PLANT,POUCH,POULTRY LEG,POURING LIQUID,POUTING CAT FACE,POUTING FACE,PRAYER BEADS",
    "PREGNANT MAN,PREGNANT PERSON,PREGNANT WOMAN,PRETZEL,PRINCE,PRINCESS,PRINTER,PRINTER ICON",
    "PROBING CANE,PROHIBITED SIGN,PUBLIC ADDRESS LOUDSPEAKER,PURPLE HEART,PURSE,PUSHPIN",
    "PUT LITTER IN ITS PLACE SYMBOL,RABBIT,RABBIT FACE,RACCOON,RACING CAR,RACING MOTORCYCLE",
    "RADIO,RADIO BUTTON,RAILWAY CAR,RAILWAY TRACK,RAINBOW,RAISED BACK OF HAND",
    "RAISED HAND WITH FINGERS SPLAYED,RAISED HAND WITH PART BETWEEN MIDDLE AND RING FINGERS,RAM",
    "RAT,RAZOR,RECEIPT,RECREATIONAL VEHICLE,RED APPLE,RED GIFT ENVELOPE,RELIEVED FACE",
    "REMINDER RIBBON,RESTROOM,REVERSE CHECKER BOARD,REVOLVING HEARTS,RHINOCEROS,RIBBON,RICE BALL",
    "RICE CRACKER,RIFLE,RIGHT-FACING FIST,RIGHT-POINTING MAGNIFYING GLASS,RIGHTWARDS HAND",
    "RIGHTWARDS ROCKET,RING,RING BUOY,RINGED PLANET,RINGING BELL,ROASTED SWEET POTATO,ROBOT FACE",
    "ROCK,ROCKET,ROLL OF PAPER,ROLLED-UP NEWSPAPER,ROLLER COASTER,ROLLER SKATE",
    "ROLLING ON THE FLOOR LAUGHING,ROOSTER,ROSE,ROSETTE,ROUND PUSHPIN,ROWBOAT,RUGBY FOOTBALL",
    "RUNNER,RUNNING SHIRT WITH SASH,SAFETY PIN,SAFETY VEST,SAKE BOTTLE AND CUP,SALT SHAKER",
    "SALUTING FACE,SANDWICH,SARI,SATELLITE,SATELLITE ANTENNA,SAUROPOD,SAXOPHONE,SCARF,SCHOOL",
    "SCHOOL SATCHEL,SCOOTER,SCORPION,SCREEN,SCREWDRIVER,SCRIPT LIGATURE ET ORNAMENT,SCROLL,SEAL",
    "SEAT,SECOND PLACE MEDAL,SEE-NO-EVIL MONKEY,SEEDLING,SELFIE",
    "SERIOUS FACE WITH SYMBOLS COVERING MOUTH,SEWING NEEDLE,SHALLOW PAN OF FOOD,SHARK,SHAVED ICE",
    "SHEEP,SHIELD,SHIP,SHOCKED FACE WITH EXPLODING HEAD,SHOOTING STAR,SHOPPING BAGS",
    "SHOPPING TROLLEY,SHORTCAKE,SHORTS,SHOWER,SHRIMP,SHRUG,SIGN OF THE HORNS,SILHOUETTE OF JAPAN",
    "SIX POINTED STAR WITH MIDDLE DOT,SKATEBOARD,SKI AND SKI BOOT,SKULL,SKUNK,SLED",
    "SLEEPING ACCOMMODATION,SLEEPING FACE,SLEEPING SYMBOL,SLEEPY FACE,SLEUTH OR SPY",
    "SLICE OF PIZZA,SLIGHTLY FROWNING FACE,SLIGHTLY SMILING FACE,SLOT MACHINE,SLOTH",
    "SMALL AIRPLANE,SMALL BLUE DIAMOND,SMALL ORANGE DIAMOND,SMIRKING FACE,SMOKING SYMBOL,SNAIL",
    "SNAKE,SNEEZING FACE,SNOW CAPPED MOUNTAIN,SNOWBOARDER,SOCKS,SOFT ICE CREAM",
    "SOFT SHELL FLOPPY DISK,SOFTBALL,SOLID QUILT SQUARE ORNAMENT",
    "SOLID QUILT SQUARE ORNAMENT IN BLACK SQUARE,SOON WITH RIGHTWARDS ARROW ABOVE,SPAGHETTI",
    "SPARKLING HEART,SPEAK-NO-EVIL MONKEY,SPEAKER,SPEAKING HEAD IN SILHOUETTE,SPEECH BALLOON",
    "SPEEDBOAT,SPIDER,SPIDER WEB,SPIRAL CALENDAR PAD,SPIRAL NOTE PAD,SPIRAL SHELL",
    "SPLASHING SWEAT SYMBOL,SPONGE,SPOOL OF THREAD,SPOON,SPORTS MEDAL,SPOUTING WHALE,SQUID",
    "STADIUM,STAMPED ENVELOPE,STANDING PERSON,STATION,STATUE OF LIBERTY,STEAM LOCOMOTIVE",
    "STEAMING BOWL,STETHOSCOPE,STOCK CHART,STRAIGHT RULER,STRAWBERRY,STUDIO MICROPHONE",
    "STUFFED FLATBREAD,STUPA,SUN WITH FACE,SUNFLOWER,SUNRISE,SUNRISE OVER MOUNTAINS",
    "SUNSET OVER BUILDINGS,SUPERHERO,SUPERVILLAIN,SURFER,SUSHI,SUSPENSION RAILWAY,SWAN",
    "SWASH AMPERSAND ORNAMENT,SWIMMER,SYMBOL FOR MARKS CHAPTER,SYNAGOGUE,SYRINGE,T-REX,T-SHIRT",
    "TABLE TENNIS PADDLE AND BALL,TACO,TAKEOUT BOX,TAMALE,TANABATA TREE,TANGERINE,TAPE CARTRIDGE",
    "TAXI,TEACUP WITHOUT HANDLE,TEAPOT,TEAR-OFF CALENDAR,TEDDY BEAR,TELESCOPE,TELEVISION",
    "TENNIS RACQUET AND BALL,TEST TUBE,THERMOMETER,THINKING FACE,THIRD PLACE MEDAL,THONG SANDAL",
    "THOUGHT BALLOON,THUMBS DOWN SIGN,THUMBS UP SIGN,TICKET,TIGER,TIGER FACE,TIRED FACE,TOILET",
    "TOKYO TOWER,TOMATO,TONGUE,TOOLBOX,TOOTH,TOOTHBRUSH,TOP HAT,TOP WITH UPWARDS ARROW ABOVE",
    "TRACKBALL,TRACTOR,TRAIN,TRAM,TRAM CAR,TRIANGLE WITH ROUNDED CORNERS,TRIANGULAR FLAG ON POST",
    "TRIANGULAR RULER,TRIDENT EMBLEM,TROLL,TROLLEYBUS,TROPHY,TROPICAL DRINK,TROPICAL FISH",
    "TRUMPET,TULIP,TUMBLER GLASS,TURKEY,TURTLE,TWISTED RIGHTWARDS ARROWS,TWO BUTTON MOUSE",
    "TWO HEARTS,TWO MEN HOLDING HANDS,TWO SPEECH BUBBLES,TWO WOMEN HOLDING HANDS,UNAMUSED FACE",
    "UNICORN FACE,UPPER RIGHT SHADOWED WHITE CIRCLE,UPSIDE-DOWN FACE,UPWARDS ROCKET,VAMPIRE",
    "VERTICAL TRAFFIC LIGHT,VERY HEAVY REVERSE SOLIDUS,VERY HEAVY SOLIDUS,VIBRATION MODE",
    "VIDEO CAMERA,VIDEO GAME,VIDEOCASSETTE,VIOLIN,VOLCANO,VOLLEYBALL,WAFFLE",
    "WANING CRESCENT MOON SYMBOL,WANING GIBBOUS MOON SYMBOL,WASTEBASKET,WATER BUFFALO",
    "WATER CLOSET,WATER POLO,WATER WAVE,WATERMELON,WAVING BLACK FLAG,WAVING HAND SIGN",
    "WAVING WHITE FLAG,WAXING CRESCENT MOON SYMBOL,WAXING GIBBOUS MOON SYMBOL,WEARY CAT FACE",
    "WEARY FACE,WEDDING,WEIGHT LIFTER,WHALE,WHEEL,WILTED FLOWER,WIND BLOWING FACE,WIND CHIME",
    "WINDOW,WINE GLASS,WINKING FACE,WIRED KEYBOARD,WOLF FACE,WOMAN,WOMAN WITH BUNNY EARS",
    "WOMENS SYMBOL,WOOD,WORLD MAP,WORM,WORRIED FACE,WRAPPED PRESENT,WRENCH,WRESTLERS,X-RAY",
    "YAWNING FACE,YELLOW HEART,YO-YO,ZEBRA FACE,ZIPPER-MOUTH FACE,ZOMBIE"]),
  (["BABY"], ["ANGEL,BOTTLE,CHICK,SYMBOL"]),
  (["BALLOT"], [
    "BOLD SCRIPT X,BOX WITH BALLOT,BOX WITH BOLD CHECK,BOX WITH BOLD SCRIPT X,BOX WITH SCRIPT X",
    "SCRIPT X"]),
  (["BANKNOTE"], ["WITH DOLLAR SIGN,WITH EURO SIGN,WITH POUND SIGN,WITH YEN SIGN"]),
  (["BLACK"], [
    "DOWN POINTING BACKHAND INDEX,DROPLET,FOLDER,HARD SHELL FLOPPY DISK,HEART",
    "LEFT POINTING BACKHAND INDEX,PENNANT,PUSHPIN,RIGHT POINTING BACKHAND INDEX,ROSETTE",
    "SKULL AND CROSSBONES,SQUARE BUTTON,TOUCHTONE TELEPHONE,UP POINTING BACKHAND INDEX"]),
  (["BLACK CHESS", "WHITE CHESS"], [
    "BISHOP ROTATED NINETY DEGREES,BISHOP ROTATED TWO HUNDRED SEVENTY DEGREES,EQUIHOPPER",
    "EQUIHOPPER ROTATED NINETY DEGREES,KING ROTATED NINETY DEGREES",
    "KING ROTATED TWO HUNDRED SEVENTY DEGREES,KNIGHT-BISHOP,KNIGHT-QUEEN,KNIGHT-ROOK",
    "PAWN ROTATED NINETY DEGREES,PAWN ROTATED TWO HUNDRED SEVENTY DEGREES",
    "QUEEN ROTATED NINETY DEGREES,QUEEN ROTATED TWO HUNDRED SEVENTY DEGREES",
    "ROOK ROTATED NINETY DEGREES,ROOK ROTATED TWO HUNDRED SEVENTY DEGREES"]),
  (["BLACK CHESS KNIGHT ROTATED", "WHITE CHESS KNIGHT ROTATED"], [
    "FORTY-FIVE DEGREES,NINETY DEGREES,ONE HUNDRED THIRTY-FIVE DEGREES",
    "THREE HUNDRED FIFTEEN DEGREES,TWO HUNDRED SEVENTY DEGREES,TWO HUNDRED TWENTY-FIVE DEGREES"]),
  (["BLACK CHESS TURNED", "NEUTRAL CHESS TURNED", "WHITE CHESS TURNED"], [
    "BISHOP,KING,KNIGHT,PAWN,QUEEN,ROOK"]),
  (["CIRCLED"], [
    "CROSS FORMEE,CROSS FORMEE WITH FOUR DOTS,CROSS FORMEE WITH TWO DOTS,CROSS POMMEE",
    "INFORMATION SOURCE"]),
  (["CLOCK FACE"], [
    "EIGHT OCLOCK,EIGHT-THIRTY,ELEVEN OCLOCK,ELEVEN-THIRTY,FIVE OCLOCK,FIVE-THIRTY,FOUR OCLOCK",
    "FOUR-THIRTY,NINE OCLOCK,NINE-THIRTY,ONE OCLOCK,ONE-THIRTY,SEVEN OCLOCK,SEVEN-THIRTY",
    "SIX OCLOCK,SIX-THIRTY,TEN OCLOCK,TEN-THIRTY,THREE OCLOCK,THREE-THIRTY,TWELVE OCLOCK",
    "TWELVE-THIRTY,TWO OCLOCK,TWO-THIRTY"]),
  (["CLOCKWISE"], [
    "DOWNWARDS AND UPWARDS OPEN CIRCLE ARROWS,RIGHT AND LEFT SEMICIRCLE ARROWS",
    "RIGHTWARDS AND LEFTWARDS OPEN CIRCLE ARROWS",
    "RIGHTWARDS AND LEFTWARDS OPEN CIRCLE ARROWS WITH CIRCLED ONE OVERLAY"]),
  (["CLOSED"], [
    "BOOK,LOCK WITH KEY,MAILBOX WITH LOWERED FLAG,MAILBOX WITH RAISED FLAG,UMBRELLA"]),
  (["DOCUMENT"], ["WITH PICTURE,WITH TEXT,WITH TEXT AND PICTURE"]),
  (["DOMINO TILE"], [
    "HORIZONTAL BACK,HORIZONTAL-00-00,HORIZONTAL-00-01,HORIZONTAL-00-02,HORIZONTAL-00-03",
    "HORIZONTAL-00-04,HORIZONTAL-00-05,HORIZONTAL-00-06,HORIZONTAL-01-00,HORIZONTAL-01-01",
    "HORIZONTAL-01-02,HORIZONTAL-01-03,HORIZONTAL-01-04,HORIZONTAL-01-05,HORIZONTAL-01-06",
    "HORIZONTAL-02-00,HORIZONTAL-02-01,HORIZONTAL-02-02,HORIZONTAL-02-03,HORIZONTAL-02-04",
    "HORIZONTAL-02-05,HORIZONTAL-02-06,HORIZONTAL-03-00,HORIZONTAL-03-01,HORIZONTAL-03-02",
    "HORIZONTAL-03-03,HORIZONTAL-03-04,HORIZONTAL-03-05,HORIZONTAL-03-06,HORIZONTAL-04-00",
    "HORIZONTAL-04-01,HORIZONTAL-04-02,HORIZONTAL-04-03,HORIZONTAL-04-04,HORIZONTAL-04-05",
    "HORIZONTAL-04-06,HORIZONTAL-05-00,HORIZONTAL-05-01,HORIZONTAL-05-02,HORIZONTAL-05-03",
    "HORIZONTAL-05-04,HORIZONTAL-05-05,HORIZONTAL-05-06,HORIZONTAL-06-00,HORIZONTAL-06-01",
    "HORIZONTAL-06-02,HORIZONTAL-06-03,HORIZONTAL-06-04,HORIZONTAL-06-05,HORIZONTAL-06-06",
    "VERTICAL BACK,VERTICAL-00-00,VERTICAL-00-01,VERTICAL-00-02,VERTICAL-00-03,VERTICAL-00-04",
    "VERTICAL-00-05,VERTICAL-00-06,VERTICAL-01-00,VERTICAL-01-01,VERTICAL-01-02,VERTICAL-01-03",
    "VERTICAL-01-04,VERTICAL-01-05,VERTICAL-01-06,VERTICAL-02-00,VERTICAL-02-01,VERTICAL-02-02",
    "VERTICAL-02-03,VERTICAL-02-04,VERTICAL-02-05,VERTICAL-02-06,VERTICAL-03-00,VERTICAL-03-01",
    "VERTICAL-03-02,VERTICAL-03-03,VERTICAL-03-04,VERTICAL-03-05,VERTICAL-03-06,VERTICAL-04-00",
    "VERTICAL-04-01,VERTICAL-04-02,VERTICAL-04-03,VERTICAL-04-04,VERTICAL-04-05,VERTICAL-04-06",
    "VERTICAL-05-00,VERTICAL-05-01,VERTICAL-05-02,VERTICAL-05-03,VERTICAL-05-04,VERTICAL-05-05",
    "VERTICAL-05-06,VERTICAL-06-00,VERTICAL-06-01,VERTICAL-06-02,VERTICAL-06-03,VERTICAL-06-04",
    "VERTICAL-06-05,VERTICAL-06-06"]),
  (["DOWNWARD"], [
    "FACING HOOK,FACING HOOK WITH DOT,FACING NOTCHED HOOK,FACING NOTCHED HOOK WITH DOT"]),
  (["EMOJI COMPONENT"], ["BALD,CURLY HAIR,RED HAIR,WHITE HAIR"]),
  (["EMOJI MODIFIER FITZPATRICK"], ["TYPE-1-2,TYPE-3..TYPE-6"]),
  (["EMPTY"], ["DOCUMENT,NEST,NOTE,NOTE PAD,NOTE PAGE,PAGE,PAGES"]),
  (["FACE"], [
    "HOLDING BACK TEARS,MASSAGE,PALM,SAVOURING DELICIOUS FOOD,SCREAMING IN FEAR,THROWING A KISS",
    "WITHOUT MOUTH"]),
  (["FACE WITH"], [
    "COLD SWEAT,COWBOY HAT,DIAGONAL MOUTH,FINGER COVERING CLOSED LIPS,HEAD-BANDAGE",
    "LOOK OF TRIUMPH,MEDICAL MASK,MONOCLE,NO GOOD GESTURE,OK GESTURE,ONE EYEBROW RAISED",
    "OPEN EYES AND HAND OVER MOUTH,OPEN MOUTH,OPEN MOUTH AND COLD SWEAT,OPEN MOUTH VOMITING",
    "PARTY HORN AND PARTY HAT,PEEKING EYE,PLEADING EYES,ROLLING EYES,STUCK-OUT TONGUE",
    "STUCK-OUT TONGUE AND TIGHTLY-CLOSED EYES,STUCK-OUT TONGUE AND WINKING EYE,TEARS OF JOY",
    "THERMOMETER,UNEVEN EYES AND WAVY MOUTH"]),
  (["GRINNING"], [
    "CAT FACE WITH SMILING EYES,FACE,FACE WITH ONE LARGE AND ONE SMALL EYE",
    "FACE WITH SMILING EYES,FACE WITH STAR EYES"]),
  (["HEART"], ["DECORATION,HANDS,WITH ARROW,WITH RIBBON,WITH TIP ON THE LEFT"]),
  (["HEAVY"], [
    "AMPERSAND ORNAMENT,DOLLAR SIGN,INTERROBANG ORNAMENT,LATIN CROSS,LIGATURE OPEN ET ORNAMENT",
    "NORTH EAST POINTING BUD,NORTH EAST POINTING VINE LEAF,NORTH WEST POINTING BUD",
    "NORTH WEST POINTING VINE LEAF,SANS-SERIF INTERROBANG ORNAMENT,SCRIPT LIGATURE ET ORNAMENT",
    "SOUTH EAST POINTING BUD,SOUTH EAST POINTING VINE LEAF,SOUTH WEST POINTING BUD",
    "SOUTH WEST POINTING VINE LEAF"]),
  (["INPUT SYMBOL"], [
    "FOR LATIN CAPITAL LETTERS,FOR LATIN LETTERS,FOR LATIN SMALL LETTERS,FOR NUMBERS,FOR SYMBOLS"]),
  (["JAPANESE"], ["CASTLE,DOLLS,GOBLIN,OGRE,POST OFFICE,SYMBOL FOR BEGINNER"]),
  (["KISSING"], ["CAT FACE WITH CLOSED EYES,FACE,FACE WITH CLOSED EYES,FACE WITH SMILING EYES"]),
  (["LEFT"], [
    "ANGER BUBBLE,HALF CIRCLE,HALF CIRCLE WITH DOT,HALF CIRCLE WITH FOUR DOTS",
    "HALF CIRCLE WITH THREE DOTS,HALF CIRCLE WITH TWO DOTS,HAND TELEPHONE RECEIVER,LUGGAGE",
    "SPEECH BUBBLE,THOUGHT BUBBLE,WRITING HAND"]),
  (["LOWER"], [
    "LEFT BALLPOINT PEN,LEFT CRAYON,LEFT FOUNTAIN PEN,LEFT PAINTBRUSH,LEFT PENCIL",
    "RIGHT SHADOWED WHITE CIRCLE"]),
  (["MAHJONG TILE"], [
    "AUTUMN,BACK,BAMBOO,CHRYSANTHEMUM,EAST WIND,EIGHT OF BAMBOOS,EIGHT OF CHARACTERS",
    "EIGHT OF CIRCLES,FIVE OF BAMBOOS,FIVE OF CHARACTERS,FIVE OF CIRCLES,FOUR OF BAMBOOS",
    "FOUR OF CHARACTERS,FOUR OF CIRCLES,GREEN DRAGON,JOKER,NINE OF BAMBOOS,NINE OF CHARACTERS",
    "NINE OF CIRCLES,NORTH WIND,ONE OF BAMBOOS,ONE OF CHARACTERS,ONE OF CIRCLES,ORCHID,PLUM",
    "RED DRAGON,SEVEN OF BAMBOOS,SEVEN OF CHARACTERS,SEVEN OF CIRCLES,SIX OF BAMBOOS",
    "SIX OF CHARACTERS,SIX OF CIRCLES,SOUTH WIND,SPRING,SUMMER,THREE OF BAMBOOS",
    "THREE OF CHARACTERS,THREE OF CIRCLES,TWO OF BAMBOOS,TWO OF CHARACTERS,TWO OF CIRCLES",
    "WEST WIND,WHITE DRAGON,WINTER"]),
  (["MAN"], [
    "AND WOMAN HOLDING HANDS,DANCING,IN BUSINESS SUIT LEVITATING,IN TUXEDO,WITH GUA PI MAO",
    "WITH TURBAN"]),
  (["MUSICAL"], ["KEYBOARD,KEYBOARD WITH JACKS,NOTE,SCORE"]),
  (["NEUTRAL"], ["FACE"]),
  (["NEUTRAL CHESS"], [
    "BISHOP,BISHOP ROTATED NINETY DEGREES,BISHOP ROTATED TWO HUNDRED SEVENTY DEGREES,EQUIHOPPER",
    "EQUIHOPPER ROTATED NINETY DEGREES,KING,KING ROTATED NINETY DEGREES",
    "KING ROTATED TWO HUNDRED SEVENTY DEGREES,KNIGHT,PAWN,PAWN ROTATED NINETY DEGREES",
    "PAWN ROTATED TWO HUNDRED SEVENTY DEGREES,QUEEN,QUEEN ROTATED NINETY DEGREES",
    "QUEEN ROTATED TWO HUNDRED SEVENTY DEGREES,ROOK,ROOK ROTATED NINETY DEGREES",
    "ROOK ROTATED TWO HUNDRED SEVENTY DEGREES"]),
  (["NEUTRAL CHESS KNIGHT"], [
    "ROTATED FORTY-FIVE DEGREES,ROTATED NINETY DEGREES,ROTATED ONE HUNDRED THIRTY-FIVE DEGREES",
    "ROTATED THREE HUNDRED FIFTEEN DEGREES,ROTATED TWO HUNDRED SEVENTY DEGREES",
    "ROTATED TWO HUNDRED TWENTY-FIVE DEGREES"]),
  (["NORTH", "SOUTH"], [
    "EAST POINTING BUD,EAST POINTING LEAF,EAST POINTING VINE LEAF,WEST POINTING BUD",
    "WEST POINTING LEAF,WEST POINTING VINE LEAF"]),
  (["ONCOMING"], ["AUTOMOBILE,BUS,FIRE ENGINE,POLICE CAR,TAXI"]),
  (["OPEN"], [
    "BOOK,FILE FOLDER,FOLDER,HANDS SIGN,LOCK,MAILBOX WITH LOWERED FLAG,MAILBOX WITH RAISED FLAG"]),
  (["PERSON"], [
    "BOWING DEEPLY,CLIMBING,DOING CARTWHEEL,FROWNING,IN LOTUS POSITION,IN STEAMY ROOM",
    "RAISING BOTH HANDS IN CELEBRATION,WITH BLOND HAIR,WITH CROWN,WITH FOLDED HANDS",
    "WITH HEADSCARF,WITH POUTING FACE"]),
  (["PLAYING CARD"], [
    "ACE OF CLUBS,ACE OF DIAMONDS,ACE OF HEARTS,ACE OF SPADES,BACK,BLACK JOKER,EIGHT OF CLUBS",
    "EIGHT OF DIAMONDS,EIGHT OF HEARTS,EIGHT OF SPADES,FIVE OF CLUBS,FIVE OF DIAMONDS",
    "FIVE OF HEARTS,FIVE OF SPADES,FOOL,FOUR OF CLUBS,FOUR OF DIAMONDS,FOUR OF HEARTS",
    "FOUR OF SPADES,JACK OF CLUBS,JACK OF DIAMONDS,JACK OF HEARTS,JACK OF SPADES,KING OF CLUBS",
    "KING OF DIAMONDS,KING OF HEARTS,KING OF SPADES,KNIGHT OF CLUBS,KNIGHT OF DIAMONDS",
    "KNIGHT OF HEARTS,KNIGHT OF SPADES,NINE OF CLUBS,NINE OF DIAMONDS,NINE OF HEARTS",
    "NINE OF SPADES,QUEEN OF CLUBS,QUEEN OF DIAMONDS,QUEEN OF HEARTS,QUEEN OF SPADES,RED JOKER",
    "SEVEN OF CLUBS,SEVEN OF DIAMONDS,SEVEN OF HEARTS,SEVEN OF SPADES,SIX OF CLUBS",
    "SIX OF DIAMONDS,SIX OF HEARTS,SIX OF SPADES,TEN OF CLUBS,TEN OF DIAMONDS,TEN OF HEARTS",
    "TEN OF SPADES,THREE OF CLUBS,THREE OF DIAMONDS,THREE OF HEARTS,THREE OF SPADES",
    "TRUMP-1..TRUMP-9,TRUMP-10..TRUMP-21,TWO OF CLUBS,TWO OF DIAMONDS,TWO OF HEARTS",
    "TWO OF SPADES,WHITE JOKER"]),
  (["REVERSED"], [
    "HAND WITH MIDDLE FINGER EXTENDED,RAISED HAND WITH FINGERS SPLAYED,THUMBS DOWN SIGN",
    "THUMBS UP SIGN,VICTORY HAND"]),
  (["RIGHT"], [
    "ANGER BUBBLE,HAND TELEPHONE RECEIVER,SPEAKER,SPEAKER WITH ONE SOUND WAVE",
    "SPEAKER WITH THREE SOUND WAVES,SPEECH BUBBLE,THOUGHT BUBBLE"]),
  (["SANS-SERIF"], [
    "HEAVY DOUBLE COMMA QUOTATION MARK ORNAMENT",
    "HEAVY DOUBLE TURNED COMMA QUOTATION MARK ORNAMENT",
    "HEAVY LOW DOUBLE COMMA QUOTATION MARK ORNAMENT,INTERROBANG ORNAMENT"]),
  (["SIDEWAYS"], [
    "BLACK DOWN POINTING INDEX,BLACK LEFT POINTING INDEX,BLACK RIGHT POINTING INDEX",
    "BLACK UP POINTING INDEX,WHITE DOWN POINTING INDEX,WHITE LEFT POINTING INDEX",
    "WHITE RIGHT POINTING INDEX,WHITE UP POINTING INDEX"]),
  (["SMILING"], ["CAT FACE WITH HEART-SHAPED EYES,CAT FACE WITH OPEN MOUTH"]),
  (["SMILING FACE WITH"], [
    "HALO,HEART-SHAPED EYES,HORNS,OPEN MOUTH,OPEN MOUTH AND COLD SWEAT",
    "OPEN MOUTH AND SMILING EYES,OPEN MOUTH AND TIGHTLY-CLOSED EYES,SMILING EYES",
    "SMILING EYES AND HAND COVERING MOUTH,SMILING EYES AND THREE HEARTS,SUNGLASSES,TEAR"]),
  (["SPEAKER"], ["WITH CANCELLATION STROKE,WITH ONE SOUND WAVE,WITH THREE SOUND WAVES"]),
  (["TELEPHONE"], ["ON TOP OF MODEM,RECEIVER,RECEIVER WITH PAGE"]),
  (["THREE"], [
    "BUTTON MOUSE,NETWORKED COMPUTERS,RAYS ABOVE,RAYS BELOW,RAYS LEFT,RAYS RIGHT,SPEECH BUBBLES"]),
  (["TURNED"], [
    "NORTH EAST POINTING LEAF,NORTH WEST POINTING LEAF,OK HAND SIGN,SOUTH EAST POINTING LEAF",
    "SOUTH WEST POINTING LEAF"]),
  (["UP-POINTING"], [
    "AIRPLANE,MILITARY AIRPLANE,RED TRIANGLE,SMALL AIRPLANE,SMALL RED TRIANGLE"]),
  (["WHITE"], [
    "DOWN POINTING BACKHAND INDEX,DOWN POINTING LEFT HAND INDEX,FLOWER,HARD SHELL FLOPPY DISK",
    "HEART,LATIN CROSS,LEFT POINTING BACKHAND INDEX,PENNANT,RIGHT POINTING BACKHAND INDEX",
    "SQUARE BUTTON,SUN,SUN BEHIND CLOUD,SUN BEHIND CLOUD WITH RAIN,SUN WITH SMALL CLOUD",
    "TOUCHTONE TELEPHONE,UP POINTING BACKHAND INDEX"]),
  (["WOMANS"], ["BOOTS,CLOTHES,HAT,SANDAL"]),
  (["XIANGQI"], [
    "RED CANNON,RED CHARIOT,RED ELEPHANT,RED GENERAL,RED HORSE,RED MANDARIN,RED SOLDIER"]),
  (["XIANGQI BLACK"], ["CANNON,CHARIOT,ELEPHANT,GENERAL,HORSE,MANDARIN,SOLDIER"])]

end AwaitLint.Text
