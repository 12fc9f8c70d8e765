/-! # European scripts

Latin, Greek, Cyrillic, Armenian, Georgian and the other alphabets of Europe, old and new, with the
letters and marks of phonetic notation.
-/

namespace AwaitLint.Text

def europeanNames : List (List String × List String) := [
  ([""], [
    "ACUTE ACCENT,AMPERSAND,APOSTROPHE,ASTERISK,BREVE,BROKEN BAR,CARON,CEDILLA,CENT SIGN",
    "CIRCUMFLEX ACCENT,COLON,COMMA,COMMERCIAL AT,COPYRIGHT SIGN,CURRENCY SIGN,DEGREE SIGN",
    "DIAERESIS,DIVISION SIGN,DOLLAR SIGN,DOT ABOVE,DOUBLE ACUTE ACCENT,EQUALS SIGN",
    "EXCLAMATION MARK,FEMININE ORDINAL INDICATOR,FULL STOP,GRAVE ACCENT,GREATER-THAN SIGN",
    "HYPHEN-MINUS,INVERTED EXCLAMATION MARK,INVERTED QUESTION MARK,LEFT CURLY BRACKET",
    "LEFT PARENTHESIS,LEFT SQUARE BRACKET,LEFT-FACING ARMENIAN ETERNITY SIGN",
    "LEFT-POINTING DOUBLE ANGLE QUOTATION MARK,LESS-THAN SIGN,LOW LINE,MACRON",
    "MASCULINE ORDINAL INDICATOR,MICRO SIGN,MIDDLE DOT,MULTIPLICATION SIGN,NO-BREAK SPACE",
    "NOT SIGN,NUMBER SIGN,OGONEK,PERCENT SIGN,PILCROW SIGN,PLUS SIGN,PLUS-MINUS SIGN,POUND SIGN",
    "QUESTION MARK,QUOTATION MARK,REGISTERED SIGN,REVERSE SOLIDUS,RIGHT CURLY BRACKET",
    "RIGHT PARENTHESIS,RIGHT SQUARE BRACKET,RIGHT-FACING ARMENIAN ETERNITY SIGN",
    "RIGHT-POINTING DOUBLE ANGLE QUOTATION MARK,RING ABOVE,SECTION SIGN,SEMICOLON",
    "SLAVONIC ASTERISK,SMALL TILDE,SOFT HYPHEN,SOLIDUS,SPACE,TILDE,VERTICAL LINE",
    "VULGAR FRACTION ONE HALF,VULGAR FRACTION ONE QUARTER,VULGAR FRACTION THREE QUARTERS",
    "YEN SIGN"]),
  (["ARMENIAN"], [
    "ABBREVIATION MARK,APOSTROPHE,COMMA,DRAM SIGN,EMPHASIS MARK,EXCLAMATION MARK,FULL STOP",
    "HYPHEN,MODIFIER LETTER LEFT HALF RING,QUESTION MARK"]),
  (["ARMENIAN CAPITAL LETTER"], [
    "AYB,BEN,CA,CHA,CHEH,CO,DA,ECH,EH,ET,FEH,GHAD,GIM,HO,INI,JA,JHEH,KEH,KEN,LIWN,MEN,NOW,OH,PEH",
    "PIWR,RA,REH,SEH,SHA,TIWN,TO,VEW,VO,XEH,YI,YIWN,ZA,ZHE"]),
  (["ARMENIAN SMALL LETTER"], [
    "AYB,BEN,CA,CHA,CHEH,CO,DA,ECH,EH,ET,FEH,GHAD,GIM,HO,INI,JA,JHEH,KEH,KEN,LIWN,MEN,NOW,OH,PEH",
    "PIWR,RA,REH,SEH,SHA,TIWN,TO,TURNED AYB,VEW,VO,XEH,YI,YI WITH STROKE,YIWN,ZA,ZHE"]),
  (["ARMENIAN SMALL LIGATURE"], ["ECH YIWN,MEN ECH,MEN INI,MEN NOW,MEN XEH,VEW NOW"]),
  (["CARIAN LETTER"], [
    "A,A2,B,C-18,C-39,D,D2,E,E2,G,G2,I,II,K,K2,L,LD,LD2,M,MB,MB2..MB4,N,ND,NG,NN,O,P,P2,Q,R,RR,S",
    "SH,SH2,SS,ST,ST2,T,TT,TT2,U,UU,UUU,UUU2,UUU3,UUUU,X"]),
  (["CAUCASIAN ALBANIAN"], ["CITATION MARK"]),
  (["CAUCASIAN ALBANIAN LETTER"], [
    "ALT,AOR,BET,CAR,CAYN,CHA,CHAT,CHI,CHOY,CYAW,CYAY,DAT,DYAN,DZAY,DZYAY,EB,EYN,FAM,GHEYS,GIM",
    "HEYT,INYA,IRB,IWN,JAYN,JHOX,KAR,KIW,LAN,LYIT,MAQ,NOWC,ON,PEN,PIWR,QAR,QAY,RAT,SEYK,SHA,SHAK",
    "SHOY,TAS,TIWR,TYAY,VEYZ,XEYN,YAYD,YOWD,ZARL,ZHA,ZHIL"]),
  (["COMBINING"], [
    "ACUTE ACCENT,ACUTE ACCENT BELOW,ACUTE TONE MARK,ACUTE-GRAVE-ACUTE,ACUTE-MACRON",
    "ALMOST EQUAL TO ABOVE,ALMOST EQUAL TO BELOW,ASTERISK BELOW,BREVE,BREVE BELOW,BREVE-MACRON",
    "BRIDGE ABOVE,BRIDGE BELOW,CANDRABINDU,CARON,CARON BELOW,CEDILLA,CIRCUMFLEX ACCENT",
    "CIRCUMFLEX ACCENT BELOW,COMMA ABOVE,COMMA ABOVE RIGHT,COMMA BELOW,CONJOINING MACRON",
    "CONJOINING MACRON BELOW,DELETION MARK,DIAERESIS,DIAERESIS BELOW,DIAERESIS-RING,DOT ABOVE",
    "DOT ABOVE LEFT,DOT ABOVE RIGHT,DOT BELOW,DOT BELOW LEFT,DOTTED ACUTE ACCENT",
    "DOTTED GRAVE ACCENT,DOUBLED CIRCUMFLEX ACCENT,DOWN TACK BELOW,DOWNWARDS ARROW",
    "EQUALS SIGN BELOW,FERMATA,GRAPHEME JOINER,GRAVE ACCENT,GRAVE ACCENT BELOW,GRAVE TONE MARK",
    "GRAVE-ACUTE-GRAVE,GRAVE-MACRON,GREEK DIALYTIKA TONOS,GREEK KORONIS,GREEK PERISPOMENI",
    "GREEK YPOGEGRAMMENI,HOMOTHETIC ABOVE,HOOK ABOVE,HORN,INFINITY,IS BELOW,KAVYKA ABOVE LEFT",
    "KAVYKA ABOVE RIGHT,LIGATURE LEFT HALF,LIGATURE LEFT HALF BELOW,LIGATURE RIGHT HALF",
    "LIGATURE RIGHT HALF BELOW,LIGHT CENTRALIZATION STROKE BELOW,LONG SOLIDUS OVERLAY",
    "LONG STROKE OVERLAY,LOW LINE,MACRON,MACRON-ACUTE,MACRON-BREVE,MACRON-GRAVE,MINUS SIGN BELOW",
    "NOT TILDE ABOVE,NUMBER SIGN ABOVE,OGONEK,OGONEK ABOVE,OLD PERMIC LETTER AN",
    "OLD PERMIC LETTER DOI,OLD PERMIC LETTER NENOE,OLD PERMIC LETTER SII,OLD PERMIC LETTER ZATA",
    "OPEN MARK BELOW,OVERLINE,PALATALIZED HOOK BELOW,PARENTHESES ABOVE,PARENTHESES BELOW",
    "PARENTHESES OVERLAY,PLUS SIGN ABOVE,PLUS SIGN BELOW,RETROFLEX HOOK BELOW",
    "REVERSED COMMA ABOVE,RING ABOVE,RING BELOW,SEAGULL BELOW,SHORT SOLIDUS OVERLAY",
    "SHORT STROKE OVERLAY,SNAKE BELOW,SQUARE BELOW,SQUARE BRACKETS ABOVE",
    "STRONG CENTRALIZATION STROKE BELOW,SUSPENSION MARK,TILDE,TILDE BELOW,TILDE LEFT HALF BELOW",
    "TILDE OVERLAY,TILDE RIGHT HALF BELOW,TRIPLE ACUTE ACCENT,TRIPLE DOT,TURNED COMMA ABOVE",
    "UP TACK ABOVE,UP TACK BELOW,UPWARDS ARROW BELOW,UR ABOVE,US ABOVE,VERTICAL LINE ABOVE",
    "VERTICAL LINE BELOW,VERTICAL TILDE,WIDE INVERTED BRIDGE BELOW,WIGGLY LINE BELOW,X ABOVE",
    "X BELOW,X-X BELOW,ZIGZAG ABOVE,ZIGZAG BELOW"]),
  (["COMBINING CYRILLIC"], [
    "DASIA PNEUMATA,HUNDRED MILLIONS SIGN,HUNDRED THOUSANDS SIGN,KAVYKA,MILLIONS SIGN",
    "PALATALIZATION,PAYEROK,POKRYTIE,PSILI PNEUMATA,TEN MILLIONS SIGN,THOUSAND MILLIONS SIGN",
    "TITLO,TITLO LEFT HALF,TITLO RIGHT HALF,VZMET"]),
  (["COMBINING CYRILLIC LETTER"], [
    "A,BE,BIG YUS,CHE,DE,DJERV,EF,EL,EM,EN,ER,ES,ES-TE,FITA,GHE,HA,HARD SIGN,I,IE,IOTIFIED A",
    "IOTIFIED BIG YUS,IOTIFIED E,KA,LITTLE YUS,MONOGRAPH UK,O,OMEGA,PE,SHA,SHCHA,SOFT SIGN,TE",
    "TSE,U,UKRAINIAN IE,VE,YAT,YERU,YI,YU,ZE,ZHE"]),
  (["COMBINING DOUBLE"], [
    "ACUTE ACCENT,BREVE,BREVE BELOW,CIRCUMFLEX ABOVE,GRAVE ACCENT,INVERTED BREVE",
    "INVERTED BREVE BELOW,LOW LINE,MACRON,MACRON BELOW,OPEN MARK BELOW,OVERLINE",
    "PARENTHESES ABOVE,PLUS SIGN ABOVE,PLUS SIGN BELOW,RIGHTWARDS ARROW BELOW,RING BELOW,TILDE",
    "TILDE LEFT HALF,TILDE RIGHT HALF,VERTICAL LINE ABOVE,VERTICAL LINE BELOW"]),
  (["COMBINING GLAGOLITIC LETTER"], [
    "AZU,BIG YUS,BUKY,CHRIVI,DJERVI,DOBRO,FITA,FRITU,GLAGOLI,HERU,I,INITIAL IZHE,IOTATED BIG YUS",
    "IOTATED SMALL YUS,IZHE,KAKO,LJUDIJE,MYSLITE,NASHI,ONU,POKOJI,RITSI,SHA,SHTA,SLOVO,SMALL YUS",
    "TSI,TVRIDO,UKU,VEDE,YATI,YERI,YERU,YESTU,YO,YU,ZEMLJA,ZHIVETE"]),
  (["COMBINING INVERTED"], [
    "BREVE,BREVE BELOW,BRIDGE BELOW,DOUBLE ARCH ABOVE,DOUBLE ARCH BELOW"]),
  (["COMBINING LATIN"], [
    "LETTER SMALL CAPITAL G,LETTER SMALL CAPITAL L,LETTER SMALL CAPITAL M,LETTER SMALL CAPITAL N",
    "LETTER SMALL CAPITAL R"]),
  (["COMBINING LATIN SMALL LETTER"], [
    "A,A WITH DIAERESIS,AE,ALPHA,AO,AV,B,BETA,C,C CEDILLA,D,E,ESH,ETH,F,FLATTENED OPEN A ABOVE,G",
    "H,I,INSULAR D,INSULAR G,INSULAR R,INSULAR T,K,L,L WITH DOUBLE MIDDLE TILDE,LONG S,M,N,O",
    "O WITH DIAERESIS,O WITH LIGHT CENTRALIZATION STROKE,P,R,R BELOW,R ROTUNDA,S,SCHWA,T",
    "TURNED W BELOW,U,U WITH DIAERESIS,U WITH LIGHT CENTRALIZATION STROKE,V,W,W BELOW,X,Z"]),
  (["COMBINING LEFT"], [
    "ANGLE ABOVE,ANGLE BELOW,ARROWHEAD ABOVE,ARROWHEAD BELOW,HALF RING ABOVE,HALF RING BELOW",
    "PARENTHESIS ABOVE LEFT,PARENTHESIS BELOW LEFT,RIGHT ARROW BELOW,TACK BELOW"]),
  (["COMBINING MACRON"], ["BELOW,LEFT HALF,LEFT HALF BELOW,RIGHT HALF,RIGHT HALF BELOW"]),
  (["COMBINING RIGHT"], [
    "ARROWHEAD ABOVE,ARROWHEAD AND DOWN ARROWHEAD BELOW,ARROWHEAD AND UP ARROWHEAD BELOW",
    "ARROWHEAD BELOW,HALF RING ABOVE,HALF RING BELOW,PARENTHESIS ABOVE RIGHT",
    "PARENTHESIS BELOW RIGHT,TACK BELOW"]),
  (["COPTIC"], [
    "COMBINING NI ABOVE,COMBINING SPIRITUS ASPER,COMBINING SPIRITUS LENIS,FRACTION ONE HALF",
    "FULL STOP,MORPHOLOGICAL DIVIDER,OLD NUBIAN DIRECT QUESTION MARK,OLD NUBIAN FULL STOP",
    "OLD NUBIAN INDIRECT QUESTION MARK,OLD NUBIAN VERSE DIVIDER"]),
  (["COPTIC CAPITAL LETTER", "COPTIC SMALL LETTER"], [
    "AKHMIMIC KHEI,ALFA,BOHAIRIC KHEI,CROSSED SHEI,DALDA,DEI,DIALECT-P ALEF,DIALECT-P HORI",
    "DIALECT-P KAPA,DIALECT-P NI,EIE,FEI,FI,GAMMA,GANGIA,HATE,HORI,IAUDA,KAPA,KHEI,KHI,KSI",
    "L-SHAPED HA,LAULA,MI,NI,O,OOU,PI,PSI,RO,SAMPI,SHEI,SHIMA,SIMA,SOU,TAU,THETHE,UA,VIDA,ZATA"]),
  (["COPTIC CAPITAL LETTER CRYPTOGRAMMIC", "COPTIC SMALL LETTER CRYPTOGRAMMIC"], [
    "EIE,GANGIA,NI,SHEI"]),
  (["COPTIC CAPITAL LETTER OLD", "COPTIC SMALL LETTER OLD"], [
    "NUBIAN NGI,NUBIAN NYI,NUBIAN SHIMA,NUBIAN WAU"]),
  (["COPTIC CAPITAL LETTER OLD COPTIC", "COPTIC SMALL LETTER OLD COPTIC"], [
    "AIN,DJA,ESH,GANGIA,HA,HAT,HEI,HORI,OOU,SHEI,SHIMA"]),
  (["COPTIC EPACT"], ["THOUSANDS MARK"]),
  (["COPTIC EPACT DIGIT"], ["EIGHT,FIVE,FOUR,NINE,ONE,SEVEN,SIX,THREE,TWO"]),
  (["COPTIC EPACT NUMBER"], [
    "EIGHT HUNDRED,EIGHTY,FIFTY,FIVE HUNDRED,FORTY,FOUR HUNDRED,NINE HUNDRED,NINETY,ONE HUNDRED",
    "SEVEN HUNDRED,SEVENTY,SIX HUNDRED,SIXTY,TEN,THIRTY,THREE HUNDRED,TWENTY,TWO HUNDRED"]),
  (["COPTIC SYMBOL"], ["KAI,KHI RO,MI RO,PI RO,SHIMA SIMA,STAUROS,TAU RO"]),
  (["CYRILLIC"], [
    "KAVYKA,LETTER MULTIOCULAR O,LETTER PALOCHKA,LETTER SMALL CAPITAL EL,PAYEROK,THOUSANDS SIGN"]),
  (["CYRILLIC CAPITAL", "CYRILLIC SMALL"], ["LIGATURE A IE,LIGATURE EN GHE,LIGATURE TE TSE"]),
  (["CYRILLIC CAPITAL LETTER"], [
    "A,A WITH BREVE,A WITH DIAERESIS,ABKHASIAN CHE,ABKHASIAN CHE WITH DESCENDER,ABKHASIAN DZE",
    "ABKHASIAN HA,ALEUT KA,BARRED O,BARRED O WITH DIAERESIS,BASHKIR KA,BE,BIG YUS,BINOCULAR O",
    "BLENDED YUS,BROAD OMEGA,BYELORUSSIAN-UKRAINIAN I,CCHE,CHE,CHE WITH DESCENDER",
    "CHE WITH DIAERESIS,CHE WITH VERTICAL STROKE,CLOSED LITTLE YUS,CROSSED O,DCHE,DE,DJE,DJERV",
    "DOUBLE MONOCULAR O,DOUBLE O,DWE,DZE,DZELO,DZHE,DZWE,DZZE,DZZHE,E,E WITH DIAERESIS,EF,EL",
    "EL WITH DESCENDER,EL WITH HOOK,EL WITH MIDDLE HOOK,EL WITH TAIL,EM,EM WITH TAIL,EN",
    "EN WITH DESCENDER,EN WITH HOOK,EN WITH LEFT HOOK,EN WITH MIDDLE HOOK,EN WITH TAIL,ER",
    "ER WITH TICK,ES,ES WITH DESCENDER,FITA,GHE,GHE WITH DESCENDER,GHE WITH MIDDLE HOOK",
    "GHE WITH STROKE,GHE WITH STROKE AND HOOK,GHE WITH UPTURN,GJE,HA,HA WITH DESCENDER",
    "HA WITH HOOK,HA WITH STROKE,HARD SIGN,HWE,I,I WITH DIAERESIS,I WITH GRAVE,I WITH MACRON,IE",
    "IE WITH BREVE,IE WITH GRAVE,IO,IOTA,IZHITSA,IZHITSA WITH DOUBLE GRAVE ACCENT,JE,KA",
    "KA WITH DESCENDER,KA WITH HOOK,KA WITH STROKE,KA WITH VERTICAL STROKE,KHAKASSIAN CHE,KJE",
    "KOMI DE,KOMI DJE,KOMI DZJE,KOMI LJE,KOMI NJE,KOMI SJE,KOMI TJE,KOMI ZJE,KOPPA,KSI,LHA",
    "LITTLE YUS,LJE,MONOCULAR O,MONOGRAPH UK,NEUTRAL YER,NJE,O,O WITH DIAERESIS,OMEGA",
    "OMEGA WITH TITLO,OT,PE,PE WITH DESCENDER,PE WITH MIDDLE HOOK,PSI,QA,REVERSED DZE",
    "REVERSED TSE,REVERSED YU,REVERSED ZE,RHA,ROUND OMEGA,SCHWA,SCHWA WITH DIAERESIS",
    "SEMISOFT SIGN,SHA,SHCHA,SHHA,SHHA WITH DESCENDER,SHORT I,SHORT I WITH TAIL,SHORT U,SHWE",
    "SOFT DE,SOFT EL,SOFT EM,SOFT SIGN,STRAIGHT U,STRAIGHT U WITH STROKE,TCHE,TE",
    "TE WITH DESCENDER,TE WITH MIDDLE HOOK,TSE,TSHE,TSSE,TSWE,TWE,U,U WITH DIAERESIS",
    "U WITH DOUBLE ACUTE,U WITH MACRON,UK,UKRAINIAN IE,VE,WE,YA,YAE,YAT,YERU,YERU WITH BACK YER",
    "YERU WITH DIAERESIS,YI,YN,YU,ZE,ZE WITH DESCENDER,ZE WITH DIAERESIS,ZEMLYA,ZHE",
    "ZHE WITH BREVE,ZHE WITH DESCENDER,ZHE WITH DIAERESIS,ZHWE"]),
  (["CYRILLIC CAPITAL LETTER IOTIFIED", "CYRILLIC SMALL LETTER IOTIFIED"], [
    "A,BIG YUS,CLOSED LITTLE YUS,E,LITTLE YUS,YAT"]),
  (["CYRILLIC SMALL LETTER"], [
    "A,A WITH BREVE,A WITH DIAERESIS,ABKHASIAN CHE,ABKHASIAN CHE WITH DESCENDER,ABKHASIAN DZE",
    "ABKHASIAN HA,ALEUT KA,BARRED O,BARRED O WITH DIAERESIS,BASHKIR KA,BE,BIG YUS,BINOCULAR O",
    "BLENDED YUS,BROAD OMEGA,BYELORUSSIAN-UKRAINIAN I,CCHE,CHE,CHE WITH DESCENDER",
    "CHE WITH DIAERESIS,CHE WITH VERTICAL STROKE,CLOSED LITTLE YUS,CROSSED O,DCHE,DE,DJE,DJERV",
    "DOUBLE MONOCULAR O,DOUBLE O,DWE,DZE,DZELO,DZHE,DZWE,DZZE,DZZHE,E,E WITH DIAERESIS,EF,EL",
    "EL WITH DESCENDER,EL WITH HOOK,EL WITH MIDDLE HOOK,EL WITH TAIL,EM,EM WITH TAIL,EN",
    "EN WITH DESCENDER,EN WITH HOOK,EN WITH LEFT HOOK,EN WITH MIDDLE HOOK,EN WITH TAIL,ER",
    "ER WITH TICK,ES,ES WITH DESCENDER,FITA,GHE,GHE WITH DESCENDER,GHE WITH MIDDLE HOOK",
    "GHE WITH STROKE,GHE WITH STROKE AND HOOK,GHE WITH UPTURN,GJE,HA,HA WITH DESCENDER",
    "HA WITH HOOK,HA WITH STROKE,HARD SIGN,HWE,I,I WITH DIAERESIS,I WITH GRAVE,I WITH MACRON,IE",
    "IE WITH BREVE,IE WITH GRAVE,IO,IOTA,IZHITSA,IZHITSA WITH DOUBLE GRAVE ACCENT,JE,KA",
    "KA WITH DESCENDER,KA WITH HOOK,KA WITH STROKE,KA WITH VERTICAL STROKE,KHAKASSIAN CHE,KJE",
    "KOMI DE,KOMI DJE,KOMI DZJE,KOMI LJE,KOMI NJE,KOMI SJE,KOMI TJE,KOMI ZJE,KOPPA,KSI,LHA",
    "LITTLE YUS,LJE,LONG-LEGGED DE,MONOCULAR O,MONOGRAPH UK,NARROW O,NEUTRAL YER,NJE,O",
    "O WITH DIAERESIS,OMEGA,OMEGA WITH TITLO,OT,PALOCHKA,PE,PE WITH DESCENDER",
    "PE WITH MIDDLE HOOK,PSI,QA,REVERSED DZE,REVERSED TSE,REVERSED YU,REVERSED ZE,RHA",
    "ROUND OMEGA,ROUNDED VE,SCHWA,SCHWA WITH DIAERESIS,SEMISOFT SIGN,SHA,SHCHA,SHHA",
    "SHHA WITH DESCENDER,SHORT I,SHORT I WITH TAIL,SHORT U,SHWE,SOFT DE,SOFT EL,SOFT EM",
    "SOFT SIGN,STRAIGHT U,STRAIGHT U WITH STROKE,TALL HARD SIGN,TALL TE,TALL YAT,TCHE,TE",
    "TE WITH DESCENDER,TE WITH MIDDLE HOOK,THREE-LEGGED TE,TSE,TSHE,TSSE,TSWE,TWE,U",
    "U WITH DIAERESIS,U WITH DOUBLE ACUTE,U WITH MACRON,UK,UKRAINIAN IE,UNBLENDED UK,VE,WE",
    "WIDE ES,YA,YAE,YAT,YERU,YERU WITH BACK YER,YERU WITH DIAERESIS,YI,YN,YU,ZE",
    "ZE WITH DESCENDER,ZE WITH DIAERESIS,ZEMLYA,ZHE,ZHE WITH BREVE,ZHE WITH DESCENDER",
    "ZHE WITH DIAERESIS,ZHWE"]),
  (["DIGIT"], ["EIGHT,FIVE,FOUR,NINE,ONE,SEVEN,SIX,THREE,TWO,ZERO"]),
  (["ELBASAN LETTER"], [
    "A,BE,CE,CHE,DE,DHE,E,EI,FE,GE,GHAMMA,GHE,GJE,HE,I,JE,KE,KHE,LE,LLE,ME,NA,NDE,NE,NJE,O,PE,QE",
    "RE,RRE,SE,SHE,TE,THE,U,VE,XE,Y,ZE,ZHE"]),
  (["GEORGIAN"], ["PARAGRAPH SEPARATOR"]),
  (["GEORGIAN CAPITAL LETTER", "GEORGIAN SMALL LETTER"], [
    "AEN,AN,BAN,CAN,CHAR,CHIN,CIL,DON,EN,GAN,GHAN,HAE,HAR,HE,HIE,HOE,IN,JHAN,JIL,KAN,KHAR,LAS",
    "MAN,NAR,ON,PAR,PHAR,QAR,RAE,SAN,SHIN,TAN,TAR,UN,VIN,WE,XAN,YN,ZEN,ZHAR"]),
  (["GEORGIAN LETTER", "GEORGIAN MTAVRULI CAPITAL LETTER"], [
    "AEN,AIN,AN,BAN,CAN,CHAR,CHIN,CIL,DON,ELIFI,EN,FI,GAN,GHAN,HAE,HAR,HARD SIGN,HE,HIE,HOE,IN",
    "JHAN,JIL,KAN,KHAR,LABIAL SIGN,LAS,MAN,NAR,ON,PAR,PHAR,QAR,RAE,SAN,SHIN,TAN,TAR,TURNED GAN",
    "UN,VIN,WE,XAN,YN,ZEN,ZHAR"]),
  (["GLAGOLITIC CAPITAL LETTER", "GLAGOLITIC SMALL LETTER"], [
    "AZU,BIG YUS,BUKY,CAUDATE CHRIVI,CHRIVI,DJERVI,DOBRO,DZELO,FITA,FRITU,GLAGOLI,HERU,I",
    "INITIAL IZHE,IOTATED BIG YUS,IOTATED SMALL YUS,IZHE,IZHITSA,KAKO,LATINATE MYSLITE,LJUDIJE",
    "MYSLITE,NASHI,ONU,OTU,PE,POKOJI,RITSI,SHA,SHTA,SHTAPIC,SLOVO,SMALL YUS,SMALL YUS WITH TAIL",
    "SPIDERY HA,TROKUTASTI A,TSI,TVRIDO,UKU,VEDE,YATI,YERI,YERU,YESTU,YO,YU,ZEMLJA,ZHIVETE"]),
  (["GOTHIC LETTER"], [
    "AHSA,AIHVUS,BAIRKAN,DAGS,EIS,FAIHU,GIBA,HAGL,HWAIR,IGGWS,IUJA,JER,KUSMA,LAGUS,MANNA,NAUTHS",
    "NINE HUNDRED,NINETY,OTHAL,PAIRTHRA,QAIRTHRA,RAIDA,SAUIL,TEIWS,THIUTH,URUS,WINJA"]),
  (["GREEK"], [
    "ANO TELEIA,BETA SYMBOL,DASIA,DASIA AND OXIA,DASIA AND PERISPOMENI,DASIA AND VARIA",
    "KAI SYMBOL,KAPPA SYMBOL,KORONIS,LOWER NUMERAL SIGN,LUNATE EPSILON SYMBOL",
    "LUNATE SIGMA SYMBOL,NUMERAL SIGN,OXIA,PERISPOMENI,PHI SYMBOL,PI SYMBOL,PROSGEGRAMMENI,PSILI",
    "PSILI AND OXIA,PSILI AND PERISPOMENI,PSILI AND VARIA,QUESTION MARK",
    "REVERSED LUNATE EPSILON SYMBOL,RHO SYMBOL,RHO WITH STROKE SYMBOL,THETA SYMBOL,TONOS",
    "UPSILON WITH ACUTE AND HOOK SYMBOL,UPSILON WITH DIAERESIS AND HOOK SYMBOL",
    "UPSILON WITH HOOK SYMBOL,VARIA,YPOGEGRAMMENI"]),
  (["GREEK CAPITAL"], [
    "DOTTED LUNATE SIGMA SYMBOL,KAI SYMBOL,LUNATE SIGMA SYMBOL",
    "REVERSED DOTTED LUNATE SIGMA SYMBOL,REVERSED LUNATE SIGMA SYMBOL,THETA SYMBOL"]),
  (["GREEK CAPITAL LETTER"], [
    "ALPHA,ARCHAIC SAMPI,BETA,CHI,DELTA,EPSILON,ETA,GAMMA,HETA,IOTA,KAPPA,LAMDA,MU,NU,OMEGA",
    "OMICRON,PAMPHYLIAN DIGAMMA,PHI,PI,PSI,RHO,RHO WITH DASIA,SAN,SHO,SIGMA,TAU,THETA,UPSILON,XI",
    "YOT,ZETA"]),
  (["GREEK CAPITAL LETTER ALPHA WITH"], [
    "DASIA,DASIA AND OXIA,DASIA AND OXIA AND PROSGEGRAMMENI,DASIA AND PERISPOMENI",
    "DASIA AND PERISPOMENI AND PROSGEGRAMMENI,DASIA AND PROSGEGRAMMENI,DASIA AND VARIA",
    "DASIA AND VARIA AND PROSGEGRAMMENI,MACRON,OXIA,PROSGEGRAMMENI,PSILI,PSILI AND OXIA",
    "PSILI AND OXIA AND PROSGEGRAMMENI,PSILI AND PERISPOMENI",
    "PSILI AND PERISPOMENI AND PROSGEGRAMMENI,PSILI AND PROSGEGRAMMENI,PSILI AND VARIA",
    "PSILI AND VARIA AND PROSGEGRAMMENI,TONOS,VARIA,VRACHY"]),
  (["GREEK CAPITAL LETTER EPSILON", "GREEK CAPITAL LETTER OMICRON", "GREEK SMALL LETTER EPSILON",
    "GREEK SMALL LETTER OMICRON"], [
    "WITH DASIA,WITH DASIA AND OXIA,WITH DASIA AND VARIA,WITH OXIA,WITH PSILI",
    "WITH PSILI AND OXIA,WITH PSILI AND VARIA,WITH TONOS,WITH VARIA"]),
  (["GREEK CAPITAL LETTER ETA WITH", "GREEK CAPITAL LETTER OMEGA WITH"], [
    "DASIA,DASIA AND OXIA,DASIA AND OXIA AND PROSGEGRAMMENI,DASIA AND PERISPOMENI",
    "DASIA AND PERISPOMENI AND PROSGEGRAMMENI,DASIA AND PROSGEGRAMMENI,DASIA AND VARIA",
    "DASIA AND VARIA AND PROSGEGRAMMENI,OXIA,PROSGEGRAMMENI,PSILI,PSILI AND OXIA",
    "PSILI AND OXIA AND PROSGEGRAMMENI,PSILI AND PERISPOMENI",
    "PSILI AND PERISPOMENI AND PROSGEGRAMMENI,PSILI AND PROSGEGRAMMENI,PSILI AND VARIA",
    "PSILI AND VARIA AND PROSGEGRAMMENI,TONOS,VARIA"]),
  (["GREEK CAPITAL LETTER IOTA WITH"], [
    "DASIA,DASIA AND OXIA,DASIA AND PERISPOMENI,DASIA AND VARIA,DIALYTIKA,MACRON,OXIA,PSILI",
    "PSILI AND OXIA,PSILI AND PERISPOMENI,PSILI AND VARIA,TONOS,VARIA,VRACHY"]),
  (["GREEK CAPITAL LETTER UPSILON"], [
    "WITH DASIA,WITH DASIA AND OXIA,WITH DASIA AND PERISPOMENI,WITH DASIA AND VARIA",
    "WITH DIALYTIKA,WITH MACRON,WITH OXIA,WITH TONOS,WITH VARIA,WITH VRACHY"]),
  (["GREEK DIALYTIKA"], ["AND OXIA,AND PERISPOMENI,AND VARIA,TONOS"]),
  (["GREEK LETTER"], ["ARCHAIC KOPPA,DIGAMMA,KOPPA,SAMPI,STIGMA,YOT"]),
  (["GREEK LETTER SMALL CAPITAL"], ["GAMMA,LAMDA,OMEGA,PI,PSI,RHO"]),
  (["GREEK SMALL"], [
    "DOTTED LUNATE SIGMA SYMBOL,REVERSED DOTTED LUNATE SIGMA SYMBOL,REVERSED LUNATE SIGMA SYMBOL"]),
  (["GREEK SMALL LETTER"], [
    "ALPHA,ARCHAIC KOPPA,ARCHAIC SAMPI,BETA,CHI,DELTA,DIGAMMA,EPSILON,ETA,FINAL SIGMA,GAMMA,HETA",
    "IOTA,KAPPA,KOPPA,LAMDA,MU,NU,OMEGA,OMICRON,PAMPHYLIAN DIGAMMA,PHI,PI,PSI,RHO,RHO WITH DASIA",
    "RHO WITH PSILI,SAMPI,SAN,SHO,SIGMA,STIGMA,TAU,THETA,UPSILON,XI,ZETA"]),
  (["GREEK SMALL LETTER ALPHA WITH"], [
    "DASIA,DASIA AND OXIA,DASIA AND OXIA AND YPOGEGRAMMENI,DASIA AND PERISPOMENI",
    "DASIA AND PERISPOMENI AND YPOGEGRAMMENI,DASIA AND VARIA,DASIA AND VARIA AND YPOGEGRAMMENI",
    "DASIA AND YPOGEGRAMMENI,MACRON,OXIA,OXIA AND YPOGEGRAMMENI,PERISPOMENI",
    "PERISPOMENI AND YPOGEGRAMMENI,PSILI,PSILI AND OXIA,PSILI AND OXIA AND YPOGEGRAMMENI",
    "PSILI AND PERISPOMENI,PSILI AND PERISPOMENI AND YPOGEGRAMMENI,PSILI AND VARIA",
    "PSILI AND VARIA AND YPOGEGRAMMENI,PSILI AND YPOGEGRAMMENI,TONOS,VARIA",
    "VARIA AND YPOGEGRAMMENI,VRACHY,YPOGEGRAMMENI"]),
  (["GREEK SMALL LETTER ETA WITH", "GREEK SMALL LETTER OMEGA WITH"], [
    "DASIA,DASIA AND OXIA,DASIA AND OXIA AND YPOGEGRAMMENI,DASIA AND PERISPOMENI",
    "DASIA AND PERISPOMENI AND YPOGEGRAMMENI,DASIA AND VARIA,DASIA AND VARIA AND YPOGEGRAMMENI",
    "DASIA AND YPOGEGRAMMENI,OXIA,OXIA AND YPOGEGRAMMENI,PERISPOMENI",
    "PERISPOMENI AND YPOGEGRAMMENI,PSILI,PSILI AND OXIA,PSILI AND OXIA AND YPOGEGRAMMENI",
    "PSILI AND PERISPOMENI,PSILI AND PERISPOMENI AND YPOGEGRAMMENI,PSILI AND VARIA",
    "PSILI AND VARIA AND YPOGEGRAMMENI,PSILI AND YPOGEGRAMMENI,TONOS,VARIA",
    "VARIA AND YPOGEGRAMMENI,YPOGEGRAMMENI"]),
  (["GREEK SMALL LETTER IOTA WITH", "GREEK SMALL LETTER UPSILON WITH"], [
    "DASIA,DASIA AND OXIA,DASIA AND PERISPOMENI,DASIA AND VARIA,DIALYTIKA,DIALYTIKA AND OXIA",
    "DIALYTIKA AND PERISPOMENI,DIALYTIKA AND TONOS,DIALYTIKA AND VARIA,MACRON,OXIA,PERISPOMENI",
    "PSILI,PSILI AND OXIA,PSILI AND PERISPOMENI,PSILI AND VARIA,TONOS,VARIA,VRACHY"]),
  (["GREEK SUBSCRIPT"], [
    "SMALL LETTER BETA,SMALL LETTER CHI,SMALL LETTER GAMMA,SMALL LETTER PHI,SMALL LETTER RHO"]),
  (["LATIN CAPITAL"], ["LIGATURE IJ,LIGATURE OE"]),
  (["LATIN CAPITAL LETTER"], [
    "A,AA,AE,AE WITH ACUTE,AE WITH MACRON,AFRICAN D,ALPHA,ANGLICANA W,AO,AU,AV",
    "AV WITH HORIZONTAL BAR,AY,B,B WITH DOT ABOVE,B WITH DOT BELOW,B WITH FLOURISH,B WITH HOOK",
    "B WITH LINE BELOW,B WITH STROKE,B WITH TOPBAR,BETA,BROKEN L,C,C WITH ACUTE,C WITH BAR",
    "C WITH CARON,C WITH CEDILLA,C WITH CEDILLA AND ACUTE,C WITH CIRCUMFLEX,C WITH DOT ABOVE",
    "C WITH HOOK,C WITH PALATAL HOOK,C WITH STROKE,CHI,CLOSED INSULAR G,CON,CUATRILLO",
    "CUATRILLO WITH COMMA,D,D WITH CARON,D WITH CEDILLA,D WITH CIRCUMFLEX BELOW,D WITH DOT ABOVE",
    "D WITH DOT BELOW,D WITH HOOK,D WITH LINE BELOW,D WITH SHORT STROKE OVERLAY",
    "D WITH SMALL LETTER Z,D WITH SMALL LETTER Z WITH CARON,D WITH STROKE,D WITH TOPBAR,DZ",
    "DZ WITH CARON,E,EGYPTOLOGICAL AIN,EGYPTOLOGICAL ALEF,ENG,ESH,ET,ETH,EZH,EZH REVERSED",
    "EZH WITH CARON,F,F WITH DOT ABOVE,F WITH HOOK,F WITH STROKE,G,G WITH ACUTE,G WITH BREVE",
    "G WITH CARON,G WITH CEDILLA,G WITH CIRCUMFLEX,G WITH DOT ABOVE,G WITH HOOK,G WITH MACRON",
    "G WITH OBLIQUE STROKE,G WITH STROKE,GAMMA,GLOTTAL A,GLOTTAL I,GLOTTAL STOP,GLOTTAL U,H",
    "H WITH BREVE BELOW,H WITH CARON,H WITH CEDILLA,H WITH CIRCUMFLEX,H WITH DESCENDER",
    "H WITH DIAERESIS,H WITH DOT ABOVE,H WITH DOT BELOW,H WITH HOOK,H WITH STROKE,HALF H,HENG",
    "HWAIR,I,INSULAR D,INSULAR F,INSULAR G,INSULAR R,INSULAR S,INSULAR T,IOTA,IS,J",
    "J WITH CIRCUMFLEX,J WITH CROSSED-TAIL,J WITH STROKE,K,K WITH ACUTE,K WITH CARON",
    "K WITH CEDILLA,K WITH DESCENDER,K WITH DIAGONAL STROKE,K WITH DOT BELOW,K WITH HOOK",
    "K WITH LINE BELOW,K WITH OBLIQUE STROKE,K WITH STROKE,K WITH STROKE AND DIAGONAL STROKE,L",
    "LJ,M,M WITH ACUTE,M WITH DOT ABOVE,M WITH DOT BELOW,M WITH HOOK,MIDDLE SCOTS S",
    "MIDDLE-WELSH LL,MIDDLE-WELSH V,N,NJ,O,OI,OLD POLISH O,OMEGA,OO,OPEN E,OPEN O,OU,P",
    "P WITH ACUTE,P WITH DOT ABOVE,P WITH FLOURISH,P WITH HOOK,P WITH SQUIRREL TAIL",
    "P WITH STROKE,P WITH STROKE THROUGH DESCENDER,Q,Q WITH DIAGONAL STROKE",
    "Q WITH STROKE THROUGH DESCENDER,R,R ROTUNDA,R WITH ACUTE,R WITH CARON,R WITH CEDILLA",
    "R WITH DOT ABOVE,R WITH DOT BELOW,R WITH DOT BELOW AND MACRON,R WITH DOUBLE GRAVE",
    "R WITH INVERTED BREVE,R WITH LINE BELOW,R WITH OBLIQUE STROKE,R WITH STROKE,R WITH TAIL",
    "REVERSED C WITH DOT,REVERSED E,REVERSED HALF H,REVERSED OPEN E,RUM ROTUNDA,S,SALTILLO,SCHWA",
    "SCRIPT G,SHARP S,SIGMOID S,SMALL CAPITAL I,SMALL Q WITH HOOK TAIL,T,T WITH CARON",
    "T WITH CEDILLA,T WITH CIRCUMFLEX BELOW,T WITH COMMA BELOW,T WITH DIAGONAL STROKE",
    "T WITH DOT ABOVE,T WITH DOT BELOW,T WITH HOOK,T WITH LINE BELOW,T WITH RETROFLEX HOOK",
    "T WITH STROKE,THORN,THORN WITH STROKE,THORN WITH STROKE THROUGH DESCENDER,TONE FIVE",
    "TONE SIX,TONE TWO,TRESILLO,TZ,U,UPSILON,V,V WITH DIAGONAL STROKE,V WITH DOT BELOW",
    "V WITH HOOK,V WITH TILDE,VEND,VISIGOTHIC Z,VOLAPUK AE,VOLAPUK OE,VOLAPUK UE,VY,W",
    "W WITH ACUTE,W WITH CIRCUMFLEX,W WITH DIAERESIS,W WITH DOT ABOVE,W WITH DOT BELOW",
    "W WITH GRAVE,W WITH HOOK,WYNN,X,X WITH DIAERESIS,X WITH DOT ABOVE,Y,Y WITH ACUTE",
    "Y WITH CIRCUMFLEX,Y WITH DIAERESIS,Y WITH DOT ABOVE,Y WITH DOT BELOW,Y WITH GRAVE",
    "Y WITH HOOK,Y WITH HOOK ABOVE,Y WITH LOOP,Y WITH MACRON,Y WITH STROKE,Y WITH TILDE,YOGH,Z",
    "Z WITH ACUTE,Z WITH CARON,Z WITH CIRCUMFLEX,Z WITH DESCENDER,Z WITH DOT ABOVE",
    "Z WITH DOT BELOW,Z WITH HOOK,Z WITH LINE BELOW,Z WITH PALATAL HOOK,Z WITH STROKE",
    "Z WITH SWASH TAIL"]),
  (["LATIN CAPITAL LETTER A WITH"], [
    "ACUTE,BREVE,BREVE AND ACUTE,BREVE AND DOT BELOW,BREVE AND GRAVE,BREVE AND HOOK ABOVE",
    "BREVE AND TILDE,CARON,CIRCUMFLEX,DIAERESIS,DIAERESIS AND MACRON,DOT ABOVE",
    "DOT ABOVE AND MACRON,DOT BELOW,DOUBLE GRAVE,GRAVE,HOOK ABOVE,INVERTED BREVE,MACRON,OGONEK",
    "RING ABOVE,RING ABOVE AND ACUTE,RING BELOW,STROKE,TILDE"]),
  (["LATIN CAPITAL LETTER A WITH CIRCUMFLEX", "LATIN CAPITAL LETTER O WITH CIRCUMFLEX",
    "LATIN SMALL LETTER A WITH CIRCUMFLEX", "LATIN SMALL LETTER O WITH CIRCUMFLEX"], [
    "AND ACUTE,AND DOT BELOW,AND GRAVE,AND HOOK ABOVE,AND TILDE"]),
  (["LATIN CAPITAL LETTER E WITH"], [
    "ACUTE,BREVE,CARON,CEDILLA,CEDILLA AND BREVE,CIRCUMFLEX,DIAERESIS,DOT ABOVE,DOT BELOW",
    "DOUBLE GRAVE,GRAVE,HOOK ABOVE,INVERTED BREVE,MACRON,MACRON AND ACUTE,MACRON AND GRAVE",
    "OGONEK,STROKE,TILDE,TILDE BELOW"]),
  (["LATIN CAPITAL LETTER E WITH CIRCUMFLEX", "LATIN SMALL LETTER E WITH CIRCUMFLEX"], [
    "AND ACUTE,AND DOT BELOW,AND GRAVE,AND HOOK ABOVE,AND TILDE,BELOW"]),
  (["LATIN CAPITAL LETTER I WITH"], [
    "ACUTE,BREVE,CARON,CIRCUMFLEX,DIAERESIS,DIAERESIS AND ACUTE,DOT ABOVE,DOT BELOW,DOUBLE GRAVE",
    "GRAVE,HOOK ABOVE,INVERTED BREVE,MACRON,OGONEK,STROKE,TILDE,TILDE BELOW"]),
  (["LATIN CAPITAL LETTER L WITH"], [
    "ACUTE,BAR,BELT,CARON,CEDILLA,CIRCUMFLEX BELOW,DOT BELOW,DOT BELOW AND MACRON,DOUBLE BAR",
    "HIGH STROKE,LINE BELOW,MIDDLE DOT,MIDDLE TILDE,SMALL LETTER J,STROKE"]),
  (["LATIN CAPITAL LETTER N WITH"], [
    "ACUTE,CARON,CEDILLA,CIRCUMFLEX BELOW,DESCENDER,DOT ABOVE,DOT BELOW,GRAVE,LEFT HOOK",
    "LINE BELOW,LONG RIGHT LEG,OBLIQUE STROKE,SMALL LETTER J,TILDE"]),
  (["LATIN CAPITAL LETTER O WITH"], [
    "ACUTE,BREVE,CARON,CIRCUMFLEX,DIAERESIS,DIAERESIS AND MACRON,DOT ABOVE,DOT ABOVE AND MACRON",
    "DOT BELOW,DOUBLE ACUTE,DOUBLE GRAVE,GRAVE,HOOK ABOVE,HORN,HORN AND ACUTE,HORN AND DOT BELOW",
    "HORN AND GRAVE,HORN AND HOOK ABOVE,HORN AND TILDE,INVERTED BREVE,LONG STROKE OVERLAY,LOOP",
    "MACRON,MACRON AND ACUTE,MACRON AND GRAVE,MIDDLE TILDE,OGONEK,OGONEK AND MACRON,STROKE",
    "STROKE AND ACUTE,TILDE,TILDE AND ACUTE,TILDE AND DIAERESIS,TILDE AND MACRON"]),
  (["LATIN CAPITAL LETTER S WITH"], [
    "ACUTE,ACUTE AND DOT ABOVE,CARON,CARON AND DOT ABOVE,CEDILLA,CIRCUMFLEX,COMMA BELOW",
    "DOT ABOVE,DOT BELOW,DOT BELOW AND DOT ABOVE,HOOK,OBLIQUE STROKE,SHORT STROKE OVERLAY",
    "SWASH TAIL"]),
  (["LATIN CAPITAL LETTER TURNED"], ["A,ALPHA,H,INSULAR G,K,L,M,T,V"]),
  (["LATIN CAPITAL LETTER U"], ["BAR"]),
  (["LATIN CAPITAL LETTER U WITH"], [
    "ACUTE,BREVE,CARON,CIRCUMFLEX,CIRCUMFLEX BELOW,DIAERESIS,DOT BELOW,DOUBLE ACUTE,DOUBLE GRAVE",
    "GRAVE,HOOK ABOVE,HORN,HORN AND ACUTE,HORN AND DOT BELOW,HORN AND GRAVE,HORN AND HOOK ABOVE",
    "HORN AND TILDE,INVERTED BREVE,MACRON,MACRON AND DIAERESIS,OGONEK,RING ABOVE,STROKE,TILDE",
    "TILDE AND ACUTE,TILDE BELOW"]),
  (["LATIN CAPITAL LETTER U WITH DIAERESIS", "LATIN SMALL LETTER U WITH DIAERESIS"], [
    "AND ACUTE,AND CARON,AND GRAVE,AND MACRON,BELOW"]),
  (["LATIN EPIGRAPHIC"], [
    "LETTER ARCHAIC M,LETTER I LONGA,LETTER INVERTED M,LETTER REVERSED F,LETTER REVERSED P",
    "LETTER SIDEWAYS I"]),
  (["LATIN LETTER"], [
    "AIN,ALVEOLAR CLICK,BIDENTAL PERCUSSIVE,BILABIAL CLICK,BILABIAL PERCUSSIVE,DENTAL CLICK",
    "GLOTTAL STOP,GLOTTAL STOP WITH STROKE,INVERTED GLOTTAL STOP,INVERTED GLOTTAL STOP WITH CURL",
    "INVERTED GLOTTAL STOP WITH STROKE,LATERAL CLICK,PHARYNGEAL VOICED FRICATIVE,RETROFLEX CLICK",
    "RETROFLEX CLICK WITH RETROFLEX HOOK,REVERSED ESH LOOP,REVERSED GLOTTAL STOP WITH STROKE",
    "SINOLOGICAL DOT,STRETCHED C,STRETCHED C WITH CURL,TWO WITH STROKE,VOICED LARYNGEAL SPIRANT",
    "WYNN,YR"]),
  (["LATIN LETTER SMALL CAPITAL"], [
    "A,AE,B,BARRED B,C,D,E,ETH,EZH,F,G,G WITH HOOK,H,I,INVERTED R,J,K,L,L WITH BELT",
    "L WITH STROKE,M,N,O,OE,OPEN O,OU,P,Q,R,R WITH RIGHT LEG,REVERSED N,REVERSED R,RUM,S,T",
    "TURNED E,TURNED G,TURNED K,TURNED M,TURNED R,U,V,W,Y,Z"]),
  (["LATIN SMALL"], ["CAPITAL LETTER I WITH STROKE,CAPITAL LETTER U WITH STROKE"]),
  (["LATIN SMALL LETTER"], [
    "A,AA,AE,AE WITH ACUTE,AE WITH MACRON,ALPHA,ALPHA WITH RETROFLEX HOOK,ANGLICANA W,AO,AU,AV",
    "AV WITH HORIZONTAL BAR,AY,B,B WITH DOT ABOVE,B WITH DOT BELOW,B WITH FLOURISH,B WITH HOOK",
    "B WITH LINE BELOW,B WITH MIDDLE TILDE,B WITH PALATAL HOOK,B WITH STROKE,B WITH TOPBAR",
    "BARRED ALPHA,BARRED E,BARRED O,BASELINE ESH,BETA,BLACKLETTER E,BLACKLETTER O",
    "BLACKLETTER O WITH STROKE,BOTTOM HALF O,BROKEN L,C,CHI,CHI WITH LOW LEFT SERIF",
    "CHI WITH LOW RIGHT RING,CLOSED INSULAR G,CLOSED OMEGA,CLOSED OPEN E,CLOSED REVERSED OPEN E",
    "CON,CUATRILLO,CUATRILLO WITH COMMA,D,DB DIGRAPH,DELTA,DEZH DIGRAPH",
    "DEZH DIGRAPH WITH PALATAL HOOK,DEZH DIGRAPH WITH RETROFLEX HOOK,DOTLESS I,DOTLESS J",
    "DOTLESS J WITH STROKE,DOTLESS J WITH STROKE AND HOOK,DOUBLE R,DOUBLE R WITH CROSSED-TAIL",
    "DOUBLE THORN,DOUBLE WYNN,DUM,DZ,DZ DIGRAPH,DZ DIGRAPH WITH CURL",
    "DZ DIGRAPH WITH RETROFLEX HOOK,DZ WITH CARON,E,EGYPTOLOGICAL AIN,EGYPTOLOGICAL ALEF,ENG",
    "ENG WITH CROSSED-TAIL,ENG WITH PALATAL HOOK,ESH,ESH WITH CURL,ESH WITH DOUBLE BAR",
    "ESH WITH DOUBLE BAR AND CURL,ESH WITH PALATAL HOOK,ESH WITH RETROFLEX HOOK,ET,ETH,EZH",
    "EZH REVERSED,EZH WITH CARON,EZH WITH CURL,EZH WITH PALATAL HOOK,EZH WITH RETROFLEX HOOK",
    "EZH WITH TAIL,F,F WITH DOT ABOVE,F WITH HOOK,F WITH MIDDLE TILDE,F WITH PALATAL HOOK",
    "F WITH STROKE,FENG DIGRAPH,FENG DIGRAPH WITH TRILL,G,G WITH ACUTE,G WITH BREVE,G WITH CARON",
    "G WITH CEDILLA,G WITH CIRCUMFLEX,G WITH DOT ABOVE,G WITH HOOK,G WITH MACRON",
    "G WITH OBLIQUE STROKE,G WITH PALATAL HOOK,G WITH STROKE,GAMMA,GLOTTAL A,GLOTTAL I",
    "GLOTTAL STOP,GLOTTAL U,H,HALF H,HENG,HENG WITH HOOK,HV,I,INVERTED ALPHA,INVERTED OE,IOTA",
    "IOTA WITH STROKE,IOTIFIED E,IS,J,J WITH CARON,J WITH CIRCUMFLEX,J WITH CROSSED-TAIL",
    "J WITH STROKE,K,KRA,L,LAMBDA WITH STROKE,LENIS F,LEZH,LEZH WITH RETROFLEX HOOK,LJ,LONG S",
    "LONG S WITH DIAGONAL STROKE,LONG S WITH DOT ABOVE,LONG S WITH HIGH STROKE,LS DIGRAPH,LUM",
    "LZ DIGRAPH,M,M WITH ACUTE,M WITH CROSSED-TAIL,M WITH DOT ABOVE,M WITH DOT BELOW,M WITH HOOK",
    "M WITH MIDDLE TILDE,M WITH PALATAL HOOK,MIDDLE SCOTS S,MIDDLE-WELSH LL,MIDDLE-WELSH V,MUM,N",
    "NJ,NUM,O,OI,OLD POLISH O,OMEGA,OO,OPEN E,OPEN E WITH RETROFLEX HOOK,OPEN O",
    "OPEN O WITH RETROFLEX HOOK,OPEN O WITH STROKE,OPEN OE,OU,P,P WITH ACUTE,P WITH DOT ABOVE",
    "P WITH FLOURISH,P WITH HOOK,P WITH MIDDLE TILDE,P WITH PALATAL HOOK,P WITH SQUIRREL TAIL",
    "P WITH STROKE,P WITH STROKE THROUGH DESCENDER,PHI,Q,Q WITH DIAGONAL STROKE,Q WITH HOOK",
    "Q WITH HOOK TAIL,Q WITH STROKE THROUGH DESCENDER,QP DIGRAPH,R,RAMS HORN,RUM,RUM ROTUNDA,S",
    "SAKHA YAT,SALTILLO,SCHWA,SCHWA WITH HOOK,SCHWA WITH RETROFLEX HOOK,SCRIPT G",
    "SCRIPT G WITH CROSSED-TAIL,SCRIPT R,SCRIPT R WITH RING,SHARP S,SIGMOID S,SQUAT REVERSED ESH",
    "STIRRUP R,T,TAILLESS PHI,TC DIGRAPH WITH CURL,TESH DIGRAPH,TESH DIGRAPH WITH PALATAL HOOK",
    "TESH DIGRAPH WITH RETROFLEX HOOK,TH WITH STRIKETHROUGH,THORN,THORN WITH STROKE",
    "THORN WITH STROKE THROUGH DESCENDER,TONE FIVE,TONE SIX,TONE TWO,TOP HALF O,TRESILLO",
    "TS DIGRAPH,TS DIGRAPH WITH RETROFLEX HOOK,TUM,TZ,U,UE,UI,UM,UO,UPSILON,UPSILON WITH STROKE",
    "V,V WITH CURL,V WITH DIAGONAL STROKE,V WITH DOT BELOW,V WITH HOOK,V WITH PALATAL HOOK",
    "V WITH RIGHT HOOK,V WITH TILDE,VEND,VISIGOTHIC Z,VOLAPUK AE,VOLAPUK OE,VOLAPUK UE,VY,W",
    "W WITH ACUTE,W WITH CIRCUMFLEX,W WITH DIAERESIS,W WITH DOT ABOVE,W WITH DOT BELOW",
    "W WITH GRAVE,W WITH HOOK,W WITH RING ABOVE,X,X WITH DIAERESIS,X WITH DOT ABOVE",
    "X WITH LONG LEFT LEG,X WITH LONG LEFT LEG AND LOW RIGHT RING",
    "X WITH LONG LEFT LEG WITH SERIF,X WITH LOW RIGHT RING,X WITH PALATAL HOOK,Y,YOGH,Z"]),
  (["LATIN SMALL LETTER A"], ["REVERSED-SCHWA"]),
  (["LATIN SMALL LETTER A WITH"], [
    "ACUTE,BREVE,BREVE AND ACUTE,BREVE AND DOT BELOW,BREVE AND GRAVE,BREVE AND HOOK ABOVE",
    "BREVE AND TILDE,CARON,CIRCUMFLEX,DIAERESIS,DIAERESIS AND MACRON,DOT ABOVE",
    "DOT ABOVE AND MACRON,DOT BELOW,DOUBLE GRAVE,GRAVE,HOOK ABOVE,INVERTED BREVE,MACRON,OGONEK",
    "RETROFLEX HOOK,RIGHT HALF RING,RING ABOVE,RING ABOVE AND ACUTE,RING BELOW,STROKE,TILDE"]),
  (["LATIN SMALL LETTER C WITH"], [
    "ACUTE,BAR,CARON,CEDILLA,CEDILLA AND ACUTE,CIRCUMFLEX,CURL,DOT ABOVE,HOOK,PALATAL HOOK",
    "RETROFLEX HOOK,STROKE"]),
  (["LATIN SMALL LETTER D WITH"], [
    "CARON,CEDILLA,CIRCUMFLEX BELOW,CURL,DOT ABOVE,DOT BELOW,HOOK,HOOK AND TAIL,LINE BELOW",
    "MIDDLE TILDE,PALATAL HOOK,SHORT STROKE OVERLAY,STROKE,TAIL,TOPBAR"]),
  (["LATIN SMALL LETTER E WITH"], [
    "ACUTE,BREVE,CARON,CEDILLA,CEDILLA AND BREVE,CIRCUMFLEX,DIAERESIS,DOT ABOVE,DOT BELOW",
    "DOUBLE GRAVE,FLOURISH,GRAVE,HOOK ABOVE,INVERTED BREVE,MACRON,MACRON AND ACUTE",
    "MACRON AND GRAVE,NOTCH,OGONEK,RETROFLEX HOOK,STROKE,TILDE,TILDE BELOW"]),
  (["LATIN SMALL LETTER H WITH"], [
    "BREVE BELOW,CARON,CEDILLA,CIRCUMFLEX,DESCENDER,DIAERESIS,DOT ABOVE,DOT BELOW,HOOK",
    "LINE BELOW,PALATAL HOOK,STROKE"]),
  (["LATIN SMALL LETTER I WITH"], [
    "ACUTE,BREVE,CARON,CIRCUMFLEX,DIAERESIS,DIAERESIS AND ACUTE,DOT BELOW,DOUBLE GRAVE,GRAVE",
    "HOOK ABOVE,INVERTED BREVE,MACRON,OGONEK,RETROFLEX HOOK,STROKE,STROKE AND RETROFLEX HOOK",
    "TILDE,TILDE BELOW"]),
  (["LATIN SMALL LETTER INSULAR"], ["D,F,G,R,S,T"]),
  (["LATIN SMALL LETTER K WITH"], [
    "ACUTE,CARON,CEDILLA,DESCENDER,DIAGONAL STROKE,DOT BELOW,HOOK,LINE BELOW,OBLIQUE STROKE",
    "PALATAL HOOK,STROKE,STROKE AND DIAGONAL STROKE"]),
  (["LATIN SMALL LETTER L WITH"], [
    "ACUTE,BAR,BELT,BELT AND PALATAL HOOK,CARON,CEDILLA,CIRCUMFLEX BELOW,CURL,DOT BELOW",
    "DOT BELOW AND MACRON,DOUBLE BAR,DOUBLE MIDDLE TILDE,FISHHOOK,HIGH STROKE,INVERTED LAZY S",
    "LINE BELOW,MIDDLE DOT,MIDDLE RING,MIDDLE TILDE,PALATAL HOOK,RETROFLEX HOOK",
    "RETROFLEX HOOK AND BELT,STROKE"]),
  (["LATIN SMALL LETTER N"], ["PRECEDED BY APOSTROPHE"]),
  (["LATIN SMALL LETTER N WITH"], [
    "ACUTE,CARON,CEDILLA,CIRCUMFLEX BELOW,CROSSED-TAIL,CURL,DESCENDER,DOT ABOVE,DOT BELOW,GRAVE",
    "LEFT HOOK,LINE BELOW,LONG RIGHT LEG,MIDDLE TILDE,OBLIQUE STROKE,PALATAL HOOK,RETROFLEX HOOK",
    "TILDE"]),
  (["LATIN SMALL LETTER O WITH"], [
    "ACUTE,BREVE,CARON,CIRCUMFLEX,DIAERESIS,DIAERESIS AND MACRON,DOT ABOVE,DOT ABOVE AND MACRON",
    "DOT BELOW,DOUBLE ACUTE,DOUBLE GRAVE,GRAVE,HOOK ABOVE,HORN,HORN AND ACUTE,HORN AND DOT BELOW",
    "HORN AND GRAVE,HORN AND HOOK ABOVE,HORN AND TILDE,INVERTED BREVE,LONG STROKE OVERLAY,LOOP",
    "LOW RING INSIDE,MACRON,MACRON AND ACUTE,MACRON AND GRAVE,OGONEK,OGONEK AND MACRON",
    "RETROFLEX HOOK,STROKE,STROKE AND ACUTE,TILDE,TILDE AND ACUTE,TILDE AND DIAERESIS",
    "TILDE AND MACRON"]),
  (["LATIN SMALL LETTER R"], ["ROTUNDA,WITHOUT HANDLE"]),
  (["LATIN SMALL LETTER R WITH"], [
    "ACUTE,CARON,CEDILLA,CROSSED-TAIL,DOT ABOVE,DOT BELOW,DOT BELOW AND MACRON,DOUBLE GRAVE",
    "FISHHOOK,FISHHOOK AND MIDDLE TILDE,FISHHOOK AND PALATAL HOOK,INVERTED BREVE,LINE BELOW",
    "LONG LEG,MIDDLE TILDE,OBLIQUE STROKE,PALATAL HOOK,STROKE,TAIL"]),
  (["LATIN SMALL LETTER REVERSED"], [
    "C WITH DOT,E,ENG,HALF H,K,OPEN E,OPEN E WITH HOOK,OPEN E WITH RETROFLEX HOOK",
    "R WITH FISHHOOK,SCRIPT G"]),
  (["LATIN SMALL LETTER S WITH"], [
    "ACUTE,ACUTE AND DOT ABOVE,CARON,CARON AND DOT ABOVE,CEDILLA,CIRCUMFLEX,COMMA BELOW,CURL",
    "DOT ABOVE,DOT BELOW,DOT BELOW AND DOT ABOVE,HOOK,MIDDLE TILDE,OBLIQUE STROKE,PALATAL HOOK",
    "SHORT STROKE OVERLAY,SWASH TAIL"]),
  (["LATIN SMALL LETTER SIDEWAYS"], ["DIAERESIZED U,O,O WITH STROKE,OPEN O,TURNED M,U"]),
  (["LATIN SMALL LETTER T WITH"], [
    "CARON,CEDILLA,CIRCUMFLEX BELOW,COMMA BELOW,CURL,DIAERESIS,DIAGONAL STROKE,DOT ABOVE",
    "DOT BELOW,HOOK,HOOK AND RETROFLEX HOOK,LINE BELOW,MIDDLE TILDE,PALATAL HOOK,RETROFLEX HOOK",
    "STROKE"]),
  (["LATIN SMALL LETTER TURNED"], [
    "A,AE,ALPHA,DELTA,E,G,H,H WITH FISHHOOK,H WITH FISHHOOK AND TAIL,I,INSULAR G,K,L,M",
    "M WITH LONG LEG,O OPEN-O,O OPEN-O WITH STROKE,OE,OE WITH HORIZONTAL STROKE,OE WITH STROKE",
    "OPEN E,R,R WITH HOOK,R WITH LONG LEG,R WITH LONG LEG AND RETROFLEX HOOK,R WITH MIDDLE TILDE",
    "R WITH PALATAL HOOK,R WITH TAIL,T,T WITH CURL,UI,V,W,Y,Y WITH BELT"]),
  (["LATIN SMALL LETTER U"], ["BAR,BAR WITH SHORT RIGHT LEG"]),
  (["LATIN SMALL LETTER U WITH"], [
    "ACUTE,BREVE,CARON,CIRCUMFLEX,CIRCUMFLEX BELOW,DIAERESIS,DOT BELOW,DOUBLE ACUTE,DOUBLE GRAVE",
    "GRAVE,HOOK ABOVE,HORN,HORN AND ACUTE,HORN AND DOT BELOW,HORN AND GRAVE,HORN AND HOOK ABOVE",
    "HORN AND TILDE,INVERTED BREVE,LEFT HOOK,MACRON,MACRON AND DIAERESIS,OGONEK,RETROFLEX HOOK",
    "RING ABOVE,SHORT RIGHT LEG,STROKE,TILDE,TILDE AND ACUTE,TILDE BELOW"]),
  (["LATIN SMALL LETTER Y WITH"], [
    "ACUTE,CIRCUMFLEX,DIAERESIS,DOT ABOVE,DOT BELOW,GRAVE,HOOK,HOOK ABOVE,LOOP,MACRON,RING ABOVE",
    "SHORT RIGHT LEG,STROKE,TILDE"]),
  (["LATIN SMALL LETTER Z WITH"], [
    "ACUTE,CARON,CIRCUMFLEX,CURL,DESCENDER,DOT ABOVE,DOT BELOW,HOOK,LINE BELOW,MIDDLE TILDE",
    "PALATAL HOOK,RETROFLEX HOOK,STROKE,SWASH TAIL"]),
  (["LATIN SMALL LIGATURE"], ["FF,FFI,FFL,FI,FL,IJ,LONG S T,OE,ST"]),
  (["LATIN SUBSCRIPT"], [
    "SMALL LETTER I,SMALL LETTER J,SMALL LETTER R,SMALL LETTER U,SMALL LETTER V"]),
  (["LYCIAN LETTER"], ["A,AN,B,BH,D,E,EN,G,H,I,J,K,KK,L,M,MM,N,NN,P,Q,R,S,T,TH,TT,U,W,X,Z"]),
  (["MODIFIER"], ["BREVE WITH INVERTED BREVE"]),
  (["MODIFIER LETTER"], [
    "ACUTE ACCENT,ALVEOLAR CLICK,APOSTROPHE,BEGIN HIGH TONE,BEGIN LOW TONE,BILABIAL CLICK",
    "CENTRED LEFT HALF RING,CENTRED RIGHT HALF RING,CIRCUMFLEX ACCENT,COLON,CROSS ACCENT",
    "CYRILLIC EN,CYRILLIC HARD SIGN,CYRILLIC SOFT SIGN,DENTAL CLICK,DOT HORIZONTAL BAR,DOT SLASH",
    "DOT VERTICAL BAR,DOUBLE APOSTROPHE,DOUBLE PRIME,DOWN ARROWHEAD,DOWN TACK,END HIGH TONE",
    "END LOW TONE,EXTRA-HIGH DOTTED LEFT-STEM TONE BAR,EXTRA-HIGH DOTTED TONE BAR",
    "EXTRA-HIGH LEFT-STEM TONE BAR,EXTRA-HIGH TONE BAR,EXTRA-LOW DOTTED LEFT-STEM TONE BAR",
    "EXTRA-LOW DOTTED TONE BAR,EXTRA-LOW LEFT-STEM TONE BAR,EXTRA-LOW TONE BAR,GEORGIAN NAR",
    "GLOTTAL STOP,GLOTTAL STOP WITH STROKE,GRAVE ACCENT,HALF TRIANGULAR COLON",
    "HIGH DOTTED LEFT-STEM TONE BAR,HIGH DOTTED TONE BAR,HIGH LEFT-STEM TONE BAR,HIGH TONE BAR",
    "LATERAL CLICK,LEFT ARROWHEAD,LEFT HALF RING,LEFT TACK,LOWER RIGHT CORNER ANGLE,MACRON",
    "MID DOTTED LEFT-STEM TONE BAR,MID DOTTED TONE BAR,MID LEFT-STEM TONE BAR,MID TONE BAR",
    "MIDDLE DOUBLE ACUTE ACCENT,MIDDLE DOUBLE GRAVE ACCENT,MIDDLE GRAVE ACCENT,MINUS SIGN",
    "OPEN SHELF,PLUS SIGN,PRIME,RAISED COLON,RAISED DOWN ARROW,RAISED EXCLAMATION MARK",
    "RAISED INVERTED EXCLAMATION MARK,RAISED UP ARROW,RETROFLEX CLICK WITH RETROFLEX HOOK",
    "REVERSED COMMA,REVERSED GLOTTAL STOP,REVERSED GLOTTAL STOP WITH STROKE,RHOTIC HOOK",
    "RIGHT ARROWHEAD,RIGHT HALF RING,RIGHT TACK,SHELF,SHORT EQUALS SIGN,STRESS AND HIGH TONE",
    "STRESS AND LOW TONE,SUPERSCRIPT HALF TRIANGULAR COLON,SUPERSCRIPT TRIANGULAR COLON",
    "TRIANGULAR COLON,TURNED COMMA,UNASPIRATED,UP ARROWHEAD,UP TACK,US,VERTICAL LINE,VOICING",
    "YANG DEPARTING TONE MARK,YIN DEPARTING TONE MARK"]),
  (["MODIFIER LETTER CAPITAL"], [
    "A,AE,B,BARRED B,C,D,E,F,G,H,H WITH STROKE,I,J,K,L,M,N,O,OU,P,Q,R,REVERSED E,REVERSED N,T,U",
    "V,W"]),
  (["MODIFIER LETTER CHINESE"], [
    "TONE YANG PING,TONE YANG QU,TONE YANG RU,TONE YANG SHANG,TONE YIN PING,TONE YIN QU",
    "TONE YIN RU,TONE YIN SHANG"]),
  (["MODIFIER LETTER LOW"], [
    "ACUTE ACCENT,CIRCUMFLEX ACCENT,DOTTED LEFT-STEM TONE BAR,DOTTED TONE BAR,DOWN ARROWHEAD",
    "GRAVE ACCENT,INVERTED EXCLAMATION MARK,LEFT ARROW,LEFT ARROWHEAD,LEFT-STEM TONE BAR,MACRON",
    "RIGHT ARROWHEAD,RING,TILDE,TONE BAR,UP ARROWHEAD,VERTICAL LINE"]),
  (["MODIFIER LETTER SMALL"], [
    "A,AE,AIN,ALPHA,B,B WITH HOOK,BARRED O,BETA,BOTTOM HALF O,C,C WITH CURL,CHI,CLOSED OMEGA",
    "CLOSED REVERSED OPEN E,D,D WITH HOOK,D WITH HOOK AND TAIL,D WITH TAIL,DELTA,DEZH DIGRAPH",
    "DOTLESS J WITH STROKE,DOTLESS J WITH STROKE AND HOOK,DZ DIGRAPH,DZ DIGRAPH WITH CURL",
    "DZ DIGRAPH WITH RETROFLEX HOOK,E,ENG,ESH,ETH,EZH,F,FENG DIGRAPH,G,G WITH HOOK,GAMMA",
    "GREEK GAMMA,GREEK PHI,H,H WITH HOOK,H WITH STROKE,HENG,HENG WITH HOOK,I WITH STROKE,IOTA,J",
    "J WITH CROSSED-TAIL,K,L,L WITH BELT,L WITH INVERTED LAZY S,L WITH MIDDLE TILDE",
    "L WITH PALATAL HOOK,L WITH RETROFLEX HOOK,L WITH RETROFLEX HOOK AND BELT,LEZH",
    "LEZH WITH RETROFLEX HOOK,LIGATURE OE,LS DIGRAPH,LZ DIGRAPH,M,M WITH HOOK,N WITH LEFT HOOK",
    "N WITH RETROFLEX HOOK,O,O WITH STROKE,OPEN E,OPEN O,P,PHI,Q,R,R WITH FISHHOOK,R WITH TAIL",
    "RAMS HORN,REVERSED E,REVERSED GLOTTAL STOP,REVERSED OPEN E,S,S WITH CURL,S WITH HOOK,SCHWA",
    "SCRIPT G,SIDEWAYS U,T,T WITH PALATAL HOOK,T WITH RETROFLEX HOOK,TC DIGRAPH WITH CURL",
    "TESH DIGRAPH,THETA,TOP HALF O,TS DIGRAPH,TS DIGRAPH WITH RETROFLEX HOOK,U,U BAR",
    "U WITH LEFT HOOK,UPSILON,V,V WITH HOOK,V WITH RIGHT HOOK,W,X,Y,Z,Z WITH CURL",
    "Z WITH RETROFLEX HOOK"]),
  (["MODIFIER LETTER SMALL CAPITAL"], [
    "AA,B,G,G WITH HOOK,H,I,I WITH STROKE,INVERTED R,L,L WITH BELT,N,OE,R,U,Y"]),
  (["MODIFIER LETTER SMALL TURNED"], [
    "A,AE,ALPHA,H,I,M,M WITH LONG LEG,OPEN E,R,R WITH HOOK,R WITH LONG LEG",
    "R WITH LONG LEG AND RETROFLEX HOOK,V,W,Y,Y WITH BELT"]),
  (["OGHAM"], ["FEATHER MARK,REVERSED FEATHER MARK,SPACE MARK"]),
  (["OGHAM LETTER"], [
    "AILM,BEITH,CEIRT,COLL,DAIR,EABHADH,EADHADH,EAMHANCHOLL,FEARN,GORT,IFIN,IODHADH,LUIS,MUIN",
    "NGEADAL,NION,ONN,OR,PEITH,RUIS,SAIL,STRAIF,TINNE,UATH,UILLEANN,UR"]),
  (["OLD HUNGARIAN CAPITAL LETTER", "OLD HUNGARIAN SMALL LETTER"], [
    "A,AA,AK,AMB,AND,CLOSE E,E,EB,EC,ECH,ECS,ED,EE,EF,EG,EGY,EH,EJ,EK,EL,ELY,EM,EMP,EN,ENC,ENT",
    "ENT-SHAPED SIGN,ENY,EP,ER,ES,ESZ,ET,ETY,EV,EZ,EZS,I,II,NIKOLSBURG OE,NIKOLSBURG UE,O,OEE,OO",
    "RUDIMENTA OE,RUDIMENTA UE,SHORT ER,U,UNK,US,UU"]),
  (["OLD HUNGARIAN NUMBER"], ["FIFTY,FIVE,ONE,ONE HUNDRED,ONE THOUSAND,TEN"]),
  (["OLD ITALIC"], ["NUMERAL FIFTY,NUMERAL FIVE,NUMERAL ONE,NUMERAL TEN"]),
  (["OLD ITALIC LETTER"], [
    "A,BE,CHE,DE,E,EF,EKS,EL,EM,EN,ER,ERS,ES,ESH,ESS,HE,I,II,KA,KE,KHE,KU,NORTHERN TSE,O,PE,PHE",
    "SHE,SOUTHERN TSE,TE,THE,U,UU,VE,YE,ZE"]),
  (["OLD PERMIC LETTER"], [
    "AN,BUR,CHERY,DOI,DZHOI,DZITA,E,EF,GAI,HA,I,IA,IE,KOKE,LEI,MENOE,NENOE,O,OO,PEEI,REI,SHCHOOI",
    "SHOOI,SII,TAI,TSIU,U,VER,VOOI,YA,YAT,YER,YERI,YERU,YRY,YU,ZATA,ZHOI"]),
  (["RUNIC"], [
    "ARLAUG SYMBOL,BELGTHOR SYMBOL,CROSS PUNCTUATION,MULTIPLE PUNCTUATION,SINGLE PUNCTUATION",
    "TVIMADUR SYMBOL"]),
  (["RUNIC LETTER"], [
    "AC A,AESC,ALGIZ EOLHX,ANSUZ A,BERKANAN BEORC BJARKAN B,C,CALC,CEALC,CEN,CWEORTH,D",
    "DAGAZ DAEG D,DOTTED-L,DOTTED-N,DOTTED-P,E,EAR,EHWAZ EH E,ENG,ETH,FEHU FEOH FE F",
    "FRANKS CASKET AC,FRANKS CASKET AESC,FRANKS CASKET EH,FRANKS CASKET IS,FRANKS CASKET OS,G",
    "GAR,GEBO GYFU G,GER,HAEGL H,HAGLAZ H,ICELANDIC-YR,ING,INGWAZ,IOR,ISAZ IS ISS I,IWAZ EOH",
    "JERAN J,K,KAUN K,KAUNA,LAUKAZ LAGU LOGR L,LONG-BRANCH-AR AE,LONG-BRANCH-HAGALL H",
    "LONG-BRANCH-MADR M,LONG-BRANCH-OSS O,LONG-BRANCH-YR,MANNAZ MAN M,NAUDIZ NYD NAUD N,O,OE,ON",
    "OO,OPEN-P,OS O,OTHALAN ETHEL O,PERTHO PEORTH P,Q,RAIDO RAD REID R,SH,SHORT-TWIG-AR A",
    "SHORT-TWIG-BJARKAN B,SHORT-TWIG-HAGALL H,SHORT-TWIG-MADR M,SHORT-TWIG-NAUD N",
    "SHORT-TWIG-OSS O,SHORT-TWIG-SOL S,SHORT-TWIG-TYR T,SHORT-TWIG-YR,SIGEL LONG-BRANCH-SOL S",
    "SOWILO S,STAN,THURISAZ THURS THORN,TIWAZ TIR TYR T,URUZ UR U,V,W,WUNJO WYNN W,X,Y,YR,Z"]),
  (["SUPERSCRIPT"], ["ONE,THREE,TWO"]),
  (["VITHKUQI CAPITAL LETTER", "VITHKUQI SMALL LETTER"], [
    "A,BBE,BE,CE,CHE,DE,DHE,E,EI,FE,GA,HA,HHA,I,IJE,JE,KA,LA,LLA,ME,NE,NJE,O,PE,QA,RE,SE,SHE,TE",
    "THE,U,VE,XE,Y,ZE"])]

end AwaitLint.Text
