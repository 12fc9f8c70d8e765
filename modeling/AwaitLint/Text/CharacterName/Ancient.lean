/-! # Ancient scripts

Cuneiform, hieroglyphs and the linear scripts.
-/

namespace AwaitLint.Text

def ancientNames : List (List String × List String) := [
  ([""], ["ASCIA SYMBOL,NOMISMA SIGN"]),
  (["AEGEAN"], [
    "CHECK MARK,DRY MEASURE FIRST SUBUNIT,LIQUID MEASURE FIRST SUBUNIT,MEASURE SECOND SUBUNIT",
    "MEASURE THIRD SUBUNIT,WORD SEPARATOR DOT,WORD SEPARATOR LINE"]),
  (["AEGEAN NUMBER"], [
    "EIGHT,EIGHT HUNDRED,EIGHT THOUSAND,EIGHTY,EIGHTY THOUSAND,FIFTY,FIFTY THOUSAND,FIVE",
    "FIVE HUNDRED,FIVE THOUSAND,FORTY,FORTY THOUSAND,FOUR,FOUR HUNDRED,FOUR THOUSAND,NINE",
    "NINE HUNDRED,NINE THOUSAND,NINETY,NINETY THOUSAND,ONE,ONE HUNDRED,ONE THOUSAND,SEVEN",
    "SEVEN HUNDRED,SEVEN THOUSAND,SEVENTY,SEVENTY THOUSAND,SIX,SIX HUNDRED,SIX THOUSAND,SIXTY",
    "SIXTY THOUSAND,TEN,TEN THOUSAND,THIRTY,THIRTY THOUSAND,THREE,THREE HUNDRED,THREE THOUSAND",
    "TWENTY,TWENTY THOUSAND,TWO,TWO HUNDRED,TWO THOUSAND"]),
  (["AEGEAN WEIGHT"], ["BASE UNIT,FIRST SUBUNIT,FOURTH SUBUNIT,SECOND SUBUNIT,THIRD SUBUNIT"]),
  (["ANATOLIAN HIEROGLYPH"], [
    "A001..A331,A010A,A026A,A039A,A041A,A045A,A046A,A046B,A066A,A066B,A066C,A097A,A098A,A100A",
    "A101A,A102A,A104A,A104B,A104C,A105A,A105B,A107A,A107B,A107C,A110A,A110B,A115A,A125A,A135A",
    "A202A,A202B,A207A,A209A,A215A,A216A,A227A,A267A,A289A,A294A,A299A,A309A,A329A,A332A,A332B",
    "A332C,A333..A382,A336A,A336B,A336C,A359A,A364A,A368A,A371A,A381A,A383 RA OR RI,A383A",
    "A384..A392,A386A,A393 EIGHT,A394..A409,A410 BEGIN LOGOGRAM MARK,A410A END LOGOGRAM MARK",
    "A411..A497,A450A,A457A,A501..A530"]),
  (["COMBINING"], ["GREEK MUSICAL PENTASEME,GREEK MUSICAL TETRASEME,GREEK MUSICAL TRISEME"]),
  (["CUNEIFORM NUMERIC SIGN"], [
    "EIGHT ASH,EIGHT DISH,EIGHT GESH2,EIGHT SHAR2,EIGHT U,EIGHT U VARIANT FORM",
    "EIGHT VARIANT FORM USSU,EIGHT VARIANT FORM USSU3,ELAMITE FIFTY,ELAMITE FORTY",
    "ELAMITE ONE THIRD,ELAMITE TWO THIRDS,NIGIDAESH,NIGIDAMIN,OLD ASSYRIAN ONE QUARTER",
    "OLD ASSYRIAN ONE SIXTH,SHAR2 TIMES GAL PLUS DISH,SHAR2 TIMES GAL PLUS MIN,SIX ASH",
    "SIX ASH TENU,SIX DISH,SIX GESH2,SIX SHAR2,SIX U,SIX U VARIANT FORM,SIX VARIANT FORM ASH9",
    "TWO ASH,TWO ASH TENU,TWO BAN2,TWO BURU,TWO ESHE3,TWO GESH2,TWO GESHU,TWO SHAR2,TWO SHARU",
    "TWO THIRDS DISH,TWO THIRDS VARIANT FORM A"]),
  (["CUNEIFORM NUMERIC SIGN FIVE"], [
    "ASH,ASH TENU,BAN2,BAN2 VARIANT FORM,BURU,DISH,GESH2,GESHU,SHAR2,SHARU,SIXTHS DISH,U",
    "U VARIANT FORM"]),
  (["CUNEIFORM NUMERIC SIGN FOUR"], [
    "ASH,ASH TENU,BAN2,BAN2 VARIANT FORM,BURU,DISH,GESH2,GESHU,SHAR2,SHARU,U,U VARIANT FORM",
    "VARIANT FORM LIMMU,VARIANT FORM LIMMU A,VARIANT FORM LIMMU B,VARIANT FORM LIMMU4"]),
  (["CUNEIFORM NUMERIC SIGN NINE"], [
    "ASH,DISH,GESH2,SHAR2,U,U VARIANT FORM,VARIANT FORM ILIMMU,VARIANT FORM ILIMMU A",
    "VARIANT FORM ILIMMU3,VARIANT FORM ILIMMU4"]),
  (["CUNEIFORM NUMERIC SIGN ONE"], [
    "BAN2,BURU,EIGHTH ASH,ESHE3,GESH2,GESHU,HALF GUR,QUARTER ASH,QUARTER GUR,SHARU,THIRD DISH",
    "THIRD VARIANT FORM A"]),
  (["CUNEIFORM NUMERIC SIGN SEVEN"], [
    "ASH,DISH,GESH2,SHAR2,U,U VARIANT FORM,VARIANT FORM IMIN A,VARIANT FORM IMIN B",
    "VARIANT FORM IMIN3"]),
  (["CUNEIFORM NUMERIC SIGN THREE"], [
    "ASH,ASH TENU,BAN2,BURU,BURU VARIANT FORM,DISH,GESH2,GESHU,SHAR2,SHAR2 VARIANT FORM,SHARU",
    "SHARU VARIANT FORM,VARIANT FORM ESH16,VARIANT FORM ESH21"]),
  (["CUNEIFORM PUNCTUATION"], [
    "SIGN DIAGONAL COLON,SIGN DIAGONAL QUADCOLON,SIGN DIAGONAL TRICOLON",
    "SIGN OLD ASSYRIAN WORD DIVIDER,SIGN VERTICAL COLON"]),
  (["CUNEIFORM SIGN"], [
    "A,A TIMES A,A TIMES BAD,A TIMES GAN2 TENU,A TIMES HA,A TIMES IGI,A TIMES LAGAR GUNU",
    "A TIMES MUSH,A TIMES SAG,A2,AB,AB2,AB2 TIMES A,AB2 TIMES BALAG,AB2 TIMES GAN2 TENU",
    "AB2 TIMES ME PLUS EN,AB2 TIMES SHA3,AB2 TIMES TAK4,AD,AD TIMES ESH2,AK,AK TIMES ERIN2",
    "AK TIMES SHITA PLUS GISH,AL,AL TIMES AL,AL TIMES DIM2,AL TIMES GISH,AL TIMES HA",
    "AL TIMES KAD3,AL TIMES KI,AL TIMES SHE,AL TIMES USH,ALAN,ALEPH,AMAR,AMAR TIMES KUG",
    "AMAR TIMES SHE,AN,AN OVER AN,AN PLUS NAGA OPPOSING AN PLUS NAGA,AN PLUS NAGA SQUARED",
    "AN THREE TIMES,ANSHE,APIN,ARAD,ARAD TIMES KUR,ARKAB,ASAL2,ASH,ASH KABA TENU",
    "ASH OVER ASH OVER ASH,ASH OVER ASH OVER ASH CROSSING ASH OVER ASH OVER ASH",
    "ASH OVER ASH TUG2 OVER TUG2 TUG2 OVER TUG2 PAP,ASH ZIDA TENU,ASH2,ASHGAB,BA,BAD",
    "BAD TIMES DISH TENU,BAG3,BAHAR2,BAHAR2 TIMES AB2,BAHAR2 TIMES NI,BAHAR2 TIMES ZA,BAL",
    "BAL OVER BAL,BALAG,BAR,BARA2,BI,BI TIMES A,BI TIMES GAR,BI TIMES IGI GUNU,BU,BU CROSSING BU",
    "BU OVER BU AB,BU OVER BU TIMES NA2,BU OVER BU UN,BULUG,BULUG OVER BULUG,BUR,BUR2,DA",
    "DA TIMES TAK4,DAG,DAG3,DAM,DAR,DARA3,DARA4,DI,DIB,DIM,DIM TIMES IGI,DIM TIMES SHE",
    "DIM TIMES U U U,DIM2,DIM2 TIMES UD,DIN,DIN KASKAL U GUNU DISH,DISH,DISH PLUS SHU,DU,DU GUNU",
    "DU OVER DU,DU SHESHIG,DUB,DUB TIMES ESH2,DUB TIMES SHE,DUB2,DUG,DUGUD,DUH,DUN,DUN3",
    "DUN3 GUNU,DUN3 GUNU GUNU,DUN4,DUR2,E,E OVER E NUN OVER NUN,E TIMES PAP,E2",
    "E2 TIMES A PLUS HA PLUS DA,E2 TIMES GAR,E2 TIMES KUR,E2 TIMES MI,E2 TIMES PAP,E2 TIMES SAL",
    "E2 TIMES SHE,E2 TIMES U,EDIN,EGIR,EL,EN,EN CROSSING EN,EN OPPOSING EN,EN SQUARED",
    "EN TIMES GAN2,EN TIMES GAN2 TENU,EN TIMES ME,EREN,ERIN2,ERIN2 X,ESH2,ESH2 CROSSING ESH2",
    "EZEN,GA,GA GUNU,GA2,GABA,GABA CROSSING GABA,GABA ROTATED NINETY DEGREES,GAD",
    "GAD OVER GAD GAR OVER GAR,GAL,GAL GAD OVER GAD GAR OVER GAR,GALAM,GAM,GAN,GAN2",
    "GAN2 CROSSING GAN2,GAN2 OVER GAN2,GAN2 TENU,GAR,GAR3,GASHAN,GE22,GESHTIN,GESHTIN TIMES KUR",
    "GESHTIN TIMES U,GI,GI CROSSING GI,GI TIMES E,GI TIMES U,GI4,GI4 CROSSING GI4,GI4 OVER GI4",
    "GIDIM,GIG,GIR2,GIR2 GUNU,GIR3,GIR3 TIMES A PLUS IGI,GIR3 TIMES GAN2 TENU,GIR3 TIMES IGI",
    "GIR3 TIMES LU PLUS IGI,GIR3 TIMES PA,GISAL,GISH,GISH CROSSING GISH,GISH TENU,GISH TIMES BAD",
    "GISH TIMES GISH CROSSING GISH,GISH TIMES TAK4,GU,GU CROSSING GU,GU2,GU2 GUNU",
    "GU2 TIMES IGI GUNU,GU2 TIMES KAK,GU2 TIMES KAK TIMES IGI GUNU,GU2 TIMES NUN",
    "GU2 TIMES SAL PLUS TUG2,GUD,GUD OVER GUD LUGAL,GUD PLUS GISH TIMES TAK4",
    "GUD TIMES A PLUS KUR,GUD TIMES KUR,GUL,GUM,GUM TIMES SHE,GUR,GUR7,GURUN,GURUSH,HA,HA GUNU",
    "HA TENU,HA TENU GUNU,HAL,HI,HU,HUB2,HUB2 TIMES AN,HUB2 TIMES HAL,HUB2 TIMES KASKAL",
    "HUB2 TIMES LISH,HUB2 TIMES UD,HUL2,HUSH,I,I A,IB,IDIM,IDIM OVER IDIM BUR",
    "IDIM OVER IDIM SQUARED,IG,IGI,IGI DIB,IGI GUNU,IGI OVER IGI SHIR OVER SHIR UD OVER UD",
    "IGI RI,IL,IL TIMES GAN2 TENU,IL2,IM,IM CROSSING IM,IM OPPOSING IM,IM SQUARED,IM TIMES TAK4",
    "IMIN,IN,IR,ISH,KA,KA2,KA2 CROSSING KA2,KAB,KAD2..KAD5,KAD5 OVER KAD5,KAK,KAK TIMES IGI GUNU",
    "KAL,KAL CROSSING KAL,KAL TIMES BAD,KAM2,KAM4,KAP ELAMITE,KASKAL",
    "KASKAL LAGAB TIMES U OVER LAGAB TIMES U,KASKAL OVER KASKAL LAGAB TIMES U OVER LAGAB TIMES U",
    "KESH2,KI,KI TIMES BAD,KI TIMES U,KI TIMES UD,KID,KIN,KISAL,KISH,KISIM5,KISIM5 OVER KISIM5",
    "KU,KU OVER HI TIMES ASH2 KU OVER HI TIMES ASH2,KU3,KU4,KU4 VARIANT FORM,KU7,KUL,KUL GUNU",
    "KUN,KUR,KUR OPPOSING KUR,KUSHU2,KWU318,LA,LAGAB,LAGAR,LAGAR GUNU",
    "LAGAR GUNU OVER LAGAR GUNU SHE,LAGAR TIMES SHE,LAGAR TIMES SHE PLUS SUM,LAHSHU,LAK-003",
    "LAK-021,LAK-025,LAK-030,LAK-050,LAK-051,LAK-062,LAK-079 OVER LAK-079 GUNU,LAK-080",
    "LAK-081 OVER LAK-081,LAK-092,LAK-130,LAK-142,LAK-210,LAK-219,LAK-220,LAK-225,LAK-228",
    "LAK-238,LAK-265,LAK-266,LAK-343,LAK-347,LAK-348,LAK-383,LAK-384,LAK-390,LAK-441,LAK-449",
    "LAK-450,LAK-457,LAK-470,LAK-483,LAK-490,LAK-492,LAK-493,LAK-495,LAK-550,LAK-608,LAK-617",
    "LAK-636,LAK-648,LAK-724,LAK-749,LAL,LAL TIMES LAL,LAM,LAM TIMES KUR,LAM TIMES KUR PLUS RU",
    "LI,LIL,LIMMU2,LISH,LU,LU TIMES BAD,LU2,LU3,LUGAL,LUGAL OPPOSING LUGAL,LUGAL OVER LUGAL",
    "LUGAL SHESHIG,LUH,LUL,LUM,LUM OVER LUM,LUM OVER LUM GAR OVER GAR,MA,MA GUNU,MA TIMES TAK4",
    "MA2,MAH,MAR,MASH,MASH2,ME,MES,MESH,MI,MI PLUS ZA7,MIN,MU,MU OVER MU,MUG,MUG GUNU,MUNSUB",
    "MURGU2,MUSH,MUSH3,MUSH3 GUNU,MUSH3 TIMES A,MUSH3 TIMES A PLUS DI,MUSH3 TIMES DI",
    "MUSH3 TIMES ZA,NA,NA2,NA4,NAGA,NAGA INVERTED,NAGA OPPOSING NAGA,NAGA TIMES SHU TENU,NAGAR",
    "NAM,NAM NUTILLU,NAM2,NE,NE SHESHIG,NE TIMES A,NE TIMES UD,NI,NI TIMES E,NI2,NIM",
    "NIM TIMES GAN2 TENU,NIM TIMES GAR PLUS GAN2 TENU,NIN,NIN9,NINDA2,NISAG,NU,NU11",
    "NU11 ROTATED NINETY DEGREES,NUN,NUNUZ,PA,PAD,PAN,PAP,PESH2,PESH2 ASTERISK,PI,PIR2,PIRIG",
    "PIRIG OPPOSING PIRIG,PIRIG TIMES KAL,PIRIG TIMES UD,PIRIG TIMES ZA,RA,RAB,RI,RU,SA,SAG,SAL",
    "SAL LAGAB TIMES ASH2,SANGA2,SAR,SHA,SHA3,SHA6,SHA6 TENU,SHAB6,SHAR2,SHE,SHE HU,SHE OVER SHE",
    "SHE OVER SHE GAD OVER GAD GAR OVER GAR,SHE OVER SHE TAB OVER TAB GAR OVER GAR,SHE PLUS HUB2",
    "SHE PLUS NAM2,SHE PLUS SAR,SHEG9,SHEN,SHESH,SHESH2,SHESHLAM,SHID,SHID TIMES A,SHID TIMES IM",
    "SHIM,SHINIG,SHIR,SHIR OVER SHIR BUR OVER BUR,SHIR TENU,SHITA,SHU,SHU OVER INVERTED SHU,SHU2",
    "SHU2 PLUS DUG TIMES NI,SHU2 PLUS E2 TIMES AN,SHUBUR,SI,SI GUNU,SI TIMES TAK4,SIG,SIG4",
    "SIG4 OVER SIG4 SHU2,SIK2,SILA3,SU,SU OVER SU,SUD,SUD2,SUHUR,SUM,SUMASH,SUR,SUR9,TA",
    "TA ASTERISK,TA GUNU,TA TIMES HI,TA TIMES MI,TAB,TAB OVER TAB NI OVER NI DISH OVER DISH",
    "TAB SQUARED,TAG,TAG TIMES BI,TAG TIMES GUD,TAG TIMES SHE,TAG TIMES SHU,TAG TIMES TUG2",
    "TAG TIMES UD,TAK4,TAK4 PLUS SAG,TAR,TE,TE GUNU,TI,TI TENU,TI2,TIL,TIR,TIR OVER TIR",
    "TIR OVER TIR GAD OVER GAD GAR OVER GAR,TIR TIMES TAK4,TU,TUG2,TUK,TUM,TUM TIMES GAN2 TENU",
    "TUM TIMES THREE DISH,TUR,TUR OVER TUR ZA OVER ZA,U,U GUD,U OVER U PA OVER PA GAR OVER GAR",
    "U OVER U SUR OVER SUR,U OVER U U REVERSED OVER U REVERSED,U U,U U U,U2,UB,UD,UD GUNU",
    "UD KUSHU2,UD SHESHIG,UD SHESHIG TIMES BAD,UD TIMES BAD,UD TIMES MI,UD TIMES U PLUS U PLUS U",
    "UD TIMES U PLUS U PLUS U GUNU,UDUG,UM,UM TIMES LAGAB,UM TIMES ME,UM TIMES ME PLUS DA",
    "UM TIMES SHA3,UM TIMES U,UMBIN,UMUM,UMUM TIMES KASKAL,UMUM TIMES PA,UN,UN GUNU,UR",
    "UR CROSSING UR,UR SHESHIG,UR2,UR4,URI,URI3,URU,URUDA,URUDA TIMES U,USH,USH TIMES A",
    "USH TIMES KU,USH TIMES KUR,USH TIMES TAK4,USH2,USHUMX,USHX,UTUKI,UZ3,UZ3 TIMES KASKAL,UZU",
    "ZA,ZA SQUARED TIMES KUR,ZA TENU,ZA7,ZAG,ZAMX,ZE2,ZI,ZI OVER ZI,ZI3,ZIB,ZIB KABA TENU,ZIG",
    "ZIZ2,ZU,ZU OVER ZU PLUS SAR,ZU5,ZU5 TIMES A,ZU5 TIMES THREE DISH TENU,ZUBUR,ZUM"]),
  (["CUNEIFORM SIGN AB"], ["GUNU"]),
  (["CUNEIFORM SIGN AB TIMES"], [
    "ASH2,DUN3 GUNU,GAL,GAN2 TENU,HA,IGI GUNU,IMIN,LAGAB,NUN,NUN TENU,SHESH,SHU2,U PLUS U PLUS U"]),
  (["CUNEIFORM SIGN DAG"], ["TIMES KUR"]),
  (["CUNEIFORM SIGN DAG KISIM5 TIMES"], [
    "A PLUS MASH,AMAR,BALAG,BI,GA,GA PLUS MASH,GI,GIR2,GUD,HA,IR,IR PLUS LU,KAK,LA,LU",
    "LU PLUS MASH2,LUM,NE,PAP PLUS PAP,SI,TAK4,U2 PLUS GIR2,U2 PLUS MASH,USH"]),
  (["CUNEIFORM SIGN DUG TIMES"], [
    "ANSHE,ASH,ASH AT LEFT,DIN,DUN,ERIN2,GA,GI,GIR2 GUNU,GISH,HA,HI,IGI GUNU,KASKAL,KUR,KUSHU2",
    "KUSHU2 PLUS KASKAL,LAK-020,LAM,LAM TIMES KUR,LUH PLUS GISH,MASH,MES,MI,NI,PI,SHE,SI GUNU"]),
  (["CUNEIFORM SIGN EZEN SHESHIG"], [
    "TIMES ASH,TIMES HI,TIMES IGI GUNU,TIMES LA,TIMES LAL,TIMES ME,TIMES MES,TIMES SU"]),
  (["CUNEIFORM SIGN EZEN TIMES"], [
    "A,A PLUS LAL,A PLUS LAL TIMES LAL,AN,BAD,DUN3 GUNU,DUN3 GUNU GUNU,GUD,HA,HA GUNU,IGI GUNU",
    "KASKAL,KASKAL SQUARED,KU3,LA,LAL TIMES LAL,LI,LU,SHE,SU,U2,UD"]),
  (["CUNEIFORM SIGN GA2"], ["OVER GA2"]),
  (["CUNEIFORM SIGN GA2 TIMES"], [
    "A PLUS DA PLUS HA,A PLUS HA,A PLUS IGI,AB2 TENU PLUS TAB,AN,AN PLUS KAK PLUS A,ASH,ASH2",
    "ASH2 PLUS GAL,BAD,BAHAR2,BAR PLUS RA,BUR,BUR PLUS RA,DA,DI,DIM GUNU,DIM TIMES SHE,DUB",
    "DUG TIMES IGI GUNU,DUG TIMES KASKAL,EL,EL PLUS LA,EN,EN TIMES GAN2 TENU,EREN,GA,GAN2 TENU",
    "GAR,GAR PLUS DI,GAR PLUS NE,GI,GI4,GI4 PLUS A,GIR2 PLUS SU,HA PLUS A,HA PLUS LU PLUS ESH2",
    "HAL,HAL PLUS LA,HI PLUS LI,HUB2,IGI GUNU,ISH PLUS HU PLUS ASH,KAK,KASKAL,KID,KID PLUS LAL",
    "KU3 PLUS AN,KUSHU2 PLUS KASKAL,LA,LAM,LAM TIMES KUR,LUH,ME PLUS EN,MI,MUSH,NE,NE PLUS E2",
    "NE PLUS GI,NUN,NUN OVER NUN,PA,SAL,SAR,SHE,SHE PLUS TUR,SHID,SHIM,SUM,TAK4,U,UD,UD PLUS DU",
    "ZIZ2"]),
  (["CUNEIFORM SIGN HI TIMES"], ["ASH,ASH OVER HI TIMES ASH,ASH2,BAD,DISH,GAD,KIN,NUN,SHE,U"]),
  (["CUNEIFORM SIGN KA TIMES"], [
    "A,AD,AD PLUS KU3,ANSHE,ASH2,ASH3,BAD,BALAG,BAR,BI,BU,ERIN2,ESH2,GA,GAL,GAN2 TENU,GAR",
    "GAR PLUS SHA3 PLUS A,GI,GIR2,GISH,GISH CROSSING GISH,GISH PLUS SAR,GU,GUD,GUR7",
    "HI TIMES ASH2,IGI,IM,KA,KAK,KI,KID,LI,LU,LUM,ME,ME PLUS DU,ME PLUS GI,ME PLUS TE,MI",
    "MI PLUS NUNUZ,NE,NUN,PA,PI,RU,SA,SAR,SHA,SHE,SHID,SHU,SHUL,SIG,SUHUR,TAR,TU,U,U U U,U2,UD",
    "UMUM TIMES PA,UR,UR2,USH,ZI"]),
  (["CUNEIFORM SIGN LAGAB"], ["SQUARED"]),
  (["CUNEIFORM SIGN LAGAB TIMES"], [
    "A,A PLUS DA PLUS HA,A PLUS GAR,A PLUS LAL,AL,AN,ASH ZIDA TENU,BAD,BI,DAR,EN,GA,GAR,GI,GUD",
    "GUD PLUS GUD,HA,HAL,HI TIMES NUN,IGI GUNU,IM,IM PLUS HA,IM PLUS LU,KI,KIN,KU3,KUL",
    "KUL PLUS HI PLUS A,LAGAB,LISH,LU,LUL,ME,ME PLUS EN,MUSH,NE,SHE PLUS SUM",
    "SHITA PLUS GISH PLUS ERIN2,SHITA PLUS GISH TENU,SHU2,SHU2 PLUS SHU2,SUM,TAG,TAK4",
    "TE PLUS A PLUS SU PLUS NA,U,U PLUS A,U PLUS U PLUS U,U2 PLUS ASH,UD,USH,ZU OVER ZU"]),
  (["CUNEIFORM SIGN LAK-449"], [
    "TIMES GU,TIMES IGI,TIMES PAP PLUS LU3,TIMES PAP PLUS PAP PLUS LU3,TIMES U2 PLUS BA"]),
  (["CUNEIFORM SIGN LAK-617 TIMES"], ["ASH,BAD,DUN3 GUNU GUNU,KU3,LA,TAR,TE,U2,UD,URUDA"]),
  (["CUNEIFORM SIGN LAK-648 TIMES"], [
    "DUB,GA,IGI,IGI GUNU,NI,PAP PLUS PAP PLUS LU3,SHESH PLUS KI,UD,URUDA"]),
  (["CUNEIFORM SIGN LU2"], [
    "CROSSING LU2,GUNU TIMES ASH,OPPOSING LU2,SHESHIG,SHESHIG TIMES BAD,SQUARED,TENU"]),
  (["CUNEIFORM SIGN LU2 TIMES"], [
    "AL,BAD,DISH,ESH2,ESH2 PLUS LAL,ESH2 TENU,GAN2 TENU,HAL,HI TIMES BAD,IM,KAD2,KAD3",
    "KAD3 PLUS ASH,KI,LA PLUS ASH,LAGAB,ME PLUS EN,NE,NU,PAP,PAP PLUS PAP PLUS LU3,SHU",
    "SI PLUS ASH,SIK2 PLUS BU,TAK4,TUG2"]),
  (["CUNEIFORM SIGN MUSH"], [
    "CROSSING MUSH,OVER MUSH,OVER MUSH TIMES A PLUS NA,OVER MUSH TIMES GA,OVER MUSH TIMES KAK",
    "TIMES A,TIMES KUR,TIMES ZA"]),
  (["CUNEIFORM SIGN NINDA2 TIMES"], [
    "AN,ASH,ASH PLUS ASH,BAL,DIM GUNU,GI,GISH,GUD,GUL,HI,KESH2,LAK-050,MASH,ME PLUS GAN2 TENU,NE",
    "NUN,PAP PLUS PAP,SHE,SHE PLUS A AN,SHE PLUS ASH,SHE PLUS ASH PLUS ASH,U,U PLUS U",
    "U2 PLUS ASH,URUDA,USH"]),
  (["CUNEIFORM SIGN NUN"], [
    "CROSSING NUN,CROSSING NUN LAGAR OVER LAGAR,LAGAR TIMES GAR,LAGAR TIMES MASH,LAGAR TIMES SAL",
    "LAGAR TIMES SAL OVER NUN LAGAR TIMES SAL,LAGAR TIMES USH,OVER NUN,TENU"]),
  (["CUNEIFORM SIGN NUNUZ"], ["KISIM5 TIMES BI,KISIM5 TIMES BI U"]),
  (["CUNEIFORM SIGN NUNUZ AB2 TIMES"], ["ASHGAB,BI,DUG,GUD,IGI GUNU,KAD3,LA,NE,SILA3,U2"]),
  (["CUNEIFORM SIGN PI"], ["CROSSING PI"]),
  (["CUNEIFORM SIGN PI TIMES"], ["A,AB,BI,BU,E,I,IB,U,U2"]),
  (["CUNEIFORM SIGN SAG"], ["GUNU,GUNU TIMES HA,NUTILLU,OVER SAG"]),
  (["CUNEIFORM SIGN SAG TIMES"], [
    "A,DU,DUB,EN,HA,IGI GUNU,KAK,KUR,LUM,MI,NUN,SAL,SHE AT LEFT,SHID,TAB,TAK4,U2,UB,UM,UR,USH"]),
  (["CUNEIFORM SIGN SHA3 TIMES"], ["A,BAD,GISH,NE,SHU2,TUR,U,U PLUS A"]),
  (["CUNEIFORM SIGN SHIM TIMES"], ["A,BAL,BULUG,DIN,GAR,IGI,IGI GUNU,KUSHU2,LUL,MUG,SAL"]),
  (["CUNEIFORM SIGN UR2"], ["INVERTED"]),
  (["CUNEIFORM SIGN UR2 TIMES"], ["A PLUS HA,A PLUS NA,AL,HA,NUN,U2,U2 PLUS ASH,U2 PLUS BI,UD"]),
  (["CUNEIFORM SIGN URU TIMES"], [
    "A,ASHGAB,BAR,DARA3,DUN,GA,GAL,GAN2 TENU,GAR,GU,HA,IGI,IM,ISH,KI,LAK-668,LU3,LUM,MIN,PA,SHE",
    "SIG4,TU,U PLUS GUD,UD,URUDA"]),
  (["CYPRIOT SYLLABLE"], [
    "A,E,I,JA,JO,KA,KE,KI,KO,KU,LA,LE,LI,LO,LU,MA,ME,MI,MO,MU,NA,NE,NI,NO,NU,O,PA,PE,PI,PO,PU,RA",
    "RE,RI,RO,RU,SA,SE,SI,SO,SU,TA,TE,TI,TO,TU,U,WA,WE,WI,WO,XA,XE,ZA,ZO"]),
  (["CYPRO-MINOAN SIGN"], [
    "CM001,CM002,CM004..CM013,CM012B,CM015,CM017,CM019,CM021,CM023..CM030,CM033..CM041,CM044",
    "CM046,CM047,CM049..CM056,CM058..CM064,CM066..CM076,CM075B,CM078..CM092,CM094..CM105",
    "CM107..CM110,CM112,CM114,CM301,CM302"]),
  (["EGYPTIAN HIEROGLYPH"], [
    "A001..A070,A005A,A006A,A006B,A014A,A017A,A032A,A040A,A042A,A043A,A045A,AA001..AA032,AA007A",
    "AA007B,B001..B009,B005A,BEGIN SEGMENT,C001..C024,C002A,C002B,C002C,C010A,D001..D067,D008A",
    "D027A,D031A,D034A,D046A,D048A,D050A,D050B,D050C,D050D,D050E,D050F,D050G,D050H,D050I,D052A",
    "D054A,D067A,D067B,D067C,D067D,D067E,D067F,D067G,D067H,E001..E034,E008A,E009A,E016A,E017A",
    "E020A,E028A,E034A,E036..E038,END SEGMENT,F001..F053,F001A,F013A,F021A,F031A,F037A,F038A",
    "F045A,F046A,F047A,F051A,F051B,F051C,G001..G054,G006A,G007A,G007B,G011A,G020A,G026A,G036A",
    "G037A,G043A,G045A,H001..H008,H006A,HORIZONTAL JOINER,I001..I015,I005A,I009A,I010A,I011A",
    "INSERT AT BOTTOM END,INSERT AT BOTTOM START,INSERT AT TOP END,INSERT AT TOP START",
    "K001..K008,L001..L008,L002A,L006A,M001..M044,M001A,M001B,M003A,M010A,M012A,M012B,M012C",
    "M012D,M012E,M012F,M012G,M012H,M015A,M016A,M017A,M022A,M024A,M028A,M031A,M033A,M033B,M040A",
    "N001..N042,N018A,N018B,N025A,N033A,N034A,N035A,N037A,NL001..NL020,NL005A,NL017A",
    "NU001..NU022,NU010A,NU011A,NU018A,NU022A,O001..O051,O001A,O005A,O006A,O006B,O006C,O006D",
    "O006E,O006F,O010A,O010B,O010C,O019A,O020A,O024A,O025A,O029A,O030A,O033A,O036A,O036B,O036C",
    "O036D,O050A,O050B,OVERLAY MIDDLE,P001..P011,P001A,P003A,Q001..Q007,R001..R029,R002A,R003A",
    "R003B,R010A,R016A,S001..S046,S002A,S006A,S014A,S014B,S017A,S026A,S026B,S035A,T001..T036",
    "T003A,T007A,T008A,T009A,T011A,T016A,T032A,T033A,U001..U042,U006A,U006B,U023A,U029A,U032A",
    "V001..V040,V001A,V001B,V001C,V001D,V001E,V001F,V001G,V001H,V001I,V002A,V007A,V007B,V011A",
    "V011B,V011C,V012A,V012B,V020A,V020B,V020C,V020D,V020E,V020F,V020G,V020H,V020I,V020J,V020K",
    "V020L,V023A,V028A,V029A,V030A,V031A,V033A,V037A,V040A,VERTICAL JOINER,W001..W025,W003A",
    "W009A,W010A,W014A,W017A,W018A,W024A,X001..X008,X004A,X004B,X006A,X008A,Y001..Y008,Y001A",
    "Z001..Z016,Z002A,Z002B,Z002C,Z002D,Z003A,Z003B,Z004A,Z005A,Z015A,Z015B,Z015C,Z015D,Z015E",
    "Z015F,Z015G,Z015H,Z015I,Z016A,Z016B,Z016C,Z016D,Z016E,Z016F,Z016G,Z016H"]),
  (["GREEK"], [
    "AROURA SIGN,ARTABE SIGN,DRACHMA SIGN,FIVE OBOLS SIGN,FOUR OBOLS SIGN,GRAMMA SIGN",
    "INDICTION SIGN,KYATHOS BASE SIGN,LITRA SIGN,METRETES SIGN,MUSICAL LEIMMA,OBOL SIGN",
    "ONE HALF SIGN,ONE HALF SIGN ALTERNATE FORM,ONE QUARTER SIGN,OUNKIA SIGN,SINUSOID SIGN",
    "SYMBOL TAU RHO,TALENT SIGN,THREE OBOLS SIGN,THREE QUARTERS SIGN,TRYBLION BASE SIGN",
    "TWO OBOLS SIGN,TWO THIRDS SIGN,XESTES SIGN,YEAR SIGN,ZERO SIGN"]),
  (["GREEK ACROPHONIC"], [
    "CARYSTIAN FIVE HUNDRED,CYRENAIC TWO DRACHMAS,DELPHIC FIVE MNAS,EPIDAUREAN FIVE HUNDRED",
    "EPIDAUREAN TWO,EPIDAUREAN TWO DRACHMAS,HERAEUM ONE PLETHRON,HERMIONIAN FIFTY,HERMIONIAN ONE",
    "HERMIONIAN TEN,MESSENIAN TEN,NAXIAN FIVE HUNDRED,STRATIAN FIFTY MNAS"]),
  (["GREEK ACROPHONIC ATTIC"], [
    "FIFTY,FIFTY STATERS,FIFTY TALENTS,FIFTY THOUSAND,FIFTY THOUSAND STATERS,FIVE,FIVE HUNDRED",
    "FIVE HUNDRED STATERS,FIVE HUNDRED TALENTS,FIVE STATERS,FIVE TALENTS,FIVE THOUSAND",
    "FIVE THOUSAND TALENTS,ONE DRACHMA,ONE HALF,ONE HUNDRED STATERS,ONE HUNDRED TALENTS",
    "ONE QUARTER,ONE THOUSAND STATERS,ONE THOUSAND TALENTS,TEN MNAS,TEN STATERS,TEN TALENTS",
    "TEN THOUSAND STATERS"]),
  (["GREEK ACROPHONIC THESPIAN"], [
    "FIFTY,FIVE HUNDRED,FIVE THOUSAND,ONE,ONE HUNDRED,ONE THOUSAND,TEN,THIRTY,THREE HUNDRED,TWO"]),
  (["GREEK ACROPHONIC TROEZENIAN"], [
    "FIFTY,FIFTY ALTERNATE FORM,FIVE,FIVE HUNDRED,TEN,TEN ALTERNATE FORM"]),
  (["GREEK INSTRUMENTAL NOTATION"], [
    "SYMBOL-1,SYMBOL-11..SYMBOL-14,SYMBOL-17..SYMBOL-19,SYMBOL-2,SYMBOL-23..SYMBOL-27,SYMBOL-29",
    "SYMBOL-30,SYMBOL-32,SYMBOL-36..SYMBOL-40,SYMBOL-4,SYMBOL-42,SYMBOL-43,SYMBOL-45",
    "SYMBOL-47..SYMBOL-54,SYMBOL-5,SYMBOL-7,SYMBOL-8"]),
  (["GREEK VOCAL NOTATION"], ["SYMBOL-1..SYMBOL-9,SYMBOL-10..SYMBOL-24,SYMBOL-50..SYMBOL-54"]),
  (["LINEAR A SIGN"], [
    "A028B,A100-102,A120B,A131C,A301..A308,A309A,A309B,A309C,A310..A312,A313A,A313B,A313C",
    "A314..A371,A400-VAS,A401-VAS,A402-VAS,A403-VAS,A404-VAS,A405-VAS,A406-VAS,A407-VAS,A408-VAS",
    "A409-VAS,A410-VAS,A411-VAS,A412-VAS,A413-VAS,A414-VAS,A415-VAS,A416-VAS,A417-VAS,A418-VAS",
    "A501..A506,A508..A513,A515,A516,A520,A521,A523..A532,A534..A542,A545,A547..A557,A559",
    "A563..A566,A568..A589,A591,A592,A594..A596,A598,A600..A604,A606,A608..A624,A626..A629,A634",
    "A637,A638,A640,A642..A646,A648,A649,A651..A664,A701 A,A702 B,A703 D,A704 E,A705 F,A706 H",
    "A707 J,A708 K,A709 L,A709-2 L2,A709-3 L3,A709-4 L4,A709-6 L6,A710 W,A711 X,A712 Y",
    "A713 OMEGA,A714 ABB,A715 BB,A717 DD,A726 EYYY,A732 JE,A800..A807,AB001..AB011,AB013,AB016",
    "AB017,AB020..AB024,AB021F,AB021M,AB022F,AB022M,AB023M,AB026..AB031,AB034,AB037..AB041",
    "AB044..AB051,AB053..AB061,AB065..AB067,AB069,AB070,AB073,AB074,AB076..AB082,AB085..AB087",
    "AB118,AB120,AB122,AB123,AB131A,AB131B,AB164,AB171,AB180,AB188,AB191"]),
  (["LINEAR B IDEOGRAM"], [
    "B100 MAN,B102 WOMAN,B104 DEER,B105 EQUID,B105F MARE,B105M STALLION,B106F EWE,B106M RAM",
    "B107F SHE-GOAT,B107M HE-GOAT,B108F SOW,B108M BOAR,B109F COW,B109M BULL,B120 WHEAT",
    "B121 BARLEY,B122 OLIVE,B123 SPICE,B125 CYPERUS,B130 OIL,B131 WINE,B132,B140 BRONZE",
    "B141 GOLD,B142,B145 WOOL,B146,B150,B151 HORN,B152..B154,B157,B158,B159 CLOTH,B160,B161",
    "B162 GARMENT,B163 ARMOUR,B164..B172,B173 MONTH,B174,B176 TREE,B177..B185,B189,B190",
    "B191 HELMET,B220 FOOTSTOOL,B225 BATHTUB,B230 SPEAR,B231 ARROW,B232,B233 SWORD,B234,B236",
    "B240 WHEELED CHARIOT,B241 CHARIOT,B242 CHARIOT FRAME,B243 WHEEL,B245,B246,B248,B249",
    "B251..B253,B254 DART,B255..B259,VESSEL B155,VESSEL B200..VESSEL B219,VESSEL B221",
    "VESSEL B222,VESSEL B226..VESSEL B229,VESSEL B250,VESSEL B305"]),
  (["LINEAR B MONOGRAM"], ["B127 KAPO,B128 KANAKO,B133 AREPA,B135 MERI,B156 TURO2,B247 DIPTE"]),
  (["LINEAR B SYLLABLE"], [
    "B001 DA,B002 RO,B003 PA,B004 TE,B005 TO,B006 NA,B007 DI,B008 A,B009 SE,B010 U,B011 PO",
    "B012 SO,B013 ME,B014 DO,B015 MO,B016 QA,B017 ZA,B020 ZO,B021 QI,B023 MU,B024 NE,B025 A2",
    "B026 RU,B027 RE,B028 I,B029 PU2,B030 NI,B031 SA,B032 QO,B033 RA3,B036 JO,B037 TI,B038 E",
    "B039 PI,B040 WI,B041 SI,B042 WO,B043 A3,B044 KE,B045 DE,B046 JE,B048 NWA,B050 PU,B051 DU",
    "B052 NO,B053 RI,B054 WA,B055 NU,B057 JA,B058 SU,B059 TA,B060 RA,B061 O,B062 PTE,B065 JU",
    "B066 TA2,B067 KI,B068 RO2,B069 TU,B070 KO,B071 DWE,B072 PE,B073 MI,B074 ZE,B075 WE,B076 RA2",
    "B077 KA,B078 QE,B080 MA,B081 KU,B085 AU,B087 TWE,B090 DWO,B091 TWO"]),
  (["LINEAR B SYMBOL"], [
    "B018,B019,B022,B034,B047,B049,B056,B063,B064,B079,B082,B083,B086,B089"]),
  (["MEROITIC CURSIVE"], ["LOGOGRAM IMN,LOGOGRAM RMT"]),
  (["MEROITIC CURSIVE FRACTION"], [
    "EIGHT TWELFTHS,ELEVEN TWELFTHS,FIVE TWELFTHS,FOUR TWELFTHS,NINE TWELFTHS,ONE HALF",
    "ONE TWELFTH,SEVEN TWELFTHS,SIX TWELFTHS,TEN TWELFTHS,THREE TWELFTHS,TWO TWELFTHS"]),
  (["MEROITIC CURSIVE LETTER"], [
    "A,ARCHAIC SA,BA,DA,E,HHA,I,KA,KHA,LA,MA,NA,NE,O,PA,QA,RA,SA,SE,TA,TE,TO,WA,YA"]),
  (["MEROITIC CURSIVE NUMBER"], [
    "EIGHT,EIGHT HUNDRED,EIGHT HUNDRED THOUSAND,EIGHT THOUSAND,EIGHTY THOUSAND,FIFTY",
    "FIFTY THOUSAND,FIVE,FIVE HUNDRED,FIVE HUNDRED THOUSAND,FIVE THOUSAND,FORTY,FORTY THOUSAND",
    "FOUR,FOUR HUNDRED,FOUR HUNDRED THOUSAND,FOUR THOUSAND,NINE,NINE HUNDRED",
    "NINE HUNDRED THOUSAND,NINE THOUSAND,NINETY THOUSAND,ONE,ONE HUNDRED,ONE HUNDRED THOUSAND",
    "ONE THOUSAND,SEVEN,SEVEN HUNDRED,SEVEN HUNDRED THOUSAND,SEVEN THOUSAND,SEVENTY",
    "SEVENTY THOUSAND,SIX,SIX HUNDRED,SIX HUNDRED THOUSAND,SIX THOUSAND,SIXTY,SIXTY THOUSAND,TEN",
    "TEN THOUSAND,THIRTY,THIRTY THOUSAND,THREE,THREE HUNDRED,THREE HUNDRED THOUSAND",
    "THREE THOUSAND,TWENTY,TWENTY THOUSAND,TWO,TWO HUNDRED,TWO HUNDRED THOUSAND,TWO THOUSAND"]),
  (["MEROITIC HIEROGLYPHIC"], ["SYMBOL VIDJ,SYMBOL VIDJ-2"]),
  (["MEROITIC HIEROGLYPHIC LETTER"], [
    "A,BA,BA-2,DA,E,HHA,I,KA,KHA,LA,MA,NA,NA-2,NE,NE-2,O,PA,QA,RA,RA-2,SA,SA-2,SE,TA,TA-2,TE",
    "TE-2,TO,WA,YA"]),
  (["OLD PERSIAN"], [
    "NUMBER HUNDRED,NUMBER ONE,NUMBER TEN,NUMBER TWENTY,NUMBER TWO,WORD DIVIDER"]),
  (["OLD PERSIAN SIGN"], [
    "A,AURAMAZDAA,AURAMAZDAA-2,AURAMAZDAAHA,BA,BAGA,BUUMISH,CA,DA,DAHYAAUSH,DAHYAAUSH-2,DI,DU,FA",
    "GA,GU,HA,I,JA,JI,KA,KU,LA,MA,MI,MU,NA,NU,PA,RA,RU,SA,SHA,SSA,TA,THA,TU,U,VA,VI,XA",
    "XSHAAYATHIYA,YA,ZA"]),
  (["PHAISTOS DISC SIGN"], [
    "ARROW,BEE,BEEHIVE,BOOMERANG,BOW,BULLS LEG,CAPTIVE,CARPENTRY PLANE,CAT,CHILD,CLUB,COLUMN",
    "COMB,COMBINING OBLIQUE STROKE,DOLIUM,DOVE,EAGLE,FLUTE,GAUNTLET,GRATER,HELMET,HIDE,HORN,LID",
    "LILY,MANACLES,MATTOCK,OX BACK,PAPYRUS,PEDESTRIAN,PLANE TREE,PLUMED HEAD,RAM,ROSETTE,SAW",
    "SHIELD,SHIP,SLING,SMALL AXE,STRAINER,TATTOOED HEAD,TIARA,TUNNY,VINE,WAVY BAND,WOMAN"]),
  (["ROMAN"], [
    "AS SIGN,CENTURIAL SIGN,DENARIUS SIGN,DIMIDIA SEXTULA SIGN,DUPONDIUS SIGN,QUINARIUS SIGN",
    "SEMUNCIA SIGN,SESTERTIUS SIGN,SEXTANS SIGN,SEXTULA SIGN,SILIQUA SIGN,UNCIA SIGN"]),
  (["UGARITIC"], ["WORD DIVIDER"]),
  (["UGARITIC LETTER"], [
    "AIN,ALPA,BETA,DELTA,DHAL,GAMLA,GHAIN,HO,HOTA,I,KAF,KHA,LAMDA,MEM,NUN,PU,QOPA,RASHA,SADE",
    "SAMKA,SHIN,SSU,TET,THANNA,TO,U,WO,YOD,ZETA,ZU"])]

end AwaitLint.Text
