/-! # Scripts of Southeast Asia

Thai, Khmer, Myanmar and the scripts of the islands.
-/

namespace AwaitLint.Text

def southeastAsianNames : List (List String × List String) := [
  ([""], ["PHILIPPINE DOUBLE PUNCTUATION,PHILIPPINE SINGLE PUNCTUATION"]),
  (["AHOM"], [
    "CONSONANT SIGN MEDIAL LA,CONSONANT SIGN MEDIAL LIGATING RA,CONSONANT SIGN MEDIAL RA",
    "NUMBER TEN,NUMBER TWENTY,SIGN KILLER,SIGN RULAI,SIGN SECTION,SIGN SMALL SECTION,SYMBOL VI"]),
  (["AHOM DIGIT", "BALINESE DIGIT", "CHAM DIGIT", "HANIFI ROHINGYA DIGIT", "JAVANESE DIGIT",
    "KAYAH LI DIGIT", "KHMER DIGIT", "LAO DIGIT", "LIMBU DIGIT", "MRO DIGIT", "MYANMAR DIGIT",
    "MYANMAR SHAN DIGIT", "MYANMAR TAI LAING DIGIT", "NEW TAI LUE DIGIT",
    "NYIAKENG PUACHUE HMONG DIGIT", "PAHAWH HMONG DIGIT", "SUNDANESE DIGIT",
    "TAI THAM HORA DIGIT", "TAI THAM THAM DIGIT", "TANGSA DIGIT", "THAI DIGIT"], [
    "EIGHT,FIVE,FOUR,NINE,ONE,SEVEN,SIX,THREE,TWO,ZERO"]),
  (["AHOM LETTER"], [
    "A,ALTERNATE BA,ALTERNATE GA,ALTERNATE TA,BA,BHA,CA,CHA,DA,DDA,DDHA,DHA,GA,GHA,HA,JA,JHA,KA",
    "KHA,LA,LLA,MA,NA,NGA,NNA,NYA,PA,PHA,RA,SA,TA,THA,TTA,TTHA"]),
  (["AHOM VOWEL SIGN"], ["A,AA,AI,AM,AW,E,I,II,O,U,UU"]),
  (["BALINESE"], [
    "ADEG ADEG,CARIK PAMUNGKAH,CARIK PAREREN,CARIK SIKI,PAMADA,PAMADA LANTANG,PAMENENG,PANTI",
    "PANTI LANTANG,SIGN BISAH,SIGN CECEK,SIGN REREKAN,SIGN SURANG,SIGN ULU CANDRA,SIGN ULU RICEM",
    "WINDU"]),
  (["BALINESE LETTER"], [
    "AIKARA,AKARA,AKARA TEDUNG,ARCHAIC JNYA,ASYURA SASAK,BA,BA KEMBANG,CA,CA LACA,DA,DA MADU",
    "DA MURDA ALPAPRANA,DA MURDA MAHAPRANA,EF SASAK,EKARA,GA,GA GORA,HA,IKARA,IKARA TEDUNG,JA",
    "JA JERA,KA,KA MAHAPRANA,KAF SASAK,KHOT SASAK,LA,LA LENGA,LA LENGA TEDUNG,MA,NA,NA RAMBAT",
    "NGA,NYA,OKARA,OKARA TEDUNG,PA,PA KAPAL,RA,RA REPA,RA REPA TEDUNG,SA,SA SAGA,SA SAPA,TA",
    "TA LATIK,TA MURDA MAHAPRANA,TA TAWA,TZIR SASAK,UKARA,UKARA TEDUNG,VE SASAK,WA,YA,ZAL SASAK"]),
  (["BALINESE MUSICAL SYMBOL"], [
    "DAENG,DAING,DANG,DANG GEDE,DANG SURANG,DENG,DEUNG,DING,DONG,DUNG,LEFT-HAND CLOSED PLAK",
    "LEFT-HAND CLOSED PLUK,LEFT-HAND OPEN PANG,LEFT-HAND OPEN PING,LEFT-HAND OPEN PUNG",
    "RIGHT-HAND CLOSED TAK,RIGHT-HAND CLOSED TUK,RIGHT-HAND OPEN DAG,RIGHT-HAND OPEN DUG"]),
  (["BALINESE MUSICAL SYMBOL COMBINING"], [
    "BENDE,ENDEP,GONG,JEGOGAN,KEMPLI,KEMPLI WITH JEGOGAN,KEMPUL,KEMPUL WITH JEGOGAN,TEGEH"]),
  (["BALINESE VOWEL SIGN"], [
    "LA LENGA,LA LENGA TEDUNG,PEPET,PEPET TEDUNG,RA REPA,RA REPA TEDUNG,SUKU,SUKU ILUT,TALING",
    "TALING REPA,TALING REPA TEDUNG,TALING TEDUNG,TEDUNG,ULU,ULU SARI"]),
  (["BATAK"], [
    "CONSONANT SIGN H,CONSONANT SIGN NG,PANGOLAT,PANONGONAN,SIGN TOMPI,SYMBOL BINDU JUDUL",
    "SYMBOL BINDU NA METEK,SYMBOL BINDU PANGOLAT,SYMBOL BINDU PINARBORAS"]),
  (["BATAK LETTER"], [
    "A,BA,CA,DA,GA,HA,I,JA,KARO BA,LA,MA,MANDAILING HA,MANDAILING NA,MANDAILING SA,MBA,NA,NDA",
    "NGA,NORTHERN TA,NYA,PA,PAKPAK WA,RA,SA,SOUTHERN TA,U,WA,YA"]),
  (["BATAK LETTER SIMALUNGUN"], ["A,GA,HA,LA,MA,PA,RA,SA,WA,YA"]),
  (["BATAK VOWEL SIGN"], ["E,EE,I,KARO I,KARO O,O,PAKPAK E,U,U FOR SIMALUNGUN SA"]),
  (["BUGINESE"], [
    "END OF SECTION,PALLAWA,VOWEL SIGN AE,VOWEL SIGN E,VOWEL SIGN I,VOWEL SIGN O,VOWEL SIGN U"]),
  (["BUGINESE LETTER"], [
    "A,BA,CA,DA,GA,HA,JA,KA,LA,MA,MPA,NA,NGA,NGKA,NRA,NYA,NYCA,PA,RA,SA,TA,VA,YA"]),
  (["BUHID", "TAGBANWA"], ["VOWEL SIGN I,VOWEL SIGN U"]),
  (["BUHID LETTER", "HANUNOO LETTER"], ["A,BA,DA,GA,HA,I,KA,LA,MA,NA,NGA,PA,RA,SA,TA,U,WA,YA"]),
  (["CHAM CONSONANT"], [
    "SIGN FINAL H,SIGN FINAL M,SIGN FINAL NG,SIGN LA,SIGN RA,SIGN WA,SIGN YA"]),
  (["CHAM LETTER"], [
    "A,AI,BA,BBA,BHA,CHA,CHHA,DA,DDA,DHA,E,GA,GHA,HA,I,JA,JHA,KA,KHA,LA,MA,MUE,NA,NGA,NGUE,NHA",
    "NHJA,NHUE,NUE,O,PA,PHA,PPA,RA,SA,SSA,TA,THA,U,VA,YA"]),
  (["CHAM LETTER FINAL"], ["CH,G,K,L,N,NG,P,R,SS,T,Y"]),
  (["CHAM PUNCTUATION"], ["DANDA,DOUBLE DANDA,SPIRAL,TRIPLE DANDA"]),
  (["CHAM VOWEL SIGN"], ["AA,AI,AU,EI,I,II,O,OE,U,UE"]),
  (["HANIFI ROHINGYA"], [
    "MARK NA KHONNA,MARK SAKIN,SIGN HARBAHAY,SIGN TAHALA,SIGN TANA,SIGN TASSI,VOWEL A,VOWEL E",
    "VOWEL I,VOWEL O,VOWEL U"]),
  (["HANIFI ROHINGYA LETTER"], [
    "A,BA,CA,DA,DDA,FA,GA,HA,JA,KA,KHA,KINNA WA,KINNA YA,LA,MA,NA,NGA,NYA,PA,RA,RRA,SA,SHA,TA",
    "TTA,VA,WA,YA,ZA"]),
  (["HANUNOO"], ["SIGN PAMUDPOD,VOWEL SIGN I,VOWEL SIGN U"]),
  (["JAVANESE"], [
    "CONSONANT SIGN CAKRA,CONSONANT SIGN KERET,CONSONANT SIGN PENGKAL,LEFT RERENGGAN,PANGKON",
    "PANGRANGKEP,RIGHT RERENGGAN,SIGN CECAK,SIGN CECAK TELU,SIGN LAYAR,SIGN PANYANGGA",
    "SIGN WIGNYAN,TURNED PADA PISELEH"]),
  (["JAVANESE LETTER"], [
    "A,AI,BA,BA MURDA,CA,CA MURDA,DA,DA MAHAPRANA,DDA,DDA MAHAPRANA,E,GA,GA MURDA,HA,I,I KAWI,II",
    "JA,JA MAHAPRANA,KA,KA MURDA,KA SASAK,LA,MA,NA,NA MURDA,NGA,NGA LELET,NGA LELET RASWADI,NYA",
    "NYA MURDA,O,PA,PA CEREK,PA MURDA,RA,RA AGUNG,SA,SA MAHAPRANA,SA MURDA,TA,TA MURDA,TTA",
    "TTA MAHAPRANA,U,WA,YA"]),
  (["JAVANESE PADA"], [
    "ADEG,ADEG ADEG,ANDAP,ISEN-ISEN,LINGSA,LUHUR,LUNGSI,MADYA,PANGKAT,PISELEH,TIRTA TUMETES",
    "WINDU"]),
  (["JAVANESE VOWEL SIGN"], [
    "DIRGA MURE,PEPET,SUKU,SUKU MENDUT,TALING,TARUNG,TOLONG,WULU,WULU MELIK"]),
  (["KAYAH LI"], [
    "SIGN CWI,SIGN SHYA,TONE CALYA,TONE CALYA PLOPHU,TONE PLOPHU,VOWEL E,VOWEL EE,VOWEL O",
    "VOWEL U,VOWEL UE"]),
  (["KAYAH LI LETTER"], [
    "A,BA,CA,DA,GA,HA,HTA,I,KA,KHA,LA,MA,NA,NGA,NYA,OE,OO,PA,PHA,RA,SA,SHA,TA,THA,VA,WA,YA,ZA"]),
  (["KHMER"], ["CURRENCY SYMBOL RIEL"]),
  (["KHMER INDEPENDENT VOWEL"], [
    "LY,LYY,QAA,QAI,QAQ,QAU,QE,QI,QII,QOO TYPE ONE,QOO TYPE TWO,QU,QUK,QUU,QUUV,RY,RYY"]),
  (["KHMER LETTER"], [
    "BA,CA,CHA,CHO,CO,DA,DO,HA,KA,KHA,KHO,KO,LA,LO,MO,NGO,NNO,NO,NYO,PHA,PHO,PO,QA,RO,SA,SHA,SSO",
    "TA,THA,THO,TO,TTHA,TTHO,VO,YO"]),
  (["KHMER SIGN"], [
    "AHSDA,ATTHACAN,AVAKRAHASANYA,BANTOC,BARIYOOSAN,BATHAMASAT,BEYYAL,CAMNUC PII KUUH,COENG",
    "KAKABAT,KHAN,KOOMUUT,LEK TOO,MUUSIKATOAN,NIKAHIT,PHNAEK MUAN,REAHMUK,ROBAT,SAMYOK SANNYA",
    "TOANDAKHIAT,TRIISAP,VIRIAM,YUUKALEAPINTU"]),
  (["KHMER SYMBOL"], [
    "BEI KOET,BEI ROC,BUON KOET,BUON ROC,DAP KOET,DAP ROC,DAP-BEI KOET,DAP-BEI ROC,DAP-BUON KOET",
    "DAP-BUON ROC,DAP-MUOY KOET,DAP-MUOY ROC,DAP-PII KOET,DAP-PII ROC,DAP-PRAM KOET,DAP-PRAM ROC",
    "MUOY KOET,MUOY ROC,PATHAMASAT,PII KOET,PII ROC,PRAM KOET,PRAM ROC,PRAM-BEI KOET",
    "PRAM-BEI ROC,PRAM-BUON KOET,PRAM-BUON ROC,PRAM-MUOY KOET,PRAM-MUOY ROC,PRAM-PII KOET",
    "PRAM-PII ROC,TUTEYASAT"]),
  (["KHMER SYMBOL LEK ATTAK"], [
    "BEI,BUON,MUOY,PII,PRAM,PRAM-BEI,PRAM-BUON,PRAM-MUOY,PRAM-PII,SON"]),
  (["KHMER VOWEL"], ["INHERENT AA,INHERENT AQ"]),
  (["KHMER VOWEL SIGN"], ["AA,AE,AI,AU,E,I,IE,II,OE,OO,U,UA,UU,Y,YA,YY"]),
  (["LAO"], [
    "CANCELLATION MARK,ELLIPSIS,HO MO,HO NO,KO LA,NIGGAHITA,SEMIVOWEL SIGN LO,SEMIVOWEL SIGN NYO",
    "SIGN PALI VIRAMA,TONE MAI CATAWA,TONE MAI EK,TONE MAI THO,TONE MAI TI"]),
  (["LAO LETTER"], [
    "BO,CO,DO,FO SUNG,FO TAM,HO SUNG,HO TAM,KHMU GO,KHMU NYO,KHO SUNG,KHO TAM,KO,LO LING,LO LOOT",
    "MO,NGO,NO,NYO,O,PHO SUNG,PHO TAM,PO,SANSKRIT SHA,SANSKRIT SSA,SO SUNG,SO TAM,THO SUNG",
    "THO TAM,TO,WO,YO"]),
  (["LAO LETTER PALI"], ["BHA,CHA,DDA,DDHA,DHA,GHA,JHA,LLA,NNA,NYA,TTA,TTHA"]),
  (["LAO VOWEL SIGN"], ["A,AA,AI,AM,AY,E,EI,I,II,MAI KAN,MAI KON,O,U,UU,Y,YY"]),
  (["LIMBU"], [
    "EXCLAMATION MARK,QUESTION MARK,SIGN KEMPHRENG,SIGN LOO,SIGN MUKPHRENG,SIGN SA-I",
    "SUBJOINED LETTER RA,SUBJOINED LETTER WA,SUBJOINED LETTER YA,VOWEL-CARRIER LETTER"]),
  (["LIMBU LETTER"], [
    "BA,BHA,CA,CHA,DA,DHA,GA,GHA,GYAN,HA,JA,JHA,KA,KHA,LA,MA,NA,NGA,PA,PHA,RA,SA,SHA,SSA,TA,THA",
    "TRA,WA,YA,YAN"]),
  (["LIMBU SMALL LETTER"], ["ANUSVARA,KA,LA,MA,NA,NGA,PA,RA,TA"]),
  (["LIMBU VOWEL SIGN"], ["A,AI,AU,E,EE,I,O,OO,U"]),
  (["MRO"], ["DANDA,DOUBLE DANDA"]),
  (["MRO LETTER"], [
    "A,BA,CHU,DA,DAI,E,EA,HAI,HAO,KEAAE,KHAI,KO,LA,LAN,MAEM,MIM,NGI,NIN,O,OL,OO,PA,PHI,RI,RO,SHI",
    "TA,TEK,THEA,WA,YO"]),
  (["MYANMAR"], [
    "LOGOGRAM KHAMTI HM,LOGOGRAM KHAMTI OAY,LOGOGRAM KHAMTI QN",
    "MODIFIER LETTER KHAMTI REDUPLICATION,MODIFIER LETTER SHAN REDUPLICATION",
    "TONE MARK SGAW KAREN HATHI,TONE MARK SGAW KAREN KE PHO"]),
  (["MYANMAR CONSONANT"], [
    "SIGN MEDIAL HA,SIGN MEDIAL RA,SIGN MEDIAL WA,SIGN MEDIAL YA,SIGN MON MEDIAL LA",
    "SIGN MON MEDIAL MA,SIGN MON MEDIAL NA,SIGN SHAN MEDIAL WA"]),
  (["MYANMAR LETTER"], [
    "A,AITON RA,AU,BA,BHA,CA,CHA,DA,DDA,DDHA,DHA,E,EASTERN PWO KAREN GHWA,EASTERN PWO KAREN NNA",
    "EASTERN PWO KAREN YWA,GA,GHA,GREAT SA,HA,I,II,JA,JHA,KA,KHA,LA,LLA,MA,MON BBA,MON BBE,MON E",
    "MON JHA,MON NGA,NA,NGA,NNA,NNYA,NYA,O,PA,PHA,RA,RUMAI PALAUNG FA,SA,SGAW KAREN SHA,SHA",
    "SHWE PALAUNG CHA,SHWE PALAUNG SHA,SSA,TA,THA,TTA,TTHA,U,UU,VOCALIC L,VOCALIC LL,VOCALIC R",
    "VOCALIC RR,WA,WESTERN PWO KAREN PWA,WESTERN PWO KAREN THA,YA"]),
  (["MYANMAR LETTER KHAMTI"], [
    "CA,CHA,DDA,DDHA,DHA,FA,GA,HA,HHA,JA,JHA,NA,NYA,RA,SA,TTA,TTHA,XA,ZA"]),
  (["MYANMAR LETTER SHAN"], ["A,BA,BHA,CA,CHA,DA,FA,GA,GHA,HA,JHA,KA,KHA,NA,NNA,NYA,PHA,THA,ZA"]),
  (["MYANMAR LETTER TAI LAING"], ["BA,BHA,DA,DDA,DDHA,DHA,FA,GA,GHA,JA,JHA,LLA,NNA,NYA"]),
  (["MYANMAR SIGN"], [
    "ANUSVARA,ASAT,DOT BELOW,KHAMTI TONE-1,KHAMTI TONE-3,LITTLE SECTION,PAO KAREN TONE",
    "RUMAI PALAUNG TONE-5,SECTION,TAI LAING TONE-2,TAI LAING TONE-5,VIRAMA,VISARGA"]),
  (["MYANMAR SIGN SHAN"], [
    "COUNCIL EMPHATIC TONE,COUNCIL TONE-2,COUNCIL TONE-3,SAW,TONE-2,TONE-3,TONE-5,TONE-6"]),
  (["MYANMAR SIGN WESTERN"], ["PWO KAREN TONE-1..PWO KAREN TONE-5"]),
  (["MYANMAR SYMBOL"], [
    "AFOREMENTIONED,AITON EXCLAMATION,AITON ONE,AITON TWO,COMPLETED,GENITIVE,LOCATIVE",
    "SHAN EXCLAMATION,SHAN ONE"]),
  (["MYANMAR VOWEL SIGN"], [
    "AA,AI,AITON A,AITON AI,E,E ABOVE,GEBA KAREN I,I,II,KAYAH EE,KAYAH OE,KAYAH U,MON II,MON O",
    "SGAW KAREN EU,SHAN AA,SHAN E,SHAN E ABOVE,SHAN FINAL Y,TALL AA,U,UU,VOCALIC L,VOCALIC LL",
    "VOCALIC R,VOCALIC RR,WESTERN PWO KAREN EU,WESTERN PWO KAREN UE"]),
  (["NEW TAI LUE"], ["SIGN LAE,SIGN LAEV,THAM DIGIT ONE,TONE MARK-1,TONE MARK-2"]),
  (["NEW TAI LUE LETTER"], ["FINAL B,FINAL D,FINAL K,FINAL M,FINAL N,FINAL NG,FINAL V"]),
  (["NEW TAI LUE LETTER HIGH", "NEW TAI LUE LETTER LOW"], [
    "BA,DA,FA,HA,KA,KVA,LA,MA,NA,NGA,PA,PHA,QA,SA,SUA,TA,THA,TSA,VA,XA,XVA,YA"]),
  (["NEW TAI LUE VOWEL SIGN"], [
    "AA,AAY,AE,AY,E,II,IY,O,OA,OAY,OY,U,UE,UEY,UU,UY,VOWEL SHORTENER"]),
  (["NYIAKENG PUACHUE HMONG"], [
    "CIRCLED CA,LOGOGRAM NYAJ,SIGN FOR ANIMAL,SIGN FOR INVERTEBRATE,SIGN FOR LOCATION",
    "SIGN FOR PERSON,SIGN FOR THING,SIGN XW XW,SYLLABLE LENGTHENER,TONE-B,TONE-D,TONE-G,TONE-J",
    "TONE-M,TONE-S,TONE-V"]),
  (["NYIAKENG PUACHUE HMONG LETTER"], [
    "A,AA,CA,DA,DLA,E,EE,FA,GA,HA,HAH,I,KA,LA,MA,MLA,NA,NCA,NKA,NPA,NPLA,NQA,NRA,NTA,NTSA,NTXA",
    "NYA,O,OO,PA,PLA,QA,RA,RRA,SA,TA,TSA,TXA,U,VA,W,XA,XYA,YA,ZA"]),
  (["PAHAWH HMONG"], [
    "MARK CIM HOM,MARK CIM KES,MARK CIM KHAV,MARK CIM SO,MARK CIM SUAM,MARK CIM TAUM",
    "MARK CIM TUB"]),
  (["PAHAWH HMONG CLAN SIGN"], [
    "FAJ,HAM,HAWJ,KHAB,KOO,KWM,LAUJ,LIS,MUAS,PHAB,THOJ,TSAB,TSHEEJ,TSWB,VAJ,VWJ,XYOOJ,YAJ,YEEG"]),
  (["PAHAWH HMONG CONSONANT"], [
    "AU,CAU,CHAU,HAU,HLAU,HNAU,LAU,MAU,NAU,NCHAU,NKAU,NLAU,NTHAU,NTSAU,PLHAU,QHAU,RAU,VAU,XAU",
    "YAU"]),
  (["PAHAWH HMONG NUMBER"], [
    "HUNDRED MILLIONS,HUNDREDS,MILLIONS,TEN BILLIONS,TEN THOUSANDS,TENS,TRILLIONS"]),
  (["PAHAWH HMONG SIGN"], [
    "AV,CIM CHEEM,CIM CUAM TSHOOJ,CIM HAIS LUS NTOG NTOG,CIM NRES TOS,CIM PUB DAWB,CIM TSOV ROG",
    "CIM TXWV,CIM TXWV CHWV,HLI,HNUB,IB YAM,LOS,MEEJ SUAB,MEEJ TSEEB,MUS,NQIG,NTUJ,TAU",
    "THIRD-STAGE HLI,TXHEEJ CEEV,VOS FEEM,VOS LUB,VOS NRUA,VOS SEEV,VOS THIAB,VOS THOM",
    "VOS TSHAB CEEB,XAUS,XIAB,XYEEM FAIB,XYEEM NTXIV,XYEEM RHO,XYEEM TOV,XYOO,ZWJ THAJ"]),
  (["PAHAWH HMONG VOWEL"], [
    "KAAB,KAAV,KAB,KAIB,KAIV,KAUB,KAUV,KAV,KAWB,KAWV,KEB,KEEB,KEEV,KEV,KIAB,KIAV,KIB,KIV,KOB",
    "KOOB,KOOV,KOV,KUAB,KUAV,KUB,KUV,KWB,KWV"]),
  (["REJANG"], ["SECTION MARK,VIRAMA"]),
  (["REJANG CONSONANT"], ["SIGN H,SIGN N,SIGN NG,SIGN R"]),
  (["REJANG LETTER"], [
    "A,BA,CA,DA,GA,HA,JA,KA,LA,MA,MBA,NA,NDA,NGA,NGGA,NYA,NYJA,PA,RA,SA,TA,WA,YA"]),
  (["REJANG VOWEL SIGN"], ["AI,AU,E,EA,EU,I,O,U"]),
  (["SUNDANESE"], [
    "AVAGRAHA,SIGN PAMAAEH,SIGN PANGLAYAR,SIGN PANGWISAD,SIGN PANYECEK,SIGN VIRAMA"]),
  (["SUNDANESE CONSONANT"], [
    "SIGN PAMINGKAL,SIGN PANYAKRA,SIGN PANYIKU,SIGN PASANGAN MA,SIGN PASANGAN WA"]),
  (["SUNDANESE LETTER"], [
    "A,AE,BA,BHA,CA,DA,E,EU,FA,FINAL K,FINAL M,GA,HA,I,JA,KA,KHA,LA,LEU,MA,NA,NGA,NYA,O,PA,QA,RA",
    "REU,SA,SYA,TA,U,VA,WA,XA,YA,ZA"]),
  (["SUNDANESE VOWEL"], [
    "SIGN PAMEPET,SIGN PANAELAENG,SIGN PANEULEUNG,SIGN PANGHULU,SIGN PANOLONG,SIGN PANYUKU"]),
  (["TAGALOG"], ["SIGN PAMUDPOD,SIGN VIRAMA,VOWEL SIGN I,VOWEL SIGN U"]),
  (["TAGALOG LETTER"], ["A,ARCHAIC RA,BA,DA,GA,HA,I,KA,LA,MA,NA,NGA,PA,RA,SA,TA,U,WA,YA"]),
  (["TAGBANWA LETTER"], ["A,BA,DA,GA,I,KA,LA,MA,NA,NGA,PA,SA,TA,U,WA,YA"]),
  (["TAI LE LETTER"], [
    "A,AI,AUE,E,EE,EH,FA,HA,I,KA,KHA,LA,MA,NA,NGA,O,OO,PA,PHA,QA,SA,TA,THA,TONE-2..TONE-6,TSA",
    "TSHA,U,UE,VA,XA,YA"]),
  (["TAI THAM"], ["COMBINING CRYPTOGRAMMIC DOT"]),
  (["TAI THAM CONSONANT SIGN"], [
    "BA,FINAL NGA,HIGH RATHA OR LOW PA,LA TANG LAI,LOW PA,MA,MEDIAL LA,MEDIAL RA,SA"]),
  (["TAI THAM LETTER"], [
    "A,BA,DA,EE,GREAT SA,I,II,LA,LAE,LLA,LUE,MA,NA,NGA,NYA,OO,RA,RANA,RATA,RUE,U,UU,WA"]),
  (["TAI THAM LETTER HIGH"], ["CA,CHA,FA,HA,KA,KHA,KXA,PA,PHA,RATHA,SA,SHA,SSA,TA,THA,YA"]),
  (["TAI THAM LETTER LOW"], ["CA,CHA,FA,HA,KA,KHA,KXA,PA,PHA,RATHA,SA,TA,THA,YA"]),
  (["TAI THAM SIGN"], [
    "CAANG,DOKMAI,HANG,HOY,KAAN,KAANKUU,KEOW,KHUEN TONE-3..KHUEN TONE-5,KHUEN-LUE KARAN,MAI KANG",
    "MAI KANG LAI,MAI SAM,MAI YAMOK,RA HAAM,REVERSED ROTATED RANA,SAKOT,SATKAAN,SATKAANKUU,SAWAN",
    "TONE-1,TONE-2,WIANG,WIANGWAAK"]),
  (["TAI THAM VOWEL SIGN"], [
    "A,AA,AE,AI,E,I,II,MAI SAT,O,OA ABOVE,OA BELOW,OO,OY,TALL AA,THAM AI,U,UE,UU,UUE"]),
  (["TAI VIET"], [
    "MAI KANG,MAI KHIT,SYMBOL HO HOI,SYMBOL KOI KOI,SYMBOL KON,SYMBOL NUENG,SYMBOL SAM",
    "TONE MAI EK,TONE MAI NUENG,TONE MAI SONG,TONE MAI THO"]),
  (["TAI VIET LETTER HIGH", "TAI VIET LETTER LOW"], [
    "BO,CHO,CO,DO,FO,GO,HO,KHHO,KHO,KO,LO,MO,NGO,NO,NYO,O,PHO,PO,RO,SO,THO,TO,VO,YO"]),
  (["TAI VIET VOWEL"], ["AA,AM,AN,AUE,AY,E,I,IA,O,U,UA,UE,UEA"]),
  (["TANGSA LETTER"], [
    "AC,AQ,AWC,AWQ,AWX,AWZ,AX,AZ,BA,CA,CHA,DA,DHA,EC,EQ,EX,EZ,FA,FINAL NG,GA,GHA,HA,HTA,HTTA,IC",
    "IQ,IX,IZ,KA,KHA,LA,LONG UEX,MA,MC,MQ,MX,MZ,NA,NGA,NHA,NYA,OC,OQ,OX,OZ,PA,PHA,RA,SA,SHA",
    "SHORT AWX,SHORT UEZ,TA,THA,TSA,UC,UEC,UEQ,UEX,UEZ,UIC,UIQ,UIUC,UIUQ,UIUX,UIUZ,UIX,UIZ,UQ,UX",
    "UZ,VC,VQ,VX,VZ,WA,XA,YA,ZA"]),
  (["THAI"], ["CURRENCY SYMBOL BAHT"]),
  (["THAI CHARACTER"], [
    "ANGKHANKHU,BO BAIMAI,CHO CHAN,CHO CHANG,CHO CHING,CHO CHOE,DO CHADA,DO DEK,FO FA,FO FAN",
    "FONGMAN,HO HIP,HO NOKHUK,KHO KHAI,KHO KHON,KHO KHUAT,KHO KHWAI,KHO RAKHANG,KHOMUT,KO KAI",
    "LAKKHANGYAO,LO CHULA,LO LING,LU,MAI CHATTAWA,MAI EK,MAI HAN-AKAT,MAI THO,MAI TRI,MAITAIKHU",
    "MAIYAMOK,MO MA,NGO NGU,NIKHAHIT,NO NEN,NO NU,O ANG,PAIYANNOI,PHINTHU,PHO PHAN,PHO PHUNG",
    "PHO SAMPHAO,PO PLA,RO RUA,RU,SO RUSI,SO SALA,SO SO,SO SUA,THANTHAKHAT,THO NANGMONTHO",
    "THO PHUTHAO,THO THAHAN,THO THAN,THO THONG,THO THUNG,TO PATAK,TO TAO,WO WAEN,YAMAKKAN,YO YAK",
    "YO YING"]),
  (["THAI CHARACTER SARA"], ["A,AA,AE,AI MAIMALAI,AI MAIMUAN,AM,E,I,II,O,U,UE,UEE,UU"])]

end AwaitLint.Text
