/-! # African scripts

Ethiopic, Vai, Bamum and the younger scripts of Africa.
-/

namespace AwaitLint.Text

def africanNames : List (List String × List String) := [
  (["ADLAM"], [
    "ALIF LENGTHENER,CONSONANT MODIFIER,GEMINATE CONSONANT MODIFIER,GEMINATION MARK,HAMZA",
    "INITIAL EXCLAMATION MARK,INITIAL QUESTION MARK,NASALIZATION MARK,NUKTA,VOWEL LENGTHENER"]),
  (["ADLAM CAPITAL LETTER", "ADLAM SMALL LETTER"], [
    "ALIF,BA,BHE,CHI,DAALI,DHA,E,FA,GA,GBE,HA,I,JIIM,KAF,KHA,KPO,LAAM,MIIM,NHA,NUN,NYA,O,PE,QAAF",
    "RA,SHA,SINNYIIYHE,TU,U,VA,WAW,YA,YHE,ZAL"]),
  (["ADLAM DIGIT", "NKO DIGIT", "OSMANYA DIGIT", "VAI DIGIT"], [
    "EIGHT,FIVE,FOUR,NINE,ONE,SEVEN,SIX,THREE,TWO,ZERO"]),
  (["BAMUM"], [
    "COLON,COMBINING MARK KOQNDON,COMBINING MARK TUKWENTIS,COMMA,FULL STOP,NJAEMLI,QUESTION MARK",
    "SEMICOLON"]),
  (["BAMUM LETTER"], [
    "A,EE,FAAMAE,FEE,FOM,FU,I,KA,KEN,KET,KEUX,KI,KO,KOGHOM,KOVUU,KPA,KU,KYEE,LA,LEEEE,LI,LOQ,LU",
    "M,MA,MBAA,MBEN,MEEEE,MEN,MI,MO,MU,NA,NDAA,NGA,NGGA,NGKWAEN,NI,NJAEM,NJEE,NJUAE,NSHA,NTEE",
    "NTUU,NU,NUAE,NYI,O,PA,PEE,PEUX,PI,PUAE,PUE,RAE,REE,REN,REUX,RIEE,RII,RU,SAMBA,SEUX,SHEUX",
    "SHII,SHO,SHU,SI,SUU,TAA,TAE,TEN,TET,TI,U,WA,WUE,YA,YOQ,YUQ"]),
  (["BAMUM LETTER PHASE-A"], [
    "FIRI,GBIEE FON,GHEUAEGHEUAE,GHEUAERAE,KAFA,KAQ,KET,KEUKEUTNDA,KPOQ,KUOQ,LAPAQ,LET KUT",
    "LOMMAE,LU,LUAEP,MAEKEUP,MAEM,MAEMBGBIEE,MAEMKPEN,MAEMVEUX,MAENYI,MAESI,MANSUAE,MAP PIEET",
    "MBANYI,MBAQ,MEUNJOMNDEUQ,MGBASA,MON NGGEUAET,MOOMEUT,MOOMPUQ,MVEUAENGAM,NAA MFON,NAQ",
    "NDA LEERAEWA,NDAANGGEUAET,NEN,NGANGU,NGGEN,NGKUE MFON,NGKUENZEUM,NIKA,NJAM,NKAARAE,NKINDI",
    "NSHA,NSHIEE,NTAP,NTAP MFAA,NTAP NTAA,NTOQPEN,NYET,NYI,NYIT MONGKEUAEQ,NZA MFON,NZUN MEUT",
    "PA LEERAEWA,PAAM,PAARAE,PAMSHAE,PASHAE,PET,PON MFON PIPAEMBA,PON MFON PIPAEMGBIEE",
    "PON PA NJI PIPAEMBA,PON PA NJI PIPAEMGBIEE,PUP,ROM,SEUNYAM,SHINDA PA NJI,SHIRAE",
    "SHOQ NSHUT YUM,SHUENSHUET,SHUM,SISA,SONJAM,SOQ,SOT,SUU,TEUAEN,TEUTEUWEN,TITA MFON,TU MAEMBA",
    "TUAEP,U YUQ NAE,UNKNOWN,VEE"]),
  (["BAMUM LETTER PHASE-B"], [
    "FEE,FEUX,GHEUGHEN,GHEUGHEUAEM,KAM,KEUAEM,KEUPUQ,KEUYEUX,KIEEM,KIQ,LAANAE,LAM NSHUT NYAM,LET",
    "LOM NTEUM,MA,MA NJEUAENA,MA NJUQA,MBA MAELEE,MBAARAE,MBEURI,MBIT MBAAKET,MBUOQ,MEUQ",
    "MEUT NGGEET,MFIYAQ,MFON TEUAEQ,MONTIEEN,NDU NJAA,NGGAAM,NGGEU MBU,NGGUOQ,NGGUOQ LARGE",
    "NGKINDI MVOP,NGOM,NSEN,NSHUET,NTIEE SHEUOQ,NYAEMAE,NYI NTEUM,PARUM,PEESHI,PIT,PUNGAAM",
    "SAKEUAE,SET TU,SHET NJAQ,SHEUAEQTU,SIEE,SUE,TAAM,TU MAEMGBIEE,TU NSIEE,VEUM,WUAET",
    "YAFU LEERAEWA,YEURAE"]),
  (["BAMUM LETTER PHASE-C"], [
    "BUNG,FUE,GBAYI,GHAP,GHARAE,KAA,KEN FATIGUE,KEN LAW,KET,KEUKAQ,KEUM,KEUSEUX,KEUSHEUAEP",
    "KPARAQ,KUOP NKAARAE,KUT,LAM,LAP,LIQ,LU,MA KEUAERI,MA NSIEE,MAEMBA,MAESI,MBAA CABBAGE-TREE",
    "MBAA PICKET,MBANYI,MBEEKEET,MBERAE,MBEUM,MBEUX,MBI,MBIRIEEN,MBIT,MBUAEM,MBUE,MGBASAQ,MIEE",
    "MUAE,NANSANAQ,NAQ,NDAM,NDAP,NDEUAEREE,NDEUT,NDIDA,NDOMBU,NGAQ,NGGEN,NGGU,NGGUAEN NYAM",
    "NGGUEET,NGGUM,NGGUON,NGKAQ,NGKUE MAEMBA,NGOM,NJAEM,NJAM,NJEEEE,NJEUX,NJUEQ,NSA,NSEUAEN",
    "NSHAQ,NSOM,NSUN,NSUOT NGOM,NTAA,NTEN,NTEUNGBA,NTU MBIT,NYIR MKPARAQ MEUN,NZA,NZEUM,PEN,PIN",
    "PIRIEEN,RU,SETFON,SEUX,SHIQ,SHUEQ,SUAET,TAASHAE,TET,TEUTEUX,TITA YUE,TITUAEP,VEUAEPEN,VEUX",
    "WANGKUOQ,WUP,YAA,YEUQ,YU MUOMAE,YUM,YUWOQ"]),
  (["BAMUM LETTER PHASE-D"], [
    "FAA,FEUFEUAET,GHAA,GHEUAE,KET,KEUAETMEUN,KEUM,KEUOT MBUAE,KEUP,KU,KUN,KUOM,KUQ,KWAET,KYEE",
    "LEEEE,LET,LEUAEP,LEUM,LIEE,LOQ,LUM,M,MAENJET,MALEERI,MBAA,MBAA SEVEN,MBUO,MEEEE,MEUN,MEUT",
    "MFEUAE,MFEUT,MFIEE,MFO,MFON,MGBEUN,MGBIEE,MGBOFUM,MONI,MU,MVOP,NDAM,NDEE,NDEUX,NDON,NGGAAM",
    "NGGAAMAE,NGGAP,NGGEUX,NGGUOM,NGGWAEN,NGKAP,NGKEUAEQ,NGKEURI,NGKIEE,NGKUN,NGKYEE,NI,NJAP",
    "NJEUAEM,NJEUT,NJI,NJIEE,NJUEQ,NSHEE,NSHUT,NSIEEP,NSIEET,NSUM,NTEE,NTEUM,NTUU,NU,NYAM,NYET",
    "NYI,NYUE,PAP,PEE,PEUTAE,PIP,PUQ,PUUT,RAEM,REN MUCH,REN OLD,RII,SAP,SAQ,SEUAEQ,SHEE,SHEUAE",
    "SHEUX,SHII,SHOQ,SHU,SOT,SUAE,SUE,SUU,TAE,TEEEE,TEUAEN,TEUN,TEUT,TI,TOQ,TU,TUOT,WAP,WUAEN",
    "YAEMMAE,YEN,YUOM,YUOP,YUWOQ"]),
  (["BAMUM LETTER PHASE-E"], [
    "A,FA,FAQ,FEE,FOM,FU CALL,FU I,FU REMEDY,FUE,FUET,GBET,GBEUX,GHAAMAE,GHET,GHEUAE,GHEUN,GHEUX",
    "GHOM,I,KET,KEUAE,KEUX,KI,KO,KPEUX,KUET,KUOP,KUT,LAAM,LAP,LAQ,LEUAEM,LOM,LOON,LOOT,LOQ,LU,MA",
    "MAE,MAEM,MAP,MAQ,MBEE,MBEUM,MEN,MFEUQ,MGBA,MGBEN,MI,MIEE,MON,MUAE,MVI,NA,NAE,NDAA MY HOUSE",
    "NDAA SOFTNESS,NDAP,NDIAQ,NDIQ,NDUN,NGA,NGEUREUT,NGGEEEE,NGGEUAE,NGGEUAET,NGGUAESHAE NYAM",
    "NGGUP,NGGURAE,NGKA,NGKAAMI,NGKEUAEM,NGKEUX,NGKUM,NGKUP,NGOP,NGOQ,NGUAE,NGUAET,NJAEMLI,NJEE",
    "NJEE EPOCH,NJEUX,NKOM,NSHIEE,NSHUE,NSHUOP,NTAP,NTUM,NYI BETWEEN,NYI CLEAVER,NZAQ,NZUQ,O",
    "PA PEOPLE,PA PLURAL,PAA,PAAM,PEEM,PEUT,PEUX,PI,PIEEQ,PIET,PO,POON,PU,PUAE,PUAQ,PUE,PUM,RAE",
    "RAQ,REUX,RIMGBA,SAA,SEE,SET,SHEUAEQ,SHIQ,SHO,SHOQ,SOM,SUAEN,TAA,TAAQ,TAEN NTEUM,TAM,TAQ,TEN",
    "TEU,TEUAEQ,TOO,TOON,TOQ,TUAE,TUM,TUMAE,VEE,VEUAE,VOM,WEUX,WUE,WUO,YAP,YEUAE,YEUAET,YEUM",
    "YEUX,YIEE,YIT,YOQ COVER,YOQ SWIMMING,YUAEN,YUEQ,YUN,YUQ"]),
  (["BAMUM LETTER PHASE-F"], [
    "EE,FOM,KA,KEN,KET,KO,KPA,KU,KYEE,LA,LI,LOQ,M,MA,MBAA,MBEN,MEEEE,MO,NDAA,NGGA,NGKWAEN,NI",
    "NJAEM,NJUAE,NSHA,NTEE,NU,NUAE,NYI,PEE,PEUX,PUAE,REE,REN,REUX,RIEE,RII,RU,SAMBA,SEUX,SHII",
    "SHO,SHU,SI,SUU,TAA,TAE,TET,U,VUEQ,WA,WUE,YA,YOQ"]),
  (["BASSA VAH"], ["FULL STOP"]),
  (["BASSA VAH COMBINING"], ["HIGH TONE,HIGH-LOW TONE,LOW TONE,LOW-MID TONE,MID TONE"]),
  (["BASSA VAH LETTER"], [
    "A,BA,CE,DHII,DO,E,EE,ENNI,FA,GAH,GBU,HWAH,I,JO,KA,KPAH,MBE,O,OO,PA,SE,TO,U,UWU,VU,WA,WADDA",
    "YEIN,YIE,ZO"]),
  (["ETHIOPIC"], [
    "COLON,COMBINING GEMINATION AND VOWEL LENGTH MARK,COMBINING GEMINATION MARK",
    "COMBINING VOWEL LENGTH MARK,COMMA,FULL STOP,PARAGRAPH SEPARATOR,PREFACE COLON,QUESTION MARK",
    "SECTION MARK,SEMICOLON,WORDSPACE"]),
  (["ETHIOPIC DIGIT", "MENDE KIKAKUI DIGIT"], ["EIGHT,FIVE,FOUR,NINE,ONE,SEVEN,SIX,THREE,TWO"]),
  (["ETHIOPIC NUMBER"], [
    "EIGHTY,FIFTY,FORTY,HUNDRED,NINETY,SEVENTY,SIXTY,TEN,TEN THOUSAND,THIRTY,TWENTY"]),
  (["ETHIOPIC SYLLABLE"], [
    "BA,BAA,BBA,BBAA,BBE,BBEE,BBI,BBO,BBU,BE,BEE,BI,BO,BOA,BU,BWA,BWE,BWEE,BWI,CA,CAA,CCA,CCAA",
    "CCE,CCEE,CCHA,CCHAA,CCHE,CCHEE,CCHHA,CCHHAA,CCHHE,CCHHEE,CCHHI,CCHHO,CCHHU,CCHI,CCHO,CCHU",
    "CCI,CCO,CCU,CE,CEE,CHA,CHAA,CHE,CHEE,CHI,CHO,CHOA,CHU,CHWA,CI,CO,COA,CU,CWA,DA,DAA,DDA,DDAA",
    "DDE,DDEE,DDHAA,DDHE,DDHEE,DDHI,DDHO,DDHU,DDI,DDO,DDOA,DDU,DDWA,DE,DEE,DI,DO,DOA,DU,DWA,DZAA",
    "DZE,DZEE,DZI,DZO,DZU,FA,FAA,FE,FEE,FI,FO,FU,FWA,FWE,FWEE,FWI,FYA,GA,GAA,GE,GEE,GGA,GGAA,GGE",
    "GGEE,GGI,GGO,GGU,GGWA,GGWAA,GGWE,GGWEE,GGWI,GI,GO,GOA,GU,GWA,GWAA,GWE,GWEE,GWI,GYA,GYAA,GYE",
    "GYEE,GYI,GYO,GYU,HA,HAA,HE,HEE,HHA,HHAA,HHE,HHEE,HHI,HHO,HHU,HHWA,HHWE,HHWEE,HHWI,HHYA",
    "HHYAA,HHYE,HHYEE,HHYI,HHYO,HHYU,HI,HO,HOA,HU,JA,JAA,JE,JEE,JI,JO,JOA,JU,JWA,KA,KAA,KE,KEE",
    "KI,KO,KOA,KU,KWA,KWAA,KWE,KWEE,KWI,KXA,KXAA,KXE,KXEE,KXI,KXO,KXU,KXWA,KXWAA,KXWE,KXWEE,KXWI",
    "KYA,KYAA,KYE,KYEE,KYI,KYO,KYU,LA,LAA,LE,LEE,LI,LO,LOA,LU,LWA,MA,MAA,ME,MEE,MI,MO,MOA,MU,MWA",
    "MWE,MWEE,MWI,MYA,NA,NAA,NE,NEE,NI,NO,NOA,NU,NWA,NYA,NYAA,NYE,NYEE,NYI,NYO,NYOA,NYU,NYWA,PA",
    "PAA,PE,PEE,PHA,PHAA,PHE,PHEE,PHI,PHO,PHOA,PHU,PHWA,PI,PO,POA,PU,PWA,PWE,PWEE,PWI,QA,QAA,QE",
    "QEE,QHA,QHAA,QHE,QHEE,QHI,QHO,QHU,QHWA,QHWAA,QHWE,QHWEE,QHWI,QI,QO,QOA,QU,QWA,QWAA,QWE,QWEE",
    "QWI,QYA,QYAA,QYE,QYEE,QYI,QYO,QYU,RA,RAA,RE,REE,RI,RO,ROA,RU,RWA,RYA,SA,SAA,SE",
    "SEBATBEIT BWA,SEBATBEIT FWA,SEBATBEIT MWA,SEBATBEIT PWA,SEE,SHA,SHAA,SHE,SHEE,SHI,SHO,SHOA",
    "SHU,SHWA,SI,SO,SOA,SSA,SSAA,SSE,SSEE,SSI,SSO,SSU,SU,SWA,SZA,SZAA,SZE,SZEE,SZI,SZO,SZU,SZWA",
    "TA,TAA,TE,TEE,THA,THAA,THE,THEE,THI,THO,THOA,THU,THWA,TI,TO,TOA,TSA,TSAA,TSE,TSEE,TSI,TSO",
    "TSU,TSWA,TTHAA,TTHE,TTHEE,TTHI,TTHO,TTHU,TU,TWA,TZA,TZAA,TZE,TZEE,TZI,TZO,TZOA,TZU,VA,VAA",
    "VE,VEE,VI,VO,VU,VWA,WA,WAA,WE,WEE,WI,WO,WOA,WU,XA,XAA,XE,XEE,XI,XO,XOA,XU,XWA,XWAA,XWE,XWEE",
    "XWI,XYA,XYAA,XYE,XYEE,XYI,XYO,XYU,YA,YAA,YE,YEE,YI,YO,YOA,YU,ZA,ZAA,ZE,ZEE,ZHA,ZHAA,ZHE",
    "ZHEE,ZHI,ZHO,ZHU,ZHWA,ZI,ZO,ZOA,ZU,ZWA,ZZA,ZZAA,ZZE,ZZEE,ZZI,ZZO,ZZU"]),
  (["ETHIOPIC SYLLABLE GLOTTAL"], ["A,AA,E,EE,I,O,OA,U,WA"]),
  (["ETHIOPIC SYLLABLE GURAGE"], [
    "BWEE,BWI,FWEE,FWI,GWE,GWEE,GWI,HHWA,KWE,KWEE,KWI,MWEE,MWI,PWEE,PWI,QWE,QWEE,QWI"]),
  (["ETHIOPIC SYLLABLE PHARYNGEAL"], ["A,AA,E,EE,I,O,U"]),
  (["ETHIOPIC TONAL MARK"], [
    "CHIRET,DERET,DERET-HIDET,DIFAT,HIDET,KENAT,KURT,RIKRIK,SHORT RIKRIK,YIZET"]),
  (["MEDEFAIDRIN"], ["COMMA,EXCLAMATION OH,FULL STOP,SYMBOL AIVA"]),
  (["MEDEFAIDRIN CAPITAL LETTER", "MEDEFAIDRIN SMALL LETTER"], [
    "A,AI,ATIU,B,C,D,E,F,G,HP,I,J,K,KP,L,M,N,NY,O,OE,P,Q,R,S,T,U,V,W,X,Y,YU,Z"]),
  (["MEDEFAIDRIN DIGIT"], [
    "EIGHT,FIVE,FOUR,NINE,ONE,ONE ALTERNATE FORM,SEVEN,SIX,THREE,THREE ALTERNATE FORM,TWO",
    "TWO ALTERNATE FORM,ZERO"]),
  (["MEDEFAIDRIN NUMBER"], [
    "EIGHTEEN,ELEVEN,FIFTEEN,FOURTEEN,NINETEEN,SEVENTEEN,SIXTEEN,TEN,THIRTEEN,TWELVE"]),
  (["MENDE KIKAKUI COMBINING"], [
    "NUMBER HUNDRED THOUSANDS,NUMBER HUNDREDS,NUMBER MILLIONS,NUMBER TEENS,NUMBER TEN THOUSANDS",
    "NUMBER TENS,NUMBER THOUSANDS"]),
  (["MENDE KIKAKUI SYLLABLE"], [
    "M001 KI,M002 KA,M003 KU,M004 WI,M005 WA,M006 WU,M007 MIN,M008 MAN,M009 MUN,M010 BI,M011 BA",
    "M012 BU,M013 I,M014 A,M015 U,M016 DI,M017 DA,M018 DU,M019 SI,M020 SA,M021 SU,M022 TI",
    "M023 TA,M024 TU,M025 LI,M026 LA,M027 LU,M028 JI,M029 JA,M030 JU,M031 YI,M032 YA,M033 YU",
    "M034 FI,M035 FA,M036 FU,M037 NIN,M038 NAN,M039 NUN,M040 HEE,M041 HA,M042 HOO,M043 NGGA",
    "M044 KPEE,M045 WO,M046 HUAN,M047 MBEE,M048 KO,M049 WVA,M050 PU,M051 PE,M052 HEN,M053 HIN",
    "M054 LOO,M055 TE,M056 GBA,M057 NGON,M058 NYAN,M059 MEN,M060 NYON,M061 WVI,M062 MBA,M063 JO",
    "M064 NDO,M065 KEE,M066 PO,M067 NDOO,M068 PI,M069 TO,M070 GBO,M071 GBOO,M072 MBE,M073 LE",
    "M074 KPU,M075 FE,M076 KOO,M077 VO,M078 FEE,M079 SO,M080 YE,M081 PEE,M082 NGGU,M083 HEEI",
    "M084 LEE,M085 VE,M086 LONG NGGE,M087 HUN,M088 FO,M089 DEE,M090 NGGI,M091 TEE,M092 KPA",
    "M093 GBEE,M094 MON,M095 KE,M096 HE,M097 BE,M098 NYEN,M099 PA,M100 E,M101 FAN,M102 POO",
    "M103 BOO,M104 TOO,M105 LONG MBOO,M106 LONG NGGOO,M107 GBE,M108 KPE,M109 YEE,M110 LONG LE",
    "M111 GA,M112 KPOO,M113 JE,M114 WOO,M115 NGGEE,M116 SE,M117 NEN,M118 WE,M119 NDE,M120 NGGO",
    "M121 YO,M122 MBU,M123 NDI,M124 GBI,M125 NDU,M126 WEE,M127 NGGUA,M128 HOOU,M129 NDA,M130 HAN",
    "M131 IN,M132 KPI,M133 FOO,M134 NJOO,M135 IN,M136 SOO,M137 EI,M138 BO,M139 WVE,M140 HO",
    "M141 YOO,M142 LONG MBO,M143 WEI,M144 VOO,M145 MBI,M146 NGGE,M147 O,M148 GBU,M149 NJEE",
    "M150 BEE,M151 VU,M152 NJA,M153 LO,M154 MUAN,M155 GI,M156 NGGOO,M157 JEE,M158 KPO,M159 NGGAA",
    "M160 JOO,M161 LONG MBE,M162 SEE,M163 EE,M164 NYIN,M165 OO,M166 GUEI,M167 GUAN,M168 GU",
    "M169 NON,M170 NYUN,M171 RA,M172 MBOO,M173 VEE,M174 MBO,M175 LONG JO,M176 HI,M177 NGUAN",
    "M178 EN,M179 KUA,M180 DOO,M181 DO,M182 VI,M183 LONG NGGO,M184 NGEN,M185 VA,M186 HU",
    "M187 MBUU,M188 MBEE,M189 MUEN,M190 GEE,M191 NDEE,M192 NJU,M193 HON,M194 WUI,M195 AN",
    "M196 SIA,M197 FUA"]),
  (["NKO"], [
    "COMMA,DANTAYALAN,DOROME SIGN,EXCLAMATION MARK,HIGH TONE APOSTROPHE,LAJANYALAN",
    "LOW TONE APOSTROPHE,SYMBOL GBAKURUNEN,SYMBOL OO DENNEN,TAMAN SIGN"]),
  (["NKO COMBINING"], [
    "DOUBLE DOT ABOVE,LONG DESCENDING TONE,LONG HIGH TONE,LONG LOW TONE,LONG RISING TONE",
    "NASALIZATION MARK,SHORT HIGH TONE,SHORT LOW TONE,SHORT RISING TONE"]),
  (["NKO LETTER"], [
    "A,BA,CHA,DA,DAGBASINNA,E,EE,FA,GBA,HA,I,JA,JONA CHA,JONA JA,JONA RA,KA,LA,MA,N,NA,NA WOLOSO",
    "NYA,NYA WOLOSO,O,OO,PA,RA,RRA,SA,TA,U,WA,YA"]),
  (["OSMANYA LETTER"], [
    "A,AA,ALEF,BA,CAYN,DEEL,DHA,E,EE,FA,GA,HA,I,JA,KAAF,KHA,LAAN,MIIN,NUUN,O,OO,QAAF,RA,SA,SHIIN",
    "TA,U,WAW,XA,YA"]),
  (["TIFINAGH"], ["CONSONANT JOINER,MODIFIER LETTER LABIALIZATION MARK,SEPARATOR MARK"]),
  (["TIFINAGH LETTER"], [
    "AHAGGAR YAZH,AYER YAGH,BERBER ACADEMY YAH,BERBER ACADEMY YAJ,TAWELLEMET YAZ,YA,YAA,YAB,YABH",
    "YACH,YAD,YADD,YADDH,YADH,YAF,YAG,YAGH,YAGHH,YAH,YAHH,YAJ,YAK,YAKH,YAKHH,YAL,YAM,YAN,YAP,YAQ",
    "YAR,YARR,YAS,YASH,YASS,YAT,YATH,YATT,YAV,YAW,YAY,YAZ,YAZH,YAZZ,YE,YEY,YI,YO,YU"]),
  (["TIFINAGH LETTER TUAREG"], ["YAGH,YAGN,YAH,YAK,YAKH,YANG,YAQ,YAZH"]),
  (["VAI"], ["COMMA,FULL STOP,QUESTION MARK"]),
  (["VAI SYLLABLE"], [
    "A,AN,BA,BE,BEE,BHA,BHE,BHEE,BHI,BHO,BHOO,BHU,BI,BO,BOO,BU,CA,CE,CEE,CI,CO,COO,CU,DA,DE,DEE",
    "DHA,DHE,DHEE,DHHA,DHHE,DHHEE,DHHI,DHHO,DHHOO,DHHU,DHI,DHO,DHOO,DHU,DI,DO,DOO,DU,E,EE,EEN,EN",
    "FA,FE,FEE,FI,FO,FOO,FU,GA,GBA,GBE,GBEE,GBEN,GBI,GBO,GBON,GBOO,GBU,GE,GEE,GEN,GI,GO,GOO,GU",
    "HA,HAN,HE,HEE,HEN,HI,HIN,HO,HON,HOO,HU,HUN,I,IN,JA,JE,JEE,JI,JO,JOO,JU,KA,KAN,KE,KEE,KI,KO",
    "KOO,KPA,KPAN,KPE,KPEE,KPEN,KPI,KPO,KPOO,KPU,KU,LA,LE,LEE,LENGTHENER,LI,LO,LOO,LU,MA,MBA,MBE",
    "MBEE,MBI,MBO,MBOO,MBU,ME,MEE,MGBA,MGBE,MGBEE,MGBI,MGBO,MGBOO,MGBU,MI,MO,MOO,MU,NA,NDA,NDE",
    "NDEE,NDI,NDO,NDOLE DO,NDOLE FA,NDOLE KA,NDOLE MA,NDOLE SOO,NDOO,NDU,NE,NEE,NG,NGAN,NGEN",
    "NGGA,NGGE,NGGEE,NGGEN,NGGI,NGGO,NGGOO,NGGU,NGON,NI,NJA,NJE,NJEE,NJI,NJO,NJOO,NJU,NO,NOO,NU",
    "NYA,NYE,NYEE,NYI,NYO,NYOO,NYU,O,ON,OO,OON,PA,PE,PEE,PI,PO,POO,PU,RA,RE,REE,RI,RO,ROO,RU,SA",
    "SE,SEE,SHA,SHE,SHEE,SHI,SHO,SHOO,SHU,SI,SO,SOO,SU,TA,TE,TEE,THA,THE,THEE,THI,THO,THOO,THU",
    "TI,TO,TOO,TU,U,UN,VA,VE,VEE,VI,VO,VOO,VU,WA,WAN,WE,WEE,WEEN,WEN,WI,WIN,WO,WON,WOO,WOON,WU",
    "WUN,YA,YE,YEE,YI,YO,YOO,YU,ZA,ZE,ZEE,ZHA,ZHE,ZHEE,ZHI,ZHO,ZHOO,ZHU,ZI,ZO,ZOO,ZU"]),
  (["VAI SYMBOL"], ["BANG,DANG,DO-O,DOONG,FAA,FEENG,JONG,KEENG,KUNG,NII,TAA,TING,TONG"])]

end AwaitLint.Text
