/-! # American scripts

Cherokee, Canadian syllabics, Deseret and Osage.
-/

namespace AwaitLint.Text

def americanNames : List (List String × List String) := [
  (["CANADIAN SYLLABICS"], [
    "A,AA,AAI,AAY,AI,AIVILIK B,AN,ATHAPASCAN M,ATHAPASCAN S,AY,BEAVER DENE L,BEAVER DENE R",
    "BIBLE-CREE Y,C,CA,CAA,CAAI,CE,CHI SIGN,CI,CII,CO,COO,CWA,CWAA,CWE,CWI,CWII,CWO,CWOO,E",
    "EASTERN W,EN,F,FA,FAA,FAAI,FE,FI,FII,FO,FOO,FULL STOP,FWAA,GLOTTAL STOP,HK,HYPHEN,I,II,IN,K",
    "KA,KAA,KAAI,KAY,KE,KI,KII,KO,KOO,KW,KWA,KWAA,KWAY,KWE,KWI,KWII,KWO,KWOO,L,LA,LAA,LAAI,LAY",
    "LE,LH,LHA,LHAA,LHI,LHII,LHO,LHOO,LI,LII,LO,LOO,LWA,LWAA,LWE,LWI,LWII,LWO,LWOO,M,MA,MAA,MAAI",
    "MAY,ME,MEDIAL L,MEDIAL R,MH,MI,MII,MO,MOO,MOOSE-CREE SK,MWA,MWAA,MWE,MWI,MWII,MWO,MWOO,N",
    "N-CREE THE,N-CREE THI,N-CREE THII,NA,NAA,NAAI,NAY,NE,NG,NGA,NGAA,NGAAI,NGAI,NGI,NGII,NGO",
    "NGOO,NH,NI,NII,NNG,NNGA,NNGAA,NNGI,NNGII,NNGO,NNGOO,NO,NOO,NOY,NUNAVUT H,NWA,NWAA,NWE,NWI",
    "NWII,NWO,NWOO,O,ON,OO,OY,P,PA,PAA,PAAI,PAY,PE,PI,PII,PO,POO,POY,PWA,PWAA,PWE,PWI,PWII,PWO",
    "PWOO,PWOY,Q,QA,QAA,QAAI,QAI,QI,QII,QO,QOO,R,R-CREE RE,R-CREE RWE,RA,RAA,RAAI,RAY,RE,RI,RII",
    "RO,ROO,RWA,RWAA,RWEE,RWI,RWII,RWO,RWOO,S,SA,SAA,SAAI,SAY,SE,SH,SHA,SHAA,SHAY,SHE,SHI,SHII",
    "SHO,SHOO,SHOY,SHWA,SHWAA,SHWE,SHWI,SHWII,SHWO,SHWOO,SHWOY,SI,SII,SO,SOO,SOY,SW,SWA,SWAA,SWE",
    "SWI,SWII,SWO,SWOO,T,TA,TAA,TAAI,TAY,TE,TH,THA,THAA,THE,THI,THII,THO,THOO,THWA,THWAA,THWE,TI",
    "TII,TLHA,TLHE,TLHI,TLHO,TLHOO,TLHWE,TO,TOO,TTA,TTE,TTH,TTHA,TTHAA,TTHE,TTHI,TTHO,TTHOO",
    "TTHWE,TTI,TTO,TWA,TWAA,TWE,TWI,TWII,TWO,TWOO,TYA,TYE,TYI,TYO,WA,WAA,WAY,WE,WESTERN W,WI,WII",
    "WO,WOO,Y,YA,YAA,YAAI,YAY,YE,YI,YII,YO,YOO,YOY,YWA,YWAA,YWE,YWI,YWII,YWO,YWOO"]),
  (["CANADIAN SYLLABICS BLACKFOOT"], ["A,E,I,KA,KE,KI,KO,NA,NE,NI,NO,O,S,W,WA,WE,WI,WO"]),
  (["CANADIAN SYLLABICS CARRIER"], [
    "CHA,CHE,CHEE,CHI,CHO,CHU,DEE,DENE GEE,DENTAL S,DI,DLA,DLE,DLEE,DLI,DLO,DLU,DZA,DZE,DZEE,DZI",
    "DZO,DZU,EE,GA,GAA,GE,GEE,GHA,GHE,GHEE,GHI,GHO,GHU,GI,GO,GU,GWA,GWU,H,HEE,HI,HWA,HWE,HWEE",
    "HWI,HWO,HWU,I,INITIAL Z,JA,JE,JEE,JI,JJA,JJE,JJEE,JJI,JJO,JJU,JO,JU,JWA,KHA,KHE,KHEE,KHI",
    "KHO,KHU,KK,KKA,KKE,KKEE,KKI,KKO,KKU,LA,LE,LEE,LHA,LHE,LHEE,LHI,LHO,LHU,LI,LO,LU,MA,ME,MEE",
    "MI,MO,MU,NA,NE,NEE,NG,NI,NO,NU,P,PA,PE,PEE,PI,PO,PU,RA,RE,REE,RI,RO,RU,SA,SE,SEE,SH,SHA,SHE",
    "SHEE,SHI,SHO,SHU,SI,SO,SU,THA,THE,THEE,THI,THO,THU,TLA,TLE,TLEE,TLHA,TLHE,TLHEE,TLHI,TLHO",
    "TLHU,TLI,TLO,TLU,TSA,TSE,TSEE,TSI,TSO,TSU,TTA,TTE,TTEE,TTI,TTO,TTSA,TTSE,TTSEE,TTSI,TTSO",
    "TTSU,TTU,WA,WE,WEE,WI,WO,WU,YA,YE,YEE,YI,YO,YU,Z,ZA,ZE,ZEE,ZI,ZO,ZU"]),
  (["CANADIAN SYLLABICS FINAL"], [
    "ACUTE,BOTTOM HALF RING,DOUBLE ACUTE,DOUBLE SHORT VERTICAL STROKES,DOWN TACK,GRAVE",
    "MIDDLE DOT,PLUS,RAISED DOT,RIGHT HALF RING,RING,SHORT HORIZONTAL STROKE,SMALL RING",
    "TOP HALF RING"]),
  (["CANADIAN SYLLABICS NASKAPI"], [
    "CWAA,KWAA,MWAA,NWAA,S-W,SCWA,SKW,SKWA,SPWA,STWA,SWAA,TWAA,WAA,WOO,YWAA"]),
  (["CANADIAN SYLLABICS NUNAVIK"], ["H,HA,HAA,HE,HI,HII,HO,HOO"]),
  (["CANADIAN SYLLABICS OJIBWAY"], ["C,K,M,N,NWI,NWII,NWO,NWOO,P,S,SH,T"]),
  (["CANADIAN SYLLABICS SAYISI"], [
    "HA,HE,HI,HO,HOO,JI,JU,JUU,M,SHA,SHE,SHI,SHO,SHOO,SHWE,TH,YI"]),
  (["CANADIAN SYLLABICS SOUTH-SLAVEY"], ["KAH,KEH,KIH,KOH"]),
  (["CANADIAN SYLLABICS TH-CREE"], ["TH,THA,THAA,THE,THI,THII,THO,THOO"]),
  (["CANADIAN SYLLABICS WEST-CREE"], [
    "CWA,CWAA,CWE,CWI,CWII,CWO,CWOO,FWAA,KWA,KWAA,KWE,KWI,KWII,KWO,KWOO,L,LA,LAA,LE,LO,LOO,LWA",
    "LWAA,LWE,LWI,LWII,LWO,LWOO,M,MWA,MWAA,MWE,MWI,MWII,MWO,MWOO,NWA,NWAA,NWE,P,PWA,PWAA,PWE,PWI",
    "PWII,PWO,PWOO,R,RA,RE,RI,RO,RWAA,SHWA,SHWAA,SHWE,SHWI,SHWII,SHWO,SHWOO,SWA,SWAA,SWE,SWI",
    "SWII,SWO,SWOO,THWAA,TWA,TWAA,TWE,TWI,TWII,TWO,TWOO,WA,WAA,WE,WI,WII,WO,WOO,Y,YWA,YWAA,YWE",
    "YWI,YWII,YWO,YWOO"]),
  (["CANADIAN SYLLABICS WOODS-CREE"], [
    "FINAL TH,TH,THA,THE,THI,THO,THWA,THWAA,THWEE,THWI,THWII,THWO,THWOO"]),
  (["CANADIAN SYLLABICS Y-CREE"], ["COO,KOO,LOO,MOO,NOO,OO,POO,PWAA,SOO,TOO,W,YOO"]),
  (["CHEROKEE LETTER", "CHEROKEE SMALL LETTER"], [
    "A,DA,DE,DI,DLA,DO,DU,DV,E,GA,GE,GI,GO,GU,GV,HA,HE,HI,HNA,HO,HU,HV,I,KA,LA,LE,LI,LO,LU,LV,MA",
    "ME,MI,MO,MU,MV,NA,NAH,NE,NI,NO,NU,NV,O,QUA,QUE,QUI,QUO,QUU,QUV,S,SA,SE,SI,SO,SU,SV,TA,TE,TI",
    "TLA,TLE,TLI,TLO,TLU,TLV,TSA,TSE,TSI,TSO,TSU,TSV,U,V,WA,WE,WI,WO,WU,WV,YA,YE,YI,YO,YU,YV"]),
  (["DESERET CAPITAL LETTER", "DESERET SMALL LETTER"], [
    "AY,BEE,CHEE,DEE,EF,EL,EM,EN,ENG,ER,ES,ESH,ETH,EW,GAY,H,JEE,KAY,LONG A,LONG AH,LONG E,LONG I",
    "LONG O,LONG OO,OI,OW,PEE,SHORT A,SHORT AH,SHORT E,SHORT I,SHORT O,SHORT OO,TEE,THEE,VEE,WU",
    "YEE,ZEE,ZHEE"]),
  (["OSAGE CAPITAL LETTER", "OSAGE SMALL LETTER"], [
    "A,AH,AI,AIN,BRA,CHA,DHA,E,EHCHA,EHKA,EHPA,EHTA,EHTSA,EIN,GHA,HA,HYA,I,KA,KHA,KYA,LA,MA,NA,O",
    "OIN,PA,SA,SHA,TA,TSA,TSHA,U,WA,ZA,ZHA"]),
  (["SHAVIAN LETTER"], [
    "ADO,AGE,AH,AIR,ARE,ARRAY,ASH,AWE,BIB,CHURCH,DEAD,EAR,EAT,EGG,ERR,FEE,GAG,HA-HA,HUNG,IAN,ICE",
    "IF,JUDGE,KICK,LOLL,MEASURE,MIME,NUN,OAK,OIL,ON,OOZE,OR,OUT,PEEP,ROAR,SO,SURE,THEY,THIGH,TOT",
    "UP,VOW,WOE,WOOL,YEA,YEW,ZOO"])]

end AwaitLint.Text
