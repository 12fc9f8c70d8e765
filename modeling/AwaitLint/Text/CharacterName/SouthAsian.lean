/-! # Scripts of South Asia

Devanagari, Tamil and the other scripts that come from Brahmi.
-/

namespace AwaitLint.Text

def southAsianNames : List (List String × List String) := [
  (["BENGALI"], [
    "ABBREVIATION SIGN,ANJI,AU LENGTH MARK,GANDA MARK,ISSHAR,RUPEE MARK,RUPEE SIGN,SANDHI MARK",
    "SIGN ANUSVARA,SIGN AVAGRAHA,SIGN CANDRABINDU,SIGN NUKTA,SIGN VIRAMA,SIGN VISARGA"]),
  (["BENGALI CURRENCY"], ["DENOMINATOR SIXTEEN"]),
  (["BENGALI CURRENCY NUMERATOR"], ["FOUR,ONE,ONE LESS THAN THE DENOMINATOR,THREE,TWO"]),
  (["BENGALI DIGIT", "BHAIKSUKI DIGIT", "BRAHMI DIGIT", "CHAKMA DIGIT",
    "COMBINING DEVANAGARI DIGIT", "DEVANAGARI DIGIT", "DIVES AKURU DIGIT", "GUJARATI DIGIT",
    "GUNJALA GONDI DIGIT", "GURMUKHI DIGIT", "KANNADA DIGIT", "KHUDAWADI DIGIT", "LEPCHA DIGIT",
    "MALAYALAM DIGIT", "MASARAM GONDI DIGIT", "MEETEI MAYEK DIGIT", "MODI DIGIT", "NEWA DIGIT",
    "OL CHIKI DIGIT", "ORIYA DIGIT", "SAURASHTRA DIGIT", "SHARADA DIGIT", "SINHALA LITH DIGIT",
    "SORA SOMPENG DIGIT", "TAKRI DIGIT", "TAMIL DIGIT", "TELUGU DIGIT", "TIRHUTA DIGIT",
    "WANCHO DIGIT", "WARANG CITI DIGIT"], [
    "EIGHT,FIVE,FOUR,NINE,ONE,SEVEN,SIX,THREE,TWO,ZERO"]),
  (["BENGALI LETTER"], [
    "A,AA,AI,AU,BA,BHA,CA,CHA,DA,DDA,DDHA,DHA,E,GA,GHA,HA,I,II,JA,JHA,KA,KHA,KHANDA TA,LA,MA,NA",
    "NGA,NNA,NYA,O,PA,PHA,RA,RA WITH LOWER DIAGONAL,RA WITH MIDDLE DIAGONAL,RHA,RRA,SA,SHA,SSA",
    "TA,THA,TTA,TTHA,U,UU,VEDIC ANUSVARA,VOCALIC L,VOCALIC LL,VOCALIC R,VOCALIC RR,YA,YYA"]),
  (["BENGALI VOWEL SIGN", "MODI VOWEL SIGN", "NEWA VOWEL SIGN", "ORIYA VOWEL SIGN"], [
    "AA,AI,AU,E,I,II,O,U,UU,VOCALIC L,VOCALIC LL,VOCALIC R,VOCALIC RR"]),
  (["BHAIKSUKI"], [
    "DANDA,DOUBLE DANDA,GAP FILLER-1,GAP FILLER-2,HUNDREDS UNIT MARK,SIGN ANUSVARA,SIGN AVAGRAHA",
    "SIGN CANDRABINDU,SIGN VIRAMA,SIGN VISARGA,WORD SEPARATOR"]),
  (["BHAIKSUKI LETTER"], [
    "A,AA,AI,AU,BA,BHA,CA,CHA,DA,DDA,DDHA,DHA,E,GA,GHA,HA,I,II,JA,JHA,KA,KHA,LA,MA,NA,NGA,NNA",
    "NYA,O,PA,PHA,RA,SA,SHA,SSA,TA,THA,TTA,TTHA,U,UU,VA,VOCALIC L,VOCALIC R,VOCALIC RR,YA"]),
  (["BHAIKSUKI NUMBER"], [
    "EIGHT,EIGHTY,FIFTY,FIVE,FORTY,FOUR,NINE,NINETY,ONE,SEVEN,SEVENTY,SIX,SIXTY,TEN,THIRTY,THREE",
    "TWENTY,TWO"]),
  (["BHAIKSUKI VOWEL SIGN"], ["AA,AI,AU,E,I,II,O,U,UU,VOCALIC L,VOCALIC R,VOCALIC RR"]),
  (["BRAHMI"], [
    "DANDA,DOUBLE DANDA,SIGN ANUSVARA,SIGN CANDRABINDU,SIGN JIHVAMULIYA,SIGN OLD TAMIL VIRAMA",
    "SIGN UPADHMANIYA,SIGN VISARGA,VIRAMA"]),
  (["BRAHMI LETTER"], [
    "A,AA,AI,AU,BA,BHA,CA,CHA,DA,DDA,DDHA,DHA,E,GA,GHA,HA,I,II,JA,JHA,KA,KHA,LA,LLA,MA,NA,NGA",
    "NNA,NYA,O,OLD TAMIL LLA,OLD TAMIL LLLA,OLD TAMIL NNNA,OLD TAMIL RRA,OLD TAMIL SHORT E",
    "OLD TAMIL SHORT O,PA,PHA,RA,SA,SHA,SSA,TA,THA,TTA,TTHA,U,UU,VA,VOCALIC L,VOCALIC LL",
    "VOCALIC R,VOCALIC RR,YA"]),
  (["BRAHMI NUMBER"], [
    "EIGHT,EIGHTY,FIFTY,FIVE,FORTY,FOUR,JOINER,NINE,NINETY,ONE,ONE HUNDRED,ONE THOUSAND,SEVEN",
    "SEVENTY,SIX,SIXTY,TEN,THIRTY,THREE,TWENTY,TWO"]),
  (["BRAHMI PUNCTUATION"], ["CRESCENT BAR,DOT,DOUBLE DOT,LINE,LOTUS"]),
  (["BRAHMI VOWEL SIGN"], [
    "AA,AI,AU,BHATTIPROLU AA,E,I,II,O,OLD TAMIL SHORT E,OLD TAMIL SHORT O,U,UU,VOCALIC L",
    "VOCALIC LL,VOCALIC R,VOCALIC RR"]),
  (["CANADIAN SYLLABICS"], ["SPA,SPE,SPI,SPO"]),
  (["CANADIAN SYLLABICS NATTILIK"], ["HA,HAA,HI,HII,HO,HOO,SHRA,SHRAA,SHRI,SHRII,SHRO,SHROO"]),
  (["CHAKMA"], [
    "AU MARK,DANDA,DOUBLE DANDA,MAAYYAA,O MARK,QUESTION MARK,SECTION MARK,SIGN ANUSVARA",
    "SIGN CANDRABINDU,SIGN VISARGA,VIRAMA"]),
  (["CHAKMA LETTER"], [
    "AA,BAA,BHAA,CAA,CHAA,DAA,DDAA,DDHAA,DHAA,E,GAA,GHAA,HAA,I,JAA,JHAA,KAA,KHAA,LAA,LHAA,MAA",
    "NAA,NGAA,NNAA,NYAA,PAA,PHAA,RAA,SAA,TAA,THAA,TTAA,TTHAA,U,VAA,WAA,YAA,YYAA"]),
  (["CHAKMA VOWEL SIGN"], ["A,AA,AI,AU,E,EI,I,II,O,OI,U,UU"]),
  (["COMBINING"], ["BINDU BELOW"]),
  (["COMBINING DEVANAGARI"], ["SIGN AVAGRAHA"]),
  (["COMBINING DEVANAGARI LETTER"], ["A,KA,NA,PA,RA,U,VI"]),
  (["COMBINING GRANTHA"], [
    "DIGIT FIVE,DIGIT FOUR,DIGIT ONE,DIGIT SIX,DIGIT THREE,DIGIT TWO,DIGIT ZERO,LETTER A",
    "LETTER KA,LETTER NA,LETTER PA,LETTER VI"]),
  (["DEVANAGARI"], [
    "ABBREVIATION SIGN,ACUTE ACCENT,CARET,DANDA,DOUBLE DANDA,GAP FILLER,GRAVE ACCENT,HEADSTROKE",
    "JAIN OM,OM,STRESS SIGN ANUDATTA,STRESS SIGN UDATTA"]),
  (["DEVANAGARI LETTER"], [
    "A,AA,AI,AU,AW,AY,BA,BBA,BHA,CA,CANDRA A,CANDRA E,CANDRA O,CHA,DA,DDA,DDDA,DDDHA,DDHA,DHA,E",
    "FA,GA,GGA,GHA,GHHA,GLOTTAL STOP,HA,HEAVY YA,I,II,JA,JHA,JJA,KA,KHA,KHHA,LA,LLA,LLLA,MA",
    "MARWARI DDA,NA,NGA,NNA,NNNA,NYA,O,OE,OOE,PA,PHA,QA,RA,RHA,RRA,SA,SHA,SHORT A,SHORT E",
    "SHORT O,SSA,TA,THA,TTA,TTHA,U,UE,UU,UUE,VA,VOCALIC L,VOCALIC LL,VOCALIC R,VOCALIC RR,YA,YYA",
    "ZA,ZHA"]),
  (["DEVANAGARI SIGN"], [
    "ANUSVARA,AVAGRAHA,CANDRABINDU,DOUBLE CANDRABINDU VIRAMA,HIGH SPACING DOT",
    "INVERTED CANDRABINDU,NUKTA,PUSHPIKA,SIDDHAM,SPACING CANDRABINDU,VIRAMA,VISARGA"]),
  (["DEVANAGARI SIGN CANDRABINDU"], ["AVAGRAHA,THREE,TWO,VIRAMA"]),
  (["DEVANAGARI VOWEL SIGN"], [
    "AA,AI,AU,AW,AY,CANDRA E,CANDRA LONG E,CANDRA O,E,I,II,O,OE,OOE,PRISHTHAMATRA E,SHORT E",
    "SHORT O,U,UE,UU,UUE,VOCALIC L,VOCALIC LL,VOCALIC R,VOCALIC RR"]),
  (["DIVES AKURU"], [
    "DOUBLE DANDA,END OF TEXT MARK,GAP FILLER,INITIAL RA,MEDIAL RA,MEDIAL YA,PREFIXED NASAL SIGN",
    "SIGN ANUSVARA,SIGN CANDRABINDU,SIGN HALANTA,SIGN NUKTA,VIRAMA"]),
  (["DIVES AKURU LETTER"], [
    "A,AA,BA,BHA,CA,CHA,DA,DDA,DDHA,DHA,E,GA,GHA,HA,I,II,JA,KA,KHA,LA,LLA,MA,NA,NGA,NNA,NYA,O,PA",
    "PHA,RA,SA,SHA,SSA,TA,THA,TTA,U,UU,VA,YA,YYA,ZA"]),
  (["DIVES AKURU VOWEL"], ["SIGN AA,SIGN AI,SIGN E,SIGN I,SIGN II,SIGN O,SIGN U,SIGN UU"]),
  (["DOGRA", "TAKRI"], ["ABBREVIATION SIGN,SIGN ANUSVARA,SIGN NUKTA,SIGN VIRAMA,SIGN VISARGA"]),
  (["DOGRA LETTER"], [
    "A,AA,AI,AU,BA,BHA,CA,CHA,DA,DDA,DDHA,DHA,E,GA,GHA,HA,I,II,JA,JHA,KA,KHA,LA,MA,NA,NGA,NNA",
    "NYA,O,PA,PHA,RA,RRA,SA,SHA,SSA,TA,THA,TTA,TTHA,U,UU,VA,YA"]),
  (["DOGRA VOWEL SIGN"], ["AA,AI,AU,E,I,II,O,U,UU,VOCALIC R,VOCALIC RR"]),
  (["GRANTHA"], ["AU LENGTH MARK,OM"]),
  (["GRANTHA LETTER"], [
    "A,AA,AI,AU,BA,BHA,CA,CHA,DA,DDA,DDHA,DHA,EE,GA,GHA,HA,I,II,JA,JHA,KA,KHA,LA,LLA,MA,NA,NGA",
    "NNA,NYA,OO,PA,PHA,RA,SA,SHA,SSA,TA,THA,TTA,TTHA,U,UU,VA,VEDIC ANUSVARA",
    "VEDIC DOUBLE ANUSVARA,VOCALIC L,VOCALIC LL,VOCALIC R,VOCALIC RR,YA"]),
  (["GRANTHA SIGN"], [
    "ANUSVARA,AVAGRAHA,CANDRABINDU,COMBINING ANUSVARA ABOVE,NUKTA,PLUTA,VIRAMA,VISARGA"]),
  (["GRANTHA VOWEL SIGN"], [
    "AA,AI,AU,EE,I,II,OO,U,UU,VOCALIC L,VOCALIC LL,VOCALIC R,VOCALIC RR"]),
  (["GUJARATI"], ["ABBREVIATION SIGN,OM,RUPEE SIGN"]),
  (["GUJARATI LETTER"], [
    "A,AA,AI,AU,BA,BHA,CA,CHA,DA,DDA,DDHA,DHA,E,GA,GHA,HA,I,II,JA,JHA,KA,KHA,LA,LLA,MA,NA,NGA",
    "NNA,NYA,O,PA,PHA,RA,SA,SHA,SSA,TA,THA,TTA,TTHA,U,UU,VA,VOCALIC L,VOCALIC LL,VOCALIC R",
    "VOCALIC RR,YA,ZHA"]),
  (["GUJARATI SIGN"], [
    "ANUSVARA,AVAGRAHA,CANDRABINDU,CIRCLE NUKTA ABOVE,MADDAH,NUKTA,SHADDA,SUKUN",
    "THREE-DOT NUKTA ABOVE,TWO-CIRCLE NUKTA ABOVE,VIRAMA,VISARGA"]),
  (["GUJARATI VOWEL"], ["CANDRA E,CANDRA O"]),
  (["GUJARATI VOWEL SIGN"], [
    "AA,AI,AU,CANDRA E,CANDRA O,E,I,II,O,U,UU,VOCALIC L,VOCALIC LL,VOCALIC R,VOCALIC RR"]),
  (["GUNJALA GONDI"], ["OM,SIGN ANUSVARA,SIGN VISARGA,VIRAMA"]),
  (["GUNJALA GONDI LETTER"], [
    "A,AA,AI,AU,BA,BHA,CA,CHA,DA,DDA,DDHA,DHA,EE,GA,GHA,HA,I,II,JA,JHA,KA,KHA,LA,LLA,MA,NA,NGA",
    "OO,PA,PHA,RA,SA,TA,THA,TTA,TTHA,U,UU,VA,YA"]),
  (["GUNJALA GONDI VOWEL SIGN", "GURMUKHI VOWEL SIGN"], ["AA,AI,AU,EE,I,II,OO,U,UU"]),
  (["GURMUKHI"], ["ABBREVIATION SIGN,ADDAK,EK ONKAR,IRI,TIPPI,URA"]),
  (["GURMUKHI LETTER"], [
    "A,AA,AI,AU,BA,BHA,CA,CHA,DA,DDA,DDHA,DHA,EE,FA,GA,GHA,GHHA,HA,I,II,JA,JHA,KA,KHA,KHHA,LA",
    "LLA,MA,NA,NGA,NNA,NYA,OO,PA,PHA,RA,RRA,SA,SHA,TA,THA,TTA,TTHA,U,UU,VA,YA,ZA"]),
  (["GURMUKHI SIGN"], ["ADAK BINDI,BINDI,NUKTA,UDAAT,VIRAMA,VISARGA,YAKASH"]),
  (["KAITHI"], [
    "ABBREVIATION SIGN,DANDA,DOUBLE DANDA,DOUBLE SECTION MARK,ENUMERATION SIGN,NUMBER SIGN",
    "NUMBER SIGN ABOVE,SECTION MARK,SIGN ANUSVARA,SIGN CANDRABINDU,SIGN NUKTA,SIGN VIRAMA",
    "SIGN VISARGA"]),
  (["KAITHI LETTER"], [
    "A,AA,AI,AU,BA,BHA,CA,CHA,DA,DDA,DDDHA,DDHA,DHA,E,GA,GHA,HA,I,II,JA,JHA,KA,KHA,LA,MA,NA,NGA",
    "NNA,NYA,O,PA,PHA,RA,RHA,SA,SHA,SSA,TA,THA,TTA,TTHA,U,UU,VA,YA"]),
  (["KAITHI VOWEL SIGN", "MASARAM GONDI VOWEL SIGN"], ["AA,AI,AU,E,I,II,O,U,UU,VOCALIC R"]),
  (["KANNADA", "TELUGU"], ["AI LENGTH MARK,LENGTH MARK"]),
  (["KANNADA LETTER"], [
    "A,AA,AI,AU,BA,BHA,CA,CHA,DA,DDA,DDHA,DHA,E,EE,FA,GA,GHA,HA,I,II,JA,JHA,KA,KHA,LA,LLA,MA,NA",
    "NAKAARA POLLU,NGA,NNA,NYA,O,OO,PA,PHA,RA,RRA,SA,SHA,SSA,TA,THA,TTA,TTHA,U,UU,VA,VOCALIC L",
    "VOCALIC LL,VOCALIC R,VOCALIC RR,YA"]),
  (["KANNADA SIGN"], [
    "ANUSVARA,AVAGRAHA,CANDRABINDU,JIHVAMULIYA,NUKTA,SIDDHAM,SPACING CANDRABINDU,UPADHMANIYA",
    "VIRAMA,VISARGA"]),
  (["KANNADA VOWEL SIGN", "MALAYALAM VOWEL SIGN", "SAURASHTRA VOWEL SIGN", "TELUGU VOWEL SIGN"], [
    "AA,AI,AU,E,EE,I,II,O,OO,U,UU,VOCALIC L,VOCALIC LL,VOCALIC R,VOCALIC RR"]),
  (["KHAROSHTHI"], [
    "DIGIT FOUR,DIGIT ONE,DIGIT THREE,DIGIT TWO,FRACTION ONE HALF,NUMBER ONE HUNDRED",
    "NUMBER ONE THOUSAND,NUMBER TEN,NUMBER TWENTY,SIGN ANUSVARA,SIGN BAR ABOVE,SIGN CAUDA",
    "SIGN DOT BELOW,SIGN DOUBLE RING BELOW,SIGN VISARGA,VIRAMA,VOWEL LENGTH MARK,VOWEL SIGN E",
    "VOWEL SIGN I,VOWEL SIGN O,VOWEL SIGN U,VOWEL SIGN VOCALIC R"]),
  (["KHAROSHTHI LETTER"], [
    "A,BA,BHA,CA,CHA,DA,DDA,DDHA,DHA,GA,GHA,HA,JA,KA,KHA,KKA,LA,MA,NA,NNA,NYA,PA,PHA,RA,SA,SHA",
    "SSA,TA,THA,TTA,TTHA,TTTA,TTTHA,VA,VHA,YA,ZA"]),
  (["KHAROSHTHI PUNCTUATION"], [
    "CIRCLE,CRESCENT BAR,DANDA,DOT,DOUBLE DANDA,LINES,LOTUS,MANGALAM,SMALL CIRCLE"]),
  (["KHOJKI"], [
    "ABBREVIATION SIGN,DANDA,DOUBLE DANDA,DOUBLE SECTION MARK,SECTION MARK,SIGN ANUSVARA",
    "SIGN NUKTA,SIGN SHADDA,SIGN SUKUN,SIGN VIRAMA,WORD SEPARATOR"]),
  (["KHOJKI LETTER"], [
    "A,AA,AI,AU,BA,BBA,BHA,CA,CHA,DA,DDA,DDDA,DDHA,DHA,E,GA,GGA,GHA,HA,I,JA,JJA,KA,KHA,LA,LLA,MA",
    "NA,NGA,NNA,NYA,O,PA,PHA,RA,SA,TA,THA,TTA,TTHA,U,VA,YA"]),
  (["KHOJKI VOWEL SIGN"], ["AA,AI,AU,E,I,II,O,U"]),
  (["KHUDAWADI"], ["SIGN ANUSVARA,SIGN NUKTA,SIGN VIRAMA"]),
  (["KHUDAWADI LETTER"], [
    "A,AA,AI,AU,BA,BBA,BHA,CA,CHA,DA,DDA,DDDA,DDHA,DHA,E,GA,GGA,GHA,HA,I,II,JA,JHA,JJA,KA,KHA,LA",
    "MA,NA,NGA,NNA,NYA,O,PA,PHA,RA,RRA,SA,SHA,TA,THA,TTA,TTHA,U,UU,VA,YA"]),
  (["KHUDAWADI VOWEL SIGN", "TAKRI VOWEL SIGN"], ["AA,AI,AU,E,I,II,O,U,UU"]),
  (["LEPCHA"], ["SIGN NUKTA,SIGN RAN,SUBJOINED LETTER RA,SUBJOINED LETTER YA"]),
  (["LEPCHA CONSONANT SIGN"], ["K,KANG,L,M,N,NYIN-DO,P,R,T"]),
  (["LEPCHA LETTER"], [
    "A,BA,BLA,CA,CHA,DA,DDA,DZA,FA,FLA,GA,GLA,HA,HLA,JA,KA,KHA,KLA,LA,MA,MLA,NA,NGA,NYA,PA,PHA",
    "PLA,RA,SA,SHA,TA,THA,TSA,TSHA,TTA,TTHA,VA,WA,YA"]),
  (["LEPCHA PUNCTUATION"], ["CER-WA,NYET THYOOM TA-ROL,TA-ROL,TSHOOK,TSHOOK CER-WA"]),
  (["LEPCHA VOWEL"], ["SIGN AA,SIGN E,SIGN I,SIGN O,SIGN OO,SIGN U,SIGN UU"]),
  (["MAHAJANI"], ["ABBREVIATION SIGN,LIGATURE SHRI,SECTION MARK,SIGN NUKTA"]),
  (["MAHAJANI LETTER"], [
    "A,BA,BHA,CA,CHA,DA,DDA,DDHA,DHA,E,GA,GHA,HA,I,JA,JHA,KA,KHA,LA,MA,NA,NNA,NYA,O,PA,PHA,RA",
    "RRA,SA,TA,THA,TTA,TTHA,U,VA"]),
  (["MAKASAR"], [
    "ANGKA,END OF SECTION,PASSIMBANG,VOWEL SIGN E,VOWEL SIGN I,VOWEL SIGN O,VOWEL SIGN U"]),
  (["MAKASAR LETTER"], ["A,BA,CA,DA,GA,JA,KA,LA,MA,NA,NGA,NYA,PA,RA,SA,TA,VA,YA"]),
  (["MALAYALAM"], ["AU LENGTH MARK,DATE MARK,NUMBER ONE HUNDRED,NUMBER ONE THOUSAND,NUMBER TEN"]),
  (["MALAYALAM FRACTION"], [
    "ONE EIGHTH,ONE FIFTH,ONE FORTIETH,ONE HALF,ONE ONE-HUNDRED-AND-SIXTIETH,ONE QUARTER",
    "ONE SIXTEENTH,ONE TENTH,ONE TWENTIETH,THREE EIGHTIETHS,THREE QUARTERS,THREE SIXTEENTHS",
    "THREE TWENTIETHS"]),
  (["MALAYALAM LETTER"], [
    "A,AA,AI,ARCHAIC II,AU,BA,BHA,CA,CHA,DA,DDA,DDHA,DHA,DOT REPH,E,EE,GA,GHA,HA,I,II,JA,JHA,KA",
    "KHA,LA,LLA,LLLA,MA,NA,NGA,NNA,NNNA,NYA,O,OO,PA,PHA,RA,RRA,SA,SHA,SSA,TA,THA,TTA,TTHA,TTTA,U",
    "UU,VA,VEDIC ANUSVARA,VOCALIC L,VOCALIC LL,VOCALIC R,VOCALIC RR,YA"]),
  (["MALAYALAM LETTER CHILLU"], ["K,L,LL,LLL,M,N,NN,RR,Y"]),
  (["MALAYALAM SIGN"], [
    "ANUSVARA,AVAGRAHA,CANDRABINDU,CIRCULAR VIRAMA,COMBINING ANUSVARA ABOVE,PARA",
    "VERTICAL BAR VIRAMA,VIRAMA,VISARGA"]),
  (["MARCHEN"], [
    "HEAD MARK,MARK SHAD,SIGN ANUSVARA,SIGN CANDRABINDU,VOWEL SIGN AA,VOWEL SIGN E,VOWEL SIGN I",
    "VOWEL SIGN O,VOWEL SIGN U"]),
  (["MARCHEN LETTER"], [
    "-A,A,BA,CA,CHA,DA,DZA,GA,HA,JA,KA,KHA,LA,MA,NA,NGA,NYA,PA,PHA,RA,SA,SHA,TA,THA,TSA,TSHA,WA",
    "YA,ZA,ZHA"]),
  (["MARCHEN SUBJOINED LETTER"], [
    "A,BA,CA,CHA,DA,DZA,GA,HA,JA,KA,KHA,LA,MA,NA,NGA,NYA,PA,PHA,RA,SA,SHA,TA,THA,TSA,TSHA,WA,YA",
    "ZA,ZHA"]),
  (["MASARAM GONDI"], [
    "RA-KARA,REPHA,SIGN ANUSVARA,SIGN CANDRA,SIGN HALANTA,SIGN NUKTA,SIGN VISARGA,VIRAMA"]),
  (["MASARAM GONDI LETTER"], [
    "A,AA,AI,AU,BA,BHA,CA,CHA,DA,DDA,DDHA,DHA,E,GA,GHA,HA,I,II,JA,JHA,JNYA,KA,KHA,KSSA,LA,LLA,MA",
    "NA,NGA,NNA,NYA,O,PA,PHA,RA,SA,SHA,SSA,TA,THA,TRA,TTA,TTHA,U,UU,VA,YA"]),
  (["MEETEI MAYEK"], [
    "AHANG KHUDAM,ANJI,APUN IYEK,CHEIKHAN,CHEIKHEI,LUM IYEK,SYLLABLE REPETITION MARK,VIRAMA",
    "WORD REPETITION MARK"]),
  (["MEETEI MAYEK LETTER"], [
    "ATIYA,BA,BHAM,CHA,CHIL,DDA,DDHA,DHOU,DIL,E,GHOU,GOK,HUK,I,I LONSUM,JHAM,JIL,KHOU,KOK",
    "KOK LONSUM,LAI,LAI LONSUM,MIT,MIT LONSUM,NA,NA LONSUM,NGOU,NGOU LONSUM,NNA,NYA,O,PA",
    "PA LONSUM,PHAM,RAI,SAM,SHA,SSA,THOU,TIL,TIL LONSUM,TTA,TTHA,UN,WAI,YANG"]),
  (["MEETEI MAYEK VOWEL SIGN"], [
    "AAI,AAU,ANAP,AU,CHEINAP,II,INAP,NUNG,ONAP,SOUNAP,UNAP,UU,VISARGA,YENAP"]),
  (["MODI"], [
    "ABBREVIATION SIGN,DANDA,DOUBLE DANDA,SIGN ANUSVARA,SIGN ARDHACANDRA,SIGN HUVA,SIGN VIRAMA",
    "SIGN VISARGA"]),
  (["MODI LETTER", "SHARADA LETTER"], [
    "A,AA,AI,AU,BA,BHA,CA,CHA,DA,DDA,DDHA,DHA,E,GA,GHA,HA,I,II,JA,JHA,KA,KHA,LA,LLA,MA,NA,NGA",
    "NNA,NYA,O,PA,PHA,RA,SA,SHA,SSA,TA,THA,TTA,TTHA,U,UU,VA,VOCALIC L,VOCALIC LL,VOCALIC R",
    "VOCALIC RR,YA"]),
  (["MONGOLIAN"], [
    "BIRGA WITH DOUBLE ORNAMENT,BIRGA WITH ORNAMENT,DOUBLE BIRGA WITH ORNAMENT,INVERTED BIRGA",
    "INVERTED BIRGA WITH DOUBLE ORNAMENT,ROTATED BIRGA,ROTATED BIRGA WITH DOUBLE ORNAMENT",
    "ROTATED BIRGA WITH ORNAMENT,SWIRL BIRGA,SWIRL BIRGA WITH DOUBLE ORNAMENT",
    "SWIRL BIRGA WITH ORNAMENT,TRIPLE BIRGA WITH ORNAMENT",
    "TURNED SWIRL BIRGA WITH DOUBLE ORNAMENT"]),
  (["MULTANI"], ["SECTION MARK"]),
  (["MULTANI LETTER"], [
    "A,BA,BHA,CA,CHA,DA,DDA,DDDA,DDHA,DHA,E,GA,GHA,HA,I,JA,JJA,KA,KHA,LA,MA,NA,NNA,NYA,PA,PHA,RA",
    "RHA,RRA,SA,TA,THA,TTA,TTHA,U,VA,YA"]),
  (["NANDINAGARI"], [
    "HEADSTROKE,SIGN ANUSVARA,SIGN AVAGRAHA,SIGN SIDDHAM,SIGN VIRAMA,SIGN VISARGA"]),
  (["NANDINAGARI LETTER"], [
    "A,AA,AI,AU,BA,BHA,CA,CHA,DA,DDA,DDHA,DHA,E,GA,GHA,HA,I,II,JA,JHA,KA,KHA,LA,LLA,MA,NA,NGA",
    "NNA,NYA,O,PA,PHA,RA,RRA,SA,SHA,SSA,TA,THA,TTA,TTHA,U,UU,VA,VOCALIC R,VOCALIC RR,YA"]),
  (["NANDINAGARI VOWEL SIGN"], ["AA,AI,AU,E,I,II,O,PRISHTHAMATRA E,U,UU,VOCALIC R,VOCALIC RR"]),
  (["NEWA"], [
    "ABBREVIATION SIGN,COMMA,DANDA,DOUBLE COMMA,DOUBLE DANDA,GAP FILLER,INSERTION SIGN,OM",
    "PLACEHOLDER MARK,SANDHI MARK,SIDDHI"]),
  (["NEWA LETTER"], [
    "A,AA,AI,AU,BA,BHA,CA,CHA,DA,DDA,DDHA,DHA,E,GA,GHA,HA,I,II,JA,JHA,KA,KHA,LA,LHA,MA,MHA,NA",
    "NGA,NGHA,NHA,NNA,NYA,NYHA,O,PA,PHA,RA,RHA,SA,SHA,SSA,TA,THA,TTA,TTHA,U,UU,VEDIC ANUSVARA",
    "VOCALIC L,VOCALIC LL,VOCALIC R,VOCALIC RR,WA,YA"]),
  (["NEWA SIGN"], [
    "ANUSVARA,AVAGRAHA,CANDRABINDU,FINAL ANUSVARA,JIHVAMULIYA,NUKTA,UPADHMANIYA,VIRAMA,VISARGA"]),
  (["NORTH INDIC"], ["PLACEHOLDER MARK,QUANTITY MARK,QUARTER MARK,RUPEE MARK"]),
  (["NORTH INDIC FRACTION", "ORIYA FRACTION"], [
    "ONE EIGHTH,ONE HALF,ONE QUARTER,ONE SIXTEENTH,THREE QUARTERS,THREE SIXTEENTHS"]),
  (["OL CHIKI"], [
    "AHAD,GAAHLAA TTUDDAAG,MU TTUDDAG,MU-GAAHLAA TTUDDAAG,PHAARKAA,PUNCTUATION DOUBLE MUCAAD",
    "PUNCTUATION MUCAAD,RELAA"]),
  (["OL CHIKI LETTER"], [
    "AAJ,AAK,AAM,AAW,AG,AL,ANG,AT,EDD,EN,EP,ERR,IH,INY,IR,IS,LA,LAA,LE,LI,LO,LU,OB,OH,OTT,OV,UC",
    "UD,UNN,UY"]),
  (["ORIYA"], ["AI LENGTH MARK,AU LENGTH MARK,ISSHAR"]),
  (["ORIYA LETTER"], [
    "A,AA,AI,AU,BA,BHA,CA,CHA,DA,DDA,DDHA,DHA,E,GA,GHA,HA,I,II,JA,JHA,KA,KHA,LA,LLA,MA,NA,NGA",
    "NNA,NYA,O,PA,PHA,RA,RHA,RRA,SA,SHA,SSA,TA,THA,TTA,TTHA,U,UU,VA,VOCALIC L,VOCALIC LL",
    "VOCALIC R,VOCALIC RR,WA,YA,YYA"]),
  (["ORIYA SIGN"], ["ANUSVARA,AVAGRAHA,CANDRABINDU,NUKTA,OVERLINE,VIRAMA,VISARGA"]),
  (["PAU CIN HAU"], [
    "GLOTTAL STOP,GLOTTAL STOP FINAL,GLOTTAL STOP VARIANT,MID-LEVEL TONE,MID-LEVEL TONE FINAL",
    "MID-LEVEL TONE LONG FINAL,RISING TONE,RISING TONE FINAL,RISING TONE LONG",
    "RISING TONE LONG FINAL"]),
  (["PAU CIN HAU LETTER"], [
    "A,BA,CA,CHA,DA,E,FA,GA,HA,I,IA,KA,KHA,LA,MA,NA,NGA,O,PA,PHA,RA,SA,TA,THA,U,UA,VA,ZA"]),
  (["PAU CIN HAU LETTER FINAL"], ["K,L,M,N,NG,P,T,W,Y"]),
  (["PAU CIN HAU LOW-FALLING"], ["TONE,TONE FINAL,TONE LONG,TONE LONG FINAL"]),
  (["PAU CIN HAU SANDHI"], [
    "GLOTTAL STOP,GLOTTAL STOP FINAL,TONE,TONE FINAL,TONE LONG,TONE LONG FINAL"]),
  (["PHAGS-PA"], [
    "DOUBLE HEAD MARK,MARK DOUBLE SHAD,MARK SHAD,SINGLE HEAD MARK,SUBJOINED LETTER RA",
    "SUBJOINED LETTER WA,SUBJOINED LETTER YA,SUPERFIXED LETTER RA"]),
  (["PHAGS-PA LETTER"], [
    "A,ALTERNATE YA,ASPIRATED FA,BA,CA,CANDRABINDU,CHA,DA,DDA,DZA,E,EE,FA,GA,GGA,HA,I,JA,KA,KHA",
    "LA,MA,NA,NGA,NNA,NYA,O,PA,PHA,QA,RA,SA,SHA,SMALL A,TA,THA,TSA,TSHA,TTA,TTHA,U,VOICED HA",
    "VOICELESS SHA,WA,XA,YA,ZA,ZHA"]),
  (["SAURASHTRA"], [
    "CONSONANT SIGN HAARU,DANDA,DOUBLE DANDA,SIGN ANUSVARA,SIGN CANDRABINDU,SIGN VIRAMA",
    "SIGN VISARGA"]),
  (["SAURASHTRA LETTER"], [
    "A,AA,AI,AU,BA,BHA,CA,CHA,DA,DDA,DDHA,DHA,E,EE,GA,GHA,HA,I,II,JA,JHA,KA,KHA,LA,LLA,MA,NA,NGA",
    "NNA,NYA,O,OO,PA,PHA,RA,SA,SHA,SSA,TA,THA,TTA,TTHA,U,UU,VA,VOCALIC L,VOCALIC LL,VOCALIC R",
    "VOCALIC RR,YA"]),
  (["SHARADA"], [
    "ABBREVIATION SIGN,CONTINUATION SIGN,DANDA,DOUBLE DANDA,EKAM,EXTRA SHORT VOWEL MARK",
    "HEADSTROKE,OM,SANDHI MARK,SECTION MARK-1,SECTION MARK-2,SEPARATOR,SUTRA MARK"]),
  (["SHARADA SIGN"], [
    "ANUSVARA,AVAGRAHA,CANDRABINDU,INVERTED CANDRABINDU,JIHVAMULIYA,NUKTA,SIDDHAM,UPADHMANIYA",
    "VIRAMA,VISARGA"]),
  (["SHARADA VOWEL"], ["MODIFIER MARK"]),
  (["SHARADA VOWEL SIGN"], [
    "AA,AI,AU,E,I,II,O,PRISHTHAMATRA E,U,UU,VOCALIC L,VOCALIC LL,VOCALIC R,VOCALIC RR"]),
  (["SIDDHAM"], [
    "DANDA,DOUBLE DANDA,END OF TEXT MARK,REPETITION MARK-1..REPETITION MARK-3,SEPARATOR BAR",
    "SEPARATOR DOT,SIGN ANUSVARA,SIGN CANDRABINDU,SIGN NUKTA,SIGN SIDDHAM,SIGN VIRAMA",
    "SIGN VISARGA"]),
  (["SIDDHAM LETTER"], [
    "A,AA,AI,ALTERNATE U,AU,BA,BHA,CA,CHA,DA,DDA,DDHA,DHA,E,GA,GHA,HA,I,II,JA,JHA,KA,KHA,LA,MA",
    "NA,NGA,NNA,NYA,O,PA,PHA,RA,SA,SHA,SSA,TA,THA,THREE-CIRCLE ALTERNATE I,TTA,TTHA",
    "TWO-CIRCLE ALTERNATE I,TWO-CIRCLE ALTERNATE II,U,UU,VA,VOCALIC L,VOCALIC LL,VOCALIC R",
    "VOCALIC RR,YA"]),
  (["SIDDHAM SECTION MARK"], ["DOUBLE RING,DOUBLE RING WITH RAYS"]),
  (["SIDDHAM SECTION MARK WITH"], [
    "CIRCLES AND FOUR ENCLOSURES,CIRCLES AND RAYS,CIRCLES AND TWO ENCLOSURES,DOUBLE CRESCENTS",
    "QUADRUPLE CRESCENTS,RAYS AND DOTTED CRESCENTS,RAYS AND DOTTED DOUBLE CRESCENTS",
    "RAYS AND DOTTED TRIPLE CRESCENTS,SEPTUPLE CRESCENTS,TRIDENT AND DOTTED CRESCENTS",
    "TRIDENT AND U-SHAPED ORNAMENTS,TRIPLE CRESCENTS"]),
  (["SIDDHAM VOWEL SIGN"], [
    "AA,AI,ALTERNATE U,ALTERNATE UU,AU,E,I,II,O,U,UU,VOCALIC R,VOCALIC RR"]),
  (["SINHALA"], [
    "PUNCTUATION KUNDDALIYA,SIGN AL-LAKUNA,SIGN ANUSVARAYA,SIGN CANDRABINDU,SIGN VISARGAYA"]),
  (["SINHALA ARCHAIC DIGIT"], ["EIGHT,FIVE,FOUR,NINE,ONE,SEVEN,SIX,THREE,TWO"]),
  (["SINHALA ARCHAIC NUMBER"], [
    "EIGHTY,FIFTY,FORTY,NINETY,ONE HUNDRED,ONE THOUSAND,SEVENTY,SIXTY,TEN,THIRTY,TWENTY"]),
  (["SINHALA LETTER"], [
    "AAYANNA,AEEYANNA,AEYANNA,AIYANNA,AMBA BAYANNA,AUYANNA,AYANNA,DANTAJA LAYANNA",
    "DANTAJA NAYANNA,DANTAJA SAYANNA,EEYANNA,EYANNA,FAYANNA,HAYANNA,IIYANNA,ILUUYANNA,ILUYANNA",
    "IRUUYANNA,IRUYANNA,IYANNA,KANTAJA NAASIKYAYA,MAYANNA,MUURDHAJA LAYANNA,MUURDHAJA NAYANNA",
    "MUURDHAJA SAYANNA,OOYANNA,OYANNA,RAYANNA,SANYAKA DAYANNA,SANYAKA DDAYANNA,SANYAKA GAYANNA",
    "SANYAKA JAYANNA,TAALUJA NAASIKYAYA,TAALUJA SANYOOGA NAAKSIKYAYA,TAALUJA SAYANNA,UUYANNA",
    "UYANNA,VAYANNA,YAYANNA"]),
  (["SINHALA LETTER ALPAPRAANA", "SINHALA LETTER MAHAAPRAANA"], [
    "BAYANNA,CAYANNA,DAYANNA,DDAYANNA,GAYANNA,JAYANNA,KAYANNA,PAYANNA,TAYANNA,TTAYANNA"]),
  (["SINHALA VOWEL SIGN"], [
    "AELA-PILLA,DIGA AEDA-PILLA,DIGA GAETTA-PILLA,DIGA GAYANUKITTA,DIGA IS-PILLA,DIGA KOMBUVA",
    "DIGA PAA-PILLA,GAETTA-PILLA,GAYANUKITTA,KETTI AEDA-PILLA,KETTI IS-PILLA,KETTI PAA-PILLA",
    "KOMBU DEKA,KOMBUVA,KOMBUVA HAA AELA-PILLA,KOMBUVA HAA DIGA AELA-PILLA",
    "KOMBUVA HAA GAYANUKITTA"]),
  (["SORA SOMPENG LETTER"], [
    "AH,BAH,CAH,DAH,EEH,EH,GAH,HAH,IH,JAH,KAH,LAH,MAE,MAH,NAH,NGAH,NYAH,OH,PAH,RAH,SAH,TAH,UH",
    "VAH,YAH"]),
  (["SOYOMBO"], [
    "GEMINATION MARK,HEAD MARK WITH MOON AND SUN,HEAD MARK WITH MOON AND SUN AND FLAME",
    "HEAD MARK WITH MOON AND SUN AND TRIPLE FLAME,MARK DOUBLE SHAD,MARK PLUTA,MARK SHAD",
    "MARK TSHEG,SIGN ANUSVARA,SIGN JIHVAMULIYA,SIGN UPADHMANIYA,SIGN VISARGA,SUBJOINER",
    "TERMINAL MARK-1,TERMINAL MARK-2"]),
  (["SOYOMBO CLUSTER-INITIAL"], ["LETTER LA,LETTER RA,LETTER SA,LETTER SHA"]),
  (["SOYOMBO FINAL CONSONANT SIGN"], ["-A,B,D,G,K,L,M,N,NG,R,S,SH"]),
  (["SOYOMBO LETTER"], [
    "-A,A,BA,BHA,CA,CHA,DA,DDA,DDHA,DHA,DZA,GA,GHA,HA,JA,JHA,KA,KHA,KSSA,LA,MA,NA,NGA,NNA,NYA,PA",
    "PHA,RA,SA,SHA,SSA,TA,THA,TSA,TSHA,TTA,TTHA,VA,YA,ZA,ZHA"]),
  (["SOYOMBO VOWEL"], ["LENGTH MARK"]),
  (["SOYOMBO VOWEL SIGN"], ["AI,AU,E,I,O,OE,U,UE,VOCALIC L,VOCALIC R"]),
  (["SUNDANESE PUNCTUATION BINDU"], [
    "BA SATANGA,CAKRA,DA SATANGA,KA SATANGA,LEU SATANGA,PANGLONG,PURNAMA,SURYA"]),
  (["SYLOTI NAGRI"], [
    "POETRY MARK-1..POETRY MARK-4,SIGN ALTERNATE HASANTA,SIGN ANUSVARA,SIGN DVISVARA",
    "SIGN HASANTA,VOWEL SIGN A,VOWEL SIGN E,VOWEL SIGN I,VOWEL SIGN OO,VOWEL SIGN U"]),
  (["SYLOTI NAGRI LETTER"], [
    "A,BHO,BO,CHO,CO,DDHO,DDO,DHO,DO,E,GHO,GO,HO,I,JHO,JO,KHO,KO,LO,MO,NO,O,PHO,PO,RO,RRO,SO,THO",
    "TO,TTHO,TTO,U"]),
  (["TAKRI LETTER"], [
    "A,AA,AI,ARCHAIC KHA,AU,BA,BHA,CA,CHA,DA,DDA,DDHA,DHA,E,GA,GHA,HA,I,II,JA,JHA,KA,KHA,LA,MA",
    "NA,NGA,NNA,NYA,O,PA,PHA,RA,RRA,SA,SHA,TA,THA,TTA,TTHA,U,UU,VA,YA"]),
  (["TAMIL"], [
    "AND ODD SIGN,AS ABOVE SIGN,AU LENGTH MARK,CREDIT SIGN,CURRENT SIGN,DAY SIGN,DEBIT SIGN",
    "DRY CULTIVATION SIGN,IN POSSESSION SIGN,LAND SIGN,MONTH SIGN,NUMBER ONE HUNDRED",
    "NUMBER ONE THOUSAND,NUMBER SIGN,NUMBER TEN,OM,PUNCTUATION END OF TEXT,RUPEE SIGN",
    "SALT PAN SIGN,SPENT SIGN,STARTING FROM SIGN,TOTAL SIGN,TRADITIONAL CREDIT SIGN",
    "TRADITIONAL NUMBER SIGN,WET CULTIVATION SIGN,YEAR SIGN"]),
  (["TAMIL FRACTION"], [
    "DOWNSCALING FACTOR KIIZH,THREE EIGHTIETHS,THREE QUARTERS,THREE SIXTEENTHS",
    "THREE SIXTY-FOURTHS,THREE TWENTIETHS"]),
  (["TAMIL FRACTION ONE"], [
    "EIGHTH,EIGHTIETH,FIFTH,FORTIETH,HALF-1,HALF-2,ONE-HUNDRED-AND-SIXTIETH,QUARTER,SIXTEENTH-1",
    "SIXTEENTH-2,SIXTY-FOURTH,TENTH,THIRTY-SECOND,THREE-HUNDRED-AND-TWENTIETH,TWENTIETH"]),
  (["TAMIL LETTER"], [
    "A,AA,AI,AU,CA,E,EE,HA,I,II,JA,KA,LA,LLA,LLLA,MA,NA,NGA,NNA,NNNA,NYA,O,OO,PA,RA,RRA,SA,SHA",
    "SSA,TA,TTA,U,UU,VA,YA"]),
  (["TAMIL SIGN"], [
    "AAZHAAKKU,ANUSVARA,CEVITU,KAACU,KURUNI,KUZHI,MUKKURUNI,MUTHALIYA,MUUVUZHAKKU,NEL,PAARAM",
    "PANAM,PATHAKKU,PON,UZHAKKU,VAKAIYARAA,VARAAKAN,VELI,VIRAMA,VISARGA"]),
  (["TAMIL VOWEL SIGN"], ["AA,AI,AU,E,EE,I,II,O,OO,U,UU"]),
  (["TELUGU FRACTION DIGIT"], [
    "ONE FOR EVEN POWERS OF FOUR,ONE FOR ODD POWERS OF FOUR,THREE FOR EVEN POWERS OF FOUR",
    "THREE FOR ODD POWERS OF FOUR,TWO FOR EVEN POWERS OF FOUR,TWO FOR ODD POWERS OF FOUR",
    "ZERO FOR ODD POWERS OF FOUR"]),
  (["TELUGU LETTER"], [
    "A,AA,AI,AU,BA,BHA,CA,CHA,DA,DDA,DDHA,DHA,DZA,E,EE,GA,GHA,HA,I,II,JA,JHA,KA,KHA,LA,LLA,LLLA",
    "MA,NA,NAKAARA POLLU,NGA,NNA,NYA,O,OO,PA,PHA,RA,RRA,RRRA,SA,SHA,SSA,TA,THA,TSA,TTA,TTHA,U,UU",
    "VA,VOCALIC L,VOCALIC LL,VOCALIC R,VOCALIC RR,YA"]),
  (["TELUGU SIGN"], [
    "ANUSVARA,AVAGRAHA,CANDRABINDU,COMBINING ANUSVARA ABOVE,COMBINING CANDRABINDU ABOVE,NUKTA",
    "SIDDHAM,TUUMU,VIRAMA,VISARGA"]),
  (["TIRHUTA"], [
    "ABBREVIATION SIGN,ANJI,GVANG,OM,SIGN ANUSVARA,SIGN AVAGRAHA,SIGN CANDRABINDU,SIGN NUKTA",
    "SIGN VIRAMA,SIGN VISARGA"]),
  (["TIRHUTA LETTER"], [
    "A,AA,AI,AU,BA,BHA,CA,CHA,DA,DDA,DDHA,DHA,E,GA,GHA,HA,I,II,JA,JHA,KA,KHA,LA,MA,NA,NGA,NNA",
    "NYA,O,PA,PHA,RA,SA,SHA,SSA,TA,THA,TTA,TTHA,U,UU,VA,VOCALIC L,VOCALIC LL,VOCALIC R",
    "VOCALIC RR,YA"]),
  (["TIRHUTA VOWEL SIGN"], [
    "AA,AI,AU,E,I,II,O,SHORT E,SHORT O,U,UU,VOCALIC L,VOCALIC LL,VOCALIC R,VOCALIC RR"]),
  (["TOTO"], ["SIGN RISING TONE"]),
  (["TOTO LETTER"], ["A,AE,BA,CHA,DA,E,EO,GA,HA,I,IU,JA,KA,LA,MA,NA,NGA,O,PA,RA,SA,TA,U,WA,YA"]),
  (["TOTO LETTER BREATHY"], ["AE,E,EO,I,IU"]),
  (["VEDIC SIGN"], [
    "ARDHAVISARGA,ATIKRAMA,DOUBLE ANUSVARA ANTARGOMUKHA,HEXIFORM LONG ANUSVARA,JIHVAMULIYA",
    "LONG ANUSVARA,NIHSHVASA,REVERSED VISARGA ANUDATTA,REVERSED VISARGA UDATTA",
    "ROTATED ARDHAVISARGA,RTHANG LONG ANUSVARA,TIRYAK,UPADHMANIYA,YAJURVEDIC MIDLINE SVARITA"]),
  (["VEDIC SIGN ANUSVARA"], [
    "ANTARGOMUKHA,BAHIRGOMUKHA,UBHAYATO MUKHA,VAMAGOMUKHA,VAMAGOMUKHA WITH TAIL"]),
  (["VEDIC SIGN VISARGA"], ["ANUDATTA,ANUDATTA WITH TAIL,SVARITA,UDATTA,UDATTA WITH TAIL"]),
  (["VEDIC TONE"], [
    "ATHARVAVEDIC INDEPENDENT SVARITA,CANDRA ABOVE,CANDRA BELOW,DOT BELOW,DOUBLE RING ABOVE",
    "DOUBLE SVARITA,KARSHANA,KATHAKA ANUDATTA,PRENKHA,RIGVEDIC KASHMIRI INDEPENDENT SVARITA",
    "RING ABOVE,SHARA,THREE DOTS BELOW,TRIPLE SVARITA,TWO DOTS BELOW"]),
  (["VEDIC TONE YAJURVEDIC"], [
    "AGGRAVATED INDEPENDENT SVARITA,INDEPENDENT SVARITA,KATHAKA INDEPENDENT SVARITA",
    "KATHAKA INDEPENDENT SVARITA SCHROEDER"]),
  (["WANCHO"], ["NGUN SIGN,TONE KOI,TONE KOINI,TONE TUP,TONE TUPNI"]),
  (["WANCHO LETTER"], [
    "A,AA,AAN,AANG,ANG,AU,BA,CA,DA,E,EN,FA,GA,HA,I,ING,JA,KA,KHA,LA,LLHA,MA,NA,NGA,NYA,O,ON,ONG",
    "PA,PHA,RA,SA,SHA,TA,THA,TRA,TSA,U,UEN,VA,WA,YA,YIH,ZA"]),
  (["WARANG CITI"], ["OM"]),
  (["WARANG CITI CAPITAL LETTER", "WARANG CITI SMALL LETTER"], [
    "A,AM,ANG,AT,BU,DA,E,ENN,ENY,GA,HAR,HIYO,HOLO,HORR,II,KO,NGAA,NUNG,O,ODD,PU,SII,SSUU,TTE,UC",
    "UU,VIYO,WI,YA,YO,YU,YUJ"]),
  (["WARANG CITI NUMBER"], ["EIGHTY,FIFTY,FORTY,NINETY,SEVENTY,SIXTY,TEN,THIRTY,TWENTY"]),
  (["ZANABAZAR SQUARE"], [
    "CLOSING DOUBLE-LINED HEAD MARK,CLOSING HEAD MARK,CLUSTER-INITIAL LETTER RA",
    "FINAL CONSONANT MARK,INITIAL DOUBLE-LINED HEAD MARK,INITIAL HEAD MARK,MARK DOUBLE SHAD",
    "MARK LONG TSHEG,MARK SHAD,MARK TSHEG,SIGN ANUSVARA,SIGN CANDRA WITH ORNAMENT",
    "SIGN CANDRABINDU,SIGN CANDRABINDU WITH ORNAMENT,SIGN VIRAMA,SIGN VISARGA,SUBJOINER"]),
  (["ZANABAZAR SQUARE CLUSTER-FINAL"], ["LETTER LA,LETTER RA,LETTER VA,LETTER YA"]),
  (["ZANABAZAR SQUARE LETTER"], [
    "-A,A,BA,BHA,CA,CHA,DA,DDA,DDHA,DHA,DZA,DZHA,GA,GHA,HA,JA,KA,KHA,KSSA,LA,MA,NA,NGA,NNA,NYA",
    "PA,PHA,RA,SA,SHA,SSA,TA,THA,TSA,TSHA,TTA,TTHA,VA,YA,ZA,ZHA"]),
  (["ZANABAZAR SQUARE VOWEL"], [
    "LENGTH MARK,SIGN AI,SIGN AU,SIGN E,SIGN I,SIGN O,SIGN OE,SIGN REVERSED I,SIGN U,SIGN UE"])]

end AwaitLint.Text
