/-! # Scripts of the Middle East

Hebrew, Arabic, Syriac and their relatives.
-/

namespace AwaitLint.Text

def middleEasternNames : List (List String × List String) := [
  ([""], [
    "AFGHANI SIGN,LARGE ONE DOT OVER TWO DOTS PUNCTUATION",
    "LARGE ONE RING OVER TWO RINGS PUNCTUATION,LARGE TWO DOTS OVER ONE DOT PUNCTUATION",
    "LARGE TWO RINGS OVER ONE RING PUNCTUATION,ORNATE LEFT PARENTHESIS,ORNATE RIGHT PARENTHESIS",
    "RIAL SIGN,SMALL TWO DOTS OVER ONE DOT PUNCTUATION,TINY TWO DOTS OVER ONE DOT PUNCTUATION"]),
  (["ARABIC"], [
    "BASELINE ROUND DOT,COMMA,DAMMA,DAMMA ISOLATED FORM,DAMMA MEDIAL FORM,DAMMA WITH DOT",
    "DAMMATAN,DAMMATAN ISOLATED FORM,DATE SEPARATOR,DECIMAL SEPARATOR,DISPUTED END OF AYAH",
    "DOUBLE RIGHT ARROWHEAD ABOVE,DOUBLE RIGHT ARROWHEAD ABOVE WITH DOT,DOUBLED MADDA",
    "EMPTY CENTRE HIGH STOP,EMPTY CENTRE LOW STOP,END OF AYAH,END OF TEXT MARK,FATHA,FATHATAN",
    "FATHATAN ISOLATED FORM,FIVE POINTED STAR,FOOTNOTE MARKER,FULL STOP,HALF MADDA OVER MADDA",
    "HAMZA ABOVE,HAMZA BELOW,INVERTED DAMMA,KASRA,KASRA ISOLATED FORM,KASRA MEDIAL FORM",
    "KASRA WITH DOT BELOW,KASRATAN,KASRATAN ISOLATED FORM,LARGE CIRCLE BELOW",
    "LARGE ROUND DOT ABOVE,LARGE ROUND DOT BELOW,LARGE ROUND DOT INSIDE CIRCLE BELOW",
    "LEFT ARROWHEAD ABOVE,LEFT ARROWHEAD BELOW,MADDA WAAJIB,MADDAH ABOVE,MARK NOON GHUNNA",
    "MARK SIDEWAYS NOON GHUNNA,NUMBER MARK ABOVE,NUMBER SIGN,OPEN DAMMATAN,OPEN FATHATAN",
    "OPEN KASRATAN,PERCENT SIGN,PIASTRE MARK ABOVE,PLACE OF SAJDAH,POETIC VERSE SIGN",
    "POUND MARK ABOVE,QUESTION MARK,RAISED ROUND DOT,RAY,REVERSED DAMMA,RIGHT ARROWHEAD ABOVE",
    "RIGHT ARROWHEAD ABOVE WITH DOT,RIGHT ARROWHEAD BELOW,ROUNDED HIGH STOP WITH FILLED CENTRE",
    "SEMICOLON,SHADDA,SHADDA ISOLATED FORM,SHADDA MEDIAL FORM,START OF RUB EL HIZB",
    "SUBSCRIPT ALEF,SUKUN,SUKUN BELOW,SUKUN ISOLATED FORM,SUKUN MEDIAL FORM",
    "SUPERSCRIPT ALEF MOKHASSAS,TAIL FRAGMENT,TATWEEL,THOUSANDS SEPARATOR,TONE LOOP ABOVE",
    "TONE LOOP BELOW,TONE ONE DOT ABOVE,TONE ONE DOT BELOW,TONE TWO DOTS ABOVE",
    "TONE TWO DOTS BELOW,TRIPLE DOT PUNCTUATION MARK,TURNED DAMMA BELOW,VERTICAL TAIL",
    "VOWEL SIGN DOT BELOW,VOWEL SIGN INVERTED SMALL V ABOVE,VOWEL SIGN SMALL V ABOVE",
    "WAVY HAMZA BELOW,ZWARAKAY"]),
  (["ARABIC CURLY"], ["DAMMA,DAMMATAN,FATHA,FATHATAN,KASRA,KASRATAN"]),
  (["ARABIC FATHA"], ["ISOLATED FORM,MEDIAL FORM,WITH DOT ABOVE,WITH RING,WITH TWO DOTS"]),
  (["ARABIC LETTER"], [
    "AE,AFRICAN FEH,AFRICAN NOON,AFRICAN QAF,AFRICAN QAF WITH THREE DOTS ABOVE,AIN,ALEF,BEEH",
    "BEEH FINAL FORM,BEEH INITIAL FORM,BEEH ISOLATED FORM,BEEH MEDIAL FORM,BEH,BEHEH",
    "BEHEH FINAL FORM,BEHEH INITIAL FORM,BEHEH ISOLATED FORM,BEHEH MEDIAL FORM,DAD",
    "DAD FINAL FORM,DAD INITIAL FORM,DAD ISOLATED FORM,DAD MEDIAL FORM,DAD WITH DOT BELOW,DAHAL",
    "DAHAL FINAL FORM,DAHAL ISOLATED FORM,DAL,DDAHAL,DDAHAL FINAL FORM,DDAHAL ISOLATED FORM,DDAL",
    "DDAL FINAL FORM,DDAL ISOLATED FORM,DOTLESS BEH,DOTLESS FEH,DOTLESS QAF,DUL,DUL FINAL FORM",
    "DUL ISOLATED FORM,DYEH,DYEH FINAL FORM,DYEH INITIAL FORM,DYEH ISOLATED FORM",
    "DYEH MEDIAL FORM,E,E FINAL FORM,E INITIAL FORM,E ISOLATED FORM,E MEDIAL FORM,FEH,GAF",
    "GAF FINAL FORM,GAF INITIAL FORM,GAF ISOLATED FORM,GAF MEDIAL FORM,GAF WITH INVERTED STROKE",
    "GAF WITH RING,GAF WITH THREE DOTS ABOVE,GAF WITH TWO DOTS BELOW,GHAIN,GRAF,GUEH",
    "GUEH FINAL FORM,GUEH INITIAL FORM,GUEH ISOLATED FORM,GUEH MEDIAL FORM,HAH,HAMZA",
    "HAMZA ISOLATED FORM,HEH,HIGH HAMZA,HIGH HAMZA ALEF,HIGH HAMZA WAW,HIGH HAMZA YEH,JEEM,JEH",
    "JEH FINAL FORM,JEH ISOLATED FORM,KAF,KASHMIRI YEH,KEHEH,KHAH,KHAH FINAL FORM",
    "KHAH INITIAL FORM,KHAH ISOLATED FORM,KHAH MEDIAL FORM,LAM,LOW ALEF,MARK,MEEM,NG",
    "NG FINAL FORM,NG INITIAL FORM,NG ISOLATED FORM,NG MEDIAL FORM,NGOEH,NGOEH FINAL FORM",
    "NGOEH INITIAL FORM,NGOEH ISOLATED FORM,NGOEH MEDIAL FORM,NOON,NYEH,NYEH FINAL FORM",
    "NYEH INITIAL FORM,NYEH ISOLATED FORM,NYEH MEDIAL FORM,OE,OE FINAL FORM,OE ISOLATED FORM,PEH",
    "PEH FINAL FORM,PEH INITIAL FORM,PEH ISOLATED FORM,PEH MEDIAL FORM,PEH WITH SMALL MEEM ABOVE",
    "PEH WITH SMALL V,PEHEH,PEHEH FINAL FORM,PEHEH INITIAL FORM,PEHEH ISOLATED FORM",
    "PEHEH MEDIAL FORM,QAF,QAF FINAL FORM,QAF INITIAL FORM,QAF ISOLATED FORM,QAF MEDIAL FORM",
    "QAF WITH DOT ABOVE,QAF WITH DOT BELOW,QAF WITH DOT BELOW AND NO DOTS ABOVE",
    "QAF WITH THREE DOTS ABOVE,REH,RNOON,RNOON FINAL FORM,RNOON INITIAL FORM,RNOON ISOLATED FORM",
    "RNOON MEDIAL FORM,ROHINGYA YEH,RREH,RREH FINAL FORM,RREH ISOLATED FORM,SAD,SAD FINAL FORM",
    "SAD INITIAL FORM,SAD ISOLATED FORM,SAD MEDIAL FORM,SAD WITH THREE DOTS ABOVE",
    "SAD WITH THREE DOTS BELOW,SAD WITH TWO DOTS BELOW,SEEN,SHEEN,SHEEN FINAL FORM",
    "SHEEN INITIAL FORM,SHEEN ISOLATED FORM,SHEEN MEDIAL FORM,SHEEN WITH DOT BELOW,STRAIGHT WAW",
    "SUPERSCRIPT ALEF,SWASH KAF,TAH,TAH FINAL FORM,TAH INITIAL FORM,TAH ISOLATED FORM",
    "TAH MEDIAL FORM,TAH WITH DOT BELOW,TAH WITH THREE DOTS ABOVE,TAH WITH THREE DOTS BELOW",
    "TAH WITH TWO DOTS ABOVE,TCHEH,TCHEHEH,TCHEHEH FINAL FORM,TCHEHEH INITIAL FORM",
    "TCHEHEH ISOLATED FORM,TCHEHEH MEDIAL FORM,TEH,TEHEH,TEHEH FINAL FORM,TEHEH INITIAL FORM",
    "TEHEH ISOLATED FORM,TEHEH MEDIAL FORM,THAL,THAL FINAL FORM,THAL ISOLATED FORM,THEH",
    "THEH FINAL FORM,THEH INITIAL FORM,THEH ISOLATED FORM,THEH MEDIAL FORM,THIN YEH,TTEH",
    "TTEH FINAL FORM,TTEH INITIAL FORM,TTEH ISOLATED FORM,TTEH MEDIAL FORM,TTEH WITH SMALL V",
    "TTEHEH,TTEHEH FINAL FORM,TTEHEH INITIAL FORM,TTEHEH ISOLATED FORM,TTEHEH MEDIAL FORM,U",
    "U FINAL FORM,U ISOLATED FORM,U WITH HAMZA ABOVE,U WITH HAMZA ABOVE ISOLATED FORM",
    "UIGHUR KAZAKH KIRGHIZ ALEF MAKSURA INITIAL FORM",
    "UIGHUR KAZAKH KIRGHIZ ALEF MAKSURA MEDIAL FORM,VE,VE FINAL FORM,VE ISOLATED FORM,VEH",
    "VEH FINAL FORM,VEH INITIAL FORM,VEH ISOLATED FORM,VEH MEDIAL FORM,WAW,YEH,YU,YU FINAL FORM",
    "YU ISOLATED FORM,ZAH,ZAH FINAL FORM,ZAH INITIAL FORM,ZAH ISOLATED FORM,ZAH MEDIAL FORM,ZAIN",
    "ZAIN FINAL FORM,ZAIN ISOLATED FORM,ZAIN WITH INVERTED V ABOVE"]),
  (["ARABIC LETTER AIN"], [
    "FINAL FORM,INITIAL FORM,ISOLATED FORM,MEDIAL FORM,WITH THREE DOTS ABOVE",
    "WITH THREE DOTS BELOW,WITH THREE DOTS POINTING DOWNWARDS ABOVE,WITH TWO DOTS ABOVE",
    "WITH TWO DOTS VERTICALLY ABOVE"]),
  (["ARABIC LETTER ALEF"], [
    "FINAL FORM,ISOLATED FORM,MAKSURA,MAKSURA FINAL FORM,MAKSURA ISOLATED FORM,WASLA",
    "WASLA FINAL FORM,WASLA ISOLATED FORM"]),
  (["ARABIC LETTER ALEF WITH"], [
    "DOT ABOVE,EXTENDED ARABIC-INDIC DIGIT THREE ABOVE,EXTENDED ARABIC-INDIC DIGIT TWO ABOVE",
    "HAMZA ABOVE,HAMZA ABOVE FINAL FORM,HAMZA ABOVE ISOLATED FORM,HAMZA BELOW",
    "HAMZA BELOW FINAL FORM,HAMZA BELOW ISOLATED FORM,LEFT MIDDLE STROKE,MADDA ABOVE",
    "MADDA ABOVE FINAL FORM,MADDA ABOVE ISOLATED FORM,RIGHT MIDDLE STROKE",
    "RIGHT MIDDLE STROKE AND DOT ABOVE,RIGHT MIDDLE STROKE AND LEFT RING,WAVY HAMZA ABOVE",
    "WAVY HAMZA BELOW"]),
  (["ARABIC LETTER ALEF WITH ATTACHED"], [
    "BOTTOM RIGHT KASRA,BOTTOM RIGHT KASRA AND DOT ABOVE,BOTTOM RIGHT KASRA AND LEFT RING,FATHA",
    "KASRA,LEFT HAMZA,LEFT ROUND DOT,RIGHT HAMZA,RIGHT ROUND DOT,ROUND DOT ABOVE,ROUND DOT BELOW",
    "TOP RIGHT FATHA,TOP RIGHT FATHA AND DOT ABOVE,TOP RIGHT FATHA AND LEFT RING"]),
  (["ARABIC LETTER BEH", "ARABIC LETTER HAH", "ARABIC LETTER HEH DOACHASHMEE"], [
    "FINAL FORM,INITIAL FORM,ISOLATED FORM,MEDIAL FORM"]),
  (["ARABIC LETTER BEH WITH"], [
    "DOT BELOW AND THREE DOTS ABOVE,HAMZA ABOVE,INVERTED SMALL V BELOW,SMALL MEEM ABOVE,SMALL V",
    "SMALL V BELOW,THREE DOTS HORIZONTALLY BELOW,THREE DOTS POINTING UPWARDS BELOW",
    "THREE DOTS POINTING UPWARDS BELOW AND TWO DOTS ABOVE,TWO DOTS BELOW AND DOT ABOVE"]),
  (["ARABIC LETTER DAL", "ARABIC LETTER REH", "ARABIC LETTER WAW"], ["FINAL FORM,ISOLATED FORM"]),
  (["ARABIC LETTER DAL WITH"], [
    "DOT BELOW,DOT BELOW AND SMALL TAH,FOUR DOTS ABOVE,INVERTED SMALL V BELOW,INVERTED V,RING",
    "THREE DOTS ABOVE DOWNWARDS,THREE DOTS BELOW,TWO DOTS VERTICALLY BELOW AND SMALL TAH"]),
  (["ARABIC LETTER FARSI"], ["YEH"]),
  (["ARABIC LETTER FARSI YEH"], [
    "FINAL FORM,INITIAL FORM,ISOLATED FORM,MEDIAL FORM",
    "WITH EXTENDED ARABIC-INDIC DIGIT FOUR BELOW,WITH EXTENDED ARABIC-INDIC DIGIT THREE ABOVE",
    "WITH EXTENDED ARABIC-INDIC DIGIT TWO ABOVE,WITH INVERTED V,WITH THREE DOTS ABOVE",
    "WITH TWO DOTS ABOVE"]),
  (["ARABIC LETTER FEH"], [
    "FINAL FORM,INITIAL FORM,ISOLATED FORM,MEDIAL FORM,WITH DOT BELOW",
    "WITH DOT BELOW AND THREE DOTS ABOVE,WITH DOT MOVED BELOW,WITH THREE DOTS BELOW",
    "WITH THREE DOTS POINTING UPWARDS BELOW,WITH TWO DOTS BELOW"]),
  (["ARABIC LETTER GHAIN"], [
    "FINAL FORM,INITIAL FORM,ISOLATED FORM,MEDIAL FORM,WITH DOT BELOW,WITH THREE DOTS ABOVE"]),
  (["ARABIC LETTER HAH WITH"], [
    "EXTENDED ARABIC-INDIC DIGIT FOUR BELOW,HAMZA ABOVE,INVERTED SMALL V BELOW",
    "SMALL ARABIC LETTER TAH ABOVE,SMALL ARABIC LETTER TAH AND TWO DOTS",
    "SMALL ARABIC LETTER TAH BELOW,THREE DOTS ABOVE,THREE DOTS POINTING UPWARDS BELOW",
    "TWO DOTS ABOVE,TWO DOTS VERTICAL ABOVE"]),
  (["ARABIC LETTER HEH"], [
    "DOACHASHMEE,FINAL FORM,GOAL,GOAL FINAL FORM,GOAL INITIAL FORM,GOAL ISOLATED FORM",
    "GOAL MEDIAL FORM,GOAL WITH HAMZA ABOVE,INITIAL FORM,ISOLATED FORM,MEDIAL FORM",
    "WITH INVERTED V,WITH YEH ABOVE,WITH YEH ABOVE FINAL FORM,WITH YEH ABOVE ISOLATED FORM"]),
  (["ARABIC LETTER JEEM"], [
    "FINAL FORM,INITIAL FORM,ISOLATED FORM,MEDIAL FORM,WITH THREE DOTS ABOVE",
    "WITH THREE DOTS BELOW,WITH TWO DOTS ABOVE"]),
  (["ARABIC LETTER KAF"], [
    "FINAL FORM,INITIAL FORM,ISOLATED FORM,MEDIAL FORM,WITH DOT ABOVE,WITH DOT BELOW,WITH RING",
    "WITH THREE DOTS BELOW,WITH TWO DOTS ABOVE"]),
  (["ARABIC LETTER KEHEH"], [
    "FINAL FORM,INITIAL FORM,ISOLATED FORM,MEDIAL FORM,WITH DOT ABOVE,WITH SMALL V",
    "WITH THREE DOTS ABOVE,WITH THREE DOTS BELOW,WITH THREE DOTS POINTING UPWARDS BELOW",
    "WITH TWO DOTS ABOVE,WITH TWO DOTS VERTICALLY BELOW"]),
  (["ARABIC LETTER KIRGHIZ"], [
    "OE,OE FINAL FORM,OE ISOLATED FORM,YU,YU FINAL FORM,YU ISOLATED FORM"]),
  (["ARABIC LETTER LAM"], [
    "FINAL FORM,INITIAL FORM,ISOLATED FORM,MEDIAL FORM,WITH BAR,WITH DOT ABOVE,WITH DOUBLE BAR",
    "WITH SMALL ARABIC LETTER TAH ABOVE,WITH SMALL V,WITH THREE DOTS ABOVE,WITH THREE DOTS BELOW"]),
  (["ARABIC LETTER MEEM"], [
    "FINAL FORM,INITIAL FORM,ISOLATED FORM,MEDIAL FORM,WITH DOT ABOVE,WITH DOT BELOW",
    "WITH THREE DOTS ABOVE"]),
  (["ARABIC LETTER NOON"], [
    "FINAL FORM,GHUNNA,GHUNNA FINAL FORM,GHUNNA ISOLATED FORM,INITIAL FORM,ISOLATED FORM",
    "MEDIAL FORM,WITH DOT BELOW,WITH INVERTED SMALL V,WITH RING,WITH SMALL TAH,WITH SMALL V",
    "WITH THREE DOTS ABOVE,WITH TWO DOTS BELOW"]),
  (["ARABIC LETTER REH WITH"], [
    "DOT BELOW,DOT BELOW AND DOT ABOVE,FOUR DOTS ABOVE,HAMZA ABOVE,INVERTED V,LOOP,RING",
    "SMALL ARABIC LETTER TAH AND TWO DOTS,SMALL NOON ABOVE,SMALL V,SMALL V BELOW,STROKE",
    "TWO DOTS ABOVE,TWO DOTS VERTICALLY ABOVE"]),
  (["ARABIC LETTER SEEN"], [
    "FINAL FORM,INITIAL FORM,ISOLATED FORM,MEDIAL FORM,WITH DOT BELOW AND DOT ABOVE",
    "WITH EXTENDED ARABIC-INDIC DIGIT FOUR ABOVE,WITH FOUR DOTS ABOVE,WITH INVERTED V",
    "WITH SMALL ARABIC LETTER TAH AND TWO DOTS,WITH THREE DOTS BELOW",
    "WITH THREE DOTS BELOW AND THREE DOTS ABOVE,WITH TWO DOTS VERTICALLY ABOVE"]),
  (["ARABIC LETTER TCHEH"], [
    "FINAL FORM,INITIAL FORM,ISOLATED FORM,MEDIAL FORM,WITH DOT ABOVE,WITH SMALL V"]),
  (["ARABIC LETTER TEH"], [
    "FINAL FORM,INITIAL FORM,ISOLATED FORM,MARBUTA,MARBUTA FINAL FORM,MARBUTA GOAL",
    "MARBUTA ISOLATED FORM,MEDIAL FORM,WITH RING,WITH SMALL TEH ABOVE,WITH SMALL V",
    "WITH THREE DOTS ABOVE DOWNWARDS"]),
  (["ARABIC LETTER WAW WITH"], [
    "DOT ABOVE,DOT WITHIN,EXTENDED ARABIC-INDIC DIGIT THREE ABOVE",
    "EXTENDED ARABIC-INDIC DIGIT TWO ABOVE,HAMZA ABOVE,HAMZA ABOVE FINAL FORM",
    "HAMZA ABOVE ISOLATED FORM,RING,TWO DOTS ABOVE"]),
  (["ARABIC LETTER YEH"], ["BARREE,FINAL FORM,INITIAL FORM,ISOLATED FORM,MEDIAL FORM"]),
  (["ARABIC LETTER YEH BARREE"], [
    "FINAL FORM,ISOLATED FORM,WITH EXTENDED ARABIC-INDIC DIGIT THREE ABOVE",
    "WITH EXTENDED ARABIC-INDIC DIGIT TWO ABOVE,WITH HAMZA ABOVE,WITH HAMZA ABOVE FINAL FORM",
    "WITH HAMZA ABOVE ISOLATED FORM"]),
  (["ARABIC LETTER YEH WITH"], [
    "HAMZA ABOVE,HAMZA ABOVE FINAL FORM,HAMZA ABOVE INITIAL FORM,HAMZA ABOVE ISOLATED FORM",
    "HAMZA ABOVE MEDIAL FORM,SMALL V,TAIL,THREE DOTS BELOW,TWO DOTS BELOW AND DOT ABOVE",
    "TWO DOTS BELOW AND HAMZA ABOVE,TWO DOTS BELOW AND SMALL NOON ABOVE"]),
  (["ARABIC LIGATURE"], [
    "AKBAR ISOLATED FORM,ALAYHAA AS-SALAAM,ALAYHE ISOLATED FORM,ALAYHI AS-SALAAM",
    "ALAYHI AS-SALAATU WAS-SALAAM,ALAYHIM AS-SALAAM,ALAYHIMAA AS-SALAAM",
    "ALEF MAKSURA WITH SUPERSCRIPT ALEF FINAL FORM",
    "ALEF MAKSURA WITH SUPERSCRIPT ALEF ISOLATED FORM,ALEF WITH FATHATAN FINAL FORM",
    "ALEF WITH FATHATAN ISOLATED FORM,ALLAH ISOLATED FORM,AZZA WA JALL",
    "BISMILLAH AR-RAHMAN AR-RAHEEM,JALLAJALALOUHOU,MOHAMMAD ISOLATED FORM",
    "QALA USED AS KORANIC STOP SIGN ISOLATED FORM,QUDDISA SIRRAH,RADI ALLAAHU ANH",
    "RADI ALLAAHU ANHAA,RADI ALLAAHU ANHUM,RADI ALLAAHU ANHUMAA,RADI ALLAAHU ANHUNNA",
    "RAHIMAHU ALLAAH,RAHIMAHUM ALLAAH,RASOUL ISOLATED FORM",
    "REH WITH SUPERSCRIPT ALEF ISOLATED FORM,SALAAMUHU ALAYNAA,SALAM ISOLATED FORM",
    "SALLA ISOLATED FORM,SALLA USED AS KORANIC STOP SIGN ISOLATED FORM",
    "SALLALLAAHU ALAYHI WA-AALIH,SALLALLAHOU ALAYHE WASALLAM",
    "SALLALLAHU ALAYHI WAAALIHEE WA-SALLAM,SUBHAANAHU WA TAAALAA,TABAARAKA WA-TAAALAA",
    "THAL WITH SUPERSCRIPT ALEF ISOLATED FORM",
    "UIGHUR KIRGHIZ YEH WITH HAMZA ABOVE WITH ALEF MAKSURA FINAL FORM",
    "UIGHUR KIRGHIZ YEH WITH HAMZA ABOVE WITH ALEF MAKSURA INITIAL FORM",
    "UIGHUR KIRGHIZ YEH WITH HAMZA ABOVE WITH ALEF MAKSURA ISOLATED FORM,WASALLAM ISOLATED FORM",
    "ZAH WITH MEEM INITIAL FORM,ZAH WITH MEEM ISOLATED FORM,ZAH WITH MEEM MEDIAL FORM"]),
  (["ARABIC LIGATURE AIN WITH"], [
    "ALEF MAKSURA FINAL FORM,ALEF MAKSURA ISOLATED FORM,JEEM INITIAL FORM,JEEM ISOLATED FORM",
    "JEEM WITH MEEM FINAL FORM,JEEM WITH MEEM INITIAL FORM,MEEM INITIAL FORM,MEEM ISOLATED FORM",
    "MEEM WITH ALEF MAKSURA FINAL FORM,MEEM WITH MEEM FINAL FORM,MEEM WITH MEEM INITIAL FORM",
    "MEEM WITH YEH FINAL FORM,YEH FINAL FORM,YEH ISOLATED FORM"]),
  (["ARABIC LIGATURE BEH WITH"], [
    "ALEF MAKSURA FINAL FORM,ALEF MAKSURA ISOLATED FORM,HAH INITIAL FORM,HAH ISOLATED FORM",
    "HAH WITH YEH FINAL FORM,HEH INITIAL FORM,HEH MEDIAL FORM,JEEM INITIAL FORM",
    "JEEM ISOLATED FORM,KHAH INITIAL FORM,KHAH ISOLATED FORM,KHAH WITH YEH FINAL FORM",
    "MEEM FINAL FORM,MEEM INITIAL FORM,MEEM ISOLATED FORM,MEEM MEDIAL FORM,NOON FINAL FORM",
    "REH FINAL FORM,YEH FINAL FORM,YEH ISOLATED FORM,ZAIN FINAL FORM"]),
  (["ARABIC LIGATURE DAD WITH"], [
    "ALEF MAKSURA FINAL FORM,ALEF MAKSURA ISOLATED FORM,HAH INITIAL FORM,HAH ISOLATED FORM",
    "HAH WITH ALEF MAKSURA FINAL FORM,HAH WITH YEH FINAL FORM,JEEM INITIAL FORM",
    "JEEM ISOLATED FORM,KHAH INITIAL FORM,KHAH ISOLATED FORM,KHAH WITH MEEM FINAL FORM",
    "KHAH WITH MEEM INITIAL FORM,MEEM INITIAL FORM,MEEM ISOLATED FORM,REH FINAL FORM",
    "REH ISOLATED FORM,YEH FINAL FORM,YEH ISOLATED FORM"]),
  (["ARABIC LIGATURE FEH WITH"], [
    "ALEF MAKSURA FINAL FORM,ALEF MAKSURA ISOLATED FORM,HAH INITIAL FORM,HAH ISOLATED FORM",
    "JEEM INITIAL FORM,JEEM ISOLATED FORM,KHAH INITIAL FORM,KHAH ISOLATED FORM",
    "KHAH WITH MEEM FINAL FORM,KHAH WITH MEEM INITIAL FORM,MEEM INITIAL FORM,MEEM ISOLATED FORM",
    "MEEM WITH YEH FINAL FORM,YEH FINAL FORM,YEH ISOLATED FORM"]),
  (["ARABIC LIGATURE GHAIN WITH"], [
    "ALEF MAKSURA FINAL FORM,ALEF MAKSURA ISOLATED FORM,JEEM INITIAL FORM,JEEM ISOLATED FORM",
    "MEEM INITIAL FORM,MEEM ISOLATED FORM,MEEM WITH ALEF MAKSURA FINAL FORM",
    "MEEM WITH MEEM FINAL FORM,MEEM WITH YEH FINAL FORM,YEH FINAL FORM,YEH ISOLATED FORM"]),
  (["ARABIC LIGATURE HAH WITH"], [
    "ALEF MAKSURA FINAL FORM,ALEF MAKSURA ISOLATED FORM,JEEM INITIAL FORM,JEEM ISOLATED FORM",
    "JEEM WITH YEH FINAL FORM,MEEM INITIAL FORM,MEEM ISOLATED FORM",
    "MEEM WITH ALEF MAKSURA FINAL FORM,MEEM WITH YEH FINAL FORM,YEH FINAL FORM,YEH ISOLATED FORM"]),
  (["ARABIC LIGATURE HEH WITH"], [
    "ALEF MAKSURA ISOLATED FORM,JEEM INITIAL FORM,JEEM ISOLATED FORM,MEEM INITIAL FORM",
    "MEEM ISOLATED FORM,MEEM WITH JEEM INITIAL FORM,MEEM WITH MEEM INITIAL FORM",
    "SUPERSCRIPT ALEF INITIAL FORM,YEH ISOLATED FORM"]),
  (["ARABIC LIGATURE JEEM WITH"], [
    "ALEF MAKSURA FINAL FORM,ALEF MAKSURA ISOLATED FORM,HAH INITIAL FORM,HAH ISOLATED FORM",
    "HAH WITH ALEF MAKSURA FINAL FORM,HAH WITH YEH FINAL FORM,MEEM INITIAL FORM",
    "MEEM ISOLATED FORM,MEEM WITH ALEF MAKSURA FINAL FORM,MEEM WITH HAH FINAL FORM",
    "MEEM WITH HAH INITIAL FORM,MEEM WITH YEH FINAL FORM,YEH FINAL FORM,YEH ISOLATED FORM"]),
  (["ARABIC LIGATURE KAF WITH"], [
    "ALEF FINAL FORM,ALEF ISOLATED FORM,ALEF MAKSURA FINAL FORM,ALEF MAKSURA ISOLATED FORM",
    "HAH INITIAL FORM,HAH ISOLATED FORM,JEEM INITIAL FORM,JEEM ISOLATED FORM,KHAH INITIAL FORM",
    "KHAH ISOLATED FORM,LAM FINAL FORM,LAM INITIAL FORM,LAM ISOLATED FORM,LAM MEDIAL FORM",
    "MEEM FINAL FORM,MEEM INITIAL FORM,MEEM ISOLATED FORM,MEEM MEDIAL FORM",
    "MEEM WITH MEEM FINAL FORM,MEEM WITH MEEM INITIAL FORM,MEEM WITH YEH FINAL FORM",
    "YEH FINAL FORM,YEH ISOLATED FORM"]),
  (["ARABIC LIGATURE KHAH"], [
    "WITH ALEF MAKSURA FINAL FORM,WITH ALEF MAKSURA ISOLATED FORM,WITH HAH ISOLATED FORM",
    "WITH JEEM INITIAL FORM,WITH JEEM ISOLATED FORM,WITH MEEM INITIAL FORM",
    "WITH MEEM ISOLATED FORM,WITH YEH FINAL FORM,WITH YEH ISOLATED FORM"]),
  (["ARABIC LIGATURE LAM WITH"], [
    "HAH INITIAL FORM,HAH ISOLATED FORM,HAH WITH ALEF MAKSURA FINAL FORM",
    "HAH WITH MEEM FINAL FORM,HAH WITH MEEM INITIAL FORM,HAH WITH YEH FINAL FORM",
    "HEH INITIAL FORM,JEEM INITIAL FORM,JEEM ISOLATED FORM,JEEM WITH JEEM FINAL FORM",
    "JEEM WITH JEEM INITIAL FORM,JEEM WITH MEEM FINAL FORM,JEEM WITH MEEM INITIAL FORM",
    "JEEM WITH YEH FINAL FORM,KHAH INITIAL FORM,KHAH ISOLATED FORM,KHAH WITH MEEM FINAL FORM",
    "KHAH WITH MEEM INITIAL FORM,MEEM FINAL FORM,MEEM INITIAL FORM,MEEM ISOLATED FORM",
    "MEEM MEDIAL FORM,MEEM WITH HAH FINAL FORM,MEEM WITH HAH INITIAL FORM",
    "MEEM WITH YEH FINAL FORM,YEH FINAL FORM,YEH ISOLATED FORM"]),
  (["ARABIC LIGATURE LAM WITH ALEF"], [
    "FINAL FORM,ISOLATED FORM,MAKSURA FINAL FORM,MAKSURA ISOLATED FORM",
    "WITH HAMZA ABOVE FINAL FORM,WITH HAMZA ABOVE ISOLATED FORM,WITH HAMZA BELOW FINAL FORM",
    "WITH HAMZA BELOW ISOLATED FORM,WITH MADDA ABOVE FINAL FORM,WITH MADDA ABOVE ISOLATED FORM"]),
  (["ARABIC LIGATURE MEEM WITH"], [
    "ALEF FINAL FORM,ALEF MAKSURA ISOLATED FORM,HAH INITIAL FORM,HAH ISOLATED FORM",
    "HAH WITH JEEM INITIAL FORM,HAH WITH MEEM INITIAL FORM,HAH WITH YEH FINAL FORM",
    "JEEM INITIAL FORM,JEEM ISOLATED FORM,JEEM WITH HAH INITIAL FORM,JEEM WITH KHAH INITIAL FORM",
    "JEEM WITH MEEM INITIAL FORM,JEEM WITH YEH FINAL FORM,KHAH INITIAL FORM,KHAH ISOLATED FORM",
    "KHAH WITH JEEM INITIAL FORM,KHAH WITH MEEM INITIAL FORM,KHAH WITH YEH FINAL FORM",
    "MEEM FINAL FORM,MEEM INITIAL FORM,MEEM ISOLATED FORM,MEEM WITH YEH FINAL FORM",
    "YEH ISOLATED FORM"]),
  (["ARABIC LIGATURE NOON WITH"], [
    "ALEF MAKSURA FINAL FORM,ALEF MAKSURA ISOLATED FORM,HAH INITIAL FORM,HAH ISOLATED FORM",
    "HAH WITH ALEF MAKSURA FINAL FORM,HAH WITH MEEM INITIAL FORM,HAH WITH YEH FINAL FORM",
    "HEH INITIAL FORM,HEH MEDIAL FORM,JEEM INITIAL FORM,JEEM ISOLATED FORM",
    "JEEM WITH ALEF MAKSURA FINAL FORM,JEEM WITH HAH FINAL FORM,JEEM WITH HAH INITIAL FORM",
    "JEEM WITH MEEM FINAL FORM,JEEM WITH MEEM INITIAL FORM,JEEM WITH YEH FINAL FORM",
    "KHAH INITIAL FORM,KHAH ISOLATED FORM,MEEM FINAL FORM,MEEM INITIAL FORM,MEEM ISOLATED FORM",
    "MEEM MEDIAL FORM,MEEM WITH ALEF MAKSURA FINAL FORM,MEEM WITH YEH FINAL FORM,NOON FINAL FORM",
    "REH FINAL FORM,YEH FINAL FORM,YEH ISOLATED FORM,ZAIN FINAL FORM"]),
  (["ARABIC LIGATURE QAF WITH"], [
    "ALEF MAKSURA FINAL FORM,ALEF MAKSURA ISOLATED FORM,HAH INITIAL FORM,HAH ISOLATED FORM",
    "MEEM INITIAL FORM,MEEM ISOLATED FORM,MEEM WITH HAH FINAL FORM,MEEM WITH HAH INITIAL FORM",
    "MEEM WITH MEEM FINAL FORM,MEEM WITH YEH FINAL FORM,YEH FINAL FORM,YEH ISOLATED FORM"]),
  (["ARABIC LIGATURE SAD WITH"], [
    "ALEF MAKSURA FINAL FORM,ALEF MAKSURA ISOLATED FORM,HAH INITIAL FORM,HAH ISOLATED FORM",
    "HAH WITH HAH FINAL FORM,HAH WITH HAH INITIAL FORM,HAH WITH YEH FINAL FORM,KHAH INITIAL FORM",
    "MEEM INITIAL FORM,MEEM ISOLATED FORM,MEEM WITH MEEM FINAL FORM,MEEM WITH MEEM INITIAL FORM",
    "REH FINAL FORM,REH ISOLATED FORM,YEH FINAL FORM,YEH ISOLATED FORM"]),
  (["ARABIC LIGATURE SEEN WITH"], [
    "ALEF MAKSURA FINAL FORM,ALEF MAKSURA ISOLATED FORM,HAH INITIAL FORM,HAH ISOLATED FORM",
    "HAH MEDIAL FORM,HAH WITH JEEM INITIAL FORM,HEH INITIAL FORM,HEH MEDIAL FORM",
    "JEEM INITIAL FORM,JEEM ISOLATED FORM,JEEM MEDIAL FORM,JEEM WITH ALEF MAKSURA FINAL FORM",
    "JEEM WITH HAH INITIAL FORM,KHAH INITIAL FORM,KHAH ISOLATED FORM,KHAH MEDIAL FORM",
    "KHAH WITH ALEF MAKSURA FINAL FORM,KHAH WITH YEH FINAL FORM,MEEM INITIAL FORM",
    "MEEM ISOLATED FORM,MEEM MEDIAL FORM,MEEM WITH HAH FINAL FORM,MEEM WITH HAH INITIAL FORM",
    "MEEM WITH JEEM INITIAL FORM,MEEM WITH MEEM FINAL FORM,MEEM WITH MEEM INITIAL FORM",
    "REH FINAL FORM,REH ISOLATED FORM,YEH FINAL FORM,YEH ISOLATED FORM"]),
  (["ARABIC LIGATURE SHADDA"], [
    "WITH DAMMA ISOLATED FORM,WITH DAMMA MEDIAL FORM,WITH DAMMATAN ISOLATED FORM",
    "WITH FATHA ISOLATED FORM,WITH FATHA MEDIAL FORM,WITH KASRA ISOLATED FORM",
    "WITH KASRA MEDIAL FORM,WITH KASRATAN ISOLATED FORM,WITH SUPERSCRIPT ALEF ISOLATED FORM"]),
  (["ARABIC LIGATURE SHEEN WITH"], [
    "ALEF MAKSURA FINAL FORM,ALEF MAKSURA ISOLATED FORM,HAH FINAL FORM,HAH INITIAL FORM",
    "HAH ISOLATED FORM,HAH MEDIAL FORM,HAH WITH MEEM FINAL FORM,HAH WITH MEEM INITIAL FORM",
    "HAH WITH YEH FINAL FORM,HEH INITIAL FORM,HEH MEDIAL FORM,JEEM FINAL FORM,JEEM INITIAL FORM",
    "JEEM ISOLATED FORM,JEEM MEDIAL FORM,JEEM WITH YEH FINAL FORM,KHAH FINAL FORM",
    "KHAH INITIAL FORM,KHAH ISOLATED FORM,KHAH MEDIAL FORM,MEEM FINAL FORM,MEEM INITIAL FORM",
    "MEEM ISOLATED FORM,MEEM MEDIAL FORM,MEEM WITH KHAH FINAL FORM,MEEM WITH KHAH INITIAL FORM",
    "MEEM WITH MEEM FINAL FORM,MEEM WITH MEEM INITIAL FORM,REH FINAL FORM,REH ISOLATED FORM",
    "YEH FINAL FORM,YEH ISOLATED FORM"]),
  (["ARABIC LIGATURE TAH WITH"], [
    "ALEF MAKSURA FINAL FORM,ALEF MAKSURA ISOLATED FORM,HAH INITIAL FORM,HAH ISOLATED FORM",
    "MEEM INITIAL FORM,MEEM ISOLATED FORM,MEEM MEDIAL FORM,MEEM WITH HAH FINAL FORM",
    "MEEM WITH HAH INITIAL FORM,MEEM WITH MEEM INITIAL FORM,MEEM WITH YEH FINAL FORM",
    "YEH FINAL FORM,YEH ISOLATED FORM"]),
  (["ARABIC LIGATURE TEH WITH"], [
    "ALEF MAKSURA FINAL FORM,ALEF MAKSURA ISOLATED FORM,HAH INITIAL FORM,HAH ISOLATED FORM",
    "HAH WITH JEEM FINAL FORM,HAH WITH JEEM INITIAL FORM,HAH WITH MEEM INITIAL FORM",
    "HEH INITIAL FORM,HEH MEDIAL FORM,JEEM INITIAL FORM,JEEM ISOLATED FORM",
    "JEEM WITH ALEF MAKSURA FINAL FORM,JEEM WITH MEEM INITIAL FORM,JEEM WITH YEH FINAL FORM",
    "KHAH INITIAL FORM,KHAH ISOLATED FORM,KHAH WITH ALEF MAKSURA FINAL FORM",
    "KHAH WITH MEEM INITIAL FORM,KHAH WITH YEH FINAL FORM,MEEM FINAL FORM,MEEM INITIAL FORM",
    "MEEM ISOLATED FORM,MEEM MEDIAL FORM,MEEM WITH ALEF MAKSURA FINAL FORM",
    "MEEM WITH HAH INITIAL FORM,MEEM WITH JEEM INITIAL FORM,MEEM WITH KHAH INITIAL FORM",
    "MEEM WITH YEH FINAL FORM,NOON FINAL FORM,REH FINAL FORM,YEH FINAL FORM,YEH ISOLATED FORM",
    "ZAIN FINAL FORM"]),
  (["ARABIC LIGATURE THEH WITH"], [
    "ALEF MAKSURA FINAL FORM,ALEF MAKSURA ISOLATED FORM,HEH MEDIAL FORM,JEEM ISOLATED FORM",
    "MEEM FINAL FORM,MEEM INITIAL FORM,MEEM ISOLATED FORM,MEEM MEDIAL FORM,NOON FINAL FORM",
    "REH FINAL FORM,YEH FINAL FORM,YEH ISOLATED FORM,ZAIN FINAL FORM"]),
  (["ARABIC LIGATURE YEH WITH"], [
    "ALEF MAKSURA FINAL FORM,ALEF MAKSURA ISOLATED FORM,HAH INITIAL FORM,HAH ISOLATED FORM",
    "HAH WITH YEH FINAL FORM,HEH INITIAL FORM,HEH MEDIAL FORM,JEEM INITIAL FORM",
    "JEEM ISOLATED FORM,JEEM WITH YEH FINAL FORM,KHAH INITIAL FORM,KHAH ISOLATED FORM",
    "MEEM FINAL FORM,MEEM INITIAL FORM,MEEM ISOLATED FORM,MEEM MEDIAL FORM",
    "MEEM WITH MEEM FINAL FORM,MEEM WITH MEEM INITIAL FORM,MEEM WITH YEH FINAL FORM",
    "NOON FINAL FORM,REH FINAL FORM,YEH FINAL FORM,YEH ISOLATED FORM,ZAIN FINAL FORM"]),
  (["ARABIC LIGATURE YEH WITH HAMZA ABOVE WITH"], [
    "AE FINAL FORM,AE ISOLATED FORM,ALEF FINAL FORM,ALEF ISOLATED FORM,ALEF MAKSURA FINAL FORM",
    "ALEF MAKSURA ISOLATED FORM,E FINAL FORM,E INITIAL FORM,E ISOLATED FORM,HAH INITIAL FORM",
    "HAH ISOLATED FORM,HEH INITIAL FORM,HEH MEDIAL FORM,JEEM INITIAL FORM,JEEM ISOLATED FORM",
    "KHAH INITIAL FORM,MEEM FINAL FORM,MEEM INITIAL FORM,MEEM ISOLATED FORM,MEEM MEDIAL FORM",
    "NOON FINAL FORM,OE FINAL FORM,OE ISOLATED FORM,REH FINAL FORM,U FINAL FORM,U ISOLATED FORM",
    "WAW FINAL FORM,WAW ISOLATED FORM,YEH FINAL FORM,YEH ISOLATED FORM,YU FINAL FORM",
    "YU ISOLATED FORM,ZAIN FINAL FORM"]),
  (["ARABIC MATHEMATICAL"], [
    "AIN,ALEF,BEH,DAD,DAL,DOTLESS BEH,DOTLESS FEH,DOTLESS NOON,DOTLESS QAF,FEH,GHAIN,HAH,JEEM",
    "KAF,KHAH,LAM,MEEM,NOON,OPERATOR HAH WITH DAL,OPERATOR MEEM WITH HAH WITH TATWEEL,QAF,REH",
    "SAD,SEEN,SHEEN,TAH,TEH,THAL,THEH,WAW,YEH,ZAH,ZAIN"]),
  (["ARABIC MATHEMATICAL DOUBLE-STRUCK"], [
    "AIN,BEH,DAD,DAL,FEH,GHAIN,HAH,JEEM,KHAH,LAM,MEEM,NOON,QAF,REH,SAD,SEEN,SHEEN,TAH,TEH,THAL",
    "THEH,WAW,YEH,ZAH,ZAIN"]),
  (["ARABIC MATHEMATICAL INITIAL"], [
    "AIN,BEH,DAD,FEH,GHAIN,HAH,HEH,JEEM,KAF,KHAH,LAM,MEEM,NOON,QAF,SAD,SEEN,SHEEN,TEH,THEH,YEH"]),
  (["ARABIC MATHEMATICAL LOOPED"], [
    "AIN,ALEF,BEH,DAD,DAL,FEH,GHAIN,HAH,HEH,JEEM,KHAH,LAM,MEEM,NOON,QAF,REH,SAD,SEEN,SHEEN,TAH",
    "TEH,THAL,THEH,WAW,YEH,ZAH,ZAIN"]),
  (["ARABIC MATHEMATICAL STRETCHED"], [
    "AIN,BEH,DAD,DOTLESS BEH,DOTLESS FEH,FEH,GHAIN,HAH,HEH,JEEM,KAF,KHAH,MEEM,NOON,QAF,SAD,SEEN",
    "SHEEN,TAH,TEH,THEH,YEH,ZAH"]),
  (["ARABIC MATHEMATICAL TAILED"], [
    "AIN,DAD,DOTLESS NOON,DOTLESS QAF,GHAIN,HAH,JEEM,KHAH,LAM,NOON,QAF,SAD,SEEN,SHEEN,YEH"]),
  (["ARABIC SIGN"], [
    "ALAYHE ASSALLAM,MISRA,RADI ALLAHOU ANHU,RAHMATULLAH ALAYHE,SAFHA",
    "SALLALLAHOU ALAYHE WASSALLAM,SAMVAT,SANAH,SINDHI AMPERSAND,SINDHI POSTPOSITION MEN",
    "TAKHALLUS"]),
  (["ARABIC SMALL"], [
    "DAMMA,FARSI YEH,FATHA,KASRA,LOW MEEM,LOW NOON WITH KASRA,LOW SEEN,LOW WAW,LOW WORD IMAALA",
    "LOW WORD ISHMAAM,LOW WORD TASHEEL,WAW,YEH"]),
  (["ARABIC SMALL HIGH"], [
    "AIN,DOTLESS HEAD OF KHAH,FARSI YEH,FOOTNOTE MARKER,JEEM,LAM ALEF",
    "LIGATURE ALEF WITH LAM WITH YEH,LIGATURE QAF WITH LAM WITH ALEF MAKSURA",
    "LIGATURE SAD WITH LAM WITH ALEF MAKSURA,MADDA,MEEM INITIAL FORM,MEEM ISOLATED FORM,NOON",
    "NOON WITH KASRA,QAF,ROUNDED ZERO,SAD,SEEN,SIGN SAFHA,TAH,THREE DOTS",
    "UPRIGHT RECTANGULAR ZERO,WAW,YEH,YEH BARREE WITH TWO DOTS BELOW,ZAH,ZAIN"]),
  (["ARABIC SMALL HIGH WORD"], [
    "AL-JUZ,AN-NISF,AR-RUB,AS-SAJDA,ATH-THALATHA,QIF,SAH,SAKTA,WAQFA"]),
  (["ARABIC SYMBOL"], [
    "DOT ABOVE,DOT BELOW,DOUBLE VERTICAL BAR BELOW,FOUR DOTS ABOVE,FOUR DOTS BELOW,RING",
    "SMALL TAH ABOVE,SMALL TAH BELOW,THREE DOTS ABOVE,THREE DOTS BELOW",
    "THREE DOTS POINTING DOWNWARDS ABOVE,THREE DOTS POINTING DOWNWARDS BELOW,TWO DOTS ABOVE",
    "TWO DOTS BELOW,TWO DOTS VERTICALLY ABOVE,TWO DOTS VERTICALLY BELOW,WASLA ABOVE"]),
  (["ARABIC TATWEEL"], [
    "WITH FATHATAN ABOVE,WITH OVERSTRUCK HAMZA,WITH OVERSTRUCK WAW,WITH TWO DOTS BELOW"]),
  (["ARABIC-INDIC"], ["CUBE ROOT,FOURTH ROOT,PER MILLE SIGN,PER TEN THOUSAND SIGN"]),
  (["ARABIC-INDIC DIGIT", "EXTENDED ARABIC-INDIC DIGIT"], [
    "EIGHT,FIVE,FOUR,NINE,ONE,SEVEN,SIX,THREE,TWO,ZERO"]),
  (["AVESTAN"], ["ABBREVIATION MARK"]),
  (["AVESTAN LETTER"], [
    "A,AA,AAN,AAO,AE,AEE,AN,AO,BE,BHE,CE,DE,DHE,E,EE,FE,GE,GGE,GHE,HE,HME,I,II,JE,KE,LE,ME,NE",
    "NGE,NGVE,NGYE,NNE,NYE,O,OO,PE,RE,SE,SHE,SHYE,SSHE,TE,THE,TTE,U,UU,VE,XE,XVE,XYE,YE,YYE,ZE",
    "ZHE"]),
  (["CHORASMIAN LETTER"], [
    "ALEPH,AYIN,BETH,CURLED WAW,DALETH,GIMEL,HE,HETH,KAPH,LAMEDH,MEM,NUN,PE,RESH,SAMEKH,SHIN",
    "SMALL ALEPH,TAW,WAW,YODH,ZAYIN"]),
  (["CHORASMIAN NUMBER", "PSALTER PAHLAVI NUMBER"], [
    "FOUR,ONE,ONE HUNDRED,TEN,THREE,TWENTY,TWO"]),
  (["ELYMAIC"], ["LIGATURE ZAYIN-YODH"]),
  (["ELYMAIC LETTER", "IMPERIAL ARAMAIC LETTER", "INSCRIPTIONAL PARTHIAN LETTER",
    "NABATAEAN LETTER"], [
    "ALEPH,AYIN,BETH,DALETH,GIMEL,HE,HETH,KAPH,LAMEDH,MEM,NUN,PE,QOPH,RESH,SADHE,SAMEKH,SHIN,TAW",
    "TETH,WAW,YODH,ZAYIN"]),
  (["HATRAN LETTER"], [
    "ALEPH,AYN,BETH,DALETH-RESH,GIMEL,HE,HETH,KAPH,LAMEDH,MEM,NUN,PE,QOPH,SADHE,SAMEKH,SHIN,TAW",
    "TETH,WAW,YODH,ZAYN"]),
  (["HATRAN NUMBER"], ["FIVE,ONE,ONE HUNDRED,TEN,TWENTY"]),
  (["HEBREW"], ["MARK LOWER DOT,MARK MASORA CIRCLE,MARK UPPER DOT,YOD TRIANGLE"]),
  (["HEBREW ACCENT"], [
    "ATNAH HAFUKH,DARGA,DEHI,ETNAHTA,GERESH,GERESH MUQDAM,GERSHAYIM,ILUY,MAHAPAKH,MERKHA",
    "MERKHA KEFULA,MUNAH,OLE,PASHTA,PAZER,QADMA,QARNEY PARA,REVIA,SEGOL,SHALSHELET",
    "TELISHA GEDOLA,TELISHA QETANA,TEVIR,TIPEHA,YERAH BEN YOMO,YETIV,ZAQEF GADOL,ZAQEF QATAN",
    "ZARQA,ZINOR"]),
  (["HEBREW LETTER"], [
    "ALEF,ALEF WITH MAPIQ,ALEF WITH PATAH,ALEF WITH QAMATS,ALTERNATIVE AYIN",
    "ALTERNATIVE PLUS SIGN,AYIN,BET,BET WITH DAGESH,BET WITH RAFE,DALET,DALET WITH DAGESH,GIMEL",
    "GIMEL WITH DAGESH,HE,HE WITH MAPIQ,HET,KAF,KAF WITH DAGESH,KAF WITH RAFE,LAMED",
    "LAMED WITH DAGESH,MEM,MEM WITH DAGESH,NUN,NUN WITH DAGESH,PE,PE WITH DAGESH,PE WITH RAFE",
    "QOF,QOF WITH DAGESH,RESH,RESH WITH DAGESH,SAMEKH,SAMEKH WITH DAGESH,SHIN,SHIN WITH DAGESH",
    "SHIN WITH DAGESH AND SHIN DOT,SHIN WITH DAGESH AND SIN DOT,SHIN WITH SHIN DOT",
    "SHIN WITH SIN DOT,TAV,TAV WITH DAGESH,TET,TET WITH DAGESH,TSADI,TSADI WITH DAGESH,VAV",
    "VAV WITH DAGESH,VAV WITH HOLAM,YOD,YOD WITH DAGESH,YOD WITH HIRIQ,ZAYIN,ZAYIN WITH DAGESH"]),
  (["HEBREW LETTER FINAL"], ["KAF,KAF WITH DAGESH,MEM,NUN,PE,PE WITH DAGESH,TSADI"]),
  (["HEBREW LETTER WIDE"], ["ALEF,DALET,FINAL MEM,HE,KAF,LAMED,RESH,TAV"]),
  (["HEBREW LIGATURE"], [
    "ALEF LAMED,YIDDISH DOUBLE VAV,YIDDISH DOUBLE YOD,YIDDISH VAV YOD,YIDDISH YOD YOD PATAH"]),
  (["HEBREW POINT"], [
    "DAGESH OR MAPIQ,HATAF PATAH,HATAF QAMATS,HATAF SEGOL,HIRIQ,HOLAM,HOLAM HASER FOR VAV",
    "JUDEO-SPANISH VARIKA,METEG,PATAH,QAMATS,QAMATS QATAN,QUBUTS,RAFE,SEGOL,SHEVA,SHIN DOT",
    "SIN DOT,TSERE"]),
  (["HEBREW PUNCTUATION"], ["GERESH,GERSHAYIM,MAQAF,NUN HAFUKHA,PASEQ,SOF PASUQ"]),
  (["IMPERIAL ARAMAIC"], ["SECTION SIGN"]),
  (["IMPERIAL ARAMAIC NUMBER"], [
    "ONE,ONE HUNDRED,ONE THOUSAND,TEN,TEN THOUSAND,THREE,TWENTY,TWO"]),
  (["INDIC SIYAQ"], [
    "ALTERNATE LAKH MARK,FRACTION ONE HALF,FRACTION ONE QUARTER,FRACTION THREE QUARTERS",
    "LAKH MARK,PLACEHOLDER,RUPEE MARK"]),
  (["INDIC SIYAQ NUMBER"], [
    "ALTERNATE ONE,ALTERNATE TEN THOUSAND,ALTERNATE TWO,EIGHT,EIGHT HUNDRED,EIGHT THOUSAND",
    "EIGHTY,EIGHTY THOUSAND,FIFTY,FIFTY THOUSAND,FIVE,FIVE HUNDRED,FIVE THOUSAND,FORTY",
    "FORTY THOUSAND,FOUR,FOUR HUNDRED,FOUR THOUSAND,KAROR,KARORAN,LAKH,LAKHAN,NINE,NINE HUNDRED",
    "NINE THOUSAND,NINETY,NINETY THOUSAND,ONE,ONE HUNDRED,ONE THOUSAND,SEVEN,SEVEN HUNDRED",
    "SEVEN THOUSAND,SEVENTY,SEVENTY THOUSAND,SIX,SIX HUNDRED,SIX THOUSAND,SIXTY,SIXTY THOUSAND",
    "TEN,TEN THOUSAND,THIRTY,THIRTY THOUSAND,THREE,THREE HUNDRED,THREE THOUSAND,TWENTY",
    "TWENTY THOUSAND,TWO,TWO HUNDRED,TWO THOUSAND"]),
  (["INDIC SIYAQ NUMBER PREFIXED", "RUMI DIGIT"], [
    "EIGHT,FIVE,FOUR,NINE,ONE,SEVEN,SIX,THREE,TWO"]),
  (["INSCRIPTIONAL PAHLAVI LETTER"], [
    "ALEPH,BETH,DALETH,GIMEL,HE,HETH,KAPH,LAMEDH,MEM-QOPH,NUN,PE,SADHE,SAMEKH,SHIN,TAW,TETH",
    "WAW-AYIN-RESH,YODH,ZAYIN"]),
  (["INSCRIPTIONAL PAHLAVI NUMBER", "INSCRIPTIONAL PARTHIAN NUMBER"], [
    "FOUR,ONE,ONE HUNDRED,ONE THOUSAND,TEN,THREE,TWENTY,TWO"]),
  (["LYDIAN"], ["TRIANGULAR MARK"]),
  (["LYDIAN LETTER"], ["A,AN,B,C,D,E,EN,F,G,I,K,L,LY,M,N,NN,O,Q,R,S,SS,T,TT,U,V,Y"]),
  (["MANDAIC"], ["AFFRICATION MARK,GEMINATION MARK,PUNCTUATION,VOCALIZATION MARK"]),
  (["MANDAIC LETTER"], [
    "AB,AD,AG,AH,AIN,AK,AKSA,AL,AM,AN,AP,AQ,AR,AS,ASH,ASZ,AT,ATT,AZ,DUSHENNA,HALQA,IN,IT,KAD",
    "USHENNA"]),
  (["MANICHAEAN"], [
    "ABBREVIATION MARK ABOVE,ABBREVIATION MARK BELOW,NUMBER FIVE,NUMBER ONE,NUMBER ONE HUNDRED",
    "NUMBER TEN,NUMBER TWENTY,SIGN UD"]),
  (["MANICHAEAN LETTER"], [
    "AAYIN,ALEPH,AYIN,BETH,BHETH,DALETH,DHAMEDH,FE,GHIMEL,GIMEL,HE,HETH,JAYIN,JHAYIN,KAPH,KHAPH",
    "LAMEDH,MEM,NUN,PE,QHOPH,QOPH,RESH,SADHE,SAMEKH,SHIN,SSHIN,TAW,TETH,THAMEDH,WAW,XAPH,XOPH",
    "YODH,ZAYIN,ZHAYIN"]),
  (["MANICHAEAN PUNCTUATION"], [
    "DOT,DOT WITHIN DOT,DOUBLE DOT WITHIN DOT,FLEURON,LINE FILLER,STAR,TWO DOTS"]),
  (["NABATAEAN"], ["CRUCIFORM NUMBER FOUR"]),
  (["NABATAEAN LETTER FINAL"], ["ALEPH,BETH,HE,KAPH,LAMEDH,MEM,NUN,SHIN,YODH"]),
  (["NABATAEAN NUMBER"], ["FIVE,FOUR,ONE,ONE HUNDRED,TEN,THREE,TWENTY,TWO"]),
  (["OLD NORTH ARABIAN"], ["NUMBER ONE,NUMBER TEN,NUMBER TWENTY"]),
  (["OLD NORTH ARABIAN LETTER"], [
    "AIN,ALEF,BEH,DAD,DAL,ES-1..ES-3,FEH,GEEM,GHAIN,HAH,HEH,KAF,KHAH,LAM,MEEM,NOON,QAF,REH,SAD",
    "TAH,TEH,THAL,THEH,WAW,YEH,ZAH,ZAIN"]),
  (["OLD SOGDIAN"], ["FRACTION ONE HALF,LIGATURE AYIN-DALETH"]),
  (["OLD SOGDIAN LETTER"], [
    "ALEPH,ALTERNATE AYIN,AYIN,BETH,GIMEL,HE,HETH,KAPH,LAMEDH,MEM,NUN,PE,RESH-AYIN-DALETH,SADHE",
    "SAMEKH,SHIN,TAW,WAW,YODH,ZAYIN"]),
  (["OLD SOGDIAN LETTER FINAL"], [
    "ALEPH,BETH,HE,NUN,NUN WITH VERTICAL TAIL,SADHE,SADHE WITH VERTICAL TAIL,TAW",
    "TAW WITH VERTICAL TAIL"]),
  (["OLD SOGDIAN NUMBER"], ["FIVE,FOUR,ONE,ONE HUNDRED,TEN,THIRTY,THREE,TWENTY,TWO"]),
  (["OLD SOUTH ARABIAN"], ["NUMBER FIFTY,NUMBER ONE,NUMERIC INDICATOR"]),
  (["OLD SOUTH ARABIAN LETTER"], [
    "ALEF,AYN,BETH,DALETH,DHADHE,DHALETH,FE,GHAYN,GIMEL,HE,HETH,KAPH,KHETH,LAMEDH,MEM,NUN,QOPH",
    "RESH,SADHE,SAMEKH,SAT,SHIN,TAW,TETH,THAW,THETH,WAW,YODH,ZAYN"]),
  (["OLD UYGHUR"], [
    "COMBINING DOT ABOVE,COMBINING DOT BELOW,COMBINING TWO DOTS ABOVE,COMBINING TWO DOTS BELOW"]),
  (["OLD UYGHUR LETTER"], [
    "ALEPH,BETH,FINAL HETH,GIMEL-HETH,KAPH,LAMEDH,LESH,MEM,NUN,PE,RESH,SADHE,SAMEKH,SHIN,TAW,WAW",
    "YODH,ZAYIN"]),
  (["OLD UYGHUR PUNCTUATION"], ["BAR,FOUR DOTS,TWO BARS,TWO DOTS"]),
  (["OTTOMAN SIYAQ"], ["FRACTION ONE HALF,FRACTION ONE SIXTH,MARRATAN"]),
  (["OTTOMAN SIYAQ ALTERNATE NUMBER"], [
    "EIGHT,FIVE,FOUR,FOUR HUNDRED,NINE,SEVEN,SIX,SIX HUNDRED,TEN,TEN THOUSAND,THREE,TWO",
    "TWO THOUSAND"]),
  (["OTTOMAN SIYAQ NUMBER"], [
    "EIGHT,EIGHT HUNDRED,EIGHT THOUSAND,EIGHTY,EIGHTY THOUSAND,FIFTY,FIFTY THOUSAND,FIVE",
    "FIVE HUNDRED,FIVE THOUSAND,FORTY,FORTY THOUSAND,FOUR,FOUR HUNDRED,FOUR THOUSAND,NINE",
    "NINE HUNDRED,NINE THOUSAND,NINETY,NINETY THOUSAND,ONE,ONE HUNDRED,ONE THOUSAND,SEVEN",
    "SEVEN HUNDRED,SEVEN THOUSAND,SEVENTY,SEVENTY THOUSAND,SIX,SIX HUNDRED,SIX THOUSAND,SIXTY",
    "SIXTY THOUSAND,TEN,TEN THOUSAND,THIRTY,THIRTY THOUSAND,THREE,THREE HUNDRED,THREE THOUSAND",
    "TWENTY,TWENTY THOUSAND,TWO,TWO HUNDRED,TWO THOUSAND"]),
  (["PALMYRENE"], ["LEFT-POINTING FLEURON,RIGHT-POINTING FLEURON"]),
  (["PALMYRENE LETTER"], [
    "ALEPH,AYIN,BETH,DALETH,FINAL NUN,GIMEL,HE,HETH,KAPH,LAMEDH,MEM,NUN,PE,QOPH,RESH,SADHE",
    "SAMEKH,SHIN,TAW,TETH,WAW,YODH,ZAYIN"]),
  (["PALMYRENE NUMBER"], ["FIVE,FOUR,ONE,TEN,THREE,TWENTY,TWO"]),
  (["PHOENICIAN"], ["WORD SEPARATOR"]),
  (["PHOENICIAN LETTER"], [
    "AIN,ALF,BET,DELT,GAML,HE,HET,KAF,LAMD,MEM,NUN,PE,QOF,ROSH,SADE,SEMK,SHIN,TAU,TET,WAU,YOD",
    "ZAI"]),
  (["PHOENICIAN NUMBER"], ["ONE,ONE HUNDRED,TEN,THREE,TWENTY,TWO"]),
  (["PSALTER PAHLAVI"], [
    "FOUR DOTS WITH CROSS,FOUR DOTS WITH DOT,SECTION MARK,TURNED SECTION MARK"]),
  (["PSALTER PAHLAVI LETTER"], [
    "ALEPH,BETH,DALETH,GIMEL,HE,HETH,KAPH,LAMEDH,MEM-QOPH,NUN,PE,SADHE,SAMEKH,SHIN,TAW",
    "WAW-AYIN-RESH,YODH,ZAYIN"]),
  (["RUMI FRACTION"], ["ONE HALF,ONE QUARTER,ONE THIRD,TWO THIRDS"]),
  (["RUMI NUMBER"], [
    "EIGHT HUNDRED,EIGHTY,FIFTY,FIVE HUNDRED,FORTY,FOUR HUNDRED,NINE HUNDRED,NINETY,ONE HUNDRED",
    "SEVEN HUNDRED,SEVENTY,SIX HUNDRED,SIXTY,TEN,THIRTY,THREE HUNDRED,TWENTY,TWO HUNDRED"]),
  (["SAMARITAN"], [
    "ABBREVIATION MARK,MARK DAGESH,MARK EPENTHETIC YUT,MARK IN,MARK IN-ALAF,MARK NEQUDAA",
    "MARK OCCLUSION,MODIFIER LETTER EPENTHETIC YUT,MODIFIER LETTER I,MODIFIER LETTER SHORT A"]),
  (["SAMARITAN LETTER"], [
    "ALAF,BAA,BIT,DALAT,FI,GAMAN,IN,IT,IY,KAAF,LABAT,MIM,NUN,QUF,RISH,SHAN,SINGAAT,TAAF,TIT",
    "TSAADIY,YUT,ZEN"]),
  (["SAMARITAN PUNCTUATION"], [
    "AFSAAQ,ANGED,ANNAAU,ARKAANU,ATMAAU,BAU,MELODIC QITSA,NEQUDAA,QITSA,SHIYYAALAA,SOF MASHFAAT",
    "TURU,ZAEF,ZIQAA"]),
  (["SAMARITAN VOWEL SIGN"], [
    "A,AA,E,I,LONG A,LONG AA,LONG E,LONG I,LONG U,O,OVERLONG A,OVERLONG AA,SHORT A,SUKUN,U"]),
  (["SOGDIAN"], ["INDEPENDENT SHIN,NUMBER ONE,NUMBER ONE HUNDRED,NUMBER TEN,NUMBER TWENTY"]),
  (["SOGDIAN COMBINING"], [
    "CURVE ABOVE,CURVE BELOW,DOT ABOVE,DOT BELOW,HOOK ABOVE,HOOK BELOW,LONG HOOK BELOW",
    "RESH BELOW,STROKE BELOW,TWO DOTS ABOVE,TWO DOTS BELOW"]),
  (["SOGDIAN LETTER"], [
    "ALEPH,AYIN,BETH,FETH,GIMEL,HE,HETH,KAPH,LAMEDH,LESH,MEM,NUN,PE,RESH-AYIN,SADHE,SAMEKH,SHIN",
    "TAW,WAW,YODH,ZAYIN"]),
  (["SOGDIAN PUNCTUATION"], [
    "CIRCLE WITH DOT,HALF CIRCLE WITH DOT,TWO CIRCLES WITH DOTS,TWO VERTICAL BARS",
    "TWO VERTICAL BARS WITH DOTS"]),
  (["SYRIAC"], [
    "ABBREVIATION MARK,BARREKH,COLON SKEWED LEFT,COLON SKEWED RIGHT,CONTRACTION",
    "DOTTED ZLAMA ANGULAR,DOTTED ZLAMA HORIZONTAL,END OF PARAGRAPH,ESASA ABOVE,ESASA BELOW",
    "FEMININE DOT,HARKLEAN ASTERISCUS,HARKLEAN METOBELUS,HARKLEAN OBELUS,HBASA ABOVE,HBASA BELOW",
    "HBASA-ESASA DOTTED,HORIZONTAL COLON,MUSIC,OBLIQUE LINE ABOVE,OBLIQUE LINE BELOW",
    "PTHAHA ABOVE,PTHAHA BELOW,PTHAHA DOTTED,QUSHSHAYA,RBASA ABOVE,RBASA BELOW,RUKKAKHA,RWAHA",
    "SUBLINEAR COLON,SUBLINEAR COLON SKEWED RIGHT,SUBLINEAR FULL STOP,SUPRALINEAR COLON",
    "SUPRALINEAR COLON SKEWED LEFT,SUPRALINEAR FULL STOP,THREE DOTS ABOVE,THREE DOTS BELOW",
    "TWO VERTICAL DOTS ABOVE,TWO VERTICAL DOTS BELOW,ZQAPHA ABOVE,ZQAPHA BELOW,ZQAPHA DOTTED"]),
  (["SYRIAC LETTER"], [
    "ALAPH,BETH,DALATH,DOTLESS DALATH RISH,E,FINAL SEMKATH,GAMAL,GAMAL GARSHUNI,HE,HETH,KAPH",
    "LAMADH,MIM,NUN,PE,PERSIAN BHETH,PERSIAN DHALATH,PERSIAN GHAMAL,QAPH,REVERSED PE,RISH,SADHE",
    "SEMKATH,SHIN,SOGDIAN FE,SOGDIAN KHAPH,SOGDIAN ZHAIN,SUPERSCRIPT ALAPH,TAW,TETH",
    "TETH GARSHUNI,WAW,YUDH,YUDH HE,ZAIN"]),
  (["SYRIAC LETTER MALAYALAM"], ["BHA,JA,LLA,LLLA,NGA,NNA,NNNA,NYA,RA,SSA,TTA"]),
  (["THAANA"], [
    "AABAAFILI,ABAFILI,EBEFILI,EEBEEFILI,EYBEYFILI,IBIFILI,OABOAFILI,OBOFILI,OOBOOFILI,SUKUN",
    "UBUFILI"]),
  (["THAANA LETTER"], [
    "AINU,ALIFU,BAA,CHAVIYANI,DAADHU,DAVIYANI,DHAALU,FAAFU,GAAFU,GHAINU,GNAVIYANI,HAA,HHAA",
    "JAVIYANI,KAAFU,KHAA,LAAMU,LHAVIYANI,MEEMU,NAA,NOONU,PAVIYANI,QAAFU,RAA,SAADHU,SEENU",
    "SHAVIYANI,SHEENU,TAVIYANI,THAA,THAALU,TO,TTAA,VAAVU,WAAVU,YAA,ZAA,ZAVIYANI,ZO"]),
  (["YEZIDI"], ["COMBINING HAMZA MARK,COMBINING MADDA MARK,HYPHENATION MARK"]),
  (["YEZIDI LETTER"], [
    "BE,CHHIM,CHIM,CIM,DAD,DAL,ELIF,ET,EW,EYN,FA,GAF,HAY,HHA,JA,KAF,KHAF,LAM,LAM WITH DOT ABOVE",
    "MIM,NUN,OW,PE,PHE,QAF,RA,RHA,SAD,SE,SHIN,SIN,TA,THE,UM,VA,VA ALTERNATE FORM,WAW,XA,XHEYN",
    "YOT,YOT WITH CIRCUMFLEX ABOVE,ZA,ZAL,ZE"])]

end AwaitLint.Text
