/-! # Aliases of characters

Names of control characters, abbreviations, and names that correct others.
-/

namespace AwaitLint.Text

def aliasNames : List (List String × List String) := [
  ([""], [
    "ACK,ACKNOWLEDGE,ALERT,ALM,APC,APPLICATION PROGRAM COMMAND,BACKSPACE,BEL,BOM,BPH",
    "BREAK PERMITTED HERE,BS,BYTE ORDER MARK",
    "BYZANTINE MUSICAL SYMBOL FTHORA SKLIRON CHROMA VASIS,CAN,CANCEL,CANCEL CHARACTER",
    "CARRIAGE RETURN,CCH,CGJ,CONTROL SEQUENCE INTRODUCER,CR,CSI",
    "CUNEIFORM SIGN NU11 OVER NU11 BUR OVER BUR,CUNEIFORM SIGN NU11 TENU,DATA LINK ESCAPE",
    "DC1..DC4,DCS,DEL,DELETE,DLE,ENQ,ENQUIRY,EOL,EOM,EOT,EPA,ESA,ESC,ESCAPE,ETB,ETX,FF",
    "FILE SEPARATOR,FORM FEED,FS,FSI,FVS1..FVS4,GROUP SEPARATOR,GS,HENTAIGANA LETTER E-1",
    "HIGH OCTET PRESET,HOP,HT,HTJ,HTS,IND,INDEX,KANNADA LETTER LLLA,LAO LETTER FO FAY",
    "LAO LETTER FO FON,LAO LETTER LO,LAO LETTER RO,LATIN CAPITAL LETTER GHA",
    "LATIN SMALL LETTER GHA,LEFTWARDS TRIANGLE-HEADED ARROW WITH DOUBLE VERTICAL STROKE,LF",
    "LINE FEED,LINE TABULATION,LINE TABULATION SET,LOCKING-SHIFT ONE,LOCKING-SHIFT ZERO,LRE,LRI",
    "LRM,LRO,MESSAGE WAITING,MICR DASH SYMBOL,MICR ON US SYMBOL,MMSP,MVS,MW",
    "MYANMAR LETTER KHAMTI LLA,NAK,NBH,NBSP,NEGATIVE ACKNOWLEDGE,NEL,NEW LINE,NEXT LINE,NL,NNBSP",
    "NO BREAK HERE,NUL,NULL,OPERATING SYSTEM COMMAND,OSC,PAD,PADDING CHARACTER,PDF,PDI,PLD,PLU",
    "PM,PRESENTATION FORM FOR VERTICAL RIGHT WHITE LENTICULAR BRACKET,PRIVACY MESSAGE,PU1,PU2",
    "RECORD SEPARATOR,REVERSE INDEX,REVERSE LINE FEED,RI",
    "RIGHTWARDS TRIANGLE-HEADED ARROW WITH DOUBLE VERTICAL STROKE,RLE,RLI,RLM,RLO,RS,SCI",
    "SET TRANSMIT STATE,SGC,SHIFT IN,SHIFT OUT,SHY,SI,SINGLE-SHIFT-2,SINGLE-SHIFT-3,SO,SOH,SOS",
    "SP,SPA,SS2,SS3,SSA,ST,STRING TERMINATOR,STS,STX,SUB,SUBSTITUTE,SYN,SYNCHRONOUS IDLE",
    "SYRIAC SUBLINEAR COLON SKEWED LEFT,TAB,TIBETAN MARK BKA- SHOG GI MGO RGYAN,UNIT SEPARATOR",
    "US,VERTICAL TABULATION,VERTICAL TABULATION SET,VT,VTS,WEIERSTRASS ELLIPTIC FUNCTION,WJ",
    "YI SYLLABLE ITERATION MARK,ZWJ,ZWNBSP,ZWNJ,ZWSP"]),
  (["CHARACTER", "HORIZONTAL"], ["TABULATION,TABULATION SET,TABULATION WITH JUSTIFICATION"]),
  (["DEVICE CONTROL"], ["FOUR,ONE,STRING,THREE,TWO"]),
  (["END"], [
    "OF GUARDED AREA,OF LINE,OF MEDIUM,OF PROTECTED AREA,OF SELECTED AREA,OF TEXT",
    "OF TRANSMISSION,OF TRANSMISSION BLOCK"]),
  (["HANGUL JONGSEONG"], ["SSANGYESIEUNG,YESIEUNG-KHIEUKH,YESIEUNG-KIYEOK,YESIEUNG-SSANGKIYEOK"]),
  (["INFORMATION"], ["SEPARATOR FOUR,SEPARATOR ONE,SEPARATOR THREE,SEPARATOR TWO"]),
  (["MEDEFAIDRIN"], ["CAPITAL LETTER H,CAPITAL LETTER NG,SMALL LETTER H,SMALL LETTER NG"]),
  (["PARTIAL"], ["LINE BACKWARD,LINE DOWN,LINE FORWARD,LINE UP"]),
  (["PRIVATE"], ["USE ONE,USE TWO,USE-1,USE-2"]),
  (["SINGLE"], ["CHARACTER INTRODUCER,GRAPHIC CHARACTER INTRODUCER,SHIFT THREE,SHIFT TWO"]),
  (["START"], [
    "OF GUARDED AREA,OF HEADING,OF PROTECTED AREA,OF SELECTED AREA,OF STRING,OF TEXT"])]

end AwaitLint.Text
