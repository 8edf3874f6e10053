import Redaction.Text.CharacterName.Run

/-!
# Names of letters and digits

Latin, Greek, Cyrillic, Hebrew and Arabic letters with the marks and signs of their blocks, kana, and
the full-width forms.
-/

namespace Redaction.Text.CharacterName

/-- Names of letters and digits, in order of their code points. -/
def letters : List Run := [
  ⟨0x20, "", ["SPACE,EXCLAMATION MARK,QUOTATION MARK,NUMBER SIGN,DOLLAR SIGN,PERCENT SIGN",
    "AMPERSAND,APOSTROPHE,LEFT PARENTHESIS,RIGHT PARENTHESIS,ASTERISK,PLUS SIGN,COMMA",
    "HYPHEN-MINUS,FULL STOP,SOLIDUS"]⟩,
  ⟨0x30, "DIGIT ", ["ZERO,ONE,TWO,THREE,FOUR,FIVE,SIX,SEVEN,EIGHT,NINE"]⟩,
  ⟨0x3A, "", ["COLON,SEMICOLON,LESS-THAN SIGN,EQUALS SIGN,GREATER-THAN SIGN,QUESTION MARK",
    "COMMERCIAL AT"]⟩,
  ⟨0x41, "LATIN CAPITAL LETTER ", ["A,B,C,D,E,F,G,H,I,J,K,L,M,N,O,P,Q,R,S,T,U,V,W,X,Y,Z"]⟩,
  ⟨0x5B, "", ["LEFT SQUARE BRACKET,REVERSE SOLIDUS,RIGHT SQUARE BRACKET,CIRCUMFLEX ACCENT",
    "LOW LINE,GRAVE ACCENT"]⟩,
  ⟨0x61, "LATIN SMALL LETTER ", ["A,B,C,D,E,F,G,H,I,J,K,L,M,N,O,P,Q,R,S,T,U,V,W,X,Y,Z"]⟩,
  ⟨0x7B, "", ["LEFT CURLY BRACKET,VERTICAL LINE,RIGHT CURLY BRACKET,TILDE"]⟩,
  ⟨0xA0, "", ["NO-BREAK SPACE,INVERTED EXCLAMATION MARK,CENT SIGN,POUND SIGN,CURRENCY SIGN",
    "YEN SIGN,BROKEN BAR,SECTION SIGN,DIAERESIS,COPYRIGHT SIGN,FEMININE ORDINAL INDICATOR",
    "LEFT-POINTING DOUBLE ANGLE QUOTATION MARK,NOT SIGN,SOFT HYPHEN,REGISTERED SIGN,MACRON",
    "DEGREE SIGN,PLUS-MINUS SIGN,SUPERSCRIPT TWO,SUPERSCRIPT THREE,ACUTE ACCENT,MICRO SIGN",
    "PILCROW SIGN,MIDDLE DOT,CEDILLA,SUPERSCRIPT ONE,MASCULINE ORDINAL INDICATOR",
    "RIGHT-POINTING DOUBLE ANGLE QUOTATION MARK,VULGAR FRACTION ONE QUARTER",
    "VULGAR FRACTION ONE HALF,VULGAR FRACTION THREE QUARTERS,INVERTED QUESTION MARK"]⟩,
  ⟨0xC0, "LATIN CAPITAL LETTER ", ["A WITH GRAVE,A WITH ACUTE,A WITH CIRCUMFLEX,A WITH TILDE",
    "A WITH DIAERESIS,A WITH RING ABOVE,AE,C WITH CEDILLA,E WITH GRAVE,E WITH ACUTE",
    "E WITH CIRCUMFLEX,E WITH DIAERESIS,I WITH GRAVE,I WITH ACUTE,I WITH CIRCUMFLEX",
    "I WITH DIAERESIS,ETH,N WITH TILDE,O WITH GRAVE,O WITH ACUTE,O WITH CIRCUMFLEX,O WITH TILDE",
    "O WITH DIAERESIS"]⟩,
  ⟨0xD7, "MULTIPLICATION ", ["SIGN"]⟩,
  ⟨0xD8, "LATIN CAPITAL LETTER ", ["O WITH STROKE,U WITH GRAVE,U WITH ACUTE,U WITH CIRCUMFLEX",
    "U WITH DIAERESIS,Y WITH ACUTE,THORN"]⟩,
  ⟨0xDF, "LATIN SMALL LETTER ", ["SHARP S,A WITH GRAVE,A WITH ACUTE,A WITH CIRCUMFLEX",
    "A WITH TILDE,A WITH DIAERESIS,A WITH RING ABOVE,AE,C WITH CEDILLA,E WITH GRAVE",
    "E WITH ACUTE,E WITH CIRCUMFLEX,E WITH DIAERESIS,I WITH GRAVE,I WITH ACUTE",
    "I WITH CIRCUMFLEX,I WITH DIAERESIS,ETH,N WITH TILDE,O WITH GRAVE,O WITH ACUTE",
    "O WITH CIRCUMFLEX,O WITH TILDE,O WITH DIAERESIS"]⟩,
  ⟨0xF7, "DIVISION ", ["SIGN"]⟩,
  ⟨0xF8, "LATIN SMALL LETTER ", ["O WITH STROKE,U WITH GRAVE,U WITH ACUTE,U WITH CIRCUMFLEX",
    "U WITH DIAERESIS,Y WITH ACUTE,THORN,Y WITH DIAERESIS"]⟩,
  ⟨0x100, "LATIN ", ["CAPITAL LETTER A WITH MACRON,SMALL LETTER A WITH MACRON",
    "CAPITAL LETTER A WITH BREVE,SMALL LETTER A WITH BREVE,CAPITAL LETTER A WITH OGONEK",
    "SMALL LETTER A WITH OGONEK,CAPITAL LETTER C WITH ACUTE,SMALL LETTER C WITH ACUTE",
    "CAPITAL LETTER C WITH CIRCUMFLEX,SMALL LETTER C WITH CIRCUMFLEX",
    "CAPITAL LETTER C WITH DOT ABOVE,SMALL LETTER C WITH DOT ABOVE,CAPITAL LETTER C WITH CARON",
    "SMALL LETTER C WITH CARON,CAPITAL LETTER D WITH CARON,SMALL LETTER D WITH CARON",
    "CAPITAL LETTER D WITH STROKE,SMALL LETTER D WITH STROKE,CAPITAL LETTER E WITH MACRON",
    "SMALL LETTER E WITH MACRON,CAPITAL LETTER E WITH BREVE,SMALL LETTER E WITH BREVE",
    "CAPITAL LETTER E WITH DOT ABOVE,SMALL LETTER E WITH DOT ABOVE,CAPITAL LETTER E WITH OGONEK",
    "SMALL LETTER E WITH OGONEK,CAPITAL LETTER E WITH CARON,SMALL LETTER E WITH CARON",
    "CAPITAL LETTER G WITH CIRCUMFLEX,SMALL LETTER G WITH CIRCUMFLEX",
    "CAPITAL LETTER G WITH BREVE,SMALL LETTER G WITH BREVE,CAPITAL LETTER G WITH DOT ABOVE",
    "SMALL LETTER G WITH DOT ABOVE,CAPITAL LETTER G WITH CEDILLA,SMALL LETTER G WITH CEDILLA",
    "CAPITAL LETTER H WITH CIRCUMFLEX,SMALL LETTER H WITH CIRCUMFLEX",
    "CAPITAL LETTER H WITH STROKE,SMALL LETTER H WITH STROKE,CAPITAL LETTER I WITH TILDE",
    "SMALL LETTER I WITH TILDE,CAPITAL LETTER I WITH MACRON,SMALL LETTER I WITH MACRON",
    "CAPITAL LETTER I WITH BREVE,SMALL LETTER I WITH BREVE,CAPITAL LETTER I WITH OGONEK",
    "SMALL LETTER I WITH OGONEK,CAPITAL LETTER I WITH DOT ABOVE,SMALL LETTER DOTLESS I",
    "CAPITAL LIGATURE IJ,SMALL LIGATURE IJ,CAPITAL LETTER J WITH CIRCUMFLEX",
    "SMALL LETTER J WITH CIRCUMFLEX,CAPITAL LETTER K WITH CEDILLA,SMALL LETTER K WITH CEDILLA",
    "SMALL LETTER KRA,CAPITAL LETTER L WITH ACUTE,SMALL LETTER L WITH ACUTE",
    "CAPITAL LETTER L WITH CEDILLA,SMALL LETTER L WITH CEDILLA,CAPITAL LETTER L WITH CARON",
    "SMALL LETTER L WITH CARON,CAPITAL LETTER L WITH MIDDLE DOT,SMALL LETTER L WITH MIDDLE DOT",
    "CAPITAL LETTER L WITH STROKE,SMALL LETTER L WITH STROKE,CAPITAL LETTER N WITH ACUTE",
    "SMALL LETTER N WITH ACUTE,CAPITAL LETTER N WITH CEDILLA,SMALL LETTER N WITH CEDILLA",
    "CAPITAL LETTER N WITH CARON,SMALL LETTER N WITH CARON",
    "SMALL LETTER N PRECEDED BY APOSTROPHE,CAPITAL LETTER ENG,SMALL LETTER ENG",
    "CAPITAL LETTER O WITH MACRON,SMALL LETTER O WITH MACRON,CAPITAL LETTER O WITH BREVE",
    "SMALL LETTER O WITH BREVE,CAPITAL LETTER O WITH DOUBLE ACUTE",
    "SMALL LETTER O WITH DOUBLE ACUTE,CAPITAL LIGATURE OE,SMALL LIGATURE OE",
    "CAPITAL LETTER R WITH ACUTE,SMALL LETTER R WITH ACUTE,CAPITAL LETTER R WITH CEDILLA",
    "SMALL LETTER R WITH CEDILLA,CAPITAL LETTER R WITH CARON,SMALL LETTER R WITH CARON",
    "CAPITAL LETTER S WITH ACUTE,SMALL LETTER S WITH ACUTE,CAPITAL LETTER S WITH CIRCUMFLEX",
    "SMALL LETTER S WITH CIRCUMFLEX,CAPITAL LETTER S WITH CEDILLA,SMALL LETTER S WITH CEDILLA",
    "CAPITAL LETTER S WITH CARON,SMALL LETTER S WITH CARON,CAPITAL LETTER T WITH CEDILLA",
    "SMALL LETTER T WITH CEDILLA,CAPITAL LETTER T WITH CARON,SMALL LETTER T WITH CARON",
    "CAPITAL LETTER T WITH STROKE,SMALL LETTER T WITH STROKE,CAPITAL LETTER U WITH TILDE",
    "SMALL LETTER U WITH TILDE,CAPITAL LETTER U WITH MACRON,SMALL LETTER U WITH MACRON",
    "CAPITAL LETTER U WITH BREVE,SMALL LETTER U WITH BREVE,CAPITAL LETTER U WITH RING ABOVE",
    "SMALL LETTER U WITH RING ABOVE,CAPITAL LETTER U WITH DOUBLE ACUTE",
    "SMALL LETTER U WITH DOUBLE ACUTE,CAPITAL LETTER U WITH OGONEK,SMALL LETTER U WITH OGONEK",
    "CAPITAL LETTER W WITH CIRCUMFLEX,SMALL LETTER W WITH CIRCUMFLEX",
    "CAPITAL LETTER Y WITH CIRCUMFLEX,SMALL LETTER Y WITH CIRCUMFLEX",
    "CAPITAL LETTER Y WITH DIAERESIS,CAPITAL LETTER Z WITH ACUTE,SMALL LETTER Z WITH ACUTE",
    "CAPITAL LETTER Z WITH DOT ABOVE,SMALL LETTER Z WITH DOT ABOVE,CAPITAL LETTER Z WITH CARON",
    "SMALL LETTER Z WITH CARON,SMALL LETTER LONG S"]⟩,
  ⟨0x300, "COMBINING ", ["GRAVE ACCENT,ACUTE ACCENT,CIRCUMFLEX ACCENT,TILDE,MACRON,OVERLINE",
    "BREVE,DOT ABOVE,DIAERESIS,HOOK ABOVE,RING ABOVE,DOUBLE ACUTE ACCENT,CARON",
    "VERTICAL LINE ABOVE,DOUBLE VERTICAL LINE ABOVE,DOUBLE GRAVE ACCENT,CANDRABINDU",
    "INVERTED BREVE,TURNED COMMA ABOVE,COMMA ABOVE,REVERSED COMMA ABOVE,COMMA ABOVE RIGHT",
    "GRAVE ACCENT BELOW,ACUTE ACCENT BELOW,LEFT TACK BELOW,RIGHT TACK BELOW,LEFT ANGLE ABOVE",
    "HORN,LEFT HALF RING BELOW,UP TACK BELOW,DOWN TACK BELOW,PLUS SIGN BELOW,MINUS SIGN BELOW",
    "PALATALIZED HOOK BELOW,RETROFLEX HOOK BELOW,DOT BELOW,DIAERESIS BELOW,RING BELOW",
    "COMMA BELOW,CEDILLA,OGONEK,VERTICAL LINE BELOW,BRIDGE BELOW,INVERTED DOUBLE ARCH BELOW",
    "CARON BELOW,CIRCUMFLEX ACCENT BELOW,BREVE BELOW,INVERTED BREVE BELOW,TILDE BELOW",
    "MACRON BELOW,LOW LINE,DOUBLE LOW LINE,TILDE OVERLAY,SHORT STROKE OVERLAY",
    "LONG STROKE OVERLAY,SHORT SOLIDUS OVERLAY,LONG SOLIDUS OVERLAY,RIGHT HALF RING BELOW",
    "INVERTED BRIDGE BELOW,SQUARE BELOW,SEAGULL BELOW,X ABOVE,VERTICAL TILDE,DOUBLE OVERLINE",
    "GRAVE TONE MARK,ACUTE TONE MARK,GREEK PERISPOMENI,GREEK KORONIS,GREEK DIALYTIKA TONOS",
    "GREEK YPOGEGRAMMENI,BRIDGE ABOVE,EQUALS SIGN BELOW,DOUBLE VERTICAL LINE BELOW",
    "LEFT ANGLE BELOW,NOT TILDE ABOVE,HOMOTHETIC ABOVE,ALMOST EQUAL TO ABOVE",
    "LEFT RIGHT ARROW BELOW,UPWARDS ARROW BELOW,GRAPHEME JOINER,RIGHT ARROWHEAD ABOVE",
    "LEFT HALF RING ABOVE,FERMATA,X BELOW,LEFT ARROWHEAD BELOW,RIGHT ARROWHEAD BELOW",
    "RIGHT ARROWHEAD AND UP ARROWHEAD BELOW,RIGHT HALF RING ABOVE,DOT ABOVE RIGHT",
    "ASTERISK BELOW,DOUBLE RING BELOW,ZIGZAG ABOVE"]⟩,
  ⟨0x35C, "COMBINING DOUBLE ", ["BREVE BELOW,BREVE,MACRON,MACRON BELOW,TILDE,INVERTED BREVE",
    "RIGHTWARDS ARROW BELOW"]⟩,
  ⟨0x363, "COMBINING LATIN SMALL LETTER ", ["A,E,I,O,U,C,D,H,M,R,T,V,X"]⟩,
  ⟨0x370, "GREEK ", ["CAPITAL LETTER HETA,SMALL LETTER HETA,CAPITAL LETTER ARCHAIC SAMPI",
    "SMALL LETTER ARCHAIC SAMPI,NUMERAL SIGN,LOWER NUMERAL SIGN",
    "CAPITAL LETTER PAMPHYLIAN DIGAMMA,SMALL LETTER PAMPHYLIAN DIGAMMA"]⟩,
  ⟨0x37A, "GREEK ", ["YPOGEGRAMMENI,SMALL REVERSED LUNATE SIGMA SYMBOL",
    "SMALL DOTTED LUNATE SIGMA SYMBOL,SMALL REVERSED DOTTED LUNATE SIGMA SYMBOL,QUESTION MARK",
    "CAPITAL LETTER YOT"]⟩,
  ⟨0x384, "GREEK ", ["TONOS,DIALYTIKA TONOS,CAPITAL LETTER ALPHA WITH TONOS,ANO TELEIA"]⟩,
  ⟨0x388, "GREEK CAPITAL LETTER ", ["EPSILON WITH TONOS,ETA WITH TONOS,IOTA WITH TONOS"]⟩,
  ⟨0x38C, "GREEK CAPITAL LETTER OMICRON WITH ", ["TONOS"]⟩,
  ⟨0x38E, "GREEK ", ["CAPITAL LETTER UPSILON WITH TONOS,CAPITAL LETTER OMEGA WITH TONOS",
    "SMALL LETTER IOTA WITH DIALYTIKA AND TONOS"]⟩,
  ⟨0x391, "GREEK CAPITAL LETTER ", ["ALPHA,BETA,GAMMA,DELTA,EPSILON,ZETA,ETA,THETA,IOTA,KAPPA",
    "LAMDA,MU,NU,XI,OMICRON,PI,RHO"]⟩,
  ⟨0x3A3, "GREEK CAPITAL LETTER ", ["SIGMA,TAU,UPSILON,PHI,CHI,PSI,OMEGA,IOTA WITH DIALYTIKA",
    "UPSILON WITH DIALYTIKA"]⟩,
  ⟨0x3AC, "GREEK SMALL LETTER ", ["ALPHA WITH TONOS,EPSILON WITH TONOS,ETA WITH TONOS",
    "IOTA WITH TONOS,UPSILON WITH DIALYTIKA AND TONOS,ALPHA,BETA,GAMMA,DELTA,EPSILON,ZETA,ETA",
    "THETA,IOTA,KAPPA,LAMDA,MU,NU,XI,OMICRON,PI,RHO,FINAL SIGMA,SIGMA,TAU,UPSILON,PHI,CHI,PSI",
    "OMEGA,IOTA WITH DIALYTIKA,UPSILON WITH DIALYTIKA,OMICRON WITH TONOS,UPSILON WITH TONOS",
    "OMEGA WITH TONOS"]⟩,
  ⟨0x3CF, "GREEK ", ["CAPITAL KAI SYMBOL,BETA SYMBOL,THETA SYMBOL,UPSILON WITH HOOK SYMBOL",
    "UPSILON WITH ACUTE AND HOOK SYMBOL,UPSILON WITH DIAERESIS AND HOOK SYMBOL,PHI SYMBOL",
    "PI SYMBOL,KAI SYMBOL,LETTER ARCHAIC KOPPA,SMALL LETTER ARCHAIC KOPPA,LETTER STIGMA",
    "SMALL LETTER STIGMA,LETTER DIGAMMA,SMALL LETTER DIGAMMA,LETTER KOPPA,SMALL LETTER KOPPA",
    "LETTER SAMPI,SMALL LETTER SAMPI"]⟩,
  ⟨0x3E2, "COPTIC ", ["CAPITAL LETTER SHEI,SMALL LETTER SHEI,CAPITAL LETTER FEI",
    "SMALL LETTER FEI,CAPITAL LETTER KHEI,SMALL LETTER KHEI,CAPITAL LETTER HORI",
    "SMALL LETTER HORI,CAPITAL LETTER GANGIA,SMALL LETTER GANGIA,CAPITAL LETTER SHIMA",
    "SMALL LETTER SHIMA,CAPITAL LETTER DEI,SMALL LETTER DEI"]⟩,
  ⟨0x3F0, "GREEK ", ["KAPPA SYMBOL,RHO SYMBOL,LUNATE SIGMA SYMBOL,LETTER YOT",
    "CAPITAL THETA SYMBOL,LUNATE EPSILON SYMBOL,REVERSED LUNATE EPSILON SYMBOL",
    "CAPITAL LETTER SHO,SMALL LETTER SHO,CAPITAL LUNATE SIGMA SYMBOL,CAPITAL LETTER SAN",
    "SMALL LETTER SAN,RHO WITH STROKE SYMBOL,CAPITAL REVERSED LUNATE SIGMA SYMBOL",
    "CAPITAL DOTTED LUNATE SIGMA SYMBOL,CAPITAL REVERSED DOTTED LUNATE SIGMA SYMBOL"]⟩,
  ⟨0x400, "CYRILLIC CAPITAL LETTER ", ["IE WITH GRAVE,IO,DJE,GJE,UKRAINIAN IE,DZE",
    "BYELORUSSIAN-UKRAINIAN I,YI,JE,LJE,NJE,TSHE,KJE,I WITH GRAVE,SHORT U,DZHE,A,BE,VE,GHE,DE",
    "IE,ZHE,ZE,I,SHORT I,KA,EL,EM,EN,O,PE,ER,ES,TE,U,EF,HA,TSE,CHE,SHA,SHCHA,HARD SIGN,YERU",
    "SOFT SIGN,E,YU,YA"]⟩,
  ⟨0x430, "CYRILLIC SMALL LETTER ", ["A,BE,VE,GHE,DE,IE,ZHE,ZE,I,SHORT I,KA,EL,EM,EN,O,PE,ER,ES",
    "TE,U,EF,HA,TSE,CHE,SHA,SHCHA,HARD SIGN,YERU,SOFT SIGN,E,YU,YA,IE WITH GRAVE,IO,DJE,GJE",
    "UKRAINIAN IE,DZE,BYELORUSSIAN-UKRAINIAN I,YI,JE,LJE,NJE,TSHE,KJE,I WITH GRAVE,SHORT U,DZHE"]⟩,
  ⟨0x5D0, "HEBREW LETTER ", ["ALEF,BET,GIMEL,DALET,HE,VAV,ZAYIN,HET,TET,YOD,FINAL KAF,KAF,LAMED",
    "FINAL MEM,MEM,FINAL NUN,NUN,SAMEKH,AYIN,FINAL PE,PE,FINAL TSADI,TSADI,QOF,RESH,SHIN,TAV"]⟩,
  ⟨0x621, "ARABIC LETTER ", ["HAMZA,ALEF WITH MADDA ABOVE,ALEF WITH HAMZA ABOVE",
    "WAW WITH HAMZA ABOVE,ALEF WITH HAMZA BELOW,YEH WITH HAMZA ABOVE,ALEF,BEH,TEH MARBUTA,TEH",
    "THEH,JEEM,HAH,KHAH,DAL,THAL,REH,ZAIN,SEEN,SHEEN,SAD,DAD,TAH,ZAH,AIN,GHAIN",
    "KEHEH WITH TWO DOTS ABOVE,KEHEH WITH THREE DOTS BELOW,FARSI YEH WITH INVERTED V",
    "FARSI YEH WITH TWO DOTS ABOVE,FARSI YEH WITH THREE DOTS ABOVE"]⟩,
  ⟨0x640, "ARABIC ", ["TATWEEL"]⟩,
  ⟨0x641, "ARABIC LETTER ", ["FEH,QAF,KAF,LAM,MEEM,NOON,HEH,WAW,ALEF MAKSURA,YEH"]⟩,
  ⟨0x660, "ARABIC-INDIC DIGIT ", ["ZERO,ONE,TWO,THREE,FOUR,FIVE,SIX,SEVEN,EIGHT,NINE"]⟩,
  ⟨0x1E9E, "LATIN CAPITAL LETTER SHARP ", ["S"]⟩,
  ⟨0x3041, "HIRAGANA LETTER ", ["SMALL A,A,SMALL I,I,SMALL U,U,SMALL E,E,SMALL O,O,KA,GA,KI,GI",
    "KU,GU,KE,GE,KO,GO,SA,ZA,SI,ZI,SU,ZU,SE,ZE,SO,ZO,TA,DA,TI,DI,SMALL TU,TU,DU,TE,DE,TO,DO,NA",
    "NI,NU,NE,NO,HA,BA,PA,HI,BI,PI,HU,BU,PU,HE,BE,PE,HO,BO,PO,MA,MI,MU,ME,MO,SMALL YA,YA",
    "SMALL YU,YU,SMALL YO,YO,RA,RI,RU,RE,RO,SMALL WA,WA,WI,WE,WO,N,VU,SMALL KA,SMALL KE"]⟩,
  ⟨0x3099, "COMBINING KATAKANA-HIRAGANA ", ["VOICED SOUND MARK,SEMI-VOICED SOUND MARK"]⟩,
  ⟨0x309B, "", ["KATAKANA-HIRAGANA VOICED SOUND MARK,KATAKANA-HIRAGANA SEMI-VOICED SOUND MARK",
    "HIRAGANA ITERATION MARK,HIRAGANA VOICED ITERATION MARK,HIRAGANA DIGRAPH YORI",
    "KATAKANA-HIRAGANA DOUBLE HYPHEN"]⟩,
  ⟨0x30A1, "KATAKANA LETTER ", ["SMALL A,A,SMALL I,I,SMALL U,U,SMALL E,E,SMALL O,O,KA,GA,KI,GI",
    "KU,GU,KE,GE,KO,GO,SA,ZA,SI,ZI,SU,ZU,SE,ZE,SO,ZO,TA,DA,TI,DI,SMALL TU,TU,DU,TE,DE,TO,DO,NA",
    "NI,NU,NE,NO,HA,BA,PA,HI,BI,PI,HU,BU,PU,HE,BE,PE,HO,BO,PO,MA,MI,MU,ME,MO,SMALL YA,YA",
    "SMALL YU,YU,SMALL YO,YO,RA,RI,RU,RE,RO,SMALL WA,WA,WI,WE,WO,N,VU,SMALL KA,SMALL KE,VA,VI",
    "VE,VO"]⟩,
  ⟨0x30FB, "", ["KATAKANA MIDDLE DOT,KATAKANA-HIRAGANA PROLONGED SOUND MARK",
    "KATAKANA ITERATION MARK,KATAKANA VOICED ITERATION MARK,KATAKANA DIGRAPH KOTO"]⟩,
  ⟨0xFF01, "FULLWIDTH ", ["EXCLAMATION MARK,QUOTATION MARK,NUMBER SIGN,DOLLAR SIGN,PERCENT SIGN",
    "AMPERSAND,APOSTROPHE,LEFT PARENTHESIS,RIGHT PARENTHESIS,ASTERISK,PLUS SIGN,COMMA",
    "HYPHEN-MINUS,FULL STOP,SOLIDUS,DIGIT ZERO,DIGIT ONE,DIGIT TWO,DIGIT THREE,DIGIT FOUR",
    "DIGIT FIVE,DIGIT SIX,DIGIT SEVEN,DIGIT EIGHT,DIGIT NINE,COLON,SEMICOLON,LESS-THAN SIGN",
    "EQUALS SIGN,GREATER-THAN SIGN,QUESTION MARK,COMMERCIAL AT"]⟩,
  ⟨0xFF21, "FULLWIDTH LATIN CAPITAL LETTER ", ["A,B,C,D,E,F,G,H,I,J,K,L,M,N,O,P,Q,R,S,T,U,V,W,X",
    "Y,Z"]⟩,
  ⟨0xFF3B, "FULLWIDTH ", ["LEFT SQUARE BRACKET,REVERSE SOLIDUS,RIGHT SQUARE BRACKET",
    "CIRCUMFLEX ACCENT,LOW LINE,GRAVE ACCENT"]⟩,
  ⟨0xFF41, "FULLWIDTH LATIN SMALL LETTER ", ["A,B,C,D,E,F,G,H,I,J,K,L,M,N,O,P,Q,R,S,T,U,V,W,X,Y",
    "Z"]⟩,
  ⟨0xFF5B, "FULLWIDTH ", ["LEFT CURLY BRACKET,VERTICAL LINE,RIGHT CURLY BRACKET,TILDE",
    "LEFT WHITE PARENTHESIS,RIGHT WHITE PARENTHESIS"]⟩,
  ⟨0xFF61, "HALFWIDTH ", ["IDEOGRAPHIC FULL STOP,LEFT CORNER BRACKET,RIGHT CORNER BRACKET",
    "IDEOGRAPHIC COMMA,KATAKANA MIDDLE DOT,KATAKANA LETTER WO"]⟩,
  ⟨0xFF67, "HALFWIDTH KATAKANA LETTER SMALL ", ["A,I,U,E,O,YA,YU,YO,TU"]⟩,
  ⟨0xFF70, "HALFWIDTH KATAKANA-HIRAGANA PROLONGED SOUND ", ["MARK"]⟩,
  ⟨0xFF71, "HALFWIDTH KATAKANA LETTER ", ["A,I,U,E,O,KA,KI,KU,KE,KO,SA,SI,SU,SE,SO,TA,TI,TU,TE",
    "TO,NA,NI,NU,NE,NO,HA,HI,HU,HE,HO,MA,MI,MU,ME,MO,YA,YU,YO,RA,RI,RU,RE,RO,WA,N"]⟩,
  ⟨0xFF9E, "HALFWIDTH ", ["KATAKANA VOICED SOUND MARK,KATAKANA SEMI-VOICED SOUND MARK",
    "HANGUL FILLER"]⟩,
  ⟨0xFFA1, "HALFWIDTH HANGUL LETTER ", ["KIYEOK,SSANGKIYEOK,KIYEOK-SIOS,NIEUN,NIEUN-CIEUC",
    "NIEUN-HIEUH,TIKEUT,SSANGTIKEUT,RIEUL,RIEUL-KIYEOK,RIEUL-MIEUM,RIEUL-PIEUP,RIEUL-SIOS",
    "RIEUL-THIEUTH,RIEUL-PHIEUPH,RIEUL-HIEUH,MIEUM,PIEUP,SSANGPIEUP,PIEUP-SIOS,SIOS,SSANGSIOS",
    "IEUNG,CIEUC,SSANGCIEUC,CHIEUCH,KHIEUKH,THIEUTH,PHIEUPH,HIEUH"]⟩,
  ⟨0xFFC2, "HALFWIDTH HANGUL LETTER ", ["A,AE,YA,YAE,EO,E"]⟩,
  ⟨0xFFCA, "HALFWIDTH HANGUL LETTER ", ["YEO,YE,O,WA,WAE,OE"]⟩,
  ⟨0xFFD2, "HALFWIDTH HANGUL LETTER ", ["YO,U,WEO,WE,WI,YU"]⟩,
  ⟨0xFFDA, "HALFWIDTH HANGUL LETTER ", ["EU,YI,I"]⟩,
  ⟨0xFFE0, "FULLWIDTH ", ["CENT SIGN,POUND SIGN,NOT SIGN,MACRON,BROKEN BAR,YEN SIGN,WON SIGN"]⟩,
  ⟨0xFFE8, "HALFWIDTH ", ["FORMS LIGHT VERTICAL,LEFTWARDS ARROW,UPWARDS ARROW,RIGHTWARDS ARROW",
    "DOWNWARDS ARROW,BLACK SQUARE,WHITE CIRCLE"]⟩]

end Redaction.Text.CharacterName
