namespace TestReach.Text

/-- Characters that follow each other: the code point of the first, the beginning that their names
share, and how the names go on, with bars between them. Nothing stands for a character that has
another name or none. -/
abbrev NameGroup := Nat × String × String

def latinNames : List NameGroup := [
  (0x20, "", "SPACE|EXCLAMATION MARK|QUOTATION MARK|NUMBER SIGN|DOLLAR SIGN|PERCENT SIGN|" ++
    "AMPERSAND|APOSTROPHE|LEFT PARENTHESIS|RIGHT PARENTHESIS|ASTERISK|PLUS SIGN|COMMA|" ++
    "HYPHEN-MINUS|FULL STOP|SOLIDUS"),
  (0x30, "DIGIT ", "ZERO|ONE|TWO|THREE|FOUR|FIVE|SIX|SEVEN|EIGHT|NINE"),
  (0x3A, "", "COLON|SEMICOLON|LESS-THAN SIGN|EQUALS SIGN|GREATER-THAN SIGN|QUESTION MARK|" ++
    "COMMERCIAL AT"),
  (0x41, "LATIN CAPITAL LETTER ", "A|B|C|D|E|F|G|H|I|J|K|L|M|N|O|P|Q|R|S|T|U|V|W|X|Y|Z"),
  (0x5B, "", "LEFT SQUARE BRACKET|REVERSE SOLIDUS|RIGHT SQUARE BRACKET|CIRCUMFLEX ACCENT|LOW " ++
    "LINE|GRAVE ACCENT"),
  (0x61, "LATIN SMALL LETTER ", "A|B|C|D|E|F|G|H|I|J|K|L|M|N|O|P|Q|R|S|T|U|V|W|X|Y|Z"),
  (0x7B, "", "LEFT CURLY BRACKET|VERTICAL LINE|RIGHT CURLY BRACKET|TILDE"),
  (0xA0, "", "NO-BREAK SPACE|INVERTED EXCLAMATION MARK|CENT SIGN|POUND SIGN|CURRENCY SIGN|YEN " ++
    "SIGN|BROKEN BAR|SECTION SIGN|DIAERESIS"),
  (0xA9, "COPY", "RIGHT SIGN"),
  (0xAA, "", "FEMININE ORDINAL INDICATOR|LEFT-POINTING DOUBLE ANGLE QUOTATION MARK|NOT SIGN|" ++
    "SOFT HYPHEN|REGISTERED SIGN|MACRON|DEGREE SIGN|PLUS-MINUS SIGN|SUPERSCRIPT TWO|" ++
    "SUPERSCRIPT THREE|ACUTE ACCENT|MICRO SIGN|PILCROW SIGN|MIDDLE DOT|CEDILLA|SUPERSCRIPT " ++
    "ONE|MASCULINE ORDINAL INDICATOR|RIGHT-POINTING DOUBLE ANGLE QUOTATION MARK"),
  (0xBC, "VULGAR FRACTION ", "ONE QUARTER|ONE HALF|THREE QUARTERS"),
  (0xBF, "", "INVERTED QUESTION MARK"),
  (0xC0, "LATIN CAPITAL LETTER A WITH ", "GRAVE|ACUTE|CIRCUMFLEX|TILDE|DIAERESIS|RING ABOVE"),
  (0xC6, "LATIN CAPITAL LETTER ", "AE|C WITH CEDILLA|E WITH GRAVE|E WITH ACUTE|E WITH " ++
    "CIRCUMFLEX|E WITH DIAERESIS|I WITH GRAVE|I WITH ACUTE|I WITH CIRCUMFLEX|I WITH DIAERESIS|" ++
    "ETH|N WITH TILDE|O WITH GRAVE|O WITH ACUTE|O WITH CIRCUMFLEX|O WITH TILDE|O WITH " ++
    "DIAERESIS"),
  (0xD7, "", "MULTIPLICATION SIGN"),
  (0xD8, "LATIN CAPITAL LETTER ", "O WITH STROKE|U WITH GRAVE|U WITH ACUTE|U WITH CIRCUMFLEX|" ++
    "U WITH DIAERESIS|Y WITH ACUTE|THORN"),
  (0xDF, "LATIN SMALL LETTER ", "SHARP S|A WITH GRAVE|A WITH ACUTE|A WITH CIRCUMFLEX|A WITH " ++
    "TILDE|A WITH DIAERESIS|A WITH RING ABOVE|AE|C WITH CEDILLA|E WITH GRAVE|E WITH ACUTE|E " ++
    "WITH CIRCUMFLEX|E WITH DIAERESIS|I WITH GRAVE|I WITH ACUTE|I WITH CIRCUMFLEX|I WITH " ++
    "DIAERESIS|ETH|N WITH TILDE|O WITH GRAVE|O WITH ACUTE|O WITH CIRCUMFLEX|O WITH TILDE|O " ++
    "WITH DIAERESIS"),
  (0xF7, "", "DIVISION SIGN"),
  (0xF8, "LATIN SMALL LETTER ", "O WITH STROKE|U WITH GRAVE|U WITH ACUTE|U WITH CIRCUMFLEX|U " ++
    "WITH DIAERESIS|Y WITH ACUTE|THORN|Y WITH DIAERESIS"),
  (0x100, "LATIN ", "CAPITAL LETTER A WITH MACRON|SMALL LETTER A WITH MACRON|CAPITAL LETTER A " ++
    "WITH BREVE|SMALL LETTER A WITH BREVE|CAPITAL LETTER A WITH OGONEK|SMALL LETTER A WITH " ++
    "OGONEK|CAPITAL LETTER C WITH ACUTE|SMALL LETTER C WITH ACUTE|CAPITAL LETTER C WITH " ++
    "CIRCUMFLEX|SMALL LETTER C WITH CIRCUMFLEX|CAPITAL LETTER C WITH DOT ABOVE|SMALL LETTER C " ++
    "WITH DOT ABOVE|CAPITAL LETTER C WITH CARON|SMALL LETTER C WITH CARON|CAPITAL LETTER D " ++
    "WITH CARON|SMALL LETTER D WITH CARON|CAPITAL LETTER D WITH STROKE|SMALL LETTER D WITH " ++
    "STROKE|CAPITAL LETTER E WITH MACRON|SMALL LETTER E WITH MACRON|CAPITAL LETTER E WITH " ++
    "BREVE|SMALL LETTER E WITH BREVE|CAPITAL LETTER E WITH DOT ABOVE|SMALL LETTER E WITH DOT " ++
    "ABOVE|CAPITAL LETTER E WITH OGONEK|SMALL LETTER E WITH OGONEK|CAPITAL LETTER E WITH " ++
    "CARON|SMALL LETTER E WITH CARON|CAPITAL LETTER G WITH CIRCUMFLEX|SMALL LETTER G WITH " ++
    "CIRCUMFLEX|CAPITAL LETTER G WITH BREVE|SMALL LETTER G WITH BREVE|CAPITAL LETTER G WITH " ++
    "DOT ABOVE|SMALL LETTER G WITH DOT ABOVE|CAPITAL LETTER G WITH CEDILLA|SMALL LETTER G " ++
    "WITH CEDILLA|CAPITAL LETTER H WITH CIRCUMFLEX|SMALL LETTER H WITH CIRCUMFLEX|CAPITAL " ++
    "LETTER H WITH STROKE|SMALL LETTER H WITH STROKE|CAPITAL LETTER I WITH TILDE|SMALL LETTER " ++
    "I WITH TILDE|CAPITAL LETTER I WITH MACRON|SMALL LETTER I WITH MACRON|CAPITAL LETTER I " ++
    "WITH BREVE|SMALL LETTER I WITH BREVE|CAPITAL LETTER I WITH OGONEK|SMALL LETTER I WITH " ++
    "OGONEK|CAPITAL LETTER I WITH DOT ABOVE|SMALL LETTER DOTLESS I|CAPITAL LIGATURE IJ|SMALL " ++
    "LIGATURE IJ|CAPITAL LETTER J WITH CIRCUMFLEX|SMALL LETTER J WITH CIRCUMFLEX|CAPITAL " ++
    "LETTER K WITH CEDILLA|SMALL LETTER K WITH CEDILLA|SMALL LETTER KRA|CAPITAL LETTER L WITH " ++
    "ACUTE|SMALL LETTER L WITH ACUTE|CAPITAL LETTER L WITH CEDILLA|SMALL LETTER L WITH " ++
    "CEDILLA|CAPITAL LETTER L WITH CARON|SMALL LETTER L WITH CARON|CAPITAL LETTER L WITH " ++
    "MIDDLE DOT|SMALL LETTER L WITH MIDDLE DOT|CAPITAL LETTER L WITH STROKE|SMALL LETTER L " ++
    "WITH STROKE|CAPITAL LETTER N WITH ACUTE|SMALL LETTER N WITH ACUTE|CAPITAL LETTER N WITH " ++
    "CEDILLA|SMALL LETTER N WITH CEDILLA|CAPITAL LETTER N WITH CARON|SMALL LETTER N WITH " ++
    "CARON|SMALL LETTER N PRECEDED BY APOSTROPHE|CAPITAL LETTER ENG|SMALL LETTER ENG|CAPITAL " ++
    "LETTER O WITH MACRON|SMALL LETTER O WITH MACRON|CAPITAL LETTER O WITH BREVE|SMALL LETTER " ++
    "O WITH BREVE|CAPITAL LETTER O WITH DOUBLE ACUTE|SMALL LETTER O WITH DOUBLE ACUTE|CAPITAL " ++
    "LIGATURE OE|SMALL LIGATURE OE|CAPITAL LETTER R WITH ACUTE|SMALL LETTER R WITH ACUTE|" ++
    "CAPITAL LETTER R WITH CEDILLA|SMALL LETTER R WITH CEDILLA|CAPITAL LETTER R WITH CARON|" ++
    "SMALL LETTER R WITH CARON|CAPITAL LETTER S WITH ACUTE|SMALL LETTER S WITH ACUTE|CAPITAL " ++
    "LETTER S WITH CIRCUMFLEX|SMALL LETTER S WITH CIRCUMFLEX|CAPITAL LETTER S WITH CEDILLA|" ++
    "SMALL LETTER S WITH CEDILLA|CAPITAL LETTER S WITH CARON|SMALL LETTER S WITH CARON|" ++
    "CAPITAL LETTER T WITH CEDILLA|SMALL LETTER T WITH CEDILLA|CAPITAL LETTER T WITH CARON|" ++
    "SMALL LETTER T WITH CARON|CAPITAL LETTER T WITH STROKE|SMALL LETTER T WITH STROKE|" ++
    "CAPITAL LETTER U WITH TILDE|SMALL LETTER U WITH TILDE|CAPITAL LETTER U WITH MACRON|SMALL " ++
    "LETTER U WITH MACRON|CAPITAL LETTER U WITH BREVE|SMALL LETTER U WITH BREVE|CAPITAL " ++
    "LETTER U WITH RING ABOVE|SMALL LETTER U WITH RING ABOVE|CAPITAL LETTER U WITH DOUBLE " ++
    "ACUTE|SMALL LETTER U WITH DOUBLE ACUTE|CAPITAL LETTER U WITH OGONEK|SMALL LETTER U WITH " ++
    "OGONEK|CAPITAL LETTER W WITH CIRCUMFLEX|SMALL LETTER W WITH CIRCUMFLEX|CAPITAL LETTER Y " ++
    "WITH CIRCUMFLEX|SMALL LETTER Y WITH CIRCUMFLEX|CAPITAL LETTER Y WITH DIAERESIS|CAPITAL " ++
    "LETTER Z WITH ACUTE|SMALL LETTER Z WITH ACUTE|CAPITAL LETTER Z WITH DOT ABOVE|SMALL " ++
    "LETTER Z WITH DOT ABOVE|CAPITAL LETTER Z WITH CARON"),
  (0x17E, "LATIN SMALL LETTER ", "Z WITH CARON|LONG S|B WITH STROKE"),
  (0x181, "LATIN CAPITAL LETTER B WITH ", "HOOK|TOPBAR"),
  (0x183, "LATIN ", "SMALL LETTER B WITH TOPBAR|CAPITAL LETTER TONE SIX|SMALL LETTER TONE SIX|" ++
    "CAPITAL LETTER OPEN O|CAPITAL LETTER C WITH HOOK|SMALL LETTER C WITH HOOK"),
  (0x189, "LATIN CAPITAL LETTER ", "AFRICAN D|D WITH HOOK|D WITH TOPBAR"),
  (0x18C, "LATIN SMALL LETTER ", "D WITH TOPBAR|TURNED DELTA"),
  (0x18E, "LATIN CAPITAL LETTER ", "REVERSED E|SCHWA|OPEN E|F WITH HOOK"),
  (0x192, "LATIN ", "SMALL LETTER F WITH HOOK|CAPITAL LETTER G WITH HOOK|CAPITAL LETTER GAMMA|" ++
    "SMALL LETTER HV"),
  (0x196, "LATIN CAPITAL LETTER ", "IOTA|I WITH STROKE|K WITH HOOK"),
  (0x199, "LATIN SMALL LETTER ", "K WITH HOOK|L WITH BAR|LAMBDA WITH STROKE"),
  (0x19C, "LATIN ", "CAPITAL LETTER TURNED M|CAPITAL LETTER N WITH LEFT HOOK|SMALL LETTER N " ++
    "WITH LONG RIGHT LEG|CAPITAL LETTER O WITH MIDDLE TILDE|CAPITAL LETTER O WITH HORN|SMALL " ++
    "LETTER O WITH HORN|CAPITAL LETTER OI|SMALL LETTER OI|CAPITAL LETTER P WITH HOOK|SMALL " ++
    "LETTER P WITH HOOK|LETTER YR|CAPITAL LETTER TONE TWO|SMALL LETTER TONE TWO|CAPITAL " ++
    "LETTER ESH|LETTER REVERSED ESH LOOP|SMALL LETTER T WITH PALATAL HOOK|CAPITAL LETTER T " ++
    "WITH HOOK|SMALL LETTER T WITH HOOK|CAPITAL LETTER T WITH RETROFLEX HOOK|CAPITAL LETTER U " ++
    "WITH HORN|SMALL LETTER U WITH HORN|CAPITAL LETTER UPSILON|CAPITAL LETTER V WITH HOOK|" ++
    "CAPITAL LETTER Y WITH HOOK|SMALL LETTER Y WITH HOOK|CAPITAL LETTER Z WITH STROKE|SMALL " ++
    "LETTER Z WITH STROKE|CAPITAL LETTER EZH|CAPITAL LETTER EZH REVERSED|SMALL LETTER EZH " ++
    "REVERSED|SMALL LETTER EZH WITH TAIL|LETTER TWO WITH STROKE|CAPITAL LETTER TONE FIVE|" ++
    "SMALL LETTER TONE FIVE"),
  (0x1BE, "LATIN LETTER ", "INVERTED GLOTTAL STOP WITH STROKE|WYNN|DENTAL CLICK|LATERAL CLICK|" ++
    "ALVEOLAR CLICK|RETROFLEX CLICK"),
  (0x1C4, "LATIN ", "CAPITAL LETTER DZ WITH CARON|CAPITAL LETTER D WITH SMALL LETTER Z WITH " ++
    "CARON|SMALL LETTER DZ WITH CARON|CAPITAL LETTER LJ|CAPITAL LETTER L WITH SMALL LETTER J|" ++
    "SMALL LETTER LJ|CAPITAL LETTER NJ|CAPITAL LETTER N WITH SMALL LETTER J|SMALL LETTER NJ|" ++
    "CAPITAL LETTER A WITH CARON|SMALL LETTER A WITH CARON|CAPITAL LETTER I WITH CARON|SMALL " ++
    "LETTER I WITH CARON|CAPITAL LETTER O WITH CARON|SMALL LETTER O WITH CARON|CAPITAL LETTER " ++
    "U WITH CARON|SMALL LETTER U WITH CARON|CAPITAL LETTER U WITH DIAERESIS AND MACRON|SMALL " ++
    "LETTER U WITH DIAERESIS AND MACRON|CAPITAL LETTER U WITH DIAERESIS AND ACUTE|SMALL " ++
    "LETTER U WITH DIAERESIS AND ACUTE|CAPITAL LETTER U WITH DIAERESIS AND CARON|SMALL LETTER " ++
    "U WITH DIAERESIS AND CARON|CAPITAL LETTER U WITH DIAERESIS AND GRAVE|SMALL LETTER U WITH " ++
    "DIAERESIS AND GRAVE|SMALL LETTER TURNED E|CAPITAL LETTER A WITH DIAERESIS AND MACRON|" ++
    "SMALL LETTER A WITH DIAERESIS AND MACRON|CAPITAL LETTER A WITH DOT ABOVE AND MACRON|" ++
    "SMALL LETTER A WITH DOT ABOVE AND MACRON|CAPITAL LETTER AE WITH MACRON|SMALL LETTER AE " ++
    "WITH MACRON|CAPITAL LETTER G WITH STROKE|SMALL LETTER G WITH STROKE|CAPITAL LETTER G " ++
    "WITH CARON|SMALL LETTER G WITH CARON|CAPITAL LETTER K WITH CARON|SMALL LETTER K WITH " ++
    "CARON|CAPITAL LETTER O WITH OGONEK|SMALL LETTER O WITH OGONEK|CAPITAL LETTER O WITH " ++
    "OGONEK AND MACRON|SMALL LETTER O WITH OGONEK AND MACRON|CAPITAL LETTER EZH WITH CARON|" ++
    "SMALL LETTER EZH WITH CARON|SMALL LETTER J WITH CARON|CAPITAL LETTER DZ|CAPITAL LETTER D " ++
    "WITH SMALL LETTER Z|SMALL LETTER DZ|CAPITAL LETTER G WITH ACUTE|SMALL LETTER G WITH " ++
    "ACUTE|CAPITAL LETTER HWAIR|CAPITAL LETTER WYNN|CAPITAL LETTER N WITH GRAVE|SMALL LETTER " ++
    "N WITH GRAVE|CAPITAL LETTER A WITH RING ABOVE AND ACUTE|SMALL LETTER A WITH RING ABOVE " ++
    "AND ACUTE|CAPITAL LETTER AE WITH ACUTE|SMALL LETTER AE WITH ACUTE|CAPITAL LETTER O WITH " ++
    "STROKE AND ACUTE|SMALL LETTER O WITH STROKE AND ACUTE|CAPITAL LETTER A WITH DOUBLE GRAVE|" ++
    "SMALL LETTER A WITH DOUBLE GRAVE|CAPITAL LETTER A WITH INVERTED BREVE|SMALL LETTER A " ++
    "WITH INVERTED BREVE|CAPITAL LETTER E WITH DOUBLE GRAVE|SMALL LETTER E WITH DOUBLE GRAVE|" ++
    "CAPITAL LETTER E WITH INVERTED BREVE|SMALL LETTER E WITH INVERTED BREVE|CAPITAL LETTER I " ++
    "WITH DOUBLE GRAVE|SMALL LETTER I WITH DOUBLE GRAVE|CAPITAL LETTER I WITH INVERTED BREVE|" ++
    "SMALL LETTER I WITH INVERTED BREVE|CAPITAL LETTER O WITH DOUBLE GRAVE|SMALL LETTER O " ++
    "WITH DOUBLE GRAVE|CAPITAL LETTER O WITH INVERTED BREVE|SMALL LETTER O WITH INVERTED " ++
    "BREVE|CAPITAL LETTER R WITH DOUBLE GRAVE|SMALL LETTER R WITH DOUBLE GRAVE|CAPITAL LETTER " ++
    "R WITH INVERTED BREVE|SMALL LETTER R WITH INVERTED BREVE|CAPITAL LETTER U WITH DOUBLE " ++
    "GRAVE|SMALL LETTER U WITH DOUBLE GRAVE|CAPITAL LETTER U WITH INVERTED BREVE|SMALL LETTER " ++
    "U WITH INVERTED BREVE|CAPITAL LETTER S WITH COMMA BELOW|SMALL LETTER S WITH COMMA BELOW|" ++
    "CAPITAL LETTER T WITH COMMA BELOW|SMALL LETTER T WITH COMMA BELOW|CAPITAL LETTER YOGH|" ++
    "SMALL LETTER YOGH|CAPITAL LETTER H WITH CARON|SMALL LETTER H WITH CARON|CAPITAL LETTER N " ++
    "WITH LONG RIGHT LEG|SMALL LETTER D WITH CURL|CAPITAL LETTER OU|SMALL LETTER OU|CAPITAL " ++
    "LETTER Z WITH HOOK|SMALL LETTER Z WITH HOOK|CAPITAL LETTER A WITH DOT ABOVE|SMALL LETTER " ++
    "A WITH DOT ABOVE|CAPITAL LETTER E WITH CEDILLA|SMALL LETTER E WITH CEDILLA|CAPITAL " ++
    "LETTER O WITH DIAERESIS AND MACRON|SMALL LETTER O WITH DIAERESIS AND MACRON|CAPITAL " ++
    "LETTER O WITH TILDE AND MACRON|SMALL LETTER O WITH TILDE AND MACRON|CAPITAL LETTER O " ++
    "WITH DOT ABOVE|SMALL LETTER O WITH DOT ABOVE|CAPITAL LETTER O WITH DOT ABOVE AND MACRON|" ++
    "SMALL LETTER O WITH DOT ABOVE AND MACRON|CAPITAL LETTER Y WITH MACRON"),
  (0x233, "LATIN SMALL LETTER ", "Y WITH MACRON|L WITH CURL|N WITH CURL|T WITH CURL|DOTLESS J|" ++
    "DB DIGRAPH|QP DIGRAPH"),
  (0x23A, "LATIN ", "CAPITAL LETTER A WITH STROKE|CAPITAL LETTER C WITH STROKE|SMALL LETTER C " ++
    "WITH STROKE|CAPITAL LETTER L WITH BAR|CAPITAL LETTER T WITH DIAGONAL STROKE|SMALL LETTER " ++
    "S WITH SWASH TAIL|SMALL LETTER Z WITH SWASH TAIL|CAPITAL LETTER GLOTTAL STOP|SMALL " ++
    "LETTER GLOTTAL STOP"),
  (0x243, "LATIN CAPITAL LETTER ", "B WITH STROKE|U BAR|TURNED V|E WITH STROKE"),
  (0x247, "LATIN ", "SMALL LETTER E WITH STROKE|CAPITAL LETTER J WITH STROKE|SMALL LETTER J " ++
    "WITH STROKE|CAPITAL LETTER SMALL Q WITH HOOK TAIL|SMALL LETTER Q WITH HOOK TAIL|CAPITAL " ++
    "LETTER R WITH STROKE|SMALL LETTER R WITH STROKE|CAPITAL LETTER Y WITH STROKE"),
  (0x24F, "LATIN SMALL LETTER ", "Y WITH STROKE|TURNED A|ALPHA|TURNED ALPHA|B WITH HOOK|OPEN " ++
    "O|C WITH CURL|D WITH TAIL|D WITH HOOK|REVERSED E|SCHWA|SCHWA WITH HOOK|OPEN E|REVERSED " ++
    "OPEN E|REVERSED OPEN E WITH HOOK|CLOSED REVERSED OPEN E|DOTLESS J WITH STROKE|G WITH " ++
    "HOOK|SCRIPT G")]

def soundNames : List NameGroup := [
  (0x262, "", "LATIN LETTER SMALL CAPITAL G"),
  (0x263, "LATIN SMALL LETTER ", "GAMMA|RAMS HORN|TURNED H|H WITH HOOK|HENG WITH HOOK|I WITH " ++
    "STROKE|IOTA"),
  (0x26A, "", "LATIN LETTER SMALL CAPITAL I"),
  (0x26B, "LATIN SMALL LETTER ", "L WITH MIDDLE TILDE|L WITH BELT|L WITH RETROFLEX HOOK|LEZH|" ++
    "TURNED M|TURNED M WITH LONG LEG|M WITH HOOK|N WITH LEFT HOOK|N WITH RETROFLEX HOOK"),
  (0x274, "LATIN ", "LETTER SMALL CAPITAL N|SMALL LETTER BARRED O|LETTER SMALL CAPITAL OE"),
  (0x277, "LATIN SMALL LETTER ", "CLOSED OMEGA|PHI|TURNED R|TURNED R WITH LONG LEG|TURNED R " ++
    "WITH HOOK|R WITH LONG LEG|R WITH TAIL|R WITH FISHHOOK|REVERSED R WITH FISHHOOK"),
  (0x280, "LATIN LETTER SMALL CAPITAL ", "R|INVERTED R"),
  (0x282, "LATIN SMALL LETTER ", "S WITH HOOK|ESH|DOTLESS J WITH STROKE AND HOOK|SQUAT " ++
    "REVERSED ESH|ESH WITH CURL|TURNED T|T WITH RETROFLEX HOOK|U BAR|UPSILON|V WITH HOOK|" ++
    "TURNED V|TURNED W|TURNED Y"),
  (0x28F, "", "LATIN LETTER SMALL CAPITAL Y"),
  (0x290, "LATIN SMALL LETTER ", "Z WITH RETROFLEX HOOK|Z WITH CURL|EZH|EZH WITH CURL"),
  (0x294, "LATIN LETTER ", "GLOTTAL STOP|PHARYNGEAL VOICED FRICATIVE|INVERTED GLOTTAL STOP|" ++
    "STRETCHED C|BILABIAL CLICK|SMALL CAPITAL B"),
  (0x29A, "LATIN ", "SMALL LETTER CLOSED OPEN E|LETTER SMALL CAPITAL G WITH HOOK|LETTER SMALL " ++
    "CAPITAL H|SMALL LETTER J WITH CROSSED-TAIL|SMALL LETTER TURNED K|LETTER SMALL CAPITAL L|" ++
    "SMALL LETTER Q WITH HOOK|LETTER GLOTTAL STOP WITH STROKE|LETTER REVERSED GLOTTAL STOP " ++
    "WITH STROKE"),
  (0x2A3, "LATIN SMALL LETTER ", "DZ DIGRAPH|DEZH DIGRAPH|DZ DIGRAPH WITH CURL|TS DIGRAPH|" ++
    "TESH DIGRAPH|TC DIGRAPH WITH CURL|FENG DIGRAPH|LS DIGRAPH|LZ DIGRAPH"),
  (0x2AC, "LATIN LETTER ", "BILABIAL PERCUSSIVE|BIDENTAL PERCUSSIVE"),
  (0x2AE, "LATIN SMALL LETTER TURNED H WITH ", "FISHHOOK|FISHHOOK AND TAIL"),
  (0x2B0, "MODIFIER LETTER SMALL ", "H|H WITH HOOK|J|R|TURNED R|TURNED R WITH HOOK|CAPITAL " ++
    "INVERTED R|W|Y"),
  (0x2B9, "MODIFIER LETTER ", "PRIME|DOUBLE PRIME|TURNED COMMA|APOSTROPHE|REVERSED COMMA|" ++
    "RIGHT HALF RING|LEFT HALF RING|GLOTTAL STOP|REVERSED GLOTTAL STOP|LEFT ARROWHEAD|RIGHT " ++
    "ARROWHEAD|UP ARROWHEAD|DOWN ARROWHEAD|CIRCUMFLEX ACCENT"),
  (0x2C7, "", "CARON"),
  (0x2C8, "MODIFIER LETTER ", "VERTICAL LINE|MACRON|ACUTE ACCENT|GRAVE ACCENT|LOW VERTICAL " ++
    "LINE|LOW MACRON|LOW GRAVE ACCENT|LOW ACUTE ACCENT|TRIANGULAR COLON|HALF TRIANGULAR COLON|" ++
    "CENTRED RIGHT HALF RING|CENTRED LEFT HALF RING|UP TACK|DOWN TACK|PLUS SIGN|MINUS SIGN"),
  (0x2D8, "", "BREVE|DOT ABOVE|RING ABOVE|OGONEK|SMALL TILDE|DOUBLE ACUTE ACCENT"),
  (0x2DE, "MODIFIER LETTER ", "RHOTIC HOOK|CROSS ACCENT|SMALL GAMMA|SMALL L|SMALL S|SMALL X|" ++
    "SMALL REVERSED GLOTTAL STOP|EXTRA-HIGH TONE BAR|HIGH TONE BAR|MID TONE BAR|LOW TONE BAR|" ++
    "EXTRA-LOW TONE BAR|YIN DEPARTING TONE MARK|YANG DEPARTING TONE MARK|VOICING|UNASPIRATED|" ++
    "DOUBLE APOSTROPHE|LOW DOWN ARROWHEAD|LOW UP ARROWHEAD|LOW LEFT ARROWHEAD|LOW RIGHT " ++
    "ARROWHEAD|LOW RING|MIDDLE GRAVE ACCENT|MIDDLE DOUBLE GRAVE ACCENT|MIDDLE DOUBLE ACUTE " ++
    "ACCENT|LOW TILDE|RAISED COLON|BEGIN HIGH TONE|END HIGH TONE|BEGIN LOW TONE|END LOW TONE|" ++
    "SHELF|OPEN SHELF|LOW LEFT ARROW"),
  (0x300, "COMBINING ", "GRAVE ACCENT|ACUTE ACCENT|CIRCUMFLEX ACCENT|TILDE|MACRON|OVERLINE|" ++
    "BREVE|DOT ABOVE|DIAERESIS|HOOK ABOVE|RING ABOVE|DOUBLE ACUTE ACCENT|CARON|VERTICAL LINE " ++
    "ABOVE|DOUBLE VERTICAL LINE ABOVE|DOUBLE GRAVE ACCENT|CANDRABINDU|INVERTED BREVE|TURNED " ++
    "COMMA ABOVE|COMMA ABOVE|REVERSED COMMA ABOVE|COMMA ABOVE RIGHT|GRAVE ACCENT BELOW|ACUTE " ++
    "ACCENT BELOW|LEFT TACK BELOW|RIGHT TACK BELOW|LEFT ANGLE ABOVE|HORN|LEFT HALF RING BELOW|" ++
    "UP TACK BELOW|DOWN TACK BELOW|PLUS SIGN BELOW|MINUS SIGN BELOW|PALATALIZED HOOK BELOW|" ++
    "RETROFLEX HOOK BELOW|DOT BELOW|DIAERESIS BELOW|RING BELOW|COMMA BELOW|CEDILLA|OGONEK|" ++
    "VERTICAL LINE BELOW|BRIDGE BELOW|INVERTED DOUBLE ARCH BELOW|CARON BELOW|CIRCUMFLEX " ++
    "ACCENT BELOW|BREVE BELOW|INVERTED BREVE BELOW|TILDE BELOW|MACRON BELOW|LOW LINE|DOUBLE " ++
    "LOW LINE|TILDE OVERLAY|SHORT STROKE OVERLAY|LONG STROKE OVERLAY|SHORT SOLIDUS OVERLAY|" ++
    "LONG SOLIDUS OVERLAY|RIGHT HALF RING BELOW|INVERTED BRIDGE BELOW|SQUARE BELOW|SEAGULL " ++
    "BELOW|X ABOVE|VERTICAL TILDE|DOUBLE OVERLINE|GRAVE TONE MARK|ACUTE TONE MARK|GREEK " ++
    "PERISPOMENI|GREEK KORONIS|GREEK DIALYTIKA TONOS|GREEK YPOGEGRAMMENI|BRIDGE ABOVE|EQUALS " ++
    "SIGN BELOW|DOUBLE VERTICAL LINE BELOW|LEFT ANGLE BELOW|NOT TILDE ABOVE|HOMOTHETIC ABOVE|" ++
    "ALMOST EQUAL TO ABOVE|LEFT RIGHT ARROW BELOW|UPWARDS ARROW BELOW|GRAPHEME JOINER|RIGHT " ++
    "ARROWHEAD ABOVE|LEFT HALF RING ABOVE|FERMATA|X BELOW|LEFT ARROWHEAD BELOW|RIGHT " ++
    "ARROWHEAD BELOW|RIGHT ARROWHEAD AND UP ARROWHEAD BELOW|RIGHT HALF RING ABOVE|DOT ABOVE " ++
    "RIGHT|ASTERISK BELOW|DOUBLE RING BELOW|ZIGZAG ABOVE"),
  (0x35C, "COMBINING DOUBLE ", "BREVE BELOW|BREVE|MACRON|MACRON BELOW|TILDE|INVERTED BREVE|" ++
    "RIGHTWARDS ARROW BELOW"),
  (0x363, "COMBINING LATIN SMALL LETTER ", "A|E|I|O|U|C|D|H|M|R|T|V|X")]

def greekNames : List NameGroup := [
  (0x370, "GREEK ", "CAPITAL LETTER HETA|SMALL LETTER HETA|CAPITAL LETTER ARCHAIC SAMPI|SMALL " ++
    "LETTER ARCHAIC SAMPI|NUMERAL SIGN|LOWER NUMERAL SIGN|CAPITAL LETTER PAMPHYLIAN DIGAMMA|" ++
    "SMALL LETTER PAMPHYLIAN DIGAMMA|||YPOGEGRAMMENI|SMALL REVERSED LUNATE SIGMA SYMBOL|SMALL " ++
    "DOTTED LUNATE SIGMA SYMBOL|SMALL REVERSED DOTTED LUNATE SIGMA SYMBOL|QUESTION MARK|" ++
    "CAPITAL LETTER YOT"),
  (0x384, "GREEK ", "TONOS|DIALYTIKA TONOS|CAPITAL LETTER ALPHA WITH TONOS|ANO TELEIA"),
  (0x388, "GREEK CAPITAL LETTER ", "EPSILON WITH TONOS|ETA WITH TONOS|IOTA WITH TONOS||" ++
    "OMICRON WITH TONOS||UPSILON WITH TONOS|OMEGA WITH TONOS"),
  (0x390, "", "GREEK SMALL LETTER IOTA WITH DIALYTIKA AND TONOS"),
  (0x391, "GREEK CAPITAL LETTER ", "ALPHA|BETA|GAMMA|DELTA|EPSILON|ZETA|ETA|THETA|IOTA|KAPPA|" ++
    "LAMDA|MU|NU|XI|OMICRON|PI|RHO||SIGMA|TAU|UPSILON|PHI|CHI|PSI|OMEGA|IOTA WITH DIALYTIKA|" ++
    "UPSILON WITH DIALYTIKA"),
  (0x3AC, "GREEK SMALL LETTER ", "ALPHA WITH TONOS|EPSILON WITH TONOS|ETA WITH TONOS|IOTA " ++
    "WITH TONOS|UPSILON WITH DIALYTIKA AND TONOS|ALPHA|BETA|GAMMA|DELTA|EPSILON|ZETA|ETA|" ++
    "THETA|IOTA|KAPPA|LAMDA|MU|NU|XI|OMICRON|PI|RHO|FINAL SIGMA|SIGMA|TAU|UPSILON|PHI|CHI|PSI|" ++
    "OMEGA|IOTA WITH DIALYTIKA|UPSILON WITH DIALYTIKA|OMICRON WITH TONOS|UPSILON WITH TONOS|" ++
    "OMEGA WITH TONOS"),
  (0x3CF, "GREEK ", "CAPITAL KAI SYMBOL|BETA SYMBOL|THETA SYMBOL|UPSILON WITH HOOK SYMBOL|" ++
    "UPSILON WITH ACUTE AND HOOK SYMBOL|UPSILON WITH DIAERESIS AND HOOK SYMBOL|PHI SYMBOL|PI " ++
    "SYMBOL|KAI SYMBOL|LETTER ARCHAIC KOPPA|SMALL LETTER ARCHAIC KOPPA|LETTER STIGMA|SMALL " ++
    "LETTER STIGMA|LETTER DIGAMMA|SMALL LETTER DIGAMMA|LETTER KOPPA|SMALL LETTER KOPPA|LETTER " ++
    "SAMPI|SMALL LETTER SAMPI"),
  (0x3E2, "COPTIC ", "CAPITAL LETTER SHEI|SMALL LETTER SHEI|CAPITAL LETTER FEI|SMALL LETTER " ++
    "FEI|CAPITAL LETTER KHEI|SMALL LETTER KHEI|CAPITAL LETTER HORI|SMALL LETTER HORI|CAPITAL " ++
    "LETTER GANGIA|SMALL LETTER GANGIA|CAPITAL LETTER SHIMA|SMALL LETTER SHIMA|CAPITAL LETTER " ++
    "DEI|SMALL LETTER DEI"),
  (0x3F0, "GREEK ", "KAPPA SYMBOL|RHO SYMBOL|LUNATE SIGMA SYMBOL|LETTER YOT|CAPITAL THETA " ++
    "SYMBOL|LUNATE EPSILON SYMBOL|REVERSED LUNATE EPSILON SYMBOL|CAPITAL LETTER SHO|SMALL " ++
    "LETTER SHO|CAPITAL LUNATE SIGMA SYMBOL|CAPITAL LETTER SAN|SMALL LETTER SAN|RHO WITH " ++
    "STROKE SYMBOL"),
  (0x3FD, "GREEK CAPITAL ", "REVERSED LUNATE SIGMA SYMBOL|DOTTED LUNATE SIGMA SYMBOL|REVERSED " ++
    "DOTTED LUNATE SIGMA SYMBOL")]

def cyrillicNames : List NameGroup := [
  (0x400, "CYRILLIC CAPITAL LETTER ", "IE WITH GRAVE|IO|DJE|GJE|UKRAINIAN IE|DZE|" ++
    "BYELORUSSIAN-UKRAINIAN I|YI|JE|LJE|NJE|TSHE|KJE|I WITH GRAVE|SHORT U|DZHE|A|BE|VE|GHE|DE|" ++
    "IE|ZHE|ZE|I|SHORT I|KA|EL|EM|EN|O|PE|ER|ES|TE|U|EF|HA|TSE|CHE|SHA|SHCHA|HARD SIGN|YERU|" ++
    "SOFT SIGN|E|YU|YA"),
  (0x430, "CYRILLIC SMALL LETTER ", "A|BE|VE|GHE|DE|IE|ZHE|ZE|I|SHORT I|KA|EL|EM|EN|O|PE|ER|" ++
    "ES|TE|U|EF|HA|TSE|CHE|SHA|SHCHA|HARD SIGN|YERU|SOFT SIGN|E|YU|YA|IE WITH GRAVE|IO|DJE|" ++
    "GJE|UKRAINIAN IE|DZE|BYELORUSSIAN-UKRAINIAN I|YI|JE|LJE|NJE|TSHE|KJE|I WITH GRAVE|SHORT " ++
    "U|DZHE"),
  (0x460, "CYRILLIC ", "CAPITAL LETTER OMEGA|SMALL LETTER OMEGA|CAPITAL LETTER YAT|SMALL " ++
    "LETTER YAT|CAPITAL LETTER IOTIFIED E|SMALL LETTER IOTIFIED E|CAPITAL LETTER LITTLE YUS|" ++
    "SMALL LETTER LITTLE YUS|CAPITAL LETTER IOTIFIED LITTLE YUS|SMALL LETTER IOTIFIED LITTLE " ++
    "YUS|CAPITAL LETTER BIG YUS|SMALL LETTER BIG YUS|CAPITAL LETTER IOTIFIED BIG YUS|SMALL " ++
    "LETTER IOTIFIED BIG YUS|CAPITAL LETTER KSI|SMALL LETTER KSI|CAPITAL LETTER PSI|SMALL " ++
    "LETTER PSI|CAPITAL LETTER FITA|SMALL LETTER FITA|CAPITAL LETTER IZHITSA|SMALL LETTER " ++
    "IZHITSA|CAPITAL LETTER IZHITSA WITH DOUBLE GRAVE ACCENT|SMALL LETTER IZHITSA WITH DOUBLE " ++
    "GRAVE ACCENT|CAPITAL LETTER UK|SMALL LETTER UK|CAPITAL LETTER ROUND OMEGA|SMALL LETTER " ++
    "ROUND OMEGA|CAPITAL LETTER OMEGA WITH TITLO|SMALL LETTER OMEGA WITH TITLO|CAPITAL LETTER " ++
    "OT|SMALL LETTER OT|CAPITAL LETTER KOPPA|SMALL LETTER KOPPA|THOUSANDS SIGN"),
  (0x483, "COMBINING CYRILLIC ", "TITLO|PALATALIZATION|DASIA PNEUMATA|PSILI PNEUMATA|POKRYTIE|" ++
    "HUNDRED THOUSANDS SIGN|MILLIONS SIGN"),
  (0x48A, "CYRILLIC ", "CAPITAL LETTER SHORT I WITH TAIL|SMALL LETTER SHORT I WITH TAIL|" ++
    "CAPITAL LETTER SEMISOFT SIGN|SMALL LETTER SEMISOFT SIGN|CAPITAL LETTER ER WITH TICK|" ++
    "SMALL LETTER ER WITH TICK|CAPITAL LETTER GHE WITH UPTURN|SMALL LETTER GHE WITH UPTURN|" ++
    "CAPITAL LETTER GHE WITH STROKE|SMALL LETTER GHE WITH STROKE|CAPITAL LETTER GHE WITH " ++
    "MIDDLE HOOK|SMALL LETTER GHE WITH MIDDLE HOOK|CAPITAL LETTER ZHE WITH DESCENDER|SMALL " ++
    "LETTER ZHE WITH DESCENDER|CAPITAL LETTER ZE WITH DESCENDER|SMALL LETTER ZE WITH " ++
    "DESCENDER|CAPITAL LETTER KA WITH DESCENDER|SMALL LETTER KA WITH DESCENDER|CAPITAL LETTER " ++
    "KA WITH VERTICAL STROKE|SMALL LETTER KA WITH VERTICAL STROKE|CAPITAL LETTER KA WITH " ++
    "STROKE|SMALL LETTER KA WITH STROKE|CAPITAL LETTER BASHKIR KA|SMALL LETTER BASHKIR KA|" ++
    "CAPITAL LETTER EN WITH DESCENDER|SMALL LETTER EN WITH DESCENDER|CAPITAL LIGATURE EN GHE|" ++
    "SMALL LIGATURE EN GHE|CAPITAL LETTER PE WITH MIDDLE HOOK|SMALL LETTER PE WITH MIDDLE " ++
    "HOOK|CAPITAL LETTER ABKHASIAN HA|SMALL LETTER ABKHASIAN HA|CAPITAL LETTER ES WITH " ++
    "DESCENDER|SMALL LETTER ES WITH DESCENDER|CAPITAL LETTER TE WITH DESCENDER|SMALL LETTER " ++
    "TE WITH DESCENDER|CAPITAL LETTER STRAIGHT U|SMALL LETTER STRAIGHT U|CAPITAL LETTER " ++
    "STRAIGHT U WITH STROKE|SMALL LETTER STRAIGHT U WITH STROKE|CAPITAL LETTER HA WITH " ++
    "DESCENDER|SMALL LETTER HA WITH DESCENDER|CAPITAL LIGATURE TE TSE|SMALL LIGATURE TE TSE|" ++
    "CAPITAL LETTER CHE WITH DESCENDER|SMALL LETTER CHE WITH DESCENDER|CAPITAL LETTER CHE " ++
    "WITH VERTICAL STROKE|SMALL LETTER CHE WITH VERTICAL STROKE|CAPITAL LETTER SHHA|SMALL " ++
    "LETTER SHHA|CAPITAL LETTER ABKHASIAN CHE|SMALL LETTER ABKHASIAN CHE|CAPITAL LETTER " ++
    "ABKHASIAN CHE WITH DESCENDER|SMALL LETTER ABKHASIAN CHE WITH DESCENDER|LETTER PALOCHKA|" ++
    "CAPITAL LETTER ZHE WITH BREVE|SMALL LETTER ZHE WITH BREVE|CAPITAL LETTER KA WITH HOOK|" ++
    "SMALL LETTER KA WITH HOOK|CAPITAL LETTER EL WITH TAIL|SMALL LETTER EL WITH TAIL|CAPITAL " ++
    "LETTER EN WITH HOOK|SMALL LETTER EN WITH HOOK|CAPITAL LETTER EN WITH TAIL|SMALL LETTER " ++
    "EN WITH TAIL|CAPITAL LETTER KHAKASSIAN CHE|SMALL LETTER KHAKASSIAN CHE|CAPITAL LETTER EM " ++
    "WITH TAIL|SMALL LETTER EM WITH TAIL|SMALL LETTER PALOCHKA|CAPITAL LETTER A WITH BREVE|" ++
    "SMALL LETTER A WITH BREVE|CAPITAL LETTER A WITH DIAERESIS|SMALL LETTER A WITH DIAERESIS|" ++
    "CAPITAL LIGATURE A IE|SMALL LIGATURE A IE|CAPITAL LETTER IE WITH BREVE|SMALL LETTER IE " ++
    "WITH BREVE|CAPITAL LETTER SCHWA|SMALL LETTER SCHWA|CAPITAL LETTER SCHWA WITH DIAERESIS|" ++
    "SMALL LETTER SCHWA WITH DIAERESIS|CAPITAL LETTER ZHE WITH DIAERESIS|SMALL LETTER ZHE " ++
    "WITH DIAERESIS|CAPITAL LETTER ZE WITH DIAERESIS|SMALL LETTER ZE WITH DIAERESIS|CAPITAL " ++
    "LETTER ABKHASIAN DZE|SMALL LETTER ABKHASIAN DZE|CAPITAL LETTER I WITH MACRON|SMALL " ++
    "LETTER I WITH MACRON|CAPITAL LETTER I WITH DIAERESIS|SMALL LETTER I WITH DIAERESIS|" ++
    "CAPITAL LETTER O WITH DIAERESIS|SMALL LETTER O WITH DIAERESIS|CAPITAL LETTER BARRED O|" ++
    "SMALL LETTER BARRED O|CAPITAL LETTER BARRED O WITH DIAERESIS|SMALL LETTER BARRED O WITH " ++
    "DIAERESIS|CAPITAL LETTER E WITH DIAERESIS|SMALL LETTER E WITH DIAERESIS|CAPITAL LETTER U " ++
    "WITH MACRON|SMALL LETTER U WITH MACRON|CAPITAL LETTER U WITH DIAERESIS|SMALL LETTER U " ++
    "WITH DIAERESIS|CAPITAL LETTER U WITH DOUBLE ACUTE|SMALL LETTER U WITH DOUBLE ACUTE|" ++
    "CAPITAL LETTER CHE WITH DIAERESIS|SMALL LETTER CHE WITH DIAERESIS|CAPITAL LETTER GHE " ++
    "WITH DESCENDER|SMALL LETTER GHE WITH DESCENDER|CAPITAL LETTER YERU WITH DIAERESIS|SMALL " ++
    "LETTER YERU WITH DIAERESIS|CAPITAL LETTER GHE WITH STROKE AND HOOK|SMALL LETTER GHE WITH " ++
    "STROKE AND HOOK|CAPITAL LETTER HA WITH HOOK|SMALL LETTER HA WITH HOOK|CAPITAL LETTER HA " ++
    "WITH STROKE|SMALL LETTER HA WITH STROKE|CAPITAL LETTER KOMI DE|SMALL LETTER KOMI DE|" ++
    "CAPITAL LETTER KOMI DJE|SMALL LETTER KOMI DJE|CAPITAL LETTER KOMI ZJE|SMALL LETTER KOMI " ++
    "ZJE|CAPITAL LETTER KOMI DZJE|SMALL LETTER KOMI DZJE|CAPITAL LETTER KOMI LJE|SMALL LETTER " ++
    "KOMI LJE|CAPITAL LETTER KOMI NJE|SMALL LETTER KOMI NJE|CAPITAL LETTER KOMI SJE|SMALL " ++
    "LETTER KOMI SJE|CAPITAL LETTER KOMI TJE|SMALL LETTER KOMI TJE|CAPITAL LETTER REVERSED ZE|" ++
    "SMALL LETTER REVERSED ZE|CAPITAL LETTER EL WITH HOOK|SMALL LETTER EL WITH HOOK|CAPITAL " ++
    "LETTER LHA|SMALL LETTER LHA|CAPITAL LETTER RHA|SMALL LETTER RHA|CAPITAL LETTER YAE|SMALL " ++
    "LETTER YAE|CAPITAL LETTER QA|SMALL LETTER QA|CAPITAL LETTER WE|SMALL LETTER WE|CAPITAL " ++
    "LETTER ALEUT KA|SMALL LETTER ALEUT KA|CAPITAL LETTER EL WITH MIDDLE HOOK|SMALL LETTER EL " ++
    "WITH MIDDLE HOOK|CAPITAL LETTER EN WITH MIDDLE HOOK|SMALL LETTER EN WITH MIDDLE HOOK|" ++
    "CAPITAL LETTER PE WITH DESCENDER|SMALL LETTER PE WITH DESCENDER|CAPITAL LETTER SHHA WITH " ++
    "DESCENDER|SMALL LETTER SHHA WITH DESCENDER|CAPITAL LETTER EN WITH LEFT HOOK|SMALL LETTER " ++
    "EN WITH LEFT HOOK|CAPITAL LETTER DZZHE|SMALL LETTER DZZHE|CAPITAL LETTER DCHE|SMALL " ++
    "LETTER DCHE|CAPITAL LETTER EL WITH DESCENDER|SMALL LETTER EL WITH DESCENDER"),
  (0x531, "ARMENIAN CAPITAL LETTER ", "AYB|BEN|GIM|DA|ECH|ZA|EH|ET|TO|ZHE|INI|LIWN|XEH|CA|KEN|" ++
    "HO|JA|GHAD|CHEH|MEN|YI|NOW|SHA|VO|CHA|PEH|JHEH|RA|SEH|VEW|TIWN|REH|CO|YIWN|PIWR|KEH|OH|" ++
    "FEH"),
  (0x559, "ARMENIAN ", "MODIFIER LETTER LEFT HALF RING|APOSTROPHE|EMPHASIS MARK|EXCLAMATION " ++
    "MARK|COMMA|QUESTION MARK|ABBREVIATION MARK"),
  (0x560, "ARMENIAN SMALL LETTER ", "TURNED AYB|AYB|BEN|GIM|DA|ECH|ZA|EH|ET|TO|ZHE|INI|LIWN|" ++
    "XEH|CA|KEN|HO|JA|GHAD|CHEH|MEN|YI|NOW|SHA|VO|CHA|PEH|JHEH|RA|SEH|VEW|TIWN|REH|CO|YIWN|" ++
    "PIWR|KEH|OH|FEH"),
  (0x587, "ARMENIAN ", "SMALL LIGATURE ECH YIWN|SMALL LETTER YI WITH STROKE|FULL STOP|HYPHEN"),
  (0x58D, "", "RIGHT-FACING ARMENIAN ETERNITY SIGN|LEFT-FACING ARMENIAN ETERNITY SIGN|" ++
    "ARMENIAN DRAM SIGN")]

def semiticNames : List NameGroup := [
  (0x591, "HEBREW ACCENT ", "ETNAHTA|SEGOL|SHALSHELET|ZAQEF QATAN|ZAQEF GADOL|TIPEHA|REVIA|" ++
    "ZARQA|PASHTA|YETIV|TEVIR|GERESH|GERESH MUQDAM|GERSHAYIM|QARNEY PARA|TELISHA GEDOLA|PAZER|" ++
    "ATNAH HAFUKH|MUNAH|MAHAPAKH|MERKHA|MERKHA KEFULA|DARGA|QADMA|TELISHA QETANA|YERAH BEN " ++
    "YOMO|OLE|ILUY|DEHI|ZINOR"),
  (0x5AF, "", "HEBREW MARK MASORA CIRCLE"),
  (0x5B0, "HEBREW POINT ", "SHEVA|HATAF SEGOL|HATAF PATAH|HATAF QAMATS|HIRIQ|TSERE|SEGOL|" ++
    "PATAH|QAMATS|HOLAM|HOLAM HASER FOR VAV|QUBUTS|DAGESH OR MAPIQ|METEG"),
  (0x5BE, "HEBREW ", "PUNCTUATION MAQAF|POINT RAFE|PUNCTUATION PASEQ|POINT SHIN DOT|POINT SIN " ++
    "DOT|PUNCTUATION SOF PASUQ|MARK UPPER DOT|MARK LOWER DOT|PUNCTUATION NUN HAFUKHA|POINT " ++
    "QAMATS QATAN"),
  (0x5D0, "HEBREW LETTER ", "ALEF|BET|GIMEL|DALET|HE|VAV|ZAYIN|HET|TET|YOD|FINAL KAF|KAF|" ++
    "LAMED|FINAL MEM|MEM|FINAL NUN|NUN|SAMEKH|AYIN|FINAL PE|PE|FINAL TSADI|TSADI|QOF|RESH|" ++
    "SHIN|TAV"),
  (0x5EF, "", "HEBREW YOD TRIANGLE"),
  (0x5F0, "HEBREW LIGATURE YIDDISH ", "DOUBLE VAV|VAV YOD|DOUBLE YOD"),
  (0x5F3, "HEBREW PUNCTUATION ", "GERESH|GERSHAYIM"),
  (0x600, "ARABIC ", "NUMBER SIGN|SIGN SANAH|FOOTNOTE MARKER|SIGN SAFHA|SIGN SAMVAT|NUMBER " ++
    "MARK ABOVE"),
  (0x606, "ARABIC-INDIC ", "CUBE ROOT|FOURTH ROOT"),
  (0x608, "", "ARABIC RAY|ARABIC-INDIC PER MILLE SIGN|ARABIC-INDIC PER TEN THOUSAND SIGN|" ++
    "AFGHANI SIGN"),
  (0x60C, "ARABIC ", "COMMA|DATE SEPARATOR|POETIC VERSE SIGN"),
  (0x60F, "ARABIC SIGN ", "MISRA|SALLALLAHOU ALAYHE WASSALLAM|ALAYHE ASSALLAM|RAHMATULLAH " ++
    "ALAYHE|RADI ALLAHOU ANHU|TAKHALLUS"),
  (0x615, "ARABIC SMALL ", "HIGH TAH|HIGH LIGATURE ALEF WITH LAM WITH YEH|HIGH ZAIN|FATHA|" ++
    "DAMMA|KASRA"),
  (0x61B, "ARABIC ", "SEMICOLON|LETTER MARK|END OF TEXT MARK|TRIPLE DOT PUNCTUATION MARK|" ++
    "QUESTION MARK"),
  (0x620, "ARABIC LETTER ", "KASHMIRI YEH|HAMZA|ALEF WITH MADDA ABOVE|ALEF WITH HAMZA ABOVE|" ++
    "WAW WITH HAMZA ABOVE|ALEF WITH HAMZA BELOW|YEH WITH HAMZA ABOVE|ALEF|BEH|TEH MARBUTA|TEH|" ++
    "THEH|JEEM|HAH|KHAH|DAL|THAL|REH|ZAIN|SEEN|SHEEN|SAD|DAD|TAH|ZAH|AIN|GHAIN|KEHEH WITH TWO " ++
    "DOTS ABOVE|KEHEH WITH THREE DOTS BELOW"),
  (0x63D, "ARABIC LETTER FARSI YEH WITH ", "INVERTED V|TWO DOTS ABOVE|THREE DOTS ABOVE"),
  (0x640, "", "ARABIC TATWEEL"),
  (0x641, "ARABIC LETTER ", "FEH|QAF|KAF|LAM|MEEM|NOON|HEH|WAW|ALEF MAKSURA|YEH"),
  (0x64B, "ARABIC ", "FATHATAN|DAMMATAN|KASRATAN|FATHA|DAMMA|KASRA|SHADDA|SUKUN|MADDAH ABOVE|" ++
    "HAMZA ABOVE|HAMZA BELOW|SUBSCRIPT ALEF|INVERTED DAMMA|MARK NOON GHUNNA|ZWARAKAY|VOWEL " ++
    "SIGN SMALL V ABOVE|VOWEL SIGN INVERTED SMALL V ABOVE|VOWEL SIGN DOT BELOW|REVERSED DAMMA|" ++
    "FATHA WITH TWO DOTS|WAVY HAMZA BELOW"),
  (0x660, "ARABIC-INDIC DIGIT ", "ZERO|ONE|TWO|THREE|FOUR|FIVE|SIX|SEVEN|EIGHT|NINE"),
  (0x66A, "ARABIC ", "PERCENT SIGN|DECIMAL SEPARATOR|THOUSANDS SEPARATOR|FIVE POINTED STAR"),
  (0x66E, "ARABIC LETTER ", "DOTLESS BEH|DOTLESS QAF|SUPERSCRIPT ALEF|ALEF WASLA|ALEF WITH " ++
    "WAVY HAMZA ABOVE|ALEF WITH WAVY HAMZA BELOW|HIGH HAMZA|HIGH HAMZA ALEF|HIGH HAMZA WAW|U " ++
    "WITH HAMZA ABOVE|HIGH HAMZA YEH|TTEH|TTEHEH|BEEH|TEH WITH RING|TEH WITH THREE DOTS ABOVE " ++
    "DOWNWARDS|PEH|TEHEH|BEHEH|HAH WITH HAMZA ABOVE|HAH WITH TWO DOTS VERTICAL ABOVE|NYEH|" ++
    "DYEH|HAH WITH THREE DOTS ABOVE|TCHEH|TCHEHEH|DDAL|DAL WITH RING|DAL WITH DOT BELOW|DAL " ++
    "WITH DOT BELOW AND SMALL TAH|DAHAL|DDAHAL|DUL|DAL WITH THREE DOTS ABOVE DOWNWARDS|DAL " ++
    "WITH FOUR DOTS ABOVE|RREH|REH WITH SMALL V|REH WITH RING|REH WITH DOT BELOW|REH WITH " ++
    "SMALL V BELOW|REH WITH DOT BELOW AND DOT ABOVE|REH WITH TWO DOTS ABOVE|JEH|REH WITH FOUR " ++
    "DOTS ABOVE|SEEN WITH DOT BELOW AND DOT ABOVE|SEEN WITH THREE DOTS BELOW|SEEN WITH THREE " ++
    "DOTS BELOW AND THREE DOTS ABOVE|SAD WITH TWO DOTS BELOW|SAD WITH THREE DOTS ABOVE|TAH " ++
    "WITH THREE DOTS ABOVE|AIN WITH THREE DOTS ABOVE|DOTLESS FEH|FEH WITH DOT MOVED BELOW|FEH " ++
    "WITH DOT BELOW|VEH|FEH WITH THREE DOTS BELOW|PEHEH|QAF WITH DOT ABOVE|QAF WITH THREE " ++
    "DOTS ABOVE|KEHEH|SWASH KAF|KAF WITH RING|KAF WITH DOT ABOVE|NG|KAF WITH THREE DOTS BELOW|" ++
    "GAF|GAF WITH RING|NGOEH|GAF WITH TWO DOTS BELOW|GUEH|GAF WITH THREE DOTS ABOVE|LAM WITH " ++
    "SMALL V|LAM WITH DOT ABOVE|LAM WITH THREE DOTS ABOVE|LAM WITH THREE DOTS BELOW|NOON WITH " ++
    "DOT BELOW|NOON GHUNNA|RNOON|NOON WITH RING|NOON WITH THREE DOTS ABOVE|HEH DOACHASHMEE|" ++
    "TCHEH WITH DOT ABOVE|HEH WITH YEH ABOVE|HEH GOAL|HEH GOAL WITH HAMZA ABOVE|TEH MARBUTA " ++
    "GOAL|WAW WITH RING|KIRGHIZ OE|OE|U|YU|KIRGHIZ YU|WAW WITH TWO DOTS ABOVE|VE|FARSI YEH|" ++
    "YEH WITH TAIL|YEH WITH SMALL V|WAW WITH DOT ABOVE|E|YEH WITH THREE DOTS BELOW|YEH BARREE|" ++
    "YEH BARREE WITH HAMZA ABOVE"),
  (0x6D4, "ARABIC ", "FULL STOP|LETTER AE"),
  (0x6D6, "ARABIC SMALL HIGH ", "LIGATURE SAD WITH LAM WITH ALEF MAKSURA|LIGATURE QAF WITH " ++
    "LAM WITH ALEF MAKSURA|MEEM INITIAL FORM|LAM ALEF|JEEM|THREE DOTS|SEEN"),
  (0x6DD, "ARABIC ", "END OF AYAH|START OF RUB EL HIZB"),
  (0x6DF, "ARABIC SMALL ", "HIGH ROUNDED ZERO|HIGH UPRIGHT RECTANGULAR ZERO|HIGH DOTLESS HEAD " ++
    "OF KHAH|HIGH MEEM ISOLATED FORM|LOW SEEN|HIGH MADDA|WAW|YEH|HIGH YEH|HIGH NOON"),
  (0x6E9, "ARABIC ", "PLACE OF SAJDAH|EMPTY CENTRE LOW STOP|EMPTY CENTRE HIGH STOP|ROUNDED " ++
    "HIGH STOP WITH FILLED CENTRE|SMALL LOW MEEM|LETTER DAL WITH INVERTED V|LETTER REH WITH " ++
    "INVERTED V"),
  (0x6F0, "EXTENDED ARABIC-INDIC DIGIT ", "ZERO|ONE|TWO|THREE|FOUR|FIVE|SIX|SEVEN|EIGHT|NINE"),
  (0x6FA, "ARABIC ", "LETTER SHEEN WITH DOT BELOW|LETTER DAD WITH DOT BELOW|LETTER GHAIN WITH " ++
    "DOT BELOW|SIGN SINDHI AMPERSAND|SIGN SINDHI POSTPOSITION MEN|LETTER HEH WITH INVERTED V")]

def indicNames : List NameGroup := [
  (0x900, "DEVANAGARI SIGN ", "INVERTED CANDRABINDU|CANDRABINDU|ANUSVARA|VISARGA"),
  (0x904, "DEVANAGARI LETTER ", "SHORT A|A|AA|I|II|U|UU|VOCALIC R|VOCALIC L|CANDRA E|SHORT E|" ++
    "E|AI|CANDRA O|SHORT O|O|AU|KA|KHA|GA|GHA|NGA|CA|CHA|JA|JHA|NYA|TTA|TTHA|DDA|DDHA|NNA|TA|" ++
    "THA|DA|DHA|NA|NNNA|PA|PHA|BA|BHA|MA|YA|RA|RRA|LA|LLA|LLLA|VA|SHA|SSA|SA|HA"),
  (0x93A, "DEVANAGARI ", "VOWEL SIGN OE|VOWEL SIGN OOE|SIGN NUKTA|SIGN AVAGRAHA"),
  (0x93E, "DEVANAGARI VOWEL SIGN ", "AA|I|II|U|UU|VOCALIC R|VOCALIC RR|CANDRA E|SHORT E|E|AI|" ++
    "CANDRA O|SHORT O|O|AU"),
  (0x94D, "DEVANAGARI ", "SIGN VIRAMA|VOWEL SIGN PRISHTHAMATRA E|VOWEL SIGN AW|OM|STRESS SIGN " ++
    "UDATTA|STRESS SIGN ANUDATTA|GRAVE ACCENT|ACUTE ACCENT"),
  (0x955, "DEVANAGARI VOWEL SIGN ", "CANDRA LONG E|UE|UUE"),
  (0x958, "DEVANAGARI LETTER ", "QA|KHHA|GHHA|ZA|DDDHA|RHA|FA|YYA|VOCALIC RR|VOCALIC LL"),
  (0x962, "DEVANAGARI ", "VOWEL SIGN VOCALIC L|VOWEL SIGN VOCALIC LL|DANDA|DOUBLE DANDA"),
  (0x966, "DEVANAGARI DIGIT ", "ZERO|ONE|TWO|THREE|FOUR|FIVE|SIX|SEVEN|EIGHT|NINE"),
  (0x970, "DEVANAGARI ", "ABBREVIATION SIGN|SIGN HIGH SPACING DOT"),
  (0x972, "DEVANAGARI LETTER ", "CANDRA A|OE|OOE|AW|UE|UUE|MARWARI DDA|ZHA|HEAVY YA|GGA|JJA|" ++
    "GLOTTAL STOP|DDDA|BBA"),
  (0xE01, "THAI CHARACTER ", "KO KAI|KHO KHAI|KHO KHUAT|KHO KHWAI|KHO KHON|KHO RAKHANG|NGO " ++
    "NGU|CHO CHAN|CHO CHING|CHO CHANG|SO SO|CHO CHOE|YO YING|DO CHADA|TO PATAK|THO THAN|THO " ++
    "NANGMONTHO|THO PHUTHAO|NO NEN|DO DEK|TO TAO|THO THUNG|THO THAHAN|THO THONG|NO NU|BO " ++
    "BAIMAI|PO PLA|PHO PHUNG|FO FA|PHO PHAN|FO FAN|PHO SAMPHAO|MO MA|YO YAK|RO RUA|RU|LO LING|" ++
    "LU|WO WAEN|SO SALA|SO RUSI|SO SUA|HO HIP|LO CHULA|O ANG|HO NOKHUK|PAIYANNOI|SARA A|MAI " ++
    "HAN-AKAT|SARA AA|SARA AM|SARA I|SARA II|SARA UE|SARA UEE|SARA U|SARA UU|PHINTHU"),
  (0xE3F, "", "THAI CURRENCY SYMBOL BAHT"),
  (0xE40, "THAI CHARACTER ", "SARA E|SARA AE|SARA O|SARA AI MAIMUAN|SARA AI MAIMALAI|" ++
    "LAKKHANGYAO|MAIYAMOK|MAITAIKHU|MAI EK|MAI THO|MAI TRI|MAI CHATTAWA|THANTHAKHAT|NIKHAHIT|" ++
    "YAMAKKAN|FONGMAN"),
  (0xE50, "THAI DIGIT ", "ZERO|ONE|TWO|THREE|FOUR|FIVE|SIX|SEVEN|EIGHT|NINE"),
  (0xE5A, "THAI CHARACTER ", "ANGKHANKHU|KHOMUT")]

def accentedNames : List NameGroup := [
  (0x1E00, "LATIN ", "CAPITAL LETTER A WITH RING BELOW|SMALL LETTER A WITH RING BELOW|CAPITAL " ++
    "LETTER B WITH DOT ABOVE|SMALL LETTER B WITH DOT ABOVE|CAPITAL LETTER B WITH DOT BELOW|" ++
    "SMALL LETTER B WITH DOT BELOW|CAPITAL LETTER B WITH LINE BELOW|SMALL LETTER B WITH LINE " ++
    "BELOW|CAPITAL LETTER C WITH CEDILLA AND ACUTE|SMALL LETTER C WITH CEDILLA AND ACUTE|" ++
    "CAPITAL LETTER D WITH DOT ABOVE|SMALL LETTER D WITH DOT ABOVE|CAPITAL LETTER D WITH DOT " ++
    "BELOW|SMALL LETTER D WITH DOT BELOW|CAPITAL LETTER D WITH LINE BELOW|SMALL LETTER D WITH " ++
    "LINE BELOW|CAPITAL LETTER D WITH CEDILLA|SMALL LETTER D WITH CEDILLA|CAPITAL LETTER D " ++
    "WITH CIRCUMFLEX BELOW|SMALL LETTER D WITH CIRCUMFLEX BELOW|CAPITAL LETTER E WITH MACRON " ++
    "AND GRAVE|SMALL LETTER E WITH MACRON AND GRAVE|CAPITAL LETTER E WITH MACRON AND ACUTE|" ++
    "SMALL LETTER E WITH MACRON AND ACUTE|CAPITAL LETTER E WITH CIRCUMFLEX BELOW|SMALL LETTER " ++
    "E WITH CIRCUMFLEX BELOW|CAPITAL LETTER E WITH TILDE BELOW|SMALL LETTER E WITH TILDE " ++
    "BELOW|CAPITAL LETTER E WITH CEDILLA AND BREVE|SMALL LETTER E WITH CEDILLA AND BREVE|" ++
    "CAPITAL LETTER F WITH DOT ABOVE|SMALL LETTER F WITH DOT ABOVE|CAPITAL LETTER G WITH " ++
    "MACRON|SMALL LETTER G WITH MACRON|CAPITAL LETTER H WITH DOT ABOVE|SMALL LETTER H WITH " ++
    "DOT ABOVE|CAPITAL LETTER H WITH DOT BELOW|SMALL LETTER H WITH DOT BELOW|CAPITAL LETTER H " ++
    "WITH DIAERESIS|SMALL LETTER H WITH DIAERESIS|CAPITAL LETTER H WITH CEDILLA|SMALL LETTER " ++
    "H WITH CEDILLA|CAPITAL LETTER H WITH BREVE BELOW|SMALL LETTER H WITH BREVE BELOW|CAPITAL " ++
    "LETTER I WITH TILDE BELOW|SMALL LETTER I WITH TILDE BELOW|CAPITAL LETTER I WITH " ++
    "DIAERESIS AND ACUTE|SMALL LETTER I WITH DIAERESIS AND ACUTE|CAPITAL LETTER K WITH ACUTE|" ++
    "SMALL LETTER K WITH ACUTE|CAPITAL LETTER K WITH DOT BELOW|SMALL LETTER K WITH DOT BELOW|" ++
    "CAPITAL LETTER K WITH LINE BELOW|SMALL LETTER K WITH LINE BELOW|CAPITAL LETTER L WITH " ++
    "DOT BELOW|SMALL LETTER L WITH DOT BELOW|CAPITAL LETTER L WITH DOT BELOW AND MACRON|SMALL " ++
    "LETTER L WITH DOT BELOW AND MACRON|CAPITAL LETTER L WITH LINE BELOW|SMALL LETTER L WITH " ++
    "LINE BELOW|CAPITAL LETTER L WITH CIRCUMFLEX BELOW|SMALL LETTER L WITH CIRCUMFLEX BELOW|" ++
    "CAPITAL LETTER M WITH ACUTE|SMALL LETTER M WITH ACUTE|CAPITAL LETTER M WITH DOT ABOVE|" ++
    "SMALL LETTER M WITH DOT ABOVE|CAPITAL LETTER M WITH DOT BELOW|SMALL LETTER M WITH DOT " ++
    "BELOW|CAPITAL LETTER N WITH DOT ABOVE|SMALL LETTER N WITH DOT ABOVE|CAPITAL LETTER N " ++
    "WITH DOT BELOW|SMALL LETTER N WITH DOT BELOW|CAPITAL LETTER N WITH LINE BELOW|SMALL " ++
    "LETTER N WITH LINE BELOW|CAPITAL LETTER N WITH CIRCUMFLEX BELOW|SMALL LETTER N WITH " ++
    "CIRCUMFLEX BELOW|CAPITAL LETTER O WITH TILDE AND ACUTE|SMALL LETTER O WITH TILDE AND " ++
    "ACUTE|CAPITAL LETTER O WITH TILDE AND DIAERESIS|SMALL LETTER O WITH TILDE AND DIAERESIS|" ++
    "CAPITAL LETTER O WITH MACRON AND GRAVE|SMALL LETTER O WITH MACRON AND GRAVE|CAPITAL " ++
    "LETTER O WITH MACRON AND ACUTE|SMALL LETTER O WITH MACRON AND ACUTE|CAPITAL LETTER P " ++
    "WITH ACUTE|SMALL LETTER P WITH ACUTE|CAPITAL LETTER P WITH DOT ABOVE|SMALL LETTER P WITH " ++
    "DOT ABOVE|CAPITAL LETTER R WITH DOT ABOVE|SMALL LETTER R WITH DOT ABOVE|CAPITAL LETTER R " ++
    "WITH DOT BELOW|SMALL LETTER R WITH DOT BELOW|CAPITAL LETTER R WITH DOT BELOW AND MACRON|" ++
    "SMALL LETTER R WITH DOT BELOW AND MACRON|CAPITAL LETTER R WITH LINE BELOW|SMALL LETTER R " ++
    "WITH LINE BELOW|CAPITAL LETTER S WITH DOT ABOVE|SMALL LETTER S WITH DOT ABOVE|CAPITAL " ++
    "LETTER S WITH DOT BELOW|SMALL LETTER S WITH DOT BELOW|CAPITAL LETTER S WITH ACUTE AND " ++
    "DOT ABOVE|SMALL LETTER S WITH ACUTE AND DOT ABOVE|CAPITAL LETTER S WITH CARON AND DOT " ++
    "ABOVE|SMALL LETTER S WITH CARON AND DOT ABOVE|CAPITAL LETTER S WITH DOT BELOW AND DOT " ++
    "ABOVE|SMALL LETTER S WITH DOT BELOW AND DOT ABOVE|CAPITAL LETTER T WITH DOT ABOVE|SMALL " ++
    "LETTER T WITH DOT ABOVE|CAPITAL LETTER T WITH DOT BELOW|SMALL LETTER T WITH DOT BELOW|" ++
    "CAPITAL LETTER T WITH LINE BELOW|SMALL LETTER T WITH LINE BELOW|CAPITAL LETTER T WITH " ++
    "CIRCUMFLEX BELOW|SMALL LETTER T WITH CIRCUMFLEX BELOW|CAPITAL LETTER U WITH DIAERESIS " ++
    "BELOW|SMALL LETTER U WITH DIAERESIS BELOW|CAPITAL LETTER U WITH TILDE BELOW|SMALL LETTER " ++
    "U WITH TILDE BELOW|CAPITAL LETTER U WITH CIRCUMFLEX BELOW|SMALL LETTER U WITH CIRCUMFLEX " ++
    "BELOW|CAPITAL LETTER U WITH TILDE AND ACUTE|SMALL LETTER U WITH TILDE AND ACUTE|CAPITAL " ++
    "LETTER U WITH MACRON AND DIAERESIS|SMALL LETTER U WITH MACRON AND DIAERESIS|CAPITAL " ++
    "LETTER V WITH TILDE|SMALL LETTER V WITH TILDE|CAPITAL LETTER V WITH DOT BELOW|SMALL " ++
    "LETTER V WITH DOT BELOW|CAPITAL LETTER W WITH GRAVE|SMALL LETTER W WITH GRAVE|CAPITAL " ++
    "LETTER W WITH ACUTE|SMALL LETTER W WITH ACUTE|CAPITAL LETTER W WITH DIAERESIS|SMALL " ++
    "LETTER W WITH DIAERESIS|CAPITAL LETTER W WITH DOT ABOVE|SMALL LETTER W WITH DOT ABOVE|" ++
    "CAPITAL LETTER W WITH DOT BELOW|SMALL LETTER W WITH DOT BELOW|CAPITAL LETTER X WITH DOT " ++
    "ABOVE|SMALL LETTER X WITH DOT ABOVE|CAPITAL LETTER X WITH DIAERESIS|SMALL LETTER X WITH " ++
    "DIAERESIS|CAPITAL LETTER Y WITH DOT ABOVE|SMALL LETTER Y WITH DOT ABOVE|CAPITAL LETTER Z " ++
    "WITH CIRCUMFLEX|SMALL LETTER Z WITH CIRCUMFLEX|CAPITAL LETTER Z WITH DOT BELOW|SMALL " ++
    "LETTER Z WITH DOT BELOW|CAPITAL LETTER Z WITH LINE BELOW"),
  (0x1E95, "LATIN SMALL LETTER ", "Z WITH LINE BELOW|H WITH LINE BELOW|T WITH DIAERESIS|W " ++
    "WITH RING ABOVE|Y WITH RING ABOVE|A WITH RIGHT HALF RING|LONG S WITH DOT ABOVE|LONG S " ++
    "WITH DIAGONAL STROKE|LONG S WITH HIGH STROKE"),
  (0x1E9E, "LATIN ", "CAPITAL LETTER SHARP S|SMALL LETTER DELTA|CAPITAL LETTER A WITH DOT " ++
    "BELOW|SMALL LETTER A WITH DOT BELOW|CAPITAL LETTER A WITH HOOK ABOVE|SMALL LETTER A WITH " ++
    "HOOK ABOVE|CAPITAL LETTER A WITH CIRCUMFLEX AND ACUTE|SMALL LETTER A WITH CIRCUMFLEX AND " ++
    "ACUTE|CAPITAL LETTER A WITH CIRCUMFLEX AND GRAVE|SMALL LETTER A WITH CIRCUMFLEX AND " ++
    "GRAVE|CAPITAL LETTER A WITH CIRCUMFLEX AND HOOK ABOVE|SMALL LETTER A WITH CIRCUMFLEX AND " ++
    "HOOK ABOVE|CAPITAL LETTER A WITH CIRCUMFLEX AND TILDE|SMALL LETTER A WITH CIRCUMFLEX AND " ++
    "TILDE|CAPITAL LETTER A WITH CIRCUMFLEX AND DOT BELOW|SMALL LETTER A WITH CIRCUMFLEX AND " ++
    "DOT BELOW|CAPITAL LETTER A WITH BREVE AND ACUTE|SMALL LETTER A WITH BREVE AND ACUTE|" ++
    "CAPITAL LETTER A WITH BREVE AND GRAVE|SMALL LETTER A WITH BREVE AND GRAVE|CAPITAL LETTER " ++
    "A WITH BREVE AND HOOK ABOVE|SMALL LETTER A WITH BREVE AND HOOK ABOVE|CAPITAL LETTER A " ++
    "WITH BREVE AND TILDE|SMALL LETTER A WITH BREVE AND TILDE|CAPITAL LETTER A WITH BREVE AND " ++
    "DOT BELOW|SMALL LETTER A WITH BREVE AND DOT BELOW|CAPITAL LETTER E WITH DOT BELOW|SMALL " ++
    "LETTER E WITH DOT BELOW|CAPITAL LETTER E WITH HOOK ABOVE|SMALL LETTER E WITH HOOK ABOVE|" ++
    "CAPITAL LETTER E WITH TILDE|SMALL LETTER E WITH TILDE|CAPITAL LETTER E WITH CIRCUMFLEX " ++
    "AND ACUTE|SMALL LETTER E WITH CIRCUMFLEX AND ACUTE|CAPITAL LETTER E WITH CIRCUMFLEX AND " ++
    "GRAVE|SMALL LETTER E WITH CIRCUMFLEX AND GRAVE|CAPITAL LETTER E WITH CIRCUMFLEX AND HOOK " ++
    "ABOVE|SMALL LETTER E WITH CIRCUMFLEX AND HOOK ABOVE|CAPITAL LETTER E WITH CIRCUMFLEX AND " ++
    "TILDE|SMALL LETTER E WITH CIRCUMFLEX AND TILDE|CAPITAL LETTER E WITH CIRCUMFLEX AND DOT " ++
    "BELOW|SMALL LETTER E WITH CIRCUMFLEX AND DOT BELOW|CAPITAL LETTER I WITH HOOK ABOVE|" ++
    "SMALL LETTER I WITH HOOK ABOVE|CAPITAL LETTER I WITH DOT BELOW|SMALL LETTER I WITH DOT " ++
    "BELOW|CAPITAL LETTER O WITH DOT BELOW|SMALL LETTER O WITH DOT BELOW|CAPITAL LETTER O " ++
    "WITH HOOK ABOVE|SMALL LETTER O WITH HOOK ABOVE|CAPITAL LETTER O WITH CIRCUMFLEX AND " ++
    "ACUTE|SMALL LETTER O WITH CIRCUMFLEX AND ACUTE|CAPITAL LETTER O WITH CIRCUMFLEX AND " ++
    "GRAVE|SMALL LETTER O WITH CIRCUMFLEX AND GRAVE|CAPITAL LETTER O WITH CIRCUMFLEX AND HOOK " ++
    "ABOVE|SMALL LETTER O WITH CIRCUMFLEX AND HOOK ABOVE|CAPITAL LETTER O WITH CIRCUMFLEX AND " ++
    "TILDE|SMALL LETTER O WITH CIRCUMFLEX AND TILDE|CAPITAL LETTER O WITH CIRCUMFLEX AND DOT " ++
    "BELOW|SMALL LETTER O WITH CIRCUMFLEX AND DOT BELOW|CAPITAL LETTER O WITH HORN AND ACUTE|" ++
    "SMALL LETTER O WITH HORN AND ACUTE|CAPITAL LETTER O WITH HORN AND GRAVE|SMALL LETTER O " ++
    "WITH HORN AND GRAVE|CAPITAL LETTER O WITH HORN AND HOOK ABOVE|SMALL LETTER O WITH HORN " ++
    "AND HOOK ABOVE|CAPITAL LETTER O WITH HORN AND TILDE|SMALL LETTER O WITH HORN AND TILDE|" ++
    "CAPITAL LETTER O WITH HORN AND DOT BELOW|SMALL LETTER O WITH HORN AND DOT BELOW|CAPITAL " ++
    "LETTER U WITH DOT BELOW|SMALL LETTER U WITH DOT BELOW|CAPITAL LETTER U WITH HOOK ABOVE|" ++
    "SMALL LETTER U WITH HOOK ABOVE|CAPITAL LETTER U WITH HORN AND ACUTE|SMALL LETTER U WITH " ++
    "HORN AND ACUTE|CAPITAL LETTER U WITH HORN AND GRAVE|SMALL LETTER U WITH HORN AND GRAVE|" ++
    "CAPITAL LETTER U WITH HORN AND HOOK ABOVE|SMALL LETTER U WITH HORN AND HOOK ABOVE|" ++
    "CAPITAL LETTER U WITH HORN AND TILDE|SMALL LETTER U WITH HORN AND TILDE|CAPITAL LETTER U " ++
    "WITH HORN AND DOT BELOW|SMALL LETTER U WITH HORN AND DOT BELOW|CAPITAL LETTER Y WITH " ++
    "GRAVE|SMALL LETTER Y WITH GRAVE|CAPITAL LETTER Y WITH DOT BELOW|SMALL LETTER Y WITH DOT " ++
    "BELOW|CAPITAL LETTER Y WITH HOOK ABOVE|SMALL LETTER Y WITH HOOK ABOVE|CAPITAL LETTER Y " ++
    "WITH TILDE|SMALL LETTER Y WITH TILDE|CAPITAL LETTER MIDDLE-WELSH LL|SMALL LETTER " ++
    "MIDDLE-WELSH LL|CAPITAL LETTER MIDDLE-WELSH V|SMALL LETTER MIDDLE-WELSH V|CAPITAL LETTER " ++
    "Y WITH LOOP|SMALL LETTER Y WITH LOOP"),
  (0x1F00, "GREEK SMALL LETTER ALPHA WITH ", "PSILI|DASIA|PSILI AND VARIA|DASIA AND VARIA|" ++
    "PSILI AND OXIA|DASIA AND OXIA|PSILI AND PERISPOMENI|DASIA AND PERISPOMENI"),
  (0x1F08, "GREEK CAPITAL LETTER ALPHA WITH ", "PSILI|DASIA|PSILI AND VARIA|DASIA AND VARIA|" ++
    "PSILI AND OXIA|DASIA AND OXIA|PSILI AND PERISPOMENI|DASIA AND PERISPOMENI"),
  (0x1F10, "GREEK SMALL LETTER EPSILON WITH ", "PSILI|DASIA|PSILI AND VARIA|DASIA AND VARIA|" ++
    "PSILI AND OXIA|DASIA AND OXIA"),
  (0x1F18, "GREEK CAPITAL LETTER EPSILON WITH ", "PSILI|DASIA|PSILI AND VARIA|DASIA AND VARIA|" ++
    "PSILI AND OXIA|DASIA AND OXIA"),
  (0x1F20, "GREEK SMALL LETTER ETA WITH ", "PSILI|DASIA|PSILI AND VARIA|DASIA AND VARIA|PSILI " ++
    "AND OXIA|DASIA AND OXIA|PSILI AND PERISPOMENI|DASIA AND PERISPOMENI"),
  (0x1F28, "GREEK CAPITAL LETTER ETA WITH ", "PSILI|DASIA|PSILI AND VARIA|DASIA AND VARIA|" ++
    "PSILI AND OXIA|DASIA AND OXIA|PSILI AND PERISPOMENI|DASIA AND PERISPOMENI"),
  (0x1F30, "GREEK SMALL LETTER IOTA WITH ", "PSILI|DASIA|PSILI AND VARIA|DASIA AND VARIA|" ++
    "PSILI AND OXIA|DASIA AND OXIA|PSILI AND PERISPOMENI|DASIA AND PERISPOMENI"),
  (0x1F38, "GREEK CAPITAL LETTER IOTA WITH ", "PSILI|DASIA|PSILI AND VARIA|DASIA AND VARIA|" ++
    "PSILI AND OXIA|DASIA AND OXIA|PSILI AND PERISPOMENI|DASIA AND PERISPOMENI"),
  (0x1F40, "GREEK SMALL LETTER OMICRON WITH ", "PSILI|DASIA|PSILI AND VARIA|DASIA AND VARIA|" ++
    "PSILI AND OXIA|DASIA AND OXIA"),
  (0x1F48, "GREEK CAPITAL LETTER OMICRON WITH ", "PSILI|DASIA|PSILI AND VARIA|DASIA AND VARIA|" ++
    "PSILI AND OXIA|DASIA AND OXIA"),
  (0x1F50, "GREEK SMALL LETTER UPSILON WITH ", "PSILI|DASIA|PSILI AND VARIA|DASIA AND VARIA|" ++
    "PSILI AND OXIA|DASIA AND OXIA|PSILI AND PERISPOMENI|DASIA AND PERISPOMENI"),
  (0x1F59, "GREEK CAPITAL LETTER UPSILON WITH ", "DASIA||DASIA AND VARIA||DASIA AND OXIA||" ++
    "DASIA AND PERISPOMENI"),
  (0x1F60, "GREEK SMALL LETTER OMEGA WITH ", "PSILI|DASIA|PSILI AND VARIA|DASIA AND VARIA|" ++
    "PSILI AND OXIA|DASIA AND OXIA|PSILI AND PERISPOMENI|DASIA AND PERISPOMENI"),
  (0x1F68, "GREEK CAPITAL LETTER OMEGA WITH ", "PSILI|DASIA|PSILI AND VARIA|DASIA AND VARIA|" ++
    "PSILI AND OXIA|DASIA AND OXIA|PSILI AND PERISPOMENI|DASIA AND PERISPOMENI"),
  (0x1F70, "GREEK SMALL LETTER ", "ALPHA WITH VARIA|ALPHA WITH OXIA|EPSILON WITH VARIA|" ++
    "EPSILON WITH OXIA|ETA WITH VARIA|ETA WITH OXIA|IOTA WITH VARIA|IOTA WITH OXIA|OMICRON " ++
    "WITH VARIA|OMICRON WITH OXIA|UPSILON WITH VARIA|UPSILON WITH OXIA|OMEGA WITH VARIA|OMEGA " ++
    "WITH OXIA"),
  (0x1F80, "GREEK SMALL LETTER ALPHA WITH ", "PSILI AND YPOGEGRAMMENI|DASIA AND YPOGEGRAMMENI|" ++
    "PSILI AND VARIA AND YPOGEGRAMMENI|DASIA AND VARIA AND YPOGEGRAMMENI|PSILI AND OXIA AND " ++
    "YPOGEGRAMMENI|DASIA AND OXIA AND YPOGEGRAMMENI|PSILI AND PERISPOMENI AND YPOGEGRAMMENI|" ++
    "DASIA AND PERISPOMENI AND YPOGEGRAMMENI"),
  (0x1F88, "GREEK CAPITAL LETTER ALPHA WITH ", "PSILI AND PROSGEGRAMMENI|DASIA AND " ++
    "PROSGEGRAMMENI|PSILI AND VARIA AND PROSGEGRAMMENI|DASIA AND VARIA AND PROSGEGRAMMENI|" ++
    "PSILI AND OXIA AND PROSGEGRAMMENI|DASIA AND OXIA AND PROSGEGRAMMENI|PSILI AND " ++
    "PERISPOMENI AND PROSGEGRAMMENI|DASIA AND PERISPOMENI AND PROSGEGRAMMENI"),
  (0x1F90, "GREEK SMALL LETTER ETA WITH ", "PSILI AND YPOGEGRAMMENI|DASIA AND YPOGEGRAMMENI|" ++
    "PSILI AND VARIA AND YPOGEGRAMMENI|DASIA AND VARIA AND YPOGEGRAMMENI|PSILI AND OXIA AND " ++
    "YPOGEGRAMMENI|DASIA AND OXIA AND YPOGEGRAMMENI|PSILI AND PERISPOMENI AND YPOGEGRAMMENI|" ++
    "DASIA AND PERISPOMENI AND YPOGEGRAMMENI"),
  (0x1F98, "GREEK CAPITAL LETTER ETA WITH ", "PSILI AND PROSGEGRAMMENI|DASIA AND " ++
    "PROSGEGRAMMENI|PSILI AND VARIA AND PROSGEGRAMMENI|DASIA AND VARIA AND PROSGEGRAMMENI|" ++
    "PSILI AND OXIA AND PROSGEGRAMMENI|DASIA AND OXIA AND PROSGEGRAMMENI|PSILI AND " ++
    "PERISPOMENI AND PROSGEGRAMMENI|DASIA AND PERISPOMENI AND PROSGEGRAMMENI"),
  (0x1FA0, "GREEK SMALL LETTER OMEGA WITH ", "PSILI AND YPOGEGRAMMENI|DASIA AND YPOGEGRAMMENI|" ++
    "PSILI AND VARIA AND YPOGEGRAMMENI|DASIA AND VARIA AND YPOGEGRAMMENI|PSILI AND OXIA AND " ++
    "YPOGEGRAMMENI|DASIA AND OXIA AND YPOGEGRAMMENI|PSILI AND PERISPOMENI AND YPOGEGRAMMENI|" ++
    "DASIA AND PERISPOMENI AND YPOGEGRAMMENI"),
  (0x1FA8, "GREEK CAPITAL LETTER OMEGA WITH ", "PSILI AND PROSGEGRAMMENI|DASIA AND " ++
    "PROSGEGRAMMENI|PSILI AND VARIA AND PROSGEGRAMMENI|DASIA AND VARIA AND PROSGEGRAMMENI|" ++
    "PSILI AND OXIA AND PROSGEGRAMMENI|DASIA AND OXIA AND PROSGEGRAMMENI|PSILI AND " ++
    "PERISPOMENI AND PROSGEGRAMMENI|DASIA AND PERISPOMENI AND PROSGEGRAMMENI"),
  (0x1FB0, "GREEK SMALL LETTER ALPHA WITH ", "VRACHY|MACRON|VARIA AND YPOGEGRAMMENI|" ++
    "YPOGEGRAMMENI|OXIA AND YPOGEGRAMMENI||PERISPOMENI|PERISPOMENI AND YPOGEGRAMMENI"),
  (0x1FB8, "GREEK CAPITAL LETTER ALPHA WITH ", "VRACHY|MACRON|VARIA|OXIA|PROSGEGRAMMENI"),
  (0x1FBD, "GREEK ", "KORONIS|PROSGEGRAMMENI|PSILI|PERISPOMENI|DIALYTIKA AND PERISPOMENI"),
  (0x1FC2, "GREEK SMALL LETTER ETA WITH ", "VARIA AND YPOGEGRAMMENI|YPOGEGRAMMENI|OXIA AND " ++
    "YPOGEGRAMMENI||PERISPOMENI|PERISPOMENI AND YPOGEGRAMMENI"),
  (0x1FC8, "GREEK CAPITAL LETTER EPSILON WITH ", "VARIA|OXIA"),
  (0x1FCA, "GREEK CAPITAL LETTER ETA WITH ", "VARIA|OXIA|PROSGEGRAMMENI"),
  (0x1FCD, "GREEK PSILI AND ", "VARIA|OXIA|PERISPOMENI"),
  (0x1FD0, "GREEK SMALL LETTER IOTA WITH ", "VRACHY|MACRON|DIALYTIKA AND VARIA|DIALYTIKA AND " ++
    "OXIA|||PERISPOMENI|DIALYTIKA AND PERISPOMENI"),
  (0x1FD8, "GREEK CAPITAL LETTER IOTA WITH ", "VRACHY|MACRON|VARIA|OXIA"),
  (0x1FDD, "GREEK DASIA AND ", "VARIA|OXIA|PERISPOMENI"),
  (0x1FE0, "GREEK SMALL LETTER UPSILON WITH ", "VRACHY|MACRON|DIALYTIKA AND VARIA|DIALYTIKA " ++
    "AND OXIA"),
  (0x1FE4, "GREEK SMALL LETTER ", "RHO WITH PSILI|RHO WITH DASIA|UPSILON WITH PERISPOMENI|" ++
    "UPSILON WITH DIALYTIKA AND PERISPOMENI"),
  (0x1FE8, "GREEK CAPITAL LETTER UPSILON WITH ", "VRACHY|MACRON|VARIA|OXIA"),
  (0x1FEC, "GREEK ", "CAPITAL LETTER RHO WITH DASIA|DIALYTIKA AND VARIA|DIALYTIKA AND OXIA|" ++
    "VARIA"),
  (0x1FF2, "GREEK SMALL LETTER OMEGA WITH ", "VARIA AND YPOGEGRAMMENI|YPOGEGRAMMENI|OXIA AND " ++
    "YPOGEGRAMMENI||PERISPOMENI|PERISPOMENI AND YPOGEGRAMMENI"),
  (0x1FF8, "GREEK CAPITAL LETTER OMICRON WITH ", "VARIA|OXIA"),
  (0x1FFA, "GREEK CAPITAL LETTER OMEGA WITH ", "VARIA|OXIA|PROSGEGRAMMENI"),
  (0x1FFD, "", "GREEK OXIA|GREEK DASIA||EN QUAD|EM QUAD|EN SPACE|EM SPACE|THREE-PER-EM SPACE|" ++
    "FOUR-PER-EM SPACE|SIX-PER-EM SPACE|FIGURE SPACE|PUNCTUATION SPACE|THIN SPACE|HAIR SPACE")]

def punctuationNames : List NameGroup := [
  (0x200B, "ZERO WIDTH ", "SPACE|NON-JOINER|JOINER"),
  (0x200E, "", "LEFT-TO-RIGHT MARK|RIGHT-TO-LEFT MARK|HYPHEN|NON-BREAKING HYPHEN|FIGURE DASH|" ++
    "EN DASH|EM DASH|HORIZONTAL BAR|DOUBLE VERTICAL LINE|DOUBLE LOW LINE|LEFT SINGLE " ++
    "QUOTATION MARK|RIGHT SINGLE QUOTATION MARK|SINGLE LOW-9 QUOTATION MARK|SINGLE " ++
    "HIGH-REVERSED-9 QUOTATION MARK|LEFT DOUBLE QUOTATION MARK|RIGHT DOUBLE QUOTATION MARK|" ++
    "DOUBLE LOW-9 QUOTATION MARK|DOUBLE HIGH-REVERSED-9 QUOTATION MARK|DAGGER|DOUBLE DAGGER|" ++
    "BULLET|TRIANGULAR BULLET|ONE DOT LEADER|TWO DOT LEADER|HORIZONTAL ELLIPSIS|HYPHENATION " ++
    "POINT|LINE SEPARATOR|PARAGRAPH SEPARATOR|LEFT-TO-RIGHT EMBEDDING|RIGHT-TO-LEFT EMBEDDING|" ++
    "POP DIRECTIONAL FORMATTING|LEFT-TO-RIGHT OVERRIDE|RIGHT-TO-LEFT OVERRIDE|NARROW NO-BREAK " ++
    "SPACE|PER MILLE SIGN|PER TEN THOUSAND SIGN|PRIME|DOUBLE PRIME|TRIPLE PRIME|REVERSED " ++
    "PRIME|REVERSED DOUBLE PRIME|REVERSED TRIPLE PRIME|CARET|SINGLE LEFT-POINTING ANGLE " ++
    "QUOTATION MARK|SINGLE RIGHT-POINTING ANGLE QUOTATION MARK|REFERENCE MARK|DOUBLE " ++
    "EXCLAMATION MARK|INTERROBANG|OVERLINE|UNDERTIE|CHARACTER TIE|CARET INSERTION POINT|" ++
    "ASTERISM|HYPHEN BULLET|FRACTION SLASH|LEFT SQUARE BRACKET WITH QUILL|RIGHT SQUARE " ++
    "BRACKET WITH QUILL|DOUBLE QUESTION MARK|QUESTION EXCLAMATION MARK|EXCLAMATION QUESTION " ++
    "MARK|TIRONIAN SIGN ET|REVERSED PILCROW SIGN|BLACK LEFTWARDS BULLET|BLACK RIGHTWARDS " ++
    "BULLET|LOW ASTERISK|REVERSED SEMICOLON|CLOSE UP|TWO ASTERISKS ALIGNED VERTICALLY|" ++
    "COMMERCIAL MINUS SIGN|SWUNG DASH|INVERTED UNDERTIE|FLOWER PUNCTUATION MARK|THREE DOT " ++
    "PUNCTUATION|QUADRUPLE PRIME|FOUR DOT PUNCTUATION|FIVE DOT PUNCTUATION|TWO DOT " ++
    "PUNCTUATION|FOUR DOT MARK|DOTTED CROSS|TRICOLON|VERTICAL FOUR DOTS|MEDIUM MATHEMATICAL " ++
    "SPACE|WORD JOINER|FUNCTION APPLICATION"),
  (0x2062, "INVISIBLE ", "TIMES|SEPARATOR|PLUS"),
  (0x2066, "", "LEFT-TO-RIGHT ISOLATE|RIGHT-TO-LEFT ISOLATE|FIRST STRONG ISOLATE|POP " ++
    "DIRECTIONAL ISOLATE|INHIBIT SYMMETRIC SWAPPING|ACTIVATE SYMMETRIC SWAPPING|INHIBIT " ++
    "ARABIC FORM SHAPING|ACTIVATE ARABIC FORM SHAPING|NATIONAL DIGIT SHAPES|NOMINAL DIGIT " ++
    "SHAPES"),
  (0x2070, "SUPERSCRIPT ", "ZERO|LATIN SMALL LETTER I|||FOUR|FIVE|SIX|SEVEN|EIGHT|NINE|PLUS " ++
    "SIGN|MINUS|EQUALS SIGN|LEFT PARENTHESIS|RIGHT PARENTHESIS|LATIN SMALL LETTER N"),
  (0x2080, "SUBSCRIPT ", "ZERO|ONE|TWO|THREE|FOUR|FIVE|SIX|SEVEN|EIGHT|NINE|PLUS SIGN|MINUS|" ++
    "EQUALS SIGN|LEFT PARENTHESIS|RIGHT PARENTHESIS"),
  (0x2090, "LATIN SUBSCRIPT SMALL LETTER ", "A|E|O|X|SCHWA|H|K|L|M|N|P|S|T"),
  (0x20A0, "", "EURO-CURRENCY SIGN|COLON SIGN|CRUZEIRO SIGN|FRENCH FRANC SIGN|LIRA SIGN|MILL " ++
    "SIGN|NAIRA SIGN|PESETA SIGN|RUPEE SIGN|WON SIGN|NEW SHEQEL SIGN|DONG SIGN|EURO SIGN|KIP " ++
    "SIGN|TUGRIK SIGN|DRACHMA SIGN|GERMAN PENNY SIGN|PESO SIGN|GUARANI SIGN|AUSTRAL SIGN|" ++
    "HRYVNIA SIGN|CEDI SIGN|LIVRE TOURNOIS SIGN|SPESMILO SIGN|TENGE SIGN|INDIAN RUPEE SIGN|" ++
    "TURKISH LIRA SIGN|NORDIC MARK SIGN|MANAT SIGN|RUBLE SIGN|LARI SIGN|BITCOIN SIGN|SOM SIGN"),
  (0x20D0, "COMBINING ", "LEFT HARPOON ABOVE|RIGHT HARPOON ABOVE|LONG VERTICAL LINE OVERLAY|" ++
    "SHORT VERTICAL LINE OVERLAY|ANTICLOCKWISE ARROW ABOVE|CLOCKWISE ARROW ABOVE|LEFT ARROW " ++
    "ABOVE|RIGHT ARROW ABOVE|RING OVERLAY|CLOCKWISE RING OVERLAY|ANTICLOCKWISE RING OVERLAY|" ++
    "THREE DOTS ABOVE|FOUR DOTS ABOVE|ENCLOSING CIRCLE|ENCLOSING SQUARE|ENCLOSING DIAMOND|" ++
    "ENCLOSING CIRCLE BACKSLASH|LEFT RIGHT ARROW ABOVE|ENCLOSING SCREEN|ENCLOSING KEYCAP|" ++
    "ENCLOSING UPWARD POINTING TRIANGLE|REVERSE SOLIDUS OVERLAY|DOUBLE VERTICAL STROKE " ++
    "OVERLAY|ANNUITY SYMBOL|TRIPLE UNDERDOT|WIDE BRIDGE ABOVE|LEFTWARDS ARROW OVERLAY|LONG " ++
    "DOUBLE SOLIDUS OVERLAY|RIGHTWARDS HARPOON WITH BARB DOWNWARDS|LEFTWARDS HARPOON WITH " ++
    "BARB DOWNWARDS|LEFT ARROW BELOW|RIGHT ARROW BELOW|ASTERISK ABOVE"),
  (0x2100, "", "ACCOUNT OF|ADDRESSED TO THE SUBJECT|DOUBLE-STRUCK CAPITAL C|DEGREE CELSIUS|" ++
    "CENTRE LINE SYMBOL|CARE OF|CADA UNA|EULER CONSTANT|SCRUPLE|DEGREE FAHRENHEIT|SCRIPT " ++
    "SMALL G|SCRIPT CAPITAL H|BLACK-LETTER CAPITAL H|DOUBLE-STRUCK CAPITAL H|PLANCK CONSTANT|" ++
    "PLANCK CONSTANT OVER TWO PI|SCRIPT CAPITAL I|BLACK-LETTER CAPITAL I|SCRIPT CAPITAL L|" ++
    "SCRIPT SMALL L|L B BAR SYMBOL|DOUBLE-STRUCK CAPITAL N|NUMERO SIGN"),
  (0x2117, "SOUND RECORDING COPY", "RIGHT"),
  (0x2118, "", "SCRIPT CAPITAL P"),
  (0x2119, "DOUBLE-STRUCK CAPITAL ", "P|Q"),
  (0x211B, "", "SCRIPT CAPITAL R|BLACK-LETTER CAPITAL R|DOUBLE-STRUCK CAPITAL R|PRESCRIPTION " ++
    "TAKE|RESPONSE|SERVICE MARK|TELEPHONE SIGN|TRADE MARK SIGN|VERSICLE|DOUBLE-STRUCK CAPITAL " ++
    "Z|OUNCE SIGN|OHM SIGN|INVERTED OHM SIGN|BLACK-LETTER CAPITAL Z|TURNED GREEK SMALL LETTER " ++
    "IOTA|KELVIN SIGN|ANGSTROM SIGN|SCRIPT CAPITAL B|BLACK-LETTER CAPITAL C|ESTIMATED SYMBOL|" ++
    "SCRIPT SMALL E|SCRIPT CAPITAL E|SCRIPT CAPITAL F|TURNED CAPITAL F|SCRIPT CAPITAL M|" ++
    "SCRIPT SMALL O|ALEF SYMBOL|BET SYMBOL|GIMEL SYMBOL|DALET SYMBOL|INFORMATION SOURCE|" ++
    "ROTATED CAPITAL Q|FACSIMILE SIGN"),
  (0x213C, "DOUBLE-STRUCK ", "SMALL PI|SMALL GAMMA|CAPITAL GAMMA|CAPITAL PI|N-ARY SUMMATION"),
  (0x2141, "TURNED SANS-SERIF CAPITAL ", "G|L"),
  (0x2143, "", "REVERSED SANS-SERIF CAPITAL L|TURNED SANS-SERIF CAPITAL Y"),
  (0x2145, "DOUBLE-STRUCK ITALIC ", "CAPITAL D|SMALL D|SMALL E|SMALL I|SMALL J"),
  (0x214A, "", "PROPERTY LINE|TURNED AMPERSAND|PER SIGN|AKTIESELSKAB|TURNED SMALL F|SYMBOL " ++
    "FOR SAMARITAN SOURCE"),
  (0x2150, "VULGAR FRACTION ", "ONE SEVENTH|ONE NINTH|ONE TENTH|ONE THIRD|TWO THIRDS|ONE " ++
    "FIFTH|TWO FIFTHS|THREE FIFTHS|FOUR FIFTHS|ONE SIXTH|FIVE SIXTHS|ONE EIGHTH|THREE EIGHTHS|" ++
    "FIVE EIGHTHS|SEVEN EIGHTHS"),
  (0x215F, "", "FRACTION NUMERATOR ONE"),
  (0x2160, "ROMAN NUMERAL ", "ONE|TWO|THREE|FOUR|FIVE|SIX|SEVEN|EIGHT|NINE|TEN|ELEVEN|TWELVE|" ++
    "FIFTY|ONE HUNDRED|FIVE HUNDRED|ONE THOUSAND"),
  (0x2170, "SMALL ROMAN NUMERAL ", "ONE|TWO|THREE|FOUR|FIVE|SIX|SEVEN|EIGHT|NINE|TEN|ELEVEN|" ++
    "TWELVE|FIFTY|ONE HUNDRED|FIVE HUNDRED|ONE THOUSAND"),
  (0x2180, "ROMAN NUMERAL ", "ONE THOUSAND C D|FIVE THOUSAND|TEN THOUSAND|REVERSED ONE HUNDRED"),
  (0x2184, "", "LATIN SMALL LETTER REVERSED C"),
  (0x2185, "ROMAN NUMERAL ", "SIX LATE FORM|FIFTY EARLY FORM|FIFTY THOUSAND|ONE HUNDRED " ++
    "THOUSAND"),
  (0x2189, "", "VULGAR FRACTION ZERO THIRDS"),
  (0x218A, "TURNED DIGIT ", "TWO|THREE")]

def arrowNames : List NameGroup := [
  (0x2190, "", "LEFTWARDS ARROW|UPWARDS ARROW|RIGHTWARDS ARROW|DOWNWARDS ARROW|LEFT RIGHT " ++
    "ARROW|UP DOWN ARROW|NORTH WEST ARROW|NORTH EAST ARROW|SOUTH EAST ARROW|SOUTH WEST ARROW|" ++
    "LEFTWARDS ARROW WITH STROKE|RIGHTWARDS ARROW WITH STROKE|LEFTWARDS WAVE ARROW|RIGHTWARDS " ++
    "WAVE ARROW|LEFTWARDS TWO HEADED ARROW|UPWARDS TWO HEADED ARROW|RIGHTWARDS TWO HEADED " ++
    "ARROW|DOWNWARDS TWO HEADED ARROW|LEFTWARDS ARROW WITH TAIL|RIGHTWARDS ARROW WITH TAIL|" ++
    "LEFTWARDS ARROW FROM BAR|UPWARDS ARROW FROM BAR|RIGHTWARDS ARROW FROM BAR|DOWNWARDS " ++
    "ARROW FROM BAR|UP DOWN ARROW WITH BASE|LEFTWARDS ARROW WITH HOOK|RIGHTWARDS ARROW WITH " ++
    "HOOK|LEFTWARDS ARROW WITH LOOP|RIGHTWARDS ARROW WITH LOOP|LEFT RIGHT WAVE ARROW|LEFT " ++
    "RIGHT ARROW WITH STROKE|DOWNWARDS ZIGZAG ARROW"),
  (0x21B0, "UPWARDS ARROW WITH TIP ", "LEFTWARDS|RIGHTWARDS"),
  (0x21B2, "DOWNWARDS ARROW WITH TIP ", "LEFTWARDS|RIGHTWARDS"),
  (0x21B4, "", "RIGHTWARDS ARROW WITH CORNER DOWNWARDS|DOWNWARDS ARROW WITH CORNER LEFTWARDS|" ++
    "ANTICLOCKWISE TOP SEMICIRCLE ARROW|CLOCKWISE TOP SEMICIRCLE ARROW|NORTH WEST ARROW TO " ++
    "LONG BAR|LEFTWARDS ARROW TO BAR OVER RIGHTWARDS ARROW TO BAR|ANTICLOCKWISE OPEN CIRCLE " ++
    "ARROW|CLOCKWISE OPEN CIRCLE ARROW"),
  (0x21BC, "LEFTWARDS HARPOON WITH BARB ", "UPWARDS|DOWNWARDS"),
  (0x21BE, "UPWARDS HARPOON WITH BARB ", "RIGHTWARDS|LEFTWARDS"),
  (0x21C0, "RIGHTWARDS HARPOON WITH BARB ", "UPWARDS|DOWNWARDS"),
  (0x21C2, "DOWNWARDS HARPOON WITH BARB ", "RIGHTWARDS|LEFTWARDS"),
  (0x21C4, "", "RIGHTWARDS ARROW OVER LEFTWARDS ARROW|UPWARDS ARROW LEFTWARDS OF DOWNWARDS " ++
    "ARROW|LEFTWARDS ARROW OVER RIGHTWARDS ARROW|LEFTWARDS PAIRED ARROWS|UPWARDS PAIRED " ++
    "ARROWS|RIGHTWARDS PAIRED ARROWS|DOWNWARDS PAIRED ARROWS|LEFTWARDS HARPOON OVER " ++
    "RIGHTWARDS HARPOON|RIGHTWARDS HARPOON OVER LEFTWARDS HARPOON|LEFTWARDS DOUBLE ARROW WITH " ++
    "STROKE|LEFT RIGHT DOUBLE ARROW WITH STROKE|RIGHTWARDS DOUBLE ARROW WITH STROKE|LEFTWARDS " ++
    "DOUBLE ARROW|UPWARDS DOUBLE ARROW|RIGHTWARDS DOUBLE ARROW|DOWNWARDS DOUBLE ARROW|LEFT " ++
    "RIGHT DOUBLE ARROW|UP DOWN DOUBLE ARROW|NORTH WEST DOUBLE ARROW|NORTH EAST DOUBLE ARROW|" ++
    "SOUTH EAST DOUBLE ARROW|SOUTH WEST DOUBLE ARROW|LEFTWARDS TRIPLE ARROW|RIGHTWARDS TRIPLE " ++
    "ARROW|LEFTWARDS SQUIGGLE ARROW|RIGHTWARDS SQUIGGLE ARROW|UPWARDS ARROW WITH DOUBLE " ++
    "STROKE|DOWNWARDS ARROW WITH DOUBLE STROKE|LEFTWARDS DASHED ARROW|UPWARDS DASHED ARROW|" ++
    "RIGHTWARDS DASHED ARROW|DOWNWARDS DASHED ARROW|LEFTWARDS ARROW TO BAR|RIGHTWARDS ARROW " ++
    "TO BAR|LEFTWARDS WHITE ARROW|UPWARDS WHITE ARROW|RIGHTWARDS WHITE ARROW|DOWNWARDS WHITE " ++
    "ARROW"),
  (0x21EA, "UPWARDS WHITE ARROW ", "FROM BAR|ON PEDESTAL|ON PEDESTAL WITH HORIZONTAL BAR|ON " ++
    "PEDESTAL WITH VERTICAL BAR"),
  (0x21EE, "UPWARDS WHITE DOUBLE ", "ARROW|ARROW ON PEDESTAL"),
  (0x21F0, "", "RIGHTWARDS WHITE ARROW FROM WALL|NORTH WEST ARROW TO CORNER|SOUTH EAST ARROW " ++
    "TO CORNER|UP DOWN WHITE ARROW|RIGHT ARROW WITH SMALL CIRCLE|DOWNWARDS ARROW LEFTWARDS OF " ++
    "UPWARDS ARROW|THREE RIGHTWARDS ARROWS|LEFTWARDS ARROW WITH VERTICAL STROKE|RIGHTWARDS " ++
    "ARROW WITH VERTICAL STROKE|LEFT RIGHT ARROW WITH VERTICAL STROKE|LEFTWARDS ARROW WITH " ++
    "DOUBLE VERTICAL STROKE|RIGHTWARDS ARROW WITH DOUBLE VERTICAL STROKE|LEFT RIGHT ARROW " ++
    "WITH DOUBLE VERTICAL STROKE|LEFTWARDS OPEN-HEADED ARROW|RIGHTWARDS OPEN-HEADED ARROW|" ++
    "LEFT RIGHT OPEN-HEADED ARROW|FOR ALL|COMPLEMENT|PARTIAL DIFFERENTIAL|THERE EXISTS|THERE " ++
    "DOES NOT EXIST|EMPTY SET|INCREMENT|NABLA|ELEMENT OF|NOT AN ELEMENT OF|SMALL ELEMENT OF|" ++
    "CONTAINS AS MEMBER|DOES NOT CONTAIN AS MEMBER|SMALL CONTAINS AS MEMBER|END OF PROOF|" ++
    "N-ARY PRODUCT|N-ARY COPRODUCT|N-ARY SUMMATION|MINUS SIGN|MINUS-OR-PLUS SIGN|DOT PLUS|" ++
    "DIVISION SLASH|SET MINUS|ASTERISK OPERATOR|RING OPERATOR|BULLET OPERATOR|SQUARE ROOT|" ++
    "CUBE ROOT|FOURTH ROOT|PROPORTIONAL TO|INFINITY|RIGHT ANGLE|ANGLE|MEASURED ANGLE|" ++
    "SPHERICAL ANGLE|DIVIDES|DOES NOT DIVIDE|PARALLEL TO|NOT PARALLEL TO|LOGICAL AND|LOGICAL " ++
    "OR|INTERSECTION|UNION|INTEGRAL|DOUBLE INTEGRAL|TRIPLE INTEGRAL|CONTOUR INTEGRAL|SURFACE " ++
    "INTEGRAL|VOLUME INTEGRAL|CLOCKWISE INTEGRAL|CLOCKWISE CONTOUR INTEGRAL|ANTICLOCKWISE " ++
    "CONTOUR INTEGRAL|THEREFORE|BECAUSE|RATIO|PROPORTION|DOT MINUS|EXCESS|GEOMETRIC " ++
    "PROPORTION|HOMOTHETIC|TILDE OPERATOR|REVERSED TILDE|INVERTED LAZY S|SINE WAVE|WREATH " ++
    "PRODUCT|NOT TILDE|MINUS TILDE|ASYMPTOTICALLY EQUAL TO|NOT ASYMPTOTICALLY EQUAL TO|" ++
    "APPROXIMATELY EQUAL TO|APPROXIMATELY BUT NOT ACTUALLY EQUAL TO|NEITHER APPROXIMATELY NOR " ++
    "ACTUALLY EQUAL TO|ALMOST EQUAL TO|NOT ALMOST EQUAL TO|ALMOST EQUAL OR EQUAL TO|TRIPLE " ++
    "TILDE|ALL EQUAL TO|EQUIVALENT TO|GEOMETRICALLY EQUIVALENT TO|DIFFERENCE BETWEEN|" ++
    "APPROACHES THE LIMIT|GEOMETRICALLY EQUAL TO|APPROXIMATELY EQUAL TO OR THE IMAGE OF|IMAGE " ++
    "OF OR APPROXIMATELY EQUAL TO|COLON EQUALS|EQUALS COLON|RING IN EQUAL TO|RING EQUAL TO|" ++
    "CORRESPONDS TO|ESTIMATES|EQUIANGULAR TO|STAR EQUALS|DELTA EQUAL TO|EQUAL TO BY " ++
    "DEFINITION|MEASURED BY|QUESTIONED EQUAL TO|NOT EQUAL TO|IDENTICAL TO|NOT IDENTICAL TO|" ++
    "STRICTLY EQUIVALENT TO|LESS-THAN OR EQUAL TO|GREATER-THAN OR EQUAL TO|LESS-THAN OVER " ++
    "EQUAL TO|GREATER-THAN OVER EQUAL TO|LESS-THAN BUT NOT EQUAL TO|GREATER-THAN BUT NOT " ++
    "EQUAL TO|MUCH LESS-THAN|MUCH GREATER-THAN|BETWEEN|NOT EQUIVALENT TO|NOT LESS-THAN|NOT " ++
    "GREATER-THAN|NEITHER LESS-THAN NOR EQUAL TO|NEITHER GREATER-THAN NOR EQUAL TO|LESS-THAN " ++
    "OR EQUIVALENT TO|GREATER-THAN OR EQUIVALENT TO|NEITHER LESS-THAN NOR EQUIVALENT TO|" ++
    "NEITHER GREATER-THAN NOR EQUIVALENT TO|LESS-THAN OR GREATER-THAN|GREATER-THAN OR " ++
    "LESS-THAN|NEITHER LESS-THAN NOR GREATER-THAN|NEITHER GREATER-THAN NOR LESS-THAN|PRECEDES|" ++
    "SUCCEEDS|PRECEDES OR EQUAL TO|SUCCEEDS OR EQUAL TO|PRECEDES OR EQUIVALENT TO|SUCCEEDS OR " ++
    "EQUIVALENT TO|DOES NOT PRECEDE|DOES NOT SUCCEED|SUBSET OF|SUPERSET OF|NOT A SUBSET OF|" ++
    "NOT A SUPERSET OF|SUBSET OF OR EQUAL TO|SUPERSET OF OR EQUAL TO|NEITHER A SUBSET OF NOR " ++
    "EQUAL TO|NEITHER A SUPERSET OF NOR EQUAL TO|SUBSET OF WITH NOT EQUAL TO|SUPERSET OF WITH " ++
    "NOT EQUAL TO|MULTISET|MULTISET MULTIPLICATION|MULTISET UNION"),
  (0x228F, "SQUARE ", "IMAGE OF||IMAGE OF OR EQUAL TO||CAP|CUP"),
  (0x2295, "CIRCLED ", "PLUS|MINUS|TIMES|DIVISION SLASH|DOT OPERATOR|RING OPERATOR|ASTERISK " ++
    "OPERATOR|EQUALS|DASH"),
  (0x229E, "SQUARED ", "PLUS|MINUS|TIMES|DOT OPERATOR"),
  (0x22A2, "", "RIGHT TACK|LEFT TACK|DOWN TACK|UP TACK|ASSERTION|MODELS|TRUE|FORCES|TRIPLE " ++
    "VERTICAL BAR RIGHT TURNSTILE|DOUBLE VERTICAL BAR DOUBLE RIGHT TURNSTILE|DOES NOT PROVE|" ++
    "NOT TRUE|DOES NOT FORCE|NEGATED DOUBLE VERTICAL BAR DOUBLE RIGHT TURNSTILE|PRECEDES " ++
    "UNDER RELATION|SUCCEEDS UNDER RELATION|NORMAL SUBGROUP OF|CONTAINS AS NORMAL SUBGROUP|" ++
    "NORMAL SUBGROUP OF OR EQUAL TO|CONTAINS AS NORMAL SUBGROUP OR EQUAL TO||IMAGE OF|" ++
    "MULTIMAP|HERMITIAN CONJUGATE MATRIX|INTERCALATE|XOR|NAND|NOR|RIGHT ANGLE WITH ARC|RIGHT " ++
    "TRIANGLE|N-ARY LOGICAL AND|N-ARY LOGICAL OR|N-ARY INTERSECTION|N-ARY UNION|DIAMOND " ++
    "OPERATOR|DOT OPERATOR|STAR OPERATOR|DIVISION TIMES|BOWTIE|LEFT NORMAL FACTOR SEMIDIRECT " ++
    "PRODUCT|RIGHT NORMAL FACTOR SEMIDIRECT PRODUCT|LEFT SEMIDIRECT PRODUCT|RIGHT SEMIDIRECT " ++
    "PRODUCT|REVERSED TILDE EQUALS"),
  (0x22CE, "CURLY LOGICAL ", "OR|AND"),
  (0x22D0, "DOUBLE ", "SUBSET|SUPERSET|INTERSECTION|UNION"),
  (0x22D4, "", "PITCHFORK|EQUAL AND PARALLEL TO|LESS-THAN WITH DOT|GREATER-THAN WITH DOT|VERY " ++
    "MUCH LESS-THAN|VERY MUCH GREATER-THAN|LESS-THAN EQUAL TO OR GREATER-THAN|GREATER-THAN " ++
    "EQUAL TO OR LESS-THAN"),
  (0x22DC, "EQUAL TO OR ", "LESS-THAN|GREATER-THAN|PRECEDES|SUCCEEDS"),
  (0x22E0, "", "DOES NOT PRECEDE OR EQUAL|DOES NOT SUCCEED OR EQUAL|NOT SQUARE IMAGE OF OR " ++
    "EQUAL TO||SQUARE IMAGE OF OR NOT EQUAL TO||LESS-THAN BUT NOT EQUIVALENT TO|GREATER-THAN " ++
    "BUT NOT EQUIVALENT TO|PRECEDES BUT NOT EQUIVALENT TO|SUCCEEDS BUT NOT EQUIVALENT TO|NOT " ++
    "NORMAL SUBGROUP OF|DOES NOT CONTAIN AS NORMAL SUBGROUP|NOT NORMAL SUBGROUP OF OR EQUAL " ++
    "TO|DOES NOT CONTAIN AS NORMAL SUBGROUP OR EQUAL|VERTICAL ELLIPSIS|MIDLINE HORIZONTAL " ++
    "ELLIPSIS|UP RIGHT DIAGONAL ELLIPSIS|DOWN RIGHT DIAGONAL ELLIPSIS|ELEMENT OF WITH LONG " ++
    "HORIZONTAL STROKE|ELEMENT OF WITH VERTICAL BAR AT END OF HORIZONTAL STROKE|SMALL ELEMENT " ++
    "OF WITH VERTICAL BAR AT END OF HORIZONTAL STROKE|ELEMENT OF WITH DOT ABOVE|ELEMENT OF " ++
    "WITH OVERBAR|SMALL ELEMENT OF WITH OVERBAR"),
  (0x22F8, "ELEMENT OF WITH ", "UNDERBAR|TWO HORIZONTAL STROKES"),
  (0x22FA, "CONTAINS WITH ", "LONG HORIZONTAL STROKE|VERTICAL BAR AT END OF HORIZONTAL STROKE"),
  (0x22FC, "", "SMALL CONTAINS WITH VERTICAL BAR AT END OF HORIZONTAL STROKE|CONTAINS WITH " ++
    "OVERBAR|SMALL CONTAINS WITH OVERBAR|Z NOTATION BAG MEMBERSHIP|DIAMETER SIGN|ELECTRIC " ++
    "ARROW|HOUSE|UP ARROWHEAD|DOWN ARROWHEAD|PROJECTIVE|PERSPECTIVE|WAVY LINE|LEFT CEILING|" ++
    "RIGHT CEILING|LEFT FLOOR|RIGHT FLOOR|BOTTOM RIGHT CROP|BOTTOM LEFT CROP|TOP RIGHT CROP|" ++
    "TOP LEFT CROP|REVERSED NOT SIGN|SQUARE LOZENGE|ARC|SEGMENT|SECTOR|TELEPHONE RECORDER|" ++
    "POSITION INDICATOR|VIEWDATA SQUARE|PLACE OF INTEREST SIGN|TURNED NOT SIGN|WATCH|" ++
    "HOURGLASS|TOP LEFT CORNER|TOP RIGHT CORNER|BOTTOM LEFT CORNER|BOTTOM RIGHT CORNER|TOP " ++
    "HALF INTEGRAL|BOTTOM HALF INTEGRAL|FROWN|SMILE|UP ARROWHEAD BETWEEN TWO HORIZONTAL BARS|" ++
    "OPTION KEY|ERASE TO THE RIGHT|X IN A RECTANGLE BOX|KEYBOARD|LEFT-POINTING ANGLE BRACKET|" ++
    "RIGHT-POINTING ANGLE BRACKET|ERASE TO THE LEFT|BENZENE RING|CYLINDRICITY|ALL " ++
    "AROUND-PROFILE|SYMMETRY|TOTAL RUNOUT|DIMENSION ORIGIN|CONICAL TAPER|SLOPE|COUNTERBORE|" ++
    "COUNTERSINK")]

def technicalNames : List NameGroup := [
  (0x2336, "APL FUNCTIONAL SYMBOL ", "I-BEAM|SQUISH QUAD|QUAD EQUAL|QUAD DIVIDE|QUAD DIAMOND|" ++
    "QUAD JOT|QUAD CIRCLE|CIRCLE STILE|CIRCLE JOT|SLASH BAR|BACKSLASH BAR|QUAD SLASH|QUAD " ++
    "BACKSLASH|QUAD LESS-THAN|QUAD GREATER-THAN|LEFTWARDS VANE|RIGHTWARDS VANE|QUAD LEFTWARDS " ++
    "ARROW|QUAD RIGHTWARDS ARROW|CIRCLE BACKSLASH|DOWN TACK UNDERBAR|DELTA STILE|QUAD DOWN " ++
    "CARET|QUAD DELTA|DOWN TACK JOT|UPWARDS VANE|QUAD UPWARDS ARROW|UP TACK OVERBAR|DEL STILE|" ++
    "QUAD UP CARET|QUAD DEL|UP TACK JOT|DOWNWARDS VANE|QUAD DOWNWARDS ARROW|QUOTE UNDERBAR|" ++
    "DELTA UNDERBAR|DIAMOND UNDERBAR|JOT UNDERBAR|CIRCLE UNDERBAR|UP SHOE JOT|QUOTE QUAD|" ++
    "CIRCLE STAR|QUAD COLON|UP TACK DIAERESIS|DEL DIAERESIS|STAR DIAERESIS|JOT DIAERESIS|" ++
    "CIRCLE DIAERESIS|DOWN SHOE STILE|LEFT SHOE STILE|TILDE DIAERESIS|GREATER-THAN DIAERESIS|" ++
    "COMMA BAR|DEL TILDE|ZILDE|STILE TILDE|SEMICOLON UNDERBAR|QUAD NOT EQUAL|QUAD QUESTION|" ++
    "DOWN CARET TILDE|UP CARET TILDE|IOTA|RHO|OMEGA|ALPHA UNDERBAR|EPSILON UNDERBAR|IOTA " ++
    "UNDERBAR|OMEGA UNDERBAR|ALPHA"),
  (0x237B, "", "NOT CHECK MARK|RIGHT ANGLE WITH DOWNWARDS ZIGZAG ARROW|SHOULDERED OPEN BOX|" ++
    "BELL SYMBOL|VERTICAL LINE WITH MIDDLE DOT|INSERTION SYMBOL|CONTINUOUS UNDERLINE SYMBOL|" ++
    "DISCONTINUOUS UNDERLINE SYMBOL|EMPHASIS SYMBOL|COMPOSITION SYMBOL|WHITE SQUARE WITH " ++
    "CENTRE VERTICAL LINE|ENTER SYMBOL|ALTERNATIVE KEY SYMBOL|HELM SYMBOL|CIRCLED HORIZONTAL " ++
    "BAR WITH NOTCH|CIRCLED TRIANGLE DOWN|BROKEN CIRCLE WITH NORTHWEST ARROW|UNDO SYMBOL|" ++
    "MONOSTABLE SYMBOL|HYSTERESIS SYMBOL"),
  (0x238F, "OPEN-CIRCUIT-OUTPUT ", "H-TYPE SYMBOL|L-TYPE SYMBOL"),
  (0x2391, "PASSIVE-PULL-", "DOWN-OUTPUT SYMBOL|UP-OUTPUT SYMBOL"),
  (0x2393, "", "DIRECT CURRENT SYMBOL FORM TWO|SOFTWARE-FUNCTION SYMBOL|APL FUNCTIONAL SYMBOL " ++
    "QUAD|DECIMAL SEPARATOR KEY SYMBOL|PREVIOUS PAGE|NEXT PAGE|PRINT SCREEN SYMBOL|CLEAR " ++
    "SCREEN SYMBOL"),
  (0x239B, "LEFT PARENTHESIS ", "UPPER HOOK|EXTENSION|LOWER HOOK"),
  (0x239E, "RIGHT PARENTHESIS ", "UPPER HOOK|EXTENSION|LOWER HOOK"),
  (0x23A1, "LEFT SQUARE BRACKET ", "UPPER CORNER|EXTENSION|LOWER CORNER"),
  (0x23A4, "RIGHT SQUARE BRACKET ", "UPPER CORNER|EXTENSION|LOWER CORNER"),
  (0x23A7, "LEFT CURLY BRACKET ", "UPPER HOOK|MIDDLE PIECE|LOWER HOOK"),
  (0x23AA, "", "CURLY BRACKET EXTENSION"),
  (0x23AB, "RIGHT CURLY BRACKET ", "UPPER HOOK|MIDDLE PIECE|LOWER HOOK"),
  (0x23AE, "", "INTEGRAL EXTENSION|HORIZONTAL LINE EXTENSION|UPPER LEFT OR LOWER RIGHT CURLY " ++
    "BRACKET SECTION|UPPER RIGHT OR LOWER LEFT CURLY BRACKET SECTION|SUMMATION TOP|SUMMATION " ++
    "BOTTOM|TOP SQUARE BRACKET|BOTTOM SQUARE BRACKET|BOTTOM SQUARE BRACKET OVER TOP SQUARE " ++
    "BRACKET|RADICAL SYMBOL BOTTOM|LEFT VERTICAL BOX LINE|RIGHT VERTICAL BOX LINE"),
  (0x23BA, "HORIZONTAL SCAN LINE-", "1|3|7|9"),
  (0x23BE, "DENTISTRY SYMBOL LIGHT ", "VERTICAL AND TOP RIGHT|VERTICAL AND BOTTOM RIGHT|" ++
    "VERTICAL WITH CIRCLE|DOWN AND HORIZONTAL WITH CIRCLE|UP AND HORIZONTAL WITH CIRCLE|" ++
    "VERTICAL WITH TRIANGLE|DOWN AND HORIZONTAL WITH TRIANGLE|UP AND HORIZONTAL WITH TRIANGLE|" ++
    "VERTICAL AND WAVE|DOWN AND HORIZONTAL WITH WAVE|UP AND HORIZONTAL WITH WAVE|DOWN AND " ++
    "HORIZONTAL|UP AND HORIZONTAL|VERTICAL AND TOP LEFT|VERTICAL AND BOTTOM LEFT"),
  (0x23CD, "", "SQUARE FOOT|RETURN SYMBOL|EJECT SYMBOL|VERTICAL LINE EXTENSION"),
  (0x23D1, "METRICAL ", "BREVE|LONG OVER SHORT|SHORT OVER LONG|LONG OVER TWO SHORTS|TWO " ++
    "SHORTS OVER LONG|TWO SHORTS JOINED|TRISEME|TETRASEME|PENTASEME"),
  (0x23DA, "", "EARTH GROUND|FUSE|TOP PARENTHESIS|BOTTOM PARENTHESIS|TOP CURLY BRACKET|BOTTOM " ++
    "CURLY BRACKET|TOP TORTOISE SHELL BRACKET|BOTTOM TORTOISE SHELL BRACKET|WHITE TRAPEZIUM|" ++
    "BENZENE RING WITH CIRCLE|STRAIGHTNESS|FLATNESS|AC CURRENT|ELECTRICAL INTERSECTION|" ++
    "DECIMAL EXPONENT SYMBOL"),
  (0x23E9, "BLACK ", "RIGHT-POINTING DOUBLE TRIANGLE|LEFT-POINTING DOUBLE TRIANGLE|" ++
    "UP-POINTING DOUBLE TRIANGLE|DOWN-POINTING DOUBLE TRIANGLE|RIGHT-POINTING DOUBLE TRIANGLE " ++
    "WITH VERTICAL BAR|LEFT-POINTING DOUBLE TRIANGLE WITH VERTICAL BAR|RIGHT-POINTING " ++
    "TRIANGLE WITH DOUBLE VERTICAL BAR"),
  (0x23F0, "", "ALARM CLOCK|STOPWATCH|TIMER CLOCK|HOURGLASS WITH FLOWING SAND"),
  (0x23F4, "BLACK MEDIUM ", "LEFT-POINTING TRIANGLE|RIGHT-POINTING TRIANGLE|UP-POINTING " ++
    "TRIANGLE|DOWN-POINTING TRIANGLE"),
  (0x23F8, "", "DOUBLE VERTICAL BAR|BLACK SQUARE FOR STOP|BLACK CIRCLE FOR RECORD|POWER " ++
    "SYMBOL|POWER ON-OFF SYMBOL|POWER ON SYMBOL|POWER SLEEP SYMBOL|OBSERVER EYE SYMBOL"),
  (0x2400, "SYMBOL FOR ", "NULL|START OF HEADING|START OF TEXT|END OF TEXT|END OF " ++
    "TRANSMISSION|ENQUIRY|ACKNOWLEDGE|BELL|BACKSPACE|HORIZONTAL TABULATION|LINE FEED|VERTICAL " ++
    "TABULATION|FORM FEED|CARRIAGE RETURN|SHIFT OUT|SHIFT IN|DATA LINK ESCAPE"),
  (0x2411, "SYMBOL FOR DEVICE CONTROL ", "ONE|TWO|THREE|FOUR"),
  (0x2415, "SYMBOL FOR ", "NEGATIVE ACKNOWLEDGE|SYNCHRONOUS IDLE|END OF TRANSMISSION BLOCK|" ++
    "CANCEL|END OF MEDIUM|SUBSTITUTE|ESCAPE|FILE SEPARATOR|GROUP SEPARATOR|RECORD SEPARATOR|" ++
    "UNIT SEPARATOR|SPACE|DELETE"),
  (0x2422, "", "BLANK SYMBOL|OPEN BOX"),
  (0x2424, "SYMBOL FOR ", "NEWLINE|DELETE FORM TWO|SUBSTITUTE FORM TWO"),
  (0x2440, "OCR ", "HOOK|CHAIR|FORK|INVERTED FORK|BELT BUCKLE|BOW TIE|BRANCH BANK " ++
    "IDENTIFICATION|AMOUNT OF CHECK|DASH|CUSTOMER ACCOUNT NUMBER|DOUBLE BACKSLASH"),
  (0x2460, "CIRCLED DIGIT ", "ONE|TWO|THREE|FOUR|FIVE|SIX|SEVEN|EIGHT|NINE"),
  (0x2469, "CIRCLED NUMBER ", "TEN|ELEVEN|TWELVE|THIRTEEN|FOURTEEN|FIFTEEN|SIXTEEN|SEVENTEEN|" ++
    "EIGHTEEN|NINETEEN|TWENTY"),
  (0x2474, "PARENTHESIZED DIGIT ", "ONE|TWO|THREE|FOUR|FIVE|SIX|SEVEN|EIGHT|NINE"),
  (0x247D, "PARENTHESIZED NUMBER ", "TEN|ELEVEN|TWELVE|THIRTEEN|FOURTEEN|FIFTEEN|SIXTEEN|" ++
    "SEVENTEEN|EIGHTEEN|NINETEEN|TWENTY"),
  (0x2488, "DIGIT ", "ONE FULL STOP|TWO FULL STOP|THREE FULL STOP|FOUR FULL STOP|FIVE FULL " ++
    "STOP|SIX FULL STOP|SEVEN FULL STOP|EIGHT FULL STOP|NINE FULL STOP"),
  (0x2491, "NUMBER ", "TEN FULL STOP|ELEVEN FULL STOP|TWELVE FULL STOP|THIRTEEN FULL STOP|" ++
    "FOURTEEN FULL STOP|FIFTEEN FULL STOP|SIXTEEN FULL STOP|SEVENTEEN FULL STOP|EIGHTEEN FULL " ++
    "STOP|NINETEEN FULL STOP|TWENTY FULL STOP"),
  (0x249C, "PARENTHESIZED LATIN SMALL LETTER ", "A|B|C|D|E|F|G|H|I|J|K|L|M|N|O|P|Q|R|S|T|U|V|" ++
    "W|X|Y|Z"),
  (0x24B6, "CIRCLED LATIN CAPITAL LETTER ", "A|B|C|D|E|F|G|H|I|J|K|L|M|N|O|P|Q|R|S|T|U|V|W|X|" ++
    "Y|Z"),
  (0x24D0, "CIRCLED LATIN SMALL LETTER ", "A|B|C|D|E|F|G|H|I|J|K|L|M|N|O|P|Q|R|S|T|U|V|W|X|Y|Z"),
  (0x24EA, "", "CIRCLED DIGIT ZERO"),
  (0x24EB, "NEGATIVE CIRCLED NUMBER ", "ELEVEN|TWELVE|THIRTEEN|FOURTEEN|FIFTEEN|SIXTEEN|" ++
    "SEVENTEEN|EIGHTEEN|NINETEEN|TWENTY"),
  (0x24F5, "DOUBLE CIRCLED DIGIT ", "ONE|TWO|THREE|FOUR|FIVE|SIX|SEVEN|EIGHT|NINE"),
  (0x24FE, "", "DOUBLE CIRCLED NUMBER TEN|NEGATIVE CIRCLED DIGIT ZERO"),
  (0x2500, "BOX DRAWINGS ", "LIGHT HORIZONTAL|HEAVY HORIZONTAL|LIGHT VERTICAL|HEAVY VERTICAL|" ++
    "LIGHT TRIPLE DASH HORIZONTAL|HEAVY TRIPLE DASH HORIZONTAL|LIGHT TRIPLE DASH VERTICAL|" ++
    "HEAVY TRIPLE DASH VERTICAL|LIGHT QUADRUPLE DASH HORIZONTAL|HEAVY QUADRUPLE DASH " ++
    "HORIZONTAL|LIGHT QUADRUPLE DASH VERTICAL|HEAVY QUADRUPLE DASH VERTICAL|LIGHT DOWN AND " ++
    "RIGHT|DOWN LIGHT AND RIGHT HEAVY|DOWN HEAVY AND RIGHT LIGHT|HEAVY DOWN AND RIGHT|LIGHT " ++
    "DOWN AND LEFT|DOWN LIGHT AND LEFT HEAVY|DOWN HEAVY AND LEFT LIGHT|HEAVY DOWN AND LEFT|" ++
    "LIGHT UP AND RIGHT|UP LIGHT AND RIGHT HEAVY|UP HEAVY AND RIGHT LIGHT|HEAVY UP AND RIGHT|" ++
    "LIGHT UP AND LEFT|UP LIGHT AND LEFT HEAVY|UP HEAVY AND LEFT LIGHT|HEAVY UP AND LEFT|" ++
    "LIGHT VERTICAL AND RIGHT|VERTICAL LIGHT AND RIGHT HEAVY|UP HEAVY AND RIGHT DOWN LIGHT|" ++
    "DOWN HEAVY AND RIGHT UP LIGHT|VERTICAL HEAVY AND RIGHT LIGHT|DOWN LIGHT AND RIGHT UP " ++
    "HEAVY|UP LIGHT AND RIGHT DOWN HEAVY|HEAVY VERTICAL AND RIGHT|LIGHT VERTICAL AND LEFT|" ++
    "VERTICAL LIGHT AND LEFT HEAVY|UP HEAVY AND LEFT DOWN LIGHT|DOWN HEAVY AND LEFT UP LIGHT|" ++
    "VERTICAL HEAVY AND LEFT LIGHT|DOWN LIGHT AND LEFT UP HEAVY|UP LIGHT AND LEFT DOWN HEAVY|" ++
    "HEAVY VERTICAL AND LEFT|LIGHT DOWN AND HORIZONTAL|LEFT HEAVY AND RIGHT DOWN LIGHT|RIGHT " ++
    "HEAVY AND LEFT DOWN LIGHT|DOWN LIGHT AND HORIZONTAL HEAVY|DOWN HEAVY AND HORIZONTAL " ++
    "LIGHT|RIGHT LIGHT AND LEFT DOWN HEAVY|LEFT LIGHT AND RIGHT DOWN HEAVY|HEAVY DOWN AND " ++
    "HORIZONTAL|LIGHT UP AND HORIZONTAL|LEFT HEAVY AND RIGHT UP LIGHT|RIGHT HEAVY AND LEFT UP " ++
    "LIGHT|UP LIGHT AND HORIZONTAL HEAVY|UP HEAVY AND HORIZONTAL LIGHT|RIGHT LIGHT AND LEFT " ++
    "UP HEAVY|LEFT LIGHT AND RIGHT UP HEAVY|HEAVY UP AND HORIZONTAL|LIGHT VERTICAL AND " ++
    "HORIZONTAL|LEFT HEAVY AND RIGHT VERTICAL LIGHT|RIGHT HEAVY AND LEFT VERTICAL LIGHT|" ++
    "VERTICAL LIGHT AND HORIZONTAL HEAVY|UP HEAVY AND DOWN HORIZONTAL LIGHT|DOWN HEAVY AND UP " ++
    "HORIZONTAL LIGHT|VERTICAL HEAVY AND HORIZONTAL LIGHT|LEFT UP HEAVY AND RIGHT DOWN LIGHT|" ++
    "RIGHT UP HEAVY AND LEFT DOWN LIGHT|LEFT DOWN HEAVY AND RIGHT UP LIGHT|RIGHT DOWN HEAVY " ++
    "AND LEFT UP LIGHT|DOWN LIGHT AND UP HORIZONTAL HEAVY|UP LIGHT AND DOWN HORIZONTAL HEAVY|" ++
    "RIGHT LIGHT AND LEFT VERTICAL HEAVY|LEFT LIGHT AND RIGHT VERTICAL HEAVY|HEAVY VERTICAL " ++
    "AND HORIZONTAL|LIGHT DOUBLE DASH HORIZONTAL|HEAVY DOUBLE DASH HORIZONTAL|LIGHT DOUBLE " ++
    "DASH VERTICAL|HEAVY DOUBLE DASH VERTICAL|DOUBLE HORIZONTAL|DOUBLE VERTICAL|DOWN SINGLE " ++
    "AND RIGHT DOUBLE|DOWN DOUBLE AND RIGHT SINGLE|DOUBLE DOWN AND RIGHT|DOWN SINGLE AND LEFT " ++
    "DOUBLE|DOWN DOUBLE AND LEFT SINGLE|DOUBLE DOWN AND LEFT|UP SINGLE AND RIGHT DOUBLE|UP " ++
    "DOUBLE AND RIGHT SINGLE|DOUBLE UP AND RIGHT|UP SINGLE AND LEFT DOUBLE|UP DOUBLE AND LEFT " ++
    "SINGLE|DOUBLE UP AND LEFT|VERTICAL SINGLE AND RIGHT DOUBLE|VERTICAL DOUBLE AND RIGHT " ++
    "SINGLE|DOUBLE VERTICAL AND RIGHT|VERTICAL SINGLE AND LEFT DOUBLE|VERTICAL DOUBLE AND " ++
    "LEFT SINGLE|DOUBLE VERTICAL AND LEFT|DOWN SINGLE AND HORIZONTAL DOUBLE|DOWN DOUBLE AND " ++
    "HORIZONTAL SINGLE|DOUBLE DOWN AND HORIZONTAL|UP SINGLE AND HORIZONTAL DOUBLE|UP DOUBLE " ++
    "AND HORIZONTAL SINGLE|DOUBLE UP AND HORIZONTAL|VERTICAL SINGLE AND HORIZONTAL DOUBLE|" ++
    "VERTICAL DOUBLE AND HORIZONTAL SINGLE|DOUBLE VERTICAL AND HORIZONTAL"),
  (0x256D, "BOX DRAWINGS LIGHT ", "ARC DOWN AND RIGHT|ARC DOWN AND LEFT|ARC UP AND LEFT|ARC " ++
    "UP AND RIGHT|DIAGONAL UPPER RIGHT TO LOWER LEFT|DIAGONAL UPPER LEFT TO LOWER RIGHT|" ++
    "DIAGONAL CROSS|LEFT|UP|RIGHT|DOWN"),
  (0x2578, "BOX DRAWINGS ", "HEAVY LEFT|HEAVY UP|HEAVY RIGHT|HEAVY DOWN|LIGHT LEFT AND HEAVY " ++
    "RIGHT|LIGHT UP AND HEAVY DOWN|HEAVY LEFT AND LIGHT RIGHT|HEAVY UP AND LIGHT DOWN"),
  (0x2580, "", "UPPER HALF BLOCK"),
  (0x2581, "LOWER ", "ONE EIGHTH BLOCK|ONE QUARTER BLOCK|THREE EIGHTHS BLOCK|HALF BLOCK|FIVE " ++
    "EIGHTHS BLOCK|THREE QUARTERS BLOCK|SEVEN EIGHTHS BLOCK"),
  (0x2588, "", "FULL BLOCK"),
  (0x2589, "LEFT ", "SEVEN EIGHTHS BLOCK|THREE QUARTERS BLOCK|FIVE EIGHTHS BLOCK|HALF BLOCK|" ++
    "THREE EIGHTHS BLOCK|ONE QUARTER BLOCK|ONE EIGHTH BLOCK"),
  (0x2590, "", "RIGHT HALF BLOCK|LIGHT SHADE|MEDIUM SHADE|DARK SHADE|UPPER ONE EIGHTH BLOCK|" ++
    "RIGHT ONE EIGHTH BLOCK"),
  (0x2596, "QUADRANT LOWER ", "LEFT|RIGHT"),
  (0x2598, "QUADRANT UPPER ", "LEFT|LEFT AND LOWER LEFT AND LOWER RIGHT|LEFT AND LOWER RIGHT|" ++
    "LEFT AND UPPER RIGHT AND LOWER LEFT|LEFT AND UPPER RIGHT AND LOWER RIGHT|RIGHT|RIGHT AND " ++
    "LOWER LEFT|RIGHT AND LOWER LEFT AND LOWER RIGHT"),
  (0x25A0, "", "BLACK SQUARE|WHITE SQUARE"),
  (0x25A2, "WHITE SQUARE ", "WITH ROUNDED CORNERS|CONTAINING BLACK SMALL SQUARE"),
  (0x25A4, "SQUARE WITH ", "HORIZONTAL FILL|VERTICAL FILL|ORTHOGONAL CROSSHATCH FILL|UPPER " ++
    "LEFT TO LOWER RIGHT FILL|UPPER RIGHT TO LOWER LEFT FILL|DIAGONAL CROSSHATCH FILL"),
  (0x25AA, "", "BLACK SMALL SQUARE|WHITE SMALL SQUARE|BLACK RECTANGLE|WHITE RECTANGLE|BLACK " ++
    "VERTICAL RECTANGLE|WHITE VERTICAL RECTANGLE|BLACK PARALLELOGRAM|WHITE PARALLELOGRAM|" ++
    "BLACK UP-POINTING TRIANGLE|WHITE UP-POINTING TRIANGLE|BLACK UP-POINTING SMALL TRIANGLE|" ++
    "WHITE UP-POINTING SMALL TRIANGLE|BLACK RIGHT-POINTING TRIANGLE|WHITE RIGHT-POINTING " ++
    "TRIANGLE|BLACK RIGHT-POINTING SMALL TRIANGLE|WHITE RIGHT-POINTING SMALL TRIANGLE|BLACK " ++
    "RIGHT-POINTING POINTER|WHITE RIGHT-POINTING POINTER|BLACK DOWN-POINTING TRIANGLE|WHITE " ++
    "DOWN-POINTING TRIANGLE|BLACK DOWN-POINTING SMALL TRIANGLE|WHITE DOWN-POINTING SMALL " ++
    "TRIANGLE|BLACK LEFT-POINTING TRIANGLE|WHITE LEFT-POINTING TRIANGLE|BLACK LEFT-POINTING " ++
    "SMALL TRIANGLE|WHITE LEFT-POINTING SMALL TRIANGLE|BLACK LEFT-POINTING POINTER|WHITE " ++
    "LEFT-POINTING POINTER|BLACK DIAMOND|WHITE DIAMOND|WHITE DIAMOND CONTAINING BLACK SMALL " ++
    "DIAMOND|FISHEYE|LOZENGE|WHITE CIRCLE|DOTTED CIRCLE|CIRCLE WITH VERTICAL FILL|BULLSEYE|" ++
    "BLACK CIRCLE"),
  (0x25D0, "CIRCLE WITH ", "LEFT HALF BLACK|RIGHT HALF BLACK|LOWER HALF BLACK|UPPER HALF " ++
    "BLACK|UPPER RIGHT QUADRANT BLACK|ALL BUT UPPER LEFT QUADRANT BLACK"),
  (0x25D6, "", "LEFT HALF BLACK CIRCLE|RIGHT HALF BLACK CIRCLE|INVERSE BULLET|INVERSE WHITE " ++
    "CIRCLE|UPPER HALF INVERSE WHITE CIRCLE|LOWER HALF INVERSE WHITE CIRCLE|UPPER LEFT " ++
    "QUADRANT CIRCULAR ARC|UPPER RIGHT QUADRANT CIRCULAR ARC|LOWER RIGHT QUADRANT CIRCULAR " ++
    "ARC|LOWER LEFT QUADRANT CIRCULAR ARC|UPPER HALF CIRCLE|LOWER HALF CIRCLE|BLACK LOWER " ++
    "RIGHT TRIANGLE|BLACK LOWER LEFT TRIANGLE|BLACK UPPER LEFT TRIANGLE|BLACK UPPER RIGHT " ++
    "TRIANGLE|WHITE BULLET"),
  (0x25E7, "SQUARE WITH ", "LEFT HALF BLACK|RIGHT HALF BLACK|UPPER LEFT DIAGONAL HALF BLACK|" ++
    "LOWER RIGHT DIAGONAL HALF BLACK"),
  (0x25EB, "WHITE ", "SQUARE WITH VERTICAL BISECTING LINE|UP-POINTING TRIANGLE WITH DOT"),
  (0x25ED, "UP-POINTING TRIANGLE WITH ", "LEFT HALF BLACK|RIGHT HALF BLACK"),
  (0x25EF, "", "LARGE CIRCLE"),
  (0x25F0, "WHITE SQUARE WITH ", "UPPER LEFT QUADRANT|LOWER LEFT QUADRANT|LOWER RIGHT " ++
    "QUADRANT|UPPER RIGHT QUADRANT"),
  (0x25F4, "WHITE CIRCLE WITH ", "UPPER LEFT QUADRANT|LOWER LEFT QUADRANT|LOWER RIGHT " ++
    "QUADRANT|UPPER RIGHT QUADRANT"),
  (0x25F8, "", "UPPER LEFT TRIANGLE|UPPER RIGHT TRIANGLE|LOWER LEFT TRIANGLE|WHITE MEDIUM " ++
    "SQUARE|BLACK MEDIUM SQUARE|WHITE MEDIUM SMALL SQUARE|BLACK MEDIUM SMALL SQUARE|LOWER " ++
    "RIGHT TRIANGLE|BLACK SUN WITH RAYS|CLOUD|UMBRELLA|SNOWMAN|COMET|BLACK STAR|WHITE STAR|" ++
    "LIGHTNING|THUNDERSTORM|SUN|ASCENDING NODE|DESCENDING NODE|CONJUNCTION|OPPOSITION|BLACK " ++
    "TELEPHONE|WHITE TELEPHONE|BALLOT BOX|BALLOT BOX WITH CHECK|BALLOT BOX WITH X|SALTIRE|" ++
    "UMBRELLA WITH RAIN DROPS|HOT BEVERAGE|WHITE SHOGI PIECE|BLACK SHOGI PIECE|SHAMROCK|" ++
    "REVERSED ROTATED FLORAL HEART BULLET|BLACK LEFT POINTING INDEX|BLACK RIGHT POINTING " ++
    "INDEX|WHITE LEFT POINTING INDEX|WHITE UP POINTING INDEX|WHITE RIGHT POINTING INDEX|WHITE " ++
    "DOWN POINTING INDEX|SKULL AND CROSSBONES|CAUTION SIGN|RADIOACTIVE SIGN|BIOHAZARD SIGN|" ++
    "CADUCEUS|ANKH|ORTHODOX CROSS|CHI RHO|CROSS OF LORRAINE|CROSS OF JERUSALEM|STAR AND " ++
    "CRESCENT|FARSI SYMBOL|ADI SHAKTI|HAMMER AND SICKLE|PEACE SYMBOL|YIN YANG")]

def ornamentNames : List NameGroup := [
  (0x2630, "TRIGRAM FOR ", "HEAVEN|LAKE|FIRE|THUNDER|WIND|WATER|MOUNTAIN|EARTH"),
  (0x2638, "", "WHEEL OF DHARMA|WHITE FROWNING FACE|WHITE SMILING FACE|BLACK SMILING FACE|" ++
    "WHITE SUN WITH RAYS|FIRST QUARTER MOON|LAST QUARTER MOON|MERCURY|FEMALE SIGN|EARTH|MALE " ++
    "SIGN|JUPITER|SATURN|URANUS|NEPTUNE|PLUTO|ARIES|TAURUS|GEMINI|CANCER|LEO|VIRGO|LIBRA|" ++
    "SCORPIUS|SAGITTARIUS|CAPRICORN|AQUARIUS|PISCES"),
  (0x2654, "WHITE CHESS ", "KING|QUEEN|ROOK|BISHOP|KNIGHT|PAWN"),
  (0x265A, "BLACK CHESS ", "KING|QUEEN|ROOK|BISHOP|KNIGHT|PAWN"),
  (0x2660, "", "BLACK SPADE SUIT|WHITE HEART SUIT|WHITE DIAMOND SUIT|BLACK CLUB SUIT|WHITE " ++
    "SPADE SUIT|BLACK HEART SUIT|BLACK DIAMOND SUIT|WHITE CLUB SUIT|HOT SPRINGS|QUARTER NOTE|" ++
    "EIGHTH NOTE|BEAMED EIGHTH NOTES|BEAMED SIXTEENTH NOTES|MUSIC FLAT SIGN|MUSIC NATURAL " ++
    "SIGN|MUSIC SHARP SIGN|WEST SYRIAC CROSS|EAST SYRIAC CROSS|UNIVERSAL RECYCLING SYMBOL"),
  (0x2673, "RECYCLING SYMBOL FOR TYPE-", "1 PLASTICS|2 PLASTICS|3 PLASTICS|4 PLASTICS|5 " ++
    "PLASTICS|6 PLASTICS|7 PLASTICS"),
  (0x267A, "", "RECYCLING SYMBOL FOR GENERIC MATERIALS|BLACK UNIVERSAL RECYCLING SYMBOL|" ++
    "RECYCLED PAPER SYMBOL|PARTIALLY-RECYCLED PAPER SYMBOL|PERMANENT PAPER SIGN|WHEELCHAIR " ++
    "SYMBOL"),
  (0x2680, "DIE FACE-", "1|2|3|4|5|6"),
  (0x2686, "WHITE CIRCLE WITH ", "DOT RIGHT|TWO DOTS"),
  (0x2688, "BLACK CIRCLE WITH ", "WHITE DOT RIGHT|TWO WHITE DOTS"),
  (0x268A, "MONOGRAM FOR ", "YANG|YIN"),
  (0x268C, "DIGRAM FOR ", "GREATER YANG|LESSER YIN|LESSER YANG|GREATER YIN"),
  (0x2690, "", "WHITE FLAG|BLACK FLAG|HAMMER AND PICK|ANCHOR|CROSSED SWORDS|STAFF OF " ++
    "AESCULAPIUS|SCALES|ALEMBIC|FLOWER|GEAR|STAFF OF HERMES|ATOM SYMBOL|FLEUR-DE-LIS|OUTLINED " ++
    "WHITE STAR"),
  (0x269E, "THREE LINES CONVERGING ", "RIGHT|LEFT"),
  (0x26A0, "", "WARNING SIGN|HIGH VOLTAGE SIGN|DOUBLED FEMALE SIGN|DOUBLED MALE SIGN|" ++
    "INTERLOCKED FEMALE AND MALE SIGN|MALE AND FEMALE SIGN|MALE WITH STROKE SIGN|MALE WITH " ++
    "STROKE AND MALE AND FEMALE SIGN|VERTICAL MALE WITH STROKE SIGN|HORIZONTAL MALE WITH " ++
    "STROKE SIGN|MEDIUM WHITE CIRCLE|MEDIUM BLACK CIRCLE|MEDIUM SMALL WHITE CIRCLE|MARRIAGE " ++
    "SYMBOL|DIVORCE SYMBOL|UNMARRIED PARTNERSHIP SYMBOL|COFFIN|FUNERAL URN|NEUTER|CERES|" ++
    "PALLAS|JUNO|VESTA|CHIRON|BLACK MOON LILITH|SEXTILE|SEMISEXTILE|QUINCUNX|SESQUIQUADRATE|" ++
    "SOCCER BALL|BASEBALL|SQUARED KEY"),
  (0x26C0, "WHITE DRAUGHTS ", "MAN|KING"),
  (0x26C2, "BLACK DRAUGHTS ", "MAN|KING"),
  (0x26C4, "", "SNOWMAN WITHOUT SNOW|SUN BEHIND CLOUD|RAIN|BLACK SNOWMAN|THUNDER CLOUD AND " ++
    "RAIN|TURNED WHITE SHOGI PIECE|TURNED BLACK SHOGI PIECE|WHITE DIAMOND IN SQUARE|CROSSING " ++
    "LANES|DISABLED CAR|OPHIUCHUS|PICK|CAR SLIDING|HELMET WITH WHITE CROSS|CIRCLED CROSSING " ++
    "LANES|CHAINS|NO ENTRY|ALTERNATE ONE-WAY LEFT WAY TRAFFIC|BLACK TWO-WAY LEFT WAY TRAFFIC|" ++
    "WHITE TWO-WAY LEFT WAY TRAFFIC|BLACK LEFT LANE MERGE|WHITE LEFT LANE MERGE|DRIVE SLOW " ++
    "SIGN|HEAVY WHITE DOWN-POINTING TRIANGLE|LEFT CLOSED ENTRY|SQUARED SALTIRE|FALLING " ++
    "DIAGONAL IN WHITE CIRCLE IN BLACK SQUARE|BLACK TRUCK"),
  (0x26E0, "RESTRICTED LEFT ENTRY-", "1|2"),
  (0x26E2, "", "ASTRONOMICAL SYMBOL FOR URANUS|HEAVY CIRCLE WITH STROKE AND TWO DOTS ABOVE|" ++
    "PENTAGRAM|RIGHT-HANDED INTERLACED PENTAGRAM|LEFT-HANDED INTERLACED PENTAGRAM|INVERTED " ++
    "PENTAGRAM|BLACK CROSS ON SHIELD|SHINTO SHRINE|CHURCH|CASTLE|HISTORIC SITE|GEAR WITHOUT " ++
    "HUB|GEAR WITH HANDLES|MAP SYMBOL FOR LIGHTHOUSE|MOUNTAIN|UMBRELLA ON GROUND|FOUNTAIN|" ++
    "FLAG IN HOLE|FERRY|SAILBOAT|SQUARE FOUR CORNERS|SKIER|ICE SKATE|PERSON WITH BALL|TENT|" ++
    "JAPANESE BANK SYMBOL|HEADSTONE GRAVEYARD SYMBOL|FUEL PUMP|CUP ON BLACK SQUARE|WHITE FLAG " ++
    "WITH HORIZONTAL MIDDLE BLACK STRIPE|BLACK SAFETY SCISSORS|UPPER BLADE SCISSORS|BLACK " ++
    "SCISSORS|LOWER BLADE SCISSORS|WHITE SCISSORS|WHITE HEAVY CHECK MARK|TELEPHONE LOCATION " ++
    "SIGN|TAPE DRIVE|AIRPLANE|ENVELOPE|RAISED FIST|RAISED HAND|VICTORY HAND|WRITING HAND|" ++
    "LOWER RIGHT PENCIL|PENCIL|UPPER RIGHT PENCIL|WHITE NIB|BLACK NIB|CHECK MARK|HEAVY CHECK " ++
    "MARK|MULTIPLICATION X|HEAVY MULTIPLICATION X|BALLOT X|HEAVY BALLOT X|OUTLINED GREEK " ++
    "CROSS|HEAVY GREEK CROSS|OPEN CENTRE CROSS|HEAVY OPEN CENTRE CROSS|LATIN CROSS|SHADOWED " ++
    "WHITE LATIN CROSS|OUTLINED LATIN CROSS|MALTESE CROSS|STAR OF DAVID|FOUR TEARDROP-SPOKED " ++
    "ASTERISK|FOUR BALLOON-SPOKED ASTERISK|HEAVY FOUR BALLOON-SPOKED ASTERISK|FOUR " ++
    "CLUB-SPOKED ASTERISK|BLACK FOUR POINTED STAR|WHITE FOUR POINTED STAR|SPARKLES|STRESS " ++
    "OUTLINED WHITE STAR|CIRCLED WHITE STAR|OPEN CENTRE BLACK STAR|BLACK CENTRE WHITE STAR|" ++
    "OUTLINED BLACK STAR|HEAVY OUTLINED BLACK STAR|PINWHEEL STAR|SHADOWED WHITE STAR|HEAVY " ++
    "ASTERISK|OPEN CENTRE ASTERISK|EIGHT SPOKED ASTERISK|EIGHT POINTED BLACK STAR|EIGHT " ++
    "POINTED PINWHEEL STAR|SIX POINTED BLACK STAR|EIGHT POINTED RECTILINEAR BLACK STAR|HEAVY " ++
    "EIGHT POINTED RECTILINEAR BLACK STAR|TWELVE POINTED BLACK STAR|SIXTEEN POINTED ASTERISK|" ++
    "TEARDROP-SPOKED ASTERISK|OPEN CENTRE TEARDROP-SPOKED ASTERISK|HEAVY TEARDROP-SPOKED " ++
    "ASTERISK|SIX PETALLED BLACK AND WHITE FLORETTE|BLACK FLORETTE|WHITE FLORETTE|EIGHT " ++
    "PETALLED OUTLINED BLACK FLORETTE|CIRCLED OPEN CENTRE EIGHT POINTED STAR|HEAVY " ++
    "TEARDROP-SPOKED PINWHEEL ASTERISK|SNOWFLAKE|TIGHT TRIFOLIATE SNOWFLAKE|HEAVY CHEVRON " ++
    "SNOWFLAKE|SPARKLE|HEAVY SPARKLE|BALLOON-SPOKED ASTERISK|EIGHT TEARDROP-SPOKED PROPELLER " ++
    "ASTERISK|HEAVY EIGHT TEARDROP-SPOKED PROPELLER ASTERISK|CROSS MARK|SHADOWED WHITE CIRCLE|" ++
    "NEGATIVE SQUARED CROSS MARK|LOWER RIGHT DROP-SHADOWED WHITE SQUARE|UPPER RIGHT " ++
    "DROP-SHADOWED WHITE SQUARE|LOWER RIGHT SHADOWED WHITE SQUARE|UPPER RIGHT SHADOWED WHITE " ++
    "SQUARE|BLACK QUESTION MARK ORNAMENT|WHITE QUESTION MARK ORNAMENT|WHITE EXCLAMATION MARK " ++
    "ORNAMENT|BLACK DIAMOND MINUS WHITE X|HEAVY EXCLAMATION MARK SYMBOL|LIGHT VERTICAL BAR|" ++
    "MEDIUM VERTICAL BAR"),
  (0x275A, "HEAVY ", "VERTICAL BAR|SINGLE TURNED COMMA QUOTATION MARK ORNAMENT|SINGLE COMMA " ++
    "QUOTATION MARK ORNAMENT|DOUBLE TURNED COMMA QUOTATION MARK ORNAMENT|DOUBLE COMMA " ++
    "QUOTATION MARK ORNAMENT|LOW SINGLE COMMA QUOTATION MARK ORNAMENT|LOW DOUBLE COMMA " ++
    "QUOTATION MARK ORNAMENT"),
  (0x2761, "", "CURVED STEM PARAGRAPH SIGN ORNAMENT|HEAVY EXCLAMATION MARK ORNAMENT|HEAVY " ++
    "HEART EXCLAMATION MARK ORNAMENT|HEAVY BLACK HEART|ROTATED HEAVY BLACK HEART BULLET|" ++
    "FLORAL HEART|ROTATED FLORAL HEART BULLET"),
  (0x2768, "MEDIUM ", "LEFT PARENTHESIS ORNAMENT|RIGHT PARENTHESIS ORNAMENT|FLATTENED LEFT " ++
    "PARENTHESIS ORNAMENT|FLATTENED RIGHT PARENTHESIS ORNAMENT|LEFT-POINTING ANGLE BRACKET " ++
    "ORNAMENT|RIGHT-POINTING ANGLE BRACKET ORNAMENT"),
  (0x276E, "HEAVY ", "LEFT-POINTING ANGLE QUOTATION MARK ORNAMENT|RIGHT-POINTING ANGLE " ++
    "QUOTATION MARK ORNAMENT|LEFT-POINTING ANGLE BRACKET ORNAMENT|RIGHT-POINTING ANGLE " ++
    "BRACKET ORNAMENT"),
  (0x2772, "LIGHT ", "LEFT TORTOISE SHELL BRACKET ORNAMENT|RIGHT TORTOISE SHELL BRACKET " ++
    "ORNAMENT"),
  (0x2774, "MEDIUM ", "LEFT CURLY BRACKET ORNAMENT|RIGHT CURLY BRACKET ORNAMENT"),
  (0x2776, "DINGBAT NEGATIVE CIRCLED DIGIT ", "ONE|TWO|THREE|FOUR|FIVE|SIX|SEVEN|EIGHT|NINE"),
  (0x277F, "", "DINGBAT NEGATIVE CIRCLED NUMBER TEN"),
  (0x2780, "DINGBAT CIRCLED SANS-SERIF DIGIT ", "ONE|TWO|THREE|FOUR|FIVE|SIX|SEVEN|EIGHT|NINE"),
  (0x2789, "", "DINGBAT CIRCLED SANS-SERIF NUMBER TEN"),
  (0x278A, "DINGBAT NEGATIVE CIRCLED SANS-SERIF DIGIT ", "ONE|TWO|THREE|FOUR|FIVE|SIX|SEVEN|" ++
    "EIGHT|NINE"),
  (0x2793, "", "DINGBAT NEGATIVE CIRCLED SANS-SERIF NUMBER TEN"),
  (0x2794, "HEAVY ", "WIDE-HEADED RIGHTWARDS ARROW|PLUS SIGN|MINUS SIGN|DIVISION SIGN|SOUTH " ++
    "EAST ARROW|RIGHTWARDS ARROW|NORTH EAST ARROW"),
  (0x279B, "", "DRAFTING POINT RIGHTWARDS ARROW|HEAVY ROUND-TIPPED RIGHTWARDS ARROW|" ++
    "TRIANGLE-HEADED RIGHTWARDS ARROW|HEAVY TRIANGLE-HEADED RIGHTWARDS ARROW|DASHED " ++
    "TRIANGLE-HEADED RIGHTWARDS ARROW|HEAVY DASHED TRIANGLE-HEADED RIGHTWARDS ARROW|BLACK " ++
    "RIGHTWARDS ARROW|THREE-D TOP-LIGHTED RIGHTWARDS ARROWHEAD|THREE-D BOTTOM-LIGHTED " ++
    "RIGHTWARDS ARROWHEAD|BLACK RIGHTWARDS ARROWHEAD"),
  (0x27A5, "HEAVY BLACK CURVED ", "DOWNWARDS AND RIGHTWARDS ARROW|UPWARDS AND RIGHTWARDS ARROW"),
  (0x27A7, "", "SQUAT BLACK RIGHTWARDS ARROW|HEAVY CONCAVE-POINTED BLACK RIGHTWARDS ARROW|" ++
    "RIGHT-SHADED WHITE RIGHTWARDS ARROW|LEFT-SHADED WHITE RIGHTWARDS ARROW|BACK-TILTED " ++
    "SHADOWED WHITE RIGHTWARDS ARROW|FRONT-TILTED SHADOWED WHITE RIGHTWARDS ARROW|HEAVY LOWER " ++
    "RIGHT-SHADOWED WHITE RIGHTWARDS ARROW|HEAVY UPPER RIGHT-SHADOWED WHITE RIGHTWARDS ARROW|" ++
    "NOTCHED LOWER RIGHT-SHADOWED WHITE RIGHTWARDS ARROW|CURLY LOOP|NOTCHED UPPER " ++
    "RIGHT-SHADOWED WHITE RIGHTWARDS ARROW|CIRCLED HEAVY WHITE RIGHTWARDS ARROW|" ++
    "WHITE-FEATHERED RIGHTWARDS ARROW"),
  (0x27B4, "BLACK-FEATHERED ", "SOUTH EAST ARROW|RIGHTWARDS ARROW|NORTH EAST ARROW"),
  (0x27B7, "HEAVY BLACK-FEATHERED ", "SOUTH EAST ARROW|RIGHTWARDS ARROW|NORTH EAST ARROW"),
  (0x27BA, "", "TEARDROP-BARBED RIGHTWARDS ARROW|HEAVY TEARDROP-SHANKED RIGHTWARDS ARROW|" ++
    "WEDGE-TAILED RIGHTWARDS ARROW|HEAVY WEDGE-TAILED RIGHTWARDS ARROW|OPEN-OUTLINED " ++
    "RIGHTWARDS ARROW|DOUBLE CURLY LOOP|THREE DIMENSIONAL ANGLE|WHITE TRIANGLE CONTAINING " ++
    "SMALL WHITE TRIANGLE|PERPENDICULAR|OPEN SUBSET|OPEN SUPERSET|LEFT S-SHAPED BAG DELIMITER|" ++
    "RIGHT S-SHAPED BAG DELIMITER|OR WITH DOT INSIDE|REVERSE SOLIDUS PRECEDING SUBSET|" ++
    "SUPERSET PRECEDING SOLIDUS|VERTICAL BAR WITH HORIZONTAL STROKE|MATHEMATICAL RISING " ++
    "DIAGONAL|LONG DIVISION|MATHEMATICAL FALLING DIAGONAL|SQUARED LOGICAL AND|SQUARED LOGICAL " ++
    "OR|WHITE DIAMOND WITH CENTRED DOT|AND WITH DOT|ELEMENT OF OPENING UPWARDS|LOWER RIGHT " ++
    "CORNER WITH DOT|UPPER LEFT CORNER WITH DOT|LEFT OUTER JOIN|RIGHT OUTER JOIN|FULL OUTER " ++
    "JOIN|LARGE UP TACK|LARGE DOWN TACK|LEFT AND RIGHT DOUBLE TURNSTILE|LEFT AND RIGHT TACK|" ++
    "LEFT MULTIMAP|LONG RIGHT TACK|LONG LEFT TACK|UP TACK WITH CIRCLE ABOVE|LOZENGE DIVIDED " ++
    "BY HORIZONTAL RULE")]

def operatorNames : List NameGroup := [
  (0x27E1, "WHITE CONCAVE-SIDED ", "DIAMOND|DIAMOND WITH LEFTWARDS TICK|DIAMOND WITH " ++
    "RIGHTWARDS TICK"),
  (0x27E4, "WHITE SQUARE WITH ", "LEFTWARDS TICK|RIGHTWARDS TICK"),
  (0x27E6, "MATHEMATICAL ", "LEFT WHITE SQUARE BRACKET|RIGHT WHITE SQUARE BRACKET|LEFT ANGLE " ++
    "BRACKET|RIGHT ANGLE BRACKET|LEFT DOUBLE ANGLE BRACKET|RIGHT DOUBLE ANGLE BRACKET|LEFT " ++
    "WHITE TORTOISE SHELL BRACKET|RIGHT WHITE TORTOISE SHELL BRACKET|LEFT FLATTENED " ++
    "PARENTHESIS|RIGHT FLATTENED PARENTHESIS"),
  (0x27F0, "", "UPWARDS QUADRUPLE ARROW|DOWNWARDS QUADRUPLE ARROW|ANTICLOCKWISE GAPPED CIRCLE " ++
    "ARROW|CLOCKWISE GAPPED CIRCLE ARROW|RIGHT ARROW WITH CIRCLED PLUS"),
  (0x27F5, "LONG ", "LEFTWARDS ARROW|RIGHTWARDS ARROW|LEFT RIGHT ARROW|LEFTWARDS DOUBLE ARROW|" ++
    "RIGHTWARDS DOUBLE ARROW|LEFT RIGHT DOUBLE ARROW|LEFTWARDS ARROW FROM BAR|RIGHTWARDS " ++
    "ARROW FROM BAR|LEFTWARDS DOUBLE ARROW FROM BAR|RIGHTWARDS DOUBLE ARROW FROM BAR|" ++
    "RIGHTWARDS SQUIGGLE ARROW"),
  (0x2800, "", "BRAILLE PATTERN BLANK"),
  (0x2801, "BRAILLE PATTERN DOTS-", "1|2|12|3|13|23|123|4|14|24|124|34|134|234|1234|5|15|25|" ++
    "125|35|135|235|1235|45|145|245|1245|345|1345|2345|12345|6|16|26|126|36|136|236|1236|46|" ++
    "146|246|1246|346|1346|2346|12346|56|156|256|1256|356|1356|2356|12356|456|1456|2456|12456|" ++
    "3456|13456|23456|123456|7|17|27|127|37|137|237|1237|47|147|247|1247|347|1347|2347|12347|" ++
    "57|157|257|1257|357|1357|2357|12357|457|1457|2457|12457|3457|13457|23457|123457|67|167|" ++
    "267|1267|367|1367|2367|12367|467|1467|2467|12467|3467|13467|23467|123467|567|1567|2567|" ++
    "12567|3567|13567|23567|123567|4567|14567|24567|124567|34567|134567|234567|1234567|8|18|" ++
    "28|128|38|138|238|1238|48|148|248|1248|348|1348|2348|12348|58|158|258|1258|358|1358|2358|" ++
    "12358|458|1458|2458|12458|3458|13458|23458|123458|68|168|268|1268|368|1368|2368|12368|" ++
    "468|1468|2468|12468|3468|13468|23468|123468|568|1568|2568|12568|3568|13568|23568|123568|" ++
    "4568|14568|24568|124568|34568|134568|234568|1234568|78|178|278|1278|378|1378|2378|12378|" ++
    "478|1478|2478|12478|3478|13478|23478|123478|578|1578|2578|12578|3578|13578|23578|123578|" ++
    "4578|14578|24578|124578|34578|134578|234578|1234578|678|1678|2678|12678|3678|13678|23678|" ++
    "123678|4678|14678|24678|124678|34678|134678|234678|1234678|5678|15678|25678|125678|35678|" ++
    "135678|235678|1235678|45678|145678|245678|1245678|345678|1345678|2345678|12345678"),
  (0x2900, "RIGHTWARDS TWO-HEADED ARROW WITH ", "VERTICAL STROKE|DOUBLE VERTICAL STROKE"),
  (0x2902, "", "LEFTWARDS DOUBLE ARROW WITH VERTICAL STROKE|RIGHTWARDS DOUBLE ARROW WITH " ++
    "VERTICAL STROKE|LEFT RIGHT DOUBLE ARROW WITH VERTICAL STROKE|RIGHTWARDS TWO-HEADED ARROW " ++
    "FROM BAR|LEFTWARDS DOUBLE ARROW FROM BAR|RIGHTWARDS DOUBLE ARROW FROM BAR|DOWNWARDS " ++
    "ARROW WITH HORIZONTAL STROKE|UPWARDS ARROW WITH HORIZONTAL STROKE|UPWARDS TRIPLE ARROW|" ++
    "DOWNWARDS TRIPLE ARROW|LEFTWARDS DOUBLE DASH ARROW|RIGHTWARDS DOUBLE DASH ARROW|" ++
    "LEFTWARDS TRIPLE DASH ARROW"),
  (0x290F, "RIGHTWARDS ", "TRIPLE DASH ARROW|TWO-HEADED TRIPLE DASH ARROW|ARROW WITH DOTTED " ++
    "STEM"),
  (0x2912, "", "UPWARDS ARROW TO BAR|DOWNWARDS ARROW TO BAR"),
  (0x2914, "RIGHTWARDS ARROW WITH TAIL WITH ", "VERTICAL STROKE|DOUBLE VERTICAL STROKE"),
  (0x2916, "RIGHTWARDS TWO-HEADED ARROW WITH ", "TAIL|TAIL WITH VERTICAL STROKE|TAIL WITH " ++
    "DOUBLE VERTICAL STROKE"),
  (0x2919, "", "LEFTWARDS ARROW-TAIL|RIGHTWARDS ARROW-TAIL|LEFTWARDS DOUBLE ARROW-TAIL|" ++
    "RIGHTWARDS DOUBLE ARROW-TAIL|LEFTWARDS ARROW TO BLACK DIAMOND|RIGHTWARDS ARROW TO BLACK " ++
    "DIAMOND|LEFTWARDS ARROW FROM BAR TO BLACK DIAMOND|RIGHTWARDS ARROW FROM BAR TO BLACK " ++
    "DIAMOND|NORTH WEST AND SOUTH EAST ARROW|NORTH EAST AND SOUTH WEST ARROW|NORTH WEST ARROW " ++
    "WITH HOOK|NORTH EAST ARROW WITH HOOK|SOUTH EAST ARROW WITH HOOK|SOUTH WEST ARROW WITH " ++
    "HOOK|NORTH WEST ARROW AND NORTH EAST ARROW|NORTH EAST ARROW AND SOUTH EAST ARROW|SOUTH " ++
    "EAST ARROW AND SOUTH WEST ARROW|SOUTH WEST ARROW AND NORTH WEST ARROW|RISING DIAGONAL " ++
    "CROSSING FALLING DIAGONAL|FALLING DIAGONAL CROSSING RISING DIAGONAL|SOUTH EAST ARROW " ++
    "CROSSING NORTH EAST ARROW|NORTH EAST ARROW CROSSING SOUTH EAST ARROW|FALLING DIAGONAL " ++
    "CROSSING NORTH EAST ARROW|RISING DIAGONAL CROSSING SOUTH EAST ARROW|NORTH EAST ARROW " ++
    "CROSSING NORTH WEST ARROW|NORTH WEST ARROW CROSSING NORTH EAST ARROW|WAVE ARROW POINTING " ++
    "DIRECTLY RIGHT"),
  (0x2934, "ARROW POINTING RIGHTWARDS THEN CURVING ", "UPWARDS|DOWNWARDS"),
  (0x2936, "ARROW POINTING DOWNWARDS THEN CURVING ", "LEFTWARDS|RIGHTWARDS"),
  (0x2938, "", "RIGHT-SIDE ARC CLOCKWISE ARROW|LEFT-SIDE ARC ANTICLOCKWISE ARROW|TOP ARC " ++
    "ANTICLOCKWISE ARROW|BOTTOM ARC ANTICLOCKWISE ARROW|TOP ARC CLOCKWISE ARROW WITH MINUS|" ++
    "TOP ARC ANTICLOCKWISE ARROW WITH PLUS|LOWER RIGHT SEMICIRCULAR CLOCKWISE ARROW|LOWER " ++
    "LEFT SEMICIRCULAR ANTICLOCKWISE ARROW|ANTICLOCKWISE CLOSED CIRCLE ARROW|CLOCKWISE CLOSED " ++
    "CIRCLE ARROW|RIGHTWARDS ARROW ABOVE SHORT LEFTWARDS ARROW|LEFTWARDS ARROW ABOVE SHORT " ++
    "RIGHTWARDS ARROW|SHORT RIGHTWARDS ARROW ABOVE LEFTWARDS ARROW|RIGHTWARDS ARROW WITH PLUS " ++
    "BELOW|LEFTWARDS ARROW WITH PLUS BELOW|RIGHTWARDS ARROW THROUGH X|LEFT RIGHT ARROW " ++
    "THROUGH SMALL CIRCLE|UPWARDS TWO-HEADED ARROW FROM SMALL CIRCLE|LEFT BARB UP RIGHT BARB " ++
    "DOWN HARPOON|LEFT BARB DOWN RIGHT BARB UP HARPOON|UP BARB RIGHT DOWN BARB LEFT HARPOON|" ++
    "UP BARB LEFT DOWN BARB RIGHT HARPOON|LEFT BARB UP RIGHT BARB UP HARPOON|UP BARB RIGHT " ++
    "DOWN BARB RIGHT HARPOON|LEFT BARB DOWN RIGHT BARB DOWN HARPOON|UP BARB LEFT DOWN BARB " ++
    "LEFT HARPOON|LEFTWARDS HARPOON WITH BARB UP TO BAR|RIGHTWARDS HARPOON WITH BARB UP TO " ++
    "BAR|UPWARDS HARPOON WITH BARB RIGHT TO BAR|DOWNWARDS HARPOON WITH BARB RIGHT TO BAR|" ++
    "LEFTWARDS HARPOON WITH BARB DOWN TO BAR|RIGHTWARDS HARPOON WITH BARB DOWN TO BAR|UPWARDS " ++
    "HARPOON WITH BARB LEFT TO BAR|DOWNWARDS HARPOON WITH BARB LEFT TO BAR|LEFTWARDS HARPOON " ++
    "WITH BARB UP FROM BAR|RIGHTWARDS HARPOON WITH BARB UP FROM BAR|UPWARDS HARPOON WITH BARB " ++
    "RIGHT FROM BAR|DOWNWARDS HARPOON WITH BARB RIGHT FROM BAR|LEFTWARDS HARPOON WITH BARB " ++
    "DOWN FROM BAR|RIGHTWARDS HARPOON WITH BARB DOWN FROM BAR|UPWARDS HARPOON WITH BARB LEFT " ++
    "FROM BAR|DOWNWARDS HARPOON WITH BARB LEFT FROM BAR|LEFTWARDS HARPOON WITH BARB UP ABOVE " ++
    "LEFTWARDS HARPOON WITH BARB DOWN|UPWARDS HARPOON WITH BARB LEFT BESIDE UPWARDS HARPOON " ++
    "WITH BARB RIGHT|RIGHTWARDS HARPOON WITH BARB UP ABOVE RIGHTWARDS HARPOON WITH BARB DOWN|" ++
    "DOWNWARDS HARPOON WITH BARB LEFT BESIDE DOWNWARDS HARPOON WITH BARB RIGHT"),
  (0x2966, "LEFTWARDS HARPOON WITH BARB ", "UP ABOVE RIGHTWARDS HARPOON WITH BARB UP|DOWN " ++
    "ABOVE RIGHTWARDS HARPOON WITH BARB DOWN"),
  (0x2968, "RIGHTWARDS HARPOON WITH BARB ", "UP ABOVE LEFTWARDS HARPOON WITH BARB UP|DOWN " ++
    "ABOVE LEFTWARDS HARPOON WITH BARB DOWN"),
  (0x296A, "LEFTWARDS HARPOON WITH BARB ", "UP ABOVE LONG DASH|DOWN BELOW LONG DASH"),
  (0x296C, "RIGHTWARDS HARPOON WITH BARB ", "UP ABOVE LONG DASH|DOWN BELOW LONG DASH"),
  (0x296E, "", "UPWARDS HARPOON WITH BARB LEFT BESIDE DOWNWARDS HARPOON WITH BARB RIGHT|" ++
    "DOWNWARDS HARPOON WITH BARB LEFT BESIDE UPWARDS HARPOON WITH BARB RIGHT|RIGHT DOUBLE " ++
    "ARROW WITH ROUNDED HEAD|EQUALS SIGN ABOVE RIGHTWARDS ARROW|TILDE OPERATOR ABOVE " ++
    "RIGHTWARDS ARROW|LEFTWARDS ARROW ABOVE TILDE OPERATOR"),
  (0x2974, "RIGHTWARDS ARROW ABOVE ", "TILDE OPERATOR|ALMOST EQUAL TO"),
  (0x2976, "", "LESS-THAN ABOVE LEFTWARDS ARROW|LEFTWARDS ARROW THROUGH LESS-THAN|" ++
    "GREATER-THAN ABOVE RIGHTWARDS ARROW|SUBSET ABOVE RIGHTWARDS ARROW|LEFTWARDS ARROW " ++
    "THROUGH SUBSET|SUPERSET ABOVE LEFTWARDS ARROW|LEFT FISH TAIL|RIGHT FISH TAIL|UP FISH " ++
    "TAIL|DOWN FISH TAIL|TRIPLE VERTICAL BAR DELIMITER|Z NOTATION SPOT|Z NOTATION TYPE COLON|" ++
    "LEFT WHITE CURLY BRACKET|RIGHT WHITE CURLY BRACKET|LEFT WHITE PARENTHESIS|RIGHT WHITE " ++
    "PARENTHESIS"),
  (0x2987, "Z NOTATION ", "LEFT IMAGE BRACKET|RIGHT IMAGE BRACKET|LEFT BINDING BRACKET|RIGHT " ++
    "BINDING BRACKET"),
  (0x298B, "", "LEFT SQUARE BRACKET WITH UNDERBAR|RIGHT SQUARE BRACKET WITH UNDERBAR|LEFT " ++
    "SQUARE BRACKET WITH TICK IN TOP CORNER|RIGHT SQUARE BRACKET WITH TICK IN BOTTOM CORNER|" ++
    "LEFT SQUARE BRACKET WITH TICK IN BOTTOM CORNER|RIGHT SQUARE BRACKET WITH TICK IN TOP " ++
    "CORNER|LEFT ANGLE BRACKET WITH DOT|RIGHT ANGLE BRACKET WITH DOT|LEFT ARC LESS-THAN " ++
    "BRACKET|RIGHT ARC GREATER-THAN BRACKET|DOUBLE LEFT ARC GREATER-THAN BRACKET|DOUBLE RIGHT " ++
    "ARC LESS-THAN BRACKET|LEFT BLACK TORTOISE SHELL BRACKET|RIGHT BLACK TORTOISE SHELL " ++
    "BRACKET|DOTTED FENCE|VERTICAL ZIGZAG LINE|MEASURED ANGLE OPENING LEFT|RIGHT ANGLE " ++
    "VARIANT WITH SQUARE|MEASURED RIGHT ANGLE WITH DOT|ANGLE WITH S INSIDE|ACUTE ANGLE"),
  (0x29A0, "SPHERICAL ANGLE OPENING ", "LEFT|UP"),
  (0x29A2, "", "TURNED ANGLE|REVERSED ANGLE|ANGLE WITH UNDERBAR|REVERSED ANGLE WITH UNDERBAR"),
  (0x29A6, "OBLIQUE ANGLE OPENING ", "UP|DOWN"),
  (0x29A8, "MEASURED ANGLE WITH OPEN ARM ENDING IN ARROW POINTING ", "UP AND RIGHT|UP AND " ++
    "LEFT|DOWN AND RIGHT|DOWN AND LEFT|RIGHT AND UP|LEFT AND UP|RIGHT AND DOWN|LEFT AND DOWN"),
  (0x29B0, "", "REVERSED EMPTY SET"),
  (0x29B1, "EMPTY SET WITH ", "OVERBAR|SMALL CIRCLE ABOVE|RIGHT ARROW ABOVE|LEFT ARROW ABOVE"),
  (0x29B5, "", "CIRCLE WITH HORIZONTAL BAR"),
  (0x29B6, "CIRCLED ", "VERTICAL BAR|PARALLEL|REVERSE SOLIDUS|PERPENDICULAR"),
  (0x29BA, "", "CIRCLE DIVIDED BY HORIZONTAL BAR AND TOP HALF DIVIDED BY VERTICAL BAR|CIRCLE " ++
    "WITH SUPERIMPOSED X|CIRCLED ANTICLOCKWISE-ROTATED DIVISION SIGN|UP ARROW THROUGH CIRCLE"),
  (0x29BE, "CIRCLED ", "WHITE BULLET|BULLET|LESS-THAN|GREATER-THAN"),
  (0x29C2, "CIRCLE WITH ", "SMALL CIRCLE TO THE RIGHT|TWO HORIZONTAL STROKES TO THE RIGHT"),
  (0x29C4, "SQUARED ", "RISING DIAGONAL SLASH|FALLING DIAGONAL SLASH|ASTERISK|SMALL CIRCLE|" ++
    "SQUARE"),
  (0x29C9, "", "TWO JOINED SQUARES|TRIANGLE WITH DOT ABOVE|TRIANGLE WITH UNDERBAR|S IN " ++
    "TRIANGLE|TRIANGLE WITH SERIFS AT BOTTOM|RIGHT TRIANGLE ABOVE LEFT TRIANGLE|LEFT TRIANGLE " ++
    "BESIDE VERTICAL BAR|VERTICAL BAR BESIDE RIGHT TRIANGLE|BOWTIE WITH LEFT HALF BLACK|" ++
    "BOWTIE WITH RIGHT HALF BLACK|BLACK BOWTIE|TIMES WITH LEFT HALF BLACK|TIMES WITH RIGHT " ++
    "HALF BLACK|WHITE HOURGLASS|BLACK HOURGLASS|LEFT WIGGLY FENCE|RIGHT WIGGLY FENCE|LEFT " ++
    "DOUBLE WIGGLY FENCE|RIGHT DOUBLE WIGGLY FENCE|INCOMPLETE INFINITY|TIE OVER INFINITY|" ++
    "INFINITY NEGATED WITH VERTICAL BAR|DOUBLE-ENDED MULTIMAP|SQUARE WITH CONTOURED OUTLINE|" ++
    "INCREASES AS|SHUFFLE PRODUCT"),
  (0x29E3, "EQUALS SIGN AND SLANTED ", "PARALLEL|PARALLEL WITH TILDE ABOVE"),
  (0x29E5, "", "IDENTICAL TO AND SLANTED PARALLEL|GLEICH STARK|THERMODYNAMIC"),
  (0x29E8, "DOWN-POINTING TRIANGLE WITH ", "LEFT HALF BLACK|RIGHT HALF BLACK"),
  (0x29EA, "", "BLACK DIAMOND WITH DOWN ARROW|BLACK LOZENGE|WHITE CIRCLE WITH DOWN ARROW|" ++
    "BLACK CIRCLE WITH DOWN ARROW"),
  (0x29EE, "ERROR-BARRED ", "WHITE SQUARE|BLACK SQUARE|WHITE DIAMOND|BLACK DIAMOND|WHITE " ++
    "CIRCLE|BLACK CIRCLE"),
  (0x29F4, "", "RULE-DELAYED|REVERSE SOLIDUS OPERATOR|SOLIDUS WITH OVERBAR|REVERSE SOLIDUS " ++
    "WITH HORIZONTAL STROKE|BIG SOLIDUS|BIG REVERSE SOLIDUS|DOUBLE PLUS|TRIPLE PLUS|" ++
    "LEFT-POINTING CURVED ANGLE BRACKET|RIGHT-POINTING CURVED ANGLE BRACKET|TINY|MINY"),
  (0x2A00, "N-ARY CIRCLED ", "DOT OPERATOR|PLUS OPERATOR|TIMES OPERATOR"),
  (0x2A03, "N-ARY UNION OPERATOR WITH ", "DOT|PLUS"),
  (0x2A05, "N-ARY SQUARE ", "INTERSECTION OPERATOR|UNION OPERATOR"),
  (0x2A07, "TWO LOGICAL ", "AND OPERATOR|OR OPERATOR"),
  (0x2A09, "", "N-ARY TIMES OPERATOR|MODULO TWO SUM|SUMMATION WITH INTEGRAL|QUADRUPLE " ++
    "INTEGRAL OPERATOR|FINITE PART INTEGRAL|INTEGRAL WITH DOUBLE STROKE|INTEGRAL AVERAGE WITH " ++
    "SLASH|CIRCULATION FUNCTION|ANTICLOCKWISE INTEGRATION"),
  (0x2A12, "LINE INTEGRATION ", "WITH RECTANGULAR PATH AROUND POLE|WITH SEMICIRCULAR PATH " ++
    "AROUND POLE|NOT INCLUDING THE POLE"),
  (0x2A15, "", "INTEGRAL AROUND A POINT OPERATOR|QUATERNION INTEGRAL OPERATOR"),
  (0x2A17, "INTEGRAL WITH ", "LEFTWARDS ARROW WITH HOOK|TIMES SIGN|INTERSECTION|UNION|OVERBAR|" ++
    "UNDERBAR"),
  (0x2A1D, "", "JOIN|LARGE LEFT TRIANGLE OPERATOR"),
  (0x2A1F, "Z NOTATION SCHEMA ", "COMPOSITION|PIPING|PROJECTION"),
  (0x2A22, "PLUS SIGN WITH ", "SMALL CIRCLE ABOVE|CIRCUMFLEX ACCENT ABOVE|TILDE ABOVE|DOT " ++
    "BELOW|TILDE BELOW|SUBSCRIPT TWO|BLACK TRIANGLE"),
  (0x2A29, "MINUS SIGN WITH ", "COMMA ABOVE|DOT BELOW|FALLING DOTS|RISING DOTS"),
  (0x2A2D, "PLUS SIGN IN ", "LEFT HALF CIRCLE|RIGHT HALF CIRCLE"),
  (0x2A2F, "", "VECTOR OR CROSS PRODUCT"),
  (0x2A30, "MULTIPLICATION SIGN WITH ", "DOT ABOVE|UNDERBAR"),
  (0x2A32, "", "SEMIDIRECT PRODUCT WITH BOTTOM CLOSED|SMASH PRODUCT"),
  (0x2A34, "MULTIPLICATION SIGN IN ", "LEFT HALF CIRCLE|RIGHT HALF CIRCLE"),
  (0x2A36, "", "CIRCLED MULTIPLICATION SIGN WITH CIRCUMFLEX ACCENT|MULTIPLICATION SIGN IN " ++
    "DOUBLE CIRCLE|CIRCLED DIVISION SIGN|PLUS SIGN IN TRIANGLE|MINUS SIGN IN TRIANGLE|" ++
    "MULTIPLICATION SIGN IN TRIANGLE|INTERIOR PRODUCT|RIGHTHAND INTERIOR PRODUCT|Z NOTATION " ++
    "RELATIONAL COMPOSITION|AMALGAMATION OR COPRODUCT|INTERSECTION WITH DOT"),
  (0x2A41, "UNION WITH ", "MINUS SIGN|OVERBAR"),
  (0x2A43, "INTERSECTION WITH ", "OVERBAR|LOGICAL AND"),
  (0x2A45, "", "UNION WITH LOGICAL OR|UNION ABOVE INTERSECTION|INTERSECTION ABOVE UNION|UNION " ++
    "ABOVE BAR ABOVE INTERSECTION|INTERSECTION ABOVE BAR ABOVE UNION|UNION BESIDE AND JOINED " ++
    "WITH UNION|INTERSECTION BESIDE AND JOINED WITH INTERSECTION|CLOSED UNION WITH SERIFS|" ++
    "CLOSED INTERSECTION WITH SERIFS|DOUBLE SQUARE INTERSECTION|DOUBLE SQUARE UNION|CLOSED " ++
    "UNION WITH SERIFS AND SMASH PRODUCT|LOGICAL AND WITH DOT ABOVE|LOGICAL OR WITH DOT ABOVE"),
  (0x2A53, "DOUBLE LOGICAL ", "AND|OR"),
  (0x2A55, "TWO INTERSECTING LOGICAL ", "AND|OR"),
  (0x2A57, "SLOPING LARGE ", "OR|AND"),
  (0x2A59, "LOGICAL ", "OR OVERLAPPING LOGICAL AND|AND WITH MIDDLE STEM|OR WITH MIDDLE STEM|" ++
    "AND WITH HORIZONTAL DASH|OR WITH HORIZONTAL DASH"),
  (0x2A5E, "LOGICAL AND WITH ", "DOUBLE OVERBAR|UNDERBAR|DOUBLE UNDERBAR"),
  (0x2A61, "", "SMALL VEE WITH UNDERBAR"),
  (0x2A62, "LOGICAL OR WITH DOUBLE ", "OVERBAR|UNDERBAR"),
  (0x2A64, "Z NOTATION ", "DOMAIN ANTIRESTRICTION|RANGE ANTIRESTRICTION"),
  (0x2A66, "", "EQUALS SIGN WITH DOT BELOW|IDENTICAL WITH DOT ABOVE"),
  (0x2A68, "TRIPLE HORIZONTAL BAR WITH ", "DOUBLE VERTICAL STROKE|TRIPLE VERTICAL STROKE"),
  (0x2A6A, "TILDE OPERATOR WITH ", "DOT ABOVE|RISING DOTS"),
  (0x2A6C, "", "SIMILAR MINUS SIMILAR|CONGRUENT WITH DOT ABOVE|EQUALS WITH ASTERISK|ALMOST " ++
    "EQUAL TO WITH CIRCUMFLEX ACCENT|APPROXIMATELY EQUAL OR EQUAL TO|EQUALS SIGN ABOVE PLUS " ++
    "SIGN|PLUS SIGN ABOVE EQUALS SIGN|EQUALS SIGN ABOVE TILDE OPERATOR|DOUBLE COLON EQUAL|TWO " ++
    "CONSECUTIVE EQUALS SIGNS|THREE CONSECUTIVE EQUALS SIGNS|EQUALS SIGN WITH TWO DOTS ABOVE " ++
    "AND TWO DOTS BELOW|EQUIVALENT WITH FOUR DOTS ABOVE|LESS-THAN WITH CIRCLE INSIDE|" ++
    "GREATER-THAN WITH CIRCLE INSIDE|LESS-THAN WITH QUESTION MARK ABOVE|GREATER-THAN WITH " ++
    "QUESTION MARK ABOVE|LESS-THAN OR SLANTED EQUAL TO|GREATER-THAN OR SLANTED EQUAL TO|" ++
    "LESS-THAN OR SLANTED EQUAL TO WITH DOT INSIDE|GREATER-THAN OR SLANTED EQUAL TO WITH DOT " ++
    "INSIDE|LESS-THAN OR SLANTED EQUAL TO WITH DOT ABOVE|GREATER-THAN OR SLANTED EQUAL TO " ++
    "WITH DOT ABOVE|LESS-THAN OR SLANTED EQUAL TO WITH DOT ABOVE RIGHT|GREATER-THAN OR " ++
    "SLANTED EQUAL TO WITH DOT ABOVE LEFT|LESS-THAN OR APPROXIMATE|GREATER-THAN OR " ++
    "APPROXIMATE|LESS-THAN AND SINGLE-LINE NOT EQUAL TO|GREATER-THAN AND SINGLE-LINE NOT " ++
    "EQUAL TO|LESS-THAN AND NOT APPROXIMATE|GREATER-THAN AND NOT APPROXIMATE|LESS-THAN ABOVE " ++
    "DOUBLE-LINE EQUAL ABOVE GREATER-THAN|GREATER-THAN ABOVE DOUBLE-LINE EQUAL ABOVE " ++
    "LESS-THAN|LESS-THAN ABOVE SIMILAR OR EQUAL|GREATER-THAN ABOVE SIMILAR OR EQUAL|LESS-THAN " ++
    "ABOVE SIMILAR ABOVE GREATER-THAN|GREATER-THAN ABOVE SIMILAR ABOVE LESS-THAN|LESS-THAN " ++
    "ABOVE GREATER-THAN ABOVE DOUBLE-LINE EQUAL|GREATER-THAN ABOVE LESS-THAN ABOVE " ++
    "DOUBLE-LINE EQUAL|LESS-THAN ABOVE SLANTED EQUAL ABOVE GREATER-THAN ABOVE SLANTED EQUAL|" ++
    "GREATER-THAN ABOVE SLANTED EQUAL ABOVE LESS-THAN ABOVE SLANTED EQUAL"),
  (0x2A95, "SLANTED EQUAL TO OR ", "LESS-THAN|GREATER-THAN|LESS-THAN WITH DOT INSIDE|" ++
    "GREATER-THAN WITH DOT INSIDE"),
  (0x2A99, "DOUBLE-LINE EQUAL TO OR ", "LESS-THAN|GREATER-THAN"),
  (0x2A9B, "DOUBLE-LINE SLANTED EQUAL TO OR ", "LESS-THAN|GREATER-THAN"),
  (0x2A9D, "SIMILAR ", "OR LESS-THAN|OR GREATER-THAN|ABOVE LESS-THAN ABOVE EQUALS SIGN|ABOVE " ++
    "GREATER-THAN ABOVE EQUALS SIGN"),
  (0x2AA1, "DOUBLE NESTED ", "LESS-THAN|GREATER-THAN|LESS-THAN WITH UNDERBAR"),
  (0x2AA4, "GREATER-THAN ", "OVERLAPPING LESS-THAN|BESIDE LESS-THAN"),
  (0x2AA6, "", "LESS-THAN CLOSED BY CURVE|GREATER-THAN CLOSED BY CURVE|LESS-THAN CLOSED BY " ++
    "CURVE ABOVE SLANTED EQUAL|GREATER-THAN CLOSED BY CURVE ABOVE SLANTED EQUAL|SMALLER THAN|" ++
    "LARGER THAN|SMALLER THAN OR EQUAL TO|LARGER THAN OR EQUAL TO|EQUALS SIGN WITH BUMPY " ++
    "ABOVE|PRECEDES ABOVE SINGLE-LINE EQUALS SIGN|SUCCEEDS ABOVE SINGLE-LINE EQUALS SIGN|" ++
    "PRECEDES ABOVE SINGLE-LINE NOT EQUAL TO|SUCCEEDS ABOVE SINGLE-LINE NOT EQUAL TO|PRECEDES " ++
    "ABOVE EQUALS SIGN|SUCCEEDS ABOVE EQUALS SIGN|PRECEDES ABOVE NOT EQUAL TO|SUCCEEDS ABOVE " ++
    "NOT EQUAL TO|PRECEDES ABOVE ALMOST EQUAL TO|SUCCEEDS ABOVE ALMOST EQUAL TO|PRECEDES " ++
    "ABOVE NOT ALMOST EQUAL TO|SUCCEEDS ABOVE NOT ALMOST EQUAL TO|DOUBLE PRECEDES|DOUBLE " ++
    "SUCCEEDS|SUBSET WITH DOT|SUPERSET WITH DOT|SUBSET WITH PLUS SIGN BELOW|SUPERSET WITH " ++
    "PLUS SIGN BELOW|SUBSET WITH MULTIPLICATION SIGN BELOW|SUPERSET WITH MULTIPLICATION SIGN " ++
    "BELOW|SUBSET OF OR EQUAL TO WITH DOT ABOVE|SUPERSET OF OR EQUAL TO WITH DOT ABOVE|SUBSET " ++
    "OF ABOVE EQUALS SIGN|SUPERSET OF ABOVE EQUALS SIGN|SUBSET OF ABOVE TILDE OPERATOR|" ++
    "SUPERSET OF ABOVE TILDE OPERATOR|SUBSET OF ABOVE ALMOST EQUAL TO|SUPERSET OF ABOVE " ++
    "ALMOST EQUAL TO|SUBSET OF ABOVE NOT EQUAL TO|SUPERSET OF ABOVE NOT EQUAL TO|SQUARE LEFT " ++
    "OPEN BOX OPERATOR|SQUARE RIGHT OPEN BOX OPERATOR"),
  (0x2ACF, "CLOSED ", "SUBSET|SUPERSET|SUBSET OR EQUAL TO|SUPERSET OR EQUAL TO"),
  (0x2AD3, "", "SUBSET ABOVE SUPERSET|SUPERSET ABOVE SUBSET|SUBSET ABOVE SUBSET|SUPERSET " ++
    "ABOVE SUPERSET|SUPERSET BESIDE SUBSET|SUPERSET BESIDE AND JOINED BY DASH WITH SUBSET|" ++
    "ELEMENT OF OPENING DOWNWARDS|PITCHFORK WITH TEE TOP|TRANSVERSAL INTERSECTION|FORKING|" ++
    "NONFORKING|SHORT LEFT TACK|SHORT DOWN TACK|SHORT UP TACK|PERPENDICULAR WITH S|VERTICAL " ++
    "BAR TRIPLE RIGHT TURNSTILE|DOUBLE VERTICAL BAR LEFT TURNSTILE|VERTICAL BAR DOUBLE LEFT " ++
    "TURNSTILE|DOUBLE VERTICAL BAR DOUBLE LEFT TURNSTILE|LONG DASH FROM LEFT MEMBER OF DOUBLE " ++
    "VERTICAL|SHORT DOWN TACK WITH OVERBAR"),
  (0x2AE8, "SHORT UP TACK ", "WITH UNDERBAR|ABOVE SHORT DOWN TACK"),
  (0x2AEA, "DOUBLE ", "DOWN TACK|UP TACK|STROKE NOT SIGN"),
  (0x2AED, "", "REVERSED DOUBLE STROKE NOT SIGN|DOES NOT DIVIDE WITH REVERSED NEGATION SLASH"),
  (0x2AEF, "VERTICAL LINE WITH CIRCLE ", "ABOVE|BELOW"),
  (0x2AF1, "", "DOWN TACK WITH CIRCLE BELOW"),
  (0x2AF2, "PARALLEL WITH ", "HORIZONTAL STROKE|TILDE OPERATOR"),
  (0x2AF4, "TRIPLE ", "VERTICAL BAR BINARY RELATION|VERTICAL BAR WITH HORIZONTAL STROKE|COLON " ++
    "OPERATOR|NESTED LESS-THAN|NESTED GREATER-THAN"),
  (0x2AF9, "DOUBLE-LINE SLANTED ", "LESS-THAN OR EQUAL TO|GREATER-THAN OR EQUAL TO"),
  (0x2AFB, "", "TRIPLE SOLIDUS BINARY RELATION|LARGE TRIPLE VERTICAL BAR OPERATOR|DOUBLE " ++
    "SOLIDUS OPERATOR|WHITE VERTICAL BAR|N-ARY WHITE VERTICAL BAR|NORTH EAST WHITE ARROW|" ++
    "NORTH WEST WHITE ARROW|SOUTH EAST WHITE ARROW|SOUTH WEST WHITE ARROW|LEFT RIGHT WHITE " ++
    "ARROW|LEFTWARDS BLACK ARROW|UPWARDS BLACK ARROW|DOWNWARDS BLACK ARROW|NORTH EAST BLACK " ++
    "ARROW|NORTH WEST BLACK ARROW|SOUTH EAST BLACK ARROW|SOUTH WEST BLACK ARROW|LEFT RIGHT " ++
    "BLACK ARROW|UP DOWN BLACK ARROW"),
  (0x2B0E, "RIGHTWARDS ARROW WITH TIP ", "DOWNWARDS|UPWARDS"),
  (0x2B10, "LEFTWARDS ARROW WITH TIP ", "DOWNWARDS|UPWARDS"),
  (0x2B12, "SQUARE WITH ", "TOP HALF BLACK|BOTTOM HALF BLACK|UPPER RIGHT DIAGONAL HALF BLACK|" ++
    "LOWER LEFT DIAGONAL HALF BLACK"),
  (0x2B16, "DIAMOND WITH ", "LEFT HALF BLACK|RIGHT HALF BLACK|TOP HALF BLACK|BOTTOM HALF BLACK"),
  (0x2B1A, "", "DOTTED SQUARE|BLACK LARGE SQUARE|WHITE LARGE SQUARE|BLACK VERY SMALL SQUARE|" ++
    "WHITE VERY SMALL SQUARE|BLACK PENTAGON|WHITE PENTAGON|WHITE HEXAGON|BLACK HEXAGON|" ++
    "HORIZONTAL BLACK HEXAGON|BLACK LARGE CIRCLE|BLACK MEDIUM DIAMOND|WHITE MEDIUM DIAMOND|" ++
    "BLACK MEDIUM LOZENGE|WHITE MEDIUM LOZENGE|BLACK SMALL DIAMOND|BLACK SMALL LOZENGE|WHITE " ++
    "SMALL LOZENGE|BLACK HORIZONTAL ELLIPSE|WHITE HORIZONTAL ELLIPSE|BLACK VERTICAL ELLIPSE|" ++
    "WHITE VERTICAL ELLIPSE|LEFT ARROW WITH SMALL CIRCLE|THREE LEFTWARDS ARROWS|LEFT ARROW " ++
    "WITH CIRCLED PLUS|LONG LEFTWARDS SQUIGGLE ARROW"),
  (0x2B34, "LEFTWARDS TWO-HEADED ", "ARROW WITH VERTICAL STROKE|ARROW WITH DOUBLE VERTICAL " ++
    "STROKE|ARROW FROM BAR|TRIPLE DASH ARROW"),
  (0x2B38, "LEFTWARDS ARROW WITH ", "DOTTED STEM|TAIL WITH VERTICAL STROKE|TAIL WITH DOUBLE " ++
    "VERTICAL STROKE"),
  (0x2B3B, "LEFTWARDS TWO-HEADED ARROW WITH ", "TAIL|TAIL WITH VERTICAL STROKE|TAIL WITH " ++
    "DOUBLE VERTICAL STROKE"),
  (0x2B3E, "", "LEFTWARDS ARROW THROUGH X|WAVE ARROW POINTING DIRECTLY LEFT|EQUALS SIGN ABOVE " ++
    "LEFTWARDS ARROW|REVERSE TILDE OPERATOR ABOVE LEFTWARDS ARROW|LEFTWARDS ARROW ABOVE " ++
    "REVERSE ALMOST EQUAL TO"),
  (0x2B43, "RIGHTWARDS ARROW THROUGH ", "GREATER-THAN|SUPERSET"),
  (0x2B45, "", "LEFTWARDS QUADRUPLE ARROW|RIGHTWARDS QUADRUPLE ARROW|REVERSE TILDE OPERATOR " ++
    "ABOVE RIGHTWARDS ARROW|RIGHTWARDS ARROW ABOVE REVERSE ALMOST EQUAL TO|TILDE OPERATOR " ++
    "ABOVE LEFTWARDS ARROW"),
  (0x2B4A, "LEFTWARDS ARROW ABOVE ", "ALMOST EQUAL TO|REVERSE TILDE OPERATOR"),
  (0x2B4C, "", "RIGHTWARDS ARROW ABOVE REVERSE TILDE OPERATOR|DOWNWARDS TRIANGLE-HEADED " ++
    "ZIGZAG ARROW|SHORT SLANTED NORTH ARROW|SHORT BACKSLANTED SOUTH ARROW|WHITE MEDIUM STAR|" ++
    "BLACK SMALL STAR|WHITE SMALL STAR|BLACK RIGHT-POINTING PENTAGON|WHITE RIGHT-POINTING " ++
    "PENTAGON"),
  (0x2B55, "HEAVY ", "LARGE CIRCLE|OVAL WITH OVAL INSIDE|CIRCLE WITH CIRCLE INSIDE|CIRCLE|" ++
    "CIRCLED SALTIRE"),
  (0x2B5A, "", "SLANTED NORTH ARROW WITH HOOKED HEAD|BACKSLANTED SOUTH ARROW WITH HOOKED TAIL|" ++
    "SLANTED NORTH ARROW WITH HORIZONTAL TAIL|BACKSLANTED SOUTH ARROW WITH HORIZONTAL TAIL|" ++
    "BENT ARROW POINTING DOWNWARDS THEN NORTH EAST|SHORT BENT ARROW POINTING DOWNWARDS THEN " ++
    "NORTH EAST|LEFTWARDS TRIANGLE-HEADED ARROW|UPWARDS TRIANGLE-HEADED ARROW|RIGHTWARDS " ++
    "TRIANGLE-HEADED ARROW|DOWNWARDS TRIANGLE-HEADED ARROW|LEFT RIGHT TRIANGLE-HEADED ARROW|" ++
    "UP DOWN TRIANGLE-HEADED ARROW|NORTH WEST TRIANGLE-HEADED ARROW|NORTH EAST " ++
    "TRIANGLE-HEADED ARROW|SOUTH EAST TRIANGLE-HEADED ARROW|SOUTH WEST TRIANGLE-HEADED ARROW|" ++
    "LEFTWARDS TRIANGLE-HEADED DASHED ARROW|UPWARDS TRIANGLE-HEADED DASHED ARROW|RIGHTWARDS " ++
    "TRIANGLE-HEADED DASHED ARROW|DOWNWARDS TRIANGLE-HEADED DASHED ARROW|CLOCKWISE " ++
    "TRIANGLE-HEADED OPEN CIRCLE ARROW|ANTICLOCKWISE TRIANGLE-HEADED OPEN CIRCLE ARROW|" ++
    "LEFTWARDS TRIANGLE-HEADED ARROW TO BAR|UPWARDS TRIANGLE-HEADED ARROW TO BAR|RIGHTWARDS " ++
    "TRIANGLE-HEADED ARROW TO BAR|DOWNWARDS TRIANGLE-HEADED ARROW TO BAR|||NORTH WEST " ++
    "TRIANGLE-HEADED ARROW TO BAR|NORTH EAST TRIANGLE-HEADED ARROW TO BAR|SOUTH EAST " ++
    "TRIANGLE-HEADED ARROW TO BAR|SOUTH WEST TRIANGLE-HEADED ARROW TO BAR|LEFTWARDS " ++
    "TRIANGLE-HEADED ARROW WITH DOUBLE HORIZONTAL STROKE|UPWARDS TRIANGLE-HEADED ARROW WITH " ++
    "DOUBLE HORIZONTAL STROKE|RIGHTWARDS TRIANGLE-HEADED ARROW WITH DOUBLE HORIZONTAL STROKE|" ++
    "DOWNWARDS TRIANGLE-HEADED ARROW WITH DOUBLE HORIZONTAL STROKE|HORIZONTAL TAB KEY|" ++
    "VERTICAL TAB KEY|LEFTWARDS TRIANGLE-HEADED ARROW OVER RIGHTWARDS TRIANGLE-HEADED ARROW|" ++
    "UPWARDS TRIANGLE-HEADED ARROW LEFTWARDS OF DOWNWARDS TRIANGLE-HEADED ARROW|RIGHTWARDS " ++
    "TRIANGLE-HEADED ARROW OVER LEFTWARDS TRIANGLE-HEADED ARROW|DOWNWARDS TRIANGLE-HEADED " ++
    "ARROW LEFTWARDS OF UPWARDS TRIANGLE-HEADED ARROW|LEFTWARDS TRIANGLE-HEADED PAIRED ARROWS|" ++
    "UPWARDS TRIANGLE-HEADED PAIRED ARROWS|RIGHTWARDS TRIANGLE-HEADED PAIRED ARROWS|DOWNWARDS " ++
    "TRIANGLE-HEADED PAIRED ARROWS|LEFTWARDS BLACK CIRCLED WHITE ARROW|UPWARDS BLACK CIRCLED " ++
    "WHITE ARROW|RIGHTWARDS BLACK CIRCLED WHITE ARROW|DOWNWARDS BLACK CIRCLED WHITE ARROW"),
  (0x2B8C, "ANTICLOCKWISE TRIANGLE-HEADED ", "RIGHT U-SHAPED ARROW|BOTTOM U-SHAPED ARROW|LEFT " ++
    "U-SHAPED ARROW|TOP U-SHAPED ARROW"),
  (0x2B90, "", "RETURN LEFT|RETURN RIGHT|NEWLINE LEFT|NEWLINE RIGHT|FOUR CORNER ARROWS " ++
    "CIRCLING ANTICLOCKWISE|RIGHTWARDS BLACK ARROW||SYMBOL FOR TYPE A ELECTRONICS"),
  (0x2B98, "THREE-D ", "TOP-LIGHTED LEFTWARDS EQUILATERAL ARROWHEAD|RIGHT-LIGHTED UPWARDS " ++
    "EQUILATERAL ARROWHEAD|TOP-LIGHTED RIGHTWARDS EQUILATERAL ARROWHEAD|LEFT-LIGHTED " ++
    "DOWNWARDS EQUILATERAL ARROWHEAD"),
  (0x2B9C, "BLACK ", "LEFTWARDS EQUILATERAL ARROWHEAD|UPWARDS EQUILATERAL ARROWHEAD|" ++
    "RIGHTWARDS EQUILATERAL ARROWHEAD|DOWNWARDS EQUILATERAL ARROWHEAD"),
  (0x2BA0, "DOWNWARDS TRIANGLE-HEADED ARROW WITH LONG TIP ", "LEFTWARDS|RIGHTWARDS"),
  (0x2BA2, "UPWARDS TRIANGLE-HEADED ARROW WITH LONG TIP ", "LEFTWARDS|RIGHTWARDS"),
  (0x2BA4, "", "LEFTWARDS TRIANGLE-HEADED ARROW WITH LONG TIP UPWARDS|RIGHTWARDS " ++
    "TRIANGLE-HEADED ARROW WITH LONG TIP UPWARDS|LEFTWARDS TRIANGLE-HEADED ARROW WITH LONG " ++
    "TIP DOWNWARDS|RIGHTWARDS TRIANGLE-HEADED ARROW WITH LONG TIP DOWNWARDS"),
  (0x2BA8, "BLACK CURVED ", "DOWNWARDS AND LEFTWARDS ARROW|DOWNWARDS AND RIGHTWARDS ARROW|" ++
    "UPWARDS AND LEFTWARDS ARROW|UPWARDS AND RIGHTWARDS ARROW|LEFTWARDS AND UPWARDS ARROW|" ++
    "RIGHTWARDS AND UPWARDS ARROW|LEFTWARDS AND DOWNWARDS ARROW|RIGHTWARDS AND DOWNWARDS ARROW"),
  (0x2BB0, "RIBBON ARROW ", "DOWN LEFT|DOWN RIGHT|UP LEFT|UP RIGHT|LEFT UP|RIGHT UP|LEFT DOWN|" ++
    "RIGHT DOWN"),
  (0x2BB8, "", "UPWARDS WHITE ARROW FROM BAR WITH HORIZONTAL BAR|UP ARROWHEAD IN A RECTANGLE " ++
    "BOX"),
  (0x2BBA, "OVERLAPPING ", "WHITE SQUARES|WHITE AND BLACK SQUARES|BLACK SQUARES"),
  (0x2BBD, "", "BALLOT BOX WITH LIGHT X|CIRCLED X|CIRCLED BOLD X|BLACK SQUARE CENTRED|BLACK " ++
    "DIAMOND CENTRED|TURNED BLACK PENTAGON|HORIZONTAL BLACK OCTAGON|BLACK OCTAGON"),
  (0x2BC5, "BLACK MEDIUM ", "UP-POINTING TRIANGLE CENTRED|DOWN-POINTING TRIANGLE CENTRED|" ++
    "LEFT-POINTING TRIANGLE CENTRED|RIGHT-POINTING TRIANGLE CENTRED"),
  (0x2BC9, "", "NEPTUNE FORM TWO|TOP HALF BLACK CIRCLE|BOTTOM HALF BLACK CIRCLE|LIGHT FOUR " ++
    "POINTED BLACK CUSP|ROTATED LIGHT FOUR POINTED BLACK CUSP|WHITE FOUR POINTED CUSP|ROTATED " ++
    "WHITE FOUR POINTED CUSP|SQUARE POSITION INDICATOR|UNCERTAINTY SIGN|GROUP MARK"),
  (0x2BD3, "PLUTO FORM ", "TWO|THREE|FOUR|FIVE"),
  (0x2BD7, "", "TRANSPLUTO|PROSERPINA|ASTRAEA|HYGIEA|PHOLUS|NESSUS|WHITE MOON SELENA|BLACK " ++
    "DIAMOND ON CROSS|TRUE LIGHT MOON ARTA|CUPIDO|HADES|ZEUS|KRONOS|APOLLON|ADMETOS|VULCANUS|" ++
    "POSEIDON|LEFT HALF BLACK STAR|RIGHT HALF BLACK STAR|STAR WITH LEFT HALF BLACK|STAR WITH " ++
    "RIGHT HALF BLACK|LEFTWARDS TWO-HEADED ARROW WITH TRIANGLE ARROWHEADS|UPWARDS TWO-HEADED " ++
    "ARROW WITH TRIANGLE ARROWHEADS|RIGHTWARDS TWO-HEADED ARROW WITH TRIANGLE ARROWHEADS|" ++
    "DOWNWARDS TWO-HEADED ARROW WITH TRIANGLE ARROWHEADS|ERIS FORM ONE|ERIS FORM TWO|SEDNA"),
  (0x2BF3, "RUSSIAN ASTROLOGICAL SYMBOL ", "VIGINTILE|NOVILE|QUINTILE|BINOVILE|SENTAGON|" ++
    "TREDECILE"),
  (0x2BF9, "", "EQUALS SIGN WITH INFINITY BELOW|UNITED SYMBOL|SEPARATED SYMBOL|DOUBLED SYMBOL|" ++
    "PASSED SYMBOL|REVERSED RIGHT ANGLE|HELLSCHREIBER PAUSE SYMBOL")]

def kanaNames : List NameGroup := [
  (0x3000, "IDEOGRAPHIC ", "SPACE|COMMA|FULL STOP"),
  (0x3003, "", "DITTO MARK|JAPANESE INDUSTRIAL STANDARD SYMBOL"),
  (0x3005, "IDEOGRAPHIC ", "ITERATION MARK|CLOSING MARK|NUMBER ZERO"),
  (0x3008, "", "LEFT ANGLE BRACKET|RIGHT ANGLE BRACKET|LEFT DOUBLE ANGLE BRACKET|RIGHT DOUBLE " ++
    "ANGLE BRACKET|LEFT CORNER BRACKET|RIGHT CORNER BRACKET|LEFT WHITE CORNER BRACKET|RIGHT " ++
    "WHITE CORNER BRACKET|LEFT BLACK LENTICULAR BRACKET|RIGHT BLACK LENTICULAR BRACKET|POSTAL " ++
    "MARK|GETA MARK|LEFT TORTOISE SHELL BRACKET|RIGHT TORTOISE SHELL BRACKET|LEFT WHITE " ++
    "LENTICULAR BRACKET|RIGHT WHITE LENTICULAR BRACKET|LEFT WHITE TORTOISE SHELL BRACKET|" ++
    "RIGHT WHITE TORTOISE SHELL BRACKET|LEFT WHITE SQUARE BRACKET|RIGHT WHITE SQUARE BRACKET|" ++
    "WAVE DASH|REVERSED DOUBLE PRIME QUOTATION MARK|DOUBLE PRIME QUOTATION MARK|LOW DOUBLE " ++
    "PRIME QUOTATION MARK|POSTAL MARK FACE"),
  (0x3021, "HANGZHOU NUMERAL ", "ONE|TWO|THREE|FOUR|FIVE|SIX|SEVEN|EIGHT|NINE"),
  (0x302A, "IDEOGRAPHIC ", "LEVEL TONE MARK|RISING TONE MARK|DEPARTING TONE MARK|ENTERING " ++
    "TONE MARK"),
  (0x302E, "", "HANGUL SINGLE DOT TONE MARK|HANGUL DOUBLE DOT TONE MARK|WAVY DASH"),
  (0x3031, "VERTICAL KANA REPEAT ", "MARK|WITH VOICED SOUND MARK|MARK UPPER HALF|WITH VOICED " ++
    "SOUND MARK UPPER HALF|MARK LOWER HALF"),
  (0x3036, "", "CIRCLED POSTAL MARK|IDEOGRAPHIC TELEGRAPH LINE FEED SEPARATOR SYMBOL"),
  (0x3038, "HANGZHOU NUMERAL ", "TEN|TWENTY|THIRTY"),
  (0x303B, "", "VERTICAL IDEOGRAPHIC ITERATION MARK|MASU MARK|PART ALTERNATION MARK"),
  (0x303E, "IDEOGRAPHIC ", "VARIATION INDICATOR|HALF FILL SPACE"),
  (0x3041, "HIRAGANA LETTER ", "SMALL A|A|SMALL I|I|SMALL U|U|SMALL E|E|SMALL O|O|KA|GA|KI|GI|" ++
    "KU|GU|KE|GE|KO|GO|SA|ZA|SI|ZI|SU|ZU|SE|ZE|SO|ZO|TA|DA|TI|DI|SMALL TU|TU|DU|TE|DE|TO|DO|" ++
    "NA|NI|NU|NE|NO|HA|BA|PA|HI|BI|PI|HU|BU|PU|HE|BE|PE|HO|BO|PO|MA|MI|MU|ME|MO|SMALL YA|YA|" ++
    "SMALL YU|YU|SMALL YO|YO|RA|RI|RU|RE|RO|SMALL WA|WA|WI|WE|WO|N|VU|SMALL KA|SMALL KE"),
  (0x3099, "COMBINING KATAKANA-HIRAGANA ", "VOICED SOUND MARK|SEMI-VOICED SOUND MARK"),
  (0x309B, "KATAKANA-HIRAGANA ", "VOICED SOUND MARK|SEMI-VOICED SOUND MARK"),
  (0x309D, "HIRAGANA ", "ITERATION MARK|VOICED ITERATION MARK|DIGRAPH YORI"),
  (0x30A0, "", "KATAKANA-HIRAGANA DOUBLE HYPHEN"),
  (0x30A1, "KATAKANA LETTER ", "SMALL A|A|SMALL I|I|SMALL U|U|SMALL E|E|SMALL O|O|KA|GA|KI|GI|" ++
    "KU|GU|KE|GE|KO|GO|SA|ZA|SI|ZI|SU|ZU|SE|ZE|SO|ZO|TA|DA|TI|DI|SMALL TU|TU|DU|TE|DE|TO|DO|" ++
    "NA|NI|NU|NE|NO|HA|BA|PA|HI|BI|PI|HU|BU|PU|HE|BE|PE|HO|BO|PO|MA|MI|MU|ME|MO|SMALL YA|YA|" ++
    "SMALL YU|YU|SMALL YO|YO|RA|RI|RU|RE|RO|SMALL WA|WA|WI|WE|WO|N|VU|SMALL KA|SMALL KE|VA|VI|" ++
    "VE|VO"),
  (0x30FB, "", "KATAKANA MIDDLE DOT|KATAKANA-HIRAGANA PROLONGED SOUND MARK"),
  (0x30FD, "KATAKANA ", "ITERATION MARK|VOICED ITERATION MARK|DIGRAPH KOTO")]

def formNames : List NameGroup := [
  (0xFB00, "LATIN SMALL LIGATURE ", "FF|FI|FL|FFI|FFL|LONG S T|ST"),
  (0xFE00, "VARIATION SELECTOR-", "1|2|3|4|5|6|7|8|9|10|11|12|13|14|15|16"),
  (0xFE20, "COMBINING ", "LIGATURE LEFT HALF|LIGATURE RIGHT HALF|DOUBLE TILDE LEFT HALF|" ++
    "DOUBLE TILDE RIGHT HALF|MACRON LEFT HALF|MACRON RIGHT HALF|CONJOINING MACRON|LIGATURE " ++
    "LEFT HALF BELOW|LIGATURE RIGHT HALF BELOW|TILDE LEFT HALF BELOW|TILDE RIGHT HALF BELOW|" ++
    "MACRON LEFT HALF BELOW|MACRON RIGHT HALF BELOW|CONJOINING MACRON BELOW|CYRILLIC TITLO " ++
    "LEFT HALF|CYRILLIC TITLO RIGHT HALF"),
  (0xFF01, "FULLWIDTH ", "EXCLAMATION MARK|QUOTATION MARK|NUMBER SIGN|DOLLAR SIGN|PERCENT " ++
    "SIGN|AMPERSAND|APOSTROPHE|LEFT PARENTHESIS|RIGHT PARENTHESIS|ASTERISK|PLUS SIGN|COMMA|" ++
    "HYPHEN-MINUS|FULL STOP|SOLIDUS"),
  (0xFF10, "FULLWIDTH DIGIT ", "ZERO|ONE|TWO|THREE|FOUR|FIVE|SIX|SEVEN|EIGHT|NINE"),
  (0xFF1A, "FULLWIDTH ", "COLON|SEMICOLON|LESS-THAN SIGN|EQUALS SIGN|GREATER-THAN SIGN|" ++
    "QUESTION MARK|COMMERCIAL AT"),
  (0xFF21, "FULLWIDTH LATIN CAPITAL LETTER ", "A|B|C|D|E|F|G|H|I|J|K|L|M|N|O|P|Q|R|S|T|U|V|W|" ++
    "X|Y|Z"),
  (0xFF3B, "FULLWIDTH ", "LEFT SQUARE BRACKET|REVERSE SOLIDUS|RIGHT SQUARE BRACKET|CIRCUMFLEX " ++
    "ACCENT|LOW LINE|GRAVE ACCENT"),
  (0xFF41, "FULLWIDTH LATIN SMALL LETTER ", "A|B|C|D|E|F|G|H|I|J|K|L|M|N|O|P|Q|R|S|T|U|V|W|X|" ++
    "Y|Z"),
  (0xFF5B, "FULLWIDTH ", "LEFT CURLY BRACKET|VERTICAL LINE|RIGHT CURLY BRACKET|TILDE|LEFT " ++
    "WHITE PARENTHESIS|RIGHT WHITE PARENTHESIS"),
  (0xFF61, "HALFWIDTH ", "IDEOGRAPHIC FULL STOP|LEFT CORNER BRACKET|RIGHT CORNER BRACKET|" ++
    "IDEOGRAPHIC COMMA|KATAKANA MIDDLE DOT|KATAKANA LETTER WO"),
  (0xFF67, "HALFWIDTH KATAKANA LETTER SMALL ", "A|I|U|E|O|YA|YU|YO|TU"),
  (0xFF70, "", "HALFWIDTH KATAKANA-HIRAGANA PROLONGED SOUND MARK"),
  (0xFF71, "HALFWIDTH KATAKANA LETTER ", "A|I|U|E|O|KA|KI|KU|KE|KO|SA|SI|SU|SE|SO|TA|TI|TU|TE|" ++
    "TO|NA|NI|NU|NE|NO|HA|HI|HU|HE|HO|MA|MI|MU|ME|MO|YA|YU|YO|RA|RI|RU|RE|RO|WA|N"),
  (0xFF9E, "HALFWIDTH ", "KATAKANA VOICED SOUND MARK|KATAKANA SEMI-VOICED SOUND MARK|HANGUL " ++
    "FILLER"),
  (0xFFA1, "HALFWIDTH HANGUL LETTER ", "KIYEOK|SSANGKIYEOK|KIYEOK-SIOS|NIEUN|NIEUN-CIEUC|" ++
    "NIEUN-HIEUH|TIKEUT|SSANGTIKEUT|RIEUL|RIEUL-KIYEOK|RIEUL-MIEUM|RIEUL-PIEUP|RIEUL-SIOS|" ++
    "RIEUL-THIEUTH|RIEUL-PHIEUPH|RIEUL-HIEUH|MIEUM|PIEUP|SSANGPIEUP|PIEUP-SIOS|SIOS|SSANGSIOS|" ++
    "IEUNG|CIEUC|SSANGCIEUC|CHIEUCH|KHIEUKH|THIEUTH|PHIEUPH|HIEUH||||A|AE|YA|YAE|EO|E|||YEO|" ++
    "YE|O|WA|WAE|OE|||YO|U|WEO|WE|WI|YU|||EU|YI|I"),
  (0xFFE0, "FULLWIDTH ", "CENT SIGN|POUND SIGN|NOT SIGN|MACRON|BROKEN BAR|YEN SIGN|WON SIGN"),
  (0xFFE8, "HALFWIDTH ", "FORMS LIGHT VERTICAL|LEFTWARDS ARROW|UPWARDS ARROW|RIGHTWARDS ARROW|" ++
    "DOWNWARDS ARROW|BLACK SQUARE|WHITE CIRCLE"),
  (0xFFF9, "INTERLINEAR ANNOTATION ", "ANCHOR|SEPARATOR|TERMINATOR"),
  (0xFFFC, "", "OBJECT REPLACEMENT CHARACTER|REPLACEMENT CHARACTER")]

def mathematicalNames : List NameGroup := [
  (0x1D400, "MATHEMATICAL BOLD CAPITAL ", "A|B|C|D|E|F|G|H|I|J|K|L|M|N|O|P|Q|R|S|T|U|V|W|X|Y|Z"),
  (0x1D41A, "MATHEMATICAL BOLD SMALL ", "A|B|C|D|E|F|G|H|I|J|K|L|M|N|O|P|Q|R|S|T|U|V|W|X|Y|Z"),
  (0x1D434, "MATHEMATICAL ITALIC CAPITAL ", "A|B|C|D|E|F|G|H|I|J|K|L|M|N|O|P|Q|R|S|T|U|V|W|X|" ++
    "Y|Z"),
  (0x1D44E, "MATHEMATICAL ITALIC SMALL ", "A|B|C|D|E|F|G||I|J|K|L|M|N|O|P|Q|R|S|T|U|V|W|X|Y|Z"),
  (0x1D468, "MATHEMATICAL BOLD ITALIC CAPITAL ", "A|B|C|D|E|F|G|H|I|J|K|L|M|N|O|P|Q|R|S|T|U|V|" ++
    "W|X|Y|Z"),
  (0x1D482, "MATHEMATICAL BOLD ITALIC SMALL ", "A|B|C|D|E|F|G|H|I|J|K|L|M|N|O|P|Q|R|S|T|U|V|W|" ++
    "X|Y|Z"),
  (0x1D49C, "MATHEMATICAL SCRIPT CAPITAL ", "A||C|D|||G|||J|K|||N|O|P|Q||S|T|U|V|W|X|Y|Z"),
  (0x1D4B6, "MATHEMATICAL SCRIPT SMALL ", "A|B|C|D||F||H|I|J|K|L|M|N||P|Q|R|S|T|U|V|W|X|Y|Z"),
  (0x1D4D0, "MATHEMATICAL BOLD SCRIPT CAPITAL ", "A|B|C|D|E|F|G|H|I|J|K|L|M|N|O|P|Q|R|S|T|U|V|" ++
    "W|X|Y|Z"),
  (0x1D4EA, "MATHEMATICAL BOLD SCRIPT SMALL ", "A|B|C|D|E|F|G|H|I|J|K|L|M|N|O|P|Q|R|S|T|U|V|W|" ++
    "X|Y|Z"),
  (0x1D504, "MATHEMATICAL FRAKTUR CAPITAL ", "A|B||D|E|F|G|||J|K|L|M|N|O|P|Q||S|T|U|V|W|X|Y"),
  (0x1D51E, "MATHEMATICAL FRAKTUR SMALL ", "A|B|C|D|E|F|G|H|I|J|K|L|M|N|O|P|Q|R|S|T|U|V|W|X|Y|" ++
    "Z"),
  (0x1D538, "MATHEMATICAL DOUBLE-STRUCK CAPITAL ", "A|B||D|E|F|G||I|J|K|L|M||O||||S|T|U|V|W|X|" ++
    "Y"),
  (0x1D552, "MATHEMATICAL DOUBLE-STRUCK SMALL ", "A|B|C|D|E|F|G|H|I|J|K|L|M|N|O|P|Q|R|S|T|U|V|" ++
    "W|X|Y|Z"),
  (0x1D56C, "MATHEMATICAL BOLD FRAKTUR CAPITAL ", "A|B|C|D|E|F|G|H|I|J|K|L|M|N|O|P|Q|R|S|T|U|" ++
    "V|W|X|Y|Z"),
  (0x1D586, "MATHEMATICAL BOLD FRAKTUR SMALL ", "A|B|C|D|E|F|G|H|I|J|K|L|M|N|O|P|Q|R|S|T|U|V|" ++
    "W|X|Y|Z"),
  (0x1D5A0, "MATHEMATICAL SANS-SERIF CAPITAL ", "A|B|C|D|E|F|G|H|I|J|K|L|M|N|O|P|Q|R|S|T|U|V|" ++
    "W|X|Y|Z"),
  (0x1D5BA, "MATHEMATICAL SANS-SERIF SMALL ", "A|B|C|D|E|F|G|H|I|J|K|L|M|N|O|P|Q|R|S|T|U|V|W|" ++
    "X|Y|Z"),
  (0x1D5D4, "MATHEMATICAL SANS-SERIF BOLD CAPITAL ", "A|B|C|D|E|F|G|H|I|J|K|L|M|N|O|P|Q|R|S|T|" ++
    "U|V|W|X|Y|Z"),
  (0x1D5EE, "MATHEMATICAL SANS-SERIF BOLD SMALL ", "A|B|C|D|E|F|G|H|I|J|K|L|M|N|O|P|Q|R|S|T|U|" ++
    "V|W|X|Y|Z"),
  (0x1D608, "MATHEMATICAL SANS-SERIF ITALIC CAPITAL ", "A|B|C|D|E|F|G|H|I|J|K|L|M|N|O|P|Q|R|S|" ++
    "T|U|V|W|X|Y|Z"),
  (0x1D622, "MATHEMATICAL SANS-SERIF ITALIC SMALL ", "A|B|C|D|E|F|G|H|I|J|K|L|M|N|O|P|Q|R|S|T|" ++
    "U|V|W|X|Y|Z"),
  (0x1D63C, "MATHEMATICAL SANS-SERIF BOLD ITALIC CAPITAL ", "A|B|C|D|E|F|G|H|I|J|K|L|M|N|O|P|" ++
    "Q|R|S|T|U|V|W|X|Y|Z"),
  (0x1D656, "MATHEMATICAL SANS-SERIF BOLD ITALIC SMALL ", "A|B|C|D|E|F|G|H|I|J|K|L|M|N|O|P|Q|" ++
    "R|S|T|U|V|W|X|Y|Z"),
  (0x1D670, "MATHEMATICAL MONOSPACE CAPITAL ", "A|B|C|D|E|F|G|H|I|J|K|L|M|N|O|P|Q|R|S|T|U|V|W|" ++
    "X|Y|Z"),
  (0x1D68A, "MATHEMATICAL MONOSPACE SMALL ", "A|B|C|D|E|F|G|H|I|J|K|L|M|N|O|P|Q|R|S|T|U|V|W|X|" ++
    "Y|Z"),
  (0x1D6A4, "MATHEMATICAL ITALIC SMALL DOTLESS ", "I|J"),
  (0x1D6A8, "MATHEMATICAL BOLD CAPITAL ", "ALPHA|BETA|GAMMA|DELTA|EPSILON|ZETA|ETA|THETA|IOTA|" ++
    "KAPPA|LAMDA|MU|NU|XI|OMICRON|PI|RHO|THETA SYMBOL|SIGMA|TAU|UPSILON|PHI|CHI|PSI|OMEGA"),
  (0x1D6C1, "", "MATHEMATICAL BOLD NABLA"),
  (0x1D6C2, "MATHEMATICAL BOLD SMALL ", "ALPHA|BETA|GAMMA|DELTA|EPSILON|ZETA|ETA|THETA|IOTA|" ++
    "KAPPA|LAMDA|MU|NU|XI|OMICRON|PI|RHO|FINAL SIGMA|SIGMA|TAU|UPSILON|PHI|CHI|PSI|OMEGA"),
  (0x1D6DB, "MATHEMATICAL BOLD ", "PARTIAL DIFFERENTIAL|EPSILON SYMBOL|THETA SYMBOL|KAPPA " ++
    "SYMBOL|PHI SYMBOL|RHO SYMBOL|PI SYMBOL"),
  (0x1D6E2, "MATHEMATICAL ITALIC CAPITAL ", "ALPHA|BETA|GAMMA|DELTA|EPSILON|ZETA|ETA|THETA|" ++
    "IOTA|KAPPA|LAMDA|MU|NU|XI|OMICRON|PI|RHO|THETA SYMBOL|SIGMA|TAU|UPSILON|PHI|CHI|PSI|OMEGA"),
  (0x1D6FB, "", "MATHEMATICAL ITALIC NABLA"),
  (0x1D6FC, "MATHEMATICAL ITALIC SMALL ", "ALPHA|BETA|GAMMA|DELTA|EPSILON|ZETA|ETA|THETA|IOTA|" ++
    "KAPPA|LAMDA|MU|NU|XI|OMICRON|PI|RHO|FINAL SIGMA|SIGMA|TAU|UPSILON|PHI|CHI|PSI|OMEGA"),
  (0x1D715, "MATHEMATICAL ITALIC ", "PARTIAL DIFFERENTIAL|EPSILON SYMBOL|THETA SYMBOL|KAPPA " ++
    "SYMBOL|PHI SYMBOL|RHO SYMBOL|PI SYMBOL"),
  (0x1D71C, "MATHEMATICAL BOLD ITALIC CAPITAL ", "ALPHA|BETA|GAMMA|DELTA|EPSILON|ZETA|ETA|" ++
    "THETA|IOTA|KAPPA|LAMDA|MU|NU|XI|OMICRON|PI|RHO|THETA SYMBOL|SIGMA|TAU|UPSILON|PHI|CHI|" ++
    "PSI|OMEGA"),
  (0x1D735, "", "MATHEMATICAL BOLD ITALIC NABLA"),
  (0x1D736, "MATHEMATICAL BOLD ITALIC SMALL ", "ALPHA|BETA|GAMMA|DELTA|EPSILON|ZETA|ETA|THETA|" ++
    "IOTA|KAPPA|LAMDA|MU|NU|XI|OMICRON|PI|RHO|FINAL SIGMA|SIGMA|TAU|UPSILON|PHI|CHI|PSI|OMEGA"),
  (0x1D74F, "MATHEMATICAL BOLD ITALIC ", "PARTIAL DIFFERENTIAL|EPSILON SYMBOL|THETA SYMBOL|" ++
    "KAPPA SYMBOL|PHI SYMBOL|RHO SYMBOL|PI SYMBOL"),
  (0x1D756, "MATHEMATICAL SANS-SERIF BOLD CAPITAL ", "ALPHA|BETA|GAMMA|DELTA|EPSILON|ZETA|ETA|" ++
    "THETA|IOTA|KAPPA|LAMDA|MU|NU|XI|OMICRON|PI|RHO|THETA SYMBOL|SIGMA|TAU|UPSILON|PHI|CHI|" ++
    "PSI|OMEGA"),
  (0x1D76F, "", "MATHEMATICAL SANS-SERIF BOLD NABLA"),
  (0x1D770, "MATHEMATICAL SANS-SERIF BOLD SMALL ", "ALPHA|BETA|GAMMA|DELTA|EPSILON|ZETA|ETA|" ++
    "THETA|IOTA|KAPPA|LAMDA|MU|NU|XI|OMICRON|PI|RHO|FINAL SIGMA|SIGMA|TAU|UPSILON|PHI|CHI|PSI|" ++
    "OMEGA"),
  (0x1D789, "MATHEMATICAL SANS-SERIF BOLD ", "PARTIAL DIFFERENTIAL|EPSILON SYMBOL|THETA " ++
    "SYMBOL|KAPPA SYMBOL|PHI SYMBOL|RHO SYMBOL|PI SYMBOL"),
  (0x1D790, "MATHEMATICAL SANS-SERIF BOLD ITALIC CAPITAL ", "ALPHA|BETA|GAMMA|DELTA|EPSILON|" ++
    "ZETA|ETA|THETA|IOTA|KAPPA|LAMDA|MU|NU|XI|OMICRON|PI|RHO|THETA SYMBOL|SIGMA|TAU|UPSILON|" ++
    "PHI|CHI|PSI|OMEGA"),
  (0x1D7A9, "", "MATHEMATICAL SANS-SERIF BOLD ITALIC NABLA"),
  (0x1D7AA, "MATHEMATICAL SANS-SERIF BOLD ITALIC SMALL ", "ALPHA|BETA|GAMMA|DELTA|EPSILON|" ++
    "ZETA|ETA|THETA|IOTA|KAPPA|LAMDA|MU|NU|XI|OMICRON|PI|RHO|FINAL SIGMA|SIGMA|TAU|UPSILON|" ++
    "PHI|CHI|PSI|OMEGA"),
  (0x1D7C3, "MATHEMATICAL SANS-SERIF BOLD ITALIC ", "PARTIAL DIFFERENTIAL|EPSILON SYMBOL|" ++
    "THETA SYMBOL|KAPPA SYMBOL|PHI SYMBOL|RHO SYMBOL|PI SYMBOL"),
  (0x1D7CA, "MATHEMATICAL BOLD ", "CAPITAL DIGAMMA|SMALL DIGAMMA"),
  (0x1D7CE, "MATHEMATICAL BOLD DIGIT ", "ZERO|ONE|TWO|THREE|FOUR|FIVE|SIX|SEVEN|EIGHT|NINE"),
  (0x1D7D8, "MATHEMATICAL DOUBLE-STRUCK DIGIT ", "ZERO|ONE|TWO|THREE|FOUR|FIVE|SIX|SEVEN|" ++
    "EIGHT|NINE"),
  (0x1D7E2, "MATHEMATICAL SANS-SERIF DIGIT ", "ZERO|ONE|TWO|THREE|FOUR|FIVE|SIX|SEVEN|EIGHT|" ++
    "NINE"),
  (0x1D7EC, "MATHEMATICAL SANS-SERIF BOLD DIGIT ", "ZERO|ONE|TWO|THREE|FOUR|FIVE|SIX|SEVEN|" ++
    "EIGHT|NINE"),
  (0x1D7F6, "MATHEMATICAL MONOSPACE DIGIT ", "ZERO|ONE|TWO|THREE|FOUR|FIVE|SIX|SEVEN|EIGHT|" ++
    "NINE")]

def tileNames : List NameGroup := [
  (0x1F000, "MAHJONG TILE ", "EAST WIND|SOUTH WIND|WEST WIND|NORTH WIND|RED DRAGON|GREEN " ++
    "DRAGON|WHITE DRAGON|ONE OF CHARACTERS|TWO OF CHARACTERS|THREE OF CHARACTERS|FOUR OF " ++
    "CHARACTERS|FIVE OF CHARACTERS|SIX OF CHARACTERS|SEVEN OF CHARACTERS|EIGHT OF CHARACTERS|" ++
    "NINE OF CHARACTERS|ONE OF BAMBOOS|TWO OF BAMBOOS|THREE OF BAMBOOS|FOUR OF BAMBOOS|FIVE " ++
    "OF BAMBOOS|SIX OF BAMBOOS|SEVEN OF BAMBOOS|EIGHT OF BAMBOOS|NINE OF BAMBOOS|ONE OF " ++
    "CIRCLES|TWO OF CIRCLES|THREE OF CIRCLES|FOUR OF CIRCLES|FIVE OF CIRCLES|SIX OF CIRCLES|" ++
    "SEVEN OF CIRCLES|EIGHT OF CIRCLES|NINE OF CIRCLES|PLUM|ORCHID|BAMBOO|CHRYSANTHEMUM|" ++
    "SPRING|SUMMER|AUTUMN|WINTER|JOKER|BACK"),
  (0x1F030, "", "DOMINO TILE HORIZONTAL BACK"),
  (0x1F031, "DOMINO TILE HORIZONTAL-", "00-00|00-01|00-02|00-03|00-04|00-05|00-06|01-00|01-01|" ++
    "01-02|01-03|01-04|01-05|01-06|02-00|02-01|02-02|02-03|02-04|02-05|02-06|03-00|03-01|" ++
    "03-02|03-03|03-04|03-05|03-06|04-00|04-01|04-02|04-03|04-04|04-05|04-06|05-00|05-01|" ++
    "05-02|05-03|05-04|05-05|05-06|06-00|06-01|06-02|06-03|06-04|06-05|06-06"),
  (0x1F062, "", "DOMINO TILE VERTICAL BACK"),
  (0x1F063, "DOMINO TILE VERTICAL-", "00-00|00-01|00-02|00-03|00-04|00-05|00-06|01-00|01-01|" ++
    "01-02|01-03|01-04|01-05|01-06|02-00|02-01|02-02|02-03|02-04|02-05|02-06|03-00|03-01|" ++
    "03-02|03-03|03-04|03-05|03-06|04-00|04-01|04-02|04-03|04-04|04-05|04-06|05-00|05-01|" ++
    "05-02|05-03|05-04|05-05|05-06|06-00|06-01|06-02|06-03|06-04|06-05|06-06"),
  (0x1F0A0, "PLAYING CARD ", "BACK|ACE OF SPADES|TWO OF SPADES|THREE OF SPADES|FOUR OF SPADES|" ++
    "FIVE OF SPADES|SIX OF SPADES|SEVEN OF SPADES|EIGHT OF SPADES|NINE OF SPADES|TEN OF " ++
    "SPADES|JACK OF SPADES|KNIGHT OF SPADES|QUEEN OF SPADES|KING OF SPADES|||ACE OF HEARTS|" ++
    "TWO OF HEARTS|THREE OF HEARTS|FOUR OF HEARTS|FIVE OF HEARTS|SIX OF HEARTS|SEVEN OF " ++
    "HEARTS|EIGHT OF HEARTS|NINE OF HEARTS|TEN OF HEARTS|JACK OF HEARTS|KNIGHT OF HEARTS|" ++
    "QUEEN OF HEARTS|KING OF HEARTS|RED JOKER||ACE OF DIAMONDS|TWO OF DIAMONDS|THREE OF " ++
    "DIAMONDS|FOUR OF DIAMONDS|FIVE OF DIAMONDS|SIX OF DIAMONDS|SEVEN OF DIAMONDS|EIGHT OF " ++
    "DIAMONDS|NINE OF DIAMONDS|TEN OF DIAMONDS|JACK OF DIAMONDS|KNIGHT OF DIAMONDS|QUEEN OF " ++
    "DIAMONDS|KING OF DIAMONDS|BLACK JOKER||ACE OF CLUBS|TWO OF CLUBS|THREE OF CLUBS|FOUR OF " ++
    "CLUBS|FIVE OF CLUBS|SIX OF CLUBS|SEVEN OF CLUBS|EIGHT OF CLUBS|NINE OF CLUBS|TEN OF " ++
    "CLUBS|JACK OF CLUBS|KNIGHT OF CLUBS|QUEEN OF CLUBS|KING OF CLUBS|WHITE JOKER|FOOL"),
  (0x1F0E1, "PLAYING CARD TRUMP-", "1|2|3|4|5|6|7|8|9|10|11|12|13|14|15|16|17|18|19|20|21"),
  (0x1F100, "DIGIT ", "ZERO FULL STOP|ZERO COMMA|ONE COMMA|TWO COMMA|THREE COMMA|FOUR COMMA|" ++
    "FIVE COMMA|SIX COMMA|SEVEN COMMA|EIGHT COMMA|NINE COMMA"),
  (0x1F10B, "DINGBAT ", "CIRCLED SANS-SERIF DIGIT ZERO|NEGATIVE CIRCLED SANS-SERIF DIGIT ZERO"),
  (0x1F10D, "CIRCLED ", "ZERO WITH SLASH|ANTICLOCKWISE ARROW|DOLLAR SIGN WITH OVERLAID " ++
    "BACKSLASH"),
  (0x1F110, "PARENTHESIZED LATIN CAPITAL LETTER ", "A|B|C|D|E|F|G|H|I|J|K|L|M|N|O|P|Q|R|S|T|U|" ++
    "V|W|X|Y|Z"),
  (0x1F12A, "", "TORTOISE SHELL BRACKETED LATIN CAPITAL LETTER S"),
  (0x1F12B, "CIRCLED ITALIC LATIN CAPITAL LETTER ", "C|R"),
  (0x1F12D, "", "CIRCLED CD|CIRCLED WZ|COPYLEFT SYMBOL"),
  (0x1F130, "SQUARED LATIN CAPITAL LETTER ", "A|B|C|D|E|F|G|H|I|J|K|L|M|N|O|P|Q|R|S|T|U|V|W|X|" ++
    "Y|Z"),
  (0x1F14A, "SQUARED ", "HV|MV|SD|SS|PPV|WC"),
  (0x1F150, "NEGATIVE CIRCLED LATIN CAPITAL LETTER ", "A|B|C|D|E|F|G|H|I|J|K|L|M|N|O|P|Q|R|S|" ++
    "T|U|V|W|X|Y|Z"),
  (0x1F16A, "RAISED ", "MC SIGN|MD SIGN|MR SIGN"),
  (0x1F16D, "CIRCLED ", "CC|C WITH OVERLAID BACKSLASH|HUMAN FIGURE"),
  (0x1F170, "NEGATIVE SQUARED LATIN CAPITAL LETTER ", "A|B|C|D|E|F|G|H|I|J|K|L|M|N|O|P|Q|R|S|" ++
    "T|U|V|W|X|Y|Z"),
  (0x1F18A, "", "CROSSED NEGATIVE SQUARED LATIN CAPITAL LETTER P"),
  (0x1F18B, "NEGATIVE SQUARED ", "IC|PA|SA|AB|WC"),
  (0x1F190, "", "SQUARE DJ"),
  (0x1F191, "SQUARED ", "CL|COOL|FREE|ID|NEW|NG|OK|SOS|UP WITH EXCLAMATION MARK|VS|THREE D|" ++
    "SECOND SCREEN|TWO K|FOUR K|EIGHT K|FIVE POINT ONE|SEVEN POINT ONE|TWENTY-TWO POINT TWO|" ++
    "SIXTY P|ONE HUNDRED TWENTY P|LATIN SMALL LETTER D|HC|HDR|HI-RES|LOSSLESS|SHV|UHD|VOD"),
  (0x1F1AD, "", "MASK WORK SYMBOL"),
  (0x1F1E6, "REGIONAL INDICATOR SYMBOL LETTER ", "A|B|C|D|E|F|G|H|I|J|K|L|M|N|O|P|Q|R|S|T|U|V|" ++
    "W|X|Y|Z"),
  (0x1F200, "", "SQUARE HIRAGANA HOKA"),
  (0x1F201, "SQUARED KATAKANA ", "KOKO|SA"),
  (0x1F210, "SQUARED CJK UNIFIED IDEOGRAPH-", "624B|5B57|53CC"),
  (0x1F213, "", "SQUARED KATAKANA DE"),
  (0x1F214, "SQUARED CJK UNIFIED IDEOGRAPH-", "4E8C|591A|89E3|5929|4EA4|6620|7121|6599|524D|" ++
    "5F8C|518D|65B0|521D|7D42|751F|8CA9|58F0|5439|6F14|6295|6355|4E00|4E09|904A|5DE6|4E2D|" ++
    "53F3|6307|8D70|6253|7981|7A7A|5408|6E80|6709|6708|7533|5272|55B6|914D"),
  (0x1F240, "TORTOISE SHELL BRACKETED CJK UNIFIED IDEOGRAPH-", "672C|4E09|4E8C|5B89|70B9|6253|" ++
    "76D7|52DD|6557"),
  (0x1F250, "CIRCLED IDEOGRAPH ", "ADVANTAGE|ACCEPT"),
  (0x1F260, "ROUNDED SYMBOL FOR ", "FU|LU|SHOU|XI|SHUANGXI|CAI")]

def emojiNames : List NameGroup := [
  (0x1F300, "", "CYCLONE|FOGGY|CLOSED UMBRELLA|NIGHT WITH STARS|SUNRISE OVER MOUNTAINS|" ++
    "SUNRISE|CITYSCAPE AT DUSK|SUNSET OVER BUILDINGS|RAINBOW|BRIDGE AT NIGHT|WATER WAVE|" ++
    "VOLCANO|MILKY WAY"),
  (0x1F30D, "EARTH GLOBE ", "EUROPE-AFRICA|AMERICAS|ASIA-AUSTRALIA"),
  (0x1F310, "", "GLOBE WITH MERIDIANS|NEW MOON SYMBOL|WAXING CRESCENT MOON SYMBOL|FIRST " ++
    "QUARTER MOON SYMBOL|WAXING GIBBOUS MOON SYMBOL|FULL MOON SYMBOL|WANING GIBBOUS MOON " ++
    "SYMBOL|LAST QUARTER MOON SYMBOL|WANING CRESCENT MOON SYMBOL|CRESCENT MOON|NEW MOON WITH " ++
    "FACE|FIRST QUARTER MOON WITH FACE|LAST QUARTER MOON WITH FACE|FULL MOON WITH FACE|SUN " ++
    "WITH FACE|GLOWING STAR|SHOOTING STAR|THERMOMETER|BLACK DROPLET|WHITE SUN"),
  (0x1F324, "WHITE SUN ", "WITH SMALL CLOUD|BEHIND CLOUD|BEHIND CLOUD WITH RAIN"),
  (0x1F327, "CLOUD WITH ", "RAIN|SNOW|LIGHTNING|TORNADO"),
  (0x1F32B, "", "FOG|WIND BLOWING FACE|HOT DOG|TACO|BURRITO|CHESTNUT|SEEDLING|EVERGREEN TREE|" ++
    "DECIDUOUS TREE|PALM TREE|CACTUS|HOT PEPPER|TULIP|CHERRY BLOSSOM|ROSE|HIBISCUS|SUNFLOWER|" ++
    "BLOSSOM|EAR OF MAIZE|EAR OF RICE|HERB|FOUR LEAF CLOVER|MAPLE LEAF|FALLEN LEAF|LEAF " ++
    "FLUTTERING IN WIND|MUSHROOM|TOMATO|AUBERGINE|GRAPES|MELON|WATERMELON|TANGERINE|LEMON|" ++
    "BANANA|PINEAPPLE|RED APPLE|GREEN APPLE|PEAR|PEACH|CHERRIES|STRAWBERRY|HAMBURGER|SLICE OF " ++
    "PIZZA|MEAT ON BONE|POULTRY LEG|RICE CRACKER|RICE BALL|COOKED RICE|CURRY AND RICE|" ++
    "STEAMING BOWL|SPAGHETTI|BREAD|FRENCH FRIES|ROASTED SWEET POTATO|DANGO|ODEN|SUSHI|FRIED " ++
    "SHRIMP|FISH CAKE WITH SWIRL DESIGN|SOFT ICE CREAM|SHAVED ICE|ICE CREAM|DOUGHNUT|COOKIE|" ++
    "CHOCOLATE BAR|CANDY|LOLLIPOP|CUSTARD|HONEY POT|SHORTCAKE|BENTO BOX|POT OF FOOD|COOKING|" ++
    "FORK AND KNIFE|TEACUP WITHOUT HANDLE|SAKE BOTTLE AND CUP|WINE GLASS|COCKTAIL GLASS|" ++
    "TROPICAL DRINK|BEER MUG|CLINKING BEER MUGS|BABY BOTTLE|FORK AND KNIFE WITH PLATE|BOTTLE " ++
    "WITH POPPING CORK|POPCORN|RIBBON|WRAPPED PRESENT|BIRTHDAY CAKE|JACK-O-LANTERN|CHRISTMAS " ++
    "TREE|FATHER CHRISTMAS|FIREWORKS|FIREWORK SPARKLER|BALLOON|PARTY POPPER|CONFETTI BALL|" ++
    "TANABATA TREE|CROSSED FLAGS|PINE DECORATION|JAPANESE DOLLS|CARP STREAMER|WIND CHIME|MOON " ++
    "VIEWING CEREMONY|SCHOOL SATCHEL|GRADUATION CAP|HEART WITH TIP ON THE LEFT|BOUQUET OF " ++
    "FLOWERS|MILITARY MEDAL|REMINDER RIBBON|MUSICAL KEYBOARD WITH JACKS|STUDIO MICROPHONE|" ++
    "LEVEL SLIDER|CONTROL KNOBS|BEAMED ASCENDING MUSICAL NOTES|BEAMED DESCENDING MUSICAL " ++
    "NOTES|FILM FRAMES|ADMISSION TICKETS|CAROUSEL HORSE|FERRIS WHEEL|ROLLER COASTER|FISHING " ++
    "POLE AND FISH|MICROPHONE|MOVIE CAMERA|CINEMA|HEADPHONE|ARTIST PALETTE|TOP HAT|CIRCUS " ++
    "TENT|TICKET|CLAPPER BOARD|PERFORMING ARTS|VIDEO GAME|DIRECT HIT|SLOT MACHINE|BILLIARDS|" ++
    "GAME DIE|BOWLING|FLOWER PLAYING CARDS|MUSICAL NOTE|MULTIPLE MUSICAL NOTES|SAXOPHONE|" ++
    "GUITAR|MUSICAL KEYBOARD|TRUMPET|VIOLIN|MUSICAL SCORE|RUNNING SHIRT WITH SASH|TENNIS " ++
    "RACQUET AND BALL|SKI AND SKI BOOT|BASKETBALL AND HOOP|CHEQUERED FLAG|SNOWBOARDER|RUNNER|" ++
    "SURFER|SPORTS MEDAL|TROPHY|HORSE RACING|AMERICAN FOOTBALL|RUGBY FOOTBALL|SWIMMER|WEIGHT " ++
    "LIFTER|GOLFER|RACING MOTORCYCLE|RACING CAR|CRICKET BAT AND BALL|VOLLEYBALL|FIELD HOCKEY " ++
    "STICK AND BALL|ICE HOCKEY STICK AND PUCK|TABLE TENNIS PADDLE AND BALL|SNOW CAPPED " ++
    "MOUNTAIN|CAMPING|BEACH WITH UMBRELLA|BUILDING CONSTRUCTION|HOUSE BUILDINGS|CITYSCAPE|" ++
    "DERELICT HOUSE BUILDING|CLASSICAL BUILDING|DESERT|DESERT ISLAND|NATIONAL PARK|STADIUM|" ++
    "HOUSE BUILDING|HOUSE WITH GARDEN|OFFICE BUILDING|JAPANESE POST OFFICE|EUROPEAN POST " ++
    "OFFICE|HOSPITAL|BANK|AUTOMATED TELLER MACHINE|HOTEL|LOVE HOTEL|CONVENIENCE STORE|SCHOOL|" ++
    "DEPARTMENT STORE|FACTORY|IZAKAYA LANTERN|JAPANESE CASTLE|EUROPEAN CASTLE|WHITE PENNANT|" ++
    "BLACK PENNANT|WAVING WHITE FLAG|WAVING BLACK FLAG|ROSETTE|BLACK ROSETTE|LABEL|BADMINTON " ++
    "RACQUET AND SHUTTLECOCK|BOW AND ARROW|AMPHORA"),
  (0x1F3FB, "EMOJI MODIFIER FITZPATRICK TYPE-", "1-2|3|4|5|6"),
  (0x1F400, "", "RAT|MOUSE|OX|WATER BUFFALO|COW|TIGER|LEOPARD|RABBIT|CAT|DRAGON|CROCODILE|" ++
    "WHALE|SNAIL|SNAKE|HORSE|RAM|GOAT|SHEEP|MONKEY|ROOSTER|CHICKEN|DOG|PIG|BOAR|ELEPHANT|" ++
    "OCTOPUS|SPIRAL SHELL|BUG|ANT|HONEYBEE|LADY BEETLE|FISH|TROPICAL FISH|BLOWFISH|TURTLE|" ++
    "HATCHING CHICK|BABY CHICK|FRONT-FACING BABY CHICK|BIRD|PENGUIN|KOALA|POODLE|DROMEDARY " ++
    "CAMEL|BACTRIAN CAMEL|DOLPHIN|MOUSE FACE|COW FACE|TIGER FACE|RABBIT FACE|CAT FACE|DRAGON " ++
    "FACE|SPOUTING WHALE|HORSE FACE|MONKEY FACE|DOG FACE|PIG FACE|FROG FACE|HAMSTER FACE|WOLF " ++
    "FACE|BEAR FACE|PANDA FACE|PIG NOSE|PAW PRINTS|CHIPMUNK|EYES|EYE|EAR|NOSE|MOUTH|TONGUE|" ++
    "WHITE UP POINTING BACKHAND INDEX|WHITE DOWN POINTING BACKHAND INDEX|WHITE LEFT POINTING " ++
    "BACKHAND INDEX|WHITE RIGHT POINTING BACKHAND INDEX|FISTED HAND SIGN|WAVING HAND SIGN|OK " ++
    "HAND SIGN|THUMBS UP SIGN|THUMBS DOWN SIGN|CLAPPING HANDS SIGN|OPEN HANDS SIGN|CROWN|" ++
    "WOMANS HAT|EYEGLASSES|NECKTIE|T-SHIRT|JEANS|DRESS|KIMONO|BIKINI|WOMANS CLOTHES|PURSE|" ++
    "HANDBAG|POUCH|MANS SHOE|ATHLETIC SHOE|HIGH-HEELED SHOE|WOMANS SANDAL|WOMANS BOOTS|" ++
    "FOOTPRINTS|BUST IN SILHOUETTE|BUSTS IN SILHOUETTE|BOY|GIRL|MAN|WOMAN|FAMILY|MAN AND " ++
    "WOMAN HOLDING HANDS|TWO MEN HOLDING HANDS|TWO WOMEN HOLDING HANDS|POLICE OFFICER|WOMAN " ++
    "WITH BUNNY EARS|BRIDE WITH VEIL|PERSON WITH BLOND HAIR|MAN WITH GUA PI MAO|MAN WITH " ++
    "TURBAN|OLDER MAN|OLDER WOMAN|BABY|CONSTRUCTION WORKER|PRINCESS|JAPANESE OGRE|JAPANESE " ++
    "GOBLIN|GHOST|BABY ANGEL|EXTRATERRESTRIAL ALIEN|ALIEN MONSTER|IMP|SKULL|INFORMATION DESK " ++
    "PERSON|GUARDSMAN|DANCER|LIPSTICK|NAIL POLISH|FACE MASSAGE|HAIRCUT|BARBER POLE|SYRINGE|" ++
    "PILL|KISS MARK|LOVE LETTER|RING|GEM STONE|KISS|BOUQUET|COUPLE WITH HEART|WEDDING|BEATING " ++
    "HEART|BROKEN HEART|TWO HEARTS|SPARKLING HEART|GROWING HEART|HEART WITH ARROW|BLUE HEART|" ++
    "GREEN HEART|YELLOW HEART|PURPLE HEART|HEART WITH RIBBON|REVOLVING HEARTS|HEART " ++
    "DECORATION|DIAMOND SHAPE WITH A DOT INSIDE|ELECTRIC LIGHT BULB|ANGER SYMBOL|BOMB|" ++
    "SLEEPING SYMBOL|COLLISION SYMBOL|SPLASHING SWEAT SYMBOL|DROPLET|DASH SYMBOL|PILE OF POO|" ++
    "FLEXED BICEPS|DIZZY SYMBOL|SPEECH BALLOON|THOUGHT BALLOON|WHITE FLOWER|HUNDRED POINTS " ++
    "SYMBOL|MONEY BAG|CURRENCY EXCHANGE|HEAVY DOLLAR SIGN|CREDIT CARD"),
  (0x1F4B4, "BANKNOTE WITH ", "YEN SIGN|DOLLAR SIGN|EURO SIGN|POUND SIGN"),
  (0x1F4B8, "", "MONEY WITH WINGS|CHART WITH UPWARDS TREND AND YEN SIGN|SEAT|PERSONAL " ++
    "COMPUTER|BRIEFCASE|MINIDISC|FLOPPY DISK|OPTICAL DISC|DVD|FILE FOLDER|OPEN FILE FOLDER|" ++
    "PAGE WITH CURL|PAGE FACING UP|CALENDAR|TEAR-OFF CALENDAR|CARD INDEX|CHART WITH UPWARDS " ++
    "TREND|CHART WITH DOWNWARDS TREND|BAR CHART|CLIPBOARD|PUSHPIN|ROUND PUSHPIN|PAPERCLIP|" ++
    "STRAIGHT RULER|TRIANGULAR RULER|BOOKMARK TABS|LEDGER|NOTEBOOK|NOTEBOOK WITH DECORATIVE " ++
    "COVER|CLOSED BOOK|OPEN BOOK|GREEN BOOK|BLUE BOOK|ORANGE BOOK|BOOKS|NAME BADGE|SCROLL|" ++
    "MEMO|TELEPHONE RECEIVER|PAGER|FAX MACHINE|SATELLITE ANTENNA|PUBLIC ADDRESS LOUDSPEAKER|" ++
    "CHEERING MEGAPHONE|OUTBOX TRAY|INBOX TRAY|PACKAGE|E-MAIL SYMBOL|INCOMING ENVELOPE|" ++
    "ENVELOPE WITH DOWNWARDS ARROW ABOVE"),
  (0x1F4EA, "CLOSED MAILBOX WITH ", "LOWERED FLAG|RAISED FLAG"),
  (0x1F4EC, "OPEN MAILBOX WITH ", "RAISED FLAG|LOWERED FLAG"),
  (0x1F4EE, "", "POSTBOX|POSTAL HORN|NEWSPAPER|MOBILE PHONE|MOBILE PHONE WITH RIGHTWARDS " ++
    "ARROW AT LEFT|VIBRATION MODE|MOBILE PHONE OFF|NO MOBILE PHONES|ANTENNA WITH BARS|CAMERA|" ++
    "CAMERA WITH FLASH|VIDEO CAMERA|TELEVISION|RADIO|VIDEOCASSETTE|FILM PROJECTOR|PORTABLE " ++
    "STEREO|PRAYER BEADS|TWISTED RIGHTWARDS ARROWS"),
  (0x1F501, "CLOCKWISE RIGHTWARDS AND LEFTWARDS OPEN CIRCLE ", "ARROWS|ARROWS WITH CIRCLED " ++
    "ONE OVERLAY"),
  (0x1F503, "", "CLOCKWISE DOWNWARDS AND UPWARDS OPEN CIRCLE ARROWS|ANTICLOCKWISE DOWNWARDS " ++
    "AND UPWARDS OPEN CIRCLE ARROWS|LOW BRIGHTNESS SYMBOL|HIGH BRIGHTNESS SYMBOL|SPEAKER WITH " ++
    "CANCELLATION STROKE|SPEAKER|SPEAKER WITH ONE SOUND WAVE|SPEAKER WITH THREE SOUND WAVES|" ++
    "BATTERY|ELECTRIC PLUG|LEFT-POINTING MAGNIFYING GLASS|RIGHT-POINTING MAGNIFYING GLASS|" ++
    "LOCK WITH INK PEN|CLOSED LOCK WITH KEY|KEY|LOCK|OPEN LOCK|BELL|BELL WITH CANCELLATION " ++
    "STROKE|BOOKMARK|LINK SYMBOL|RADIO BUTTON|BACK WITH LEFTWARDS ARROW ABOVE|END WITH " ++
    "LEFTWARDS ARROW ABOVE|ON WITH EXCLAMATION MARK WITH LEFT RIGHT ARROW ABOVE|SOON WITH " ++
    "RIGHTWARDS ARROW ABOVE|TOP WITH UPWARDS ARROW ABOVE|NO ONE UNDER EIGHTEEN SYMBOL|KEYCAP " ++
    "TEN"),
  (0x1F520, "INPUT SYMBOL FOR ", "LATIN CAPITAL LETTERS|LATIN SMALL LETTERS|NUMBERS|SYMBOLS|" ++
    "LATIN LETTERS"),
  (0x1F525, "", "FIRE|ELECTRIC TORCH|WRENCH|HAMMER|NUT AND BOLT|HOCHO|PISTOL|MICROSCOPE|" ++
    "TELESCOPE|CRYSTAL BALL|SIX POINTED STAR WITH MIDDLE DOT|JAPANESE SYMBOL FOR BEGINNER|" ++
    "TRIDENT EMBLEM|BLACK SQUARE BUTTON|WHITE SQUARE BUTTON|LARGE RED CIRCLE|LARGE BLUE " ++
    "CIRCLE|LARGE ORANGE DIAMOND|LARGE BLUE DIAMOND|SMALL ORANGE DIAMOND|SMALL BLUE DIAMOND|" ++
    "UP-POINTING RED TRIANGLE|DOWN-POINTING RED TRIANGLE|UP-POINTING SMALL RED TRIANGLE|" ++
    "DOWN-POINTING SMALL RED TRIANGLE|LOWER RIGHT SHADOWED WHITE CIRCLE|UPPER RIGHT SHADOWED " ++
    "WHITE CIRCLE|CIRCLED CROSS POMMEE|CROSS POMMEE WITH HALF-CIRCLE BELOW|CROSS POMMEE|" ++
    "NOTCHED LEFT SEMICIRCLE WITH THREE DOTS|NOTCHED RIGHT SEMICIRCLE WITH THREE DOTS|SYMBOL " ++
    "FOR MARKS CHAPTER|WHITE LATIN CROSS|HEAVY LATIN CROSS|CELTIC CROSS|OM SYMBOL|DOVE OF " ++
    "PEACE|KAABA|MOSQUE|SYNAGOGUE|MENORAH WITH NINE BRANCHES|BOWL OF HYGIEIA"),
  (0x1F550, "CLOCK FACE ", "ONE OCLOCK|TWO OCLOCK|THREE OCLOCK|FOUR OCLOCK|FIVE OCLOCK|SIX " ++
    "OCLOCK|SEVEN OCLOCK|EIGHT OCLOCK|NINE OCLOCK|TEN OCLOCK|ELEVEN OCLOCK|TWELVE OCLOCK|" ++
    "ONE-THIRTY|TWO-THIRTY|THREE-THIRTY|FOUR-THIRTY|FIVE-THIRTY|SIX-THIRTY|SEVEN-THIRTY|" ++
    "EIGHT-THIRTY|NINE-THIRTY|TEN-THIRTY|ELEVEN-THIRTY|TWELVE-THIRTY"),
  (0x1F568, "RIGHT ", "SPEAKER|SPEAKER WITH ONE SOUND WAVE|SPEAKER WITH THREE SOUND WAVES"),
  (0x1F56B, "", "BULLHORN|BULLHORN WITH SOUND WAVES|RINGING BELL|BOOK|CANDLE|MANTELPIECE " ++
    "CLOCK|BLACK SKULL AND CROSSBONES|NO PIRACY|HOLE|MAN IN BUSINESS SUIT LEVITATING|SLEUTH " ++
    "OR SPY|DARK SUNGLASSES|SPIDER|SPIDER WEB|JOYSTICK|MAN DANCING|LEFT HAND TELEPHONE " ++
    "RECEIVER|TELEPHONE RECEIVER WITH PAGE|RIGHT HAND TELEPHONE RECEIVER|WHITE TOUCHTONE " ++
    "TELEPHONE|BLACK TOUCHTONE TELEPHONE|TELEPHONE ON TOP OF MODEM|CLAMSHELL MOBILE PHONE|" ++
    "BACK OF ENVELOPE|STAMPED ENVELOPE|ENVELOPE WITH LIGHTNING|FLYING ENVELOPE|PEN OVER " ++
    "STAMPED ENVELOPE|LINKED PAPERCLIPS|BLACK PUSHPIN"),
  (0x1F589, "LOWER LEFT ", "PENCIL|BALLPOINT PEN|FOUNTAIN PEN|PAINTBRUSH|CRAYON"),
  (0x1F58E, "", "LEFT WRITING HAND|TURNED OK HAND SIGN|RAISED HAND WITH FINGERS SPLAYED"),
  (0x1F591, "REVERSED ", "RAISED HAND WITH FINGERS SPLAYED|THUMBS UP SIGN|THUMBS DOWN SIGN|" ++
    "VICTORY HAND|HAND WITH MIDDLE FINGER EXTENDED"),
  (0x1F596, "", "RAISED HAND WITH PART BETWEEN MIDDLE AND RING FINGERS|WHITE DOWN POINTING " ++
    "LEFT HAND INDEX"),
  (0x1F598, "SIDEWAYS ", "WHITE LEFT POINTING INDEX|WHITE RIGHT POINTING INDEX|BLACK LEFT " ++
    "POINTING INDEX|BLACK RIGHT POINTING INDEX"),
  (0x1F59C, "BLACK ", "LEFT POINTING BACKHAND INDEX|RIGHT POINTING BACKHAND INDEX"),
  (0x1F59E, "SIDEWAYS ", "WHITE UP POINTING INDEX|WHITE DOWN POINTING INDEX|BLACK UP POINTING " ++
    "INDEX|BLACK DOWN POINTING INDEX"),
  (0x1F5A2, "BLACK ", "UP POINTING BACKHAND INDEX|DOWN POINTING BACKHAND INDEX|HEART"),
  (0x1F5A5, "", "DESKTOP COMPUTER|KEYBOARD AND MOUSE|THREE NETWORKED COMPUTERS|PRINTER|POCKET " ++
    "CALCULATOR|BLACK HARD SHELL FLOPPY DISK|WHITE HARD SHELL FLOPPY DISK|SOFT SHELL FLOPPY " ++
    "DISK|TAPE CARTRIDGE|WIRED KEYBOARD|ONE BUTTON MOUSE|TWO BUTTON MOUSE|THREE BUTTON MOUSE|" ++
    "TRACKBALL|OLD PERSONAL COMPUTER|HARD DISK|SCREEN|PRINTER ICON|FAX ICON|OPTICAL DISC ICON"),
  (0x1F5B9, "DOCUMENT WITH ", "TEXT|TEXT AND PICTURE|PICTURE"),
  (0x1F5BC, "FRAME WITH ", "PICTURE|TILES|AN X"),
  (0x1F5BF, "", "BLACK FOLDER|FOLDER|OPEN FOLDER|CARD INDEX DIVIDERS|CARD FILE BOX|FILE " ++
    "CABINET|EMPTY NOTE|EMPTY NOTE PAGE|EMPTY NOTE PAD|NOTE|NOTE PAGE|NOTE PAD|EMPTY DOCUMENT|" ++
    "EMPTY PAGE|EMPTY PAGES|DOCUMENT|PAGE|PAGES|WASTEBASKET|SPIRAL NOTE PAD|SPIRAL CALENDAR " ++
    "PAD|DESKTOP WINDOW|MINIMIZE|MAXIMIZE|OVERLAP|CLOCKWISE RIGHT AND LEFT SEMICIRCLE ARROWS|" ++
    "CANCELLATION X|INCREASE FONT SIZE SYMBOL|DECREASE FONT SIZE SYMBOL|COMPRESSION|OLD KEY|" ++
    "ROLLED-UP NEWSPAPER|PAGE WITH CIRCLED TEXT|STOCK CHART|DAGGER KNIFE|LIPS|SPEAKING HEAD " ++
    "IN SILHOUETTE"),
  (0x1F5E4, "THREE RAYS ", "ABOVE|BELOW|LEFT|RIGHT"),
  (0x1F5E8, "", "LEFT SPEECH BUBBLE|RIGHT SPEECH BUBBLE|TWO SPEECH BUBBLES|THREE SPEECH " ++
    "BUBBLES|LEFT THOUGHT BUBBLE|RIGHT THOUGHT BUBBLE|LEFT ANGER BUBBLE|RIGHT ANGER BUBBLE|" ++
    "MOOD BUBBLE"),
  (0x1F5F1, "LIGHTNING ", "MOOD BUBBLE|MOOD"),
  (0x1F5F3, "BALLOT ", "BOX WITH BALLOT|SCRIPT X|BOX WITH SCRIPT X|BOLD SCRIPT X|BOX WITH " ++
    "BOLD SCRIPT X"),
  (0x1F5F8, "", "LIGHT CHECK MARK|BALLOT BOX WITH BOLD CHECK|WORLD MAP|MOUNT FUJI|TOKYO TOWER|" ++
    "STATUE OF LIBERTY|SILHOUETTE OF JAPAN|MOYAI|GRINNING FACE|GRINNING FACE WITH SMILING " ++
    "EYES|FACE WITH TEARS OF JOY"),
  (0x1F603, "SMILING FACE WITH ", "OPEN MOUTH|OPEN MOUTH AND SMILING EYES|OPEN MOUTH AND COLD " ++
    "SWEAT|OPEN MOUTH AND TIGHTLY-CLOSED EYES|HALO|HORNS"),
  (0x1F609, "", "WINKING FACE|SMILING FACE WITH SMILING EYES|FACE SAVOURING DELICIOUS FOOD|" ++
    "RELIEVED FACE|SMILING FACE WITH HEART-SHAPED EYES|SMILING FACE WITH SUNGLASSES|SMIRKING " ++
    "FACE|NEUTRAL FACE|EXPRESSIONLESS FACE|UNAMUSED FACE|FACE WITH COLD SWEAT|PENSIVE FACE|" ++
    "CONFUSED FACE|CONFOUNDED FACE|KISSING FACE|FACE THROWING A KISS"),
  (0x1F619, "KISSING FACE WITH ", "SMILING EYES|CLOSED EYES"),
  (0x1F61B, "FACE WITH STUCK-OUT ", "TONGUE|TONGUE AND WINKING EYE|TONGUE AND TIGHTLY-CLOSED " ++
    "EYES"),
  (0x1F61E, "", "DISAPPOINTED FACE|WORRIED FACE|ANGRY FACE|POUTING FACE|CRYING FACE|" ++
    "PERSEVERING FACE|FACE WITH LOOK OF TRIUMPH|DISAPPOINTED BUT RELIEVED FACE|FROWNING FACE " ++
    "WITH OPEN MOUTH|ANGUISHED FACE|FEARFUL FACE|WEARY FACE|SLEEPY FACE|TIRED FACE|GRIMACING " ++
    "FACE|LOUDLY CRYING FACE|FACE WITH OPEN MOUTH|HUSHED FACE|FACE WITH OPEN MOUTH AND COLD " ++
    "SWEAT|FACE SCREAMING IN FEAR|ASTONISHED FACE|FLUSHED FACE|SLEEPING FACE|DIZZY FACE|FACE " ++
    "WITHOUT MOUTH|FACE WITH MEDICAL MASK|GRINNING CAT FACE WITH SMILING EYES|CAT FACE WITH " ++
    "TEARS OF JOY"),
  (0x1F63A, "SMILING CAT FACE WITH ", "OPEN MOUTH|HEART-SHAPED EYES"),
  (0x1F63C, "", "CAT FACE WITH WRY SMILE|KISSING CAT FACE WITH CLOSED EYES|POUTING CAT FACE|" ++
    "CRYING CAT FACE|WEARY CAT FACE|SLIGHTLY FROWNING FACE|SLIGHTLY SMILING FACE|UPSIDE-DOWN " ++
    "FACE"),
  (0x1F644, "FACE WITH ", "ROLLING EYES|NO GOOD GESTURE|OK GESTURE"),
  (0x1F647, "", "PERSON BOWING DEEPLY|SEE-NO-EVIL MONKEY|HEAR-NO-EVIL MONKEY|SPEAK-NO-EVIL " ++
    "MONKEY|HAPPY PERSON RAISING ONE HAND"),
  (0x1F64C, "PERSON ", "RAISING BOTH HANDS IN CELEBRATION|FROWNING|WITH POUTING FACE|WITH " ++
    "FOLDED HANDS"),
  (0x1F650, "", "NORTH WEST POINTING LEAF|SOUTH WEST POINTING LEAF|NORTH EAST POINTING LEAF|" ++
    "SOUTH EAST POINTING LEAF"),
  (0x1F654, "TURNED ", "NORTH WEST POINTING LEAF|SOUTH WEST POINTING LEAF|NORTH EAST POINTING " ++
    "LEAF|SOUTH EAST POINTING LEAF"),
  (0x1F658, "", "NORTH WEST POINTING VINE LEAF|SOUTH WEST POINTING VINE LEAF|NORTH EAST " ++
    "POINTING VINE LEAF|SOUTH EAST POINTING VINE LEAF|HEAVY NORTH WEST POINTING VINE LEAF|" ++
    "HEAVY SOUTH WEST POINTING VINE LEAF|HEAVY NORTH EAST POINTING VINE LEAF|HEAVY SOUTH EAST " ++
    "POINTING VINE LEAF|NORTH WEST POINTING BUD|SOUTH WEST POINTING BUD|NORTH EAST POINTING " ++
    "BUD|SOUTH EAST POINTING BUD"),
  (0x1F664, "HEAVY ", "NORTH WEST POINTING BUD|SOUTH WEST POINTING BUD|NORTH EAST POINTING " ++
    "BUD|SOUTH EAST POINTING BUD"),
  (0x1F668, "HOLLOW QUILT SQUARE ", "ORNAMENT|ORNAMENT IN BLACK SQUARE"),
  (0x1F66A, "SOLID QUILT SQUARE ", "ORNAMENT|ORNAMENT IN BLACK SQUARE"),
  (0x1F66C, "", "LEFTWARDS ROCKET|UPWARDS ROCKET|RIGHTWARDS ROCKET|DOWNWARDS ROCKET|SCRIPT " ++
    "LIGATURE ET ORNAMENT|HEAVY SCRIPT LIGATURE ET ORNAMENT|LIGATURE OPEN ET ORNAMENT|HEAVY " ++
    "LIGATURE OPEN ET ORNAMENT|HEAVY AMPERSAND ORNAMENT|SWASH AMPERSAND ORNAMENT"),
  (0x1F676, "SANS-SERIF HEAVY ", "DOUBLE TURNED COMMA QUOTATION MARK ORNAMENT|DOUBLE COMMA " ++
    "QUOTATION MARK ORNAMENT|LOW DOUBLE COMMA QUOTATION MARK ORNAMENT"),
  (0x1F679, "", "HEAVY INTERROBANG ORNAMENT|SANS-SERIF INTERROBANG ORNAMENT|HEAVY SANS-SERIF " ++
    "INTERROBANG ORNAMENT|VERY HEAVY SOLIDUS|VERY HEAVY REVERSE SOLIDUS|CHECKER BOARD|REVERSE " ++
    "CHECKER BOARD|ROCKET|HELICOPTER|STEAM LOCOMOTIVE|RAILWAY CAR|HIGH-SPEED TRAIN|HIGH-SPEED " ++
    "TRAIN WITH BULLET NOSE|TRAIN|METRO|LIGHT RAIL|STATION|TRAM|TRAM CAR|BUS|ONCOMING BUS|" ++
    "TROLLEYBUS|BUS STOP|MINIBUS|AMBULANCE|FIRE ENGINE|POLICE CAR|ONCOMING POLICE CAR|TAXI|" ++
    "ONCOMING TAXI|AUTOMOBILE|ONCOMING AUTOMOBILE|RECREATIONAL VEHICLE|DELIVERY TRUCK|" ++
    "ARTICULATED LORRY|TRACTOR|MONORAIL|MOUNTAIN RAILWAY|SUSPENSION RAILWAY|MOUNTAIN CABLEWAY|" ++
    "AERIAL TRAMWAY|SHIP|ROWBOAT|SPEEDBOAT|HORIZONTAL TRAFFIC LIGHT|VERTICAL TRAFFIC LIGHT|" ++
    "CONSTRUCTION SIGN|POLICE CARS REVOLVING LIGHT|TRIANGULAR FLAG ON POST|DOOR|NO ENTRY SIGN|" ++
    "SMOKING SYMBOL|NO SMOKING SYMBOL|PUT LITTER IN ITS PLACE SYMBOL|DO NOT LITTER SYMBOL|" ++
    "POTABLE WATER SYMBOL|NON-POTABLE WATER SYMBOL|BICYCLE|NO BICYCLES|BICYCLIST|MOUNTAIN " ++
    "BICYCLIST|PEDESTRIAN|NO PEDESTRIANS|CHILDREN CROSSING|MENS SYMBOL|WOMENS SYMBOL|RESTROOM|" ++
    "BABY SYMBOL|TOILET|WATER CLOSET|SHOWER|BATH|BATHTUB|PASSPORT CONTROL|CUSTOMS|BAGGAGE " ++
    "CLAIM|LEFT LUGGAGE|TRIANGLE WITH ROUNDED CORNERS|PROHIBITED SIGN|CIRCLED INFORMATION " ++
    "SOURCE|BOYS SYMBOL|GIRLS SYMBOL|COUCH AND LAMP|SLEEPING ACCOMMODATION|SHOPPING BAGS|" ++
    "BELLHOP BELL|BED|PLACE OF WORSHIP|OCTAGONAL SIGN|SHOPPING TROLLEY|STUPA|PAGODA|HINDU " ++
    "TEMPLE|HUT|ELEVATOR"),
  (0x1F6DD, "", "PLAYGROUND SLIDE|WHEEL|RING BUOY|HAMMER AND WRENCH|SHIELD|OIL DRUM|MOTORWAY|" ++
    "RAILWAY TRACK|MOTOR BOAT"),
  (0x1F6E6, "UP-POINTING ", "MILITARY AIRPLANE|AIRPLANE|SMALL AIRPLANE"),
  (0x1F6E9, "", "SMALL AIRPLANE|NORTHEAST-POINTING AIRPLANE|AIRPLANE DEPARTURE|AIRPLANE " ++
    "ARRIVING||||SATELLITE|ONCOMING FIRE ENGINE|DIESEL LOCOMOTIVE|PASSENGER SHIP|SCOOTER|" ++
    "MOTOR SCOOTER|CANOE|SLED|FLYING SAUCER|SKATEBOARD|AUTO RICKSHAW|PICKUP TRUCK|ROLLER SKATE"),
  (0x1F700, "ALCHEMICAL SYMBOL FOR ", "QUINTESSENCE|AIR|FIRE|EARTH|WATER|AQUAFORTIS|AQUA " ++
    "REGIA|AQUA REGIA-2|AQUA VITAE|AQUA VITAE-2|VINEGAR|VINEGAR-2|VINEGAR-3|SULFUR|" ++
    "PHILOSOPHERS SULFUR|BLACK SULFUR|MERCURY SUBLIMATE|MERCURY SUBLIMATE-2|MERCURY " ++
    "SUBLIMATE-3|CINNABAR|SALT|NITRE|VITRIOL|VITRIOL-2|ROCK SALT|ROCK SALT-2|GOLD|SILVER|IRON " ++
    "ORE|IRON ORE-2|CROCUS OF IRON|REGULUS OF IRON|COPPER ORE|IRON-COPPER ORE|SUBLIMATE OF " ++
    "COPPER|CROCUS OF COPPER|CROCUS OF COPPER-2|COPPER ANTIMONIATE|SALT OF COPPER ANTIMONIATE|" ++
    "SUBLIMATE OF SALT OF COPPER|VERDIGRIS|TIN ORE|LEAD ORE|ANTIMONY ORE|SUBLIMATE OF " ++
    "ANTIMONY|SALT OF ANTIMONY|SUBLIMATE OF SALT OF ANTIMONY|VINEGAR OF ANTIMONY|REGULUS OF " ++
    "ANTIMONY|REGULUS OF ANTIMONY-2|REGULUS|REGULUS-2|REGULUS-3|REGULUS-4|ALKALI|ALKALI-2|" ++
    "MARCASITE|SAL-AMMONIAC|ARSENIC|REALGAR|REALGAR-2|AURIPIGMENT|BISMUTH ORE|TARTAR|TARTAR-2|" ++
    "QUICK LIME|BORAX|BORAX-2|BORAX-3|ALUM|OIL|SPIRIT|TINCTURE|GUM|WAX|POWDER|CALX|TUTTY|" ++
    "CAPUT MORTUUM|SCEPTER OF JOVE|CADUCEUS|TRIDENT|STARRED TRIDENT|LODESTONE|SOAP|URINE|" ++
    "HORSE DUNG|ASHES|POT ASHES|BRICK|POWDERED BRICK|AMALGAM|STRATUM SUPER STRATUM|STRATUM " ++
    "SUPER STRATUM-2|SUBLIMATION|PRECIPITATE|DISTILL|DISSOLVE|DISSOLVE-2|PURIFY|PUTREFACTION|" ++
    "CRUCIBLE|CRUCIBLE-2|CRUCIBLE-3|CRUCIBLE-4|CRUCIBLE-5|ALEMBIC|BATH OF MARY|BATH OF " ++
    "VAPOURS|RETORT|HOUR|NIGHT|DAY-NIGHT|MONTH|HALF DRAM|HALF OUNCE"),
  (0x1F780, "BLACK ", "LEFT-POINTING ISOSCELES RIGHT TRIANGLE|UP-POINTING ISOSCELES RIGHT " ++
    "TRIANGLE|RIGHT-POINTING ISOSCELES RIGHT TRIANGLE|DOWN-POINTING ISOSCELES RIGHT TRIANGLE|" ++
    "SLIGHTLY SMALL CIRCLE"),
  (0x1F785, "", "MEDIUM BOLD WHITE CIRCLE|BOLD WHITE CIRCLE|HEAVY WHITE CIRCLE|VERY HEAVY " ++
    "WHITE CIRCLE|EXTREMELY HEAVY WHITE CIRCLE|WHITE CIRCLE CONTAINING BLACK SMALL CIRCLE|" ++
    "ROUND TARGET|BLACK TINY SQUARE|BLACK SLIGHTLY SMALL SQUARE|LIGHT WHITE SQUARE|MEDIUM " ++
    "WHITE SQUARE|BOLD WHITE SQUARE|HEAVY WHITE SQUARE|VERY HEAVY WHITE SQUARE|EXTREMELY " ++
    "HEAVY WHITE SQUARE"),
  (0x1F794, "WHITE SQUARE CONTAINING BLACK ", "VERY SMALL SQUARE|MEDIUM SQUARE"),
  (0x1F796, "", "SQUARE TARGET"),
  (0x1F797, "BLACK ", "TINY DIAMOND|VERY SMALL DIAMOND|MEDIUM SMALL DIAMOND"),
  (0x1F79A, "WHITE DIAMOND CONTAINING BLACK ", "VERY SMALL DIAMOND|MEDIUM DIAMOND"),
  (0x1F79C, "", "DIAMOND TARGET|BLACK TINY LOZENGE|BLACK VERY SMALL LOZENGE|BLACK MEDIUM " ++
    "SMALL LOZENGE|WHITE LOZENGE CONTAINING BLACK SMALL LOZENGE|THIN GREEK CROSS|LIGHT GREEK " ++
    "CROSS|MEDIUM GREEK CROSS|BOLD GREEK CROSS|VERY BOLD GREEK CROSS|VERY HEAVY GREEK CROSS|" ++
    "EXTREMELY HEAVY GREEK CROSS|THIN SALTIRE|LIGHT SALTIRE|MEDIUM SALTIRE|BOLD SALTIRE|HEAVY " ++
    "SALTIRE|VERY HEAVY SALTIRE|EXTREMELY HEAVY SALTIRE|LIGHT FIVE SPOKED ASTERISK|MEDIUM " ++
    "FIVE SPOKED ASTERISK|BOLD FIVE SPOKED ASTERISK|HEAVY FIVE SPOKED ASTERISK|VERY HEAVY " ++
    "FIVE SPOKED ASTERISK|EXTREMELY HEAVY FIVE SPOKED ASTERISK|LIGHT SIX SPOKED ASTERISK|" ++
    "MEDIUM SIX SPOKED ASTERISK|BOLD SIX SPOKED ASTERISK|HEAVY SIX SPOKED ASTERISK|VERY HEAVY " ++
    "SIX SPOKED ASTERISK|EXTREMELY HEAVY SIX SPOKED ASTERISK|LIGHT EIGHT SPOKED ASTERISK|" ++
    "MEDIUM EIGHT SPOKED ASTERISK|BOLD EIGHT SPOKED ASTERISK|HEAVY EIGHT SPOKED ASTERISK|VERY " ++
    "HEAVY EIGHT SPOKED ASTERISK|LIGHT THREE POINTED BLACK STAR|MEDIUM THREE POINTED BLACK " ++
    "STAR|THREE POINTED BLACK STAR|MEDIUM THREE POINTED PINWHEEL STAR|LIGHT FOUR POINTED " ++
    "BLACK STAR|MEDIUM FOUR POINTED BLACK STAR|FOUR POINTED BLACK STAR|MEDIUM FOUR POINTED " ++
    "PINWHEEL STAR|REVERSE LIGHT FOUR POINTED PINWHEEL STAR|LIGHT FIVE POINTED BLACK STAR|" ++
    "HEAVY FIVE POINTED BLACK STAR|MEDIUM SIX POINTED BLACK STAR|HEAVY SIX POINTED BLACK STAR|" ++
    "SIX POINTED PINWHEEL STAR|MEDIUM EIGHT POINTED BLACK STAR|HEAVY EIGHT POINTED BLACK STAR|" ++
    "VERY HEAVY EIGHT POINTED BLACK STAR|HEAVY EIGHT POINTED PINWHEEL STAR|LIGHT TWELVE " ++
    "POINTED BLACK STAR"),
  (0x1F7D3, "HEAVY TWELVE POINTED ", "BLACK STAR|PINWHEEL STAR"),
  (0x1F7D5, "", "CIRCLED TRIANGLE|NEGATIVE CIRCLED TRIANGLE|CIRCLED SQUARE|NEGATIVE CIRCLED " ++
    "SQUARE"),
  (0x1F7E0, "LARGE ", "ORANGE CIRCLE|YELLOW CIRCLE|GREEN CIRCLE|PURPLE CIRCLE|BROWN CIRCLE|" ++
    "RED SQUARE|BLUE SQUARE|ORANGE SQUARE|YELLOW SQUARE|GREEN SQUARE|PURPLE SQUARE|BROWN " ++
    "SQUARE"),
  (0x1F7F0, "", "HEAVY EQUALS SIGN"),
  (0x1F800, "", "LEFTWARDS ARROW WITH SMALL TRIANGLE ARROWHEAD|UPWARDS ARROW WITH SMALL " ++
    "TRIANGLE ARROWHEAD|RIGHTWARDS ARROW WITH SMALL TRIANGLE ARROWHEAD|DOWNWARDS ARROW WITH " ++
    "SMALL TRIANGLE ARROWHEAD|LEFTWARDS ARROW WITH MEDIUM TRIANGLE ARROWHEAD|UPWARDS ARROW " ++
    "WITH MEDIUM TRIANGLE ARROWHEAD|RIGHTWARDS ARROW WITH MEDIUM TRIANGLE ARROWHEAD|DOWNWARDS " ++
    "ARROW WITH MEDIUM TRIANGLE ARROWHEAD|LEFTWARDS ARROW WITH LARGE TRIANGLE ARROWHEAD|" ++
    "UPWARDS ARROW WITH LARGE TRIANGLE ARROWHEAD|RIGHTWARDS ARROW WITH LARGE TRIANGLE " ++
    "ARROWHEAD|DOWNWARDS ARROW WITH LARGE TRIANGLE ARROWHEAD"),
  (0x1F810, "", "LEFTWARDS ARROW WITH SMALL EQUILATERAL ARROWHEAD|UPWARDS ARROW WITH SMALL " ++
    "EQUILATERAL ARROWHEAD|RIGHTWARDS ARROW WITH SMALL EQUILATERAL ARROWHEAD|DOWNWARDS ARROW " ++
    "WITH SMALL EQUILATERAL ARROWHEAD|LEFTWARDS ARROW WITH EQUILATERAL ARROWHEAD|UPWARDS " ++
    "ARROW WITH EQUILATERAL ARROWHEAD|RIGHTWARDS ARROW WITH EQUILATERAL ARROWHEAD|DOWNWARDS " ++
    "ARROW WITH EQUILATERAL ARROWHEAD"),
  (0x1F818, "HEAVY ", "LEFTWARDS ARROW WITH EQUILATERAL ARROWHEAD|UPWARDS ARROW WITH " ++
    "EQUILATERAL ARROWHEAD|RIGHTWARDS ARROW WITH EQUILATERAL ARROWHEAD|DOWNWARDS ARROW WITH " ++
    "EQUILATERAL ARROWHEAD|LEFTWARDS ARROW WITH LARGE EQUILATERAL ARROWHEAD|UPWARDS ARROW " ++
    "WITH LARGE EQUILATERAL ARROWHEAD|RIGHTWARDS ARROW WITH LARGE EQUILATERAL ARROWHEAD|" ++
    "DOWNWARDS ARROW WITH LARGE EQUILATERAL ARROWHEAD"),
  (0x1F820, "", "LEFTWARDS TRIANGLE-HEADED ARROW WITH NARROW SHAFT|UPWARDS TRIANGLE-HEADED " ++
    "ARROW WITH NARROW SHAFT|RIGHTWARDS TRIANGLE-HEADED ARROW WITH NARROW SHAFT|DOWNWARDS " ++
    "TRIANGLE-HEADED ARROW WITH NARROW SHAFT|LEFTWARDS TRIANGLE-HEADED ARROW WITH MEDIUM " ++
    "SHAFT|UPWARDS TRIANGLE-HEADED ARROW WITH MEDIUM SHAFT|RIGHTWARDS TRIANGLE-HEADED ARROW " ++
    "WITH MEDIUM SHAFT|DOWNWARDS TRIANGLE-HEADED ARROW WITH MEDIUM SHAFT|LEFTWARDS " ++
    "TRIANGLE-HEADED ARROW WITH BOLD SHAFT|UPWARDS TRIANGLE-HEADED ARROW WITH BOLD SHAFT|" ++
    "RIGHTWARDS TRIANGLE-HEADED ARROW WITH BOLD SHAFT|DOWNWARDS TRIANGLE-HEADED ARROW WITH " ++
    "BOLD SHAFT|LEFTWARDS TRIANGLE-HEADED ARROW WITH HEAVY SHAFT|UPWARDS TRIANGLE-HEADED " ++
    "ARROW WITH HEAVY SHAFT|RIGHTWARDS TRIANGLE-HEADED ARROW WITH HEAVY SHAFT|DOWNWARDS " ++
    "TRIANGLE-HEADED ARROW WITH HEAVY SHAFT|LEFTWARDS TRIANGLE-HEADED ARROW WITH VERY HEAVY " ++
    "SHAFT|UPWARDS TRIANGLE-HEADED ARROW WITH VERY HEAVY SHAFT|RIGHTWARDS TRIANGLE-HEADED " ++
    "ARROW WITH VERY HEAVY SHAFT|DOWNWARDS TRIANGLE-HEADED ARROW WITH VERY HEAVY SHAFT|" ++
    "LEFTWARDS FINGER-POST ARROW|UPWARDS FINGER-POST ARROW|RIGHTWARDS FINGER-POST ARROW|" ++
    "DOWNWARDS FINGER-POST ARROW|LEFTWARDS SQUARED ARROW|UPWARDS SQUARED ARROW|RIGHTWARDS " ++
    "SQUARED ARROW|DOWNWARDS SQUARED ARROW|LEFTWARDS COMPRESSED ARROW|UPWARDS COMPRESSED " ++
    "ARROW|RIGHTWARDS COMPRESSED ARROW|DOWNWARDS COMPRESSED ARROW|LEFTWARDS HEAVY COMPRESSED " ++
    "ARROW|UPWARDS HEAVY COMPRESSED ARROW|RIGHTWARDS HEAVY COMPRESSED ARROW|DOWNWARDS HEAVY " ++
    "COMPRESSED ARROW|LEFTWARDS HEAVY ARROW|UPWARDS HEAVY ARROW|RIGHTWARDS HEAVY ARROW|" ++
    "DOWNWARDS HEAVY ARROW"),
  (0x1F850, "", "LEFTWARDS SANS-SERIF ARROW|UPWARDS SANS-SERIF ARROW|RIGHTWARDS SANS-SERIF " ++
    "ARROW|DOWNWARDS SANS-SERIF ARROW|NORTH WEST SANS-SERIF ARROW|NORTH EAST SANS-SERIF ARROW|" ++
    "SOUTH EAST SANS-SERIF ARROW|SOUTH WEST SANS-SERIF ARROW|LEFT RIGHT SANS-SERIF ARROW|UP " ++
    "DOWN SANS-SERIF ARROW"),
  (0x1F860, "WIDE-HEADED ", "LEFTWARDS LIGHT BARB ARROW|UPWARDS LIGHT BARB ARROW|RIGHTWARDS " ++
    "LIGHT BARB ARROW|DOWNWARDS LIGHT BARB ARROW|NORTH WEST LIGHT BARB ARROW|NORTH EAST LIGHT " ++
    "BARB ARROW|SOUTH EAST LIGHT BARB ARROW|SOUTH WEST LIGHT BARB ARROW|LEFTWARDS BARB ARROW|" ++
    "UPWARDS BARB ARROW|RIGHTWARDS BARB ARROW|DOWNWARDS BARB ARROW|NORTH WEST BARB ARROW|" ++
    "NORTH EAST BARB ARROW|SOUTH EAST BARB ARROW|SOUTH WEST BARB ARROW|LEFTWARDS MEDIUM BARB " ++
    "ARROW|UPWARDS MEDIUM BARB ARROW|RIGHTWARDS MEDIUM BARB ARROW|DOWNWARDS MEDIUM BARB ARROW|" ++
    "NORTH WEST MEDIUM BARB ARROW|NORTH EAST MEDIUM BARB ARROW|SOUTH EAST MEDIUM BARB ARROW|" ++
    "SOUTH WEST MEDIUM BARB ARROW|LEFTWARDS HEAVY BARB ARROW|UPWARDS HEAVY BARB ARROW|" ++
    "RIGHTWARDS HEAVY BARB ARROW|DOWNWARDS HEAVY BARB ARROW|NORTH WEST HEAVY BARB ARROW|NORTH " ++
    "EAST HEAVY BARB ARROW|SOUTH EAST HEAVY BARB ARROW|SOUTH WEST HEAVY BARB ARROW|LEFTWARDS " ++
    "VERY HEAVY BARB ARROW|UPWARDS VERY HEAVY BARB ARROW|RIGHTWARDS VERY HEAVY BARB ARROW|" ++
    "DOWNWARDS VERY HEAVY BARB ARROW|NORTH WEST VERY HEAVY BARB ARROW|NORTH EAST VERY HEAVY " ++
    "BARB ARROW|SOUTH EAST VERY HEAVY BARB ARROW|SOUTH WEST VERY HEAVY BARB ARROW"),
  (0x1F890, "", "LEFTWARDS TRIANGLE ARROWHEAD|UPWARDS TRIANGLE ARROWHEAD|RIGHTWARDS TRIANGLE " ++
    "ARROWHEAD|DOWNWARDS TRIANGLE ARROWHEAD|LEFTWARDS WHITE ARROW WITHIN TRIANGLE ARROWHEAD|" ++
    "UPWARDS WHITE ARROW WITHIN TRIANGLE ARROWHEAD|RIGHTWARDS WHITE ARROW WITHIN TRIANGLE " ++
    "ARROWHEAD|DOWNWARDS WHITE ARROW WITHIN TRIANGLE ARROWHEAD|LEFTWARDS ARROW WITH NOTCHED " ++
    "TAIL|UPWARDS ARROW WITH NOTCHED TAIL|RIGHTWARDS ARROW WITH NOTCHED TAIL|DOWNWARDS ARROW " ++
    "WITH NOTCHED TAIL"),
  (0x1F89C, "HEAVY ARROW SHAFT WIDTH ", "ONE|TWO THIRDS|ONE HALF|ONE THIRD"),
  (0x1F8A0, "", "LEFTWARDS BOTTOM-SHADED WHITE ARROW|RIGHTWARDS BOTTOM SHADED WHITE ARROW|" ++
    "LEFTWARDS TOP SHADED WHITE ARROW|RIGHTWARDS TOP SHADED WHITE ARROW|LEFTWARDS LEFT-SHADED " ++
    "WHITE ARROW|RIGHTWARDS RIGHT-SHADED WHITE ARROW|LEFTWARDS RIGHT-SHADED WHITE ARROW|" ++
    "RIGHTWARDS LEFT-SHADED WHITE ARROW|LEFTWARDS BACK-TILTED SHADOWED WHITE ARROW|RIGHTWARDS " ++
    "BACK-TILTED SHADOWED WHITE ARROW|LEFTWARDS FRONT-TILTED SHADOWED WHITE ARROW|RIGHTWARDS " ++
    "FRONT-TILTED SHADOWED WHITE ARROW"),
  (0x1F8AC, "WHITE ARROW SHAFT WIDTH ", "ONE|TWO THIRDS"),
  (0x1F8B0, "ARROW POINTING ", "UPWARDS THEN NORTH WEST|RIGHTWARDS THEN CURVING SOUTH WEST"),
  (0x1F900, "CIRCLED CROSS ", "FORMEE WITH FOUR DOTS|FORMEE WITH TWO DOTS|FORMEE"),
  (0x1F903, "LEFT HALF CIRCLE WITH ", "FOUR DOTS|THREE DOTS|TWO DOTS|DOT"),
  (0x1F907, "", "LEFT HALF CIRCLE"),
  (0x1F908, "DOWNWARD FACING ", "HOOK|NOTCHED HOOK|HOOK WITH DOT|NOTCHED HOOK WITH DOT"),
  (0x1F90C, "", "PINCHED FINGERS|WHITE HEART|BROWN HEART|PINCHING HAND|ZIPPER-MOUTH FACE|" ++
    "MONEY-MOUTH FACE|FACE WITH THERMOMETER|NERD FACE|THINKING FACE|FACE WITH HEAD-BANDAGE|" ++
    "ROBOT FACE|HUGGING FACE|SIGN OF THE HORNS|CALL ME HAND|RAISED BACK OF HAND|LEFT-FACING " ++
    "FIST|RIGHT-FACING FIST|HANDSHAKE|HAND WITH INDEX AND MIDDLE FINGERS CROSSED|I LOVE YOU " ++
    "HAND SIGN|FACE WITH COWBOY HAT|CLOWN FACE|NAUSEATED FACE|ROLLING ON THE FLOOR LAUGHING|" ++
    "DROOLING FACE|LYING FACE|FACE PALM|SNEEZING FACE|FACE WITH ONE EYEBROW RAISED"),
  (0x1F929, "GRINNING FACE WITH ", "STAR EYES|ONE LARGE AND ONE SMALL EYE"),
  (0x1F92B, "", "FACE WITH FINGER COVERING CLOSED LIPS|SERIOUS FACE WITH SYMBOLS COVERING " ++
    "MOUTH|SMILING FACE WITH SMILING EYES AND HAND COVERING MOUTH|FACE WITH OPEN MOUTH " ++
    "VOMITING|SHOCKED FACE WITH EXPLODING HEAD|PREGNANT WOMAN|BREAST-FEEDING|PALMS UP " ++
    "TOGETHER|SELFIE|PRINCE|MAN IN TUXEDO|MOTHER CHRISTMAS|SHRUG|PERSON DOING CARTWHEEL|" ++
    "JUGGLING|FENCER|MODERN PENTATHLON|WRESTLERS|WATER POLO|HANDBALL|DIVING MASK|WILTED " ++
    "FLOWER|DRUM WITH DRUMSTICKS|CLINKING GLASSES|TUMBLER GLASS|SPOON|GOAL NET|RIFLE|FIRST " ++
    "PLACE MEDAL|SECOND PLACE MEDAL|THIRD PLACE MEDAL|BOXING GLOVE|MARTIAL ARTS UNIFORM|" ++
    "CURLING STONE|LACROSSE STICK AND BALL|SOFTBALL|FLYING DISC|CROISSANT|AVOCADO|CUCUMBER|" ++
    "BACON|POTATO|CARROT|BAGUETTE BREAD|GREEN SALAD|SHALLOW PAN OF FOOD|STUFFED FLATBREAD|EGG|" ++
    "GLASS OF MILK|PEANUTS|KIWIFRUIT|PANCAKES|DUMPLING|FORTUNE COOKIE|TAKEOUT BOX|CHOPSTICKS|" ++
    "BOWL WITH SPOON|CUP WITH STRAW|COCONUT|BROCCOLI|PIE|PRETZEL|CUT OF MEAT|SANDWICH|CANNED " ++
    "FOOD|LEAFY GREEN|MANGO|MOON CAKE|BAGEL|SMILING FACE WITH SMILING EYES AND THREE HEARTS|" ++
    "YAWNING FACE|SMILING FACE WITH TEAR|FACE WITH PARTY HORN AND PARTY HAT|FACE WITH UNEVEN " ++
    "EYES AND WAVY MOUTH|OVERHEATED FACE|FREEZING FACE|NINJA|DISGUISED FACE|FACE HOLDING BACK " ++
    "TEARS|FACE WITH PLEADING EYES|SARI|LAB COAT|GOGGLES|HIKING BOOT|FLAT SHOE|CRAB|LION FACE|" ++
    "SCORPION|TURKEY|UNICORN FACE|EAGLE|DUCK|BAT|SHARK|OWL|FOX FACE|BUTTERFLY|DEER|GORILLA|" ++
    "LIZARD|RHINOCEROS|SHRIMP|SQUID|GIRAFFE FACE|ZEBRA FACE|HEDGEHOG|SAUROPOD|T-REX|CRICKET|" ++
    "KANGAROO|LLAMA|PEACOCK|HIPPOPOTAMUS|PARROT|RACCOON|LOBSTER|MOSQUITO|MICROBE|BADGER|SWAN|" ++
    "MAMMOTH|DODO|SLOTH|OTTER|ORANGUTAN|SKUNK|FLAMINGO|OYSTER|BEAVER|BISON|SEAL|GUIDE DOG|" ++
    "PROBING CANE"),
  (0x1F9B0, "EMOJI COMPONENT ", "RED HAIR|CURLY HAIR|BALD|WHITE HAIR"),
  (0x1F9B4, "", "BONE|LEG|FOOT|TOOTH|SUPERHERO|SUPERVILLAIN|SAFETY VEST|EAR WITH HEARING AID|" ++
    "MOTORIZED WHEELCHAIR|MANUAL WHEELCHAIR|MECHANICAL ARM|MECHANICAL LEG|CHEESE WEDGE|" ++
    "CUPCAKE|SALT SHAKER|BEVERAGE BOX|GARLIC|ONION|FALAFEL|WAFFLE|BUTTER|MATE DRINK|ICE CUBE|" ++
    "BUBBLE TEA|TROLL|STANDING PERSON|KNEELING PERSON|DEAF PERSON|FACE WITH MONOCLE|ADULT|" ++
    "CHILD|OLDER ADULT|BEARDED PERSON"),
  (0x1F9D5, "PERSON ", "WITH HEADSCARF|IN STEAMY ROOM|CLIMBING|IN LOTUS POSITION"),
  (0x1F9D9, "", "MAGE|FAIRY|VAMPIRE|MERPERSON|ELF|GENIE|ZOMBIE|BRAIN|ORANGE HEART|BILLED CAP|" ++
    "SCARF|GLOVES|COAT|SOCKS|RED GIFT ENVELOPE|FIRECRACKER|JIGSAW PUZZLE PIECE|TEST TUBE|" ++
    "PETRI DISH|DNA DOUBLE HELIX|COMPASS|ABACUS|FIRE EXTINGUISHER|TOOLBOX|BRICK|MAGNET|" ++
    "LUGGAGE|LOTION BOTTLE|SPOOL OF THREAD|BALL OF YARN|SAFETY PIN|TEDDY BEAR|BROOM|BASKET|" ++
    "ROLL OF PAPER|BAR OF SOAP|SPONGE|RECEIPT|NAZAR AMULET"),
  (0x1FA00, "NEUTRAL CHESS ", "KING|QUEEN|ROOK|BISHOP|KNIGHT|PAWN"),
  (0x1FA06, "", "WHITE CHESS KNIGHT ROTATED FORTY-FIVE DEGREES|BLACK CHESS KNIGHT ROTATED " ++
    "FORTY-FIVE DEGREES|NEUTRAL CHESS KNIGHT ROTATED FORTY-FIVE DEGREES"),
  (0x1FA09, "WHITE CHESS ", "KING ROTATED NINETY DEGREES|QUEEN ROTATED NINETY DEGREES|ROOK " ++
    "ROTATED NINETY DEGREES|BISHOP ROTATED NINETY DEGREES|KNIGHT ROTATED NINETY DEGREES|PAWN " ++
    "ROTATED NINETY DEGREES"),
  (0x1FA0F, "BLACK CHESS ", "KING ROTATED NINETY DEGREES|QUEEN ROTATED NINETY DEGREES|ROOK " ++
    "ROTATED NINETY DEGREES|BISHOP ROTATED NINETY DEGREES|KNIGHT ROTATED NINETY DEGREES|PAWN " ++
    "ROTATED NINETY DEGREES"),
  (0x1FA15, "NEUTRAL CHESS ", "KING ROTATED NINETY DEGREES|QUEEN ROTATED NINETY DEGREES|ROOK " ++
    "ROTATED NINETY DEGREES|BISHOP ROTATED NINETY DEGREES|KNIGHT ROTATED NINETY DEGREES|PAWN " ++
    "ROTATED NINETY DEGREES"),
  (0x1FA1B, "", "WHITE CHESS KNIGHT ROTATED ONE HUNDRED THIRTY-FIVE DEGREES|BLACK CHESS " ++
    "KNIGHT ROTATED ONE HUNDRED THIRTY-FIVE DEGREES|NEUTRAL CHESS KNIGHT ROTATED ONE HUNDRED " ++
    "THIRTY-FIVE DEGREES"),
  (0x1FA1E, "WHITE CHESS TURNED ", "KING|QUEEN|ROOK|BISHOP|KNIGHT|PAWN"),
  (0x1FA24, "BLACK CHESS TURNED ", "KING|QUEEN|ROOK|BISHOP|KNIGHT|PAWN"),
  (0x1FA2A, "NEUTRAL CHESS TURNED ", "KING|QUEEN|ROOK|BISHOP|KNIGHT|PAWN"),
  (0x1FA30, "", "WHITE CHESS KNIGHT ROTATED TWO HUNDRED TWENTY-FIVE DEGREES|BLACK CHESS " ++
    "KNIGHT ROTATED TWO HUNDRED TWENTY-FIVE DEGREES|NEUTRAL CHESS KNIGHT ROTATED TWO HUNDRED " ++
    "TWENTY-FIVE DEGREES"),
  (0x1FA33, "WHITE CHESS ", "KING ROTATED TWO HUNDRED SEVENTY DEGREES|QUEEN ROTATED TWO " ++
    "HUNDRED SEVENTY DEGREES|ROOK ROTATED TWO HUNDRED SEVENTY DEGREES|BISHOP ROTATED TWO " ++
    "HUNDRED SEVENTY DEGREES|KNIGHT ROTATED TWO HUNDRED SEVENTY DEGREES|PAWN ROTATED TWO " ++
    "HUNDRED SEVENTY DEGREES"),
  (0x1FA39, "BLACK CHESS ", "KING ROTATED TWO HUNDRED SEVENTY DEGREES|QUEEN ROTATED TWO " ++
    "HUNDRED SEVENTY DEGREES|ROOK ROTATED TWO HUNDRED SEVENTY DEGREES|BISHOP ROTATED TWO " ++
    "HUNDRED SEVENTY DEGREES|KNIGHT ROTATED TWO HUNDRED SEVENTY DEGREES|PAWN ROTATED TWO " ++
    "HUNDRED SEVENTY DEGREES"),
  (0x1FA3F, "NEUTRAL CHESS ", "KING ROTATED TWO HUNDRED SEVENTY DEGREES|QUEEN ROTATED TWO " ++
    "HUNDRED SEVENTY DEGREES|ROOK ROTATED TWO HUNDRED SEVENTY DEGREES|BISHOP ROTATED TWO " ++
    "HUNDRED SEVENTY DEGREES|KNIGHT ROTATED TWO HUNDRED SEVENTY DEGREES|PAWN ROTATED TWO " ++
    "HUNDRED SEVENTY DEGREES"),
  (0x1FA45, "", "WHITE CHESS KNIGHT ROTATED THREE HUNDRED FIFTEEN DEGREES|BLACK CHESS KNIGHT " ++
    "ROTATED THREE HUNDRED FIFTEEN DEGREES|NEUTRAL CHESS KNIGHT ROTATED THREE HUNDRED FIFTEEN " ++
    "DEGREES|WHITE CHESS EQUIHOPPER|BLACK CHESS EQUIHOPPER|NEUTRAL CHESS EQUIHOPPER|WHITE " ++
    "CHESS EQUIHOPPER ROTATED NINETY DEGREES|BLACK CHESS EQUIHOPPER ROTATED NINETY DEGREES|" ++
    "NEUTRAL CHESS EQUIHOPPER ROTATED NINETY DEGREES"),
  (0x1FA4E, "WHITE CHESS KNIGHT-", "QUEEN|ROOK|BISHOP"),
  (0x1FA51, "BLACK CHESS KNIGHT-", "QUEEN|ROOK|BISHOP"),
  (0x1FA60, "XIANGQI RED ", "GENERAL|MANDARIN|ELEPHANT|HORSE|CHARIOT|CANNON|SOLDIER"),
  (0x1FA67, "XIANGQI BLACK ", "GENERAL|MANDARIN|ELEPHANT|HORSE|CHARIOT|CANNON|SOLDIER"),
  (0x1FA70, "", "BALLET SHOES|ONE-PIECE SWIMSUIT|BRIEFS|SHORTS|THONG SANDAL||||DROP OF BLOOD|" ++
    "ADHESIVE BANDAGE|STETHOSCOPE|X-RAY|CRUTCH||||YO-YO|KITE|PARACHUTE|BOOMERANG|MAGIC WAND|" ++
    "PINATA|NESTING DOLLS"),
  (0x1FA90, "", "RINGED PLANET|CHAIR|RAZOR|AXE|DIYA LAMP|BANJO|MILITARY HELMET|ACCORDION|LONG " ++
    "DRUM|COIN|CARPENTRY SAW|SCREWDRIVER|LADDER|HOOK||WINDOW|PLUNGER|SEWING NEEDLE|KNOT|" ++
    "BUCKET|MOUSE TRAP|TOOTHBRUSH|HEADSTONE|PLACARD|ROCK||IDENTIFICATION CARD|LOW BATTERY|" ++
    "HAMSA||||FLY|WORM|BEETLE|COCKROACH|POTTED PLANT|WOOD|FEATHER|LOTUS|CORAL|EMPTY NEST|NEST " ++
    "WITH EGGS"),
  (0x1FAC0, "", "ANATOMICAL HEART|LUNGS|PEOPLE HUGGING|PREGNANT MAN|PREGNANT PERSON|PERSON " ++
    "WITH CROWN"),
  (0x1FAD0, "", "BLUEBERRIES|BELL PEPPER|OLIVE|FLATBREAD|TAMALE|FONDUE|TEAPOT|POURING LIQUID|" ++
    "BEANS|JAR"),
  (0x1FAE0, "", "MELTING FACE|SALUTING FACE"),
  (0x1FAE2, "FACE WITH ", "OPEN EYES AND HAND OVER MOUTH|PEEKING EYE|DIAGONAL MOUTH"),
  (0x1FAE5, "", "DOTTED LINE FACE|BITING LIP|BUBBLES"),
  (0x1FAF0, "", "HAND WITH INDEX FINGER AND THUMB CROSSED|RIGHTWARDS HAND|LEFTWARDS HAND|PALM " ++
    "DOWN HAND|PALM UP HAND|INDEX POINTING AT THE VIEWER|HEART HANDS")]

def nameGroups : List NameGroup :=
  latinNames ++ soundNames ++ greekNames ++ cyrillicNames ++
    semiticNames ++ indicNames ++ accentedNames ++ punctuationNames ++
    arrowNames ++ technicalNames ++ ornamentNames ++ operatorNames ++
    kanaNames ++ formNames ++ mathematicalNames ++ tileNames ++
    emojiNames

/-- Further names of characters, with bars between them. Control characters have no others. -/
def furtherNames : List (Nat × String) := [
  (0x0, "NULL|NUL"),
  (0x1, "START OF HEADING|SOH"),
  (0x2, "START OF TEXT|STX"),
  (0x3, "END OF TEXT|ETX"),
  (0x4, "END OF TRANSMISSION|EOT"),
  (0x5, "ENQUIRY|ENQ"),
  (0x6, "ACKNOWLEDGE|ACK"),
  (0x7, "ALERT|BEL"),
  (0x8, "BACKSPACE|BS"),
  (0x9, "CHARACTER TABULATION|HORIZONTAL TABULATION|HT|TAB"),
  (0xA, "LINE FEED|NEW LINE|END OF LINE|LF|NL|EOL"),
  (0xB, "LINE TABULATION|VERTICAL TABULATION|VT"),
  (0xC, "FORM FEED|FF"),
  (0xD, "CARRIAGE RETURN|CR"),
  (0xE, "SHIFT OUT|LOCKING-SHIFT ONE|SO"),
  (0xF, "SHIFT IN|LOCKING-SHIFT ZERO|SI"),
  (0x10, "DATA LINK ESCAPE|DLE"),
  (0x11, "DEVICE CONTROL ONE|DC1"),
  (0x12, "DEVICE CONTROL TWO|DC2"),
  (0x13, "DEVICE CONTROL THREE|DC3"),
  (0x14, "DEVICE CONTROL FOUR|DC4"),
  (0x15, "NEGATIVE ACKNOWLEDGE|NAK"),
  (0x16, "SYNCHRONOUS IDLE|SYN"),
  (0x17, "END OF TRANSMISSION BLOCK|ETB"),
  (0x18, "CANCEL|CAN"),
  (0x19, "END OF MEDIUM|EOM"),
  (0x1A, "SUBSTITUTE|SUB"),
  (0x1B, "ESCAPE|ESC"),
  (0x1C, "INFORMATION SEPARATOR FOUR|FILE SEPARATOR|FS"),
  (0x1D, "INFORMATION SEPARATOR THREE|GROUP SEPARATOR|GS"),
  (0x1E, "INFORMATION SEPARATOR TWO|RECORD SEPARATOR|RS"),
  (0x1F, "INFORMATION SEPARATOR ONE|UNIT SEPARATOR|US"),
  (0x20, "SP"),
  (0x7F, "DELETE|DEL"),
  (0x80, "PADDING CHARACTER|PAD"),
  (0x81, "HIGH OCTET PRESET|HOP"),
  (0x82, "BREAK PERMITTED HERE|BPH"),
  (0x83, "NO BREAK HERE|NBH"),
  (0x84, "INDEX|IND"),
  (0x85, "NEXT LINE|NEL"),
  (0x86, "START OF SELECTED AREA|SSA"),
  (0x87, "END OF SELECTED AREA|ESA"),
  (0x88, "CHARACTER TABULATION SET|HORIZONTAL TABULATION SET|HTS"),
  (0x89, "CHARACTER TABULATION WITH JUSTIFICATION|HORIZONTAL TABULATION WITH JUSTIFICATION|HTJ"),
  (0x8A, "LINE TABULATION SET|VERTICAL TABULATION SET|VTS"),
  (0x8B, "PARTIAL LINE FORWARD|PARTIAL LINE DOWN|PLD"),
  (0x8C, "PARTIAL LINE BACKWARD|PARTIAL LINE UP|PLU"),
  (0x8D, "REVERSE LINE FEED|REVERSE INDEX|RI"),
  (0x8E, "SINGLE SHIFT TWO|SINGLE-SHIFT-2|SS2"),
  (0x8F, "SINGLE SHIFT THREE|SINGLE-SHIFT-3|SS3"),
  (0x90, "DEVICE CONTROL STRING|DCS"),
  (0x91, "PRIVATE USE ONE|PRIVATE USE-1|PU1"),
  (0x92, "PRIVATE USE TWO|PRIVATE USE-2|PU2"),
  (0x93, "SET TRANSMIT STATE|STS"),
  (0x94, "CANCEL CHARACTER|CCH"),
  (0x95, "MESSAGE WAITING|MW"),
  (0x96, "START OF GUARDED AREA|START OF PROTECTED AREA|SPA"),
  (0x97, "END OF GUARDED AREA|END OF PROTECTED AREA|EPA"),
  (0x98, "START OF STRING|SOS"),
  (0x99, "SINGLE GRAPHIC CHARACTER INTRODUCER|SGC"),
  (0x9A, "SINGLE CHARACTER INTRODUCER|SCI"),
  (0x9B, "CONTROL SEQUENCE INTRODUCER|CSI"),
  (0x9C, "STRING TERMINATOR|ST"),
  (0x9D, "OPERATING SYSTEM COMMAND|OSC"),
  (0x9E, "PRIVACY MESSAGE|PM"),
  (0x9F, "APPLICATION PROGRAM COMMAND|APC"),
  (0xA0, "NBSP"),
  (0xAD, "SHY"),
  (0x1A2, "LATIN CAPITAL LETTER GHA"),
  (0x1A3, "LATIN SMALL LETTER GHA"),
  (0x34F, "CGJ"),
  (0x61C, "ALM"),
  (0x200B, "ZWSP"),
  (0x200C, "ZWNJ"),
  (0x200D, "ZWJ"),
  (0x200E, "LRM"),
  (0x200F, "RLM"),
  (0x202A, "LRE"),
  (0x202B, "RLE"),
  (0x202C, "PDF"),
  (0x202D, "LRO"),
  (0x202E, "RLO"),
  (0x202F, "NNBSP"),
  (0x205F, "MMSP"),
  (0x2060, "WJ"),
  (0x2066, "LRI"),
  (0x2067, "RLI"),
  (0x2068, "FSI"),
  (0x2069, "PDI"),
  (0x2118, "WEIERSTRASS ELLIPTIC FUNCTION"),
  (0x2448, "MICR ON US SYMBOL"),
  (0x2449, "MICR DASH SYMBOL"),
  (0x2B7A, "LEFTWARDS TRIANGLE-HEADED ARROW WITH DOUBLE VERTICAL STROKE"),
  (0x2B7C, "RIGHTWARDS TRIANGLE-HEADED ARROW WITH DOUBLE VERTICAL STROKE"),
  (0xFE00, "VS1"),
  (0xFE01, "VS2"),
  (0xFE02, "VS3"),
  (0xFE03, "VS4"),
  (0xFE04, "VS5"),
  (0xFE05, "VS6"),
  (0xFE06, "VS7"),
  (0xFE07, "VS8"),
  (0xFE08, "VS9"),
  (0xFE09, "VS10"),
  (0xFE0A, "VS11"),
  (0xFE0B, "VS12"),
  (0xFE0C, "VS13"),
  (0xFE0D, "VS14"),
  (0xFE0E, "VS15"),
  (0xFE0F, "VS16"),
  (0xFE18, "PRESENTATION FORM FOR VERTICAL RIGHT WHITE LENTICULAR BRACKET"),
  (0xFEFF, "BYTE ORDER MARK|BOM|ZWNBSP")]

end TestReach.Text
