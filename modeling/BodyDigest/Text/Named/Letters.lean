import BodyDigest.Text.Named.Run

/-! Names of letters, marks and digits. -/
namespace BodyDigest.NameRun

set_option maxRecDepth 20000 in
def letters : List NameRun := [
  ⟨0x20, 1, "", [
    "SPACE|EXCLAMATION MARK|QUOTATION MARK|NUMBER SIGN|DOLLAR SIGN|PERCENT SIGN|AMPERSAND",
    "APOSTROPHE|LEFT PARENTHESIS|RIGHT PARENTHESIS|ASTERISK|PLUS SIGN|COMMA|HYPHEN-MINUS",
    "FULL STOP|SOLIDUS"]⟩,
  ⟨0x30, 1, "DIGIT ", ["ZERO|ONE|TWO|THREE|FOUR|FIVE|SIX|SEVEN|EIGHT|NINE"]⟩,
  ⟨0x3a, 1, "", [
    "COLON|SEMICOLON|LESS-THAN SIGN|EQUALS SIGN|GREATER-THAN SIGN|QUESTION MARK|COMMERCIAL AT"]⟩,
  ⟨0x41, 1, "LATIN CAPITAL LETTER ", ["A|B|C|D|E|F|G|H|I|J|K|L|M|N|O|P|Q|R|S|T|U|V|W|X|Y|Z"]⟩,
  ⟨0x5b, 1, "", [
    "LEFT SQUARE BRACKET|REVERSE SOLIDUS|RIGHT SQUARE BRACKET|CIRCUMFLEX ACCENT|LOW LINE",
    "GRAVE ACCENT"]⟩,
  ⟨0x61, 1, "LATIN SMALL LETTER ", ["A|B|C|D|E|F|G|H|I|J|K|L|M|N|O|P|Q|R|S|T|U|V|W|X|Y|Z"]⟩,
  ⟨0x7b, 1, "", ["LEFT CURLY BRACKET|VERTICAL LINE|RIGHT CURLY BRACKET|TILDE"]⟩,
  ⟨0xa0, 1, "", [
    "NO-BREAK SPACE|INVERTED EXCLAMATION MARK|CENT SIGN|POUND SIGN|CURRENCY SIGN|YEN SIGN",
    "BROKEN BAR|SECTION SIGN|DIAERESIS|\x43OPYRIGHT SIGN|FEMININE ORDINAL INDICATOR",
    "LEFT-POINTING DOUBLE ANGLE QUOTATION MARK|NOT SIGN|SOFT HYPHEN|REGISTERED SIGN|MACRON",
    "DEGREE SIGN|PLUS-MINUS SIGN|SUPERSCRIPT TWO|SUPERSCRIPT THREE|ACUTE ACCENT|MICRO SIGN",
    "PILCROW SIGN|MIDDLE DOT|CEDILLA|SUPERSCRIPT ONE|MASCULINE ORDINAL INDICATOR",
    "RIGHT-POINTING DOUBLE ANGLE QUOTATION MARK|VULGAR FRACTION ONE QUARTER",
    "VULGAR FRACTION ONE HALF|VULGAR FRACTION THREE QUARTERS|INVERTED QUESTION MARK"]⟩,
  ⟨0xc0, 1, "LATIN CAPITAL LETTER ", [
    "A WITH GRAVE|A WITH ACUTE|A WITH CIRCUMFLEX|A WITH TILDE|A WITH DIAERESIS",
    "A WITH RING ABOVE|AE|C WITH CEDILLA|E WITH GRAVE|E WITH ACUTE|E WITH CIRCUMFLEX",
    "E WITH DIAERESIS|I WITH GRAVE|I WITH ACUTE|I WITH CIRCUMFLEX|I WITH DIAERESIS|ETH",
    "N WITH TILDE|O WITH GRAVE|O WITH ACUTE|O WITH CIRCUMFLEX|O WITH TILDE|O WITH DIAERESIS"]⟩,
  ⟨0xd7, 1, "", ["MULTIPLICATION SIGN"]⟩,
  ⟨0xd8, 1, "LATIN CAPITAL LETTER ", [
    "O WITH STROKE|U WITH GRAVE|U WITH ACUTE|U WITH CIRCUMFLEX|U WITH DIAERESIS|Y WITH ACUTE",
    "THORN"]⟩,
  ⟨0xdf, 1, "LATIN SMALL LETTER ", [
    "SHARP S|A WITH GRAVE|A WITH ACUTE|A WITH CIRCUMFLEX|A WITH TILDE|A WITH DIAERESIS",
    "A WITH RING ABOVE|AE|C WITH CEDILLA|E WITH GRAVE|E WITH ACUTE|E WITH CIRCUMFLEX",
    "E WITH DIAERESIS|I WITH GRAVE|I WITH ACUTE|I WITH CIRCUMFLEX|I WITH DIAERESIS|ETH",
    "N WITH TILDE|O WITH GRAVE|O WITH ACUTE|O WITH CIRCUMFLEX|O WITH TILDE|O WITH DIAERESIS"]⟩,
  ⟨0xf7, 1, "", ["DIVISION SIGN"]⟩,
  ⟨0xf8, 1, "LATIN SMALL LETTER ", [
    "O WITH STROKE|U WITH GRAVE|U WITH ACUTE|U WITH CIRCUMFLEX|U WITH DIAERESIS|Y WITH ACUTE",
    "THORN|Y WITH DIAERESIS"]⟩,
  ⟨0x100, 2, "LATIN CAPITAL LETTER ", [
    "A WITH MACRON|A WITH BREVE|A WITH OGONEK|C WITH ACUTE|C WITH CIRCUMFLEX|C WITH DOT ABOVE",
    "C WITH CARON|D WITH CARON|D WITH STROKE|E WITH MACRON|E WITH BREVE|E WITH DOT ABOVE",
    "E WITH OGONEK|E WITH CARON|G WITH CIRCUMFLEX|G WITH BREVE|G WITH DOT ABOVE",
    "G WITH CEDILLA|H WITH CIRCUMFLEX|H WITH STROKE|I WITH TILDE|I WITH MACRON|I WITH BREVE",
    "I WITH OGONEK|I WITH DOT ABOVE"]⟩,
  ⟨0x101, 2, "LATIN SMALL LETTER ", [
    "A WITH MACRON|A WITH BREVE|A WITH OGONEK|C WITH ACUTE|C WITH CIRCUMFLEX|C WITH DOT ABOVE",
    "C WITH CARON|D WITH CARON|D WITH STROKE|E WITH MACRON|E WITH BREVE|E WITH DOT ABOVE",
    "E WITH OGONEK|E WITH CARON|G WITH CIRCUMFLEX|G WITH BREVE|G WITH DOT ABOVE",
    "G WITH CEDILLA|H WITH CIRCUMFLEX|H WITH STROKE|I WITH TILDE|I WITH MACRON|I WITH BREVE",
    "I WITH OGONEK|DOTLESS I"]⟩,
  ⟨0x132, 1, "LATIN ", [
    "CAPITAL LIGATURE IJ|SMALL LIGATURE IJ|CAPITAL LETTER J WITH CIRCUMFLEX",
    "SMALL LETTER J WITH CIRCUMFLEX|CAPITAL LETTER K WITH CEDILLA|SMALL LETTER K WITH CEDILLA",
    "SMALL LETTER KRA"]⟩,
  ⟨0x139, 2, "LATIN CAPITAL LETTER L WITH ", ["ACUTE|CEDILLA|CARON|MIDDLE DOT|STROKE"]⟩,
  ⟨0x13a, 2, "LATIN SMALL LETTER L WITH ", ["ACUTE|CEDILLA|CARON|MIDDLE DOT|STROKE"]⟩,
  ⟨0x143, 2, "LATIN CAPITAL LETTER N WITH ", ["ACUTE|CEDILLA|CARON"]⟩,
  ⟨0x144, 2, "LATIN SMALL LETTER N WITH ", ["ACUTE|CEDILLA|CARON"]⟩,
  ⟨0x149, 2, "LATIN SMALL ", [
    "LETTER N PRECEDED BY APOSTROPHE|LETTER ENG|LETTER O WITH MACRON|LETTER O WITH BREVE",
    "LETTER O WITH DOUBLE ACUTE|LIGATURE OE"]⟩,
  ⟨0x14a, 2, "LATIN CAPITAL ", [
    "LETTER ENG|LETTER O WITH MACRON|LETTER O WITH BREVE|LETTER O WITH DOUBLE ACUTE",
    "LIGATURE OE|LETTER R WITH ACUTE"]⟩,
  ⟨0x155, 2, "LATIN SMALL LETTER ", [
    "R WITH ACUTE|R WITH CEDILLA|R WITH CARON|S WITH ACUTE|S WITH CIRCUMFLEX|S WITH CEDILLA",
    "S WITH CARON|T WITH CEDILLA|T WITH CARON|T WITH STROKE|U WITH TILDE|U WITH MACRON",
    "U WITH BREVE|U WITH RING ABOVE|U WITH DOUBLE ACUTE|U WITH OGONEK|W WITH CIRCUMFLEX",
    "Y WITH CIRCUMFLEX"]⟩,
  ⟨0x156, 2, "LATIN CAPITAL LETTER ", [
    "R WITH CEDILLA|R WITH CARON|S WITH ACUTE|S WITH CIRCUMFLEX|S WITH CEDILLA|S WITH CARON",
    "T WITH CEDILLA|T WITH CARON|T WITH STROKE|U WITH TILDE|U WITH MACRON|U WITH BREVE",
    "U WITH RING ABOVE|U WITH DOUBLE ACUTE|U WITH OGONEK|W WITH CIRCUMFLEX|Y WITH CIRCUMFLEX",
    "Y WITH DIAERESIS"]⟩,
  ⟨0x179, 2, "LATIN CAPITAL LETTER Z WITH ", ["ACUTE|DOT ABOVE|CARON"]⟩,
  ⟨0x17a, 2, "LATIN SMALL LETTER Z WITH ", ["ACUTE|DOT ABOVE|CARON"]⟩,
  ⟨0x17f, 1, "LATIN ", [
    "SMALL LETTER LONG S|SMALL LETTER B WITH STROKE|CAPITAL LETTER B WITH HOOK",
    "CAPITAL LETTER B WITH TOPBAR|SMALL LETTER B WITH TOPBAR|CAPITAL LETTER TONE SIX",
    "SMALL LETTER TONE SIX|CAPITAL LETTER OPEN O|CAPITAL LETTER C WITH HOOK",
    "SMALL LETTER C WITH HOOK|CAPITAL LETTER AFRICAN D|CAPITAL LETTER D WITH HOOK",
    "CAPITAL LETTER D WITH TOPBAR|SMALL LETTER D WITH TOPBAR|SMALL LETTER TURNED DELTA"]⟩,
  ⟨0x18e, 1, "LATIN CAPITAL LETTER ", ["REVERSED E|SCHWA|OPEN E|F WITH HOOK"]⟩,
  ⟨0x192, 1, "LATIN ", [
    "SMALL LETTER F WITH HOOK|CAPITAL LETTER G WITH HOOK|CAPITAL LETTER GAMMA|SMALL LETTER HV",
    "CAPITAL LETTER IOTA|CAPITAL LETTER I WITH STROKE|CAPITAL LETTER K WITH HOOK",
    "SMALL LETTER K WITH HOOK|SMALL LETTER L WITH BAR|SMALL LETTER LAMBDA WITH STROKE",
    "CAPITAL LETTER TURNED M|CAPITAL LETTER N WITH LEFT HOOK",
    "SMALL LETTER N WITH LONG RIGHT LEG|CAPITAL LETTER O WITH MIDDLE TILDE",
    "CAPITAL LETTER O WITH HORN|SMALL LETTER O WITH HORN|CAPITAL LETTER OI|SMALL LETTER OI",
    "CAPITAL LETTER P WITH HOOK|SMALL LETTER P WITH HOOK|LETTER YR|CAPITAL LETTER TONE TWO",
    "SMALL LETTER TONE TWO|CAPITAL LETTER ESH|LETTER REVERSED ESH LOOP",
    "SMALL LETTER T WITH PALATAL HOOK|CAPITAL LETTER T WITH HOOK|SMALL LETTER T WITH HOOK",
    "CAPITAL LETTER T WITH RETROFLEX HOOK|CAPITAL LETTER U WITH HORN|SMALL LETTER U WITH HORN",
    "CAPITAL LETTER UPSILON|CAPITAL LETTER V WITH HOOK|CAPITAL LETTER Y WITH HOOK",
    "SMALL LETTER Y WITH HOOK|CAPITAL LETTER Z WITH STROKE|SMALL LETTER Z WITH STROKE",
    "CAPITAL LETTER EZH|CAPITAL LETTER EZH REVERSED|SMALL LETTER EZH REVERSED",
    "SMALL LETTER EZH WITH TAIL|LETTER TWO WITH STROKE|CAPITAL LETTER TONE FIVE",
    "SMALL LETTER TONE FIVE|LETTER INVERTED GLOTTAL STOP WITH STROKE|LETTER WYNN",
    "LETTER DENTAL CLICK|LETTER LATERAL CLICK|LETTER ALVEOLAR CLICK|LETTER RETROFLEX CLICK",
    "CAPITAL LETTER DZ WITH CARON|CAPITAL LETTER D WITH SMALL LETTER Z WITH CARON",
    "SMALL LETTER DZ WITH CARON|CAPITAL LETTER LJ|CAPITAL LETTER L WITH SMALL LETTER J",
    "SMALL LETTER LJ|CAPITAL LETTER NJ"]⟩,
  ⟨0x1cb, 2, "LATIN CAPITAL LETTER ", [
    "N WITH SMALL LETTER J|A WITH CARON|I WITH CARON|O WITH CARON|U WITH CARON"]⟩,
  ⟨0x1cc, 2, "LATIN SMALL LETTER ", ["NJ|A WITH CARON|I WITH CARON|O WITH CARON|U WITH CARON"]⟩,
  ⟨0x1d5, 2, "LATIN CAPITAL LETTER U WITH DIAERESIS AND ", ["MACRON|ACUTE|CARON|GRAVE"]⟩,
  ⟨0x1d6, 2, "LATIN SMALL LETTER U WITH DIAERESIS AND ", ["MACRON|ACUTE|CARON|GRAVE"]⟩,
  ⟨0x1dd, 2, "LATIN SMALL LETTER ", [
    "TURNED E|A WITH DIAERESIS AND MACRON|A WITH DOT ABOVE AND MACRON|AE WITH MACRON",
    "G WITH STROKE|G WITH CARON|K WITH CARON|O WITH OGONEK|O WITH OGONEK AND MACRON"]⟩,
  ⟨0x1de, 2, "LATIN CAPITAL LETTER ", [
    "A WITH DIAERESIS AND MACRON|A WITH DOT ABOVE AND MACRON|AE WITH MACRON|G WITH STROKE",
    "G WITH CARON|K WITH CARON|O WITH OGONEK|O WITH OGONEK AND MACRON|EZH WITH CARON"]⟩,
  ⟨0x1ef, 1, "LATIN ", [
    "SMALL LETTER EZH WITH CARON|SMALL LETTER J WITH CARON|CAPITAL LETTER DZ",
    "CAPITAL LETTER D WITH SMALL LETTER Z|SMALL LETTER DZ|CAPITAL LETTER G WITH ACUTE",
    "SMALL LETTER G WITH ACUTE|CAPITAL LETTER HWAIR|CAPITAL LETTER WYNN"]⟩,
  ⟨0x1f8, 2, "LATIN CAPITAL LETTER ", [
    "N WITH GRAVE|A WITH RING ABOVE AND ACUTE|AE WITH ACUTE|O WITH STROKE AND ACUTE",
    "A WITH DOUBLE GRAVE|A WITH INVERTED BREVE|E WITH DOUBLE GRAVE|E WITH INVERTED BREVE",
    "I WITH DOUBLE GRAVE|I WITH INVERTED BREVE|O WITH DOUBLE GRAVE|O WITH INVERTED BREVE",
    "R WITH DOUBLE GRAVE|R WITH INVERTED BREVE|U WITH DOUBLE GRAVE|U WITH INVERTED BREVE",
    "S WITH COMMA BELOW|T WITH COMMA BELOW|YOGH|H WITH CARON|N WITH LONG RIGHT LEG|OU",
    "Z WITH HOOK|A WITH DOT ABOVE|E WITH CEDILLA|O WITH DIAERESIS AND MACRON",
    "O WITH TILDE AND MACRON|O WITH DOT ABOVE|O WITH DOT ABOVE AND MACRON|Y WITH MACRON"]⟩,
  ⟨0x1f9, 2, "LATIN SMALL LETTER ", [
    "N WITH GRAVE|A WITH RING ABOVE AND ACUTE|AE WITH ACUTE|O WITH STROKE AND ACUTE",
    "A WITH DOUBLE GRAVE|A WITH INVERTED BREVE|E WITH DOUBLE GRAVE|E WITH INVERTED BREVE",
    "I WITH DOUBLE GRAVE|I WITH INVERTED BREVE|O WITH DOUBLE GRAVE|O WITH INVERTED BREVE",
    "R WITH DOUBLE GRAVE|R WITH INVERTED BREVE|U WITH DOUBLE GRAVE|U WITH INVERTED BREVE",
    "S WITH COMMA BELOW|T WITH COMMA BELOW|YOGH|H WITH CARON|D WITH CURL|OU|Z WITH HOOK",
    "A WITH DOT ABOVE|E WITH CEDILLA|O WITH DIAERESIS AND MACRON|O WITH TILDE AND MACRON",
    "O WITH DOT ABOVE|O WITH DOT ABOVE AND MACRON|Y WITH MACRON"]⟩,
  ⟨0x234, 1, "LATIN SMALL LETTER ", [
    "L WITH CURL|N WITH CURL|T WITH CURL|DOTLESS J|DB DIGRAPH|QP DIGRAPH"]⟩,
  ⟨0x23a, 1, "LATIN ", [
    "CAPITAL LETTER A WITH STROKE|CAPITAL LETTER C WITH STROKE|SMALL LETTER C WITH STROKE",
    "CAPITAL LETTER L WITH BAR|CAPITAL LETTER T WITH DIAGONAL STROKE",
    "SMALL LETTER S WITH SWASH TAIL|SMALL LETTER Z WITH SWASH TAIL",
    "CAPITAL LETTER GLOTTAL STOP|SMALL LETTER GLOTTAL STOP"]⟩,
  ⟨0x243, 1, "LATIN CAPITAL LETTER ", ["B WITH STROKE|U BAR|TURNED V"]⟩,
  ⟨0x246, 2, "LATIN CAPITAL LETTER ", [
    "E WITH STROKE|J WITH STROKE|SMALL Q WITH HOOK TAIL|R WITH STROKE|Y WITH STROKE"]⟩,
  ⟨0x247, 2, "LATIN SMALL LETTER ", [
    "E WITH STROKE|J WITH STROKE|Q WITH HOOK TAIL|R WITH STROKE|Y WITH STROKE"]⟩,
  ⟨0x250, 1, "LATIN SMALL LETTER ", [
    "TURNED A|ALPHA|TURNED ALPHA|B WITH HOOK|OPEN O|C WITH CURL|D WITH TAIL|D WITH HOOK",
    "REVERSED E|SCHWA|SCHWA WITH HOOK|OPEN E|REVERSED OPEN E|REVERSED OPEN E WITH HOOK",
    "CLOSED REVERSED OPEN E|DOTLESS J WITH STROKE|G WITH HOOK"]⟩,
  ⟨0x261, 2, "LATIN SMALL LETTER ", [
    "SCRIPT G|GAMMA|TURNED H|HENG WITH HOOK|IOTA|L WITH MIDDLE TILDE|L WITH RETROFLEX HOOK",
    "TURNED M|M WITH HOOK|N WITH RETROFLEX HOOK|BARRED O"]⟩,
  ⟨0x262, 2, "LATIN ", [
    "LETTER SMALL CAPITAL G|SMALL LETTER RAMS HORN|SMALL LETTER H WITH HOOK",
    "SMALL LETTER I WITH STROKE|LETTER SMALL CAPITAL I|SMALL LETTER L WITH BELT",
    "SMALL LETTER LEZH|SMALL LETTER TURNED M WITH LONG LEG|SMALL LETTER N WITH LEFT HOOK",
    "LETTER SMALL CAPITAL N|LETTER SMALL CAPITAL OE"]⟩,
  ⟨0x277, 1, "LATIN SMALL LETTER ", [
    "CLOSED OMEGA|PHI|TURNED R|TURNED R WITH LONG LEG|TURNED R WITH HOOK|R WITH LONG LEG",
    "R WITH TAIL|R WITH FISHHOOK|REVERSED R WITH FISHHOOK"]⟩,
  ⟨0x280, 1, "LATIN LETTER SMALL CAPITAL ", ["R|INVERTED R"]⟩,
  ⟨0x282, 1, "LATIN SMALL LETTER ", [
    "S WITH HOOK|ESH|DOTLESS J WITH STROKE AND HOOK|SQUAT REVERSED ESH|ESH WITH CURL|TURNED T",
    "T WITH RETROFLEX HOOK|U BAR|UPSILON|V WITH HOOK|TURNED V|TURNED W|TURNED Y"]⟩,
  ⟨0x28f, 1, "LATIN ", [
    "LETTER SMALL CAPITAL Y|SMALL LETTER Z WITH RETROFLEX HOOK|SMALL LETTER Z WITH CURL",
    "SMALL LETTER EZH|SMALL LETTER EZH WITH CURL|LETTER GLOTTAL STOP",
    "LETTER PHARYNGEAL VOICED FRICATIVE|LETTER INVERTED GLOTTAL STOP|LETTER STRETCHED C",
    "LETTER BILABIAL CLICK|LETTER SMALL CAPITAL B|SMALL LETTER CLOSED OPEN E",
    "LETTER SMALL CAPITAL G WITH HOOK|LETTER SMALL CAPITAL H|SMALL LETTER J WITH CROSSED-TAIL",
    "SMALL LETTER TURNED K|LETTER SMALL CAPITAL L|SMALL LETTER Q WITH HOOK",
    "LETTER GLOTTAL STOP WITH STROKE|LETTER REVERSED GLOTTAL STOP WITH STROKE"]⟩,
  ⟨0x2a3, 1, "LATIN SMALL LETTER ", [
    "DZ DIGRAPH|DEZH DIGRAPH|DZ DIGRAPH WITH CURL|TS DIGRAPH|TESH DIGRAPH",
    "TC DIGRAPH WITH CURL|FENG DIGRAPH|LS DIGRAPH|LZ DIGRAPH"]⟩,
  ⟨0x2ac, 1, "LATIN LETTER ", ["BILABIAL PERCUSSIVE|BIDENTAL PERCUSSIVE"]⟩,
  ⟨0x2ae, 1, "LATIN SMALL LETTER TURNED H WITH ", ["FISHHOOK|FISHHOOK AND TAIL"]⟩,
  ⟨0x2b0, 1, "MODIFIER LETTER SMALL ", [
    "H|H WITH HOOK|J|R|TURNED R|TURNED R WITH HOOK|CAPITAL INVERTED R|W|Y"]⟩,
  ⟨0x2b9, 1, "MODIFIER LETTER ", [
    "PRIME|DOUBLE PRIME|TURNED COMMA|APOSTROPHE|REVERSED COMMA|RIGHT HALF RING|LEFT HALF RING",
    "GLOTTAL STOP|REVERSED GLOTTAL STOP|LEFT ARROWHEAD|RIGHT ARROWHEAD|UP ARROWHEAD",
    "DOWN ARROWHEAD|CIRCUMFLEX ACCENT"]⟩,
  ⟨0x2c7, 1, "", ["CARON"]⟩,
  ⟨0x2c8, 1, "MODIFIER LETTER ", [
    "VERTICAL LINE|MACRON|ACUTE ACCENT|GRAVE ACCENT|LOW VERTICAL LINE|LOW MACRON",
    "LOW GRAVE ACCENT|LOW ACUTE ACCENT|TRIANGULAR COLON|HALF TRIANGULAR COLON",
    "CENTRED RIGHT HALF RING|CENTRED LEFT HALF RING|UP TACK|DOWN TACK|PLUS SIGN|MINUS SIGN"]⟩,
  ⟨0x2d8, 1, "", ["BREVE|DOT ABOVE|RING ABOVE|OGONEK|SMALL TILDE|DOUBLE ACUTE ACCENT"]⟩,
  ⟨0x2de, 1, "MODIFIER LETTER ", [
    "RHOTIC HOOK|CROSS ACCENT|SMALL GAMMA|SMALL L|SMALL S|SMALL X|SMALL REVERSED GLOTTAL STOP",
    "EXTRA-HIGH TONE BAR|HIGH TONE BAR|MID TONE BAR|LOW TONE BAR|EXTRA-LOW TONE BAR",
    "YIN DEPARTING TONE MARK|YANG DEPARTING TONE MARK|VOICING|UNASPIRATED|DOUBLE APOSTROPHE",
    "LOW DOWN ARROWHEAD|LOW UP ARROWHEAD|LOW LEFT ARROWHEAD|LOW RIGHT ARROWHEAD|LOW RING",
    "MIDDLE GRAVE ACCENT|MIDDLE DOUBLE GRAVE ACCENT|MIDDLE DOUBLE ACUTE ACCENT|LOW TILDE",
    "RAISED COLON|BEGIN HIGH TONE|END HIGH TONE|BEGIN LOW TONE|END LOW TONE|SHELF|OPEN SHELF",
    "LOW LEFT ARROW"]⟩,
  ⟨0x300, 1, "COMBINING ", [
    "GRAVE ACCENT|ACUTE ACCENT|CIRCUMFLEX ACCENT|TILDE|MACRON|OVERLINE|BREVE|DOT ABOVE",
    "DIAERESIS|HOOK ABOVE|RING ABOVE|DOUBLE ACUTE ACCENT|CARON|VERTICAL LINE ABOVE",
    "DOUBLE VERTICAL LINE ABOVE|DOUBLE GRAVE ACCENT|CANDRABINDU|INVERTED BREVE",
    "TURNED COMMA ABOVE|COMMA ABOVE|REVERSED COMMA ABOVE|COMMA ABOVE RIGHT"]⟩,
  ⟨0x316, 1, "COMBINING ", [
    "GRAVE ACCENT BELOW|ACUTE ACCENT BELOW|LEFT TACK BELOW|RIGHT TACK BELOW|LEFT ANGLE ABOVE",
    "HORN|LEFT HALF RING BELOW|UP TACK BELOW|DOWN TACK BELOW|PLUS SIGN BELOW|MINUS SIGN BELOW",
    "PALATALIZED HOOK BELOW|RETROFLEX HOOK BELOW|DOT BELOW|DIAERESIS BELOW|RING BELOW",
    "COMMA BELOW|CEDILLA|OGONEK|VERTICAL LINE BELOW|BRIDGE BELOW|INVERTED DOUBLE ARCH BELOW",
    "CARON BELOW|CIRCUMFLEX ACCENT BELOW|BREVE BELOW|INVERTED BREVE BELOW|TILDE BELOW",
    "MACRON BELOW|LOW LINE|DOUBLE LOW LINE|TILDE OVERLAY|SHORT STROKE OVERLAY",
    "LONG STROKE OVERLAY|SHORT SOLIDUS OVERLAY|LONG SOLIDUS OVERLAY|RIGHT HALF RING BELOW",
    "INVERTED BRIDGE BELOW|SQUARE BELOW|SEAGULL BELOW|X ABOVE|VERTICAL TILDE|DOUBLE OVERLINE",
    "GRAVE TONE MARK|ACUTE TONE MARK|GREEK PERISPOMENI|GREEK KORONIS|GREEK DIALYTIKA TONOS",
    "GREEK YPOGEGRAMMENI|BRIDGE ABOVE|EQUALS SIGN BELOW|DOUBLE VERTICAL LINE BELOW",
    "LEFT ANGLE BELOW|NOT TILDE ABOVE|HOMOTHETIC ABOVE|ALMOST EQUAL TO ABOVE",
    "LEFT RIGHT ARROW BELOW|UPWARDS ARROW BELOW|GRAPHEME JOINER|RIGHT ARROWHEAD ABOVE",
    "LEFT HALF RING ABOVE|FERMATA|X BELOW|LEFT ARROWHEAD BELOW|RIGHT ARROWHEAD BELOW",
    "RIGHT ARROWHEAD AND UP ARROWHEAD BELOW|RIGHT HALF RING ABOVE|DOT ABOVE RIGHT",
    "ASTERISK BELOW|DOUBLE RING BELOW|ZIGZAG ABOVE"]⟩,
  ⟨0x35c, 1, "COMBINING DOUBLE ", [
    "BREVE BELOW|BREVE|MACRON|MACRON BELOW|TILDE|INVERTED BREVE|RIGHTWARDS ARROW BELOW"]⟩,
  ⟨0x363, 1, "COMBINING LATIN SMALL LETTER ", ["A|E|I|O|U|C|D|H|M|R|T|V|X"]⟩,
  ⟨0x370, 1, "GREEK ", [
    "CAPITAL LETTER HETA|SMALL LETTER HETA|CAPITAL LETTER ARCHAIC SAMPI",
    "SMALL LETTER ARCHAIC SAMPI|NUMERAL SIGN|LOWER NUMERAL SIGN",
    "CAPITAL LETTER PAMPHYLIAN DIGAMMA|SMALL LETTER PAMPHYLIAN DIGAMMA"]⟩,
  ⟨0x37a, 1, "GREEK ", [
    "YPOGEGRAMMENI|SMALL REVERSED LUNATE SIGMA SYMBOL|SMALL DOTTED LUNATE SIGMA SYMBOL",
    "SMALL REVERSED DOTTED LUNATE SIGMA SYMBOL|QUESTION MARK|CAPITAL LETTER YOT"]⟩,
  ⟨0x384, 1, "GREEK ", ["TONOS|DIALYTIKA TONOS|CAPITAL LETTER ALPHA WITH TONOS|ANO TELEIA"]⟩,
  ⟨0x388, 1, "GREEK CAPITAL LETTER ", ["EPSILON WITH TONOS|ETA WITH TONOS|IOTA WITH TONOS"]⟩,
  ⟨0x38c, 1, "", ["GREEK CAPITAL LETTER OMICRON WITH TONOS"]⟩,
  ⟨0x38e, 1, "GREEK ", [
    "CAPITAL LETTER UPSILON WITH TONOS|CAPITAL LETTER OMEGA WITH TONOS",
    "SMALL LETTER IOTA WITH DIALYTIKA AND TONOS"]⟩,
  ⟨0x391, 1, "GREEK CAPITAL LETTER ", [
    "ALPHA|BETA|GAMMA|DELTA|EPSILON|ZETA|ETA|THETA|IOTA|KAPPA|LAMDA|MU|NU|XI|OMICRON|PI|RHO"]⟩,
  ⟨0x3a3, 1, "GREEK CAPITAL LETTER ", [
    "SIGMA|TAU|UPSILON|PHI|CHI|PSI|OMEGA|IOTA WITH DIALYTIKA|UPSILON WITH DIALYTIKA"]⟩,
  ⟨0x3ac, 1, "GREEK SMALL LETTER ", [
    "ALPHA WITH TONOS|EPSILON WITH TONOS|ETA WITH TONOS|IOTA WITH TONOS",
    "UPSILON WITH DIALYTIKA AND TONOS|ALPHA|BETA|GAMMA|DELTA|EPSILON|ZETA|ETA|THETA|IOTA",
    "KAPPA|LAMDA|MU|NU|XI|OMICRON|PI|RHO|FINAL SIGMA|SIGMA|TAU|UPSILON|PHI|CHI|PSI|OMEGA",
    "IOTA WITH DIALYTIKA|UPSILON WITH DIALYTIKA|OMICRON WITH TONOS|UPSILON WITH TONOS",
    "OMEGA WITH TONOS"]⟩,
  ⟨0x3cf, 1, "GREEK ", [
    "CAPITAL KAI SYMBOL|BETA SYMBOL|THETA SYMBOL|UPSILON WITH HOOK SYMBOL",
    "UPSILON WITH ACUTE AND HOOK SYMBOL|UPSILON WITH DIAERESIS AND HOOK SYMBOL|PHI SYMBOL",
    "PI SYMBOL|KAI SYMBOL"]⟩,
  ⟨0x3d8, 2, "GREEK LETTER ", ["ARCHAIC KOPPA|STIGMA|DIGAMMA|KOPPA|SAMPI"]⟩,
  ⟨0x3d9, 2, "GREEK SMALL LETTER ", ["ARCHAIC KOPPA|STIGMA|DIGAMMA|KOPPA|SAMPI"]⟩,
  ⟨0x3e2, 2, "COPTIC CAPITAL LETTER ", ["SHEI|FEI|KHEI|HORI|GANGIA|SHIMA|DEI"]⟩,
  ⟨0x3e3, 2, "COPTIC SMALL LETTER ", ["SHEI|FEI|KHEI|HORI|GANGIA|SHIMA|DEI"]⟩,
  ⟨0x3f0, 1, "GREEK ", [
    "KAPPA SYMBOL|RHO SYMBOL|LUNATE SIGMA SYMBOL|LETTER YOT|CAPITAL THETA SYMBOL",
    "LUNATE EPSILON SYMBOL|REVERSED LUNATE EPSILON SYMBOL|CAPITAL LETTER SHO|SMALL LETTER SHO",
    "CAPITAL LUNATE SIGMA SYMBOL|CAPITAL LETTER SAN|SMALL LETTER SAN|RHO WITH STROKE SYMBOL",
    "CAPITAL REVERSED LUNATE SIGMA SYMBOL|CAPITAL DOTTED LUNATE SIGMA SYMBOL",
    "CAPITAL REVERSED DOTTED LUNATE SIGMA SYMBOL"]⟩,
  ⟨0x400, 1, "CYRILLIC CAPITAL LETTER ", [
    "IE WITH GRAVE|IO|DJE|GJE|UKRAINIAN IE|DZE|BYELORUSSIAN-UKRAINIAN I|YI|JE|LJE|NJE|TSHE",
    "KJE|I WITH GRAVE|SHORT U|DZHE|A|BE|VE|GHE|DE|IE|ZHE|ZE|I|SHORT I|KA|EL|EM|EN|O|PE|ER|ES",
    "TE|U|EF|HA|TSE|CHE|SHA|SHCHA|HARD SIGN|YERU|SOFT SIGN|E|YU|YA"]⟩,
  ⟨0x430, 1, "CYRILLIC SMALL LETTER ", [
    "A|BE|VE|GHE|DE|IE|ZHE|ZE|I|SHORT I|KA|EL|EM|EN|O|PE|ER|ES|TE|U|EF|HA|TSE|CHE|SHA|SHCHA",
    "HARD SIGN|YERU|SOFT SIGN|E|YU|YA|IE WITH GRAVE|IO|DJE|GJE|UKRAINIAN IE|DZE",
    "BYELORUSSIAN-UKRAINIAN I|YI|JE|LJE|NJE|TSHE|KJE|I WITH GRAVE|SHORT U|DZHE"]⟩,
  ⟨0x460, 2, "CYRILLIC CAPITAL LETTER ", [
    "OMEGA|YAT|IOTIFIED E|LITTLE YUS|IOTIFIED LITTLE YUS|BIG YUS|IOTIFIED BIG YUS|KSI|PSI",
    "FITA|IZHITSA|IZHITSA WITH DOUBLE GRAVE ACCENT|UK|ROUND OMEGA|OMEGA WITH TITLO|OT|KOPPA"]⟩,
  ⟨0x461, 2, "CYRILLIC SMALL LETTER ", [
    "OMEGA|YAT|IOTIFIED E|LITTLE YUS|IOTIFIED LITTLE YUS|BIG YUS|IOTIFIED BIG YUS|KSI|PSI",
    "FITA|IZHITSA|IZHITSA WITH DOUBLE GRAVE ACCENT|UK|ROUND OMEGA|OMEGA WITH TITLO|OT|KOPPA"]⟩,
  ⟨0x482, 1, "", ["CYRILLIC THOUSANDS SIGN"]⟩,
  ⟨0x483, 1, "COMBINING CYRILLIC ", [
    "TITLO|PALATALIZATION|DASIA PNEUMATA|PSILI PNEUMATA|POKRYTIE|HUNDRED THOUSANDS SIGN",
    "MILLIONS SIGN"]⟩,
  ⟨0x48a, 2, "CYRILLIC CAPITAL LETTER ", [
    "SHORT I WITH TAIL|SEMISOFT SIGN|ER WITH TICK|GHE WITH UPTURN|GHE WITH STROKE",
    "GHE WITH MIDDLE HOOK|ZHE WITH DESCENDER|ZE WITH DESCENDER|KA WITH DESCENDER",
    "KA WITH VERTICAL STROKE|KA WITH STROKE|BASHKIR KA|EN WITH DESCENDER"]⟩,
  ⟨0x48b, 2, "CYRILLIC SMALL LETTER ", [
    "SHORT I WITH TAIL|SEMISOFT SIGN|ER WITH TICK|GHE WITH UPTURN|GHE WITH STROKE",
    "GHE WITH MIDDLE HOOK|ZHE WITH DESCENDER|ZE WITH DESCENDER|KA WITH DESCENDER",
    "KA WITH VERTICAL STROKE|KA WITH STROKE|BASHKIR KA|EN WITH DESCENDER"]⟩,
  ⟨0x4a4, 2, "CYRILLIC CAPITAL ", [
    "LIGATURE EN GHE|LETTER PE WITH MIDDLE HOOK|LETTER ABKHASIAN HA|LETTER ES WITH DESCENDER",
    "LETTER TE WITH DESCENDER|LETTER STRAIGHT U|LETTER STRAIGHT U WITH STROKE",
    "LETTER HA WITH DESCENDER|LIGATURE TE TSE|LETTER CHE WITH DESCENDER",
    "LETTER CHE WITH VERTICAL STROKE|LETTER SHHA|LETTER ABKHASIAN CHE",
    "LETTER ABKHASIAN CHE WITH DESCENDER"]⟩,
  ⟨0x4a5, 2, "CYRILLIC SMALL ", [
    "LIGATURE EN GHE|LETTER PE WITH MIDDLE HOOK|LETTER ABKHASIAN HA|LETTER ES WITH DESCENDER",
    "LETTER TE WITH DESCENDER|LETTER STRAIGHT U|LETTER STRAIGHT U WITH STROKE",
    "LETTER HA WITH DESCENDER|LIGATURE TE TSE|LETTER CHE WITH DESCENDER",
    "LETTER CHE WITH VERTICAL STROKE|LETTER SHHA|LETTER ABKHASIAN CHE",
    "LETTER ABKHASIAN CHE WITH DESCENDER"]⟩,
  ⟨0x4c0, 1, "", ["CYRILLIC LETTER PALOCHKA"]⟩,
  ⟨0x4c1, 2, "CYRILLIC CAPITAL LETTER ", [
    "ZHE WITH BREVE|KA WITH HOOK|EL WITH TAIL|EN WITH HOOK|EN WITH TAIL|KHAKASSIAN CHE",
    "EM WITH TAIL"]⟩,
  ⟨0x4c2, 2, "CYRILLIC SMALL LETTER ", [
    "ZHE WITH BREVE|KA WITH HOOK|EL WITH TAIL|EN WITH HOOK|EN WITH TAIL|KHAKASSIAN CHE",
    "EM WITH TAIL"]⟩,
  ⟨0x4cf, 1, "CYRILLIC ", [
    "SMALL LETTER PALOCHKA|CAPITAL LETTER A WITH BREVE|SMALL LETTER A WITH BREVE",
    "CAPITAL LETTER A WITH DIAERESIS|SMALL LETTER A WITH DIAERESIS|CAPITAL LIGATURE A IE",
    "SMALL LIGATURE A IE"]⟩,
  ⟨0x4d6, 2, "CYRILLIC CAPITAL LETTER ", [
    "IE WITH BREVE|SCHWA|SCHWA WITH DIAERESIS|ZHE WITH DIAERESIS|ZE WITH DIAERESIS"]⟩,
  ⟨0x4d7, 2, "CYRILLIC SMALL LETTER ", [
    "IE WITH BREVE|SCHWA|SCHWA WITH DIAERESIS|ZHE WITH DIAERESIS|ZE WITH DIAERESIS"]⟩,
  ⟨0x4e0, 2, "CYRILLIC CAPITAL LETTER ", [
    "ABKHASIAN DZE|I WITH MACRON|I WITH DIAERESIS|O WITH DIAERESIS|BARRED O",
    "BARRED O WITH DIAERESIS|E WITH DIAERESIS|U WITH MACRON|U WITH DIAERESIS",
    "U WITH DOUBLE ACUTE|CHE WITH DIAERESIS|GHE WITH DESCENDER|YERU WITH DIAERESIS",
    "GHE WITH STROKE AND HOOK|HA WITH HOOK|HA WITH STROKE|KOMI DE|KOMI DJE|KOMI ZJE|KOMI DZJE",
    "KOMI LJE|KOMI NJE|KOMI SJE|KOMI TJE|REVERSED ZE|EL WITH HOOK|LHA|RHA|YAE|QA|WE|ALEUT KA",
    "EL WITH MIDDLE HOOK|EN WITH MIDDLE HOOK|PE WITH DESCENDER|SHHA WITH DESCENDER",
    "EN WITH LEFT HOOK|DZZHE|DCHE|EL WITH DESCENDER"]⟩,
  ⟨0x4e1, 2, "CYRILLIC SMALL LETTER ", [
    "ABKHASIAN DZE|I WITH MACRON|I WITH DIAERESIS|O WITH DIAERESIS|BARRED O",
    "BARRED O WITH DIAERESIS|E WITH DIAERESIS|U WITH MACRON|U WITH DIAERESIS",
    "U WITH DOUBLE ACUTE|CHE WITH DIAERESIS|GHE WITH DESCENDER|YERU WITH DIAERESIS",
    "GHE WITH STROKE AND HOOK|HA WITH HOOK|HA WITH STROKE|KOMI DE|KOMI DJE|KOMI ZJE|KOMI DZJE",
    "KOMI LJE|KOMI NJE|KOMI SJE|KOMI TJE|REVERSED ZE|EL WITH HOOK|LHA|RHA|YAE|QA|WE|ALEUT KA",
    "EL WITH MIDDLE HOOK|EN WITH MIDDLE HOOK|PE WITH DESCENDER|SHHA WITH DESCENDER",
    "EN WITH LEFT HOOK|DZZHE|DCHE|EL WITH DESCENDER"]⟩,
  ⟨0x531, 1, "ARMENIAN CAPITAL LETTER ", [
    "AYB|BEN|GIM|DA|ECH|ZA|EH|ET|TO|ZHE|INI|LIWN|XEH|CA|KEN|HO|JA|GHAD|CHEH|MEN|YI|NOW|SHA|VO",
    "CHA|PEH|JHEH|RA|SEH|VEW|TIWN|REH|CO|YIWN|PIWR|KEH|OH|FEH"]⟩,
  ⟨0x559, 1, "ARMENIAN ", [
    "MODIFIER LETTER LEFT HALF RING|APOSTROPHE|EMPHASIS MARK|EXCLAMATION MARK|COMMA",
    "QUESTION MARK|ABBREVIATION MARK"]⟩,
  ⟨0x560, 1, "ARMENIAN SMALL LETTER ", [
    "TURNED AYB|AYB|BEN|GIM|DA|ECH|ZA|EH|ET|TO|ZHE|INI|LIWN|XEH|CA|KEN|HO|JA|GHAD|CHEH|MEN|YI",
    "NOW|SHA|VO|CHA|PEH|JHEH|RA|SEH|VEW|TIWN|REH|CO|YIWN|PIWR|KEH|OH|FEH"]⟩,
  ⟨0x587, 1, "ARMENIAN ", [
    "SMALL LIGATURE ECH YIWN|SMALL LETTER YI WITH STROKE|FULL STOP|HYPHEN"]⟩,
  ⟨0x58d, 1, "", [
    "RIGHT-FACING ARMENIAN ETERNITY SIGN|LEFT-FACING ARMENIAN ETERNITY SIGN",
    "ARMENIAN DRAM SIGN"]⟩,
  ⟨0x591, 1, "HEBREW ACCENT ", [
    "ETNAHTA|SEGOL|SHALSHELET|ZAQEF QATAN|ZAQEF GADOL|TIPEHA|REVIA|ZARQA|PASHTA|YETIV|TEVIR",
    "GERESH|GERESH MUQDAM|GERSHAYIM|QARNEY PARA|TELISHA GEDOLA|PAZER|ATNAH HAFUKH|MUNAH",
    "MAHAPAKH|MERKHA|MERKHA KEFULA|DARGA|QADMA|TELISHA QETANA|YERAH BEN YOMO|OLE|ILUY|DEHI",
    "ZINOR"]⟩,
  ⟨0x5af, 1, "", ["HEBREW MARK MASORA CIRCLE"]⟩,
  ⟨0x5b0, 1, "HEBREW POINT ", [
    "SHEVA|HATAF SEGOL|HATAF PATAH|HATAF QAMATS|HIRIQ|TSERE|SEGOL|PATAH|QAMATS|HOLAM",
    "HOLAM HASER FOR VAV|QUBUTS|DAGESH OR MAPIQ|METEG"]⟩,
  ⟨0x5be, 1, "HEBREW ", [
    "PUNCTUATION MAQAF|POINT RAFE|PUNCTUATION PASEQ|POINT SHIN DOT|POINT SIN DOT",
    "PUNCTUATION SOF PASUQ|MARK UPPER DOT|MARK LOWER DOT|PUNCTUATION NUN HAFUKHA",
    "POINT QAMATS QATAN"]⟩,
  ⟨0x5d0, 1, "HEBREW LETTER ", [
    "ALEF|BET|GIMEL|DALET|HE|VAV|ZAYIN|HET|TET|YOD|FINAL KAF|KAF|LAMED|FINAL MEM|MEM",
    "FINAL NUN|NUN|SAMEKH|AYIN|FINAL PE|PE|FINAL TSADI|TSADI|QOF|RESH|SHIN|TAV"]⟩,
  ⟨0x5ef, 1, "HEBREW ", [
    "YOD TRIANGLE|LIGATURE YIDDISH DOUBLE VAV|LIGATURE YIDDISH VAV YOD",
    "LIGATURE YIDDISH DOUBLE YOD|PUNCTUATION GERESH|PUNCTUATION GERSHAYIM"]⟩,
  ⟨0x600, 1, "ARABIC ", [
    "NUMBER SIGN|SIGN SANAH|FOOTNOTE MARKER|SIGN SAFHA|SIGN SAMVAT|NUMBER MARK ABOVE"]⟩,
  ⟨0x606, 1, "", [
    "ARABIC-INDIC CUBE ROOT|ARABIC-INDIC FOURTH ROOT|ARABIC RAY|ARABIC-INDIC PER MILLE SIGN",
    "ARABIC-INDIC PER TEN THOUSAND SIGN|AFGHANI SIGN"]⟩,
  ⟨0x60c, 1, "ARABIC ", [
    "COMMA|DATE SEPARATOR|POETIC VERSE SIGN|SIGN MISRA|SIGN SALLALLAHOU ALAYHE WASSALLAM",
    "SIGN ALAYHE ASSALLAM|SIGN RAHMATULLAH ALAYHE|SIGN RADI ALLAHOU ANHU|SIGN TAKHALLUS",
    "SMALL HIGH TAH|SMALL HIGH LIGATURE ALEF WITH LAM WITH YEH|SMALL HIGH ZAIN|SMALL FATHA",
    "SMALL DAMMA|SMALL KASRA|SEMICOLON|LETTER MARK|END OF TEXT MARK",
    "TRIPLE DOT PUNCTUATION MARK|QUESTION MARK"]⟩,
  ⟨0x620, 1, "ARABIC LETTER ", [
    "KASHMIRI YEH|HAMZA|ALEF WITH MADDA ABOVE|ALEF WITH HAMZA ABOVE|WAW WITH HAMZA ABOVE",
    "ALEF WITH HAMZA BELOW|YEH WITH HAMZA ABOVE|ALEF|BEH|TEH MARBUTA|TEH|THEH|JEEM|HAH|KHAH",
    "DAL|THAL|REH|ZAIN|SEEN|SHEEN|SAD|DAD|TAH|ZAH|AIN|GHAIN|KEHEH WITH TWO DOTS ABOVE",
    "KEHEH WITH THREE DOTS BELOW|FARSI YEH WITH INVERTED V|FARSI YEH WITH TWO DOTS ABOVE",
    "FARSI YEH WITH THREE DOTS ABOVE"]⟩,
  ⟨0x640, 1, "", ["ARABIC TATWEEL"]⟩,
  ⟨0x641, 1, "ARABIC LETTER ", ["FEH|QAF|KAF|LAM|MEEM|NOON|HEH|WAW|ALEF MAKSURA|YEH"]⟩,
  ⟨0x64b, 1, "ARABIC ", [
    "FATHATAN|DAMMATAN|KASRATAN|FATHA|DAMMA|KASRA|SHADDA|SUKUN|MADDAH ABOVE|HAMZA ABOVE",
    "HAMZA BELOW|SUBSCRIPT ALEF|INVERTED DAMMA|MARK NOON GHUNNA|ZWARAKAY",
    "VOWEL SIGN SMALL V ABOVE|VOWEL SIGN INVERTED SMALL V ABOVE|VOWEL SIGN DOT BELOW",
    "REVERSED DAMMA|FATHA WITH TWO DOTS|WAVY HAMZA BELOW"]⟩,
  ⟨0x660, 1, "ARABIC-INDIC DIGIT ", ["ZERO|ONE|TWO|THREE|FOUR|FIVE|SIX|SEVEN|EIGHT|NINE"]⟩,
  ⟨0x66a, 1, "ARABIC ", ["PERCENT SIGN|DECIMAL SEPARATOR|THOUSANDS SEPARATOR|FIVE POINTED STAR"]⟩,
  ⟨0x66e, 1, "ARABIC LETTER ", [
    "DOTLESS BEH|DOTLESS QAF|SUPERSCRIPT ALEF|ALEF WASLA|ALEF WITH WAVY HAMZA ABOVE",
    "ALEF WITH WAVY HAMZA BELOW|HIGH HAMZA|HIGH HAMZA ALEF|HIGH HAMZA WAW|U WITH HAMZA ABOVE",
    "HIGH HAMZA YEH|TTEH|TTEHEH|BEEH|TEH WITH RING|TEH WITH THREE DOTS ABOVE DOWNWARDS|PEH",
    "TEHEH|BEHEH|HAH WITH HAMZA ABOVE|HAH WITH TWO DOTS VERTICAL ABOVE|NYEH|DYEH",
    "HAH WITH THREE DOTS ABOVE|TCHEH|TCHEHEH|DDAL|DAL WITH RING|DAL WITH DOT BELOW",
    "DAL WITH DOT BELOW AND SMALL TAH|DAHAL|DDAHAL|DUL|DAL WITH THREE DOTS ABOVE DOWNWARDS",
    "DAL WITH FOUR DOTS ABOVE|RREH"]⟩,
  ⟨0x692, 1, "ARABIC LETTER REH WITH ", [
    "SMALL V|RING|DOT BELOW|SMALL V BELOW|DOT BELOW AND DOT ABOVE|TWO DOTS ABOVE"]⟩,
  ⟨0x698, 1, "ARABIC LETTER ", [
    "JEH|REH WITH FOUR DOTS ABOVE|SEEN WITH DOT BELOW AND DOT ABOVE",
    "SEEN WITH THREE DOTS BELOW|SEEN WITH THREE DOTS BELOW AND THREE DOTS ABOVE",
    "SAD WITH TWO DOTS BELOW|SAD WITH THREE DOTS ABOVE|TAH WITH THREE DOTS ABOVE",
    "AIN WITH THREE DOTS ABOVE|DOTLESS FEH|FEH WITH DOT MOVED BELOW|FEH WITH DOT BELOW|VEH",
    "FEH WITH THREE DOTS BELOW|PEHEH|QAF WITH DOT ABOVE|QAF WITH THREE DOTS ABOVE|KEHEH",
    "SWASH KAF|KAF WITH RING|KAF WITH DOT ABOVE|NG|KAF WITH THREE DOTS BELOW|GAF",
    "GAF WITH RING|NGOEH|GAF WITH TWO DOTS BELOW|GUEH|GAF WITH THREE DOTS ABOVE",
    "LAM WITH SMALL V|LAM WITH DOT ABOVE|LAM WITH THREE DOTS ABOVE|LAM WITH THREE DOTS BELOW",
    "NOON WITH DOT BELOW|NOON GHUNNA|RNOON|NOON WITH RING|NOON WITH THREE DOTS ABOVE",
    "HEH DOACHASHMEE|TCHEH WITH DOT ABOVE|HEH WITH YEH ABOVE|HEH GOAL",
    "HEH GOAL WITH HAMZA ABOVE|TEH MARBUTA GOAL|WAW WITH RING|KIRGHIZ OE|OE|U|YU|KIRGHIZ YU",
    "WAW WITH TWO DOTS ABOVE|VE|FARSI YEH|YEH WITH TAIL|YEH WITH SMALL V|WAW WITH DOT ABOVE|E",
    "YEH WITH THREE DOTS BELOW|YEH BARREE|YEH BARREE WITH HAMZA ABOVE"]⟩,
  ⟨0x6d4, 1, "ARABIC ", ["FULL STOP|LETTER AE"]⟩,
  ⟨0x6d6, 1, "ARABIC SMALL HIGH ", [
    "LIGATURE SAD WITH LAM WITH ALEF MAKSURA|LIGATURE QAF WITH LAM WITH ALEF MAKSURA",
    "MEEM INITIAL FORM|LAM ALEF|JEEM|THREE DOTS|SEEN"]⟩,
  ⟨0x6dd, 1, "ARABIC ", [
    "END OF AYAH|START OF RUB EL HIZB|SMALL HIGH ROUNDED ZERO",
    "SMALL HIGH UPRIGHT RECTANGULAR ZERO|SMALL HIGH DOTLESS HEAD OF KHAH",
    "SMALL HIGH MEEM ISOLATED FORM|SMALL LOW SEEN|SMALL HIGH MADDA|SMALL WAW|SMALL YEH",
    "SMALL HIGH YEH|SMALL HIGH NOON|PLACE OF SAJDAH|EMPTY CENTRE LOW STOP",
    "EMPTY CENTRE HIGH STOP|ROUNDED HIGH STOP WITH FILLED CENTRE|SMALL LOW MEEM",
    "LETTER DAL WITH INVERTED V|LETTER REH WITH INVERTED V"]⟩,
  ⟨0x6f0, 1, "EXTENDED ARABIC-INDIC DIGIT ", [
    "ZERO|ONE|TWO|THREE|FOUR|FIVE|SIX|SEVEN|EIGHT|NINE"]⟩,
  ⟨0x6fa, 1, "ARABIC ", [
    "LETTER SHEEN WITH DOT BELOW|LETTER DAD WITH DOT BELOW|LETTER GHAIN WITH DOT BELOW",
    "SIGN SINDHI AMPERSAND|SIGN SINDHI POSTPOSITION MEN|LETTER HEH WITH INVERTED V"]⟩,
  ⟨0x900, 1, "DEVANAGARI SIGN ", ["INVERTED CANDRABINDU|CANDRABINDU|ANUSVARA|VISARGA"]⟩,
  ⟨0x904, 1, "DEVANAGARI LETTER ", [
    "SHORT A|A|AA|I|II|U|UU|VOCALIC R|VOCALIC L|CANDRA E|SHORT E|E|AI|CANDRA O|SHORT O|O|AU",
    "KA|KHA|GA|GHA|NGA|CA|CHA|JA|JHA|NYA|TTA|TTHA|DDA|DDHA|NNA|TA|THA|DA|DHA|NA|NNNA|PA|PHA",
    "BA|BHA|MA|YA|RA|RRA|LA|LLA|LLLA|VA|SHA|SSA|SA|HA"]⟩,
  ⟨0x93a, 1, "DEVANAGARI ", ["VOWEL SIGN OE|VOWEL SIGN OOE|SIGN NUKTA|SIGN AVAGRAHA"]⟩,
  ⟨0x93e, 1, "DEVANAGARI VOWEL SIGN ", [
    "AA|I|II|U|UU|VOCALIC R|VOCALIC RR|CANDRA E|SHORT E|E|AI|CANDRA O|SHORT O|O|AU"]⟩,
  ⟨0x94d, 1, "DEVANAGARI ", [
    "SIGN VIRAMA|VOWEL SIGN PRISHTHAMATRA E|VOWEL SIGN AW|OM|STRESS SIGN UDATTA",
    "STRESS SIGN ANUDATTA|GRAVE ACCENT|ACUTE ACCENT|VOWEL SIGN CANDRA LONG E|VOWEL SIGN UE",
    "VOWEL SIGN UUE|LETTER QA|LETTER KHHA|LETTER GHHA|LETTER ZA|LETTER DDDHA|LETTER RHA",
    "LETTER FA|LETTER YYA|LETTER VOCALIC RR|LETTER VOCALIC LL|VOWEL SIGN VOCALIC L",
    "VOWEL SIGN VOCALIC LL|DANDA|DOUBLE DANDA|DIGIT ZERO|DIGIT ONE|DIGIT TWO|DIGIT THREE",
    "DIGIT FOUR|DIGIT FIVE|DIGIT SIX|DIGIT SEVEN|DIGIT EIGHT|DIGIT NINE|ABBREVIATION SIGN",
    "SIGN HIGH SPACING DOT"]⟩,
  ⟨0x972, 1, "DEVANAGARI LETTER ", [
    "CANDRA A|OE|OOE|AW|UE|UUE|MARWARI DDA|ZHA|HEAVY YA|GGA|JJA|GLOTTAL STOP|DDDA|BBA"]⟩,
  ⟨0xe01, 1, "THAI CHARACTER ", [
    "KO KAI|KHO KHAI|KHO KHUAT|KHO KHWAI|KHO KHON|KHO RAKHANG|NGO NGU|CHO CHAN|CHO CHING",
    "CHO CHANG|SO SO|CHO CHOE|YO YING|DO CHADA|TO PATAK|THO THAN|THO NANGMONTHO|THO PHUTHAO",
    "NO NEN|DO DEK|TO TAO|THO THUNG|THO THAHAN|THO THONG|NO NU|BO BAIMAI|PO PLA|PHO PHUNG",
    "FO FA|PHO PHAN|FO FAN|PHO SAMPHAO|MO MA|YO YAK|RO RUA|RU|LO LING|LU|WO WAEN|SO SALA",
    "SO RUSI|SO SUA|HO HIP|LO CHULA|O ANG|HO NOKHUK|PAIYANNOI|SARA A|MAI HAN-AKAT|SARA AA",
    "SARA AM|SARA I|SARA II|SARA UE|SARA UEE|SARA U|SARA UU|PHINTHU"]⟩,
  ⟨0xe3f, 1, "", ["THAI CURRENCY SYMBOL BAHT"]⟩,
  ⟨0xe40, 1, "THAI CHARACTER ", [
    "SARA E|SARA AE|SARA O|SARA AI MAIMUAN|SARA AI MAIMALAI|LAKKHANGYAO|MAIYAMOK|MAITAIKHU",
    "MAI EK|MAI THO|MAI TRI|MAI CHATTAWA|THANTHAKHAT|NIKHAHIT|YAMAKKAN|FONGMAN"]⟩,
  ⟨0xe50, 1, "THAI DIGIT ", ["ZERO|ONE|TWO|THREE|FOUR|FIVE|SIX|SEVEN|EIGHT|NINE"]⟩,
  ⟨0xe5a, 1, "THAI CHARACTER ", ["ANGKHANKHU|KHOMUT"]⟩,
  ⟨0x10a0, 1, "GEORGIAN CAPITAL LETTER ", [
    "AN|BAN|GAN|DON|EN|VIN|ZEN|TAN|IN|KAN|LAS|MAN|NAR|ON|PAR|ZHAR|RAE|SAN|TAR|UN|PHAR|KHAR",
    "GHAN|QAR|SHIN|CHIN|CAN|JIL|CIL|CHAR|XAN|JHAN|HAE|HE|HIE|WE|HAR|HOE"]⟩,
  ⟨0x10c7, 1, "", ["GEORGIAN CAPITAL LETTER YN"]⟩,
  ⟨0x10cd, 1, "", ["GEORGIAN CAPITAL LETTER AEN"]⟩,
  ⟨0x10d0, 1, "GEORGIAN LETTER ", [
    "AN|BAN|GAN|DON|EN|VIN|ZEN|TAN|IN|KAN|LAS|MAN|NAR|ON|PAR|ZHAR|RAE|SAN|TAR|UN|PHAR|KHAR",
    "GHAN|QAR|SHIN|CHIN|CAN|JIL|CIL|CHAR|XAN|JHAN|HAE|HE|HIE|WE|HAR|HOE|FI|YN|ELIFI",
    "TURNED GAN|AIN"]⟩,
  ⟨0x10fb, 1, "", ["GEORGIAN PARAGRAPH SEPARATOR|MODIFIER LETTER GEORGIAN NAR"]⟩,
  ⟨0x10fd, 1, "GEORGIAN LETTER ", ["AEN|HARD SIGN|LABIAL SIGN"]⟩,
  ⟨0x1e00, 2, "LATIN CAPITAL LETTER ", [
    "A WITH RING BELOW|B WITH DOT ABOVE|B WITH DOT BELOW|B WITH LINE BELOW",
    "C WITH CEDILLA AND ACUTE|D WITH DOT ABOVE|D WITH DOT BELOW|D WITH LINE BELOW",
    "D WITH CEDILLA|D WITH CIRCUMFLEX BELOW|E WITH MACRON AND GRAVE|E WITH MACRON AND ACUTE",
    "E WITH CIRCUMFLEX BELOW|E WITH TILDE BELOW|E WITH CEDILLA AND BREVE|F WITH DOT ABOVE",
    "G WITH MACRON|H WITH DOT ABOVE|H WITH DOT BELOW|H WITH DIAERESIS|H WITH CEDILLA",
    "H WITH BREVE BELOW|I WITH TILDE BELOW|I WITH DIAERESIS AND ACUTE|K WITH ACUTE",
    "K WITH DOT BELOW|K WITH LINE BELOW|L WITH DOT BELOW|L WITH DOT BELOW AND MACRON",
    "L WITH LINE BELOW|L WITH CIRCUMFLEX BELOW|M WITH ACUTE|M WITH DOT ABOVE|M WITH DOT BELOW",
    "N WITH DOT ABOVE"]⟩,
  ⟨0x1e01, 2, "LATIN SMALL LETTER ", [
    "A WITH RING BELOW|B WITH DOT ABOVE|B WITH DOT BELOW|B WITH LINE BELOW",
    "C WITH CEDILLA AND ACUTE|D WITH DOT ABOVE|D WITH DOT BELOW|D WITH LINE BELOW",
    "D WITH CEDILLA|D WITH CIRCUMFLEX BELOW|E WITH MACRON AND GRAVE|E WITH MACRON AND ACUTE",
    "E WITH CIRCUMFLEX BELOW|E WITH TILDE BELOW|E WITH CEDILLA AND BREVE|F WITH DOT ABOVE",
    "G WITH MACRON|H WITH DOT ABOVE|H WITH DOT BELOW|H WITH DIAERESIS|H WITH CEDILLA",
    "H WITH BREVE BELOW|I WITH TILDE BELOW|I WITH DIAERESIS AND ACUTE|K WITH ACUTE",
    "K WITH DOT BELOW|K WITH LINE BELOW|L WITH DOT BELOW|L WITH DOT BELOW AND MACRON",
    "L WITH LINE BELOW|L WITH CIRCUMFLEX BELOW|M WITH ACUTE|M WITH DOT ABOVE|M WITH DOT BELOW",
    "N WITH DOT ABOVE"]⟩,
  ⟨0x1e46, 2, "LATIN CAPITAL LETTER ", [
    "N WITH DOT BELOW|N WITH LINE BELOW|N WITH CIRCUMFLEX BELOW|O WITH TILDE AND ACUTE",
    "O WITH TILDE AND DIAERESIS|O WITH MACRON AND GRAVE|O WITH MACRON AND ACUTE|P WITH ACUTE",
    "P WITH DOT ABOVE|R WITH DOT ABOVE|R WITH DOT BELOW|R WITH DOT BELOW AND MACRON",
    "R WITH LINE BELOW|S WITH DOT ABOVE|S WITH DOT BELOW|S WITH ACUTE AND DOT ABOVE",
    "S WITH CARON AND DOT ABOVE|S WITH DOT BELOW AND DOT ABOVE|T WITH DOT ABOVE",
    "T WITH DOT BELOW|T WITH LINE BELOW|T WITH CIRCUMFLEX BELOW|U WITH DIAERESIS BELOW",
    "U WITH TILDE BELOW|U WITH CIRCUMFLEX BELOW|U WITH TILDE AND ACUTE",
    "U WITH MACRON AND DIAERESIS|V WITH TILDE|V WITH DOT BELOW|W WITH GRAVE|W WITH ACUTE",
    "W WITH DIAERESIS|W WITH DOT ABOVE|W WITH DOT BELOW|X WITH DOT ABOVE|X WITH DIAERESIS",
    "Y WITH DOT ABOVE|Z WITH CIRCUMFLEX|Z WITH DOT BELOW|Z WITH LINE BELOW"]⟩,
  ⟨0x1e47, 2, "LATIN SMALL LETTER ", [
    "N WITH DOT BELOW|N WITH LINE BELOW|N WITH CIRCUMFLEX BELOW|O WITH TILDE AND ACUTE",
    "O WITH TILDE AND DIAERESIS|O WITH MACRON AND GRAVE|O WITH MACRON AND ACUTE|P WITH ACUTE",
    "P WITH DOT ABOVE|R WITH DOT ABOVE|R WITH DOT BELOW|R WITH DOT BELOW AND MACRON",
    "R WITH LINE BELOW|S WITH DOT ABOVE|S WITH DOT BELOW|S WITH ACUTE AND DOT ABOVE",
    "S WITH CARON AND DOT ABOVE|S WITH DOT BELOW AND DOT ABOVE|T WITH DOT ABOVE",
    "T WITH DOT BELOW|T WITH LINE BELOW|T WITH CIRCUMFLEX BELOW|U WITH DIAERESIS BELOW",
    "U WITH TILDE BELOW|U WITH CIRCUMFLEX BELOW|U WITH TILDE AND ACUTE",
    "U WITH MACRON AND DIAERESIS|V WITH TILDE|V WITH DOT BELOW|W WITH GRAVE|W WITH ACUTE",
    "W WITH DIAERESIS|W WITH DOT ABOVE|W WITH DOT BELOW|X WITH DOT ABOVE|X WITH DIAERESIS",
    "Y WITH DOT ABOVE|Z WITH CIRCUMFLEX|Z WITH DOT BELOW|Z WITH LINE BELOW"]⟩,
  ⟨0x1e96, 1, "LATIN SMALL LETTER ", [
    "H WITH LINE BELOW|T WITH DIAERESIS|W WITH RING ABOVE|Y WITH RING ABOVE",
    "A WITH RIGHT HALF RING|LONG S WITH DOT ABOVE|LONG S WITH DIAGONAL STROKE",
    "LONG S WITH HIGH STROKE"]⟩,
  ⟨0x1e9e, 2, "LATIN CAPITAL LETTER ", ["SHARP S|A WITH DOT BELOW|A WITH HOOK ABOVE"]⟩,
  ⟨0x1e9f, 2, "LATIN SMALL LETTER ", ["DELTA|A WITH DOT BELOW|A WITH HOOK ABOVE"]⟩,
  ⟨0x1ea4, 2, "LATIN CAPITAL LETTER A WITH CIRCUMFLEX AND ", [
    "ACUTE|GRAVE|HOOK ABOVE|TILDE|DOT BELOW"]⟩,
  ⟨0x1ea5, 2, "LATIN SMALL LETTER A WITH CIRCUMFLEX AND ", [
    "ACUTE|GRAVE|HOOK ABOVE|TILDE|DOT BELOW"]⟩,
  ⟨0x1eae, 2, "LATIN CAPITAL LETTER A WITH BREVE AND ", [
    "ACUTE|GRAVE|HOOK ABOVE|TILDE|DOT BELOW"]⟩,
  ⟨0x1eaf, 2, "LATIN SMALL LETTER A WITH BREVE AND ", ["ACUTE|GRAVE|HOOK ABOVE|TILDE|DOT BELOW"]⟩,
  ⟨0x1eb8, 2, "LATIN CAPITAL LETTER E WITH ", ["DOT BELOW|HOOK ABOVE|TILDE"]⟩,
  ⟨0x1eb9, 2, "LATIN SMALL LETTER E WITH ", ["DOT BELOW|HOOK ABOVE|TILDE"]⟩,
  ⟨0x1ebe, 2, "LATIN CAPITAL LETTER E WITH CIRCUMFLEX AND ", [
    "ACUTE|GRAVE|HOOK ABOVE|TILDE|DOT BELOW"]⟩,
  ⟨0x1ebf, 2, "LATIN SMALL LETTER E WITH CIRCUMFLEX AND ", [
    "ACUTE|GRAVE|HOOK ABOVE|TILDE|DOT BELOW"]⟩,
  ⟨0x1ec8, 2, "LATIN CAPITAL LETTER ", [
    "I WITH HOOK ABOVE|I WITH DOT BELOW|O WITH DOT BELOW|O WITH HOOK ABOVE"]⟩,
  ⟨0x1ec9, 2, "LATIN SMALL LETTER ", [
    "I WITH HOOK ABOVE|I WITH DOT BELOW|O WITH DOT BELOW|O WITH HOOK ABOVE"]⟩,
  ⟨0x1ed0, 2, "LATIN CAPITAL LETTER O WITH CIRCUMFLEX AND ", [
    "ACUTE|GRAVE|HOOK ABOVE|TILDE|DOT BELOW"]⟩,
  ⟨0x1ed1, 2, "LATIN SMALL LETTER O WITH CIRCUMFLEX AND ", [
    "ACUTE|GRAVE|HOOK ABOVE|TILDE|DOT BELOW"]⟩,
  ⟨0x1eda, 2, "LATIN CAPITAL LETTER O WITH HORN AND ", [
    "ACUTE|GRAVE|HOOK ABOVE|TILDE|DOT BELOW"]⟩,
  ⟨0x1edb, 2, "LATIN SMALL LETTER O WITH HORN AND ", ["ACUTE|GRAVE|HOOK ABOVE|TILDE|DOT BELOW"]⟩,
  ⟨0x1ee4, 2, "LATIN CAPITAL LETTER U WITH ", [
    "DOT BELOW|HOOK ABOVE|HORN AND ACUTE|HORN AND GRAVE|HORN AND HOOK ABOVE|HORN AND TILDE",
    "HORN AND DOT BELOW"]⟩,
  ⟨0x1ee5, 2, "LATIN SMALL LETTER U WITH ", [
    "DOT BELOW|HOOK ABOVE|HORN AND ACUTE|HORN AND GRAVE|HORN AND HOOK ABOVE|HORN AND TILDE",
    "HORN AND DOT BELOW"]⟩,
  ⟨0x1ef2, 2, "LATIN CAPITAL LETTER ", [
    "Y WITH GRAVE|Y WITH DOT BELOW|Y WITH HOOK ABOVE|Y WITH TILDE|MIDDLE-WELSH LL",
    "MIDDLE-WELSH V|Y WITH LOOP"]⟩,
  ⟨0x1ef3, 2, "LATIN SMALL LETTER ", [
    "Y WITH GRAVE|Y WITH DOT BELOW|Y WITH HOOK ABOVE|Y WITH TILDE|MIDDLE-WELSH LL",
    "MIDDLE-WELSH V|Y WITH LOOP"]⟩,
  ⟨0x1f00, 1, "GREEK SMALL LETTER ALPHA WITH ", [
    "PSILI|DASIA|PSILI AND VARIA|DASIA AND VARIA|PSILI AND OXIA|DASIA AND OXIA",
    "PSILI AND PERISPOMENI|DASIA AND PERISPOMENI"]⟩,
  ⟨0x1f08, 1, "GREEK CAPITAL LETTER ALPHA WITH ", [
    "PSILI|DASIA|PSILI AND VARIA|DASIA AND VARIA|PSILI AND OXIA|DASIA AND OXIA",
    "PSILI AND PERISPOMENI|DASIA AND PERISPOMENI"]⟩,
  ⟨0x1f10, 1, "GREEK SMALL LETTER EPSILON WITH ", [
    "PSILI|DASIA|PSILI AND VARIA|DASIA AND VARIA|PSILI AND OXIA|DASIA AND OXIA"]⟩,
  ⟨0x1f18, 1, "GREEK CAPITAL LETTER EPSILON WITH ", [
    "PSILI|DASIA|PSILI AND VARIA|DASIA AND VARIA|PSILI AND OXIA|DASIA AND OXIA"]⟩,
  ⟨0x1f20, 1, "GREEK SMALL LETTER ETA WITH ", [
    "PSILI|DASIA|PSILI AND VARIA|DASIA AND VARIA|PSILI AND OXIA|DASIA AND OXIA",
    "PSILI AND PERISPOMENI|DASIA AND PERISPOMENI"]⟩,
  ⟨0x1f28, 1, "GREEK CAPITAL LETTER ETA WITH ", [
    "PSILI|DASIA|PSILI AND VARIA|DASIA AND VARIA|PSILI AND OXIA|DASIA AND OXIA",
    "PSILI AND PERISPOMENI|DASIA AND PERISPOMENI"]⟩,
  ⟨0x1f30, 1, "GREEK SMALL LETTER IOTA WITH ", [
    "PSILI|DASIA|PSILI AND VARIA|DASIA AND VARIA|PSILI AND OXIA|DASIA AND OXIA",
    "PSILI AND PERISPOMENI|DASIA AND PERISPOMENI"]⟩,
  ⟨0x1f38, 1, "GREEK CAPITAL LETTER IOTA WITH ", [
    "PSILI|DASIA|PSILI AND VARIA|DASIA AND VARIA|PSILI AND OXIA|DASIA AND OXIA",
    "PSILI AND PERISPOMENI|DASIA AND PERISPOMENI"]⟩,
  ⟨0x1f40, 1, "GREEK SMALL LETTER OMICRON WITH ", [
    "PSILI|DASIA|PSILI AND VARIA|DASIA AND VARIA|PSILI AND OXIA|DASIA AND OXIA"]⟩,
  ⟨0x1f48, 1, "GREEK CAPITAL LETTER OMICRON WITH ", [
    "PSILI|DASIA|PSILI AND VARIA|DASIA AND VARIA|PSILI AND OXIA|DASIA AND OXIA"]⟩,
  ⟨0x1f50, 1, "GREEK SMALL LETTER UPSILON WITH ", [
    "PSILI|DASIA|PSILI AND VARIA|DASIA AND VARIA|PSILI AND OXIA|DASIA AND OXIA",
    "PSILI AND PERISPOMENI|DASIA AND PERISPOMENI"]⟩,
  ⟨0x1f59, 1, "", ["GREEK CAPITAL LETTER UPSILON WITH DASIA"]⟩,
  ⟨0x1f5b, 1, "", ["GREEK CAPITAL LETTER UPSILON WITH DASIA AND VARIA"]⟩,
  ⟨0x1f5d, 1, "", ["GREEK CAPITAL LETTER UPSILON WITH DASIA AND OXIA"]⟩,
  ⟨0x1f5f, 1, "", ["GREEK CAPITAL LETTER UPSILON WITH DASIA AND PERISPOMENI"]⟩,
  ⟨0x1f60, 1, "GREEK SMALL LETTER OMEGA WITH ", [
    "PSILI|DASIA|PSILI AND VARIA|DASIA AND VARIA|PSILI AND OXIA|DASIA AND OXIA",
    "PSILI AND PERISPOMENI|DASIA AND PERISPOMENI"]⟩,
  ⟨0x1f68, 1, "GREEK CAPITAL LETTER OMEGA WITH ", [
    "PSILI|DASIA|PSILI AND VARIA|DASIA AND VARIA|PSILI AND OXIA|DASIA AND OXIA",
    "PSILI AND PERISPOMENI|DASIA AND PERISPOMENI"]⟩,
  ⟨0x1f70, 1, "GREEK SMALL LETTER ", [
    "ALPHA WITH VARIA|ALPHA WITH OXIA|EPSILON WITH VARIA|EPSILON WITH OXIA|ETA WITH VARIA",
    "ETA WITH OXIA|IOTA WITH VARIA|IOTA WITH OXIA|OMICRON WITH VARIA|OMICRON WITH OXIA",
    "UPSILON WITH VARIA|UPSILON WITH OXIA|OMEGA WITH VARIA|OMEGA WITH OXIA"]⟩,
  ⟨0x1f80, 2, "GREEK SMALL LETTER ALPHA WITH PSILI AND ", [
    "YPOGEGRAMMENI|VARIA AND YPOGEGRAMMENI|OXIA AND YPOGEGRAMMENI",
    "PERISPOMENI AND YPOGEGRAMMENI"]⟩,
  ⟨0x1f81, 2, "GREEK SMALL LETTER ALPHA WITH DASIA AND ", [
    "YPOGEGRAMMENI|VARIA AND YPOGEGRAMMENI|OXIA AND YPOGEGRAMMENI",
    "PERISPOMENI AND YPOGEGRAMMENI"]⟩,
  ⟨0x1f88, 2, "GREEK CAPITAL LETTER ALPHA WITH PSILI AND ", [
    "PROSGEGRAMMENI|VARIA AND PROSGEGRAMMENI|OXIA AND PROSGEGRAMMENI",
    "PERISPOMENI AND PROSGEGRAMMENI"]⟩,
  ⟨0x1f89, 2, "GREEK CAPITAL LETTER ALPHA WITH DASIA AND ", [
    "PROSGEGRAMMENI|VARIA AND PROSGEGRAMMENI|OXIA AND PROSGEGRAMMENI",
    "PERISPOMENI AND PROSGEGRAMMENI"]⟩,
  ⟨0x1f90, 2, "GREEK SMALL LETTER ETA WITH PSILI AND ", [
    "YPOGEGRAMMENI|VARIA AND YPOGEGRAMMENI|OXIA AND YPOGEGRAMMENI",
    "PERISPOMENI AND YPOGEGRAMMENI"]⟩,
  ⟨0x1f91, 2, "GREEK SMALL LETTER ETA WITH DASIA AND ", [
    "YPOGEGRAMMENI|VARIA AND YPOGEGRAMMENI|OXIA AND YPOGEGRAMMENI",
    "PERISPOMENI AND YPOGEGRAMMENI"]⟩,
  ⟨0x1f98, 2, "GREEK CAPITAL LETTER ETA WITH PSILI AND ", [
    "PROSGEGRAMMENI|VARIA AND PROSGEGRAMMENI|OXIA AND PROSGEGRAMMENI",
    "PERISPOMENI AND PROSGEGRAMMENI"]⟩,
  ⟨0x1f99, 2, "GREEK CAPITAL LETTER ETA WITH DASIA AND ", [
    "PROSGEGRAMMENI|VARIA AND PROSGEGRAMMENI|OXIA AND PROSGEGRAMMENI",
    "PERISPOMENI AND PROSGEGRAMMENI"]⟩,
  ⟨0x1fa0, 2, "GREEK SMALL LETTER OMEGA WITH PSILI AND ", [
    "YPOGEGRAMMENI|VARIA AND YPOGEGRAMMENI|OXIA AND YPOGEGRAMMENI",
    "PERISPOMENI AND YPOGEGRAMMENI"]⟩,
  ⟨0x1fa1, 2, "GREEK SMALL LETTER OMEGA WITH DASIA AND ", [
    "YPOGEGRAMMENI|VARIA AND YPOGEGRAMMENI|OXIA AND YPOGEGRAMMENI",
    "PERISPOMENI AND YPOGEGRAMMENI"]⟩,
  ⟨0x1fa8, 2, "GREEK CAPITAL LETTER OMEGA WITH PSILI AND ", [
    "PROSGEGRAMMENI|VARIA AND PROSGEGRAMMENI|OXIA AND PROSGEGRAMMENI",
    "PERISPOMENI AND PROSGEGRAMMENI"]⟩,
  ⟨0x1fa9, 2, "GREEK CAPITAL LETTER OMEGA WITH DASIA AND ", [
    "PROSGEGRAMMENI|VARIA AND PROSGEGRAMMENI|OXIA AND PROSGEGRAMMENI",
    "PERISPOMENI AND PROSGEGRAMMENI"]⟩,
  ⟨0x1fb0, 1, "GREEK SMALL LETTER ALPHA WITH ", [
    "VRACHY|MACRON|VARIA AND YPOGEGRAMMENI|YPOGEGRAMMENI|OXIA AND YPOGEGRAMMENI"]⟩,
  ⟨0x1fb6, 1, "GREEK SMALL LETTER ALPHA WITH ", ["PERISPOMENI|PERISPOMENI AND YPOGEGRAMMENI"]⟩,
  ⟨0x1fb8, 1, "GREEK CAPITAL LETTER ALPHA WITH ", ["VRACHY|MACRON|VARIA|OXIA|PROSGEGRAMMENI"]⟩,
  ⟨0x1fbd, 1, "GREEK ", ["KORONIS|PROSGEGRAMMENI|PSILI|PERISPOMENI|DIALYTIKA AND PERISPOMENI"]⟩,
  ⟨0x1fc2, 1, "GREEK SMALL LETTER ETA WITH ", [
    "VARIA AND YPOGEGRAMMENI|YPOGEGRAMMENI|OXIA AND YPOGEGRAMMENI"]⟩,
  ⟨0x1fc6, 1, "GREEK SMALL LETTER ETA WITH ", ["PERISPOMENI|PERISPOMENI AND YPOGEGRAMMENI"]⟩,
  ⟨0x1fc8, 1, "GREEK CAPITAL LETTER ", [
    "EPSILON WITH VARIA|EPSILON WITH OXIA|ETA WITH VARIA|ETA WITH OXIA",
    "ETA WITH PROSGEGRAMMENI"]⟩,
  ⟨0x1fcd, 1, "GREEK PSILI AND ", ["VARIA|OXIA|PERISPOMENI"]⟩,
  ⟨0x1fd0, 1, "GREEK SMALL LETTER IOTA WITH ", [
    "VRACHY|MACRON|DIALYTIKA AND VARIA|DIALYTIKA AND OXIA"]⟩,
  ⟨0x1fd6, 1, "GREEK SMALL LETTER IOTA WITH ", ["PERISPOMENI|DIALYTIKA AND PERISPOMENI"]⟩,
  ⟨0x1fd8, 1, "GREEK CAPITAL LETTER IOTA WITH ", ["VRACHY|MACRON|VARIA|OXIA"]⟩,
  ⟨0x1fdd, 1, "GREEK DASIA AND ", ["VARIA|OXIA|PERISPOMENI"]⟩,
  ⟨0x1fe0, 1, "GREEK SMALL LETTER ", [
    "UPSILON WITH VRACHY|UPSILON WITH MACRON|UPSILON WITH DIALYTIKA AND VARIA",
    "UPSILON WITH DIALYTIKA AND OXIA|RHO WITH PSILI|RHO WITH DASIA|UPSILON WITH PERISPOMENI",
    "UPSILON WITH DIALYTIKA AND PERISPOMENI"]⟩,
  ⟨0x1fe8, 1, "GREEK CAPITAL LETTER UPSILON WITH ", ["VRACHY|MACRON|VARIA|OXIA"]⟩,
  ⟨0x1fec, 1, "GREEK ", [
    "CAPITAL LETTER RHO WITH DASIA|DIALYTIKA AND VARIA|DIALYTIKA AND OXIA|VARIA"]⟩,
  ⟨0x1ff2, 1, "GREEK SMALL LETTER OMEGA WITH ", [
    "VARIA AND YPOGEGRAMMENI|YPOGEGRAMMENI|OXIA AND YPOGEGRAMMENI"]⟩,
  ⟨0x1ff6, 1, "GREEK SMALL LETTER OMEGA WITH ", ["PERISPOMENI|PERISPOMENI AND YPOGEGRAMMENI"]⟩,
  ⟨0x1ff8, 1, "GREEK CAPITAL LETTER ", [
    "OMICRON WITH VARIA|OMICRON WITH OXIA|OMEGA WITH VARIA|OMEGA WITH OXIA",
    "OMEGA WITH PROSGEGRAMMENI"]⟩,
  ⟨0x1ffd, 1, "GREEK ", ["OXIA|DASIA"]⟩,
  ⟨0x3000, 1, "IDEOGRAPHIC ", ["SPACE|COMMA|FULL STOP"]⟩,
  ⟨0x3003, 1, "", [
    "DITTO MARK|JAPANESE INDUSTRIAL STANDARD SYMBOL|IDEOGRAPHIC ITERATION MARK",
    "IDEOGRAPHIC CLOSING MARK|IDEOGRAPHIC NUMBER ZERO|LEFT ANGLE BRACKET|RIGHT ANGLE BRACKET",
    "LEFT DOUBLE ANGLE BRACKET|RIGHT DOUBLE ANGLE BRACKET|LEFT CORNER BRACKET",
    "RIGHT CORNER BRACKET|LEFT WHITE CORNER BRACKET|RIGHT WHITE CORNER BRACKET",
    "LEFT BLACK LENTICULAR BRACKET|RIGHT BLACK LENTICULAR BRACKET|POSTAL MARK|GETA MARK",
    "LEFT TORTOISE SHELL BRACKET|RIGHT TORTOISE SHELL BRACKET|LEFT WHITE LENTICULAR BRACKET",
    "RIGHT WHITE LENTICULAR BRACKET|LEFT WHITE TORTOISE SHELL BRACKET",
    "RIGHT WHITE TORTOISE SHELL BRACKET|LEFT WHITE SQUARE BRACKET|RIGHT WHITE SQUARE BRACKET",
    "WAVE DASH|REVERSED DOUBLE PRIME QUOTATION MARK|DOUBLE PRIME QUOTATION MARK",
    "LOW DOUBLE PRIME QUOTATION MARK|POSTAL MARK FACE"]⟩,
  ⟨0x3021, 1, "HANGZHOU NUMERAL ", ["ONE|TWO|THREE|FOUR|FIVE|SIX|SEVEN|EIGHT|NINE"]⟩,
  ⟨0x302a, 1, "IDEOGRAPHIC ", [
    "LEVEL TONE MARK|RISING TONE MARK|DEPARTING TONE MARK|ENTERING TONE MARK"]⟩,
  ⟨0x302e, 1, "", ["HANGUL SINGLE DOT TONE MARK|HANGUL DOUBLE DOT TONE MARK|WAVY DASH"]⟩,
  ⟨0x3031, 1, "VERTICAL KANA REPEAT ", [
    "MARK|WITH VOICED SOUND MARK|MARK UPPER HALF|WITH VOICED SOUND MARK UPPER HALF",
    "MARK LOWER HALF"]⟩,
  ⟨0x3036, 1, "", [
    "CIRCLED POSTAL MARK|IDEOGRAPHIC TELEGRAPH LINE FEED SEPARATOR SYMBOL",
    "HANGZHOU NUMERAL TEN|HANGZHOU NUMERAL TWENTY|HANGZHOU NUMERAL THIRTY",
    "VERTICAL IDEOGRAPHIC ITERATION MARK|MASU MARK|PART ALTERNATION MARK",
    "IDEOGRAPHIC VARIATION INDICATOR|IDEOGRAPHIC HALF FILL SPACE"]⟩,
  ⟨0x3041, 1, "HIRAGANA LETTER ", [
    "SMALL A|A|SMALL I|I|SMALL U|U|SMALL E|E|SMALL O|O|KA|GA|KI|GI|KU|GU"]⟩,
  ⟨0x3051, 1, "HIRAGANA LETTER ", [
    "KE|GE|KO|GO|SA|ZA|SI|ZI|SU|ZU|SE|ZE|SO|ZO|TA|DA|TI|DI|SMALL TU|TU|DU|TE|DE|TO|DO|NA|NI",
    "NU|NE|NO|HA|BA|PA|HI|BI|PI|HU|BU|PU|HE|BE|PE|HO|BO|PO|MA|MI|MU|ME|MO|SMALL YA|YA",
    "SMALL YU|YU|SMALL YO|YO|RA|RI|RU|RE|RO|SMALL WA|WA|WI|WE|WO|N|VU|SMALL KA|SMALL KE"]⟩,
  ⟨0x3099, 1, "COMBINING KATAKANA-HIRAGANA ", ["VOICED SOUND MARK|SEMI-VOICED SOUND MARK"]⟩,
  ⟨0x309b, 1, "", [
    "KATAKANA-HIRAGANA VOICED SOUND MARK|KATAKANA-HIRAGANA SEMI-VOICED SOUND MARK",
    "HIRAGANA ITERATION MARK|HIRAGANA VOICED ITERATION MARK|HIRAGANA DIGRAPH YORI",
    "KATAKANA-HIRAGANA DOUBLE HYPHEN"]⟩,
  ⟨0x30a1, 1, "KATAKANA LETTER ", [
    "SMALL A|A|SMALL I|I|SMALL U|U|SMALL E|E|SMALL O|O|KA|GA|KI|GI|KU|GU|KE|GE|KO|GO"]⟩,
  ⟨0x30b5, 1, "KATAKANA LETTER ", [
    "SA|ZA|SI|ZI|SU|ZU|SE|ZE|SO|ZO|TA|DA|TI|DI|SMALL TU|TU|DU|TE|DE|TO|DO|NA|NI|NU|NE|NO|HA",
    "BA|PA|HI|BI|PI|HU|BU|PU|HE|BE|PE|HO|BO|PO|MA|MI|MU|ME|MO|SMALL YA|YA|SMALL YU|YU",
    "SMALL YO|YO|RA|RI|RU|RE|RO|SMALL WA|WA|WI|WE|WO|N|VU|SMALL KA|SMALL KE|VA|VI|VE|VO"]⟩,
  ⟨0x30fb, 1, "", [
    "KATAKANA MIDDLE DOT|KATAKANA-HIRAGANA PROLONGED SOUND MARK|KATAKANA ITERATION MARK",
    "KATAKANA VOICED ITERATION MARK|KATAKANA DIGRAPH KOTO"]⟩,
  ⟨0xfb00, 1, "LATIN SMALL LIGATURE ", ["FF|FI|FL|FFI|FFL|LONG S T|ST"]⟩,
  ⟨0xff01, 1, "FULLWIDTH ", [
    "EXCLAMATION MARK|QUOTATION MARK|NUMBER SIGN|DOLLAR SIGN|PERCENT SIGN|AMPERSAND",
    "APOSTROPHE|LEFT PARENTHESIS|RIGHT PARENTHESIS|ASTERISK|PLUS SIGN|COMMA|HYPHEN-MINUS",
    "FULL STOP|SOLIDUS|DIGIT ZERO|DIGIT ONE|DIGIT TWO|DIGIT THREE|DIGIT FOUR|DIGIT FIVE",
    "DIGIT SIX|DIGIT SEVEN|DIGIT EIGHT|DIGIT NINE|COLON|SEMICOLON|LESS-THAN SIGN|EQUALS SIGN",
    "GREATER-THAN SIGN|QUESTION MARK|COMMERCIAL AT"]⟩,
  ⟨0xff21, 1, "FULLWIDTH LATIN CAPITAL LETTER ", [
    "A|B|C|D|E|F|G|H|I|J|K|L|M|N|O|P|Q|R|S|T|U|V|W|X|Y|Z"]⟩,
  ⟨0xff3b, 1, "FULLWIDTH ", [
    "LEFT SQUARE BRACKET|REVERSE SOLIDUS|RIGHT SQUARE BRACKET|CIRCUMFLEX ACCENT|LOW LINE",
    "GRAVE ACCENT"]⟩,
  ⟨0xff41, 1, "FULLWIDTH LATIN SMALL LETTER ", [
    "A|B|C|D|E|F|G|H|I|J|K|L|M|N|O|P|Q|R|S|T|U|V|W|X|Y|Z"]⟩,
  ⟨0xff5b, 1, "FULLWIDTH ", [
    "LEFT CURLY BRACKET|VERTICAL LINE|RIGHT CURLY BRACKET|TILDE|LEFT WHITE PARENTHESIS",
    "RIGHT WHITE PARENTHESIS"]⟩,
  ⟨0xff61, 1, "HALFWIDTH ", [
    "IDEOGRAPHIC FULL STOP|LEFT CORNER BRACKET|RIGHT CORNER BRACKET|IDEOGRAPHIC COMMA",
    "KATAKANA MIDDLE DOT|KATAKANA LETTER WO"]⟩,
  ⟨0xff67, 1, "HALFWIDTH KATAKANA LETTER SMALL ", ["A|I|U|E|O|YA|YU|YO|TU"]⟩,
  ⟨0xff70, 1, "", ["HALFWIDTH KATAKANA-HIRAGANA PROLONGED SOUND MARK"]⟩,
  ⟨0xff71, 1, "HALFWIDTH KATAKANA LETTER ", [
    "A|I|U|E|O|KA|KI|KU|KE|KO|SA|SI|SU|SE|SO|TA|TI|TU|TE|TO|NA|NI|NU|NE|NO|HA|HI|HU|HE|HO|MA",
    "MI|MU|ME|MO|YA|YU|YO|RA|RI|RU|RE|RO|WA|N"]⟩,
  ⟨0xff9e, 1, "HALFWIDTH ", [
    "KATAKANA VOICED SOUND MARK|KATAKANA SEMI-VOICED SOUND MARK|HANGUL FILLER"]⟩,
  ⟨0xffa1, 1, "HALFWIDTH HANGUL LETTER ", [
    "KIYEOK|SSANGKIYEOK|KIYEOK-SIOS|NIEUN|NIEUN-CIEUC|NIEUN-HIEUH|TIKEUT|SSANGTIKEUT|RIEUL",
    "RIEUL-KIYEOK|RIEUL-MIEUM|RIEUL-PIEUP|RIEUL-SIOS|RIEUL-THIEUTH|RIEUL-PHIEUPH|RIEUL-HIEUH",
    "MIEUM|PIEUP|SSANGPIEUP|PIEUP-SIOS|SIOS|SSANGSIOS|IEUNG|CIEUC|SSANGCIEUC|CHIEUCH|KHIEUKH",
    "THIEUTH|PHIEUPH|HIEUH"]⟩,
  ⟨0xffc2, 1, "HALFWIDTH HANGUL LETTER ", ["A|AE|YA|YAE|EO|E"]⟩,
  ⟨0xffca, 1, "HALFWIDTH HANGUL LETTER ", ["YEO|YE|O|WA|WAE|OE"]⟩,
  ⟨0xffd2, 1, "HALFWIDTH HANGUL LETTER ", ["YO|U|WEO|WE|WI|YU"]⟩,
  ⟨0xffda, 1, "HALFWIDTH HANGUL LETTER ", ["EU|YI|I"]⟩,
  ⟨0xffe0, 1, "FULLWIDTH ", [
    "CENT SIGN|POUND SIGN|NOT SIGN|MACRON|BROKEN BAR|YEN SIGN|WON SIGN"]⟩,
  ⟨0xffe8, 1, "HALFWIDTH ", [
    "FORMS LIGHT VERTICAL|LEFTWARDS ARROW|UPWARDS ARROW|RIGHTWARDS ARROW|DOWNWARDS ARROW",
    "BLACK SQUARE|WHITE CIRCLE"]⟩,
  ⟨0x1d400, 1, "MATHEMATICAL BOLD CAPITAL ", [
    "A|B|C|D|E|F|G|H|I|J|K|L|M|N|O|P|Q|R|S|T|U|V|W|X|Y|Z"]⟩,
  ⟨0x1d41a, 1, "MATHEMATICAL BOLD SMALL ", [
    "A|B|C|D|E|F|G|H|I|J|K|L|M|N|O|P|Q|R|S|T|U|V|W|X|Y|Z"]⟩,
  ⟨0x1d434, 1, "MATHEMATICAL ITALIC CAPITAL ", [
    "A|B|C|D|E|F|G|H|I|J|K|L|M|N|O|P|Q|R|S|T|U|V|W|X|Y|Z"]⟩,
  ⟨0x1d44e, 1, "MATHEMATICAL ITALIC SMALL ", ["A|B|C|D|E|F|G"]⟩,
  ⟨0x1d456, 1, "MATHEMATICAL ITALIC SMALL ", ["I|J|K|L|M|N|O|P|Q|R|S|T|U|V|W|X|Y|Z"]⟩,
  ⟨0x1d468, 1, "MATHEMATICAL BOLD ITALIC CAPITAL ", [
    "A|B|C|D|E|F|G|H|I|J|K|L|M|N|O|P|Q|R|S|T|U|V|W|X|Y|Z"]⟩,
  ⟨0x1d482, 1, "MATHEMATICAL BOLD ITALIC SMALL ", [
    "A|B|C|D|E|F|G|H|I|J|K|L|M|N|O|P|Q|R|S|T|U|V|W|X|Y|Z"]⟩,
  ⟨0x1d49c, 1, "", ["MATHEMATICAL SCRIPT CAPITAL A"]⟩,
  ⟨0x1d49e, 1, "MATHEMATICAL SCRIPT CAPITAL ", ["C|D"]⟩,
  ⟨0x1d4a2, 1, "", ["MATHEMATICAL SCRIPT CAPITAL G"]⟩,
  ⟨0x1d4a5, 1, "MATHEMATICAL SCRIPT CAPITAL ", ["J|K"]⟩,
  ⟨0x1d4a9, 1, "MATHEMATICAL SCRIPT CAPITAL ", ["N|O|P|Q"]⟩,
  ⟨0x1d4ae, 1, "MATHEMATICAL SCRIPT CAPITAL ", ["S|T|U|V|W|X|Y|Z"]⟩,
  ⟨0x1d4b6, 1, "MATHEMATICAL SCRIPT SMALL ", ["A|B|C|D"]⟩,
  ⟨0x1d4bb, 1, "", ["MATHEMATICAL SCRIPT SMALL F"]⟩,
  ⟨0x1d4bd, 1, "MATHEMATICAL SCRIPT SMALL ", ["H|I|J|K|L|M|N"]⟩,
  ⟨0x1d4c5, 1, "MATHEMATICAL SCRIPT SMALL ", ["P|Q|R|S|T|U|V|W|X|Y|Z"]⟩,
  ⟨0x1d4d0, 1, "MATHEMATICAL BOLD SCRIPT CAPITAL ", [
    "A|B|C|D|E|F|G|H|I|J|K|L|M|N|O|P|Q|R|S|T|U|V|W|X|Y|Z"]⟩,
  ⟨0x1d4ea, 1, "MATHEMATICAL BOLD SCRIPT SMALL ", [
    "A|B|C|D|E|F|G|H|I|J|K|L|M|N|O|P|Q|R|S|T|U|V|W|X|Y|Z"]⟩,
  ⟨0x1d504, 1, "MATHEMATICAL FRAKTUR CAPITAL ", ["A|B"]⟩,
  ⟨0x1d507, 1, "MATHEMATICAL FRAKTUR CAPITAL ", ["D|E|F|G"]⟩,
  ⟨0x1d50d, 1, "MATHEMATICAL FRAKTUR CAPITAL ", ["J|K|L|M|N|O|P|Q"]⟩,
  ⟨0x1d516, 1, "MATHEMATICAL FRAKTUR CAPITAL ", ["S|T|U|V|W|X|Y"]⟩,
  ⟨0x1d51e, 1, "MATHEMATICAL FRAKTUR SMALL ", [
    "A|B|C|D|E|F|G|H|I|J|K|L|M|N|O|P|Q|R|S|T|U|V|W|X|Y|Z"]⟩,
  ⟨0x1d538, 1, "MATHEMATICAL DOUBLE-STRUCK CAPITAL ", ["A|B"]⟩,
  ⟨0x1d53b, 1, "MATHEMATICAL DOUBLE-STRUCK CAPITAL ", ["D|E|F|G"]⟩,
  ⟨0x1d540, 1, "MATHEMATICAL DOUBLE-STRUCK CAPITAL ", ["I|J|K|L|M"]⟩,
  ⟨0x1d546, 1, "", ["MATHEMATICAL DOUBLE-STRUCK CAPITAL O"]⟩,
  ⟨0x1d54a, 1, "MATHEMATICAL DOUBLE-STRUCK CAPITAL ", ["S|T|U|V|W|X|Y"]⟩,
  ⟨0x1d552, 1, "MATHEMATICAL DOUBLE-STRUCK SMALL ", [
    "A|B|C|D|E|F|G|H|I|J|K|L|M|N|O|P|Q|R|S|T|U|V|W|X|Y|Z"]⟩,
  ⟨0x1d56c, 1, "MATHEMATICAL BOLD FRAKTUR CAPITAL ", [
    "A|B|C|D|E|F|G|H|I|J|K|L|M|N|O|P|Q|R|S|T|U|V|W|X|Y|Z"]⟩,
  ⟨0x1d586, 1, "MATHEMATICAL BOLD FRAKTUR SMALL ", [
    "A|B|C|D|E|F|G|H|I|J|K|L|M|N|O|P|Q|R|S|T|U|V|W|X|Y|Z"]⟩,
  ⟨0x1d5a0, 1, "MATHEMATICAL SANS-SERIF CAPITAL ", [
    "A|B|C|D|E|F|G|H|I|J|K|L|M|N|O|P|Q|R|S|T|U|V|W|X|Y|Z"]⟩,
  ⟨0x1d5ba, 1, "MATHEMATICAL SANS-SERIF SMALL ", [
    "A|B|C|D|E|F|G|H|I|J|K|L|M|N|O|P|Q|R|S|T|U|V|W|X|Y|Z"]⟩,
  ⟨0x1d5d4, 1, "MATHEMATICAL SANS-SERIF BOLD CAPITAL ", [
    "A|B|C|D|E|F|G|H|I|J|K|L|M|N|O|P|Q|R|S|T|U|V|W|X|Y|Z"]⟩,
  ⟨0x1d5ee, 1, "MATHEMATICAL SANS-SERIF BOLD SMALL ", [
    "A|B|C|D|E|F|G|H|I|J|K|L|M|N|O|P|Q|R|S|T|U|V|W|X|Y|Z"]⟩,
  ⟨0x1d608, 1, "MATHEMATICAL SANS-SERIF ITALIC CAPITAL ", [
    "A|B|C|D|E|F|G|H|I|J|K|L|M|N|O|P|Q|R|S|T|U|V|W|X|Y|Z"]⟩,
  ⟨0x1d622, 1, "MATHEMATICAL SANS-SERIF ITALIC SMALL ", [
    "A|B|C|D|E|F|G|H|I|J|K|L|M|N|O|P|Q|R|S|T|U|V|W|X|Y|Z"]⟩,
  ⟨0x1d63c, 1, "MATHEMATICAL SANS-SERIF BOLD ITALIC CAPITAL ", [
    "A|B|C|D|E|F|G|H|I|J|K|L|M|N|O|P|Q|R|S|T|U|V|W|X|Y|Z"]⟩,
  ⟨0x1d656, 1, "MATHEMATICAL SANS-SERIF BOLD ITALIC SMALL ", [
    "A|B|C|D|E|F|G|H|I|J|K|L|M|N|O|P|Q|R|S|T|U|V|W|X|Y|Z"]⟩,
  ⟨0x1d670, 1, "MATHEMATICAL MONOSPACE CAPITAL ", [
    "A|B|C|D|E|F|G|H|I|J|K|L|M|N|O|P|Q|R|S|T|U|V|W|X|Y|Z"]⟩,
  ⟨0x1d68a, 1, "MATHEMATICAL MONOSPACE SMALL ", [
    "A|B|C|D|E|F|G|H|I|J|K|L|M|N|O|P|Q|R|S|T|U|V|W|X|Y|Z"]⟩,
  ⟨0x1d6a4, 1, "MATHEMATICAL ITALIC SMALL DOTLESS ", ["I|J"]⟩,
  ⟨0x1d6a8, 1, "MATHEMATICAL BOLD CAPITAL ", [
    "ALPHA|BETA|GAMMA|DELTA|EPSILON|ZETA|ETA|THETA|IOTA|KAPPA|LAMDA|MU|NU|XI|OMICRON|PI|RHO",
    "THETA SYMBOL|SIGMA|TAU|UPSILON|PHI|CHI|PSI|OMEGA"]⟩,
  ⟨0x1d6c1, 1, "", ["MATHEMATICAL BOLD NABLA"]⟩,
  ⟨0x1d6c2, 1, "MATHEMATICAL BOLD SMALL ", [
    "ALPHA|BETA|GAMMA|DELTA|EPSILON|ZETA|ETA|THETA|IOTA|KAPPA|LAMDA|MU|NU|XI|OMICRON|PI|RHO",
    "FINAL SIGMA|SIGMA|TAU|UPSILON|PHI|CHI|PSI|OMEGA"]⟩,
  ⟨0x1d6db, 1, "MATHEMATICAL BOLD ", [
    "PARTIAL DIFFERENTIAL|EPSILON SYMBOL|THETA SYMBOL|KAPPA SYMBOL|PHI SYMBOL|RHO SYMBOL",
    "PI SYMBOL"]⟩,
  ⟨0x1d6e2, 1, "MATHEMATICAL ITALIC CAPITAL ", [
    "ALPHA|BETA|GAMMA|DELTA|EPSILON|ZETA|ETA|THETA|IOTA|KAPPA|LAMDA|MU|NU|XI|OMICRON|PI|RHO",
    "THETA SYMBOL|SIGMA|TAU|UPSILON|PHI|CHI|PSI|OMEGA"]⟩,
  ⟨0x1d6fb, 1, "", ["MATHEMATICAL ITALIC NABLA"]⟩,
  ⟨0x1d6fc, 1, "MATHEMATICAL ITALIC SMALL ", [
    "ALPHA|BETA|GAMMA|DELTA|EPSILON|ZETA|ETA|THETA|IOTA|KAPPA|LAMDA|MU|NU|XI|OMICRON|PI|RHO",
    "FINAL SIGMA|SIGMA|TAU|UPSILON|PHI|CHI|PSI|OMEGA"]⟩,
  ⟨0x1d715, 1, "MATHEMATICAL ITALIC ", [
    "PARTIAL DIFFERENTIAL|EPSILON SYMBOL|THETA SYMBOL|KAPPA SYMBOL|PHI SYMBOL|RHO SYMBOL",
    "PI SYMBOL"]⟩,
  ⟨0x1d71c, 1, "MATHEMATICAL BOLD ITALIC CAPITAL ", [
    "ALPHA|BETA|GAMMA|DELTA|EPSILON|ZETA|ETA|THETA|IOTA|KAPPA|LAMDA|MU|NU|XI|OMICRON|PI|RHO",
    "THETA SYMBOL|SIGMA|TAU|UPSILON|PHI|CHI|PSI|OMEGA"]⟩,
  ⟨0x1d735, 1, "", ["MATHEMATICAL BOLD ITALIC NABLA"]⟩,
  ⟨0x1d736, 1, "MATHEMATICAL BOLD ITALIC SMALL ", [
    "ALPHA|BETA|GAMMA|DELTA|EPSILON|ZETA|ETA|THETA|IOTA|KAPPA|LAMDA|MU|NU|XI|OMICRON|PI|RHO",
    "FINAL SIGMA|SIGMA|TAU|UPSILON|PHI|CHI|PSI|OMEGA"]⟩,
  ⟨0x1d74f, 1, "MATHEMATICAL BOLD ITALIC ", [
    "PARTIAL DIFFERENTIAL|EPSILON SYMBOL|THETA SYMBOL|KAPPA SYMBOL|PHI SYMBOL|RHO SYMBOL",
    "PI SYMBOL"]⟩,
  ⟨0x1d756, 1, "MATHEMATICAL SANS-SERIF BOLD CAPITAL ", [
    "ALPHA|BETA|GAMMA|DELTA|EPSILON|ZETA|ETA|THETA|IOTA|KAPPA|LAMDA|MU|NU|XI|OMICRON|PI|RHO",
    "THETA SYMBOL|SIGMA|TAU|UPSILON|PHI|CHI|PSI|OMEGA"]⟩,
  ⟨0x1d76f, 1, "", ["MATHEMATICAL SANS-SERIF BOLD NABLA"]⟩,
  ⟨0x1d770, 1, "MATHEMATICAL SANS-SERIF BOLD SMALL ", [
    "ALPHA|BETA|GAMMA|DELTA|EPSILON|ZETA|ETA|THETA|IOTA|KAPPA|LAMDA|MU|NU|XI|OMICRON|PI|RHO",
    "FINAL SIGMA|SIGMA|TAU|UPSILON|PHI|CHI|PSI|OMEGA"]⟩,
  ⟨0x1d789, 1, "MATHEMATICAL SANS-SERIF BOLD ", [
    "PARTIAL DIFFERENTIAL|EPSILON SYMBOL|THETA SYMBOL|KAPPA SYMBOL|PHI SYMBOL|RHO SYMBOL",
    "PI SYMBOL"]⟩,
  ⟨0x1d790, 1, "MATHEMATICAL SANS-SERIF BOLD ITALIC CAPITAL ", [
    "ALPHA|BETA|GAMMA|DELTA|EPSILON|ZETA|ETA|THETA|IOTA|KAPPA|LAMDA|MU|NU|XI|OMICRON|PI|RHO",
    "THETA SYMBOL|SIGMA|TAU|UPSILON|PHI|CHI|PSI|OMEGA"]⟩,
  ⟨0x1d7a9, 1, "", ["MATHEMATICAL SANS-SERIF BOLD ITALIC NABLA"]⟩,
  ⟨0x1d7aa, 1, "MATHEMATICAL SANS-SERIF BOLD ITALIC SMALL ", [
    "ALPHA|BETA|GAMMA|DELTA|EPSILON|ZETA|ETA|THETA|IOTA|KAPPA|LAMDA|MU|NU|XI|OMICRON|PI|RHO",
    "FINAL SIGMA|SIGMA|TAU|UPSILON|PHI|CHI|PSI|OMEGA"]⟩,
  ⟨0x1d7c3, 1, "MATHEMATICAL SANS-SERIF BOLD ITALIC ", [
    "PARTIAL DIFFERENTIAL|EPSILON SYMBOL|THETA SYMBOL|KAPPA SYMBOL|PHI SYMBOL|RHO SYMBOL",
    "PI SYMBOL"]⟩,
  ⟨0x1d7ca, 1, "MATHEMATICAL BOLD ", ["CAPITAL DIGAMMA|SMALL DIGAMMA"]⟩,
  ⟨0x1d7ce, 1, "MATHEMATICAL BOLD DIGIT ", ["ZERO|ONE|TWO|THREE|FOUR|FIVE|SIX|SEVEN|EIGHT|NINE"]⟩,
  ⟨0x1d7d8, 1, "MATHEMATICAL DOUBLE-STRUCK DIGIT ", [
    "ZERO|ONE|TWO|THREE|FOUR|FIVE|SIX|SEVEN|EIGHT|NINE"]⟩,
  ⟨0x1d7e2, 1, "MATHEMATICAL SANS-SERIF DIGIT ", [
    "ZERO|ONE|TWO|THREE|FOUR|FIVE|SIX|SEVEN|EIGHT|NINE"]⟩,
  ⟨0x1d7ec, 1, "MATHEMATICAL SANS-SERIF BOLD DIGIT ", [
    "ZERO|ONE|TWO|THREE|FOUR|FIVE|SIX|SEVEN|EIGHT|NINE"]⟩,
  ⟨0x1d7f6, 1, "MATHEMATICAL MONOSPACE DIGIT ", [
    "ZERO|ONE|TWO|THREE|FOUR|FIVE|SIX|SEVEN|EIGHT|NINE"]⟩]

end BodyDigest.NameRun
