import TraitCatalog.Text.Basic

namespace TraitCatalog
namespace Code

-- The names of code points that follow each other, from the first one on.
def basicNames : List (Nat × String) :=
  [(0x20, "SPACE;EXCLAMATION MARK;QUOTATION MARK;NUMBER SIGN;DOLLAR SIGN;PERCENT SIGN"),
   (0x26, "AMPERSAND;APOSTROPHE;LEFT PARENTHESIS;RIGHT PARENTHESIS;ASTERISK;PLUS SIGN"),
   (0x2C, "COMMA;HYPHEN-MINUS;FULL STOP;SOLIDUS;DIGIT ZERO;DIGIT ONE;DIGIT TWO;DIGIT THREE"),
   (0x34, "DIGIT FOUR;DIGIT FIVE;DIGIT SIX;DIGIT SEVEN;DIGIT EIGHT;DIGIT NINE;COLON"),
   (0x3B, "SEMICOLON;LESS-THAN SIGN;EQUALS SIGN;GREATER-THAN SIGN;QUESTION MARK"),
   (0x40, "COMMERCIAL AT;LATIN CAPITAL LETTER A;LATIN CAPITAL LETTER B"),
   (0x43, "LATIN CAPITAL LETTER C;LATIN CAPITAL LETTER D;LATIN CAPITAL LETTER E"),
   (0x46, "LATIN CAPITAL LETTER F;LATIN CAPITAL LETTER G;LATIN CAPITAL LETTER H"),
   (0x49, "LATIN CAPITAL LETTER I;LATIN CAPITAL LETTER J;LATIN CAPITAL LETTER K"),
   (0x4C, "LATIN CAPITAL LETTER L;LATIN CAPITAL LETTER M;LATIN CAPITAL LETTER N"),
   (0x4F, "LATIN CAPITAL LETTER O;LATIN CAPITAL LETTER P;LATIN CAPITAL LETTER Q"),
   (0x52, "LATIN CAPITAL LETTER R;LATIN CAPITAL LETTER S;LATIN CAPITAL LETTER T"),
   (0x55, "LATIN CAPITAL LETTER U;LATIN CAPITAL LETTER V;LATIN CAPITAL LETTER W"),
   (0x58, "LATIN CAPITAL LETTER X;LATIN CAPITAL LETTER Y;LATIN CAPITAL LETTER Z"),
   (0x5B, "LEFT SQUARE BRACKET;REVERSE SOLIDUS;RIGHT SQUARE BRACKET;CIRCUMFLEX ACCENT"),
   (0x5F, "LOW LINE;GRAVE ACCENT;LATIN SMALL LETTER A;LATIN SMALL LETTER B"),
   (0x63, "LATIN SMALL LETTER C;LATIN SMALL LETTER D;LATIN SMALL LETTER E"),
   (0x66, "LATIN SMALL LETTER F;LATIN SMALL LETTER G;LATIN SMALL LETTER H"),
   (0x69, "LATIN SMALL LETTER I;LATIN SMALL LETTER J;LATIN SMALL LETTER K"),
   (0x6C, "LATIN SMALL LETTER L;LATIN SMALL LETTER M;LATIN SMALL LETTER N"),
   (0x6F, "LATIN SMALL LETTER O;LATIN SMALL LETTER P;LATIN SMALL LETTER Q"),
   (0x72, "LATIN SMALL LETTER R;LATIN SMALL LETTER S;LATIN SMALL LETTER T"),
   (0x75, "LATIN SMALL LETTER U;LATIN SMALL LETTER V;LATIN SMALL LETTER W"),
   (0x78, "LATIN SMALL LETTER X;LATIN SMALL LETTER Y;LATIN SMALL LETTER Z"),
   (0x7B, "LEFT CURLY BRACKET;VERTICAL LINE;RIGHT CURLY BRACKET;TILDE")]

def latinNames : List (Nat × String) :=
  [(0xA0, "NO-BREAK SPACE;INVERTED EXCLAMATION MARK;CENT SIGN;POUND SIGN;CURRENCY SIGN"),
   (0xA5, "YEN SIGN;BROKEN BAR;SECTION SIGN;DIAERESIS"),
   (0xAA, "FEMININE ORDINAL INDICATOR;LEFT-POINTING DOUBLE ANGLE QUOTATION MARK;NOT SIGN"),
   (0xAD, "SOFT HYPHEN;REGISTERED SIGN;MACRON;DEGREE SIGN;PLUS-MINUS SIGN;SUPERSCRIPT TWO"),
   (0xB3, "SUPERSCRIPT THREE;ACUTE ACCENT;MICRO SIGN;PILCROW SIGN;MIDDLE DOT;CEDILLA"),
   (0xB9, "SUPERSCRIPT ONE;MASCULINE ORDINAL INDICATOR"),
   (0xBB, "RIGHT-POINTING DOUBLE ANGLE QUOTATION MARK;VULGAR FRACTION ONE QUARTER"),
   (0xBD, "VULGAR FRACTION ONE HALF;VULGAR FRACTION THREE QUARTERS;INVERTED QUESTION MARK"),
   (0xC0, "LATIN CAPITAL LETTER A WITH GRAVE;LATIN CAPITAL LETTER A WITH ACUTE"),
   (0xC2, "LATIN CAPITAL LETTER A WITH CIRCUMFLEX;LATIN CAPITAL LETTER A WITH TILDE"),
   (0xC4, "LATIN CAPITAL LETTER A WITH DIAERESIS;LATIN CAPITAL LETTER A WITH RING ABOVE"),
   (0xC6, "LATIN CAPITAL LETTER AE;LATIN CAPITAL LETTER C WITH CEDILLA"),
   (0xC8, "LATIN CAPITAL LETTER E WITH GRAVE;LATIN CAPITAL LETTER E WITH ACUTE"),
   (0xCA, "LATIN CAPITAL LETTER E WITH CIRCUMFLEX;LATIN CAPITAL LETTER E WITH DIAERESIS"),
   (0xCC, "LATIN CAPITAL LETTER I WITH GRAVE;LATIN CAPITAL LETTER I WITH ACUTE"),
   (0xCE, "LATIN CAPITAL LETTER I WITH CIRCUMFLEX;LATIN CAPITAL LETTER I WITH DIAERESIS"),
   (0xD0, "LATIN CAPITAL LETTER ETH;LATIN CAPITAL LETTER N WITH TILDE"),
   (0xD2, "LATIN CAPITAL LETTER O WITH GRAVE;LATIN CAPITAL LETTER O WITH ACUTE"),
   (0xD4, "LATIN CAPITAL LETTER O WITH CIRCUMFLEX;LATIN CAPITAL LETTER O WITH TILDE"),
   (0xD6, "LATIN CAPITAL LETTER O WITH DIAERESIS;MULTIPLICATION SIGN"),
   (0xD8, "LATIN CAPITAL LETTER O WITH STROKE;LATIN CAPITAL LETTER U WITH GRAVE"),
   (0xDA, "LATIN CAPITAL LETTER U WITH ACUTE;LATIN CAPITAL LETTER U WITH CIRCUMFLEX"),
   (0xDC, "LATIN CAPITAL LETTER U WITH DIAERESIS;LATIN CAPITAL LETTER Y WITH ACUTE"),
   (0xDE, "LATIN CAPITAL LETTER THORN;LATIN SMALL LETTER SHARP S"),
   (0xE0, "LATIN SMALL LETTER A WITH GRAVE;LATIN SMALL LETTER A WITH ACUTE"),
   (0xE2, "LATIN SMALL LETTER A WITH CIRCUMFLEX;LATIN SMALL LETTER A WITH TILDE"),
   (0xE4, "LATIN SMALL LETTER A WITH DIAERESIS;LATIN SMALL LETTER A WITH RING ABOVE"),
   (0xE6, "LATIN SMALL LETTER AE;LATIN SMALL LETTER C WITH CEDILLA"),
   (0xE8, "LATIN SMALL LETTER E WITH GRAVE;LATIN SMALL LETTER E WITH ACUTE"),
   (0xEA, "LATIN SMALL LETTER E WITH CIRCUMFLEX;LATIN SMALL LETTER E WITH DIAERESIS"),
   (0xEC, "LATIN SMALL LETTER I WITH GRAVE;LATIN SMALL LETTER I WITH ACUTE"),
   (0xEE, "LATIN SMALL LETTER I WITH CIRCUMFLEX;LATIN SMALL LETTER I WITH DIAERESIS"),
   (0xF0, "LATIN SMALL LETTER ETH;LATIN SMALL LETTER N WITH TILDE"),
   (0xF2, "LATIN SMALL LETTER O WITH GRAVE;LATIN SMALL LETTER O WITH ACUTE"),
   (0xF4, "LATIN SMALL LETTER O WITH CIRCUMFLEX;LATIN SMALL LETTER O WITH TILDE"),
   (0xF6, "LATIN SMALL LETTER O WITH DIAERESIS;DIVISION SIGN"),
   (0xF8, "LATIN SMALL LETTER O WITH STROKE;LATIN SMALL LETTER U WITH GRAVE"),
   (0xFA, "LATIN SMALL LETTER U WITH ACUTE;LATIN SMALL LETTER U WITH CIRCUMFLEX"),
   (0xFC, "LATIN SMALL LETTER U WITH DIAERESIS;LATIN SMALL LETTER Y WITH ACUTE"),
   (0xFE, "LATIN SMALL LETTER THORN;LATIN SMALL LETTER Y WITH DIAERESIS"),
   (0x100, "LATIN CAPITAL LETTER A WITH MACRON;LATIN SMALL LETTER A WITH MACRON"),
   (0x102, "LATIN CAPITAL LETTER A WITH BREVE;LATIN SMALL LETTER A WITH BREVE"),
   (0x104, "LATIN CAPITAL LETTER A WITH OGONEK;LATIN SMALL LETTER A WITH OGONEK"),
   (0x106, "LATIN CAPITAL LETTER C WITH ACUTE;LATIN SMALL LETTER C WITH ACUTE"),
   (0x108, "LATIN CAPITAL LETTER C WITH CIRCUMFLEX;LATIN SMALL LETTER C WITH CIRCUMFLEX"),
   (0x10A, "LATIN CAPITAL LETTER C WITH DOT ABOVE;LATIN SMALL LETTER C WITH DOT ABOVE"),
   (0x10C, "LATIN CAPITAL LETTER C WITH CARON;LATIN SMALL LETTER C WITH CARON"),
   (0x10E, "LATIN CAPITAL LETTER D WITH CARON;LATIN SMALL LETTER D WITH CARON"),
   (0x110, "LATIN CAPITAL LETTER D WITH STROKE;LATIN SMALL LETTER D WITH STROKE"),
   (0x112, "LATIN CAPITAL LETTER E WITH MACRON;LATIN SMALL LETTER E WITH MACRON"),
   (0x114, "LATIN CAPITAL LETTER E WITH BREVE;LATIN SMALL LETTER E WITH BREVE"),
   (0x116, "LATIN CAPITAL LETTER E WITH DOT ABOVE;LATIN SMALL LETTER E WITH DOT ABOVE"),
   (0x118, "LATIN CAPITAL LETTER E WITH OGONEK;LATIN SMALL LETTER E WITH OGONEK"),
   (0x11A, "LATIN CAPITAL LETTER E WITH CARON;LATIN SMALL LETTER E WITH CARON"),
   (0x11C, "LATIN CAPITAL LETTER G WITH CIRCUMFLEX;LATIN SMALL LETTER G WITH CIRCUMFLEX"),
   (0x11E, "LATIN CAPITAL LETTER G WITH BREVE;LATIN SMALL LETTER G WITH BREVE"),
   (0x120, "LATIN CAPITAL LETTER G WITH DOT ABOVE;LATIN SMALL LETTER G WITH DOT ABOVE"),
   (0x122, "LATIN CAPITAL LETTER G WITH CEDILLA;LATIN SMALL LETTER G WITH CEDILLA"),
   (0x124, "LATIN CAPITAL LETTER H WITH CIRCUMFLEX;LATIN SMALL LETTER H WITH CIRCUMFLEX"),
   (0x126, "LATIN CAPITAL LETTER H WITH STROKE;LATIN SMALL LETTER H WITH STROKE"),
   (0x128, "LATIN CAPITAL LETTER I WITH TILDE;LATIN SMALL LETTER I WITH TILDE"),
   (0x12A, "LATIN CAPITAL LETTER I WITH MACRON;LATIN SMALL LETTER I WITH MACRON"),
   (0x12C, "LATIN CAPITAL LETTER I WITH BREVE;LATIN SMALL LETTER I WITH BREVE"),
   (0x12E, "LATIN CAPITAL LETTER I WITH OGONEK;LATIN SMALL LETTER I WITH OGONEK"),
   (0x130, "LATIN CAPITAL LETTER I WITH DOT ABOVE;LATIN SMALL LETTER DOTLESS I"),
   (0x132, "LATIN CAPITAL LIGATURE IJ;LATIN SMALL LIGATURE IJ"),
   (0x134, "LATIN CAPITAL LETTER J WITH CIRCUMFLEX;LATIN SMALL LETTER J WITH CIRCUMFLEX"),
   (0x136, "LATIN CAPITAL LETTER K WITH CEDILLA;LATIN SMALL LETTER K WITH CEDILLA"),
   (0x138, "LATIN SMALL LETTER KRA;LATIN CAPITAL LETTER L WITH ACUTE"),
   (0x13A, "LATIN SMALL LETTER L WITH ACUTE;LATIN CAPITAL LETTER L WITH CEDILLA"),
   (0x13C, "LATIN SMALL LETTER L WITH CEDILLA;LATIN CAPITAL LETTER L WITH CARON"),
   (0x13E, "LATIN SMALL LETTER L WITH CARON;LATIN CAPITAL LETTER L WITH MIDDLE DOT"),
   (0x140, "LATIN SMALL LETTER L WITH MIDDLE DOT;LATIN CAPITAL LETTER L WITH STROKE"),
   (0x142, "LATIN SMALL LETTER L WITH STROKE;LATIN CAPITAL LETTER N WITH ACUTE"),
   (0x144, "LATIN SMALL LETTER N WITH ACUTE;LATIN CAPITAL LETTER N WITH CEDILLA"),
   (0x146, "LATIN SMALL LETTER N WITH CEDILLA;LATIN CAPITAL LETTER N WITH CARON"),
   (0x148, "LATIN SMALL LETTER N WITH CARON;LATIN SMALL LETTER N PRECEDED BY APOSTROPHE"),
   (0x14A, "LATIN CAPITAL LETTER ENG;LATIN SMALL LETTER ENG"),
   (0x14C, "LATIN CAPITAL LETTER O WITH MACRON;LATIN SMALL LETTER O WITH MACRON"),
   (0x14E, "LATIN CAPITAL LETTER O WITH BREVE;LATIN SMALL LETTER O WITH BREVE"),
   (0x150, "LATIN CAPITAL LETTER O WITH DOUBLE ACUTE;LATIN SMALL LETTER O WITH DOUBLE ACUTE"),
   (0x152, "LATIN CAPITAL LIGATURE OE;LATIN SMALL LIGATURE OE"),
   (0x154, "LATIN CAPITAL LETTER R WITH ACUTE;LATIN SMALL LETTER R WITH ACUTE"),
   (0x156, "LATIN CAPITAL LETTER R WITH CEDILLA;LATIN SMALL LETTER R WITH CEDILLA"),
   (0x158, "LATIN CAPITAL LETTER R WITH CARON;LATIN SMALL LETTER R WITH CARON"),
   (0x15A, "LATIN CAPITAL LETTER S WITH ACUTE;LATIN SMALL LETTER S WITH ACUTE"),
   (0x15C, "LATIN CAPITAL LETTER S WITH CIRCUMFLEX;LATIN SMALL LETTER S WITH CIRCUMFLEX"),
   (0x15E, "LATIN CAPITAL LETTER S WITH CEDILLA;LATIN SMALL LETTER S WITH CEDILLA"),
   (0x160, "LATIN CAPITAL LETTER S WITH CARON;LATIN SMALL LETTER S WITH CARON"),
   (0x162, "LATIN CAPITAL LETTER T WITH CEDILLA;LATIN SMALL LETTER T WITH CEDILLA"),
   (0x164, "LATIN CAPITAL LETTER T WITH CARON;LATIN SMALL LETTER T WITH CARON"),
   (0x166, "LATIN CAPITAL LETTER T WITH STROKE;LATIN SMALL LETTER T WITH STROKE"),
   (0x168, "LATIN CAPITAL LETTER U WITH TILDE;LATIN SMALL LETTER U WITH TILDE"),
   (0x16A, "LATIN CAPITAL LETTER U WITH MACRON;LATIN SMALL LETTER U WITH MACRON"),
   (0x16C, "LATIN CAPITAL LETTER U WITH BREVE;LATIN SMALL LETTER U WITH BREVE"),
   (0x16E, "LATIN CAPITAL LETTER U WITH RING ABOVE;LATIN SMALL LETTER U WITH RING ABOVE"),
   (0x170, "LATIN CAPITAL LETTER U WITH DOUBLE ACUTE;LATIN SMALL LETTER U WITH DOUBLE ACUTE"),
   (0x172, "LATIN CAPITAL LETTER U WITH OGONEK;LATIN SMALL LETTER U WITH OGONEK"),
   (0x174, "LATIN CAPITAL LETTER W WITH CIRCUMFLEX;LATIN SMALL LETTER W WITH CIRCUMFLEX"),
   (0x176, "LATIN CAPITAL LETTER Y WITH CIRCUMFLEX;LATIN SMALL LETTER Y WITH CIRCUMFLEX"),
   (0x178, "LATIN CAPITAL LETTER Y WITH DIAERESIS;LATIN CAPITAL LETTER Z WITH ACUTE"),
   (0x17A, "LATIN SMALL LETTER Z WITH ACUTE;LATIN CAPITAL LETTER Z WITH DOT ABOVE"),
   (0x17C, "LATIN SMALL LETTER Z WITH DOT ABOVE;LATIN CAPITAL LETTER Z WITH CARON"),
   (0x17E, "LATIN SMALL LETTER Z WITH CARON;LATIN SMALL LETTER LONG S")]

def greekNames : List (Nat × String) :=
  [(0x386, "GREEK CAPITAL LETTER ALPHA WITH TONOS;GREEK ANO TELEIA"),
   (0x388, "GREEK CAPITAL LETTER EPSILON WITH TONOS;GREEK CAPITAL LETTER ETA WITH TONOS"),
   (0x38A, "GREEK CAPITAL LETTER IOTA WITH TONOS"),
   (0x38C, "GREEK CAPITAL LETTER OMICRON WITH TONOS"),
   (0x38E, "GREEK CAPITAL LETTER UPSILON WITH TONOS;GREEK CAPITAL LETTER OMEGA WITH TONOS"),
   (0x390, "GREEK SMALL LETTER IOTA WITH DIALYTIKA AND TONOS;GREEK CAPITAL LETTER ALPHA"),
   (0x392, "GREEK CAPITAL LETTER BETA;GREEK CAPITAL LETTER GAMMA;GREEK CAPITAL LETTER DELTA"),
   (0x395, "GREEK CAPITAL LETTER EPSILON;GREEK CAPITAL LETTER ZETA;GREEK CAPITAL LETTER ETA"),
   (0x398, "GREEK CAPITAL LETTER THETA;GREEK CAPITAL LETTER IOTA;GREEK CAPITAL LETTER KAPPA"),
   (0x39B, "GREEK CAPITAL LETTER LAMDA;GREEK CAPITAL LETTER MU;GREEK CAPITAL LETTER NU"),
   (0x39E, "GREEK CAPITAL LETTER XI;GREEK CAPITAL LETTER OMICRON;GREEK CAPITAL LETTER PI"),
   (0x3A1, "GREEK CAPITAL LETTER RHO"),
   (0x3A3, "GREEK CAPITAL LETTER SIGMA;GREEK CAPITAL LETTER TAU"),
   (0x3A5, "GREEK CAPITAL LETTER UPSILON;GREEK CAPITAL LETTER PHI;GREEK CAPITAL LETTER CHI"),
   (0x3A8, "GREEK CAPITAL LETTER PSI;GREEK CAPITAL LETTER OMEGA"),
   (0x3AA, "GREEK CAPITAL LETTER IOTA WITH DIALYTIKA"),
   (0x3AB, "GREEK CAPITAL LETTER UPSILON WITH DIALYTIKA;GREEK SMALL LETTER ALPHA WITH TONOS"),
   (0x3AD, "GREEK SMALL LETTER EPSILON WITH TONOS;GREEK SMALL LETTER ETA WITH TONOS"),
   (0x3AF, "GREEK SMALL LETTER IOTA WITH TONOS"),
   (0x3B0, "GREEK SMALL LETTER UPSILON WITH DIALYTIKA AND TONOS;GREEK SMALL LETTER ALPHA"),
   (0x3B2, "GREEK SMALL LETTER BETA;GREEK SMALL LETTER GAMMA;GREEK SMALL LETTER DELTA"),
   (0x3B5, "GREEK SMALL LETTER EPSILON;GREEK SMALL LETTER ZETA;GREEK SMALL LETTER ETA"),
   (0x3B8, "GREEK SMALL LETTER THETA;GREEK SMALL LETTER IOTA;GREEK SMALL LETTER KAPPA"),
   (0x3BB, "GREEK SMALL LETTER LAMDA;GREEK SMALL LETTER MU;GREEK SMALL LETTER NU"),
   (0x3BE, "GREEK SMALL LETTER XI;GREEK SMALL LETTER OMICRON;GREEK SMALL LETTER PI"),
   (0x3C1, "GREEK SMALL LETTER RHO;GREEK SMALL LETTER FINAL SIGMA;GREEK SMALL LETTER SIGMA"),
   (0x3C4, "GREEK SMALL LETTER TAU;GREEK SMALL LETTER UPSILON;GREEK SMALL LETTER PHI"),
   (0x3C7, "GREEK SMALL LETTER CHI;GREEK SMALL LETTER PSI;GREEK SMALL LETTER OMEGA"),
   (0x3CA, "GREEK SMALL LETTER IOTA WITH DIALYTIKA"),
   (0x3CB, "GREEK SMALL LETTER UPSILON WITH DIALYTIKA;GREEK SMALL LETTER OMICRON WITH TONOS"),
   (0x3CD, "GREEK SMALL LETTER UPSILON WITH TONOS;GREEK SMALL LETTER OMEGA WITH TONOS")]

def cyrillicNames : List (Nat × String) :=
  [(0x410, "CYRILLIC CAPITAL LETTER A;CYRILLIC CAPITAL LETTER BE;CYRILLIC CAPITAL LETTER VE"),
   (0x413, "CYRILLIC CAPITAL LETTER GHE;CYRILLIC CAPITAL LETTER DE"),
   (0x415, "CYRILLIC CAPITAL LETTER IE;CYRILLIC CAPITAL LETTER ZHE"),
   (0x417, "CYRILLIC CAPITAL LETTER ZE;CYRILLIC CAPITAL LETTER I"),
   (0x419, "CYRILLIC CAPITAL LETTER SHORT I;CYRILLIC CAPITAL LETTER KA"),
   (0x41B, "CYRILLIC CAPITAL LETTER EL;CYRILLIC CAPITAL LETTER EM"),
   (0x41D, "CYRILLIC CAPITAL LETTER EN;CYRILLIC CAPITAL LETTER O;CYRILLIC CAPITAL LETTER PE"),
   (0x420, "CYRILLIC CAPITAL LETTER ER;CYRILLIC CAPITAL LETTER ES"),
   (0x422, "CYRILLIC CAPITAL LETTER TE;CYRILLIC CAPITAL LETTER U;CYRILLIC CAPITAL LETTER EF"),
   (0x425, "CYRILLIC CAPITAL LETTER HA;CYRILLIC CAPITAL LETTER TSE"),
   (0x427, "CYRILLIC CAPITAL LETTER CHE;CYRILLIC CAPITAL LETTER SHA"),
   (0x429, "CYRILLIC CAPITAL LETTER SHCHA;CYRILLIC CAPITAL LETTER HARD SIGN"),
   (0x42B, "CYRILLIC CAPITAL LETTER YERU;CYRILLIC CAPITAL LETTER SOFT SIGN"),
   (0x42D, "CYRILLIC CAPITAL LETTER E;CYRILLIC CAPITAL LETTER YU;CYRILLIC CAPITAL LETTER YA"),
   (0x430, "CYRILLIC SMALL LETTER A;CYRILLIC SMALL LETTER BE;CYRILLIC SMALL LETTER VE"),
   (0x433, "CYRILLIC SMALL LETTER GHE;CYRILLIC SMALL LETTER DE;CYRILLIC SMALL LETTER IE"),
   (0x436, "CYRILLIC SMALL LETTER ZHE;CYRILLIC SMALL LETTER ZE;CYRILLIC SMALL LETTER I"),
   (0x439, "CYRILLIC SMALL LETTER SHORT I;CYRILLIC SMALL LETTER KA;CYRILLIC SMALL LETTER EL"),
   (0x43C, "CYRILLIC SMALL LETTER EM;CYRILLIC SMALL LETTER EN;CYRILLIC SMALL LETTER O"),
   (0x43F, "CYRILLIC SMALL LETTER PE;CYRILLIC SMALL LETTER ER;CYRILLIC SMALL LETTER ES"),
   (0x442, "CYRILLIC SMALL LETTER TE;CYRILLIC SMALL LETTER U;CYRILLIC SMALL LETTER EF"),
   (0x445, "CYRILLIC SMALL LETTER HA;CYRILLIC SMALL LETTER TSE;CYRILLIC SMALL LETTER CHE"),
   (0x448, "CYRILLIC SMALL LETTER SHA;CYRILLIC SMALL LETTER SHCHA"),
   (0x44A, "CYRILLIC SMALL LETTER HARD SIGN;CYRILLIC SMALL LETTER YERU"),
   (0x44C, "CYRILLIC SMALL LETTER SOFT SIGN;CYRILLIC SMALL LETTER E"),
   (0x44E, "CYRILLIC SMALL LETTER YU;CYRILLIC SMALL LETTER YA"),
   (0x450, "CYRILLIC SMALL LETTER IE WITH GRAVE;CYRILLIC SMALL LETTER IO")]

def signNames : List (Nat × String) :=
  [(0x2010, "HYPHEN;NON-BREAKING HYPHEN;FIGURE DASH;EN DASH;EM DASH;HORIZONTAL BAR"),
   (0x2016, "DOUBLE VERTICAL LINE;DOUBLE LOW LINE;LEFT SINGLE QUOTATION MARK"),
   (0x2019, "RIGHT SINGLE QUOTATION MARK;SINGLE LOW-9 QUOTATION MARK"),
   (0x201B, "SINGLE HIGH-REVERSED-9 QUOTATION MARK;LEFT DOUBLE QUOTATION MARK"),
   (0x201D, "RIGHT DOUBLE QUOTATION MARK;DOUBLE LOW-9 QUOTATION MARK"),
   (0x201F, "DOUBLE HIGH-REVERSED-9 QUOTATION MARK;DAGGER;DOUBLE DAGGER;BULLET"),
   (0x2023, "TRIANGULAR BULLET;ONE DOT LEADER;TWO DOT LEADER;HORIZONTAL ELLIPSIS"),
   (0x2027, "HYPHENATION POINT"),
   (0x2030, "PER MILLE SIGN;PER TEN THOUSAND SIGN;PRIME;DOUBLE PRIME;TRIPLE PRIME"),
   (0x2035, "REVERSED PRIME;REVERSED DOUBLE PRIME;REVERSED TRIPLE PRIME;CARET"),
   (0x2039, "SINGLE LEFT-POINTING ANGLE QUOTATION MARK"),
   (0x203A, "SINGLE RIGHT-POINTING ANGLE QUOTATION MARK"),
   (0x20A0, "EURO-CURRENCY SIGN;COLON SIGN;CRUZEIRO SIGN;FRENCH FRANC SIGN;LIRA SIGN"),
   (0x20A5, "MILL SIGN;NAIRA SIGN;PESETA SIGN;RUPEE SIGN;WON SIGN;NEW SHEQEL SIGN;DONG SIGN"),
   (0x20AC, "EURO SIGN;KIP SIGN;TUGRIK SIGN;DRACHMA SIGN;GERMAN PENNY SIGN;PESO SIGN"),
   (0x20B2, "GUARANI SIGN;AUSTRAL SIGN;HRYVNIA SIGN;CEDI SIGN;LIVRE TOURNOIS SIGN"),
   (0x20B7, "SPESMILO SIGN;TENGE SIGN;INDIAN RUPEE SIGN;TURKISH LIRA SIGN;NORDIC MARK SIGN"),
   (0x20BC, "MANAT SIGN;RUBLE SIGN;LARI SIGN;BITCOIN SIGN"),
   (0x2120, "SERVICE MARK;TELEPHONE SIGN;TRADE MARK SIGN"),
   (0x2190, "LEFTWARDS ARROW;UPWARDS ARROW;RIGHTWARDS ARROW;DOWNWARDS ARROW;LEFT RIGHT ARROW"),
   (0x2195, "UP DOWN ARROW;NORTH WEST ARROW;NORTH EAST ARROW;SOUTH EAST ARROW"),
   (0x2199, "SOUTH WEST ARROW"),
   (0x2200, "FOR ALL;COMPLEMENT;PARTIAL DIFFERENTIAL;THERE EXISTS;THERE DOES NOT EXIST"),
   (0x2205, "EMPTY SET;INCREMENT;NABLA;ELEMENT OF;NOT AN ELEMENT OF;SMALL ELEMENT OF"),
   (0x220B, "CONTAINS AS MEMBER;DOES NOT CONTAIN AS MEMBER;SMALL CONTAINS AS MEMBER"),
   (0x220E, "END OF PROOF;N-ARY PRODUCT"),
   (0x2600, "BLACK SUN WITH RAYS;CLOUD;UMBRELLA;SNOWMAN;COMET;BLACK STAR;WHITE STAR"),
   (0x2607, "LIGHTNING;THUNDERSTORM;SUN"),
   (0x2713, "CHECK MARK;HEAVY CHECK MARK;MULTIPLICATION X;HEAVY MULTIPLICATION X;BALLOT X"),
   (0x1F600, "GRINNING FACE;GRINNING FACE WITH SMILING EYES;FACE WITH TEARS OF JOY"),
   (0x1F603, "SMILING FACE WITH OPEN MOUTH;SMILING FACE WITH OPEN MOUTH AND SMILING EYES"),
   (0x1F605, "SMILING FACE WITH OPEN MOUTH AND COLD SWEAT"),
   (0x1F606, "SMILING FACE WITH OPEN MOUTH AND TIGHTLY-CLOSED EYES;SMILING FACE WITH HALO"),
   (0x1F608, "SMILING FACE WITH HORNS;WINKING FACE;SMILING FACE WITH SMILING EYES"),
   (0x1F4A9, "PILE OF POO")]

def names : List (Nat × String) :=
  basicNames ++ latinNames ++ greekNames ++ cyrillicNames ++ signNames

-- Several names of one code point each.
def otherNames : List (Nat × String) :=
  [(0x0, "NULL;NUL"),
   (0x1, "START OF HEADING;SOH"),
   (0x2, "START OF TEXT;STX"),
   (0x3, "END OF TEXT;ETX"),
   (0x4, "END OF TRANSMISSION;EOT"),
   (0x5, "ENQUIRY;ENQ"),
   (0x6, "ACKNOWLEDGE;ACK"),
   (0x7, "ALERT;BEL"),
   (0x8, "BACKSPACE;BS"),
   (0x9, "CHARACTER TABULATION;HORIZONTAL TABULATION;HT;TAB"),
   (0xA, "LINE FEED;NEW LINE;END OF LINE;LF;NL;EOL"),
   (0xB, "LINE TABULATION;VERTICAL TABULATION;VT"),
   (0xC, "FORM FEED;FF"),
   (0xD, "CARRIAGE RETURN;CR"),
   (0xE, "SHIFT OUT;LOCKING-SHIFT ONE;SO"),
   (0xF, "SHIFT IN;LOCKING-SHIFT ZERO;SI"),
   (0x10, "DATA LINK ESCAPE;DLE"),
   (0x11, "DEVICE CONTROL ONE;DC1"),
   (0x12, "DEVICE CONTROL TWO;DC2"),
   (0x13, "DEVICE CONTROL THREE;DC3"),
   (0x14, "DEVICE CONTROL FOUR;DC4"),
   (0x15, "NEGATIVE ACKNOWLEDGE;NAK"),
   (0x16, "SYNCHRONOUS IDLE;SYN"),
   (0x17, "END OF TRANSMISSION BLOCK;ETB"),
   (0x18, "CANCEL;CAN"),
   (0x19, "END OF MEDIUM;EOM"),
   (0x1A, "SUBSTITUTE;SUB"),
   (0x1B, "ESCAPE;ESC"),
   (0x1C, "INFORMATION SEPARATOR FOUR;FILE SEPARATOR;FS"),
   (0x1D, "INFORMATION SEPARATOR THREE;GROUP SEPARATOR;GS"),
   (0x1E, "INFORMATION SEPARATOR TWO;RECORD SEPARATOR;RS"),
   (0x1F, "INFORMATION SEPARATOR ONE;UNIT SEPARATOR;US"),
   (0x20, "SP"),
   (0x7F, "DELETE;DEL"),
   (0x85, "NEXT LINE;NEL"),
   (0xA0, "NBSP"),
   (0xAD, "SHY"),
   (0x200B, "ZERO WIDTH SPACE;ZWSP"),
   (0x200C, "ZERO WIDTH NON-JOINER;ZWNJ"),
   (0x200D, "ZERO WIDTH JOINER;ZWJ"),
   (0x2028, "LINE SEPARATOR"),
   (0x2029, "PARAGRAPH SEPARATOR"),
   (0x3000, "IDEOGRAPHIC SPACE"),
   (0xFEFF, "ZERO WIDTH NO-BREAK SPACE;BYTE ORDER MARK;BOM;ZWNBSP")]

def namesIn (names : String) : List Text :=
  (Text.ofString names).splitOn ';'

def capital (c : Code) : Code :=
  if 0x61 ≤ c.toNat ∧ c.toNat ≤ 0x7A then Code.ofNat (c.toNat - 0x20) else c

-- The number of the code point with a name.
def ofName? (name : Text) : Option Nat :=
  let name := name.map capital
  (names.findSome? fun (first, names) => ((namesIn names).idxOf? name).map (first + ·)) <|>
    otherNames.findSome? fun (n, names) => if (namesIn names).contains name then some n else none

end Code
end TraitCatalog
