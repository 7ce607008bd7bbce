/-!
# Names of letters

The names of the characters of ASCII and of the Latin, Greek, Cyrillic, Hebrew and Japanese letters.
-/

namespace GirDoc.Text.CharacterName

/-- Runs of characters: the number of the first one, and the names, with a semicolon between them. A number
without a character has an empty name. In a name, a digit stands for so many words of the name before it, taken
from the same place, and a small letter for a word that is frequent. -/
def letters : List (Nat × List String) :=
  [(0x20, [
      "SPACE;EXCLAMATION m;QUOTATION 1;NUMBER g;DOLLAR 1;PERCENT 1;AMPERSAND;APOSTROPHE;l PARENTHESIS;r 1;ASTERISK",
      "PLUS g;COMMA;HYPHEN-MINUS;FULL STOP;SOLIDUS;DIGIT ZERO;1 ONE;1 TWO;1 THREE;1 FOUR;1 FIVE;1 SIX;1 SEVEN",
      "1 EIGHT;1 NINE;COLON;SEMICOLON;LESS-THAN g;EQUALS 1;GREATER-THAN 1;QUESTION m;COMMERCIAL AT;LATIN c t A;3 B",
      "3 C;3 D;3 E;3 F;3 G;3 H;3 I;3 J;3 K;3 L;3 M;3 N;3 O;3 P;3 Q;3 R;3 S;3 T;3 U;3 V;3 W;3 X;3 Y;3 Z",
      "l SQUARE BRACKET;REVERSE SOLIDUS;r SQUARE BRACKET;CIRCUMFLEX ACCENT;LOW LINE;GRAVE ACCENT;LATIN s t A;3 B;3 C",
      "3 D;3 E;3 F;3 G;3 H;3 I;3 J;3 K;3 L;3 M;3 N;3 O;3 P;3 Q;3 R;3 S;3 T;3 U;3 V;3 W;3 X;3 Y;3 Z;l CURLY BRACKET",
      "v LINE;r CURLY BRACKET;TILDE"]),
   (0xA0, [
      "NO-BREAK SPACE;INVERTED EXCLAMATION m;CENT g;POUND 1;CURRENCY 1;YEN 1;BROKEN BAR;SECTION g;DIAERESIS",
      "COPYRIGHT g;FEMININE ORDINAL INDICATOR;LEFT-POINTING d ANGLE QUOTATION m;NOT g;SOFT HYPHEN;REGISTERED g",
      "MACRON;DEGREE g;PLUS-MINUS 1;SUPERSCRIPT TWO;1 THREE;ACUTE ACCENT;MICRO g;PILCROW 1;MIDDLE DOT;CEDILLA",
      "SUPERSCRIPT ONE;MASCULINE ORDINAL INDICATOR;RIGHT-POINTING d ANGLE QUOTATION m;VULGAR FRACTION ONE QUARTER",
      "3 HALF;2 THREE QUARTERS;INVERTED QUESTION m;LATIN c t A w GRAVE;5 ACUTE;5 CIRCUMFLEX;5 TILDE;5 DIAERESIS",
      "5 RING ABOVE;3 AE;3 C w CEDILLA;3 E 1 GRAVE;5 ACUTE;5 CIRCUMFLEX;5 DIAERESIS;3 I 1 GRAVE;5 ACUTE;5 CIRCUMFLEX",
      "5 DIAERESIS;3 ETH;3 N w TILDE;3 O 1 GRAVE;5 ACUTE;5 CIRCUMFLEX;5 TILDE;5 DIAERESIS;MULTIPLICATION g",
      "LATIN c t O w k;3 U 1 GRAVE;5 ACUTE;5 CIRCUMFLEX;5 DIAERESIS;3 Y 1 ACUTE;3 THORN;1 s 1 SHARP S;3 A w GRAVE",
      "5 ACUTE;5 CIRCUMFLEX;5 TILDE;5 DIAERESIS;5 RING ABOVE;3 AE;3 C w CEDILLA;3 E 1 GRAVE;5 ACUTE;5 CIRCUMFLEX",
      "5 DIAERESIS;3 I 1 GRAVE;5 ACUTE;5 CIRCUMFLEX;5 DIAERESIS;3 ETH;3 N w TILDE;3 O 1 GRAVE;5 ACUTE;5 CIRCUMFLEX",
      "5 TILDE;5 DIAERESIS;DIVISION g;LATIN s t O w k;3 U 1 GRAVE;5 ACUTE;5 CIRCUMFLEX;5 DIAERESIS;3 Y 1 ACUTE",
      "3 THORN;3 Y w DIAERESIS;1 c 1 A 1 MACRON;1 s 4;1 c 3 BREVE;1 s 4;1 c 3 OGONEK;1 s 4;1 c 1 C 1 ACUTE;1 s 4",
      "1 c 3 CIRCUMFLEX;1 s 4;1 c 3 DOT ABOVE;1 s 5;1 c 3 CARON;1 s 4;1 c 1 D 2;1 s 4;1 c 3 k;1 s 4;1 c 1 E 1 MACRON",
      "1 s 4;1 c 3 BREVE;1 s 4;1 c 3 DOT ABOVE;1 s 5;1 c 3 OGONEK;1 s 4;1 c 3 CARON;1 s 4;1 c 1 G 1 CIRCUMFLEX;1 s 4",
      "1 c 3 BREVE;1 s 4;1 c 3 DOT ABOVE;1 s 5;1 c 3 CEDILLA;1 s 4;1 c 1 H 1 CIRCUMFLEX;1 s 4;1 c 3 k;1 s 4",
      "1 c 1 I 1 TILDE;1 s 4;1 c 3 MACRON;1 s 4;1 c 3 BREVE;1 s 4;1 c 3 OGONEK;1 s 4;1 c 3 DOT ABOVE;1 s 1 DOTLESS I",
      "1 c LIGATURE IJ;1 s 2;1 c t J w CIRCUMFLEX;1 s 4;1 c 1 K 1 CEDILLA;1 s 4;3 KRA;1 c 1 L w ACUTE;1 s 4",
      "1 c 3 CEDILLA;1 s 4;1 c 3 CARON;1 s 4;1 c 3 MIDDLE DOT;1 s 5;1 c 3 k;1 s 4;1 c 1 N 1 ACUTE;1 s 4",
      "1 c 3 CEDILLA;1 s 4;1 c 3 CARON;1 s 4;4 PRECEDED BY APOSTROPHE;1 c 1 ENG;1 s 2;1 c 1 O w MACRON;1 s 4",
      "1 c 3 BREVE;1 s 4;1 c 3 d ACUTE;1 s 5;1 c LIGATURE OE;1 s 2;1 c t R w ACUTE;1 s 4;1 c 3 CEDILLA;1 s 4",
      "1 c 3 CARON;1 s 4;1 c 1 S 1 ACUTE;1 s 4;1 c 3 CIRCUMFLEX;1 s 4;1 c 3 CEDILLA;1 s 4;1 c 3 CARON;1 s 4",
      "1 c 1 T 1 CEDILLA;1 s 4;1 c 3 CARON;1 s 4;1 c 3 k;1 s 4;1 c 1 U 1 TILDE;1 s 4;1 c 3 MACRON;1 s 4;1 c 3 BREVE",
      "1 s 4;1 c 3 RING ABOVE;1 s 5;1 c 3 d ACUTE;1 s 5;1 c 3 OGONEK;1 s 4;1 c 1 W 1 CIRCUMFLEX;1 s 4;1 c 1 Y 2",
      "1 s 4;1 c 3 DIAERESIS;3 Z 1 ACUTE;1 s 4;1 c 3 DOT ABOVE;1 s 5;1 c 3 CARON;1 s 4;3 LONG S;3 B w k;1 c 3 HOOK",
      "5 TOPBAR;1 s 4;1 c 1 TONE SIX;1 s 3;1 c 1 OPEN O;3 C w HOOK;1 s 4;1 c 1 AFRICAN D;3 D w HOOK;5 TOPBAR;1 s 4",
      "3 TURNED DELTA;1 c 1 REVERSED E;3 SCHWA;3 OPEN E;3 F w HOOK;1 s 4;1 c 1 G 2;3 GAMMA;1 s 1 HV;1 c 1 IOTA",
      "3 I w k;3 K 1 HOOK;1 s 4;3 L 1 BAR;3 LAMBDA 1 k;1 c 1 TURNED M;3 N w l HOOK;1 s 3 LONG r LEG",
      "1 c 1 O 1 MIDDLE TILDE;5 HORN;1 s 4;1 c 1 OI;1 s 2;1 c 1 P w HOOK;1 s 4;1 t YR;1 c t TONE TWO;1 s 3;1 c 1 ESH",
      "1 t REVERSED 1 LOOP;1 s t T w PALATAL HOOK;1 c 3 HOOK;1 s 4;1 c 3 RETROFLEX HOOK;3 U 1 HORN;1 s 4",
      "1 c 1 UPSILON;3 V w HOOK;3 Y 2;1 s 4;1 c 1 Z 1 k;1 s 4;1 c 1 EZH;4 REVERSED;1 s 3;4 w TAIL;1 t TWO w k",
      "1 c t TONE FIVE;1 s 3;1 t INVERTED GLOTTAL STOP w k;2 WYNN;2 DENTAL CLICK;2 LATERAL 1;2 ALVEOLAR 1",
      "2 RETROFLEX 1;1 c t DZ w CARON;3 D 1 s t Z w CARON;1 s 1 DZ 1 CARON;1 c 1 LJ;3 L w s t J;1 s 1 LJ;1 c 1 NJ",
      "3 N w s t J;1 s 1 NJ;1 c 1 A w CARON;1 s 4;1 c 1 I 2;1 s 4;1 c 1 O 2;1 s 4;1 c 1 U 2;1 s 4",
      "1 c 3 DIAERESIS AND MACRON;1 s 6;1 c 5 ACUTE;1 s 6;1 c 5 CARON;1 s 6;1 c 5 GRAVE;1 s 6;3 TURNED E",
      "1 c 1 A w DIAERESIS AND MACRON;1 s 6;1 c 3 DOT ABOVE AND MACRON;1 s 7;1 c 1 AE 1 MACRON;1 s 4;1 c 1 G 1 k",
      "1 s 4;1 c 3 CARON;1 s 4;1 c 1 K 2;1 s 4;1 c 1 O 1 OGONEK;1 s 4;1 c 4 AND MACRON;1 s 6;1 c 1 EZH 1 CARON;1 s 4",
      "3 J 2;1 c 1 DZ;3 D w s t Z;1 s 1 DZ;1 c 1 G w ACUTE;1 s 4;1 c 1 HWAIR;3 WYNN;3 N w GRAVE;1 s 4",
      "1 c 1 A 1 RING ABOVE AND ACUTE;1 s 7;1 c 1 AE 1 ACUTE;1 s 4;1 c 1 O 1 k AND ACUTE;1 s 6;1 c 1 A 1 d GRAVE",
      "1 s 5;1 c 3 INVERTED BREVE;1 s 5;1 c 1 E 1 d GRAVE;1 s 5;1 c 3 INVERTED BREVE;1 s 5;1 c 1 I 1 d GRAVE;1 s 5",
      "1 c 3 INVERTED BREVE;1 s 5;1 c 1 O 1 d GRAVE;1 s 5;1 c 3 INVERTED BREVE;1 s 5;1 c 1 R 1 d GRAVE;1 s 5",
      "1 c 3 INVERTED BREVE;1 s 5;1 c 1 U 1 d GRAVE;1 s 5;1 c 3 INVERTED BREVE;1 s 5;1 c 1 S 1 COMMA BELOW;1 s 5",
      "1 c 1 T 3;1 s 5;1 c 1 YOGH;1 s 2;1 c 1 H w CARON;1 s 4;1 c 1 N 1 LONG r LEG;1 s 1 D 1 CURL;1 c 1 OU;1 s 2",
      "1 c 1 Z w HOOK;1 s 4;1 c 1 A 1 DOT ABOVE;1 s 5;1 c 1 E 1 CEDILLA;1 s 4;1 c 1 O 1 DIAERESIS AND MACRON;1 s 6",
      "1 c 3 TILDE 2;1 s 6;1 c 3 DOT ABOVE;1 s 5;1 c 5 AND MACRON;1 s 7;1 c 1 Y 1 MACRON;1 s 4;3 L 1 CURL;3 N 2",
      "3 T 2;3 DOTLESS J;3 DB DIGRAPH;3 QP 1;1 c 1 A w k;3 C 2;1 s 4;1 c 1 L 1 BAR;3 T 1 DIAGONAL k",
      "1 s 1 S 1 SWASH TAIL;3 Z 3;1 c 1 GLOTTAL STOP;1 s 3;1 c 1 B w k;3 U BAR;3 TURNED V;3 E w k;1 s 4;1 c 1 J 2",
      "1 s 4;1 c 1 s Q w HOOK TAIL;1 s 1 Q w HOOK TAIL;1 c 1 R 1 k;1 s 4;1 c 1 Y 2;1 s 4"]),
   (0x300, [
      "COMBINING GRAVE ACCENT;1 ACUTE 1;1 CIRCUMFLEX 1;1 TILDE;1 MACRON;1 OVERLINE;1 BREVE;1 DOT ABOVE;1 DIAERESIS",
      "1 HOOK ABOVE;1 RING 1;1 d ACUTE ACCENT;1 CARON;1 v LINE ABOVE;1 d v LINE ABOVE;2 GRAVE ACCENT;1 CANDRABINDU",
      "1 INVERTED BREVE;1 TURNED COMMA ABOVE;1 COMMA ABOVE;1 REVERSED COMMA ABOVE;1 COMMA ABOVE r",
      "1 GRAVE ACCENT BELOW;1 ACUTE 2;1 l TACK 1;1 r 2;1 l ANGLE ABOVE;1 HORN;1 l HALF RING BELOW;1 UP TACK BELOW",
      "1 DOWN 2;1 PLUS g 1;1 MINUS 2;1 PALATALIZED HOOK 1;1 RETROFLEX 2;1 DOT BELOW;1 DIAERESIS 1;1 RING 1;1 COMMA 1",
      "1 CEDILLA;1 OGONEK;1 v LINE BELOW;1 BRIDGE BELOW;1 INVERTED d ARCH BELOW;1 CARON BELOW",
      "1 CIRCUMFLEX ACCENT BELOW;1 BREVE BELOW;1 INVERTED BREVE BELOW;1 TILDE BELOW;1 MACRON 1;1 LOW LINE",
      "1 d LOW LINE;1 TILDE OVERLAY;1 SHORT k OVERLAY;1 LONG 2;1 SHORT SOLIDUS 1;1 LONG 2;1 r HALF RING BELOW",
      "1 INVERTED BRIDGE BELOW;1 SQUARE BELOW;1 SEAGULL 1;1 X ABOVE;1 v TILDE;1 d OVERLINE;1 GRAVE TONE m;1 ACUTE 2",
      "1 GREEK PERISPOMENI;2 KORONIS;2 DIALYTIKA TONOS;2 YPOGEGRAMMENI;1 BRIDGE ABOVE;1 EQUALS g BELOW",
      "1 d v LINE BELOW;1 l ANGLE BELOW;1 NOT TILDE ABOVE;1 HOMOTHETIC ABOVE;1 ALMOST EQUAL TO ABOVE;1 l r a BELOW",
      "1 UPWARDS a BELOW;1 GRAPHEME JOINER;1 r ARROWHEAD ABOVE;1 l HALF RING ABOVE;1 FERMATA;1 X BELOW",
      "1 l ARROWHEAD BELOW;1 r 2;3 AND UP ARROWHEAD BELOW;2 HALF RING ABOVE;1 DOT ABOVE r;1 ASTERISK BELOW",
      "1 d RING BELOW;1 ZIGZAG ABOVE;1 d BREVE BELOW;3;2 MACRON;3 BELOW;2 TILDE;2 INVERTED BREVE;2 x a BELOW",
      "1 LATIN s t A;4 E;4 I;4 O;4 U;4 C;4 D;4 H;4 M;4 R;4 T;4 V;4 X"]),
   (0x370, [
      "GREEK c t HETA;1 s 2;1 c 1 ARCHAIC SAMPI;1 s 3;1 NUMERAL g;1 LOWER NUMERAL g;1 c t PAMPHYLIAN DIGAMMA;1 s 3;;",
      "GREEK YPOGEGRAMMENI;1 s REVERSED LUNATE SIGMA y;2 DOTTED 3;2 REVERSED DOTTED LUNATE SIGMA y;1 QUESTION m",
      "1 c t YOT;;;;;GREEK TONOS;1 DIALYTIKA TONOS;1 c t ALPHA w TONOS;1 ANO TELEIA;1 c t EPSILON w TONOS;3 ETA 2",
      "3 IOTA 2;;GREEK c t OMICRON w TONOS;;GREEK c t UPSILON w TONOS;3 OMEGA 2;1 s 1 IOTA 1 DIALYTIKA AND TONOS",
      "1 c 1 ALPHA;3 BETA;3 GAMMA;3 DELTA;3 EPSILON;3 ZETA;3 ETA;3 THETA;3 IOTA;3 KAPPA;3 LAMDA;3 MU;3 NU;3 XI",
      "3 OMICRON;3 PI;3 RHO;;GREEK c t SIGMA;3 TAU;3 UPSILON;3 PHI;3 CHI;3 PSI;3 OMEGA;3 IOTA w DIALYTIKA",
      "3 UPSILON 2;1 s 1 ALPHA 1 TONOS;3 EPSILON 2;3 ETA 2;3 IOTA 2;3 UPSILON 1 DIALYTIKA AND TONOS;3 ALPHA;3 BETA",
      "3 GAMMA;3 DELTA;3 EPSILON;3 ZETA;3 ETA;3 THETA;3 IOTA;3 KAPPA;3 LAMDA;3 MU;3 NU;3 XI;3 OMICRON;3 PI;3 RHO",
      "3 FINAL SIGMA;3 SIGMA;3 TAU;3 UPSILON;3 PHI;3 CHI;3 PSI;3 OMEGA;3 IOTA w DIALYTIKA;3 UPSILON 2",
      "3 OMICRON 1 TONOS;3 UPSILON 2;3 OMEGA 2;1 c KAI y;1 BETA y;1 THETA 1;1 UPSILON w HOOK y;3 ACUTE AND HOOK y",
      "3 DIAERESIS 3;1 PHI y;1 PI 1;1 KAI 1;1 t ARCHAIC KOPPA;1 s t ARCHAIC KOPPA;1 t STIGMA;1 s t STIGMA",
      "1 t DIGAMMA;1 s t DIGAMMA;1 t KOPPA;1 s t KOPPA;1 t SAMPI;1 s t SAMPI;COPTIC c 1 SHEI;1 s 2;1 c 1 FEI;1 s 2",
      "1 c 1 KHEI;1 s 2;1 c 1 HORI;1 s 2;1 c 1 GANGIA;1 s 2;1 c 1 SHIMA;1 s 2;1 c 1 DEI;1 s 2;GREEK KAPPA y;1 RHO 1",
      "1 LUNATE SIGMA y;1 t YOT;1 c THETA y;1 LUNATE EPSILON 1;1 REVERSED LUNATE EPSILON y;1 c t SHO;1 s 2",
      "1 c LUNATE SIGMA y;2 t SAN;1 s 2;1 RHO w k y;1 c REVERSED LUNATE SIGMA y;2 DOTTED 3",
      "2 REVERSED DOTTED LUNATE SIGMA y"]),
   (0x400, [
      "CYRILLIC c t IE w GRAVE;3 IO;3 DJE;3 GJE;3 UKRAINIAN IE;3 DZE;3 BYELORUSSIAN-UKRAINIAN I;3 YI;3 JE;3 LJE",
      "3 NJE;3 TSHE;3 KJE;3 I w GRAVE;3 SHORT U;3 DZHE;3 A;3 BE;3 VE;3 GHE;3 DE;3 IE;3 ZHE;3 ZE;3 I;3 SHORT I;3 KA",
      "3 EL;3 EM;3 EN;3 O;3 PE;3 ER;3 ES;3 TE;3 U;3 EF;3 HA;3 TSE;3 CHE;3 SHA;3 SHCHA;3 HARD g;3 YERU;3 SOFT g;3 E",
      "3 YU;3 YA;1 s 1 A;3 BE;3 VE;3 GHE;3 DE;3 IE;3 ZHE;3 ZE;3 I;3 SHORT I;3 KA;3 EL;3 EM;3 EN;3 O;3 PE;3 ER;3 ES",
      "3 TE;3 U;3 EF;3 HA;3 TSE;3 CHE;3 SHA;3 SHCHA;3 HARD g;3 YERU;3 SOFT g;3 E;3 YU;3 YA;3 IE w GRAVE;3 IO;3 DJE",
      "3 GJE;3 UKRAINIAN IE;3 DZE;3 BYELORUSSIAN-UKRAINIAN I;3 YI;3 JE;3 LJE;3 NJE;3 TSHE;3 KJE;3 I w GRAVE",
      "3 SHORT U;3 DZHE;1 c 1 OMEGA;1 s 2;1 c 1 YAT;1 s 2;1 c 1 IOTIFIED E;1 s 3;1 c 1 LITTLE YUS;1 s 3",
      "1 c 1 IOTIFIED LITTLE YUS;1 s 4;1 c 1 BIG YUS;1 s 3;1 c 1 IOTIFIED BIG YUS;1 s 4;1 c 1 KSI;1 s 2;1 c 1 PSI",
      "1 s 2;1 c 1 FITA;1 s 2;1 c 1 IZHITSA;1 s 2;1 c 2 w d GRAVE ACCENT;1 s 6;1 c 1 UK;1 s 2;1 c 1 ROUND OMEGA",
      "1 s 3;1 c 1 OMEGA w TITLO;1 s 4;1 c 1 OT;1 s 2;1 c 1 KOPPA;1 s 2;1 THOUSANDS g;COMBINING CYRILLIC TITLO",
      "2 PALATALIZATION;2 DASIA PNEUMATA;2 PSILI 1;2 POKRYTIE;2 HUNDRED THOUSANDS g;2 MILLIONS g",
      "CYRILLIC c t SHORT I w TAIL;1 s 5;1 c 1 SEMISOFT g;1 s 3;1 c 1 ER w TICK;1 s 4;1 c 1 GHE 1 UPTURN;1 s 4",
      "1 c 3 k;1 s 4;1 c 3 MIDDLE HOOK;1 s 5;1 c 1 ZHE 1 DESCENDER;1 s 4;1 c 1 ZE 2;1 s 4;1 c 1 KA 2;1 s 4;1 c 3 v k",
      "1 s 5;1 c 3 k;1 s 4;1 c 1 BASHKIR KA;1 s 3;1 c 1 EN w DESCENDER;1 s 4;1 c LIGATURE 1 GHE;1 s 3",
      "1 c t PE w MIDDLE HOOK;1 s 5;1 c 1 ABKHASIAN HA;1 s 3;1 c 1 ES w DESCENDER;1 s 4;1 c 1 TE 2;1 s 4",
      "1 c 1 STRAIGHT U;1 s 3;1 c 3 w k;1 s 5;1 c 1 HA w DESCENDER;1 s 4;1 c LIGATURE TE TSE;1 s 3",
      "1 c t CHE w DESCENDER;1 s 4;1 c 3 v k;1 s 5;1 c 1 SHHA;1 s 2;1 c 1 ABKHASIAN CHE;1 s 3;1 c 3 w DESCENDER",
      "1 s 5;1 t PALOCHKA;1 c t ZHE w BREVE;1 s 4;1 c 1 KA 1 HOOK;1 s 4;1 c 1 EL 1 TAIL;1 s 4;1 c 1 EN 1 HOOK;1 s 4",
      "1 c 3 TAIL;1 s 4;1 c 1 KHAKASSIAN CHE;1 s 3;1 c 1 EM w TAIL;1 s 4;3 PALOCHKA;1 c 1 A w BREVE;1 s 4",
      "1 c 3 DIAERESIS;1 s 4;1 c LIGATURE 1 IE;1 s 3;1 c t IE w BREVE;1 s 4;1 c 1 SCHWA;1 s 2;1 c 2 w DIAERESIS",
      "1 s 4;1 c 1 ZHE 2;1 s 4;1 c 1 ZE 2;1 s 4;1 c 1 ABKHASIAN DZE;1 s 3;1 c 1 I w MACRON;1 s 4;1 c 3 DIAERESIS",
      "1 s 4;1 c 1 O 2;1 s 4;1 c 1 BARRED O;1 s 3;1 c 3 w DIAERESIS;1 s 5;1 c 1 E w DIAERESIS;1 s 4;1 c 1 U 1 MACRON",
      "1 s 4;1 c 3 DIAERESIS;1 s 4;1 c 3 d ACUTE;1 s 5;1 c 1 CHE 1 DIAERESIS;1 s 4;1 c 1 GHE 1 DESCENDER;1 s 4",
      "1 c 1 YERU 1 DIAERESIS;1 s 4;1 c 1 GHE 1 k AND HOOK;1 s 6;1 c 1 HA 1 HOOK;1 s 4;1 c 3 k;1 s 4"]),
   (0x5D0, [
      "HEBREW t ALEF;2 BET;2 GIMEL;2 DALET;2 HE;2 VAV;2 ZAYIN;2 HET;2 TET;2 YOD;2 FINAL KAF;2 KAF;2 LAMED",
      "2 FINAL MEM;2 MEM;2 FINAL NUN;2 NUN;2 SAMEKH;2 AYIN;2 FINAL PE;2 PE;2 FINAL TSADI;2 TSADI;2 QOF;2 RESH;2 SHIN",
      "2 TAV"]),
   (0x3041, [
      "HIRAGANA t s A;2 A;2 s I;2 I;2 s U;2 U;2 s E;2 E;2 s O;2 O;2 KA;2 GA;2 KI;2 GI;2 KU;2 GU;2 KE;2 GE;2 KO;2 GO",
      "2 SA;2 ZA;2 SI;2 ZI;2 SU;2 ZU;2 SE;2 ZE;2 SO;2 ZO;2 TA;2 DA;2 TI;2 DI;2 s TU;2 TU;2 DU;2 TE;2 DE;2 TO;2 DO",
      "2 NA;2 NI;2 NU;2 NE;2 NO;2 HA;2 BA;2 PA;2 HI;2 BI;2 PI;2 HU;2 BU;2 PU;2 HE;2 BE;2 PE;2 HO;2 BO;2 PO;2 MA;2 MI",
      "2 MU;2 ME;2 MO;2 s YA;2 YA;2 s YU;2 YU;2 s YO;2 YO;2 RA;2 RI;2 RU;2 RE;2 RO;2 s WA;2 WA;2 WI;2 WE;2 WO;2 N",
      "2 VU;2 s KA;3 KE;;;COMBINING KATAKANA-HIRAGANA VOICED SOUND m;2 SEMI-VOICED 2",
      "KATAKANA-HIRAGANA VOICED SOUND m;1 SEMI-VOICED 2;HIRAGANA ITERATION m;1 VOICED ITERATION m;1 DIGRAPH YORI",
      "KATAKANA-HIRAGANA d HYPHEN;KATAKANA t s A;2 A;2 s I;2 I;2 s U;2 U;2 s E;2 E;2 s O;2 O;2 KA;2 GA;2 KI;2 GI",
      "2 KU;2 GU;2 KE;2 GE;2 KO;2 GO;2 SA;2 ZA;2 SI;2 ZI;2 SU;2 ZU;2 SE;2 ZE;2 SO;2 ZO;2 TA;2 DA;2 TI;2 DI;2 s TU",
      "2 TU;2 DU;2 TE;2 DE;2 TO;2 DO;2 NA;2 NI;2 NU;2 NE;2 NO;2 HA;2 BA;2 PA;2 HI;2 BI;2 PI;2 HU;2 BU;2 PU;2 HE;2 BE",
      "2 PE;2 HO;2 BO;2 PO;2 MA;2 MI;2 MU;2 ME;2 MO;2 s YA;2 YA;2 s YU;2 YU;2 s YO;2 YO;2 RA;2 RI;2 RU;2 RE;2 RO",
      "2 s WA;2 WA;2 WI;2 WE;2 WO;2 N;2 VU;2 s KA;3 KE;2 VA;2 VI;2 VE;2 VO;1 MIDDLE DOT",
      "KATAKANA-HIRAGANA PROLONGED SOUND m;KATAKANA ITERATION m;1 VOICED ITERATION m;1 DIGRAPH KOTO"])]

end GirDoc.Text.CharacterName
