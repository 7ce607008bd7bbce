/-!
# Names of signs

The names of marks, arrows, mathematical and technical signs, shapes, symbols and pictures.
-/

namespace GirDoc.Text.CharacterName

/-- Runs of characters: the number of the first one, and the names, with a semicolon between them. A number
without a character has an empty name. In a name, a digit stands for so many words of the name before it, taken
from the same place, and a small letter for a word that is frequent. -/
def signs : List (Nat × List String) :=
  [(0x2000, [
      "EN QUAD;EM 1;EN SPACE;EM 1;THREE-PER-EM 1;FOUR-PER-EM 1;SIX-PER-EM 1;FIGURE 1;PUNCTUATION 1;THIN 1;HAIR 1",
      "ZERO WIDTH SPACE;2 NON-JOINER;2 JOINER;LEFT-TO-RIGHT m;RIGHT-TO-LEFT 1;HYPHEN;NON-BREAKING HYPHEN;FIGURE DASH",
      "EN 1;EM 1;o BAR;d v LINE;1 LOW 1;l SINGLE QUOTATION m;r 3;SINGLE LOW-9 2;1 HIGH-REVERSED-9 2;l d 2;r 3",
      "d LOW-9 2;1 HIGH-REVERSED-9 2;DAGGER;d DAGGER;BULLET;TRIANGULAR BULLET;ONE DOT LEADER;TWO 2;o ELLIPSIS",
      "HYPHENATION POINT;LINE SEPARATOR;PARAGRAPH 1;LEFT-TO-RIGHT EMBEDDING;RIGHT-TO-LEFT 1",
      "POP DIRECTIONAL FORMATTING;LEFT-TO-RIGHT OVERRIDE;RIGHT-TO-LEFT 1;NARROW NO-BREAK SPACE;PER MILLE g",
      "1 TEN THOUSAND g;PRIME;d PRIME;TRIPLE 1;REVERSED 1;1 d PRIME;1 TRIPLE 1;CARET",
      "SINGLE LEFT-POINTING ANGLE QUOTATION m;1 RIGHT-POINTING 3;REFERENCE m;d EXCLAMATION m;INTERROBANG;OVERLINE",
      "UNDERTIE;CHARACTER TIE;CARET INSERTION POINT;ASTERISM;HYPHEN BULLET;FRACTION SLASH;l SQUARE BRACKET w QUILL",
      "r 4;d QUESTION m;QUESTION EXCLAMATION 1;EXCLAMATION QUESTION 1;TIRONIAN g ET;REVERSED PILCROW g",
      "b LEFTWARDS BULLET;1 x 1;LOW ASTERISK;REVERSED SEMICOLON;CLOSE UP;TWO ASTERISKS ALIGNED VERTICALLY",
      "COMMERCIAL MINUS g;SWUNG DASH;INVERTED UNDERTIE;FLOWER PUNCTUATION m;THREE DOT PUNCTUATION;QUADRUPLE PRIME",
      "FOUR DOT PUNCTUATION;FIVE 2;TWO 2;FOUR 1 m;DOTTED CROSS;TRICOLON;v FOUR DOTS;MEDIUM MATHEMATICAL SPACE",
      "WORD JOINER;FUNCTION APPLICATION;INVISIBLE TIMES;1 SEPARATOR;1 PLUS;;LEFT-TO-RIGHT ISOLATE;RIGHT-TO-LEFT 1",
      "FIRST STRONG ISOLATE;POP DIRECTIONAL 1;INHIBIT SYMMETRIC SWAPPING;ACTIVATE 2;INHIBIT ARABIC FORM SHAPING",
      "ACTIVATE 3;NATIONAL DIGIT SHAPES;NOMINAL 2"]),
   (0x2070, [
      "SUPERSCRIPT ZERO;1 LATIN s t I;;;SUPERSCRIPT FOUR;1 FIVE;1 SIX;1 SEVEN;1 EIGHT;1 NINE;1 PLUS g;1 MINUS",
      "1 EQUALS g;1 l PARENTHESIS;1 r 1;1 LATIN s t N;SUBSCRIPT ZERO;1 ONE;1 TWO;1 THREE;1 FOUR;1 FIVE;1 SIX;1 SEVEN",
      "1 EIGHT;1 NINE;1 PLUS g;1 MINUS;1 EQUALS g;1 l PARENTHESIS;1 r 1;;LATIN SUBSCRIPT s t A;4 E;4 O;4 X;4 SCHWA",
      "4 H;4 K;4 L;4 M;4 N;4 P;4 S;4 T"]),
   (0x20A0, [
      "EURO-CURRENCY g;COLON 1;CRUZEIRO 1;FRENCH FRANC g;LIRA g;MILL 1;NAIRA 1;PESETA 1;RUPEE 1;WON 1;NEW SHEQEL g",
      "DONG g;EURO 1;KIP 1;TUGRIK 1;DRACHMA 1;GERMAN PENNY g;PESO g;GUARANI 1;AUSTRAL 1;HRYVNIA 1;CEDI 1",
      "LIVRE TOURNOIS g;SPESMILO g;TENGE 1;INDIAN RUPEE g;TURKISH LIRA 1;NORDIC m 1;MANAT g;RUBLE 1;LARI 1;BITCOIN 1",
      "SOM 1"]),
   (0x2100, [
      "ACCOUNT OF;ADDRESSED TO THE SUBJECT;DOUBLE-STRUCK c C;DEGREE CELSIUS;CENTRE LINE y;CARE OF;CADA UNA",
      "EULER CONSTANT;SCRUPLE;DEGREE FAHRENHEIT;SCRIPT s G;1 c H;BLACK-LETTER 2;DOUBLE-STRUCK 2;PLANCK CONSTANT",
      "2 OVER TWO PI;SCRIPT c I;BLACK-LETTER 2;SCRIPT 1 L;1 s 1;L B BAR y;DOUBLE-STRUCK c N;NUMERO g",
      "SOUND RECORDING COPYRIGHT;SCRIPT c P;DOUBLE-STRUCK 2;2 Q;SCRIPT 1 R;BLACK-LETTER 2;DOUBLE-STRUCK 2",
      "PRESCRIPTION TAKE;RESPONSE;SERVICE m;TELEPHONE g;TRADE m g;VERSICLE;DOUBLE-STRUCK c Z;OUNCE g;OHM 1",
      "INVERTED OHM g;BLACK-LETTER c Z;TURNED GREEK s t IOTA;KELVIN g;ANGSTROM 1;SCRIPT c B;BLACK-LETTER 1 C",
      "ESTIMATED y;SCRIPT s E;1 c 1;2 F;TURNED 2;SCRIPT 1 M;1 s O;ALEF y;BET 1;GIMEL 1;DALET 1;INFORMATION SOURCE",
      "ROTATED c Q;FACSIMILE g;DOUBLE-STRUCK s PI;2 GAMMA;1 c 1;2 PI;1 N-ARY SUMMATION;TURNED SANS-SERIF c G;3 L",
      "REVERSED 3;TURNED 2 Y;DOUBLE-STRUCK ITALIC 1 D;2 s 1;3 E;3 I;3 J;PROPERTY LINE;TURNED AMPERSAND;PER g",
      "AKTIESELSKAB;TURNED s F;y FOR SAMARITAN SOURCE;VULGAR FRACTION ONE SEVENTH;3 NINTH;3 TENTH;3 THIRD",
      "2 TWO THIRDS;2 ONE FIFTH;2 TWO FIFTHS;2 THREE 1;2 FOUR 1;2 ONE SIXTH;2 FIVE SIXTHS;2 ONE EIGHTH",
      "2 THREE EIGHTHS;2 FIVE 1;2 SEVEN 1;FRACTION NUMERATOR ONE;ROMAN NUMERAL 1;2 TWO;2 THREE;2 FOUR;2 FIVE;2 SIX",
      "2 SEVEN;2 EIGHT;2 NINE;2 TEN;2 ELEVEN;2 TWELVE;2 FIFTY;2 ONE HUNDRED;2 FIVE 1;2 ONE THOUSAND",
      "s ROMAN NUMERAL ONE;3 TWO;3 THREE;3 FOUR;3 FIVE;3 SIX;3 SEVEN;3 EIGHT;3 NINE;3 TEN;3 ELEVEN;3 TWELVE;3 FIFTY",
      "3 ONE HUNDRED;3 FIVE 1;3 ONE THOUSAND;ROMAN NUMERAL ONE THOUSAND C D;2 FIVE 1;2 TEN 1;2 REVERSED ONE HUNDRED",
      "LATIN s t REVERSED C;ROMAN NUMERAL SIX LATE FORM;2 FIFTY EARLY 1;3 THOUSAND;2 ONE HUNDRED THOUSAND",
      "VULGAR FRACTION ZERO THIRDS;TURNED DIGIT TWO;2 THREE"]),
   (0x2190, [
      "LEFTWARDS a;UPWARDS 1;x 1;DOWNWARDS 1;l r a;UP DOWN 1;NORTH WEST 1;1 EAST 1;SOUTH 2;1 WEST 1;LEFTWARDS a w k",
      "x 3;LEFTWARDS WAVE a;x 2;LEFTWARDS TWO HEADED a;UPWARDS 3;x 3;DOWNWARDS 3;LEFTWARDS a w TAIL;x 3",
      "LEFTWARDS 1 FROM BAR;UPWARDS 3;x 3;DOWNWARDS 3;UP DOWN a w BASE;LEFTWARDS a w HOOK;x 3;LEFTWARDS 2 LOOP;x 3",
      "l r WAVE a;2 a w k;DOWNWARDS ZIGZAG 1;UPWARDS a w TIP LEFTWARDS;4 x;DOWNWARDS 3 LEFTWARDS;4 x",
      "x 2 CORNER DOWNWARDS;DOWNWARDS 3 LEFTWARDS;ANTICLOCKWISE TOP SEMICIRCLE a;CLOCKWISE 3",
      "NORTH WEST a TO LONG BAR;LEFTWARDS a TO BAR OVER x a TO BAR;ANTICLOCKWISE OPEN CIRCLE a;CLOCKWISE 3",
      "LEFTWARDS HARPOON w BARB UPWARDS;4 DOWNWARDS;UPWARDS 3 x;4 LEFTWARDS;x 3 UPWARDS;4 DOWNWARDS;DOWNWARDS 3 x",
      "4 LEFTWARDS;x a OVER LEFTWARDS a;UPWARDS 1 LEFTWARDS OF DOWNWARDS a;LEFTWARDS 1 OVER x a;1 PAIRED ARROWS",
      "UPWARDS 2;x 2;DOWNWARDS 2;LEFTWARDS HARPOON OVER x HARPOON;x 2 LEFTWARDS 1;LEFTWARDS d a w k;l r d a w k",
      "x d a w k;LEFTWARDS 2;UPWARDS 2;x 2;DOWNWARDS 2;l r d a;UP DOWN 2;NORTH WEST 2;1 EAST 2;SOUTH 3;1 WEST 2",
      "LEFTWARDS TRIPLE a;x 2;LEFTWARDS SQUIGGLE 1;x 2;UPWARDS a w d k;DOWNWARDS 4;LEFTWARDS DASHED a;UPWARDS 2;x 2",
      "DOWNWARDS 2;LEFTWARDS a TO BAR;x 3;LEFTWARDS i a;UPWARDS 2;x 2;DOWNWARDS 2;UPWARDS 2 FROM BAR;3 ON PEDESTAL",
      "5 w o BAR;6 v 1;2 d a;4 ON PEDESTAL;x 1 a FROM WALL;NORTH WEST 1 TO CORNER;SOUTH EAST 3;UP DOWN i a",
      "r a w s CIRCLE;DOWNWARDS 1 LEFTWARDS OF UPWARDS a;THREE x ARROWS;LEFTWARDS a w v k;x 4;l r a w v k",
      "LEFTWARDS a w d 2;x 5;l r a w d v k;LEFTWARDS OPEN-HEADED 1;x 2;l r OPEN-HEADED a;FOR ALL;COMPLEMENT",
      "PARTIAL DIFFERENTIAL;THERE EXISTS;1 DOES NOT EXIST;EMPTY SET;INCREMENT;NABLA;ELEMENT OF;NOT AN ELEMENT OF",
      "s ELEMENT OF;CONTAINS AS MEMBER;DOES NOT CONTAIN AS MEMBER;s CONTAINS AS MEMBER;END OF PROOF;N-ARY PRODUCT",
      "1 COPRODUCT;1 SUMMATION;MINUS g;MINUS-OR-PLUS 1;DOT PLUS;DIVISION SLASH;SET MINUS;ASTERISK OPERATOR;RING 1",
      "BULLET 1;SQUARE ROOT;CUBE 1;FOURTH 1;PROPORTIONAL TO;INFINITY;r ANGLE;ANGLE;MEASURED ANGLE;SPHERICAL 1",
      "DIVIDES;DOES NOT DIVIDE;PARALLEL TO;NOT PARALLEL TO;LOGICAL AND;1 OR;INTERSECTION;UNION;INTEGRAL;d INTEGRAL",
      "TRIPLE 1;CONTOUR 1;SURFACE 1;VOLUME 1;CLOCKWISE 1;1 CONTOUR INTEGRAL;ANTICLOCKWISE 2;THEREFORE;BECAUSE;RATIO",
      "PROPORTION;DOT MINUS;EXCESS;GEOMETRIC PROPORTION;HOMOTHETIC;TILDE OPERATOR;REVERSED TILDE;INVERTED LAZY S",
      "SINE WAVE;WREATH PRODUCT;NOT TILDE;MINUS 1;ASYMPTOTICALLY EQUAL TO;NOT ASYMPTOTICALLY EQUAL TO",
      "APPROXIMATELY EQUAL TO;1 BUT NOT ACTUALLY EQUAL TO;NEITHER APPROXIMATELY NOR 3;ALMOST EQUAL TO",
      "NOT ALMOST EQUAL TO;ALMOST EQUAL OR EQUAL TO;TRIPLE TILDE;ALL EQUAL TO;EQUIVALENT TO",
      "GEOMETRICALLY EQUIVALENT TO;DIFFERENCE BETWEEN;APPROACHES THE LIMIT;GEOMETRICALLY EQUAL TO",
      "APPROXIMATELY 2 OR THE IMAGE OF;IMAGE OF OR APPROXIMATELY EQUAL TO;COLON EQUALS;EQUALS COLON;RING IN EQUAL TO",
      "1 EQUAL TO;CORRESPONDS TO;ESTIMATES;EQUIANGULAR TO;STAR EQUALS;DELTA EQUAL TO;EQUAL TO BY DEFINITION",
      "MEASURED BY;QUESTIONED EQUAL TO;NOT 2;IDENTICAL TO;NOT IDENTICAL TO;STRICTLY EQUIVALENT 1",
      "LESS-THAN OR EQUAL TO;GREATER-THAN 3;LESS-THAN OVER 2;GREATER-THAN 3;LESS-THAN BUT NOT EQUAL TO",
      "GREATER-THAN 4;MUCH LESS-THAN;1 GREATER-THAN;BETWEEN;NOT EQUIVALENT TO;1 LESS-THAN;1 GREATER-THAN",
      "NEITHER LESS-THAN NOR EQUAL TO;1 GREATER-THAN 3;LESS-THAN OR EQUIVALENT TO;GREATER-THAN 3",
      "NEITHER LESS-THAN NOR EQUIVALENT TO;1 GREATER-THAN 3;LESS-THAN OR GREATER-THAN;GREATER-THAN 1 LESS-THAN",
      "NEITHER LESS-THAN NOR GREATER-THAN;1 GREATER-THAN 1 LESS-THAN;PRECEDES;SUCCEEDS;PRECEDES OR EQUAL TO",
      "SUCCEEDS 3;PRECEDES 1 EQUIVALENT 1;SUCCEEDS 3;DOES NOT PRECEDE;2 SUCCEED;SUBSET OF;SUPERSET 1;NOT A SUBSET OF",
      "2 SUPERSET 1;SUBSET OF OR EQUAL TO;SUPERSET 4;NEITHER A SUBSET OF NOR EQUAL TO;2 SUPERSET 4",
      "SUBSET OF w NOT EQUAL TO;SUPERSET 5;MULTISET;1 MULTIPLICATION;1 UNION;SQUARE IMAGE OF;1 ORIGINAL 1",
      "1 IMAGE 1 OR EQUAL TO;1 ORIGINAL 4;1 CAP;1 CUP;CIRCLED PLUS;1 MINUS;1 TIMES;1 DIVISION SLASH;1 DOT OPERATOR",
      "1 RING 1;1 ASTERISK 1;1 EQUALS;1 DASH;SQUARED PLUS;1 MINUS;1 TIMES;1 DOT OPERATOR;r TACK;l 1;DOWN 1;UP 1",
      "ASSERTION;MODELS;TRUE;FORCES;TRIPLE v BAR r TURNSTILE;d 2 d r TURNSTILE;DOES NOT PROVE;NOT TRUE",
      "DOES NOT FORCE;NEGATED d v BAR d r TURNSTILE;PRECEDES UNDER RELATION;SUCCEEDS 2;NORMAL SUBGROUP OF",
      "CONTAINS AS NORMAL SUBGROUP;NORMAL SUBGROUP OF OR EQUAL TO;CONTAINS AS NORMAL SUBGROUP OR EQUAL TO",
      "ORIGINAL OF;IMAGE 1;MULTIMAP;HERMITIAN CONJUGATE MATRIX;INTERCALATE;XOR;NAND;NOR;r ANGLE w ARC;1 TRIANGLE",
      "N-ARY LOGICAL AND;2 OR;1 INTERSECTION;1 UNION;DIAMOND OPERATOR;DOT 1;STAR 1;DIVISION TIMES;BOWTIE",
      "l NORMAL FACTOR SEMIDIRECT PRODUCT;r 4;l SEMIDIRECT PRODUCT;r 2;REVERSED TILDE EQUALS;CURLY LOGICAL OR;2 AND",
      "d SUBSET;1 SUPERSET;1 INTERSECTION;1 UNION;PITCHFORK;EQUAL AND PARALLEL TO;LESS-THAN w DOT;GREATER-THAN 2",
      "VERY MUCH LESS-THAN;2 GREATER-THAN;LESS-THAN EQUAL TO OR GREATER-THAN;GREATER-THAN 3 LESS-THAN",
      "EQUAL TO OR LESS-THAN;3 GREATER-THAN;3 PRECEDES;3 SUCCEEDS;DOES NOT PRECEDE OR EQUAL;2 SUCCEED 2",
      "NOT SQUARE IMAGE OF OR EQUAL TO;2 ORIGINAL 4;SQUARE IMAGE OF OR NOT 2;1 ORIGINAL 5",
      "LESS-THAN BUT NOT EQUIVALENT TO;GREATER-THAN 4;PRECEDES 4;SUCCEEDS 4;NOT NORMAL SUBGROUP OF",
      "DOES NOT CONTAIN AS NORMAL SUBGROUP;NOT NORMAL SUBGROUP OF OR EQUAL TO",
      "DOES NOT CONTAIN AS NORMAL SUBGROUP OR EQUAL;v ELLIPSIS;MIDLINE o ELLIPSIS;UP r DIAGONAL ELLIPSIS;DOWN 3",
      "ELEMENT OF w LONG o k;3 v BAR AT END OF o k;s ELEMENT OF w v BAR AT END OF o k;ELEMENT OF w DOT ABOVE",
      "3 OVERBAR;s ELEMENT OF w OVERBAR;ELEMENT OF w UNDERBAR;3 TWO o STROKES;CONTAINS w LONG o k",
      "2 v BAR AT END OF o k;s CONTAINS w v BAR AT END OF o k;CONTAINS w OVERBAR;s CONTAINS w OVERBAR",
      "Z NOTATION BAG MEMBERSHIP;DIAMETER g;ELECTRIC a;HOUSE;UP ARROWHEAD;DOWN 1;PROJECTIVE;PERSPECTIVE;WAVY LINE",
      "l CEILING;r 1;l FLOOR;r 1;BOTTOM r CROP;1 l 1;TOP r 1;1 l 1;REVERSED NOT g;SQUARE LOZENGE;ARC;SEGMENT;SECTOR",
      "TELEPHONE RECORDER;POSITION INDICATOR;VIEWDATA SQUARE;PLACE OF INTEREST g;TURNED NOT g;WATCH;HOURGLASS",
      "TOP l CORNER;1 r 1;BOTTOM l 1;1 r 1;TOP HALF INTEGRAL;BOTTOM 2;FROWN;SMILE;UP ARROWHEAD BETWEEN TWO o BARS",
      "OPTION KEY;ERASE TO THE r;X IN A RECTANGLE BOX;KEYBOARD;LEFT-POINTING ANGLE BRACKET;RIGHT-POINTING 2",
      "ERASE TO THE l;BENZENE RING;CYLINDRICITY;ALL AROUND-PROFILE;SYMMETRY;TOTAL RUNOUT;DIMENSION ORIGIN",
      "CONICAL TAPER;SLOPE;COUNTERBORE;COUNTERSINK;APL FUNCTIONAL y I-BEAM;3 SQUISH QUAD;3 QUAD EQUAL;4 DIVIDE",
      "4 DIAMOND;4 JOT;4 CIRCLE;3 CIRCLE STILE;4 JOT;3 SLASH BAR;3 BACKSLASH 1;3 QUAD SLASH;4 BACKSLASH;4 LESS-THAN",
      "4 GREATER-THAN;3 LEFTWARDS VANE;3 x 1;3 QUAD LEFTWARDS a;4 x 1;3 CIRCLE BACKSLASH;3 DOWN TACK UNDERBAR",
      "3 DELTA STILE;3 QUAD DOWN CARET;4 DELTA;3 DOWN TACK JOT;3 UPWARDS VANE;3 QUAD UPWARDS a;3 UP TACK OVERBAR",
      "3 DEL STILE;3 QUAD UP CARET;4 DEL;3 UP TACK JOT;3 DOWNWARDS VANE;3 QUAD DOWNWARDS a;3 QUOTE UNDERBAR",
      "3 DELTA 1;3 DIAMOND 1;3 JOT 1;3 CIRCLE 1;3 UP SHOE JOT;3 QUOTE QUAD;3 CIRCLE STAR;3 QUAD COLON",
      "3 UP TACK DIAERESIS;3 DEL DIAERESIS;3 STAR 1;3 JOT 1;3 CIRCLE 1;3 DOWN SHOE STILE;3 l 2;3 TILDE DIAERESIS",
      "3 GREATER-THAN 1;3 COMMA BAR;3 DEL TILDE;3 ZILDE;3 STILE TILDE;3 SEMICOLON UNDERBAR;3 QUAD NOT EQUAL",
      "4 QUESTION;3 DOWN CARET TILDE;3 UP 2;3 IOTA;3 RHO;3 OMEGA;3 ALPHA UNDERBAR;3 EPSILON 1;3 IOTA 1;3 OMEGA 1",
      "3 ALPHA;NOT CHECK m;r ANGLE w DOWNWARDS ZIGZAG a;SHOULDERED OPEN BOX;BELL y;v LINE w MIDDLE DOT;INSERTION y",
      "CONTINUOUS UNDERLINE y;DISCONTINUOUS 2;EMPHASIS y;COMPOSITION 1;i SQUARE w CENTRE v LINE;ENTER y",
      "ALTERNATIVE KEY y;HELM y;CIRCLED o BAR w NOTCH;1 TRIANGLE DOWN;BROKEN CIRCLE w NORTHWEST a;UNDO y",
      "MONOSTABLE 1;HYSTERESIS 1;OPEN-CIRCUIT-OUTPUT H-TYPE y;1 L-TYPE 1;PASSIVE-PULL-DOWN-OUTPUT y",
      "PASSIVE-PULL-UP-OUTPUT 1;DIRECT CURRENT y FORM TWO;SOFTWARE-FUNCTION y;APL FUNCTIONAL y QUAD",
      "DECIMAL SEPARATOR KEY y;PREVIOUS PAGE;NEXT 1;PRINT SCREEN y;CLEAR 2;l PARENTHESIS UPPER HOOK;2 EXTENSION",
      "2 LOWER HOOK;r 1 UPPER 1;2 EXTENSION;2 LOWER HOOK;l SQUARE BRACKET UPPER CORNER;3 EXTENSION;3 LOWER CORNER",
      "r 2 UPPER 1;3 EXTENSION;3 LOWER CORNER;l CURLY 1 UPPER HOOK;3 MIDDLE PIECE;3 LOWER HOOK",
      "CURLY BRACKET EXTENSION;r CURLY BRACKET UPPER HOOK;3 MIDDLE PIECE;3 LOWER HOOK;INTEGRAL EXTENSION",
      "o LINE EXTENSION;UPPER l OR LOWER r CURLY BRACKET SECTION;1 r 2 l 3;SUMMATION TOP;1 BOTTOM;TOP SQUARE BRACKET",
      "BOTTOM 2;3 OVER TOP SQUARE BRACKET;RADICAL y BOTTOM;l v BOX LINE;r 3;o SCAN LINE-1;2 LINE-3;2 LINE-7;2 LINE-9",
      "DENTISTRY y LIGHT v AND TOP r;5 BOTTOM 1;4 w CIRCLE;3 DOWN AND o w CIRCLE;3 UP 4;3 v w TRIANGLE",
      "3 DOWN AND o w TRIANGLE;3 UP 4;3 v 1 WAVE;3 DOWN 1 o w WAVE;3 UP 4;3 DOWN 2;3 UP 2;3 v 1 TOP l;5 BOTTOM 1",
      "SQUARE FOOT;RETURN y;EJECT 1;v LINE EXTENSION;METRICAL BREVE;1 LONG OVER SHORT;1 SHORT 1 LONG",
      "1 LONG 1 TWO SHORTS;1 TWO SHORTS OVER LONG;3 JOINED;1 TRISEME;1 TETRASEME;1 PENTASEME;EARTH GROUND;FUSE",
      "TOP PARENTHESIS;BOTTOM 1;TOP CURLY BRACKET;BOTTOM 2;TOP TORTOISE SHELL BRACKET;BOTTOM 3;i TRAPEZIUM",
      "BENZENE RING w CIRCLE;STRAIGHTNESS;FLATNESS;AC CURRENT;ELECTRICAL INTERSECTION;DECIMAL EXPONENT y",
      "b RIGHT-POINTING d TRIANGLE;1 LEFT-POINTING 2;1 UP-POINTING 2;1 DOWN-POINTING 2;1 RIGHT-POINTING 2 w v BAR",
      "1 LEFT-POINTING 5;1 RIGHT-POINTING TRIANGLE w d 2;ALARM CLOCK;STOPWATCH;TIMER CLOCK;HOURGLASS w FLOWING SAND",
      "b MEDIUM LEFT-POINTING TRIANGLE;2 RIGHT-POINTING 1;2 UP-POINTING 1;2 DOWN-POINTING 1;d v BAR",
      "b SQUARE FOR STOP;1 CIRCLE 1 RECORD;POWER y;1 ON-OFF y;1 ON 1;1 SLEEP 1;OBSERVER EYE 1"]),
   (0x2500, [
      "BOX DRAWINGS LIGHT o;2 h 1;2 LIGHT v;2 h 1;2 LIGHT TRIPLE DASH o;2 h 3;2 LIGHT 2 v;2 h 3",
      "2 LIGHT QUADRUPLE 1 o;2 h 3;2 LIGHT 2 v;2 h 3;2 LIGHT DOWN AND r;2 DOWN LIGHT 2 h;3 h 2 LIGHT;2 h DOWN 2",
      "2 LIGHT 2 l;2 DOWN LIGHT 2 h;3 h 2 LIGHT;2 h DOWN 2;2 LIGHT UP 1 r;2 UP LIGHT 2 h;3 h 2 LIGHT;2 h UP 2",
      "2 LIGHT 2 l;2 UP LIGHT 2 h;3 h 2 LIGHT;2 h UP 2;2 LIGHT v 1 r;2 v LIGHT 2 h;2 UP h 2 DOWN LIGHT;2 DOWN 3 UP 1",
      "2 v 3 LIGHT;2 DOWN LIGHT 2 UP h;2 UP 3 DOWN 1;2 h v 2;2 LIGHT 2 l;2 v LIGHT 2 h;2 UP h 2 DOWN LIGHT",
      "2 DOWN 3 UP 1;2 v 3 LIGHT;2 DOWN LIGHT 2 UP h;2 UP 3 DOWN 1;2 h v 2;2 LIGHT DOWN 1 o;2 l h 1 r DOWN LIGHT",
      "2 r 2 l 2;2 DOWN LIGHT 1 o h;3 h 2 LIGHT;2 r LIGHT 1 l DOWN h;2 l 2 r 2;2 h DOWN 1 o;2 LIGHT UP 2",
      "2 l h 1 r UP LIGHT;2 r 2 l 2;2 UP LIGHT 1 o h;3 h 2 LIGHT;2 r LIGHT 1 l UP h;2 l 2 r 2;2 h UP 1 o;2 LIGHT v 2",
      "2 l h 1 r v LIGHT;2 r 2 l 2;2 v LIGHT 1 o h;2 UP h 1 DOWN o LIGHT;2 DOWN 2 UP 2;2 v 2 o LIGHT",
      "2 l UP h AND r DOWN LIGHT;2 r 3 l 2;2 l DOWN 2 r UP 1;2 r 3 l 2;2 DOWN LIGHT AND UP o h;2 UP 2 DOWN 2",
      "2 r 2 l v 1;2 l 2 r 2;2 h v 1 o;2 LIGHT d DASH 1;2 h 3;2 LIGHT 2 v;2 h 3;2 d o;3 v;2 DOWN SINGLE AND r d",
      "3 d 2 SINGLE;2 d DOWN 2;2 DOWN SINGLE 1 l d;3 d 2 SINGLE;2 d DOWN 2;2 UP SINGLE 1 r d;3 d 2 SINGLE;2 d UP 2",
      "2 UP SINGLE 1 l d;3 d 2 SINGLE;2 d UP 2;2 v SINGLE 1 r d;3 d 2 SINGLE;2 d v 2;2 v SINGLE 1 l d;3 d 2 SINGLE",
      "2 d v 2;2 DOWN SINGLE 1 o d;3 d 2 SINGLE;2 d DOWN 2;2 UP SINGLE 2 d;3 d 2 SINGLE;2 d UP 2;2 v SINGLE 2 d",
      "3 d 2 SINGLE;2 d v 2;2 LIGHT ARC DOWN AND r;6 l;4 UP 2;6 r;3 DIAGONAL UPPER r TO LOWER l;5 l 2 r;4 CROSS;3 l",
      "3 UP;3 r;3 DOWN;2 h l;3 UP;3 r;3 DOWN;2 LIGHT l AND h r;3 UP 2 DOWN;2 h l 1 LIGHT r;3 UP 2 DOWN",
      "UPPER HALF BLOCK;LOWER ONE EIGHTH BLOCK;2 QUARTER 1;1 THREE EIGHTHS 1;1 HALF BLOCK;1 FIVE EIGHTHS BLOCK",
      "1 THREE QUARTERS 1;1 SEVEN EIGHTHS 1;FULL BLOCK;l SEVEN EIGHTHS BLOCK;1 THREE QUARTERS 1;1 FIVE EIGHTHS 1",
      "1 HALF BLOCK;1 THREE EIGHTHS BLOCK;1 ONE QUARTER 1;2 EIGHTH 1;r HALF BLOCK;LIGHT SHADE;MEDIUM 1;DARK 1",
      "UPPER ONE EIGHTH BLOCK;r 3;QUADRANT LOWER l;2 r;1 UPPER l;3 AND LOWER l AND LOWER r;5 r;4 UPPER 1 AND LOWER l",
      "8 r;2 r;3 AND LOWER l;6 AND LOWER r;b SQUARE;i 1;2 w ROUNDED CORNERS;2 CONTAINING b s SQUARE;SQUARE w o FILL",
      "2 v 1;2 ORTHOGONAL CROSSHATCH FILL;2 UPPER l TO LOWER r FILL;3 r 2 l 1;2 DIAGONAL CROSSHATCH FILL;b s SQUARE",
      "i 2;b RECTANGLE;i 1;b v RECTANGLE;i 2;b PARALLELOGRAM;i 1;b UP-POINTING TRIANGLE;i 2;b 1 s TRIANGLE;i 3",
      "b RIGHT-POINTING TRIANGLE;i 2;b 1 s TRIANGLE;i 3;b 1 POINTER;i 2;b DOWN-POINTING TRIANGLE;i 2;b 1 s TRIANGLE",
      "i 3;b LEFT-POINTING TRIANGLE;i 2;b 1 s TRIANGLE;i 3;b 1 POINTER;i 2;b DIAMOND;i 1;2 CONTAINING b s DIAMOND",
      "FISHEYE;LOZENGE;i CIRCLE;DOTTED 1;CIRCLE w v FILL;BULLSEYE;b CIRCLE;CIRCLE w l HALF b;2 r 2;2 LOWER 2",
      "2 UPPER 2;3 r QUADRANT b;2 ALL BUT UPPER l QUADRANT b;l HALF b CIRCLE;r 3;INVERSE BULLET;1 i CIRCLE",
      "UPPER HALF INVERSE i CIRCLE;LOWER 4;UPPER l QUADRANT CIRCULAR ARC;1 r 3;LOWER 4;1 l 3;UPPER HALF CIRCLE",
      "LOWER 2;b LOWER r TRIANGLE;2 l 1;1 UPPER 2;2 r 1;i BULLET;SQUARE w l HALF b;2 r 2;2 UPPER l DIAGONAL HALF b",
      "2 LOWER r 3;i SQUARE w v BISECTING LINE;1 UP-POINTING TRIANGLE w DOT;UP-POINTING TRIANGLE w l HALF b;3 r 2",
      "LARGE CIRCLE;i SQUARE w UPPER l QUADRANT;3 LOWER 2;4 r 1;3 UPPER 2;1 CIRCLE 2 l 1;3 LOWER 2;4 r 1;3 UPPER 2",
      "UPPER l TRIANGLE;1 r 1;LOWER l 1;i MEDIUM SQUARE;b 2;i 1 s SQUARE;b 3;LOWER r TRIANGLE;b SUN w RAYS;CLOUD",
      "UMBRELLA;SNOWMAN;COMET;b STAR;i 1;LIGHTNING;THUNDERSTORM;SUN;ASCENDING NODE;DESCENDING 1;CONJUNCTION",
      "OPPOSITION;b TELEPHONE;i 1;BALLOT BOX;2 w CHECK;3 X;SALTIRE;UMBRELLA w RAIN DROPS;HOT BEVERAGE;i SHOGI PIECE",
      "b 2;SHAMROCK;REVERSED ROTATED FLORAL HEART BULLET;b l POINTING INDEX;1 r 2;i l 2;1 UP 2;1 r 2;1 DOWN 2",
      "SKULL AND CROSSBONES;CAUTION g;RADIOACTIVE 1;BIOHAZARD 1;CADUCEUS;ANKH;ORTHODOX CROSS;CHI RHO",
      "CROSS OF LORRAINE;2 JERUSALEM;STAR AND CRESCENT;FARSI y;ADI SHAKTI;HAMMER AND SICKLE;PEACE y;YIN YANG",
      "TRIGRAM FOR HEAVEN;2 LAKE;2 FIRE;2 THUNDER;2 WIND;2 WATER;2 MOUNTAIN;2 EARTH;WHEEL OF DHARMA;i FROWNING FACE",
      "1 SMILING 1;b 2;i SUN w RAYS;FIRST QUARTER MOON;LAST 2;MERCURY;FEMALE g;EARTH;MALE g;JUPITER;SATURN;URANUS",
      "NEPTUNE;PLUTO;ARIES;TAURUS;GEMINI;CANCER;LEO;VIRGO;LIBRA;SCORPIUS;SAGITTARIUS;CAPRICORN;AQUARIUS;PISCES",
      "i CHESS KING;2 QUEEN;2 ROOK;2 BISHOP;2 KNIGHT;2 PAWN;b 1 KING;2 QUEEN;2 ROOK;2 BISHOP;2 KNIGHT;2 PAWN",
      "1 SPADE SUIT;i HEART 1;1 DIAMOND 1;b CLUB 1;i SPADE 1;b HEART 1;1 DIAMOND 1;i CLUB 1;HOT SPRINGS;QUARTER NOTE",
      "EIGHTH 1;BEAMED EIGHTH NOTES;1 SIXTEENTH 1;MUSIC FLAT g;1 NATURAL 1;1 SHARP 1;WEST SYRIAC CROSS;EAST 2",
      "UNIVERSAL RECYCLING y;RECYCLING y FOR TYPE-1 PLASTICS;3 TYPE-2 1;3 TYPE-3 1;3 TYPE-4 1;3 TYPE-5 1;3 TYPE-6 1",
      "3 TYPE-7 1;3 GENERIC MATERIALS;b UNIVERSAL RECYCLING y;RECYCLED PAPER y;PARTIALLY-RECYCLED 2;PERMANENT 1 g",
      "WHEELCHAIR y;DIE FACE-1;1 FACE-2;1 FACE-3;1 FACE-4;1 FACE-5;1 FACE-6;i CIRCLE w DOT r;3 TWO DOTS;b 2 i DOT r",
      "3 TWO i DOTS;MONOGRAM FOR YANG;2 YIN;DIGRAM 1 GREATER YANG;2 LESSER YIN;3 YANG;2 GREATER YIN;i FLAG;b 1",
      "HAMMER AND PICK;ANCHOR;CROSSED SWORDS;STAFF OF AESCULAPIUS;SCALES;ALEMBIC;FLOWER;GEAR;STAFF OF HERMES;ATOM y",
      "FLEUR-DE-LIS;OUTLINED i STAR;THREE LINES CONVERGING r;3 l;WARNING g;HIGH VOLTAGE g;DOUBLED FEMALE 1;1 MALE 1",
      "INTERLOCKED FEMALE AND MALE g;MALE AND FEMALE g;1 w k 1;3 AND MALE AND FEMALE g;v MALE w k g;o 4",
      "MEDIUM i CIRCLE;1 b 1;1 s i CIRCLE;MARRIAGE y;DIVORCE 1;UNMARRIED PARTNERSHIP y;COFFIN;FUNERAL URN;NEUTER",
      "CERES;PALLAS;JUNO;VESTA;CHIRON;b MOON LILITH;SEXTILE;SEMISEXTILE;QUINCUNX;SESQUIQUADRATE;SOCCER BALL;BASEBALL",
      "SQUARED KEY;i DRAUGHTS MAN;2 KING;b 1 MAN;2 KING;SNOWMAN WITHOUT SNOW;SUN BEHIND CLOUD;RAIN;b SNOWMAN",
      "THUNDER CLOUD AND RAIN;TURNED i SHOGI PIECE;1 b 2;i DIAMOND IN SQUARE;CROSSING LANES;DISABLED CAR;OPHIUCHUS",
      "PICK;CAR SLIDING;HELMET w i CROSS;CIRCLED CROSSING LANES;CHAINS;NO ENTRY;ALTERNATE ONE-WAY l WAY TRAFFIC",
      "b TWO-WAY 3;i 4;b l LANE MERGE;i 3;DRIVE SLOW g;h i DOWN-POINTING TRIANGLE;l CLOSED ENTRY;SQUARED SALTIRE",
      "FALLING DIAGONAL IN i CIRCLE IN b SQUARE;b TRUCK;RESTRICTED l ENTRY-1;2 ENTRY-2;ASTRONOMICAL y FOR URANUS",
      "h CIRCLE w k AND TWO DOTS ABOVE;PENTAGRAM;RIGHT-HANDED INTERLACED PENTAGRAM;LEFT-HANDED 2;INVERTED PENTAGRAM",
      "b CROSS ON SHIELD;SHINTO SHRINE;CHURCH;CASTLE;HISTORIC SITE;GEAR WITHOUT HUB;1 w HANDLES;MAP y FOR LIGHTHOUSE",
      "MOUNTAIN;UMBRELLA ON GROUND;FOUNTAIN;FLAG IN HOLE;FERRY;SAILBOAT;SQUARE FOUR CORNERS;SKIER;ICE SKATE",
      "PERSON w BALL;TENT;JAPANESE BANK y;HEADSTONE GRAVEYARD 1;FUEL PUMP;CUP ON b SQUARE;i FLAG w o MIDDLE b STRIPE"]),
   (0x2701, [
      "UPPER BLADE SCISSORS;b SCISSORS;LOWER BLADE SCISSORS;i SCISSORS;1 h CHECK m;TELEPHONE LOCATION g;TAPE DRIVE",
      "AIRPLANE;ENVELOPE;RAISED FIST;1 HAND;VICTORY 1;WRITING 1;LOWER r PENCIL;PENCIL;UPPER r PENCIL;i NIB;b 1",
      "CHECK m;h CHECK m;MULTIPLICATION X;h MULTIPLICATION X;BALLOT X;h BALLOT X;OUTLINED GREEK CROSS;h 2",
      "OPEN CENTRE 1;h OPEN CENTRE CROSS;LATIN CROSS;SHADOWED i LATIN CROSS;OUTLINED LATIN CROSS;MALTESE CROSS",
      "STAR OF DAVID;FOUR TEARDROP-SPOKED ASTERISK;1 BALLOON-SPOKED 1;h FOUR BALLOON-SPOKED ASTERISK",
      "FOUR CLUB-SPOKED ASTERISK;b FOUR POINTED STAR;i 3;SPARKLES;STRESS OUTLINED i STAR;CIRCLED i STAR",
      "OPEN CENTRE b STAR;b 1 i 1;OUTLINED b STAR;h OUTLINED b STAR;PINWHEEL STAR;SHADOWED i STAR;h ASTERISK",
      "OPEN CENTRE ASTERISK;EIGHT SPOKED 1;1 POINTED b STAR;2 PINWHEEL 1;SIX 1 b 1;EIGHT 1 RECTILINEAR b STAR",
      "h EIGHT POINTED RECTILINEAR b STAR;TWELVE POINTED b STAR;SIXTEEN 1 ASTERISK;TEARDROP-SPOKED ASTERISK",
      "OPEN CENTRE TEARDROP-SPOKED ASTERISK;h TEARDROP-SPOKED ASTERISK;SIX PETALLED b AND i FLORETTE;b FLORETTE;i 1",
      "EIGHT PETALLED OUTLINED b FLORETTE;CIRCLED OPEN CENTRE EIGHT POINTED STAR;h TEARDROP-SPOKED PINWHEEL ASTERISK",
      "SNOWFLAKE;TIGHT TRIFOLIATE SNOWFLAKE;h CHEVRON 1;SPARKLE;h SPARKLE;BALLOON-SPOKED ASTERISK",
      "EIGHT TEARDROP-SPOKED PROPELLER ASTERISK;h EIGHT TEARDROP-SPOKED PROPELLER ASTERISK;CROSS m;SHADOWED i CIRCLE",
      "NEGATIVE SQUARED CROSS m;LOWER r DROP-SHADOWED i SQUARE;UPPER 4;LOWER 1 SHADOWED 2;UPPER 4",
      "b QUESTION m ORNAMENT;i 3;1 EXCLAMATION 2;b DIAMOND MINUS i X;h EXCLAMATION m y;LIGHT v BAR;MEDIUM 2;h 2",
      "1 SINGLE TURNED COMMA QUOTATION m ORNAMENT;2 COMMA QUOTATION m ORNAMENT;1 d TURNED COMMA QUOTATION m ORNAMENT",
      "2 COMMA QUOTATION m ORNAMENT;1 LOW SINGLE COMMA QUOTATION m ORNAMENT;2 d 4;CURVED STEM PARAGRAPH g ORNAMENT",
      "h EXCLAMATION m ORNAMENT;1 HEART EXCLAMATION m ORNAMENT;1 b HEART;ROTATED h b HEART BULLET;FLORAL HEART",
      "ROTATED FLORAL HEART BULLET;MEDIUM l PARENTHESIS ORNAMENT;1 r 2;1 FLATTENED l PARENTHESIS ORNAMENT;2 r 2",
      "1 LEFT-POINTING ANGLE BRACKET 1;1 RIGHT-POINTING 3;h LEFT-POINTING 1 QUOTATION m ORNAMENT;1 RIGHT-POINTING 4",
      "1 LEFT-POINTING 1 BRACKET ORNAMENT;1 RIGHT-POINTING 3;LIGHT l TORTOISE SHELL BRACKET ORNAMENT;1 r 4",
      "MEDIUM l CURLY BRACKET ORNAMENT;1 r 3;DINGBAT NEGATIVE CIRCLED DIGIT ONE;4 TWO;4 THREE;4 FOUR;4 FIVE;4 SIX",
      "4 SEVEN;4 EIGHT;4 NINE;3 NUMBER TEN;1 CIRCLED SANS-SERIF DIGIT ONE;4 TWO;4 THREE;4 FOUR;4 FIVE;4 SIX;4 SEVEN",
      "4 EIGHT;4 NINE;3 NUMBER TEN;1 NEGATIVE CIRCLED SANS-SERIF DIGIT ONE;5 TWO;5 THREE;5 FOUR;5 FIVE;5 SIX;5 SEVEN",
      "5 EIGHT;5 NINE;4 NUMBER TEN;h WIDE-HEADED x a;1 PLUS g;1 MINUS 1;1 DIVISION 1;1 SOUTH EAST a;1 x a",
      "1 NORTH EAST a;DRAFTING POINT x 1;h ROUND-TIPPED 2;TRIANGLE-HEADED x a;h TRIANGLE-HEADED x a;DASHED 3",
      "h DASHED TRIANGLE-HEADED x a;b x a;THREE-D TOP-LIGHTED x ARROWHEAD;1 BOTTOM-LIGHTED 2;b x ARROWHEAD",
      "h b CURVED DOWNWARDS AND x a;3 UPWARDS 3;SQUAT 1 x a;h CONCAVE-POINTED b x a;RIGHT-SHADED i x a;LEFT-SHADED 3",
      "BACK-TILTED SHADOWED i x a;FRONT-TILTED 4;h LOWER RIGHT-SHADOWED i x a;1 UPPER 4;NOTCHED LOWER 4;CURLY LOOP",
      "NOTCHED UPPER RIGHT-SHADOWED i x a;CIRCLED h i x a;WHITE-FEATHERED x a;BLACK-FEATHERED SOUTH EAST a;1 x a",
      "1 NORTH EAST a;h BLACK-FEATHERED SOUTH EAST a;2 x a;2 NORTH EAST a;TEARDROP-BARBED x a;h TEARDROP-SHANKED x a",
      "WEDGE-TAILED x a;h WEDGE-TAILED x a;OPEN-OUTLINED x a;d CURLY LOOP"]),
   (0x3000, [
      "IDEOGRAPHIC SPACE;1 COMMA;1 FULL STOP;DITTO m;JAPANESE INDUSTRIAL STANDARD y;IDEOGRAPHIC ITERATION m",
      "1 CLOSING 1;1 NUMBER ZERO;l ANGLE BRACKET;r 2;l d ANGLE BRACKET;r 3;l CORNER BRACKET;r 2;l i CORNER BRACKET",
      "r 3;l b LENTICULAR 1;r 3;POSTAL m;GETA 1;l TORTOISE SHELL BRACKET;r 3;l i LENTICULAR 1;r 3",
      "l 1 TORTOISE SHELL BRACKET;r 4;l 1 SQUARE BRACKET;r 3;WAVE DASH;REVERSED d PRIME QUOTATION m",
      "d PRIME QUOTATION m;LOW d PRIME QUOTATION m;POSTAL m FACE;HANGZHOU NUMERAL ONE;2 TWO;2 THREE;2 FOUR;2 FIVE",
      "2 SIX;2 SEVEN;2 EIGHT;2 NINE;IDEOGRAPHIC LEVEL TONE m;1 RISING 2;1 DEPARTING 2;1 ENTERING 2",
      "HANGUL SINGLE DOT TONE m;1 d 3;WAVY DASH;v KANA REPEAT m;3 w VOICED SOUND m;3 m UPPER HALF",
      "3 w VOICED SOUND m UPPER HALF;3 m LOWER HALF;CIRCLED POSTAL m;IDEOGRAPHIC TELEGRAPH LINE FEED SEPARATOR y",
      "HANGZHOU NUMERAL TEN;2 TWENTY;2 THIRTY;v IDEOGRAPHIC ITERATION m;MASU m;PART ALTERNATION m",
      "IDEOGRAPHIC VARIATION INDICATOR;1 HALF FILL SPACE"]),
   (0xFEFF, [
      "ZERO WIDTH NO-BREAK SPACE"]),
   (0xFFFC, [
      "OBJECT REPLACEMENT CHARACTER;REPLACEMENT CHARACTER"]),
   (0x1F300, [
      "CYCLONE;FOGGY;CLOSED UMBRELLA;NIGHT w STARS;SUNRISE OVER MOUNTAINS;1;CITYSCAPE AT DUSK;SUNSET OVER BUILDINGS",
      "RAINBOW;BRIDGE AT NIGHT;WATER WAVE;VOLCANO;MILKY WAY;EARTH GLOBE EUROPE-AFRICA;2 AMERICAS;2 ASIA-AUSTRALIA",
      "GLOBE w MERIDIANS;NEW MOON y;WAXING CRESCENT MOON y;FIRST QUARTER 2;WAXING GIBBOUS 2;FULL MOON y",
      "WANING GIBBOUS MOON y;LAST QUARTER 2;WANING CRESCENT 2;CRESCENT MOON;NEW 1 w FACE;FIRST QUARTER MOON w FACE",
      "LAST 4;FULL MOON w FACE;SUN w FACE;GLOWING STAR;SHOOTING 1;THERMOMETER;b DROPLET;i SUN;2 w s CLOUD",
      "2 BEHIND CLOUD;4 w RAIN;CLOUD w RAIN;2 SNOW;2 LIGHTNING;2 TORNADO;FOG;WIND BLOWING FACE;HOT DOG;TACO;BURRITO",
      "CHESTNUT;SEEDLING;EVERGREEN TREE;DECIDUOUS 1;PALM 1;CACTUS;HOT PEPPER;TULIP;CHERRY BLOSSOM;ROSE;HIBISCUS",
      "SUNFLOWER;BLOSSOM;EAR OF MAIZE;2 RICE;HERB;FOUR LEAF CLOVER;MAPLE 1;FALLEN 1;LEAF FLUTTERING IN WIND;MUSHROOM",
      "TOMATO;AUBERGINE;GRAPES;MELON;WATERMELON;TANGERINE;LEMON;BANANA;PINEAPPLE;RED APPLE;GREEN 1;PEAR;PEACH",
      "CHERRIES;STRAWBERRY;HAMBURGER;SLICE OF PIZZA;MEAT ON BONE;POULTRY LEG;RICE CRACKER;1 BALL;COOKED RICE",
      "CURRY AND RICE;STEAMING BOWL;SPAGHETTI;BREAD;FRENCH FRIES;ROASTED SWEET POTATO;DANGO;ODEN;SUSHI;FRIED SHRIMP",
      "FISH CAKE w SWIRL DESIGN;SOFT ICE CREAM;SHAVED 1;ICE CREAM;DOUGHNUT;COOKIE;CHOCOLATE BAR;CANDY;LOLLIPOP",
      "CUSTARD;HONEY POT;SHORTCAKE;BENTO BOX;POT OF FOOD;COOKING;FORK AND KNIFE;TEACUP WITHOUT HANDLE",
      "SAKE BOTTLE AND CUP;WINE GLASS;COCKTAIL 1;TROPICAL DRINK;BEER MUG;CLINKING BEER MUGS;BABY BOTTLE",
      "FORK AND KNIFE w PLATE;BOTTLE w POPPING CORK;POPCORN;RIBBON;WRAPPED PRESENT;BIRTHDAY CAKE;JACK-O-LANTERN",
      "CHRISTMAS TREE;FATHER CHRISTMAS;FIREWORKS;FIREWORK SPARKLER;BALLOON;PARTY POPPER;CONFETTI BALL;TANABATA TREE",
      "CROSSED FLAGS;PINE DECORATION;JAPANESE DOLLS;CARP STREAMER;WIND CHIME;MOON VIEWING CEREMONY;SCHOOL SATCHEL",
      "GRADUATION CAP;HEART w TIP ON THE l;BOUQUET OF FLOWERS;MILITARY MEDAL;REMINDER RIBBON",
      "MUSICAL KEYBOARD w JACKS;STUDIO MICROPHONE;LEVEL SLIDER;CONTROL KNOBS;BEAMED ASCENDING MUSICAL NOTES",
      "1 DESCENDING 2;FILM FRAMES;ADMISSION TICKETS;CAROUSEL HORSE;FERRIS WHEEL;ROLLER COASTER;FISHING POLE AND FISH",
      "MICROPHONE;MOVIE CAMERA;CINEMA;HEADPHONE;ARTIST PALETTE;TOP HAT;CIRCUS TENT;TICKET;CLAPPER BOARD",
      "PERFORMING ARTS;VIDEO GAME;DIRECT HIT;SLOT MACHINE;BILLIARDS;GAME DIE;BOWLING;FLOWER PLAYING CARDS",
      "MUSICAL NOTE;MULTIPLE MUSICAL NOTES;SAXOPHONE;GUITAR;MUSICAL KEYBOARD;TRUMPET;VIOLIN;MUSICAL SCORE",
      "RUNNING SHIRT w SASH;TENNIS RACQUET AND BALL;SKI AND SKI BOOT;BASKETBALL 1 HOOP;CHEQUERED FLAG;SNOWBOARDER",
      "RUNNER;SURFER;SPORTS MEDAL;TROPHY;HORSE RACING;AMERICAN FOOTBALL;RUGBY 1;SWIMMER;WEIGHT LIFTER;GOLFER",
      "RACING MOTORCYCLE;1 CAR;CRICKET BAT AND BALL;VOLLEYBALL;FIELD HOCKEY STICK AND BALL;ICE 3 PUCK",
      "TABLE TENNIS PADDLE 1 BALL;SNOW CAPPED MOUNTAIN;CAMPING;BEACH w UMBRELLA;BUILDING CONSTRUCTION",
      "HOUSE BUILDINGS;CITYSCAPE;DERELICT HOUSE BUILDING;CLASSICAL BUILDING;DESERT;1 ISLAND;NATIONAL PARK;STADIUM",
      "HOUSE BUILDING;1 w GARDEN;OFFICE BUILDING;JAPANESE POST OFFICE;EUROPEAN 2;HOSPITAL;BANK",
      "AUTOMATED TELLER MACHINE;HOTEL;LOVE HOTEL;CONVENIENCE STORE;SCHOOL;DEPARTMENT STORE;FACTORY;IZAKAYA LANTERN",
      "JAPANESE CASTLE;EUROPEAN 1;i PENNANT;b 1;WAVING i FLAG;1 b 1;ROSETTE;b ROSETTE;LABEL",
      "BADMINTON RACQUET AND SHUTTLECOCK;BOW AND a;AMPHORA;EMOJI MODIFIER FITZPATRICK TYPE-1-2;3 TYPE-3;3 TYPE-4",
      "3 TYPE-5;3 TYPE-6;RAT;MOUSE;OX;WATER BUFFALO;COW;TIGER;LEOPARD;RABBIT;CAT;DRAGON;CROCODILE;WHALE;SNAIL;SNAKE",
      "HORSE;RAM;GOAT;SHEEP;MONKEY;ROOSTER;CHICKEN;DOG;PIG;BOAR;ELEPHANT;OCTOPUS;SPIRAL SHELL;BUG;ANT;HONEYBEE",
      "LADY BEETLE;FISH;TROPICAL FISH;BLOWFISH;TURTLE;HATCHING CHICK;BABY 1;FRONT-FACING BABY CHICK;BIRD;PENGUIN",
      "KOALA;POODLE;DROMEDARY CAMEL;BACTRIAN 1;DOLPHIN;MOUSE FACE;COW 1;TIGER 1;RABBIT 1;CAT 1;DRAGON 1",
      "SPOUTING WHALE;HORSE FACE;MONKEY 1;DOG 1;PIG 1;FROG 1;HAMSTER 1;WOLF 1;BEAR 1;PANDA 1;PIG NOSE;PAW PRINTS",
      "CHIPMUNK;EYES;EYE;EAR;NOSE;MOUTH;TONGUE;i UP POINTING BACKHAND INDEX;1 DOWN 3;1 l 3;1 r 3;FISTED HAND g",
      "WAVING 2;OK 2;THUMBS UP 1;1 DOWN 1;CLAPPING HANDS 1;OPEN 2;CROWN;WOMANS HAT;EYEGLASSES;NECKTIE;T-SHIRT;JEANS",
      "DRESS;KIMONO;BIKINI;WOMANS CLOTHES;PURSE;HANDBAG;POUCH;MANS SHOE;ATHLETIC 1;HIGH-HEELED 1;WOMANS SANDAL",
      "1 BOOTS;FOOTPRINTS;BUST IN SILHOUETTE;BUSTS 2;BOY;GIRL;MAN;WOMAN;FAMILY;MAN AND WOMAN HOLDING HANDS",
      "TWO MEN HOLDING HANDS;1 WOMEN 2;POLICE OFFICER;WOMAN w BUNNY EARS;BRIDE 1 VEIL;PERSON 1 BLOND HAIR",
      "MAN 1 GUA PI MAO;2 TURBAN;OLDER MAN;1 WOMAN;BABY;CONSTRUCTION WORKER;PRINCESS;JAPANESE OGRE;1 GOBLIN;GHOST",
      "BABY ANGEL;EXTRATERRESTRIAL ALIEN;ALIEN MONSTER;IMP;SKULL;INFORMATION DESK PERSON;GUARDSMAN;DANCER;LIPSTICK",
      "NAIL POLISH;FACE MASSAGE;HAIRCUT;BARBER POLE;SYRINGE;PILL;KISS m;LOVE t;RING;GEM STONE;KISS;BOUQUET",
      "COUPLE w HEART;WEDDING;BEATING HEART;BROKEN 1;TWO HEARTS;SPARKLING HEART;GROWING 1;HEART w a;BLUE HEART",
      "GREEN 1;YELLOW 1;PURPLE 1;HEART w RIBBON;REVOLVING HEARTS;HEART DECORATION;DIAMOND SHAPE w A DOT INSIDE",
      "ELECTRIC LIGHT BULB;ANGER y;BOMB;SLEEPING y;COLLISION 1;SPLASHING SWEAT y;DROPLET;DASH y;PILE OF POO",
      "FLEXED BICEPS;DIZZY y;SPEECH BALLOON;THOUGHT 1;i FLOWER;HUNDRED POINTS y;MONEY BAG;CURRENCY EXCHANGE",
      "h DOLLAR g;CREDIT CARD;BANKNOTE w YEN g;2 DOLLAR 1;2 EURO 1;2 POUND 1;MONEY 1 WINGS",
      "CHART 1 UPWARDS TREND AND YEN g;SEAT;PERSONAL COMPUTER;BRIEFCASE;MINIDISC;FLOPPY DISK;OPTICAL DISC;DVD",
      "FILE FOLDER;OPEN FILE FOLDER;PAGE w CURL;1 FACING UP;CALENDAR;TEAR-OFF CALENDAR;CARD INDEX",
      "CHART w UPWARDS TREND;2 DOWNWARDS 1;BAR CHART;CLIPBOARD;PUSHPIN;ROUND PUSHPIN;PAPERCLIP;STRAIGHT RULER",
      "TRIANGULAR 1;BOOKMARK TABS;LEDGER;NOTEBOOK;1 w DECORATIVE COVER;CLOSED BOOK;OPEN 1;GREEN 1;BLUE 1;ORANGE 1",
      "BOOKS;NAME BADGE;SCROLL;MEMO;TELEPHONE RECEIVER;PAGER;FAX MACHINE;SATELLITE ANTENNA",
      "PUBLIC ADDRESS LOUDSPEAKER;CHEERING MEGAPHONE;OUTBOX TRAY;INBOX 1;PACKAGE;E-MAIL y;INCOMING ENVELOPE",
      "ENVELOPE w DOWNWARDS a ABOVE;CLOSED MAILBOX w LOWERED FLAG;3 RAISED 1;OPEN 4;3 LOWERED 1;POSTBOX;POSTAL HORN",
      "NEWSPAPER;MOBILE PHONE;2 w x a AT l;VIBRATION MODE;MOBILE PHONE OFF;NO MOBILE PHONES;ANTENNA w BARS;CAMERA",
      "1 w FLASH;VIDEO CAMERA;TELEVISION;RADIO;VIDEOCASSETTE;FILM PROJECTOR;PORTABLE STEREO;PRAYER BEADS",
      "TWISTED x ARROWS;CLOCKWISE 1 AND LEFTWARDS OPEN CIRCLE ARROWS;7 w CIRCLED ONE OVERLAY;1 DOWNWARDS 1 UPWARDS 3",
      "ANTICLOCKWISE 6;LOW BRIGHTNESS y;HIGH 2;SPEAKER w CANCELLATION k;1;1 w ONE SOUND WAVE;2 THREE 1 WAVES;BATTERY",
      "ELECTRIC PLUG;LEFT-POINTING MAGNIFYING GLASS;RIGHT-POINTING 2;LOCK w INK PEN;CLOSED LOCK w KEY;KEY;LOCK",
      "OPEN LOCK;BELL;1 w CANCELLATION k;BOOKMARK;LINK y;RADIO BUTTON;BACK w LEFTWARDS a ABOVE;END 4",
      "ON 1 EXCLAMATION m w l r a ABOVE;SOON 1 x a ABOVE;TOP 1 UPWARDS 2;NO ONE UNDER EIGHTEEN y;KEYCAP TEN",
      "INPUT y FOR LATIN c LETTERS;4 s 1;3 NUMBERS;3 SYMBOLS;3 LATIN LETTERS;FIRE;ELECTRIC TORCH;WRENCH;HAMMER",
      "NUT AND BOLT;HOCHO;PISTOL;MICROSCOPE;TELESCOPE;CRYSTAL BALL;SIX POINTED STAR w MIDDLE DOT",
      "JAPANESE y FOR BEGINNER;TRIDENT EMBLEM;b SQUARE BUTTON;i 2;LARGE RED CIRCLE;1 BLUE 1;1 ORANGE DIAMOND",
      "1 BLUE 1;s ORANGE 1;1 BLUE 1;UP-POINTING RED TRIANGLE;DOWN-POINTING 2;UP-POINTING s RED TRIANGLE",
      "DOWN-POINTING 3;LOWER r SHADOWED i CIRCLE;UPPER 4;CIRCLED CROSS POMMEE;CROSS POMMEE w HALF-CIRCLE BELOW;2",
      "NOTCHED l SEMICIRCLE w THREE DOTS;1 r 4;y FOR MARKS CHAPTER;i LATIN CROSS;h 2;CELTIC CROSS;OM y;DOVE OF PEACE",
      "KAABA;MOSQUE;SYNAGOGUE;MENORAH w NINE BRANCHES;BOWL OF HYGIEIA;CLOCK FACE ONE OCLOCK;2 TWO 1;2 THREE 1",
      "2 FOUR 1;2 FIVE 1;2 SIX 1;2 SEVEN 1;2 EIGHT 1;2 NINE 1;2 TEN 1;2 ELEVEN 1;2 TWELVE 1;2 ONE-THIRTY",
      "2 TWO-THIRTY;2 THREE-THIRTY;2 FOUR-THIRTY;2 FIVE-THIRTY;2 SIX-THIRTY;2 SEVEN-THIRTY;2 EIGHT-THIRTY",
      "2 NINE-THIRTY;2 TEN-THIRTY;2 ELEVEN-THIRTY;2 TWELVE-THIRTY;r SPEAKER;2 w ONE SOUND WAVE;3 THREE 1 WAVES",
      "BULLHORN;1 w SOUND WAVES;RINGING BELL;BOOK;CANDLE;MANTELPIECE CLOCK;b SKULL AND CROSSBONES;NO PIRACY;HOLE",
      "MAN IN BUSINESS SUIT LEVITATING;SLEUTH OR SPY;DARK SUNGLASSES;SPIDER;1 WEB;JOYSTICK;MAN DANCING",
      "l HAND TELEPHONE RECEIVER;TELEPHONE RECEIVER w PAGE;r HAND TELEPHONE RECEIVER;i TOUCHTONE 1;b 2",
      "TELEPHONE ON TOP OF MODEM;CLAMSHELL MOBILE PHONE;BACK OF ENVELOPE;STAMPED ENVELOPE;ENVELOPE w LIGHTNING",
      "FLYING ENVELOPE;PEN OVER STAMPED ENVELOPE;LINKED PAPERCLIPS;b PUSHPIN;LOWER l PENCIL;2 BALLPOINT PEN",
      "2 FOUNTAIN 1;2 PAINTBRUSH;2 CRAYON;l WRITING HAND;TURNED OK 1 g;RAISED HAND w FINGERS SPLAYED",
      "REVERSED RAISED HAND w FINGERS SPLAYED;1 THUMBS UP g;2 DOWN 1;1 VICTORY HAND;1 HAND w MIDDLE FINGER EXTENDED",
      "RAISED 2 PART BETWEEN MIDDLE AND RING FINGERS;i DOWN POINTING l HAND INDEX;SIDEWAYS i l POINTING INDEX;2 r 2",
      "1 b l 2;2 r 2;b l POINTING BACKHAND 1;1 r 3;SIDEWAYS i UP POINTING 1;2 DOWN 2;1 b UP 2;2 DOWN 2",
      "b UP POINTING BACKHAND 1;1 DOWN 3;1 HEART;DESKTOP COMPUTER;KEYBOARD AND MOUSE;THREE NETWORKED COMPUTERS",
      "PRINTER;POCKET CALCULATOR;b HARD SHELL FLOPPY DISK;i 4;SOFT SHELL FLOPPY DISK;TAPE CARTRIDGE;WIRED KEYBOARD",
      "ONE BUTTON MOUSE;TWO 2;THREE 2;TRACKBALL;OLD PERSONAL COMPUTER;HARD DISK;SCREEN;PRINTER ICON;FAX 1",
      "OPTICAL DISC ICON;DOCUMENT w TEXT;3 AND PICTURE;2 PICTURE;FRAME 2;2 TILES;2 AN X;b FOLDER;FOLDER;OPEN FOLDER",
      "CARD INDEX DIVIDERS;1 FILE BOX;FILE CABINET;EMPTY NOTE;2 PAGE;2 PAD;NOTE;1 PAGE;1 PAD;EMPTY DOCUMENT;1 PAGE",
      "1 PAGES;DOCUMENT;PAGE;PAGES;WASTEBASKET;SPIRAL NOTE PAD;1 CALENDAR 1;DESKTOP WINDOW;MINIMIZE;MAXIMIZE;OVERLAP",
      "CLOCKWISE r AND l SEMICIRCLE ARROWS;CANCELLATION X;INCREASE FONT SIZE y;DECREASE 3;COMPRESSION;OLD KEY",
      "ROLLED-UP NEWSPAPER;PAGE w CIRCLED TEXT;STOCK CHART;DAGGER KNIFE;LIPS;SPEAKING HEAD IN SILHOUETTE",
      "THREE RAYS ABOVE;2 BELOW;2 l;2 r;l SPEECH BUBBLE;r 2;TWO 1 BUBBLES;THREE 2;l THOUGHT BUBBLE;r 2;l ANGER 1;r 2",
      "MOOD BUBBLE;LIGHTNING MOOD BUBBLE;2;BALLOT BOX w BALLOT;1 SCRIPT X;1 BOX w SCRIPT X;1 BOLD SCRIPT X",
      "1 BOX w BOLD SCRIPT X;LIGHT CHECK m;BALLOT BOX w BOLD CHECK;WORLD MAP;MOUNT FUJI;TOKYO TOWER",
      "STATUE OF LIBERTY;SILHOUETTE 1 JAPAN;MOYAI;GRINNING FACE;2 w SMILING EYES;FACE w TEARS OF JOY",
      "SMILING FACE w OPEN MOUTH;5 AND SMILING EYES;6 COLD SWEAT;6 TIGHTLY-CLOSED EYES;3 HALO;3 HORNS;WINKING 1",
      "SMILING 1 w SMILING EYES;FACE SAVOURING DELICIOUS FOOD;RELIEVED FACE;SMILING 1 w HEART-SHAPED EYES",
      "3 SUNGLASSES;SMIRKING 1;NEUTRAL 1;EXPRESSIONLESS 1;UNAMUSED 1;FACE w COLD SWEAT;PENSIVE FACE;CONFUSED 1",
      "CONFOUNDED 1;KISSING 1;FACE THROWING A KISS;KISSING FACE w SMILING EYES;3 CLOSED 1;FACE w STUCK-OUT TONGUE",
      "4 AND WINKING EYE;5 TIGHTLY-CLOSED EYES;DISAPPOINTED FACE;WORRIED 1;ANGRY 1;POUTING 1;CRYING 1;PERSEVERING 1",
      "FACE w LOOK OF TRIUMPH;DISAPPOINTED BUT RELIEVED FACE;FROWNING FACE w OPEN MOUTH;ANGUISHED 1;FEARFUL 1",
      "WEARY 1;SLEEPY 1;TIRED 1;GRIMACING 1;LOUDLY CRYING FACE;FACE w OPEN MOUTH;HUSHED FACE",
      "FACE w OPEN MOUTH AND COLD SWEAT;1 SCREAMING IN FEAR;ASTONISHED FACE;FLUSHED 1;SLEEPING 1;DIZZY 1",
      "FACE WITHOUT MOUTH;1 w MEDICAL MASK;GRINNING CAT FACE w SMILING EYES;CAT FACE w TEARS OF JOY",
      "SMILING CAT FACE w OPEN MOUTH;4 HEART-SHAPED EYES;CAT FACE w WRY SMILE;KISSING CAT FACE w CLOSED EYES",
      "POUTING 2;CRYING 2;WEARY 2;SLIGHTLY FROWNING 1;1 SMILING 1;UPSIDE-DOWN FACE;FACE w ROLLING EYES",
      "2 NO GOOD GESTURE;2 OK GESTURE;PERSON BOWING DEEPLY;SEE-NO-EVIL MONKEY;HEAR-NO-EVIL 1;SPEAK-NO-EVIL 1",
      "HAPPY PERSON RAISING ONE HAND;PERSON RAISING BOTH HANDS IN CELEBRATION;1 FROWNING;1 w POUTING FACE",
      "2 FOLDED HANDS"]),
   (0x1F680, [
      "ROCKET;HELICOPTER;STEAM LOCOMOTIVE;RAILWAY CAR;HIGH-SPEED TRAIN;2 w BULLET NOSE;TRAIN;METRO;LIGHT RAIL",
      "STATION;TRAM;1 CAR;BUS;ONCOMING BUS;TROLLEYBUS;BUS STOP;MINIBUS;AMBULANCE;FIRE ENGINE;POLICE CAR",
      "ONCOMING POLICE CAR;TAXI;ONCOMING TAXI;AUTOMOBILE;ONCOMING AUTOMOBILE;RECREATIONAL VEHICLE;DELIVERY TRUCK",
      "ARTICULATED LORRY;TRACTOR;MONORAIL;MOUNTAIN RAILWAY;SUSPENSION 1;MOUNTAIN CABLEWAY;AERIAL TRAMWAY;SHIP",
      "ROWBOAT;SPEEDBOAT;o TRAFFIC LIGHT;v 2;CONSTRUCTION g;POLICE CARS REVOLVING LIGHT;TRIANGULAR FLAG ON POST;DOOR",
      "NO ENTRY g;SMOKING y;NO SMOKING y;PUT LITTER IN ITS PLACE y;DO NOT LITTER y;POTABLE WATER y;NON-POTABLE 2",
      "BICYCLE;NO BICYCLES;BICYCLIST;MOUNTAIN BICYCLIST;PEDESTRIAN;NO PEDESTRIANS;CHILDREN CROSSING;MENS y;WOMENS 1",
      "RESTROOM;BABY y;TOILET;WATER CLOSET;SHOWER;BATH;BATHTUB;PASSPORT CONTROL;CUSTOMS;BAGGAGE CLAIM;l LUGGAGE",
      "TRIANGLE w ROUNDED CORNERS;PROHIBITED g;CIRCLED INFORMATION SOURCE;BOYS y;GIRLS 1;COUCH AND LAMP",
      "SLEEPING ACCOMMODATION;SHOPPING BAGS;BELLHOP BELL;BED;PLACE OF WORSHIP;OCTAGONAL g;SHOPPING TROLLEY;STUPA",
      "PAGODA;HINDU TEMPLE;HUT;ELEVATOR"])]

end GirDoc.Text.CharacterName
