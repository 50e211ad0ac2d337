import ApiDocs.Text.Basic
/-!
The table of character names.

`nameTable` lists the names in the order of their code points, `;` between them.  An entry is
`GAP+KWORDS` or `KWORDS`: `GAP` code points without a listed name lie between the name in front and
this one, the name begins with the first `K` words of the one in front, and then come the `WORDS`, of
which small letters stand for a word of `nameWords`: `a` for the first, `z` for the 26th, `aa` for the
27th.  All numbers are hexadecimal.
-/

namespace ApiDocs

/-- The words that are written as small letters. -/
def nameWords : List String :=
  ["WITH LETTER SMALL FORM CAPITAL SIGN AND ARROW RIGHT ABOVE LEFT TWO BELOW FINAL ONE DOUBLE",
   "DOT MARK THREE BLACK ISOLATED WHITE FOUR HOOK STROKE SYMBOL FIVE INITIAL RIGHTWARDS HEAVY",
   "MIDDLE VERTICAL SIX EIGHT TIMES MEEM BAR PLUS LEFTWARDS SEVEN HALF HUNDRED DOWN NINE",
   "BRACKET SQUARE FACE CIRCLE DOTS YEH OVER THOUSAND EQUAL ALEF VOWEL LIGHT INDEX HORIZONTAL",
   "TILDE DIGIT RING DOWNWARDS TRIANGLE LOWER BARB LOW UPWARDS ACUTE MEDIUM HAH MEDIAL ZERO",
   "WEST-CREE UPPER THUMB TONE OPEN TURNED JEEM LONG TEN CIRCUMFLEX DASIA REVERSED PSILI",
   "DIAERESIS HIGH NGA STOP SHA ARROWHEAD TRIANGLE-HEADED LARGE SINGLE GRAVE CHA LINE NYA",
   "INVERTED POINTING MAKSURA MACRON KHA NUMBER ROTATED EAST VARIA OXIA COMMA THA LESS-THAN",
   "NOT GREATER-THAN VOCALIC BLOCK STAR LITTLE CENTRE BREVE HARPOON TAIL PHA CIRCLED KHAH WEST",
   "OLD ORNAMENT DEGREES ANGLE GUNU LATIN SHORT FULL ANUSVARA TTA DDA NORTH DHA NUN GHA",
   "ASTERISK TRIPLE CROSS DIAGONAL CARON ASH NNA PERISPOMENI OPERATOR BHA PUNCTUATION SOUTH",
   "PARENTHESIS RETROFLEX TTHA TOP VIRAMA TWENTY DASH TENU DESCENDER DIAMOND DDHA SSA",
   "COMBINING ACCENT NOON YPOGEGRAMMENI DOTTED NINETY OMEGA FOR WAW THE LAM VISARGA HAMZA JHA",
   "POINTED SQUARED EQUALS CLOSED SEVENTY HORN TACK SHE LIGATURE QUARTER ALPHA FIFTY AIN",
   "BOTTOM CORNER CHESS CANDRABINDU CROSSING HITTING COLON IOTA FROM HAND REH QUOTATION",
   "MODIFIER DANDA SHIN BENT END KAF TSA HAND-FIST QUESTION CEDILLA PALATAL ORKHON HEART BOLD",
   "YUS HEH PROSGEGRAMMENI UPSILON GLOTTAL DIGRAPH YENISEI KNIGHT VERY TAH EIGHTH SEEN RHO LLA",
   "GAR BOX NEO EXCLAMATION EPSILON RAISED SUBSET CURLY SIGMA MOON SIDE QAF IGI UNDERBAR",
   "COPTIC GREEK THETA NUKTA RIGHT-POINTING EQUILATERAL SEPARATOR STRAIGHT SUPERSET SOLIDUS",
   "SECTION FINGERS SCRIPT SHELL SANS-SERIF CONSONANT ALTERNATE OVERLAY DAGESH DISH TRIANGULAR",
   "VARIANT SLANTED NEUTRAL THIRTY SPACE GAMMA SHAFT CURL WAVE LEAF REVERSE MOUTH EYES",
   "LEFT-POINTING DELTA NOTE HAND-HINGE CONJOINED FRACTION INTEGRAL ARCHAION ARCHAIC ARABIC",
   "INSIDE TONOS SHEEN BETA HEAD ANTICLOCKWISE ABBREVIATION ALTERNATING TORTOISE OMICRON",
   "INSULAR SPOKED MINUS KAPPA FORTY CURVE LOOP KING REST GAN2 INTERSECTION HAND-CIRCLE",
   "BETWEEN SMILING FORWARD HEARTS GHAIN SIXTY SOUND UNION ALEPH BETH IOTIFIED AVAGRAHA",
   "SYLLABLE ALMOST SAMEKH ARROWS PERSON HINGED GIMEL SLASH QUEEN KOMI KAPH SHAD TAK4 GISH",
   "C-SIMPLIFIED IDEOGRAPHIC EQUIVALENT QUARTERS NEGATIVE QUADRANT OBLIQUE EIGHTHS OGONEK",
   "CANDRA LENGTH EIGHTY LAMEDH SADHE SHADE ZAIN HETH WORD TSHA KOET YODH UP-POINTING",
   "DIALYTIKA CYRILLIC DIAMONDS DOTLESS THROUGH BULLET TWELVE SPADES LAMDA ZAYIN EARTH CLUBS",
   "SOFT QUAD FILL SUPERSCRIPT CLOCKWISE MULTIPLE PRECEDES SUCCEEDS SHADOWED PRODUCT LOGICAL",
   "OVERBAR LOZENGE CROSSED CIRCLES RISING DASHED SPREAD POINT KASRA THIRD WATER ICHOS",
   "MOVEMENT-FLOORPLANE MOVEMENT-WALLPLANE DOWN-POINTING HAND-ANGLE SEMICOLON TELEPHONE",
   "NOTEHEAD MUSICAL KRYZHEM POVYSHE HYPHEN Y-CREE TEDUNG ELEVEN BISHOP KASKAL OCLOCK PRIME",
   "ROUND FATHA RTAGS CHECK LAGAB WRIST MULTIPLICATION DOUBLE-STRUCK SIMALUNGUN TWO-HEADED",
   "QUADRUPLE KATAKANA CARRIER FIFTEEN SALTIRE ITALIC CURVED CLICK TSHEG MURDA ARABIC-INDIC",
   "MAHAAPRAANA ALPAPRAANA LEFT-STEM TWELFTHS NUMERAL ROUNDED SIXTEEN NASKAPI SVARITA ELEMENT",
   "INVERSE BARRED VOICED LUNATE TONE-2 TONE-5 NORMAL BESIDE DALETH SCHWA DAMMA CARET BIRGA",
   "FLOOR SHAR2 CRYPTOGRAMMIC CROSSED-TAIL APOSTROPHE CHARACTERS CHARACTER ITERATION SIDEWAYS",
   "EIGHTEEN ENVELOPE PINWHEEL CEILING NOTCHED LARGEST BAMBOOS TONE-3 HANGUL FILLER SAYISI",
   "THIRDS NUBIAN BUBBLE INDEPENDENT LENTICULAR COMPRESSED AMPERSAND INDICATOR THOUSANDS",
   "ABKHASIAN MAHAPRANA TURNSTILE EXTENSION SEVENTEEN DIALECT-P CRESCENTS ZAPYATAYA DIVISION",
   "OVERLINE EXTENDED ELLIPSIS CONTAINS PARALLEL SUBGROUP NOTATION THIRTEEN FOURTEEN NINETEEN",
   "MOUNTAIN OPPOSING SVETLAYA DODEKATA MOVEMENT BACKHAND CENTRED CHIEUCH KHIEUKH THIEUTH",
   "PHIEUPH SUBUNIT STATERS SHESHIG ZIGZAG MARKER KIYEOK TIKEUT PAIRED DRAGON LONSUM SECANT",
   "FINGER TEARDROP-SPOKED KLYUCHEVAYA VERTICALLY CONTAINING SUBSCRIPT BACKSLASH RECTANGLE",
   "FISHHOOK MILLIONS PLASTICS OUTLINED JAPANESE AIRPLANE HAND-CUP WRINKLED SIDDHAM FALLING",
   "SIMILAR TALENTS DOLLAR JOINER WITHIN POWERS TONE-4 BALLOT TUAREG SECOND SPEECH TONGUE",
   "FOLDER MATHEMATICAL DIFFERENTIAL SUBSTITUTION JIHVAMULIYA UPADHMANIYA SINGLE-LINE",
   "DOUBLE-LINE EQUIHOPPER SIXTEENTH SUBJOINED HAND-HOOK EXTREMELY FATHATAN ATTACHED INFINITY",
   "CRESCENT MONOGRAM SCISSORS HIRAGANA THESPIAN KHOKHLOM ZAPYATOY ANTIMONY DIGAMMA IZHITSA",
   "PARTIAL CORNERS IOTATED DIVIDER HOLDING VOLAPUK MEASURE BARLINE CONTACT",
   "ROTATION-FLOORPLANE ROTATION-WALLPLANE KATAKANA-HIRAGANA NEPOSTOYANNAYA LEFT-TO-RIGHT",
   "APPROXIMATELY BLACK-LETTER INTERROBANG COMMERCIAL GEMINATION SEMICIRCLE SEMIDIRECT",
   "PARAGRAPH VARIATION KENTIMATA HAND-OVAL SUBLIMATE CURRENCY ARMENIAN DAMMATAN KASRATAN",
   "ANUDATTA CIRCULAR GEORGIAN MEASURED ORIGINAL KEYBOARD UMBRELLA PENTAGON U-SHAPED FLOURISH",
   "LOGOGRAM IDEOGRAM BUILDING ONCOMING CENTRALIZATION RIGHT-SHADOWED GROMOPOVODNAYA",
   "RIGHT-TO-LEFT PARENTHESIZED EGYPTOLOGICAL HAND-CURLICUE HYPHEN-MINUS RIGHT-FACING",
   "CANCELLATION RIEUL-KIYEOK MIDDLE-WELSH J-SIMPLIFIED LEFT-FACING SSANGKIYEOK SSANGTIKEUT",
   "RIEUL-HIEUH NIEUN-CIEUC NIEUN-HIEUH RIEUL-MIEUM RIEUL-PIEUP APPROXIMATE TWENTY-FIVE",
   "TRESVETLAYA EKFONITIKON FINGER-POST EXTRA-HIGH SIXTEENTHS SSANGPIEUP SSANGCIEUC PIEUP-SIOS",
   "RIEUL-SIOS ARROW-TAIL ARROWHEADS SIMPLIFIED LENGTHENER NIKOLSBURG SEQUENTIAL SILHOUETTE",
   "EXTRA-LOW DELIMITER SSANGSIOS PIEUP-SIOS-TIKEUT EYEGAZE-WALLPLANE KAPYEOUNPHIEUPH",
   "BALLOON-SPOKED PRISHTHAMATRA KAPYEOUNMIEUM KAPYEOUNPIEUP RIEUL-THIEUTH RIEUL-PHIEUPH",
   "PERPENDICULAR TRANSPOSITION THIRTY-SECOND NASALIZATION NIEUN-TIKEUT PIEUP-TIKEUT",
   "RIEUL-TIKEUT RIGHT-SHADED FRONT-TILTED SEMICIRCULAR PRESENTATION SIXTY-FOURTH DVOECHELNAYA",
   "CONSTRUCTION ONE-HUNDRED-AND-SIXTIETH BYELORUSSIAN-UKRAINIAN KLYUCHENEPOSTOYANNAYA",
   "RIEUL-KAPYEOUNPIEUP DVOECHELNOPOVODNAYA KAPYEOUNSSANGPIEUP EYEGAZE-FLOORPLANE",
   "PIEUP-SIOS-KIYEOK RIEUL-KIYEOK-SIOS RIEUL-YEORINHIEUH RIEUL-SSANGKIYEOK"]

/-- The names in the order of their code points. -/
def nameTable : List String :=
  ["20+0jk;0ia r;0gu r;0cz f;0ua f;0PERCENT f;0ro;0qs;0k ew;0i ew;0ek;0al f;0de;0xj;0ec ck;0iu",
   "0bh bt;1o;1l;1s;1w;1aa;1ag;1an;1ah;1ar;0gp;0oi;0dg f;0fy f;0di f;0hd r;0wb AT;0ea e b A;3B;3C",
   "3D;3E;3F;3G;3H;3I;3J;3K;3L;3M;3N;3O;3P;3Q;3R;3S;3T;3U;3V;3W;3X;3Y;3Z;0k at as;0jq iu;0i at as",
   "0cd fj;0bn cs;0cq fj;0ea c b A;3B;3C;3D;3E;3F;3G;3H;3I;3J;3K;3L;3M;3N;3O;3P;3Q;3R;3S;3T;3U;3V",
   "3W;3X;3Y;3Z;0k ie as;0af cs;0i ie as;0bg;21+0NO-BREAK jk;0cu ia r;0CENT f;0POUND f;0wk f",
   "0YEN f;0BROKEN ak;0iv f;0ch;0COPYRIGHT f;0FEMININE ORDINAL rp;0jt p dy gu r;0dh f;0nh oo",
   "0REGISTERED f;0cx;0DEGREE f;0PLUS-MINUS f;0nk l;1s;0bp fj;0MICRO f;0PILCROW f;0ae q;0he;0nk o",
   "0MASCULINE ORDINAL rp;0ip p dy gu r;0VULGAR jy o gf;3ao;2s mc;0cu hd r;0ea e b A a cq;5bp;5cd",
   "5bg;5ch;5bi j;3AE;3C a he;3E a cq;5bp;5cd;5ch;3I a cq;5bp;5cd;5ch;3ETH;3N a bg;3O a cq;5bp;5cd",
   "5bg;5ch;0pc f;0ea e b O a y;3U a cq;5bp;5cd;5ch;3Y a bp;3THORN;1c b SHARP S;3A a cq;5bp;5cd",
   "5bg;5ch;5bi j;3AE;3C a he;3E a cq;5bp;5cd;5ch;3I a cq;5bp;5cd;5ch;3ETH;3N a bg;3O a cq;5bp;5cd",
   "5bg;5ch;0rz f;0ea c b O a y;3U a cq;5bp;5cd;5ch;3Y a bp;3THORN;3Y a ch;1e b A a cx;1c b A a cx",
   "1e b A a do;1c b A a do;1e b A a mh;1c b A a mh;1e b C a bp;1c b C a bp;1e b C a cd",
   "1c b C a cd;1e b C a q j;1c b C a q j;1e b C a eo;1c b C a eo;1e b D a eo;1c b D a eo",
   "1e b D a y;1c b D a y;1e b E a cx;1c b E a cx;1e b E a do;1c b E a do;1e b E a q j",
   "1c b E a q j;1e b E a mh;1c b E a mh;1e b E a eo;1c b E a eo;1e b G a cd;1c b G a cd",
   "1e b G a do;1c b G a do;1e b G a q j;1c b G a q j;1e b G a he;1c b G a he;1e b H a cd",
   "1c b H a cd;1e b H a y;1c b H a y;1e b I a bg;1c b I a bg;1e b I a cx;1c b I a cx;1e b I a do",
   "1c b I a do;1e b I a mh;1c b I a mh;1e b I a q j;1c b my I;1e ge IJ;1c ge IJ;1e b J a cd",
   "1c b J a cd;1e b K a he;1c b K a he;3KRA;1e b L a bp;1c b L a bp;1e b L a he;1c b L a he",
   "1e b L a eo;1c b L a eo;1e b L a ae q;1c b L a ae q;1e b L a y;1c b L a y;1e b N a bp",
   "1c b N a bp;1e b N a he;1c b N a he;1e b N a eo;1c b N a eo;4PRECEDED BY qs;1e b ENG;1c b ENG",
   "1e b O a cx;1c b O a cx;1e b O a do;1c b O a do;1e b O a p bp;1c b O a p bp;1e ge OE;1c ge OE",
   "1e b R a bp;1c b R a bp;1e b R a he;1c b R a he;1e b R a eo;1c b R a eo;1e b S a bp",
   "1c b S a bp;1e b S a cd;1c b S a cd;1e b S a he;1c b S a he;1e b S a eo;1c b S a eo",
   "1e b T a he;1c b T a he;1e b T a eo;1c b T a eo;1e b T a y;1c b T a y;1e b U a bg;1c b U a bg",
   "1e b U a cx;1c b U a cx;1e b U a do;1c b U a do;1e b U a bi j;1c b U a bi j;1e b U a p bp",
   "1c b U a p bp;1e b U a mh;1c b U a mh;1e b W a cd;1c b W a cd;1e b Y a cd;1c b Y a cd",
   "1e b Y a ch;3Z a bp;1c b Z a bp;1e b Z a q j;1c b Z a q j;1e b Z a eo;1c b Z a eo;3cb S;3B a y",
   "1e b B a x;5TOPBAR;1c b B a TOPBAR;1e b bx ag;1c b bx ag;1e b by O;3C a x;1c b C a x",
   "1e b AFRICAN D;3D a x;5TOPBAR;1c b D a TOPBAR;3bz ju;1e b cf E;3qk;3by E;3F a x;1c b F a x",
   "1e b G a x;3jl;1c b HV;1e b gq;3I a y;3K a x;1c b K a x;3L a ak;3LAMBDA a y;1e b bz M;3N a k x",
   "1c b N a cb i LEG;1e b O a ae bg;5gb;1c b O a gb;1e b OI;1c b OI;1e b P a x;1c b P a x;1b YR",
   "1e b bx l;1c b bx l;1e b ESH;1b cf ESH kt;1c b T a hf x;1e b T a x;1c b T a x;1e b T a ex x",
   "3U a gb;1c b U a gb;1e b hm;3V a x;3Y a x;1c b Y a x;1e b Z a y;1c b Z a y;1e b EZH;4cf",
   "1c b EZH cf;4a dq;1b l a y;1e b bx aa;1c b bx aa;1b cu hn ck a y;2WYNN;2DENTAL pn;2LATERAL pn",
   "2ALVEOLAR pn;2ex pn;1e b DZ a eo;3D a c b Z a eo;1c b DZ a eo;1e b LJ;3L a c b J;1c b LJ",
   "1e b NJ;3N a c b J;1c b NJ;1e b A a eo;1c b A a eo;1e b I a eo;1c b I a eo;1e b O a eo",
   "1c b O a eo;1e b U a eo;1c b U a eo;1e b U a ch g cx;1c b U a ch g cx;1e b U a ch g bp",
   "1c b U a ch g bp;1e b U a ch g eo;1c b U a ch g eo;1e b U a ch g cq;1c b U a ch g cq;3bz E",
   "1e b A a ch g cx;1c b A a ch g cx;1e b A a q j g cx;1c b A a q j g cx;1e b AE a cx",
   "1c b AE a cx;1e b G a y;1c b G a y;1e b G a eo;1c b G a eo;1e b K a eo;1c b K a eo;1e b O a mh",
   "1c b O a mh;1e b O a mh g cx;1c b O a mh g cx;1e b EZH a eo;1c b EZH a eo;3J a eo;1e b DZ",
   "3D a c b Z;1c b DZ;1e b G a bp;1c b G a bp;1e b HWAIR;3WYNN;3N a cq;1c b N a cq",
   "1e b A a bi j g bp;1c b A a bi j g bp;1e b AE a bp;1c b AE a bp;1e b O a y g bp",
   "1c b O a y g bp;1e b A a p cq;1c b A a p cq;1e b A a cu do;1c b A a cu do;1e b E a p cq",
   "1c b E a p cq;1e b E a cu do;1c b E a cu do;1e b I a p cq;1c b I a p cq;1e b I a cu do",
   "1c b I a cu do;1e b O a p cq;1c b O a p cq;1e b O a cu do;1c b O a cu do;1e b R a p cq",
   "1c b R a p cq;1e b R a cu do;1c b R a cu do;1e b U a p cq;1c b U a p cq;1e b U a cu do",
   "1c b U a cu do;1e b S a de m;1c b S a de m;1e b T a de m;1c b T a de m;1e b YOGH;1c b YOGH",
   "1e b H a eo;1c b H a eo;1e b N a cb i LEG;1c b D a jn;1e b OU;1c b OU;1e b Z a x;1c b Z a x",
   "1e b A a q j;1c b A a q j;1e b E a he;1c b E a he;1e b O a ch g cx;1c b O a ch g cx",
   "1e b O a bg g cx;1c b O a bg g cx;1e b O a q j;1c b O a q j;1e b O a q j g cx",
   "1c b O a q j g cx;1e b Y a cx;1c b Y a cx;3L a jn;3N a jn;3T a jn;3my J;3DB ho;3QP ho",
   "1e b A a y;3C a y;1c b C a y;1e b L a ak;3T a en y;1c b S a SWASH dq;3Z a SWASH dq;1e b hn ck",
   "1c b hn ck;1e b B a y;3U ak;3bz V;3E a y;1c b E a y;1e b J a y;1c b J a y;1e b c Q a x dq",
   "1c b Q a x dq;1e b R a y;1c b R a y;1e b Y a y;1c b Y a y;3bz A;3gg;3bz gg;3B a x;3by O",
   "3C a jn;3D a dq;5x;3cf E;3qk;4a x;3by E;3cf by E;6a x;3fz cf by E;3my J a y;3G a x;3ix G",
   "1b c e G;1c b jl;3RAMS gb;3bz H;3H a x;3HENG a x;3I a y;3gq;1b c e I;1c b L a ae bg;5BELT",
   "5ex x;3LEZH;3bz M;5a cb LEG;3M a x;3N a k x;5ex x;1b c e N;1c b qc O;1b c e OE;1c b fz fo;3PHI",
   "3bz R;5a cb LEG;6x;3R a cb LEG;5dq;5to;3cf R a to;1b c e R;4cu R;1c b S a x;3ESH;3my J a y g x",
   "3SQUAT cf ESH;3ESH a jn;3bz T;3T a ex x;3U ak;3hm;3V a x;3bz V;4W;4Y;1b c e Y;1c b Z a ex x",
   "5jn;3EZH;4a jn;1b hn ck;2PHARYNGEAL qd FRICATIVE;2cu hn ck;2STRETCHED C;2BILABIAL pn;2c e B",
   "1c b fz by E;1b c e G a x;4H;1c b J a qr;3bz K;1b c e L;1c b Q a x;1b hn ck a y;2cf hn ck a y",
   "1c b DZ ho;3DEZH ho;3DZ ho a jn;3TS ho;3TESH ho;3TC ho a jn;3FENG ho;3LS ho;3LZ ho",
   "1b BILABIAL PERCUSSIVE;2BIDENTAL PERCUSSIVE;1c b bz H a to;7g dq;0gv b c H;4a x;3J;3R;3bz R",
   "5a x;3e cu R;3W;3Y;2ov;2p ov;2bz de;2qs;2cf de;2i ao bi;2k ao bi;2hn ck;2cf hn ck;2k cm;2i cm",
   "2UP cm;2aq cm;2cd fj;0eo;0gv b af cs;2cx;2bp fj;2cq fj;2bn af cs;3cx;3cq fj;3bp fj;2jf gp",
   "2ao jf gp;2sq i ao bi;3k ao bi;2UP gc;2aq gc;2al f;2kp f;0do;0q j;0bi j;0mh;0c bg;0p bp fj",
   "0gv b RHOTIC x;2em fj;2c jl;3L;3S;3X;3cf hn ck;2yc bx ak;2ci bx ak;2MID bx ak;2bn bx ak",
   "2yp bx ak;2YIN DEPARTING bx r;2YANG DEPARTING bx r;2VOICING;2UNASPIRATED;2p qs;2bn aq cm",
   "3UP cm;3k cm;3i cm;3bi;2ae cq fj;3p cq fj;4bp fj;2bn bg;2ic gp;2BEGIN ci bx;2gz ci bx",
   "2BEGIN bn bx;2gz bn bx;2SHELF;2by SHELF;2bn k h;0fi cq fj;1bp fj;1cd fj;1bg;1cx;1sa;1do;1q j",
   "1ch;1x j;1bi j;1p bp fj;1eo;1af cs j;1p af cs j;2cq fj;1gm;1cu do;1bz de j;1de j;1cf de j",
   "1de j i;1cq fj m;1bp fj m;1k gc m;1i gc m;1k dy j;1gb;1k ao bi m;1UP gc m;1aq gc m;1al f m",
   "1kp f m;1PALATALIZED x m;1ex x m;1q m;1ch m;1bi m;1de m;1he;1mh;1af cs m;1BRIDGE m",
   "1cu p ARCH m;1eo m;1cd fj m;1do m;1cu do m;1bg m;1cx m;1bn cs;1p bn cs;1bg jc;1eb y jc",
   "1cb y jc;1eb iu jc;1cb iu jc;1i ao bi m;1cu BRIDGE m;1at m;1SEAGULL m;1X j;1af bg;1p sa",
   "1cq bx r;1bp bx r;1im er;2KORONIS;2mv ke;2fl;1BRIDGE j;1fy f m;1p af cs m;1k dy m;1dh bg j",
   "1HOMOTHETIC j;1lm ba TO j;1k i h m;1bo h m;1GRAPHEME ub;1i cm j;1k ao bi j;1FERMATA;1X m",
   "1k cm m;1i cm m;3g UP cm m;2ao bi j;1q j i;1ek m;1p bi m;1sy j;1p do m;2do;2cx;3m;2bg;2cu do",
   "2ac h m;1ea c b A;4E;4I;4O;4U;4C;4D;4H;4M;4R;4T;4V;4X;0im e b HETA;1c b HETA;1e b kb SAMPI",
   "1c b kb SAMPI;1pv f;1bl pv f;1e b PAMPHYLIAN vi;1c b PAMPHYLIAN vi;2+1fl;1c cf qe if z",
   "2fm qe if z;2cf fm qe if z;1hd r;1e b YOT;4+1ke;1mv ke;1e b gg a ke;1ANO TELEIA;1e b ib a ke",
   "3ETA a ke;3gq a ke;1+3km a ke;1+3hm a ke;3fo a ke;1c b gq a mv g ke;1e b gg;3kg;3jl;3ju;3ib",
   "3ZETA;3ETA;3in;3gq;3kq;3nd;3MU;3NU;3XI;3km;3PI;3hv;1+3if;3TAU;3hm;3PHI;3CHI;3PSI;3fo;3gq a mv",
   "3hm a mv;1c b gg a ke;3ib a ke;3ETA a ke;3gq a ke;3hm a mv g ke;3gg;3kg;3jl;3ju;3ib;3ZETA;3ETA",
   "3in;3gq;3kq;3nd;3MU;3NU;3XI;3km;3PI;3hv;3n if;3if;3TAU;3hm;3PHI;3CHI;3PSI;3fo;3gq a mv",
   "3hm a mv;3km a ke;3hm a ke;3fo a ke;1e KAI z;1kg z;1in z;1hm a x z;3bp g x z;3ch g x z;1PHI z",
   "1PI z;1KAI z;1b kb KOPPA;1c b kb KOPPA;1b STIGMA;1c b STIGMA;1b vi;1c b vi;1b KOPPA;1c b KOPPA",
   "1b SAMPI;1c b SAMPI;0il e b SHEI;1c b SHEI;1e b FEI;1c b FEI;1e b KHEI;1c b KHEI;1e b HORI",
   "1c b HORI;1e b GANGIA;1c b GANGIA;1e b SHIMA;1c b SHIMA;1e b DEI;1c b DEI;0im kq z;1hv z",
   "1qe if z;1b YOT;1e in z;1qe ib z;1cf qe ib z;1e b SHO;1c b SHO;1e qe if z;2b SAN;1c b SAN",
   "1hv a y z;1e cf qe if z;2fm qe if z;2cf fm qe if z;0mw e b IE a cq;3IO;3DJE;3GJE;3UKRAINIAN IE",
   "3DZE;3zq I;3YI;3JE;3LJE;3NJE;3TSHE;3KJE;3I a cq;3eb U;3DZHE;3A;3BE;3VE;3GHE;3DE;3IE;3ZHE;3ZE",
   "3I;3eb I;3KA;3EL;3EM;3EN;3O;3PE;3ER;3ES;3TE;3U;3EF;3HA;3TSE;3CHE;3cl;3SHCHA;3HARD f;3YERU",
   "3nh f;3E;3YU;3YA;1c b A;3BE;3VE;3GHE;3DE;3IE;3ZHE;3ZE;3I;3eb I;3KA;3EL;3EM;3EN;3O;3PE;3ER;3ES",
   "3TE;3U;3EF;3HA;3TSE;3CHE;3cl;3SHCHA;3HARD f;3YERU;3nh f;3E;3YU;3YA;3IE a cq;3IO;3DJE;3GJE",
   "3UKRAINIAN IE;3DZE;3zq I;3YI;3JE;3LJE;3NJE;3TSHE;3KJE;3I a cq;3eb U;3DZHE;1e b fo;1c b fo",
   "1e b YAT;1c b YAT;1e b lj E;1c b lj E;1e b dm hj;1c b dm hj;1e b lj dm hj;1c b lj dm hj",
   "1e b BIG hj;1c b BIG hj;1e b lj BIG hj;1c b lj BIG hj;1e b KSI;1c b KSI;1e b PSI;1c b PSI",
   "1e b FITA;1c b FITA;1e b vj;1c b vj;1e b vj a p cq fj;1c b vj a p cq fj;1e b UK;1c b UK",
   "1e b ow fo;1c b ow fo;1e b fo a TITLO;1c b fo a TITLO;1e b OT;1c b OT;1e b KOPPA;1c b KOPPA",
   "1rq f;0fi mw TITLO;2PALATALIZATION;2ce PNEUMATA;2cg PNEUMATA;2POKRYTIE;2ap rq f;2tp f",
   "0mw e b eb I a dq;1c b eb I a dq;1e b SEMISOFT f;1c b SEMISOFT f;1e b ER a TICK;1c b ER a TICK",
   "1e b GHE a UPTURN;1c b GHE a UPTURN;1e b GHE a y;1c b GHE a y;1e b GHE a ae x;1c b GHE a ae x",
   "1e b ZHE a fe;1c b ZHE a fe;1e b ZE a fe;1c b ZE a fe;1e b KA a fe;1c b KA a fe;1e b KA a af y",
   "1c b KA a af y;1e b KA a y;1c b KA a y;1e b BASHKIR KA;1c b BASHKIR KA;1e b EN a fe",
   "1c b EN a fe;1e ge EN GHE;1c ge EN GHE;1e b PE a ae x;1c b PE a ae x;1e b rr HA;1c b rr HA",
   "1e b ES a fe;1c b ES a fe;1e b TE a fe;1c b TE a fe;1e b is U;1c b is U;1e b is U a y",
   "1c b is U a y;1e b HA a fe;1c b HA a fe;1e ge TE TSE;1c ge TE TSE;1e b CHE a fe;1c b CHE a fe",
   "1e b CHE a af y;1c b CHE a af y;1e b SHHA;1c b SHHA;1e b rr CHE;1c b rr CHE;1e b rr CHE a fe",
   "1c b rr CHE a fe;1b PALOCHKA;1e b ZHE a do;1c b ZHE a do;1e b KA a x;1c b KA a x;1e b EL a dq",
   "1c b EL a dq;1e b EN a x;1c b EN a x;1e b EN a dq;1c b EN a dq;1e b KHAKASSIAN CHE",
   "1c b KHAKASSIAN CHE;1e b EM a dq;1c b EM a dq;3PALOCHKA;1e b A a do;1c b A a do;1e b A a ch",
   "1c b A a ch;1e ge A IE;1c ge A IE;1e b IE a do;1c b IE a do;1e b qk;1c b qk;1e b qk a ch",
   "1c b qk a ch;1e b ZHE a ch;1c b ZHE a ch;1e b ZE a ch;1c b ZE a ch;1e b rr DZE;1c b rr DZE",
   "1e b I a cx;1c b I a cx;1e b I a ch;1c b I a ch;1e b O a ch;1c b O a ch;1e b qc O;1c b qc O",
   "1e b qc O a ch;1c b qc O a ch;1e b E a ch;1c b E a ch;1e b U a cx;1c b U a cx;1e b U a ch",
   "1c b U a ch;1e b U a p bp;1c b U a p bp;1e b CHE a ch;1c b CHE a ch;1e b GHE a fe",
   "1c b GHE a fe;1e b YERU a ch;1c b YERU a ch;1e b GHE a y g x;1c b GHE a y g x;1e b HA a x",
   "1c b HA a x;1e b HA a y;1c b HA a y;1e b lu DE;1c b lu DE;1e b lu DJE;1c b lu DJE;1e b lu ZJE",
   "1c b lu ZJE;1e b lu DZJE;1c b lu DZJE;1e b lu LJE;1c b lu LJE;1e b lu NJE;1c b lu NJE",
   "1e b lu SJE;1c b lu SJE;1e b lu TJE;1c b lu TJE;1e b cf ZE;1c b cf ZE;1e b EL a x;1c b EL a x",
   "1e b LHA;1c b LHA;1e b RHA;1c b RHA;1e b YAE;1c b YAE;1e b QA;1c b QA;1e b WE;1c b WE",
   "1e b ALEUT KA;1c b ALEUT KA;1e b EL a ae x;1c b EL a ae x;1e b EN a ae x;1c b EN a ae x",
   "1e b PE a fe;1c b PE a fe;1e b SHHA a fe;1c b SHHA a fe;1e b EN a k x;1c b EN a k x;1e b DZZHE",
   "1c b DZZHE;1e b DCHE;1c b DCHE;1e b EL a fe;1c b EL a fe;1+0wl e b AYB;3BEN;3GIM;3DA;3ECH;3ZA",
   "3EH;3ET;3TO;3ZHE;3INI;3LIWN;3XEH;3CA;3KEN;3HO;3JA;3GHAD;3CHEH;3MEN;3YI;3NOW;3cl;3VO;3cr;3PEH",
   "3JHEH;3RA;3SEH;3VEW;3TIWN;3gt;3CO;3YIWN;3PIWR;3KEH;3OH;3FEH;2+1gv b k ao bi;1qs;1EMPHASIS r",
   "1ia r;1de;1hd r;1kj r;1c b bz AYB;3AYB;3BEN;3GIM;3DA;3ECH;3ZA;3EH;3ET;3TO;3ZHE;3INI;3LIWN;3XEH",
   "3CA;3KEN;3HO;3JA;3GHAD;3CHEH;3MEN;3YI;3NOW;3cl;3VO;3cr;3PEH;3JHEH;3RA;3SEH;3VEW;3TIWN;3gt;3CO",
   "3YIWN;3PIWR;3KEH;3OH;3FEH;2ge ECH YIWN;2b YI a y;1ec ck;1oo;2+0xk wl ETERNITY f",
   "0xp wl ETERNITY f;0wl DRAM f;1+0HEBREW fj ETNAHTA;2SEGOL;2SHALSHELET;2ZAQEF QATAN;3GADOL",
   "2TIPEHA;2REVIA;2ZARQA;2PASHTA;2YETIV;2TEVIR;2GERESH;3MUQDAM;2GERSHAYIM;2QARNEY PARA",
   "2TELISHA GEDOLA;2PAZER;2ATNAH HAFUKH;2MUNAH;2MAHAPAKH;2MERKHA;3KEFULA;2DARGA;2QADMA",
   "2TELISHA QETANA;2YERAH BEN YOMO;2OLE;2ILUY;2DEHI;2ZINOR;1r MASORA av;1nz SHEVA;2HATAF SEGOL",
   "3PATAH;3QAMATS;2HIRIQ;2TSERE;2SEGOL;2PATAH;2QAMATS;2HOLAM;3HASER fp VAV;2QUBUTS;2jd OR MAPIQ",
   "2METEG;1eu MAQAF;1nz RAFE;1eu PASEQ;1nz gx q;2SIN q;1eu SOF PASUQ;1r bv q;2bl q;1eu ei HAFUKHA",
   "1nz QAMATS QATAN;8+1b bb;2BET;2lr;2DALET;2HE;2VAV;2ne;2HET;2TET;2YOD;2n ha;2ha;2LAMED;2n MEM",
   "2MEM;2n ei;2ei;2ln;2AYIN;2n PE;2PE;2n TSADI;2TSADI;2QOF;2RESH;2gx;2TAV;4+1YOD bk",
   "1ge YIDDISH p VAV;3VAV YOD;3p YOD;1eu GERESH;2GERSHAYIM;B+0kc cz f;1f SANAH;1FOOTNOTE sz",
   "1f SAFHA;2SAMVAT;1cz r j;0pq CUBE ROOT;1FOURTH ROOT;0kc RAY;0pq PER MILLE f;2cc az f",
   "0AFGHANI f;0kc de;1DATE ir;1POETIC VERSE f;1f MISRA;2SALLALLAHOU ALAYHE WASSALLAM",
   "2ALAYHE ASSALLAM;2RAHMATULLAH ALAYHE;2RADI ALLAHOU ANHU;2TAKHALLUS;1c ci hs;3ge bb a fs a ax",
   "3mo;2ox;2ql;2oa;1oi;1b r;1gz OF TEXT r;1el q eu r;1hd r;1b KASHMIRI ax;2fu;2bb a MADDA j;4fu j",
   "2fq a fu j;2bb a fu m;2ax a fu j;2bb;2BEH;2TEH MARBUTA;2TEH;2THEH;2ca;2br;2dt;2DAL;2THAL;2gt",
   "2mo;2hu;2kf;2SAD;2DAD;2hs;2ZAH;2gi;2ld;2KEHEH a l aw j;4s aw m;2FARSI ax a cu V;5l aw j",
   "5s aw j;1TATWEEL;1b FEH;2ii;2ha;2fs;2aj;2fk;2hk;2fq;2bb cw;2ax;1ux;1wm;1wn;1ox;1ql;1oa;1SHADDA",
   "1SUKUN;1MADDAH j;1fu j;2m;1tl bb;1cu ql;1r fk GHUNNA;1ZWARAKAY;1bc f c V j;3cu c V j;3q m",
   "1cf ql;1ox a l aw;1WAVY fu m;0pq bh bt;2o;2l;2s;2w;2aa;2ag;2an;2ah;2ar;0kc PERCENT f",
   "1DECIMAL ir;1rq ir;1aa fw dl;1b my BEH;3ii;2nk bb;2bb WASLA;3a WAVY fu j;6m;2ci fu;4bb;4fq",
   "2U a fu j;2ci fu ax;2TTEH;2TTEHEH;2BEEH;2TEH a bi;4s aw j bj;2PEH;2TEHEH;2BEHEH;2br a fu j",
   "4l aw af j;2NYEH;2DYEH;2br a s aw j;2TCHEH;2TCHEHEH;2DDAL;2DAL a bi;4q m;6g c hs;2DAHAL",
   "2DDAHAL;2DUL;2DAL a s aw j bj;4w aw j;2RREH;2gt a c V;4bi;4q m;4c V m;4q m g q j;4l aw j;2JEH",
   "2gt a w aw j;2hu a q m g q j;4s aw m;7g s aw j;2SAD a l aw m;4s aw j;2hs a s aw j;2gi a s aw j",
   "2my FEH;2FEH a q MOVED m;5m;2VEH;2FEH a s aw m;2PEHEH;2ii a q j;4s aw j;2KEHEH;2SWASH ha",
   "2ha a bi;4q j;2NG;2ha a s aw m;2GAF;3a bi;2NGOEH;2GAF a l aw m;2GUEH;2GAF a s aw j;2fs a c V",
   "4q j;4s aw j;6m;2fk a q m;3GHUNNA;2RNOON;2fk a bi;4s aw j;2hk DOACHASHMEE;2TCHEH a q j",
   "2hk a ax j;3GOAL;4a fu j;2TEH MARBUTA GOAL;2fq a bi;2KIRGHIZ OE;2OE;2U;2YU;2KIRGHIZ YU",
   "2fq a l aw j;2VE;2FARSI ax;2ax a dq;4c V;2fq a q j;2E;2ax a s aw m;3BARREE;4a fu j;1ec ck",
   "1b AE;1c ci ge SAD a fs a bb cw;4ii a fs a bb cw;3aj ab d;3fs bb;3ca;3s aw;3hu;1gz OF AYAH",
   "1START OF RUB EL HIZB;1c ci pw bt;3UPRIGHT RECTANGULAR bt;3my kh OF dt;3aj u d;2bn hu",
   "2ci MADDA;2fq;2ax;2ci ax;3fk;1PLACE OF SAJDAH;1EMPTY dn bn ck;3ci ck;1pw ci ck a FILLED dn",
   "1c bn aj;1b DAL a cu V;2gt a cu V;0sb pq bh bt;3o;3l;3s;3w;3aa;3ag;3an;3ah;3ar;0kc b kf a q m",
   "2DAD a q m;2ld a q m;1f SINDHI ro;3POSTPOSITION MEN;1b hk a cu V;0SYRIAC gz OF wf",
   "1SUPRALINEAR ec ck;1SUBLINEAR ec ck;1SUPRALINEAR gp;1SUBLINEAR gp;1bf gp;1gp SKEWED k;3i",
   "1SUPRALINEAR gp SKEWED k;1SUBLINEAR gp SKEWED i;1CONTRACTION;1HARKLEAN OBELUS;2METOBELUS",
   "2ASTERISCUS;1+1kj r;1b ALAPH;2nk ALAPH;2li;2GAMAL;3GARSHUNI;2DALATH;2my DALATH RISH;2HE;2fq",
   "2mo;2mp;2TETH;3GARSHUNI;2YUDH;3HE;2lv;2LAMADH;2MIM;2ei;2SEMKATH;2n SEMKATH;2E;2PE;2cf PE;2mm",
   "2QAPH;2RISH;2gx;2TAW;2PERSIAN BHETH;3GHAMAL;3DHALATH;1PTHAHA j;2m;2fm;1ZQAPHA j;2m;2fm",
   "1RBASA j;2m;1fm ZLAMA bf;3ANGULAR;1HBASA j;2m;1HBASA-ESASA fm;1ESASA j;2m;1RWAHA;1FEMININE q",
   "1QUSHSHAYA;1RUKKAKHA;1l af aw j;4m;1s aw j;3m;1mf cs j;3m;1MUSIC;1BARREKH;2+1b SOGDIAN ZHAIN",
   "3KHAPH;3FE;0kc b BEH a s aw HORIZONTALLY m;4q m g s aw j;4s aw cv bo m;9g l aw j;4l aw m g q j",
   "4cu c V m;4c V;2br a l aw j;4s aw cv bo m;2DAL a l aw tj m g c hs;4cu c V m;2gt a y",
   "2hu a w aw j;2gi a l aw j;4s aw cv bj j;4l aw tj j;2FEH a l aw m;4s aw cv bo m;2KEHEH a q j",
   "4s aw j;6cv bo m;2aj a q j;5m;2fk a l aw m;4c hs;5V;2fs a ak;2gt a l aw tj j;4fu j",
   "2hu a l aw tj j;2br a c kc b hs m;8g l aw;2hu a c kc b hs g l aw;2gt a c kc b hs g l aw",
   "2br a c kc b hs j;2bb a sb pq bh l j;7s j;2FARSI ax a sb pq bh l j;8s j;8w m",
   "2fq a sb pq bh l j;7s j;2ax BARREE a sb pq bh l j;8s j;2br a sb pq bh w m;2hu a sb pq bh w j",
   "4cu V;2ha a l aw j;0THAANA b HAA;2SHAVIYANI;2NOONU;2RAA;2BAA;2LHAVIYANI;2KAAFU;2ALIFU;2VAAVU",
   "2MEEMU;2FAAFU;2DHAALU;2THAA;2LAAMU;2GAAFU;2GNAVIYANI;2SEENU;2DAVIYANI;2ZAVIYANI;2TAVIYANI;2YAA",
   "2PAVIYANI;2JAVIYANI;2CHAVIYANI;2TTAA;2HHAA;2KHAA;2THAALU;2ZAA;2SHEENU;2SAADHU;2DAADHU;2TO;2ZO",
   "2AINU;2GHAINU;2QAAFU;2WAAVU;1ABAFILI;1AABAAFILI;1IBIFILI;1EEBEEFILI;1UBUFILI;1OOBOOFILI",
   "1EBEFILI;1EYBEYFILI;1OBOFILI;1OABOAFILI;1SUKUN;1b NAA;E+0NKO bh bt;2o;2l;2s;2w;2aa;2ag;2an;2ah",
   "2ar;1b A;2EE;2I;2E;2U;2OO;2O;2DAGBASINNA;2N;2BA;2PA;2TA;2JA;2cr;2DA;2RA;2RRA;2SA;2GBA;2FA;2KA",
   "2LA;2NA WOLOSO;2MA;2ct;2NA;2HA;2WA;2YA;2ct WOLOSO;2JONA JA;3cr;3RA;1fi eb ci bx;3bn bx;3nw bx",
   "2cb DESCENDING bx;3ci bx;3bn bx;3nw bx;2ze r;2p q j;1ci bx qs;1bn bx qs;1z OO DENNEN",
   "2GBAKURUNEN;1de;1ia r;1LAJANYALAN;2+1DANTAYALAN;1DOROME f;1TAMAN f;0SAMARITAN b ALAF;2BIT",
   "2GAMAN;2DALAT;2IY;2BAA;2ZEN;2IT;2TIT;2YUT;2KAAF;2LABAT;2MIM;2ei;2SINGAAT;2IN;2FI;2TSAADIY;2QUF",
   "2RISH;2SHAN;2TAAF;1r IN;2IN-ALAF;2OCCLUSION;2jd;1gv b EPENTHETIC YUT;1r EPENTHETIC YUT",
   "1bc f cb E;3E;3OVERLONG AA;3cb AA;3AA;3OVERLONG A;3cb A;3A;1gv b eb A;1bc f eb A;3cb U;3U",
   "1gv b I;1bc f cb I;3I;3O;3SUKUN;1r NEQUDAA;2+1eu NEQUDAA;2AFSAAQ;2ANGED;2BAU;2ATMAAU",
   "2SHIYYAALAA;1kj r;1eu MELODIC QITSA;2ZIQAA;2QITSA;2ZAEF;2TURU;2ARKAANU;2SOF MASHFAAT;2ANNAAU",
   "1+0MANDAIC b HALQA;2AB;2AG;2AD;2AH;2USHENNA;2AZ;2IT;2ATT;2AKSA;2AK;2AL;2AM;2AN;2AS;2IN;2AP",
   "2ASZ;2AQ;2AR;2ep;2AT;2DUSHENNA;2KAD;2gi;1AFFRICATION r;1VOCALIZATION r;1wc r;2+1eu",
   "1+0SYRIAC b MALAYALAM cj;3JA;3ct;3ee;3eq;3NNNA;3et;3RA;3hw;3LLLA;3fh;5+0kc b bb a uy ox",
   "5ez i ox;4i ae y;4k ae y;4uy oa;5gj i oa;5ow q j;5i ow q;5k ow q;5ow q m;4q j",
   "4uy ez i ox g q j;4i ae y g q j;4uy gj i oa g q j;5ez i ox g k bi;4i ae y g k bi",
   "4uy gj i oa g k bi;5i fu;5k fu;1TATWEEL a OVERSTRUCK fu;4fq;3l aw m;1b THIN ax;1BASELINE ow q",
   "1ic ow q;1b fk a cu c V;2br a cu c V m;2hs a q m;4s aw m;2KEHEH a l aw tj m;1af dq",
   "1+1POUND r j;1PIASTRE r j;6+1c ci mq AL-JUZ;2bn mq ISHMAAM;4IMAALA;4TASHEEL;1MADDA WAAJIB",
   "1nk bb MOKHASSAS;1DOUBLED MADDA;1ao MADDA ay MADDA;1b BEH a c V m;4fu j;2ca a l aw j",
   "2hs a l aw j;2FEH a q m g s aw j;2ii a q m;2fs a p ak;2aj a s aw j;2ax a l aw m g fu j;8q j",
   "2gt a kt;2fq a q uc;2ROHINGYA ax;2bn bb;2DAL a s aw m;2SAD a s aw m;2GAF a cu y;2is fq",
   "2mo a cu V j;2gi a s aw m;2ha a q m;2ii a q m g NO aw j;2BEH a c aj j;2PEH a c aj j",
   "2TEH a c TEH j;2gt a c fk j;2ax a l aw m g c fk j;2AFRICAN FEH;3ii;3fk;2PEH a c V;2TEH a c V",
   "2TTEH a c V;2TCHEH a c V;2KEHEH a c V;2ld a s aw j;2AFRICAN ii a s aw j;2ca a s aw j;6m",
   "2fs a c kc b hs j;2GRAF;1c FARSI ax;2ci FARSI ax;3ax BARREE a l aw m;3mq SAH;3ZAH;1co ow q j",
   "4m;1SUKUN m;1co av m;2ow q kd av m;1c bn fq;2ci mq AR-RUB;3SAD;3gi;3ii;3fk a oa;2bn fk a oa",
   "2ci mq ATH-THALATHA;4AS-SAJDA;4AN-NISF;4SAKTA;4QIF;4WAQFA;3FOOTNOTE sz;3f SAFHA",
   "1DISPUTED gz OF AYAH;1bz ql m;1ie ox;2ql;2oa;2ux;2wm;2wn;1bx o q j;2l aw j;2kt j;2o q m",
   "2l aw m;2kt m;1by ux;2wm;2wn;1c ci fq;1ox a bi;3q j;1oa a q m;1k cm j;1i cm j;1k cm m;1i cm m",
   "1p i cm j;5a q;1i cm j a q;1ql a q;1r qw fk GHUNNA;0DEVANAGARI f cu gm;2gm;2ed;2ft;1b eb A;2A",
   "2AA;2I;2II;2U;2UU;2dj R;3L;2mi E;2eb E;2E;2AI;2mi O;2eb O;2O;2AU;2KA;2cy;2GA;2ej;2cj;2CA;2cr",
   "2JA;2fv;2ct;2ee;2ey;2ef;2fg;2eq;2TA;2df;2DA;2eh;2NA;2NNNA;2PA;2dr;2BA;2et;2MA;2YA;2RA;2RRA;2LA",
   "2hw;2LLLA;2VA;2cl;2fh;2SA;2HA;1bc f OE;3OOE;1f io;2lk;1bc f AA;3I;3II;3U;3UU;3dj R;4RR;3mi E",
   "3eb E;3E;3AI;3mi O;3eb O;3O;3AU;1f fa;1bc f yw E;3AW;1OM;1STRESS f UDATTA;3wo;1cq fj;1bp fj",
   "1bc f mi cb E;3UE;3UUE;1b QA;2KHHA;2GHHA;2ZA;2DDDHA;2RHA;2FA;2YYA;2dj RR;3LL;1bc f dj L;4LL",
   "1gw;1p gw;1bh bt;2o;2l;2s;2w;2aa;2ag;2an;2ah;2ar;1kj f;1f ci SPACING q;1b mi A;2OE;2OOE;2AW",
   "2UE;2UUE;2MARWARI ef;2ZHA;2ad YA;2GGA;2JJA;2hn ck;2DDDA;2BBA;0BENGALI ANJI;1f gm;2ed;2ft",
   "1+1b A;2AA;2I;2II;2U;2UU;2dj R;3L;2+2E;2AI;2+2O;2AU;2KA;2cy;2GA;2ej;2cj;2CA;2cr;2JA;2fv;2ct",
   "2ee;2ey;2ef;2fg;2eq;2TA;2df;2DA;2eh;2NA;1+2PA;2dr;2BA;2et;2MA;2YA;2RA;1+2LA;3+2cl;2fh;2SA;2HA",
   "2+1f io;2lk;1bc f AA;3I;3II;3U;3UU;3dj R;4RR;2+3E;3AI;2+3O;3AU;1f fa;1b KHANDA TA;8+1AU mj r",
   "4+1b RRA;2RHA;1+2YYA;2dj RR;3LL;1bc f dj L;4LL;2+1bh bt;2o;2l;2s;2w;2aa;2ag;2an;2ah;2ar",
   "1b RA a ae en;4bl en;1RUPEE r;2f;1wk NUMERATOR o;3l;3s;3w;3o LESS THAN fr DENOMINATOR",
   "2DENOMINATOR px;1ISSHAR;1GANDA r;1b VEDIC ed;1kj f;1SANDHI r;2+0GURMUKHI f ADAK BINDI;2BINDI",
   "2ft;1+1b A;2AA;2I;2II;2U;2UU;4+2EE;2AI;2+2OO;2AU;2KA;2cy;2GA;2ej;2cj;2CA;2cr;2JA;2fv;2ct;2ee",
   "2ey;2ef;2fg;2eq;2TA;2df;2DA;2eh;2NA;1+2PA;2dr;2BA;2et;2MA;2YA;2RA;1+2LA;2hw;1+2VA;2cl;1+2SA",
   "2HA;2+1f io;1+1bc f AA;3I;3II;3U;3UU;4+3EE;3AI;2+3OO;3AU;1f fa;3+2UDAAT;7+1b KHHA;2GHHA;2ZA",
   "2RRA;1+2FA;7+1bh bt;2o;2l;2s;2w;2aa;2ag;2an;2ah;2ar;1TIPPI;1ADDAK;1IRI;1URA;1EK ONKAR",
   "1f YAKASH;1kj f;A+0GUJARATI f gm;2ed;2ft;1+1b A;2AA;2I;2II;2U;2UU;2dj R;3L;1bc mi E;1+1b E;2AI",
   "1bc mi O;1+1b O;2AU;2KA;2cy;2GA;2ej;2cj;2CA;2cr;2JA;2fv;2ct;2ee;2ey;2ef;2fg;2eq;2TA;2df;2DA",
   "2eh;2NA;1+2PA;2dr;2BA;2et;2MA;2YA;2RA;1+2LA;2hw;1+2VA;2cl;2fh;2SA;2HA;2+1f io;2lk;1bc f AA;3I",
   "3II;3U;3UU;3dj R;4RR;3mi E;1+3E;3AI;3mi O;1+3O;3AU;1f fa;2+1OM;F+1b dj RR;3LL;1bc f dj L;4LL",
   "2+1bh bt;2o;2l;2s;2w;2aa;2ag;2an;2ah;2ar;1kj f;1RUPEE f;7+1b ZHA;1f SUKUN;2SHADDA;2MADDAH",
   "2THREE-DOT io j;2av io j;2TWO-CIRCLE io j;1+0ORIYA f gm;2ed;2ft;1+1b A;2AA;2I;2II;2U;2UU;2dj R",
   "3L;2+2E;2AI;2+2O;2AU;2KA;2cy;2GA;2ej;2cj;2CA;2cr;2JA;2fv;2ct;2ee;2ey;2ef;2fg;2eq;2TA;2df;2DA",
   "2eh;2NA;1+2PA;2dr;2BA;2et;2MA;2YA;2RA;1+2LA;2hw;1+2VA;2cl;2fh;2SA;2HA;2+1f io;2lk;1bc f AA;3I",
   "3II;3U;3UU;3dj R;4RR;2+3E;3AI;2+3O;3AU;1f fa;7+2sa;1AI mj r;1AU mj r;4+1b RRA;2RHA;1+2YYA",
   "2dj RR;3LL;1bc f dj L;4LL;2+1bh bt;2o;2l;2s;2w;2aa;2ag;2an;2ah;2ar;1ISSHAR;1b WA;1jy o gf;3ao",
   "2s mc;2o ut;3ht;2s yd;A+0TAMIL f ed;2ft;1+1b A;2AA;2I;2II;2U;2UU;3+2E;2EE;2AI;1+2O;2OO;2AU;2KA",
   "3+2cj;2CA;1+2JA;1+2ct;2ee;3+2eq;2TA;3+2NA;2NNNA;2PA;3+2MA;2YA;2RA;2RRA;2LA;2hw;2LLLA;2VA;2cl",
   "2fh;2SA;2HA;4+1bc f AA;3I;3II;3U;3UU;3+3E;3EE;3AI;1+3O;3OO;3AU;1f fa;2+1OM;6+1AU mj r;E+1bh bt",
   "2o;2l;2s;2w;2aa;2ag;2an;2ah;2ar;1cz cc;2o ap;3az;1DAY f;1MONTH f;1YEAR f;1DEBIT f;1CREDIT f",
   "1AS j f;1RUPEE f;1cz f;5+0TELUGU f fi gm j;2gm;2ed;2ft;2fi ed j;1b A;2AA;2I;2II;2U;2UU;2dj R",
   "3L;1+2E;2EE;2AI;1+2O;2OO;2AU;2KA;2cy;2GA;2ej;2cj;2CA;2cr;2JA;2fv;2ct;2ee;2ey;2ef;2fg;2eq;2TA",
   "2df;2DA;2eh;2NA;1+2PA;2dr;2BA;2et;2MA;2YA;2RA;2RRA;2LA;2hw;2LLLA;2VA;2cl;2fh;2SA;2HA;2+1f io",
   "2lk;1bc f AA;3I;3II;3U;3UU;3dj R;4RR;1+3E;3EE;3AI;1+3O;3OO;3AU;1f fa;7+1mj r;1AI mj r;1+1b hb",
   "2DZA;2RRRA;2+2NAKAARA POLLU;2+2dj RR;3LL;1bc f dj L;4LL;2+1bh bt;2o;2l;2s;2w;2aa;2ag;2an;2ah",
   "2ar;7+1f tw;1jy bh bt fp ODD ud OF w;3o fp ODD ud OF w;3l fp ODD ud OF w;3s fp ODD ud OF w",
   "3o fp EVEN ud OF w;3l fp EVEN ud OF w;3s fp EVEN ud OF w;1f TUUMU;0KANNADA f SPACING gm;2gm",
   "2ed;2ft;2tw;1b A;2AA;2I;2II;2U;2UU;2dj R;3L;1+2E;2EE;2AI;1+2O;2OO;2AU;2KA;2cy;2GA;2ej;2cj;2CA",
   "2cr;2JA;2fv;2ct;2ee;2ey;2ef;2fg;2eq;2TA;2df;2DA;2eh;2NA;1+2PA;2dr;2BA;2et;2MA;2YA;2RA;2RRA;2LA",
   "2hw;1+2VA;2cl;2fh;2SA;2HA;2+1f io;2lk;1bc f AA;3I;3II;3U;3UU;3dj R;4RR;1+3E;3EE;3AI;1+3O;3OO",
   "3AU;1f fa;7+1mj r;1AI mj r;6+1b NAKAARA POLLU;2FA;1+2dj RR;3LL;1bc f dj L;4LL;2+1bh bt;2o;2l",
   "2s;2w;2aa;2ag;2an;2ah;2ar;1+1f uo;2up;D+0MALAYALAM f fi ed j;2gm;2ed;2ft;1b VEDIC ed;2A;2AA;2I",
   "2II;2U;2UU;2dj R;3L;1+2E;2EE;2AI;1+2O;2OO;2AU;2KA;2cy;2GA;2ej;2cj;2CA;2cr;2JA;2fv;2ct;2ee;2ey",
   "2ef;2fg;2eq;2TA;2df;2DA;2eh;2NA;2NNNA;2PA;2dr;2BA;2et;2MA;2YA;2RA;2RRA;2LA;2hw;2LLLA;2VA;2cl",
   "2fh;2SA;2HA;2TTTA;1f af ak fa;2wp fa;2lk;1bc f AA;3I;3II;3U;3UU;3dj R;4RR;1+3E;3EE;3AI;1+3O",
   "3OO;3AU;1f fa;1b q REPH;1f PARA;4+1b CHILLU M;3Y;3LLL;1AU mj r;1jy o zp;3FORTIETH",
   "2s EIGHTIETHS;2o TWENTIETH;3TENTH;2s TWENTIETHS;2o FIFTH;1b kb II;2dj RR;3LL;1bc f dj L;4LL",
   "2+1bh bt;2o;2l;2s;2w;2aa;2ag;2an;2ah;2ar;1cz cc;2o ap;3az;1jy o gf;3ao;2s mc;2o ut;3ht;2s yd",
   "1DATE r;1b CHILLU NN;3N;3RR;3L;3LL;3K;1+0SINHALA f gm;2ANUSVARAYA;2VISARGAYA;1+1b AYANNA",
   "2AAYANNA;2AEYANNA;2AEEYANNA;2IYANNA;2IIYANNA;2UYANNA;2UUYANNA;2IRUYANNA;2IRUUYANNA;2ILUYANNA",
   "2ILUUYANNA;2EYANNA;2EEYANNA;2AIYANNA;2OYANNA;2OOYANNA;2AUYANNA;3+2ps KAYANNA;2pr KAYANNA",
   "2ps GAYANNA;2pr GAYANNA;2KANTAJA NAASIKYAYA;2SANYAKA GAYANNA;2ps CAYANNA;2pr CAYANNA",
   "2ps JAYANNA;2pr JAYANNA;2TAALUJA NAASIKYAYA;3SANYOOGA NAAKSIKYAYA;2SANYAKA JAYANNA",
   "2ps TTAYANNA;2pr TTAYANNA;2ps DDAYANNA;2pr DDAYANNA;2MUURDHAJA NAYANNA;2SANYAKA DDAYANNA",
   "2ps TAYANNA;2pr TAYANNA;2ps DAYANNA;2pr DAYANNA;2DANTAJA NAYANNA;1+2SANYAKA DAYANNA",
   "2ps PAYANNA;2pr PAYANNA;2ps BAYANNA;2pr BAYANNA;2MAYANNA;2AMBA BAYANNA;2YAYANNA;2RAYANNA",
   "1+2DANTAJA LAYANNA;2+2VAYANNA;2TAALUJA SAYANNA;2MUURDHAJA SAYANNA;2DANTAJA SAYANNA;2HAYANNA",
   "2MUURDHAJA LAYANNA;2FAYANNA;3+1f AL-LAKUNA;4+1bc f AELA-PILLA;3KETTI AEDA-PILLA",
   "3DIGA AEDA-PILLA;3KETTI IS-PILLA;3DIGA IS-PILLA;3KETTI PAA-PILLA;1+3DIGA PAA-PILLA",
   "1+3GAETTA-PILLA;3KOMBUVA;3DIGA KOMBUVA;3KOMBU DEKA;3KOMBUVA HAA AELA-PILLA;5DIGA AELA-PILLA",
   "5GAYANUKITTA;3GAYANUKITTA;6+1LITH bh bt;3o;3l;3s;3w;3aa;3ag;3an;3ah;3ar",
   "2+1bc f DIGA GAETTA-PILLA;4GAYANUKITTA;1eu KUNDDALIYA;C+0THAI qu KO KAI;2KHO KHAI;3KHUAT",
   "3KHWAI;3KHON;3RAKHANG;2NGO NGU;2CHO CHAN;3CHING;3CHANG;2SO SO;2CHO CHOE;2YO YING;2DO CHADA",
   "2TO PATAK;2THO THAN;3NANGMONTHO;3PHUTHAO;2NO NEN;2DO DEK;2TO TAO;2THO THUNG;3THAHAN;3THONG",
   "2NO NU;2BO BAIMAI;2PO PLA;2PHO PHUNG;2FO FA;2PHO PHAN;2FO FAN;2PHO SAMPHAO;2MO MA;2YO YAK",
   "2RO RUA;2RU;2LO LING;2LU;2WO WAEN;2SO SALA;3RUSI;3SUA;2HO HIP;2LO CHULA;2O ANG;2HO NOKHUK",
   "2PAIYANNOI;2SARA A;2MAI HAN-AKAT;2SARA AA;3AM;3I;3II;3UE;3UEE;3U;3UU;2PHINTHU;4+1wk z BAHT",
   "1qu SARA E;3AE;3O;3AI MAIMUAN;4MAIMALAI;2LAKKHANGYAO;2MAIYAMOK;2MAITAIKHU;2MAI EK;3THO;3TRI",
   "3CHATTAWA;2THANTHAKHAT;2NIKHAHIT;2YAMAKKAN;2FONGMAN;1bh bt;2o;2l;2s;2w;2aa;2ag;2an;2ah;2ar",
   "1qu ANGKHANKHU;2KHOMUT;25+0LAO b KO;2KHO SUNG;1+3TAM;1+2PALI ej;2NGO;2CO;2PALI cr;2SO TAM",
   "1+2PALI fv;2NYO;2PALI ct;3ee;3ey;3ef;3fg;3eq;2DO;2TO;2THO SUNG;3TAM;2PALI eh;2NO;2BO;2PO",
   "2PHO SUNG;2FO TAM;2PHO TAM;2FO SUNG;2PALI et;2MO;2YO;2LO LING;1+3LOOT;1+2WO;2SANSKRIT cl;3fh",
   "2SO SUNG;2HO SUNG;2PALI hw;2O;2HO TAM;1sc;1bc f A;3MAI KAN;3AA;3AM;3I;3II;3Y;3YY;3U;3UU",
   "1f PALI fa;1bc f MAI KON;1SEMIVOWEL f LO;3NYO;2+1bc f E;3EI;3O;3AY;3AI;1+1KO LA;1+1bx MAI EK",
   "3THO;3TI;3CATAWA;1xl r;1NIGGAHITA;2+1bh bt;2o;2l;2s;2w;2aa;2ag;2an;2ah;2ar;2+1HO NO;2MO",
   "1b KHMU GO;3NYO;20+0TIBETAN ll OM;1r GTER YIG MGO TRUNCATED A;5-UM RNAM BCAD MA;6GTER po MA",
   "2ab YIG MGO MDUN MA;2CLOSING YIG MGO SGAB MA;2qm YIG MGO PHUR lw MA;2YIG MGO po lw MA",
   "2SBRUL lw;2BSKUR YIG MGO;2BKA- SHOG YIG MGO;2INTERSYLLABIC po;2yq po BSTAR;2lw;2NYIS lw;2po lw",
   "2NYIS po lw;2RIN CHEN SPUNGS lw;2RGYA GRAM lw;2qm -DZUD oy ME cb CAN;2GTER po",
   "1LOGOTYPE f CHAD oy;3LHAG oy;1ASTROLOGICAL f SGRA GCAN -CHAR oy;3-KHYUD PA;3SDONG TSHUGS",
   "1f RDEL DKAR GCIG;4GNYIS;4GSUM;3NAG GCIG;4GNYIS;3DKAR RDEL NAG;1bh bt;2o;2l;2s;2w;2aa;2ag;2an",
   "2ah;2ar;2ao o;3l;3s;3w;3aa;3ag;3an;3ah;3ar;3bt;1r BSDUS oy;2NGAS BZUNG NYI ZLA",
   "2qm -DZUD oy BZHI MIG CAN;2NGAS BZUNG SGOR oy;2CHE MGO;2hb -PHRU;2GUG oy GYON;4GYAS",
   "2ANG KHANG GYON;4GYAS;1f YAR TSHES;2MAR TSHES;1b KA;2cy;2GA;2ej;2cj;2CA;2cr;2JA;1+2ct;2ee;2ey",
   "2ef;2fg;2eq;2TA;2df;2DA;2eh;2NA;2PA;2dr;2BA;2et;2MA;2hb;2mr;2DZA;2DZHA;2WA;2ZHA;2ZA;2-A;2YA",
   "2RA;2LA;2cl;2fh;2SA;2HA;2A;2KSSA;2FIXED-FORM RA;2KKA;2RRA;4+1bc f AA;3I;3II;3U;3UU;3dj R;4RR",
   "4L;4LL;3E;3EE;3O;3OO;1f RJES SU cj RO;2RNAM BCAD;1bc f cf I;4II;1f NYI ZLA NAA DA;2SNA LDAN",
   "1r HALANTA;2PALUTA;1f LCI oy;2YANG oy;2LCE hb CAN;2MCHU CAN;2GRU CAN RGYINGS;3MED RGYINGS",
   "2cu MCHU CAN;1uu f LCE hb CAN;3MCHU CAN;3cu MCHU CAN;2b KA;3cy;3GA;3ej;3cj;3CA;3cr;3JA;1+3ct",
   "3ee;3ey;3ef;3fg;3eq;3TA;3df;3DA;3eh;3NA;3PA;3dr;3BA;3et;3MA;3hb;3mr;3DZA;3DZHA;3WA;3ZHA;3ZA",
   "3-A;3YA;3RA;3LA;3cl;3fh;3SA;3HA;3A;3KSSA;3FIXED-FORM WA;4YA;4RA;1+1KU RU cy;4BZHI MIG CAN",
   "1CANTILLATION f ad BEAT;3bd BEAT;3CANG TE-U;3SBUB -CHAL;1z DRIL BU;2RDO RJE;2PADMA GDAN",
   "2RDO RJE RGYA GRAM;2PHUR PA;2NOR BU;4NYIS -KHYIL;4GSUM -KHYIL;4BZHI -KHYIL",
   "1+1f RDEL NAG RDEL DKAR;4GSUM;1r BSKA- SHOG GI MGO RGYAN;2MNYAM YIG GI MGO RGYAN;2NYIS po",
   "2ab BRDA RNYING YIG MGO MDUN MA;2CLOSING BRDA RNYING YIG MGO SGAB MA;0xk SVASTI f;0xp SVASTI f",
   "0xk SVASTI f a aw;0xp SVASTI f a aw;0TIBETAN r LEADING MCHAN oy;2TRAILING MCHAN oy",
   "25+0MYANMAR b KA;2cy;2GA;2ej;2cj;2CA;2cr;2JA;2fv;2ct;2NNYA;2ee;2ey;2ef;2fg;2eq;2TA;2df;2DA;2eh",
   "2NA;2PA;2dr;2BA;2et;2MA;2YA;2RA;2LA;2WA;2SA;2HA;2hw;2A;2SHAN A;2I;2II;2U;2UU;2E;2MON E;2O;2AU",
   "1bc f TALL AA;3AA;3I;3II;3U;3UU;3E;3AI;3MON II;4O;3E j;1f ed;2q m;2ft;2fa;2ASAT;1ja f bs YA",
   "4RA;4WA;4HA;1b GREAT SA;1bh bt;2o;2l;2s;2w;2aa;2ag;2an;2ah;2ar;1f dm iv;2iv;1z LOCATIVE",
   "2COMPLETED;2AFOREMENTIONED;2GENITIVE;1b cl;2fh;2dj R;3RR;3L;3LL;1bc f dj R;4RR;4L;4LL",
   "1b MON cj;3fv;3BBA;3BBE;1ja f MON bs NA;5MA;5LA;1b SGAW KAREN cl;1bc f SGAW KAREN EU",
   "1bx r SGAW KAREN HATHI;5KE PHO;1b WESTERN PWO KAREN df;5PWA;1bc f WESTERN PWO KAREN EU;6UE",
   "1f WESTERN PWO KAREN TONE-1;5qf;5re;5ue;5qg;1b EASTERN PWO KAREN eq;5YWA;5GHWA",
   "1bc f GEBA KAREN I;3KAYAH OE;4U;4EE;1b SHAN KA;3cy;3GA;3CA;3ZA;3ct;3DA;3NA;3dr;3FA;3BA;3df;3HA",
   "1ja f SHAN bs WA;1bc f SHAN AA;4E;5j;4n Y;1f SHAN qf;3re;3qg;3TONE-6;3COUNCIL qf;4re",
   "4EMPHATIC bx;1b RUMAI PALAUNG FA;1f RUMAI PALAUNG qg;1SHAN bh bt;3o;3l;3s;3w;3aa;3ag;3an;3ah",
   "3ar;1f KHAMTI TONE-1;3re;1bc f AITON A;4AI;1z SHAN o;3ia;0wq e b AN;3BAN;3GAN;3DON;3EN;3VIN",
   "3ZEN;3TAN;3IN;3KAN;3LAS;3MAN;3NAR;3ON;3PAR;3ZHAR;3RAE;3SAN;3TAR;3UN;3PHAR;3KHAR;3GHAN;3QAR;3gx",
   "3CHIN;3CAN;3JIL;3CIL;3CHAR;3XAN;3JHAN;3HAE;3HE;3HIE;3WE;3HAR;3HOE;1+3YN;5+3AEN;2+1b AN;2BAN",
   "2GAN;2DON;2EN;2VIN;2ZEN;2TAN;2IN;2KAN;2LAS;2MAN;2NAR;2ON;2PAR;2ZHAR;2RAE;2SAN;2TAR;2UN;2PHAR",
   "2KHAR;2GHAN;2QAR;2gx;2CHIN;2CAN;2JIL;2CIL;2CHAR;2XAN;2JHAN;2HAE;2HE;2HIE;2WE;2HAR;2HOE;2FI;2YN",
   "2ELIFI;2bz GAN;2gi;1wf ir;0gv b wq NAR;0wq b AEN;2HARD f;2LABIAL f;0rf CHOSEONG ta;2xq;2NIEUN",
   "2tb;2xr;2RIEUL;2MIEUM;2PIEUP;2ye;2SIOS;2yr;2IEUNG;2CIEUC;2yf;2sr;2ss;2st;2su;2HIEUH",
   "2NIEUN-KIYEOK;2SSANGNIEUN;2zf;2NIEUN-PIEUP;2TIKEUT-KIYEOK;2RIEUL-NIEUN;2SSANGRIEUL;2xs",
   "2KAPYEOUNRIEUL;2MIEUM-PIEUP;2yx;2PIEUP-KIYEOK;2PIEUP-NIEUN;2zg;2yg;2zw;2ys;2PIEUP-SIOS-PIEUP",
   "2PIEUP-SSANGSIOS;2PIEUP-SIOS-CIEUC;2PIEUP-CIEUC;2PIEUP-CHIEUCH;2PIEUP-THIEUTH;2PIEUP-PHIEUPH",
   "2yy;2zu;2SIOS-KIYEOK;2SIOS-NIEUN;2SIOS-TIKEUT;2SIOS-RIEUL;2SIOS-MIEUM;2SIOS-PIEUP",
   "2SIOS-PIEUP-KIYEOK;2SIOS-SSANGSIOS;2SIOS-IEUNG;2SIOS-CIEUC;2SIOS-CHIEUCH;2SIOS-KHIEUKH",
   "2SIOS-THIEUTH;2SIOS-PHIEUPH;2SIOS-HIEUH;2CHITUEUMSIOS;2CHITUEUMSSANGSIOS;2CEONGCHIEUMSIOS",
   "2CEONGCHIEUMSSANGSIOS;2PANSIOS;2IEUNG-KIYEOK;2IEUNG-TIKEUT;2IEUNG-MIEUM;2IEUNG-PIEUP",
   "2IEUNG-SIOS;2IEUNG-PANSIOS;2SSANGIEUNG;2IEUNG-CIEUC;2IEUNG-CHIEUCH;2IEUNG-THIEUTH",
   "2IEUNG-PHIEUPH;2YESIEUNG;2CIEUC-IEUNG;2CHITUEUMCIEUC;2CHITUEUMSSANGCIEUC;2CEONGCHIEUMCIEUC",
   "2CEONGCHIEUMSSANGCIEUC;2CHIEUCH-KHIEUKH;2CHIEUCH-HIEUH;2CHITUEUMCHIEUCH;2CEONGCHIEUMCHIEUCH",
   "2PHIEUPH-PIEUP;2yu;2SSANGHIEUH;2YEORINHIEUH;2KIYEOK-TIKEUT;2NIEUN-SIOS;2xt;2xu;2TIKEUT-RIEUL",
   "2rg;1JUNGSEONG rg;2A;2AE;2YA;2YAE;2EO;2E;2YEO;2YE;2O;2WA;2WAE;2OE;2YO;2U;2WEO;2WE;2WI;2YU;2EU",
   "2YI;2I;2A-O;2A-U;2YA-O;2YA-YO;2EO-O;2EO-U;2EO-EU;2YEO-O;2YEO-U;2O-EO;2O-E;2O-YE;2O-O;2O-U",
   "2YO-YA;2YO-YAE;2YO-YEO;2YO-O;2YO-I;2U-A;2U-AE;2U-EO-EU;2U-YE;2U-U;2YU-A;2YU-EO;2YU-E;2YU-YEO",
   "2YU-YE;2YU-U;2YU-I;2EU-U;2EU-EU;2YI-U;2I-A;2I-YA;2I-O;2I-U;2I-EU;2I-ARAEA;2ARAEA;2ARAEA-EO",
   "2ARAEA-U;2ARAEA-I;2SSANGARAEA;2A-EU;2YA-U;2YEO-YA;2O-YA;2O-YAE;1JONGSEONG ta;2xq;2KIYEOK-SIOS",
   "2NIEUN;2xt;2xu;2tb;2RIEUL;2xm;2xv;2xw;2yh;2yz;2za;2xs;2MIEUM;2PIEUP;2yg;2SIOS;2yr;2IEUNG",
   "2CIEUC;2sr;2ss;2st;2su;2HIEUH;2KIYEOK-RIEUL;2KIYEOK-SIOS-KIYEOK;2NIEUN-KIYEOK;2zf;2NIEUN-SIOS",
   "2NIEUN-PANSIOS;2NIEUN-THIEUTH;2TIKEUT-KIYEOK;2TIKEUT-RIEUL;2zx;2RIEUL-NIEUN;2zh",
   "2RIEUL-TIKEUT-HIEUH;2SSANGRIEUL;2RIEUL-MIEUM-KIYEOK;2RIEUL-MIEUM-SIOS;2RIEUL-PIEUP-SIOS",
   "2RIEUL-PIEUP-HIEUH;2zs;2RIEUL-SSANGSIOS;2RIEUL-PANSIOS;2RIEUL-KHIEUKH;2zy;2MIEUM-KIYEOK",
   "2MIEUM-RIEUL;2MIEUM-PIEUP;2MIEUM-SIOS;2MIEUM-SSANGSIOS;2MIEUM-PANSIOS;2MIEUM-CHIEUCH",
   "2MIEUM-HIEUH;2yx;2PIEUP-RIEUL;2PIEUP-PHIEUPH;2PIEUP-HIEUH;2yy;2SIOS-KIYEOK;2SIOS-TIKEUT",
   "2SIOS-RIEUL;2SIOS-PIEUP;2PANSIOS;2IEUNG-KIYEOK;2IEUNG-SSANGKIYEOK;2SSANGIEUNG;2IEUNG-KHIEUKH",
   "2YESIEUNG;2YESIEUNG-SIOS;2YESIEUNG-PANSIOS;2PHIEUPH-PIEUP;2yu;2HIEUH-NIEUN;2HIEUH-RIEUL",
   "2HIEUH-MIEUM;2HIEUH-PIEUP;2YEORINHIEUH;2KIYEOK-NIEUN;2KIYEOK-PIEUP;2KIYEOK-CHIEUCH",
   "2KIYEOK-KHIEUKH;2KIYEOK-HIEUH;2SSANGNIEUN;0ETHIOPIC ll HA;2HU;2HI;2HAA;2HEE;2HE;2HO;2HOA;2LA",
   "2LU;2LI;2LAA;2LEE;2LE;2LO;2LWA;2HHA;2HHU;2HHI;2HHAA;2HHEE;2HHE;2HHO;2HHWA;2MA;2MU;2MI;2MAA",
   "2MEE;2ME;2MO;2MWA;2SZA;2SZU;2SZI;2SZAA;2SZEE;2SZE;2SZO;2SZWA;2RA;2RU;2RI;2RAA;2REE;2RE;2RO",
   "2RWA;2SA;2SU;2SI;2SAA;2SEE;2SE;2SO;2SWA;2cl;2SHU;2SHI;2SHAA;2SHEE;2gd;2SHO;2SHWA;2QA;2QU;2QI",
   "2QAA;2QEE;2QE;2QO;2QOA;2QWA;1+2QWI;2QWAA;2QWEE;2QWE;2+2QHA;2QHU;2QHI;2QHAA;2QHEE;2QHE;2QHO",
   "1+2QHWA;1+2QHWI;2QHWAA;2QHWEE;2QHWE;2+2BA;2BU;2BI;2BAA;2BEE;2BE;2BO;2BWA;2VA;2VU;2VI;2VAA;2VEE",
   "2VE;2VO;2VWA;2TA;2TU;2TI;2TAA;2TEE;2TE;2TO;2TWA;2CA;2CU;2CI;2CAA;2CEE;2CE;2CO;2CWA;2XA;2XU;2XI",
   "2XAA;2XEE;2XE;2XO;2XOA;2XWA;1+2XWI;2XWAA;2XWEE;2XWE;2+2NA;2NU;2NI;2NAA;2NEE;2NE;2NO;2NWA;2ct",
   "2NYU;2NYI;2NYAA;2NYEE;2NYE;2NYO;2NYWA;2hn A;3U;3I;3AA;3EE;3E;3O;3WA;2KA;2KU;2KI;2KAA;2KEE;2KE",
   "2KO;2KOA;2KWA;1+2KWI;2KWAA;2KWEE;2KWE;2+2KXA;2KXU;2KXI;2KXAA;2KXEE;2KXE;2KXO;1+2KXWA;1+2KXWI",
   "2KXWAA;2KXWEE;2KXWE;2+2WA;2WU;2WI;2WAA;2WEE;2WE;2WO;2WOA;2PHARYNGEAL A;3U;3I;3AA;3EE;3E;3O",
   "1+2ZA;2ZU;2ZI;2ZAA;2ZEE;2ZE;2ZO;2ZWA;2ZHA;2ZHU;2ZHI;2ZHAA;2ZHEE;2ZHE;2ZHO;2ZHWA;2YA;2YU;2YI",
   "2YAA;2YEE;2YE;2YO;2YOA;2DA;2DU;2DI;2DAA;2DEE;2DE;2DO;2DWA;2ef;2DDU;2DDI;2DDAA;2DDEE;2DDE;2DDO",
   "2DDWA;2JA;2JU;2JI;2JAA;2JEE;2JE;2JO;2JWA;2GA;2GU;2GI;2GAA;2GEE;2GE;2GO;2GOA;2GWA;1+2GWI;2GWAA",
   "2GWEE;2GWE;2+2GGA;2GGU;2GGI;2GGAA;2GGEE;2GGE;2GGO;2GGWAA;2df;2THU;2THI;2THAA;2THEE;2fr;2THO",
   "2THWA;2cr;2CHU;2CHI;2CHAA;2CHEE;2CHE;2CHO;2CHWA;2dr;2PHU;2PHI;2PHAA;2PHEE;2PHE;2PHO;2PHWA;2hb",
   "2TSU;2TSI;2TSAA;2TSEE;2TSE;2TSO;2TSWA;2TZA;2TZU;2TZI;2TZAA;2TZEE;2TZE;2TZO;2TZOA;2FA;2FU;2FI",
   "2FAA;2FEE;2FE;2FO;2FWA;2PA;2PU;2PI;2PAA;2PEE;2PE;2PO;2PWA;2RYA;2MYA;2FYA;2+1fi wc g bc mj r",
   "2bc mj r;2wc r;1iv r;1WORDSPACE;1ec ck;1de;1oi;1gp;1PREFACE gp;1hd r;1wf ir;1bh o;2l;2s;2w;2aa",
   "2ag;2an;2ah;2ar;1cz cc;2fb;2jj;2kr;2gh;2le;2ga;2mk;2fn;2ap;2cc az;3+1ll SEBATBEIT MWA;2MWI",
   "2MWEE;2MWE;2SEBATBEIT BWA;2BWI;2BWEE;2BWE;2SEBATBEIT FWA;2FWI;2FWEE;2FWE;2SEBATBEIT PWA;2PWI",
   "2PWEE;2PWE;1TONAL r YIZET;3DERET;3RIKRIK;3eb RIKRIK;3DIFAT;3KENAT;3CHIRET;3HIDET;3DERET-HIDET",
   "3KURT;6+0CHEROKEE b A;2E;2I;2O;2U;2V;2GA;2KA;2GE;2GI;2GO;2GU;2GV;2HA;2HE;2HI;2HO;2HU;2HV;2LA",
   "2LE;2LI;2LO;2LU;2LV;2MA;2ME;2MI;2MO;2MU;2NA;2HNA;2NAH;2NE;2NI;2NO;2NU;2NV;2QUA;2QUE;2QUI;2QUO",
   "2QUU;2QUV;2SA;2S;2SE;2SI;2SO;2SU;2SV;2DA;2TA;2DE;2TE;2DI;2TI;2DO;2DU;2DV;2DLA;2TLA;2TLE;2TLI",
   "2TLO;2TLU;2TLV;2hb;2TSE;2TSI;2TSO;2TSU;2TSV;2WA;2WE;2WI;2WO;2WU;2WV;2YA;2YE;2YI;2YO;2YU;2YV",
   "2MV;2+1c b YE;3YI;3YO;3YU;3YV;3MV;2+0CANADIAN SYLLABICS oo;2E;2AAI;2I;2II;2O;2OO;2op OO;2pi EE",
   "3I;2A;2AA;2WE;2bu WE;2WI;2bu WI;2WII;2bu WII;2WO;2bu WO;2WOO;2bu WOO;2py WOO;2WA;2bu WA;2WAA",
   "2bu WAA;2py WAA;2AI;2op W;2hn ck;2n bp;3cq;3gj ao bi;3ez ao bi;3i ao bi;3bi;3p bp",
   "4eb af STROKES;3ae q;3eb bf y;3al;3aq gc;2EN;2IN;2ON;2AN;2PE;2PAAI;2PI;2PII;2PO;2POO;2op POO",
   "2pi HEE;3HI;2PA;2PAA;2PWE;2bu PWE;2PWI;2bu PWI;2PWII;2bu PWII;2PWO;2bu PWO;2PWOO;2bu PWOO;2PWA",
   "2bu PWA;2PWAA;2bu PWAA;2op PWAA;2P;2bu P;2pi H;2TE;2TAAI;2TI;2TII;2TO;2TOO;2op TOO;2pi DEE;3DI",
   "2TA;2TAA;2TWE;2bu TWE;2TWI;2bu TWI;2TWII;2bu TWII;2l;2bu l;2TWOO;2bu TWOO;2TWA;2bu TWA;2TWAA",
   "2bu TWAA;2py TWAA;2T;2TTE;2TTI;2TTO;2ee;2KE;2KAAI;2KI;2KII;2KO;2KOO;2op KOO;2KA;2KAA;2KWE",
   "2bu KWE;2KWI;2bu KWI;2KWII;2bu KWII;2KWO;2bu KWO;2KWOO;2bu KWOO;2KWA;2bu KWA;2KWAA;2bu KWAA",
   "2py KWAA;2K;2KW;2SOUTH-SLAVEY KEH;3KIH;3KOH;3KAH;2CE;2CAAI;2CI;2CII;2CO;2COO;2op COO;2CA;2CAA",
   "2CWE;2bu CWE;2CWI;2bu CWI;2CWII;2bu CWII;2CWO;2bu CWO;2CWOO;2bu CWOO;2CWA;2bu CWA;2CWAA",
   "2bu CWAA;2py CWAA;2C;2rh TH;2ME;2MAAI;2MI;2MII;2MO;2MOO;2op MOO;2MA;2MAA;2MWE;2bu MWE;2MWI",
   "2bu MWI;2MWII;2bu MWII;2MWO;2bu MWO;2MWOO;2bu MWOO;2MWA;2bu MWA;2MWAA;2bu MWAA;2py MWAA;2M",
   "2bu M;2MH;2ATHAPASCAN M;2rh M;2NE;2NAAI;2NI;2NII;2NO;2NOO;2op NOO;2NA;2NAA;2NWE;2bu NWE;2NWA",
   "2bu NWA;2NWAA;2bu NWAA;2py NWAA;2N;2pi NG;2NH;2LE;2LAAI;2LI;2LII;2LO;2LOO;2op LOO;2LA;2LAA",
   "2LWE;2bu LWE;2LWI;2bu LWI;2LWII;2bu LWII;2LWO;2bu LWO;2LWOO;2bu LWOO;2LWA;2bu LWA;2LWAA",
   "2bu LWAA;2L;2bu L;2bs L;2SE;2SAAI;2SI;2SII;2SO;2SOO;2op SOO;2SA;2SAA;2SWE;2bu SWE;2SWI;2bu SWI",
   "2SWII;2bu SWII;2SWO;2bu SWO;2SWOO;2bu SWOO;2SWA;2bu SWA;2SWAA;2bu SWAA;2py SWAA;2S",
   "2ATHAPASCAN S;2SW;2BLACKFOOT S;2MOOSE-CREE SK;2py SKW;3S-W;3SPWA;3STWA;3SKWA;3SCWA;2gd;2SHI",
   "2SHII;2SHO;2SHOO;2cl;2SHAA;2SHWE;2bu SHWE;2SHWI;2bu SHWI;2SHWII;2bu SHWII;2SHWO;2bu SHWO",
   "2SHWOO;2bu SHWOO;2SHWA;2bu SHWA;2SHWAA;2bu SHWAA;2SH;2YE;2YAAI;2YI;2YII;2YO;2YOO;2op YOO;2YA",
   "2YAA;2YWE;2bu YWE;2YWI;2bu YWI;2YWII;2bu YWII;2YWO;2bu YWO;2YWOO;2bu YWOO;2YWA;2bu YWA;2YWAA",
   "2bu YWAA;2py YWAA;2Y;2BIBLE-CREE Y;2bu Y;2rh YI;2RE;2R-CREE RE;2bu LE;2RAAI;2RI;2RII;2RO;2ROO",
   "2bu LO;2RA;2RAA;2bu LA;2RWAA;2bu RWAA;2R;2bu R;2bs R;2FE;2FAAI;2FI;2FII;2FO;2FOO;2FA;2FAA",
   "2FWAA;2bu FWAA;2F;2fr;2N-CREE fr;2THI;2N-CREE THI;2THII;2N-CREE THII;2THO;2THOO;2df;2THAA",
   "2THWAA;2bu THWAA;2TH;2TTHE;2TTHI;2TTHO;2ey;2TTH;2TYE;2TYI;2TYO;2TYA;2NUNAVIK HE;3HI;3HII;3HO",
   "3HOO;3HA;3HAA;3H;2NUNAVUT H;2HK;2QAAI;2QI;2QII;2QO;2QOO;2QA;2QAA;2Q;2TLHE;2TLHI;2TLHO;2TLHA",
   "2bu RE;3RI;3RO;3RA;2NGAAI;2NGI;2NGII;2NGO;2NGOO;2cj;2NGAA;2NG;2NNG;2rh gd;3SHI;3SHO;3cl",
   "2WOODS-CREE fr;3THI;3THO;3df;3TH;2LHI;2LHII;2LHO;2LHOO;2LHA;2LHAA;2LH;2TH-CREE fr;3THI;3THII",
   "3THO;3THOO;3df;3THAA;3TH;2AIVILIK B;2BLACKFOOT E;3I;3O;3A;3WE;3WI;3WO;3WA;3NE;3NI;3NO;3NA;3KE",
   "3KI;3KO;3KA;2rh HE;3HI;3HO;3HA;2pi GHU;3GHO;3GHE;3GHEE;3GHI;3ej;3RU;3RO;3RE;3REE;3RI;3RA;3WU",
   "3WO;3WE;3WEE;3WI;3WA;3HWU;3HWO;3HWE;3HWEE;3HWI;3HWA;3THU;3THO;3fr;3THEE;3THI;3df;3TTU;3TTO",
   "3TTE;3TTEE;3TTI;3ee;3PU;3PO;3PE;3PEE;3PI;3PA;3P;3GU;3GO;3GE;3GEE;3GI;3GA;3KHU;3KHO;3KHE;3KHEE",
   "3KHI;3cy;3KKU;3KKO;3KKE;3KKEE;3KKI;3KKA;3KK;3NU;3NO;3NE;3NEE;3NI;3NA;3MU;3MO;3ME;3MEE;3MI;3MA",
   "3YU;3YO;3YE;3YEE;3YI;3YA;3JU;2rh JU;2pi JO;3JE;3JEE;3JI;2rh JI;2pi JA;3JJU;3JJO;3JJE;3JJEE",
   "3JJI;3JJA;3LU;3LO;3LE;3LEE;3LI;3LA;3DLU;3DLO;3DLE;3DLEE;3DLI;3DLA;3LHU;3LHO;3LHE;3LHEE;3LHI",
   "3LHA;3TLHU;3TLHO;3TLHE;3TLHEE;3TLHI;3TLHA;3TLU;3TLO;3TLE;3TLEE;3TLI;3TLA;3ZU;3ZO;3ZE;3ZEE;3ZI",
   "3ZA;3Z;3ab Z;3DZU;3DZO;3DZE;3DZEE;3DZI;3DZA;3SU;3SO;3SE;3SEE;3SI;3SA;3SHU;3SHO;3gd;3SHEE;3SHI",
   "3cl;3SH;3TSU;3TSO;3TSE;3TSEE;3TSI;3hb;3CHU;3CHO;3CHE;3CHEE;3CHI;3cr;3TTSU;3TTSO;3TTSE;3TTSEE",
   "3TTSI;3TTSA;2CHI f;2ec ck;2QAI;2NGAI;2NNGI;2NNGII;2NNGO;2NNGOO;2NNGA;2NNGAA;2WOODS-CREE THWEE",
   "3THWI;3THWII;3THWO;3THWOO;3THWA;3THWAA;3n TH;2BLACKFOOT W;0OGHAM jk r;1b BEITH;2LUIS;2FEARN",
   "2SAIL;2NION;2UATH;2DAIR;2TINNE;2COLL;2CEIRT;2MUIN;2GORT;2NGEADAL;2STRAIF;2RUIS;2AILM;2ONN;2UR",
   "2EADHADH;2IODHADH;2EABHADH;2OR;2UILLEANN;2IFIN;2EAMHANCHOLL;2PEITH;1FEATHER r;1cf FEATHER r",
   "3+0RUNIC b FEHU FEOH FE F;2V;2URUZ UR U;2YR;2Y;2W;2THURISAZ THURS THORN;2ETH;2ANSUZ A;2OS O",
   "2AC A;2AESC;2LONG-BRANCH-OSS O;2SHORT-TWIG-OSS O;2O;2OE;2ON;2RAIDO RAD REID R;2KAUNA;2CEN",
   "2KAUN K;2G;2ENG;2GEBO GYFU G;2hx;2WUNJO WYNN W;2HAGLAZ H;2HAEGL H;2LONG-BRANCH-HAGALL H",
   "2SHORT-TWIG-HAGALL H;2NAUDIZ NYD NAUD N;2SHORT-TWIG-NAUD N;2DOTTED-N;2ISAZ IS ISS I;2E",
   "2JERAN J;2GER;2LONG-BRANCH-AR AE;2SHORT-TWIG-AR A;2IWAZ EOH;2PERTHO PEORTH P;2ALGIZ EOLHX",
   "2SOWILO S;2SIGEL LONG-BRANCH-SOL S;2SHORT-TWIG-SOL S;2C;2Z;2TIWAZ TIR TYR T;2SHORT-TWIG-TYR T",
   "2D;2BERKANAN BEORC BJARKAN B;2SHORT-TWIG-BJARKAN B;2DOTTED-P;2OPEN-P;2EHWAZ EH E;2MANNAZ MAN M",
   "2LONG-BRANCH-MADR M;2SHORT-TWIG-MADR M;2LAUKAZ LAGU LOGR L;2DOTTED-L;2INGWAZ;2ING",
   "2DAGAZ DAEG D;2OTHALAN ETHEL O;2EAR;2IOR;2CWEORTH;2CALC;2CEALC;2STAN;2LONG-BRANCH-YR",
   "2SHORT-TWIG-YR;2ICELANDIC-YR;2Q;2X;1cp eu;1nm eu;1em eu;1ARLAUG z;1TVIMADUR z;1BELGTHOR z;1b K",
   "2SH;2OO;2FRANKS CASKET OS;4IS;4EH;4AC;4AESC;7+0TAGALOG b A;2I;2U;2KA;2GA;2cj;2TA;2DA;2NA;2PA",
   "2BA;2MA;2YA;2RA;2LA;2WA;2SA;2HA;1bc f I;3U;1f fa;2PAMUDPOD;9+1b kb RA;0HANUNOO b A;2I;2U;2KA",
   "2GA;2cj;2TA;2DA;2NA;2PA;2BA;2MA;2YA;2RA;2LA;2WA;2SA;2HA;1bc f I;3U;1f PAMUDPOD",
   "0PHILIPPINE cp eu;1p eu;9+0BUHID b A;2I;2U;2KA;2GA;2cj;2TA;2DA;2NA;2PA;2BA;2MA;2YA;2RA;2LA;2WA",
   "2SA;2HA;1bc f I;3U;C+0TAGBANWA b A;2I;2U;2KA;2GA;2cj;2TA;2DA;2NA;2PA;2BA;2MA;2YA;1+2LA;2WA;2SA",
   "1+1bc f I;3U;C+0KHMER b KA;2cy;2KO;2KHO;2NGO;2CA;2cr;2CO;2CHO;2NYO;2DA;2ey;2DO;2TTHO;2NNO;2TA",
   "2df;2TO;2THO;2NO;2BA;2dr;2PO;2PHO;2MO;2YO;2RO;2LO;2VO;2cl;2SSO;2SA;2HA;2LA;2QA;1rl bc QAQ;3QAA",
   "3QI;3QII;3QU;3QUK;3QUU;3QUUV;3RY;3RYY;3LY;3LYY;3QE;3QAI;3QOO TYPE o;5l;3QAU;1bc INHERENT AQ",
   "3AA;2f AA;3I;3II;3Y;3YY;3U;3UU;3UA;3OE;3YA;3IE;3E;3AE;3AI;3OO;3AU;1f NIKAHIT;2REAHMUK",
   "2YUUKALEAPINTU;2MUUSIKATOAN;2TRIISAP;2BANTOC;2ROBAT;2TOANDAKHIAT;2KAKABAT;2AHSDA",
   "2SAMYOK SANNYA;2VIRIAM;2COENG;2BATHAMASAT;2KHAN;2BARIYOOSAN;2CAMNUC PII KUUH;2LEK TOO;2BEYYAL",
   "2PHNAEK MUAN;2KOOMUUT;1wk z RIEL;1f AVAKRAHASANYA;2ATTHACAN;2+1bh bt;2o;2l;2s;2w;2aa;2ag;2an",
   "2ah;2ar;6+1z LEK ATTAK SON;4MUOY;4PII;4BEI;4BUON;4PRAM;4PRAM-MUOY;4PRAM-PII;4PRAM-BEI",
   "4PRAM-BUON;6+0MONGOLIAN qn;1sc;1de;1ec ck;1gp;1w aw;1TODO nh oo;1SIBE ll BOUNDARY sz",
   "1MANCHU de;2ec ck;1NIRUGU;1FREE wg SELECTOR o;4l;4s;1bc ir;1FREE wg SELECTOR w;1bh bt;2o;2l;2s",
   "2w;2aa;2ag;2an;2ah;2ar;6+1b A;2E;2I;2O;2U;2OE;2UE;2EE;2NA;2ANG;2BA;2PA;2QA;2GA;2MA;2LA;2SA;2cl",
   "2TA;2DA;2cr;2JA;2YA;2RA;2WA;2FA;2KA;2cy;2hb;2ZA;2HAA;2ZRA;2LHA;2ZHI;2CHI;2TODO cb bc f;3E;3I",
   "3O;3U;3OE;3UE;3ANG;3BA;3PA;3QA;3GA;3MA;3TA;3DA;3cr;3JA;3hb;3YA;3WA;3KA;3GAA;3HAA;3JIA;3NIA",
   "3DZA;2SIBE E;3I;3IY;3UE;3U;3ANG;3KA;3GA;3HA;3PA;3cl;3TA;3DA;3JA;3FA;3GAA;3HAA;3hb;3ZA;3RAA;3cr",
   "3ZHA;2MANCHU I;3KA;3RA;3FA;3ZHA;2cr a l aw;7+2ALI GALI ed o;4ft o;4DAMARU;4UBADAMA;4cu UBADAMA",
   "4BALUDA;4s BALUDA;4A;4I;4KA;4cj;4CA;4ee;4ey;4ef;4eq;4TA;4DA;4PA;4dr;4fh;4ZHA;4ZA;4AH",
   "2TODO ALI GALI TA;5ZHA;2MANCHU ALI GALI ej;5cj;5CA;5fv;5ee;5fg;5TA;5eh;5fh;5CYA;5ZHA;5ZA",
   "2ALI GALI ao U;5YA;2MANCHU ALI GALI et;2ALI GALI DAGALGA;2MANCHU ALI GALI LHA",
   "5+0CANADIAN SYLLABICS OY;2AY;2AAY;2WAY;2POY;2PAY;2PWOY;2TAY;2KAY;2KWAY;2MAY;2NOY;2NAY;2LAY",
   "2SOY;2SAY;2SHOY;2SHAY;2SHWOY;2YOY;2YAY;2RAY;2NWI;2OJIBWAY NWI;2NWII;2OJIBWAY NWII;2NWO",
   "2OJIBWAY NWO;2NWOO;2OJIBWAY NWOO;2RWEE;2RWI;2RWII;2RWO;2RWOO;2RWA;2OJIBWAY P;3T;3K;3C;3M;3N;3S",
   "3SH;2EASTERN W;2WESTERN W;2n c bi;3ic q;2R-CREE RWE;2bu LOO;3LAA;2THWE;2THWA;2TTHWE;2TTHOO",
   "2TTHAA;2TLHWE;2TLHOO;2rh SHWE;3SHOO;3HOO;2pi GWU;3DENE GEE;3GAA;3GWA;2rh JUU;2pi JWA",
   "2BEAVER DENE L;4R;2pi DENTAL S;A+0LIMBU VOWEL-CARRIER b;1b KA;2cy;2GA;2ej;2cj;2CA;2cr;2JA;2fv",
   "2YAN;2TA;2df;2DA;2eh;2NA;2PA;2dr;2BA;2et;2MA;2YA;2RA;2LA;2WA;2cl;2fh;2SA;2HA;2GYAN;2TRA",
   "1+1bc f A;3I;3U;3EE;3AI;3OO;3AU;3E;3O;1uu b YA;3RA;3WA;4+1c b KA;3cj;3ed;3TA;3NA;3PA;3MA;3RA",
   "3LA;1f MUKPHRENG;2KEMPHRENG;2SA-I;4+2LOO;3+1ia r;1hd r;1bh bt;2o;2l;2s;2w;2aa;2ag;2an;2ah;2ar",
   "0TAI LE b KA;3XA;3cj;3hb;3SA;3YA;3TA;3df;3LA;3PA;3dr;3MA;3FA;3VA;3HA;3QA;3cy;3mr;3NA;3A;3I;3EE",
   "3EH;3U;3OO;3O;3UE;3E;3AUE;3AI;2+3qf;3re;3ue;3qg;3TONE-6;B+0NEW TAI LUE b ci QA;4bn QA;4ci KA",
   "5XA;5cj;4bn KA;5XA;5cj;4ci hb;5SA;5YA;4bn hb;5SA;5YA;4ci TA;5df;5NA;4bn TA;5df;5NA;4ci PA;5dr",
   "5MA;4bn PA;5dr;5MA;4ci FA;5VA;5LA;4bn FA;5VA;5LA;4ci HA;5DA;5BA;4bn HA;5DA;5BA;4ci KVA;5XVA",
   "4bn KVA;5XVA;4ci SUA;4bn SUA;4+3bc f bc SHORTENER;5AA;5II;5U;5UU;5E;5AE;5O;5OA;5UE;5AY;5AAY",
   "5UY;5OY;5OAY;5UEY;5IY;3b n V;5NG;5N;5M;5K;5D;5B;3bx MARK-1;4MARK-2;6+3bh bt;4o;4l;4s;4w;4aa",
   "4ag;4an;4ah;4ar;3THAM bh o;3+3f LAE;4LAEV;0KHMER z PATHAMASAT;2MUOY ms;2PII ms;2BEI ms",
   "2BUON ms;2PRAM ms;2PRAM-MUOY ms;2PRAM-PII ms;2PRAM-BEI ms;2PRAM-BUON ms;2DAP ms;2DAP-MUOY ms",
   "2DAP-PII ms;2DAP-BEI ms;2DAP-BUON ms;2DAP-PRAM ms;2TUTEYASAT;2MUOY ROC;2PII ROC;2BEI ROC",
   "2BUON ROC;2PRAM ROC;2PRAM-MUOY ROC;2PRAM-PII ROC;2PRAM-BEI ROC;2PRAM-BUON ROC;2DAP ROC",
   "2DAP-MUOY ROC;2DAP-PII ROC;2DAP-BEI ROC;2DAP-BUON ROC;2DAP-PRAM ROC;0BUGINESE b KA;2GA;2cj",
   "2NGKA;2PA;2BA;2MA;2MPA;2TA;2DA;2NA;2NRA;2CA;2JA;2ct;2NYCA;2YA;2RA;2LA;2VA;2SA;2A;2HA;1bc f I",
   "3U;3E;3O;3AE;2+1PALLAWA;1gz OF iv;0TAI THAM b ci KA;4cy;4KXA;3bn KA;4KXA;4cy;3cj;3ci CA;4cr",
   "3bn CA;4SA;4cr;3ct;3RATA;3ci RATHA;3DA;3bn RATHA;3RANA;3ci TA;4df;3bn TA;4df;3NA;3BA;3ci PA",
   "4dr;4FA;3bn PA;4FA;4dr;3MA;3bn YA;3ci YA;3RA;3RUE;3LA;3LUE;3WA;3ci cl;4fh;4SA;4HA;3hw;3A",
   "3bn HA;3I;3II;3U;3UU;3EE;3OO;3LAE;3GREAT SA;2ja f bs RA;5LA;4LA TANG LAI;2f MAI KANG LAI",
   "2ja f n cj;4bn PA;4ci RATHA OR bn PA;4MA;4BA;4SA;1+2f SAKOT;2bc f A;4MAI SAT;4AA;4TALL AA;4I",
   "4II;4UE;4UUE;4U;4UU;4O;4OA m;4OY;4E;4AE;4OO;4AI;4THAM AI;4OA j;2f MAI KANG;3TONE-1;3qf",
   "3KHUEN re;4ue;4qg;3RA HAAM;3MAI SAM;3KHUEN-LUE KARAN;2+2fi qq q;2HORA bh bt;4o;4l;4s;4w;4aa",
   "4ag;4an;4ah;4ar;6+2THAM bh bt;4o;4l;4s;4w;4aa;4ag;4an;4ah;4ar;6+2f WIANG;3WIANGWAAK;3SAWAN",
   "3KEOW;3HOY;3DOKMAI;3cf da RANA;3MAI YAMOK;3KAAN;3KAANKUU;3SATKAAN;3SATKAANKUU;3HANG;3CAANG",
   "2+0fi DOUBLED cd fj;1DIAERESIS-RING;1uz;1bj h;1el q;1X-X m;1WIGGLY cs m;1by r m;1p by r m",
   "1bd xc y m;1STRONG xc y m;1PARENTHESES j;1p PARENTHESES j;1PARENTHESES m;2jc;1ea c b W m",
   "4bz W m;1k ew j k;1i ew j i;1k ew m k;1i ew m i;1at BRACKETS j;1cz f j;1cu p ARCH j;1al f j",
   "1p al f j;4m;1el bp fj;1ea c b kn G;5R;5T;31+0BALINESE f ULU RICEM;3mi;2CECEK;2SURANG;2BISAH",
   "1b AKARA;3oq;2IKARA;3oq;2UKARA;3oq;2RA REPA;4oq;2LA LENGA;4oq;2EKARA;2AIKARA;2OKARA;3oq;2KA",
   "3rs;2GA;3GORA;2cj;2CA;3LACA;2JA;3JERA;2ct;2TA LATIK;3pp rs;2DA pp ALPAPRANA;4rs;2NA RAMBAT;2TA",
   "3TAWA;2DA;3MADU;2NA;2PA;3KAPAL;2BA;3KEMBANG;2MA;2YA;2RA;2LA;2WA;2SA SAGA;3SAPA;2SA;2HA",
   "1f REREKAN;1bc f oq;3ULU;4SARI;3SUKU;4ILUT;3RA REPA;5oq;3LA LENGA;5oq;3TALING;4REPA;4oq",
   "4REPA oq;3PEPET;4oq;1ADEG ADEG;1b ha SASAK;2KHOT SASAK;2TZIR SASAK;2EF SASAK;2VE SASAK",
   "2ZAL SASAK;2ASYURA SASAK;2kb JNYA;3+1bh bt;2o;2l;2s;2w;2aa;2ag;2an;2ah;2ar;1PANTI;1PAMADA",
   "1WINDU;1CARIK PAMUNGKAH;2SIKI;2PAREREN;1PAMENENG;1ol z DONG;3DENG;3DUNG;3DANG;4SURANG;3DING",
   "3DAENG;3DEUNG;3DAING;3DANG GEDE;3fi TEGEH;4ENDEP;4KEMPUL;4KEMPLI;4JEGOGAN;4KEMPUL a JEGOGAN",
   "4KEMPLI a JEGOGAN;4BENDE;4GONG;3RIGHT-HAND by DUG;5DAG;4fz TUK;5TAK;3LEFT-HAND by PANG;5PUNG",
   "4fz PLAK;5PLUK;4by PING;1PANTI LANTANG;1PAMADA LANTANG;1+0SUNDANESE f PANYECEK;2PANGLAYAR",
   "2PANGWISAD;1b A;2I;2U;2AE;2O;2E;2EU;2KA;2QA;2GA;2cj;2CA;2JA;2ZA;2ct;2TA;2DA;2NA;2PA;2FA;2VA",
   "2BA;2MA;2YA;2RA;2LA;2WA;2SA;2XA;2HA;1ja f PAMINGKAL;3PANYAKRA;3PANYIKU;1bc f PANGHULU;3PANYUKU",
   "3PANAELAENG;3PANOLONG;3PAMEPET;3PANEULEUNG;1f PAMAAEH;2fa;1ja f PASANGAN MA;4WA;1b cy;2SYA",
   "1bh bt;2o;2l;2s;2w;2aa;2ag;2an;2ah;2ar;1lk;1b REU;2LEU;2et;2n K;3M;0BATAK b A;2pe A;2HA;2pe HA",
   "2MANDAILING HA;2BA;2KARO BA;2PA;2pe PA;2NA;2MANDAILING NA;2WA;2pe WA;2PAKPAK WA;2GA;2pe GA;2JA",
   "2DA;2RA;2pe RA;2MA;2pe MA;2SOUTHERN TA;2NORTHERN TA;2SA;2pe SA;2MANDAILING SA;2YA;2pe YA;2cj",
   "2LA;2pe LA;2ct;2CA;2NDA;2MBA;2I;2U;1f TOMPI;1bc f E;3PAKPAK E;3EE;3I;3KARO I;3O;3KARO O;3U",
   "4fp pe SA;1ja f NG;3H;1PANGOLAT;1PANONGONAN;8+1z BINDU NA METEK;3PINARBORAS;3JUDUL;3PANGOLAT",
   "0LEPCHA b KA;2KLA;2cy;2GA;2GLA;2cj;2CA;2cr;2JA;2ct;2TA;2df;2DA;2NA;2PA;2PLA;2dr;2FA;2FLA;2BA",
   "2BLA;2MA;2MLA;2hb;2mr;2DZA;2YA;2RA;2LA;2HA;2HLA;2VA;2SA;2cl;2WA;2A;1uu b YA;3RA;1bc f AA;3I;3O",
   "3OO;3U;3UU;3E;1ja f K;3M;3L;3N;3P;3R;3T;3NYIN-DO;3KANG;1f RAN;2io;3+1eu TA-ROL",
   "2NYET THYOOM TA-ROL;2CER-WA;2TSHOOK CER-WA;2TSHOOK;1bh bt;2o;2l;2s;2w;2aa;2ag;2an;2ah;2ar",
   "3+1b ee;2ey;2ef;0OL CHIKI bh bt;3o;3l;3s;3w;3aa;3ag;3an;3ah;3ar;2b LA;3AT;3AG;3ANG;3AL;3LAA",
   "3AAK;3AAJ;3AAM;3AAW;3LI;3IS;3IH;3INY;3IR;3LU;3UC;3UD;3UNN;3UY;3LE;3EP;3EDD;3EN;3ERR;3LO;3OTT",
   "3OB;3OV;3OH;2MU TTUDDAG;2GAAHLAA TTUDDAAG;2MU-GAAHLAA TTUDDAAG;2RELAA;2PHAARKAA;2AHAD",
   "2eu MUCAAD;3p MUCAAD;0mw c b pw VE;3LONG-LEGGED DE;3NARROW O;3WIDE ES;3TALL TE",
   "3THREE-LEGGED TE;3TALL HARD f;4YAT;3UNBLENDED UK;7+0wq MTAVRULI e b AN;4BAN;4GAN;4DON;4EN;4VIN",
   "4ZEN;4TAN;4IN;4KAN;4LAS;4MAN;4NAR;4ON;4PAR;4ZHAR;4RAE;4SAN;4TAR;4UN;4PHAR;4KHAR;4GHAN;4QAR;4gx",
   "4CHIN;4CAN;4JIL;4CIL;4CHAR;4XAN;4JHAN;4HAE;4HE;4HIE;4WE;4HAR;4HOE;4FI;4YN;4ELIFI;4bz GAN;4gi",
   "2+4AEN;4HARD f;4LABIAL f;0SUNDANESE eu BINDU SURYA;3PANGLONG;3PURNAMA;3CAKRA;3LEU SATANGA",
   "3KA SATANGA;3DA SATANGA;3BA SATANGA;8+0VEDIC bx KARSHANA;2SHARA;2PRENKHA;1f NIHSHVASA",
   "2YAJURVEDIC MIDLINE pz;1bx YAJURVEDIC AGGRAVATED rl pz;3rl pz;3KATHAKA rl pz;2mi m",
   "2YAJURVEDIC KATHAKA rl pz SCHROEDER;2p pz;2el pz;2KATHAKA wo;2q m;2l aw m;2s aw m",
   "2RIGVEDIC KASHMIRI rl pz;2ATHARVAVEDIC rl pz;1f ft pz;3UDATTA;2cf ft UDATTA;2ft wo;2cf ft wo",
   "2ft UDATTA a dq;3wo a dq;2ed ANTARGOMUKHA;3BAHIRGOMUKHA;3VAMAGOMUKHA;4a dq;2TIRYAK",
   "2HEXIFORM cb ed;2cb ed;2RTHANG cb ed;2ed UBHAYATO MUKHA;2ARDHAVISARGA;2da ARDHAVISARGA",
   "1bx mi j;1f uo;2up;2ATIKRAMA;1bx bi j;2p bi j;1f p ed ANTARGOMUKHA;5+0ea b c e A;4AE",
   "1c b bz AE;1b c e qc B;4C;4D;4ETH;4E;1c b bz by E;4I;1b c e J;4K;4L a y;4M;4cf N;4O;4by O",
   "1c b qw O;4by O;4O a y;3bz OE;1b c e OU;1c b ez ao O;3gj ao O;1b c e P;4cf R;4bz R;4T;4U",
   "1c b qw U;4DIAERESIZED U;4bz M;1b c e V;4W;4Z;4EZH;2qd LARYNGEAL SPIRANT;2gi;0im b c e jl;4nd",
   "4PI;4hv;4PSI;0mw b c e EL;0gv b e A;3AE;3B;3qc B;3D;3E;3cf E;3G;3H;3I;3J;3K;3L;3M;3N;3cf N;3O",
   "3OU;3P;3R;3T;3U;3W;2c A;3bz A;3gg;3bz AE;3B;3D;3E;3qk;3by E;3bz by E;3G;3bz I;3K;3M;3ENG;3O",
   "3by O;3ez ao O;3gj ao O;3P;3T;3U;3qw U;3bz M;3V;3gi;3kg;3im jl;3ju;3im PHI;3CHI;0ea tl c b I",
   "4R;4U;4V;0im tl c b kg;4jl;4hv;4PHI;4CHI;0ea c b UE;3B a ae bg;3D a ae bg;3F a ae bg",
   "3M a ae bg;3N a ae bg;3P a ae bg;3R a ae bg;5to g ae bg;3S a ae bg;3T a ae bg;3Z a ae bg;3bz G",
   "0gv b mw EN;0ea c b kn G;3TH a STRIKETHROUGH;2e b I a y;2b gq a y;3P a y;2e b U a y;2b hm a y",
   "3B a hf x;3D a hf x;3F a hf x;3G a hf x;3K a hf x;3L a hf x;3M a hf x;3N a hf x;3P a hf x",
   "3R a hf x;3S a hf x;3ESH a hf x;3V a hf x;3X a hf x;3Z a hf x;3A a ex x;3gg a ex x;3D a x g dq",
   "3E a ex x;3by E a ex x;3cf by E a ex x;3qk a ex x;3I a ex x;3by O a ex x;3ESH a ex x;3U a ex x",
   "3EZH a ex x;0gv b c bz gg;3C;4a jn;3ETH;3cf by E;3F;3my J a y;3ix G;3bz H;3I a y;3gq;3e I;5a y",
   "3J a qr;3L a ex x;5hf x;3e L;3M a x;3bz M a cb LEG;3N a k x;5ex x;3e N;3qc O;3PHI;3S a x;3ESH",
   "3T a hf x;3U ak;3hm;3e U;3V a x;3bz V;3Z;4a ex x;5jn;3EZH;3in;0fi fm cq fj;2bp fj;1SNAKE m",
   "1SUSPENSION r;1MACRON-ACUTE;1GRAVE-MACRON;1MACRON-GRAVE;1ACUTE-MACRON;1GRAVE-ACUTE-GRAVE",
   "1ACUTE-GRAVE-ACUTE;1ea c b R m;1BREVE-MACRON;1MACRON-BREVE;1p cd j;1mh j;1sy m;1IS m;1UR j",
   "1US j;1ea c b FLATTENED by A j;4AE;4AO;4AV;4C he;4kn D;4ETH;4G;2b c e G;2c b K;4L;2b c e L;5M",
   "2c b N;2b c e N;5R;2c b R ROTUNDA;4S;4cb S;4Z;4gg;4B;4kg;4qk;4F;4L a p ae bg;4O a bd xc y;4P",
   "4ESH;4U a bd xc y;4W;4A a ch;4O a ch;4U a ch;1UP gc j;1KAVYKA j i;3k;1q j k;1WIDE cu BRIDGE m",
   "1q m k;1DELETION r;1p cu do m;1lm ba TO m;1k cm j;1i cm g aq cm m;0ea e b A a bi m",
   "1c b A a bi m;1e b B a q j;1c b B a q j;1e b B a q m;1c b B a q m;1e b B a cs m;1c b B a cs m",
   "1e b C a he g bp;1c b C a he g bp;1e b D a q j;1c b D a q j;1e b D a q m;1c b D a q m",
   "1e b D a cs m;1c b D a cs m;1e b D a he;1c b D a he;1e b D a cd m;1c b D a cd m",
   "1e b E a cx g cq;1c b E a cx g cq;1e b E a cx g bp;1c b E a cx g bp;1e b E a cd m",
   "1c b E a cd m;1e b E a bg m;1c b E a bg m;1e b E a he g do;1c b E a he g do;1e b F a q j",
   "1c b F a q j;1e b G a cx;1c b G a cx;1e b H a q j;1c b H a q j;1e b H a q m;1c b H a q m",
   "1e b H a ch;1c b H a ch;1e b H a he;1c b H a he;1e b H a do m;1c b H a do m;1e b I a bg m",
   "1c b I a bg m;1e b I a ch g bp;1c b I a ch g bp;1e b K a bp;1c b K a bp;1e b K a q m",
   "1c b K a q m;1e b K a cs m;1c b K a cs m;1e b L a q m;1c b L a q m;1e b L a q m g cx",
   "1c b L a q m g cx;1e b L a cs m;1c b L a cs m;1e b L a cd m;1c b L a cd m;1e b M a bp",
   "1c b M a bp;1e b M a q j;1c b M a q j;1e b M a q m;1c b M a q m;1e b N a q j;1c b N a q j",
   "1e b N a q m;1c b N a q m;1e b N a cs m;1c b N a cs m;1e b N a cd m;1c b N a cd m",
   "1e b O a bg g bp;1c b O a bg g bp;1e b O a bg g ch;1c b O a bg g ch;1e b O a cx g cq",
   "1c b O a cx g cq;1e b O a cx g bp;1c b O a cx g bp;1e b P a bp;1c b P a bp;1e b P a q j",
   "1c b P a q j;1e b R a q j;1c b R a q j;1e b R a q m;1c b R a q m;1e b R a q m g cx",
   "1c b R a q m g cx;1e b R a cs m;1c b R a cs m;1e b S a q j;1c b S a q j;1e b S a q m",
   "1c b S a q m;1e b S a bp g q j;1c b S a bp g q j;1e b S a eo g q j;1c b S a eo g q j",
   "1e b S a q m g q j;1c b S a q m g q j;1e b T a q j;1c b T a q j;1e b T a q m;1c b T a q m",
   "1e b T a cs m;1c b T a cs m;1e b T a cd m;1c b T a cd m;1e b U a ch m;1c b U a ch m",
   "1e b U a bg m;1c b U a bg m;1e b U a cd m;1c b U a cd m;1e b U a bg g bp;1c b U a bg g bp",
   "1e b U a cx g ch;1c b U a cx g ch;1e b V a bg;1c b V a bg;1e b V a q m;1c b V a q m",
   "1e b W a cq;1c b W a cq;1e b W a bp;1c b W a bp;1e b W a ch;1c b W a ch;1e b W a q j",
   "1c b W a q j;1e b W a q m;1c b W a q m;1e b X a q j;1c b X a q j;1e b X a ch;1c b X a ch",
   "1e b Y a q j;1c b Y a q j;1e b Z a cd;1c b Z a cd;1e b Z a q m;1c b Z a q m;1e b Z a cs m",
   "1c b Z a cs m;3H a cs m;3T a ch;3W a bi j;3Y a bi j;3A a i ao bi;3cb S a q j;6en y;6ci y",
   "1e b SHARP S;1c b ju;1e b A a q m;1c b A a q m;1e b A a x j;1c b A a x j;1e b A a cd g bp",
   "1c b A a cd g bp;1e b A a cd g cq;1c b A a cd g cq;1e b A a cd g x j;1c b A a cd g x j",
   "1e b A a cd g bg;1c b A a cd g bg;1e b A a cd g q m;1c b A a cd g q m;1e b A a do g bp",
   "1c b A a do g bp;1e b A a do g cq;1c b A a do g cq;1e b A a do g x j;1c b A a do g x j",
   "1e b A a do g bg;1c b A a do g bg;1e b A a do g q m;1c b A a do g q m;1e b E a q m",
   "1c b E a q m;1e b E a x j;1c b E a x j;1e b E a bg;1c b E a bg;1e b E a cd g bp",
   "1c b E a cd g bp;1e b E a cd g cq;1c b E a cd g cq;1e b E a cd g x j;1c b E a cd g x j",
   "1e b E a cd g bg;1c b E a cd g bg;1e b E a cd g q m;1c b E a cd g q m;1e b I a x j",
   "1c b I a x j;1e b I a q m;1c b I a q m;1e b O a q m;1c b O a q m;1e b O a x j;1c b O a x j",
   "1e b O a cd g bp;1c b O a cd g bp;1e b O a cd g cq;1c b O a cd g cq;1e b O a cd g x j",
   "1c b O a cd g x j;1e b O a cd g bg;1c b O a cd g bg;1e b O a cd g q m;1c b O a cd g q m",
   "1e b O a gb g bp;1c b O a gb g bp;1e b O a gb g cq;1c b O a gb g cq;1e b O a gb g x j",
   "1c b O a gb g x j;1e b O a gb g bg;1c b O a gb g bg;1e b O a gb g q m;1c b O a gb g q m",
   "1e b U a q m;1c b U a q m;1e b U a x j;1c b U a x j;1e b U a gb g bp;1c b U a gb g bp",
   "1e b U a gb g cq;1c b U a gb g cq;1e b U a gb g x j;1c b U a gb g x j;1e b U a gb g bg",
   "1c b U a gb g bg;1e b U a gb g q m;1c b U a gb g q m;1e b Y a cq;1c b Y a cq;1e b Y a q m",
   "1c b Y a q m;1e b Y a x j;1c b Y a x j;1e b Y a bg;1c b Y a bg;1e b xn LL;1c b xn LL;1e b xn V",
   "1c b xn V;1e b Y a kt;1c b Y a kt;0im c b gg a cg;5ce;5cg g dc;5ce g dc;5cg g dd;5ce g dd",
   "5cg g er;5ce g er;1e b gg a cg;5ce;5cg g dc;5ce g dc;5cg g dd;5ce g dd;5cg g er;5ce g er",
   "1c b ib a cg;5ce;5cg g dc;5ce g dc;5cg g dd;5ce g dd;2+1e b ib a cg;5ce;5cg g dc;5ce g dc",
   "5cg g dd;5ce g dd;2+1c b ETA a cg;5ce;5cg g dc;5ce g dc;5cg g dd;5ce g dd;5cg g er;5ce g er",
   "1e b ETA a cg;5ce;5cg g dc;5ce g dc;5cg g dd;5ce g dd;5cg g er;5ce g er;1c b gq a cg;5ce",
   "5cg g dc;5ce g dc;5cg g dd;5ce g dd;5cg g er;5ce g er;1e b gq a cg;5ce;5cg g dc;5ce g dc",
   "5cg g dd;5ce g dd;5cg g er;5ce g er;1c b km a cg;5ce;5cg g dc;5ce g dc;5cg g dd;5ce g dd",
   "2+1e b km a cg;5ce;5cg g dc;5ce g dc;5cg g dd;5ce g dd;2+1c b hm a cg;5ce;5cg g dc;5ce g dc",
   "5cg g dd;5ce g dd;5cg g er;5ce g er;1+1e b hm a ce;1+6g dc;1+7dd;1+7er;1c b fo a cg;5ce",
   "5cg g dc;5ce g dc;5cg g dd;5ce g dd;5cg g er;5ce g er;1e b fo a cg;5ce;5cg g dc;5ce g dc",
   "5cg g dd;5ce g dd;5cg g er;5ce g er;1c b gg a dc;5dd;3ib a dc;5dd;3ETA a dc;5dd;3gq a dc;5dd",
   "3km a dc;5dd;3hm a dc;5dd;3fo a dc;5dd;2+3gg a cg g fl;5ce g fl;5cg g dc g fl;5ce g dc g fl",
   "5cg g dd g fl;5ce g dd g fl;5cg g er g fl;5ce g er g fl;1e b gg a cg g hl;5ce g hl",
   "5cg g dc g hl;5ce g dc g hl;5cg g dd g hl;5ce g dd g hl;5cg g er g hl;5ce g er g hl",
   "1c b ETA a cg g fl;5ce g fl;5cg g dc g fl;5ce g dc g fl;5cg g dd g fl;5ce g dd g fl",
   "5cg g er g fl;5ce g er g fl;1e b ETA a cg g hl;5ce g hl;5cg g dc g hl;5ce g dc g hl",
   "5cg g dd g hl;5ce g dd g hl;5cg g er g hl;5ce g er g hl;1c b fo a cg g fl;5ce g fl",
   "5cg g dc g fl;5ce g dc g fl;5cg g dd g fl;5ce g dd g fl;5cg g er g fl;5ce g er g fl",
   "1e b fo a cg g hl;5ce g hl;5cg g dc g hl;5ce g dc g hl;5cg g dd g hl;5ce g dd g hl",
   "5cg g er g hl;5ce g er g hl;1c b gg a VRACHY;5cx;5dc g fl;5fl;5dd g fl;1+5er;6g fl",
   "1e b gg a VRACHY;5cx;5dc;5dd;5hl;1KORONIS;1hl;1cg;1er;1mv g er;1c b ETA a dc g fl;5fl;5dd g fl",
   "1+5er;6g fl;1e b ib a dc;5dd;3ETA a dc;5dd;5hl;1cg g dc;3dd;3er;1c b gq a VRACHY;5cx;5mv g dc",
   "7dd;2+5er;5mv g er;1e b gq a VRACHY;5cx;5dc;5dd;1+1ce g dc;3dd;3er;1c b hm a VRACHY;5cx",
   "5mv g dc;7dd;3hv a cg;5ce;3hm a er;5mv g er;1e b hm a VRACHY;5cx;5dc;5dd;3hv a ce;1mv g dc;3dd",
   "1dc;2+1c b fo a dc g fl;5fl;5dd g fl;1+5er;6g fl;1e b km a dc;5dd;3fo a dc;5dd;5hl;1dd;1ce",
   "1+0EN ni;0EM ni;0EN jk;0EM jk;0THREE-PER-EM jk;0FOUR-PER-EM jk;0SIX-PER-EM jk;0FIGURE jk",
   "0eu jk;0THIN jk;0HAIR jk;0bt WIDTH jk;2NON-JOINER;2ub;0vx r;0xf r;0oo;0NON-BREAKING oo",
   "0FIGURE fc;0EN fc;0EM fc;0bf ak;0p af cs;1bn cs;0k cp gu r;0i cp gu r;0cp LOW-9 gu r",
   "1HIGH-REVERSED-9 gu r;0k p gu r;0i p gu r;0p LOW-9 gu r;1HIGH-REVERSED-9 gu r;0DAGGER",
   "0p DAGGER;0na;0jf na;0o q LEADER;0l q LEADER;0bf sc;0HYPHENATION nz;0cs ir;0wf ir",
   "0vx EMBEDDING;0xf EMBEDDING;0POP DIRECTIONAL FORMATTING;0vx OVERRIDE;0xf OVERRIDE",
   "0NARROW NO-BREAK jk;0PER MILLE f;1cc az f;0ov;0p ov;0el ov;0cf ov;1p ov;1el ov;0qm",
   "0cp jt dy gu r;1ip dy gu r;0REFERENCE r;0p ia r;0wa;0sa;0UNDERTIE;0qu TIE;0qm INSERTION nz",
   "0ASTERISM;0oo na;0jy ls;0k at as a QUILL;0i at as a QUILL;0p hd r;0hd ia r;0ia hd r",
   "0TIRONIAN f ET;0cf PILCROW f;0t am na;1ac na;0bn ek;0cf oi;0CLOSE UP;0l ASTERISKS ALIGNED tj",
   "0wb kp f;0SWUNG fc;0cu UNDERTIE;0FLOWER eu r;0s q eu;0pg ov;0w q eu;0aa q eu;0l q eu;0w q r",
   "0fm em;0TRICOLON;0af w aw;0bq ul jk;0mq ub;0FUNCTION APPLICATION;0INVISIBLE ai;1ir;1al",
   "1+0vx ISOLATE;0xf ISOLATE;0FIRST STRONG ISOLATE;0POP DIRECTIONAL ISOLATE",
   "0INHIBIT SYMMETRIC SWAPPING;0ACTIVATE SYMMETRIC SWAPPING;0INHIBIT kc d SHAPING",
   "0ACTIVATE kc d SHAPING;0NATIONAL bh SHAPES;0NOMINAL bh SHAPES;0nk bt;1ea c b I;2+1w;1aa;1ag",
   "1an;1ah;1ar;1al f;1kp;1fy f;1k ew;1i ew;1ea c b N;0tl bt;1o;1l;1s;1w;1aa;1ag;1an;1ah;1ar;1al f",
   "1kp;1fy f;1k ew;1i ew;1+0ea tl c b A;4E;4O;4X;4qk;4H;4K;4L;4M;4N;4P;4S;4T;3+0EURO-CURRENCY f",
   "0gp f;0CRUZEIRO f;0FRENCH FRANC f;0LIRA f;0MILL f;0NAIRA f;0PESETA f;0RUPEE f;0WON f",
   "0NEW SHEQEL f;0DONG f;0EURO f;0KIP f;0TUGRIK f;0DRACHMA f;0GERMAN PENNY f;0PESO f;0GUARANI f",
   "0AUSTRAL f;0HRYVNIA f;0CEDI f;0LIVRE TOURNOIS f;0SPESMILO f;0TENGE f;0INDIAN RUPEE f",
   "0TURKISH LIRA f;0NORDIC r f;0MANAT f;0RUBLE f;0LARI f;0BITCOIN f;0SOM f;F+0fi k dp j;1i dp j",
   "1cb af cs jc;1eb af cs jc;1ki h j;1nl h j;1k h j;1i h j;1bi jc;1nl bi jc;1ki bi jc;1s aw j",
   "1w aw j;1ENCLOSING av;2at;2ff;2av tm;1k i h j;1ENCLOSING SCREEN;2KEYCAP;2UPWARD cv bk",
   "1jq iu jc;1p af y jc;1ANNUITY z;1el UNDERDOT;1WIDE BRIDGE j;1am h jc;1cb p iu jc",
   "1ac dp a bm bj;1am dp a bm bj;1k h m;1i h m;1ek j;F+0ACCOUNT OF;0ADDRESSED TO fr SUBJECT",
   "0pd e C;0DEGREE CELSIUS;0dn cs z;0CARE OF;0CADA UNA;0EULER CONSTANT;0SCRUPLE",
   "0DEGREE FAHRENHEIT;0ix c G;1e H;0vz e H;0pd e H;0PLANCK CONSTANT;2ay l PI;0ix e I;0vz e I",
   "0ix e L;1c L;0L B ak z;0pd e N;0NUMERO f;0lf RECORDING COPYRIGHT;0ix e P;0pd e P;2Q;0ix e R",
   "0vz e R;0pd e R;0PRESCRIPTION TAKE;0RESPONSE;0SERVICE r;0oj f;0TRADE r f;0VERSICLE;0pd e Z",
   "0OUNCE f;0OHM f;0cu OHM f;0vz e Z;0bz im c b gq;0KELVIN f;0ANGSTROM f;0ix e B;0vz e C",
   "0ESTIMATED z;0ix c E;1e E;2F;0bz e F;0ix e M;1c O;0bb z;0BET z;0lr z;0DALET z",
   "0INFORMATION SOURCE;0da e Q;0FACSIMILE f;0pd c PI;2jl;1e jl;2PI;1N-ARY SUMMATION;0bz iz e G;3L",
   "0cf iz e L;0bz iz e Y;0pd pl e D;2c D;3E;3I;3J;0PROPERTY cs;0bz ro;0PER f;0AKTIESELSKAB",
   "0bz c F;0z fp SAMARITAN SOURCE;0VULGAR jy o SEVENTH;3NINTH;3TENTH;3ob;2l ri;2o FIFTH;2l FIFTHS",
   "2s FIFTHS;2w FIFTHS;2o SIXTH;2aa SIXTHS;2o ht;2s mg;2aa mg;2an mg;0jy NUMERATOR o;0ROMAN pv o",
   "2l;2s;2w;2aa;2ag;2an;2ah;2ar;2cc;2or;2nb;2gh;2o ap;2aa ap;2o az;0c ROMAN pv o;3l;3s;3w;3aa;3ag",
   "3an;3ah;3ar;3cc;3or;3nb;3gh;3o ap;3aa ap;3o az;0ROMAN pv o az C D;2aa az;2cc az;2cf o ap",
   "0ea c b cf C;0ROMAN pv ag LATE d;2gh EARLY d;3az;2o ap az;0VULGAR jy bt ri;0bz bh l;2s;4+0am h",
   "0bo h;0ac h;0bj h;0k i h;0UP aq h;0eg du h;1db h;0ev db h;1du h;0am h a y;0ac h a y;0am jo h",
   "0ac jo h;0am l HEADED h;0bo l HEADED h;0ac l HEADED h;0bj l HEADED h;0am h a dq;0ac h a dq",
   "0am h gr ak;0bo h gr ak;0ac h gr ak;0bj h gr ak;0UP aq h a BASE;0am h a x;0ac h a x;0am h a kt",
   "0ac h a kt;0k i jo h;2h a y;0bj sy h;0bo h a TIP am;4ac;0bj h a TIP am;4ac;0ac h a gk bj",
   "0bj h a gk am;0ki ez wd h;0nl ez wd h;0eg du h TO cb ak;0am h TO ak ay ac h TO ak;0ki by av h",
   "0nl by av h;0am dp a bm bo;4bj;0bo dp a bm ac;4am;0ac dp a bm bo;4bj;0bj dp a bm ac;4am",
   "0ac h ay am h;0bo h am OF bj h;0am h ay ac h;1tc lo;0bo tc lo;0ac tc lo;0bj tc lo",
   "0am dp ay ac dp;0ac dp ay am dp;0am p h a y;0k i p h a y;0ac p h a y;0am p h;0bo p h;0ac p h",
   "0bj p h;0k i p h;0UP aq p h;0eg du p h;1db p h;0ev db p h;1du p h;0am el h;0ac el h",
   "0am SQUIGGLE h;0ac SQUIGGLE h;0bo h a p y;0bj h a p y;0am nx h;0bo nx h;0ac nx h;0bj nx h",
   "0am h TO ak;0ac h TO ak;0am v h;0bo v h;0ac v h;0bj v h;0bo v h gr ak;3ON PEDESTAL;5a bf ak",
   "6af ak;2p h;4ON PEDESTAL;0ac v h gr WALL;0eg du h TO gk;0ev db h TO gk;0UP aq v h;0i h a c av",
   "0bj h am OF bo h;0s ac lo;0am h a af y;0ac h a af y;0k i h a af y;0am h a p af y",
   "0ac h a p af y;0k i h a p af y;0am OPEN-HEADED h;0ac OPEN-HEADED h;0k i OPEN-HEADED h;0fp ALL",
   "0COMPLEMENT;0vk um;0THERE EXISTS;1DOES dh EXIST;0EMPTY SET;0INCREMENT;0NABLA;0qa OF",
   "0dh AN qa OF;0c qa OF;0sd AS MEMBER;0DOES dh CONTAIN AS MEMBER;0c sd AS MEMBER;0gz OF PROOF",
   "0N-ARY nq;1COPRODUCT;1SUMMATION;0kp f;0MINUS-OR-PLUS f;0q al;0rz ls;0SET kp;0ek es;0bi es",
   "0na es;0at ROOT;0CUBE ROOT;0FOURTH ROOT;0PROPORTIONAL TO;0uz;0i dy;0dy;0wr dy;0SPHERICAL dy",
   "0DIVIDES;0DOES dh DIVIDE;0se TO;0dh se TO;0nr g;1OR;0kx;0lg;0jz;0p jz;0el jz;0CONTOUR jz",
   "0SURFACE jz;0VOLUME jz;0nl jz;1CONTOUR jz;0ki CONTOUR jz;0THEREFORE;0BECAUSE;0RATIO",
   "0PROPORTION;0q kp;0EXCESS;0GEOMETRIC PROPORTION;0HOMOTHETIC;0bg es;0cf bg;0cu LAZY S;0SINE jo",
   "0WREATH nq;0dh bg;0kp bg;0ASYMPTOTICALLY ba TO;0dh ASYMPTOTICALLY ba TO;0vy ba TO",
   "1BUT dh ACTUALLY ba TO;0NEITHER vy NOR ACTUALLY ba TO;0lm ba TO;0dh lm ba TO;0lm ba OR ba TO",
   "0el bg;0ALL ba TO;0mb TO;0GEOMETRICALLY mb TO;0DIFFERENCE kz;0APPROACHES fr LIMIT",
   "0GEOMETRICALLY ba TO;0vy ba TO OR fr IMAGE OF;0IMAGE OF OR vy ba TO;0gp fy;0fy gp;0bi IN ba TO",
   "1ba TO;0CORRESPONDS TO;0ESTIMATES;0EQUIANGULAR TO;0dl fy;0ju ba TO;0ba TO BY DEFINITION;0wr BY",
   "0QUESTIONED ba TO;0dh ba TO;0IDENTICAL TO;0dh IDENTICAL TO;0STRICTLY mb TO;0dg OR ba TO",
   "0di OR ba TO;0dg ay ba TO;0di ay ba TO;0dg BUT dh ba TO;0di BUT dh ba TO;0MUCH dg;1di;0kz",
   "0dh mb TO;1dg;1di;0NEITHER dg NOR ba TO;1di NOR ba TO;0dg OR mb TO;0di OR mb TO",
   "0NEITHER dg NOR mb TO;1di NOR mb TO;0dg OR di;0di OR dg;0NEITHER dg NOR di;1di NOR dg;0nn;0no",
   "0nn OR ba TO;0no OR ba TO;0nn OR mb TO;0no OR mb TO;0DOES dh PRECEDE;2SUCCEED;0id OF;0it OF",
   "0dh A id OF;2it OF;0id OF OR ba TO;0it OF OR ba TO;0NEITHER A id OF NOR ba TO;2it OF NOR ba TO",
   "0id OF a dh ba TO;0it OF a dh ba TO;0MULTISET;1pc;1lg;0at IMAGE OF;1ws OF;1IMAGE OF OR ba TO",
   "1ws OF OR ba TO;1CAP;1CUP;0ds al;1kp;1ai;1rz ls;1q es;1bi es;1ek es;1fy;1fc;0fx al;1kp;1ai",
   "1q es;0i gc;0k gc;0aq gc;0UP gc;0ASSERTION;0MODELS;0TRUE;0FORCES;0el af ak i rt",
   "0p af ak p i rt;0DOES dh PROVE;0dh TRUE;0DOES dh FORCE;0NEGATED p af ak p i rt",
   "0nn UNDER RELATION;0no UNDER RELATION;0qh sf OF;0sd AS qh sf;0qh sf OF OR ba TO",
   "0sd AS qh sf OR ba TO;0ws OF;0IMAGE OF;0MULTIMAP;0HERMITIAN CONJUGATE MATRIX;0INTERCALATE;0XOR",
   "0NAND;0NOR;0i dy a ARC;1bk;0N-ARY nr g;2OR;1kx;1lg;0ff es;0q es;0dl es;0rz ai;0BOWTIE",
   "0k qh FACTOR we nq;0i qh FACTOR we nq;0k we nq;0i we nq;0cf bg fy;0ie nr OR;2g;0p id;1it;1kx",
   "1lg;0PITCHFORK;0ba g se TO;0dg a q;0di a q;0hr MUCH dg;2di;0dg ba TO OR di;0di ba TO OR dg",
   "0ba TO OR dg;3di;3nn;3no;0DOES dh PRECEDE OR ba;2SUCCEED OR ba;0dh at IMAGE OF OR ba TO",
   "2ws OF OR ba TO;0at IMAGE OF OR dh ba TO;1ws OF OR dh ba TO;0dg BUT dh mb TO;0di BUT dh mb TO",
   "0nn BUT dh mb TO;0no BUT dh mb TO;0dh qh sf OF;0DOES dh CONTAIN AS qh sf;0dh qh sf OF OR ba TO",
   "0DOES dh CONTAIN AS qh sf OR ba;0af sc;0MIDLINE bf sc;0UP i en sc;0aq i en sc;0qa OF a cb bf y",
   "3af ak AT gz OF bf y;0c qa OF a af ak AT gz OF bf y;0qa OF a q j;3ns;0c qa OF a ns;0qa OF a ik",
   "3l bf STROKES;0sd a cb bf y;2af ak AT gz OF bf y;0c sd a af ak AT gz OF bf y;0sd a ns",
   "0c sd a ns;0Z sg BAG MEMBERSHIP;0DIAMETER f;0ELECTRIC h;0HOUSE;0UP cm;0aq cm;0PROJECTIVE",
   "0PERSPECTIVE;0WAVY cs;0k ra;0i ra;0k qo;0i qo;0gj i CROP;1k CROP;0ez i CROP;1k CROP;0cf dh f",
   "0at nt;0ARC;0SEGMENT;0SECTOR;0oj RECORDER;0POSITION rp;0VIEWDATA at;0PLACE OF INTEREST f",
   "0bz dh f;0WATCH;0HOURGLASS;0ez k gk;1i gk;0gj k gk;1i gk;0ez ao jz;0gj ao jz;0FROWN;0SMILE",
   "0UP cm kz l bf BARS;0OPTION KEY;0ERASE TO fr i;0X IN A tn hy;0wt;0jt dy as;0ip dy as",
   "0ERASE TO fr k;0BENZENE bi;0CYLINDRICITY;0ALL AROUND-PROFILE;0SYMMETRY;0TOTAL RUNOUT",
   "0DIMENSION ORIGIN;0CONICAL TAPER;0SLOPE;0COUNTERBORE;0COUNTERSINK;0APL FUNCTIONAL z I-BEAM",
   "3SQUISH ni;3ni ba;4DIVIDE;4ff;4JOT;4av;3av STILE;4JOT;3ls ak;3tm ak;3ni ls;4tm;4dg;4di",
   "3am VANE;3ac VANE;3ni am h;4ac h;3av tm;3aq gc ik;3ju STILE;3ni aq qm;4ju;3aq gc JOT;3bo VANE",
   "3ni bo h;3UP gc ns;3DEL STILE;3ni UP qm;4DEL;3UP gc JOT;3bj VANE;3ni bj h;3QUOTE ik;3ju ik",
   "3ff ik;3JOT ik;3av ik;3UP SHOE JOT;3QUOTE ni;3av dl;3ni gp;3UP gc ch;3DEL ch;3dl ch;3JOT ch",
   "3av ch;3aq SHOE STILE;3k SHOE STILE;3bg ch;3di ch;3de ak;3DEL bg;3ZILDE;3STILE bg;3oi ik",
   "3ni dh ba;4hd;3aq qm bg;3UP qm bg;3gq;3hv;3fo;3gg ik;3ib ik;3gq ik;3fo ik;3gg;0dh oz r",
   "0i dy a bj sy h;0SHOULDERED by hy;0BELL z;0af cs a ae q;0INSERTION z;0CONTINUOUS UNDERLINE z",
   "0DISCONTINUOUS UNDERLINE z;0EMPHASIS z;0COMPOSITION z;0v at a dn af cs;0ENTER z",
   "0ALTERNATIVE KEY z;0HELM z;0ds bf ak a NOTCH;1bk aq;0BROKEN av a NORTHWEST h;0UNDO z",
   "0MONOSTABLE z;0HYSTERESIS z;0OPEN-CIRCUIT-OUTPUT H-TYPE z;1L-TYPE z",
   "0PASSIVE-PULL-DOWN-OUTPUT z;0PASSIVE-PULL-UP-OUTPUT z;0DIRECT CURRENT z d l",
   "0SOFTWARE-FUNCTION z;0APL FUNCTIONAL z ni;0DECIMAL ir KEY z;0PREVIOUS PAGE;0NEXT PAGE",
   "0PRINT SCREEN z;0CLEAR SCREEN z;0k ew bv x;2ru;2bl x;0i ew bv x;2ru;2bl x;0k at as bv gk;3ru",
   "3bl gk;0i at as bv gk;3ru;3bl gk;0k ie as bv x;3ae PIECE;3bl x;0ie as ru;0i ie as bv x",
   "3ae PIECE;3bl x;0jz ru;0bf cs ru;0bv k OR bl i ie as iv;1i OR bl k ie as iv;0SUMMATION ez;1gj",
   "0ez at as;0gj at as;3ay ez at as;0RADICAL z gj;0k af hy cs;0i af hy cs;0bf SCAN LINE-1;2LINE-3",
   "2LINE-7;2LINE-9;0DENTISTRY z bd af g ez i;5gj i;4a av;3aq g bf a av;3UP g bf a av;3af a bk",
   "3aq g bf a bk;3UP g bf a bk;3af g jo;3aq g bf a jo;3UP g bf a jo;3aq g bf;3UP g bf;3af g ez k",
   "5gj k;0at FOOT;0RETURN z;0EJECT z;0af cs ru;0METRICAL do;1cb ay eb;1eb ay cb;1cb ay l SHORTS",
   "1l SHORTS ay cb;3JOINED;1TRISEME;1TETRASEME;1PENTASEME;0nf GROUND;0FUSE;0ez ew;0gj ew",
   "0ez ie as;0gj ie as;0ez kl iy as;0gj kl iy as;0v TRAPEZIUM;0BENZENE bi a av;0STRAIGHTNESS",
   "0FLATNESS;0AC CURRENT;0ELECTRICAL kx;0DECIMAL EXPONENT z;0t ip p bk;1jt p bk;1mu p bk;1og p bk",
   "1ip p bk a af ak;1jt p bk a af ak;1ip bk a p af ak;0ALARM CLOCK;0STOPWATCH;0TIMER CLOCK",
   "0HOURGLASS a FLOWING SAND;0t bq jt bk;2ip bk;2mu bk;2og bk;0p af ak;0t at fp ck;1av fp RECORD",
   "0POWER z;1ON-OFF z;1ON z;1SLEEP z;0OBSERVER EYE z;0z fp NULL;2START OF HEADING;4TEXT",
   "2gz OF TEXT;4TRANSMISSION;2ENQUIRY;2ACKNOWLEDGE;2BELL;2BACKSPACE;2bf TABULATION;2cs FEED",
   "2af TABULATION;2d FEED;2CARRIAGE RETURN;2SHIFT OUT;3IN;2DATA LINK ESCAPE;2DEVICE CONTROL o;4l",
   "4s;4w;2md ACKNOWLEDGE;2SYNCHRONOUS IDLE;2gz OF TRANSMISSION dk;2CANCEL;2gz OF bq;2SUBSTITUTE",
   "2ESCAPE;2FILE ir;2GROUP ir;2RECORD ir;2UNIT ir;2jk;2DELETE;0BLANK z;0by hy;0z fp NEWLINE",
   "2DELETE d l;2SUBSTITUTE d l;19+0OCR x;1CHAIR;1FORK;1cu FORK;1BELT BUCKLE;1BOW TIE",
   "1BRANCH BANK IDENTIFICATION;1AMOUNT OF oz;1fc;1CUSTOMER ACCOUNT cz;1p tm;15+0ds bh o;2l;2s;2w",
   "2aa;2ag;2an;2ah;2ar;1cz cc;2or;2nb;2sh;2si;2pj;2px;2rv;2qx;2sj;2fb;0xg bh o;2l;2s;2w;2aa;2ag",
   "2an;2ah;2ar;1cz cc;2or;2nb;2sh;2si;2pj;2px;2rv;2qx;2sj;2fb;0bh o ec ck;1l ec ck;1s ec ck",
   "1w ec ck;1aa ec ck;1ag ec ck;1an ec ck;1ah ec ck;1ar ec ck;0cz cc ec ck;1or ec ck;1nb ec ck",
   "1sh ec ck;1si ec ck;1pj ec ck;1px ec ck;1rv ec ck;1qx ec ck;1sj ec ck;1fb ec ck;0xg ea c b A",
   "4B;4C;4D;4E;4F;4G;4H;4I;4J;4K;4L;4M;4N;4O;4P;4Q;4R;4S;4T;4U;4V;4W;4X;4Y;4Z;0ds ea e b A;4B;4C",
   "4D;4E;4F;4G;4H;4I;4J;4K;4L;4M;4N;4O;4P;4Q;4R;4S;4T;4U;4V;4W;4X;4Y;4Z;2c b A;4B;4C;4D;4E;4F;4G",
   "4H;4I;4J;4K;4L;4M;4N;4O;4P;4Q;4R;4S;4T;4U;4V;4W;4X;4Y;4Z;1bh bt;0md ds cz or;3nb;3sh;3si;3pj",
   "3px;3rv;3qx;3sj;3fb;0p ds bh o;3l;3s;3w;3aa;3ag;3an;3ah;3ar;2cz cc;0md ds bh bt",
   "0hy DRAWINGS bd bf;2ad bf;2bd af;2ad af;2bd el fc bf;2ad el fc bf;2bd el fc af;2ad el fc af",
   "2bd pg fc bf;2ad pg fc bf;2bd pg fc af;2ad pg fc af;2bd aq g i;2aq bd g i ad;3ad g i bd",
   "2ad aq g i;2bd aq g k;2aq bd g k ad;3ad g k bd;2ad aq g k;2bd UP g i;2UP bd g i ad;3ad g i bd",
   "2ad UP g i;2bd UP g k;2UP bd g k ad;3ad g k bd;2ad UP g k;2bd af g i;2af bd g i ad",
   "2UP ad g i aq bd;2aq ad g i UP bd;2af ad g i bd;2aq bd g i UP ad;2UP bd g i aq ad;2ad af g i",
   "2bd af g k;2af bd g k ad;2UP ad g k aq bd;2aq ad g k UP bd;2af ad g k bd;2aq bd g k UP ad",
   "2UP bd g k aq ad;2ad af g k;2bd aq g bf;2k ad g i aq bd;2i ad g k aq bd;2aq bd g bf ad",
   "3ad g bf bd;2i bd g k aq ad;2k bd g i aq ad;2ad aq g bf;2bd UP g bf;2k ad g i UP bd",
   "2i ad g k UP bd;2UP bd g bf ad;3ad g bf bd;2i bd g k UP ad;2k bd g i UP ad;2ad UP g bf",
   "2bd af g bf;2k ad g i af bd;2i ad g k af bd;2af bd g bf ad;2UP ad g aq bf bd;2aq ad g UP bf bd",
   "2af ad g bf bd;2k UP ad g i aq bd;2i UP ad g k aq bd;2k aq ad g i UP bd;2i aq ad g k UP bd",
   "2aq bd g UP bf ad;2UP bd g aq bf ad;2i bd g k af ad;2k bd g i af ad;2ad af g bf;2bd p fc bf",
   "2ad p fc bf;2bd p fc af;2ad p fc af;2p bf;3af;2aq cp g i p;3p g i cp;2p aq g i;2aq cp g k p",
   "3p g k cp;2p aq g k;2UP cp g i p;3p g i cp;2p UP g i;2UP cp g k p;3p g k cp;2p UP g k",
   "2af cp g i p;3p g i cp;2p af g i;2af cp g k p;3p g k cp;2p af g k;2aq cp g bf p;3p g bf cp",
   "2p aq g bf;2UP cp g bf p;3p g bf cp;2p UP g bf;2af cp g bf p;3p g bf cp;2p af g bf",
   "2bd ARC aq g i;6k;4UP g k;6i;3en bv i TO bl k;5k TO bl i;4em;3k;3UP;3i;3aq;2ad k;3UP;3i;3aq",
   "2bd k g ad i;3UP g ad aq;2ad k g bd i;3UP g bd aq;0bv ao dk;0bl o ht dk;2gf dk;1s mg dk;1ao dk",
   "1aa mg dk;1s mc dk;1an mg dk;0ec dk;0k an mg dk;1s mc dk;1aa mg dk;1ao dk;1s mg dk;1o gf dk",
   "2ht dk;0i ao dk;0bd mn;0bq mn;0DARK mn;0bv o ht dk;0i o ht dk;0me bl k;2i;1bv k;3g bl k g bl i",
   "5i;4bv i g bl k;8i;2i;3g bl k;6g bl i;0t at;0v at;2a pw vl;2tk t c at;0at a bf nj;2af nj",
   "2ORTHOGONAL CROSSHATCH nj;2bv k TO bl i nj;3i TO bl k nj;2en CROSSHATCH nj;0t c at;0v c at",
   "0t tn;0v tn;0t af tn;0v af tn;0t PARALLELOGRAM;0v PARALLELOGRAM;0t mu bk;0v mu bk;0t mu c bk",
   "0v mu c bk;0t ip bk;0v ip bk;0t ip c bk;0v ip c bk;0t ip POINTER;0v ip POINTER;0t og bk",
   "0v og bk;0t og c bk;0v og c bk;0t jt bk;0v jt bk;0t jt c bk;0v jt c bk;0t jt POINTER",
   "0v jt POINTER;0t ff;0v ff;2tk t c ff;0FISHEYE;0nt;0v av;0fm av;0av a af nj;0BULLSEYE;0t av",
   "0av a k ao t;2i ao t;2bl ao t;2bv ao t;3i me t;2ALL BUT bv k me t;0k ao t av;0i ao t av;0qb na",
   "1v av;0bv ao qb v av;0bl ao qb v av;0bv k me wp ARC;1i me wp ARC;0bl i me wp ARC;1k me wp ARC",
   "0bv ao av;0bl ao av;0t bl i bk;2k bk;1bv k bk;2i bk;0v na;0at a k ao t;2i ao t;2bv k en ao t",
   "2bl i en ao t;0v at a af BISECTING cs;1mu bk a q;0mu bk a k ao t;3i ao t;0co av",
   "0v at a bv k me;3bl k me;4i me;3bv i me;1av a bv k me;3bl k me;4i me;3bv i me;0bv k bk;1i bk",
   "0bl k bk;0v bq at;0t bq at;0v bq c at;0t bq c at;0bl i bk;0t SUN a RAYS;0CLOUD;0wu;0SNOWMAN",
   "0COMET;0t dl;0v dl;0LIGHTNING;0THUNDERSTORM;0SUN;0ASCENDING NODE;0DESCENDING NODE;0CONJUNCTION",
   "0OPPOSITION;0t oj;0v oj;0uf hy;2a oz;3X;0pk;0wu a RAIN DROPS;0HOT BEVERAGE;0v SHOGI PIECE",
   "0t SHOGI PIECE;0SHAMROCK;0cf da FLORAL hh na;0t k cv be;1i cv be;0v k cv be;1UP cv be;1i cv be",
   "1aq cv be;0SKULL g CROSSBONES;0CAUTION f;0RADIOACTIVE f;0BIOHAZARD f;0CADUCEUS;0ANKH",
   "0ORTHODOX em;0CHI hv;0em OF LORRAINE;2JERUSALEM;0dl g va;0FARSI z;0ADI SHAKTI;0HAMMER g SICKLE",
   "0PEACE z;0YIN YANG;0TRIGRAM fp HEAVEN;2LAKE;2FIRE;2THUNDER;2WIND;2oc;2sk;2nf;0WHEEL OF DHARMA",
   "0v FROWNING au;1la au;0t la au;0v SUN a RAYS;0FIRST gf ig;0LAST gf ig;0MERCURY;0FEMALE f;0nf",
   "0MALE f;0JUPITER;0SATURN;0URANUS;0NEPTUNE;0PLUTO;0ARIES;0TAURUS;0GEMINI;0CANCER;0LEO;0VIRGO",
   "0LIBRA;0SCORPIUS;0SAGITTARIUS;0CAPRICORN;0AQUARIUS;0PISCES;0v gl ku;2lt;2ROOK;2os;2hq;2PAWN",
   "0t gl ku;2lt;2ROOK;2os;2hq;2PAWN;1SPADE SUIT;0v hh SUIT;1ff SUIT;0t CLUB SUIT;0v SPADE SUIT",
   "0t hh SUIT;1ff SUIT;0v CLUB SUIT;0HOT SPRINGS;0gf jv;0ht jv;0BEAMED ht NOTES;1ut NOTES",
   "0MUSIC FLAT f;1NATURAL f;1SHARP f;0du SYRIAC em;0db SYRIAC em;0UNIVERSAL RECYCLING z",
   "0RECYCLING z fp TYPE-1 tq;3TYPE-2 tq;3TYPE-3 tq;3TYPE-4 tq;3TYPE-5 tq;3TYPE-6 tq;3TYPE-7 tq",
   "3GENERIC MATERIALS;0t UNIVERSAL RECYCLING z;0RECYCLED PAPER z;0PARTIALLY-RECYCLED PAPER z",
   "0PERMANENT PAPER f;0WHEELCHAIR z;0DIE FACE-1;1FACE-2;1FACE-3;1FACE-4;1FACE-5;1FACE-6",
   "0v av a q i;3l aw;0t av a v q i;3l v aw;0vb fp YANG;2YIN;0DIGRAM fp GREATER YANG;2LESSER YIN",
   "3YANG;2GREATER YIN;0v FLAG;0t FLAG;0HAMMER g PICK;0ANCHOR;0nu SWORDS;0STAFF OF AESCULAPIUS",
   "0SCALES;0ALEMBIC;0FLOWER;0GEAR;0STAFF OF HERMES;0ATOM z;0FLEUR-DE-LIS;0tr v dl",
   "0s LINES CONVERGING i;3k;0WARNING f;0ci VOLTAGE f;0DOUBLED FEMALE f;1MALE f",
   "0INTERLOCKED FEMALE g MALE f;0MALE g FEMALE f;1a y f;3g MALE g FEMALE f;0af MALE a y f",
   "0bf MALE a y f;0bq v av;1t av;1c v av;0MARRIAGE z;0DIVORCE z;0UNMARRIED PARTNERSHIP z;0COFFIN",
   "0FUNERAL URN;0NEUTER;0CERES;0PALLAS;0JUNO;0VESTA;0CHIRON;0t ig LILITH;0SEXTILE;0SEMISEXTILE",
   "0QUINCUNX;0SESQUIQUADRATE;0SOCCER BALL;0BASEBALL;0fx KEY;0v DRAUGHTS MAN;2ku;0t DRAUGHTS MAN",
   "2ku;0SNOWMAN WITHOUT SNOW;0SUN BEHIND CLOUD;0RAIN;0t SNOWMAN;0THUNDER CLOUD g RAIN",
   "0bz v SHOGI PIECE;1t SHOGI PIECE;0v ff IN at;0gn LANES;0DISABLED CAR;0OPHIUCHUS;0PICK",
   "0CAR SLIDING;0HELMET a v em;0ds gn LANES;0CHAINS;0NO ENTRY;0jb ONE-WAY k WAY TRAFFIC",
   "0t TWO-WAY k WAY TRAFFIC;0v TWO-WAY k WAY TRAFFIC;0t k LANE MERGE;0v k LANE MERGE",
   "0DRIVE SLOW f;0ad v og bk;0k fz ENTRY;0fx pk;0tx en IN v av IN t at;0t TRUCK",
   "0RESTRICTED k ENTRY-1;2ENTRY-2;0ASTRONOMICAL z fp URANUS;0ad av a y g l aw j;0PENTAGRAM",
   "0RIGHT-HANDED INTERLACED PENTAGRAM;0LEFT-HANDED INTERLACED PENTAGRAM;0cu PENTAGRAM",
   "0t em ON SHIELD;0SHINTO SHRINE;0CHURCH;0CASTLE;0HISTORIC SITE;0GEAR WITHOUT HUB;1a HANDLES",
   "0MAP z fp LIGHTHOUSE;0sk;0wu ON GROUND;0FOUNTAIN;0FLAG IN HOLE;0FERRY;0SAILBOAT;0at w vl",
   "0SKIER;0ICE SKATE;0lp a BALL;0TENT;0ts BANK z;0HEADSTONE GRAVEYARD z;0FUEL PUMP;0CUP ON t at",
   "0v FLAG a bf ae t STRIPE;0t SAFETY vc;0bv BLADE vc;0t vc;0bl BLADE vc;0v vc;1ad oz r",
   "0oj LOCATION f;0TAPE DRIVE;0tt;0qy;0ic FIST;1gs;0VICTORY gs;0WRITING gs;0bl i PENCIL;0PENCIL",
   "0bv i PENCIL;0v NIB;0t NIB;0oz r;0ad oz r;0pc X;0ad pc X;0uf X;0ad uf X;0tr im em;0ad im em",
   "0by dn em;0ad by dn em;0ea em;0np v ea em;0tr ea em;0MALTESE em;0dl OF DAVID;0w th ek;1yv ek",
   "0ad w yv ek;0w CLUB-SPOKED ek;0t w fw dl;0v w fw dl;0SPARKLES;0STRESS tr v dl;0ds v dl",
   "0by dn t dl;0t dn v dl;0tr t dl;0ad tr t dl;0qz dl;0np v dl;0ad ek;0by dn ek;0ah ko ek",
   "1fw t dl;2qz dl;0ag fw t dl;0ah fw RECTILINEAR t dl;0ad ah fw RECTILINEAR t dl;0nb fw t dl",
   "0px fw ek;0th ek;0by dn th ek;0ad th ek;0ag PETALLED t g v FLORETTE;0t FLORETTE;0v FLORETTE",
   "0ah PETALLED tr t FLORETTE;0ds by dn ah fw dl;0ad th qz ek;0SNOWFLAKE",
   "0TIGHT TRIFOLIATE SNOWFLAKE;0ad CHEVRON SNOWFLAKE;0SPARKLE;0ad SPARKLE;0yv ek",
   "0ah th PROPELLER ek;0ad ah th PROPELLER ek;0em r;0np v av;0md fx em r;0bl i DROP-SHADOWED v at",
   "0bv i DROP-SHADOWED v at;0bl i np v at;0bv i np v at;0t hd r dw;0v hd r dw;1ia r dw",
   "0t ff kp v X;0ad ia r z;0bd af ak;0bq af ak;0ad af ak;1cp bz de gu r dw;2de gu r dw",
   "1p bz de gu r dw;2de gu r dw;1bn cp de gu r dw;2p de gu r dw;0pm STEM wf f dw;0ad ia r dw",
   "1hh ia r dw;1t hh;0da ad t hh na;0FLORAL hh;0da FLORAL hh na;0bq k ew dw;1i ew dw",
   "1FLATTENED k ew dw;2i ew dw;1jt dy as dw;1ip dy as dw;0ad jt dy gu r dw;1ip dy gu r dw",
   "1jt dy as dw;1ip dy as dw;0bd k kl iy as dw;1i kl iy as dw;0bq k ie as dw;1i ie as dw",
   "0DINGBAT md ds bh o;4l;4s;4w;4aa;4ag;4an;4ah;4ar;3cz cc;1ds iz bh o;4l;4s;4w;4aa;4ag;4an;4ah",
   "4ar;3cz cc;1md ds iz bh o;5l;5s;5w;5aa;5ag;5an;5ah;5ar;4cz cc;0ad WIDE-HEADED ac h;1al f;1kp f",
   "1rz f;1ev db h;1ac h;1eg db h;0DRAFTING nz ac h;0ad ROUND-TIPPED ac h;0cn ac h;0ad cn ac h",
   "0nx cn ac h;0ad nx cn ac h;0t ac h;0THREE-D TOP-LIGHTED ac cm;1BOTTOM-LIGHTED ac cm;0t ac cm",
   "0ad t pm bj g ac h;3bo g ac h;0SQUAT t ac h;0ad CONCAVE-POINTED t ac h;0zi v ac h",
   "0LEFT-SHADED v ac h;0BACK-TILTED np v ac h;0zj np v ac h;0ad bl xd v ac h;1bv xd v ac h",
   "0rb bl xd v ac h;0ie kt;0rb bv xd v ac h;0ds ad v ac h;0WHITE-FEATHERED ac h",
   "0BLACK-FEATHERED ev db h;1ac h;1eg db h;0ad BLACK-FEATHERED ev db h;2ac h;2eg db h",
   "0TEARDROP-BARBED ac h;0ad TEARDROP-SHANKED ac h;0WEDGE-TAILED ac h;0ad WEDGE-TAILED ac h",
   "0OPEN-OUTLINED ac h;0p ie kt;0s DIMENSIONAL dy;0v bk tk c v bk;0zb;0by id;1it",
   "0k S-SHAPED BAG yq;0i S-SHAPED BAG yq;0OR a q kd;0jq iu PRECEDING id;0it PRECEDING iu",
   "0af ak a bf y;0ul nw en;0cb rz;0ul tx en;0fx nr g;2OR;0v ff a sq q;0g a q;0qa OF OPENING bo",
   "0bl i gk a q;0bv k gk a q;0k OUTER JOIN;0i OUTER JOIN;0ec OUTER JOIN;0co UP gc;1aq gc",
   "0k g i p rt;3gc;1MULTIMAP;0cb i gc;1k gc;0UP gc a av j;0nt DIVIDED BY bf RULE",
   "0v CONCAVE-SIDED ff;3a am TICK;4ac TICK;1at a am TICK;3ac TICK;0ul k v at as;1i v at as",
   "1k dy as;1i dy as;1k p dy as;1i p dy as;1k v kl iy as;1i v kl iy as;1k FLATTENED ew",
   "1i FLATTENED ew;0bo pg h;0bj pg h;0ki GAPPED av h;0nl GAPPED av h;0i h a ds al;0cb am h;1ac h",
   "1k i h;1am p h;1ac p h;1k i p h;1am h gr ak;1ac h gr ak;1am p h gr ak;1ac p h gr ak",
   "2SQUIGGLE h;0BRAILLE PATTERN BLANK;2DOTS-1;2DOTS-2;2DOTS-12;2DOTS-3;2DOTS-13;2DOTS-23",
   "2DOTS-123;2DOTS-4;2DOTS-14;2DOTS-24;2DOTS-124;2DOTS-34;2DOTS-134;2DOTS-234;2DOTS-1234;2DOTS-5",
   "2DOTS-15;2DOTS-25;2DOTS-125;2DOTS-35;2DOTS-135;2DOTS-235;2DOTS-1235;2DOTS-45;2DOTS-145",
   "2DOTS-245;2DOTS-1245;2DOTS-345;2DOTS-1345;2DOTS-2345;2DOTS-12345;2DOTS-6;2DOTS-16;2DOTS-26",
   "2DOTS-126;2DOTS-36;2DOTS-136;2DOTS-236;2DOTS-1236;2DOTS-46;2DOTS-146;2DOTS-246;2DOTS-1246",
   "2DOTS-346;2DOTS-1346;2DOTS-2346;2DOTS-12346;2DOTS-56;2DOTS-156;2DOTS-256;2DOTS-1256;2DOTS-356",
   "2DOTS-1356;2DOTS-2356;2DOTS-12356;2DOTS-456;2DOTS-1456;2DOTS-2456;2DOTS-12456;2DOTS-3456",
   "2DOTS-13456;2DOTS-23456;2DOTS-123456;2DOTS-7;2DOTS-17;2DOTS-27;2DOTS-127;2DOTS-37;2DOTS-137",
   "2DOTS-237;2DOTS-1237;2DOTS-47;2DOTS-147;2DOTS-247;2DOTS-1247;2DOTS-347;2DOTS-1347;2DOTS-2347",
   "2DOTS-12347;2DOTS-57;2DOTS-157;2DOTS-257;2DOTS-1257;2DOTS-357;2DOTS-1357;2DOTS-2357",
   "2DOTS-12357;2DOTS-457;2DOTS-1457;2DOTS-2457;2DOTS-12457;2DOTS-3457;2DOTS-13457;2DOTS-23457",
   "2DOTS-123457;2DOTS-67;2DOTS-167;2DOTS-267;2DOTS-1267;2DOTS-367;2DOTS-1367;2DOTS-2367",
   "2DOTS-12367;2DOTS-467;2DOTS-1467;2DOTS-2467;2DOTS-12467;2DOTS-3467;2DOTS-13467;2DOTS-23467",
   "2DOTS-123467;2DOTS-567;2DOTS-1567;2DOTS-2567;2DOTS-12567;2DOTS-3567;2DOTS-13567;2DOTS-23567",
   "2DOTS-123567;2DOTS-4567;2DOTS-14567;2DOTS-24567;2DOTS-124567;2DOTS-34567;2DOTS-134567",
   "2DOTS-234567;2DOTS-1234567;2DOTS-8;2DOTS-18;2DOTS-28;2DOTS-128;2DOTS-38;2DOTS-138;2DOTS-238",
   "2DOTS-1238;2DOTS-48;2DOTS-148;2DOTS-248;2DOTS-1248;2DOTS-348;2DOTS-1348;2DOTS-2348;2DOTS-12348",
   "2DOTS-58;2DOTS-158;2DOTS-258;2DOTS-1258;2DOTS-358;2DOTS-1358;2DOTS-2358;2DOTS-12358;2DOTS-458",
   "2DOTS-1458;2DOTS-2458;2DOTS-12458;2DOTS-3458;2DOTS-13458;2DOTS-23458;2DOTS-123458;2DOTS-68",
   "2DOTS-168;2DOTS-268;2DOTS-1268;2DOTS-368;2DOTS-1368;2DOTS-2368;2DOTS-12368;2DOTS-468",
   "2DOTS-1468;2DOTS-2468;2DOTS-12468;2DOTS-3468;2DOTS-13468;2DOTS-23468;2DOTS-123468;2DOTS-568",
   "2DOTS-1568;2DOTS-2568;2DOTS-12568;2DOTS-3568;2DOTS-13568;2DOTS-23568;2DOTS-123568;2DOTS-4568",
   "2DOTS-14568;2DOTS-24568;2DOTS-124568;2DOTS-34568;2DOTS-134568;2DOTS-234568;2DOTS-1234568",
   "2DOTS-78;2DOTS-178;2DOTS-278;2DOTS-1278;2DOTS-378;2DOTS-1378;2DOTS-2378;2DOTS-12378;2DOTS-478",
   "2DOTS-1478;2DOTS-2478;2DOTS-12478;2DOTS-3478;2DOTS-13478;2DOTS-23478;2DOTS-123478;2DOTS-578",
   "2DOTS-1578;2DOTS-2578;2DOTS-12578;2DOTS-3578;2DOTS-13578;2DOTS-23578;2DOTS-123578;2DOTS-4578",
   "2DOTS-14578;2DOTS-24578;2DOTS-124578;2DOTS-34578;2DOTS-134578;2DOTS-234578;2DOTS-1234578",
   "2DOTS-678;2DOTS-1678;2DOTS-2678;2DOTS-12678;2DOTS-3678;2DOTS-13678;2DOTS-23678;2DOTS-123678",
   "2DOTS-4678;2DOTS-14678;2DOTS-24678;2DOTS-124678;2DOTS-34678;2DOTS-134678;2DOTS-234678",
   "2DOTS-1234678;2DOTS-5678;2DOTS-15678;2DOTS-25678;2DOTS-125678;2DOTS-35678;2DOTS-135678",
   "2DOTS-235678;2DOTS-1235678;2DOTS-45678;2DOTS-145678;2DOTS-245678;2DOTS-1245678;2DOTS-345678",
   "2DOTS-1345678;2DOTS-2345678;2DOTS-12345678;0ac pf h a af y;4p af y;0am p h a af y",
   "0ac p h a af y;0k i p h a af y;0ac pf h gr ak;0am p h gr ak;0ac p h gr ak;0bj h a bf y",
   "0bo h a bf y;1el h;0bj el h;0am p fc h;0ac p fc h;0am el fc h;0ac el fc h;1pf el fc h",
   "1h a fm STEM;0bo h TO ak;0bj h TO ak;0ac h a dq a af y;5p af y;1pf h a dq;5a af y;6p af y",
   "0am yi;0ac yi;0am p yi;0ac p yi;0am h TO t ff;0ac h TO t ff;0am h gr ak TO t ff",
   "0ac h gr ak TO t ff;0eg du g ev db h;1db g ev du h;1du h a x;1db h a x;0ev db h a x;1du h a x",
   "0eg du h g eg db h;1db h g ev db h;0ev db h g ev du h;1du h g eg du h;0nw en gn tx en",
   "0tx en gn nw en;0ev db h gn eg db h;0eg db h gn ev db h;0tx en gn eg db h;0nw en gn ev db h",
   "0eg db h gn eg du h;1du h gn eg db h;0jo h cv DIRECTLY i;0h cv ac THEN CURVING bo;5bj",
   "2bj THEN CURVING am;5ac;0RIGHT-SIDE ARC nl h;0LEFT-SIDE ARC ki h;0ez ARC ki h;0gj ARC ki h",
   "0ez ARC nl h a kp;2ki h a al;0bl i zk nl h;1k zk ki h;0ki fz av h;0nl fz av h;0ac h j eb am h",
   "0am h j eb ac h;0eb ac h j am h;0ac h a al m;0am h a al m;0ac h mz X;0k i h mz c av",
   "0bo pf h gr c av;0k bm UP i bm aq dp;2aq i bm UP dp;0UP bm i aq bm k dp;2k aq bm i dp",
   "0k bm UP i bm UP dp;0UP bm i aq bm i dp;0k bm aq i bm aq dp;0UP bm k aq bm k dp",
   "0am dp a bm UP TO ak;0ac dp a bm UP TO ak;0bo dp a bm i TO ak;0bj dp a bm i TO ak",
   "0am dp a bm aq TO ak;0ac dp a bm aq TO ak;0bo dp a bm k TO ak;0bj dp a bm k TO ak",
   "0am dp a bm UP gr ak;0ac dp a bm UP gr ak;0bo dp a bm i gr ak;0bj dp a bm i gr ak",
   "0am dp a bm aq gr ak;0ac dp a bm aq gr ak;0bo dp a bm k gr ak;0bj dp a bm k gr ak",
   "0am dp a bm UP j am dp a bm aq;0bo dp a bm k qi bo dp a bm i;0ac dp a bm UP j ac dp a bm aq",
   "0bj dp a bm k qi bj dp a bm i;0am dp a bm UP j ac dp a bm UP;4aq j ac dp a bm aq",
   "0ac dp a bm UP j am dp a bm UP;4aq j am dp a bm aq;0am dp a bm UP j cb fc;4aq m cb fc",
   "0ac dp a bm UP j cb fc;4aq m cb fc;0bo dp a bm k qi bj dp a bm i;0bj dp a bm k qi bo dp a bm i",
   "0i p h a pw kh;0fy f j ac h;0bg es j ac h;0am h j bg es;0ac h j bg es;3lm ba TO;0dg j am h",
   "0am h mz dg;0di j ac h;0id j ac h;0am h mz id;0it j am h;0k FISH dq;0i FISH dq;0UP FISH dq",
   "0aq FISH dq;0el af ak yq;0Z sg SPOT;2TYPE gp;0k v ie as;0i v ie as;0k v ew;0i v ew",
   "0Z sg k IMAGE as;2i IMAGE as;2k BINDING as;2i BINDING as;0k at as a ik;0i at as a ik",
   "0k at as a TICK IN ez gk;0i at as a TICK IN gj gk;0k at as a TICK IN gj gk",
   "0i at as a TICK IN ez gk;0k dy as a q;0i dy as a q;0k ARC dg as;0i ARC di as;0p k ARC di as",
   "1i ARC dg as;0k t kl iy as;0i t kl iy as;0fm FENCE;0af sy cs;0wr dy OPENING k;0i dy jg a at",
   "0wr i dy a q;0dy a S kd;0bp dy;0SPHERICAL dy OPENING k;3UP;0bz dy;0cf dy;0dy a ik;0cf dy a ik",
   "0mf dy OPENING UP;3aq;0wr dy a by ARM ENDING IN h cv UP g i;bk;9aq g i;bk;9i g UP;9k g UP",
   "9i g aq;9k g aq;0cf EMPTY SET;0EMPTY SET a ns;3c av j;3i h j;3k h j;0av a bf ak;0ds af ak;1se",
   "1jq iu;1zb;0av DIVIDED BY bf ak g ez ao DIVIDED BY af ak;1a SUPERIMPOSED X",
   "0ds ANTICLOCKWISE-ROTATED rz f;0UP h mz av;0ds v na;1na;1dg;1di;0av a c av TO fr i",
   "2l bf STROKES TO fr i;0fx nw en ls;1tx en ls;1ek;1c av;1at;0l JOINED SQUARES;0bk a q j;2ik",
   "0S IN bk;0bk a SERIFS AT gj;0i bk j k bk;0k bk qi af ak;0af ak qi i bk;0BOWTIE a k ao t",
   "2i ao t;0t BOWTIE;0ai a k ao t;2i ao t;0v HOURGLASS;0t HOURGLASS;0k WIGGLY FENCE",
   "0i WIGGLY FENCE;0k p WIGGLY FENCE;0i p WIGGLY FENCE;0INCOMPLETE uz;0TIE ay uz",
   "0uz NEGATED a af ak;0DOUBLE-ENDED MULTIMAP;0at a CONTOURED OUTLINE;0INCREASES AS;0SHUFFLE nq",
   "0fy f g jh se;5a bg j;0IDENTICAL TO g jh se;0GLEICH STARK;0THERMODYNAMIC;0og bk a k ao t",
   "3i ao t;0t ff a aq h;1nt;0v av a aq h;0t av a aq h;0ERROR-BARRED v at;1t at;1v ff;1t ff;1v av",
   "1t av;0RULE-DELAYED;0jq iu es;0iu a ns;0jq iu a bf y;0BIG iu;1jq iu;0p al;0el al;0jt pm dy as",
   "0ip pm dy as;0TINY;0MINY;0N-ARY ds q es;2al es;2ai es;1lg es a q;4al;1at kx es;2lg es",
   "0l nr g es;2OR es;0N-ARY ai es;0MODULO l SUM;0SUMMATION a jz;0pg jz es;0FINITE PART jz",
   "0jz a p y;1AVERAGE a ls;0CIRCULATION FUNCTION;0ki INTEGRATION",
   "0cs INTEGRATION a RECTANGULAR PATH AROUND POLE;3zk PATH AROUND POLE;2dh INCLUDING fr POLE",
   "0jz AROUND A nz es;0QUATERNION jz es;0jz a am h a x;2ai f;2kx;2lg;2ns;2ik;0JOIN;0co k bk es",
   "0Z sg SCHEMA COMPOSITION;3PIPING;3PROJECTION;0al f a c av j;3cd fj j;3bg j;3q m;3bg m;3tl l",
   "3t bk;0kp f a de j;3q m;3tx aw;3nw aw;0al f IN k ao av;3i ao av;0VECTOR OR em nq;0pc f a q j",
   "3ik;0we nq a gj fz;0SMASH nq;0pc f IN k ao av;3i ao av;0ds pc f a cd fj;0pc f IN p av;0ds rz f",
   "0al f IN bk;0kp f IN bk;0pc f IN bk;0INTERIOR nq;0RIGHTHAND INTERIOR nq",
   "0Z sg RELATIONAL COMPOSITION;0AMALGAMATION OR COPRODUCT;0kx a q;0lg a kp f;2ns;0kx a ns;2nr g",
   "0lg a nr OR;1j kx;0kx j lg;0lg j ak j kx;0kx j ak j lg;0lg qi g JOINED a lg",
   "0kx qi g JOINED a kx;0fz lg a SERIFS;1kx a SERIFS;0p at kx;2lg;0fz lg a SERIFS g SMASH nq",
   "0nr g a q j;1OR a q j;0p nr g;2OR;0l INTERSECTING nr g;3OR;0SLOPING co OR;2g",
   "0nr OR OVERLAPPING nr g;1g a ae STEM;1OR a ae STEM;1g a bf fc;1OR a bf fc;1g a p ns;3ik;3p ik",
   "0c VEE a ik;0nr OR a p ns;4ik;0Z sg DOMAIN ANTIRESTRICTION;2RANGE ANTIRESTRICTION;0fy f a q m",
   "0IDENTICAL a q j;0el bf ak a p af y;4el af y;0bg es a q j;3nw aw;0ty kp ty;0CONGRUENT a q j",
   "0fy a ek;0lm ba TO a cd fj;0vy ba OR ba TO;0fy f j al f;0al f j fy f;0fy f j bg es;0p gp ba",
   "0l CONSECUTIVE fy SIGNS;0s CONSECUTIVE fy SIGNS;0fy f a l aw j g l aw m;0mb a w aw j",
   "0dg a av kd;0di a av kd;0dg a hd r j;0di a hd r j;0dg OR jh ba TO;0di OR jh ba TO",
   "0dg OR jh ba TO a q kd;0di OR jh ba TO a q kd;0dg OR jh ba TO a q j;0di OR jh ba TO a q j",
   "0dg OR jh ba TO a q j i;0di OR jh ba TO a q j k;0dg OR xx;0di OR xx;0dg g uq dh ba TO",
   "0di g uq dh ba TO;0dg g dh xx;0di g dh xx;0dg j ur ba j di;0di j ur ba j dg;0dg j ty OR ba",
   "0di j ty OR ba;0dg j ty j di;0di j ty j dg;0dg j di j ur ba;0di j dg j ur ba",
   "0dg j jh ba j di j jh ba;0di j jh ba j dg j jh ba;0jh ba TO OR dg;4di;4dg a q kd;4di a q kd",
   "0ur ba TO OR dg;4di;1jh ba TO OR dg;5di;0ty OR dg;2di;1j dg j fy f;2di j fy f;0p NESTED dg;2di",
   "2dg a ik;0di OVERLAPPING dg;1qi dg;0dg fz BY ks;0di fz BY ks;0dg fz BY ks j jh ba",
   "0di fz BY ks j jh ba;0SMALLER THAN;0LARGER THAN;0SMALLER THAN OR ba TO;0LARGER THAN OR ba TO",
   "0fy f a BUMPY j;0nn j uq fy f;0no j uq fy f;0nn j uq dh ba TO;0no j uq dh ba TO;0nn j fy f",
   "0no j fy f;0nn j dh ba TO;0no j dh ba TO;0nn j lm ba TO;0no j lm ba TO;0nn j dh lm ba TO",
   "0no j dh lm ba TO;0p nn;1no;0id a q;0it a q;0id a al f m;0it a al f m;0id a pc f m",
   "0it a pc f m;0id OF OR ba TO a q j;0it OF OR ba TO a q j;0id OF j fy f;0it OF j fy f",
   "0id OF j bg es;0it OF j bg es;0id OF j lm ba TO;0it OF j lm ba TO;0id OF j dh ba TO",
   "0it OF j dh ba TO;0at k by hy es;1i by hy es;0fz id;1it;1id OR ba TO;1it OR ba TO;0id j it",
   "0it j id;0id j id;0it j it;1qi id;2g JOINED BY fc a id;0qa OF OPENING bj;0PITCHFORK a TEE ez",
   "0TRANSVERSAL kx;0FORKING;0NONFORKING;0eb k gc;1aq gc;1UP gc;0zb a S;0af ak el i rt",
   "0p af ak k rt;0af ak p k rt;0p af ak p k rt;0cb fc gr k MEMBER OF p af;0eb aq gc a ns",
   "1UP gc a ik;3j eb aq gc;0p aq gc;1UP gc;1y dh f;0cf p y dh f;0DOES dh DIVIDE a cf NEGATION ls",
   "0af cs a av j;4m;0aq gc a av m;0se a bf y;2bg es;0el af ak BINARY RELATION;3a bf y;1gp es",
   "1NESTED dg;2di;0ur jh dg OR ba TO;2di OR ba TO;0el iu BINARY RELATION;0co el af ak es;0p iu es",
   "0v af ak;0N-ARY v af ak;0eg db v h;1du v h;0ev db v h;1du v h;0k i v h;0am t h;0bo t h;0bj t h",
   "0eg db t h;1du t h;0ev db t h;1du t h;0k i t h;0UP aq t h;0ac h a TIP bj;4bo;0am h a TIP bj",
   "4bo;0at a ez ao t;2gj ao t;2bv i en ao t;2bl k en ao t;0ff a k ao t;2i ao t;2ez ao t;2gj ao t",
   "0fm at;0t co at;0v co at;0t hr c at;0v hr c at;0t wv;0v wv;1HEXAGON;0t HEXAGON;0bf t HEXAGON",
   "0t co av;1bq ff;0v bq ff;0t bq nt;0v bq nt;0t c ff;2nt;0v c nt;0t bf ELLIPSE;0v bf ELLIPSE",
   "0t af ELLIPSE;0v af ELLIPSE;0k h a c av;0s am lo;0k h a ds al;0cb am SQUIGGLE h",
   "0am pf h a af y;4p af y;3gr ak;2el fc h;1h a fm STEM;3dq a af y;5p af y;1pf h a dq;5a af y",
   "6p af y;1h mz X;0jo h cv DIRECTLY k;0fy f j am h;0jq bg es j am h;0am h j jq lm ba TO",
   "0ac h mz di;3it;0am pg h;0ac pg h;0jq bg es j ac h;0ac h j jq lm ba TO;0bg es j am h",
   "0am h j lm ba TO;3jq bg es;0ac h j jq bg es;0bj cn sy h;0eb jh eg h;1BACKSLANTED ev h;0v bq dl",
   "0t c dl;0v c dl;0t ip wv;0v ip wv;0ad co av;1OVAL a OVAL kd;1av a av kd;1av;1ds pk",
   "0jh eg h a HOOKED kh;0BACKSLANTED ev h a HOOKED dq;0jh eg h a bf dq;0BACKSLANTED ev h a bf dq",
   "0gy h cv bj THEN eg db;0eb gy h cv bj THEN eg db;0am cn h;0bo cn h;0ac cn h;0bj cn h;0k i cn h",
   "0UP aq cn h;0eg du cn h;1db cn h;0ev db cn h;1du cn h;0am cn nx h;0bo cn nx h;0ac cn nx h",
   "0bj cn nx h;0nl cn by av h;0ki cn by av h;0am cn h TO ak;0bo cn h TO ak;0ac cn h TO ak",
   "0bj cn h TO ak;2+0eg du cn h TO ak;1db cn h TO ak;0ev db cn h TO ak;1du cn h TO ak",
   "0am cn h a p bf y;0bo cn h a p bf y;0ac cn h a p bf y;0bj cn h a p bf y;0bf TAB KEY",
   "0af TAB KEY;0am cn h ay ac cn h;0bo cn h am OF bj cn h;0ac cn h ay am cn h",
   "0bj cn h am OF bo cn h;0am cn tc lo;0bo cn tc lo;0ac cn tc lo;0bj cn tc lo;0am t ds v h",
   "0bo t ds v h;0ac t ds v h;0bj t ds v h;0ki cn i ww h;2gj ww h;2k ww h;2ez ww h;0RETURN k;1i",
   "0NEWLINE k;1i;0w gk lo CIRCLING ki;0ac t h;1+0z fp TYPE A ELECTRONICS",
   "0THREE-D TOP-LIGHTED am iq cm;1RIGHT-LIGHTED bo iq cm;1TOP-LIGHTED ac iq cm",
   "1LEFT-LIGHTED bj iq cm;0t am iq cm;1bo iq cm;1ac iq cm;1bj iq cm;0bj cn h a cb TIP am;6ac",
   "0bo cn h a cb TIP am;6ac;0am cn h a cb TIP bo;0ac cn h a cb TIP bo;0am cn h a cb TIP bj",
   "0ac cn h a cb TIP bj;0t pm bj g am h;4ac h;2bo g am h;4ac h;2am g bo h;2ac g bo h;2am g bj h",
   "2ac g bj h;0RIBBON h aq k;3i;2UP k;3i;2k UP;2i UP;2k aq;2i aq;0bo v h gr ak a bf ak",
   "0UP cm IN A tn hy;0OVERLAPPING v SQUARES;2g t SQUARES;1t SQUARES;0uf hy a bd X;0ds X;1hi X",
   "0t at sq;1ff sq;0bz t wv;0bf t OCTAGON;0t OCTAGON;1bq mu bk sq;2og bk sq;2jt bk sq;2ip bk sq",
   "0NEPTUNE d l;0ez ao t av;0gj ao t av;0bd w fw t CUSP;0da bd w fw t CUSP;0v w fw CUSP",
   "0da v w fw CUSP;0at POSITION rp;0UNCERTAINTY f;0GROUP r;0PLUTO d l;2s;2w;2aa;0TRANSPLUTO",
   "0PROSERPINA;0ASTRAEA;0HYGIEA;0PHOLUS;0NESSUS;0v ig SELENA;0t ff ON em;0TRUE bd ig ARTA;0CUPIDO",
   "0HADES;0ZEUS;0KRONOS;0APOLLON;0ADMETOS;0VULCANUS;0POSEIDON;0k ao t dl;0i ao t dl;0dl a k ao t",
   "2i ao t;0am pf h a bk yj;0bo pf h a bk yj;0ac pf h a bk yj;0bj pf h a bk yj;0ERIS d o;2l",
   "0SEDNA;0RUSSIAN ASTROLOGICAL z VIGINTILE;3NOVILE;3QUINTILE;3BINOVILE;3SENTAGON;3TREDECILE",
   "0fy f a uz m;0UNITED z;0SEPARATED z;0DOUBLED z;0PASSED z;0cf i dy;0HELLSCHREIBER PAUSE z",
   "0GLAGOLITIC e b AZU;3BUKY;3VEDE;3GLAGOLI;3DOBRO;3YESTU;3ZHIVETE;3DZELO;3ZEMLJA;3IZHE;3ab IZHE",
   "3I;3DJERVI;3KAKO;3LJUDIJE;3MYSLITE;3NASHI;3ONU;3POKOJI;3RITSI;3SLOVO;3TVRIDO;3UKU;3FRITU;3HERU",
   "3OTU;3PE;3SHTA;3TSI;3CHRIVI;3cl;3YERU;3YERI;3YATI;3SPIDERY HA;3YU;3c hj;5a dq;3YO;3vm c hj",
   "3BIG hj;3vm BIG hj;3FITA;3vj;3SHTAPIC;3TROKUTASTI A;3LATINATE MYSLITE;3CAUDATE CHRIVI;1c b AZU",
   "3BUKY;3VEDE;3GLAGOLI;3DOBRO;3YESTU;3ZHIVETE;3DZELO;3ZEMLJA;3IZHE;3ab IZHE;3I;3DJERVI;3KAKO",
   "3LJUDIJE;3MYSLITE;3NASHI;3ONU;3POKOJI;3RITSI;3SLOVO;3TVRIDO;3UKU;3FRITU;3HERU;3OTU;3PE;3SHTA",
   "3TSI;3CHRIVI;3cl;3YERU;3YERI;3YATI;3SPIDERY HA;3YU;3c hj;5a dq;3YO;3vm c hj;3BIG hj;3vm BIG hj",
   "3FITA;3vj;3SHTAPIC;3TROKUTASTI A;3LATINATE MYSLITE;3CAUDATE CHRIVI;0ea e b L a p ak",
   "1c b L a p ak;1e b L a ae bg;3P a y;3R a dq;1c b A a y;3T a en y;1e b H a fe;1c b H a fe",
   "1e b K a fe;1c b K a fe;1e b Z a fe;1c b Z a fe;1e b gg;3M a x;3bz A;4gg;1c b V a i x",
   "1e b W a x;1c b W a x;3V a jn;1e b ao H;1c b ao H;3TAILLESS PHI;3E a NOTCH;3bz R a dq",
   "3O a bn bi kd;1b c e bz E;1tl c b J;0gv b e V;0ea e b S a SWASH dq;3Z a SWASH dq;0il e b ALFA",
   "1c b ALFA;1e b VIDA;1c b VIDA;1e b jl;1c b jl;1e b DALDA;1c b DALDA;1e b EIE;1c b EIE;1e b SOU",
   "1c b SOU;1e b ZATA;1c b ZATA;1e b HATE;1c b HATE;1e b THETHE;1c b THETHE;1e b IAUDA;1c b IAUDA",
   "1e b KAPA;1c b KAPA;1e b LAULA;1c b LAULA;1e b MI;1c b MI;1e b NI;1c b NI;1e b KSI;1c b KSI",
   "1e b O;1c b O;1e b PI;1c b PI;1e b RO;1c b RO;1e b SIMA;1c b SIMA;1e b TAU;1c b TAU;1e b UA",
   "1c b UA;1e b FI;1c b FI;1e b KHI;1c b KHI;1e b PSI;1c b PSI;1e b OOU;1c b OOU;1e b rw bb",
   "1c b rw bb;1e b dv il gi;1c b dv il gi;1e b qq EIE;1c b qq EIE;1e b rw KAPA;1c b rw KAPA",
   "1e b rw NI;1c b rw NI;1e b qq NI;1c b qq NI;1e b dv il OOU;1c b dv il OOU;1e b SAMPI",
   "1c b SAMPI;1e b nu SHEI;1c b nu SHEI;1e b dv il SHEI;1c b dv il SHEI;1e b dv il ESH",
   "1c b dv il ESH;1e b AKHMIMIC KHEI;1c b AKHMIMIC KHEI;1e b rw HORI;1c b rw HORI;1e b dv il HORI",
   "1c b dv il HORI;1e b dv il HA;1c b dv il HA;1e b L-SHAPED HA;1c b L-SHAPED HA;1e b dv il HEI",
   "1c b dv il HEI;1e b dv il HAT;1c b dv il HAT;1e b dv il GANGIA;1c b dv il GANGIA",
   "1e b dv il DJA;1c b dv il DJA;1e b dv il SHIMA;1c b dv il SHIMA;1e b dv rj SHIMA",
   "1c b dv rj SHIMA;1e b dv rj NGI;1c b dv rj NGI;1e b dv rj NYI;1c b dv rj NYI;1e b dv rj WAU",
   "1c b dv rj WAU;1z KAI;2MI RO;2PI RO;2STAUROS;2TAU RO;2KHI RO;2SHIMA SIMA;1e b qq SHEI",
   "1c b qq SHEI;1e b qq GANGIA;1c b qq GANGIA;1fi NI j;2SPIRITUS ASPER;3LENIS;1e b BOHAIRIC KHEI",
   "1c b BOHAIRIC KHEI;5+1dv rj ec ck;3DIRECT hd r;3INDIRECT hd r;3VERSE vn;1jy o ao;1ec ck",
   "1MORPHOLOGICAL vn;0wq c b AN;3BAN;3GAN;3DON;3EN;3VIN;3ZEN;3TAN;3IN;3KAN;3LAS;3MAN;3NAR;3ON",
   "3PAR;3ZHAR;3RAE;3SAN;3TAR;3UN;3PHAR;3KHAR;3GHAN;3QAR;3gx;3CHIN;3CAN;3JIL;3CIL;3CHAR;3XAN;3JHAN",
   "3HAE;3HE;3HIE;3WE;3HAR;3HOE;1+3YN;5+3AEN;2+0TIFINAGH b YA;2YAB;2YABH;2YAG;2YAGHH",
   "2BERBER ACADEMY YAJ;2YAJ;2YAD;2YADH;2YADD;2YADDH;2YEY;2YAF;2YAK;2ug YAK;2YAKHH;2YAH",
   "2BERBER ACADEMY YAH;2ug YAH;2YAHH;2YAA;2YAKH;2ug YAKH;2YAQ;2ug YAQ;2YI;2YAZH;2AHAGGAR YAZH",
   "2ug YAZH;2YAL;2YAM;2YAN;2ug YAGN;3YANG;2YAP;2YU;2YAR;2YARR;2YAGH;2ug YAGH;2AYER YAGH;2YAS",
   "2YASS;2YASH;2YAT;2YATH;2YACH;2YATT;2YAV;2YAW;2YAY;2YAZ;2TAWELLEMET YAZ;2YAZZ;2YE;2YO",
   "7+1gv b LABIALIZATION r;1ir r;E+1ja ub;0ETHIOPIC ll LOA;2MOA;2ROA;2SOA;2SHOA;2BOA;2TOA;2COA",
   "2NOA;2NYOA;2hn OA;2ZOA;2DOA;2DDOA;2JOA;2THOA;2CHOA;2PHOA;2POA;2GGWA;2GGWI;2GGWEE;2GGWE;9+2fh",
   "2SSU;2SSI;2SSAA;2SSEE;2SSE;2SSO;1+2CCA;2CCU;2CCI;2CCAA;2CCEE;2CCE;2CCO;1+2ZZA;2ZZU;2ZZI;2ZZAA",
   "2ZZEE;2ZZE;2ZZO;1+2CCHA;2CCHU;2CCHI;2CCHAA;2CCHEE;2CCHE;2CCHO;1+2QYA;2QYU;2QYI;2QYAA;2QYEE",
   "2QYE;2QYO;1+2KYA;2KYU;2KYI;2KYAA;2KYEE;2KYE;2KYO;1+2XYA;2XYU;2XYI;2XYAA;2XYEE;2XYE;2XYO;1+2GYA",
   "2GYU;2GYI;2GYAA;2GYEE;2GYE;2GYO;1+0fi mw b BE;3VE;3GHE;3DE;3ZHE;3ZE;3KA;3EL;3EM;3EN;3O;3PE;3ER",
   "3ES;3TE;3HA;3TSE;3CHE;3cl;3SHCHA;3FITA;3ES-TE;3A;3IE;3DJERV;3MONOGRAPH UK;3YAT;3YU;3lj A",
   "3dm hj;3BIG hj;3lj BIG hj;0i dy un sz;2fm un sz;0k un as;0i un as;0k fm un as;0i fm un as",
   "0ic INTERPOLATION sz;1fm INTERPOLATION sz;0fm zc sz;0k zc as;0i zc as;0ic at;0k ic OMISSION as",
   "0i ic OMISSION as;0EDITORIAL CORONIS;0PARAGRAPHOS;0FORKED PARAGRAPHOS;0cf FORKED PARAGRAPHOS",
   "0HYPODIASTOLE;0fm OBELOS;0bj ANCORA;0bo ANCORA;0fm ip dy;0p mf oo;0cu wa;0PALM BRANCH;0oo a ch",
   "0bg a bi j;0k bn PARAPHRASE as;0i bn PARAPHRASE as;0bg a q j;3m;0k af ak a QUILL",
   "0i af ak a QUILL;0ez k ao as;1i ao as;0gj k ao as;1i ao as;0k qw U as;0i qw U as;0k p ew",
   "0i p ew;0l aw ay o q eu;0o q ay l aw eu;0fx w q eu;0aa q r;0cf hd r;0af bg;0bi nz;0mq ir ae q",
   "0bz de;0ic q;1de;0bz oi;0DAGGER a k GUARD;2i GUARD;0bz DAGGER;0ez ao iv f;0TWO-EM fc",
   "0THREE-EM fc;0STENOGRAPHIC ec ck;0af ag aw;0WIGGLY af cs;0CAPITULUM;0p oo;0cf de",
   "0p LOW-REVERSED-9 gu r;0fc a k UPTURN;0p SUSPENSION r;0cu bn KAVYKA;3a KAVYKA j;0bn KAVYKA",
   "2a q;0p STACKED de;0fm iu;0el DAGGER;0MEDIEVAL de;0PARAGRAPHUS r;0PUNCTUS ELEVATUS r",
   "0CORNISH VERSE vn;0em PATTY a i CROSSBAR;3k CROSSBAR;0TIRONIAN f e ET;0MEDIEVAL ia r;1hd r",
   "0k at as a y;0i at as a y;0k at as a p y;0i at as a p y;0ez ao k ew;2i ew;0gj ao k ew;2i ew",
   "0mf oo;22+0CJK RADICAL REPEAT;2CLIFF;2uh o;3l;3s;2lp;2hy;2TABLE;2KNIFE o;3l;2DIVINATION;2SEAL",
   "2c o;3l;2LAME o;3l;3s;3w;2SNAKE;2THREAD;2SNOUT o;3l;2hh o;3l;2gs;2RAP;1+2CHOKE;2SUN;2ig;2DEATH",
   "2MOTHER;2CIVILIAN;2oc o;3l;2FIRE;2PAW o;3l;2yk ao TREE TRUNK;2COW;2DOG;2JADE;2BOLT OF CLOTH",
   "2EYE;2SPIRIT o;3l;2BAMBOO;2SILK;2lz SILK;2NET o;3l;3s;3w;2MESH;2SHEEP;2RAM;2EWE;2dv;2BRUSH o",
   "3l;2MEAT;2MORTAR;2GRASS o;3l;3s;2TIGER;2CLOTHES;2du o;3l;2lz SEE;2yk gb;2gb;2lz ui;3iy;2FOOT",
   "2lz CART;2yk WALK;2WALK o;3l;2CITY;2lz GOLD;2cb o;3l;2lz cb;3GATE;2MOUND o;3l;2RAIN;2BLUE",
   "2lz TANNED LEATHER;3jp;3WIND;3FLY;2EAT o;3l;3s;2lz EAT;2kh;2lz HORSE;2BONE;2GHOST;2lz FISH",
   "3BIRD;3SALT;2yk WHEAT;3YELLOW;2lz FROG;2xo EVEN;2lz EVEN;2xo TOOTH;2lz TOOTH;2xo td;2lz td",
   "2TURTLE;2xo TURTLE;2lz TURTLE;C+0KANGXI RADICAL o;2cs;2q;2ls;2uh;2x;2l;2LID;2MAN;2LEGS;2ENTER",
   "2ah;2aq hy;2COVER;2ICE;2TABLE;2by hy;2KNIFE;2POWER;2WRAP;2SPOON;2i by hy;2HIDING ENCLOSURE;2cc",
   "2DIVINATION;2SEAL;2CLIFF;2PRIVATE;2AGAIN;2jr;2ENCLOSURE;2nf;2SCHOLAR;2GO;3SLOWLY;2EVENING;2BIG",
   "2WOMAN;2CHILD;2ROOF;2INCH;2c;2LAME;2CORPSE;2SPROUT;2sk;2RIVER;2WORK;2ONESELF;2TURBAN;2DRY",
   "2eb THREAD;2fm CLIFF;2cb STRIDE;2l HANDS;2SHOOT;2BOW;2SNOUT;2BRISTLE;2STEP;2hh;2HALBERD;2DOOR",
   "2gs;2BRANCH;2RAP;2ix;2DIPPER;2AXE;2at;2dh;2SUN;2SAY;2ig;2TREE;2LACK;2ck;2DEATH;2WEAPON;2DO dh",
   "2COMPARE;2FUR;2CLAN;2STEAM;2oc;2FIRE;2CLAW;2FATHER;2p X;2ao TREE TRUNK;2SLICE;2FANG;2COW;2DOG",
   "2PROFOUND;2JADE;2MELON;2TILE;2SWEET;2LIFE;2USE;2FIELD;2BOLT OF CLOTH;2SICKNESS;2fm TENT;2v",
   "2SKIN;2je;2EYE;2SPEAR;2h;2STONE;2SPIRIT;2TRACK;2GRAIN;2CAVE;2STAND;2BAMBOO;2RICE;2SILK;2JAR",
   "2NET;2SHEEP;2FEATHER;2dv;2g;2PLOW;2EAR;2BRUSH;2MEAT;2MINISTER;2SELF;2ARRIVE;2MORTAR;2uj",
   "2OPPOSE;2BOAT;2STOPPING;2COLOR;2GRASS;2TIGER;2INSECT;2BLOOD;2WALK ENCLOSURE;2CLOTHES;2du;2SEE",
   "2gb;2ui;2VALLEY;2BEAN;2PIG;2BADGER;2iy;2RED;2RUN;2FOOT;2BODY;2CART;2BITTER;2MORNING;2WALK",
   "2CITY;2WINE;2DISTINGUISH;2VILLAGE;2GOLD;2cb;2GATE;2MOUND;2SLAVE;2eb TAILED BIRD;2RAIN;2BLUE",
   "2WRONG;2au;2LEATHER;2TANNED LEATHER;2LEEK;2lf;2jp;2WIND;2FLY;2EAT;2kh;2FRAGRANT;2HORSE;2BONE",
   "2TALL;2HAIR;2FIGHT;2SACRIFICIAL WINE;2CAULDRON;2GHOST;2FISH;2BIRD;2SALT;2DEER;2WHEAT;2HEMP",
   "2YELLOW;2MILLET;2t;2EMBROIDERY;2FROG;2TRIPOD;2DRUM;2RAT;2NOSE;2EVEN;2TOOTH;2td;2TURTLE;2FLUTE",
   "1A+0ma DESCRIPTION qu k TO i;3j TO m;3k TO ae g i;3j TO ae g m;3ec SURROUND;3SURROUND gr j;5m",
   "5k;5bv k;6i;5bl k;3OVERLAID;4+1jk;1de;1ec ck;0DITTO r;0ts INDUSTRIAL STANDARD z;0ma qv r",
   "1CLOSING r;1cz bt;0k dy as;0i dy as;0k p dy as;0i p dy as;0k gk as;0i gk as;0k v gk as",
   "0i v gk as;0k t rm as;0i t rm as;0POSTAL r;0GETA r;0k kl iy as;0i kl iy as;0k v rm as",
   "0i v rm as;0k v kl iy as;0i v kl iy as;0k v at as;0i v at as;0jo fc;0cf p ov gu r;0p ov gu r",
   "0bn p ov gu r;0POSTAL r au;0HANGZHOU pv o;2l;2s;2w;2aa;2ag;2an;2ah;2ar;0ma LEVEL bx r;1nw bx r",
   "1DEPARTING bx r;1ENTERING bx r;0rf cp q bx r;1p q bx r;0WAVY fc;0af KANA REPEAT r;3a qd lf r",
   "3r bv ao;3a qd lf r bv ao;3r bl ao;0ds POSTAL r;0ma TELEGRAPH cs FEED ir z;0HANGZHOU pv cc;2fb",
   "2jj;0af ma qv r;0MASU r;0PART ALTERNATION r;0ma wg rp;1ao nj jk;1+0vd b c A;2A;2c I;2I;2c U;2U",
   "2c E;2E;2c O;2O;2KA;2GA;2KI;2GI;2KU;2GU;2KE;2GE;2KO;2GO;2SA;2ZA;2SI;2ZI;2SU;2ZU;2SE;2ZE;2SO",
   "2ZO;2TA;2DA;2TI;2DI;2c TU;2TU;2DU;2TE;2DE;2TO;2DO;2NA;2NI;2NU;2NE;2NO;2HA;2BA;2PA;2HI;2BI;2PI",
   "2HU;2BU;2PU;2HE;2BE;2PE;2HO;2BO;2PO;2MA;2MI;2MU;2ME;2MO;2c YA;2YA;2c YU;2YU;2c YO;2YO;2RA;2RI",
   "2RU;2RE;2RO;2c WA;2WA;2WI;2WE;2WO;2N;2VU;2c KA;3KE;2+0fi vv qd lf r;2SEMI-VOICED lf r",
   "0vv qd lf r;1SEMI-VOICED lf r;0vd qv r;1qd qv r;1ho YORI;0vv p oo;0ph b c A;2A;2c I;2I;2c U;2U",
   "2c E;2E;2c O;2O;2KA;2GA;2KI;2GI;2KU;2GU;2KE;2GE;2KO;2GO;2SA;2ZA;2SI;2ZI;2SU;2ZU;2SE;2ZE;2SO",
   "2ZO;2TA;2DA;2TI;2DI;2c TU;2TU;2DU;2TE;2DE;2TO;2DO;2NA;2NI;2NU;2NE;2NO;2HA;2BA;2PA;2HI;2BI;2PI",
   "2HU;2BU;2PU;2HE;2BE;2PE;2HO;2BO;2PO;2MA;2MI;2MU;2ME;2MO;2c YA;2YA;2c YU;2YU;2c YO;2YO;2RA;2RI",
   "2RU;2RE;2RO;2c WA;2WA;2WI;2WE;2WO;2N;2VU;2c KA;3KE;2VA;2VI;2VE;2VO;1ae q;0vv PROLONGED lf r",
   "0ph qv r;1qd qv r;1ho KOTO;5+0BOPOMOFO b B;2P;2M;2F;2D;2T;2N;2L;2G;2K;2H;2J;2Q;2X;2ZH;2CH;2SH",
   "2R;2Z;2C;2S;2A;2O;2E;2EH;2AI;2EI;2AU;2OU;2AN;2EN;2ANG;2ENG;2ER;2I;2U;2IU;2V;2NG;2GN;2IH",
   "2O a q j;2NN;1+0rf b ta;2xq;2KIYEOK-SIOS;2NIEUN;2xt;2xu;2tb;2xr;2RIEUL;2xm;2xv;2xw;2yh;2yz;2za",
   "2xs;2MIEUM;2PIEUP;2ye;2yg;2SIOS;2yr;2IEUNG;2CIEUC;2yf;2sr;2ss;2st;2su;2HIEUH;2A;2AE;2YA;2YAE",
   "2EO;2E;2YEO;2YE;2O;2WA;2WAE;2OE;2YO;2U;2WEO;2WE;2WI;2YU;2EU;2YI;2I;1rg;1b SSANGNIEUN;2zf",
   "2NIEUN-SIOS;2NIEUN-PANSIOS;2zx;2zh;2RIEUL-PIEUP-SIOS;2RIEUL-PANSIOS;2zy;2MIEUM-PIEUP",
   "2MIEUM-SIOS;2MIEUM-PANSIOS;2yx;2PIEUP-KIYEOK;2zg;2zw;2ys;2PIEUP-CIEUC;2PIEUP-THIEUTH;2yy;2zu",
   "2SIOS-KIYEOK;2SIOS-NIEUN;2SIOS-TIKEUT;2SIOS-PIEUP;2SIOS-CIEUC;2PANSIOS;2SSANGIEUNG;2YESIEUNG",
   "2YESIEUNG-SIOS;2YESIEUNG-PANSIOS;2yu;2SSANGHIEUH;2YEORINHIEUH;2YO-YA;2YO-YAE;2YO-I;2YU-YEO",
   "2YU-YE;2YU-I;2ARAEA;2ARAEAE;1+0ma ANNOTATION LINKING r;2jq r;2o r;2l r;2s r;2w r;2ez r;2ae r",
   "2gj r;2FIRST r;2uh r;2ob r;2FOURTH r;2HEAVEN r;2nf r;2MAN r;0BOPOMOFO b BU;2ZI;2JI;2GU;2EE",
   "2ENN;2OO;2ONN;2IR;2ANN;2INN;2UNN;2IM;2NGG;2AINN;2AUNN;2AM;2OM;2ONG;2INNN;1n b P;3T;3K;3H;1b GH",
   "2LH;2ZY;1n b G;1b GW;2KW;2OE;2AH;0CJK y T;2WG;2XG;2BXG;2SW;2HZZ;2HZG;2HP;2HZWG;2SZWG;2HZT",
   "2HZZP;2HPWG;2HZW;2HZZZ;2N;2H;2S;2P;2SP;2D;2HZ;2HG;2SZ;2SWZ;2ST;2SG;2PD;2PZ;2TN;2SZZ;2SWG;2HXWG",
   "2HZZZG;2PG;2Q;C+0ph b c KU;3SI;3SU;3TO;3NU;3HA;3HI;3HU;3HE;3HO;3MU;3RA;3RI;3RU;3RE;3RO",
   "0xg rf ta;2NIEUN;2tb;2RIEUL;2MIEUM;2PIEUP;2SIOS;2IEUNG;2CIEUC;2sr;2ss;2st;2su;2HIEUH;2ta A",
   "2NIEUN A;2tb A;2RIEUL A;2MIEUM A;2PIEUP A;2SIOS A;2IEUNG A;2CIEUC A;2sr A;2ss A;2st A;2su A",
   "2HIEUH A;2CIEUC U;1KOREAN qu OJEON;3O HU;1+1IDEOGRAPH o;2l;2s;2w;2aa;2ag;2an;2ah;2ar;2cc;2ig",
   "2FIRE;2oc;2WOOD;2METAL;2nf;2SUN;2STOCK;2HAVE;2SOCIETY;2NAME;2SPECIAL;2FINANCIAL",
   "2CONGRATULATION;2LABOR;2REPRESENT;2CALL;2STUDY;2SUPERVISE;2ENTERPRISE;2RESOURCE;2ALLIANCE",
   "2FESTIVAL;2kv;2SELF;2REACH;0ds IDEOGRAPH hd;2KINDERGARTEN;2SCHOOL;2KOTO;1cz cc ON t at",
   "2fb ON t at;2jj ON t at;2kr ON t at;2gh ON t at;2le ON t at;2ga ON t at;2mk ON t at",
   "0PARTNERSHIP f;0ds cz fb o;3l;3s;3w;3aa;3ag;3an;3ah;3ar;2jj;3o;3l;3s;3w;3aa;1rf ta;2NIEUN;2tb",
   "2RIEUL;2MIEUM;2PIEUP;2SIOS;2IEUNG;2CIEUC;2sr;2ss;2st;2su;2HIEUH;2ta A;2NIEUN A;2tb A;2RIEUL A",
   "2MIEUM A;2PIEUP A;2SIOS A;2IEUNG A;2CIEUC A;2sr A;2ss A;2st A;2su A;2HIEUH A;1KOREAN qu CHAMKO",
   "3JUEUI;1rf IEUNG U;0KOREAN STANDARD z;0ds IDEOGRAPH o;2l;2s;2w;2aa;2ag;2an;2ah;2ar;2cc;2ig",
   "2FIRE;2oc;2WOOD;2METAL;2nf;2SUN;2STOCK;2HAVE;2SOCIETY;2NAME;2SPECIAL;2FINANCIAL",
   "2CONGRATULATION;2LABOR;2SECRET;2MALE;2FEMALE;2SUITABLE;2EXCELLENT;2PRINT;2ATTENTION;2ITEM;2kv",
   "2COPY;2CORRECT;2ci;2dn;2bn;2k;2i;2MEDICINE;2RELIGION;2STUDY;2SUPERVISE;2ENTERPRISE;2RESOURCE",
   "2ALLIANCE;2NIGHT;1cz jj ag;3an;3ah;3ar;2kr;3o;3l;3s;3w;3aa;3ag;3an;3ah;3ar;2gh",
   "0ma TELEGRAPH z fp JANUARY;4FEBRUARY;4MARCH;4APRIL;4MAY;4JUNE;4JULY;4AUGUST;4SEPTEMBER",
   "4OCTOBER;4NOVEMBER;4DECEMBER;0at HG;1ERG;1EV;0LIMITED LIABILITY f;0ds ph A;2I;2U;2E;2O;2KA;2KI",
   "2KU;2KE;2KO;2SA;2SI;2SU;2SE;2SO;2TA;2TI;2TU;2TE;2TO;2NA;2NI;2NU;2NE;2NO;2HA;2HI;2HU;2HE;2HO",
   "2MA;2MI;2MU;2ME;2MO;2YA;2YU;2YO;2RA;2RI;2RU;2RE;2RO;2WA;2WI;2WE;2WO;0at ERA NAME REIWA;1APAATO",
   "1ARUHUA;1ANPEA;1AARU;1ININGU;1INTI;1UON;1ESUKUUDO;1EEKAA;1ONSU;1OOMU;1KAIRI;1KARATTO;1KARORII",
   "1GARON;1GANMA;1GIGA;1GINII;1KYURII;1GIRUDAA;1KIRO;1KIROGURAMU;1KIROMEETORU;1KIROWATTO;1GURAMU",
   "1GURAMUTON;1KURUZEIRO;1KUROONE;1KEESU;1KORUNA;1KOOPO;1SAIKURU;1SANTIIMU;1SIRINGU;1SENTI;1SENTO",
   "1DAASU;1DESI;1DORU;1TON;1NANO;1NOTTO;1HAITU;1PAASENTO;1PAATU;1BAARERU;1PIASUTORU;1PIKURU;1PIKO",
   "1BIRU;1HUARADDO;1HUIITO;1BUSSYERU;1HURAN;1HEKUTAARU;1PESO;1PENIHI;1HERUTU;1PENSU;1PEEZI;1BEETA",
   "1POINTO;1BORUTO;1HON;1PONDO;1HOORU;1HOON;1MAIKURO;1MAIRU;1MAHHA;1MARUKU;1MANSYON;1MIKURON",
   "1MIRI;1MIRIBAARU;1MEGA;1MEGATON;1MEETORU;1YAADO;1YAARU;1YUAN;1RITTORU;1RIRA;1RUPII;1RUUBURU",
   "1REMU;1RENTOGEN;1WATTO;0ma TELEGRAPH z fp HOUR bt;5o;5l;5s;5w;5aa;5ag;5an;5ah;5ar;5cc;5or;5nb",
   "5sh;5si;5pj;5px;5rv;5qx;5sj;5fb;5TWENTY-ONE;5TWENTY-TWO;5TWENTY-THREE;5TWENTY-FOUR;0at HPA;1DA",
   "1AU;1ak;1OV;1PC;1DM;2fx;2CUBED;1IU;1ERA NAME HEISEI;3SYOUWA;3TAISYOU;3MEIZI;1CORPORATION",
   "1PA AMPS;1NA;1MU A;1MA;1KA;1KB;1MB;1GB;1CAL;1KCAL;1PF;1NF;1MU F;2G;1MG;1KG;1HZ;1KHZ;1MHZ;1GHZ",
   "1THZ;1MU L;1ML;1DL;1KL;1FM;1NM;1MU M;1MM;1CM;1KM;1MM fx;1CM fx;1M fx;1KM fx;1MM CUBED",
   "1CM CUBED;1M CUBED;1KM CUBED;1M ay S;4fx;1PA;1KPA;1MPA;1GPA;1RAD;2ay S;4fx;1PS;1NS;1MU S;1MS",
   "1PV;1NV;1MU V;1MV;1KV;1MV MEGA;1PW;1NW;1MU W;1MW;1KW;1MW MEGA;1K OHM;1M OHM;1AM;1BQ;1CC;1CD",
   "1C ay KG;1CO;1DB;1GY;1HA;1HP;1IN;1KK;1KM e;1KT;1LM;1LN;1LOG;1LX;1MB c;1MIL;1MOL;1PH;1PM;1PPM",
   "1PR;1SR;1SV;1WB;1V ay M;1A ay M;0ma TELEGRAPH z fp DAY o;5l;5s;5w;5aa;5ag;5an;5ah;5ar;5cc;5or",
   "5nb;5sh;5si;5pj;5px;5rv;5qx;5sj;5fb;5TWENTY-ONE;5TWENTY-TWO;5TWENTY-THREE;5TWENTY-FOUR;5xy",
   "5TWENTY-SIX;5TWENTY-SEVEN;5TWENTY-EIGHT;5TWENTY-NINE;5jj;5THIRTY-ONE;0at GAL",
   "19C0+0HEXAGRAM fp fr CREATIVE HEAVEN;3RECEPTIVE nf;2DIFFICULTY AT fr BEGINNING;2YOUTHFUL FOLLY",
   "2WAITING;2CONFLICT;2fr ARMY;2vo TOGETHER;2c TAMING;2TREADING;2PEACE;2STANDSTILL;2FELLOWSHIP",
   "2GREAT POSSESSION;2MODESTY;2ENTHUSIASM;2FOLLOWING;2WORK ON fr DECAYED;2APPROACH;2CONTEMPLATION",
   "2BITING mz;2GRACE;2SPLITTING APART;2RETURN;2INNOCENCE;2GREAT TAMING;2jr vl",
   "2GREAT PREPONDERANCE;2fr ABYSMAL oc;3CLINGING FIRE;2INFLUENCE;2DURATION;2RETREAT;2GREAT POWER",
   "2PROGRESS;2DARKENING OF fr bd;2fr FAMILY;2OPPOSITION;2OBSTRUCTION;2DELIVERANCE;2DECREASE",
   "2INCREASE;2BREAKTHROUGH;2COMING TO MEET;2GATHERING TOGETHER;2PUSHING UPWARD;2OPPRESSION",
   "2fr WELL;2REVOLUTION;2fr CAULDRON;3AROUSING THUNDER;3KEEPING STILL sk;2DEVELOPMENT",
   "2fr MARRYING MAIDEN;2ABUNDANCE;2fr WANDERER;3GENTLE WIND;3JOYOUS LAKE;2DISPERSION;2LIMITATION",
   "2INNER TRUTH;2c PREPONDERANCE;2AFTER COMPLETION;2BEFORE COMPLETION;5200+0YI ll IT;2IX;2I;2IP",
   "2IET;2IEX;2IE;2IEP;2AT;2AX;2A;2AP;2UOX;2UO;2UOP;2OT;2OX;2O;2OP;2EX;2E;2WU;2BIT;2BIX;2BI;2BIP",
   "2BIET;2BIEX;2BIE;2BIEP;2BAT;2BAX;2BA;2BAP;2BUOX;2BUO;2BUOP;2BOT;2hy;2BO;2BOP;2BEX;2BE;2BEP",
   "2BUT;2BUX;2BU;2BUP;2BURX;2BUR;2BYT;2BYX;2BY;2BYP;2BYRX;2BYR;2PIT;2PIX;2PI;2PIP;2PIEX;2PIE",
   "2PIEP;2PAT;2PAX;2PA;2PAP;2PUOX;2PUO;2PUOP;2POT;2POX;2PO;2POP;2PUT;2PUX;2PU;2PUP;2PURX;2PUR",
   "2PYT;2PYX;2PY;2PYP;2PYRX;2PYR;2BBIT;2BBIX;2BBI;2BBIP;2BBIET;2BBIEX;2BBIE;2BBIEP;2BBAT;2BBAX",
   "2BBA;2BBAP;2BBUOX;2BBUO;2BBUOP;2BBOT;2BBOX;2BBO;2BBOP;2BBEX;2BBE;2BBEP;2BBUT;2BBUX;2BBU;2BBUP",
   "2BBURX;2BBUR;2BBYT;2BBYX;2BBY;2BBYP;2NBIT;2NBIX;2NBI;2NBIP;2NBIEX;2NBIE;2NBIEP;2NBAT;2NBAX",
   "2NBA;2NBAP;2NBOT;2NBOX;2NBO;2NBOP;2NBUT;2NBUX;2NBU;2NBUP;2NBURX;2NBUR;2NBYT;2NBYX;2NBY;2NBYP",
   "2NBYRX;2NBYR;2HMIT;2HMIX;2HMI;2HMIP;2HMIEX;2HMIE;2HMIEP;2HMAT;2HMAX;2HMA;2HMAP;2HMUOX;2HMUO",
   "2HMUOP;2HMOT;2HMOX;2HMO;2HMOP;2HMUT;2HMUX;2HMU;2HMUP;2HMURX;2HMUR;2HMYX;2HMY;2HMYP;2HMYRX",
   "2HMYR;2MIT;2MIX;2MI;2MIP;2MIEX;2MIE;2MIEP;2MAT;2MAX;2MA;2MAP;2MUOT;2MUOX;2MUO;2MUOP;2MOT;2MOX",
   "2MO;2MOP;2MEX;2ME;2MUT;2MUX;2MU;2MUP;2MURX;2MUR;2MYT;2MYX;2MY;2MYP;2FIT;2FIX;2FI;2FIP;2FAT",
   "2FAX;2FA;2FAP;2FOX;2FO;2FOP;2FUT;2FUX;2FU;2FUP;2FURX;2FUR;2FYT;2FYX;2FY;2FYP;2VIT;2VIX;2VI",
   "2VIP;2VIET;2VIEX;2VIE;2VIEP;2VAT;2VAX;2VA;2VAP;2VOT;2VOX;2VO;2VOP;2VEX;2VEP;2VUT;2VUX;2VU;2VUP",
   "2VURX;2VUR;2VYT;2VYX;2VY;2VYP;2VYRX;2VYR;2DIT;2DIX;2DI;2DIP;2DIEX;2DIE;2DIEP;2DAT;2DAX;2DA",
   "2DAP;2DUOX;2DUO;2q;2DOX;2DO;2DOP;2DEX;2DE;2DEP;2DUT;2DUX;2DU;2DUP;2DURX;2DUR;2TIT;2TIX;2TI",
   "2TIP;2TIEX;2TIE;2TIEP;2TAT;2TAX;2TA;2TAP;2TUOT;2TUOX;2TUO;2TUOP;2TOT;2TOX;2TO;2ez;2TEX;2TE",
   "2TEP;2TUT;2TUX;2TU;2TUP;2TURX;2TUR;2DDIT;2DDIX;2DDI;2DDIP;2DDIEX;2DDIE;2DDIEP;2DDAT;2DDAX;2ef",
   "2DDAP;2DDUOX;2DDUO;2DDUOP;2DDOT;2DDOX;2DDO;2DDOP;2DDEX;2DDE;2DDEP;2DDUT;2DDUX;2DDU;2DDUP",
   "2DDURX;2DDUR;2NDIT;2NDIX;2NDI;2NDIP;2NDIEX;2NDIE;2NDAT;2NDAX;2NDA;2NDAP;2NDOT;2NDOX;2NDO;2NDOP",
   "2NDEX;2NDE;2NDEP;2NDUT;2NDUX;2NDU;2NDUP;2NDURX;2NDUR;2HNIT;2HNIX;2HNI;2HNIP;2HNIET;2HNIEX",
   "2HNIE;2HNIEP;2HNAT;2HNAX;2HNA;2HNAP;2HNUOX;2HNUO;2HNOT;2HNOX;2HNOP;2HNEX;2HNE;2HNEP;2HNUT;2NIT",
   "2NIX;2NI;2NIP;2NIEX;2NIE;2NIEP;2NAX;2NA;2NAP;2NUOX;2NUO;2NUOP;2dh;2NOX;2NO;2NOP;2NEX;2NE;2NEP",
   "2NUT;2NUX;2NU;2NUP;2NURX;2NUR;2HLIT;2HLIX;2HLI;2HLIP;2HLIEX;2HLIE;2HLIEP;2HLAT;2HLAX;2HLA",
   "2HLAP;2HLUOX;2HLUO;2HLUOP;2HLOX;2HLO;2HLOP;2HLEX;2HLE;2HLEP;2HLUT;2HLUX;2HLU;2HLUP;2HLURX",
   "2HLUR;2HLYT;2HLYX;2HLY;2HLYP;2HLYRX;2HLYR;2LIT;2LIX;2LI;2LIP;2LIET;2LIEX;2LIE;2LIEP;2LAT;2LAX",
   "2LA;2LAP;2LUOT;2LUOX;2LUO;2LUOP;2LOT;2LOX;2LO;2LOP;2LEX;2LE;2LEP;2LUT;2LUX;2LU;2LUP;2LURX;2LUR",
   "2LYT;2LYX;2LY;2LYP;2LYRX;2LYR;2GIT;2GIX;2GI;2GIP;2GIET;2GIEX;2GIE;2GIEP;2GAT;2GAX;2GA;2GAP",
   "2GUOT;2GUOX;2GUO;2GUOP;2GOT;2GOX;2GO;2GOP;2GET;2GEX;2GE;2GEP;2GUT;2GUX;2GU;2GUP;2GURX;2GUR",
   "2KIT;2KIX;2KI;2KIP;2KIEX;2KIE;2KIEP;2KAT;2KAX;2KA;2KAP;2KUOX;2KUO;2KUOP;2KOT;2KOX;2KO;2KOP",
   "2KET;2KEX;2KE;2KEP;2KUT;2KUX;2KU;2KUP;2KURX;2KUR;2GGIT;2GGIX;2GGI;2GGIEX;2GGIE;2GGIEP;2GGAT",
   "2GGAX;2GGA;2GGAP;2GGUOT;2GGUOX;2GGUO;2GGUOP;2GGOT;2GGOX;2GGO;2GGOP;2GGET;2GGEX;2GGE;2GGEP",
   "2GGUT;2GGUX;2GGU;2GGUP;2GGURX;2GGUR;2MGIEX;2MGIE;2MGAT;2MGAX;2MGA;2MGAP;2MGUOX;2MGUO;2MGUOP",
   "2MGOT;2MGOX;2MGO;2MGOP;2MGEX;2MGE;2MGEP;2MGUT;2MGUX;2MGU;2MGUP;2MGURX;2MGUR;2HXIT;2HXIX;2HXI",
   "2HXIP;2HXIET;2HXIEX;2HXIE;2HXIEP;2HXAT;2HXAX;2HXA;2HXAP;2HXUOT;2HXUOX;2HXUO;2HXUOP;2HXOT;2HXOX",
   "2HXO;2HXOP;2HXEX;2HXE;2HXEP;2NGIEX;2NGIE;2NGIEP;2NGAT;2NGAX;2cj;2NGAP;2NGUOT;2NGUOX;2NGUO",
   "2NGOT;2NGOX;2NGO;2NGOP;2NGEX;2NGE;2NGEP;2HIT;2HIEX;2HIE;2HAT;2HAX;2HA;2HAP;2HUOT;2HUOX;2HUO",
   "2HUOP;2HOT;2HOX;2HO;2HOP;2HEX;2HE;2HEP;2WAT;2WAX;2WA;2WAP;2WUOX;2WUO;2WUOP;2WOX;2WO;2WOP;2WEX",
   "2WE;2WEP;2ZIT;2ZIX;2ZI;2ZIP;2ZIEX;2ZIE;2ZIEP;2ZAT;2ZAX;2ZA;2ZAP;2ZUOX;2ZUO;2ZUOP;2ZOT;2ZOX;2ZO",
   "2ZOP;2ZEX;2ZE;2ZEP;2ZUT;2ZUX;2ZU;2ZUP;2ZURX;2ZUR;2ZYT;2ZYX;2ZY;2ZYP;2ZYRX;2ZYR;2CIT;2CIX;2CI",
   "2CIP;2CIET;2CIEX;2CIE;2CIEP;2CAT;2CAX;2CA;2CAP;2CUOX;2CUO;2CUOP;2COT;2COX;2CO;2COP;2CEX;2CE",
   "2CEP;2CUT;2CUX;2CU;2CUP;2CURX;2CUR;2CYT;2CYX;2CY;2CYP;2CYRX;2CYR;2ZZIT;2ZZIX;2ZZI;2ZZIP;2ZZIET",
   "2ZZIEX;2ZZIE;2ZZIEP;2ZZAT;2ZZAX;2ZZA;2ZZAP;2ZZOX;2ZZO;2ZZOP;2ZZEX;2ZZE;2ZZEP;2ZZUX;2ZZU;2ZZUP",
   "2ZZURX;2ZZUR;2ZZYT;2ZZYX;2ZZY;2ZZYP;2ZZYRX;2ZZYR;2NZIT;2NZIX;2NZI;2NZIP;2NZIEX;2NZIE;2NZIEP",
   "2NZAT;2NZAX;2NZA;2NZAP;2NZUOX;2NZUO;2NZOX;2NZOP;2NZEX;2NZE;2NZUX;2NZU;2NZUP;2NZURX;2NZUR;2NZYT",
   "2NZYX;2NZY;2NZYP;2NZYRX;2NZYR;2SIT;2ag;2SI;2SIP;2SIEX;2SIE;2SIEP;2SAT;2SAX;2SA;2SAP;2SUOX;2SUO",
   "2SUOP;2SOT;2SOX;2SO;2SOP;2SEX;2SE;2SEP;2SUT;2SUX;2SU;2SUP;2SURX;2SUR;2SYT;2SYX;2SY;2SYP;2SYRX",
   "2SYR;2SSIT;2SSIX;2SSI;2SSIP;2SSIEX;2SSIE;2SSIEP;2SSAT;2SSAX;2fh;2SSAP;2SSOT;2SSOX;2SSO;2SSOP",
   "2SSEX;2SSE;2SSEP;2SSUT;2SSUX;2SSU;2SSUP;2SSYT;2SSYX;2SSY;2SSYP;2SSYRX;2SSYR;2ZHAT;2ZHAX;2ZHA",
   "2ZHAP;2ZHUOX;2ZHUO;2ZHUOP;2ZHOT;2ZHOX;2ZHO;2ZHOP;2ZHET;2ZHEX;2ZHE;2ZHEP;2ZHUT;2ZHUX;2ZHU;2ZHUP",
   "2ZHURX;2ZHUR;2ZHYT;2ZHYX;2ZHY;2ZHYP;2ZHYRX;2ZHYR;2CHAT;2CHAX;2cr;2CHAP;2CHUOT;2CHUOX;2CHUO",
   "2CHUOP;2CHOT;2CHOX;2CHO;2CHOP;2CHET;2CHEX;2CHE;2CHEP;2CHUX;2CHU;2CHUP;2CHURX;2CHUR;2CHYT;2CHYX",
   "2CHY;2CHYP;2CHYRX;2CHYR;2RRAX;2RRA;2RRUOX;2RRUO;2RROT;2RROX;2RRO;2RROP;2RRET;2RREX;2RRE;2RREP",
   "2RRUT;2RRUX;2RRU;2RRUP;2RRURX;2RRUR;2RRYT;2RRYX;2RRY;2RRYP;2RRYRX;2RRYR;2NRAT;2NRAX;2NRA;2NRAP",
   "2NROX;2NRO;2NROP;2NRET;2NREX;2NRE;2NREP;2NRUT;2NRUX;2NRU;2NRUP;2NRURX;2NRUR;2NRYT;2NRYX;2NRY",
   "2NRYP;2NRYRX;2NRYR;2SHAT;2SHAX;2cl;2SHAP;2SHUOX;2SHUO;2SHUOP;2SHOT;2SHOX;2SHO;2SHOP;2SHET",
   "2SHEX;2gd;2SHEP;2SHUT;2SHUX;2SHU;2SHUP;2SHURX;2SHUR;2SHYT;2SHYX;2SHY;2SHYP;2SHYRX;2SHYR;2RAT",
   "2RAX;2RA;2RAP;2RUOX;2RUO;2RUOP;2ROT;2ROX;2RO;2ROP;2REX;2RE;2REP;2RUT;2RUX;2RU;2RUP;2RURX;2RUR",
   "2RYT;2RYX;2RY;2RYP;2RYRX;2RYR;2JIT;2JIX;2JI;2JIP;2JIET;2JIEX;2JIE;2JIEP;2JUOT;2JUOX;2JUO;2JUOP",
   "2JOT;2JOX;2JO;2JOP;2JUT;2JUX;2JU;2JUP;2JURX;2JUR;2JYT;2JYX;2JY;2JYP;2JYRX;2JYR;2QIT;2QIX;2QI",
   "2QIP;2QIET;2QIEX;2QIE;2QIEP;2QUOT;2QUOX;2QUO;2QUOP;2QOT;2QOX;2QO;2QOP;2QUT;2QUX;2QU;2QUP;2QURX",
   "2QUR;2QYT;2QYX;2QY;2QYP;2QYRX;2QYR;2JJIT;2JJIX;2JJI;2JJIP;2JJIET;2JJIEX;2JJIE;2JJIEP;2JJUOX",
   "2JJUO;2JJUOP;2JJOT;2JJOX;2JJO;2JJOP;2JJUT;2JJUX;2JJU;2JJUP;2JJURX;2JJUR;2JJYT;2JJYX;2JJY;2JJYP",
   "2NJIT;2NJIX;2NJI;2NJIP;2NJIET;2NJIEX;2NJIE;2NJIEP;2NJUOX;2NJUO;2NJOT;2NJOX;2NJO;2NJOP;2NJUX",
   "2NJU;2NJUP;2NJURX;2NJUR;2NJYT;2NJYX;2NJY;2NJYP;2NJYRX;2NJYR;2NYIT;2NYIX;2NYI;2NYIP;2NYIET",
   "2NYIEX;2NYIE;2NYIEP;2NYUOX;2NYUO;2NYUOP;2NYOT;2NYOX;2NYO;2NYOP;2NYUT;2NYUX;2NYU;2NYUP;2XIT",
   "2XIX;2XI;2XIP;2XIET;2XIEX;2XIE;2XIEP;2XUOX;2XUO;2XOT;2XOX;2XO;2XOP;2XYT;2XYX;2XY;2XYP;2XYRX",
   "2XYR;2YIT;2YIX;2YI;2YIP;2YIET;2YIEX;2YIE;2YIEP;2YUOT;2YUOX;2YUO;2YUOP;2YOT;2YOX;2YO;2YOP;2YUT",
   "2YUX;2YU;2YUP;2YURX;2YUR;2YYT;2YYX;2YY;2YYP;2YYRX;2YYR;3+1RADICAL QOT;2LI;2KIT;2NYIP;2CYP;2SSI",
   "2GGOP;2GEP;2MI;2HXIT;2LYR;2BBUT;2MOP;2YO;2PUT;2HXUO;2TAT;2GA;2ZUP;2CYT;2DDUR;2BUR;2GGUO;2NYOP",
   "2TU;2OP;2JJUT;2ZOT;2PYT;2HMO;2YIT;2VUR;2SHY;2VEP;2ZA;2JO;2NZUP;2JJY;2GOT;2JJIE;2WO;2DU;2SHUR",
   "2LIE;2CY;2CUOP;2CIP;2HXOP;2SHAT;2ZUR;2SHOP;2CHE;2ZZIET;2NBIE;2KE;9+0LISU b BA;2PA;2dr;2DA;2TA",
   "2df;2GA;2KA;2cy;2JA;2CA;2cr;2DZA;2hb;2mr;2MA;2NA;2LA;2SA;2ZHA;2ZA;2cj;2HA;2XA;2HHA;2FA;2WA;2cl",
   "2YA;2ej;2A;2AE;2E;2EU;2I;2O;2U;2UE;2UH;2OE;2bx MYA TI;3NA PO;3MYA CYA;4BO;4NA;4JEU;1eu de",
   "2ec ck;0VAI ll EE;2EEN;2HEE;2WEE;2WEEN;2PEE;2BHEE;2BEE;2MBEE;2KPEE;2MGBEE;2GBEE;2FEE;2VEE;2TEE",
   "2THEE;2DHEE;2DHHEE;2LEE;2REE;2DEE;2NDEE;2SEE;2SHEE;2ZEE;2ZHEE;2CEE;2JEE;2NJEE;2YEE;2KEE;2NGGEE",
   "2GEE;2MEE;2NEE;2NYEE;2I;2IN;2HI;2HIN;2WI;2WIN;2PI;2BHI;2BI;2MBI;2KPI;2MGBI;2GBI;2FI;2VI;2TI",
   "2THI;2DHI;2DHHI;2LI;2RI;2DI;2NDI;2SI;2SHI;2ZI;2ZHI;2CI;2JI;2NJI;2YI;2KI;2NGGI;2GI;2MI;2NI;2NYI",
   "2A;2AN;2NGAN;2HA;2HAN;2WA;2WAN;2PA;2et;2BA;2MBA;2KPA;2KPAN;2MGBA;2GBA;2FA;2VA;2TA;2df;2eh",
   "2DHHA;2LA;2RA;2DA;2NDA;2SA;2cl;2ZA;2ZHA;2CA;2JA;2NJA;2YA;2KA;2KAN;2NGGA;2GA;2MA;2NA;2ct;2OO",
   "2OON;2HOO;2WOO;2WOON;2POO;2BHOO;2BOO;2MBOO;2KPOO;2MGBOO;2GBOO;2FOO;2VOO;2TOO;2THOO;2DHOO",
   "2DHHOO;2LOO;2ROO;2DOO;2NDOO;2SOO;2SHOO;2ZOO;2ZHOO;2COO;2JOO;2NJOO;2YOO;2KOO;2NGGOO;2GOO;2MOO",
   "2NOO;2NYOO;2U;2UN;2HU;2HUN;2WU;2WUN;2PU;2BHU;2BU;2MBU;2KPU;2MGBU;2GBU;2FU;2VU;2TU;2THU;2DHU",
   "2DHHU;2LU;2RU;2DU;2NDU;2SU;2SHU;2ZU;2ZHU;2CU;2JU;2NJU;2YU;2KU;2NGGU;2GU;2MU;2NU;2NYU;2O;2ON",
   "2NGON;2HO;2HON;2WO;2WON;2PO;2BHO;2BO;2MBO;2KPO;2MGBO;2GBO;2GBON;2FO;2VO;2TO;2THO;2DHO;2DHHO",
   "2LO;2RO;2DO;2NDO;2SO;2SHO;2ZO;2ZHO;2CO;2JO;2NJO;2YO;2KO;2NGGO;2GO;2MO;2NO;2NYO;2E;2EN;2NGEN",
   "2HE;2HEN;2WE;2WEN;2PE;2BHE;2BE;2MBE;2KPE;2KPEN;2MGBE;2GBE;2GBEN;2FE;2VE;2TE;2fr;2DHE;2DHHE;2LE",
   "2RE;2DE;2NDE;2SE;2gd;2ZE;2ZHE;2CE;2JE;2NJE;2YE;2KE;2NGGE;2NGGEN;2GE;2GEN;2ME;2NE;2NYE;2NG;2yl",
   "1de;1ec ck;1hd r;1ll NDOLE FA;3KA;3SOO;1z FEENG;2KEENG;2TING;2NII;2BANG;2FAA;2TAA;2DANG;2DOONG",
   "2KUNG;2TONG;2DO-O;2JONG;1bh bt;2o;2l;2s;2w;2aa;2ag;2an;2ah;2ar;1ll NDOLE MA;3DO",
   "14+0mw e b ZEMLYA;1c b ZEMLYA;1e b DZELO;1c b DZELO;1e b cf DZE;1c b cf DZE;1e b gq;1c b gq",
   "1e b DJERV;1c b DJERV;1e b MONOGRAPH UK;1c b MONOGRAPH UK;1e b BROAD fo;1c b BROAD fo",
   "1e b ji YER;1c b ji YER;1e b YERU a BACK YER;1c b YERU a BACK YER;1e b lj YAT;1c b lj YAT",
   "1e b cf YU;1c b cf YU;1e b lj A;1c b lj A;1e b fz dm hj;1c b fz dm hj;1e b BLENDED hj",
   "1c b BLENDED hj;1e b lj fz dm hj;1c b lj fz dm hj;1e b YN;1c b YN;1e b cf TSE;1c b cf TSE",
   "1e b nh DE;1c b nh DE;1e b nh EL;1c b nh EL;1e b nh EM;1c b nh EM;1e b MONOCULAR O",
   "1c b MONOCULAR O;1e b BINOCULAR O;1c b BINOCULAR O;1e b p MONOCULAR O;1c b p MONOCULAR O",
   "1b MULTIOCULAR O;0fi mw VZMET;2cc tp f;2ap tp f;2az tp f;0SLAVONIC ek;0fi mw b UKRAINIAN IE;3I",
   "3YI;3U;3HARD f;3YERU;3nh f;3fo;2KAVYKA;2PAYEROK;0mw KAVYKA;1PAYEROK;1e b DWE;1c b DWE",
   "1e b DZWE;1c b DZWE;1e b ZHWE;1c b ZHWE;1e b CCHE;1c b CCHE;1e b DZZE;1c b DZZE;1e b TE a ae x",
   "1c b TE a ae x;1e b TWE;1c b TWE;1e b TSWE;1c b TSWE;1e b TSSE;1c b TSSE;1e b TCHE;1c b TCHE",
   "1e b HWE;1c b HWE;1e b SHWE;1c b SHWE;1e b p O;1c b p O;1e b nu O;1c b nu O;0gv b mw HARD f",
   "3nh f;0fi mw b EF;3lj E;0BAMUM b A;2KA;2U;2KU;2EE;2REE;2TAE;2O;2NYI;2I;2LA;2PA;2RII;2RIEE",
   "2LEEEE;2MEEEE;2TAA;2NDAA;2NJAEM;2M;2SUU;2MU;2SHII;2SI;2SHEUX;2SEUX;2KYEE;2KET;2NUAE;2NU;2NJUAE",
   "2YOQ;2SHU;2YUQ;2YA;2NSHA;2KEUX;2PEUX;2NJEE;2NTEE;2PUE;2WUE;2PEE;2FEE;2RU;2LU;2MI;2NI;2REUX",
   "2RAE;2KEN;2NGKWAEN;2NGGA;2cj;2SHO;2PUAE;2FU;2FOM;2WA;2NA;2LI;2PI;2LOQ;2KO;2MBEN;2REN;2MEN;2MA",
   "2TI;2KI;2MO;2MBAA;2TET;2KPA;2cc;2NTUU;2SAMBA;2FAAMAE;2KOVUU;2KOGHOM;1fi r KOQNDON;3TUKWENTIS",
   "1NJAEMLI;1ec ck;1gp;1de;1oi;1hd r;8+0gv b CHINESE bx YIN PING;4YANG PING;4YIN SHANG",
   "4YANG SHANG;4YIN QU;4YANG QU;4YIN RU;4YANG RU;2yc fm bx ak;2ci fm bx ak;2MID fm bx ak",
   "2bn fm bx ak;2yp fm bx ak;2yc fm pt bx ak;2ci fm pt bx ak;2MID fm pt bx ak;2bn fm pt bx ak",
   "2yp fm pt bx ak;2yc pt bx ak;2ci pt bx ak;2MID pt bx ak;2bn pt bx ak;2yp pt bx ak;2q af ak;3ls",
   "3bf ak;2bl i gk dy;2ic UP h;3aq h;3ia r;3cu ia r;2bn cu ia r;2STRESS g ci bx;4bn bx",
   "0ea e b xh bb;1c b xh bb;1e b xh gi;1c b xh gi;1e b HENG;1c b HENG;1e b TZ;1c b TZ",
   "1e b TRESILLO;1c b TRESILLO;1e b CUATRILLO;1c b CUATRILLO;1e b CUATRILLO a de",
   "1c b CUATRILLO a de;1b c e F;4S;1e b AA;1c b AA;1e b AO;1c b AO;1e b AU;1c b AU;1e b AV",
   "1c b AV;1e b AV a bf ak;1c b AV a bf ak;1e b AY;1c b AY;1e b cf C a q;1c b cf C a q;1e b K a y",
   "1c b K a y;1e b K a en y;1c b K a en y;1e b K a y g en y;1c b K a y g en y;1e b BROKEN L",
   "1c b BROKEN L;1e b L a ci y;1c b L a ci y;1e b O a cb y jc;1c b O a cb y jc;1e b O a kt",
   "1c b O a kt;1e b OO;1c b OO;1e b P a y mz fe;1c b P a y mz fe;1e b P a wx;1c b P a wx",
   "1e b P a SQUIRREL dq;1c b P a SQUIRREL dq;1e b Q a y mz fe;1c b Q a y mz fe;1e b Q a en y",
   "1c b Q a en y;1e b R ROTUNDA;1c b R ROTUNDA;1e b RUM ROTUNDA;1c b RUM ROTUNDA;1e b V a en y",
   "1c b V a en y;1e b VY;1c b VY;1e b VISIGOTHIC Z;1c b VISIGOTHIC Z;1e b THORN a y",
   "1c b THORN a y;1e b THORN a y mz fe;1c b THORN a y mz fe;1e b VEND;1c b VEND;1e b ET;1c b ET",
   "1e b IS;1c b IS;1e b CON;1c b CON;0gv b US;0ea c b DUM;3LUM;3MUM;3NUM;3RUM;1b c e RUM;1c b TUM",
   "3UM;1e b kn D;1c b kn D;1e b kn F;1c b kn F;1e b kn G;3bz kn G;1c b bz kn G;1e b bz L",
   "1c b bz L;1e b kn R;1c b kn R;1e b kn S;1c b kn S;1e b kn T;1c b kn T;0gv b bn cd fj;2gp",
   "2eb fy f;0ea e b SALTILLO;1c b SALTILLO;1e b bz H;1c b L a ex x g BELT;1b SINOLOGICAL q",
   "1e b N a fe;1c b N a fe;1e b C a ak;1c b C a ak;5hf x;3H a hf x;1e b B a wx;1c b B a wx",
   "1e b F a y;1c b F a y;1e b vp AE;1c b vp AE;1e b vp OE;1c b vp OE;1e b vp UE;1c b vp UE",
   "1e b G a mf y;1c b G a mf y;1e b K a mf y;1c b K a mf y;1e b N a mf y;1c b N a mf y",
   "1e b R a mf y;1c b R a mf y;1e b S a mf y;1c b S a mf y;1e b H a x;3cf by E;3ix G;3L a BELT",
   "3c e I;1b c e Q;1e b bz K;4T;3J a qr;3CHI;3kg;1c b kg;1e b fo;1c b fo;1e b U a y;1c b U a y",
   "1e b hn A;1c b hn A;1e b hn I;1c b hn I;1e b hn U;1c b hn U;1e b dv POLISH O;1c b dv POLISH O",
   "1e b ANGLICANA W;1c b ANGLICANA W;1e b C a hf x;3S a x;3Z a hf x;3D a eb y jc;1c b D a eb y jc",
   "1e b S a eb y jc;1c b S a eb y jc;5+1e b fz kn G;1c b fz kn G;1+3p THORN;1+4WYNN",
   "1e b ae SCOTS S;1c b ae SCOTS S;1e b SIGMOID S;1c b SIGMOID S;18+0gv b e C;3F;3Q",
   "0ea e b cf ao H;1c b cf ao H;1EPIGRAPHIC b qw I;0gv b e H a y;2c ge OE;0ea b c e bz M",
   "1EPIGRAPHIC b cf F;4P;3cu M;3I LONGA;3kb M;0SYLOTI NAGRI b A;3I;2f DVISVARA;2b U;3E;3O",
   "2f HASANTA;2b KO;3KHO;3GO;3GHO;2f ed;2b CO;3CHO;3JO;3JHO;3TTO;3TTHO;3DDO;3DDHO;3TO;3THO;3DO",
   "3DHO;3NO;3PO;3PHO;3BO;3BHO;3MO;3RO;3LO;3RRO;3SO;3HO;2bc f A;4I;4U;4E;4OO;2POETRY MARK-1",
   "3MARK-2;3MARK-3;3MARK-4;2f jb HASANTA;3+0eg INDIC jy o gf;4ao;3s mc;3o ut;4ht;3s yd;2gf r",
   "2PLACEHOLDER r;2RUPEE r;2QUANTITY r;6+0PHAGS-PA b KA;2cy;2GA;2cj;2CA;2cr;2JA;2ct;2TA;2df;2DA",
   "2NA;2PA;2dr;2BA;2MA;2hb;2mr;2DZA;2WA;2ZHA;2ZA;2c A;2YA;2RA;2LA;2cl;2SA;2HA;2A;2I;2U;2E;2O;2QA",
   "2XA;2FA;2GGA;2EE;1uu b WA;3YA;1b ee;2ey;2ef;2eq;2jb YA;2VOICELESS cl;2qd HA;2ASPIRATED FA",
   "1uu b RA;1SUPERFIXED b RA;1b gm;1cp kh r;1p kh r;1r lw;2p lw;8+0SAURASHTRA f ed;2ft;1b A;2AA",
   "2I;2II;2U;2UU;2dj R;3RR;3L;3LL;2E;2EE;2AI;2O;2OO;2AU;2KA;2cy;2GA;2ej;2cj;2CA;2cr;2JA;2fv;2ct",
   "2ee;2ey;2ef;2fg;2eq;2TA;2df;2DA;2eh;2NA;2PA;2dr;2BA;2et;2MA;2YA;2RA;2LA;2VA;2cl;2fh;2SA;2HA",
   "2hw;1ja f HAARU;1bc f AA;3I;3II;3U;3UU;3dj R;4RR;4L;4LL;3E;3EE;3AI;3O;3OO;3AU;1f fa;2gm;8+1gw",
   "1p gw;1bh bt;2o;2l;2s;2w;2aa;2ag;2an;2ah;2ar;6+0fi DEVANAGARI bh bt;3o;3l;3s;3w;3aa;3ag;3an",
   "3ah;3ar;2b A;3U;3KA;3NA;3PA;3RA;3VI;2f lk;0DEVANAGARI f SPACING gm;2gm fa;2p gm fa;2gm l;3s",
   "3lk;2PUSHPIKA;1GAP rg;1qm;1HEADSTROKE;1f tw;1JAIN OM;1b AY;1bc f AY;0KAYAH LI bh bt;3o;3l;3s",
   "3w;3aa;3ag;3an;3ah;3ar;2b KA;3cy;3GA;3cj;3SA;3cl;3ZA;3ct;3TA;3HTA;3NA;3PA;3dr;3MA;3DA;3BA;3RA",
   "3YA;3LA;3WA;3df;3HA;3VA;3CA;3A;3OE;3I;3OO;2bc UE;3E;3U;3EE;3O;2bx PLOPHU;3CALYA;4PLOPHU;2f CWI",
   "3SHYA;0REJANG b KA;2GA;2cj;2TA;2DA;2NA;2PA;2BA;2MA;2CA;2JA;2ct;2SA;2RA;2LA;2YA;2WA;2HA;2MBA",
   "2NGGA;2NDA;2NYJA;2A;1bc f I;3U;3E;3AI;3O;3AU;3EU;3EA;1ja f NG;3N;3R;3H;1fa;B+1iv r",
   "0rf CHOSEONG TIKEUT-MIEUM;2TIKEUT-PIEUP;2TIKEUT-SIOS;2TIKEUT-CIEUC;2xm;2zz;2zh",
   "2RIEUL-SSANGTIKEUT;2xv;2xw;2RIEUL-SSANGPIEUP;2zs;2yh;2RIEUL-CIEUC;2RIEUL-KHIEUKH;2MIEUM-KIYEOK",
   "2MIEUM-TIKEUT;2MIEUM-SIOS;2PIEUP-SIOS-THIEUTH;2PIEUP-KHIEUKH;2PIEUP-HIEUH;2SSANGSIOS-PIEUP",
   "2IEUNG-RIEUL;2IEUNG-HIEUH;2SSANGCIEUC-HIEUH;2SSANGTHIEUTH;2PHIEUPH-HIEUH;2HIEUH-SIOS",
   "2SSANGYEORINHIEUH;3+0JAVANESE f PANYANGGA;2CECAK;2LAYAR;2WIGNYAN;1b A;2I KAWI;2I;2II;2U",
   "2PA CEREK;2cj LELET;4RASWADI;2E;2AI;2O;2KA;3SASAK;3pp;2GA;3pp;2cj;2CA;3pp;2JA;2ct pp;2JA rs",
   "2ct;2ee;3rs;2ef;3rs;2NA pp;2TA;3pp;2DA;3rs;2NA;2PA;3pp;2BA;3pp;2MA;2YA;2RA;3AGUNG;2LA;2WA",
   "2SA pp;3rs;2SA;2HA;1f CECAK TELU;1bc f TARUNG;3TOLONG;3WULU;4MELIK;3SUKU;4MENDUT;3TALING",
   "3DIRGA MURE;3PEPET;1ja f KERET;3PENGKAL;3CAKRA;1PANGKON;1k RERENGGAN;1i RERENGGAN;1PADA ANDAP",
   "2MADYA;2LUHUR;2WINDU;2PANGKAT;2LINGSA;2LUNGSI;2ADEG;3ADEG;2PISELEH;1bz PADA PISELEH",
   "1+1PANGRANGKEP;1bh bt;2o;2l;2s;2w;2aa;2ag;2an;2ah;2ar;4+1PADA TIRTA TUMETES;2ISEN-ISEN",
   "0MYANMAR b SHAN ej;3cr;3fv;3eq;3et;1f SHAN SAW;1gv b SHAN REDUPLICATION;1b TAI LAING ct;4FA",
   "4GA;4ej;4JA;4fv;4ef;4fg;4eq;1TAI LAING bh bt;4o;4l;4s;4w;4aa;4ag;4an;4ah;4ar;1b TAI LAING hw",
   "4DA;4eh;4BA;4et;1+0CHAM b A;2I;2U;2E;2AI;2O;2KA;2cy;2GA;2ej;2NGUE;2cj;2cr;2CHHA;2JA;2fv;2NHUE",
   "2NHA;2NHJA;2TA;2df;2DA;2eh;2NUE;2NA;2ef;2PA;2PPA;2dr;2BA;2et;2MUE;2MA;2BBA;2YA;2RA;2LA;2VA;2fh",
   "2SA;2HA;1bc f AA;3I;3II;3EI;3U;3OE;3O;3AI;3AU;3UE;1ja f YA;3RA;3LA;3WA;9+1b n K;3G;3NG",
   "1ja f n NG;1b n CH;3T;3N;3P;3Y;3R;3L;3SS;1ja f n M;4H;2+1bh bt;2o;2l;2s;2w;2aa;2ag;2an;2ah;2ar",
   "2+1eu SPIRAL;2gw;2p gw;2el gw;0MYANMAR b KHAMTI GA;3CA;3cr;3JA;3fv;3ct;3ee;3ey;3ef;3fg;3eh;3NA",
   "3SA;3HA;3HHA;3FA;1gv b KHAMTI REDUPLICATION;1b KHAMTI XA;3ZA;3RA;1wy KHAMTI OAY;3QN;3HM",
   "1z AITON ia;3o;3l;1b AITON RA;1f PAO KAREN bx;2TAI LAING qf;4qg;1b SHWE PALAUNG cr;4cl",
   "0TAI VIET b bn KO;3ci KO;3bn KHO;3ci KHO;3bn KHHO;3ci KHHO;3bn GO;3ci GO;3bn NGO;3ci NGO",
   "3bn CO;3ci CO;3bn CHO;3ci CHO;3bn SO;3ci SO;3bn NYO;3ci NYO;3bn DO;3ci DO;3bn TO;3ci TO",
   "3bn THO;3ci THO;3bn NO;3ci NO;3bn BO;3ci BO;3bn PO;3ci PO;3bn PHO;3ci PHO;3bn FO;3ci FO;3bn MO",
   "3ci MO;3bn YO;3ci YO;3bn RO;3ci RO;3bn LO;3ci LO;3bn VO;3ci VO;3bn HO;3ci HO;3bn O;3ci O",
   "2MAI KANG;2bc AA;3I;3UE;3U;3E;3O;2MAI KHIT;2bc IA;3UEA;3UA;3AUE;3AY;3AN;3AM;2bx MAI EK;4NUENG",
   "4THO;4SONG;18+2z KON;3NUENG;3SAM;3HO HOI;3KOI KOI;0MEETEI MAYEK b E;3O;3cr;3ct;3ee;3ey;3ef;3fg",
   "3eq;3cl;3fh;2bc f II;4UU;4AAI;4AU;4AAU;2CHEIKHAN;2AHANG KHUDAM;2ANJI;2ll REPETITION r",
   "2mq REPETITION r;2bc f ft;2fa;A+0ETHIOPIC ll TTHU;2TTHI;2TTHAA;2TTHEE;2TTHE;2TTHO;2+2DDHU",
   "2DDHI;2DDHAA;2DDHEE;2DDHE;2DDHO;2+2DZU;2DZI;2DZAA;2DZEE;2DZE;2DZO;9+2CCHHA;2CCHHU;2CCHHI",
   "2CCHHAA;2CCHHEE;2CCHHE;2CCHHO;1+2BBA;2BBU;2BBI;2BBAA;2BBEE;2BBE;2BBO;1+0ea c b qc gg",
   "3A REVERSED-SCHWA;3BLACKLETTER E;3qc E;3E a wx;3LENIS F;3ix G a qr;3L a cu LAZY S;5p ae bg",
   "5ae bi;3M a qr;3N a qr;3ENG a qr;3BLACKLETTER O;5a y;3by O a y;3cu OE;3bz OE a y;6bf y",
   "4O OPEN-O;6a y;3STIRRUP R;1b c e R a i LEG;1c b R WITHOUT HANDLE;3p R;3R a qr;3p R a qr;3ix R",
   "5a bi;3BASELINE ESH;3U a eb i LEG;4ak a eb i LEG;3UI;3bz UI;3U a k x;3CHI;4a bn i bi;6k SERIF",
   "3X a bn i bi;5cb k LEG;8g bn i bi;8a SERIF;3Y a eb i LEG;0gv do a cu do;1b c HENG",
   "3L a cu LAZY S;5ae bg;3U a k x;0ea c b SAKHA YAT;3lj E;3by OE;3UO;3cu gg;0im b c e fo",
   "0ea c b DZ ho a ex x;3TS ho a ex x;3bz R a ae bg;0gv b c bz W;2k gc;2i gc;4+0CHEROKEE c b A;3E",
   "3I;3O;3U;3V;3GA;3KA;3GE;3GI;3GO;3GU;3GV;3HA;3HE;3HI;3HO;3HU;3HV;3LA;3LE;3LI;3LO;3LU;3LV;3MA",
   "3ME;3MI;3MO;3MU;3NA;3HNA;3NAH;3NE;3NI;3NO;3NU;3NV;3QUA;3QUE;3QUI;3QUO;3QUU;3QUV;3SA;3S;3SE;3SI",
   "3SO;3SU;3SV;3DA;3TA;3DE;3TE;3DI;3TI;3DO;3DU;3DV;3DLA;3TLA;3TLE;3TLI;3TLO;3TLU;3TLV;3hb;3TSE",
   "3TSI;3TSO;3TSU;3TSV;3WA;3WE;3WI;3WO;3WU;3WV;3YA;0MEETEI MAYEK b KOK;3SAM;3LAI;3MIT;3PA;3NA",
   "3CHIL;3TIL;3KHOU;3NGOU;3THOU;3WAI;3YANG;3HUK;3UN;3I;3PHAM;3ATIYA;3GOK;3JHAM;3RAI;3BA;3JIL;3DIL",
   "3GHOU;3DHOU;3BHAM;3KOK te;3LAI te;3MIT te;3PA te;3NA te;3TIL te;3NGOU te;3I te;2bc f ONAP",
   "4INAP;4ANAP;4YENAP;4SOUNAP;4UNAP;4CHEINAP;4NUNG;2CHEIKHEI;2LUM IYEK;2APUN IYEK;2+2bh bt;3o;3l",
   "3s;3w;3aa;3ag;3an;3ah;3ar;2BB6+0rf JUNGSEONG O-YEO;2O-O-I;2YO-A;2YO-AE;2YO-EO;2U-YEO;2U-I-I",
   "2YU-AE;2YU-O;2EU-A;2EU-EO;2EU-E;2EU-O;2I-YA-O;2I-YAE;2I-YEO;2I-YE;2I-O-I;2I-YO;2I-YU;2I-I",
   "2ARAEA-A;2ARAEA-E;4+1JONGSEONG NIEUN-RIEUL;2NIEUN-CHIEUCH;2xr;2SSANGTIKEUT-PIEUP;2TIKEUT-PIEUP",
   "2TIKEUT-SIOS;2TIKEUT-SIOS-KIYEOK;2TIKEUT-CIEUC;2TIKEUT-CHIEUCH;2TIKEUT-THIEUTH;2zz",
   "2RIEUL-KIYEOK-HIEUH;2SSANGRIEUL-KHIEUKH;2RIEUL-MIEUM-HIEUH;2RIEUL-PIEUP-TIKEUT",
   "2RIEUL-PIEUP-PHIEUPH;2RIEUL-YESIEUNG;2RIEUL-YEORINHIEUH-HIEUH;2KAPYEOUNRIEUL;2MIEUM-NIEUN",
   "2MIEUM-SSANGNIEUN;2SSANGMIEUM;2MIEUM-PIEUP-SIOS;2MIEUM-CIEUC;2zg;2PIEUP-RIEUL-PHIEUPH",
   "2PIEUP-MIEUM;2ye;2ys;2PIEUP-CIEUC;2PIEUP-CHIEUCH;2SIOS-MIEUM;2SIOS-KAPYEOUNPIEUP",
   "2SSANGSIOS-KIYEOK;2SSANGSIOS-TIKEUT;2SIOS-PANSIOS;2SIOS-CIEUC;2SIOS-CHIEUCH;2SIOS-THIEUTH",
   "2SIOS-HIEUH;2PANSIOS-PIEUP;2PANSIOS-KAPYEOUNPIEUP;2YESIEUNG-MIEUM;2YESIEUNG-HIEUH;2CIEUC-PIEUP",
   "2CIEUC-SSANGPIEUP;2yf;2PHIEUPH-SIOS;2PHIEUPH-THIEUTH;2304+0ea c ge FF;3FI;3FL;3FFI;3FFL",
   "3cb S T;3ST;C+0wl c ge MEN NOW;4ECH;4INI;3VEW NOW;3MEN XEH;5+0HEBREW b YOD a HIRIQ",
   "1nz JUDEO-SPANISH VARIKA;1ge YIDDISH YOD YOD PATAH;1b ALTERNATIVE AYIN;2WIDE bb;3DALET;3HE;3ha",
   "3LAMED;3n MEM;3RESH;3TAV;2ALTERNATIVE al f;2gx a gx q;4SIN q;4jd g gx q;6SIN q;2bb a PATAH",
   "4QAMATS;4MAPIQ;2BET a jd;2lr a jd;2DALET a jd;2HE a MAPIQ;2VAV a jd;2ne a jd;1+2TET a jd",
   "2YOD a jd;2n ha a jd;2ha a jd;2LAMED a jd;1+2MEM a jd;1+2ei a jd;2ln a jd;1+2n PE a jd",
   "2PE a jd;1+2TSADI a jd;2QOF a jd;2RESH a jd;2gx a jd;2TAV a jd;2VAV a HOLAM;2BET a RAFE",
   "2ha a RAFE;2PE a RAFE;1ge bb LAMED;0kc b bb WASLA u d;4n d;2BEEH u d;3n d;3ab d;3bs d;2PEH u d",
   "3n d;3ab d;3bs d;2BEHEH u d;3n d;3ab d;3bs d;2TTEHEH u d;3n d;3ab d;3bs d;2TEHEH u d;3n d",
   "3ab d;3bs d;2TTEH u d;3n d;3ab d;3bs d;2VEH u d;3n d;3ab d;3bs d;2PEHEH u d;3n d;3ab d;3bs d",
   "2DYEH u d;3n d;3ab d;3bs d;2NYEH u d;3n d;3ab d;3bs d;2TCHEH u d;3n d;3ab d;3bs d;2TCHEHEH u d",
   "3n d;3ab d;3bs d;2DDAHAL u d;3n d;2DAHAL u d;3n d;2DUL u d;3n d;2DDAL u d;3n d;2JEH u d;3n d",
   "2RREH u d;3n d;2KEHEH u d;3n d;3ab d;3bs d;2GAF u d;3n d;3ab d;3bs d;2GUEH u d;3n d;3ab d",
   "3bs d;2NGOEH u d;3n d;3ab d;3bs d;2fk GHUNNA u d;4n d;2RNOON u d;3n d;3ab d;3bs d",
   "2hk a ax j u d;6n d;3GOAL u d;4n d;4ab d;4bs d;3DOACHASHMEE u d;4n d;4ab d;4bs d",
   "2ax BARREE u d;4n d;4a fu j u d;7n d;1z q j;3m;2l aw j;4m;2s aw j;4m;4cv bj j;6m;2w aw j;4m",
   "2p af ak m;2l aw tj j;5m;2bi;2c hs j;4m;2WASLA j;10+1b NG u d;3n d;3ab d;3bs d;2U u d;3n d",
   "2OE u d;3n d;2YU u d;3n d;2U a fu j u d;2VE u d;3n d;2KIRGHIZ OE u d;4n d;3YU u d;4n d;2E u d",
   "3n d;3ab d;3bs d;2UIGHUR KAZAKH KIRGHIZ bb cw ab d;7bs d;1ge ax a fu j a bb u d;8n d;7AE u d",
   "8n d;7fq u d;8n d;7U u d;8n d;7OE u d;8n d;7YU u d;8n d;7E u d;8n d;8ab d",
   "2UIGHUR KIRGHIZ ax a fu j a bb cw u d;bn d;bab d;1b FARSI ax u d;4n d;4ab d;4bs d",
   "1ge ax a fu j a ca u d;7br u d;7aj u d;7bb cw u d;7ax u d;2BEH a ca u d;4br u d;4dt u d",
   "4aj u d;4bb cw u d;4ax u d;2TEH a ca u d;4br u d;4dt u d;4aj u d;4bb cw u d;4ax u d",
   "2THEH a ca u d;4aj u d;4bb cw u d;4ax u d;2ca a br u d;4aj u d;2br a ca u d;4aj u d",
   "2dt a ca u d;4br u d;4aj u d;2hu a ca u d;4br u d;4dt u d;4aj u d;2SAD a br u d;4aj u d",
   "2DAD a ca u d;4br u d;4dt u d;4aj u d;2hs a br u d;4aj u d;2ZAH a aj u d;2gi a ca u d;4aj u d",
   "2ld a ca u d;4aj u d;2FEH a ca u d;4br u d;4dt u d;4aj u d;4bb cw u d;4ax u d;2ii a br u d",
   "4aj u d;4bb cw u d;4ax u d;2ha a bb u d;4ca u d;4br u d;4dt u d;4fs u d;4aj u d;4bb cw u d",
   "4ax u d;2fs a ca u d;4br u d;4dt u d;4aj u d;4bb cw u d;4ax u d;2aj a ca u d;4br u d;4dt u d",
   "4aj u d;4bb cw u d;4ax u d;2fk a ca u d;4br u d;4dt u d;4aj u d;4bb cw u d;4ax u d",
   "2hk a ca u d;4aj u d;4bb cw u d;4ax u d;2ax a ca u d;4br u d;4dt u d;4aj u d;4bb cw u d",
   "4ax u d;2THAL a nk bb u d;2gt a nk bb u d;2bb cw a nk bb u d;2SHADDA a wm u d;4wn u d;4ox u d",
   "4ql u d;4oa u d;4nk bb u d;2ax a fu j a gt n d;7mo n d;7aj n d;7fk n d;7bb cw n d;7ax n d",
   "2BEH a gt n d;4mo n d;4aj n d;4fk n d;4bb cw n d;4ax n d;2TEH a gt n d;4mo n d;4aj n d;4fk n d",
   "4bb cw n d;4ax n d;2THEH a gt n d;4mo n d;4aj n d;4fk n d;4bb cw n d;4ax n d;2FEH a bb cw n d",
   "4ax n d;2ii a bb cw n d;4ax n d;2ha a bb n d;4fs n d;4aj n d;4bb cw n d;4ax n d;2fs a aj n d",
   "4bb cw n d;4ax n d;2aj a bb n d;4aj n d;2fk a gt n d;4mo n d;4aj n d;4fk n d;4bb cw n d",
   "4ax n d;2bb cw a nk bb n d;2ax a gt n d;4mo n d;4aj n d;4fk n d;4bb cw n d;4ax n d",
   "4fu j a ca ab d;7br ab d;7dt ab d;7aj ab d;7hk ab d;2BEH a ca ab d;4br ab d;4dt ab d;4aj ab d",
   "4hk ab d;2TEH a ca ab d;4br ab d;4dt ab d;4aj ab d;4hk ab d;2THEH a aj ab d;2ca a br ab d",
   "4aj ab d;2br a ca ab d;4aj ab d;2dt a ca ab d;4aj ab d;2hu a ca ab d;4br ab d;4dt ab d",
   "4aj ab d;2SAD a br ab d;4dt ab d;4aj ab d;2DAD a ca ab d;4br ab d;4dt ab d;4aj ab d",
   "2hs a br ab d;2ZAH a aj ab d;2gi a ca ab d;4aj ab d;2ld a ca ab d;4aj ab d;2FEH a ca ab d",
   "4br ab d;4dt ab d;4aj ab d;2ii a br ab d;4aj ab d;2ha a ca ab d;4br ab d;4dt ab d;4fs ab d",
   "4aj ab d;2fs a ca ab d;4br ab d;4dt ab d;4aj ab d;4hk ab d;2aj a ca ab d;4br ab d;4dt ab d",
   "4aj ab d;2fk a ca ab d;4br ab d;4dt ab d;4aj ab d;4hk ab d;2hk a ca ab d;4aj ab d;4nk bb ab d",
   "2ax a ca ab d;4br ab d;4dt ab d;4aj ab d;4hk ab d;4fu j a aj bs d;7hk bs d;2BEH a aj bs d",
   "4hk bs d;2TEH a aj bs d;4hk bs d;2THEH a aj bs d;4hk bs d;2hu a aj bs d;4hk bs d;2kf a aj bs d",
   "4hk bs d;2ha a fs bs d;4aj bs d;2fs a aj bs d;2fk a aj bs d;4hk bs d;2ax a aj bs d;4hk bs d",
   "2SHADDA a ox bs d;4ql bs d;4oa bs d;2hs a bb cw u d;4ax u d;2gi a bb cw u d;4ax u d",
   "2ld a bb cw u d;4ax u d;2hu a bb cw u d;4ax u d;2kf a bb cw u d;4ax u d;2br a bb cw u d",
   "4ax u d;2ca a bb cw u d;4ax u d;2dt a bb cw u d;4ax u d;2SAD a bb cw u d;4ax u d",
   "2DAD a bb cw u d;4ax u d;2kf a ca u d;4br u d;4dt u d;4aj u d;4gt u d;2hu a gt u d",
   "2SAD a gt u d;2DAD a gt u d;2hs a bb cw n d;4ax n d;2gi a bb cw n d;4ax n d;2ld a bb cw n d",
   "4ax n d;2hu a bb cw n d;4ax n d;2kf a bb cw n d;4ax n d;2br a bb cw n d;4ax n d",
   "2ca a bb cw n d;4ax n d;2dt a bb cw n d;4ax n d;2SAD a bb cw n d;4ax n d;2DAD a bb cw n d",
   "4ax n d;2kf a ca n d;4br n d;4dt n d;4aj n d;4gt n d;2hu a gt n d;2SAD a gt n d;2DAD a gt n d",
   "2kf a ca ab d;4br ab d;4dt ab d;4aj ab d;2hu a hk ab d;2kf a hk ab d;2hs a aj ab d",
   "2hu a ca bs d;4br bs d;4dt bs d;2kf a ca bs d;4br bs d;4dt bs d;2hs a aj bs d;2ZAH a aj bs d",
   "2bb a ux n d;5u d;0ORNATE k ew;1i ew;0kc ge RAHIMAHU ALLAAH;2RADI ALLAAHU ANH;4ANHAA;4ANHUM",
   "4ANHUMAA;4ANHUNNA;2SALLALLAAHU ALAYHI WA-AALIH;2ALAYHI AS-SALAAM;2ALAYHIM AS-SALAAM",
   "2ALAYHIMAA AS-SALAAM;2ALAYHI AS-SALAATU WAS-SALAAM;2QUDDISA SIRRAH",
   "2SALLALLAHU ALAYHI WAAALIHEE WA-SALLAM;2ALAYHAA AS-SALAAM;2TABAARAKA WA-TAAALAA",
   "2RAHIMAHUM ALLAAH;2TEH a ca a aj ab d;4br a ca n d;7ab d;6aj ab d;4dt a aj ab d;4aj a ca ab d",
   "6br ab d;6dt ab d;2ca a aj a br n d;7ab d;2br a aj a ax n d;6bb cw n d;2hu a br a ca ab d",
   "4ca a br ab d;6bb cw n d;4aj a br n d;7ab d;6ca ab d;6aj n d;7ab d;2SAD a br a br n d;7ab d",
   "4aj a aj n d;2kf a br a aj n d;7ab d;4ca a ax n d;4aj a dt n d;7ab d;6aj n d;7ab d",
   "2DAD a br a bb cw n d;4dt a aj n d;7ab d;2hs a aj a br n d;7ab d;6aj ab d;6ax n d",
   "2gi a ca a aj n d;4aj a aj n d;7ab d;6bb cw n d;2ld a aj a aj n d;6ax n d;6bb cw n d",
   "2FEH a dt a aj n d;7ab d;2ii a aj a br n d;6aj n d;2fs a br a aj n d;6ax n d;6bb cw n d",
   "4ca a ca ab d;7n d;4dt a aj n d;7ab d;4aj a br n d;7ab d;2aj a br a ca ab d;6aj ab d;6ax n d",
   "4ca a br ab d;6aj ab d;4dt a ca ab d;6aj ab d;2+4ca a dt ab d;2hk a aj a ca ab d;6aj ab d",
   "2fk a br a aj ab d;6bb cw n d;4ca a aj n d;7ab d;6bb cw n d;4aj a ax n d;6bb cw n d",
   "2ax a aj a aj n d;7ab d;2BEH a dt a ax n d;2TEH a ca a ax n d;6bb cw n d;4dt a ax n d",
   "6bb cw n d;4aj a ax n d;6bb cw n d;2ca a aj a ax n d;4br a bb cw n d;4aj a bb cw n d",
   "2hu a dt a bb cw n d;2SAD a br a ax n d;2kf a br a ax n d;2DAD a br a ax n d;2fs a ca a ax n d",
   "4aj a ax n d;2ax a br a ax n d;4ca a ax n d;4aj a ax n d;2aj a aj a ax n d;2ii a aj a ax n d",
   "2fk a br a ax n d;2ii a aj a br ab d;2fs a br a aj ab d;2gi a aj a ax n d;2ha a aj a ax n d",
   "2fk a ca a br ab d;2aj a dt a ax n d;2fs a ca a aj ab d;2ha a aj a aj n d;2fs a ca a aj n d",
   "2fk a ca a br n d;2ca a br a ax n d;2br a ca a ax n d;2aj a ca a ax n d;2FEH a aj a ax n d",
   "2BEH a br a ax n d;2ha a aj a aj ab d;2gi a ca a aj ab d;2SAD a aj a aj ab d;2hu a dt a ax n d",
   "2fk a ca a ax n d;7+2SALAAMUHU ALAYNAA;20+2SALLA USED AS KORANIC ck f u d",
   "2QALA USED AS KORANIC ck f u d;2ALLAH u d;2AKBAR u d;2MOHAMMAD u d;2SALAM u d;2RASOUL u d",
   "2ALAYHE u d;2WASALLAM u d;2SALLA u d;2SALLALLAHOU ALAYHE WASALLAM;2JALLAJALALOUHOU;0RIAL f",
   "0kc ge BISMILLAH AR-RAHMAN AR-RAHEEM;2SUBHAANAHU WA TAAALAA;2AZZA WA JALL;0wg SELECTOR-1",
   "1SELECTOR-2;1SELECTOR-3;1SELECTOR-4;1SELECTOR-5;1SELECTOR-6;1SELECTOR-7;1SELECTOR-8",
   "1SELECTOR-9;1SELECTOR-10;1SELECTOR-11;1SELECTOR-12;1SELECTOR-13;1SELECTOR-14;1SELECTOR-15",
   "1SELECTOR-16;0zl d fp af de;4ma de;5ec ck;4gp;4oi;4ia r;4hd r;4k v rm as;4i v rm BRAKCET",
   "4bf sc;6+0fi ge k ao;2i ao;1p bg k ao;3i ao;1cx k ao;2i ao;1CONJOINING cx;1ge k ao m;2i ao m",
   "1bg k ao m;2i ao m;1cx k ao m;2i ao m;1CONJOINING cx m;1mw TITLO k ao;3i ao",
   "0zl d fp af l q LEADER;4EM fc;4EN fc;4bn cs;4WAVY bn cs;4k ew;4i ew;4k ie as;4i ie as",
   "4k kl iy as;4i kl iy as;4k t rm as;4i t rm as;4k p dy as;4i p dy as;4k dy as;4i dy as;4k gk as",
   "4i gk as;4k v gk as;4i v gk as;0SESAME q;0v SESAME q;0zl d fp af k at as;4i at as;0nx sa",
   "0CENTRELINE sa;0WAVY sa;0p WAVY sa;0nx bn cs;0CENTRELINE bn cs;0WAVY bn cs;0c de;1ma de;1ec ck",
   "1+1oi;1gp;1hd r;1ia r;1EM fc;1k ew;1i ew;1k ie as;1i ie as;1k kl iy as;1i kl iy as;1cz f;1ro",
   "1ek;1al f;1xj;1dg f;1di f;1fy f;1+1jq iu;1ua f;1PERCENT f;1wb AT;4+0kc ux u d;1TATWEEL a ux j",
   "1wm u d;1dq FRAGMENT;1wn u d;1+1ox u d;2bs d;1ql u d;2bs d;1oa u d;2bs d;1SHADDA u d;2bs d",
   "1SUKUN u d;2bs d;1b fu u d;2bb a MADDA j u d;6n d;4fu j u d;6n d;2fq a fu j u d;6n d",
   "2bb a fu m u d;6n d;2ax a fu j u d;6n d;6ab d;6bs d;2bb u d;3n d;2BEH u d;3n d;3ab d;3bs d",
   "2TEH MARBUTA u d;4n d;3u d;3n d;3ab d;3bs d;2THEH u d;3n d;3ab d;3bs d;2ca u d;3n d;3ab d",
   "3bs d;2br u d;3n d;3ab d;3bs d;2dt u d;3n d;3ab d;3bs d;2DAL u d;3n d;2THAL u d;3n d;2gt u d",
   "3n d;2mo u d;3n d;2hu u d;3n d;3ab d;3bs d;2kf u d;3n d;3ab d;3bs d;2SAD u d;3n d;3ab d;3bs d",
   "2DAD u d;3n d;3ab d;3bs d;2hs u d;3n d;3ab d;3bs d;2ZAH u d;3n d;3ab d;3bs d;2gi u d;3n d",
   "3ab d;3bs d;2ld u d;3n d;3ab d;3bs d;2FEH u d;3n d;3ab d;3bs d;2ii u d;3n d;3ab d;3bs d",
   "2ha u d;3n d;3ab d;3bs d;2fs u d;3n d;3ab d;3bs d;2aj u d;3n d;3ab d;3bs d;2fk u d;3n d;3ab d",
   "3bs d;2hk u d;3n d;3ab d;3bs d;2fq u d;3n d;2bb cw u d;4n d;2ax u d;3n d;3ab d;3bs d",
   "1ge fs a bb a MADDA j u d;8n d;6fu j u d;8n d;7m u d;8n d;5u d;5n d;2+0bt WIDTH NO-BREAK jk",
   "1+0FULLWIDTH ia r;1gu r;1cz f;1ua f;1PERCENT f;1ro;1qs;1k ew;1i ew;1ek;1al f;1de;1xj;1ec ck",
   "1iu;1bh bt;2o;2l;2s;2w;2aa;2ag;2an;2ah;2ar;1gp;1oi;1dg f;1fy f;1di f;1hd r;1wb AT;1ea e b A;4B",
   "4C;4D;4E;4F;4G;4H;4I;4J;4K;4L;4M;4N;4O;4P;4Q;4R;4S;4T;4U;4V;4W;4X;4Y;4Z;1k at as;1jq iu",
   "1i at as;1cd fj;1bn cs;1cq fj;1ea c b A;4B;4C;4D;4E;4F;4G;4H;4I;4J;4K;4L;4M;4N;4O;4P;4Q;4R;4S",
   "4T;4U;4V;4W;4X;4Y;4Z;1k ie as;1af cs;1i ie as;1bg;1k v ew;1i v ew;0HALFWIDTH ma ec ck;1k gk as",
   "1i gk as;1ma de;1ph ae q;2b WO;3c A;4I;4U;4E;4O;4YA;4YU;4YO;4TU;1vv PROLONGED lf r;1ph b A;3I",
   "3U;3E;3O;3KA;3KI;3KU;3KE;3KO;3SA;3SI;3SU;3SE;3SO;3TA;3TI;3TU;3TE;3TO;3NA;3NI;3NU;3NE;3NO;3HA",
   "3HI;3HU;3HE;3HO;3MA;3MI;3MU;3ME;3MO;3YA;3YU;3YO;3RA;3RI;3RU;3RE;3RO;3WA;3N;2qd lf r",
   "2SEMI-VOICED lf r;1rf rg;2b ta;3xq;3KIYEOK-SIOS;3NIEUN;3xt;3xu;3tb;3xr;3RIEUL;3xm;3xv;3xw;3yh",
   "3yz;3za;3xs;3MIEUM;3PIEUP;3ye;3yg;3SIOS;3yr;3IEUNG;3CIEUC;3yf;3sr;3ss;3st;3su;3HIEUH;3+3A;3AE",
   "3YA;3YAE;3EO;3E;2+3YEO;3YE;3O;3WA;3WAE;3OE;2+3YO;3U;3WEO;3WE;3WI;3YU;2+3EU;3YI;3I",
   "3+0FULLWIDTH CENT f;1POUND f;1dh f;1cx;1BROKEN ak;1YEN f;1WON f;1+0HALFWIDTH FORMS bd af;1am h",
   "1bo h;1ac h;1bj h;1t at;1v av;A+0INTERLINEAR ANNOTATION ANCHOR;2ir;2TERMINATOR",
   "0OBJECT REPLACEMENT qu;0REPLACEMENT qu;2+0LINEAR B ll B008 A;3B038 E;3B028 I;3B061 O;3B010 U",
   "3B001 DA;3B045 DE;3B007 DI;3B014 DO;3B051 DU;3B057 JA;3B046 JE;1+3B036 JO;3B065 JU;3B077 KA",
   "3B044 KE;3B067 KI;3B070 KO;3B081 KU;3B080 MA;3B013 ME;3B073 MI;3B015 MO;3B023 MU;3B006 NA",
   "3B024 NE;3B030 NI;3B052 NO;3B055 NU;3B003 PA;3B072 PE;3B039 PI;3B011 PO;3B050 PU;3B016 QA",
   "3B078 QE;3B021 QI;3B032 QO;1+3B060 RA;3B027 RE;3B053 RI;3B002 RO;3B026 RU;3B031 SA;3B009 SE",
   "3B041 SI;3B012 SO;3B058 SU;3B059 TA;3B004 TE;3B037 TI;3B005 TO;3B069 TU;3B054 WA;3B075 WE",
   "3B040 WI;3B042 WO;1+3B017 ZA;3B074 ZE;1+3B020 ZO;3B025 A2;3B043 A3;3B085 AU;3B071 DWE",
   "3B090 DWO;3B048 NWA;3B029 PU2;3B062 PTE;3B076 RA2;3B033 RA3;3B068 RO2;3B066 TA2;3B087 TWE",
   "3B091 l;2+2z B018;3B019;3B022;3B034;3B047;3B049;3B056;3B063;3B064;3B079;3B082;3B083;3B086",
   "3B089;22+2wz B100 MAN;3B102 WOMAN;3B104 DEER;3B105 EQUID;3B105F MARE;3B105M STALLION",
   "3B106F EWE;3B106M RAM;3B107F SHE-GOAT;3B107M HE-GOAT;3B108F SOW;3B108M BOAR;3B109F COW",
   "3B109M BULL;3B120 WHEAT;3B121 BARLEY;3B122 OLIVE;3B123 SPICE;3B125 CYPERUS;2vb B127 KAPO",
   "3B128 KANAKO;2wz B130 OIL;3B131 WINE;3B132;2vb B133 AREPA;3B135 MERI;2wz B140 BRONZE",
   "3B141 GOLD;3B142;3B145 WOOL;3B146;3B150;3B151 gb;3B152;3B153;3B154;2vb B156 TURO2;2wz B157",
   "3B158;3B159 CLOTH;3B160;3B161;3B162 GARMENT;3B163 ARMOUR;3B164;3B165;3B166;3B167;3B168;3B169",
   "3B170;3B171;3B172;3B173 MONTH;3B174;3B176 TREE;3B177;3B178;3B179;3B180;3B181;3B182;3B183;3B184",
   "3B185;3B189;3B190;3B191 HELMET;3B220 FOOTSTOOL;3B225 BATHTUB;3B230 SPEAR;3B231 h;3B232",
   "3B233 SWORD;3B234;3B236;3B240 WHEELED CHARIOT;3B241 CHARIOT;3B242 CHARIOT FRAME;3B243 WHEEL",
   "3B245;3B246;2vb B247 DIPTE;2wz B248;3B249;3B251;3B252;3B253;3B254 DART;3B255;3B256;3B257;3B258",
   "3B259;3VESSEL B155;4B200;4B201;4B202;4B203;4B204;4B205;4B206;4B207;4B208;4B209;4B210;4B211",
   "4B212;4B213;4B214;4B215;4B216;4B217;4B218;4B219;4B221;4B222;4B226;4B227;4B228;4B229;4B250",
   "4B305;5+0AEGEAN mq ir cs;3q;1oz r;4+1cz o;2l;2s;2w;2aa;2ag;2an;2ah;2ar;2cc;2fb;2jj;2kr;2gh;2le",
   "2ga;2mk;2fn;2o ap;2l ap;2s ap;2w ap;2aa ap;2ag ap;2an ap;2ah ap;2ar ap;2o az;2l az;2s az;2w az",
   "2aa az;2ag az;2an az;2ah az;2ar az;2cc az;2fb az;2jj az;2kr az;2gh az;2le az;2ga az;2mk az",
   "2fn az;3+1WEIGHT BASE UNIT;2FIRST sv;2uh sv;2ob sv;2FOURTH sv;1DRY vq FIRST sv",
   "1LIQUID vq FIRST sv;1vq uh sv;2ob sv;0im ACROPHONIC ATTIC o gf;4ao;4DRACHMA;3aa;3gh;3aa ap;4az",
   "3gh az;3aa tz;3cc tz;3gh tz;3o ap tz;3aa ap tz;3o az tz;3aa az tz;4sw;3cc sw;3gh sw;3o ap sw",
   "3aa ap sw;3o az sw;3cc az sw;3gh az sw;3cc MNAS;2HERAEUM o PLETHRON;2ve o;2HERMIONIAN o",
   "2EPIDAUREAN l;2ve l;2CYRENAIC l DRACHMAS;2EPIDAUREAN l DRACHMAS;2TROEZENIAN aa;3cc;4jb d",
   "2HERMIONIAN cc;2MESSENIAN cc;2ve cc;3jj;2TROEZENIAN gh;4jb d;2HERMIONIAN gh;2ve gh;3o ap;3s ap",
   "2EPIDAUREAN aa ap;2TROEZENIAN aa ap;2ve aa ap;2CARYSTIAN aa ap;2NAXIAN aa ap;2ve o az;3aa az",
   "2DELPHIC aa MNAS;2STRATIAN gh MNAS;1o ao f;4jb d;1l ri f;1s mc f;1YEAR f;1TALENT f;1DRACHMA f",
   "1OBOL f;1l OBOLS f;1s OBOLS f;1w OBOLS f;1aa OBOLS f;1METRETES f;1KYATHOS BASE f;1LITRA f",
   "1OUNKIA f;1XESTES f;1ARTABE f;1AROURA f;1GRAMMA f;1TRYBLION BASE f;1bt f;1o gf f;1SINUSOID f",
   "1INDICTION f;0NOMISMA f;1+0ROMAN SEXTANS f;1UNCIA f;1SEMUNCIA f;1SEXTULA f;1DIMIDIA SEXTULA f",
   "1SILIQUA f;1DENARIUS f;1QUINARIUS f;1SESTERTIUS f;1DUPONDIUS f;1AS f;1CENTURIAL f;0ASCIA z",
   "3+0im z TAU hv;2F+0PHAISTOS DISC f PEDESTRIAN;3PLUMED kh;3TATTOOED kh;3CAPTIVE;3CHILD;3WOMAN",
   "3HELMET;3GAUNTLET;3TIARA;3h;3BOW;3SHIELD;3CLUB;3MANACLES;3MATTOCK;3SAW;3LID;3BOOMERANG",
   "3CARPENTRY PLANE;3DOLIUM;3COMB;3SLING;3COLUMN;3BEEHIVE;3SHIP;3gb;3HIDE;3BULLS LEG;3CAT;3RAM",
   "3EAGLE;3DOVE;3TUNNY;3BEE;3PLANE TREE;3VINE;3PAPYRUS;3ROSETTE;3LILY;3OX BACK;3FLUTE;3GRATER",
   "3STRAINER;3c AXE;3WAVY BAND;3fi mf y;82+0LYCIAN b A;2E;2B;2BH;2G;2D;2I;2W;2Z;2TH;2J;2K;2Q;2L",
   "2M;2N;2MM;2NN;2U;2P;2KK;2R;2S;2T;2TT;2AN;2EN;2H;2X;3+0CARIAN b A;2P2;2D;2L;2UUU;2R;2LD;2A2;2Q",
   "2B;2M;2O;2D2;2T;2SH;2SH2;2S;2C-18;2U;2NN;2X;2N;2TT2;2P;2SS;2I;2E;2UUUU;2K;2K2;2ND;2UU;2G;2G2",
   "2ST;2ST2;2NG;2II;2C-39;2TT;2UUU2;2RR;2MB;2MB2;2MB3;2MB4;2LD2;2E2;2UUU3;F+0il EPACT rq r;2bh o",
   "3l;3s;3w;3aa;3ag;3an;3ah;3ar;2cz cc;3fb;3jj;3kr;3gh;3le;3ga;3mk;3fn;3o ap;3l ap;3s ap;3w ap",
   "3aa ap;3ag ap;3an ap;3ah ap;3ar ap;4+0dv pl b A;3BE;3KE;3DE;3E;3VE;3ZE;3HE;3fr;3I;3KA;3EL;3EM",
   "3EN;3ESH;3O;3PE;3gd;3KU;3ER;3ES;3TE;3U;3EKS;3PHE;3KHE;3EF;3ERS;3CHE;3II;3UU;3ESS;2pv o;3aa;3cc",
   "3gh;9+2b YE;3NORTHERN TSE;3SOUTHERN TSE;0GOTHIC b AHSA;2BAIRKAN;2GIBA;2DAGS;2AIHVUS;2QAIRTHRA",
   "2IUJA;2HAGL;2THIUTH;2EIS;2KUSMA;2LAGUS;2MANNA;2NAUTHS;2JER;2URUS;2PAIRTHRA;2fn;2RAIDA;2SAUIL",
   "2TEIWS;2WINJA;2FAIHU;2IGGWS;2HWAIR;2OTHAL;2ar ap;5+0dv PERMIC b AN;3BUR;3GAI;3DOI;3E;3ZHOI",
   "3DZHOI;3ZATA;3DZITA;3I;3KOKE;3LEI;3MENOE;3NENOE;3VOOI;3PEEI;3REI;3SII;3TAI;3U;3CHERY;3SHOOI",
   "3SHCHOOI;3YRY;3YERU;3O;3OO;3EF;3HA;3TSIU;3VER;3YER;3YERI;3YAT;3IE;3YU;3YA;3IA",
   "0fi dv PERMIC b AN;4DOI;4ZATA;4NENOE;4SII;5+0UGARITIC b ALPA;2kg;2GAMLA;2cy;2ju;2HO;2WO;2ZETA",
   "2HOTA;2TET;2YOD;2ha;2gx;2nd;2MEM;2DHAL;2ei;2ZU;2SAMKA;2gi;2PU;2SADE;2QOPA;2RASHA;2THANNA;2ld",
   "2TO;2I;2U;2SSU;1+1mq vn;0dv PERSIAN f A;3I;3U;3KA;3KU;3GA;3GU;3XA;3CA;3JA;3JI;3TA;3TU;3DA;3DI",
   "3DU;3df;3PA;3BA;3FA;3NA;3NU;3MA;3MI;3MU;3YA;3VA;3VI;3RA;3RU;3LA;3SA;3ZA;3cl;3fh;3HA",
   "4+3AURAMAZDAA;3AURAMAZDAA-2;3AURAMAZDAAHA;3XSHAAYATHIYA;3DAHYAAUSH;3DAHYAAUSH-2;3BAGA;3BUUMISH",
   "2mq vn;2cz o;3l;3cc;3fb;3ap;2A+0DESERET e b cb I;4E;4A;4AH;4O;4OO;3eb I;4E;4A;4AH;4O;4OO;3AY",
   "3OW;3WU;3YEE;3H;3PEE;3BEE;3TEE;3DEE;3CHEE;3JEE;3KAY;3GAY;3EF;3VEE;3ETH;3THEE;3ES;3ZEE;3ESH",
   "3ZHEE;3ER;3EL;3EM;3EN;3ENG;3OI;3EW;1c b cb I;4E;4A;4AH;4O;4OO;3eb I;4E;4A;4AH;4O;4OO;3AY;3OW",
   "3WU;3YEE;3H;3PEE;3BEE;3TEE;3DEE;3CHEE;3JEE;3KAY;3GAY;3EF;3VEE;3ETH;3THEE;3ES;3ZEE;3ESH;3ZHEE",
   "3ER;3EL;3EM;3EN;3ENG;3OI;3EW;0SHAVIAN b PEEP;2TOT;2KICK;2FEE;2THIGH;2SO;2SURE;2CHURCH;2YEA",
   "2HUNG;2BIB;2DEAD;2GAG;2VOW;2THEY;2ZOO;2vq;2JUDGE;2WOE;2HA-HA;2LOLL;2MIME;2IF;2EGG;2ep;2ADO;2ON",
   "2WOOL;2OUT;2AH;2ROAR;2ei;2EAT;2AGE;2ICE;2UP;2OAK;2OOZE;2OIL;2AWE;2ARE;2OR;2AIR;2ERR;2ARRAY",
   "2EAR;2IAN;2YEW;0OSMANYA b bb;2BA;2TA;2JA;2XA;2cy;2DEEL;2RA;2SA;2SHIIN;2eh;2CAYN;2GA;2FA;2QAAF",
   "2KAAF;2LAAN;2MIIN;2NUUN;2fq;2HA;2YA;2A;2E;2I;2O;2U;2AA;2EE;2OO;2+1bh bt;2o;2l;2s;2w;2aa;2ag",
   "2an;2ah;2ar;6+0OSAGE e b A;3AI;3gi;3AH;3BRA;3cr;3EHCHA;3E;3EIN;3HA;3HYA;3I;3KA;3EHKA;3KYA;3LA",
   "3MA;3NA;3O;3OIN;3PA;3EHPA;3SA;3cl;3TA;3EHTA;3hb;3EHTSA;3mr;3eh;3U;3WA;3cy;3ej;3ZA;3ZHA",
   "4+1c b A;3AI;3gi;3AH;3BRA;3cr;3EHCHA;3E;3EIN;3HA;3HYA;3I;3KA;3EHKA;3KYA;3LA;3MA;3NA;3O;3OIN",
   "3PA;3EHPA;3SA;3cl;3TA;3EHTA;3hb;3EHTSA;3mr;3eh;3U;3WA;3cy;3ej;3ZA;3ZHA;4+0ELBASAN b A;2BE;2CE",
   "2CHE;2DE;2NDE;2DHE;2EI;2E;2FE;2GE;2GJE;2HE;2I;2JE;2KE;2LE;2LLE;2ME;2NE;2NA;2NJE;2O;2PE;2QE;2RE",
   "2RRE;2SE;2gd;2TE;2fr;2U;2VE;2XE;2Y;2ZE;2ZHE;2GHE;2GHAMMA;2KHE;8+0CAUCASIAN ALBANIAN b ALT;3BET",
   "3GIM;3DAT;3EB;3ZARL;3EYN;3ZHIL;3TAS;3cr;3YOWD;3ZHA;3IRB;3cl;3LAN;3INYA;3XEYN;3DYAN;3CAR;3JHOX",
   "3KAR;3LYIT;3HEYT;3QAY;3AOR;3CHOY;3CHI;3CYAY;3MAQ;3QAR;3NOWC;3DZYAY;3SHAK;3JAYN;3ON;3TYAY;3FAM",
   "3DZAY;3CHAT;3PEN;3GHEYS;3RAT;3SEYK;3VEYZ;3TIWR;3SHOY;3IWN;3CYAW;3CAYN;3YAYD;3PIWR;3KIW",
   "B+2CITATION r;0VITHKUQI e b A;3BBE;3BE;3CE;3CHE;3DE;3DHE;3EI;3E;3FE;3GA;1+3HA;3HHA;3I;3IJE;3JE",
   "3KA;3LA;3hw;3ME;3NE;3NJE;3O;3PE;3QA;3RE;1+3SE;3gd;3TE;3fr;3U;3VE;3XE;1+3Y;3ZE;1+1c b A;3BBE",
   "3BE;3CE;3CHE;3DE;3DHE;3EI;3E;3FE;3GA;1+3HA;3HHA;3I;3IJE;3JE;3KA;3LA;3hw;3ME;3NE;3NJE;3O;3PE",
   "3QA;3RE;1+3SE;3gd;3TE;3fr;3U;3VE;3XE;1+3Y;3ZE;43+0LINEAR A f AB001;3AB002;3AB003;3AB004;3AB005",
   "3AB006;3AB007;3AB008;3AB009;3AB010;3AB011;3AB013;3AB016;3AB017;3AB020;3AB021;3AB021F;3AB021M",
   "3AB022;3AB022F;3AB022M;3AB023;3AB023M;3AB024;3AB026;3AB027;3AB028;3A028B;3AB029;3AB030;3AB031",
   "3AB034;3AB037;3AB038;3AB039;3AB040;3AB041;3AB044;3AB045;3AB046;3AB047;3AB048;3AB049;3AB050",
   "3AB051;3AB053;3AB054;3AB055;3AB056;3AB057;3AB058;3AB059;3AB060;3AB061;3AB065;3AB066;3AB067",
   "3AB069;3AB070;3AB073;3AB074;3AB076;3AB077;3AB078;3AB079;3AB080;3AB081;3AB082;3AB085;3AB086",
   "3AB087;3A100-102;3AB118;3AB120;3A120B;3AB122;3AB123;3AB131A;3AB131B;3A131C;3AB164;3AB171",
   "3AB180;3AB188;3AB191;3A301;3A302;3A303;3A304;3A305;3A306;3A307;3A308;3A309A;3A309B;3A309C",
   "3A310;3A311;3A312;3A313A;3A313B;3A313C;3A314;3A315;3A316;3A317;3A318;3A319;3A320;3A321;3A322",
   "3A323;3A324;3A325;3A326;3A327;3A328;3A329;3A330;3A331;3A332;3A333;3A334;3A335;3A336;3A337",
   "3A338;3A339;3A340;3A341;3A342;3A343;3A344;3A345;3A346;3A347;3A348;3A349;3A350;3A351;3A352",
   "3A353;3A354;3A355;3A356;3A357;3A358;3A359;3A360;3A361;3A362;3A363;3A364;3A365;3A366;3A367",
   "3A368;3A369;3A370;3A371;3A400-VAS;3A401-VAS;3A402-VAS;3A403-VAS;3A404-VAS;3A405-VAS;3A406-VAS",
   "3A407-VAS;3A408-VAS;3A409-VAS;3A410-VAS;3A411-VAS;3A412-VAS;3A413-VAS;3A414-VAS;3A415-VAS",
   "3A416-VAS;3A417-VAS;3A418-VAS;3A501;3A502;3A503;3A504;3A505;3A506;3A508;3A509;3A510;3A511",
   "3A512;3A513;3A515;3A516;3A520;3A521;3A523;3A524;3A525;3A526;3A527;3A528;3A529;3A530;3A531",
   "3A532;3A534;3A535;3A536;3A537;3A538;3A539;3A540;3A541;3A542;3A545;3A547;3A548;3A549;3A550",
   "3A551;3A552;3A553;3A554;3A555;3A556;3A557;3A559;3A563;3A564;3A565;3A566;3A568;3A569;3A570",
   "3A571;3A572;3A573;3A574;3A575;3A576;3A577;3A578;3A579;3A580;3A581;3A582;3A583;3A584;3A585",
   "3A586;3A587;3A588;3A589;3A591;3A592;3A594;3A595;3A596;3A598;3A600;3A601;3A602;3A603;3A604",
   "3A606;3A608;3A609;3A610;3A611;3A612;3A613;3A614;3A615;3A616;3A617;3A618;3A619;3A620;3A621",
   "3A622;3A623;3A624;3A626;3A627;3A628;3A629;3A634;3A637;3A638;3A640;3A642;3A643;3A644;3A645",
   "3A646;3A648;3A649;3A651;3A652;3A653;3A654;3A655;3A656;3A657;3A658;3A659;3A660;3A661;3A662",
   "3A663;3A664;9+3A701 A;3A702 B;3A703 D;3A704 E;3A705 F;3A706 H;3A707 J;3A708 K;3A709 L",
   "3A709-2 L2;3A709-3 L3;3A709-4 L4;3A709-6 L6;3A710 W;3A711 X;3A712 Y;3A713 fo;3A714 ABB",
   "3A715 BB;3A717 DD;3A726 EYYY;3A732 JE;A+3A800;3A801;3A802;3A803;3A804;3A805;3A806;3A807",
   "18+0gv b c e AA;2nk jf gp;3ao jf gp;2c AE;3e B;3B a x;1+3DZ ho;5a ex x;6jn;3DEZH ho;3D a dq;5x",
   "6g dq;3cf E;3fz cf by E;3FENG ho;3RAMS gb;3e G;3G a x;3e G a x;3H a y;3e H;3HENG a x",
   "3my J a y g x;3LS ho;3LZ ho;3L a BELT;3e L a BELT;3L a ex x g BELT;3LEZH;4a ex x;3bz Y;5a BELT",
   "3O a y;3e OE;3fz fo;3Q;3bz R a cb LEG;8g ex x;3R a dq;5to;3e R;3TC ho a jn;3TS ho;5a ex x",
   "3TESH ho;3T a ex x;3V a i x;1+3e Y;2hn ck a y;2cf hn ck a y;2BILABIAL pn;2DENTAL pn",
   "2LATERAL pn;2ALVEOLAR pn;2ex pn a ex x;2c S a jn;45+0CYPRIOT ll A;2E;2I;2O;2U;2JA;2+2JO;1+2KA",
   "2KE;2KI;2KO;2KU;2LA;2LE;2LI;2LO;2LU;2MA;2ME;2MI;2MO;2MU;2NA;2NE;2NI;2NO;2NU;2PA;2PE;2PI;2PO",
   "2PU;2RA;2RE;2RI;2RO;2RU;2SA;2SE;2SI;2SO;2SU;2TA;2TE;2TI;2TO;2TU;2WA;2WE;2WI;2WO;1+2XA;2XE",
   "3+2ZA;2+2ZO;0IMPERIAL ARAMAIC b lh;3li;3lr;3qj;3HE;3fq;3ne;3mp;3TETH;3mt;3lv;3ml;3MEM;3ei;3ln",
   "3AYIN;3PE;3mm;3QOPH;3RESH;3gx;3TAW;1+2iv f;2cz o;3l;3s;3cc;3fb;3o ap;4az;3cc az",
   "0PALMYRENE b lh;2li;2lr;2qj;2HE;2fq;2ne;2mp;2TETH;2mt;2lv;2ml;2MEM;2n ei;2ei;2ln;2AYIN;2PE;2mm",
   "2QOPH;2RESH;2gx;2TAW;1jt FLEURON;1ip FLEURON;1cz o;2l;2s;2w;2aa;2cc;2fb;0NABATAEAN b n lh;2lh",
   "2n li;2li;2lr;2qj;2n HE;2HE;2fq;2ne;2mp;2TETH;2n mt;2mt;2n lv;2lv;2n ml;2ml;2n MEM;2MEM;2n ei",
   "2ei;2ln;2AYIN;2PE;2mm;2QOPH;2RESH;2n gx;2gx;2TAW;8+1cz o;2l;2s;2w;1CRUCIFORM cz w;1cz aa;2cc",
   "2fb;2o ap;30+0HATRAN b lh;2li;2lr;2DALETH-RESH;2HE;2fq;2ZAYN;2mp;2TETH;2mt;2lv;2ml;2MEM;2ei",
   "2ln;2AYN;2PE;2mm;2QOPH;1+2gx;2TAW;5+1cz o;2aa;2cc;2fb;2o ap;0PHOENICIAN b ALF;2BET;2GAML;2DELT",
   "2HE;2WAU;2ZAI;2HET;2TET;2YOD;2ha;2LAMD;2MEM;2ei;2SEMK;2gi;2PE;2SADE;2QOF;2ROSH;2gx;2TAU;1cz o",
   "2cc;2fb;2o ap;2l;2s;3+1mq ir;0LYDIAN b A;2B;2G;2D;2E;2V;2I;2Y;2K;2L;2M;2N;2O;2R;2SS;2T;2U;2F",
   "2Q;2S;2TT;2AN;2EN;2LY;2NN;2C;5+1jf r;40+0MEROITIC HIEROGLYPHIC b A;3E;3I;3O;3YA;3WA;3BA;3BA-2",
   "3PA;3MA;3NA;3NA-2;3NE;3NE-2;3RA;3RA-2;3LA;3cy;3HHA;3SA;3SA-2;3SE;3KA;3QA;3TA;3TA-2;3TE;3TE-2",
   "3TO;3DA;2z VIDJ;3VIDJ-2;1CURSIVE b A;3E;3I;3O;3YA;3WA;3BA;3PA;3MA;3NA;3NE;3RA;3LA;3cy;3HHA;3SA",
   "3kb SA;3SE;3KA;3QA;3TA;3TE;3TO;3DA;4+2jy or pu;3o ao;2wy RMT;3IMN;2cz o;3l;3s;3w;3aa;3ag;3an",
   "3ah;3ar;3cc;3fb;3jj;3kr;3gh;3le;3ga;2+3o ap;3l ap;3s ap;3w ap;3aa ap;3ag ap;3an ap;3ah ap",
   "3ar ap;3o az;3l az;3s az;3w az;3aa az;3ag az;3an az;3ah az;3ar az;3cc az;3fb az;3jj az;3kr az",
   "3gh az;3le az;3ga az;3mk az;3fn az;3o ap az;3l ap az;3s ap az;3w ap az;3aa ap az;3ag ap az",
   "3an ap az;3ah ap az;3ar ap az;2jy o TWELFTH;3l pu;3s pu;3w pu;3aa pu;3ag pu;3an pu;3ah pu",
   "3ar pu;3cc pu;0KHAROSHTHI b A;1bc f I;3U;3dj R;1+3E;3O;5+2mj r;1f p bi m;2ed;2ft;1b KA;2cy;2GA",
   "2ej;1+2CA;2cr;2JA;1+2ct;2ee;2ey;2ef;2fg;2eq;2TA;2df;2DA;2eh;2NA;2PA;2dr;2BA;2et;2MA;2YA;2RA",
   "2LA;2VA;2cl;2fh;2SA;2ZA;2HA;2KKA;2TTTHA;2TTTA;2VHA;2+1f ak j;2CAUDA;2q m;4+1fa;1bh o;2l;2s;2w",
   "1cz cc;2fb;2o ap;3az;1jy o ao;7+1eu q;2c av;2av;2va ak;2MANGALAM;2LOTUS;2gw;2p gw;2LINES",
   "7+0dv ev ARABIAN b HE;4ml;4mp;4MEM;4QOPH;4fq;4gx;4RESH;4li;4TAW;4SAT;4lv;4ei;4KHETH;4mm;4ln",
   "4FE;4bb;4AYN;4DHADHE;4lr;4qj;4GHAYN;4TETH;4ZAYN;4DHALETH;4mt;4THAW;4THETH;3cz o;4gh",
   "3NUMERIC rp;1eg ARABIAN b hk;4fs;4br;4aj;4ii;4fq;4ES-2;4gt;4BEH;4TEH;4ES-1;4ha;4fk;4dt;4SAD",
   "4ES-3;4FEH;4bb;4gi;4DAD;4GEEM;4DAL;4ld;4hs;4mo;4THAL;4ax;4THEH;4ZAH;3cz o;4cc;4fb",
   "20+0MANICHAEAN b lh;2li;2BHETH;2lr;2GHIMEL;2qj;2HE;2fq;1f UD;1b ne;2ZHAYIN;2JAYIN;2JHAYIN;2mp",
   "2TETH;2mt;2lv;2XAPH;2KHAPH;2ml;2DHAMEDH;2THAMEDH;2MEM;2ei;2ln;2AYIN;2AAYIN;2PE;2FE;2mm;2QOPH",
   "2XOPH;2QHOPH;2RESH;2gx;2SSHIN;2TAW;1kj r j;3m;4+1cz o;2aa;2cc;2fb;2o ap;1eu dl;2FLEURON",
   "2p q uc q;2q uc q;2q;2l aw;2cs rg;9+0AVESTAN b A;2AA;2AO;2AAO;2AN;2AAN;2AE;2AEE;2E;2EE;2O;2OO",
   "2I;2II;2U;2UU;2KE;2XE;2XYE;2XVE;2GE;2GGE;2GHE;2CE;2JE;2TE;2fr;2DE;2DHE;2TTE;2PE;2FE;2BE;2BHE",
   "2NGE;2NGYE;2NGVE;2NE;2NYE;2NNE;2ME;2HME;2YYE;2YE;2VE;2RE;2LE;2SE;2ZE;2gd;2ZHE;2SHYE;2SSHE;2HE",
   "3+1kj r;0TINY l aw ay o q eu;0c l aw ay o q eu;0co l aw ay o q eu;1o q ay l aw eu",
   "1l RINGS ay o bi eu;1o bi ay l RINGS eu;0INSCRIPTIONAL PARTHIAN b lh;3li;3lr;3qj;3HE;3fq;3ne",
   "3mp;3TETH;3mt;3lv;3ml;3MEM;3ei;3ln;3AYIN;3PE;3mm;3QOPH;3RESH;3gx;3TAW;2+2cz o;3l;3s;3w;3cc;3fb",
   "3o ap;4az;1PAHLAVI b lh;3li;3lr;3qj;3HE;3WAW-AYIN-RESH;3ne;3mp;3TETH;3mt;3lv;3ml;3MEM-QOPH;3ei",
   "3ln;3PE;3mm;3gx;3TAW;5+2cz o;3l;3s;3w;3cc;3fb;3o ap;4az;0PSALTER PAHLAVI b lh;3li;3lr;3qj;3HE",
   "3WAW-AYIN-RESH;3ne;3mp;3mt;3lv;3ml;3MEM-QOPH;3ei;3ln;3PE;3mm;3gx;3TAW;7+2iv r;2bz iv r",
   "2w aw a em;5q;C+2cz o;3l;3s;3w;3cc;3fb;3o ap;50+0dv TURKIC b hg A;3hp A;4AE;3hg I;3hp I;4E",
   "3hg O;4OE;3hp OE;3hg AB;3hp AB;3hg AEB;3hp AEB;3hg AG;3hp AG;3hg AEG;3hp AEG;3hg AD;3hp AD",
   "3hg AED;4EZ;3hp EZ;3hg AY;3hp AY;3hg AEY;3hp AEY;3hg AEK;3hp AEK;3hg OEK;3hp OEK;3hg AL;3hp AL",
   "3hg AEL;4ELT;4EM;4AN;4AEN;3hp AEN;3hg ENT;3hp ENT;3hg ENC;3hp ENC;3hg ENY;3hp ENY;4ANG;3hg ENG",
   "3hp AENG;3hg EP;4OP;4IC;4EC;3hp EC;3hg AQ;3hp AQ;3hg IQ;3hp IQ;3hg OQ;3hp OQ;3hg AR;3hp AR",
   "3hg AER;4AS;4AES;4ep;3hp ep;3hg ESH;3hp ESH;3hg AT;3hp AT;3hg AET;3hp AET;3hg OT;4BASH",
   "37+1HUNGARIAN e b A;4AA;4EB;4AMB;4EC;4ENC;4ECS;4ED;4g;4E;4CLOSE E;4EE;4EF;4EG;4EGY;4EH;4I;4II",
   "4EJ;4EK;4AK;4UNK;4EL;4ELY;4EM;4EN;4ENY;4O;4OO;4ym OE;4RUDIMENTA OE;4OEE;4EP;4EMP;4ER;4eb ER",
   "4ES;4ESZ;4ET;4ENT;4ETY;4ECH;4U;4UU;4ym UE;4RUDIMENTA UE;4EV;4EZ;4EZS;4ENT-SHAPED f;4US",
   "D+2c b A;4AA;4EB;4AMB;4EC;4ENC;4ECS;4ED;4g;4E;4CLOSE E;4EE;4EF;4EG;4EGY;4EH;4I;4II;4EJ;4EK;4AK",
   "4UNK;4EL;4ELY;4EM;4EN;4ENY;4O;4OO;4ym OE;4RUDIMENTA OE;4OEE;4EP;4EMP;4ER;4eb ER;4ES;4ESZ;4ET",
   "4ENT;4ETY;4ECH;4U;4UU;4ym UE;4RUDIMENTA UE;4EV;4EZ;4EZS;4ENT-SHAPED f;4US;7+2cz o;3aa;3cc;3gh",
   "3o ap;4az;0HANIFI ROHINGYA b A;3BA;3PA;3TA;3ee;3JA;3CA;3HA;3cy;3FA;3DA;3ef;3RA;3RRA;3ZA;3SA",
   "3cl;3KA;3GA;3LA;3MA;3NA;3WA;3KINNA WA;3YA;3KINNA YA;3cj;3ct;3VA;2bc A;3I;3U;3E;3O;2r SAKIN",
   "3NA KHONNA;2f HARBAHAY;3TAHALA;3TANA;3TASSI;8+2bh bt;3o;3l;3s;3w;3aa;3ag;3an;3ah;3ar",
   "126+0RUMI bh o;2l;2s;2w;2aa;2ag;2an;2ah;2ar;1cz cc;2fb;2jj;2kr;2gh;2le;2ga;2mk;2fn;2o ap;2l ap",
   "2s ap;2w ap;2aa ap;2ag ap;2an ap;2ah ap;2ar ap;1jy o ao;3gf;3ob;2l ri;1+0YEZIDI b ELIF;2BE;2PE",
   "2PHE;2fr;2SE;2CIM;2CHIM;2CHHIM;2HHA;2XA;2DAL;2ZAL;2RA;2RHA;2ZA;2JA;2SIN;2gx;2SAD;2DAD;2TA;2ZE",
   "2EYN;2XHEYN;2FA;2VA;3jb d;2ii;2ha;2KHAF;2GAF;2fs;2MIM;2ei;2UM;2fq;2OW;2EW;2HAY;2YOT;2ET",
   "1+1fi fu r;2MADDA r;1HYPHENATION r;2+1b fs a q j;2YOT a cd j;4E+0dv SOGDIAN b lh;3n lh;3li",
   "3n li;3lr;3HE;3n HE;3fq;3ne;3mp;3mt;3lv;3ml;3MEM;3ei;3n ei;5a af dq;3ln;3AYIN;3jb AYIN;3PE;3mm",
   "3n mm;5a af dq;3RESH-AYIN-DALETH;3gx;3TAW;3n TAW;5a af dq;2cz o;3l;3s;3w;3aa;3cc;3fb;3jj;3o ap",
   "2jy o ao;2ge AYIN-DALETH;8+0SOGDIAN b lh;2li;2lr;2HE;2fq;2ne;2mp;2mt;2lv;2ml;2MEM;2ei;2ln",
   "2AYIN;2PE;2mm;2RESH-AYIN;2gx;2TAW;2FETH;2LESH;1rl gx;1fi q m;2l aw m;2q j;2l aw j;2ks j;3m",
   "2x j;3m;2cb x m;2RESH m;2y m;1cz o;2cc;2fb;2o ap;1eu l af BARS;5a aw;2av a q;2l nv a aw",
   "2ao av a q;16+0dv UYGHUR b lh;3li;3GIMEL-HETH;3fq;3ne;3n mp;3mt;3lv;3ml;3MEM;3ei;3ln;3PE;3mm",
   "3RESH;3gx;3TAW;3LESH;2fi q j;4m;3l aw j;5m;2eu ak;3l BARS;4aw;3w aw;26+0CHORASMIAN b lh;2c lh",
   "2li;2lr;2qj;2HE;2fq;2CURLED fq;2ne;2mp;2mt;2lv;2ml;2MEM;2ei;2ln;2AYIN;2PE;2RESH;2gx;2TAW;1cz o",
   "2l;2s;2w;2cc;2fb;2o ap;14+0ELYMAIC b lh;2li;2lr;2qj;2HE;2fq;2ne;2mp;2TETH;2mt;2lv;2ml;2MEM;2ei",
   "2ln;2AYIN;2PE;2mm;2QOPH;2RESH;2gx;2TAW;1ge ZAYIN-YODH;9+0BRAHMI f gm;2ed;2ft;2uo;2up;1b A;2AA",
   "2I;2II;2U;2UU;2dj R;3RR;3L;3LL;2E;2AI;2O;2AU;2KA;2cy;2GA;2ej;2cj;2CA;2cr;2JA;2fv;2ct;2ee;2ey",
   "2ef;2fg;2eq;2TA;2df;2DA;2eh;2NA;2PA;2dr;2BA;2et;2MA;2YA;2RA;2LA;2VA;2cl;2fh;2SA;2HA;2hw",
   "2dv TAMIL LLLA;4RRA;4NNNA;1bc f AA;3BHATTIPROLU AA;3I;3II;3U;3UU;3dj R;4RR;4L;4LL;3E;3AI;3O",
   "3AU;1fa;1gw;1p gw;1eu q;2p q;2cs;2va ak;2LOTUS;4+1cz o;2l;2s;2w;2aa;2ag;2an;2ah;2ar;2cc;2fb",
   "2jj;2kr;2gh;2le;2ga;2mk;2fn;2o ap;3az;1bh bt;2o;2l;2s;2w;2aa;2ag;2an;2ah;2ar;1f dv TAMIL fa",
   "1b dv TAMIL eb E;5O;1bc f dv TAMIL eb E;6O;1b dv TAMIL hw;9+1cz ub;0KAITHI f gm;2ed;2ft;1b A",
   "2AA;2I;2II;2U;2UU;2E;2AI;2O;2AU;2KA;2cy;2GA;2ej;2cj;2CA;2cr;2JA;2fv;2ct;2ee;2ey;2ef;2DDDHA;2fg",
   "2RHA;2eq;2TA;2df;2DA;2eh;2NA;2PA;2dr;2BA;2et;2MA;2YA;2RA;2LA;2VA;2cl;2fh;2SA;2HA;1bc f AA;3I",
   "3II;3U;3UU;3E;3AI;3O;3AU;1f fa;2io;1kj f;1ENUMERATION f;1cz f;1iv r;1p iv r;1gw;1p gw",
   "1bc f dj R;A+1cz f j;2+0SORA SOMPENG b SAH;3hs;3BAH;3CAH;3DAH;3GAH;3MAH;3NGAH;3LAH;3NAH;3VAH",
   "3PAH;3YAH;3RAH;3br;3KAH;3JAH;3NYAH;3AH;3EEH;3IH;3UH;3OH;3EH;3MAE;7+2bh bt;3o;3l;3s;3w;3aa;3ag",
   "3an;3ah;3ar;6+0CHAKMA f gm;2ed;2ft;1b AA;2I;2U;2E;2KAA;2KHAA;2GAA;2GHAA;2NGAA;2CAA;2CHAA;2JAA",
   "2JHAA;2NYAA;2TTAA;2TTHAA;2DDAA;2DDHAA;2NNAA;2TAA;2THAA;2DAA;2DHAA;2NAA;2PAA;2PHAA;2BAA;2BHAA",
   "2MAA;2YYAA;2YAA;2RAA;2LAA;2WAA;2SAA;2HAA;1bc f A;3I;3II;3U;3UU;3E;3AI;3O;3AU;3OI;1O r;1AU r",
   "1fa;1MAAYYAA;1+1bh bt;2o;2l;2s;2w;2aa;2ag;2an;2ah;2ar;1iv r;1gw;1p gw;1hd r;1b LHAA;1bc f AA",
   "3EI;1b VAA;8+0MAHAJANI b A;2I;2U;2E;2O;2KA;2cy;2GA;2ej;2CA;2cr;2JA;2fv;2ct;2ee;2ey;2ef;2fg;2eq",
   "2TA;2df;2DA;2eh;2NA;2PA;2dr;2BA;2et;2MA;2RA;2LA;2VA;2SA;2HA;2RRA;1f io;1kj f;1iv r;1ge SHRI",
   "9+0SHARADA f gm;2ed;2ft;1b A;2AA;2I;2II;2U;2UU;2dj R;3RR;3L;3LL;2E;2AI;2O;2AU;2KA;2cy;2GA;2ej",
   "2cj;2CA;2cr;2JA;2fv;2ct;2ee;2ey;2ef;2fg;2eq;2TA;2df;2DA;2eh;2NA;2PA;2dr;2BA;2et;2MA;2YA;2RA",
   "2LA;2hw;2VA;2cl;2fh;2SA;2HA;1bc f AA;3I;3II;3U;3UU;3dj R;4RR;4L;4LL;3E;3AI;3O;3AU;1f fa;2lk",
   "2uo;2up;1OM;1gw;1p gw;1kj f;1ir;1SANDHI r;1f io;1bc gv r;1EXTRA eb bc r;1SUTRA r;1bc f yw E",
   "1f cu gm;1bh bt;2o;2l;2s;2w;2aa;2ag;2an;2ah;2ar;1EKAM;1f tw;1HEADSTROKE;1CONTINUATION f",
   "1iv MARK-1;2MARK-2;1+0SINHALA kb bh o;3l;3s;3w;3aa;3ag;3an;3ah;3ar;2cz cc;3fb;3jj;3kr;3gh;3le",
   "3ga;3mk;3fn;3o ap;4az;B+0KHOJKI b A;2AA;2I;2U;2E;2AI;2O;2AU;2KA;2cy;2GA;2GGA;2ej;2cj;2CA;2cr",
   "2JA;2JJA;1+2ct;2ee;2ey;2ef;2fg;2eq;2TA;2df;2DA;2DDDA;2eh;2NA;2PA;2dr;2BA;2BBA;2et;2MA;2YA;2RA",
   "2LA;2VA;2SA;2HA;2hw;1bc f AA;3I;3II;3U;3E;3AI;3O;3AU;1f ed;2fa;2io;2SHADDA;1gw;1p gw;1mq ir",
   "1iv r;1p iv r;1kj f;1f SUKUN;41+0MULTANI b A;2I;2U;2E;2KA;2cy;2GA;1+2ej;1+2CA;2cr;2JA;2JJA",
   "1+2ct;2ee;2ey;2ef;2DDDA;2fg;2eq;2TA;2df;2DA;2eh;2NA;2PA;2dr;2BA;1+2et;2MA;2YA;2RA;2LA;2VA;2SA",
   "2HA;2RRA;2RHA;1iv r;6+0KHUDAWADI b A;2AA;2I;2II;2U;2UU;2E;2AI;2O;2AU;2KA;2cy;2GA;2GGA;2ej;2cj",
   "2CA;2cr;2JA;2JJA;2fv;2ct;2ee;2ey;2ef;2DDDA;2RRA;2fg;2eq;2TA;2df;2DA;2eh;2NA;2PA;2dr;2BA;2BBA",
   "2et;2MA;2YA;2RA;2LA;2VA;2cl;2SA;2HA;1f ed;1bc f AA;3I;3II;3U;3UU;3E;3AI;3O;3AU;1f io;2fa",
   "5+1bh bt;2o;2l;2s;2w;2aa;2ag;2an;2ah;2ar;6+0GRANTHA f fi ed j;2gm;2ed;2ft;1+1b A;2AA;2I;2II;2U",
   "2UU;2dj R;3L;2+2EE;2AI;2+2OO;2AU;2KA;2cy;2GA;2ej;2cj;2CA;2cr;2JA;2fv;2ct;2ee;2ey;2ef;2fg;2eq",
   "2TA;2df;2DA;2eh;2NA;1+2PA;2dr;2BA;2et;2MA;2YA;2RA;1+2LA;2hw;1+2VA;2cl;2fh;2SA;2HA",
   "1+0fi BINDU m;0GRANTHA f io;2lk;1bc f AA;3I;3II;3U;3UU;3dj R;4RR;2+3EE;3AI;2+3OO;3AU;1f fa",
   "2+1OM;6+1AU mj r;5+1f PLUTA;1b VEDIC ed;3p ed;2dj RR;3LL;1bc f dj L;4LL;2+0fi GRANTHA bh bt;3o",
   "3l;3s;3w;3aa;3ag;3+2b A;3KA;3NA;3VI;3PA;8B+0NEWA b A;2AA;2I;2II;2U;2UU;2dj R;3RR;3L;3LL;2E;2AI",
   "2O;2AU;2KA;2cy;2GA;2ej;2cj;2NGHA;2CA;2cr;2JA;2fv;2ct;2NYHA;2ee;2ey;2ef;2fg;2eq;2TA;2df;2DA;2eh",
   "2NA;2NHA;2PA;2dr;2BA;2et;2MA;2MHA;2YA;2RA;2RHA;2LA;2LHA;2WA;2cl;2fh;2SA;2HA;1bc f AA;3I;3II;3U",
   "3UU;3dj R;4RR;4L;4LL;3E;3AI;3O;3AU;1f fa;2gm;2ed;2ft;2io;2lk;2n ed;1OM;1SIDDHI;1gw;1p gw;1de",
   "1GAP rg;1kj f;1bh bt;2o;2l;2s;2w;2aa;2ag;2an;2ah;2ar;1p de;1PLACEHOLDER r;1+1INSERTION f",
   "1SANDHI r;1b VEDIC ed;1f uo;2up;1E+0TIRHUTA ANJI;1b A;2AA;2I;2II;2U;2UU;2dj R;3RR;3L;3LL;2E",
   "2AI;2O;2AU;2KA;2cy;2GA;2ej;2cj;2CA;2cr;2JA;2fv;2ct;2ee;2ey;2ef;2fg;2eq;2TA;2df;2DA;2eh;2NA;2PA",
   "2dr;2BA;2et;2MA;2YA;2RA;2LA;2VA;2cl;2fh;2SA;2HA;1bc f AA;3I;3II;3U;3UU;3dj R;4RR;4L;4LL;3E",
   "3eb E;3AI;3O;3eb O;3AU;1f gm;2ed;2ft;2fa;2io;2lk;1GVANG;1kj f;1OM;8+1bh bt;2o;2l;2s;2w;2aa;2ag",
   "2an;2ah;2ar;A6+0tw b A;2AA;2I;2II;2U;2UU;2dj R;3RR;3L;3LL;2E;2AI;2O;2AU;2KA;2cy;2GA;2ej;2cj",
   "2CA;2cr;2JA;2fv;2ct;2ee;2ey;2ef;2fg;2eq;2TA;2df;2DA;2eh;2NA;2PA;2dr;2BA;2et;2MA;2YA;2RA;2LA",
   "2VA;2cl;2fh;2SA;2HA;1bc f AA;3I;3II;3U;3UU;3dj R;4RR;2+3E;3AI;3O;3AU;1f gm;2ed;2ft;2fa;2io;2tw",
   "1gw;1p gw;1ir q;2ak;1REPETITION MARK-1;2MARK-2;2MARK-3;1gz OF TEXT r",
   "1iv r a TRIDENT g ww ORNAMENTS;6fm rx;4RAYS g fm rx;7p rx;7el rx;3p bi;5a RAYS;3a p rx;4el rx",
   "4pg rx;4SEPTUPLE rx;4nv g RAYS;6l ENCLOSURES;6w ENCLOSURES;1b THREE-CIRCLE jb I",
   "2TWO-CIRCLE jb I;4II;2jb U;1bc f jb U;4UU;22+0MODI b A;2AA;2I;2II;2U;2UU;2dj R;3RR;3L;3LL;2E",
   "2AI;2O;2AU;2KA;2cy;2GA;2ej;2cj;2CA;2cr;2JA;2fv;2ct;2ee;2ey;2ef;2fg;2eq;2TA;2df;2DA;2eh;2NA;2PA",
   "2dr;2BA;2et;2MA;2YA;2RA;2LA;2VA;2cl;2fh;2SA;2HA;2hw;1bc f AA;3I;3II;3U;3UU;3dj R;4RR;4L;4LL;3E",
   "3AI;3O;3AU;1f ed;2ft;2fa;2ARDHACANDRA;1gw;1p gw;1kj f;1f HUVA;B+1bh bt;2o;2l;2s;2w;2aa;2ag;2an",
   "2ah;2ar;6+0MONGOLIAN qn a dw;1da qn;1p qn a dw;1el qn a dw;1qn a p dw;1da qn a dw;4p dw;1cu qn",
   "3a p dw;1SWIRL qn;3a dw;4p dw;1bz SWIRL qn a p dw;13+0TAKRI b A;2AA;2I;2II;2U;2UU;2E;2AI;2O",
   "2AU;2KA;2cy;2GA;2ej;2cj;2CA;2cr;2JA;2fv;2ct;2ee;2ey;2ef;2fg;2eq;2TA;2df;2DA;2eh;2NA;2PA;2dr",
   "2BA;2et;2MA;2YA;2RA;2LA;2VA;2cl;2SA;2HA;2RRA;1f ed;2ft;1bc f AA;3I;3II;3U;3UU;3E;3AI;3O;3AU",
   "1f fa;2io;1b kb cy;1kj f;6+1bh bt;2o;2l;2s;2w;2aa;2ag;2an;2ah;2ar;36+0AHOM b KA;2cy;2cj;2NA",
   "2TA;2jb TA;2PA;2dr;2BA;2MA;2JA;2cr;2df;2RA;2LA;2SA;2ct;2HA;2A;2DA;2eh;2GA;2jb GA;2ej;2et;2fv",
   "2jb BA;2+1ja f bs LA;4RA;4LIGATING RA;1bc f A;3AA;3I;3II;3U;3UU;3E;3AW;3O;3AI;3AM;1f KILLER",
   "4+1bh bt;2o;2l;2s;2w;2aa;2ag;2an;2ah;2ar;1cz cc;2fb;1f c iv;2iv;2RULAI;1z VI;1b CA;2ee;2ey;2ef",
   "2fg;2eq;2hw;B9+0DOGRA b A;2AA;2I;2II;2U;2UU;2E;2AI;2O;2AU;2KA;2cy;2GA;2ej;2cj;2CA;2cr;2JA;2fv",
   "2ct;2ee;2ey;2ef;2fg;2eq;2TA;2df;2DA;2eh;2NA;2PA;2dr;2BA;2et;2MA;2YA;2RA;2LA;2VA;2cl;2fh;2SA",
   "2HA;2RRA;1bc f AA;3I;3II;3U;3UU;3dj R;4RR;3E;3AI;3O;3AU;1f ed;2ft;2fa;2io;1kj f",
   "64+0WARANG CITI e b NGAA;4A;4WI;4YU;4YA;4YO;4II;4UU;4E;4O;4ANG;4GA;4KO;4ENY;4YUJ;4UC;4ENN;4ODD",
   "4TTE;4NUNG;4DA;4AT;4AM;4BU;4PU;4HIYO;4HOLO;4HORR;4HAR;4SSUU;4SII;4VIYO;2c b NGAA;4A;4WI;4YU",
   "4YA;4YO;4II;4UU;4E;4O;4ANG;4GA;4KO;4ENY;4YUJ;4UC;4ENN;4ODD;4TTE;4NUNG;4DA;4AT;4AM;4BU;4PU",
   "4HIYO;4HOLO;4HORR;4HAR;4SSUU;4SII;4VIYO;2bh bt;3o;3l;3s;3w;3aa;3ag;3an;3ah;3ar;2cz cc;3fb;3jj",
   "3kr;3gh;3le;3ga;3mk;3fn;C+2OM;0DIVES AKURU b A;3AA;3I;3II;3U;3UU;3E;2+3O;2+3KA;3cy;3GA;3ej;3cj",
   "3CA;3cr;3JA;1+3ct;3ee;1+3ef;3fg;3eq;3TA;3df;3DA;3eh;3NA;3PA;3dr;3BA;3et;3MA;3YA;3YYA;3RA;3LA",
   "3VA;3cl;3fh;3SA;3HA;3hw;3ZA;2bc f AA;4I;4II;4U;4UU;4E;1+4AI;4O;2+2f ed;3gm;3HALANTA;2fa",
   "2PREFIXED NASAL f;2bs YA;2ab RA;2bs RA;2f io;2p gw;2GAP rg;2gz OF TEXT r;9+2bh bt;3o;3l;3s;3w",
   "3aa;3ag;3an;3ah;3ar;46+0NANDINAGARI b A;2AA;2I;2II;2U;2UU;2dj R;3RR;2+2E;2AI;2O;2AU;2KA;2cy",
   "2GA;2ej;2cj;2CA;2cr;2JA;2fv;2ct;2ee;2ey;2ef;2fg;2eq;2TA;2df;2DA;2eh;2NA;2PA;2dr;2BA;2et;2MA",
   "2YA;2RA;2LA;2VA;2cl;2fh;2SA;2HA;2hw;2RRA;1bc f AA;3I;3II;3U;3UU;3dj R;4RR;2+3E;3AI;3O;3AU",
   "1f ed;2ft;2fa;2lk;2tw;1HEADSTROKE;1bc f yw E;1B+0ZANABAZAR at b A;2bc f I;4UE;4U;4E;4OE;4O;4AI",
   "4AU;4cf I;3mj r;2b KA;3cy;3GA;3ej;3cj;3CA;3cr;3JA;3ct;3ee;3ey;3ef;3fg;3eq;3TA;3df;3DA;3eh;3NA",
   "3PA;3dr;3BA;3et;3MA;3hb;3mr;3DZA;3DZHA;3ZHA;3ZA;3-A;3YA;3RA;3LA;3VA;3cl;3fh;3SA;3HA;3KSSA",
   "2n ja r;2f fa;3gm;4a dw;3mi a dw;3ed;3ft;2CLUSTER-INITIAL b RA;2CLUSTER-FINAL b YA;4RA;4LA;4VA",
   "2ab kh r;2CLOSING kh r;2r po;3lw;3p lw;3cb po;2ab DOUBLE-LINED kh r;2CLOSING DOUBLE-LINED kh r",
   "2SUBJOINER;8+0SOYOMBO b A;1bc f I;3UE;3U;3E;3O;3OE;3AI;3AU;3dj R;4L;2mj r;1b KA;2cy;2GA;2ej",
   "2cj;2CA;2cr;2JA;2fv;2ct;2ee;2ey;2ef;2fg;2eq;2TA;2df;2DA;2eh;2NA;2PA;2dr;2BA;2et;2MA;2hb;2mr",
   "2DZA;2ZHA;2ZA;2-A;2YA;2RA;2LA;2VA;2cl;2fh;2SA;2HA;2KSSA;1f uo;2up;1CLUSTER-INITIAL b RA;3LA",
   "3cl;3SA;1n ja f G;4K;4NG;4D;4N;4B;4M;4R;4L;4SH;4S;4-A;1f ed;2ft;1wc r;1SUBJOINER;1r po;2lw",
   "2p lw;2PLUTA;1kh r a ig g SUN g el FLAME;8FLAME;6SUN;1TERMINAL MARK-1;2MARK-2",
   "D+0CANADIAN SYLLABICS NATTILIK HI;3HII;3HO;3HOO;3HA;3HAA;3SHRI;3SHRII;3SHRO;3SHROO;3SHRA",
   "3SHRAA;2SPE;2SPI;2SPO;2SPA;0PAU CIN HAU b PA;4KA;4LA;4MA;4DA;4ZA;4VA;4cj;4HA;4GA;4cy;4SA;4BA",
   "4CA;4TA;4df;4NA;4dr;4RA;4FA;4cr;4A;4E;4I;4O;4U;4UA;4IA;4n P;5K;5T;5M;5N;5L;5W;5NG;5Y;3nw bx cb",
   "4bx;3SANDHI hn ck;3nw bx cb n;5n;3SANDHI hn ck n;4bx cb;4bx;5cb n;5n;3MID-LEVEL bx;3hn ck jg",
   "3MID-LEVEL bx cb n;5n;3LOW-FALLING bx cb;4bx;3hn ck;3LOW-FALLING bx cb n;5n;3hn ck n",
   "107+0BHAIKSUKI b A;2AA;2I;2II;2U;2UU;2dj R;3RR;3L;1+2E;2AI;2O;2AU;2KA;2cy;2GA;2ej;2cj;2CA;2cr",
   "2JA;2fv;2ct;2ee;2ey;2ef;2fg;2eq;2TA;2df;2DA;2eh;2NA;2PA;2dr;2BA;2et;2MA;2YA;2RA;2LA;2VA;2cl",
   "2fh;2SA;2HA;1bc f AA;3I;3II;3U;3UU;3dj R;4RR;4L;1+3E;3AI;3O;3AU;1f gm;2ed;2ft;2fa;2lk;1gw",
   "1p gw;1mq ir;1GAP FILLER-1;2FILLER-2;A+1bh bt;2o;2l;2s;2w;2aa;2ag;2an;2ah;2ar;1cz o;2l;2s;2w",
   "2aa;2ag;2an;2ah;2ar;2cc;2fb;2jj;2kr;2gh;2le;2ga;2mk;2fn;1HUNDREDS UNIT r;3+0MARCHEN kh r;1r lw",
   "1b KA;2cy;2GA;2cj;2CA;2cr;2JA;2ct;2TA;2df;2DA;2NA;2PA;2dr;2BA;2MA;2hb;2mr;2DZA;2WA;2ZHA;2ZA",
   "2-A;2YA;2RA;2LA;2cl;2SA;2HA;2A;2+1uu b KA;3cy;3GA;3cj;3CA;3cr;3JA;3ct;3TA;3df;3DA;3NA;3PA;3dr",
   "3BA;3MA;3hb;3mr;3DZA;3WA;3ZHA;3ZA;1+3YA;3RA;3LA;3cl;3SA;3HA;3A;1bc f AA;3I;3U;3E;3O;1f ed;2gm",
   "49+0MASARAM GONDI b A;3AA;3I;3II;3U;3UU;3E;1+3AI;3O;1+3AU;3KA;3cy;3GA;3ej;3cj;3CA;3cr;3JA;3fv",
   "3ct;3ee;3ey;3ef;3fg;3eq;3TA;3df;3DA;3eh;3NA;3PA;3dr;3BA;3et;3MA;3YA;3RA;3LA;3VA;3cl;3fh;3SA",
   "3HA;3hw;3KSSA;3JNYA;3TRA;2bc f AA;4I;4II;4U;4UU;4dj R;3+4E;1+4AI;4O;1+4AU;2f ed;3ft;3io;3mi",
   "3HALANTA;2fa;2REPHA;2RA-KARA;8+2bh bt;3o;3l;3s;3w;3aa;3ag;3an;3ah;3ar;6+0GUNJALA GONDI b A;3AA",
   "3I;3II;3U;3UU;1+3EE;3AI;1+3OO;3AU;3YA;3VA;3BA;3et;3MA;3KA;3cy;3TA;3df;3LA;3GA;3ej;3DA;3eh;3NA",
   "3CA;3cr;3ee;3ey;3hw;3JA;3fv;3ef;3fg;3cj;3PA;3dr;3HA;3RA;3SA;2bc f AA;4I;4II;4U;4UU;1+4EE;4AI",
   "1+4OO;4AU;2f ed;3ft;2fa;2OM;7+2bh bt;3o;3l;3s;3w;3aa;3ag;3an;3ah;3ar;136+0MAKASAR b KA;2GA;2cj",
   "2PA;2BA;2MA;2TA;2DA;2NA;2CA;2JA;2ct;2YA;2RA;2LA;2VA;2SA;2A;1ANGKA;1bc f I;3U;3E;3O;1PASSIMBANG",
   "1gz OF iv;B7+0LISU b YHA;F+0TAMIL jy o THREE-HUNDRED-AND-TWENTIETH;3zp;3EIGHTIETH;3zm",
   "3FORTIETH;3zd;2s EIGHTIETHS;3SIXTY-FOURTHS;2o TWENTIETH;3SIXTEENTH-1;3SIXTEENTH-2;3TENTH;3ht",
   "2s TWENTIETHS;3yd;2o FIFTH;3gf;3HALF-1;3HALF-2;2s mc;2DOWNSCALING FACTOR KIIZH;1f NEL;2CEVITU",
   "2AAZHAAKKU;2UZHAKKU;2MUUVUZHAKKU;2KURUNI;2PATHAKKU;2MUKKURUNI;2KAACU;2PANAM;2PON;2VARAAKAN",
   "2PAARAM;2KUZHI;2VELI;1WET CULTIVATION f;1DRY CULTIVATION f;1LAND f;1SALT PAN f",
   "1TRADITIONAL CREDIT f;2cz f;1CURRENT f;1g ODD f;1SPENT f;1TOTAL f;1IN POSSESSION f",
   "1STARTING gr f;1f MUTHALIYA;2VAKAIYARAA;D+1eu gz OF TEXT;0CUNEIFORM f A;3ai A;4BAD;4kw fd;4HA",
   "4ij;4LAGAR dz;4MUSH;4SAG;2A2;2AB;3ai ASH2;4DUN3 dz;4GAL;4kw fd;4HA;4ij dz;4IMIN;4pa;4SHESH",
   "4U al U al U;3dz;2AB2;3ai BALAG;4kw fd;4ME al EN;4SHA3;4lx;2AD;2AK;3ai ERIN2;4SHITA al ly;2AL",
   "3ai AL;4DIM2;4ly;4HA;4KAD3;4KI;4gd;4USH;2ALAN;2lh;2AMAR;3ai gd;2AN;3ay AN;3s ai",
   "3al NAGA sl AN al NAGA;5fx;2ANSHE;2APIN;2ARAD;3ai KUR;2ARKAB;2ASAL2;2ep;3ZIDA fd;3KABA fd",
   "3ay ep TUG2 ay TUG2 TUG2 ay TUG2 PAP;5ay ep;7gn ep ay ep ay ep;2ASH2;2ASHGAB;2BA;2BAD;2BAG3",
   "2BAHAR2;2BAL;3ay BAL;2BALAG;2ak;2BARA2;2BI;3ai A;4hx;4ij dz;2BU;3ay BU AB;5UN;3gn BU;2BULUG",
   "3ay BULUG;2BUR;2BUR2;2DA;2DAG;3KISIM5 ai A al MASH;5AMAR;5BALAG;5BI;5GA;6al MASH;5GI;5GIR2",
   "5GUD;5HA;5IR;6al LU;5KAK;5LA;5LU;6al MASH2;5LUM;5NE;5PAP al PAP;5SI;5lx;5U2 al GIR2;5USH;2DAM",
   "2DAR;2DARA3;2DARA4;2DI;2DIB;2DIM;3ai gd;2DIM2;2DIN;3ot U dz je;2je;2DU;3ay DU;3dz;3sx;2DUB",
   "3ai ESH2;2DUB2;2DUG;2DUGUD;2DUH;2DUN;2DUN3;3dz;4dz;2DUN4;2DUR2;2E;3ai PAP;3ay E ei ay ei;2E2",
   "3ai A al HA al DA;4hx;4MI;4SAL;4gd;4U;2EDIN;2EGIR;2EL;2EN;3ai kw;5fd;4ME;3gn EN;3sl EN;3fx",
   "2EREN;2ERIN2;2ESH2;2EZEN;3ai A;5al LAL;7ai LAL;4AN;4BAD;4DUN3 dz;6dz;4HA;5dz;4ij dz;4ot;5fx",
   "4KU3;4LA;4LAL ai LAL;4LI;4LU;4U2;4UD;2GA;3dz;2GA2;3ai A al DA al HA;6HA;6ij;4AB2 fd al TAB;4AN",
   "4ep;4ASH2 al GAL;4BAD;4ak al RA;4BUR;5al RA;4DA;4DI;4DIM ai gd;4DUB;4EL;5al LA;4EN;5ai kw fd",
   "4kw fd;4hx;4GI;4GI4;5al A;4GIR2 al SU;4HA al LU al ESH2;4HAL;5al LA;4HI al LI;4HUB2;4ij dz",
   "4ISH al HU al ep;4KAK;4ot;4KID;5al LAL;4KU3 al AN;4LA;4ME al EN;4MI;4ei;5ay ei;4PA;4SAL;4SAR",
   "4gd;5al TUR;4SHID;4SUM;4lx;4U;4UD;5al DU;3ay GA2;2GABA;3gn GABA;2GAD;3ay GAD hx ay hx;2GAL",
   "3GAD ay GAD hx ay hx;2GALAM;2GAM;2GAN;2kw;3fd;3ay kw;3gn kw;2hx;2GAR3;2GASHAN;2GESHTIN;3ai KUR",
   "2GI;3ai E;4U;3gn GI;2GI4;3ay GI4;3gn GI4;2GIDIM;2GIR2;3dz;2GIR3;3ai A al ij;4kw fd;4ij",
   "4LU al ij;4PA;2GISAL;2ly;3gn ly;3ai BAD;4lx;3fd;2GU;3gn GU;2GU2;3ai KAK;5ai ij dz;4ei",
   "4SAL al TUG2;3dz;2GUD;3ai A al KUR;4KUR;3ay GUD LUGAL;2GUL;2GUM;3ai gd;2GUR;2GUR7;2GURUN",
   "2GURUSH;2HA;3fd;3dz;2HAL;2HI;3ai ep;4ASH2;4BAD;4je;4GAD;4KIN;4ei;4gd;4U;2HU;2HUB2;3ai AN;4HAL",
   "4ot;4LISH;4UD;2HUL2;2I;3A;2IB;2IDIM;3ay IDIM BUR;5fx;2IG;2ij;3DIB;3RI",
   "3ay ij SHIR ay SHIR UD ay UD;3dz;2IL;3ai kw fd;2IL2;2IM;3ai lx;3gn IM;3sl IM;3fx;2IMIN;2IN;2IR",
   "2ISH;2KA;3ai A;4AD;5al KU3;4ASH2;4BAD;4BALAG;4ak;4BI;4ERIN2;4ESH2;4GA;4GAL;4kw fd;4hx",
   "5al SHA3 al A;4GI;4GIR2;4ly al SAR;5gn ly;4GU;4GUR7;4ij;4IM;4KAK;4KI;4KID;4LI;4LU;4ME;5al DU",
   "6GI;6TE;4MI;5al NUNUZ;4NE;4ei;4PI;4RU;4SA;4SAR;4cl;4gd;4SHID;4SHU;4SIG;4SUHUR;4TAR;4U;4U2;4UD",
   "4UMUM ai PA;4USH;4ZI;2KA2;3gn KA2;2KAB;2KAD2;2KAD3;2KAD4;2KAD5;3ay KAD5;2KAK;3ai ij dz;2KAL",
   "3ai BAD;3gn KAL;2KAM2;2KAM4;2ot;3pa ai U ay pa ai U;3ay ot pa ai U ay pa ai U;2KESH2;2KI",
   "3ai BAD;4U;4UD;2KID;2KIN;2KISAL;2KISH;2KISIM5;3ay KISIM5;2KU;3ay HI ai ASH2 KU ay HI ai ASH2",
   "2KU3;2KU4;3jg d;2KU7;2KUL;3dz;2KUN;2KUR;3sl KUR;2KUSHU2;2KWU318;2LA;2pa;3ai A;5al DA al HA;6hx",
   "6LAL;4AL;4AN;4ep ZIDA fd;4BAD;4BI;4DAR;4EN;4GA;4hx;4GUD;5al GUD;4HA;4HAL;4HI ai ei;4ij dz;4IM",
   "5al HA;6LU;4KI;4KIN;4KU3;4KUL;5al HI al A;4pa;4LISH;4LU;4LUL;4ME;5al EN;4MUSH;4NE;4gd al SUM",
   "4SHITA al ly al ERIN2;7fd;4SHU2;5al SHU2;4SUM;4TAG;4lx;4TE al A al SU al NA;4U;5al A;6U al U",
   "4U2 al ep;4UD;4USH;3fx;2LAGAR;3ai gd;5al SUM;3dz;4ay LAGAR dz gd;2LAHSHU;2LAL;3ai LAL;2fs",
   "3ai KUR;5al RU;2LI;2LIL;2LIMMU2;2LISH;2LU;3ai BAD;2LU2;3ai AL;4BAD;4ESH2;5fd;4kw fd;4HI ai BAD",
   "4IM;4KAD2;4KAD3;5al ep;4KI;4LA al ep;4pa;4ME al EN;4NE;4NU;4SI al ep;4SIK2 al BU;4TUG2;3fd",
   "3gn LU2;3sl LU2;3fx;3sx;2LU3;2LUGAL;3ay LUGAL;3sl LUGAL;3sx;2LUH;2LUL;2LUM;3ay LUM;5hx ay hx",
   "2MA;3ai lx;3dz;2MA2;2MAH;2MAR;2MASH;2MASH2;2ME;2MES;2MI;2MIN;2MU;3ay MU;2MUG;3dz;2MUNSUB",
   "2MURGU2;2MUSH;3ai A;4KUR;4ZA;3ay MUSH;5ai A al NA;3gn MUSH;2MUSH3;3ai A;5al DI;4DI;3dz;2NA",
   "2NA2;2NAGA;3cu;3ai SHU fd;3sl NAGA;2NAGAR;2NAM NUTILLU;2NAM;2NAM2;2NE;3ai A;4UD;3sx;2NI;3ai E",
   "2NI2;2NIM;3ai kw fd;4hx al kw fd;2NINDA2;3ai AN;4ep;5al ep;4GUD;4ME al kw fd;4NE;4ei;4gd",
   "5al A AN;6ep;7al ep;4U2 al ep;4USH;2NISAG;2NU;2NU11;2ei;3LAGAR ai hx;5MASH;5SAL",
   "6ay ei LAGAR ai SAL;5USH;3fd;3ay ei;3gn ei;5LAGAR ay LAGAR;2NUNUZ;3AB2 ai ASHGAB;5BI;5DUG;5GUD",
   "5ij dz;5KAD3;5LA;5NE;5SILA3;5U2;3KISIM5 ai BI;6U;2PA;2PAD;2PAN;2PAP;2PESH2;2PI;3ai A;4AB;4BI",
   "4BU;4E;4I;4IB;4U;4U2;3gn PI;2PIRIG;3ai KAL;4UD;4ZA;3sl PIRIG;2RA;2RAB;2RI;2RU;2SA;2SAG NUTILLU",
   "2SAG;3ai A;4DU;4DUB;4HA;4KAK;4KUR;4LUM;4MI;4ei;4SAL;4SHID;4TAB;4U2;4UB;4UM;4UR;4USH;3ay SAG",
   "3dz;2SAL;3pa ai ASH2;2SANGA2;2SAR;2cl;2SHA3;3ai A;4BAD;4ly;4NE;4SHU2;4TUR;4U;5al A;2SHA6",
   "2SHAB6;2qp;2gd;3HU;3ay gd GAD ay GAD hx ay hx;5TAB ay TAB hx ay hx;2SHEG9;2SHEN;2SHESH;2SHESH2",
   "2SHESHLAM;2SHID;3ai A;4IM;2SHIM;3ai A;4BAL;4BULUG;4DIN;4hx;4ij;5dz;4KUSHU2;4LUL;4MUG;4SAL",
   "2SHINIG;2SHIR;3fd;3ay SHIR BUR ay BUR;2SHITA;2SHU;3ay cu SHU;2SHU2;2SHUBUR;2SI;3dz;2SIG;2SIG4",
   "3ay SIG4 SHU2;2SIK2;2SILA3;2SU;3ay SU;2SUD;2SUD2;2SUHUR;2SUM;2SUMASH;2SUR;2SUR9;2TA;3ek;3ai HI",
   "4MI;3dz;2TAB;3ay TAB NI ay NI je ay je;3fx;2TAG;3ai BI;4GUD;4gd;4SHU;4TUG2;4UD;2lx;2TAR;2TE",
   "3dz;2TI;3fd;2TIL;2TIR;3ai lx;3ay TIR;5GAD ay GAD hx ay hx;2TU;2TUG2;2TUK;2TUM;2TUR",
   "3ay TUR ZA ay ZA;2U;3GUD;3U U;3ay U PA ay PA hx ay hx;5SUR ay SUR;5U cf ay U cf;2U2;2UB;2UD",
   "3KUSHU2;3ai BAD;4MI;4U al U al U;9dz;3dz;3sx;4ai BAD;2UDUG;2UM;3ai pa;4ME al DA;4SHA3;4U",
   "2UMBIN;2UMUM;3ai ot;4PA;2UN;3dz;2UR;3gn UR;3sx;2UR2;3ai A al HA;6NA;4AL;4HA;4ei;4U2;5al ep;6BI",
   "2UR4;2URI;2URI3;2URU;3ai A;4ASHGAB;4ak;4DUN;4GA;4GAL;4kw fd;4hx;4GU;4HA;4ij;4IM;4ISH;4KI;4LUM",
   "4MIN;4PA;4gd;4SIG4;4TU;4U al GUD;4UD;4URUDA;2URUDA;3ai U;2USH;3ai A;4KU;4KUR;4lx;2USHX;2USH2",
   "2USHUMX;2UTUKI;2UZ3;3ai ot;2UZU;2ZA;3fd;3fx ai KUR;2ZAG;2ZAMX;2ZE2;2ZI;3ay ZI;2ZI3;2ZIB",
   "3KABA fd;2ZIG;2ZIZ2;2ZU;2ZU5;3ai A;2ZUBUR;2ZUM;2KAP ELAMITE;2AB ai ei;2AB2 ai A;2AMAR ai KUG",
   "2DAG KISIM5 ai U2 al MASH;2DAG3;2je al SHU;2DUB ai gd;2EZEN ai GUD;4gd;2GA2 ai AN al KAK al A",
   "4ASH2;2GE22;2GIG;2HUSH;2KA ai ANSHE;4ASH3;4ly;4GUD;4HI ai ASH2;4LUM;4PA;4SHUL;4TU;4UR2",
   "2pa ai GI;2LU2 sx ai BAD;3ai ESH2 al LAL;4SHU;2MESH;2MUSH3 ai ZA;2NA4;2NIN;2NIN9",
   "2NINDA2 ai BAL;4GI;2NU11 da fn dx;2PESH2 ek;2PIR2;2SAG ai ij dz;2TI2;2UM ai ME;2U U",
   "66+1NUMERIC f l ep;3s ep;3w ep;3aa ep;3ag ep;3an ep;3ah ep;3ar ep;3s je;3w je;3aa je;3ag je",
   "3an je;3ah je;3ar je;3w U;3aa U;3ag U;3an U;3ah U;3ar U;3o GESH2;3l GESH2;3s GESH2;3w GESH2",
   "3aa GESH2;3ag GESH2;3an GESH2;3ah GESH2;3ar GESH2;3o GESHU;3l GESHU;3s GESHU;3w GESHU",
   "3aa GESHU;3l qp;3s qp;5jg d;3w qp;3aa qp;3ag qp;3an qp;3ah qp;3ar qp;3o SHARU;3l SHARU",
   "3s SHARU;5jg d;3w SHARU;3aa SHARU;3qp ai GAL al je;7MIN;3o BURU;3l BURU;3s BURU;5jg d;3w BURU",
   "3aa BURU;3s jg d ESH16;6ESH21;3w jg d LIMMU;6LIMMU4;6LIMMU A;7B;3ag jg d ASH9;3an jg d IMIN3",
   "6IMIN A;7B;3ah jg d USSU;6USSU3;3ar jg d ILIMMU;6ILIMMU3;6ILIMMU4;6ILIMMU A;3l ep fd;3s ep fd",
   "3w ep fd;3aa ep fd;3ag ep fd;3o BAN2;3l BAN2;3s BAN2;3w BAN2;5jg d;3aa BAN2;5jg d;3NIGIDAMIN",
   "3NIGIDAESH;3o ESHE3;3l ESHE3;3o ob je;3l ri je;3aa SIXTHS je;3o ob jg d A;3l ri jg d A",
   "3o ht ep;4gf ep;3dv ASSYRIAN o SIXTH;6gf;3o gf GUR;4ao GUR;3ELAMITE o ob;4l ri;4kr;4gh",
   "3w U jg d;3aa U jg d;3ag U jg d;3an U jg d;3ah U jg d;3ar U jg d;1+1eu f dv ASSYRIAN mq vn",
   "3af gp;3en gp;4TRICOLON;4QUADCOLON;B+1f AB ai ei fd;4SHU2;2AD ai ESH2;2BAD ai je fd",
   "2BAHAR2 ai AB2;4NI;4ZA;2BU ay BU ai NA2;2DA ai lx;2DAG ai KUR;2DIM ai ij;4U U U;2DIM2 ai UD",
   "2DUG ai ANSHE;4ep;5AT k;4DIN;4DUN;4ERIN2;4GA;4GI;4GIR2 dz;4ly;4HA;4HI;4ij dz;4ot;4KUR;4KUSHU2",
   "5al ot;4LAK-020;4fs;5ai KUR;4LUH al ly;4MASH;4MES;4MI;4NI;4PI;4gd;4SI dz;2E2 ai KUR;4PAP",
   "2ERIN2 X;2ESH2 gn ESH2;2EZEN sx ai ep;5HI;5ij dz;5LA;5LAL;5ME;5MES;5SU;3ai SU;2GA2 ai BAHAR2",
   "4DIM dz;4DUG ai ij dz;6ot;4EREN;4GA;4hx al DI;6NE;4HA al A;4KUSHU2 al ot;4fs;5ai KUR;4LUH",
   "4MUSH;4NE;5al E2;6GI;4SHIM;4ZIZ2;2GABA da fn dx;2GESHTIN ai U;2ly ai ly gn ly;2GU2 ai ij dz",
   "2GUD al ly ai lx;2HA fd dz;2HI ai ep ay HI ai ep;2KA ai BU;4KA;4U U U;4UR;2pa ai ZU ay ZU",
   "2LAK-003;2LAK-021;2LAK-025;2LAK-030;2LAK-050;2LAK-051;2LAK-062;2LAK-079 ay LAK-079 dz;2LAK-080",
   "2LAK-081 ay LAK-081;2LAK-092;2LAK-130;2LAK-142;2LAK-210;2LAK-219;2LAK-220;2LAK-225;2LAK-228",
   "2LAK-238;2LAK-265;2LAK-266;2LAK-343;2LAK-347;2LAK-348;2LAK-383;2LAK-384;2LAK-390;2LAK-441",
   "2LAK-449;3ai GU;4ij;4PAP al LU3;6PAP al LU3;4U2 al BA;2LAK-450;2LAK-457;2LAK-470;2LAK-483",
   "2LAK-490;2LAK-492;2LAK-493;2LAK-495;2LAK-550;2LAK-608;2LAK-617;3ai ep;4BAD;4DUN3 dz dz;4KU3",
   "4LA;4TAR;4TE;4U2;4UD;4URUDA;2LAK-636;2LAK-648;3ai DUB;4GA;4ij;5dz;4NI;4PAP al PAP al LU3",
   "4SHESH al KI;4UD;4URUDA;2LAK-724;2LAK-749;2LU2 dz ai ep;3ai je;4HAL;4PAP;5al PAP al LU3;4lx",
   "2MI al ZA7;2MUSH ay MUSH ai GA;6KAK;2NINDA2 ai DIM dz;4ly;4GUL;4HI;4KESH2;4LAK-050;4MASH",
   "4PAP al PAP;4U;5al U;4URUDA;2SAG dz ai HA;3ai EN;4gd AT k;4lx;2SHA6 fd;2gd ay gd;3al HUB2",
   "4NAM2;4SAR;2SHU2 al DUG ai NI;4E2 ai AN;2SI ai lx;2lx al SAG;2TUM ai kw fd;4s je;2UR2 cu",
   "3ai UD;2URU ai DARA3;4LAK-668;4LU3;2ZA7;2ZU ay ZU al SAR;2ZU5 ai s je fd",
   "A4C+0CYPRO-MINOAN f CM001;2CM002;2CM004;2CM005;2CM006;2CM007;2CM008;2CM009;2CM010;2CM011",
   "2CM012;2CM012B;2CM013;2CM015;2CM017;2CM019;2CM021;2CM023;2CM024;2CM025;2CM026;2CM027;2CM028",
   "2CM029;2CM030;2CM033;2CM034;2CM035;2CM036;2CM037;2CM038;2CM039;2CM040;2CM041;2CM044;2CM046",
   "2CM047;2CM049;2CM050;2CM051;2CM052;2CM053;2CM054;2CM055;2CM056;2CM058;2CM059;2CM060;2CM061",
   "2CM062;2CM063;2CM064;2CM066;2CM067;2CM068;2CM069;2CM070;2CM071;2CM072;2CM073;2CM074;2CM075",
   "2CM075B;2CM076;2CM078;2CM079;2CM080;2CM081;2CM082;2CM083;2CM084;2CM085;2CM086;2CM087;2CM088",
   "2CM089;2CM090;2CM091;2CM092;2CM094;2CM095;2CM096;2CM097;2CM098;2CM099;2CM100;2CM101;2CM102",
   "2CM103;2CM104;2CM105;2CM107;2CM108;2CM109;2CM110;2CM112;2CM114;2CM301;2CM302",
   "D+0EGYPTIAN HIEROGLYPH A001;2A002;2A003;2A004;2A005;2A005A;2A006;2A006A;2A006B;2A007;2A008",
   "2A009;2A010;2A011;2A012;2A013;2A014;2A014A;2A015;2A016;2A017;2A017A;2A018;2A019;2A020;2A021",
   "2A022;2A023;2A024;2A025;2A026;2A027;2A028;2A029;2A030;2A031;2A032;2A032A;2A033;2A034;2A035",
   "2A036;2A037;2A038;2A039;2A040;2A040A;2A041;2A042;2A042A;2A043;2A043A;2A044;2A045;2A045A;2A046",
   "2A047;2A048;2A049;2A050;2A051;2A052;2A053;2A054;2A055;2A056;2A057;2A058;2A059;2A060;2A061",
   "2A062;2A063;2A064;2A065;2A066;2A067;2A068;2A069;2A070;2B001;2B002;2B003;2B004;2B005;2B005A",
   "2B006;2B007;2B008;2B009;2C001;2C002;2C002A;2C002B;2C002C;2C003;2C004;2C005;2C006;2C007;2C008",
   "2C009;2C010;2C010A;2C011;2C012;2C013;2C014;2C015;2C016;2C017;2C018;2C019;2C020;2C021;2C022",
   "2C023;2C024;2D001;2D002;2D003;2D004;2D005;2D006;2D007;2D008;2D008A;2D009;2D010;2D011;2D012",
   "2D013;2D014;2D015;2D016;2D017;2D018;2D019;2D020;2D021;2D022;2D023;2D024;2D025;2D026;2D027",
   "2D027A;2D028;2D029;2D030;2D031;2D031A;2D032;2D033;2D034;2D034A;2D035;2D036;2D037;2D038;2D039",
   "2D040;2D041;2D042;2D043;2D044;2D045;2D046;2D046A;2D047;2D048;2D048A;2D049;2D050;2D050A;2D050B",
   "2D050C;2D050D;2D050E;2D050F;2D050G;2D050H;2D050I;2D051;2D052;2D052A;2D053;2D054;2D054A;2D055",
   "2D056;2D057;2D058;2D059;2D060;2D061;2D062;2D063;2D064;2D065;2D066;2D067;2D067A;2D067B;2D067C",
   "2D067D;2D067E;2D067F;2D067G;2D067H;2E001;2E002;2E003;2E004;2E005;2E006;2E007;2E008;2E008A",
   "2E009;2E009A;2E010;2E011;2E012;2E013;2E014;2E015;2E016;2E016A;2E017;2E017A;2E018;2E019;2E020",
   "2E020A;2E021;2E022;2E023;2E024;2E025;2E026;2E027;2E028;2E028A;2E029;2E030;2E031;2E032;2E033",
   "2E034;2E034A;2E036;2E037;2E038;2F001;2F001A;2F002;2F003;2F004;2F005;2F006;2F007;2F008;2F009",
   "2F010;2F011;2F012;2F013;2F013A;2F014;2F015;2F016;2F017;2F018;2F019;2F020;2F021;2F021A;2F022",
   "2F023;2F024;2F025;2F026;2F027;2F028;2F029;2F030;2F031;2F031A;2F032;2F033;2F034;2F035;2F036",
   "2F037;2F037A;2F038;2F038A;2F039;2F040;2F041;2F042;2F043;2F044;2F045;2F045A;2F046;2F046A;2F047",
   "2F047A;2F048;2F049;2F050;2F051;2F051A;2F051B;2F051C;2F052;2F053;2G001;2G002;2G003;2G004;2G005",
   "2G006;2G006A;2G007;2G007A;2G007B;2G008;2G009;2G010;2G011;2G011A;2G012;2G013;2G014;2G015;2G016",
   "2G017;2G018;2G019;2G020;2G020A;2G021;2G022;2G023;2G024;2G025;2G026;2G026A;2G027;2G028;2G029",
   "2G030;2G031;2G032;2G033;2G034;2G035;2G036;2G036A;2G037;2G037A;2G038;2G039;2G040;2G041;2G042",
   "2G043;2G043A;2G044;2G045;2G045A;2G046;2G047;2G048;2G049;2G050;2G051;2G052;2G053;2G054;2H001",
   "2H002;2H003;2H004;2H005;2H006;2H006A;2H007;2H008;2I001;2I002;2I003;2I004;2I005;2I005A;2I006",
   "2I007;2I008;2I009;2I009A;2I010;2I010A;2I011;2I011A;2I012;2I013;2I014;2I015;2K001;2K002;2K003",
   "2K004;2K005;2K006;2K007;2K008;2L001;2L002;2L002A;2L003;2L004;2L005;2L006;2L006A;2L007;2L008",
   "2M001;2M001A;2M001B;2M002;2M003;2M003A;2M004;2M005;2M006;2M007;2M008;2M009;2M010;2M010A;2M011",
   "2M012;2M012A;2M012B;2M012C;2M012D;2M012E;2M012F;2M012G;2M012H;2M013;2M014;2M015;2M015A;2M016",
   "2M016A;2M017;2M017A;2M018;2M019;2M020;2M021;2M022;2M022A;2M023;2M024;2M024A;2M025;2M026;2M027",
   "2M028;2M028A;2M029;2M030;2M031;2M031A;2M032;2M033;2M033A;2M033B;2M034;2M035;2M036;2M037;2M038",
   "2M039;2M040;2M040A;2M041;2M042;2M043;2M044;2N001;2N002;2N003;2N004;2N005;2N006;2N007;2N008",
   "2N009;2N010;2N011;2N012;2N013;2N014;2N015;2N016;2N017;2N018;2N018A;2N018B;2N019;2N020;2N021",
   "2N022;2N023;2N024;2N025;2N025A;2N026;2N027;2N028;2N029;2N030;2N031;2N032;2N033;2N033A;2N034",
   "2N034A;2N035;2N035A;2N036;2N037;2N037A;2N038;2N039;2N040;2N041;2N042;2NL001;2NL002;2NL003",
   "2NL004;2NL005;2NL005A;2NL006;2NL007;2NL008;2NL009;2NL010;2NL011;2NL012;2NL013;2NL014;2NL015",
   "2NL016;2NL017;2NL017A;2NL018;2NL019;2NL020;2NU001;2NU002;2NU003;2NU004;2NU005;2NU006;2NU007",
   "2NU008;2NU009;2NU010;2NU010A;2NU011;2NU011A;2NU012;2NU013;2NU014;2NU015;2NU016;2NU017;2NU018",
   "2NU018A;2NU019;2NU020;2NU021;2NU022;2NU022A;2O001;2O001A;2O002;2O003;2O004;2O005;2O005A;2O006",
   "2O006A;2O006B;2O006C;2O006D;2O006E;2O006F;2O007;2O008;2O009;2O010;2O010A;2O010B;2O010C;2O011",
   "2O012;2O013;2O014;2O015;2O016;2O017;2O018;2O019;2O019A;2O020;2O020A;2O021;2O022;2O023;2O024",
   "2O024A;2O025;2O025A;2O026;2O027;2O028;2O029;2O029A;2O030;2O030A;2O031;2O032;2O033;2O033A;2O034",
   "2O035;2O036;2O036A;2O036B;2O036C;2O036D;2O037;2O038;2O039;2O040;2O041;2O042;2O043;2O044;2O045",
   "2O046;2O047;2O048;2O049;2O050;2O050A;2O050B;2O051;2P001;2P001A;2P002;2P003;2P003A;2P004;2P005",
   "2P006;2P007;2P008;2P009;2P010;2P011;2Q001;2Q002;2Q003;2Q004;2Q005;2Q006;2Q007;2R001;2R002",
   "2R002A;2R003;2R003A;2R003B;2R004;2R005;2R006;2R007;2R008;2R009;2R010;2R010A;2R011;2R012;2R013",
   "2R014;2R015;2R016;2R016A;2R017;2R018;2R019;2R020;2R021;2R022;2R023;2R024;2R025;2R026;2R027",
   "2R028;2R029;2S001;2S002;2S002A;2S003;2S004;2S005;2S006;2S006A;2S007;2S008;2S009;2S010;2S011",
   "2S012;2S013;2S014;2S014A;2S014B;2S015;2S016;2S017;2S017A;2S018;2S019;2S020;2S021;2S022;2S023",
   "2S024;2S025;2S026;2S026A;2S026B;2S027;2S028;2S029;2S030;2S031;2S032;2S033;2S034;2S035;2S035A",
   "2S036;2S037;2S038;2S039;2S040;2S041;2S042;2S043;2S044;2S045;2S046;2T001;2T002;2T003;2T003A",
   "2T004;2T005;2T006;2T007;2T007A;2T008;2T008A;2T009;2T009A;2T010;2T011;2T011A;2T012;2T013;2T014",
   "2T015;2T016;2T016A;2T017;2T018;2T019;2T020;2T021;2T022;2T023;2T024;2T025;2T026;2T027;2T028",
   "2T029;2T030;2T031;2T032;2T032A;2T033;2T033A;2T034;2T035;2T036;2U001;2U002;2U003;2U004;2U005",
   "2U006;2U006A;2U006B;2U007;2U008;2U009;2U010;2U011;2U012;2U013;2U014;2U015;2U016;2U017;2U018",
   "2U019;2U020;2U021;2U022;2U023;2U023A;2U024;2U025;2U026;2U027;2U028;2U029;2U029A;2U030;2U031",
   "2U032;2U032A;2U033;2U034;2U035;2U036;2U037;2U038;2U039;2U040;2U041;2U042;2V001;2V001A;2V001B",
   "2V001C;2V001D;2V001E;2V001F;2V001G;2V001H;2V001I;2V002;2V002A;2V003;2V004;2V005;2V006;2V007",
   "2V007A;2V007B;2V008;2V009;2V010;2V011;2V011A;2V011B;2V011C;2V012;2V012A;2V012B;2V013;2V014",
   "2V015;2V016;2V017;2V018;2V019;2V020;2V020A;2V020B;2V020C;2V020D;2V020E;2V020F;2V020G;2V020H",
   "2V020I;2V020J;2V020K;2V020L;2V021;2V022;2V023;2V023A;2V024;2V025;2V026;2V027;2V028;2V028A",
   "2V029;2V029A;2V030;2V030A;2V031;2V031A;2V032;2V033;2V033A;2V034;2V035;2V036;2V037;2V037A;2V038",
   "2V039;2V040;2V040A;2W001;2W002;2W003;2W003A;2W004;2W005;2W006;2W007;2W008;2W009;2W009A;2W010",
   "2W010A;2W011;2W012;2W013;2W014;2W014A;2W015;2W016;2W017;2W017A;2W018;2W018A;2W019;2W020;2W021",
   "2W022;2W023;2W024;2W024A;2W025;2X001;2X002;2X003;2X004;2X004A;2X004B;2X005;2X006;2X006A;2X007",
   "2X008;2X008A;2Y001;2Y001A;2Y002;2Y003;2Y004;2Y005;2Y006;2Y007;2Y008;2Z001;2Z002;2Z002A;2Z002B",
   "2Z002C;2Z002D;2Z003;2Z003A;2Z003B;2Z004;2Z004A;2Z005;2Z005A;2Z006;2Z007;2Z008;2Z009;2Z010",
   "2Z011;2Z012;2Z013;2Z014;2Z015;2Z015A;2Z015B;2Z015C;2Z015D;2Z015E;2Z015F;2Z015G;2Z015H;2Z015I",
   "2Z016;2Z016A;2Z016B;2Z016C;2Z016D;2Z016E;2Z016F;2Z016G;2Z016H;2AA001;2AA002;2AA003;2AA004",
   "2AA005;2AA006;2AA007;2AA007A;2AA007B;2AA008;2AA009;2AA010;2AA011;2AA012;2AA013;2AA014;2AA015",
   "2AA016;2AA017;2AA018;2AA019;2AA020;2AA021;2AA022;2AA023;2AA024;2AA025;2AA026;2AA027;2AA028",
   "2AA029;2AA030;2AA031;2AA032;1+2af ub;2bf ub;2INSERT AT ez START;4gj START;4ez gz;4gj gz;2jc ae",
   "2BEGIN SEGMENT;2gz SEGMENT;FC7+0ANATOLIAN HIEROGLYPH A001;2A002;2A003;2A004;2A005;2A006;2A007",
   "2A008;2A009;2A010;2A010A;2A011;2A012;2A013;2A014;2A015;2A016;2A017;2A018;2A019;2A020;2A021",
   "2A022;2A023;2A024;2A025;2A026;2A026A;2A027;2A028;2A029;2A030;2A031;2A032;2A033;2A034;2A035",
   "2A036;2A037;2A038;2A039;2A039A;2A040;2A041;2A041A;2A042;2A043;2A044;2A045;2A045A;2A046;2A046A",
   "2A046B;2A047;2A048;2A049;2A050;2A051;2A052;2A053;2A054;2A055;2A056;2A057;2A058;2A059;2A060",
   "2A061;2A062;2A063;2A064;2A065;2A066;2A066A;2A066B;2A066C;2A067;2A068;2A069;2A070;2A071;2A072",
   "2A073;2A074;2A075;2A076;2A077;2A078;2A079;2A080;2A081;2A082;2A083;2A084;2A085;2A086;2A087",
   "2A088;2A089;2A090;2A091;2A092;2A093;2A094;2A095;2A096;2A097;2A097A;2A098;2A098A;2A099;2A100",
   "2A100A;2A101;2A101A;2A102;2A102A;2A103;2A104;2A104A;2A104B;2A104C;2A105;2A105A;2A105B;2A106",
   "2A107;2A107A;2A107B;2A107C;2A108;2A109;2A110;2A110A;2A110B;2A111;2A112;2A113;2A114;2A115",
   "2A115A;2A116;2A117;2A118;2A119;2A120;2A121;2A122;2A123;2A124;2A125;2A125A;2A126;2A127;2A128",
   "2A129;2A130;2A131;2A132;2A133;2A134;2A135;2A135A;2A136;2A137;2A138;2A139;2A140;2A141;2A142",
   "2A143;2A144;2A145;2A146;2A147;2A148;2A149;2A150;2A151;2A152;2A153;2A154;2A155;2A156;2A157",
   "2A158;2A159;2A160;2A161;2A162;2A163;2A164;2A165;2A166;2A167;2A168;2A169;2A170;2A171;2A172",
   "2A173;2A174;2A175;2A176;2A177;2A178;2A179;2A180;2A181;2A182;2A183;2A184;2A185;2A186;2A187",
   "2A188;2A189;2A190;2A191;2A192;2A193;2A194;2A195;2A196;2A197;2A198;2A199;2A200;2A201;2A202",
   "2A202A;2A202B;2A203;2A204;2A205;2A206;2A207;2A207A;2A208;2A209;2A209A;2A210;2A211;2A212;2A213",
   "2A214;2A215;2A215A;2A216;2A216A;2A217;2A218;2A219;2A220;2A221;2A222;2A223;2A224;2A225;2A226",
   "2A227;2A227A;2A228;2A229;2A230;2A231;2A232;2A233;2A234;2A235;2A236;2A237;2A238;2A239;2A240",
   "2A241;2A242;2A243;2A244;2A245;2A246;2A247;2A248;2A249;2A250;2A251;2A252;2A253;2A254;2A255",
   "2A256;2A257;2A258;2A259;2A260;2A261;2A262;2A263;2A264;2A265;2A266;2A267;2A267A;2A268;2A269",
   "2A270;2A271;2A272;2A273;2A274;2A275;2A276;2A277;2A278;2A279;2A280;2A281;2A282;2A283;2A284",
   "2A285;2A286;2A287;2A288;2A289;2A289A;2A290;2A291;2A292;2A293;2A294;2A294A;2A295;2A296;2A297",
   "2A298;2A299;2A299A;2A300;2A301;2A302;2A303;2A304;2A305;2A306;2A307;2A308;2A309;2A309A;2A310",
   "2A311;2A312;2A313;2A314;2A315;2A316;2A317;2A318;2A319;2A320;2A321;2A322;2A323;2A324;2A325",
   "2A326;2A327;2A328;2A329;2A329A;2A330;2A331;2A332A;2A332B;2A332C;2A333;2A334;2A335;2A336;2A336A",
   "2A336B;2A336C;2A337;2A338;2A339;2A340;2A341;2A342;2A343;2A344;2A345;2A346;2A347;2A348;2A349",
   "2A350;2A351;2A352;2A353;2A354;2A355;2A356;2A357;2A358;2A359;2A359A;2A360;2A361;2A362;2A363",
   "2A364;2A364A;2A365;2A366;2A367;2A368;2A368A;2A369;2A370;2A371;2A371A;2A372;2A373;2A374;2A375",
   "2A376;2A377;2A378;2A379;2A380;2A381;2A381A;2A382;2A383 RA OR RI;2A383A;2A384;2A385;2A386",
   "2A386A;2A387;2A388;2A389;2A390;2A391;2A392;2A393 ah;2A394;2A395;2A396;2A397;2A398;2A399;2A400",
   "2A401;2A402;2A403;2A404;2A405;2A406;2A407;2A408;2A409;2A410 BEGIN wy r;2A410A gz wy r;2A411",
   "2A412;2A413;2A414;2A415;2A416;2A417;2A418;2A419;2A420;2A421;2A422;2A423;2A424;2A425;2A426",
   "2A427;2A428;2A429;2A430;2A431;2A432;2A433;2A434;2A435;2A436;2A437;2A438;2A439;2A440;2A441",
   "2A442;2A443;2A444;2A445;2A446;2A447;2A448;2A449;2A450;2A450A;2A451;2A452;2A453;2A454;2A455",
   "2A456;2A457;2A457A;2A458;2A459;2A460;2A461;2A462;2A463;2A464;2A465;2A466;2A467;2A468;2A469",
   "2A470;2A471;2A472;2A473;2A474;2A475;2A476;2A477;2A478;2A479;2A480;2A481;2A482;2A483;2A484",
   "2A485;2A486;2A487;2A488;2A489;2A490;2A491;2A492;2A493;2A494;2A495;2A496;2A497;2A501;2A502",
   "2A503;2A504;2A505;2A506;2A507;2A508;2A509;2A510;2A511;2A512;2A513;2A514;2A515;2A516;2A517",
   "2A518;2A519;2A520;2A521;2A522;2A523;2A524;2A525;2A526;2A527;2A528;2A529;2A530",
   "21B9+0BAMUM b PHASE-A NGKUE MFON;3GBIEE FON;3PON MFON PIPAEMGBIEE;5PIPAEMBA;3NAA MFON",
   "3SHUENSHUET;3TITA MFON;3NZA MFON;3SHINDA PA NJI;3PON PA NJI PIPAEMGBIEE;6PIPAEMBA;3MAEMBGBIEE",
   "3TU MAEMBA;3NGANGU;3MAEMVEUX;3MANSUAE;3MVEUAENGAM;3SEUNYAM;3NTOQPEN;3KEUKEUTNDA;3NKINDI;3SUU",
   "3NGKUENZEUM;3LAPAQ;3LET KUT;3NTAP MFAA;3MAEKEUP;3PASHAE;3GHEUAERAE;3PAMSHAE;3MON NGGEUAET",
   "3NZUN MEUT;3U YUQ NAE;3GHEUAEGHEUAE;3NTAP NTAA;3SISA;3MGBASA;3MEUNJOMNDEUQ;3MOOMPUQ;3KAFA",
   "3PA LEERAEWA;3NDA LEERAEWA;3PET;3MAEMKPEN;3NIKA;3PUP;3TUAEP;3LUAEP;3SONJAM;3TEUTEUWEN;3MAENYI",
   "3KET;3NDAANGGEUAET;3KUOQ;3MOOMEUT;3SHUM;3LOMMAE;3FIRI;3ROM;3KPOQ;3SOQ;3MAP PIEET;3SHIRAE;3NTAP",
   "3SHOQ NSHUT YUM;3NYIT MONGKEUAEQ;3PAARAE;3NKAARAE;3UNKNOWN;3NGGEN;3MAESI;3NJAM;3MBANYI;3NYET",
   "3TEUAEN;3SOT;3PAAM;3NSHIEE;3MAEM;3NYI;3KAQ;3NSHA;3VEE;3LU;3NEN;3NAQ;3MBAQ;2PHASE-B NSHUET",
   "3TU MAEMGBIEE;3SIEE;3SET TU;3LOM NTEUM;3MBA MAELEE;3KIEEM;3YEURAE;3MBAARAE;3KAM;3PEESHI",
   "3YAFU LEERAEWA;3fs NSHUT NYAM;3NTIEE SHEUOQ;3NDU NJAA;3GHEUGHEUAEM;3PIT;3TU NSIEE;3SHET NJAQ",
   "3SHEUAEQTU;3MFON TEUAEQ;3MBIT MBAAKET;3NYI NTEUM;3KEUPUQ;3GHEUGHEN;3KEUYEUX;3LAANAE;3PARUM",
   "3VEUM;3NGKINDI MVOP;3NGGEU MBU;3WUAET;3SAKEUAE;3TAAM;3MEUQ;3NGGUOQ;4co;3MFIYAQ;3SUE;3MBEURI",
   "3MONTIEEN;3NYAEMAE;3PUNGAAM;3MEUT NGGEET;3FEUX;3MBUOQ;3FEE;3KEUAEM;3MA NJEUAENA;4NJUQA;3LET",
   "3NGGAAM;3NSEN;3MA;3KIQ;3NGOM;2PHASE-C NGKUE MAEMBA;3NZA;3YUM;3WANGKUOQ;3NGGEN;3NDEUAEREE",
   "3NGKAQ;3GHARAE;3MBEEKEET;3GBAYI;3NYIR MKPARAQ MEUN;3NTU MBIT;3MBEUM;3PIRIEEN;3NDOMBU",
   "3MBAA CABBAGE-TREE;3KEUSHEUAEP;3GHAP;3KEUKAQ;3YU MUOMAE;3NZEUM;3MBUE;3NSEUAEN;3MBIT;3YEUQ",
   "3KPARAQ;3KAA;3SEUX;3NDIDA;3TAASHAE;3NJUEQ;3TITA YUE;3SUAET;3NGGUAEN NYAM;3VEUX;3NANSANAQ",
   "3MA KEUAERI;3NTAA;3NGGUON;3LAP;3MBIRIEEN;3MGBASAQ;3NTEUNGBA;3TEUTEUX;3NGGUM;3FUE;3NDEUT;3NSA",
   "3NSHAQ;3BUNG;3VEUAEPEN;3MBERAE;3RU;3NJAEM;3fs;3TITUAEP;3NSUOT NGOM;3NJEEEE;3KET;3NGGU;3MAESI",
   "3MBUAEM;3LU;3KUT;3NJAM;3NGOM;3WUP;3NGGUEET;3NSOM;3NTEN;3KUOP NKAARAE;3NSUN;3NDAM;3MA NSIEE",
   "3YAA;3NDAP;3SHUEQ;3SETFON;3MBI;3MAEMBA;3MBANYI;3KEUSEUX;3MBEUX;3KEUM;3MBAA PICKET;3YUWOQ",
   "3NJEUX;3MIEE;3MUAE;3SHIQ;3KEN LAW;4FATIGUE;3NGAQ;3NAQ;3LIQ;3PIN;3PEN;3TET;2PHASE-D MBUO;3WAP",
   "3NJI;3MFON;3NJIEE;3LIEE;3NJEUT;3NSHEE;3NGGAAMAE;3NYAM;3WUAEN;3NGKUN;3SHEE;3NGKAP;3KEUAETMEUN",
   "3TEUT;3SHEUAE;3NJAP;3SUE;3KET;3YAEMMAE;3KUOM;3SAP;3MFEUT;3NDEUX;3MALEERI;3MEUT;3SEUAEQ;3YEN",
   "3NJEUAEM;3KEUOT MBUAE;3NGKEURI;3TU;3GHAA;3NGKYEE;3FEUFEUAET;3NDEE;3MGBOFUM;3LEUAEP;3NDON;3MONI",
   "3MGBEUN;3PUUT;3MGBIEE;3MFO;3LUM;3NSIEEP;3MBAA;3KWAET;3NYET;3TEUAEN;3SOT;3YUWOQ;3KEUM;3RAEM",
   "3TEEEE;3NGKEUAEQ;3MFEUAE;3NSIEET;3KEUP;3PIP;3PEUTAE;3NYUE;3LET;3NGGAAM;3MFIEE;3NGGWAEN;3YUOM",
   "3PAP;3YUOP;3NDAM;3NTEUM;3SUAE;3KUN;3NGGEUX;3NGKIEE;3TUOT;3MEUN;3KUQ;3NSUM;3TEUN;3MAENJET",
   "3NGGAP;3LEUM;3NGGUOM;3NSHUT;3NJUEQ;3GHEUAE;3KU;3REN dv;3TAE;3TOQ;3NYI;3RII;3LEEEE;3MEEEE;3M",
   "3SUU;3MU;3SHII;3SHEUX;3KYEE;3NU;3SHU;3NTEE;3PEE;3NI;3SHOQ;3PUQ;3MVOP;3LOQ;3REN MUCH;3TI;3NTUU",
   "3MBAA an;3SAQ;3FAA;2PHASE-E NDAP;3TOON;3MBEUM;3LAP;3VOM;3LOON;3PAA;3SOM;3RAQ;3NSHUOP;3NDUN",
   "3PUAE;3TAM;3NGKA;3KPEUX;3WUO;3SEE;3NGGEUAET;3PAAM;3TOO;3KUOP;3LOM;3NSHIEE;3NGOP;3MAEM;3NGKEUX",
   "3NGOQ;3NSHUE;3RIMGBA;3NJEUX;3PEEM;3SAA;3NGGURAE;3MGBA;3GHEUX;3NGKEUAEM;3NJAEMLI;3MAP;3LOOT",
   "3NGGEEEE;3NDIQ;3TAEN NTEUM;3SET;3PUM;3NDAA SOFTNESS;3NGGUAESHAE NYAM;3YIEE;3GHEUN;3TUAE;3YEUAE",
   "3PO;3TUMAE;3KEUAE;3SUAEN;3TEUAEQ;3VEUAE;3WEUX;3LAAM;3PU;3TAAQ;3GHAAMAE;3NGEUREUT;3SHEUAEQ",
   "3MGBEN;3MBEE;3NZAQ;3NKOM;3GBET;3TUM;3KUET;3YAP;3NYI CLEAVER;3YIT;3MFEUQ;3NDIAQ;3PIEEQ;3YUEQ",
   "3LEUAEM;3FUE;3GBEUX;3NGKUP;3KET;3MAE;3NGKAAMI;3GHET;3FA;3NTUM;3PEUT;3YEUM;3NGGEUAE;3NYI kz",
   "3NZUQ;3POON;3MIEE;3FUET;3NAE;3MUAE;3GHEUAE;3FU I;3MVI;3PUAQ;3NGKUM;3KUT;3PIET;3NTAP;3YEUAET",
   "3NGGUP;3PA PEOPLE;3FU CALL;3FOM;3NJEE;3A;3TOQ;3O;3I;3LAQ;3PA PLURAL;3TAA;3TAQ;3NDAA MY HOUSE",
   "3SHIQ;3YEUX;3NGUAE;3YUAEN;3YOQ SWIMMING;4COVER;3YUQ;3YUN;3KEUX;3PEUX;3NJEE EPOCH;3PUE;3WUE",
   "3FEE;3VEE;3LU;3MI;3REUX;3RAE;3NGUAET;3cj;3SHO;3SHOQ;3FU REMEDY;3NA;3PI;3LOQ;3KO;3MEN;3MA;3MAQ",
   "3TEU;3KI;3MON;3cc;3FAQ;3GHOM;2PHASE-F KA;3U;3KU;3EE;3REE;3TAE;3NYI;3LA;3RII;3RIEE;3MEEEE;3TAA",
   "3NDAA;3NJAEM;3M;3SUU;3SHII;3SI;3SEUX;3KYEE;3KET;3NUAE;3NU;3NJUAE;3YOQ;3SHU;3YA;3NSHA;3PEUX",
   "3NTEE;3WUE;3PEE;3RU;3NI;3REUX;3KEN;3NGKWAEN;3NGGA;3SHO;3PUAE;3FOM;3WA;3LI;3LOQ;3KO;3MBEN;3REN",
   "3MA;3MO;3MBAA;3TET;3KPA;3SAMBA;3VUEQ;7+0MRO b TA;2NGI;2YO;2MIM;2BA;2DA;2A;2PHI;2KHAI;2HAO;2DAI",
   "2CHU;2KEAAE;2OL;2MAEM;2NIN;2PA;2OO;2O;2RO;2SHI;2THEA;2EA;2WA;2E;2KO;2LAN;2LA;2HAI;2RI;2TEK",
   "1+1bh bt;2o;2l;2s;2w;2aa;2ag;2an;2ah;2ar;4+1gw;1p gw;0TANGSA b OZ;2OC;2OQ;2OX;2AZ;2AC;2AQ;2AX",
   "2VZ;2VC;2VQ;2VX;2EZ;2EC;2EQ;2EX;2IZ;2IC;2IQ;2IX;2UZ;2UC;2UQ;2UX;2AWZ;2AWC;2AWQ;2AWX;2UIZ;2UIC",
   "2UIQ;2UIX;2n NG;2cb UEX;2eb UEZ;3AWX;2UEC;2UEZ;2UEQ;2UEX;2UIUZ;2UIUC;2UIUQ;2UIUX;2MZ;2MC;2MQ",
   "2MX;2KA;2cy;2GA;2cj;2SA;2YA;2WA;2PA;2ct;2dr;2BA;2MA;2NA;2HA;2LA;2HTA;2TA;2DA;2RA;2NHA;2cl;2CA",
   "2hb;2ej;2HTTA;2df;2XA;2FA;2eh;2cr;2ZA;1+1bh bt;2o;2l;2s;2w;2aa;2ag;2an;2ah;2ar",
   "6+0BASSA VAH b ENNI;3KA;3SE;3FA;3MBE;3YIE;3GAH;3DHII;3KPAH;3JO;3HWAH;3WA;3ZO;3GBU;3DO;3CE;3UWU",
   "3TO;3BA;3VU;3YEIN;3PA;3WADDA;3A;3O;3OO;3U;3EE;3E;3I;2+2fi ci bx;3bn bx;3MID bx;3LOW-MID bx",
   "3HIGH-LOW bx;2ec ck;A+0PAHAWH HMONG bc KEEB;3KEEV;3KIB;3KIV;3KAUB;3KAUV;3KUB;3KUV;3KEB;3KEV",
   "3KAIB;3KAIV;3KOOB;3KOOV;3KAWB;3KAWV;3KUAB;3KUAV;3KOB;3KOV;3KIAB;3KIAV;3KAB;3KAV;3KWB;3KWV",
   "3KAAB;3KAAV;2ja VAU;3NTSAU;3LAU;3HAU;3NLAU;3RAU;3NKAU;3QHAU;3YAU;3HLAU;3MAU;3CHAU;3NCHAU;3HNAU",
   "3PLHAU;3NTHAU;3NAU;3AU;3XAU;3CAU;2r CIM TUB;4SO;4KES;4KHAV;4SUAM;4HOM;4TAUM;2f VOS THOM",
   "4TSHAB CEEB;3CIM CHEEM;3VOS THIAB;4FEEM;3XYEEM NTXIV;4hv;4TOV;4FAIB;3VOS SEEV;3MEEJ SUAB",
   "3VOS NRUA;3IB YAM;3XAUS;3CIM TSOV ROG;A+2bh bt;3o;3l;3s;3w;3aa;3ag;3an;3ah;3ar;1+2cz TENS",
   "3HUNDREDS;3cc rq;3tp;3ap tp;3cc BILLIONS;3TRILLIONS;1+2f VOS LUB;3XYOO;3HLI;3THIRD-STAGE HLI",
   "3ZWJ THAJ;3HNUB;3NQIG;3XIAB;3NTUJ;3AV;3TXHEEJ CEEV;3MEEJ TSEEB;3TAU;3LOS;3MUS",
   "3CIM HAIS LUS NTOG NTOG;4CUAM TSHOOJ;4TXWV;5CHWV;4PUB DAWB;4NRES TOS;5+2CLAN f TSHEEJ;4YEEG",
   "4LIS;4LAUJ;4XYOOJ;4KOO;4HAWJ;4MUAS;4THOJ;4TSAB;4PHAB;4KHAB;4HAM;4VAJ;4FAJ;4YAJ;4TSWB;4KWM;4VWJ",
   "2B0+0MEDEFAIDRIN e b M;3S;3V;3W;3ATIU;3Z;3KP;3P;3T;3G;3F;3I;3K;3A;3J;3E;3B;3C;3U;3YU;3L;3Q;3HP",
   "3NY;3X;3D;3OE;3N;3R;3O;3AI;3Y;1c b M;3S;3V;3W;3ATIU;3Z;3KP;3P;3T;3G;3F;3I;3K;3A;3J;3E;3B;3C;3U",
   "3YU;3L;3Q;3HP;3NY;3X;3D;3OE;3N;3R;3O;3AI;3Y;1bh bt;2o;2l;2s;2w;2aa;2ag;2an;2ah;2ar;1cz cc;2or",
   "2nb;2sh;2si;2pj;2px;2rv;2qx;2sj;1bh o jb d;2l jb d;2s jb d;1de;1ec ck;1z AIVA;1ia OH",
   "65+0MIAO b PA;2BA;2YI PA;2PLA;2MA;2MHA;2kb MA;2FA;2VA;2VFA;2TA;2DA;2YI ee;3TA;2ee;2ef;2NA;2NHA",
   "2YI eq;2kb NA;2eq;2NNHA;2LA;2LYA;2LHA;2LHYA;2TLHA;2DLHA;2TLHYA;2DLHYA;2KA;2GA;2YI KA;2QA;2QGA",
   "2cj;2NGHA;2kb cj;2HA;2XA;2ej;2GHHA;2TSSA;2DZZA;2ct;2NYHA;2mr;2DZHA;2YI mr;3DZHA;2REFORMED mr",
   "2cl;2fh;2ZHA;2ZSHA;2hb;2DZA;2YI hb;2SA;2ZA;2ZSA;2ZZA;2ZZSA;2kb ZZA;2ZZYA;2ZZSYA;2WA;2AH;2HHA",
   "2BRI;2SYI;2DZYI;2TE;2TSE;2RTE;4+1f ja gv ak;1b ze;1f ASPIRATION;2REFORMED VOICING;3ASPIRATION",
   "1bc f A;3AA;3AHH;3AN;3ANG;3O;3OO;3WO;3W;3E;3EN;3ENG;3OEY;3I;3IA;3IAN;3IANG;3IO;3IE;3II;3IU",
   "3ING;3U;3UA;3UAN;3UANG;3UU;3UEI;3UNG;3Y;3YI;3AE;3AEE;3ERR;3pw ERR;3ER;3pw ER;3AI;3EI;3AU;3OU",
   "3N;3NG;3UOG;3YUI;3OG;3OER;3VW;3IG;3EA;3IONG;3UI;7+1bx i;2ez i;2j;2m;1b qf;2re;2ue;2qg;2TONE-6",
   "2TONE-7;2TONE-8;2REFORMED TONE-1;3qf;3ue;3qg;3TONE-6;3TONE-8;40+0TANGUT qv r;0NUSHU qv r",
   "0dv CHINESE x r;2qv r;0KHITAN c ix rg;B+0VIETNAMESE jb READING r CA;4NHAY",
   "180E+0TANGUT COMPONENT-001;1COMPONENT-002;1COMPONENT-003;1COMPONENT-004;1COMPONENT-005",
   "1COMPONENT-006;1COMPONENT-007;1COMPONENT-008;1COMPONENT-009;1COMPONENT-010;1COMPONENT-011",
   "1COMPONENT-012;1COMPONENT-013;1COMPONENT-014;1COMPONENT-015;1COMPONENT-016;1COMPONENT-017",
   "1COMPONENT-018;1COMPONENT-019;1COMPONENT-020;1COMPONENT-021;1COMPONENT-022;1COMPONENT-023",
   "1COMPONENT-024;1COMPONENT-025;1COMPONENT-026;1COMPONENT-027;1COMPONENT-028;1COMPONENT-029",
   "1COMPONENT-030;1COMPONENT-031;1COMPONENT-032;1COMPONENT-033;1COMPONENT-034;1COMPONENT-035",
   "1COMPONENT-036;1COMPONENT-037;1COMPONENT-038;1COMPONENT-039;1COMPONENT-040;1COMPONENT-041",
   "1COMPONENT-042;1COMPONENT-043;1COMPONENT-044;1COMPONENT-045;1COMPONENT-046;1COMPONENT-047",
   "1COMPONENT-048;1COMPONENT-049;1COMPONENT-050;1COMPONENT-051;1COMPONENT-052;1COMPONENT-053",
   "1COMPONENT-054;1COMPONENT-055;1COMPONENT-056;1COMPONENT-057;1COMPONENT-058;1COMPONENT-059",
   "1COMPONENT-060;1COMPONENT-061;1COMPONENT-062;1COMPONENT-063;1COMPONENT-064;1COMPONENT-065",
   "1COMPONENT-066;1COMPONENT-067;1COMPONENT-068;1COMPONENT-069;1COMPONENT-070;1COMPONENT-071",
   "1COMPONENT-072;1COMPONENT-073;1COMPONENT-074;1COMPONENT-075;1COMPONENT-076;1COMPONENT-077",
   "1COMPONENT-078;1COMPONENT-079;1COMPONENT-080;1COMPONENT-081;1COMPONENT-082;1COMPONENT-083",
   "1COMPONENT-084;1COMPONENT-085;1COMPONENT-086;1COMPONENT-087;1COMPONENT-088;1COMPONENT-089",
   "1COMPONENT-090;1COMPONENT-091;1COMPONENT-092;1COMPONENT-093;1COMPONENT-094;1COMPONENT-095",
   "1COMPONENT-096;1COMPONENT-097;1COMPONENT-098;1COMPONENT-099;1COMPONENT-100;1COMPONENT-101",
   "1COMPONENT-102;1COMPONENT-103;1COMPONENT-104;1COMPONENT-105;1COMPONENT-106;1COMPONENT-107",
   "1COMPONENT-108;1COMPONENT-109;1COMPONENT-110;1COMPONENT-111;1COMPONENT-112;1COMPONENT-113",
   "1COMPONENT-114;1COMPONENT-115;1COMPONENT-116;1COMPONENT-117;1COMPONENT-118;1COMPONENT-119",
   "1COMPONENT-120;1COMPONENT-121;1COMPONENT-122;1COMPONENT-123;1COMPONENT-124;1COMPONENT-125",
   "1COMPONENT-126;1COMPONENT-127;1COMPONENT-128;1COMPONENT-129;1COMPONENT-130;1COMPONENT-131",
   "1COMPONENT-132;1COMPONENT-133;1COMPONENT-134;1COMPONENT-135;1COMPONENT-136;1COMPONENT-137",
   "1COMPONENT-138;1COMPONENT-139;1COMPONENT-140;1COMPONENT-141;1COMPONENT-142;1COMPONENT-143",
   "1COMPONENT-144;1COMPONENT-145;1COMPONENT-146;1COMPONENT-147;1COMPONENT-148;1COMPONENT-149",
   "1COMPONENT-150;1COMPONENT-151;1COMPONENT-152;1COMPONENT-153;1COMPONENT-154;1COMPONENT-155",
   "1COMPONENT-156;1COMPONENT-157;1COMPONENT-158;1COMPONENT-159;1COMPONENT-160;1COMPONENT-161",
   "1COMPONENT-162;1COMPONENT-163;1COMPONENT-164;1COMPONENT-165;1COMPONENT-166;1COMPONENT-167",
   "1COMPONENT-168;1COMPONENT-169;1COMPONENT-170;1COMPONENT-171;1COMPONENT-172;1COMPONENT-173",
   "1COMPONENT-174;1COMPONENT-175;1COMPONENT-176;1COMPONENT-177;1COMPONENT-178;1COMPONENT-179",
   "1COMPONENT-180;1COMPONENT-181;1COMPONENT-182;1COMPONENT-183;1COMPONENT-184;1COMPONENT-185",
   "1COMPONENT-186;1COMPONENT-187;1COMPONENT-188;1COMPONENT-189;1COMPONENT-190;1COMPONENT-191",
   "1COMPONENT-192;1COMPONENT-193;1COMPONENT-194;1COMPONENT-195;1COMPONENT-196;1COMPONENT-197",
   "1COMPONENT-198;1COMPONENT-199;1COMPONENT-200;1COMPONENT-201;1COMPONENT-202;1COMPONENT-203",
   "1COMPONENT-204;1COMPONENT-205;1COMPONENT-206;1COMPONENT-207;1COMPONENT-208;1COMPONENT-209",
   "1COMPONENT-210;1COMPONENT-211;1COMPONENT-212;1COMPONENT-213;1COMPONENT-214;1COMPONENT-215",
   "1COMPONENT-216;1COMPONENT-217;1COMPONENT-218;1COMPONENT-219;1COMPONENT-220;1COMPONENT-221",
   "1COMPONENT-222;1COMPONENT-223;1COMPONENT-224;1COMPONENT-225;1COMPONENT-226;1COMPONENT-227",
   "1COMPONENT-228;1COMPONENT-229;1COMPONENT-230;1COMPONENT-231;1COMPONENT-232;1COMPONENT-233",
   "1COMPONENT-234;1COMPONENT-235;1COMPONENT-236;1COMPONENT-237;1COMPONENT-238;1COMPONENT-239",
   "1COMPONENT-240;1COMPONENT-241;1COMPONENT-242;1COMPONENT-243;1COMPONENT-244;1COMPONENT-245",
   "1COMPONENT-246;1COMPONENT-247;1COMPONENT-248;1COMPONENT-249;1COMPONENT-250;1COMPONENT-251",
   "1COMPONENT-252;1COMPONENT-253;1COMPONENT-254;1COMPONENT-255;1COMPONENT-256;1COMPONENT-257",
   "1COMPONENT-258;1COMPONENT-259;1COMPONENT-260;1COMPONENT-261;1COMPONENT-262;1COMPONENT-263",
   "1COMPONENT-264;1COMPONENT-265;1COMPONENT-266;1COMPONENT-267;1COMPONENT-268;1COMPONENT-269",
   "1COMPONENT-270;1COMPONENT-271;1COMPONENT-272;1COMPONENT-273;1COMPONENT-274;1COMPONENT-275",
   "1COMPONENT-276;1COMPONENT-277;1COMPONENT-278;1COMPONENT-279;1COMPONENT-280;1COMPONENT-281",
   "1COMPONENT-282;1COMPONENT-283;1COMPONENT-284;1COMPONENT-285;1COMPONENT-286;1COMPONENT-287",
   "1COMPONENT-288;1COMPONENT-289;1COMPONENT-290;1COMPONENT-291;1COMPONENT-292;1COMPONENT-293",
   "1COMPONENT-294;1COMPONENT-295;1COMPONENT-296;1COMPONENT-297;1COMPONENT-298;1COMPONENT-299",
   "1COMPONENT-300;1COMPONENT-301;1COMPONENT-302;1COMPONENT-303;1COMPONENT-304;1COMPONENT-305",
   "1COMPONENT-306;1COMPONENT-307;1COMPONENT-308;1COMPONENT-309;1COMPONENT-310;1COMPONENT-311",
   "1COMPONENT-312;1COMPONENT-313;1COMPONENT-314;1COMPONENT-315;1COMPONENT-316;1COMPONENT-317",
   "1COMPONENT-318;1COMPONENT-319;1COMPONENT-320;1COMPONENT-321;1COMPONENT-322;1COMPONENT-323",
   "1COMPONENT-324;1COMPONENT-325;1COMPONENT-326;1COMPONENT-327;1COMPONENT-328;1COMPONENT-329",
   "1COMPONENT-330;1COMPONENT-331;1COMPONENT-332;1COMPONENT-333;1COMPONENT-334;1COMPONENT-335",
   "1COMPONENT-336;1COMPONENT-337;1COMPONENT-338;1COMPONENT-339;1COMPONENT-340;1COMPONENT-341",
   "1COMPONENT-342;1COMPONENT-343;1COMPONENT-344;1COMPONENT-345;1COMPONENT-346;1COMPONENT-347",
   "1COMPONENT-348;1COMPONENT-349;1COMPONENT-350;1COMPONENT-351;1COMPONENT-352;1COMPONENT-353",
   "1COMPONENT-354;1COMPONENT-355;1COMPONENT-356;1COMPONENT-357;1COMPONENT-358;1COMPONENT-359",
   "1COMPONENT-360;1COMPONENT-361;1COMPONENT-362;1COMPONENT-363;1COMPONENT-364;1COMPONENT-365",
   "1COMPONENT-366;1COMPONENT-367;1COMPONENT-368;1COMPONENT-369;1COMPONENT-370;1COMPONENT-371",
   "1COMPONENT-372;1COMPONENT-373;1COMPONENT-374;1COMPONENT-375;1COMPONENT-376;1COMPONENT-377",
   "1COMPONENT-378;1COMPONENT-379;1COMPONENT-380;1COMPONENT-381;1COMPONENT-382;1COMPONENT-383",
   "1COMPONENT-384;1COMPONENT-385;1COMPONENT-386;1COMPONENT-387;1COMPONENT-388;1COMPONENT-389",
   "1COMPONENT-390;1COMPONENT-391;1COMPONENT-392;1COMPONENT-393;1COMPONENT-394;1COMPONENT-395",
   "1COMPONENT-396;1COMPONENT-397;1COMPONENT-398;1COMPONENT-399;1COMPONENT-400;1COMPONENT-401",
   "1COMPONENT-402;1COMPONENT-403;1COMPONENT-404;1COMPONENT-405;1COMPONENT-406;1COMPONENT-407",
   "1COMPONENT-408;1COMPONENT-409;1COMPONENT-410;1COMPONENT-411;1COMPONENT-412;1COMPONENT-413",
   "1COMPONENT-414;1COMPONENT-415;1COMPONENT-416;1COMPONENT-417;1COMPONENT-418;1COMPONENT-419",
   "1COMPONENT-420;1COMPONENT-421;1COMPONENT-422;1COMPONENT-423;1COMPONENT-424;1COMPONENT-425",
   "1COMPONENT-426;1COMPONENT-427;1COMPONENT-428;1COMPONENT-429;1COMPONENT-430;1COMPONENT-431",
   "1COMPONENT-432;1COMPONENT-433;1COMPONENT-434;1COMPONENT-435;1COMPONENT-436;1COMPONENT-437",
   "1COMPONENT-438;1COMPONENT-439;1COMPONENT-440;1COMPONENT-441;1COMPONENT-442;1COMPONENT-443",
   "1COMPONENT-444;1COMPONENT-445;1COMPONENT-446;1COMPONENT-447;1COMPONENT-448;1COMPONENT-449",
   "1COMPONENT-450;1COMPONENT-451;1COMPONENT-452;1COMPONENT-453;1COMPONENT-454;1COMPONENT-455",
   "1COMPONENT-456;1COMPONENT-457;1COMPONENT-458;1COMPONENT-459;1COMPONENT-460;1COMPONENT-461",
   "1COMPONENT-462;1COMPONENT-463;1COMPONENT-464;1COMPONENT-465;1COMPONENT-466;1COMPONENT-467",
   "1COMPONENT-468;1COMPONENT-469;1COMPONENT-470;1COMPONENT-471;1COMPONENT-472;1COMPONENT-473",
   "1COMPONENT-474;1COMPONENT-475;1COMPONENT-476;1COMPONENT-477;1COMPONENT-478;1COMPONENT-479",
   "1COMPONENT-480;1COMPONENT-481;1COMPONENT-482;1COMPONENT-483;1COMPONENT-484;1COMPONENT-485",
   "1COMPONENT-486;1COMPONENT-487;1COMPONENT-488;1COMPONENT-489;1COMPONENT-490;1COMPONENT-491",
   "1COMPONENT-492;1COMPONENT-493;1COMPONENT-494;1COMPONENT-495;1COMPONENT-496;1COMPONENT-497",
   "1COMPONENT-498;1COMPONENT-499;1COMPONENT-500;1COMPONENT-501;1COMPONENT-502;1COMPONENT-503",
   "1COMPONENT-504;1COMPONENT-505;1COMPONENT-506;1COMPONENT-507;1COMPONENT-508;1COMPONENT-509",
   "1COMPONENT-510;1COMPONENT-511;1COMPONENT-512;1COMPONENT-513;1COMPONENT-514;1COMPONENT-515",
   "1COMPONENT-516;1COMPONENT-517;1COMPONENT-518;1COMPONENT-519;1COMPONENT-520;1COMPONENT-521",
   "1COMPONENT-522;1COMPONENT-523;1COMPONENT-524;1COMPONENT-525;1COMPONENT-526;1COMPONENT-527",
   "1COMPONENT-528;1COMPONENT-529;1COMPONENT-530;1COMPONENT-531;1COMPONENT-532;1COMPONENT-533",
   "1COMPONENT-534;1COMPONENT-535;1COMPONENT-536;1COMPONENT-537;1COMPONENT-538;1COMPONENT-539",
   "1COMPONENT-540;1COMPONENT-541;1COMPONENT-542;1COMPONENT-543;1COMPONENT-544;1COMPONENT-545",
   "1COMPONENT-546;1COMPONENT-547;1COMPONENT-548;1COMPONENT-549;1COMPONENT-550;1COMPONENT-551",
   "1COMPONENT-552;1COMPONENT-553;1COMPONENT-554;1COMPONENT-555;1COMPONENT-556;1COMPONENT-557",
   "1COMPONENT-558;1COMPONENT-559;1COMPONENT-560;1COMPONENT-561;1COMPONENT-562;1COMPONENT-563",
   "1COMPONENT-564;1COMPONENT-565;1COMPONENT-566;1COMPONENT-567;1COMPONENT-568;1COMPONENT-569",
   "1COMPONENT-570;1COMPONENT-571;1COMPONENT-572;1COMPONENT-573;1COMPONENT-574;1COMPONENT-575",
   "1COMPONENT-576;1COMPONENT-577;1COMPONENT-578;1COMPONENT-579;1COMPONENT-580;1COMPONENT-581",
   "1COMPONENT-582;1COMPONENT-583;1COMPONENT-584;1COMPONENT-585;1COMPONENT-586;1COMPONENT-587",
   "1COMPONENT-588;1COMPONENT-589;1COMPONENT-590;1COMPONENT-591;1COMPONENT-592;1COMPONENT-593",
   "1COMPONENT-594;1COMPONENT-595;1COMPONENT-596;1COMPONENT-597;1COMPONENT-598;1COMPONENT-599",
   "1COMPONENT-600;1COMPONENT-601;1COMPONENT-602;1COMPONENT-603;1COMPONENT-604;1COMPONENT-605",
   "1COMPONENT-606;1COMPONENT-607;1COMPONENT-608;1COMPONENT-609;1COMPONENT-610;1COMPONENT-611",
   "1COMPONENT-612;1COMPONENT-613;1COMPONENT-614;1COMPONENT-615;1COMPONENT-616;1COMPONENT-617",
   "1COMPONENT-618;1COMPONENT-619;1COMPONENT-620;1COMPONENT-621;1COMPONENT-622;1COMPONENT-623",
   "1COMPONENT-624;1COMPONENT-625;1COMPONENT-626;1COMPONENT-627;1COMPONENT-628;1COMPONENT-629",
   "1COMPONENT-630;1COMPONENT-631;1COMPONENT-632;1COMPONENT-633;1COMPONENT-634;1COMPONENT-635",
   "1COMPONENT-636;1COMPONENT-637;1COMPONENT-638;1COMPONENT-639;1COMPONENT-640;1COMPONENT-641",
   "1COMPONENT-642;1COMPONENT-643;1COMPONENT-644;1COMPONENT-645;1COMPONENT-646;1COMPONENT-647",
   "1COMPONENT-648;1COMPONENT-649;1COMPONENT-650;1COMPONENT-651;1COMPONENT-652;1COMPONENT-653",
   "1COMPONENT-654;1COMPONENT-655;1COMPONENT-656;1COMPONENT-657;1COMPONENT-658;1COMPONENT-659",
   "1COMPONENT-660;1COMPONENT-661;1COMPONENT-662;1COMPONENT-663;1COMPONENT-664;1COMPONENT-665",
   "1COMPONENT-666;1COMPONENT-667;1COMPONENT-668;1COMPONENT-669;1COMPONENT-670;1COMPONENT-671",
   "1COMPONENT-672;1COMPONENT-673;1COMPONENT-674;1COMPONENT-675;1COMPONENT-676;1COMPONENT-677",
   "1COMPONENT-678;1COMPONENT-679;1COMPONENT-680;1COMPONENT-681;1COMPONENT-682;1COMPONENT-683",
   "1COMPONENT-684;1COMPONENT-685;1COMPONENT-686;1COMPONENT-687;1COMPONENT-688;1COMPONENT-689",
   "1COMPONENT-690;1COMPONENT-691;1COMPONENT-692;1COMPONENT-693;1COMPONENT-694;1COMPONENT-695",
   "1COMPONENT-696;1COMPONENT-697;1COMPONENT-698;1COMPONENT-699;1COMPONENT-700;1COMPONENT-701",
   "1COMPONENT-702;1COMPONENT-703;1COMPONENT-704;1COMPONENT-705;1COMPONENT-706;1COMPONENT-707",
   "1COMPONENT-708;1COMPONENT-709;1COMPONENT-710;1COMPONENT-711;1COMPONENT-712;1COMPONENT-713",
   "1COMPONENT-714;1COMPONENT-715;1COMPONENT-716;1COMPONENT-717;1COMPONENT-718;1COMPONENT-719",
   "1COMPONENT-720;1COMPONENT-721;1COMPONENT-722;1COMPONENT-723;1COMPONENT-724;1COMPONENT-725",
   "1COMPONENT-726;1COMPONENT-727;1COMPONENT-728;1COMPONENT-729;1COMPONENT-730;1COMPONENT-731",
   "1COMPONENT-732;1COMPONENT-733;1COMPONENT-734;1COMPONENT-735;1COMPONENT-736;1COMPONENT-737",
   "1COMPONENT-738;1COMPONENT-739;1COMPONENT-740;1COMPONENT-741;1COMPONENT-742;1COMPONENT-743",
   "1COMPONENT-744;1COMPONENT-745;1COMPONENT-746;1COMPONENT-747;1COMPONENT-748;1COMPONENT-749",
   "1COMPONENT-750;1COMPONENT-751;1COMPONENT-752;1COMPONENT-753;1COMPONENT-754;1COMPONENT-755",
   "1COMPONENT-756;1COMPONENT-757;1COMPONENT-758;1COMPONENT-759;1COMPONENT-760;1COMPONENT-761",
   "1COMPONENT-762;1COMPONENT-763;1COMPONENT-764;1COMPONENT-765;1COMPONENT-766;1COMPONENT-767",
   "1COMPONENT-768;24F0+0ph b MINNAN qf;3re;3ue;3qg;1+3TONE-7;3TONE-8;3NASALIZED TONE-1;4qf;4re",
   "4ue;4qg;1+4TONE-7;4TONE-8;1+2kb E;0vd b kb YE;0HENTAIGANA b A-1;2A-2;2A-3;2A-WO;2I-1;2I-2;2I-3",
   "2I-4;2U-1;2U-2;2U-3;2U-4;2U-5;2E-2;2E-3;2E-4;2E-5;2E-6;2O-1;2O-2;2O-3;2KA-1;2KA-2;2KA-3;2KA-4",
   "2KA-5;2KA-6;2KA-7;2KA-8;2KA-9;2KA-10;2KA-11;2KA-KE;2KI-1;2KI-2;2KI-3;2KI-4;2KI-5;2KI-6;2KI-7",
   "2KI-8;2KU-1;2KU-2;2KU-3;2KU-4;2KU-5;2KU-6;2KU-7;2KE-1;2KE-2;2KE-3;2KE-4;2KE-5;2KE-6;2KO-1",
   "2KO-2;2KO-3;2KO-KI;2SA-1;2SA-2;2SA-3;2SA-4;2SA-5;2SA-6;2SA-7;2SA-8;2SI-1;2SI-2;2SI-3;2SI-4",
   "2SI-5;2SI-6;2SU-1;2SU-2;2SU-3;2SU-4;2SU-5;2SU-6;2SU-7;2SU-8;2SE-1;2SE-2;2SE-3;2SE-4;2SE-5",
   "2SO-1;2SO-2;2SO-3;2SO-4;2SO-5;2SO-6;2SO-7;2TA-1;2TA-2;2TA-3;2TA-4;2TI-1;2TI-2;2TI-3;2TI-4",
   "2TI-5;2TI-6;2TI-7;2TU-1;2TU-2;2TU-3;2TU-4;2TU-TO;2TE-1;2TE-2;2TE-3;2TE-4;2TE-5;2TE-6;2TE-7",
   "2TE-8;2TE-9;2TO-1;2TO-2;2TO-3;2TO-4;2TO-5;2TO-6;2TO-RA;2NA-1;2NA-2;2NA-3;2NA-4;2NA-5;2NA-6",
   "2NA-7;2NA-8;2NA-9;2NI-1;2NI-2;2NI-3;2NI-4;2NI-5;2NI-6;2NI-7;2NI-TE;2NU-1;2NU-2;2NU-3;2NE-1",
   "2NE-2;2NE-3;2NE-4;2NE-5;2NE-6;2NE-KO;2NO-1;2NO-2;2NO-3;2NO-4;2NO-5;2HA-1;2HA-2;2HA-3;2HA-4",
   "2HA-5;2HA-6;2HA-7;2HA-8;2HA-9;2HA-10;2HA-11;2HI-1;2HI-2;2HI-3;2HI-4;2HI-5;2HI-6;2HI-7;2HU-1",
   "2HU-2;2HU-3;2HE-1;2HE-2;2HE-3;2HE-4;2HE-5;2HE-6;2HE-7;2HO-1;2HO-2;2HO-3;2HO-4;2HO-5;2HO-6",
   "2HO-7;2HO-8;2MA-1;2MA-2;2MA-3;2MA-4;2MA-5;2MA-6;2MA-7;2MI-1;2MI-2;2MI-3;2MI-4;2MI-5;2MI-6",
   "2MI-7;2MU-1;2MU-2;2MU-3;2MU-4;2ME-1;2ME-2;2ME-MA;2MO-1;2MO-2;2MO-3;2MO-4;2MO-5;2MO-6;2YA-1",
   "2YA-2;2YA-3;2YA-4;2YA-5;2YA-YO;2YU-1;2YU-2;2YU-3;2YU-4;2YO-1;2YO-2;2YO-3;2YO-4;2YO-5;2YO-6",
   "2RA-1;2RA-2;2RA-3;2RA-4;2RI-1;2RI-2;2RI-3;2RI-4;2RI-5;2RI-6;2RI-7;2RU-1;2RU-2;2RU-3;2RU-4",
   "2RU-5;2RU-6;2RE-1;2RE-2;2RE-3;2RE-4;2RO-1;2RO-2;2RO-3;2RO-4;2RO-5;2RO-6;2WA-1;2WA-2;2WA-3",
   "2WA-4;2WA-5;2WI-1;2WI-2;2WI-3;2WI-4;2WI-5;2WE-1;2WE-2;2WE-3;2WE-4;2WO-1;2WO-2;2WO-3;2WO-4",
   "2WO-5;2WO-6;2WO-7;2N-MU-MO-1;2N-MU-MO-2;0vd b kb WU;0ph b kb YI;3YE;3WU;2D+0vd b c WI;3WE;3WO",
   "11+0ph b c WI;3WE;3WO;3N;A98+0DUPLOYAN b H;2X;2P;2T;2F;2K;2L;2B;2D;2V;2G;2R;2P N;2D S;2F N",
   "2K M;2R S;2TH;2SLOAN DH;2DH;2KK;2SLOAN J;2HL;2LH;2RH;2M;2N;2J;2S;2M N;2N M;2J M;2S J;2M a q",
   "2N a q;2J a q;4aw kd g j;2S a q;5m;2M S;2N S;2J S;2S S;2M N S;2N M S;2J M S;2S J S;2J S a q;3N",
   "4S;2S T;4R;3P;4R;2T S;3R S;2W;2WH;2W R;2S N;3M;2K R S;2G R S;2S K;4R;2A;2SLOAN OW;2OA;2O;2AOU",
   "2I;2E;2IE;2eb I;2UI;2EE;2SLOAN EH;2ROMANIAN I;2SLOAN EE;2cb I;2YE;2U;2EU;2XW;2U N;2cb U",
   "2ROMANIAN U;2UH;2SLOAN U;2OOH;2OW;2OU;2WA;2WO;2WI;2WEI;2WOW;2NASAL U;3O;3I;3A;2PERNIN AN;3AM",
   "2SLOAN EN;3AN;3ON;2dj M;5+1AFFIX k bf tf;2MID bf tf;2i bf tf;2bn af tf;2MID af tf;2ci af tf",
   "2uy tf;3vx tf;3TANGENT;3dq;3E x;3I x;3TANGENT x;3+2ci bp;3TIGHT bp;3cq;3cb cq;3q;3av;3cs;3jo",
   "3af;7+2bn bp;3TIGHT bp;3cq;3cb cq;3q;3av;3cs;3jo;3af;3h;2+1f O a em;1THICK b SELECTOR;1p r",
   "1eu CHINOOK ec ck;0SHORTHAND FORMAT b OVERLAP;2CONTINUING OVERLAP;2aq STEP;2UP STEP",
   "125C+0ZNAMENNY fi r GORAZDO NIZKO S om ON k;3NIZKO S om ON k;3TSATA ON k;3GORAZDO NIZKO ON k",
   "3NIZKO ON k;3SREDNE ON k;3MALO on ON k;3on ON k;3VYSOKO ON k;3MALO on S vf ON k;3on S vf ON k",
   "3VYSOKO S vf ON k;3GORAZDO NIZKO S om ON i;3NIZKO S om ON i;3TSATA ON i;3GORAZDO NIZKO ON i",
   "3NIZKO ON i;3SREDNE ON i;3MALO on ON i;3on ON i;3VYSOKO ON i;3MALO on S vf ON i;3on S vf ON i",
   "3VYSOKO S vf ON i;3TSATA S om;3MALO on S om;3STRANNO MALO on;3on S om;4STRANNO;3VYSOKO S om",
   "3MALO on STRANNO;3GORAZDO VYSOKO;3ZELO;3ON;3RAVNO;3TIKHAYA;3BORZAYA;3UDARKA;3PODVERTKA;3LOMKA",
   "3KUPNAYA;3KACHKA;3ZEVOK;3SKOBA;3RAZSEKA;3KRYZH ON k;2+2TONAL RANGE r MRACHNO;5SVETLO",
   "5TRESVETLO;2r ZADERZHKA;3DEMESTVENNY ZADERZHKA;3OTSECHKA;3PODCHASHIE;4a af y;3CHASHKA;4POLNAYA",
   "3OBLACHKO;3SOROCHYA NOZHKA;3TOCHKA;3DVOETOCHIE;2ATTACHING af OMET;2r pm OMET;3KRYZH",
   "2bl TONAL RANGE rp;1PRIZNAK gv LEVEL-2;3LEVEL-3;3DIRECTION FLIP;3KRYZH;3ROG;9+1NEUME KRYUK",
   "3TIKHY;2PARAKLIT;2DVA V CHELNU;2KLYUCH;2ZANOZHEK;2STOPITSA;3S OCHKOM;2PEREVODKA;3vw",
   "2STOPITSA a SOROCHYA NOZHKA;2CHELYUSTKA;2PALKA;2ry;2GOLUBCHIK BORZY;3TIKHY;3MRACHNY;3SVETLY",
   "3TRESVETLY;2VRAKHIYA PROSTAYA;3MRACHNAYA;3sm;3xz;3ti PROSTAYA;4MRACHNAYA;4sm;4xz;2p ry",
   "2cf CHELYUSTKA;2DERBITSA;2KHAMILO;2CHASHKA;2PODCHASHIE;2SKAMEYTSA MRACHNAYA;3sm;3xz;3TIKHAYA",
   "2DEMESTVENNY KLYUCH;2SKAMEYTSA ti sm;3zr;3ti TIKHAYA;3zn PROSTAYA;4sm;4vw;4ti;2SLOZHITIE;3S vg",
   "3ZAKRYTOE;3S om;2KRYZH;2ROG;2FITA;2KOBYLA;2ZMEYTSA;2STATYA;3S vg;4om;4vg I om;4om I vg",
   "3ZAKRYTAYA;4S vg;3S ROGOM;4DVUMYA ZAPYATYMI;4vg I PODCHASHIEM;2POLKULIZMY;2STATYA vw",
   "2STRELA PROSTAYA;3MRACHNOTIKHAYA;3KRYZHEVAYA;3POLUPOVODNAYA;3POVODNAYA;3vw;3KLYUCHEPOVODNAYA",
   "3zr;3TIKHAYA PUTNAYA;3zn;3DVOECHELNOKRYZHEVAYA;3zt;3zn ti;3zt ti;3GROMNAYA a cp ry;3xe a cp ry",
   "3GROMNAYA;3xe;4a p ry;3GROMOKRYZHEVAYA;4POVODNAYA;2MECHIK;3POVODNY;3KLYUCHEVOY;3KLYUCHEPOVODNY",
   "3KLYUCHENEPOSTOYANNY;2STRELA TRYASOGLASNAYA;3TRYASOPOVODNAYA;3TRYASOSTRELNAYA;2OSOKA;3sm;3xz",
   "3KRYUKOVAYA sm;3ti sm;4vw;2STRELA KRYUKOVAYA;4POVODNAYA;4GROMNAYA a cp ry;4xe a cp ry",
   "4GROMNAYA;4xe;5a p ry;4GROMOKRYZHEVAYA;5POVODNAYA;4TRYASKA;2KUFISMA;2OBLAKO;2DUDA;2NEMKA;2PAUK",
   "3C+0BYZANTINE ol z cg;3DASEIA;3er;3OXEIA ya;4DIPLI;3VAREIA ya;4DIPLI;3KATHISTI;3SYRMATIKI",
   "3PARAKLITIKI;3YPOKRISIS;4DIPLI;3KREMASTI;3APESO ya;3EXO ya;3TELEIA;3wh;3APOSTROFOS;4DIPLI",
   "3SYNEVMA;3THITA;3OLIGON ka;3GORGON ka;3PSILON;3CHAMILON;3VATHY;3ISON ka;3KENTIMA ka;3wh ka",
   "3SAXIMATA;3PARICHON;3STAVROS APODEXIA;3OXEIAI ka;3VAREIAI ka;3APODERMA ka;3APOTHEMA;3KLASMA",
   "3REVMA;3PIASMA ka;3TINAGMA;3ANATRICHISMA;3SEISMA;3SYNAGMA ka;4META STAVROU;3OYRANISMA ka",
   "3THEMA;3LEMOI;3DYO;3TRIA;3TESSERA;3KRATIMATA;3APESO EXO hz;3FTHORA ka;3IMIFTHORA;3TROMIKON ka",
   "3KATAVA TROMIKON;3PELASTON;3PSIFISTON;3KONTEVMA;3CHOREVMA ka;3RAPISMA;3PARAKALESMA ka",
   "3PARAKLITIKI ka;3ICHADIN;3NANA;3PETASMA;3KONTEVMA ALLO;3TROMIKON ALLO;3STRAGGISMATA",
   "3GRONTHISMATA;3ISON hz;3OLIGON hz;3OXEIA hz;3PETASTI;3KOUFISMA;3PETASTOKOUFISMA",
   "3KRATIMOKOUFISMA;3PELASTON hz;3wh hz ANO;3KENTIMA hz ANO;3YPSILI;3APOSTROFOS hz",
   "3APOSTROFOI SYNDESMOS hz;3YPORROI;3KRATIMOYPORROON;3ELAFRON;3CHAMILI;3MIKRON ISON;3VAREIA hz",
   "3PIASMA hz;3PSIFISTON hz;3OMALON;3ANTIKENOMA;3LYGISMA;3PARAKLITIKI hz;3PARAKALESMA hz",
   "3ETERON PARAKALESMA;3KYLISMA;3ANTIKENOKYLISMA;3TROMIKON hz;3EKSTREPTON;3SYNAGMA hz;3SYRMA",
   "3CHOREVMA hz;3EPEGERMA;3SEISMA hz;3XIRON KLASMA;3TROMIKOPSIFISTON;3PSIFISTOLYGISMA",
   "3TROMIKOLYGISMA;3TROMIKOPARAKALESMA;3PSIFISTOPARAKALESMA;3TROMIKOSYNAGMA;3PSIFISTOSYNAGMA",
   "3GORGOSYNTHETON;3ARGOSYNTHETON;3ETERON ARGOSYNTHETON;3OYRANISMA hz;3THEMATISMOS ESO;4EXO",
   "3THEMA APLOUN;3THES KAI APOTHES;3KATAVASMA;3ENDOFONON;3YFEN KATO;4ANO;3STAVROS;3KLASMA ANO",
   "3DIPLI ka;3KRATIMA ka;4ALLO;4hz;3APODERMA hz;3APLI;3DIPLI;3TRIPLI;3TETRAPLI;3KORONIS",
   "3LEIMMA ENOS CHRONOU;4DYO CHRONON;4TRION CHRONON;4TESSARON CHRONON;4IMISEOS CHRONOU",
   "3GORGON hz ANO;4PARESTIGMENON ARISTERA;5DEXIA;3DIGORGON;4PARESTIGMENON ARISTERA KATO;6ANO",
   "5DEXIA;3TRIGORGON;3ARGON;3IMIDIARGON;3DIARGON;3AGOGI POLI ARGI;4ARGOTERI;4ARGI;4METRIA;4MESI",
   "4GORGI;4GORGOTERI;4POLI GORGI;3MARTYRIA PROTOS od;4ALLI PROTOS od;4DEYTEROS od",
   "4ALLI DEYTEROS od;4TRITOS od;4TRIFONIAS;4TETARTOS od;5LEGETOS od;4LEGETOS od;4PLAGIOS od",
   "3ISAKIA TELOUS ICHIMATOS;3APOSTROFOI TELOUS ICHIMATOS;3FANEROSIS TETRAFONIAS;4MONOFONIAS",
   "4DIFONIAS;3MARTYRIA VARYS od;4PROTOVARYS od;4PLAGIOS TETARTOS od;3GORTHMIKON N APLOUN;5DIPLOUN",
   "3ENARXIS KAI FTHORA VOU;3IMIFONON;3IMIFTHORON;3FTHORA ka DEYTEROU ICHOU;4DIATONIKI PA;5NANA",
   "4NAOS od;4DIATONIKI DI;4SKLIRON DIATONON DI;4DIATONIKI KE;5ZO;5NI KATO;6ANO",
   "4MALAKON CHROMA DIFONIAS;6MONOFONIAS;3FHTORA SKLIRON CHROMA VASIS",
   "3FTHORA SKLIRON CHROMA SYNAFI;4NENANO;3CHROA ZYGOS;4KLITON;4SPATHI",
   "3FTHORA I YFESIS TETARTIMORION;4ENARMONIOS ANTIFONIA;3YFESIS TRITIMORION;3DIESIS TRITIMORION",
   "4TETARTIMORION;4APLI DYO sn;4MONOGRAMMOS TESSERA sn;4DIGRAMMOS EX sn;4TRIGRAMMOS OKTO sn",
   "3YFESIS APLI DYO sn;4MONOGRAMMOS TESSERA sn;4DIGRAMMOS EX sn;4TRIGRAMMOS OKTO sn",
   "3GENIKI DIESIS;4YFESIS;3DIASTOLI APLI MIKRI;5MEGALI;4DIPLI;4THESEOS;3SIMANSIS THESEOS;5DISIMOU",
   "5TRISIMOU;5TETRASIMOU;4ARSEOS;5DISIMOU;5TRISIMOU;5TETRASIMOU;3DIGRAMMA GG;3DIFTOGGOS OU",
   "3STIGMA;3ARKTIKO PA;4VOU;4GA;4DI;4KE;4ZO;4NI;3wh hz MESO;3KENTIMA hz MESO;3wh hz KATO",
   "3KENTIMA hz KATO;3KLASMA KATO;3GORGON hz KATO;A+0ol z cp vr;2p vr;2n vr;2jq n vr;2nx vr;2eb vr",
   "2k REPEAT f;2i REPEAT f;2REPEAT aw;2DAL SEGNO;2DA CAPO;2SEGNO;2CODA;2REPEATED FIGURE-1",
   "3FIGURE-2;3FIGURE-3;2FERMATA;3m;2BREATH r;2CAESURA;2BRACE;2as;2ONE-LINE STAFF;2TWO-LINE STAFF",
   "2THREE-LINE STAFF;2FOUR-LINE STAFF;2FIVE-LINE STAFF;2SIX-LINE STAFF;2SIX-STRING FRETBOARD",
   "2FOUR-STRING FRETBOARD;2G CLEF;4OTTAVA ALTA;5BASSA;2C CLEF;2F CLEF;4OTTAVA ALTA;5BASSA",
   "2DRUM CLEF-1;3CLEF-2;2+2nm vq kv;2p SHARP;3FLAT;2FLAT UP;3aq;2NATURAL UP;3aq;2SHARP UP;3aq",
   "2gf bx SHARP;4FLAT;2COMMON TIME;2CUT TIME;2OTTAVA ALTA;3BASSA;2QUINDICESIMA ALTA;3BASSA",
   "2MULTI kv;2WHOLE kv;2ao kv;2gf kv;2ht kv;2ut kv;2zd kv;2zm kv;2o ap TWENTY-EIGHTH kv;2X ok",
   "2al ok;2av X ok;2at ok v;4t;2bk ok UP v;5t;4k v;5t;4i v;5t;4aq v;5t;4UP i v;6t;2ig ok v;4t",
   "2TRIANGLE-ROUND ok aq v;5t;2ew ok;2VOID ok;2ok t;2NULL ok;2CLUSTER ok v;4t;2do;2WHOLE jv",
   "2ao jv;2gf jv;2ht jv;2ut jv;2zd jv;2zm jv;2o ap TWENTY-EIGHTH jv;2fi STEM;3SPRECHGESANG STEM",
   "3TREMOLO-1;3TREMOLO-2;3TREMOLO-3;2FINGERED TREMOLO-1;3TREMOLO-2;3TREMOLO-3;2fi AUGMENTATION q",
   "3FLAG-1;3FLAG-2;3FLAG-3;3FLAG-4;3FLAG-5;2BEGIN BEAM;2gz BEAM;2BEGIN TIE;2gz TIE;2BEGIN SLUR",
   "2gz SLUR;2BEGIN PHRASE;2gz PHRASE;2fi fj;3STACCATO;3TENUTO;3STACCATISSIMO;3MARCATO",
   "3MARCATO-STACCATO;3ACCENT-STACCATO;3LOURE;2ARPEGGIATO UP;3aq;2fi DOIT;3RIP;3FLIP;3SMEAR;3BEND",
   "3p uj;3el uj;2RINFORZANDO;2SUBITO;2Z;2PIANO;2MEZZO;2FORTE;2CRESCENDO;2DECRESCENDO;2GRACE jv ls",
   "4NO ls;2TR;2TURN;2cu TURN;2TURN ls;3UP;2dw STROKE-1;3STROKE-2;3STROKE-3;3STROKE-4;3STROKE-5",
   "3STROKE-6;3STROKE-7;3STROKE-8;3STROKE-9;3STROKE-10;3STROKE-11;2HAUPTSTIMME;2NEBENSTIMME",
   "2gz OF STIMME;2DEGREE ls;2fi aq BOW;3UP BOW;3HARMONIC;3SNAP PIZZICATO;2PEDAL r;3UP r",
   "2ao PEDAL r;2GLISSANDO UP;3aq;2a FINGERNAILS;2DAMP;3ALL;2MAXIMA;2LONGA;2BREVIS;2SEMIBREVIS v",
   "3t;2MINIMA;3t;2SEMIMINIMA v;3t;2FUSA v;3t;2LONGA PERFECTA kv;3IMPERFECTA kv;2BREVIS kv",
   "2SEMIBREVIS kv;2MINIMA kv;2SEMIMINIMA kv;2TEMPUS PERFECTUM CUM PROLATIONE PERFECTA;6IMPERFECTA",
   "6PERFECTA DIMINUTION-1;3IMPERFECTUM CUM PROLATIONE PERFECTA;6IMPERFECTA;7DIMINUTION-1",
   "7DIMINUTION-2;7DIMINUTION-3;2CROIX;2GREGORIAN C CLEF;3F CLEF;2at B;2VIRGA;2PODATUS;2CLIVIS",
   "2SCANDICUS;2CLIMACUS;2TORCULUS;2PORRECTUS;3FLEXUS;2SCANDICUS FLEXUS;2TORCULUS RESUPINUS",
   "2PES SUBPUNCTIS;2KIEVAN C CLEF;3gz OF PIECE;3n jv;3RECITATIVE r;3WHOLE jv;3ao jv",
   "3gf jv STEM aq;6UP;3ht jv STEM aq;6UP;3FLAT f;2SORI;2KORON;15+0im VOCAL sg SYMBOL-1;3SYMBOL-2",
   "3SYMBOL-3;3SYMBOL-4;3SYMBOL-5;3SYMBOL-6;3SYMBOL-7;3SYMBOL-8;3SYMBOL-9;3SYMBOL-10;3SYMBOL-11",
   "3SYMBOL-12;3SYMBOL-13;3SYMBOL-14;3SYMBOL-15;3SYMBOL-16;3SYMBOL-17;3SYMBOL-18;3SYMBOL-19",
   "3SYMBOL-20;3SYMBOL-21;3SYMBOL-22;3SYMBOL-23;3SYMBOL-24;3SYMBOL-50;3SYMBOL-51;3SYMBOL-52",
   "3SYMBOL-53;3SYMBOL-54;1INSTRUMENTAL sg SYMBOL-1;3SYMBOL-2;3SYMBOL-4;3SYMBOL-5;3SYMBOL-7",
   "3SYMBOL-8;3SYMBOL-11;3SYMBOL-12;3SYMBOL-13;3SYMBOL-14;3SYMBOL-17;3SYMBOL-18;3SYMBOL-19",
   "3SYMBOL-23;3SYMBOL-24;3SYMBOL-25;3SYMBOL-26;3SYMBOL-27;3SYMBOL-29;3SYMBOL-30;3SYMBOL-32",
   "3SYMBOL-36;3SYMBOL-37;3SYMBOL-38;3SYMBOL-39;3SYMBOL-40;3SYMBOL-42;3SYMBOL-43;3SYMBOL-45",
   "3SYMBOL-47;3SYMBOL-48;3SYMBOL-49;3SYMBOL-50;3SYMBOL-51;3SYMBOL-52;3SYMBOL-53;3SYMBOL-54",
   "0fi im ol TRISEME;3TETRASEME;3PENTASEME;0im ol LEIMMA;9A+0MAYAN pv bt;2o;2l;2s;2w;2aa;2ag;2an",
   "2ah;2ar;2cc;2or;2nb;2sh;2si;2pj;2px;2rv;2qx;2sj;C+0vb fp nf;0DIGRAM fp HEAVENLY nf;2HUMAN nf",
   "2EARTHLY HEAVEN;3HUMAN;2nf;0TETRAGRAM fp dn;2ec av;2MIRED;2BARRIER;2KEEPING c;2CONTRARIETY",
   "2ASCENT;2OPPOSITION;2BRANCHING OUT;2DEFECTIVENESS OR DISTORTION;2DIVERGENCE;2YOUTHFULNESS",
   "2INCREASE;2PENETRATION;2REACH;2vs;2vo BACK;2WAITING;2FOLLOWING;2ADVANCE;2RELEASE;2RESISTANCE",
   "2EASE;2JOY;2CONTENTION;2ENDEAVOUR;2DUTIES;2CHANGE;2DECISIVENESS;2hi RESOLUTION;2PACKING",
   "2LEGION;2CLOSENESS;2KINSHIP;2GATHERING;2STRENGTH;2PURITY;2FULLNESS;2RESIDENCE;2LAW OR MODEL",
   "2RESPONSE;2GOING TO MEET;2ENCOUNTERS;2STOVE;2GREATNESS;2ENLARGEMENT;2PATTERN;2RITUAL;2FLIGHT",
   "2VASTNESS OR WASTING;2CONSTANCY;2vq;2ETERNITY;2UNITY;2DIMINISHMENT;2fz jr;2GUARDEDNESS",
   "2GATHERING IN;2MASSING;2ACCUMULATION;2EMBELLISHMENT;2DOUBT;2WATCH;2SINKING;2INNER;2DEPARTURE",
   "2DARKENING;2DIMMING;2EXHAUSTION;2SEVERANCE;2STOPPAGE;2HARDNESS;2COMPLETION;2CLOSURE;2FAILURE",
   "2AGGRAVATION;2COMPLIANCE;2ON fr VERGE;2DIFFICULTIES;2LABOURING;2FOSTERING",
   "9+0COUNTING ROD UNIT bh o;4l;4s;4w;4aa;4ag;4an;4ah;4ar;2TENS bh o;4l;4s;4w;4aa;4ag;4an;4ah;4ar",
   "0ma TALLY r o;3l;3s;3w;3aa;0TALLY r o;2aa;87+0ul hi e A;3B;3C;3D;3E;3F;3G;3H;3I;3J;3K;3L;3M;3N",
   "3O;3P;3Q;3R;3S;3T;3U;3V;3W;3X;3Y;3Z;2c A;3B;3C;3D;3E;3F;3G;3H;3I;3J;3K;3L;3M;3N;3O;3P;3Q;3R;3S",
   "3T;3U;3V;3W;3X;3Y;3Z;1pl e A;3B;3C;3D;3E;3F;3G;3H;3I;3J;3K;3L;3M;3N;3O;3P;3Q;3R;3S;3T;3U;3V;3W",
   "3X;3Y;3Z;2c A;3B;3C;3D;3E;3F;3G;1+3I;3J;3K;3L;3M;3N;3O;3P;3Q;3R;3S;3T;3U;3V;3W;3X;3Y;3Z",
   "1hi pl e A;4B;4C;4D;4E;4F;4G;4H;4I;4J;4K;4L;4M;4N;4O;4P;4Q;4R;4S;4T;4U;4V;4W;4X;4Y;4Z;3c A;4B",
   "4C;4D;4E;4F;4G;4H;4I;4J;4K;4L;4M;4N;4O;4P;4Q;4R;4S;4T;4U;4V;4W;4X;4Y;4Z;1ix e A;1+3C;3D;2+3G",
   "2+3J;3K;2+3N;3O;3P;3Q;1+3S;3T;3U;3V;3W;3X;3Y;3Z;2c A;3B;3C;3D;1+3F;1+3H;3I;3J;3K;3L;3M;3N;1+3P",
   "3Q;3R;3S;3T;3U;3V;3W;3X;3Y;3Z;1hi ix e A;4B;4C;4D;4E;4F;4G;4H;4I;4J;4K;4L;4M;4N;4O;4P;4Q;4R;4S",
   "4T;4U;4V;4W;4X;4Y;4Z;3c A;4B;4C;4D;4E;4F;4G;4H;4I;4J;4K;4L;4M;4N;4O;4P;4Q;4R;4S;4T;4U;4V;4W;4X",
   "4Y;4Z;1FRAKTUR e A;3B;1+3D;3E;3F;3G;2+3J;3K;3L;3M;3N;3O;3P;3Q;1+3S;3T;3U;3V;3W;3X;3Y;1+2c A;3B",
   "3C;3D;3E;3F;3G;3H;3I;3J;3K;3L;3M;3N;3O;3P;3Q;3R;3S;3T;3U;3V;3W;3X;3Y;3Z;1pd e A;3B;1+3D;3E;3F",
   "3G;1+3I;3J;3K;3L;3M;1+3O;3+3S;3T;3U;3V;3W;3X;3Y;1+2c A;3B;3C;3D;3E;3F;3G;3H;3I;3J;3K;3L;3M;3N",
   "3O;3P;3Q;3R;3S;3T;3U;3V;3W;3X;3Y;3Z;1hi FRAKTUR e A;4B;4C;4D;4E;4F;4G;4H;4I;4J;4K;4L;4M;4N;4O",
   "4P;4Q;4R;4S;4T;4U;4V;4W;4X;4Y;4Z;3c A;4B;4C;4D;4E;4F;4G;4H;4I;4J;4K;4L;4M;4N;4O;4P;4Q;4R;4S;4T",
   "4U;4V;4W;4X;4Y;4Z;1iz e A;3B;3C;3D;3E;3F;3G;3H;3I;3J;3K;3L;3M;3N;3O;3P;3Q;3R;3S;3T;3U;3V;3W;3X",
   "3Y;3Z;2c A;3B;3C;3D;3E;3F;3G;3H;3I;3J;3K;3L;3M;3N;3O;3P;3Q;3R;3S;3T;3U;3V;3W;3X;3Y;3Z;2hi e A",
   "4B;4C;4D;4E;4F;4G;4H;4I;4J;4K;4L;4M;4N;4O;4P;4Q;4R;4S;4T;4U;4V;4W;4X;4Y;4Z;3c A;4B;4C;4D;4E;4F",
   "4G;4H;4I;4J;4K;4L;4M;4N;4O;4P;4Q;4R;4S;4T;4U;4V;4W;4X;4Y;4Z;2pl e A;4B;4C;4D;4E;4F;4G;4H;4I;4J",
   "4K;4L;4M;4N;4O;4P;4Q;4R;4S;4T;4U;4V;4W;4X;4Y;4Z;3c A;4B;4C;4D;4E;4F;4G;4H;4I;4J;4K;4L;4M;4N;4O",
   "4P;4Q;4R;4S;4T;4U;4V;4W;4X;4Y;4Z;2hi pl e A;5B;5C;5D;5E;5F;5G;5H;5I;5J;5K;5L;5M;5N;5O;5P;5Q;5R",
   "5S;5T;5U;5V;5W;5X;5Y;5Z;4c A;5B;5C;5D;5E;5F;5G;5H;5I;5J;5K;5L;5M;5N;5O;5P;5Q;5R;5S;5T;5U;5V;5W",
   "5X;5Y;5Z;1MONOSPACE e A;3B;3C;3D;3E;3F;3G;3H;3I;3J;3K;3L;3M;3N;3O;3P;3Q;3R;3S;3T;3U;3V;3W;3X",
   "3Y;3Z;2c A;3B;3C;3D;3E;3F;3G;3H;3I;3J;3K;3L;3M;3N;3O;3P;3Q;3R;3S;3T;3U;3V;3W;3X;3Y;3Z",
   "1pl c my I;4J;2+1hi e gg;3kg;3jl;3ju;3ib;3ZETA;3ETA;3in;3gq;3kq;3nd;3MU;3NU;3XI;3km;3PI;3hv",
   "3in z;3if;3TAU;3hm;3PHI;3CHI;3PSI;3fo;2NABLA;2c gg;3kg;3jl;3ju;3ib;3ZETA;3ETA;3in;3gq;3kq;3nd",
   "3MU;3NU;3XI;3km;3PI;3hv;3n if;3if;3TAU;3hm;3PHI;3CHI;3PSI;3fo;2vk um;2ib z;2in z;2kq z;2PHI z",
   "2hv z;2PI z;1pl e gg;3kg;3jl;3ju;3ib;3ZETA;3ETA;3in;3gq;3kq;3nd;3MU;3NU;3XI;3km;3PI;3hv;3in z",
   "3if;3TAU;3hm;3PHI;3CHI;3PSI;3fo;2NABLA;2c gg;3kg;3jl;3ju;3ib;3ZETA;3ETA;3in;3gq;3kq;3nd;3MU",
   "3NU;3XI;3km;3PI;3hv;3n if;3if;3TAU;3hm;3PHI;3CHI;3PSI;3fo;2vk um;2ib z;2in z;2kq z;2PHI z",
   "2hv z;2PI z;1hi pl e gg;4kg;4jl;4ju;4ib;4ZETA;4ETA;4in;4gq;4kq;4nd;4MU;4NU;4XI;4km;4PI;4hv",
   "4in z;4if;4TAU;4hm;4PHI;4CHI;4PSI;4fo;3NABLA;3c gg;4kg;4jl;4ju;4ib;4ZETA;4ETA;4in;4gq;4kq;4nd",
   "4MU;4NU;4XI;4km;4PI;4hv;4n if;4if;4TAU;4hm;4PHI;4CHI;4PSI;4fo;3vk um;3ib z;3in z;3kq z;3PHI z",
   "3hv z;3PI z;1iz hi e gg;4kg;4jl;4ju;4ib;4ZETA;4ETA;4in;4gq;4kq;4nd;4MU;4NU;4XI;4km;4PI;4hv",
   "4in z;4if;4TAU;4hm;4PHI;4CHI;4PSI;4fo;3NABLA;3c gg;4kg;4jl;4ju;4ib;4ZETA;4ETA;4in;4gq;4kq;4nd",
   "4MU;4NU;4XI;4km;4PI;4hv;4n if;4if;4TAU;4hm;4PHI;4CHI;4PSI;4fo;3vk um;3ib z;3in z;3kq z;3PHI z",
   "3hv z;3PI z;3pl e gg;5kg;5jl;5ju;5ib;5ZETA;5ETA;5in;5gq;5kq;5nd;5MU;5NU;5XI;5km;5PI;5hv;5in z",
   "5if;5TAU;5hm;5PHI;5CHI;5PSI;5fo;4NABLA;4c gg;5kg;5jl;5ju;5ib;5ZETA;5ETA;5in;5gq;5kq;5nd;5MU",
   "5NU;5XI;5km;5PI;5hv;5n if;5if;5TAU;5hm;5PHI;5CHI;5PSI;5fo;4vk um;4ib z;4in z;4kq z;4PHI z",
   "4hv z;4PI z;1hi e vi;2c vi;2+2bh bt;3o;3l;3s;3w;3aa;3ag;3an;3ah;3ar;1pd bh bt;3o;3l;3s;3w;3aa",
   "3ag;3an;3ah;3ar;1iz bh bt;3o;3l;3s;3w;3aa;3ag;3an;3ah;3ar;2hi bh bt;4o;4l;4s;4w;4aa;4ag;4an",
   "4ah;4ar;1MONOSPACE bh bt;3o;3l;3s;3w;3aa;3ag;3an;3ah;3ar;0SIGNWRITING hc be;1ky be;1tu be",
   "1wi be;1jw be;1oh be;1hc be gy;1ky be gy;1hc bw UNDER be gy;2be ic KNUCKLE;3CUPPED;3lq;4bn",
   "1ky be HINGE;1hc be ae;1ky be ae;1hc be ae gy;4ic KNUCKLES;4lq;3UP ae lq;3lq ae UP;3ae jx",
   "5be gy;5ae gy;5CUPPED;5lq;4nu;1ky be ae nu;1hc ae gy ay be;2be gy ay ae;3ae bw;1ky be ae bw",
   "1hc be ae is bw gy;4gy bw is;4bw gy;4lq ny bw ih;3UP ae lq bw ih;7jx;3lq ae UP bw ih",
   "3ae UP ny bw lb;4bw CUPPED;5ds;5HOOKED;5lq;2bw kz be ae is;2be ae jx bw ih;7jx;7gy",
   "2ae bw HOOKED be UP;2be bw HOOKED ae UP;3ae jx lq bw ih;4nu bw ih;4jx bw lb;5CUPPED bw lb",
   "2ae bw CUPPED be UP;2be bw CUPPED ae UP;2ae bw ds be UP;6lq;2be bw ANGLED OUT ae UP;5IN ae UP",
   "4ds ae UP;3ae bw jx lq;5ANGLED OUT;5ANGLED;2ae bw ANGLED OUT be UP;7nu;5be UP",
   "2be bw HOOKED ae lq;1HAND-FLAT w iw;4gy;4lq;4jx;5SPLIT;1HAND-CLAW w iw jx;1hc w iw jx gy",
   "1jw w iw jx;1HAND-FLAT aa iw ny;2HEEL aa iw ny;2aa iw ny w gy;2HEEL aa iw ny w gy;2aa iw ny gy",
   "2HEEL aa iw ny gy;2aa iw ny bw lb;1tu aa iw ny;5by;1jw aa iw ny by;1wi aa iw ny",
   "1HAND-FLAT aa iw ny lq;6bw ih;6NO bw;1HAND-FLAT;2kz PALM FACINGS;2HEEL;2bw ih;2HEEL bw ih",
   "2bw gy;3lb;2SPLIT be bw ih;3dn;4bw ih;6gy;3dm;1HAND-CLAW;2bw ih;2NO bw;2bw lb;1uv CURLICUE;1uv",
   "1tu by;1tu;2by bw ih;2bw ih;2by NO bw;2NO bw;2by bw lb;2bw lb;1xi by;1xi;1ky;1wi;2bw ih;2NO bw",
   "2bw lb;1jw by;3bw lb;1jw;2c;2by bw ih;2bw ih;2by NO bw;2NO bw;2bw ih TOUCHING be;3kz ae bi;1oh",
   "1hc be ae bi;1ky be ae bi;1jw be ae bi;1oh be ae bi;1jw dm;1hc be ae bi gy;5jx;1jw be ae bi jx",
   "1hc dm aq;4RIPPLE is;5pm;4OTHERS ds;3UP;2bw UNDER dm UP;1ky dm UP;1wi dm UP;1oh dm UP",
   "1hc dm ic KNUCKLE;3gy;3TOUCHES bw;3bw;1jw dm bw;1hc dm be bw;1jw dm be bw",
   "1oh dm be bw be bw OUT;6bw;1hc dm be;1ky dm be;1jw dm be;1oh dm be;1hc be ae dm;1ky be ae dm",
   "1jw be ae dm;2bi;1oh be ae dm;1hc be ae em dm;1ky be ae em dm;1hc bi aq;1jw bi aq be bw x ae",
   "1oh bi aq ae bw be em;1hc bi UP;3ic KNUCKLE;3dm;1ky bi dm;1wi bi dm;1oh bi dm;1hc bi ae;4jx",
   "4ic KNUCKLES;3be;3bw;1uv bi bw;1hc be bi dm;1ky be bi dm;1xi be bi dm ON;1uv be bi dm OUT;5IN",
   "5UNDER;1tu be bi dm;1jw be bi dm;1oh be bi dm OUT;4dm;1hc ae aq;1jw ae;1hc ae UP;1ky ae UP",
   "1hc ae ic KNUCKLE;3UP bw ih;1uv ae bw;1hc ae bw dm;3dm;3bi dm;1ky ae bi dm;1xi ae bi dm ON",
   "1tu ae bi dm;1jw ae bi dm;1oh ae bi dm OUT;5IN;4dm;1ky ae bi dm gy;1HAND-CLAW ae bi dm jx;6ih",
   "1uv ae bi dm jx OUT;6IN;5jx;1jw be lq;1hc be bw ih;1jw be bw ih;1hc be bw ih bw en;6jx;6gy",
   "5be gy;5BOTH gy;5be HINGE;4lb be is;6gy;4x;4CURLICUE;4ks bw kd;1HAND-CLAW be bw ks bw kd",
   "1hc be bw ks bw UNDER;4av;1tu be bw;4by;1jw be bw by;4co;3bw;4c;1oh be bw OUT;4IN;3bw;1hc bw",
   "3HEEL;3ih en;4jx;4gy;3lb;3kz be ae;4ae bi;4bi dm;3UNDER l iw;3ay l iw;3UNDER s iw;4w iw",
   "3ay w ic KNUCKLES;1hc;2HEEL;1TOUCH cp;2nm;2kz;1GRASP cp;2nm;2kz;1STRIKE cp;2nm;2kz;1BRUSH cp",
   "2nm;2kz;1RUB cp;2nm;2kz;1SURFACE SYMBOLS;2kz;1SQUEEZE co cp;2c cp;2co nm;2c nm;2yn",
   "1FLICK co cp;2c cp;2co nm;2c nm;2yn;1SQUEEZE FLICK kk;1MOVEMENT-HINGE UP aq co;4c;3yn;2aq yn",
   "2UP aq kk co;5c;2ih TO ih vc;1of tg vs;1oe tg vs;1of cp is c;4bq;4co;4rc;3pb FLEX;2p is",
   "3pb FLEX;3kk;4pb FLEX;2em;2el is so;3pb FLEX;3kk;4pb FLEX;2BEND c;3bq;3co;2gk c;3bq;3co",
   "3ROTATION;2oz c;3bq;3co;2hy c;3bq;3co;2sy c;3bq;3co;2PEAKS c;3bq;3co;1TRAVEL-WALLPLANE vu cp",
   "3p;3kk;2vt cp;3p;3kk;2SHAKING;2ARM SPIRAL cp;4p;4el;1MOVEMENT-DIAGONAL AWAY c;3bq;3co;3rc",
   "2TOWARDS c;3bq;3co;3rc;2kz AWAY c;4bq;4co;4rc;3TOWARDS c;4bq;4co;4rc;1oe cp is c;4bq;4co;4rc",
   "3pb FLEX;2p is;3pb FLEX;3kk;4pb FLEX;2em;2el is so;3pb FLEX;3kk so;4pb FLEX;2BEND;2gk c;3bq",
   "3co;2oz;2hy c;3bq;3co;2sy c;3bq;3co;2PEAKS c;3bq;3co;1TRAVEL-FLOORPLANE vt cp;3p;3kk;2vu cp;3p",
   "3kk;2SHAKING;1of ks gf c;4bq;4co;4rc;3HALF-CIRCLE c;4bq;4co;4rc;3THREE-QUARTER av c;5bq",
   "2HUMP c;3bq;3co;2kt c;3bq;3co;3c p;2jo ks p c;5bq;5co;4el c;5bq;5co;2ks THEN is;2pm em c;4bq",
   "1vu cp;2p;2jb;1of SHAKING;2ks go FRONT WALL;2HUMP go FRONT WALL;2kt go FRONT WALL",
   "2jo go FRONT WALL;1vu cp go FRONT WALL;2p go FRONT WALL;2kk go FRONT WALL;1of ks go CHEST",
   "2HUMP go CHEST;2kt go CHEST;2jo go CHEST;1vu cp go CHEST;2p go CHEST;2kk go CHEST",
   "1of jo en PATH c;5bq;5co;1oe ks go ra c;5co;2HUMP go ra c p;5co p;5c el;5co el;2kt go ra c cp",
   "5co cp;5c p;5co p;2jo go ra c;5co;1vt cp go ra;2p go ra;2kk go ra;1oe ks go qo c;5co",
   "2HUMP go qo c p;5co p;5el c el;6co el;2kt go qo c cp;5co cp;5c p;5co p;2jo go qo c;5co",
   "1vt cp go qo;2p go qo;2kk go qo;1oe ks c;3bq;3co;3rc;3COMBINED;2HUMP c;2kt c;2jo SNAKE;3c;3co",
   "1vt cp;2p;2kk;1oe SHAKING se;1of ARM av c cp;4bq cp;4c p;4bq p;1oe ARM av go WALL c cp;6bq cp",
   "6co cp;6c p;6bq p;6co p;1of pb av FRONT cp;5p;1oe pb av go WALL cp;6p;1of tg nv cp;4p",
   "1oe tg nv go WALL cp;6p;1DYNAMIC cm c;3co;2FAST;2SLOW;2TENSE;2RELAXED;2SIMULTANEOUS;3kk",
   "2EVERY OTHER TIME;2GRADUAL;1kh;2RIM;2of is;3TILT;2oe is;2of ks;2oe ks;2so av",
   "1au DIRECTION POSITION NOSE lb TILTING;5UP OR aq;8TILTING;1EYEBROWS is UP;3ji;3aq",
   "1DREAMY EYEBROWS ji aq;3aq ji;3UP ji;3ji UP;1FOREHEAD ji;2vs;2tv;1js by;2SQUEEZED;2fz",
   "1EYE BLINK cp;3nm;1js ao by;2WIDE by;2ao fz;2WIDENING so;1EYE WINK;1EYELASHES UP;2aq",
   "2FLUTTERING;1yt is;3p;3kk;1zv is;3p;3kk;1yt pm;1zv pm;1yt CIRCLING;1CHEEKS PUFFED;2ji;2SUCKED",
   "1TENSE CHEEKS ci;3ae;3bn;1EARS;1NOSE ji;2vs;2WRINKLES;2WIGGLES;1AIR BLOWING OUT;2SUCKING IN",
   "2BLOW c ROTATIONS;2SUCK c ROTATIONS;1BREATH INHALE;2EXHALE;1jr fz ji;3lb;3vs;2SMILE;3tv;3by",
   "2FROWN;3tv;3by;2by av;3lb;3tv;3OVAL;4tv;4YAWN;3tn;4tv;4YAWN;2KISS;3lb;3tv;2TENSE;3lb;3SUCKED",
   "1LIPS PRESSED TOGETHER;1LIP bl ay bv;2bv ay bl;1jr vl;2WRINKLES cp;3p;1uj STICKING OUT FAR",
   "2LICKING LIPS;2TIP kz LIPS;3TOUCHING kd jr;2kd jr RELAXED;2MOVES AGAINST CHEEK",
   "2dn STICKING OUT;3kd jr;1TEETH;2so;2ON uj;4so;3LIPS;4so;2BITE LIPS;1of JAW;1oe JAW;1NECK;1HAIR",
   "1EXCITEMENT;1SHOULDER HIP SPINE;3POSITIONS;1WALLPLANE SHOULDER HIP MOVE",
   "1FLOORPLANE SHOULDER HIP MOVE;1SHOULDER TILTING gr WAIST;1TORSO-WALLPLANE is STRETCH;2pm BEND",
   "1TORSO-FLOORPLANE TWISTING;1bv BODY TILTING gr HIP JOINTS;1LIMB COMBINATION;2LENGTH-1",
   "2LENGTH-2;2LENGTH-3;2LENGTH-4;2LENGTH-5;2LENGTH-6;2LENGTH-7;1tg;1LOCATION-WALLPLANE jk",
   "1LOCATION-FLOORPLANE jk;1LOCATION HEIGHT;2WIDTH;2DEPTH;2kh NECK;2TORSO;2LIMBS DIGITS;1de",
   "1ec ck;1oi;1gp;1ew;F+1nj MODIFIER-2;2MODIFIER-3;2MODIFIER-4;2MODIFIER-5;2MODIFIER-6",
   "1+1ROTATION MODIFIER-2;2MODIFIER-3;2MODIFIER-4;2MODIFIER-5;2MODIFIER-6;2MODIFIER-7;2MODIFIER-8",
   "2MODIFIER-9;2MODIFIER-10;2MODIFIER-11;2MODIFIER-12;2MODIFIER-13;2MODIFIER-14;2MODIFIER-15",
   "2MODIFIER-16;450+0ea c b FENG ho a TRILL;3cf ix G;1b c e bz G;1c b cf K;1b c e L a BELT",
   "1c b LEZH a ex x;3bz Y a BELT;3cf ENG;3bz R a cb LEG g ex x;3T a x g ex x;1b ex pn a ex x",
   "1c b ESH a p ak;7g jn;3bz T a jn;1b cu hn ck a jn;2STRETCHED C a jn;2c e bz K;1c b L a to",
   "3DEZH ho a hf x;3L a BELT g hf x;3ENG a hf x;3bz R a hf x;3R a to g hf x;3TESH ho a hf x",
   "3EZH a hf x;3DEZH ho a ex x;3I a y g ex x;3O a ex x;3TESH ho a ex x;3C a ex x;3S a jn",
   "E1+0fi GLAGOLITIC b AZU;3BUKY;3VEDE;3GLAGOLI;3DOBRO;3YESTU;3ZHIVETE;1+3ZEMLJA;3IZHE;3ab IZHE",
   "3I;3DJERVI;3KAKO;3LJUDIJE;3MYSLITE;3NASHI;3ONU;3POKOJI;3RITSI;3SLOVO;3TVRIDO;3UKU;3FRITU;3HERU",
   "2+3SHTA;3TSI;3CHRIVI;3cl;3YERU;3YERI;3YATI;1+3YU;3c hj;1+3YO;3vm c hj;3BIG hj;3vm BIG hj;3FITA",
   "D5+0NYIAKENG PUACHUE HMONG b MA;4hb;4NTA;4TA;4HA;4NA;4XA;4NKA;4CA;4LA;4SA;4ZA;4NCA;4NTSA;4KA",
   "4DA;4ct;4NRA;4VA;4NTXA;4TXA;4FA;4RA;4QA;4YA;4NQA;4PA;4XYA;4NPA;4DLA;4NPLA;4br;4MLA;4PLA;4GA",
   "4RRA;4A;4AA;4I;4U;4O;4OO;4E;4EE;4W;3+3TONE-B;3TONE-M;3TONE-J;3TONE-V;3TONE-S;3TONE-G;3TONE-D",
   "3f fp lp;5THING;5LOCATION;5ANIMAL;5INVERTEBRATE;4XW XW;3ll yl;2+3bh bt;4o;4l;4s;4w;4aa;4ag;4an",
   "4ah;4ar;4+3wy NYAJ;3ds CA;140+0TOTO b PA;2BA;2TA;2DA;2KA;2GA;2MA;2NA;2cj;2SA;2cr;2YA;2WA;2JA",
   "2HA;2RA;2LA;2I;2BREATHY I;2IU;2BREATHY IU;2U;2E;2BREATHY E;2EO;2BREATHY EO;2O;2AE;2BREATHY AE",
   "2A;1f nw bx;11+0WANCHO b AA;2A;2BA;2CA;2DA;2GA;2YA;2dr;2LA;2NA;2PA;2TA;2df;2FA;2SA;2cl;2JA;2ZA",
   "2WA;2VA;2KA;2O;2AU;2RA;2MA;2cy;2HA;2E;2I;2cj;2U;2LLHA;2hb;2TRA;2ONG;2AANG;2ANG;2ING;2ON;2EN",
   "2AAN;2ct;2UEN;2YIH;1bx TUP;2TUPNI;2KOI;2KOINI;1bh bt;2o;2l;2s;2w;2aa;2ag;2an;2ah;2ar;5+1NGUN f",
   "4E0+0ETHIOPIC ll HHYA;2HHYU;2HHYI;2HHYAA;2HHYEE;2HHYE;2HHYO;1+2GURAGE HHWA;2HHWI;2HHWEE;2HHWE",
   "1+2GURAGE MWI;3MWEE;1+3QWI;3QWEE;3QWE;3BWI;3BWEE;3KWI;3KWEE;3KWE;3GWI;3GWEE;3GWE;3FWI;3FWEE",
   "3PWI;3PWEE;1+0MENDE KIKAKUI ll M001 KI;3M002 KA;3M003 KU;3M065 KEE;3M095 KE;3M076 KOO;3M048 KO",
   "3M179 KUA;3M004 WI;3M005 WA;3M006 WU;3M126 WEE;3M118 WE;3M114 WOO;3M045 WO;3M194 WUI;3M143 WEI",
   "3M061 WVI;3M049 WVA;3M139 WVE;3M007 MIN;3M008 MAN;3M009 MUN;3M059 MEN;3M094 MON;3M154 MUAN",
   "3M189 MUEN;3M010 BI;3M011 BA;3M012 BU;3M150 BEE;3M097 BE;3M103 BOO;3M138 BO;3M013 I;3M014 A",
   "3M015 U;3M163 EE;3M100 E;3M165 OO;3M147 O;3M137 EI;3M131 IN;3M135 IN;3M195 AN;3M178 EN",
   "3M019 SI;3M020 SA;3M021 SU;3M162 SEE;3M116 SE;3M136 SOO;3M079 SO;3M196 SIA;3M025 LI;3M026 LA",
   "3M027 LU;3M084 LEE;3M073 LE;3M054 LOO;3M153 LO;3M110 cb LE;3M016 DI;3M017 DA;3M018 DU",
   "3M089 DEE;3M180 DOO;3M181 DO;3M022 TI;3M023 TA;3M024 TU;3M091 TEE;3M055 TE;3M104 TOO;3M069 TO",
   "3M028 JI;3M029 JA;3M030 JU;3M157 JEE;3M113 JE;3M160 JOO;3M063 JO;3M175 cb JO;3M031 YI;3M032 YA",
   "3M033 YU;3M109 YEE;3M080 YE;3M141 YOO;3M121 YO;3M034 FI;3M035 FA;3M036 FU;3M078 FEE;3M075 FE",
   "3M133 FOO;3M088 FO;3M197 FUA;3M101 FAN;3M037 NIN;3M038 NAN;3M039 ei;3M117 NEN;3M169 NON",
   "3M176 HI;3M041 HA;3M186 HU;3M040 HEE;3M096 HE;3M042 HOO;3M140 HO;3M083 HEEI;3M128 HOOU",
   "3M053 HIN;3M130 HAN;3M087 HUN;3M052 HEN;3M193 HON;3M046 HUAN;3M090 NGGI;3M043 NGGA;3M082 NGGU",
   "3M115 NGGEE;3M146 NGGE;3M156 NGGOO;3M120 NGGO;3M159 NGGAA;3M127 NGGUA;3M086 cb NGGE",
   "3M106 cb NGGOO;3M183 cb NGGO;3M155 GI;3M111 GA;3M168 GU;3M190 GEE;3M166 GUEI;3M167 GUAN",
   "3M184 NGEN;3M057 NGON;3M177 NGUAN;3M068 PI;3M099 PA;3M050 PU;3M081 PEE;3M051 PE;3M102 POO",
   "3M066 PO;3M145 MBI;3M062 MBA;3M122 MBU;3M047 MBEE;3M188 MBEE;3M072 MBE;3M172 MBOO;3M174 MBO",
   "3M187 MBUU;3M161 cb MBE;3M105 cb MBOO;3M142 cb MBO;3M132 KPI;3M092 KPA;3M074 KPU;3M044 KPEE",
   "3M108 KPE;3M112 KPOO;3M158 KPO;3M124 GBI;3M056 GBA;3M148 GBU;3M093 GBEE;3M107 GBE;3M071 GBOO",
   "3M070 GBO;3M171 RA;3M123 NDI;3M129 NDA;3M125 NDU;3M191 NDEE;3M119 NDE;3M067 NDOO;3M064 NDO",
   "3M152 NJA;3M192 NJU;3M149 NJEE;3M134 NJOO;3M182 VI;3M185 VA;3M151 VU;3M173 VEE;3M085 VE",
   "3M144 VOO;3M077 VO;3M164 NYIN;3M058 NYAN;3M170 NYUN;3M098 NYEN;3M060 NYON;2+2bh o;3l;3s;3w;3aa",
   "3ag;3an;3ah;3ar;2fi cz TEENS;4TENS;4HUNDREDS;4rq;4cc rq;4ap rq;4tp;29+0ADLAM e b ALIF;3DAALI",
   "3LAAM;3MIIM;3BA;3SINNYIIYHE;3PE;3BHE;3RA;3E;3FA;3I;3O;3eh;3YHE;3fq;3ei;3ha;3YA;3U;3JIIM;3CHI",
   "3HA;3QAAF;3GA;3ct;3TU;3NHA;3VA;3cy;3GBE;3ZAL;3KPO;3cl;1c b ALIF;3DAALI;3LAAM;3MIIM;3BA",
   "3SINNYIIYHE;3PE;3BHE;3RA;3E;3FA;3I;3O;3eh;3YHE;3fq;3ei;3ha;3YA;3U;3JIIM;3CHI;3HA;3QAAF;3GA;3ct",
   "3TU;3NHA;3VA;3cy;3GBE;3ZAL;3KPO;3cl;1ALIF yl;1bc yl;1wc r;1fu;1ja gv;1GEMINATE ja gv;1io;1ze r",
   "4+1bh bt;2o;2l;2s;2w;2aa;2ag;2an;2ah;2ar;4+1ab ia r;2hd r;311+0INDIC SIYAQ cz o;3l;3s;3w;3aa",
   "3ag;3an;3ah;3ar;3cc;3fb;3jj;3kr;3gh;3le;3ga;3mk;3fn;3o ap;3l ap;3s ap;3w ap;3aa ap;3ag ap",
   "3an ap;3ah ap;3ar ap;3o az;3l az;3s az;3w az;3aa az;3ag az;3an az;3ah az;3ar az;3cc az;3fb az",
   "3jj az;3kr az;3gh az;3le az;3ga az;3mk az;3fn az;3LAKH;3LAKHAN;2LAKH r;2cz KAROR;3KARORAN",
   "3PREFIXED o;4l;4s;4w;4aa;4ag;4an;4ah;4ar;2PLACEHOLDER;2jy o gf;4ao;3s mc;2RUPEE r;2cz jb o;4l",
   "4cc az;2jb LAKH r;4C+0OTTOMAN SIYAQ cz o;3l;3s;3w;3aa;3ag;3an;3ah;3ar;3cc;3fb;3jj;3kr;3gh;3le",
   "3ga;3mk;3fn;3o ap;3l ap;3s ap;3w ap;3aa ap;3ag ap;3an ap;3ah ap;3ar ap;3o az;3l az;3s az;3w az",
   "3aa az;3ag az;3an az;3ah az;3ar az;3cc az;3fb az;3jj az;3kr az;3gh az;3le az;3ga az;3mk az",
   "3fn az;2MARRATAN;2jb cz l;4s;4w;4aa;4ag;4an;4ah;4ar;4cc;4w ap;4ag ap;4l az;4cc az;2jy o ao",
   "4SIXTH;C2+0kc ul bb;2BEH;2ca;2DAL;1+2fq;2mo;2br;2hs;2ax;2ha;2fs;2aj;2fk;2hu;2gi;2FEH;2SAD;2ii",
   "2gt;2kf;2TEH;2THEH;2dt;2THAL;2DAD;2ZAH;2ld;2my BEH;3fk;3FEH;3ii;1+2ab BEH;3ca;1+3hk;2+3br",
   "1+3ax;3ha;3fs;3aj;3fk;3hu;3gi;3FEH;3SAD;3ii;1+3kf;3TEH;3THEH;3dt;1+3DAD;1+3ld;6+2TAILED ca",
   "4+3br;1+3ax;1+3fs;1+3fk;3hu;3gi;1+3SAD;3ii;1+3kf;2+3dt;1+3DAD;1+3ld;1+3my fk;1+4ii",
   "1+2STRETCHED BEH;3ca;1+3hk;2+3br;3hs;3ax;3ha;1+3aj;3fk;3hu;3gi;3FEH;3SAD;3ii;1+3kf;3TEH;3THEH",
   "3dt;1+3DAD;3ZAH;3ld;3my BEH;1+4FEH;1+2LOOPED bb;3BEH;3ca;3DAL;3hk;3fq;3mo;3br;3hs;3ax;1+3fs",
   "3aj;3fk;3hu;3gi;3FEH;3SAD;3ii;3gt;3kf;3TEH;3THEH;3dt;3THAL;3DAD;3ZAH;3ld;5+2pd BEH;3ca;3DAL",
   "1+3fq;3mo;3br;3hs;3ax;1+3fs;3aj;3fk;3hu;3gi;3FEH;3SAD;3ii;3gt;3kf;3TEH;3THEH;3dt;3THAL;3DAD",
   "3ZAH;3ld;34+2es aj a br a TATWEEL;3br a DAL;10E+0MAHJONG TILE db WIND;2ev WIND;2du WIND",
   "2eg WIND;2RED td;2GREEN td;2v td;2o OF qt;2l OF qt;2s OF qt;2w OF qt;2aa OF qt;2ag OF qt",
   "2an OF qt;2ah OF qt;2ar OF qt;2o OF rd;2l OF rd;2s OF rd;2w OF rd;2aa OF rd;2ag OF rd",
   "2an OF rd;2ah OF rd;2ar OF rd;2o OF nv;2l OF nv;2s OF nv;2w OF nv;2aa OF nv;2ag OF nv",
   "2an OF nv;2ah OF nv;2ar OF nv;2PLUM;2ORCHID;2BAMBOO;2CHRYSANTHEMUM;2SPRING;2SUMMER;2AUTUMN",
   "2WINTER;2JOKER;2BACK;4+0DOMINO TILE bf BACK;2HORIZONTAL-00-00;2HORIZONTAL-00-01",
   "2HORIZONTAL-00-02;2HORIZONTAL-00-03;2HORIZONTAL-00-04;2HORIZONTAL-00-05;2HORIZONTAL-00-06",
   "2HORIZONTAL-01-00;2HORIZONTAL-01-01;2HORIZONTAL-01-02;2HORIZONTAL-01-03;2HORIZONTAL-01-04",
   "2HORIZONTAL-01-05;2HORIZONTAL-01-06;2HORIZONTAL-02-00;2HORIZONTAL-02-01;2HORIZONTAL-02-02",
   "2HORIZONTAL-02-03;2HORIZONTAL-02-04;2HORIZONTAL-02-05;2HORIZONTAL-02-06;2HORIZONTAL-03-00",
   "2HORIZONTAL-03-01;2HORIZONTAL-03-02;2HORIZONTAL-03-03;2HORIZONTAL-03-04;2HORIZONTAL-03-05",
   "2HORIZONTAL-03-06;2HORIZONTAL-04-00;2HORIZONTAL-04-01;2HORIZONTAL-04-02;2HORIZONTAL-04-03",
   "2HORIZONTAL-04-04;2HORIZONTAL-04-05;2HORIZONTAL-04-06;2HORIZONTAL-05-00;2HORIZONTAL-05-01",
   "2HORIZONTAL-05-02;2HORIZONTAL-05-03;2HORIZONTAL-05-04;2HORIZONTAL-05-05;2HORIZONTAL-05-06",
   "2HORIZONTAL-06-00;2HORIZONTAL-06-01;2HORIZONTAL-06-02;2HORIZONTAL-06-03;2HORIZONTAL-06-04",
   "2HORIZONTAL-06-05;2HORIZONTAL-06-06;2af BACK;2VERTICAL-00-00;2VERTICAL-00-01;2VERTICAL-00-02",
   "2VERTICAL-00-03;2VERTICAL-00-04;2VERTICAL-00-05;2VERTICAL-00-06;2VERTICAL-01-00",
   "2VERTICAL-01-01;2VERTICAL-01-02;2VERTICAL-01-03;2VERTICAL-01-04;2VERTICAL-01-05",
   "2VERTICAL-01-06;2VERTICAL-02-00;2VERTICAL-02-01;2VERTICAL-02-02;2VERTICAL-02-03",
   "2VERTICAL-02-04;2VERTICAL-02-05;2VERTICAL-02-06;2VERTICAL-03-00;2VERTICAL-03-01",
   "2VERTICAL-03-02;2VERTICAL-03-03;2VERTICAL-03-04;2VERTICAL-03-05;2VERTICAL-03-06",
   "2VERTICAL-04-00;2VERTICAL-04-01;2VERTICAL-04-02;2VERTICAL-04-03;2VERTICAL-04-04",
   "2VERTICAL-04-05;2VERTICAL-04-06;2VERTICAL-05-00;2VERTICAL-05-01;2VERTICAL-05-02",
   "2VERTICAL-05-03;2VERTICAL-05-04;2VERTICAL-05-05;2VERTICAL-05-06;2VERTICAL-06-00",
   "2VERTICAL-06-01;2VERTICAL-06-02;2VERTICAL-06-03;2VERTICAL-06-04;2VERTICAL-06-05",
   "2VERTICAL-06-06;C+0PLAYING CARD BACK;2ACE OF nc;2l OF nc;2s OF nc;2w OF nc;2aa OF nc;2ag OF nc",
   "2an OF nc;2ah OF nc;2ar OF nc;2cc OF nc;2JACK OF nc;2hq OF nc;2lt OF nc;2ku OF nc;2+2ACE OF lc",
   "2l OF lc;2s OF lc;2w OF lc;2aa OF lc;2ag OF lc;2an OF lc;2ah OF lc;2ar OF lc;2cc OF lc",
   "2JACK OF lc;2hq OF lc;2lt OF lc;2ku OF lc;2RED JOKER;1+2ACE OF mx;2l OF mx;2s OF mx;2w OF mx",
   "2aa OF mx;2ag OF mx;2an OF mx;2ah OF mx;2ar OF mx;2cc OF mx;2JACK OF mx;2hq OF mx;2lt OF mx",
   "2ku OF mx;2t JOKER;1+2ACE OF ng;2l OF ng;2s OF ng;2w OF ng;2aa OF ng;2ag OF ng;2an OF ng",
   "2ah OF ng;2ar OF ng;2cc OF ng;2JACK OF ng;2hq OF ng;2lt OF ng;2ku OF ng;2v JOKER;2FOOL",
   "2TRUMP-1;2TRUMP-2;2TRUMP-3;2TRUMP-4;2TRUMP-5;2TRUMP-6;2TRUMP-7;2TRUMP-8;2TRUMP-9;2TRUMP-10",
   "2TRUMP-11;2TRUMP-12;2TRUMP-13;2TRUMP-14;2TRUMP-15;2TRUMP-16;2TRUMP-17;2TRUMP-18;2TRUMP-19",
   "2TRUMP-20;2TRUMP-21;A+0bh bt ec ck;2de;1o de;1l de;1s de;1w de;1aa de;1ag de;1an de;1ah de",
   "1ar de;0DINGBAT ds iz bh bt;1md ds iz bh bt;0ds bt a ls;1ki h;1ua f a OVERLAID tm;0xg ea e b A",
   "4B;4C;4D;4E;4F;4G;4H;4I;4J;4K;4L;4M;4N;4O;4P;4Q;4R;4S;4T;4U;4V;4W;4X;4Y;4Z",
   "0kl iy BRACKETED ea e b S;0ds pl ea e b C;5R;1CD;1WZ;0COPYLEFT z;0fx ea e b A;4B;4C;4D;4E;4F",
   "4G;4H;4I;4J;4K;4L;4M;4N;4O;4P;4Q;4R;4S;4T;4U;4V;4W;4X;4Y;4Z;1HV;1MV;1SD;1SS;1PPV;1WC",
   "0md ds ea e b A;5B;5C;5D;5E;5F;5G;5H;5I;5J;5K;5L;5M;5N;5O;5P;5Q;5R;5S;5T;5U;5V;5W;5X;5Y;5Z",
   "0ic MC f;1MD f;1MR f;0ds CC;1C a OVERLAID tm;1HUMAN FIGURE;0md fx ea e b A;5B;5C;5D;5E;5F;5G",
   "5H;5I;5J;5K;5L;5M;5N;5O;5P;5Q;5R;5S;5T;5U;5V;5W;5X;5Y;5Z;0nu md fx ea e b P;0md fx IC;2PA;2SA",
   "2AB;2WC;0at DJ;0fx CL;1COOL;1FREE;1ID;1NEW;1NG;1OK;1SOS;1UP a ia r;1VS;1s D;1uh SCREEN;1l K",
   "1w K;1ah K;1aa nz o;1an nz o;1TWENTY-TWO nz l;1le P;1o ap fb P;1ea c b D;1HC;1HDR;1HI-RES",
   "1LOSSLESS;1SHV;1UHD;1VOD;0MASK WORK z;38+0REGIONAL rp z b A;4B;4C;4D;4E;4F;4G;4H;4I;4J;4K;4L",
   "4M;4N;4O;4P;4Q;4R;4S;4T;4U;4V;4W;4X;4Y;4Z;0at vd HOKA;0fx ph KOKO;2SA",
   "D+1CJK UNIFIED IDEOGRAPH-624B;3IDEOGRAPH-5B57;3IDEOGRAPH-53CC;1ph DE",
   "1CJK UNIFIED IDEOGRAPH-4E8C;3IDEOGRAPH-591A;3IDEOGRAPH-89E3;3IDEOGRAPH-5929;3IDEOGRAPH-4EA4",
   "3IDEOGRAPH-6620;3IDEOGRAPH-7121;3IDEOGRAPH-6599;3IDEOGRAPH-524D;3IDEOGRAPH-5F8C",
   "3IDEOGRAPH-518D;3IDEOGRAPH-65B0;3IDEOGRAPH-521D;3IDEOGRAPH-7D42;3IDEOGRAPH-751F",
   "3IDEOGRAPH-8CA9;3IDEOGRAPH-58F0;3IDEOGRAPH-5439;3IDEOGRAPH-6F14;3IDEOGRAPH-6295",
   "3IDEOGRAPH-6355;3IDEOGRAPH-4E00;3IDEOGRAPH-4E09;3IDEOGRAPH-904A;3IDEOGRAPH-5DE6",
   "3IDEOGRAPH-4E2D;3IDEOGRAPH-53F3;3IDEOGRAPH-6307;3IDEOGRAPH-8D70;3IDEOGRAPH-6253",
   "3IDEOGRAPH-7981;3IDEOGRAPH-7A7A;3IDEOGRAPH-5408;3IDEOGRAPH-6E80;3IDEOGRAPH-6709",
   "3IDEOGRAPH-6708;3IDEOGRAPH-7533;3IDEOGRAPH-5272;3IDEOGRAPH-55B6;3IDEOGRAPH-914D",
   "4+0kl iy BRACKETED CJK UNIFIED IDEOGRAPH-672C;5IDEOGRAPH-4E09;5IDEOGRAPH-4E8C;5IDEOGRAPH-5B89",
   "5IDEOGRAPH-70B9;5IDEOGRAPH-6253;5IDEOGRAPH-76D7;5IDEOGRAPH-52DD;5IDEOGRAPH-6557",
   "7+0ds IDEOGRAPH ADVANTAGE;2ACCEPT;E+0pw z fp FU;3LU;3SHOU;3XI;3SHUANGXI;3CAI;9A+0CYCLONE",
   "0FOGGY;0fz wu;0NIGHT a STARS;0SUNRISE ay MOUNTAINS;0SUNRISE;0CITYSCAPE AT DUSK",
   "0SUNSET ay BUILDINGS;0RAINBOW;0BRIDGE AT NIGHT;0oc jo;0VOLCANO;0MILKY WAY",
   "0nf GLOBE EUROPE-AFRICA;2AMERICAS;2ASIA-AUSTRALIA;0GLOBE a MERIDIANS;0NEW ig z;0WAXING va ig z",
   "0FIRST gf ig z;0WAXING GIBBOUS ig z;0ec ig z;0WANING GIBBOUS ig z;0LAST gf ig z",
   "0WANING va ig z;0va ig;0NEW ig a au;0FIRST gf ig a au;0LAST gf ig a au;0ec ig a au;0SUN a au",
   "0GLOWING dl;0SHOOTING dl;0THERMOMETER;0t DROPLET;0v SUN;2a c CLOUD;2BEHIND CLOUD;4a RAIN",
   "0CLOUD a RAIN;2SNOW;2LIGHTNING;2TORNADO;0FOG;0WIND BLOWING au;0HOT DOG;0TACO;0BURRITO",
   "0CHESTNUT;0SEEDLING;0EVERGREEN TREE;0DECIDUOUS TREE;0PALM TREE;0CACTUS;0HOT PEPPER;0TULIP",
   "0CHERRY BLOSSOM;0ROSE;0HIBISCUS;0SUNFLOWER;0BLOSSOM;0EAR OF MAIZE;2RICE;0HERB;0w jp CLOVER",
   "0MAPLE jp;0FALLEN jp;0jp FLUTTERING IN WIND;0MUSHROOM;0TOMATO;0AUBERGINE;0GRAPES;0MELON",
   "0WATERMELON;0TANGERINE;0LEMON;0BANANA;0PINEAPPLE;0RED APPLE;0GREEN APPLE;0PEAR;0PEACH",
   "0CHERRIES;0STRAWBERRY;0HAMBURGER;0SLICE OF PIZZA;0MEAT ON BONE;0POULTRY LEG;0RICE CRACKER",
   "1BALL;0COOKED RICE;0CURRY g RICE;0STEAMING BOWL;0SPAGHETTI;0BREAD;0FRENCH FRIES",
   "0ROASTED SWEET POTATO;0DANGO;0ODEN;0SUSHI;0FRIED SHRIMP;0FISH CAKE a SWIRL DESIGN",
   "0nh ICE CREAM;0SHAVED ICE;0ICE CREAM;0DOUGHNUT;0COOKIE;0CHOCOLATE ak;0CANDY;0LOLLIPOP;0CUSTARD",
   "0HONEY POT;0SHORTCAKE;0BENTO hy;0POT OF FOOD;0COOKING;0FORK g KNIFE;0TEACUP WITHOUT HANDLE",
   "0SAKE BOTTLE g CUP;0WINE GLASS;0COCKTAIL GLASS;0TROPICAL DRINK;0BEER MUG;0CLINKING BEER MUGS",
   "0BABY BOTTLE;0FORK g KNIFE a PLATE;0BOTTLE a POPPING CORK;0POPCORN;0RIBBON;0WRAPPED PRESENT",
   "0BIRTHDAY CAKE;0JACK-O-LANTERN;0CHRISTMAS TREE;0FATHER CHRISTMAS;0FIREWORKS;0FIREWORK SPARKLER",
   "0BALLOON;0PARTY POPPER;0CONFETTI BALL;0TANABATA TREE;0nu FLAGS;0PINE DECORATION;0ts DOLLS",
   "0CARP STREAMER;0WIND CHIME;0ig VIEWING CEREMONY;0SCHOOL SATCHEL;0GRADUATION CAP",
   "0hh a TIP ON fr k;0BOUQUET OF FLOWERS;0MILITARY MEDAL;0REMINDER RIBBON;0ol wt a JACKS",
   "0STUDIO MICROPHONE;0LEVEL SLIDER;0CONTROL KNOBS;0BEAMED ASCENDING ol NOTES",
   "1DESCENDING ol NOTES;0FILM FRAMES;0ADMISSION TICKETS;0CAROUSEL HORSE;0FERRIS WHEEL",
   "0ROLLER COASTER;0FISHING POLE g FISH;0MICROPHONE;0MOVIE CAMERA;0CINEMA;0HEADPHONE",
   "0ARTIST PALETTE;0ez HAT;0CIRCUS TENT;0TICKET;0CLAPPER BOARD;0PERFORMING ARTS;0VIDEO GAME",
   "0DIRECT HIT;0SLOT MACHINE;0BILLIARDS;0GAME DIE;0BOWLING;0FLOWER PLAYING CARDS;0ol jv",
   "0nm ol NOTES;0SAXOPHONE;0GUITAR;0ol wt;0TRUMPET;0VIOLIN;0ol SCORE;0RUNNING SHIRT a SASH",
   "0TENNIS RACQUET g BALL;0SKI g SKI BOOT;0BASKETBALL g HOOP;0CHEQUERED FLAG;0SNOWBOARDER;0RUNNER",
   "0SURFER;0SPORTS MEDAL;0TROPHY;0HORSE RACING;0AMERICAN FOOTBALL;0RUGBY FOOTBALL;0SWIMMER",
   "0WEIGHT LIFTER;0GOLFER;0RACING MOTORCYCLE;1CAR;0CRICKET BAT g BALL;0VOLLEYBALL",
   "0FIELD HOCKEY STICK g BALL;0ICE HOCKEY STICK g PUCK;0TABLE TENNIS PADDLE g BALL",
   "0SNOW CAPPED sk;0CAMPING;0BEACH a wu;0xa zo;0HOUSE BUILDINGS;0CITYSCAPE;0DERELICT HOUSE xa",
   "0CLASSICAL xa;0DESERT;1ISLAND;0NATIONAL PARK;0STADIUM;0HOUSE xa;1a GARDEN;0OFFICE xa",
   "0ts POST OFFICE;0EUROPEAN POST OFFICE;0HOSPITAL;0BANK;0AUTOMATED TELLER MACHINE;0HOTEL",
   "0LOVE HOTEL;0CONVENIENCE STORE;0SCHOOL;0DEPARTMENT STORE;0FACTORY;0IZAKAYA LANTERN;0ts CASTLE",
   "0EUROPEAN CASTLE;0v PENNANT;0t PENNANT;0WAVING v FLAG;1t FLAG;0ROSETTE;0t ROSETTE;0LABEL",
   "0BADMINTON RACQUET g SHUTTLECOCK;0BOW g h;0AMPHORA;0EMOJI gv FITZPATRICK TYPE-1-2;3TYPE-3",
   "3TYPE-4;3TYPE-5;3TYPE-6;0RAT;0MOUSE;0OX;0oc BUFFALO;0COW;0TIGER;0LEOPARD;0RABBIT;0CAT;0td",
   "0CROCODILE;0WHALE;0SNAIL;0SNAKE;0HORSE;0RAM;0GOAT;0SHEEP;0MONKEY;0ROOSTER;0CHICKEN;0DOG;0PIG",
   "0BOAR;0ELEPHANT;0OCTOPUS;0SPIRAL iy;0BUG;0ANT;0HONEYBEE;0LADY BEETLE;0FISH;0TROPICAL FISH",
   "0BLOWFISH;0TURTLE;0HATCHING CHICK;0BABY CHICK;0FRONT-FACING BABY CHICK;0BIRD;0PENGUIN;0KOALA",
   "0POODLE;0DROMEDARY CAMEL;0BACTRIAN CAMEL;0DOLPHIN;0MOUSE au;0COW au;0TIGER au;0RABBIT au",
   "0CAT au;0td au;0SPOUTING WHALE;0HORSE au;0MONKEY au;0DOG au;0PIG au;0FROG au;0HAMSTER au",
   "0WOLF au;0BEAR au;0PANDA au;0PIG NOSE;0PAW PRINTS;0CHIPMUNK;0js;0EYE;0EAR;0NOSE;0jr;0uj",
   "0v UP cv sp be;1aq cv sp be;1k cv sp be;1i cv sp be;0FISTED gs f;0WAVING gs f;0OK gs f",
   "0THUMBS UP f;1aq f;0CLAPPING HANDS f;0by HANDS f;0CROWN;0WOMANS HAT;0EYEGLASSES;0NECKTIE",
   "0T-SHIRT;0JEANS;0DRESS;0KIMONO;0BIKINI;0WOMANS CLOTHES;0PURSE;0HANDBAG;0POUCH;0MANS SHOE",
   "0ATHLETIC SHOE;0HIGH-HEELED SHOE;0WOMANS SANDAL;1BOOTS;0FOOTPRINTS;0BUST IN yo;0BUSTS IN yo",
   "0BOY;0GIRL;0MAN;0WOMAN;0FAMILY;0MAN g WOMAN vo HANDS;0l MEN vo HANDS;1WOMEN vo HANDS",
   "0POLICE OFFICER;0WOMAN a BUNNY EARS;0BRIDE a VEIL;0lp a BLOND HAIR;0MAN a GUA PI MAO;2TURBAN",
   "0OLDER MAN;1WOMAN;0BABY;0zo WORKER;0PRINCESS;0ts OGRE;1GOBLIN;0GHOST;0BABY ANGEL",
   "0EXTRATERRESTRIAL ALIEN;0ALIEN MONSTER;0IMP;0SKULL;0INFORMATION DESK lp;0GUARDSMAN;0DANCER",
   "0LIPSTICK;0NAIL POLISH;0au MASSAGE;0HAIRCUT;0BARBER POLE;0SYRINGE;0PILL;0KISS r;0LOVE b;0bi",
   "0GEM STONE;0KISS;0BOUQUET;0COUPLE a hh;0WEDDING;0BEATING hh;0BROKEN hh;0l lc;0SPARKLING hh",
   "0GROWING hh;0hh a h;0BLUE hh;0GREEN hh;0YELLOW hh;0PURPLE hh;0hh a RIBBON;0REVOLVING lc",
   "0hh DECORATION;0ff SHAPE a A q kd;0ELECTRIC bd BULB;0ANGER z;0BOMB;0SLEEPING z;0COLLISION z",
   "0SPLASHING SWEAT z;0DROPLET;0fc z;0PILE OF POO;0FLEXED BICEPS;0DIZZY z;0ui BALLOON",
   "0THOUGHT BALLOON;0v FLOWER;0ap POINTS z;0MONEY BAG;0wk EXCHANGE;0ad ua f;0CREDIT CARD",
   "0BANKNOTE a YEN f;2ua f;2EURO f;2POUND f;0MONEY a WINGS;0CHART a bo TREND g YEN f;0SEAT",
   "0PERSONAL COMPUTER;0BRIEFCASE;0MINIDISC;0FLOPPY DISK;0OPTICAL DISC;0DVD;0FILE uk;0by FILE uk",
   "0PAGE a jn;1FACING UP;0CALENDAR;0TEAR-OFF CALENDAR;0CARD be;0CHART a bo TREND;2bj TREND",
   "0ak CHART;0CLIPBOARD;0PUSHPIN;0ow PUSHPIN;0PAPERCLIP;0is RULER;0jf RULER;0BOOKMARK TABS",
   "0LEDGER;0NOTEBOOK;1a DECORATIVE COVER;0fz BOOK;0by BOOK;0GREEN BOOK;0BLUE BOOK;0ORANGE BOOK",
   "0BOOKS;0NAME BADGE;0SCROLL;0MEMO;0oj RECEIVER;0PAGER;0FAX MACHINE;0SATELLITE ANTENNA",
   "0PUBLIC ADDRESS LOUDSPEAKER;0CHEERING MEGAPHONE;0OUTBOX TRAY;0INBOX TRAY;0PACKAGE;0E-MAIL z",
   "0INCOMING qy;0qy a bj h j;0fz MAILBOX a LOWERED FLAG;3ic FLAG;0by MAILBOX a ic FLAG",
   "3LOWERED FLAG;0POSTBOX;0POSTAL gb;0NEWSPAPER;0MOBILE PHONE;2a ac h AT k;0VIBRATION MODE",
   "0MOBILE PHONE OFF;0NO MOBILE PHONES;0ANTENNA a BARS;0CAMERA;1a FLASH;0VIDEO CAMERA;0TELEVISION",
   "0RADIO;0VIDEOCASSETTE;0FILM PROJECTOR;0PORTABLE STEREO;0PRAYER BEADS;0TWISTED ac lo",
   "0nl ac g am by av lo;7a ds o jc;1bj g bo by av lo;0ki bj g bo by av lo;0bn BRIGHTNESS z",
   "0ci BRIGHTNESS z;0SPEAKER a xl y;0SPEAKER;1a o lf jo;2s lf WAVES;0BATTERY;0ELECTRIC PLUG",
   "0jt MAGNIFYING GLASS;0ip MAGNIFYING GLASS;0LOCK a INK PEN;0fz LOCK a KEY;0KEY;0LOCK;0by LOCK",
   "0BELL;1a xl y;0BOOKMARK;0LINK z;0RADIO BUTTON;0BACK a am h j;0gz a am h j;0ON a ia r a k i h j",
   "0SOON a ac h j;0ez a bo h j;0NO o UNDER qx z;0KEYCAP cc;0INPUT z fp ea e LETTERS;4c LETTERS",
   "3NUMBERS;3SYMBOLS;3ea LETTERS;0FIRE;0ELECTRIC TORCH;0WRENCH;0HAMMER;0NUT g BOLT;0HOCHO;0PISTOL",
   "0MICROSCOPE;0TELESCOPE;0CRYSTAL BALL;0ag fw dl a ae q;0ts z fp BEGINNER;0TRIDENT EMBLEM",
   "0t at BUTTON;0v at BUTTON;0co RED av;1BLUE av;1ORANGE ff;1BLUE ff;0c ORANGE ff;1BLUE ff",
   "0mu RED bk;0og RED bk;0mu c RED bk;0og c RED bk;0bl i np v av;0bv i np v av;0ds em POMMEE",
   "0em POMMEE a HALF-CIRCLE m;1POMMEE;0rb k wd a s aw;1i wd a s aw;0z fp MARKS CHAPTER;0v ea em",
   "0ad ea em;0CELTIC em;0OM z;0DOVE OF PEACE;0KAABA;0MOSQUE;0SYNAGOGUE;0MENORAH a ar BRANCHES",
   "0BOWL OF HYGIEIA;0CLOCK au o ou;2l ou;2s ou;2w ou;2aa ou;2ag ou;2an ou;2ah ou;2ar ou;2cc ou",
   "2or ou;2nb ou;2ONE-THIRTY;2TWO-THIRTY;2THREE-THIRTY;2FOUR-THIRTY;2FIVE-THIRTY;2SIX-THIRTY",
   "2SEVEN-THIRTY;2EIGHT-THIRTY;2NINE-THIRTY;2TEN-THIRTY;2ELEVEN-THIRTY;2TWELVE-THIRTY;0i SPEAKER",
   "2a o lf jo;3s lf WAVES;0BULLHORN;1a lf WAVES;0RINGING BELL;0BOOK;0CANDLE;0MANTELPIECE CLOCK",
   "0t SKULL g CROSSBONES;0NO PIRACY;0HOLE;0MAN IN BUSINESS SUIT LEVITATING;0SLEUTH OR SPY",
   "0DARK SUNGLASSES;0SPIDER;1WEB;0JOYSTICK;0MAN DANCING;0k gs oj RECEIVER;0oj RECEIVER a PAGE",
   "0i gs oj RECEIVER;0v TOUCHTONE oj;0t TOUCHTONE oj;0oj ON ez OF MODEM;0CLAMSHELL MOBILE PHONE",
   "0BACK OF qy;0STAMPED qy;0qy a LIGHTNING;0FLYING qy;0PEN ay STAMPED qy;0LINKED PAPERCLIPS",
   "0t PUSHPIN;0bl k PENCIL;2BALLPOINT PEN;2FOUNTAIN PEN;2PAINTBRUSH;2CRAYON;0k WRITING gs",
   "0bz OK gs f;0ic gs a iw SPLAYED;0cf ic gs a iw SPLAYED;1THUMBS UP f;2aq f;1VICTORY gs",
   "1gs a ae tg sb;0ic gs a PART kz ae g bi iw;0v aq cv k gs be;0qw v k cv be;2i cv be;1t k cv be",
   "2i cv be;0t k cv sp be;1i cv sp be;0qw v UP cv be;2aq cv be;1t UP cv be;2aq cv be",
   "0t UP cv sp be;1aq cv sp be;1hh;0DESKTOP COMPUTER;0wt g MOUSE;0s NETWORKED COMPUTERS;0PRINTER",
   "0POCKET CALCULATOR;0t HARD iy FLOPPY DISK;0v HARD iy FLOPPY DISK;0nh iy FLOPPY DISK",
   "0TAPE CARTRIDGE;0WIRED wt;0o BUTTON MOUSE;0l BUTTON MOUSE;0s BUTTON MOUSE;0TRACKBALL",
   "0dv PERSONAL COMPUTER;0HARD DISK;0SCREEN;0PRINTER ICON;0FAX ICON;0OPTICAL DISC ICON",
   "0DOCUMENT a TEXT;3g PICTURE;2PICTURE;0FRAME a PICTURE;2TILES;2AN X;0t uk;0uk;0by uk",
   "0CARD be DIVIDERS;1FILE hy;0FILE CABINET;0EMPTY jv;2PAGE;2PAD;0jv;1PAGE;1PAD;0EMPTY DOCUMENT",
   "1PAGE;1PAGES;0DOCUMENT;0PAGE;0PAGES;0WASTEBASKET;0SPIRAL jv PAD;1CALENDAR PAD;0DESKTOP WINDOW",
   "0MINIMIZE;0MAXIMIZE;0OVERLAP;0nl i g k wd lo;0xl X;0INCREASE FONT SIZE z;0DECREASE FONT SIZE z",
   "0COMPRESSION;0dv KEY;0ROLLED-UP NEWSPAPER;0PAGE a ds TEXT;0STOCK CHART;0DAGGER KNIFE;0LIPS",
   "0SPEAKING kh IN yo;0s RAYS j;2m;2k;2i;0k ui rk;0i ui rk;0l ui BUBBLES;0s ui BUBBLES",
   "0k THOUGHT rk;0i THOUGHT rk;0k ANGER rk;0i ANGER rk;0MOOD rk;0LIGHTNING MOOD rk;1MOOD",
   "0uf hy a uf;1ix X;1hy a ix X;1hi ix X;1hy a hi ix X;0bd oz r;0uf hy a hi oz;0WORLD MAP",
   "0MOUNT FUJI;0TOKYO TOWER;0STATUE OF LIBERTY;0yo OF JAPAN;0MOYAI;0GRINNING au;2a la js",
   "0au a TEARS OF JOY;0la au a by jr;5g la js;6COLD SWEAT;6TIGHTLY-CLOSED js;3HALO;3HORNS",
   "0WINKING au;0la au a la js;0au SAVOURING DELICIOUS FOOD;0RELIEVED au;0la au a HEART-SHAPED js",
   "3SUNGLASSES;0SMIRKING au;0ji au;0EXPRESSIONLESS au;0UNAMUSED au;0au a COLD SWEAT;0PENSIVE au",
   "0CONFUSED au;0CONFOUNDED au;0KISSING au;0au THROWING A KISS;0KISSING au a la js;3fz js",
   "0au a STUCK-OUT uj;4g WINKING EYE;5TIGHTLY-CLOSED js;0DISAPPOINTED au;0WORRIED au;0ANGRY au",
   "0POUTING au;0CRYING au;0PERSEVERING au;0au a LOOK OF TRIUMPH;0DISAPPOINTED BUT RELIEVED au",
   "0FROWNING au a by jr;0ANGUISHED au;0FEARFUL au;0WEARY au;0SLEEPY au;0TIRED au;0GRIMACING au",
   "0LOUDLY CRYING au;0au a by jr;0HUSHED au;0au a by jr g COLD SWEAT;1SCREAMING IN FEAR",
   "0ASTONISHED au;0FLUSHED au;0SLEEPING au;0DIZZY au;0au WITHOUT jr;1a MEDICAL MASK",
   "0GRINNING CAT au a la js;0CAT au a TEARS OF JOY;0la CAT au a by jr;4HEART-SHAPED js",
   "0CAT au a WRY SMILE;0KISSING CAT au a fz js;0POUTING CAT au;0CRYING CAT au;0WEARY CAT au",
   "0SLIGHTLY FROWNING au;1la au;0UPSIDE-DOWN au;0au a ROLLING js;2NO GOOD GESTURE;2OK GESTURE",
   "0lp BOWING DEEPLY;0SEE-NO-EVIL MONKEY;0HEAR-NO-EVIL MONKEY;0SPEAK-NO-EVIL MONKEY",
   "0HAPPY lp RAISING o gs;0lp RAISING BOTH HANDS IN CELEBRATION;1FROWNING;1a POUTING au",
   "2FOLDED HANDS;0eg du cv jp;0ev du cv jp;0eg db cv jp;0ev db cv jp;0bz eg du cv jp;1ev du cv jp",
   "1eg db cv jp;1ev db cv jp;0eg du cv VINE jp;0ev du cv VINE jp;0eg db cv VINE jp",
   "0ev db cv VINE jp;0ad eg du cv VINE jp;1ev du cv VINE jp;1eg db cv VINE jp;1ev db cv VINE jp",
   "0eg du cv BUD;0ev du cv BUD;0eg db cv BUD;0ev db cv BUD;0ad eg du cv BUD;1ev du cv BUD",
   "1eg db cv BUD;1ev db cv BUD;0HOLLOW QUILT at dw;4IN t at;0SOLID QUILT at dw;4IN t at",
   "0am ROCKET;0bo ROCKET;0ac ROCKET;0bj ROCKET;0ix ge ET dw;0ad ix ge ET dw;0ge by ET dw",
   "0ad ge by ET dw;1ro dw;0SWASH ro dw;0iz ad p bz de gu r dw;3de gu r dw;2bn p de gu r dw",
   "0ad wa dw;0iz wa dw;0ad iz wa dw;0hr ad iu;2jq iu;0CHECKER BOARD;0jq CHECKER BOARD;0ROCKET",
   "0HELICOPTER;0STEAM LOCOMOTIVE;0RAILWAY CAR;0HIGH-SPEED TRAIN;2a na NOSE;0TRAIN;0METRO;0bd RAIL",
   "0STATION;0TRAM;1CAR;0BUS;0xb BUS;0TROLLEYBUS;0BUS ck;0MINIBUS;0AMBULANCE;0FIRE ENGINE",
   "0POLICE CAR;0xb POLICE CAR;0TAXI;0xb TAXI;0AUTOMOBILE;0xb AUTOMOBILE;0RECREATIONAL VEHICLE",
   "0DELIVERY TRUCK;0ARTICULATED LORRY;0TRACTOR;0MONORAIL;0sk RAILWAY;0SUSPENSION RAILWAY",
   "0sk CABLEWAY;0AERIAL TRAMWAY;0SHIP;0ROWBOAT;0SPEEDBOAT;0bf TRAFFIC bd;0af TRAFFIC bd;0zo f",
   "0POLICE CARS REVOLVING bd;0jf FLAG ON POST;0DOOR;0NO ENTRY f;0SMOKING z;0NO SMOKING z",
   "0PUT LITTER IN ITS PLACE z;0DO dh LITTER z;0POTABLE oc z;0NON-POTABLE oc z;0BICYCLE",
   "0NO BICYCLES;0BICYCLIST;0sk BICYCLIST;0PEDESTRIAN;0NO PEDESTRIANS;0CHILDREN gn;0MENS z",
   "0WOMENS z;0RESTROOM;0BABY z;0TOILET;0oc CLOSET;0SHOWER;0BATH;0BATHTUB;0PASSPORT CONTROL",
   "0CUSTOMS;0BAGGAGE CLAIM;0k LUGGAGE;0bk a pw vl;0PROHIBITED f;0ds INFORMATION SOURCE;0BOYS z",
   "0GIRLS z;0COUCH g LAMP;0SLEEPING ACCOMMODATION;0SHOPPING BAGS;0BELLHOP BELL;0BED",
   "0PLACE OF WORSHIP;0OCTAGONAL f;0SHOPPING TROLLEY;0STUPA;0PAGODA;0HINDU TEMPLE;0HUT;0ELEVATOR",
   "5+0PLAYGROUND SLIDE;0WHEEL;0bi BUOY;0HAMMER g WRENCH;0SHIELD;0OIL DRUM;0MOTORWAY",
   "0RAILWAY TRACK;0MOTOR BOAT;0mu MILITARY tt;1tt;1c tt;0c tt;0NORTHEAST-POINTING tt",
   "0tt DEPARTURE;1ARRIVING;3+0SATELLITE;0xb FIRE ENGINE;0DIESEL LOCOMOTIVE;0PASSENGER SHIP",
   "0SCOOTER;0MOTOR SCOOTER;0CANOE;0SLED;0FLYING SAUCER;0SKATEBOARD;0AUTO RICKSHAW;0PICKUP TRUCK",
   "0ROLLER SKATE;3+0ALCHEMICAL z fp QUINTESSENCE;3AIR;3FIRE;3nf;3oc;3AQUAFORTIS;3AQUA REGIA",
   "4REGIA-2;4VITAE;4VITAE-2;3VINEGAR;3VINEGAR-2;3VINEGAR-3;3SULFUR;3PHILOSOPHERS SULFUR;3t SULFUR",
   "3MERCURY wj;4SUBLIMATE-2;4SUBLIMATE-3;3CINNABAR;3SALT;3NITRE;3VITRIOL;3VITRIOL-2;3ROCK SALT",
   "4SALT-2;3GOLD;3SILVER;3IRON ORE;4ORE-2;3CROCUS OF IRON;3REGULUS OF IRON;3COPPER ORE",
   "3IRON-COPPER ORE;3wj OF COPPER;3CROCUS OF COPPER;5COPPER-2;3COPPER ANTIMONIATE",
   "3SALT OF COPPER ANTIMONIATE;3wj OF SALT OF COPPER;3VERDIGRIS;3TIN ORE;3LEAD ORE;3vh ORE",
   "3wj OF vh;3SALT OF vh;3wj OF SALT OF vh;3VINEGAR OF vh;3REGULUS OF vh;5ANTIMONY-2;3REGULUS",
   "3REGULUS-2;3REGULUS-3;3REGULUS-4;3ALKALI;3ALKALI-2;3MARCASITE;3SAL-AMMONIAC;3ARSENIC;3REALGAR",
   "3REALGAR-2;3AURIPIGMENT;3BISMUTH ORE;3TARTAR;3TARTAR-2;3QUICK LIME;3BORAX;3BORAX-2;3BORAX-3",
   "3ALUM;3OIL;3SPIRIT;3TINCTURE;3GUM;3WAX;3POWDER;3CALX;3TUTTY;3CAPUT MORTUUM;3SCEPTER OF JOVE",
   "3CADUCEUS;3TRIDENT;3STARRED TRIDENT;3LODESTONE;3SOAP;3URINE;3HORSE DUNG;3ASHES;3POT ASHES",
   "3BRICK;3POWDERED BRICK;3AMALGAM;3STRATUM SUPER STRATUM;5STRATUM-2;3SUBLIMATION;3PRECIPITATE",
   "3DISTILL;3DISSOLVE;3DISSOLVE-2;3PURIFY;3PUTREFACTION;3CRUCIBLE;3CRUCIBLE-2;3CRUCIBLE-3",
   "3CRUCIBLE-4;3CRUCIBLE-5;3ALEMBIC;3BATH OF MARY;5VAPOURS;3RETORT;3HOUR;3NIGHT;3DAY-NIGHT;3MONTH",
   "3ao DRAM;4OUNCE;C+0t jt ISOSCELES i bk;1mu ISOSCELES i bk;1ip ISOSCELES i bk",
   "1og ISOSCELES i bk;1SLIGHTLY c av;0bq hi v av;0hi v av;0ad v av;0hr ad v av;0uw ad v av",
   "0v av tk t c av;0ow TARGET;0t TINY at;1SLIGHTLY c at;0bd v at;0bq v at;0hi v at;0ad v at",
   "0hr ad v at;0uw ad v at;0v at tk t hr c at;4bq at;0at TARGET;0t TINY ff;1hr c ff;1bq c ff",
   "0v ff tk t hr c ff;4bq ff;0ff TARGET;0t TINY nt;1hr c nt;1bq c nt;0v nt tk t c nt;0THIN im em",
   "0bd im em;0bq im em;0hi im em;0hr hi im em;1ad im em;0uw ad im em;0THIN pk;0bd pk;0bq pk",
   "0hi pk;0ad pk;0hr ad pk;0uw ad pk;0bd aa ko ek;0bq aa ko ek;0hi aa ko ek;0ad aa ko ek",
   "0hr ad aa ko ek;0uw ad aa ko ek;0bd ag ko ek;0bq ag ko ek;0hi ag ko ek;0ad ag ko ek",
   "0hr ad ag ko ek;0uw ad ag ko ek;0bd ah ko ek;0bq ah ko ek;0hi ah ko ek;0ad ah ko ek",
   "0hr ad ah ko ek;0bd s fw t dl;0bq s fw t dl;0s fw t dl;0bq s fw qz dl;0bd w fw t dl",
   "0bq w fw t dl;0w fw t dl;0bq w fw qz dl;0jq bd w fw qz dl;0bd aa fw t dl;0ad aa fw t dl",
   "0bq ag fw t dl;0ad ag fw t dl;0ag fw qz dl;0bq ah fw t dl;0ad ah fw t dl;0hr ad ah fw t dl",
   "0ad ah fw qz dl;0bd nb fw t dl;0ad nb fw t dl;3qz dl;0ds bk;0md ds bk;0ds at;0md ds at",
   "7+0co ORANGE av;1YELLOW av;1GREEN av;1PURPLE av;1BROWN av;1RED at;1BLUE at;1ORANGE at",
   "1YELLOW at;1GREEN at;1PURPLE at;1BROWN at;4+0ad fy f;F+0am h a c bk cm;0bo h a c bk cm",
   "0ac h a c bk cm;0bj h a c bk cm;0am h a bq bk cm;0bo h a bq bk cm;0ac h a bq bk cm",
   "0bj h a bq bk cm;0am h a co bk cm;0bo h a co bk cm;0ac h a co bk cm;0bj h a co bk cm",
   "4+0am h a c iq cm;0bo h a c iq cm;0ac h a c iq cm;0bj h a c iq cm;0am h a iq cm;0bo h a iq cm",
   "0ac h a iq cm;0bj h a iq cm;0ad am h a iq cm;1bo h a iq cm;1ac h a iq cm;1bj h a iq cm",
   "1am h a co iq cm;1bo h a co iq cm;1ac h a co iq cm;1bj h a co iq cm;0am cn h a NARROW jm",
   "0bo cn h a NARROW jm;0ac cn h a NARROW jm;0bj cn h a NARROW jm;0am cn h a bq jm",
   "0bo cn h a bq jm;0ac cn h a bq jm;0bj cn h a bq jm;0am cn h a hi jm;0bo cn h a hi jm",
   "0ac cn h a hi jm;0bj cn h a hi jm;0am cn h a ad jm;0bo cn h a ad jm;0ac cn h a ad jm",
   "0bj cn h a ad jm;0am cn h a hr ad jm;0bo cn h a hr ad jm;0ac cn h a hr ad jm",
   "0bj cn h a hr ad jm;0am yb h;0bo yb h;0ac yb h;0bj yb h;0am fx h;0bo fx h;0ac fx h;0bj fx h",
   "0am rn h;0bo rn h;0ac rn h;0bj rn h;0am ad rn h;0bo ad rn h;0ac ad rn h;0bj ad rn h;0am ad h",
   "0bo ad h;0ac ad h;0bj ad h;8+0am iz h;0bo iz h;0ac iz h;0bj iz h;0eg du iz h;1db iz h",
   "0ev db iz h;1du iz h;0k i iz h;0UP aq iz h;6+0WIDE-HEADED am bd bm h;1bo bd bm h;1ac bd bm h",
   "1bj bd bm h;1eg du bd bm h;2db bd bm h;1ev db bd bm h;2du bd bm h;1am bm h;1bo bm h;1ac bm h",
   "1bj bm h;1eg du bm h;2db bm h;1ev db bm h;2du bm h;1am bq bm h;1bo bq bm h;1ac bq bm h",
   "1bj bq bm h;1eg du bq bm h;2db bq bm h;1ev db bq bm h;2du bq bm h;1am ad bm h;1bo ad bm h",
   "1ac ad bm h;1bj ad bm h;1eg du ad bm h;2db ad bm h;1ev db ad bm h;2du ad bm h;1am hr ad bm h",
   "1bo hr ad bm h;1ac hr ad bm h;1bj hr ad bm h;1eg du hr ad bm h;2db hr ad bm h",
   "1ev db hr ad bm h;2du hr ad bm h;8+0am bk cm;0bo bk cm;0ac bk cm;0bj bk cm;0am v h uc bk cm",
   "0bo v h uc bk cm;0ac v h uc bk cm;0bj v h uc bk cm;0am h a rb dq;0bo h a rb dq;0ac h a rb dq",
   "0bj h a rb dq;0ad h jm WIDTH o;4l ri;4o ao;5ob;0am BOTTOM-SHADED v h;0ac gj SHADED v h",
   "0am ez SHADED v h;0ac ez SHADED v h;0am LEFT-SHADED v h;0ac zi v h;0am zi v h",
   "0ac LEFT-SHADED v h;0am BACK-TILTED np v h;0ac BACK-TILTED np v h;0am zj np v h;0ac zj np v h",
   "0v h jm WIDTH o;4l ri;2+0h cv bo THEN eg du;2ac THEN CURVING ev du;4E+0ds em FORMEE a w aw",
   "4l aw;2FORMEE;0k ao av a w aw;4s aw;4l aw;4q;2av;0DOWNWARD FACING x;2rb x;2x a q;2rb x a q",
   "0PINCHED iw;0v hh;0BROWN hh;0PINCHING gs;0ZIPPER-MOUTH au;0MONEY-MOUTH au;0au a THERMOMETER",
   "0NERD au;0THINKING au;0au a HEAD-BANDAGE;0ROBOT au;0HUGGING au;0f OF fr HORNS;0CALL ME gs",
   "0ic BACK OF gs;0xp FIST;0xk FIST;0HANDSHAKE;0gs a be g ae iw nu;0I LOVE YOU gs f",
   "0au a COWBOY HAT;0CLOWN au;0NAUSEATED au;0ROLLING ON fr qo LAUGHING;0DROOLING au;0LYING au",
   "0au PALM;0SNEEZING au;0au a o EYEBROW ic;0GRINNING au a dl js;3o co g o c EYE",
   "0au a tg COVERING fz LIPS;0SERIOUS au a SYMBOLS COVERING jr;0la au a la js g gs COVERING jr",
   "0au a by jr VOMITING;0SHOCKED au a EXPLODING kh;0PREGNANT WOMAN;0BREAST-FEEDING",
   "0PALMS UP TOGETHER;0SELFIE;0PRINCE;0MAN IN TUXEDO;0MOTHER CHRISTMAS;0SHRUG;0lp DOING CARTWHEEL",
   "0JUGGLING;0FENCER;0MODERN PENTATHLON;0WRESTLERS;0oc POLO;0HANDBALL;0DIVING MASK;0WILTED FLOWER",
   "0DRUM a DRUMSTICKS;0CLINKING GLASSES;0TUMBLER GLASS;0SPOON;0GOAL NET;0RIFLE;0FIRST PLACE MEDAL",
   "0uh PLACE MEDAL;0ob PLACE MEDAL;0BOXING GLOVE;0MARTIAL ARTS UNIFORM;0CURLING STONE",
   "0LACROSSE STICK g BALL;0SOFTBALL;0FLYING DISC;0CROISSANT;0AVOCADO;0CUCUMBER;0BACON;0POTATO",
   "0CARROT;0BAGUETTE BREAD;0GREEN SALAD;0SHALLOW PAN OF FOOD;0STUFFED FLATBREAD;0EGG",
   "0GLASS OF MILK;0PEANUTS;0KIWIFRUIT;0PANCAKES;0DUMPLING;0FORTUNE COOKIE;0TAKEOUT hy;0CHOPSTICKS",
   "0BOWL a SPOON;0CUP a STRAW;0COCONUT;0BROCCOLI;0PIE;0PRETZEL;0CUT OF MEAT;0SANDWICH",
   "0CANNED FOOD;0LEAFY GREEN;0MANGO;0ig CAKE;0BAGEL;0la au a la js g s lc;0YAWNING au",
   "0la au a TEAR;0au a PARTY gb g PARTY HAT;2UNEVEN js g WAVY jr;0OVERHEATED au;0FREEZING au",
   "0NINJA;0DISGUISED au;0au vo BACK TEARS;1a PLEADING js;0SARI;0LAB COAT;0GOGGLES;0HIKING BOOT",
   "0FLAT SHOE;0CRAB;0LION au;0SCORPION;0TURKEY;0UNICORN au;0EAGLE;0DUCK;0BAT;0SHARK;0OWL;0FOX au",
   "0BUTTERFLY;0DEER;0GORILLA;0LIZARD;0RHINOCEROS;0SHRIMP;0SQUID;0GIRAFFE au;0ZEBRA au;0HEDGEHOG",
   "0SAUROPOD;0T-REX;0CRICKET;0KANGAROO;0LLAMA;0PEACOCK;0HIPPOPOTAMUS;0PARROT;0RACCOON;0LOBSTER",
   "0MOSQUITO;0MICROBE;0BADGER;0SWAN;0MAMMOTH;0DODO;0SLOTH;0OTTER;0ORANGUTAN;0SKUNK;0FLAMINGO",
   "0OYSTER;0BEAVER;0BISON;0SEAL;0GUIDE DOG;0PROBING CANE;0EMOJI COMPONENT RED HAIR;2ie HAIR;2BALD",
   "2v HAIR;0BONE;0LEG;0FOOT;0TOOTH;0SUPERHERO;0SUPERVILLAIN;0SAFETY VEST;0EAR a HEARING AID",
   "0MOTORIZED WHEELCHAIR;0MANUAL WHEELCHAIR;0MECHANICAL ARM;1LEG;0CHEESE WEDGE;0CUPCAKE",
   "0SALT SHAKER;0BEVERAGE hy;0GARLIC;0ONION;0FALAFEL;0WAFFLE;0BUTTER;0MATE DRINK;0ICE CUBE",
   "0rk TEA;0TROLL;0STANDING lp;0KNEELING lp;0DEAF lp;0au a MONOCLE;0ADULT;0CHILD;0OLDER ADULT",
   "0BEARDED lp;0lp a HEADSCARF;1IN STEAMY ROOM;1CLIMBING;1IN LOTUS POSITION;0MAGE;0FAIRY;0VAMPIRE",
   "0MERPERSON;0ELF;0GENIE;0ZOMBIE;0BRAIN;0ORANGE hh;0BILLED CAP;0SCARF;0GLOVES;0COAT;0SOCKS",
   "0RED GIFT qy;0FIRECRACKER;0JIGSAW PUZZLE PIECE;0TEST TUBE;0PETRI je;0DNA p HELIX;0COMPASS",
   "0ABACUS;0FIRE EXTINGUISHER;0TOOLBOX;0BRICK;0MAGNET;0LUGGAGE;0LOTION BOTTLE;0SPOOL OF THREAD",
   "0BALL OF YARN;0SAFETY PIN;0TEDDY BEAR;0BROOM;0BASKET;0ROLL OF PAPER;0ak OF SOAP;0SPONGE",
   "0RECEIPT;0NAZAR AMULET;0ji gl ku;2lt;2ROOK;2os;2hq;2PAWN;0v gl hq da FORTY-FIVE dx",
   "0t gl hq da FORTY-FIVE dx;0ji gl hq da FORTY-FIVE dx;0v gl ku da fn dx;2lt da fn dx",
   "2ROOK da fn dx;2os da fn dx;2hq da fn dx;2PAWN da fn dx;0t gl ku da fn dx;2lt da fn dx",
   "2ROOK da fn dx;2os da fn dx;2hq da fn dx;2PAWN da fn dx;0ji gl ku da fn dx;2lt da fn dx",
   "2ROOK da fn dx;2os da fn dx;2hq da fn dx;2PAWN da fn dx;0v gl hq da o ap THIRTY-FIVE dx",
   "0t gl hq da o ap THIRTY-FIVE dx;0ji gl hq da o ap THIRTY-FIVE dx;0v gl bz ku;3lt;3ROOK;3os;3hq",
   "3PAWN;0t gl bz ku;3lt;3ROOK;3os;3hq;3PAWN;0ji gl bz ku;3lt;3ROOK;3os;3hq;3PAWN",
   "0v gl hq da l ap xy dx;0t gl hq da l ap xy dx;0ji gl hq da l ap xy dx;0v gl ku da l ap ga dx",
   "2lt da l ap ga dx;2ROOK da l ap ga dx;2os da l ap ga dx;2hq da l ap ga dx;2PAWN da l ap ga dx",
   "0t gl ku da l ap ga dx;2lt da l ap ga dx;2ROOK da l ap ga dx;2os da l ap ga dx",
   "2hq da l ap ga dx;2PAWN da l ap ga dx;0ji gl ku da l ap ga dx;2lt da l ap ga dx",
   "2ROOK da l ap ga dx;2os da l ap ga dx;2hq da l ap ga dx;2PAWN da l ap ga dx",
   "0v gl hq da s ap pj dx;0t gl hq da s ap pj dx;0ji gl hq da s ap pj dx;0v gl us;0t gl us",
   "0ji gl us;0v gl us da fn dx;0t gl us da fn dx;0ji gl us da fn dx;0v gl KNIGHT-QUEEN",
   "2KNIGHT-ROOK;2KNIGHT-BISHOP;0t gl KNIGHT-QUEEN;2KNIGHT-ROOK;2KNIGHT-BISHOP",
   "C+0XIANGQI RED GENERAL;2MANDARIN;2ELEPHANT;2HORSE;2CHARIOT;2CANNON;2SOLDIER;1t GENERAL",
   "2MANDARIN;2ELEPHANT;2HORSE;2CHARIOT;2CANNON;2SOLDIER;2+0BALLET SHOES;0ONE-PIECE SWIMSUIT",
   "0BRIEFS;0SHORTS;0THONG SANDAL;3+0DROP OF BLOOD;0ADHESIVE BANDAGE;0STETHOSCOPE;0X-RAY;0CRUTCH",
   "3+0YO-YO;0KITE;0PARACHUTE;0BOOMERANG;0MAGIC WAND;0PINATA;0NESTING DOLLS;9+0RINGED PLANET",
   "0CHAIR;0RAZOR;0AXE;0DIYA LAMP;0BANJO;0MILITARY HELMET;0ACCORDION;0cb DRUM;0COIN;0CARPENTRY SAW",
   "0SCREWDRIVER;0LADDER;0x;0MIRROR;0WINDOW;0PLUNGER;0SEWING NEEDLE;0KNOT;0BUCKET;0MOUSE TRAP",
   "0TOOTHBRUSH;0HEADSTONE;0PLACARD;0ROCK;0MIRROR BALL;0IDENTIFICATION CARD;0bn BATTERY;0HAMSA",
   "3+0FLY;0WORM;0BEETLE;0COCKROACH;0POTTED PLANT;0WOOD;0FEATHER;0LOTUS;0CORAL;0EMPTY NEST",
   "0NEST a EGGS;5+0ANATOMICAL hh;0LUNGS;0PEOPLE HUGGING;0PREGNANT MAN;1lp;0lp a CROWN",
   "A+0BLUEBERRIES;0BELL PEPPER;0OLIVE;0FLATBREAD;0TAMALE;0FONDUE;0TEAPOT;0POURING LIQUID;0BEANS",
   "0JAR;6+0MELTING au;0SALUTING au;0au a by js g gs ay jr;2PEEKING EYE;2en jr;0fm cs au",
   "0BITING LIP;0BUBBLES;8+0gs a be tg g bw nu;0ac gs;0am gs;0PALM aq gs;1UP gs",
   "0be cv AT fr VIEWER;0hh HANDS;9+0dk SEXTANT-1;1SEXTANT-2;1SEXTANT-12;1SEXTANT-3;1SEXTANT-13",
   "1SEXTANT-23;1SEXTANT-123;1SEXTANT-4;1SEXTANT-14;1SEXTANT-24;1SEXTANT-124;1SEXTANT-34",
   "1SEXTANT-134;1SEXTANT-234;1SEXTANT-1234;1SEXTANT-5;1SEXTANT-15;1SEXTANT-25;1SEXTANT-125",
   "1SEXTANT-35;1SEXTANT-235;1SEXTANT-1235;1SEXTANT-45;1SEXTANT-145;1SEXTANT-245;1SEXTANT-1245",
   "1SEXTANT-345;1SEXTANT-1345;1SEXTANT-2345;1SEXTANT-12345;1SEXTANT-6;1SEXTANT-16;1SEXTANT-26",
   "1SEXTANT-126;1SEXTANT-36;1SEXTANT-136;1SEXTANT-236;1SEXTANT-1236;1SEXTANT-46;1SEXTANT-146",
   "1SEXTANT-1246;1SEXTANT-346;1SEXTANT-1346;1SEXTANT-2346;1SEXTANT-12346;1SEXTANT-56;1SEXTANT-156",
   "1SEXTANT-256;1SEXTANT-1256;1SEXTANT-356;1SEXTANT-1356;1SEXTANT-2356;1SEXTANT-12356",
   "1SEXTANT-456;1SEXTANT-1456;1SEXTANT-2456;1SEXTANT-12456;1SEXTANT-3456;1SEXTANT-13456",
   "1SEXTANT-23456;0bl k dk en bl ae k TO bl dn;9i;4bv ae k TO bl dn;9i;5k TO bl dn",
   "1i dk en bv ae k TO bv dn;9i;4bl ae k TO bv dn;9i;5k TO bv dn;5ae k TO bv ae i;5dn TO bl ae i",
   "5k TO bl ae i;5dn TO bv ae i;5k TO bv ae i;5dn TO bv i;1k dk en bv dn TO bv ae i;5k TO bv ae i",
   "5dn TO bl ae i;5k TO bl ae i;5dn TO bl i;5ae k TO bl ae i;0bv i dk en bl ae k TO bl dn;9i",
   "4bv ae k TO bl dn;9i;5k TO bl dn;1k dk en bv ae k TO bv dn;9i;4bl ae k TO bv dn;9i;5k TO bv dn",
   "5ae k TO bv ae i;5dn TO bl ae i;5k TO bl ae i;5dn TO bv ae i;5k TO bv ae i;5dn TO bv i",
   "1i dk en bv dn TO bv ae i;5k TO bv ae i;5dn TO bl ae i;5k TO bl ae i;5dn TO bl i",
   "5ae k TO bl ae i;1g i g bl jf s mc dk;0k g bl g i jf s mc dk;0bv g k g bl jf s mc dk",
   "0k g bv g i jf s mc dk;1jf o gf dk;0bv jf o gf dk;0i jf o gf dk;0bl jf o gf dk",
   "0af o ht BLOCK-2;3BLOCK-3;3BLOCK-4;3BLOCK-5;3BLOCK-6;3BLOCK-7;0bf o ht BLOCK-2;3BLOCK-3",
   "3BLOCK-4;3BLOCK-5;3BLOCK-6;3BLOCK-7;0k g bl o ht dk;2bv o ht dk;0i g bv o ht dk;2bl o ht dk",
   "0bv g bl o ht dk;0bf o ht BLOCK-1358;0bv o gf dk;1s mg dk;1aa mg dk;1s mc dk;1an mg dk",
   "0i o gf dk;1s mg dk;1aa mg dk;1s mc dk;1an mg dk;0k ao bq mn;0i ao bq mn;0bv ao bq mn",
   "0bl ao bq mn;0qb bq mn;0bv ao dk g bl ao qb bq mn;2qb bq mn g bl ao dk",
   "1+0k ao qb bq mn g i ao dk;0CHECKER BOARD nj;0qb CHECKER BOARD nj;0ad bf nj;0bv k TO bl i nj",
   "1i TO bl k nj;1g bl jf ao dk;0k g i jf ao dk;0bv k jf bq mn;1i jf bq mn;0bl i jf bq mn",
   "1k jf bq mn;0hy DRAWINGS bd en bv dn TO ae k;8i;4ae k TO bl dn;5i TO bl dn",
   "4bv dn TO ae k TO bl dn;8i TO bl dn;4ae k TO bl dn TO ae i;7bv dn TO ae i",
   "4bv dn TO ae k g ae i TO bl dn;8i g ae k TO bl dn;9TO bl dn TO ae k;8k TO bl dn TO ae i",
   "4ae k TO bv dn TO ae i TO bl dn;5i TO bv dn TO ae k TO bl dn;4ff;3bf a af y",
   "0ARROWHEAD-SHAPED POINTER;0qb oz r;0k ao RUNNING MAN;0i ao RUNNING MAN;0qb bj h a TIP am",
   "0am h g bv g bl o ht dk;0ac h g bv g bl o ht dk;0bj h g i o ht dk;0bo h g i o ht dk;0k ao uk",
   "0i ao uk;0VOIDED im em;0i by fx q;0md en em;2ae i TO bl dn;2ff;0v ad pk a pw vl",
   "0k ob v i cv be;0ae ob v i cv be;0i ob v i cv be;0md fx hd r;0STICK FIGURE;2a ARMS ic",
   "2LEANING k;3i;2a DRESS;0v mu CHEVRON;25+0SEGMENTED bh bt;2o;2l;2s;2w;2aa;2ag;2an;2ah;2ar",
   "C0407+0LANGUAGE TAG;1E+0TAG jk;1ia r;1gu r;1cz f;1ua f;1PERCENT f;1ro;1qs;1k ew;1i ew;1ek",
   "1al f;1de;1xj;1ec ck;1iu;1bh bt;2o;2l;2s;2w;2aa;2ag;2an;2ah;2ar;1gp;1oi;1dg f;1fy f;1di f",
   "1hd r;1wb AT;1ea e b A;4B;4C;4D;4E;4F;4G;4H;4I;4J;4K;4L;4M;4N;4O;4P;4Q;4R;4S;4T;4U;4V;4W;4X;4Y",
   "4Z;1k at as;1jq iu;1i at as;1cd fj;1bn cs;1cq fj;1ea c b A;4B;4C;4D;4E;4F;4G;4H;4I;4J;4K;4L;4M",
   "4N;4O;4P;4Q;4R;4S;4T;4U;4V;4W;4X;4Y;4Z;1k ie as;1af cs;1i ie as;1bg;0CANCEL TAG",
   "80+0wg SELECTOR-17;1SELECTOR-18;1SELECTOR-19;1SELECTOR-20;1SELECTOR-21;1SELECTOR-22",
   "1SELECTOR-23;1SELECTOR-24;1SELECTOR-25;1SELECTOR-26;1SELECTOR-27;1SELECTOR-28;1SELECTOR-29",
   "1SELECTOR-30;1SELECTOR-31;1SELECTOR-32;1SELECTOR-33;1SELECTOR-34;1SELECTOR-35;1SELECTOR-36",
   "1SELECTOR-37;1SELECTOR-38;1SELECTOR-39;1SELECTOR-40;1SELECTOR-41;1SELECTOR-42;1SELECTOR-43",
   "1SELECTOR-44;1SELECTOR-45;1SELECTOR-46;1SELECTOR-47;1SELECTOR-48;1SELECTOR-49;1SELECTOR-50",
   "1SELECTOR-51;1SELECTOR-52;1SELECTOR-53;1SELECTOR-54;1SELECTOR-55;1SELECTOR-56;1SELECTOR-57",
   "1SELECTOR-58;1SELECTOR-59;1SELECTOR-60;1SELECTOR-61;1SELECTOR-62;1SELECTOR-63;1SELECTOR-64",
   "1SELECTOR-65;1SELECTOR-66;1SELECTOR-67;1SELECTOR-68;1SELECTOR-69;1SELECTOR-70;1SELECTOR-71",
   "1SELECTOR-72;1SELECTOR-73;1SELECTOR-74;1SELECTOR-75;1SELECTOR-76;1SELECTOR-77;1SELECTOR-78",
   "1SELECTOR-79;1SELECTOR-80;1SELECTOR-81;1SELECTOR-82;1SELECTOR-83;1SELECTOR-84;1SELECTOR-85",
   "1SELECTOR-86;1SELECTOR-87;1SELECTOR-88;1SELECTOR-89;1SELECTOR-90;1SELECTOR-91;1SELECTOR-92",
   "1SELECTOR-93;1SELECTOR-94;1SELECTOR-95;1SELECTOR-96;1SELECTOR-97;1SELECTOR-98;1SELECTOR-99",
   "1SELECTOR-100;1SELECTOR-101;1SELECTOR-102;1SELECTOR-103;1SELECTOR-104;1SELECTOR-105",
   "1SELECTOR-106;1SELECTOR-107;1SELECTOR-108;1SELECTOR-109;1SELECTOR-110;1SELECTOR-111",
   "1SELECTOR-112;1SELECTOR-113;1SELECTOR-114;1SELECTOR-115;1SELECTOR-116;1SELECTOR-117",
   "1SELECTOR-118;1SELECTOR-119;1SELECTOR-120;1SELECTOR-121;1SELECTOR-122;1SELECTOR-123",
   "1SELECTOR-124;1SELECTOR-125;1SELECTOR-126;1SELECTOR-127;1SELECTOR-128;1SELECTOR-129",
   "1SELECTOR-130;1SELECTOR-131;1SELECTOR-132;1SELECTOR-133;1SELECTOR-134;1SELECTOR-135",
   "1SELECTOR-136;1SELECTOR-137;1SELECTOR-138;1SELECTOR-139;1SELECTOR-140;1SELECTOR-141",
   "1SELECTOR-142;1SELECTOR-143;1SELECTOR-144;1SELECTOR-145;1SELECTOR-146;1SELECTOR-147",
   "1SELECTOR-148;1SELECTOR-149;1SELECTOR-150;1SELECTOR-151;1SELECTOR-152;1SELECTOR-153",
   "1SELECTOR-154;1SELECTOR-155;1SELECTOR-156;1SELECTOR-157;1SELECTOR-158;1SELECTOR-159",
   "1SELECTOR-160;1SELECTOR-161;1SELECTOR-162;1SELECTOR-163;1SELECTOR-164;1SELECTOR-165",
   "1SELECTOR-166;1SELECTOR-167;1SELECTOR-168;1SELECTOR-169;1SELECTOR-170;1SELECTOR-171",
   "1SELECTOR-172;1SELECTOR-173;1SELECTOR-174;1SELECTOR-175;1SELECTOR-176;1SELECTOR-177",
   "1SELECTOR-178;1SELECTOR-179;1SELECTOR-180;1SELECTOR-181;1SELECTOR-182;1SELECTOR-183",
   "1SELECTOR-184;1SELECTOR-185;1SELECTOR-186;1SELECTOR-187;1SELECTOR-188;1SELECTOR-189",
   "1SELECTOR-190;1SELECTOR-191;1SELECTOR-192;1SELECTOR-193;1SELECTOR-194;1SELECTOR-195",
   "1SELECTOR-196;1SELECTOR-197;1SELECTOR-198;1SELECTOR-199;1SELECTOR-200;1SELECTOR-201",
   "1SELECTOR-202;1SELECTOR-203;1SELECTOR-204;1SELECTOR-205;1SELECTOR-206;1SELECTOR-207",
   "1SELECTOR-208;1SELECTOR-209;1SELECTOR-210;1SELECTOR-211;1SELECTOR-212;1SELECTOR-213",
   "1SELECTOR-214;1SELECTOR-215;1SELECTOR-216;1SELECTOR-217;1SELECTOR-218;1SELECTOR-219",
   "1SELECTOR-220;1SELECTOR-221;1SELECTOR-222;1SELECTOR-223;1SELECTOR-224;1SELECTOR-225",
   "1SELECTOR-226;1SELECTOR-227;1SELECTOR-228;1SELECTOR-229;1SELECTOR-230;1SELECTOR-231",
   "1SELECTOR-232;1SELECTOR-233;1SELECTOR-234;1SELECTOR-235;1SELECTOR-236;1SELECTOR-237",
   "1SELECTOR-238;1SELECTOR-239;1SELECTOR-240;1SELECTOR-241;1SELECTOR-242;1SELECTOR-243",
   "1SELECTOR-244;1SELECTOR-245;1SELECTOR-246;1SELECTOR-247;1SELECTOR-248;1SELECTOR-249",
   "1SELECTOR-250;1SELECTOR-251;1SELECTOR-252;1SELECTOR-253;1SELECTOR-254;1SELECTOR-255",
   "1SELECTOR-256"]

/-- Further names, each with its code point behind a sign of equality. -/
def aliasTable : List String :=
  ["NULL=0;NUL=0;START OF HEADING=1;SOH=1;START OF TEXT=2;STX=2;END OF TEXT=3;ETX=3",
   "END OF TRANSMISSION=4;EOT=4;ENQUIRY=5;ENQ=5;ACKNOWLEDGE=6;ACK=6;ALERT=7;BEL=7;BACKSPACE=8;BS=8",
   "CHARACTER TABULATION=9;HORIZONTAL TABULATION=9;HT=9;TAB=9;LINE FEED=a;NEW LINE=a;END OF LINE=a",
   "LF=a;NL=a;EOL=a;LINE TABULATION=b;VERTICAL TABULATION=b;VT=b;FORM FEED=c;FF=c",
   "CARRIAGE RETURN=d;CR=d;SHIFT OUT=e;LOCKING-SHIFT ONE=e;SO=e;SHIFT IN=f;LOCKING-SHIFT ZERO=f",
   "SI=f;DATA LINK ESCAPE=10;DLE=10;DEVICE CONTROL ONE=11;DC1=11;DEVICE CONTROL TWO=12;DC2=12",
   "DEVICE CONTROL THREE=13;DC3=13;DEVICE CONTROL FOUR=14;DC4=14;NEGATIVE ACKNOWLEDGE=15;NAK=15",
   "SYNCHRONOUS IDLE=16;SYN=16;END OF TRANSMISSION BLOCK=17;ETB=17;CANCEL=18;CAN=18",
   "END OF MEDIUM=19;EOM=19;SUBSTITUTE=1a;SUB=1a;ESCAPE=1b;ESC=1b;INFORMATION SEPARATOR FOUR=1c",
   "FILE SEPARATOR=1c;FS=1c;INFORMATION SEPARATOR THREE=1d;GROUP SEPARATOR=1d;GS=1d",
   "INFORMATION SEPARATOR TWO=1e;RECORD SEPARATOR=1e;RS=1e;INFORMATION SEPARATOR ONE=1f",
   "UNIT SEPARATOR=1f;US=1f;SP=20;DELETE=7f;DEL=7f;PADDING CHARACTER=80;PAD=80",
   "HIGH OCTET PRESET=81;HOP=81;BREAK PERMITTED HERE=82;BPH=82;NO BREAK HERE=83;NBH=83;INDEX=84",
   "IND=84;NEXT LINE=85;NEL=85;START OF SELECTED AREA=86;SSA=86;END OF SELECTED AREA=87;ESA=87",
   "CHARACTER TABULATION SET=88;HORIZONTAL TABULATION SET=88;HTS=88",
   "CHARACTER TABULATION WITH JUSTIFICATION=89;HORIZONTAL TABULATION WITH JUSTIFICATION=89;HTJ=89",
   "LINE TABULATION SET=8a;VERTICAL TABULATION SET=8a;VTS=8a;PARTIAL LINE FORWARD=8b",
   "PARTIAL LINE DOWN=8b;PLD=8b;PARTIAL LINE BACKWARD=8c;PARTIAL LINE UP=8c;PLU=8c",
   "REVERSE LINE FEED=8d;REVERSE INDEX=8d;RI=8d;SINGLE SHIFT TWO=8e;SINGLE-SHIFT-2=8e;SS2=8e",
   "SINGLE SHIFT THREE=8f;SINGLE-SHIFT-3=8f;SS3=8f;DEVICE CONTROL STRING=90;DCS=90",
   "PRIVATE USE ONE=91;PRIVATE USE-1=91;PU1=91;PRIVATE USE TWO=92;PRIVATE USE-2=92;PU2=92",
   "SET TRANSMIT STATE=93;STS=93;CANCEL CHARACTER=94;CCH=94;MESSAGE WAITING=95;MW=95",
   "START OF GUARDED AREA=96;START OF PROTECTED AREA=96;SPA=96;END OF GUARDED AREA=97",
   "END OF PROTECTED AREA=97;EPA=97;START OF STRING=98;SOS=98",
   "SINGLE GRAPHIC CHARACTER INTRODUCER=99;SGC=99;SINGLE CHARACTER INTRODUCER=9a;SCI=9a",
   "CONTROL SEQUENCE INTRODUCER=9b;CSI=9b;STRING TERMINATOR=9c;ST=9c;OPERATING SYSTEM COMMAND=9d",
   "OSC=9d;PRIVACY MESSAGE=9e;PM=9e;APPLICATION PROGRAM COMMAND=9f;APC=9f;NBSP=a0;SHY=ad",
   "LATIN CAPITAL LETTER GHA=1a2;LATIN SMALL LETTER GHA=1a3;CGJ=34f;ALM=61c",
   "SYRIAC SUBLINEAR COLON SKEWED LEFT=709;KANNADA LETTER LLLA=cde;LAO LETTER FO FON=e9d",
   "LAO LETTER FO FAY=e9f;LAO LETTER RO=ea3;LAO LETTER LO=ea5",
   "TIBETAN MARK BKA- SHOG GI MGO RGYAN=fd0;HANGUL JONGSEONG YESIEUNG-KIYEOK=11ec",
   "HANGUL JONGSEONG YESIEUNG-SSANGKIYEOK=11ed;HANGUL JONGSEONG SSANGYESIEUNG=11ee",
   "HANGUL JONGSEONG YESIEUNG-KHIEUKH=11ef;FVS1=180b;FVS2=180c;FVS3=180d;MVS=180e;FVS4=180f",
   "ZWSP=200b;ZWNJ=200c;ZWJ=200d;LRM=200e;RLM=200f;LRE=202a;RLE=202b;PDF=202c;LRO=202d;RLO=202e",
   "NNBSP=202f;MMSP=205f;WJ=2060;LRI=2066;RLI=2067;FSI=2068;PDI=2069",
   "WEIERSTRASS ELLIPTIC FUNCTION=2118;MICR ON US SYMBOL=2448;MICR DASH SYMBOL=2449",
   "LEFTWARDS TRIANGLE-HEADED ARROW WITH DOUBLE VERTICAL STROKE=2b7a",
   "RIGHTWARDS TRIANGLE-HEADED ARROW WITH DOUBLE VERTICAL STROKE=2b7c",
   "YI SYLLABLE ITERATION MARK=a015;MYANMAR LETTER KHAMTI LLA=aa6e;VS1=fe00;VS2=fe01;VS3=fe02",
   "VS4=fe03;VS5=fe04;VS6=fe05;VS7=fe06;VS8=fe07;VS9=fe08;VS10=fe09;VS11=fe0a;VS12=fe0b;VS13=fe0c",
   "VS14=fe0d;VS15=fe0e;VS16=fe0f",
   "PRESENTATION FORM FOR VERTICAL RIGHT WHITE LENTICULAR BRACKET=fe18;BYTE ORDER MARK=feff",
   "BOM=feff;ZWNBSP=feff;CUNEIFORM SIGN NU11 TENU=122d4",
   "CUNEIFORM SIGN NU11 OVER NU11 BUR OVER BUR=122d5;MEDEFAIDRIN CAPITAL LETTER H=16e56",
   "MEDEFAIDRIN CAPITAL LETTER NG=16e57;MEDEFAIDRIN SMALL LETTER H=16e76",
   "MEDEFAIDRIN SMALL LETTER NG=16e77;HENTAIGANA LETTER E-1=1b001",
   "BYZANTINE MUSICAL SYMBOL FTHORA SKLIRON CHROMA VASIS=1d0c5;VS17=e0100;VS18=e0101;VS19=e0102",
   "VS20=e0103;VS21=e0104;VS22=e0105;VS23=e0106;VS24=e0107;VS25=e0108;VS26=e0109;VS27=e010a",
   "VS28=e010b;VS29=e010c;VS30=e010d;VS31=e010e;VS32=e010f;VS33=e0110;VS34=e0111;VS35=e0112",
   "VS36=e0113;VS37=e0114;VS38=e0115;VS39=e0116;VS40=e0117;VS41=e0118;VS42=e0119;VS43=e011a",
   "VS44=e011b;VS45=e011c;VS46=e011d;VS47=e011e;VS48=e011f;VS49=e0120;VS50=e0121;VS51=e0122",
   "VS52=e0123;VS53=e0124;VS54=e0125;VS55=e0126;VS56=e0127;VS57=e0128;VS58=e0129;VS59=e012a",
   "VS60=e012b;VS61=e012c;VS62=e012d;VS63=e012e;VS64=e012f;VS65=e0130;VS66=e0131;VS67=e0132",
   "VS68=e0133;VS69=e0134;VS70=e0135;VS71=e0136;VS72=e0137;VS73=e0138;VS74=e0139;VS75=e013a",
   "VS76=e013b;VS77=e013c;VS78=e013d;VS79=e013e;VS80=e013f;VS81=e0140;VS82=e0141;VS83=e0142",
   "VS84=e0143;VS85=e0144;VS86=e0145;VS87=e0146;VS88=e0147;VS89=e0148;VS90=e0149;VS91=e014a",
   "VS92=e014b;VS93=e014c;VS94=e014d;VS95=e014e;VS96=e014f;VS97=e0150;VS98=e0151;VS99=e0152",
   "VS100=e0153;VS101=e0154;VS102=e0155;VS103=e0156;VS104=e0157;VS105=e0158;VS106=e0159",
   "VS107=e015a;VS108=e015b;VS109=e015c;VS110=e015d;VS111=e015e;VS112=e015f;VS113=e0160",
   "VS114=e0161;VS115=e0162;VS116=e0163;VS117=e0164;VS118=e0165;VS119=e0166;VS120=e0167",
   "VS121=e0168;VS122=e0169;VS123=e016a;VS124=e016b;VS125=e016c;VS126=e016d;VS127=e016e",
   "VS128=e016f;VS129=e0170;VS130=e0171;VS131=e0172;VS132=e0173;VS133=e0174;VS134=e0175",
   "VS135=e0176;VS136=e0177;VS137=e0178;VS138=e0179;VS139=e017a;VS140=e017b;VS141=e017c",
   "VS142=e017d;VS143=e017e;VS144=e017f;VS145=e0180;VS146=e0181;VS147=e0182;VS148=e0183",
   "VS149=e0184;VS150=e0185;VS151=e0186;VS152=e0187;VS153=e0188;VS154=e0189;VS155=e018a",
   "VS156=e018b;VS157=e018c;VS158=e018d;VS159=e018e;VS160=e018f;VS161=e0190;VS162=e0191",
   "VS163=e0192;VS164=e0193;VS165=e0194;VS166=e0195;VS167=e0196;VS168=e0197;VS169=e0198",
   "VS170=e0199;VS171=e019a;VS172=e019b;VS173=e019c;VS174=e019d;VS175=e019e;VS176=e019f",
   "VS177=e01a0;VS178=e01a1;VS179=e01a2;VS180=e01a3;VS181=e01a4;VS182=e01a5;VS183=e01a6",
   "VS184=e01a7;VS185=e01a8;VS186=e01a9;VS187=e01aa;VS188=e01ab;VS189=e01ac;VS190=e01ad",
   "VS191=e01ae;VS192=e01af;VS193=e01b0;VS194=e01b1;VS195=e01b2;VS196=e01b3;VS197=e01b4",
   "VS198=e01b5;VS199=e01b6;VS200=e01b7;VS201=e01b8;VS202=e01b9;VS203=e01ba;VS204=e01bb",
   "VS205=e01bc;VS206=e01bd;VS207=e01be;VS208=e01bf;VS209=e01c0;VS210=e01c1;VS211=e01c2",
   "VS212=e01c3;VS213=e01c4;VS214=e01c5;VS215=e01c6;VS216=e01c7;VS217=e01c8;VS218=e01c9",
   "VS219=e01ca;VS220=e01cb;VS221=e01cc;VS222=e01cd;VS223=e01ce;VS224=e01cf;VS225=e01d0",
   "VS226=e01d1;VS227=e01d2;VS228=e01d3;VS229=e01d4;VS230=e01d5;VS231=e01d6;VS232=e01d7",
   "VS233=e01d8;VS234=e01d9;VS235=e01da;VS236=e01db;VS237=e01dc;VS238=e01dd;VS239=e01de",
   "VS240=e01df;VS241=e01e0;VS242=e01e1;VS243=e01e2;VS244=e01e3;VS245=e01e4;VS246=e01e5",
   "VS247=e01e6;VS248=e01e7;VS249=e01e8;VS250=e01e9;VS251=e01ea;VS252=e01eb;VS253=e01ec",
   "VS254=e01ed;VS255=e01ee;VS256=e01ef"]

end ApiDocs
