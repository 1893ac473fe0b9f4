import Runbook.Text.Name.Basic

/-!
# The names of pictures

The names of pictograms and other signs used as pictures, in the order of the code points.
-/

namespace Runbook.Text

set_option maxRecDepth 8000 in
/-- The names of pictograms and other signs used as pictures. -/
def pictureNames : List NameRun :=
  [⟨0x2600,
      ["BLACK SUN WITH RAYS;CLOUD;UMBRELLA;SNOWMAN;COMET;BLACK STAR;WHITE STAR;LIGHTNING",
        "THUNDERSTORM;SUN;ASCENDING NODE;DESCENDING NODE;CONJUNCTION;OPPOSITION;BLACK TELEPHONE",
        "WHITE TELEPHONE;BALLOT BOX;BALLOT BOX WITH CHECK;BALLOT BOX WITH X;SALTIRE",
        "UMBRELLA WITH RAIN DROPS;HOT BEVERAGE;WHITE SHOGI PIECE;BLACK SHOGI PIECE;SHAMROCK",
        "REVERSED ROTATED FLORAL HEART BULLET;BLACK LEFT POINTING INDEX;BLACK RIGHT POINTING INDEX",
        "WHITE LEFT POINTING INDEX;WHITE UP POINTING INDEX;WHITE RIGHT POINTING INDEX",
        "WHITE DOWN POINTING INDEX;SKULL AND CROSSBONES;CAUTION SIGN;RADIOACTIVE SIGN",
        "BIOHAZARD SIGN;CADUCEUS;ANKH;ORTHODOX CROSS;CHI RHO;CROSS OF LORRAINE;CROSS OF JERUSALEM",
        "STAR AND CRESCENT;FARSI SYMBOL;ADI SHAKTI;HAMMER AND SICKLE;PEACE SYMBOL;YIN YANG",
        "TRIGRAM FOR HEAVEN;TRIGRAM FOR LAKE;TRIGRAM FOR FIRE;TRIGRAM FOR THUNDER;TRIGRAM FOR WIND",
        "TRIGRAM FOR WATER;TRIGRAM FOR MOUNTAIN;TRIGRAM FOR EARTH;WHEEL OF DHARMA",
        "WHITE FROWNING FACE;WHITE SMILING FACE;BLACK SMILING FACE;WHITE SUN WITH RAYS",
        "FIRST QUARTER MOON;LAST QUARTER MOON;MERCURY;FEMALE SIGN;EARTH;MALE SIGN;JUPITER;SATURN",
        "URANUS;NEPTUNE;PLUTO;ARIES;TAURUS;GEMINI;CANCER;LEO;VIRGO;LIBRA;SCORPIUS;SAGITTARIUS",
        "CAPRICORN;AQUARIUS;PISCES;WHITE CHESS KING;WHITE CHESS QUEEN;WHITE CHESS ROOK",
        "WHITE CHESS BISHOP;WHITE CHESS KNIGHT;WHITE CHESS PAWN;BLACK CHESS KING;BLACK CHESS QUEEN",
        "BLACK CHESS ROOK;BLACK CHESS BISHOP;BLACK CHESS KNIGHT;BLACK CHESS PAWN;BLACK SPADE SUIT",
        "WHITE HEART SUIT;WHITE DIAMOND SUIT;BLACK CLUB SUIT;WHITE SPADE SUIT;BLACK HEART SUIT",
        "BLACK DIAMOND SUIT;WHITE CLUB SUIT;HOT SPRINGS;QUARTER NOTE;EIGHTH NOTE",
        "BEAMED EIGHTH NOTES;BEAMED SIXTEENTH NOTES;MUSIC FLAT SIGN;MUSIC NATURAL SIGN",
        "MUSIC SHARP SIGN;WEST SYRIAC CROSS;EAST SYRIAC CROSS;UNIVERSAL RECYCLING SYMBOL",
        "RECYCLING SYMBOL FOR TYPE-1 PLASTICS;RECYCLING SYMBOL FOR TYPE-2 PLASTICS",
        "RECYCLING SYMBOL FOR TYPE-3 PLASTICS;RECYCLING SYMBOL FOR TYPE-4 PLASTICS",
        "RECYCLING SYMBOL FOR TYPE-5 PLASTICS;RECYCLING SYMBOL FOR TYPE-6 PLASTICS",
        "RECYCLING SYMBOL FOR TYPE-7 PLASTICS;RECYCLING SYMBOL FOR GENERIC MATERIALS",
        "BLACK UNIVERSAL RECYCLING SYMBOL;RECYCLED PAPER SYMBOL;PARTIALLY-RECYCLED PAPER SYMBOL",
        "PERMANENT PAPER SIGN;WHEELCHAIR SYMBOL;DIE FACE-1;DIE FACE-2;DIE FACE-3;DIE FACE-4",
        "DIE FACE-5;DIE FACE-6;WHITE CIRCLE WITH DOT RIGHT;WHITE CIRCLE WITH TWO DOTS",
        "BLACK CIRCLE WITH WHITE DOT RIGHT;BLACK CIRCLE WITH TWO WHITE DOTS;MONOGRAM FOR YANG",
        "MONOGRAM FOR YIN;DIGRAM FOR GREATER YANG;DIGRAM FOR LESSER YIN;DIGRAM FOR LESSER YANG",
        "DIGRAM FOR GREATER YIN;WHITE FLAG;BLACK FLAG;HAMMER AND PICK;ANCHOR;CROSSED SWORDS",
        "STAFF OF AESCULAPIUS;SCALES;ALEMBIC;FLOWER;GEAR;STAFF OF HERMES;ATOM SYMBOL;FLEUR-DE-LIS",
        "OUTLINED WHITE STAR;THREE LINES CONVERGING RIGHT;THREE LINES CONVERGING LEFT;WARNING SIGN",
        "HIGH VOLTAGE SIGN;DOUBLED FEMALE SIGN;DOUBLED MALE SIGN;INTERLOCKED FEMALE AND MALE SIGN",
        "MALE AND FEMALE SIGN;MALE WITH STROKE SIGN;MALE WITH STROKE AND MALE AND FEMALE SIGN",
        "VERTICAL MALE WITH STROKE SIGN;HORIZONTAL MALE WITH STROKE SIGN;MEDIUM WHITE CIRCLE",
        "MEDIUM BLACK CIRCLE;MEDIUM SMALL WHITE CIRCLE;MARRIAGE SYMBOL;DIVORCE SYMBOL",
        "UNMARRIED PARTNERSHIP SYMBOL;COFFIN;FUNERAL URN;NEUTER;CERES;PALLAS;JUNO;VESTA;CHIRON",
        "BLACK MOON LILITH;SEXTILE;SEMISEXTILE;QUINCUNX;SESQUIQUADRATE;SOCCER BALL;BASEBALL",
        "SQUARED KEY;WHITE DRAUGHTS MAN;WHITE DRAUGHTS KING;BLACK DRAUGHTS MAN;BLACK DRAUGHTS KING",
        "SNOWMAN WITHOUT SNOW;SUN BEHIND CLOUD;RAIN;BLACK SNOWMAN;THUNDER CLOUD AND RAIN",
        "TURNED WHITE SHOGI PIECE;TURNED BLACK SHOGI PIECE;WHITE DIAMOND IN SQUARE;CROSSING LANES",
        "DISABLED CAR;OPHIUCHUS;PICK;CAR SLIDING;HELMET WITH WHITE CROSS;CIRCLED CROSSING LANES",
        "CHAINS;NO ENTRY;ALTERNATE ONE-WAY LEFT WAY TRAFFIC;BLACK TWO-WAY LEFT WAY TRAFFIC",
        "WHITE TWO-WAY LEFT WAY TRAFFIC;BLACK LEFT LANE MERGE;WHITE LEFT LANE MERGE;DRIVE SLOW SIGN",
        "HEAVY WHITE DOWN-POINTING TRIANGLE;LEFT CLOSED ENTRY;SQUARED SALTIRE",
        "FALLING DIAGONAL IN WHITE CIRCLE IN BLACK SQUARE;BLACK TRUCK;RESTRICTED LEFT ENTRY-1",
        "RESTRICTED LEFT ENTRY-2;ASTRONOMICAL SYMBOL FOR URANUS",
        "HEAVY CIRCLE WITH STROKE AND TWO DOTS ABOVE;PENTAGRAM;RIGHT-HANDED INTERLACED PENTAGRAM",
        "LEFT-HANDED INTERLACED PENTAGRAM;INVERTED PENTAGRAM;BLACK CROSS ON SHIELD;SHINTO SHRINE",
        "CHURCH;CASTLE;HISTORIC SITE;GEAR WITHOUT HUB;GEAR WITH HANDLES;MAP SYMBOL FOR LIGHTHOUSE",
        "MOUNTAIN;UMBRELLA ON GROUND;FOUNTAIN;FLAG IN HOLE;FERRY;SAILBOAT;SQUARE FOUR CORNERS;SKIER",
        "ICE SKATE;PERSON WITH BALL;TENT;JAPANESE BANK SYMBOL;HEADSTONE GRAVEYARD SYMBOL;FUEL PUMP",
        "CUP ON BLACK SQUARE;WHITE FLAG WITH HORIZONTAL MIDDLE BLACK STRIPE"]⟩,
    ⟨0x2700,
      ["BLACK SAFETY SCISSORS;UPPER BLADE SCISSORS;BLACK SCISSORS;LOWER BLADE SCISSORS",
        "WHITE SCISSORS;WHITE HEAVY CHECK MARK;TELEPHONE LOCATION SIGN;TAPE DRIVE;AIRPLANE;ENVELOPE",
        "RAISED FIST;RAISED HAND;VICTORY HAND;WRITING HAND;LOWER RIGHT PENCIL;PENCIL",
        "UPPER RIGHT PENCIL;WHITE NIB;BLACK NIB;CHECK MARK;HEAVY CHECK MARK;MULTIPLICATION X",
        "HEAVY MULTIPLICATION X;BALLOT X;HEAVY BALLOT X;OUTLINED GREEK CROSS;HEAVY GREEK CROSS",
        "OPEN CENTRE CROSS;HEAVY OPEN CENTRE CROSS;LATIN CROSS;SHADOWED WHITE LATIN CROSS",
        "OUTLINED LATIN CROSS;MALTESE CROSS;STAR OF DAVID;FOUR TEARDROP-SPOKED ASTERISK",
        "FOUR BALLOON-SPOKED ASTERISK;HEAVY FOUR BALLOON-SPOKED ASTERISK;FOUR CLUB-SPOKED ASTERISK",
        "BLACK FOUR POINTED STAR;WHITE FOUR POINTED STAR;SPARKLES;STRESS OUTLINED WHITE STAR",
        "CIRCLED WHITE STAR;OPEN CENTRE BLACK STAR;BLACK CENTRE WHITE STAR;OUTLINED BLACK STAR",
        "HEAVY OUTLINED BLACK STAR;PINWHEEL STAR;SHADOWED WHITE STAR;HEAVY ASTERISK",
        "OPEN CENTRE ASTERISK;EIGHT SPOKED ASTERISK;EIGHT POINTED BLACK STAR",
        "EIGHT POINTED PINWHEEL STAR;SIX POINTED BLACK STAR;EIGHT POINTED RECTILINEAR BLACK STAR",
        "HEAVY EIGHT POINTED RECTILINEAR BLACK STAR;TWELVE POINTED BLACK STAR",
        "SIXTEEN POINTED ASTERISK;TEARDROP-SPOKED ASTERISK;OPEN CENTRE TEARDROP-SPOKED ASTERISK",
        "HEAVY TEARDROP-SPOKED ASTERISK;SIX PETALLED BLACK AND WHITE FLORETTE;BLACK FLORETTE",
        "WHITE FLORETTE;EIGHT PETALLED OUTLINED BLACK FLORETTE",
        "CIRCLED OPEN CENTRE EIGHT POINTED STAR;HEAVY TEARDROP-SPOKED PINWHEEL ASTERISK;SNOWFLAKE",
        "TIGHT TRIFOLIATE SNOWFLAKE;HEAVY CHEVRON SNOWFLAKE;SPARKLE;HEAVY SPARKLE",
        "BALLOON-SPOKED ASTERISK;EIGHT TEARDROP-SPOKED PROPELLER ASTERISK",
        "HEAVY EIGHT TEARDROP-SPOKED PROPELLER ASTERISK;CROSS MARK;SHADOWED WHITE CIRCLE",
        "NEGATIVE SQUARED CROSS MARK;LOWER RIGHT DROP-SHADOWED WHITE SQUARE",
        "UPPER RIGHT DROP-SHADOWED WHITE SQUARE;LOWER RIGHT SHADOWED WHITE SQUARE",
        "UPPER RIGHT SHADOWED WHITE SQUARE;BLACK QUESTION MARK ORNAMENT",
        "WHITE QUESTION MARK ORNAMENT;WHITE EXCLAMATION MARK ORNAMENT;BLACK DIAMOND MINUS WHITE X",
        "HEAVY EXCLAMATION MARK SYMBOL;LIGHT VERTICAL BAR;MEDIUM VERTICAL BAR;HEAVY VERTICAL BAR",
        "HEAVY SINGLE TURNED COMMA QUOTATION MARK ORNAMENT",
        "HEAVY SINGLE COMMA QUOTATION MARK ORNAMENT",
        "HEAVY DOUBLE TURNED COMMA QUOTATION MARK ORNAMENT",
        "HEAVY DOUBLE COMMA QUOTATION MARK ORNAMENT;HEAVY LOW SINGLE COMMA QUOTATION MARK ORNAMENT",
        "HEAVY LOW DOUBLE COMMA QUOTATION MARK ORNAMENT;CURVED STEM PARAGRAPH SIGN ORNAMENT",
        "HEAVY EXCLAMATION MARK ORNAMENT;HEAVY HEART EXCLAMATION MARK ORNAMENT;HEAVY BLACK HEART",
        "ROTATED HEAVY BLACK HEART BULLET;FLORAL HEART;ROTATED FLORAL HEART BULLET",
        "MEDIUM LEFT PARENTHESIS ORNAMENT;MEDIUM RIGHT PARENTHESIS ORNAMENT",
        "MEDIUM FLATTENED LEFT PARENTHESIS ORNAMENT;MEDIUM FLATTENED RIGHT PARENTHESIS ORNAMENT",
        "MEDIUM LEFT-POINTING ANGLE BRACKET ORNAMENT;MEDIUM RIGHT-POINTING ANGLE BRACKET ORNAMENT",
        "HEAVY LEFT-POINTING ANGLE QUOTATION MARK ORNAMENT",
        "HEAVY RIGHT-POINTING ANGLE QUOTATION MARK ORNAMENT",
        "HEAVY LEFT-POINTING ANGLE BRACKET ORNAMENT;HEAVY RIGHT-POINTING ANGLE BRACKET ORNAMENT",
        "LIGHT LEFT TORTOISE SHELL BRACKET ORNAMENT;LIGHT RIGHT TORTOISE SHELL BRACKET ORNAMENT",
        "MEDIUM LEFT CURLY BRACKET ORNAMENT;MEDIUM RIGHT CURLY BRACKET ORNAMENT",
        "DINGBAT NEGATIVE CIRCLED DIGIT ONE;DINGBAT NEGATIVE CIRCLED DIGIT TWO",
        "DINGBAT NEGATIVE CIRCLED DIGIT THREE;DINGBAT NEGATIVE CIRCLED DIGIT FOUR",
        "DINGBAT NEGATIVE CIRCLED DIGIT FIVE;DINGBAT NEGATIVE CIRCLED DIGIT SIX",
        "DINGBAT NEGATIVE CIRCLED DIGIT SEVEN;DINGBAT NEGATIVE CIRCLED DIGIT EIGHT",
        "DINGBAT NEGATIVE CIRCLED DIGIT NINE;DINGBAT NEGATIVE CIRCLED NUMBER TEN",
        "DINGBAT CIRCLED SANS-SERIF DIGIT ONE;DINGBAT CIRCLED SANS-SERIF DIGIT TWO",
        "DINGBAT CIRCLED SANS-SERIF DIGIT THREE;DINGBAT CIRCLED SANS-SERIF DIGIT FOUR",
        "DINGBAT CIRCLED SANS-SERIF DIGIT FIVE;DINGBAT CIRCLED SANS-SERIF DIGIT SIX",
        "DINGBAT CIRCLED SANS-SERIF DIGIT SEVEN;DINGBAT CIRCLED SANS-SERIF DIGIT EIGHT",
        "DINGBAT CIRCLED SANS-SERIF DIGIT NINE;DINGBAT CIRCLED SANS-SERIF NUMBER TEN",
        "DINGBAT NEGATIVE CIRCLED SANS-SERIF DIGIT ONE",
        "DINGBAT NEGATIVE CIRCLED SANS-SERIF DIGIT TWO",
        "DINGBAT NEGATIVE CIRCLED SANS-SERIF DIGIT THREE",
        "DINGBAT NEGATIVE CIRCLED SANS-SERIF DIGIT FOUR",
        "DINGBAT NEGATIVE CIRCLED SANS-SERIF DIGIT FIVE",
        "DINGBAT NEGATIVE CIRCLED SANS-SERIF DIGIT SIX",
        "DINGBAT NEGATIVE CIRCLED SANS-SERIF DIGIT SEVEN",
        "DINGBAT NEGATIVE CIRCLED SANS-SERIF DIGIT EIGHT",
        "DINGBAT NEGATIVE CIRCLED SANS-SERIF DIGIT NINE",
        "DINGBAT NEGATIVE CIRCLED SANS-SERIF NUMBER TEN;HEAVY WIDE-HEADED RIGHTWARDS ARROW",
        "HEAVY PLUS SIGN;HEAVY MINUS SIGN;HEAVY DIVISION SIGN;HEAVY SOUTH EAST ARROW",
        "HEAVY RIGHTWARDS ARROW;HEAVY NORTH EAST ARROW;DRAFTING POINT RIGHTWARDS ARROW",
        "HEAVY ROUND-TIPPED RIGHTWARDS ARROW;TRIANGLE-HEADED RIGHTWARDS ARROW",
        "HEAVY TRIANGLE-HEADED RIGHTWARDS ARROW;DASHED TRIANGLE-HEADED RIGHTWARDS ARROW",
        "HEAVY DASHED TRIANGLE-HEADED RIGHTWARDS ARROW;BLACK RIGHTWARDS ARROW",
        "THREE-D TOP-LIGHTED RIGHTWARDS ARROWHEAD;THREE-D BOTTOM-LIGHTED RIGHTWARDS ARROWHEAD",
        "BLACK RIGHTWARDS ARROWHEAD;HEAVY BLACK CURVED DOWNWARDS AND RIGHTWARDS ARROW",
        "HEAVY BLACK CURVED UPWARDS AND RIGHTWARDS ARROW;SQUAT BLACK RIGHTWARDS ARROW",
        "HEAVY CONCAVE-POINTED BLACK RIGHTWARDS ARROW;RIGHT-SHADED WHITE RIGHTWARDS ARROW",
        "LEFT-SHADED WHITE RIGHTWARDS ARROW;BACK-TILTED SHADOWED WHITE RIGHTWARDS ARROW",
        "FRONT-TILTED SHADOWED WHITE RIGHTWARDS ARROW",
        "HEAVY LOWER RIGHT-SHADOWED WHITE RIGHTWARDS ARROW",
        "HEAVY UPPER RIGHT-SHADOWED WHITE RIGHTWARDS ARROW",
        "NOTCHED LOWER RIGHT-SHADOWED WHITE RIGHTWARDS ARROW;CURLY LOOP",
        "NOTCHED UPPER RIGHT-SHADOWED WHITE RIGHTWARDS ARROW;CIRCLED HEAVY WHITE RIGHTWARDS ARROW",
        "WHITE-FEATHERED RIGHTWARDS ARROW;BLACK-FEATHERED SOUTH EAST ARROW",
        "BLACK-FEATHERED RIGHTWARDS ARROW;BLACK-FEATHERED NORTH EAST ARROW",
        "HEAVY BLACK-FEATHERED SOUTH EAST ARROW;HEAVY BLACK-FEATHERED RIGHTWARDS ARROW",
        "HEAVY BLACK-FEATHERED NORTH EAST ARROW;TEARDROP-BARBED RIGHTWARDS ARROW",
        "HEAVY TEARDROP-SHANKED RIGHTWARDS ARROW;WEDGE-TAILED RIGHTWARDS ARROW",
        "HEAVY WEDGE-TAILED RIGHTWARDS ARROW;OPEN-OUTLINED RIGHTWARDS ARROW;DOUBLE CURLY LOOP"]⟩,
    ⟨0x1F000,
      ["MAHJONG TILE EAST WIND;MAHJONG TILE SOUTH WIND;MAHJONG TILE WEST WIND",
        "MAHJONG TILE NORTH WIND;MAHJONG TILE RED DRAGON;MAHJONG TILE GREEN DRAGON",
        "MAHJONG TILE WHITE DRAGON;MAHJONG TILE ONE OF CHARACTERS;MAHJONG TILE TWO OF CHARACTERS",
        "MAHJONG TILE THREE OF CHARACTERS;MAHJONG TILE FOUR OF CHARACTERS",
        "MAHJONG TILE FIVE OF CHARACTERS;MAHJONG TILE SIX OF CHARACTERS",
        "MAHJONG TILE SEVEN OF CHARACTERS;MAHJONG TILE EIGHT OF CHARACTERS",
        "MAHJONG TILE NINE OF CHARACTERS;MAHJONG TILE ONE OF BAMBOOS;MAHJONG TILE TWO OF BAMBOOS",
        "MAHJONG TILE THREE OF BAMBOOS;MAHJONG TILE FOUR OF BAMBOOS;MAHJONG TILE FIVE OF BAMBOOS",
        "MAHJONG TILE SIX OF BAMBOOS;MAHJONG TILE SEVEN OF BAMBOOS;MAHJONG TILE EIGHT OF BAMBOOS",
        "MAHJONG TILE NINE OF BAMBOOS;MAHJONG TILE ONE OF CIRCLES;MAHJONG TILE TWO OF CIRCLES",
        "MAHJONG TILE THREE OF CIRCLES;MAHJONG TILE FOUR OF CIRCLES;MAHJONG TILE FIVE OF CIRCLES",
        "MAHJONG TILE SIX OF CIRCLES;MAHJONG TILE SEVEN OF CIRCLES;MAHJONG TILE EIGHT OF CIRCLES",
        "MAHJONG TILE NINE OF CIRCLES;MAHJONG TILE PLUM;MAHJONG TILE ORCHID;MAHJONG TILE BAMBOO",
        "MAHJONG TILE CHRYSANTHEMUM;MAHJONG TILE SPRING;MAHJONG TILE SUMMER;MAHJONG TILE AUTUMN",
        "MAHJONG TILE WINTER;MAHJONG TILE JOKER;MAHJONG TILE BACK"]⟩,
    ⟨0x1F030,
      ["DOMINO TILE HORIZONTAL BACK;DOMINO TILE HORIZONTAL-00-00;DOMINO TILE HORIZONTAL-00-01",
        "DOMINO TILE HORIZONTAL-00-02;DOMINO TILE HORIZONTAL-00-03;DOMINO TILE HORIZONTAL-00-04",
        "DOMINO TILE HORIZONTAL-00-05;DOMINO TILE HORIZONTAL-00-06;DOMINO TILE HORIZONTAL-01-00",
        "DOMINO TILE HORIZONTAL-01-01;DOMINO TILE HORIZONTAL-01-02;DOMINO TILE HORIZONTAL-01-03",
        "DOMINO TILE HORIZONTAL-01-04;DOMINO TILE HORIZONTAL-01-05;DOMINO TILE HORIZONTAL-01-06",
        "DOMINO TILE HORIZONTAL-02-00;DOMINO TILE HORIZONTAL-02-01;DOMINO TILE HORIZONTAL-02-02",
        "DOMINO TILE HORIZONTAL-02-03;DOMINO TILE HORIZONTAL-02-04;DOMINO TILE HORIZONTAL-02-05",
        "DOMINO TILE HORIZONTAL-02-06;DOMINO TILE HORIZONTAL-03-00;DOMINO TILE HORIZONTAL-03-01",
        "DOMINO TILE HORIZONTAL-03-02;DOMINO TILE HORIZONTAL-03-03;DOMINO TILE HORIZONTAL-03-04",
        "DOMINO TILE HORIZONTAL-03-05;DOMINO TILE HORIZONTAL-03-06;DOMINO TILE HORIZONTAL-04-00",
        "DOMINO TILE HORIZONTAL-04-01;DOMINO TILE HORIZONTAL-04-02;DOMINO TILE HORIZONTAL-04-03",
        "DOMINO TILE HORIZONTAL-04-04;DOMINO TILE HORIZONTAL-04-05;DOMINO TILE HORIZONTAL-04-06",
        "DOMINO TILE HORIZONTAL-05-00;DOMINO TILE HORIZONTAL-05-01;DOMINO TILE HORIZONTAL-05-02",
        "DOMINO TILE HORIZONTAL-05-03;DOMINO TILE HORIZONTAL-05-04;DOMINO TILE HORIZONTAL-05-05",
        "DOMINO TILE HORIZONTAL-05-06;DOMINO TILE HORIZONTAL-06-00;DOMINO TILE HORIZONTAL-06-01",
        "DOMINO TILE HORIZONTAL-06-02;DOMINO TILE HORIZONTAL-06-03;DOMINO TILE HORIZONTAL-06-04",
        "DOMINO TILE HORIZONTAL-06-05;DOMINO TILE HORIZONTAL-06-06;DOMINO TILE VERTICAL BACK",
        "DOMINO TILE VERTICAL-00-00;DOMINO TILE VERTICAL-00-01;DOMINO TILE VERTICAL-00-02",
        "DOMINO TILE VERTICAL-00-03;DOMINO TILE VERTICAL-00-04;DOMINO TILE VERTICAL-00-05",
        "DOMINO TILE VERTICAL-00-06;DOMINO TILE VERTICAL-01-00;DOMINO TILE VERTICAL-01-01",
        "DOMINO TILE VERTICAL-01-02;DOMINO TILE VERTICAL-01-03;DOMINO TILE VERTICAL-01-04",
        "DOMINO TILE VERTICAL-01-05;DOMINO TILE VERTICAL-01-06;DOMINO TILE VERTICAL-02-00",
        "DOMINO TILE VERTICAL-02-01;DOMINO TILE VERTICAL-02-02;DOMINO TILE VERTICAL-02-03",
        "DOMINO TILE VERTICAL-02-04;DOMINO TILE VERTICAL-02-05;DOMINO TILE VERTICAL-02-06",
        "DOMINO TILE VERTICAL-03-00;DOMINO TILE VERTICAL-03-01;DOMINO TILE VERTICAL-03-02",
        "DOMINO TILE VERTICAL-03-03;DOMINO TILE VERTICAL-03-04;DOMINO TILE VERTICAL-03-05",
        "DOMINO TILE VERTICAL-03-06;DOMINO TILE VERTICAL-04-00;DOMINO TILE VERTICAL-04-01",
        "DOMINO TILE VERTICAL-04-02;DOMINO TILE VERTICAL-04-03;DOMINO TILE VERTICAL-04-04",
        "DOMINO TILE VERTICAL-04-05;DOMINO TILE VERTICAL-04-06;DOMINO TILE VERTICAL-05-00",
        "DOMINO TILE VERTICAL-05-01;DOMINO TILE VERTICAL-05-02;DOMINO TILE VERTICAL-05-03",
        "DOMINO TILE VERTICAL-05-04;DOMINO TILE VERTICAL-05-05;DOMINO TILE VERTICAL-05-06",
        "DOMINO TILE VERTICAL-06-00;DOMINO TILE VERTICAL-06-01;DOMINO TILE VERTICAL-06-02",
        "DOMINO TILE VERTICAL-06-03;DOMINO TILE VERTICAL-06-04;DOMINO TILE VERTICAL-06-05",
        "DOMINO TILE VERTICAL-06-06"]⟩,
    ⟨0x1F0A0,
      ["PLAYING CARD BACK;PLAYING CARD ACE OF SPADES;PLAYING CARD TWO OF SPADES",
        "PLAYING CARD THREE OF SPADES;PLAYING CARD FOUR OF SPADES;PLAYING CARD FIVE OF SPADES",
        "PLAYING CARD SIX OF SPADES;PLAYING CARD SEVEN OF SPADES;PLAYING CARD EIGHT OF SPADES",
        "PLAYING CARD NINE OF SPADES;PLAYING CARD TEN OF SPADES;PLAYING CARD JACK OF SPADES",
        "PLAYING CARD KNIGHT OF SPADES;PLAYING CARD QUEEN OF SPADES;PLAYING CARD KING OF SPADES"]⟩,
    ⟨0x1F0B1,
      ["PLAYING CARD ACE OF HEARTS;PLAYING CARD TWO OF HEARTS;PLAYING CARD THREE OF HEARTS",
        "PLAYING CARD FOUR OF HEARTS;PLAYING CARD FIVE OF HEARTS;PLAYING CARD SIX OF HEARTS",
        "PLAYING CARD SEVEN OF HEARTS;PLAYING CARD EIGHT OF HEARTS;PLAYING CARD NINE OF HEARTS",
        "PLAYING CARD TEN OF HEARTS;PLAYING CARD JACK OF HEARTS;PLAYING CARD KNIGHT OF HEARTS",
        "PLAYING CARD QUEEN OF HEARTS;PLAYING CARD KING OF HEARTS;PLAYING CARD RED JOKER"]⟩,
    ⟨0x1F0C1,
      ["PLAYING CARD ACE OF DIAMONDS;PLAYING CARD TWO OF DIAMONDS;PLAYING CARD THREE OF DIAMONDS",
        "PLAYING CARD FOUR OF DIAMONDS;PLAYING CARD FIVE OF DIAMONDS;PLAYING CARD SIX OF DIAMONDS",
        "PLAYING CARD SEVEN OF DIAMONDS;PLAYING CARD EIGHT OF DIAMONDS",
        "PLAYING CARD NINE OF DIAMONDS;PLAYING CARD TEN OF DIAMONDS;PLAYING CARD JACK OF DIAMONDS",
        "PLAYING CARD KNIGHT OF DIAMONDS;PLAYING CARD QUEEN OF DIAMONDS",
        "PLAYING CARD KING OF DIAMONDS;PLAYING CARD BLACK JOKER"]⟩,
    ⟨0x1F0D1,
      ["PLAYING CARD ACE OF CLUBS;PLAYING CARD TWO OF CLUBS;PLAYING CARD THREE OF CLUBS",
        "PLAYING CARD FOUR OF CLUBS;PLAYING CARD FIVE OF CLUBS;PLAYING CARD SIX OF CLUBS",
        "PLAYING CARD SEVEN OF CLUBS;PLAYING CARD EIGHT OF CLUBS;PLAYING CARD NINE OF CLUBS",
        "PLAYING CARD TEN OF CLUBS;PLAYING CARD JACK OF CLUBS;PLAYING CARD KNIGHT OF CLUBS",
        "PLAYING CARD QUEEN OF CLUBS;PLAYING CARD KING OF CLUBS;PLAYING CARD WHITE JOKER",
        "PLAYING CARD FOOL;PLAYING CARD TRUMP-1;PLAYING CARD TRUMP-2;PLAYING CARD TRUMP-3",
        "PLAYING CARD TRUMP-4;PLAYING CARD TRUMP-5;PLAYING CARD TRUMP-6;PLAYING CARD TRUMP-7",
        "PLAYING CARD TRUMP-8;PLAYING CARD TRUMP-9;PLAYING CARD TRUMP-10;PLAYING CARD TRUMP-11",
        "PLAYING CARD TRUMP-12;PLAYING CARD TRUMP-13;PLAYING CARD TRUMP-14;PLAYING CARD TRUMP-15",
        "PLAYING CARD TRUMP-16;PLAYING CARD TRUMP-17;PLAYING CARD TRUMP-18;PLAYING CARD TRUMP-19",
        "PLAYING CARD TRUMP-20;PLAYING CARD TRUMP-21"]⟩,
    ⟨0x1F100,
      ["DIGIT ZERO FULL STOP;DIGIT ZERO COMMA;DIGIT ONE COMMA;DIGIT TWO COMMA;DIGIT THREE COMMA",
        "DIGIT FOUR COMMA;DIGIT FIVE COMMA;DIGIT SIX COMMA;DIGIT SEVEN COMMA;DIGIT EIGHT COMMA",
        "DIGIT NINE COMMA;DINGBAT CIRCLED SANS-SERIF DIGIT ZERO",
        "DINGBAT NEGATIVE CIRCLED SANS-SERIF DIGIT ZERO;CIRCLED ZERO WITH SLASH",
        "CIRCLED ANTICLOCKWISE ARROW;CIRCLED DOLLAR SIGN WITH OVERLAID BACKSLASH",
        "PARENTHESIZED LATIN CAPITAL LETTER A;PARENTHESIZED LATIN CAPITAL LETTER B",
        "PARENTHESIZED LATIN CAPITAL LETTER C;PARENTHESIZED LATIN CAPITAL LETTER D",
        "PARENTHESIZED LATIN CAPITAL LETTER E;PARENTHESIZED LATIN CAPITAL LETTER F",
        "PARENTHESIZED LATIN CAPITAL LETTER G;PARENTHESIZED LATIN CAPITAL LETTER H",
        "PARENTHESIZED LATIN CAPITAL LETTER I;PARENTHESIZED LATIN CAPITAL LETTER J",
        "PARENTHESIZED LATIN CAPITAL LETTER K;PARENTHESIZED LATIN CAPITAL LETTER L",
        "PARENTHESIZED LATIN CAPITAL LETTER M;PARENTHESIZED LATIN CAPITAL LETTER N",
        "PARENTHESIZED LATIN CAPITAL LETTER O;PARENTHESIZED LATIN CAPITAL LETTER P",
        "PARENTHESIZED LATIN CAPITAL LETTER Q;PARENTHESIZED LATIN CAPITAL LETTER R",
        "PARENTHESIZED LATIN CAPITAL LETTER S;PARENTHESIZED LATIN CAPITAL LETTER T",
        "PARENTHESIZED LATIN CAPITAL LETTER U;PARENTHESIZED LATIN CAPITAL LETTER V",
        "PARENTHESIZED LATIN CAPITAL LETTER W;PARENTHESIZED LATIN CAPITAL LETTER X",
        "PARENTHESIZED LATIN CAPITAL LETTER Y;PARENTHESIZED LATIN CAPITAL LETTER Z",
        "TORTOISE SHELL BRACKETED LATIN CAPITAL LETTER S;CIRCLED ITALIC LATIN CAPITAL LETTER C",
        "CIRCLED ITALIC LATIN CAPITAL LETTER R;CIRCLED CD;CIRCLED WZ;COPYLEFT SYMBOL",
        "SQUARED LATIN CAPITAL LETTER A;SQUARED LATIN CAPITAL LETTER B",
        "SQUARED LATIN CAPITAL LETTER C;SQUARED LATIN CAPITAL LETTER D",
        "SQUARED LATIN CAPITAL LETTER E;SQUARED LATIN CAPITAL LETTER F",
        "SQUARED LATIN CAPITAL LETTER G;SQUARED LATIN CAPITAL LETTER H",
        "SQUARED LATIN CAPITAL LETTER I;SQUARED LATIN CAPITAL LETTER J",
        "SQUARED LATIN CAPITAL LETTER K;SQUARED LATIN CAPITAL LETTER L",
        "SQUARED LATIN CAPITAL LETTER M;SQUARED LATIN CAPITAL LETTER N",
        "SQUARED LATIN CAPITAL LETTER O;SQUARED LATIN CAPITAL LETTER P",
        "SQUARED LATIN CAPITAL LETTER Q;SQUARED LATIN CAPITAL LETTER R",
        "SQUARED LATIN CAPITAL LETTER S;SQUARED LATIN CAPITAL LETTER T",
        "SQUARED LATIN CAPITAL LETTER U;SQUARED LATIN CAPITAL LETTER V",
        "SQUARED LATIN CAPITAL LETTER W;SQUARED LATIN CAPITAL LETTER X",
        "SQUARED LATIN CAPITAL LETTER Y;SQUARED LATIN CAPITAL LETTER Z;SQUARED HV;SQUARED MV",
        "SQUARED SD;SQUARED SS;SQUARED PPV;SQUARED WC;NEGATIVE CIRCLED LATIN CAPITAL LETTER A",
        "NEGATIVE CIRCLED LATIN CAPITAL LETTER B;NEGATIVE CIRCLED LATIN CAPITAL LETTER C",
        "NEGATIVE CIRCLED LATIN CAPITAL LETTER D;NEGATIVE CIRCLED LATIN CAPITAL LETTER E",
        "NEGATIVE CIRCLED LATIN CAPITAL LETTER F;NEGATIVE CIRCLED LATIN CAPITAL LETTER G",
        "NEGATIVE CIRCLED LATIN CAPITAL LETTER H;NEGATIVE CIRCLED LATIN CAPITAL LETTER I",
        "NEGATIVE CIRCLED LATIN CAPITAL LETTER J;NEGATIVE CIRCLED LATIN CAPITAL LETTER K",
        "NEGATIVE CIRCLED LATIN CAPITAL LETTER L;NEGATIVE CIRCLED LATIN CAPITAL LETTER M",
        "NEGATIVE CIRCLED LATIN CAPITAL LETTER N;NEGATIVE CIRCLED LATIN CAPITAL LETTER O",
        "NEGATIVE CIRCLED LATIN CAPITAL LETTER P;NEGATIVE CIRCLED LATIN CAPITAL LETTER Q",
        "NEGATIVE CIRCLED LATIN CAPITAL LETTER R;NEGATIVE CIRCLED LATIN CAPITAL LETTER S",
        "NEGATIVE CIRCLED LATIN CAPITAL LETTER T;NEGATIVE CIRCLED LATIN CAPITAL LETTER U",
        "NEGATIVE CIRCLED LATIN CAPITAL LETTER V;NEGATIVE CIRCLED LATIN CAPITAL LETTER W",
        "NEGATIVE CIRCLED LATIN CAPITAL LETTER X;NEGATIVE CIRCLED LATIN CAPITAL LETTER Y",
        "NEGATIVE CIRCLED LATIN CAPITAL LETTER Z;RAISED MC SIGN;RAISED MD SIGN;RAISED MR SIGN",
        "CIRCLED CC;CIRCLED C WITH OVERLAID BACKSLASH;CIRCLED HUMAN FIGURE",
        "NEGATIVE SQUARED LATIN CAPITAL LETTER A;NEGATIVE SQUARED LATIN CAPITAL LETTER B",
        "NEGATIVE SQUARED LATIN CAPITAL LETTER C;NEGATIVE SQUARED LATIN CAPITAL LETTER D",
        "NEGATIVE SQUARED LATIN CAPITAL LETTER E;NEGATIVE SQUARED LATIN CAPITAL LETTER F",
        "NEGATIVE SQUARED LATIN CAPITAL LETTER G;NEGATIVE SQUARED LATIN CAPITAL LETTER H",
        "NEGATIVE SQUARED LATIN CAPITAL LETTER I;NEGATIVE SQUARED LATIN CAPITAL LETTER J",
        "NEGATIVE SQUARED LATIN CAPITAL LETTER K;NEGATIVE SQUARED LATIN CAPITAL LETTER L",
        "NEGATIVE SQUARED LATIN CAPITAL LETTER M;NEGATIVE SQUARED LATIN CAPITAL LETTER N",
        "NEGATIVE SQUARED LATIN CAPITAL LETTER O;NEGATIVE SQUARED LATIN CAPITAL LETTER P",
        "NEGATIVE SQUARED LATIN CAPITAL LETTER Q;NEGATIVE SQUARED LATIN CAPITAL LETTER R",
        "NEGATIVE SQUARED LATIN CAPITAL LETTER S;NEGATIVE SQUARED LATIN CAPITAL LETTER T",
        "NEGATIVE SQUARED LATIN CAPITAL LETTER U;NEGATIVE SQUARED LATIN CAPITAL LETTER V",
        "NEGATIVE SQUARED LATIN CAPITAL LETTER W;NEGATIVE SQUARED LATIN CAPITAL LETTER X",
        "NEGATIVE SQUARED LATIN CAPITAL LETTER Y;NEGATIVE SQUARED LATIN CAPITAL LETTER Z",
        "CROSSED NEGATIVE SQUARED LATIN CAPITAL LETTER P;NEGATIVE SQUARED IC;NEGATIVE SQUARED PA",
        "NEGATIVE SQUARED SA;NEGATIVE SQUARED AB;NEGATIVE SQUARED WC;SQUARE DJ;SQUARED CL",
        "SQUARED COOL;SQUARED FREE;SQUARED ID;SQUARED NEW;SQUARED NG;SQUARED OK;SQUARED SOS",
        "SQUARED UP WITH EXCLAMATION MARK;SQUARED VS;SQUARED THREE D;SQUARED SECOND SCREEN",
        "SQUARED TWO K;SQUARED FOUR K;SQUARED EIGHT K;SQUARED FIVE POINT ONE",
        "SQUARED SEVEN POINT ONE;SQUARED TWENTY-TWO POINT TWO;SQUARED SIXTY P",
        "SQUARED ONE HUNDRED TWENTY P;SQUARED LATIN SMALL LETTER D;SQUARED HC;SQUARED HDR",
        "SQUARED HI-RES;SQUARED LOSSLESS;SQUARED SHV;SQUARED UHD;SQUARED VOD;MASK WORK SYMBOL"]⟩,
    ⟨0x1F1E6,
      ["REGIONAL INDICATOR SYMBOL LETTER A;REGIONAL INDICATOR SYMBOL LETTER B",
        "REGIONAL INDICATOR SYMBOL LETTER C;REGIONAL INDICATOR SYMBOL LETTER D",
        "REGIONAL INDICATOR SYMBOL LETTER E;REGIONAL INDICATOR SYMBOL LETTER F",
        "REGIONAL INDICATOR SYMBOL LETTER G;REGIONAL INDICATOR SYMBOL LETTER H",
        "REGIONAL INDICATOR SYMBOL LETTER I;REGIONAL INDICATOR SYMBOL LETTER J",
        "REGIONAL INDICATOR SYMBOL LETTER K;REGIONAL INDICATOR SYMBOL LETTER L",
        "REGIONAL INDICATOR SYMBOL LETTER M;REGIONAL INDICATOR SYMBOL LETTER N",
        "REGIONAL INDICATOR SYMBOL LETTER O;REGIONAL INDICATOR SYMBOL LETTER P",
        "REGIONAL INDICATOR SYMBOL LETTER Q;REGIONAL INDICATOR SYMBOL LETTER R",
        "REGIONAL INDICATOR SYMBOL LETTER S;REGIONAL INDICATOR SYMBOL LETTER T",
        "REGIONAL INDICATOR SYMBOL LETTER U;REGIONAL INDICATOR SYMBOL LETTER V",
        "REGIONAL INDICATOR SYMBOL LETTER W;REGIONAL INDICATOR SYMBOL LETTER X",
        "REGIONAL INDICATOR SYMBOL LETTER Y;REGIONAL INDICATOR SYMBOL LETTER Z;SQUARE HIRAGANA HOKA",
        "SQUARED KATAKANA KOKO;SQUARED KATAKANA SA"]⟩,
    ⟨0x1F210,
      ["SQUARED CJK UNIFIED IDEOGRAPH-624B;SQUARED CJK UNIFIED IDEOGRAPH-5B57",
        "SQUARED CJK UNIFIED IDEOGRAPH-53CC;SQUARED KATAKANA DE;SQUARED CJK UNIFIED IDEOGRAPH-4E8C",
        "SQUARED CJK UNIFIED IDEOGRAPH-591A;SQUARED CJK UNIFIED IDEOGRAPH-89E3",
        "SQUARED CJK UNIFIED IDEOGRAPH-5929;SQUARED CJK UNIFIED IDEOGRAPH-4EA4",
        "SQUARED CJK UNIFIED IDEOGRAPH-6620;SQUARED CJK UNIFIED IDEOGRAPH-7121",
        "SQUARED CJK UNIFIED IDEOGRAPH-6599;SQUARED CJK UNIFIED IDEOGRAPH-524D",
        "SQUARED CJK UNIFIED IDEOGRAPH-5F8C;SQUARED CJK UNIFIED IDEOGRAPH-518D",
        "SQUARED CJK UNIFIED IDEOGRAPH-65B0;SQUARED CJK UNIFIED IDEOGRAPH-521D",
        "SQUARED CJK UNIFIED IDEOGRAPH-7D42;SQUARED CJK UNIFIED IDEOGRAPH-751F",
        "SQUARED CJK UNIFIED IDEOGRAPH-8CA9;SQUARED CJK UNIFIED IDEOGRAPH-58F0",
        "SQUARED CJK UNIFIED IDEOGRAPH-5439;SQUARED CJK UNIFIED IDEOGRAPH-6F14",
        "SQUARED CJK UNIFIED IDEOGRAPH-6295;SQUARED CJK UNIFIED IDEOGRAPH-6355",
        "SQUARED CJK UNIFIED IDEOGRAPH-4E00;SQUARED CJK UNIFIED IDEOGRAPH-4E09",
        "SQUARED CJK UNIFIED IDEOGRAPH-904A;SQUARED CJK UNIFIED IDEOGRAPH-5DE6",
        "SQUARED CJK UNIFIED IDEOGRAPH-4E2D;SQUARED CJK UNIFIED IDEOGRAPH-53F3",
        "SQUARED CJK UNIFIED IDEOGRAPH-6307;SQUARED CJK UNIFIED IDEOGRAPH-8D70",
        "SQUARED CJK UNIFIED IDEOGRAPH-6253;SQUARED CJK UNIFIED IDEOGRAPH-7981",
        "SQUARED CJK UNIFIED IDEOGRAPH-7A7A;SQUARED CJK UNIFIED IDEOGRAPH-5408",
        "SQUARED CJK UNIFIED IDEOGRAPH-6E80;SQUARED CJK UNIFIED IDEOGRAPH-6709",
        "SQUARED CJK UNIFIED IDEOGRAPH-6708;SQUARED CJK UNIFIED IDEOGRAPH-7533",
        "SQUARED CJK UNIFIED IDEOGRAPH-5272;SQUARED CJK UNIFIED IDEOGRAPH-55B6",
        "SQUARED CJK UNIFIED IDEOGRAPH-914D"]⟩,
    ⟨0x1F240,
      ["TORTOISE SHELL BRACKETED CJK UNIFIED IDEOGRAPH-672C",
        "TORTOISE SHELL BRACKETED CJK UNIFIED IDEOGRAPH-4E09",
        "TORTOISE SHELL BRACKETED CJK UNIFIED IDEOGRAPH-4E8C",
        "TORTOISE SHELL BRACKETED CJK UNIFIED IDEOGRAPH-5B89",
        "TORTOISE SHELL BRACKETED CJK UNIFIED IDEOGRAPH-70B9",
        "TORTOISE SHELL BRACKETED CJK UNIFIED IDEOGRAPH-6253",
        "TORTOISE SHELL BRACKETED CJK UNIFIED IDEOGRAPH-76D7",
        "TORTOISE SHELL BRACKETED CJK UNIFIED IDEOGRAPH-52DD",
        "TORTOISE SHELL BRACKETED CJK UNIFIED IDEOGRAPH-6557"]⟩,
    ⟨0x1F250,
      ["CIRCLED IDEOGRAPH ADVANTAGE;CIRCLED IDEOGRAPH ACCEPT"]⟩,
    ⟨0x1F260,
      ["ROUNDED SYMBOL FOR FU;ROUNDED SYMBOL FOR LU;ROUNDED SYMBOL FOR SHOU;ROUNDED SYMBOL FOR XI",
        "ROUNDED SYMBOL FOR SHUANGXI;ROUNDED SYMBOL FOR CAI"]⟩,
    ⟨0x1F300,
      ["CYCLONE;FOGGY;CLOSED UMBRELLA;NIGHT WITH STARS;SUNRISE OVER MOUNTAINS;SUNRISE",
        "CITYSCAPE AT DUSK;SUNSET OVER BUILDINGS;RAINBOW;BRIDGE AT NIGHT;WATER WAVE;VOLCANO",
        "MILKY WAY;EARTH GLOBE EUROPE-AFRICA;EARTH GLOBE AMERICAS;EARTH GLOBE ASIA-AUSTRALIA",
        "GLOBE WITH MERIDIANS;NEW MOON SYMBOL;WAXING CRESCENT MOON SYMBOL;FIRST QUARTER MOON SYMBOL",
        "WAXING GIBBOUS MOON SYMBOL;FULL MOON SYMBOL;WANING GIBBOUS MOON SYMBOL",
        "LAST QUARTER MOON SYMBOL;WANING CRESCENT MOON SYMBOL;CRESCENT MOON;NEW MOON WITH FACE",
        "FIRST QUARTER MOON WITH FACE;LAST QUARTER MOON WITH FACE;FULL MOON WITH FACE;SUN WITH FACE",
        "GLOWING STAR;SHOOTING STAR;THERMOMETER;BLACK DROPLET;WHITE SUN;WHITE SUN WITH SMALL CLOUD",
        "WHITE SUN BEHIND CLOUD;WHITE SUN BEHIND CLOUD WITH RAIN;CLOUD WITH RAIN;CLOUD WITH SNOW",
        "CLOUD WITH LIGHTNING;CLOUD WITH TORNADO;FOG;WIND BLOWING FACE;HOT DOG;TACO;BURRITO",
        "CHESTNUT;SEEDLING;EVERGREEN TREE;DECIDUOUS TREE;PALM TREE;CACTUS;HOT PEPPER;TULIP",
        "CHERRY BLOSSOM;ROSE;HIBISCUS;SUNFLOWER;BLOSSOM;EAR OF MAIZE;EAR OF RICE;HERB",
        "FOUR LEAF CLOVER;MAPLE LEAF;FALLEN LEAF;LEAF FLUTTERING IN WIND;MUSHROOM;TOMATO;AUBERGINE",
        "GRAPES;MELON;WATERMELON;TANGERINE;LEMON;BANANA;PINEAPPLE;RED APPLE;GREEN APPLE;PEAR;PEACH",
        "CHERRIES;STRAWBERRY;HAMBURGER;SLICE OF PIZZA;MEAT ON BONE;POULTRY LEG;RICE CRACKER",
        "RICE BALL;COOKED RICE;CURRY AND RICE;STEAMING BOWL;SPAGHETTI;BREAD;FRENCH FRIES",
        "ROASTED SWEET POTATO;DANGO;ODEN;SUSHI;FRIED SHRIMP;FISH CAKE WITH SWIRL DESIGN",
        "SOFT ICE CREAM;SHAVED ICE;ICE CREAM;DOUGHNUT;COOKIE;CHOCOLATE BAR;CANDY;LOLLIPOP;CUSTARD",
        "HONEY POT;SHORTCAKE;BENTO BOX;POT OF FOOD;COOKING;FORK AND KNIFE;TEACUP WITHOUT HANDLE",
        "SAKE BOTTLE AND CUP;WINE GLASS;COCKTAIL GLASS;TROPICAL DRINK;BEER MUG;CLINKING BEER MUGS",
        "BABY BOTTLE;FORK AND KNIFE WITH PLATE;BOTTLE WITH POPPING CORK;POPCORN;RIBBON",
        "WRAPPED PRESENT;BIRTHDAY CAKE;JACK-O-LANTERN;CHRISTMAS TREE;FATHER CHRISTMAS;FIREWORKS",
        "FIREWORK SPARKLER;BALLOON;PARTY POPPER;CONFETTI BALL;TANABATA TREE;CROSSED FLAGS",
        "PINE DECORATION;JAPANESE DOLLS;CARP STREAMER;WIND CHIME;MOON VIEWING CEREMONY",
        "SCHOOL SATCHEL;GRADUATION CAP;HEART WITH TIP ON THE LEFT;BOUQUET OF FLOWERS;MILITARY MEDAL",
        "REMINDER RIBBON;MUSICAL KEYBOARD WITH JACKS;STUDIO MICROPHONE;LEVEL SLIDER;CONTROL KNOBS",
        "BEAMED ASCENDING MUSICAL NOTES;BEAMED DESCENDING MUSICAL NOTES;FILM FRAMES",
        "ADMISSION TICKETS;CAROUSEL HORSE;FERRIS WHEEL;ROLLER COASTER;FISHING POLE AND FISH",
        "MICROPHONE;MOVIE CAMERA;CINEMA;HEADPHONE;ARTIST PALETTE;TOP HAT;CIRCUS TENT;TICKET",
        "CLAPPER BOARD;PERFORMING ARTS;VIDEO GAME;DIRECT HIT;SLOT MACHINE;BILLIARDS;GAME DIE",
        "BOWLING;FLOWER PLAYING CARDS;MUSICAL NOTE;MULTIPLE MUSICAL NOTES;SAXOPHONE;GUITAR",
        "MUSICAL KEYBOARD;TRUMPET;VIOLIN;MUSICAL SCORE;RUNNING SHIRT WITH SASH",
        "TENNIS RACQUET AND BALL;SKI AND SKI BOOT;BASKETBALL AND HOOP;CHEQUERED FLAG;SNOWBOARDER",
        "RUNNER;SURFER;SPORTS MEDAL;TROPHY;HORSE RACING;AMERICAN FOOTBALL;RUGBY FOOTBALL;SWIMMER",
        "WEIGHT LIFTER;GOLFER;RACING MOTORCYCLE;RACING CAR;CRICKET BAT AND BALL;VOLLEYBALL",
        "FIELD HOCKEY STICK AND BALL;ICE HOCKEY STICK AND PUCK;TABLE TENNIS PADDLE AND BALL",
        "SNOW CAPPED MOUNTAIN;CAMPING;BEACH WITH UMBRELLA;BUILDING CONSTRUCTION;HOUSE BUILDINGS",
        "CITYSCAPE;DERELICT HOUSE BUILDING;CLASSICAL BUILDING;DESERT;DESERT ISLAND;NATIONAL PARK",
        "STADIUM;HOUSE BUILDING;HOUSE WITH GARDEN;OFFICE BUILDING;JAPANESE POST OFFICE",
        "EUROPEAN POST OFFICE;HOSPITAL;BANK;AUTOMATED TELLER MACHINE;HOTEL;LOVE HOTEL",
        "CONVENIENCE STORE;SCHOOL;DEPARTMENT STORE;FACTORY;IZAKAYA LANTERN;JAPANESE CASTLE",
        "EUROPEAN CASTLE;WHITE PENNANT;BLACK PENNANT;WAVING WHITE FLAG;WAVING BLACK FLAG;ROSETTE",
        "BLACK ROSETTE;LABEL;BADMINTON RACQUET AND SHUTTLECOCK;BOW AND ARROW;AMPHORA",
        "EMOJI MODIFIER FITZPATRICK TYPE-1-2;EMOJI MODIFIER FITZPATRICK TYPE-3",
        "EMOJI MODIFIER FITZPATRICK TYPE-4;EMOJI MODIFIER FITZPATRICK TYPE-5",
        "EMOJI MODIFIER FITZPATRICK TYPE-6;RAT;MOUSE;OX;WATER BUFFALO;COW;TIGER;LEOPARD;RABBIT;CAT",
        "DRAGON;CROCODILE;WHALE;SNAIL;SNAKE;HORSE;RAM;GOAT;SHEEP;MONKEY;ROOSTER;CHICKEN;DOG;PIG",
        "BOAR;ELEPHANT;OCTOPUS;SPIRAL SHELL;BUG;ANT;HONEYBEE;LADY BEETLE;FISH;TROPICAL FISH",
        "BLOWFISH;TURTLE;HATCHING CHICK;BABY CHICK;FRONT-FACING BABY CHICK;BIRD;PENGUIN;KOALA",
        "POODLE;DROMEDARY CAMEL;BACTRIAN CAMEL;DOLPHIN;MOUSE FACE;COW FACE;TIGER FACE;RABBIT FACE",
        "CAT FACE;DRAGON FACE;SPOUTING WHALE;HORSE FACE;MONKEY FACE;DOG FACE;PIG FACE;FROG FACE",
        "HAMSTER FACE;WOLF FACE;BEAR FACE;PANDA FACE;PIG NOSE;PAW PRINTS;CHIPMUNK;EYES;EYE;EAR;NOSE",
        "MOUTH;TONGUE;WHITE UP POINTING BACKHAND INDEX;WHITE DOWN POINTING BACKHAND INDEX",
        "WHITE LEFT POINTING BACKHAND INDEX;WHITE RIGHT POINTING BACKHAND INDEX;FISTED HAND SIGN",
        "WAVING HAND SIGN;OK HAND SIGN;THUMBS UP SIGN;THUMBS DOWN SIGN;CLAPPING HANDS SIGN",
        "OPEN HANDS SIGN;CROWN;WOMANS HAT;EYEGLASSES;NECKTIE;T-SHIRT;JEANS;DRESS;KIMONO;BIKINI",
        "WOMANS CLOTHES;PURSE;HANDBAG;POUCH;MANS SHOE;ATHLETIC SHOE;HIGH-HEELED SHOE;WOMANS SANDAL",
        "WOMANS BOOTS;FOOTPRINTS;BUST IN SILHOUETTE;BUSTS IN SILHOUETTE;BOY;GIRL;MAN;WOMAN;FAMILY",
        "MAN AND WOMAN HOLDING HANDS;TWO MEN HOLDING HANDS;TWO WOMEN HOLDING HANDS;POLICE OFFICER",
        "WOMAN WITH BUNNY EARS;BRIDE WITH VEIL;PERSON WITH BLOND HAIR;MAN WITH GUA PI MAO",
        "MAN WITH TURBAN;OLDER MAN;OLDER WOMAN;BABY;CONSTRUCTION WORKER;PRINCESS;JAPANESE OGRE",
        "JAPANESE GOBLIN;GHOST;BABY ANGEL;EXTRATERRESTRIAL ALIEN;ALIEN MONSTER;IMP;SKULL",
        "INFORMATION DESK PERSON;GUARDSMAN;DANCER;LIPSTICK;NAIL POLISH;FACE MASSAGE;HAIRCUT",
        "BARBER POLE;SYRINGE;PILL;KISS MARK;LOVE LETTER;RING;GEM STONE;KISS;BOUQUET",
        "COUPLE WITH HEART;WEDDING;BEATING HEART;BROKEN HEART;TWO HEARTS;SPARKLING HEART",
        "GROWING HEART;HEART WITH ARROW;BLUE HEART;GREEN HEART;YELLOW HEART;PURPLE HEART",
        "HEART WITH RIBBON;REVOLVING HEARTS;HEART DECORATION;DIAMOND SHAPE WITH A DOT INSIDE",
        "ELECTRIC LIGHT BULB;ANGER SYMBOL;BOMB;SLEEPING SYMBOL;COLLISION SYMBOL",
        "SPLASHING SWEAT SYMBOL;DROPLET;DASH SYMBOL;PILE OF POO;FLEXED BICEPS;DIZZY SYMBOL",
        "SPEECH BALLOON;THOUGHT BALLOON;WHITE FLOWER;HUNDRED POINTS SYMBOL;MONEY BAG",
        "CURRENCY EXCHANGE;HEAVY DOLLAR SIGN;CREDIT CARD;BANKNOTE WITH YEN SIGN",
        "BANKNOTE WITH DOLLAR SIGN;BANKNOTE WITH EURO SIGN;BANKNOTE WITH POUND SIGN",
        "MONEY WITH WINGS;CHART WITH UPWARDS TREND AND YEN SIGN;SEAT;PERSONAL COMPUTER;BRIEFCASE",
        "MINIDISC;FLOPPY DISK;OPTICAL DISC;DVD;FILE FOLDER;OPEN FILE FOLDER;PAGE WITH CURL",
        "PAGE FACING UP;CALENDAR;TEAR-OFF CALENDAR;CARD INDEX;CHART WITH UPWARDS TREND",
        "CHART WITH DOWNWARDS TREND;BAR CHART;CLIPBOARD;PUSHPIN;ROUND PUSHPIN;PAPERCLIP",
        "STRAIGHT RULER;TRIANGULAR RULER;BOOKMARK TABS;LEDGER;NOTEBOOK",
        "NOTEBOOK WITH DECORATIVE COVER;CLOSED BOOK;OPEN BOOK;GREEN BOOK;BLUE BOOK;ORANGE BOOK",
        "BOOKS;NAME BADGE;SCROLL;MEMO;TELEPHONE RECEIVER;PAGER;FAX MACHINE;SATELLITE ANTENNA",
        "PUBLIC ADDRESS LOUDSPEAKER;CHEERING MEGAPHONE;OUTBOX TRAY;INBOX TRAY;PACKAGE;E-MAIL SYMBOL",
        "INCOMING ENVELOPE;ENVELOPE WITH DOWNWARDS ARROW ABOVE;CLOSED MAILBOX WITH LOWERED FLAG",
        "CLOSED MAILBOX WITH RAISED FLAG;OPEN MAILBOX WITH RAISED FLAG",
        "OPEN MAILBOX WITH LOWERED FLAG;POSTBOX;POSTAL HORN;NEWSPAPER;MOBILE PHONE",
        "MOBILE PHONE WITH RIGHTWARDS ARROW AT LEFT;VIBRATION MODE;MOBILE PHONE OFF",
        "NO MOBILE PHONES;ANTENNA WITH BARS;CAMERA;CAMERA WITH FLASH;VIDEO CAMERA;TELEVISION;RADIO",
        "VIDEOCASSETTE;FILM PROJECTOR;PORTABLE STEREO;PRAYER BEADS;TWISTED RIGHTWARDS ARROWS",
        "CLOCKWISE RIGHTWARDS AND LEFTWARDS OPEN CIRCLE ARROWS",
        "CLOCKWISE RIGHTWARDS AND LEFTWARDS OPEN CIRCLE ARROWS WITH CIRCLED ONE OVERLAY",
        "CLOCKWISE DOWNWARDS AND UPWARDS OPEN CIRCLE ARROWS",
        "ANTICLOCKWISE DOWNWARDS AND UPWARDS OPEN CIRCLE ARROWS;LOW BRIGHTNESS SYMBOL",
        "HIGH BRIGHTNESS SYMBOL;SPEAKER WITH CANCELLATION STROKE;SPEAKER",
        "SPEAKER WITH ONE SOUND WAVE;SPEAKER WITH THREE SOUND WAVES;BATTERY;ELECTRIC PLUG",
        "LEFT-POINTING MAGNIFYING GLASS;RIGHT-POINTING MAGNIFYING GLASS;LOCK WITH INK PEN",
        "CLOSED LOCK WITH KEY;KEY;LOCK;OPEN LOCK;BELL;BELL WITH CANCELLATION STROKE;BOOKMARK",
        "LINK SYMBOL;RADIO BUTTON;BACK WITH LEFTWARDS ARROW ABOVE;END WITH LEFTWARDS ARROW ABOVE",
        "ON WITH EXCLAMATION MARK WITH LEFT RIGHT ARROW ABOVE;SOON WITH RIGHTWARDS ARROW ABOVE",
        "TOP WITH UPWARDS ARROW ABOVE;NO ONE UNDER EIGHTEEN SYMBOL;KEYCAP TEN",
        "INPUT SYMBOL FOR LATIN CAPITAL LETTERS;INPUT SYMBOL FOR LATIN SMALL LETTERS",
        "INPUT SYMBOL FOR NUMBERS;INPUT SYMBOL FOR SYMBOLS;INPUT SYMBOL FOR LATIN LETTERS;FIRE",
        "ELECTRIC TORCH;WRENCH;HAMMER;NUT AND BOLT;HOCHO;PISTOL;MICROSCOPE;TELESCOPE;CRYSTAL BALL",
        "SIX POINTED STAR WITH MIDDLE DOT;JAPANESE SYMBOL FOR BEGINNER;TRIDENT EMBLEM",
        "BLACK SQUARE BUTTON;WHITE SQUARE BUTTON;LARGE RED CIRCLE;LARGE BLUE CIRCLE",
        "LARGE ORANGE DIAMOND;LARGE BLUE DIAMOND;SMALL ORANGE DIAMOND;SMALL BLUE DIAMOND",
        "UP-POINTING RED TRIANGLE;DOWN-POINTING RED TRIANGLE;UP-POINTING SMALL RED TRIANGLE",
        "DOWN-POINTING SMALL RED TRIANGLE;LOWER RIGHT SHADOWED WHITE CIRCLE",
        "UPPER RIGHT SHADOWED WHITE CIRCLE;CIRCLED CROSS POMMEE;CROSS POMMEE WITH HALF-CIRCLE BELOW",
        "CROSS POMMEE;NOTCHED LEFT SEMICIRCLE WITH THREE DOTS",
        "NOTCHED RIGHT SEMICIRCLE WITH THREE DOTS;SYMBOL FOR MARKS CHAPTER;WHITE LATIN CROSS",
        "HEAVY LATIN CROSS;CELTIC CROSS;OM SYMBOL;DOVE OF PEACE;KAABA;MOSQUE;SYNAGOGUE",
        "MENORAH WITH NINE BRANCHES;BOWL OF HYGIEIA;CLOCK FACE ONE OCLOCK;CLOCK FACE TWO OCLOCK",
        "CLOCK FACE THREE OCLOCK;CLOCK FACE FOUR OCLOCK;CLOCK FACE FIVE OCLOCK",
        "CLOCK FACE SIX OCLOCK;CLOCK FACE SEVEN OCLOCK;CLOCK FACE EIGHT OCLOCK",
        "CLOCK FACE NINE OCLOCK;CLOCK FACE TEN OCLOCK;CLOCK FACE ELEVEN OCLOCK",
        "CLOCK FACE TWELVE OCLOCK;CLOCK FACE ONE-THIRTY;CLOCK FACE TWO-THIRTY",
        "CLOCK FACE THREE-THIRTY;CLOCK FACE FOUR-THIRTY;CLOCK FACE FIVE-THIRTY",
        "CLOCK FACE SIX-THIRTY;CLOCK FACE SEVEN-THIRTY;CLOCK FACE EIGHT-THIRTY",
        "CLOCK FACE NINE-THIRTY;CLOCK FACE TEN-THIRTY;CLOCK FACE ELEVEN-THIRTY",
        "CLOCK FACE TWELVE-THIRTY;RIGHT SPEAKER;RIGHT SPEAKER WITH ONE SOUND WAVE",
        "RIGHT SPEAKER WITH THREE SOUND WAVES;BULLHORN;BULLHORN WITH SOUND WAVES;RINGING BELL;BOOK",
        "CANDLE;MANTELPIECE CLOCK;BLACK SKULL AND CROSSBONES;NO PIRACY;HOLE",
        "MAN IN BUSINESS SUIT LEVITATING;SLEUTH OR SPY;DARK SUNGLASSES;SPIDER;SPIDER WEB;JOYSTICK",
        "MAN DANCING;LEFT HAND TELEPHONE RECEIVER;TELEPHONE RECEIVER WITH PAGE",
        "RIGHT HAND TELEPHONE RECEIVER;WHITE TOUCHTONE TELEPHONE;BLACK TOUCHTONE TELEPHONE",
        "TELEPHONE ON TOP OF MODEM;CLAMSHELL MOBILE PHONE;BACK OF ENVELOPE;STAMPED ENVELOPE",
        "ENVELOPE WITH LIGHTNING;FLYING ENVELOPE;PEN OVER STAMPED ENVELOPE;LINKED PAPERCLIPS",
        "BLACK PUSHPIN;LOWER LEFT PENCIL;LOWER LEFT BALLPOINT PEN;LOWER LEFT FOUNTAIN PEN",
        "LOWER LEFT PAINTBRUSH;LOWER LEFT CRAYON;LEFT WRITING HAND;TURNED OK HAND SIGN",
        "RAISED HAND WITH FINGERS SPLAYED;REVERSED RAISED HAND WITH FINGERS SPLAYED",
        "REVERSED THUMBS UP SIGN;REVERSED THUMBS DOWN SIGN;REVERSED VICTORY HAND",
        "REVERSED HAND WITH MIDDLE FINGER EXTENDED",
        "RAISED HAND WITH PART BETWEEN MIDDLE AND RING FINGERS;WHITE DOWN POINTING LEFT HAND INDEX",
        "SIDEWAYS WHITE LEFT POINTING INDEX;SIDEWAYS WHITE RIGHT POINTING INDEX",
        "SIDEWAYS BLACK LEFT POINTING INDEX;SIDEWAYS BLACK RIGHT POINTING INDEX",
        "BLACK LEFT POINTING BACKHAND INDEX;BLACK RIGHT POINTING BACKHAND INDEX",
        "SIDEWAYS WHITE UP POINTING INDEX;SIDEWAYS WHITE DOWN POINTING INDEX",
        "SIDEWAYS BLACK UP POINTING INDEX;SIDEWAYS BLACK DOWN POINTING INDEX",
        "BLACK UP POINTING BACKHAND INDEX;BLACK DOWN POINTING BACKHAND INDEX;BLACK HEART",
        "DESKTOP COMPUTER;KEYBOARD AND MOUSE;THREE NETWORKED COMPUTERS;PRINTER;POCKET CALCULATOR",
        "BLACK HARD SHELL FLOPPY DISK;WHITE HARD SHELL FLOPPY DISK;SOFT SHELL FLOPPY DISK",
        "TAPE CARTRIDGE;WIRED KEYBOARD;ONE BUTTON MOUSE;TWO BUTTON MOUSE;THREE BUTTON MOUSE",
        "TRACKBALL;OLD PERSONAL COMPUTER;HARD DISK;SCREEN;PRINTER ICON;FAX ICON;OPTICAL DISC ICON",
        "DOCUMENT WITH TEXT;DOCUMENT WITH TEXT AND PICTURE;DOCUMENT WITH PICTURE;FRAME WITH PICTURE",
        "FRAME WITH TILES;FRAME WITH AN X;BLACK FOLDER;FOLDER;OPEN FOLDER;CARD INDEX DIVIDERS",
        "CARD FILE BOX;FILE CABINET;EMPTY NOTE;EMPTY NOTE PAGE;EMPTY NOTE PAD;NOTE;NOTE PAGE",
        "NOTE PAD;EMPTY DOCUMENT;EMPTY PAGE;EMPTY PAGES;DOCUMENT;PAGE;PAGES;WASTEBASKET",
        "SPIRAL NOTE PAD;SPIRAL CALENDAR PAD;DESKTOP WINDOW;MINIMIZE;MAXIMIZE;OVERLAP",
        "CLOCKWISE RIGHT AND LEFT SEMICIRCLE ARROWS;CANCELLATION X;INCREASE FONT SIZE SYMBOL",
        "DECREASE FONT SIZE SYMBOL;COMPRESSION;OLD KEY;ROLLED-UP NEWSPAPER;PAGE WITH CIRCLED TEXT",
        "STOCK CHART;DAGGER KNIFE;LIPS;SPEAKING HEAD IN SILHOUETTE;THREE RAYS ABOVE",
        "THREE RAYS BELOW;THREE RAYS LEFT;THREE RAYS RIGHT;LEFT SPEECH BUBBLE;RIGHT SPEECH BUBBLE",
        "TWO SPEECH BUBBLES;THREE SPEECH BUBBLES;LEFT THOUGHT BUBBLE;RIGHT THOUGHT BUBBLE",
        "LEFT ANGER BUBBLE;RIGHT ANGER BUBBLE;MOOD BUBBLE;LIGHTNING MOOD BUBBLE;LIGHTNING MOOD",
        "BALLOT BOX WITH BALLOT;BALLOT SCRIPT X;BALLOT BOX WITH SCRIPT X;BALLOT BOLD SCRIPT X",
        "BALLOT BOX WITH BOLD SCRIPT X;LIGHT CHECK MARK;BALLOT BOX WITH BOLD CHECK;WORLD MAP",
        "MOUNT FUJI;TOKYO TOWER;STATUE OF LIBERTY;SILHOUETTE OF JAPAN;MOYAI;GRINNING FACE",
        "GRINNING FACE WITH SMILING EYES;FACE WITH TEARS OF JOY;SMILING FACE WITH OPEN MOUTH",
        "SMILING FACE WITH OPEN MOUTH AND SMILING EYES;SMILING FACE WITH OPEN MOUTH AND COLD SWEAT",
        "SMILING FACE WITH OPEN MOUTH AND TIGHTLY-CLOSED EYES;SMILING FACE WITH HALO",
        "SMILING FACE WITH HORNS;WINKING FACE;SMILING FACE WITH SMILING EYES",
        "FACE SAVOURING DELICIOUS FOOD;RELIEVED FACE;SMILING FACE WITH HEART-SHAPED EYES",
        "SMILING FACE WITH SUNGLASSES;SMIRKING FACE;NEUTRAL FACE;EXPRESSIONLESS FACE;UNAMUSED FACE",
        "FACE WITH COLD SWEAT;PENSIVE FACE;CONFUSED FACE;CONFOUNDED FACE;KISSING FACE",
        "FACE THROWING A KISS;KISSING FACE WITH SMILING EYES;KISSING FACE WITH CLOSED EYES",
        "FACE WITH STUCK-OUT TONGUE;FACE WITH STUCK-OUT TONGUE AND WINKING EYE",
        "FACE WITH STUCK-OUT TONGUE AND TIGHTLY-CLOSED EYES;DISAPPOINTED FACE;WORRIED FACE",
        "ANGRY FACE;POUTING FACE;CRYING FACE;PERSEVERING FACE;FACE WITH LOOK OF TRIUMPH",
        "DISAPPOINTED BUT RELIEVED FACE;FROWNING FACE WITH OPEN MOUTH;ANGUISHED FACE;FEARFUL FACE",
        "WEARY FACE;SLEEPY FACE;TIRED FACE;GRIMACING FACE;LOUDLY CRYING FACE;FACE WITH OPEN MOUTH",
        "HUSHED FACE;FACE WITH OPEN MOUTH AND COLD SWEAT;FACE SCREAMING IN FEAR;ASTONISHED FACE",
        "FLUSHED FACE;SLEEPING FACE;DIZZY FACE;FACE WITHOUT MOUTH;FACE WITH MEDICAL MASK",
        "GRINNING CAT FACE WITH SMILING EYES;CAT FACE WITH TEARS OF JOY",
        "SMILING CAT FACE WITH OPEN MOUTH;SMILING CAT FACE WITH HEART-SHAPED EYES",
        "CAT FACE WITH WRY SMILE;KISSING CAT FACE WITH CLOSED EYES;POUTING CAT FACE;CRYING CAT FACE",
        "WEARY CAT FACE;SLIGHTLY FROWNING FACE;SLIGHTLY SMILING FACE;UPSIDE-DOWN FACE",
        "FACE WITH ROLLING EYES;FACE WITH NO GOOD GESTURE;FACE WITH OK GESTURE;PERSON BOWING DEEPLY",
        "SEE-NO-EVIL MONKEY;HEAR-NO-EVIL MONKEY;SPEAK-NO-EVIL MONKEY;HAPPY PERSON RAISING ONE HAND",
        "PERSON RAISING BOTH HANDS IN CELEBRATION;PERSON FROWNING;PERSON WITH POUTING FACE",
        "PERSON WITH FOLDED HANDS;NORTH WEST POINTING LEAF;SOUTH WEST POINTING LEAF",
        "NORTH EAST POINTING LEAF;SOUTH EAST POINTING LEAF;TURNED NORTH WEST POINTING LEAF",
        "TURNED SOUTH WEST POINTING LEAF;TURNED NORTH EAST POINTING LEAF",
        "TURNED SOUTH EAST POINTING LEAF;NORTH WEST POINTING VINE LEAF",
        "SOUTH WEST POINTING VINE LEAF;NORTH EAST POINTING VINE LEAF;SOUTH EAST POINTING VINE LEAF",
        "HEAVY NORTH WEST POINTING VINE LEAF;HEAVY SOUTH WEST POINTING VINE LEAF",
        "HEAVY NORTH EAST POINTING VINE LEAF;HEAVY SOUTH EAST POINTING VINE LEAF",
        "NORTH WEST POINTING BUD;SOUTH WEST POINTING BUD;NORTH EAST POINTING BUD",
        "SOUTH EAST POINTING BUD;HEAVY NORTH WEST POINTING BUD;HEAVY SOUTH WEST POINTING BUD",
        "HEAVY NORTH EAST POINTING BUD;HEAVY SOUTH EAST POINTING BUD;HOLLOW QUILT SQUARE ORNAMENT",
        "HOLLOW QUILT SQUARE ORNAMENT IN BLACK SQUARE;SOLID QUILT SQUARE ORNAMENT",
        "SOLID QUILT SQUARE ORNAMENT IN BLACK SQUARE;LEFTWARDS ROCKET;UPWARDS ROCKET",
        "RIGHTWARDS ROCKET;DOWNWARDS ROCKET;SCRIPT LIGATURE ET ORNAMENT",
        "HEAVY SCRIPT LIGATURE ET ORNAMENT;LIGATURE OPEN ET ORNAMENT",
        "HEAVY LIGATURE OPEN ET ORNAMENT;HEAVY AMPERSAND ORNAMENT;SWASH AMPERSAND ORNAMENT",
        "SANS-SERIF HEAVY DOUBLE TURNED COMMA QUOTATION MARK ORNAMENT",
        "SANS-SERIF HEAVY DOUBLE COMMA QUOTATION MARK ORNAMENT",
        "SANS-SERIF HEAVY LOW DOUBLE COMMA QUOTATION MARK ORNAMENT;HEAVY INTERROBANG ORNAMENT",
        "SANS-SERIF INTERROBANG ORNAMENT;HEAVY SANS-SERIF INTERROBANG ORNAMENT;VERY HEAVY SOLIDUS",
        "VERY HEAVY REVERSE SOLIDUS;CHECKER BOARD;REVERSE CHECKER BOARD;ROCKET;HELICOPTER",
        "STEAM LOCOMOTIVE;RAILWAY CAR;HIGH-SPEED TRAIN;HIGH-SPEED TRAIN WITH BULLET NOSE;TRAIN",
        "METRO;LIGHT RAIL;STATION;TRAM;TRAM CAR;BUS;ONCOMING BUS;TROLLEYBUS;BUS STOP;MINIBUS",
        "AMBULANCE;FIRE ENGINE;POLICE CAR;ONCOMING POLICE CAR;TAXI;ONCOMING TAXI;AUTOMOBILE",
        "ONCOMING AUTOMOBILE;RECREATIONAL VEHICLE;DELIVERY TRUCK;ARTICULATED LORRY;TRACTOR;MONORAIL",
        "MOUNTAIN RAILWAY;SUSPENSION RAILWAY;MOUNTAIN CABLEWAY;AERIAL TRAMWAY;SHIP;ROWBOAT",
        "SPEEDBOAT;HORIZONTAL TRAFFIC LIGHT;VERTICAL TRAFFIC LIGHT;CONSTRUCTION SIGN",
        "POLICE CARS REVOLVING LIGHT;TRIANGULAR FLAG ON POST;DOOR;NO ENTRY SIGN;SMOKING SYMBOL",
        "NO SMOKING SYMBOL;PUT LITTER IN ITS PLACE SYMBOL;DO NOT LITTER SYMBOL;POTABLE WATER SYMBOL",
        "NON-POTABLE WATER SYMBOL;BICYCLE;NO BICYCLES;BICYCLIST;MOUNTAIN BICYCLIST;PEDESTRIAN",
        "NO PEDESTRIANS;CHILDREN CROSSING;MENS SYMBOL;WOMENS SYMBOL;RESTROOM;BABY SYMBOL;TOILET",
        "WATER CLOSET;SHOWER;BATH;BATHTUB;PASSPORT CONTROL;CUSTOMS;BAGGAGE CLAIM;LEFT LUGGAGE",
        "TRIANGLE WITH ROUNDED CORNERS;PROHIBITED SIGN;CIRCLED INFORMATION SOURCE;BOYS SYMBOL",
        "GIRLS SYMBOL;COUCH AND LAMP;SLEEPING ACCOMMODATION;SHOPPING BAGS;BELLHOP BELL;BED",
        "PLACE OF WORSHIP;OCTAGONAL SIGN;SHOPPING TROLLEY;STUPA;PAGODA;HINDU TEMPLE;HUT;ELEVATOR"]⟩,
    ⟨0x1F6DD,
      ["PLAYGROUND SLIDE;WHEEL;RING BUOY;HAMMER AND WRENCH;SHIELD;OIL DRUM;MOTORWAY;RAILWAY TRACK",
        "MOTOR BOAT;UP-POINTING MILITARY AIRPLANE;UP-POINTING AIRPLANE;UP-POINTING SMALL AIRPLANE",
        "SMALL AIRPLANE;NORTHEAST-POINTING AIRPLANE;AIRPLANE DEPARTURE;AIRPLANE ARRIVING"]⟩,
    ⟨0x1F6F0,
      ["SATELLITE;ONCOMING FIRE ENGINE;DIESEL LOCOMOTIVE;PASSENGER SHIP;SCOOTER;MOTOR SCOOTER",
        "CANOE;SLED;FLYING SAUCER;SKATEBOARD;AUTO RICKSHAW;PICKUP TRUCK;ROLLER SKATE"]⟩,
    ⟨0x1F780,
      ["BLACK LEFT-POINTING ISOSCELES RIGHT TRIANGLE;BLACK UP-POINTING ISOSCELES RIGHT TRIANGLE",
        "BLACK RIGHT-POINTING ISOSCELES RIGHT TRIANGLE;BLACK DOWN-POINTING ISOSCELES RIGHT TRIANGLE",
        "BLACK SLIGHTLY SMALL CIRCLE;MEDIUM BOLD WHITE CIRCLE;BOLD WHITE CIRCLE;HEAVY WHITE CIRCLE",
        "VERY HEAVY WHITE CIRCLE;EXTREMELY HEAVY WHITE CIRCLE",
        "WHITE CIRCLE CONTAINING BLACK SMALL CIRCLE;ROUND TARGET;BLACK TINY SQUARE",
        "BLACK SLIGHTLY SMALL SQUARE;LIGHT WHITE SQUARE;MEDIUM WHITE SQUARE;BOLD WHITE SQUARE",
        "HEAVY WHITE SQUARE;VERY HEAVY WHITE SQUARE;EXTREMELY HEAVY WHITE SQUARE",
        "WHITE SQUARE CONTAINING BLACK VERY SMALL SQUARE",
        "WHITE SQUARE CONTAINING BLACK MEDIUM SQUARE;SQUARE TARGET;BLACK TINY DIAMOND",
        "BLACK VERY SMALL DIAMOND;BLACK MEDIUM SMALL DIAMOND",
        "WHITE DIAMOND CONTAINING BLACK VERY SMALL DIAMOND",
        "WHITE DIAMOND CONTAINING BLACK MEDIUM DIAMOND;DIAMOND TARGET;BLACK TINY LOZENGE",
        "BLACK VERY SMALL LOZENGE;BLACK MEDIUM SMALL LOZENGE",
        "WHITE LOZENGE CONTAINING BLACK SMALL LOZENGE;THIN GREEK CROSS;LIGHT GREEK CROSS",
        "MEDIUM GREEK CROSS;BOLD GREEK CROSS;VERY BOLD GREEK CROSS;VERY HEAVY GREEK CROSS",
        "EXTREMELY HEAVY GREEK CROSS;THIN SALTIRE;LIGHT SALTIRE;MEDIUM SALTIRE;BOLD SALTIRE",
        "HEAVY SALTIRE;VERY HEAVY SALTIRE;EXTREMELY HEAVY SALTIRE;LIGHT FIVE SPOKED ASTERISK",
        "MEDIUM FIVE SPOKED ASTERISK;BOLD FIVE SPOKED ASTERISK;HEAVY FIVE SPOKED ASTERISK",
        "VERY HEAVY FIVE SPOKED ASTERISK;EXTREMELY HEAVY FIVE SPOKED ASTERISK",
        "LIGHT SIX SPOKED ASTERISK;MEDIUM SIX SPOKED ASTERISK;BOLD SIX SPOKED ASTERISK",
        "HEAVY SIX SPOKED ASTERISK;VERY HEAVY SIX SPOKED ASTERISK",
        "EXTREMELY HEAVY SIX SPOKED ASTERISK;LIGHT EIGHT SPOKED ASTERISK",
        "MEDIUM EIGHT SPOKED ASTERISK;BOLD EIGHT SPOKED ASTERISK;HEAVY EIGHT SPOKED ASTERISK",
        "VERY HEAVY EIGHT SPOKED ASTERISK;LIGHT THREE POINTED BLACK STAR",
        "MEDIUM THREE POINTED BLACK STAR;THREE POINTED BLACK STAR",
        "MEDIUM THREE POINTED PINWHEEL STAR;LIGHT FOUR POINTED BLACK STAR",
        "MEDIUM FOUR POINTED BLACK STAR;FOUR POINTED BLACK STAR;MEDIUM FOUR POINTED PINWHEEL STAR",
        "REVERSE LIGHT FOUR POINTED PINWHEEL STAR;LIGHT FIVE POINTED BLACK STAR",
        "HEAVY FIVE POINTED BLACK STAR;MEDIUM SIX POINTED BLACK STAR;HEAVY SIX POINTED BLACK STAR",
        "SIX POINTED PINWHEEL STAR;MEDIUM EIGHT POINTED BLACK STAR;HEAVY EIGHT POINTED BLACK STAR",
        "VERY HEAVY EIGHT POINTED BLACK STAR;HEAVY EIGHT POINTED PINWHEEL STAR",
        "LIGHT TWELVE POINTED BLACK STAR;HEAVY TWELVE POINTED BLACK STAR",
        "HEAVY TWELVE POINTED PINWHEEL STAR;CIRCLED TRIANGLE;NEGATIVE CIRCLED TRIANGLE",
        "CIRCLED SQUARE;NEGATIVE CIRCLED SQUARE"]⟩,
    ⟨0x1F7E0,
      ["LARGE ORANGE CIRCLE;LARGE YELLOW CIRCLE;LARGE GREEN CIRCLE;LARGE PURPLE CIRCLE",
        "LARGE BROWN CIRCLE;LARGE RED SQUARE;LARGE BLUE SQUARE;LARGE ORANGE SQUARE",
        "LARGE YELLOW SQUARE;LARGE GREEN SQUARE;LARGE PURPLE SQUARE;LARGE BROWN SQUARE"]⟩,
    ⟨0x1F7F0,
      ["HEAVY EQUALS SIGN"]⟩,
    ⟨0x1F900,
      ["CIRCLED CROSS FORMEE WITH FOUR DOTS;CIRCLED CROSS FORMEE WITH TWO DOTS",
        "CIRCLED CROSS FORMEE;LEFT HALF CIRCLE WITH FOUR DOTS;LEFT HALF CIRCLE WITH THREE DOTS",
        "LEFT HALF CIRCLE WITH TWO DOTS;LEFT HALF CIRCLE WITH DOT;LEFT HALF CIRCLE",
        "DOWNWARD FACING HOOK;DOWNWARD FACING NOTCHED HOOK;DOWNWARD FACING HOOK WITH DOT",
        "DOWNWARD FACING NOTCHED HOOK WITH DOT;PINCHED FINGERS;WHITE HEART;BROWN HEART",
        "PINCHING HAND;ZIPPER-MOUTH FACE;MONEY-MOUTH FACE;FACE WITH THERMOMETER;NERD FACE",
        "THINKING FACE;FACE WITH HEAD-BANDAGE;ROBOT FACE;HUGGING FACE;SIGN OF THE HORNS",
        "CALL ME HAND;RAISED BACK OF HAND;LEFT-FACING FIST;RIGHT-FACING FIST;HANDSHAKE",
        "HAND WITH INDEX AND MIDDLE FINGERS CROSSED;I LOVE YOU HAND SIGN;FACE WITH COWBOY HAT",
        "CLOWN FACE;NAUSEATED FACE;ROLLING ON THE FLOOR LAUGHING;DROOLING FACE;LYING FACE;FACE PALM",
        "SNEEZING FACE;FACE WITH ONE EYEBROW RAISED;GRINNING FACE WITH STAR EYES",
        "GRINNING FACE WITH ONE LARGE AND ONE SMALL EYE;FACE WITH FINGER COVERING CLOSED LIPS",
        "SERIOUS FACE WITH SYMBOLS COVERING MOUTH",
        "SMILING FACE WITH SMILING EYES AND HAND COVERING MOUTH;FACE WITH OPEN MOUTH VOMITING",
        "SHOCKED FACE WITH EXPLODING HEAD;PREGNANT WOMAN;BREAST-FEEDING;PALMS UP TOGETHER;SELFIE",
        "PRINCE;MAN IN TUXEDO;MOTHER CHRISTMAS;SHRUG;PERSON DOING CARTWHEEL;JUGGLING;FENCER",
        "MODERN PENTATHLON;WRESTLERS;WATER POLO;HANDBALL;DIVING MASK;WILTED FLOWER",
        "DRUM WITH DRUMSTICKS;CLINKING GLASSES;TUMBLER GLASS;SPOON;GOAL NET;RIFLE;FIRST PLACE MEDAL",
        "SECOND PLACE MEDAL;THIRD PLACE MEDAL;BOXING GLOVE;MARTIAL ARTS UNIFORM;CURLING STONE",
        "LACROSSE STICK AND BALL;SOFTBALL;FLYING DISC;CROISSANT;AVOCADO;CUCUMBER;BACON;POTATO",
        "CARROT;BAGUETTE BREAD;GREEN SALAD;SHALLOW PAN OF FOOD;STUFFED FLATBREAD;EGG;GLASS OF MILK",
        "PEANUTS;KIWIFRUIT;PANCAKES;DUMPLING;FORTUNE COOKIE;TAKEOUT BOX;CHOPSTICKS;BOWL WITH SPOON",
        "CUP WITH STRAW;COCONUT;BROCCOLI;PIE;PRETZEL;CUT OF MEAT;SANDWICH;CANNED FOOD;LEAFY GREEN",
        "MANGO;MOON CAKE;BAGEL;SMILING FACE WITH SMILING EYES AND THREE HEARTS;YAWNING FACE",
        "SMILING FACE WITH TEAR;FACE WITH PARTY HORN AND PARTY HAT",
        "FACE WITH UNEVEN EYES AND WAVY MOUTH;OVERHEATED FACE;FREEZING FACE;NINJA;DISGUISED FACE",
        "FACE HOLDING BACK TEARS;FACE WITH PLEADING EYES;SARI;LAB COAT;GOGGLES;HIKING BOOT",
        "FLAT SHOE;CRAB;LION FACE;SCORPION;TURKEY;UNICORN FACE;EAGLE;DUCK;BAT;SHARK;OWL;FOX FACE",
        "BUTTERFLY;DEER;GORILLA;LIZARD;RHINOCEROS;SHRIMP;SQUID;GIRAFFE FACE;ZEBRA FACE;HEDGEHOG",
        "SAUROPOD;T-REX;CRICKET;KANGAROO;LLAMA;PEACOCK;HIPPOPOTAMUS;PARROT;RACCOON;LOBSTER;MOSQUITO",
        "MICROBE;BADGER;SWAN;MAMMOTH;DODO;SLOTH;OTTER;ORANGUTAN;SKUNK;FLAMINGO;OYSTER;BEAVER;BISON",
        "SEAL;GUIDE DOG;PROBING CANE;EMOJI COMPONENT RED HAIR;EMOJI COMPONENT CURLY HAIR",
        "EMOJI COMPONENT BALD;EMOJI COMPONENT WHITE HAIR;BONE;LEG;FOOT;TOOTH;SUPERHERO;SUPERVILLAIN",
        "SAFETY VEST;EAR WITH HEARING AID;MOTORIZED WHEELCHAIR;MANUAL WHEELCHAIR;MECHANICAL ARM",
        "MECHANICAL LEG;CHEESE WEDGE;CUPCAKE;SALT SHAKER;BEVERAGE BOX;GARLIC;ONION;FALAFEL;WAFFLE",
        "BUTTER;MATE DRINK;ICE CUBE;BUBBLE TEA;TROLL;STANDING PERSON;KNEELING PERSON;DEAF PERSON",
        "FACE WITH MONOCLE;ADULT;CHILD;OLDER ADULT;BEARDED PERSON;PERSON WITH HEADSCARF",
        "PERSON IN STEAMY ROOM;PERSON CLIMBING;PERSON IN LOTUS POSITION;MAGE;FAIRY;VAMPIRE",
        "MERPERSON;ELF;GENIE;ZOMBIE;BRAIN;ORANGE HEART;BILLED CAP;SCARF;GLOVES;COAT;SOCKS",
        "RED GIFT ENVELOPE;FIRECRACKER;JIGSAW PUZZLE PIECE;TEST TUBE;PETRI DISH;DNA DOUBLE HELIX",
        "COMPASS;ABACUS;FIRE EXTINGUISHER;TOOLBOX;BRICK;MAGNET;LUGGAGE;LOTION BOTTLE",
        "SPOOL OF THREAD;BALL OF YARN;SAFETY PIN;TEDDY BEAR;BROOM;BASKET;ROLL OF PAPER;BAR OF SOAP",
        "SPONGE;RECEIPT;NAZAR AMULET;NEUTRAL CHESS KING;NEUTRAL CHESS QUEEN;NEUTRAL CHESS ROOK",
        "NEUTRAL CHESS BISHOP;NEUTRAL CHESS KNIGHT;NEUTRAL CHESS PAWN",
        "WHITE CHESS KNIGHT ROTATED FORTY-FIVE DEGREES",
        "BLACK CHESS KNIGHT ROTATED FORTY-FIVE DEGREES",
        "NEUTRAL CHESS KNIGHT ROTATED FORTY-FIVE DEGREES;WHITE CHESS KING ROTATED NINETY DEGREES",
        "WHITE CHESS QUEEN ROTATED NINETY DEGREES;WHITE CHESS ROOK ROTATED NINETY DEGREES",
        "WHITE CHESS BISHOP ROTATED NINETY DEGREES;WHITE CHESS KNIGHT ROTATED NINETY DEGREES",
        "WHITE CHESS PAWN ROTATED NINETY DEGREES;BLACK CHESS KING ROTATED NINETY DEGREES",
        "BLACK CHESS QUEEN ROTATED NINETY DEGREES;BLACK CHESS ROOK ROTATED NINETY DEGREES",
        "BLACK CHESS BISHOP ROTATED NINETY DEGREES;BLACK CHESS KNIGHT ROTATED NINETY DEGREES",
        "BLACK CHESS PAWN ROTATED NINETY DEGREES;NEUTRAL CHESS KING ROTATED NINETY DEGREES",
        "NEUTRAL CHESS QUEEN ROTATED NINETY DEGREES;NEUTRAL CHESS ROOK ROTATED NINETY DEGREES",
        "NEUTRAL CHESS BISHOP ROTATED NINETY DEGREES;NEUTRAL CHESS KNIGHT ROTATED NINETY DEGREES",
        "NEUTRAL CHESS PAWN ROTATED NINETY DEGREES",
        "WHITE CHESS KNIGHT ROTATED ONE HUNDRED THIRTY-FIVE DEGREES",
        "BLACK CHESS KNIGHT ROTATED ONE HUNDRED THIRTY-FIVE DEGREES",
        "NEUTRAL CHESS KNIGHT ROTATED ONE HUNDRED THIRTY-FIVE DEGREES;WHITE CHESS TURNED KING",
        "WHITE CHESS TURNED QUEEN;WHITE CHESS TURNED ROOK;WHITE CHESS TURNED BISHOP",
        "WHITE CHESS TURNED KNIGHT;WHITE CHESS TURNED PAWN;BLACK CHESS TURNED KING",
        "BLACK CHESS TURNED QUEEN;BLACK CHESS TURNED ROOK;BLACK CHESS TURNED BISHOP",
        "BLACK CHESS TURNED KNIGHT;BLACK CHESS TURNED PAWN;NEUTRAL CHESS TURNED KING",
        "NEUTRAL CHESS TURNED QUEEN;NEUTRAL CHESS TURNED ROOK;NEUTRAL CHESS TURNED BISHOP",
        "NEUTRAL CHESS TURNED KNIGHT;NEUTRAL CHESS TURNED PAWN",
        "WHITE CHESS KNIGHT ROTATED TWO HUNDRED TWENTY-FIVE DEGREES",
        "BLACK CHESS KNIGHT ROTATED TWO HUNDRED TWENTY-FIVE DEGREES",
        "NEUTRAL CHESS KNIGHT ROTATED TWO HUNDRED TWENTY-FIVE DEGREES",
        "WHITE CHESS KING ROTATED TWO HUNDRED SEVENTY DEGREES",
        "WHITE CHESS QUEEN ROTATED TWO HUNDRED SEVENTY DEGREES",
        "WHITE CHESS ROOK ROTATED TWO HUNDRED SEVENTY DEGREES",
        "WHITE CHESS BISHOP ROTATED TWO HUNDRED SEVENTY DEGREES",
        "WHITE CHESS KNIGHT ROTATED TWO HUNDRED SEVENTY DEGREES",
        "WHITE CHESS PAWN ROTATED TWO HUNDRED SEVENTY DEGREES",
        "BLACK CHESS KING ROTATED TWO HUNDRED SEVENTY DEGREES",
        "BLACK CHESS QUEEN ROTATED TWO HUNDRED SEVENTY DEGREES",
        "BLACK CHESS ROOK ROTATED TWO HUNDRED SEVENTY DEGREES",
        "BLACK CHESS BISHOP ROTATED TWO HUNDRED SEVENTY DEGREES",
        "BLACK CHESS KNIGHT ROTATED TWO HUNDRED SEVENTY DEGREES",
        "BLACK CHESS PAWN ROTATED TWO HUNDRED SEVENTY DEGREES",
        "NEUTRAL CHESS KING ROTATED TWO HUNDRED SEVENTY DEGREES",
        "NEUTRAL CHESS QUEEN ROTATED TWO HUNDRED SEVENTY DEGREES",
        "NEUTRAL CHESS ROOK ROTATED TWO HUNDRED SEVENTY DEGREES",
        "NEUTRAL CHESS BISHOP ROTATED TWO HUNDRED SEVENTY DEGREES",
        "NEUTRAL CHESS KNIGHT ROTATED TWO HUNDRED SEVENTY DEGREES",
        "NEUTRAL CHESS PAWN ROTATED TWO HUNDRED SEVENTY DEGREES",
        "WHITE CHESS KNIGHT ROTATED THREE HUNDRED FIFTEEN DEGREES",
        "BLACK CHESS KNIGHT ROTATED THREE HUNDRED FIFTEEN DEGREES",
        "NEUTRAL CHESS KNIGHT ROTATED THREE HUNDRED FIFTEEN DEGREES;WHITE CHESS EQUIHOPPER",
        "BLACK CHESS EQUIHOPPER;NEUTRAL CHESS EQUIHOPPER",
        "WHITE CHESS EQUIHOPPER ROTATED NINETY DEGREES",
        "BLACK CHESS EQUIHOPPER ROTATED NINETY DEGREES",
        "NEUTRAL CHESS EQUIHOPPER ROTATED NINETY DEGREES;WHITE CHESS KNIGHT-QUEEN",
        "WHITE CHESS KNIGHT-ROOK;WHITE CHESS KNIGHT-BISHOP;BLACK CHESS KNIGHT-QUEEN",
        "BLACK CHESS KNIGHT-ROOK;BLACK CHESS KNIGHT-BISHOP"]⟩,
    ⟨0x1FA60,
      ["XIANGQI RED GENERAL;XIANGQI RED MANDARIN;XIANGQI RED ELEPHANT;XIANGQI RED HORSE",
        "XIANGQI RED CHARIOT;XIANGQI RED CANNON;XIANGQI RED SOLDIER;XIANGQI BLACK GENERAL",
        "XIANGQI BLACK MANDARIN;XIANGQI BLACK ELEPHANT;XIANGQI BLACK HORSE;XIANGQI BLACK CHARIOT",
        "XIANGQI BLACK CANNON;XIANGQI BLACK SOLDIER"]⟩,
    ⟨0x1FA70,
      ["BALLET SHOES;ONE-PIECE SWIMSUIT;BRIEFS;SHORTS;THONG SANDAL"]⟩,
    ⟨0x1FA78,
      ["DROP OF BLOOD;ADHESIVE BANDAGE;STETHOSCOPE;X-RAY;CRUTCH"]⟩,
    ⟨0x1FA80,
      ["YO-YO;KITE;PARACHUTE;BOOMERANG;MAGIC WAND;PINATA;NESTING DOLLS"]⟩,
    ⟨0x1FA90,
      ["RINGED PLANET;CHAIR;RAZOR;AXE;DIYA LAMP;BANJO;MILITARY HELMET;ACCORDION;LONG DRUM;COIN",
        "CARPENTRY SAW;SCREWDRIVER;LADDER;HOOK;MIRROR;WINDOW;PLUNGER;SEWING NEEDLE;KNOT;BUCKET",
        "MOUSE TRAP;TOOTHBRUSH;HEADSTONE;PLACARD;ROCK;MIRROR BALL;IDENTIFICATION CARD;LOW BATTERY",
        "HAMSA"]⟩,
    ⟨0x1FAB0,
      ["FLY;WORM;BEETLE;COCKROACH;POTTED PLANT;WOOD;FEATHER;LOTUS;CORAL;EMPTY NEST;NEST WITH EGGS"]⟩,
    ⟨0x1FAC0,
      ["ANATOMICAL HEART;LUNGS;PEOPLE HUGGING;PREGNANT MAN;PREGNANT PERSON;PERSON WITH CROWN"]⟩,
    ⟨0x1FAD0,
      ["BLUEBERRIES;BELL PEPPER;OLIVE;FLATBREAD;TAMALE;FONDUE;TEAPOT;POURING LIQUID;BEANS;JAR"]⟩,
    ⟨0x1FAE0,
      ["MELTING FACE;SALUTING FACE;FACE WITH OPEN EYES AND HAND OVER MOUTH;FACE WITH PEEKING EYE",
        "FACE WITH DIAGONAL MOUTH;DOTTED LINE FACE;BITING LIP;BUBBLES"]⟩,
    ⟨0x1FAF0,
      ["HAND WITH INDEX FINGER AND THUMB CROSSED;RIGHTWARDS HAND;LEFTWARDS HAND;PALM DOWN HAND",
        "PALM UP HAND;INDEX POINTING AT THE VIEWER;HEART HANDS"]⟩]

end Runbook.Text
