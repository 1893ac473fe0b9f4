import Runbook.Text.Name.Basic

/-!
# The names of the letters of further scripts

The names of the letters and signs of Greek, Cyrillic, Armenian, Hebrew, Arabic, Devanagari, Thai,
Georgian and Japanese, in the order of the code points.
-/

namespace Runbook.Text

set_option maxRecDepth 8000 in
/-- The names of the letters and signs of Greek, Cyrillic, Armenian, Hebrew, Arabic, Devanagari,
Thai, Georgian and Japanese. -/
def scriptNames : List NameRun :=
  [⟨0x370,
      ["GREEK CAPITAL LETTER HETA;GREEK SMALL LETTER HETA;GREEK CAPITAL LETTER ARCHAIC SAMPI",
        "GREEK SMALL LETTER ARCHAIC SAMPI;GREEK NUMERAL SIGN;GREEK LOWER NUMERAL SIGN",
        "GREEK CAPITAL LETTER PAMPHYLIAN DIGAMMA;GREEK SMALL LETTER PAMPHYLIAN DIGAMMA"]⟩,
    ⟨0x37A,
      ["GREEK YPOGEGRAMMENI;GREEK SMALL REVERSED LUNATE SIGMA SYMBOL",
        "GREEK SMALL DOTTED LUNATE SIGMA SYMBOL;GREEK SMALL REVERSED DOTTED LUNATE SIGMA SYMBOL",
        "GREEK QUESTION MARK;GREEK CAPITAL LETTER YOT"]⟩,
    ⟨0x384,
      ["GREEK TONOS;GREEK DIALYTIKA TONOS;GREEK CAPITAL LETTER ALPHA WITH TONOS;GREEK ANO TELEIA",
        "GREEK CAPITAL LETTER EPSILON WITH TONOS;GREEK CAPITAL LETTER ETA WITH TONOS",
        "GREEK CAPITAL LETTER IOTA WITH TONOS"]⟩,
    ⟨0x38C,
      ["GREEK CAPITAL LETTER OMICRON WITH TONOS"]⟩,
    ⟨0x38E,
      ["GREEK CAPITAL LETTER UPSILON WITH TONOS;GREEK CAPITAL LETTER OMEGA WITH TONOS",
        "GREEK SMALL LETTER IOTA WITH DIALYTIKA AND TONOS;GREEK CAPITAL LETTER ALPHA",
        "GREEK CAPITAL LETTER BETA;GREEK CAPITAL LETTER GAMMA;GREEK CAPITAL LETTER DELTA",
        "GREEK CAPITAL LETTER EPSILON;GREEK CAPITAL LETTER ZETA;GREEK CAPITAL LETTER ETA",
        "GREEK CAPITAL LETTER THETA;GREEK CAPITAL LETTER IOTA;GREEK CAPITAL LETTER KAPPA",
        "GREEK CAPITAL LETTER LAMDA;GREEK CAPITAL LETTER MU;GREEK CAPITAL LETTER NU",
        "GREEK CAPITAL LETTER XI;GREEK CAPITAL LETTER OMICRON;GREEK CAPITAL LETTER PI",
        "GREEK CAPITAL LETTER RHO"]⟩,
    ⟨0x3A3,
      ["GREEK CAPITAL LETTER SIGMA;GREEK CAPITAL LETTER TAU;GREEK CAPITAL LETTER UPSILON",
        "GREEK CAPITAL LETTER PHI;GREEK CAPITAL LETTER CHI;GREEK CAPITAL LETTER PSI",
        "GREEK CAPITAL LETTER OMEGA;GREEK CAPITAL LETTER IOTA WITH DIALYTIKA",
        "GREEK CAPITAL LETTER UPSILON WITH DIALYTIKA;GREEK SMALL LETTER ALPHA WITH TONOS",
        "GREEK SMALL LETTER EPSILON WITH TONOS;GREEK SMALL LETTER ETA WITH TONOS",
        "GREEK SMALL LETTER IOTA WITH TONOS;GREEK SMALL LETTER UPSILON WITH DIALYTIKA AND TONOS",
        "GREEK SMALL LETTER ALPHA;GREEK SMALL LETTER BETA;GREEK SMALL LETTER GAMMA",
        "GREEK SMALL LETTER DELTA;GREEK SMALL LETTER EPSILON;GREEK SMALL LETTER ZETA",
        "GREEK SMALL LETTER ETA;GREEK SMALL LETTER THETA;GREEK SMALL LETTER IOTA",
        "GREEK SMALL LETTER KAPPA;GREEK SMALL LETTER LAMDA;GREEK SMALL LETTER MU",
        "GREEK SMALL LETTER NU;GREEK SMALL LETTER XI;GREEK SMALL LETTER OMICRON",
        "GREEK SMALL LETTER PI;GREEK SMALL LETTER RHO;GREEK SMALL LETTER FINAL SIGMA",
        "GREEK SMALL LETTER SIGMA;GREEK SMALL LETTER TAU;GREEK SMALL LETTER UPSILON",
        "GREEK SMALL LETTER PHI;GREEK SMALL LETTER CHI;GREEK SMALL LETTER PSI",
        "GREEK SMALL LETTER OMEGA;GREEK SMALL LETTER IOTA WITH DIALYTIKA",
        "GREEK SMALL LETTER UPSILON WITH DIALYTIKA;GREEK SMALL LETTER OMICRON WITH TONOS",
        "GREEK SMALL LETTER UPSILON WITH TONOS;GREEK SMALL LETTER OMEGA WITH TONOS",
        "GREEK CAPITAL KAI SYMBOL;GREEK BETA SYMBOL;GREEK THETA SYMBOL",
        "GREEK UPSILON WITH HOOK SYMBOL;GREEK UPSILON WITH ACUTE AND HOOK SYMBOL",
        "GREEK UPSILON WITH DIAERESIS AND HOOK SYMBOL;GREEK PHI SYMBOL;GREEK PI SYMBOL",
        "GREEK KAI SYMBOL;GREEK LETTER ARCHAIC KOPPA;GREEK SMALL LETTER ARCHAIC KOPPA",
        "GREEK LETTER STIGMA;GREEK SMALL LETTER STIGMA;GREEK LETTER DIGAMMA",
        "GREEK SMALL LETTER DIGAMMA;GREEK LETTER KOPPA;GREEK SMALL LETTER KOPPA;GREEK LETTER SAMPI",
        "GREEK SMALL LETTER SAMPI;COPTIC CAPITAL LETTER SHEI;COPTIC SMALL LETTER SHEI",
        "COPTIC CAPITAL LETTER FEI;COPTIC SMALL LETTER FEI;COPTIC CAPITAL LETTER KHEI",
        "COPTIC SMALL LETTER KHEI;COPTIC CAPITAL LETTER HORI;COPTIC SMALL LETTER HORI",
        "COPTIC CAPITAL LETTER GANGIA;COPTIC SMALL LETTER GANGIA;COPTIC CAPITAL LETTER SHIMA",
        "COPTIC SMALL LETTER SHIMA;COPTIC CAPITAL LETTER DEI;COPTIC SMALL LETTER DEI",
        "GREEK KAPPA SYMBOL;GREEK RHO SYMBOL;GREEK LUNATE SIGMA SYMBOL;GREEK LETTER YOT",
        "GREEK CAPITAL THETA SYMBOL;GREEK LUNATE EPSILON SYMBOL",
        "GREEK REVERSED LUNATE EPSILON SYMBOL;GREEK CAPITAL LETTER SHO;GREEK SMALL LETTER SHO",
        "GREEK CAPITAL LUNATE SIGMA SYMBOL;GREEK CAPITAL LETTER SAN;GREEK SMALL LETTER SAN",
        "GREEK RHO WITH STROKE SYMBOL;GREEK CAPITAL REVERSED LUNATE SIGMA SYMBOL",
        "GREEK CAPITAL DOTTED LUNATE SIGMA SYMBOL;GREEK CAPITAL REVERSED DOTTED LUNATE SIGMA SYMBOL",
        "CYRILLIC CAPITAL LETTER IE WITH GRAVE;CYRILLIC CAPITAL LETTER IO",
        "CYRILLIC CAPITAL LETTER DJE;CYRILLIC CAPITAL LETTER GJE",
        "CYRILLIC CAPITAL LETTER UKRAINIAN IE;CYRILLIC CAPITAL LETTER DZE",
        "CYRILLIC CAPITAL LETTER BYELORUSSIAN-UKRAINIAN I;CYRILLIC CAPITAL LETTER YI",
        "CYRILLIC CAPITAL LETTER JE;CYRILLIC CAPITAL LETTER LJE;CYRILLIC CAPITAL LETTER NJE",
        "CYRILLIC CAPITAL LETTER TSHE;CYRILLIC CAPITAL LETTER KJE",
        "CYRILLIC CAPITAL LETTER I WITH GRAVE;CYRILLIC CAPITAL LETTER SHORT U",
        "CYRILLIC CAPITAL LETTER DZHE;CYRILLIC CAPITAL LETTER A;CYRILLIC CAPITAL LETTER BE",
        "CYRILLIC CAPITAL LETTER VE;CYRILLIC CAPITAL LETTER GHE;CYRILLIC CAPITAL LETTER DE",
        "CYRILLIC CAPITAL LETTER IE;CYRILLIC CAPITAL LETTER ZHE;CYRILLIC CAPITAL LETTER ZE",
        "CYRILLIC CAPITAL LETTER I;CYRILLIC CAPITAL LETTER SHORT I;CYRILLIC CAPITAL LETTER KA",
        "CYRILLIC CAPITAL LETTER EL;CYRILLIC CAPITAL LETTER EM;CYRILLIC CAPITAL LETTER EN",
        "CYRILLIC CAPITAL LETTER O;CYRILLIC CAPITAL LETTER PE;CYRILLIC CAPITAL LETTER ER",
        "CYRILLIC CAPITAL LETTER ES;CYRILLIC CAPITAL LETTER TE;CYRILLIC CAPITAL LETTER U",
        "CYRILLIC CAPITAL LETTER EF;CYRILLIC CAPITAL LETTER HA;CYRILLIC CAPITAL LETTER TSE",
        "CYRILLIC CAPITAL LETTER CHE;CYRILLIC CAPITAL LETTER SHA;CYRILLIC CAPITAL LETTER SHCHA",
        "CYRILLIC CAPITAL LETTER HARD SIGN;CYRILLIC CAPITAL LETTER YERU",
        "CYRILLIC CAPITAL LETTER SOFT SIGN;CYRILLIC CAPITAL LETTER E;CYRILLIC CAPITAL LETTER YU",
        "CYRILLIC CAPITAL LETTER YA;CYRILLIC SMALL LETTER A;CYRILLIC SMALL LETTER BE",
        "CYRILLIC SMALL LETTER VE;CYRILLIC SMALL LETTER GHE;CYRILLIC SMALL LETTER DE",
        "CYRILLIC SMALL LETTER IE;CYRILLIC SMALL LETTER ZHE;CYRILLIC SMALL LETTER ZE",
        "CYRILLIC SMALL LETTER I;CYRILLIC SMALL LETTER SHORT I;CYRILLIC SMALL LETTER KA",
        "CYRILLIC SMALL LETTER EL;CYRILLIC SMALL LETTER EM;CYRILLIC SMALL LETTER EN",
        "CYRILLIC SMALL LETTER O;CYRILLIC SMALL LETTER PE;CYRILLIC SMALL LETTER ER",
        "CYRILLIC SMALL LETTER ES;CYRILLIC SMALL LETTER TE;CYRILLIC SMALL LETTER U",
        "CYRILLIC SMALL LETTER EF;CYRILLIC SMALL LETTER HA;CYRILLIC SMALL LETTER TSE",
        "CYRILLIC SMALL LETTER CHE;CYRILLIC SMALL LETTER SHA;CYRILLIC SMALL LETTER SHCHA",
        "CYRILLIC SMALL LETTER HARD SIGN;CYRILLIC SMALL LETTER YERU;CYRILLIC SMALL LETTER SOFT SIGN",
        "CYRILLIC SMALL LETTER E;CYRILLIC SMALL LETTER YU;CYRILLIC SMALL LETTER YA",
        "CYRILLIC SMALL LETTER IE WITH GRAVE;CYRILLIC SMALL LETTER IO;CYRILLIC SMALL LETTER DJE",
        "CYRILLIC SMALL LETTER GJE;CYRILLIC SMALL LETTER UKRAINIAN IE;CYRILLIC SMALL LETTER DZE",
        "CYRILLIC SMALL LETTER BYELORUSSIAN-UKRAINIAN I;CYRILLIC SMALL LETTER YI",
        "CYRILLIC SMALL LETTER JE;CYRILLIC SMALL LETTER LJE;CYRILLIC SMALL LETTER NJE",
        "CYRILLIC SMALL LETTER TSHE;CYRILLIC SMALL LETTER KJE;CYRILLIC SMALL LETTER I WITH GRAVE",
        "CYRILLIC SMALL LETTER SHORT U;CYRILLIC SMALL LETTER DZHE;CYRILLIC CAPITAL LETTER OMEGA",
        "CYRILLIC SMALL LETTER OMEGA;CYRILLIC CAPITAL LETTER YAT;CYRILLIC SMALL LETTER YAT",
        "CYRILLIC CAPITAL LETTER IOTIFIED E;CYRILLIC SMALL LETTER IOTIFIED E",
        "CYRILLIC CAPITAL LETTER LITTLE YUS;CYRILLIC SMALL LETTER LITTLE YUS",
        "CYRILLIC CAPITAL LETTER IOTIFIED LITTLE YUS;CYRILLIC SMALL LETTER IOTIFIED LITTLE YUS",
        "CYRILLIC CAPITAL LETTER BIG YUS;CYRILLIC SMALL LETTER BIG YUS",
        "CYRILLIC CAPITAL LETTER IOTIFIED BIG YUS;CYRILLIC SMALL LETTER IOTIFIED BIG YUS",
        "CYRILLIC CAPITAL LETTER KSI;CYRILLIC SMALL LETTER KSI;CYRILLIC CAPITAL LETTER PSI",
        "CYRILLIC SMALL LETTER PSI;CYRILLIC CAPITAL LETTER FITA;CYRILLIC SMALL LETTER FITA",
        "CYRILLIC CAPITAL LETTER IZHITSA;CYRILLIC SMALL LETTER IZHITSA",
        "CYRILLIC CAPITAL LETTER IZHITSA WITH DOUBLE GRAVE ACCENT",
        "CYRILLIC SMALL LETTER IZHITSA WITH DOUBLE GRAVE ACCENT;CYRILLIC CAPITAL LETTER UK",
        "CYRILLIC SMALL LETTER UK;CYRILLIC CAPITAL LETTER ROUND OMEGA",
        "CYRILLIC SMALL LETTER ROUND OMEGA;CYRILLIC CAPITAL LETTER OMEGA WITH TITLO",
        "CYRILLIC SMALL LETTER OMEGA WITH TITLO;CYRILLIC CAPITAL LETTER OT;CYRILLIC SMALL LETTER OT",
        "CYRILLIC CAPITAL LETTER KOPPA;CYRILLIC SMALL LETTER KOPPA;CYRILLIC THOUSANDS SIGN",
        "COMBINING CYRILLIC TITLO;COMBINING CYRILLIC PALATALIZATION",
        "COMBINING CYRILLIC DASIA PNEUMATA;COMBINING CYRILLIC PSILI PNEUMATA",
        "COMBINING CYRILLIC POKRYTIE;COMBINING CYRILLIC HUNDRED THOUSANDS SIGN",
        "COMBINING CYRILLIC MILLIONS SIGN;CYRILLIC CAPITAL LETTER SHORT I WITH TAIL",
        "CYRILLIC SMALL LETTER SHORT I WITH TAIL;CYRILLIC CAPITAL LETTER SEMISOFT SIGN",
        "CYRILLIC SMALL LETTER SEMISOFT SIGN;CYRILLIC CAPITAL LETTER ER WITH TICK",
        "CYRILLIC SMALL LETTER ER WITH TICK;CYRILLIC CAPITAL LETTER GHE WITH UPTURN",
        "CYRILLIC SMALL LETTER GHE WITH UPTURN;CYRILLIC CAPITAL LETTER GHE WITH STROKE",
        "CYRILLIC SMALL LETTER GHE WITH STROKE;CYRILLIC CAPITAL LETTER GHE WITH MIDDLE HOOK",
        "CYRILLIC SMALL LETTER GHE WITH MIDDLE HOOK;CYRILLIC CAPITAL LETTER ZHE WITH DESCENDER",
        "CYRILLIC SMALL LETTER ZHE WITH DESCENDER;CYRILLIC CAPITAL LETTER ZE WITH DESCENDER",
        "CYRILLIC SMALL LETTER ZE WITH DESCENDER;CYRILLIC CAPITAL LETTER KA WITH DESCENDER",
        "CYRILLIC SMALL LETTER KA WITH DESCENDER;CYRILLIC CAPITAL LETTER KA WITH VERTICAL STROKE",
        "CYRILLIC SMALL LETTER KA WITH VERTICAL STROKE;CYRILLIC CAPITAL LETTER KA WITH STROKE",
        "CYRILLIC SMALL LETTER KA WITH STROKE;CYRILLIC CAPITAL LETTER BASHKIR KA",
        "CYRILLIC SMALL LETTER BASHKIR KA;CYRILLIC CAPITAL LETTER EN WITH DESCENDER",
        "CYRILLIC SMALL LETTER EN WITH DESCENDER;CYRILLIC CAPITAL LIGATURE EN GHE",
        "CYRILLIC SMALL LIGATURE EN GHE;CYRILLIC CAPITAL LETTER PE WITH MIDDLE HOOK",
        "CYRILLIC SMALL LETTER PE WITH MIDDLE HOOK;CYRILLIC CAPITAL LETTER ABKHASIAN HA",
        "CYRILLIC SMALL LETTER ABKHASIAN HA;CYRILLIC CAPITAL LETTER ES WITH DESCENDER",
        "CYRILLIC SMALL LETTER ES WITH DESCENDER;CYRILLIC CAPITAL LETTER TE WITH DESCENDER",
        "CYRILLIC SMALL LETTER TE WITH DESCENDER;CYRILLIC CAPITAL LETTER STRAIGHT U",
        "CYRILLIC SMALL LETTER STRAIGHT U;CYRILLIC CAPITAL LETTER STRAIGHT U WITH STROKE",
        "CYRILLIC SMALL LETTER STRAIGHT U WITH STROKE;CYRILLIC CAPITAL LETTER HA WITH DESCENDER",
        "CYRILLIC SMALL LETTER HA WITH DESCENDER;CYRILLIC CAPITAL LIGATURE TE TSE",
        "CYRILLIC SMALL LIGATURE TE TSE;CYRILLIC CAPITAL LETTER CHE WITH DESCENDER",
        "CYRILLIC SMALL LETTER CHE WITH DESCENDER;CYRILLIC CAPITAL LETTER CHE WITH VERTICAL STROKE",
        "CYRILLIC SMALL LETTER CHE WITH VERTICAL STROKE;CYRILLIC CAPITAL LETTER SHHA",
        "CYRILLIC SMALL LETTER SHHA;CYRILLIC CAPITAL LETTER ABKHASIAN CHE",
        "CYRILLIC SMALL LETTER ABKHASIAN CHE;CYRILLIC CAPITAL LETTER ABKHASIAN CHE WITH DESCENDER",
        "CYRILLIC SMALL LETTER ABKHASIAN CHE WITH DESCENDER;CYRILLIC LETTER PALOCHKA",
        "CYRILLIC CAPITAL LETTER ZHE WITH BREVE;CYRILLIC SMALL LETTER ZHE WITH BREVE",
        "CYRILLIC CAPITAL LETTER KA WITH HOOK;CYRILLIC SMALL LETTER KA WITH HOOK",
        "CYRILLIC CAPITAL LETTER EL WITH TAIL;CYRILLIC SMALL LETTER EL WITH TAIL",
        "CYRILLIC CAPITAL LETTER EN WITH HOOK;CYRILLIC SMALL LETTER EN WITH HOOK",
        "CYRILLIC CAPITAL LETTER EN WITH TAIL;CYRILLIC SMALL LETTER EN WITH TAIL",
        "CYRILLIC CAPITAL LETTER KHAKASSIAN CHE;CYRILLIC SMALL LETTER KHAKASSIAN CHE",
        "CYRILLIC CAPITAL LETTER EM WITH TAIL;CYRILLIC SMALL LETTER EM WITH TAIL",
        "CYRILLIC SMALL LETTER PALOCHKA;CYRILLIC CAPITAL LETTER A WITH BREVE",
        "CYRILLIC SMALL LETTER A WITH BREVE;CYRILLIC CAPITAL LETTER A WITH DIAERESIS",
        "CYRILLIC SMALL LETTER A WITH DIAERESIS;CYRILLIC CAPITAL LIGATURE A IE",
        "CYRILLIC SMALL LIGATURE A IE;CYRILLIC CAPITAL LETTER IE WITH BREVE",
        "CYRILLIC SMALL LETTER IE WITH BREVE;CYRILLIC CAPITAL LETTER SCHWA",
        "CYRILLIC SMALL LETTER SCHWA;CYRILLIC CAPITAL LETTER SCHWA WITH DIAERESIS",
        "CYRILLIC SMALL LETTER SCHWA WITH DIAERESIS;CYRILLIC CAPITAL LETTER ZHE WITH DIAERESIS",
        "CYRILLIC SMALL LETTER ZHE WITH DIAERESIS;CYRILLIC CAPITAL LETTER ZE WITH DIAERESIS",
        "CYRILLIC SMALL LETTER ZE WITH DIAERESIS;CYRILLIC CAPITAL LETTER ABKHASIAN DZE",
        "CYRILLIC SMALL LETTER ABKHASIAN DZE;CYRILLIC CAPITAL LETTER I WITH MACRON",
        "CYRILLIC SMALL LETTER I WITH MACRON;CYRILLIC CAPITAL LETTER I WITH DIAERESIS",
        "CYRILLIC SMALL LETTER I WITH DIAERESIS;CYRILLIC CAPITAL LETTER O WITH DIAERESIS",
        "CYRILLIC SMALL LETTER O WITH DIAERESIS;CYRILLIC CAPITAL LETTER BARRED O",
        "CYRILLIC SMALL LETTER BARRED O;CYRILLIC CAPITAL LETTER BARRED O WITH DIAERESIS",
        "CYRILLIC SMALL LETTER BARRED O WITH DIAERESIS;CYRILLIC CAPITAL LETTER E WITH DIAERESIS",
        "CYRILLIC SMALL LETTER E WITH DIAERESIS;CYRILLIC CAPITAL LETTER U WITH MACRON",
        "CYRILLIC SMALL LETTER U WITH MACRON;CYRILLIC CAPITAL LETTER U WITH DIAERESIS",
        "CYRILLIC SMALL LETTER U WITH DIAERESIS;CYRILLIC CAPITAL LETTER U WITH DOUBLE ACUTE",
        "CYRILLIC SMALL LETTER U WITH DOUBLE ACUTE;CYRILLIC CAPITAL LETTER CHE WITH DIAERESIS",
        "CYRILLIC SMALL LETTER CHE WITH DIAERESIS;CYRILLIC CAPITAL LETTER GHE WITH DESCENDER",
        "CYRILLIC SMALL LETTER GHE WITH DESCENDER;CYRILLIC CAPITAL LETTER YERU WITH DIAERESIS",
        "CYRILLIC SMALL LETTER YERU WITH DIAERESIS;CYRILLIC CAPITAL LETTER GHE WITH STROKE AND HOOK",
        "CYRILLIC SMALL LETTER GHE WITH STROKE AND HOOK;CYRILLIC CAPITAL LETTER HA WITH HOOK",
        "CYRILLIC SMALL LETTER HA WITH HOOK;CYRILLIC CAPITAL LETTER HA WITH STROKE",
        "CYRILLIC SMALL LETTER HA WITH STROKE;CYRILLIC CAPITAL LETTER KOMI DE",
        "CYRILLIC SMALL LETTER KOMI DE;CYRILLIC CAPITAL LETTER KOMI DJE",
        "CYRILLIC SMALL LETTER KOMI DJE;CYRILLIC CAPITAL LETTER KOMI ZJE",
        "CYRILLIC SMALL LETTER KOMI ZJE;CYRILLIC CAPITAL LETTER KOMI DZJE",
        "CYRILLIC SMALL LETTER KOMI DZJE;CYRILLIC CAPITAL LETTER KOMI LJE",
        "CYRILLIC SMALL LETTER KOMI LJE;CYRILLIC CAPITAL LETTER KOMI NJE",
        "CYRILLIC SMALL LETTER KOMI NJE;CYRILLIC CAPITAL LETTER KOMI SJE",
        "CYRILLIC SMALL LETTER KOMI SJE;CYRILLIC CAPITAL LETTER KOMI TJE",
        "CYRILLIC SMALL LETTER KOMI TJE;CYRILLIC CAPITAL LETTER REVERSED ZE",
        "CYRILLIC SMALL LETTER REVERSED ZE;CYRILLIC CAPITAL LETTER EL WITH HOOK",
        "CYRILLIC SMALL LETTER EL WITH HOOK;CYRILLIC CAPITAL LETTER LHA;CYRILLIC SMALL LETTER LHA",
        "CYRILLIC CAPITAL LETTER RHA;CYRILLIC SMALL LETTER RHA;CYRILLIC CAPITAL LETTER YAE",
        "CYRILLIC SMALL LETTER YAE;CYRILLIC CAPITAL LETTER QA;CYRILLIC SMALL LETTER QA",
        "CYRILLIC CAPITAL LETTER WE;CYRILLIC SMALL LETTER WE;CYRILLIC CAPITAL LETTER ALEUT KA",
        "CYRILLIC SMALL LETTER ALEUT KA;CYRILLIC CAPITAL LETTER EL WITH MIDDLE HOOK",
        "CYRILLIC SMALL LETTER EL WITH MIDDLE HOOK;CYRILLIC CAPITAL LETTER EN WITH MIDDLE HOOK",
        "CYRILLIC SMALL LETTER EN WITH MIDDLE HOOK;CYRILLIC CAPITAL LETTER PE WITH DESCENDER",
        "CYRILLIC SMALL LETTER PE WITH DESCENDER;CYRILLIC CAPITAL LETTER SHHA WITH DESCENDER",
        "CYRILLIC SMALL LETTER SHHA WITH DESCENDER;CYRILLIC CAPITAL LETTER EN WITH LEFT HOOK",
        "CYRILLIC SMALL LETTER EN WITH LEFT HOOK;CYRILLIC CAPITAL LETTER DZZHE",
        "CYRILLIC SMALL LETTER DZZHE;CYRILLIC CAPITAL LETTER DCHE;CYRILLIC SMALL LETTER DCHE",
        "CYRILLIC CAPITAL LETTER EL WITH DESCENDER;CYRILLIC SMALL LETTER EL WITH DESCENDER"]⟩,
    ⟨0x531,
      ["ARMENIAN CAPITAL LETTER AYB;ARMENIAN CAPITAL LETTER BEN;ARMENIAN CAPITAL LETTER GIM",
        "ARMENIAN CAPITAL LETTER DA;ARMENIAN CAPITAL LETTER ECH;ARMENIAN CAPITAL LETTER ZA",
        "ARMENIAN CAPITAL LETTER EH;ARMENIAN CAPITAL LETTER ET;ARMENIAN CAPITAL LETTER TO",
        "ARMENIAN CAPITAL LETTER ZHE;ARMENIAN CAPITAL LETTER INI;ARMENIAN CAPITAL LETTER LIWN",
        "ARMENIAN CAPITAL LETTER XEH;ARMENIAN CAPITAL LETTER CA;ARMENIAN CAPITAL LETTER KEN",
        "ARMENIAN CAPITAL LETTER HO;ARMENIAN CAPITAL LETTER JA;ARMENIAN CAPITAL LETTER GHAD",
        "ARMENIAN CAPITAL LETTER CHEH;ARMENIAN CAPITAL LETTER MEN;ARMENIAN CAPITAL LETTER YI",
        "ARMENIAN CAPITAL LETTER NOW;ARMENIAN CAPITAL LETTER SHA;ARMENIAN CAPITAL LETTER VO",
        "ARMENIAN CAPITAL LETTER CHA;ARMENIAN CAPITAL LETTER PEH;ARMENIAN CAPITAL LETTER JHEH",
        "ARMENIAN CAPITAL LETTER RA;ARMENIAN CAPITAL LETTER SEH;ARMENIAN CAPITAL LETTER VEW",
        "ARMENIAN CAPITAL LETTER TIWN;ARMENIAN CAPITAL LETTER REH;ARMENIAN CAPITAL LETTER CO",
        "ARMENIAN CAPITAL LETTER YIWN;ARMENIAN CAPITAL LETTER PIWR;ARMENIAN CAPITAL LETTER KEH",
        "ARMENIAN CAPITAL LETTER OH;ARMENIAN CAPITAL LETTER FEH"]⟩,
    ⟨0x559,
      ["ARMENIAN MODIFIER LETTER LEFT HALF RING;ARMENIAN APOSTROPHE;ARMENIAN EMPHASIS MARK",
        "ARMENIAN EXCLAMATION MARK;ARMENIAN COMMA;ARMENIAN QUESTION MARK;ARMENIAN ABBREVIATION MARK",
        "ARMENIAN SMALL LETTER TURNED AYB;ARMENIAN SMALL LETTER AYB;ARMENIAN SMALL LETTER BEN",
        "ARMENIAN SMALL LETTER GIM;ARMENIAN SMALL LETTER DA;ARMENIAN SMALL LETTER ECH",
        "ARMENIAN SMALL LETTER ZA;ARMENIAN SMALL LETTER EH;ARMENIAN SMALL LETTER ET",
        "ARMENIAN SMALL LETTER TO;ARMENIAN SMALL LETTER ZHE;ARMENIAN SMALL LETTER INI",
        "ARMENIAN SMALL LETTER LIWN;ARMENIAN SMALL LETTER XEH;ARMENIAN SMALL LETTER CA",
        "ARMENIAN SMALL LETTER KEN;ARMENIAN SMALL LETTER HO;ARMENIAN SMALL LETTER JA",
        "ARMENIAN SMALL LETTER GHAD;ARMENIAN SMALL LETTER CHEH;ARMENIAN SMALL LETTER MEN",
        "ARMENIAN SMALL LETTER YI;ARMENIAN SMALL LETTER NOW;ARMENIAN SMALL LETTER SHA",
        "ARMENIAN SMALL LETTER VO;ARMENIAN SMALL LETTER CHA;ARMENIAN SMALL LETTER PEH",
        "ARMENIAN SMALL LETTER JHEH;ARMENIAN SMALL LETTER RA;ARMENIAN SMALL LETTER SEH",
        "ARMENIAN SMALL LETTER VEW;ARMENIAN SMALL LETTER TIWN;ARMENIAN SMALL LETTER REH",
        "ARMENIAN SMALL LETTER CO;ARMENIAN SMALL LETTER YIWN;ARMENIAN SMALL LETTER PIWR",
        "ARMENIAN SMALL LETTER KEH;ARMENIAN SMALL LETTER OH;ARMENIAN SMALL LETTER FEH",
        "ARMENIAN SMALL LIGATURE ECH YIWN;ARMENIAN SMALL LETTER YI WITH STROKE;ARMENIAN FULL STOP",
        "ARMENIAN HYPHEN"]⟩,
    ⟨0x58D,
      ["RIGHT-FACING ARMENIAN ETERNITY SIGN;LEFT-FACING ARMENIAN ETERNITY SIGN;ARMENIAN DRAM SIGN"]⟩,
    ⟨0x591,
      ["HEBREW ACCENT ETNAHTA;HEBREW ACCENT SEGOL;HEBREW ACCENT SHALSHELET",
        "HEBREW ACCENT ZAQEF QATAN;HEBREW ACCENT ZAQEF GADOL;HEBREW ACCENT TIPEHA",
        "HEBREW ACCENT REVIA;HEBREW ACCENT ZARQA;HEBREW ACCENT PASHTA;HEBREW ACCENT YETIV",
        "HEBREW ACCENT TEVIR;HEBREW ACCENT GERESH;HEBREW ACCENT GERESH MUQDAM",
        "HEBREW ACCENT GERSHAYIM;HEBREW ACCENT QARNEY PARA;HEBREW ACCENT TELISHA GEDOLA",
        "HEBREW ACCENT PAZER;HEBREW ACCENT ATNAH HAFUKH;HEBREW ACCENT MUNAH;HEBREW ACCENT MAHAPAKH",
        "HEBREW ACCENT MERKHA;HEBREW ACCENT MERKHA KEFULA;HEBREW ACCENT DARGA;HEBREW ACCENT QADMA",
        "HEBREW ACCENT TELISHA QETANA;HEBREW ACCENT YERAH BEN YOMO;HEBREW ACCENT OLE",
        "HEBREW ACCENT ILUY;HEBREW ACCENT DEHI;HEBREW ACCENT ZINOR;HEBREW MARK MASORA CIRCLE",
        "HEBREW POINT SHEVA;HEBREW POINT HATAF SEGOL;HEBREW POINT HATAF PATAH",
        "HEBREW POINT HATAF QAMATS;HEBREW POINT HIRIQ;HEBREW POINT TSERE;HEBREW POINT SEGOL",
        "HEBREW POINT PATAH;HEBREW POINT QAMATS;HEBREW POINT HOLAM;HEBREW POINT HOLAM HASER FOR VAV",
        "HEBREW POINT QUBUTS;HEBREW POINT DAGESH OR MAPIQ;HEBREW POINT METEG",
        "HEBREW PUNCTUATION MAQAF;HEBREW POINT RAFE;HEBREW PUNCTUATION PASEQ;HEBREW POINT SHIN DOT",
        "HEBREW POINT SIN DOT;HEBREW PUNCTUATION SOF PASUQ;HEBREW MARK UPPER DOT",
        "HEBREW MARK LOWER DOT;HEBREW PUNCTUATION NUN HAFUKHA;HEBREW POINT QAMATS QATAN"]⟩,
    ⟨0x5D0,
      ["HEBREW LETTER ALEF;HEBREW LETTER BET;HEBREW LETTER GIMEL;HEBREW LETTER DALET",
        "HEBREW LETTER HE;HEBREW LETTER VAV;HEBREW LETTER ZAYIN;HEBREW LETTER HET;HEBREW LETTER TET",
        "HEBREW LETTER YOD;HEBREW LETTER FINAL KAF;HEBREW LETTER KAF;HEBREW LETTER LAMED",
        "HEBREW LETTER FINAL MEM;HEBREW LETTER MEM;HEBREW LETTER FINAL NUN;HEBREW LETTER NUN",
        "HEBREW LETTER SAMEKH;HEBREW LETTER AYIN;HEBREW LETTER FINAL PE;HEBREW LETTER PE",
        "HEBREW LETTER FINAL TSADI;HEBREW LETTER TSADI;HEBREW LETTER QOF;HEBREW LETTER RESH",
        "HEBREW LETTER SHIN;HEBREW LETTER TAV"]⟩,
    ⟨0x5EF,
      ["HEBREW YOD TRIANGLE;HEBREW LIGATURE YIDDISH DOUBLE VAV;HEBREW LIGATURE YIDDISH VAV YOD",
        "HEBREW LIGATURE YIDDISH DOUBLE YOD;HEBREW PUNCTUATION GERESH;HEBREW PUNCTUATION GERSHAYIM"]⟩,
    ⟨0x600,
      ["ARABIC NUMBER SIGN;ARABIC SIGN SANAH;ARABIC FOOTNOTE MARKER;ARABIC SIGN SAFHA",
        "ARABIC SIGN SAMVAT;ARABIC NUMBER MARK ABOVE;ARABIC-INDIC CUBE ROOT",
        "ARABIC-INDIC FOURTH ROOT;ARABIC RAY;ARABIC-INDIC PER MILLE SIGN",
        "ARABIC-INDIC PER TEN THOUSAND SIGN;AFGHANI SIGN;ARABIC COMMA;ARABIC DATE SEPARATOR",
        "ARABIC POETIC VERSE SIGN;ARABIC SIGN MISRA;ARABIC SIGN SALLALLAHOU ALAYHE WASSALLAM",
        "ARABIC SIGN ALAYHE ASSALLAM;ARABIC SIGN RAHMATULLAH ALAYHE;ARABIC SIGN RADI ALLAHOU ANHU",
        "ARABIC SIGN TAKHALLUS;ARABIC SMALL HIGH TAH",
        "ARABIC SMALL HIGH LIGATURE ALEF WITH LAM WITH YEH;ARABIC SMALL HIGH ZAIN",
        "ARABIC SMALL FATHA;ARABIC SMALL DAMMA;ARABIC SMALL KASRA;ARABIC SEMICOLON",
        "ARABIC LETTER MARK;ARABIC END OF TEXT MARK;ARABIC TRIPLE DOT PUNCTUATION MARK",
        "ARABIC QUESTION MARK;ARABIC LETTER KASHMIRI YEH;ARABIC LETTER HAMZA",
        "ARABIC LETTER ALEF WITH MADDA ABOVE;ARABIC LETTER ALEF WITH HAMZA ABOVE",
        "ARABIC LETTER WAW WITH HAMZA ABOVE;ARABIC LETTER ALEF WITH HAMZA BELOW",
        "ARABIC LETTER YEH WITH HAMZA ABOVE;ARABIC LETTER ALEF;ARABIC LETTER BEH",
        "ARABIC LETTER TEH MARBUTA;ARABIC LETTER TEH;ARABIC LETTER THEH;ARABIC LETTER JEEM",
        "ARABIC LETTER HAH;ARABIC LETTER KHAH;ARABIC LETTER DAL;ARABIC LETTER THAL",
        "ARABIC LETTER REH;ARABIC LETTER ZAIN;ARABIC LETTER SEEN;ARABIC LETTER SHEEN",
        "ARABIC LETTER SAD;ARABIC LETTER DAD;ARABIC LETTER TAH;ARABIC LETTER ZAH;ARABIC LETTER AIN",
        "ARABIC LETTER GHAIN;ARABIC LETTER KEHEH WITH TWO DOTS ABOVE",
        "ARABIC LETTER KEHEH WITH THREE DOTS BELOW;ARABIC LETTER FARSI YEH WITH INVERTED V",
        "ARABIC LETTER FARSI YEH WITH TWO DOTS ABOVE;ARABIC LETTER FARSI YEH WITH THREE DOTS ABOVE",
        "ARABIC TATWEEL;ARABIC LETTER FEH;ARABIC LETTER QAF;ARABIC LETTER KAF;ARABIC LETTER LAM",
        "ARABIC LETTER MEEM;ARABIC LETTER NOON;ARABIC LETTER HEH;ARABIC LETTER WAW",
        "ARABIC LETTER ALEF MAKSURA;ARABIC LETTER YEH;ARABIC FATHATAN;ARABIC DAMMATAN",
        "ARABIC KASRATAN;ARABIC FATHA;ARABIC DAMMA;ARABIC KASRA;ARABIC SHADDA;ARABIC SUKUN",
        "ARABIC MADDAH ABOVE;ARABIC HAMZA ABOVE;ARABIC HAMZA BELOW;ARABIC SUBSCRIPT ALEF",
        "ARABIC INVERTED DAMMA;ARABIC MARK NOON GHUNNA;ARABIC ZWARAKAY",
        "ARABIC VOWEL SIGN SMALL V ABOVE;ARABIC VOWEL SIGN INVERTED SMALL V ABOVE",
        "ARABIC VOWEL SIGN DOT BELOW;ARABIC REVERSED DAMMA;ARABIC FATHA WITH TWO DOTS",
        "ARABIC WAVY HAMZA BELOW;ARABIC-INDIC DIGIT ZERO;ARABIC-INDIC DIGIT ONE",
        "ARABIC-INDIC DIGIT TWO;ARABIC-INDIC DIGIT THREE;ARABIC-INDIC DIGIT FOUR",
        "ARABIC-INDIC DIGIT FIVE;ARABIC-INDIC DIGIT SIX;ARABIC-INDIC DIGIT SEVEN",
        "ARABIC-INDIC DIGIT EIGHT;ARABIC-INDIC DIGIT NINE;ARABIC PERCENT SIGN",
        "ARABIC DECIMAL SEPARATOR;ARABIC THOUSANDS SEPARATOR;ARABIC FIVE POINTED STAR",
        "ARABIC LETTER DOTLESS BEH;ARABIC LETTER DOTLESS QAF;ARABIC LETTER SUPERSCRIPT ALEF",
        "ARABIC LETTER ALEF WASLA;ARABIC LETTER ALEF WITH WAVY HAMZA ABOVE",
        "ARABIC LETTER ALEF WITH WAVY HAMZA BELOW;ARABIC LETTER HIGH HAMZA",
        "ARABIC LETTER HIGH HAMZA ALEF;ARABIC LETTER HIGH HAMZA WAW",
        "ARABIC LETTER U WITH HAMZA ABOVE;ARABIC LETTER HIGH HAMZA YEH;ARABIC LETTER TTEH",
        "ARABIC LETTER TTEHEH;ARABIC LETTER BEEH;ARABIC LETTER TEH WITH RING",
        "ARABIC LETTER TEH WITH THREE DOTS ABOVE DOWNWARDS;ARABIC LETTER PEH;ARABIC LETTER TEHEH",
        "ARABIC LETTER BEHEH;ARABIC LETTER HAH WITH HAMZA ABOVE",
        "ARABIC LETTER HAH WITH TWO DOTS VERTICAL ABOVE;ARABIC LETTER NYEH;ARABIC LETTER DYEH",
        "ARABIC LETTER HAH WITH THREE DOTS ABOVE;ARABIC LETTER TCHEH;ARABIC LETTER TCHEHEH",
        "ARABIC LETTER DDAL;ARABIC LETTER DAL WITH RING;ARABIC LETTER DAL WITH DOT BELOW",
        "ARABIC LETTER DAL WITH DOT BELOW AND SMALL TAH;ARABIC LETTER DAHAL;ARABIC LETTER DDAHAL",
        "ARABIC LETTER DUL;ARABIC LETTER DAL WITH THREE DOTS ABOVE DOWNWARDS",
        "ARABIC LETTER DAL WITH FOUR DOTS ABOVE;ARABIC LETTER RREH;ARABIC LETTER REH WITH SMALL V",
        "ARABIC LETTER REH WITH RING;ARABIC LETTER REH WITH DOT BELOW",
        "ARABIC LETTER REH WITH SMALL V BELOW;ARABIC LETTER REH WITH DOT BELOW AND DOT ABOVE",
        "ARABIC LETTER REH WITH TWO DOTS ABOVE;ARABIC LETTER JEH",
        "ARABIC LETTER REH WITH FOUR DOTS ABOVE;ARABIC LETTER SEEN WITH DOT BELOW AND DOT ABOVE",
        "ARABIC LETTER SEEN WITH THREE DOTS BELOW",
        "ARABIC LETTER SEEN WITH THREE DOTS BELOW AND THREE DOTS ABOVE",
        "ARABIC LETTER SAD WITH TWO DOTS BELOW;ARABIC LETTER SAD WITH THREE DOTS ABOVE",
        "ARABIC LETTER TAH WITH THREE DOTS ABOVE;ARABIC LETTER AIN WITH THREE DOTS ABOVE",
        "ARABIC LETTER DOTLESS FEH;ARABIC LETTER FEH WITH DOT MOVED BELOW",
        "ARABIC LETTER FEH WITH DOT BELOW;ARABIC LETTER VEH;ARABIC LETTER FEH WITH THREE DOTS BELOW",
        "ARABIC LETTER PEHEH;ARABIC LETTER QAF WITH DOT ABOVE",
        "ARABIC LETTER QAF WITH THREE DOTS ABOVE;ARABIC LETTER KEHEH;ARABIC LETTER SWASH KAF",
        "ARABIC LETTER KAF WITH RING;ARABIC LETTER KAF WITH DOT ABOVE;ARABIC LETTER NG",
        "ARABIC LETTER KAF WITH THREE DOTS BELOW;ARABIC LETTER GAF;ARABIC LETTER GAF WITH RING",
        "ARABIC LETTER NGOEH;ARABIC LETTER GAF WITH TWO DOTS BELOW;ARABIC LETTER GUEH",
        "ARABIC LETTER GAF WITH THREE DOTS ABOVE;ARABIC LETTER LAM WITH SMALL V",
        "ARABIC LETTER LAM WITH DOT ABOVE;ARABIC LETTER LAM WITH THREE DOTS ABOVE",
        "ARABIC LETTER LAM WITH THREE DOTS BELOW;ARABIC LETTER NOON WITH DOT BELOW",
        "ARABIC LETTER NOON GHUNNA;ARABIC LETTER RNOON;ARABIC LETTER NOON WITH RING",
        "ARABIC LETTER NOON WITH THREE DOTS ABOVE;ARABIC LETTER HEH DOACHASHMEE",
        "ARABIC LETTER TCHEH WITH DOT ABOVE;ARABIC LETTER HEH WITH YEH ABOVE;ARABIC LETTER HEH GOAL",
        "ARABIC LETTER HEH GOAL WITH HAMZA ABOVE;ARABIC LETTER TEH MARBUTA GOAL",
        "ARABIC LETTER WAW WITH RING;ARABIC LETTER KIRGHIZ OE;ARABIC LETTER OE;ARABIC LETTER U",
        "ARABIC LETTER YU;ARABIC LETTER KIRGHIZ YU;ARABIC LETTER WAW WITH TWO DOTS ABOVE",
        "ARABIC LETTER VE;ARABIC LETTER FARSI YEH;ARABIC LETTER YEH WITH TAIL",
        "ARABIC LETTER YEH WITH SMALL V;ARABIC LETTER WAW WITH DOT ABOVE;ARABIC LETTER E",
        "ARABIC LETTER YEH WITH THREE DOTS BELOW;ARABIC LETTER YEH BARREE",
        "ARABIC LETTER YEH BARREE WITH HAMZA ABOVE;ARABIC FULL STOP;ARABIC LETTER AE",
        "ARABIC SMALL HIGH LIGATURE SAD WITH LAM WITH ALEF MAKSURA",
        "ARABIC SMALL HIGH LIGATURE QAF WITH LAM WITH ALEF MAKSURA",
        "ARABIC SMALL HIGH MEEM INITIAL FORM;ARABIC SMALL HIGH LAM ALEF;ARABIC SMALL HIGH JEEM",
        "ARABIC SMALL HIGH THREE DOTS;ARABIC SMALL HIGH SEEN;ARABIC END OF AYAH",
        "ARABIC START OF RUB EL HIZB;ARABIC SMALL HIGH ROUNDED ZERO",
        "ARABIC SMALL HIGH UPRIGHT RECTANGULAR ZERO;ARABIC SMALL HIGH DOTLESS HEAD OF KHAH",
        "ARABIC SMALL HIGH MEEM ISOLATED FORM;ARABIC SMALL LOW SEEN;ARABIC SMALL HIGH MADDA",
        "ARABIC SMALL WAW;ARABIC SMALL YEH;ARABIC SMALL HIGH YEH;ARABIC SMALL HIGH NOON",
        "ARABIC PLACE OF SAJDAH;ARABIC EMPTY CENTRE LOW STOP;ARABIC EMPTY CENTRE HIGH STOP",
        "ARABIC ROUNDED HIGH STOP WITH FILLED CENTRE;ARABIC SMALL LOW MEEM",
        "ARABIC LETTER DAL WITH INVERTED V;ARABIC LETTER REH WITH INVERTED V",
        "EXTENDED ARABIC-INDIC DIGIT ZERO;EXTENDED ARABIC-INDIC DIGIT ONE",
        "EXTENDED ARABIC-INDIC DIGIT TWO;EXTENDED ARABIC-INDIC DIGIT THREE",
        "EXTENDED ARABIC-INDIC DIGIT FOUR;EXTENDED ARABIC-INDIC DIGIT FIVE",
        "EXTENDED ARABIC-INDIC DIGIT SIX;EXTENDED ARABIC-INDIC DIGIT SEVEN",
        "EXTENDED ARABIC-INDIC DIGIT EIGHT;EXTENDED ARABIC-INDIC DIGIT NINE",
        "ARABIC LETTER SHEEN WITH DOT BELOW;ARABIC LETTER DAD WITH DOT BELOW",
        "ARABIC LETTER GHAIN WITH DOT BELOW;ARABIC SIGN SINDHI AMPERSAND",
        "ARABIC SIGN SINDHI POSTPOSITION MEN;ARABIC LETTER HEH WITH INVERTED V"]⟩,
    ⟨0x900,
      ["DEVANAGARI SIGN INVERTED CANDRABINDU;DEVANAGARI SIGN CANDRABINDU;DEVANAGARI SIGN ANUSVARA",
        "DEVANAGARI SIGN VISARGA;DEVANAGARI LETTER SHORT A;DEVANAGARI LETTER A;DEVANAGARI LETTER AA",
        "DEVANAGARI LETTER I;DEVANAGARI LETTER II;DEVANAGARI LETTER U;DEVANAGARI LETTER UU",
        "DEVANAGARI LETTER VOCALIC R;DEVANAGARI LETTER VOCALIC L;DEVANAGARI LETTER CANDRA E",
        "DEVANAGARI LETTER SHORT E;DEVANAGARI LETTER E;DEVANAGARI LETTER AI",
        "DEVANAGARI LETTER CANDRA O;DEVANAGARI LETTER SHORT O;DEVANAGARI LETTER O",
        "DEVANAGARI LETTER AU;DEVANAGARI LETTER KA;DEVANAGARI LETTER KHA;DEVANAGARI LETTER GA",
        "DEVANAGARI LETTER GHA;DEVANAGARI LETTER NGA;DEVANAGARI LETTER CA;DEVANAGARI LETTER CHA",
        "DEVANAGARI LETTER JA;DEVANAGARI LETTER JHA;DEVANAGARI LETTER NYA;DEVANAGARI LETTER TTA",
        "DEVANAGARI LETTER TTHA;DEVANAGARI LETTER DDA;DEVANAGARI LETTER DDHA;DEVANAGARI LETTER NNA",
        "DEVANAGARI LETTER TA;DEVANAGARI LETTER THA;DEVANAGARI LETTER DA;DEVANAGARI LETTER DHA",
        "DEVANAGARI LETTER NA;DEVANAGARI LETTER NNNA;DEVANAGARI LETTER PA;DEVANAGARI LETTER PHA",
        "DEVANAGARI LETTER BA;DEVANAGARI LETTER BHA;DEVANAGARI LETTER MA;DEVANAGARI LETTER YA",
        "DEVANAGARI LETTER RA;DEVANAGARI LETTER RRA;DEVANAGARI LETTER LA;DEVANAGARI LETTER LLA",
        "DEVANAGARI LETTER LLLA;DEVANAGARI LETTER VA;DEVANAGARI LETTER SHA;DEVANAGARI LETTER SSA",
        "DEVANAGARI LETTER SA;DEVANAGARI LETTER HA;DEVANAGARI VOWEL SIGN OE",
        "DEVANAGARI VOWEL SIGN OOE;DEVANAGARI SIGN NUKTA;DEVANAGARI SIGN AVAGRAHA",
        "DEVANAGARI VOWEL SIGN AA;DEVANAGARI VOWEL SIGN I;DEVANAGARI VOWEL SIGN II",
        "DEVANAGARI VOWEL SIGN U;DEVANAGARI VOWEL SIGN UU;DEVANAGARI VOWEL SIGN VOCALIC R",
        "DEVANAGARI VOWEL SIGN VOCALIC RR;DEVANAGARI VOWEL SIGN CANDRA E",
        "DEVANAGARI VOWEL SIGN SHORT E;DEVANAGARI VOWEL SIGN E;DEVANAGARI VOWEL SIGN AI",
        "DEVANAGARI VOWEL SIGN CANDRA O;DEVANAGARI VOWEL SIGN SHORT O;DEVANAGARI VOWEL SIGN O",
        "DEVANAGARI VOWEL SIGN AU;DEVANAGARI SIGN VIRAMA;DEVANAGARI VOWEL SIGN PRISHTHAMATRA E",
        "DEVANAGARI VOWEL SIGN AW;DEVANAGARI OM;DEVANAGARI STRESS SIGN UDATTA",
        "DEVANAGARI STRESS SIGN ANUDATTA;DEVANAGARI GRAVE ACCENT;DEVANAGARI ACUTE ACCENT",
        "DEVANAGARI VOWEL SIGN CANDRA LONG E;DEVANAGARI VOWEL SIGN UE;DEVANAGARI VOWEL SIGN UUE",
        "DEVANAGARI LETTER QA;DEVANAGARI LETTER KHHA;DEVANAGARI LETTER GHHA;DEVANAGARI LETTER ZA",
        "DEVANAGARI LETTER DDDHA;DEVANAGARI LETTER RHA;DEVANAGARI LETTER FA;DEVANAGARI LETTER YYA",
        "DEVANAGARI LETTER VOCALIC RR;DEVANAGARI LETTER VOCALIC LL;DEVANAGARI VOWEL SIGN VOCALIC L",
        "DEVANAGARI VOWEL SIGN VOCALIC LL;DEVANAGARI DANDA;DEVANAGARI DOUBLE DANDA",
        "DEVANAGARI DIGIT ZERO;DEVANAGARI DIGIT ONE;DEVANAGARI DIGIT TWO;DEVANAGARI DIGIT THREE",
        "DEVANAGARI DIGIT FOUR;DEVANAGARI DIGIT FIVE;DEVANAGARI DIGIT SIX;DEVANAGARI DIGIT SEVEN",
        "DEVANAGARI DIGIT EIGHT;DEVANAGARI DIGIT NINE;DEVANAGARI ABBREVIATION SIGN",
        "DEVANAGARI SIGN HIGH SPACING DOT;DEVANAGARI LETTER CANDRA A;DEVANAGARI LETTER OE",
        "DEVANAGARI LETTER OOE;DEVANAGARI LETTER AW;DEVANAGARI LETTER UE;DEVANAGARI LETTER UUE",
        "DEVANAGARI LETTER MARWARI DDA;DEVANAGARI LETTER ZHA;DEVANAGARI LETTER HEAVY YA",
        "DEVANAGARI LETTER GGA;DEVANAGARI LETTER JJA;DEVANAGARI LETTER GLOTTAL STOP",
        "DEVANAGARI LETTER DDDA;DEVANAGARI LETTER BBA"]⟩,
    ⟨0xE01,
      ["THAI CHARACTER KO KAI;THAI CHARACTER KHO KHAI;THAI CHARACTER KHO KHUAT",
        "THAI CHARACTER KHO KHWAI;THAI CHARACTER KHO KHON;THAI CHARACTER KHO RAKHANG",
        "THAI CHARACTER NGO NGU;THAI CHARACTER CHO CHAN;THAI CHARACTER CHO CHING",
        "THAI CHARACTER CHO CHANG;THAI CHARACTER SO SO;THAI CHARACTER CHO CHOE",
        "THAI CHARACTER YO YING;THAI CHARACTER DO CHADA;THAI CHARACTER TO PATAK",
        "THAI CHARACTER THO THAN;THAI CHARACTER THO NANGMONTHO;THAI CHARACTER THO PHUTHAO",
        "THAI CHARACTER NO NEN;THAI CHARACTER DO DEK;THAI CHARACTER TO TAO;THAI CHARACTER THO THUNG",
        "THAI CHARACTER THO THAHAN;THAI CHARACTER THO THONG;THAI CHARACTER NO NU",
        "THAI CHARACTER BO BAIMAI;THAI CHARACTER PO PLA;THAI CHARACTER PHO PHUNG",
        "THAI CHARACTER FO FA;THAI CHARACTER PHO PHAN;THAI CHARACTER FO FAN",
        "THAI CHARACTER PHO SAMPHAO;THAI CHARACTER MO MA;THAI CHARACTER YO YAK",
        "THAI CHARACTER RO RUA;THAI CHARACTER RU;THAI CHARACTER LO LING;THAI CHARACTER LU",
        "THAI CHARACTER WO WAEN;THAI CHARACTER SO SALA;THAI CHARACTER SO RUSI;THAI CHARACTER SO SUA",
        "THAI CHARACTER HO HIP;THAI CHARACTER LO CHULA;THAI CHARACTER O ANG",
        "THAI CHARACTER HO NOKHUK;THAI CHARACTER PAIYANNOI;THAI CHARACTER SARA A",
        "THAI CHARACTER MAI HAN-AKAT;THAI CHARACTER SARA AA;THAI CHARACTER SARA AM",
        "THAI CHARACTER SARA I;THAI CHARACTER SARA II;THAI CHARACTER SARA UE",
        "THAI CHARACTER SARA UEE;THAI CHARACTER SARA U;THAI CHARACTER SARA UU",
        "THAI CHARACTER PHINTHU"]⟩,
    ⟨0xE3F,
      ["THAI CURRENCY SYMBOL BAHT;THAI CHARACTER SARA E;THAI CHARACTER SARA AE",
        "THAI CHARACTER SARA O;THAI CHARACTER SARA AI MAIMUAN;THAI CHARACTER SARA AI MAIMALAI",
        "THAI CHARACTER LAKKHANGYAO;THAI CHARACTER MAIYAMOK;THAI CHARACTER MAITAIKHU",
        "THAI CHARACTER MAI EK;THAI CHARACTER MAI THO;THAI CHARACTER MAI TRI",
        "THAI CHARACTER MAI CHATTAWA;THAI CHARACTER THANTHAKHAT;THAI CHARACTER NIKHAHIT",
        "THAI CHARACTER YAMAKKAN;THAI CHARACTER FONGMAN;THAI DIGIT ZERO;THAI DIGIT ONE",
        "THAI DIGIT TWO;THAI DIGIT THREE;THAI DIGIT FOUR;THAI DIGIT FIVE;THAI DIGIT SIX",
        "THAI DIGIT SEVEN;THAI DIGIT EIGHT;THAI DIGIT NINE;THAI CHARACTER ANGKHANKHU",
        "THAI CHARACTER KHOMUT"]⟩,
    ⟨0x10A0,
      ["GEORGIAN CAPITAL LETTER AN;GEORGIAN CAPITAL LETTER BAN;GEORGIAN CAPITAL LETTER GAN",
        "GEORGIAN CAPITAL LETTER DON;GEORGIAN CAPITAL LETTER EN;GEORGIAN CAPITAL LETTER VIN",
        "GEORGIAN CAPITAL LETTER ZEN;GEORGIAN CAPITAL LETTER TAN;GEORGIAN CAPITAL LETTER IN",
        "GEORGIAN CAPITAL LETTER KAN;GEORGIAN CAPITAL LETTER LAS;GEORGIAN CAPITAL LETTER MAN",
        "GEORGIAN CAPITAL LETTER NAR;GEORGIAN CAPITAL LETTER ON;GEORGIAN CAPITAL LETTER PAR",
        "GEORGIAN CAPITAL LETTER ZHAR;GEORGIAN CAPITAL LETTER RAE;GEORGIAN CAPITAL LETTER SAN",
        "GEORGIAN CAPITAL LETTER TAR;GEORGIAN CAPITAL LETTER UN;GEORGIAN CAPITAL LETTER PHAR",
        "GEORGIAN CAPITAL LETTER KHAR;GEORGIAN CAPITAL LETTER GHAN;GEORGIAN CAPITAL LETTER QAR",
        "GEORGIAN CAPITAL LETTER SHIN;GEORGIAN CAPITAL LETTER CHIN;GEORGIAN CAPITAL LETTER CAN",
        "GEORGIAN CAPITAL LETTER JIL;GEORGIAN CAPITAL LETTER CIL;GEORGIAN CAPITAL LETTER CHAR",
        "GEORGIAN CAPITAL LETTER XAN;GEORGIAN CAPITAL LETTER JHAN;GEORGIAN CAPITAL LETTER HAE",
        "GEORGIAN CAPITAL LETTER HE;GEORGIAN CAPITAL LETTER HIE;GEORGIAN CAPITAL LETTER WE",
        "GEORGIAN CAPITAL LETTER HAR;GEORGIAN CAPITAL LETTER HOE"]⟩,
    ⟨0x10C7,
      ["GEORGIAN CAPITAL LETTER YN"]⟩,
    ⟨0x10CD,
      ["GEORGIAN CAPITAL LETTER AEN"]⟩,
    ⟨0x10D0,
      ["GEORGIAN LETTER AN;GEORGIAN LETTER BAN;GEORGIAN LETTER GAN;GEORGIAN LETTER DON",
        "GEORGIAN LETTER EN;GEORGIAN LETTER VIN;GEORGIAN LETTER ZEN;GEORGIAN LETTER TAN",
        "GEORGIAN LETTER IN;GEORGIAN LETTER KAN;GEORGIAN LETTER LAS;GEORGIAN LETTER MAN",
        "GEORGIAN LETTER NAR;GEORGIAN LETTER ON;GEORGIAN LETTER PAR;GEORGIAN LETTER ZHAR",
        "GEORGIAN LETTER RAE;GEORGIAN LETTER SAN;GEORGIAN LETTER TAR;GEORGIAN LETTER UN",
        "GEORGIAN LETTER PHAR;GEORGIAN LETTER KHAR;GEORGIAN LETTER GHAN;GEORGIAN LETTER QAR",
        "GEORGIAN LETTER SHIN;GEORGIAN LETTER CHIN;GEORGIAN LETTER CAN;GEORGIAN LETTER JIL",
        "GEORGIAN LETTER CIL;GEORGIAN LETTER CHAR;GEORGIAN LETTER XAN;GEORGIAN LETTER JHAN",
        "GEORGIAN LETTER HAE;GEORGIAN LETTER HE;GEORGIAN LETTER HIE;GEORGIAN LETTER WE",
        "GEORGIAN LETTER HAR;GEORGIAN LETTER HOE;GEORGIAN LETTER FI;GEORGIAN LETTER YN",
        "GEORGIAN LETTER ELIFI;GEORGIAN LETTER TURNED GAN;GEORGIAN LETTER AIN",
        "GEORGIAN PARAGRAPH SEPARATOR;MODIFIER LETTER GEORGIAN NAR;GEORGIAN LETTER AEN",
        "GEORGIAN LETTER HARD SIGN;GEORGIAN LETTER LABIAL SIGN"]⟩,
    ⟨0x1F00,
      ["GREEK SMALL LETTER ALPHA WITH PSILI;GREEK SMALL LETTER ALPHA WITH DASIA",
        "GREEK SMALL LETTER ALPHA WITH PSILI AND VARIA",
        "GREEK SMALL LETTER ALPHA WITH DASIA AND VARIA;GREEK SMALL LETTER ALPHA WITH PSILI AND OXIA",
        "GREEK SMALL LETTER ALPHA WITH DASIA AND OXIA",
        "GREEK SMALL LETTER ALPHA WITH PSILI AND PERISPOMENI",
        "GREEK SMALL LETTER ALPHA WITH DASIA AND PERISPOMENI;GREEK CAPITAL LETTER ALPHA WITH PSILI",
        "GREEK CAPITAL LETTER ALPHA WITH DASIA;GREEK CAPITAL LETTER ALPHA WITH PSILI AND VARIA",
        "GREEK CAPITAL LETTER ALPHA WITH DASIA AND VARIA",
        "GREEK CAPITAL LETTER ALPHA WITH PSILI AND OXIA",
        "GREEK CAPITAL LETTER ALPHA WITH DASIA AND OXIA",
        "GREEK CAPITAL LETTER ALPHA WITH PSILI AND PERISPOMENI",
        "GREEK CAPITAL LETTER ALPHA WITH DASIA AND PERISPOMENI",
        "GREEK SMALL LETTER EPSILON WITH PSILI;GREEK SMALL LETTER EPSILON WITH DASIA",
        "GREEK SMALL LETTER EPSILON WITH PSILI AND VARIA",
        "GREEK SMALL LETTER EPSILON WITH DASIA AND VARIA",
        "GREEK SMALL LETTER EPSILON WITH PSILI AND OXIA",
        "GREEK SMALL LETTER EPSILON WITH DASIA AND OXIA"]⟩,
    ⟨0x1F18,
      ["GREEK CAPITAL LETTER EPSILON WITH PSILI;GREEK CAPITAL LETTER EPSILON WITH DASIA",
        "GREEK CAPITAL LETTER EPSILON WITH PSILI AND VARIA",
        "GREEK CAPITAL LETTER EPSILON WITH DASIA AND VARIA",
        "GREEK CAPITAL LETTER EPSILON WITH PSILI AND OXIA",
        "GREEK CAPITAL LETTER EPSILON WITH DASIA AND OXIA"]⟩,
    ⟨0x1F20,
      ["GREEK SMALL LETTER ETA WITH PSILI;GREEK SMALL LETTER ETA WITH DASIA",
        "GREEK SMALL LETTER ETA WITH PSILI AND VARIA;GREEK SMALL LETTER ETA WITH DASIA AND VARIA",
        "GREEK SMALL LETTER ETA WITH PSILI AND OXIA;GREEK SMALL LETTER ETA WITH DASIA AND OXIA",
        "GREEK SMALL LETTER ETA WITH PSILI AND PERISPOMENI",
        "GREEK SMALL LETTER ETA WITH DASIA AND PERISPOMENI;GREEK CAPITAL LETTER ETA WITH PSILI",
        "GREEK CAPITAL LETTER ETA WITH DASIA;GREEK CAPITAL LETTER ETA WITH PSILI AND VARIA",
        "GREEK CAPITAL LETTER ETA WITH DASIA AND VARIA;GREEK CAPITAL LETTER ETA WITH PSILI AND OXIA",
        "GREEK CAPITAL LETTER ETA WITH DASIA AND OXIA",
        "GREEK CAPITAL LETTER ETA WITH PSILI AND PERISPOMENI",
        "GREEK CAPITAL LETTER ETA WITH DASIA AND PERISPOMENI;GREEK SMALL LETTER IOTA WITH PSILI",
        "GREEK SMALL LETTER IOTA WITH DASIA;GREEK SMALL LETTER IOTA WITH PSILI AND VARIA",
        "GREEK SMALL LETTER IOTA WITH DASIA AND VARIA;GREEK SMALL LETTER IOTA WITH PSILI AND OXIA",
        "GREEK SMALL LETTER IOTA WITH DASIA AND OXIA",
        "GREEK SMALL LETTER IOTA WITH PSILI AND PERISPOMENI",
        "GREEK SMALL LETTER IOTA WITH DASIA AND PERISPOMENI;GREEK CAPITAL LETTER IOTA WITH PSILI",
        "GREEK CAPITAL LETTER IOTA WITH DASIA;GREEK CAPITAL LETTER IOTA WITH PSILI AND VARIA",
        "GREEK CAPITAL LETTER IOTA WITH DASIA AND VARIA",
        "GREEK CAPITAL LETTER IOTA WITH PSILI AND OXIA",
        "GREEK CAPITAL LETTER IOTA WITH DASIA AND OXIA",
        "GREEK CAPITAL LETTER IOTA WITH PSILI AND PERISPOMENI",
        "GREEK CAPITAL LETTER IOTA WITH DASIA AND PERISPOMENI;GREEK SMALL LETTER OMICRON WITH PSILI",
        "GREEK SMALL LETTER OMICRON WITH DASIA;GREEK SMALL LETTER OMICRON WITH PSILI AND VARIA",
        "GREEK SMALL LETTER OMICRON WITH DASIA AND VARIA",
        "GREEK SMALL LETTER OMICRON WITH PSILI AND OXIA",
        "GREEK SMALL LETTER OMICRON WITH DASIA AND OXIA"]⟩,
    ⟨0x1F48,
      ["GREEK CAPITAL LETTER OMICRON WITH PSILI;GREEK CAPITAL LETTER OMICRON WITH DASIA",
        "GREEK CAPITAL LETTER OMICRON WITH PSILI AND VARIA",
        "GREEK CAPITAL LETTER OMICRON WITH DASIA AND VARIA",
        "GREEK CAPITAL LETTER OMICRON WITH PSILI AND OXIA",
        "GREEK CAPITAL LETTER OMICRON WITH DASIA AND OXIA"]⟩,
    ⟨0x1F50,
      ["GREEK SMALL LETTER UPSILON WITH PSILI;GREEK SMALL LETTER UPSILON WITH DASIA",
        "GREEK SMALL LETTER UPSILON WITH PSILI AND VARIA",
        "GREEK SMALL LETTER UPSILON WITH DASIA AND VARIA",
        "GREEK SMALL LETTER UPSILON WITH PSILI AND OXIA",
        "GREEK SMALL LETTER UPSILON WITH DASIA AND OXIA",
        "GREEK SMALL LETTER UPSILON WITH PSILI AND PERISPOMENI",
        "GREEK SMALL LETTER UPSILON WITH DASIA AND PERISPOMENI"]⟩,
    ⟨0x1F59,
      ["GREEK CAPITAL LETTER UPSILON WITH DASIA"]⟩,
    ⟨0x1F5B,
      ["GREEK CAPITAL LETTER UPSILON WITH DASIA AND VARIA"]⟩,
    ⟨0x1F5D,
      ["GREEK CAPITAL LETTER UPSILON WITH DASIA AND OXIA"]⟩,
    ⟨0x1F5F,
      ["GREEK CAPITAL LETTER UPSILON WITH DASIA AND PERISPOMENI",
        "GREEK SMALL LETTER OMEGA WITH PSILI;GREEK SMALL LETTER OMEGA WITH DASIA",
        "GREEK SMALL LETTER OMEGA WITH PSILI AND VARIA",
        "GREEK SMALL LETTER OMEGA WITH DASIA AND VARIA;GREEK SMALL LETTER OMEGA WITH PSILI AND OXIA",
        "GREEK SMALL LETTER OMEGA WITH DASIA AND OXIA",
        "GREEK SMALL LETTER OMEGA WITH PSILI AND PERISPOMENI",
        "GREEK SMALL LETTER OMEGA WITH DASIA AND PERISPOMENI;GREEK CAPITAL LETTER OMEGA WITH PSILI",
        "GREEK CAPITAL LETTER OMEGA WITH DASIA;GREEK CAPITAL LETTER OMEGA WITH PSILI AND VARIA",
        "GREEK CAPITAL LETTER OMEGA WITH DASIA AND VARIA",
        "GREEK CAPITAL LETTER OMEGA WITH PSILI AND OXIA",
        "GREEK CAPITAL LETTER OMEGA WITH DASIA AND OXIA",
        "GREEK CAPITAL LETTER OMEGA WITH PSILI AND PERISPOMENI",
        "GREEK CAPITAL LETTER OMEGA WITH DASIA AND PERISPOMENI;GREEK SMALL LETTER ALPHA WITH VARIA",
        "GREEK SMALL LETTER ALPHA WITH OXIA;GREEK SMALL LETTER EPSILON WITH VARIA",
        "GREEK SMALL LETTER EPSILON WITH OXIA;GREEK SMALL LETTER ETA WITH VARIA",
        "GREEK SMALL LETTER ETA WITH OXIA;GREEK SMALL LETTER IOTA WITH VARIA",
        "GREEK SMALL LETTER IOTA WITH OXIA;GREEK SMALL LETTER OMICRON WITH VARIA",
        "GREEK SMALL LETTER OMICRON WITH OXIA;GREEK SMALL LETTER UPSILON WITH VARIA",
        "GREEK SMALL LETTER UPSILON WITH OXIA;GREEK SMALL LETTER OMEGA WITH VARIA",
        "GREEK SMALL LETTER OMEGA WITH OXIA"]⟩,
    ⟨0x1F80,
      ["GREEK SMALL LETTER ALPHA WITH PSILI AND YPOGEGRAMMENI",
        "GREEK SMALL LETTER ALPHA WITH DASIA AND YPOGEGRAMMENI",
        "GREEK SMALL LETTER ALPHA WITH PSILI AND VARIA AND YPOGEGRAMMENI",
        "GREEK SMALL LETTER ALPHA WITH DASIA AND VARIA AND YPOGEGRAMMENI",
        "GREEK SMALL LETTER ALPHA WITH PSILI AND OXIA AND YPOGEGRAMMENI",
        "GREEK SMALL LETTER ALPHA WITH DASIA AND OXIA AND YPOGEGRAMMENI",
        "GREEK SMALL LETTER ALPHA WITH PSILI AND PERISPOMENI AND YPOGEGRAMMENI",
        "GREEK SMALL LETTER ALPHA WITH DASIA AND PERISPOMENI AND YPOGEGRAMMENI",
        "GREEK CAPITAL LETTER ALPHA WITH PSILI AND PROSGEGRAMMENI",
        "GREEK CAPITAL LETTER ALPHA WITH DASIA AND PROSGEGRAMMENI",
        "GREEK CAPITAL LETTER ALPHA WITH PSILI AND VARIA AND PROSGEGRAMMENI",
        "GREEK CAPITAL LETTER ALPHA WITH DASIA AND VARIA AND PROSGEGRAMMENI",
        "GREEK CAPITAL LETTER ALPHA WITH PSILI AND OXIA AND PROSGEGRAMMENI",
        "GREEK CAPITAL LETTER ALPHA WITH DASIA AND OXIA AND PROSGEGRAMMENI",
        "GREEK CAPITAL LETTER ALPHA WITH PSILI AND PERISPOMENI AND PROSGEGRAMMENI",
        "GREEK CAPITAL LETTER ALPHA WITH DASIA AND PERISPOMENI AND PROSGEGRAMMENI",
        "GREEK SMALL LETTER ETA WITH PSILI AND YPOGEGRAMMENI",
        "GREEK SMALL LETTER ETA WITH DASIA AND YPOGEGRAMMENI",
        "GREEK SMALL LETTER ETA WITH PSILI AND VARIA AND YPOGEGRAMMENI",
        "GREEK SMALL LETTER ETA WITH DASIA AND VARIA AND YPOGEGRAMMENI",
        "GREEK SMALL LETTER ETA WITH PSILI AND OXIA AND YPOGEGRAMMENI",
        "GREEK SMALL LETTER ETA WITH DASIA AND OXIA AND YPOGEGRAMMENI",
        "GREEK SMALL LETTER ETA WITH PSILI AND PERISPOMENI AND YPOGEGRAMMENI",
        "GREEK SMALL LETTER ETA WITH DASIA AND PERISPOMENI AND YPOGEGRAMMENI",
        "GREEK CAPITAL LETTER ETA WITH PSILI AND PROSGEGRAMMENI",
        "GREEK CAPITAL LETTER ETA WITH DASIA AND PROSGEGRAMMENI",
        "GREEK CAPITAL LETTER ETA WITH PSILI AND VARIA AND PROSGEGRAMMENI",
        "GREEK CAPITAL LETTER ETA WITH DASIA AND VARIA AND PROSGEGRAMMENI",
        "GREEK CAPITAL LETTER ETA WITH PSILI AND OXIA AND PROSGEGRAMMENI",
        "GREEK CAPITAL LETTER ETA WITH DASIA AND OXIA AND PROSGEGRAMMENI",
        "GREEK CAPITAL LETTER ETA WITH PSILI AND PERISPOMENI AND PROSGEGRAMMENI",
        "GREEK CAPITAL LETTER ETA WITH DASIA AND PERISPOMENI AND PROSGEGRAMMENI",
        "GREEK SMALL LETTER OMEGA WITH PSILI AND YPOGEGRAMMENI",
        "GREEK SMALL LETTER OMEGA WITH DASIA AND YPOGEGRAMMENI",
        "GREEK SMALL LETTER OMEGA WITH PSILI AND VARIA AND YPOGEGRAMMENI",
        "GREEK SMALL LETTER OMEGA WITH DASIA AND VARIA AND YPOGEGRAMMENI",
        "GREEK SMALL LETTER OMEGA WITH PSILI AND OXIA AND YPOGEGRAMMENI",
        "GREEK SMALL LETTER OMEGA WITH DASIA AND OXIA AND YPOGEGRAMMENI",
        "GREEK SMALL LETTER OMEGA WITH PSILI AND PERISPOMENI AND YPOGEGRAMMENI",
        "GREEK SMALL LETTER OMEGA WITH DASIA AND PERISPOMENI AND YPOGEGRAMMENI",
        "GREEK CAPITAL LETTER OMEGA WITH PSILI AND PROSGEGRAMMENI",
        "GREEK CAPITAL LETTER OMEGA WITH DASIA AND PROSGEGRAMMENI",
        "GREEK CAPITAL LETTER OMEGA WITH PSILI AND VARIA AND PROSGEGRAMMENI",
        "GREEK CAPITAL LETTER OMEGA WITH DASIA AND VARIA AND PROSGEGRAMMENI",
        "GREEK CAPITAL LETTER OMEGA WITH PSILI AND OXIA AND PROSGEGRAMMENI",
        "GREEK CAPITAL LETTER OMEGA WITH DASIA AND OXIA AND PROSGEGRAMMENI",
        "GREEK CAPITAL LETTER OMEGA WITH PSILI AND PERISPOMENI AND PROSGEGRAMMENI",
        "GREEK CAPITAL LETTER OMEGA WITH DASIA AND PERISPOMENI AND PROSGEGRAMMENI",
        "GREEK SMALL LETTER ALPHA WITH VRACHY;GREEK SMALL LETTER ALPHA WITH MACRON",
        "GREEK SMALL LETTER ALPHA WITH VARIA AND YPOGEGRAMMENI",
        "GREEK SMALL LETTER ALPHA WITH YPOGEGRAMMENI",
        "GREEK SMALL LETTER ALPHA WITH OXIA AND YPOGEGRAMMENI"]⟩,
    ⟨0x1FB6,
      ["GREEK SMALL LETTER ALPHA WITH PERISPOMENI",
        "GREEK SMALL LETTER ALPHA WITH PERISPOMENI AND YPOGEGRAMMENI",
        "GREEK CAPITAL LETTER ALPHA WITH VRACHY;GREEK CAPITAL LETTER ALPHA WITH MACRON",
        "GREEK CAPITAL LETTER ALPHA WITH VARIA;GREEK CAPITAL LETTER ALPHA WITH OXIA",
        "GREEK CAPITAL LETTER ALPHA WITH PROSGEGRAMMENI;GREEK KORONIS;GREEK PROSGEGRAMMENI",
        "GREEK PSILI;GREEK PERISPOMENI;GREEK DIALYTIKA AND PERISPOMENI",
        "GREEK SMALL LETTER ETA WITH VARIA AND YPOGEGRAMMENI",
        "GREEK SMALL LETTER ETA WITH YPOGEGRAMMENI",
        "GREEK SMALL LETTER ETA WITH OXIA AND YPOGEGRAMMENI"]⟩,
    ⟨0x1FC6,
      ["GREEK SMALL LETTER ETA WITH PERISPOMENI",
        "GREEK SMALL LETTER ETA WITH PERISPOMENI AND YPOGEGRAMMENI",
        "GREEK CAPITAL LETTER EPSILON WITH VARIA;GREEK CAPITAL LETTER EPSILON WITH OXIA",
        "GREEK CAPITAL LETTER ETA WITH VARIA;GREEK CAPITAL LETTER ETA WITH OXIA",
        "GREEK CAPITAL LETTER ETA WITH PROSGEGRAMMENI;GREEK PSILI AND VARIA;GREEK PSILI AND OXIA",
        "GREEK PSILI AND PERISPOMENI;GREEK SMALL LETTER IOTA WITH VRACHY",
        "GREEK SMALL LETTER IOTA WITH MACRON;GREEK SMALL LETTER IOTA WITH DIALYTIKA AND VARIA",
        "GREEK SMALL LETTER IOTA WITH DIALYTIKA AND OXIA"]⟩,
    ⟨0x1FD6,
      ["GREEK SMALL LETTER IOTA WITH PERISPOMENI",
        "GREEK SMALL LETTER IOTA WITH DIALYTIKA AND PERISPOMENI",
        "GREEK CAPITAL LETTER IOTA WITH VRACHY;GREEK CAPITAL LETTER IOTA WITH MACRON",
        "GREEK CAPITAL LETTER IOTA WITH VARIA;GREEK CAPITAL LETTER IOTA WITH OXIA"]⟩,
    ⟨0x1FDD,
      ["GREEK DASIA AND VARIA;GREEK DASIA AND OXIA;GREEK DASIA AND PERISPOMENI",
        "GREEK SMALL LETTER UPSILON WITH VRACHY;GREEK SMALL LETTER UPSILON WITH MACRON",
        "GREEK SMALL LETTER UPSILON WITH DIALYTIKA AND VARIA",
        "GREEK SMALL LETTER UPSILON WITH DIALYTIKA AND OXIA;GREEK SMALL LETTER RHO WITH PSILI",
        "GREEK SMALL LETTER RHO WITH DASIA;GREEK SMALL LETTER UPSILON WITH PERISPOMENI",
        "GREEK SMALL LETTER UPSILON WITH DIALYTIKA AND PERISPOMENI",
        "GREEK CAPITAL LETTER UPSILON WITH VRACHY;GREEK CAPITAL LETTER UPSILON WITH MACRON",
        "GREEK CAPITAL LETTER UPSILON WITH VARIA;GREEK CAPITAL LETTER UPSILON WITH OXIA",
        "GREEK CAPITAL LETTER RHO WITH DASIA;GREEK DIALYTIKA AND VARIA;GREEK DIALYTIKA AND OXIA",
        "GREEK VARIA"]⟩,
    ⟨0x1FF2,
      ["GREEK SMALL LETTER OMEGA WITH VARIA AND YPOGEGRAMMENI",
        "GREEK SMALL LETTER OMEGA WITH YPOGEGRAMMENI",
        "GREEK SMALL LETTER OMEGA WITH OXIA AND YPOGEGRAMMENI"]⟩,
    ⟨0x1FF6,
      ["GREEK SMALL LETTER OMEGA WITH PERISPOMENI",
        "GREEK SMALL LETTER OMEGA WITH PERISPOMENI AND YPOGEGRAMMENI",
        "GREEK CAPITAL LETTER OMICRON WITH VARIA;GREEK CAPITAL LETTER OMICRON WITH OXIA",
        "GREEK CAPITAL LETTER OMEGA WITH VARIA;GREEK CAPITAL LETTER OMEGA WITH OXIA",
        "GREEK CAPITAL LETTER OMEGA WITH PROSGEGRAMMENI;GREEK OXIA;GREEK DASIA"]⟩,
    ⟨0x3000,
      ["IDEOGRAPHIC SPACE;IDEOGRAPHIC COMMA;IDEOGRAPHIC FULL STOP;DITTO MARK",
        "JAPANESE INDUSTRIAL STANDARD SYMBOL;IDEOGRAPHIC ITERATION MARK;IDEOGRAPHIC CLOSING MARK",
        "IDEOGRAPHIC NUMBER ZERO;LEFT ANGLE BRACKET;RIGHT ANGLE BRACKET;LEFT DOUBLE ANGLE BRACKET",
        "RIGHT DOUBLE ANGLE BRACKET;LEFT CORNER BRACKET;RIGHT CORNER BRACKET",
        "LEFT WHITE CORNER BRACKET;RIGHT WHITE CORNER BRACKET;LEFT BLACK LENTICULAR BRACKET",
        "RIGHT BLACK LENTICULAR BRACKET;POSTAL MARK;GETA MARK;LEFT TORTOISE SHELL BRACKET",
        "RIGHT TORTOISE SHELL BRACKET;LEFT WHITE LENTICULAR BRACKET;RIGHT WHITE LENTICULAR BRACKET",
        "LEFT WHITE TORTOISE SHELL BRACKET;RIGHT WHITE TORTOISE SHELL BRACKET",
        "LEFT WHITE SQUARE BRACKET;RIGHT WHITE SQUARE BRACKET;WAVE DASH",
        "REVERSED DOUBLE PRIME QUOTATION MARK;DOUBLE PRIME QUOTATION MARK",
        "LOW DOUBLE PRIME QUOTATION MARK;POSTAL MARK FACE;HANGZHOU NUMERAL ONE;HANGZHOU NUMERAL TWO",
        "HANGZHOU NUMERAL THREE;HANGZHOU NUMERAL FOUR;HANGZHOU NUMERAL FIVE;HANGZHOU NUMERAL SIX",
        "HANGZHOU NUMERAL SEVEN;HANGZHOU NUMERAL EIGHT;HANGZHOU NUMERAL NINE",
        "IDEOGRAPHIC LEVEL TONE MARK;IDEOGRAPHIC RISING TONE MARK;IDEOGRAPHIC DEPARTING TONE MARK",
        "IDEOGRAPHIC ENTERING TONE MARK;HANGUL SINGLE DOT TONE MARK;HANGUL DOUBLE DOT TONE MARK",
        "WAVY DASH;VERTICAL KANA REPEAT MARK;VERTICAL KANA REPEAT WITH VOICED SOUND MARK",
        "VERTICAL KANA REPEAT MARK UPPER HALF",
        "VERTICAL KANA REPEAT WITH VOICED SOUND MARK UPPER HALF",
        "VERTICAL KANA REPEAT MARK LOWER HALF;CIRCLED POSTAL MARK",
        "IDEOGRAPHIC TELEGRAPH LINE FEED SEPARATOR SYMBOL;HANGZHOU NUMERAL TEN",
        "HANGZHOU NUMERAL TWENTY;HANGZHOU NUMERAL THIRTY;VERTICAL IDEOGRAPHIC ITERATION MARK",
        "MASU MARK;PART ALTERNATION MARK;IDEOGRAPHIC VARIATION INDICATOR",
        "IDEOGRAPHIC HALF FILL SPACE"]⟩,
    ⟨0x3041,
      ["HIRAGANA LETTER SMALL A;HIRAGANA LETTER A;HIRAGANA LETTER SMALL I;HIRAGANA LETTER I",
        "HIRAGANA LETTER SMALL U;HIRAGANA LETTER U;HIRAGANA LETTER SMALL E;HIRAGANA LETTER E",
        "HIRAGANA LETTER SMALL O;HIRAGANA LETTER O;HIRAGANA LETTER KA;HIRAGANA LETTER GA",
        "HIRAGANA LETTER KI;HIRAGANA LETTER GI;HIRAGANA LETTER KU;HIRAGANA LETTER GU",
        "HIRAGANA LETTER KE;HIRAGANA LETTER GE;HIRAGANA LETTER KO;HIRAGANA LETTER GO",
        "HIRAGANA LETTER SA;HIRAGANA LETTER ZA;HIRAGANA LETTER SI;HIRAGANA LETTER ZI",
        "HIRAGANA LETTER SU;HIRAGANA LETTER ZU;HIRAGANA LETTER SE;HIRAGANA LETTER ZE",
        "HIRAGANA LETTER SO;HIRAGANA LETTER ZO;HIRAGANA LETTER TA;HIRAGANA LETTER DA",
        "HIRAGANA LETTER TI;HIRAGANA LETTER DI;HIRAGANA LETTER SMALL TU;HIRAGANA LETTER TU",
        "HIRAGANA LETTER DU;HIRAGANA LETTER TE;HIRAGANA LETTER DE;HIRAGANA LETTER TO",
        "HIRAGANA LETTER DO;HIRAGANA LETTER NA;HIRAGANA LETTER NI;HIRAGANA LETTER NU",
        "HIRAGANA LETTER NE;HIRAGANA LETTER NO;HIRAGANA LETTER HA;HIRAGANA LETTER BA",
        "HIRAGANA LETTER PA;HIRAGANA LETTER HI;HIRAGANA LETTER BI;HIRAGANA LETTER PI",
        "HIRAGANA LETTER HU;HIRAGANA LETTER BU;HIRAGANA LETTER PU;HIRAGANA LETTER HE",
        "HIRAGANA LETTER BE;HIRAGANA LETTER PE;HIRAGANA LETTER HO;HIRAGANA LETTER BO",
        "HIRAGANA LETTER PO;HIRAGANA LETTER MA;HIRAGANA LETTER MI;HIRAGANA LETTER MU",
        "HIRAGANA LETTER ME;HIRAGANA LETTER MO;HIRAGANA LETTER SMALL YA;HIRAGANA LETTER YA",
        "HIRAGANA LETTER SMALL YU;HIRAGANA LETTER YU;HIRAGANA LETTER SMALL YO;HIRAGANA LETTER YO",
        "HIRAGANA LETTER RA;HIRAGANA LETTER RI;HIRAGANA LETTER RU;HIRAGANA LETTER RE",
        "HIRAGANA LETTER RO;HIRAGANA LETTER SMALL WA;HIRAGANA LETTER WA;HIRAGANA LETTER WI",
        "HIRAGANA LETTER WE;HIRAGANA LETTER WO;HIRAGANA LETTER N;HIRAGANA LETTER VU",
        "HIRAGANA LETTER SMALL KA;HIRAGANA LETTER SMALL KE"]⟩,
    ⟨0x3099,
      ["COMBINING KATAKANA-HIRAGANA VOICED SOUND MARK",
        "COMBINING KATAKANA-HIRAGANA SEMI-VOICED SOUND MARK;KATAKANA-HIRAGANA VOICED SOUND MARK",
        "KATAKANA-HIRAGANA SEMI-VOICED SOUND MARK;HIRAGANA ITERATION MARK",
        "HIRAGANA VOICED ITERATION MARK;HIRAGANA DIGRAPH YORI;KATAKANA-HIRAGANA DOUBLE HYPHEN",
        "KATAKANA LETTER SMALL A;KATAKANA LETTER A;KATAKANA LETTER SMALL I;KATAKANA LETTER I",
        "KATAKANA LETTER SMALL U;KATAKANA LETTER U;KATAKANA LETTER SMALL E;KATAKANA LETTER E",
        "KATAKANA LETTER SMALL O;KATAKANA LETTER O;KATAKANA LETTER KA;KATAKANA LETTER GA",
        "KATAKANA LETTER KI;KATAKANA LETTER GI;KATAKANA LETTER KU;KATAKANA LETTER GU",
        "KATAKANA LETTER KE;KATAKANA LETTER GE;KATAKANA LETTER KO;KATAKANA LETTER GO",
        "KATAKANA LETTER SA;KATAKANA LETTER ZA;KATAKANA LETTER SI;KATAKANA LETTER ZI",
        "KATAKANA LETTER SU;KATAKANA LETTER ZU;KATAKANA LETTER SE;KATAKANA LETTER ZE",
        "KATAKANA LETTER SO;KATAKANA LETTER ZO;KATAKANA LETTER TA;KATAKANA LETTER DA",
        "KATAKANA LETTER TI;KATAKANA LETTER DI;KATAKANA LETTER SMALL TU;KATAKANA LETTER TU",
        "KATAKANA LETTER DU;KATAKANA LETTER TE;KATAKANA LETTER DE;KATAKANA LETTER TO",
        "KATAKANA LETTER DO;KATAKANA LETTER NA;KATAKANA LETTER NI;KATAKANA LETTER NU",
        "KATAKANA LETTER NE;KATAKANA LETTER NO;KATAKANA LETTER HA;KATAKANA LETTER BA",
        "KATAKANA LETTER PA;KATAKANA LETTER HI;KATAKANA LETTER BI;KATAKANA LETTER PI",
        "KATAKANA LETTER HU;KATAKANA LETTER BU;KATAKANA LETTER PU;KATAKANA LETTER HE",
        "KATAKANA LETTER BE;KATAKANA LETTER PE;KATAKANA LETTER HO;KATAKANA LETTER BO",
        "KATAKANA LETTER PO;KATAKANA LETTER MA;KATAKANA LETTER MI;KATAKANA LETTER MU",
        "KATAKANA LETTER ME;KATAKANA LETTER MO;KATAKANA LETTER SMALL YA;KATAKANA LETTER YA",
        "KATAKANA LETTER SMALL YU;KATAKANA LETTER YU;KATAKANA LETTER SMALL YO;KATAKANA LETTER YO",
        "KATAKANA LETTER RA;KATAKANA LETTER RI;KATAKANA LETTER RU;KATAKANA LETTER RE",
        "KATAKANA LETTER RO;KATAKANA LETTER SMALL WA;KATAKANA LETTER WA;KATAKANA LETTER WI",
        "KATAKANA LETTER WE;KATAKANA LETTER WO;KATAKANA LETTER N;KATAKANA LETTER VU",
        "KATAKANA LETTER SMALL KA;KATAKANA LETTER SMALL KE;KATAKANA LETTER VA;KATAKANA LETTER VI",
        "KATAKANA LETTER VE;KATAKANA LETTER VO;KATAKANA MIDDLE DOT",
        "KATAKANA-HIRAGANA PROLONGED SOUND MARK;KATAKANA ITERATION MARK",
        "KATAKANA VOICED ITERATION MARK;KATAKANA DIGRAPH KOTO"]⟩,
    ⟨0xFB00,
      ["LATIN SMALL LIGATURE FF;LATIN SMALL LIGATURE FI;LATIN SMALL LIGATURE FL",
        "LATIN SMALL LIGATURE FFI;LATIN SMALL LIGATURE FFL;LATIN SMALL LIGATURE LONG S T",
        "LATIN SMALL LIGATURE ST"]⟩,
    ⟨0xFF01,
      ["FULLWIDTH EXCLAMATION MARK;FULLWIDTH QUOTATION MARK;FULLWIDTH NUMBER SIGN",
        "FULLWIDTH DOLLAR SIGN;FULLWIDTH PERCENT SIGN;FULLWIDTH AMPERSAND;FULLWIDTH APOSTROPHE",
        "FULLWIDTH LEFT PARENTHESIS;FULLWIDTH RIGHT PARENTHESIS;FULLWIDTH ASTERISK",
        "FULLWIDTH PLUS SIGN;FULLWIDTH COMMA;FULLWIDTH HYPHEN-MINUS;FULLWIDTH FULL STOP",
        "FULLWIDTH SOLIDUS;FULLWIDTH DIGIT ZERO;FULLWIDTH DIGIT ONE;FULLWIDTH DIGIT TWO",
        "FULLWIDTH DIGIT THREE;FULLWIDTH DIGIT FOUR;FULLWIDTH DIGIT FIVE;FULLWIDTH DIGIT SIX",
        "FULLWIDTH DIGIT SEVEN;FULLWIDTH DIGIT EIGHT;FULLWIDTH DIGIT NINE;FULLWIDTH COLON",
        "FULLWIDTH SEMICOLON;FULLWIDTH LESS-THAN SIGN;FULLWIDTH EQUALS SIGN",
        "FULLWIDTH GREATER-THAN SIGN;FULLWIDTH QUESTION MARK;FULLWIDTH COMMERCIAL AT",
        "FULLWIDTH LATIN CAPITAL LETTER A;FULLWIDTH LATIN CAPITAL LETTER B",
        "FULLWIDTH LATIN CAPITAL LETTER C;FULLWIDTH LATIN CAPITAL LETTER D",
        "FULLWIDTH LATIN CAPITAL LETTER E;FULLWIDTH LATIN CAPITAL LETTER F",
        "FULLWIDTH LATIN CAPITAL LETTER G;FULLWIDTH LATIN CAPITAL LETTER H",
        "FULLWIDTH LATIN CAPITAL LETTER I;FULLWIDTH LATIN CAPITAL LETTER J",
        "FULLWIDTH LATIN CAPITAL LETTER K;FULLWIDTH LATIN CAPITAL LETTER L",
        "FULLWIDTH LATIN CAPITAL LETTER M;FULLWIDTH LATIN CAPITAL LETTER N",
        "FULLWIDTH LATIN CAPITAL LETTER O;FULLWIDTH LATIN CAPITAL LETTER P",
        "FULLWIDTH LATIN CAPITAL LETTER Q;FULLWIDTH LATIN CAPITAL LETTER R",
        "FULLWIDTH LATIN CAPITAL LETTER S;FULLWIDTH LATIN CAPITAL LETTER T",
        "FULLWIDTH LATIN CAPITAL LETTER U;FULLWIDTH LATIN CAPITAL LETTER V",
        "FULLWIDTH LATIN CAPITAL LETTER W;FULLWIDTH LATIN CAPITAL LETTER X",
        "FULLWIDTH LATIN CAPITAL LETTER Y;FULLWIDTH LATIN CAPITAL LETTER Z",
        "FULLWIDTH LEFT SQUARE BRACKET;FULLWIDTH REVERSE SOLIDUS;FULLWIDTH RIGHT SQUARE BRACKET",
        "FULLWIDTH CIRCUMFLEX ACCENT;FULLWIDTH LOW LINE;FULLWIDTH GRAVE ACCENT",
        "FULLWIDTH LATIN SMALL LETTER A;FULLWIDTH LATIN SMALL LETTER B",
        "FULLWIDTH LATIN SMALL LETTER C;FULLWIDTH LATIN SMALL LETTER D",
        "FULLWIDTH LATIN SMALL LETTER E;FULLWIDTH LATIN SMALL LETTER F",
        "FULLWIDTH LATIN SMALL LETTER G;FULLWIDTH LATIN SMALL LETTER H",
        "FULLWIDTH LATIN SMALL LETTER I;FULLWIDTH LATIN SMALL LETTER J",
        "FULLWIDTH LATIN SMALL LETTER K;FULLWIDTH LATIN SMALL LETTER L",
        "FULLWIDTH LATIN SMALL LETTER M;FULLWIDTH LATIN SMALL LETTER N",
        "FULLWIDTH LATIN SMALL LETTER O;FULLWIDTH LATIN SMALL LETTER P",
        "FULLWIDTH LATIN SMALL LETTER Q;FULLWIDTH LATIN SMALL LETTER R",
        "FULLWIDTH LATIN SMALL LETTER S;FULLWIDTH LATIN SMALL LETTER T",
        "FULLWIDTH LATIN SMALL LETTER U;FULLWIDTH LATIN SMALL LETTER V",
        "FULLWIDTH LATIN SMALL LETTER W;FULLWIDTH LATIN SMALL LETTER X",
        "FULLWIDTH LATIN SMALL LETTER Y;FULLWIDTH LATIN SMALL LETTER Z;FULLWIDTH LEFT CURLY BRACKET",
        "FULLWIDTH VERTICAL LINE;FULLWIDTH RIGHT CURLY BRACKET;FULLWIDTH TILDE",
        "FULLWIDTH LEFT WHITE PARENTHESIS;FULLWIDTH RIGHT WHITE PARENTHESIS",
        "HALFWIDTH IDEOGRAPHIC FULL STOP;HALFWIDTH LEFT CORNER BRACKET",
        "HALFWIDTH RIGHT CORNER BRACKET;HALFWIDTH IDEOGRAPHIC COMMA;HALFWIDTH KATAKANA MIDDLE DOT",
        "HALFWIDTH KATAKANA LETTER WO;HALFWIDTH KATAKANA LETTER SMALL A",
        "HALFWIDTH KATAKANA LETTER SMALL I;HALFWIDTH KATAKANA LETTER SMALL U",
        "HALFWIDTH KATAKANA LETTER SMALL E;HALFWIDTH KATAKANA LETTER SMALL O",
        "HALFWIDTH KATAKANA LETTER SMALL YA;HALFWIDTH KATAKANA LETTER SMALL YU",
        "HALFWIDTH KATAKANA LETTER SMALL YO;HALFWIDTH KATAKANA LETTER SMALL TU",
        "HALFWIDTH KATAKANA-HIRAGANA PROLONGED SOUND MARK;HALFWIDTH KATAKANA LETTER A",
        "HALFWIDTH KATAKANA LETTER I;HALFWIDTH KATAKANA LETTER U;HALFWIDTH KATAKANA LETTER E",
        "HALFWIDTH KATAKANA LETTER O;HALFWIDTH KATAKANA LETTER KA;HALFWIDTH KATAKANA LETTER KI",
        "HALFWIDTH KATAKANA LETTER KU;HALFWIDTH KATAKANA LETTER KE;HALFWIDTH KATAKANA LETTER KO",
        "HALFWIDTH KATAKANA LETTER SA;HALFWIDTH KATAKANA LETTER SI;HALFWIDTH KATAKANA LETTER SU",
        "HALFWIDTH KATAKANA LETTER SE;HALFWIDTH KATAKANA LETTER SO;HALFWIDTH KATAKANA LETTER TA",
        "HALFWIDTH KATAKANA LETTER TI;HALFWIDTH KATAKANA LETTER TU;HALFWIDTH KATAKANA LETTER TE",
        "HALFWIDTH KATAKANA LETTER TO;HALFWIDTH KATAKANA LETTER NA;HALFWIDTH KATAKANA LETTER NI",
        "HALFWIDTH KATAKANA LETTER NU;HALFWIDTH KATAKANA LETTER NE;HALFWIDTH KATAKANA LETTER NO",
        "HALFWIDTH KATAKANA LETTER HA;HALFWIDTH KATAKANA LETTER HI;HALFWIDTH KATAKANA LETTER HU",
        "HALFWIDTH KATAKANA LETTER HE;HALFWIDTH KATAKANA LETTER HO;HALFWIDTH KATAKANA LETTER MA",
        "HALFWIDTH KATAKANA LETTER MI;HALFWIDTH KATAKANA LETTER MU;HALFWIDTH KATAKANA LETTER ME",
        "HALFWIDTH KATAKANA LETTER MO;HALFWIDTH KATAKANA LETTER YA;HALFWIDTH KATAKANA LETTER YU",
        "HALFWIDTH KATAKANA LETTER YO;HALFWIDTH KATAKANA LETTER RA;HALFWIDTH KATAKANA LETTER RI",
        "HALFWIDTH KATAKANA LETTER RU;HALFWIDTH KATAKANA LETTER RE;HALFWIDTH KATAKANA LETTER RO",
        "HALFWIDTH KATAKANA LETTER WA;HALFWIDTH KATAKANA LETTER N",
        "HALFWIDTH KATAKANA VOICED SOUND MARK;HALFWIDTH KATAKANA SEMI-VOICED SOUND MARK",
        "HALFWIDTH HANGUL FILLER;HALFWIDTH HANGUL LETTER KIYEOK;HALFWIDTH HANGUL LETTER SSANGKIYEOK",
        "HALFWIDTH HANGUL LETTER KIYEOK-SIOS;HALFWIDTH HANGUL LETTER NIEUN",
        "HALFWIDTH HANGUL LETTER NIEUN-CIEUC;HALFWIDTH HANGUL LETTER NIEUN-HIEUH",
        "HALFWIDTH HANGUL LETTER TIKEUT;HALFWIDTH HANGUL LETTER SSANGTIKEUT",
        "HALFWIDTH HANGUL LETTER RIEUL;HALFWIDTH HANGUL LETTER RIEUL-KIYEOK",
        "HALFWIDTH HANGUL LETTER RIEUL-MIEUM;HALFWIDTH HANGUL LETTER RIEUL-PIEUP",
        "HALFWIDTH HANGUL LETTER RIEUL-SIOS;HALFWIDTH HANGUL LETTER RIEUL-THIEUTH",
        "HALFWIDTH HANGUL LETTER RIEUL-PHIEUPH;HALFWIDTH HANGUL LETTER RIEUL-HIEUH",
        "HALFWIDTH HANGUL LETTER MIEUM;HALFWIDTH HANGUL LETTER PIEUP",
        "HALFWIDTH HANGUL LETTER SSANGPIEUP;HALFWIDTH HANGUL LETTER PIEUP-SIOS",
        "HALFWIDTH HANGUL LETTER SIOS;HALFWIDTH HANGUL LETTER SSANGSIOS",
        "HALFWIDTH HANGUL LETTER IEUNG;HALFWIDTH HANGUL LETTER CIEUC",
        "HALFWIDTH HANGUL LETTER SSANGCIEUC;HALFWIDTH HANGUL LETTER CHIEUCH",
        "HALFWIDTH HANGUL LETTER KHIEUKH;HALFWIDTH HANGUL LETTER THIEUTH",
        "HALFWIDTH HANGUL LETTER PHIEUPH;HALFWIDTH HANGUL LETTER HIEUH"]⟩,
    ⟨0xFFC2,
      ["HALFWIDTH HANGUL LETTER A;HALFWIDTH HANGUL LETTER AE;HALFWIDTH HANGUL LETTER YA",
        "HALFWIDTH HANGUL LETTER YAE;HALFWIDTH HANGUL LETTER EO;HALFWIDTH HANGUL LETTER E"]⟩,
    ⟨0xFFCA,
      ["HALFWIDTH HANGUL LETTER YEO;HALFWIDTH HANGUL LETTER YE;HALFWIDTH HANGUL LETTER O",
        "HALFWIDTH HANGUL LETTER WA;HALFWIDTH HANGUL LETTER WAE;HALFWIDTH HANGUL LETTER OE"]⟩,
    ⟨0xFFD2,
      ["HALFWIDTH HANGUL LETTER YO;HALFWIDTH HANGUL LETTER U;HALFWIDTH HANGUL LETTER WEO",
        "HALFWIDTH HANGUL LETTER WE;HALFWIDTH HANGUL LETTER WI;HALFWIDTH HANGUL LETTER YU"]⟩,
    ⟨0xFFDA,
      ["HALFWIDTH HANGUL LETTER EU;HALFWIDTH HANGUL LETTER YI;HALFWIDTH HANGUL LETTER I"]⟩,
    ⟨0xFFE0,
      ["FULLWIDTH CENT SIGN;FULLWIDTH POUND SIGN;FULLWIDTH NOT SIGN;FULLWIDTH MACRON",
        "FULLWIDTH BROKEN BAR;FULLWIDTH YEN SIGN;FULLWIDTH WON SIGN"]⟩,
    ⟨0xFFE8,
      ["HALFWIDTH FORMS LIGHT VERTICAL;HALFWIDTH LEFTWARDS ARROW;HALFWIDTH UPWARDS ARROW",
        "HALFWIDTH RIGHTWARDS ARROW;HALFWIDTH DOWNWARDS ARROW;HALFWIDTH BLACK SQUARE",
        "HALFWIDTH WHITE CIRCLE"]⟩]

end Runbook.Text
