import HandlerMigration.Unicode.Table

/-!
# Scripts

The script to which each character belongs, and the characters that scripts share.
-/

namespace HandlerMigration.Unicode

/-- The scripts: their names, without case and separators, and their characters. -/
def scripts : List (List String × String) := [
  (["adlm", "adlam"],
    "125184 75 4 9 4 1"),
  (["ahom"],
    "71424 26 2 14 4 22"),
  (["hluw", "anatolianhieroglyphs"],
    "82944 582"),
  (["arab", "arabic"],
    "1536 4 1 5 1 13 1 2 1 31 1 9 11 25 1 107 1 33 80 47 240 30 1 1 5 74 1 28 62032 114 16 362 2 79
      2 53 7 0 32 15 112 4 1 134 3939 30 67 2 55 3 57088 3 1 26 1 1 1 0 2 0 1 9 1 3 1 0 1 0 6 0 4 0
      1 0 1 0 1 2 1 1 1 0 2 0 1 0 1 0 1 0 1 0 1 1 1 0 2 3 1 6 1 3 1 3 1 0 1 9 1 16 5 2 1 4 1 16 52 1"),
  (["armn", "armenian"],
    "1329 37 2 49 2 2 62851 4"),
  (["avst", "avestan"],
    "68352 53 3 6"),
  (["bali", "balinese"],
    "6912 76 1 49"),
  (["bamu", "bamum"],
    "42656 87 49416 568"),
  (["bass", "bassavah"],
    "92880 29 2 5"),
  (["batk", "batak"],
    "7104 51 8 3"),
  (["beng", "bengali"],
    "2432 3 1 7 2 1 2 21 1 6 1 0 3 3 2 8 2 1 2 3 8 0 4 1 1 4 2 24"),
  (["bhks", "bhaiksuki"],
    "72704 8 1 44 1 13 10 28"),
  (["bopo", "bopomofo"],
    "746 1 11801 42 112 31"),
  (["brah", "brahmi"],
    "69632 77 4 35 9 0"),
  (["brai", "braille"],
    "10240 255"),
  (["bugi", "buginese"],
    "6656 27 2 1"),
  (["buhd", "buhid"],
    "5952 19"),
  (["cans", "canadianaboriginal"],
    "5120 639 560 69 65978 15"),
  (["cari", "carian"],
    "66208 48"),
  (["aghb", "caucasianalbanian"],
    "66864 51 11 0"),
  (["cakm", "chakma"],
    "69888 52 1 17"),
  (["cham"],
    "43520 54 9 13 2 9 2 3"),
  (["cher", "cherokee"],
    "5024 85 2 5 38770 79"),
  (["chrs", "chorasmian"],
    "69552 27"),
  (["zyyy", "common"],
    "0 64 26 5 26 46 1 14 1 4 23 0 31 0 449 38 5 4 2 19 116 0 9 0 6 0 1 0 637 0 6 0 14 0 3 0 32 0
      156 0 516 0 129 1 1241 0 405 3 290 0 1519 2 71 1 203 1 1 0 1229 0 13 0 7 3 1 5 1 2 2 0 773 11
      2 86 1 10 3 10 1 14 17 32 63 37 1 2 2 5 1 26 1 16 41 2 4 665 22 10 21 927 256 627 2 31 1 104
      512 93 402 20 1 0 1 24 15 7 4 3 91 1 3 0 90 1 147 15 32 37 9 0 48 63 31 80 47 0 88 167 6592 63
      22784 33 102 2 165 9 244 0 160 0 395 0 14 1 20946 1 208 9 22 34 1 18 1 3 147 0 1 31 26 5 26 10
      10 0 45 1 64 6 1 6 10 4 258 2 4 44 3 8 80 12 51 44 228 26 47524 3 3932 249 6 435 156 115 60
      245 10 38 2 61 3 16 8 1 7 29 4 60 213 19 12 19 12 86 9 24 135 84 1 70 1 1 2 0 2 1 2 3 1 11 1 0
      1 6 1 64 1 3 2 7 1 6 1 27 1 3 1 4 1 0 3 6 1 339 2 291 2 49 5233 67 76 60 706 43 4 99 12 14 2
      14 1 14 1 36 10 173 56 25 1 1 13 43 4 8 7 1 14 5 154 983 4 16 3 12 3 118 4 94 6 11 4 0 15 11 4
      55 8 9 6 39 8 29 2 11 4 1 62 339 12 13 2 12 3 9 5 55 7 14 2 10 6 8 7 146 1 101 787463 0 30 95"),
  (["copt", "coptic", "qaac"],
    "994 13 10384 115 5 6"),
  (["xsux", "cuneiform"],
    "73728 921 102 110 1 4 11 195"),
  (["cprt", "cypriot"],
    "67584 5 2 0 1 43 1 1 3 0 2 0"),
  (["cpmn", "cyprominoan"],
    "77712 98"),
  (["cyrl", "cyrillic"],
    "1024 132 2 168 5968 10 160 0 76 0 4199 31 30784 95 22414 1 57856 61 33 0"),
  (["dsrt", "deseret"],
    "66560 79"),
  (["deva", "devanagari"],
    "2304 80 4 14 2 25 40800 31 29184 9"),
  (["diak", "divesakuru"],
    "71936 6 2 0 2 7 1 1 1 29 1 1 2 11 9 9"),
  (["dogr", "dogra"],
    "71680 59"),
  (["dupl", "duployan"],
    "113664 106 5 12 3 8 7 9 2 3"),
  (["egyp", "egyptianhieroglyphs"],
    "77824 1109 10 3994"),
  (["elba", "elbasan"],
    "66816 39"),
  (["elym", "elymaic"],
    "69600 22"),
  (["ethi", "ethiopic"],
    "4608 72 1 3 2 6 1 0 1 3 2 40 1 3 2 32 1 3 2 6 1 0 1 3 2 14 1 56 1 3 2 66 2 31 3 25 6630 22 9 6
      1 6 1 6 1 6 1 6 1 6 1 6 1 6 32034 5 2 5 2 5 9 6 1 6 81073 6 1 3 1 1 1 14"),
  (["gara", "garay"],
    "68928 37 3 28 8 1"),
  (["geor", "georgian"],
    "4256 37 1 0 5 0 2 42 1 3 2960 42 2 2 4160 37 1 0 5 0"),
  (["glag", "glagolitic"],
    "11264 95 111520 6 1 16 2 6 1 1 1 4"),
  (["goth", "gothic"],
    "66352 26"),
  (["gran", "grantha"],
    "70400 3 1 7 2 1 2 21 1 6 1 1 1 4 2 8 2 1 2 2 2 0 6 0 5 6 2 6 3 4"),
  (["grek", "greek"],
    "880 3 1 2 2 3 1 0 4 0 1 0 1 2 1 0 1 19 1 62 14 15 6438 4 50 4 4 4 84 0 320 21 2 5 2 37 2 5 2 7
      1 0 1 0 1 0 1 30 2 52 1 14 1 13 2 5 1 18 2 2 1 8 295 0 35390 0 21978 78 17 0 53343 69"),
  (["gujr", "gujarati"],
    "2689 2 1 8 1 2 1 21 1 6 1 1 1 4 2 9 1 2 1 2 2 0 15 3 2 11 7 6"),
  (["gong", "gunjalagondi"],
    "73056 5 1 1 1 36 1 1 1 5 7 9"),
  (["guru", "gurmukhi"],
    "2561 2 1 5 4 1 2 21 1 6 1 1 1 1 1 1 2 0 1 4 4 1 2 2 3 0 7 3 1 0 7 16"),
  (["gukh", "gurungkhema"],
    "90368 57"),
  (["hani", "han"],
    "11904 25 1 88 12 213 47 0 1 0 25 8 14 3 964 6591 64 20991 22784 365 2 105 29960 1 12 1 36878
      42719 32 4153 6 221 2 5761 14 7472 15 621 2466 541 1506 4938 5 4191"),
  (["hang", "hangul"],
    "4352 255 7726 1 257 93 113 30 65 30 30433 28 643 11171 12 22 4 48 10148 30 3 5 2 5 2 5 2 2"),
  (["rohg", "hanifirohingya"],
    "68864 39 8 9"),
  (["hano", "hanunoo"],
    "5920 20"),
  (["hatr", "hatran"],
    "67808 18 1 1 5 4"),
  (["hebr", "hebrew"],
    "1425 54 8 26 4 5 62760 25 1 4 1 0 1 1 1 1 1 9"),
  (["hira", "hiragana"],
    "12353 85 6 2 98145 286 18 0 29 2 16557 0"),
  (["armi", "imperialaramaic"],
    "67648 21 1 8"),
  (["zinh", "inherited", "qaai"],
    "768 111 277 1 452 10 26 0 736 3 4443 30 513 2 1 12 1 6 4 0 6 0 3 1 198 63 524 1 194 32 3897 3
      107 1 52581 15 16 13 975 0 226 0 4186 0 48068 45 2 22 544 2 17 7 2 6 30 3 798546 239"),
  (["phli", "inscriptionalpahlavi"],
    "68448 18 5 7"),
  (["prti", "inscriptionalparthian"],
    "68416 21 2 7"),
  (["java", "javanese"],
    "43392 77 2 9 4 1"),
  (["kthi", "kaithi"],
    "69760 66 10 0"),
  (["knda", "kannada"],
    "3200 12 1 2 1 22 1 9 1 4 2 8 1 2 1 3 7 1 6 1 1 3 2 9 1 2"),
  (["kana", "katakana"],
    "12449 89 2 2 240 15 208 46 1 87 52238 9 1 44 45138 3 1 6 1 1 1 0 287 2 50 0 14 3"),
  (["kawi"],
    "73472 16 1 40 3 28"),
  (["kali", "kayahli"],
    "43264 45 1 0"),
  (["khar", "kharoshthi"],
    "68096 3 1 1 5 7 1 2 1 28 2 2 4 9 7 8"),
  (["kits", "khitansmallscript"],
    "94180 0 6939 469 41 0"),
  (["khmr", "khmer"],
    "6016 93 2 9 6 9 486 31"),
  (["khoj", "khojki"],
    "70144 17 1 46"),
  (["sind", "khudawadi"],
    "70320 58 5 9"),
  (["krai", "kiratrai"],
    "93504 57"),
  (["laoo", "lao"],
    "3713 1 1 0 1 4 1 23 1 0 1 22 2 4 1 0 1 6 1 9 2 3"),
  (["latn", "latin"],
    "65 25 6 25 47 0 15 0 5 22 1 30 1 448 39 4 6683 37 6 48 5 3 5 12 1 69 65 255 369 0 13 0 16 12
      141 1 6 0 27 0 17 40 2775 31 31394 101 3 66 2 1 1 0 1 7 21 13 816 42 1 8 1 3 20374 6 1050 25 6
      25 2085 5 1 41 1 8 55109 30 6 5"),
  (["lepc", "lepcha"],
    "7168 55 3 14 3 2"),
  (["limb", "limbu"],
    "6400 30 1 11 4 11 4 0 3 11"),
  (["lina", "lineara"],
    "67072 310 9 21 10 7"),
  (["linb", "linearb"],
    "65536 11 1 25 1 18 1 1 1 14 2 13 34 122"),
  (["lisu"],
    "42192 47 31408 0"),
  (["lyci", "lycian"],
    "66176 28"),
  (["lydi", "lydian"],
    "67872 25 5 0"),
  (["mahj", "mahajani"],
    "69968 38"),
  (["maka", "makasar"],
    "73440 24"),
  (["mlym", "malayalam"],
    "3328 12 1 2 1 50 1 2 1 5 4 15 2 25"),
  (["mand", "mandaic"],
    "2112 27 2 0"),
  (["mani", "manichaean"],
    "68288 38 4 11"),
  (["marc", "marchen"],
    "72816 31 2 21 1 13"),
  (["gonm", "masaramgondi"],
    "72960 6 1 1 1 43 3 0 1 1 1 8 8 9"),
  (["medf", "medefaidrin"],
    "93760 90"),
  (["mtei", "meeteimayek"],
    "43744 22 201 45 2 9"),
  (["mend", "mendekikakui"],
    "124928 196 2 15"),
  (["merc", "meroiticcursive"],
    "68000 23 4 19 2 45"),
  (["mero", "meroitichieroglyphs"],
    "67968 31"),
  (["plrd", "miao"],
    "93952 74 4 56 7 16"),
  (["modi"],
    "71168 68 11 9"),
  (["mong", "mongolian"],
    "6144 1 2 0 1 19 6 88 7 42 64949 12"),
  (["mroo", "mro"],
    "92736 30 1 9 4 1"),
  (["mult", "multani"],
    "70272 6 1 0 1 3 1 14 1 10"),
  (["mymr", "myanmar"],
    "4096 159 39232 30 97 31 27728 19"),
  (["nbat", "nabataean"],
    "67712 30 8 8"),
  (["nagm", "nagmundari"],
    "124112 41"),
  (["nand", "nandinagari"],
    "72096 7 2 45 2 10"),
  (["talu", "newtailue"],
    "6528 43 4 25 6 10 3 1"),
  (["newa"],
    "70656 91 1 4"),
  (["nkoo", "nko"],
    "1984 58 2 2"),
  (["nshu", "nushu"],
    "94177 0 16782 395"),
  (["hmnp", "nyiakengpuachuehmong"],
    "123136 44 3 13 2 9 4 1"),
  (["ogam", "ogham"],
    "5760 28"),
  (["olck", "olchiki"],
    "7248 47"),
  (["onao", "olonal"],
    "124368 42 4 0"),
  (["hung", "oldhungarian"],
    "68736 50 13 50 7 5"),
  (["ital", "olditalic"],
    "66304 35 9 2"),
  (["narb", "oldnortharabian"],
    "68224 31"),
  (["perm", "oldpermic"],
    "66384 42"),
  (["xpeo", "oldpersian"],
    "66464 35 4 13"),
  (["sogo", "oldsogdian"],
    "69376 39"),
  (["sarb", "oldsoutharabian"],
    "68192 31"),
  (["orkh", "oldturkic"],
    "68608 72"),
  (["ougr", "olduyghur"],
    "69488 25"),
  (["orya", "oriya"],
    "2817 2 1 7 2 1 2 21 1 6 1 1 1 4 2 8 2 1 2 2 7 2 4 1 1 4 2 17"),
  (["osge", "osage"],
    "66736 35 4 35"),
  (["osma", "osmanya"],
    "66688 29 2 9"),
  (["hmng", "pahawhhmong"],
    "92928 69 10 9 1 6 1 20 5 18"),
  (["palm", "palmyrene"],
    "67680 31"),
  (["pauc", "paucinhau"],
    "72384 56"),
  (["phag", "phagspa"],
    "43072 55"),
  (["phnx", "phoenician"],
    "67840 27 3 0"),
  (["phlp", "psalterpahlavi"],
    "68480 17 7 3 12 6"),
  (["rjng", "rejang"],
    "43312 35 11 0"),
  (["runr", "runic"],
    "5792 74 3 10"),
  (["samr", "samaritan"],
    "2048 45 2 14"),
  (["saur", "saurashtra"],
    "43136 69 8 11"),
  (["shrd", "sharada"],
    "70016 95"),
  (["shaw", "shavian"],
    "66640 47"),
  (["sidd", "siddham"],
    "71040 53 2 37"),
  (["sgnw", "signwriting"],
    "120832 651 15 4 1 14"),
  (["sinh", "sinhala"],
    "3457 2 1 17 3 23 1 8 1 0 2 6 3 0 4 5 1 0 1 7 6 9 2 2 66540 19"),
  (["sogd", "sogdian"],
    "69424 41"),
  (["sora", "sorasompeng"],
    "69840 24 7 9"),
  (["soyo", "soyombo"],
    "72272 82"),
  (["sund", "sundanese"],
    "7040 63 256 7"),
  (["sunu", "sunuwar"],
    "72640 33 14 9"),
  (["sylo", "sylotinagri"],
    "43008 44"),
  (["syrc", "syriac"],
    "1792 13 1 59 2 2 272 10"),
  (["tglg", "tagalog"],
    "5888 21 9 0"),
  (["tagb", "tagbanwa"],
    "5984 12 1 2 1 1"),
  (["tale", "taile"],
    "6480 29 2 4"),
  (["lana", "taitham"],
    "6688 62 1 28 2 10 6 9 6 13"),
  (["tavt", "taiviet"],
    "43648 66 24 4"),
  (["takr", "takri"],
    "71296 57 6 9"),
  (["taml", "tamil"],
    "2946 1 1 5 3 2 1 3 3 1 1 0 1 1 3 1 3 2 3 11 4 4 3 2 1 3 2 0 6 0 14 20 70597 49 13 0"),
  (["tnsa", "tangsa"],
    "92784 78 1 9"),
  (["tang", "tangut"],
    "94176 0 31 6135 8 767 512 8"),
  (["telu", "telugu"],
    "3072 12 1 2 1 22 1 15 2 8 1 2 1 3 7 1 1 2 2 0 2 3 2 9 7 8"),
  (["thaa", "thaana"],
    "1920 49"),
  (["thai"],
    "3585 57 5 27"),
  (["tibt", "tibetan"],
    "3840 71 1 35 4 38 1 35 1 14 1 6 4 1"),
  (["tfng", "tifinagh"],
    "11568 55 7 1 14 0"),
  (["tirh", "tirhuta"],
    "70784 71 8 9"),
  (["todr", "todhri"],
    "67008 51"),
  (["toto"],
    "123536 30"),
  (["tutg", "tulutigalari"],
    "70528 9 1 0 2 0 1 37 1 9 1 0 2 0 1 3 1 9 1 1 8 1"),
  (["ugar", "ugaritic"],
    "66432 29 1 0"),
  (["vaii", "vai"],
    "42240 299"),
  (["vith", "vithkuqi"],
    "66928 10 1 14 1 6 1 1 1 10 1 14 1 6 1 1"),
  (["wcho", "wancho"],
    "123584 57 5 0"),
  (["wara", "warangciti"],
    "71840 82 12 0"),
  (["yezi", "yezidi"],
    "69248 41 1 2 2 1"),
  (["yiii", "yi"],
    "40960 1164 3 54"),
  (["zanb", "zanabazarsquare"],
    "72192 71")]

/-- The characters of a script. -/
def script? (name : String) : Option Table :=
  (scripts.find? fun entry => entry.1.contains name).map fun entry => Table.read entry.2

/-- The characters that scripts share: the names of the scripts, and those that each of them has besides
its own. -/
def sharedCharacters : List (String × String) := [
  ("adlm", "1567 0 32 0 6670 0 3569 0"),
  ("arab", "1548 0 14 0 3 0 32 0 10 10 26 0 6622 0 3569 0 52988 1 1440 27"),
  ("armn", "776 0"),
  ("avst", "183 0 11640 1"),
  ("beng", "700 0 1684 1 17 1 4970 0 1 0 2 1 1 0 8 0 8 0 2 0 4 0 2 2 35833 0"),
  ("bopo", "711 0 1 2 13 0 11559 2 4 9 1 12 10 3 2 0 6 0 195 0 52553 1 282 4"),
  ("bugi", "43471 0"),
  ("buhd", "5941 1"),
  ("cari", "183 0 8098 0 2 0 3539 0"),
  ("aghb", "772 0 44 0 44 0"),
  ("cakm", "2534 9 1616 9"),
  ("cher", "768 2 1 0 6 1 22 1 11 1"),
  ("copt", "183 0 584 0 3 1 1 0 108 1 10913 0 54472 27"),
  ("cprt", "65792 2 4 44 3 8"),
  ("cpmn", "65792 1"),
  ("cyrl", "700 0 67 2 1 0 1 0 1 0 2 0 5 0 371 1 6513 0 4170 0"),
  ("deva", "700 0 1684 1 17 1 4970 38 1 1 1014 0 34623 9"),
  ("dogr", "2404 11 40640 9"),
  ("dupl", "183 0 591 1 1 0 24 1 11031 0 101987 3"),
  ("elba", "183 0 589 0"),
  ("ethi", "782 0"),
  ("gara", "1548 0 14 0 3 0"),
  ("geor", "183 0 1233 0 2929 0 3934 0 3542 0"),
  ("glag", "183 0 587 0 1 0 382 0 2 0 257 0 2929 0 3934 0 3560 0 30763 0"),
  ("goth", "183 0 588 1 2 0 40 0"),
  ("gran", "2385 1 17 1 640 13 4316 0 1 1 30 2 3 1 1014 0 62026 0 3220 1 1 0"),
  ("grek", "183 0 584 1 2 0 1 0 1 0 10 0 46 0 2 0 46 0 6731 1 667 0"),
  ("gujr", "2385 1 17 1 40650 9"),
  ("gong", "183 0 2220 1"),
  ("guru", "2385 1 17 1 40650 9"),
  ("gukh", "2405 0"),
  ("hani", "183 0 12088 15 1 2 2 0 1 9 1 12 10 3 2 0 6 0 4 3 187 0 148 15 32 37 9 0 48 39 56 48 15 11 51 0
    88 24 10 4 96 30 29441 7 22333 1 282 4 54266 17 7902 1"),
  ("hang", "12289 2 4 9 1 12 16 0 6 0 195 0 52553 1 282 4"),
  ("rohg", "1548 0 14 0 3 0 32 0 147 0"),
  ("hano", "5941 1"),
  ("hebr", "775 1"),
  ("hira", "12289 2 4 9 1 12 16 5 1 0 4 1 91 3 3 0 90 1 52552 1 282 4 10 0 45 1"),
  ("java", "43471 0"),
  ("kthi", "2406 9 9409 0 31230 9"),
  ("knda", "2385 1 17 1 4970 0 1 1 6 0 23 0 1 0 35643 5"),
  ("kana", "773 0 29 0 11485 2 4 9 1 12 16 5 1 0 4 1 91 3 3 0 90 1 52552 1 282 4 10 0 45 1"),
  ("kali", "43310 0"),
  ("khoj", "2790 9 40256 9"),
  ("sind", "2404 1 40650 9"),
  ("latn", "183 0 516 0 10 0 1 2 1 0 9 0 1 0 38 14 1 1 1 0 15 2 7 1 1 1 38 0 5 0 4 12 277 1 1226 1 1960 0
    3324 0 566 0 192 0 3366 0 30952 7 550 0"),
  ("limb", "2405 0"),
  ("lina", "65799 44"),
  ("linb", "65792 2 4 44 3 8"),
  ("lisu", "700 0 16 0 11580 1"),
  ("lyci", "8282 0"),
  ("lydi", "183 0 11641 0"),
  ("mahj", "183 0 2220 11 40640 9"),
  ("mlym", "2385 1 17 1 4980 0 23 0 35645 2"),
  ("mand", "1600 0"),
  ("mani", "1600 0"),
  ("gonm", "2404 1"),
  ("mero", "8285 0"),
  ("modi", "43056 9"),
  ("mong", "6146 1 1 0 2089 0 4049 1 5 3"),
  ("mult", "2662 9"),
  ("mymr", "43310 0"),
  ("nand", "2385 0 18 1 896 9 4089 0 8 0 7 0 35637 5"),
  ("newa", "2385 1 4994 0 1 1 9 0 6 0 1 0 1 0"),
  ("nkoo", "1548 0 14 0 3 0 63262 1"),
  ("onao", "2404 1"),
  ("hung", "8282 0 2 0 3539 0 15 0"),
  ("perm", "183 0 584 0 5 2 10 0 367 0"),
  ("orkh", "8282 0 3541 0"),
  ("ougr", "1600 0 66737 0"),
  ("orya", "2385 1 17 1 4980 0 23 0"),
  ("osge", "769 0 2 0 6 0 76 0"),
  ("phag", "6146 1 1 0 2089 0 4050 0"),
  ("phlp", "1600 0"),
  ("runr", "5867 2"),
  ("samr", "11825 0"),
  ("shrd", "2385 0 4997 0 1 0 2 1 2 0 9 0 2 0 35650 5 2 0"),
  ("shaw", "183 0"),
  ("sinh", "2404 1 5004 0"),
  ("sogd", "1600 0"),
  ("sunu", "768 1 1 0 9 0 2 0 28 0 3 0"),
  ("sylo", "2404 1 128 9"),
  ("syrc", "771 1 2 1 1 0 24 2 7 1 1 1 730 0 14 1 2 0 32 0 10 10 26 0 6023 0 1 0"),
  ("tglg", "5941 1"),
  ("tagb", "5941 1"),
  ("tale", "768 1 5 1 3 0 3379 9"),
  ("takr", "2404 1 40650 9"),
  ("taml", "2385 1 17 1 4980 0 35864 0 27149 0 1 0 55 1"),
  ("tang", "12272 15 495 0"),
  ("telu", "2385 1 17 1 4975 1 1 0 1 0 23 0"),
  ("thaa", "1548 0 14 1 2 0 64 9 63368 0 10 0"),
  ("thai", "700 0 26 0 43 0 45 0"),
  ("tibt", "12296 3"),
  ("tfng", "770 0 1 0 1 3 25 0"),
  ("tirh", "2385 1 17 1 4975 0 12 0 15 0 35645 9"),
  ("todr", "769 0 2 0 2 0 9 0 1 0 74 0"),
  ("toto", "700 0"),
  ("tutg", "3302 9 4098 0 1 0 35643 5 187 0"),
  ("yezi", "1548 0 14 0 3 0 64 9"),
  ("yiii", "12289 1 5 9 2 7 223 0 52837 4")]

/-- The characters that a script has besides its own. -/
def sharedWith (name : String) : Table :=
  let entry? := (scripts.find? fun entry => entry.1.contains name).bind fun entry =>
    sharedCharacters.find? fun shared => entry.1.contains shared.1
  entry?.elim [] fun entry => Table.read entry.2

/-- The characters of more than one script. -/
def shared : Table := sharedCharacters.flatMap fun entry => Table.read entry.2

end HandlerMigration.Unicode
