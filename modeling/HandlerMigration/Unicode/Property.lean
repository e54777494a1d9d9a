import HandlerMigration.Unicode.Table

/-!
# Properties that a character has or has not
-/

namespace HandlerMigration.Unicode

/-- The properties: their names, without case and separators, and the characters that have them. -/
def properties : List (List String × String) := [
  (["alphabetic", "alpha"],
    "65 25 6 25 47 0 10 0 4 0 5 22 1 30 1 457 4 11 14 4 7 0 1 0 86 0 29 17 1 1 2 3 1 0 6 0 1 2 1 0
      1 19 1 82 1 138 8 165 1 37 2 0 6 40 39 13 1 0 1 1 1 1 1 0 8 26 4 3 29 10 5 55 1 6 14 101 1 7 4
      7 4 2 10 2 2 0 16 47 13 100 24 32 9 1 4 0 5 23 2 18 19 24 7 10 5 23 1 5 8 0 8 41 10 11 3 6 6
      75 1 15 1 2 4 14 13 18 1 7 2 1 2 21 1 6 1 0 3 3 3 7 2 1 2 1 1 0 8 0 4 1 1 4 12 1 10 0 4 2 1 5
      4 1 2 21 1 6 1 1 1 1 1 1 4 4 4 1 2 1 4 0 7 3 1 0 17 5 11 2 1 8 1 2 1 21 1 6 1 1 1 4 3 8 1 2 1
      1 3 0 15 3 21 3 4 2 1 7 2 1 2 21 1 6 1 1 1 4 3 7 2 1 2 1 9 1 4 1 1 4 13 0 16 1 1 5 3 2 1 3 3 1
      1 0 1 1 3 1 3 2 3 11 4 4 3 2 1 2 3 0 6 0 40 12 1 2 1 22 1 15 3 7 1 2 1 2 8 1 1 2 2 0 2 3 28 3
      1 7 1 2 1 22 1 9 1 4 3 7 1 2 1 2 8 1 6 1 1 3 13 2 12 12 1 2 1 40 2 7 1 2 1 2 1 0 5 3 7 4 22 5
      1 2 1 17 3 23 1 8 1 0 2 6 8 5 1 0 1 7 18 1 13 57 5 6 6 0 51 1 1 0 1 4 1 23 1 0 1 18 1 2 2 4 1
      0 6 0 14 3 32 0 63 7 1 35 4 18 4 15 1 35 67 54 1 0 2 4 16 63 10 3 2 37 1 0 5 0 2 42 1 332 1 3
      2 6 1 0 1 3 2 40 1 3 2 32 1 3 2 6 1 0 1 3 2 14 1 56 1 3 2 66 37 15 16 85 2 5 3 619 2 16 1 25 5
      74 3 10 7 19 11 20 12 19 12 12 1 2 1 1 12 51 2 18 14 0 4 0 67 88 7 42 5 69 10 30 1 11 4 8 23
      29 2 4 11 43 4 25 54 27 4 62 2 19 50 0 23 1 11 2 49 51 1 14 1 7 51 41 2 3 10 43 1 10 14 54 22
      2 10 35 2 10 5 42 2 2 41 3 1 5 1 1 3 0 5 191 19 33 11 277 2 5 2 37 2 5 2 7 1 0 1 0 1 0 1 30 2
      52 1 6 1 0 3 2 1 6 3 3 2 5 4 12 5 2 1 6 116 0 13 0 16 12 101 0 4 0 2 9 1 0 3 4 6 0 1 0 1 0 1 3
      1 10 2 3 5 4 4 0 17 40 813 51 1814 228 6 3 3 1 12 37 1 0 5 0 2 55 7 0 16 22 9 6 1 6 1 6 1 6 1
      6 1 6 1 6 1 6 1 31 47 0 469 2 25 8 7 4 2 4 4 85 6 2 1 89 1 3 5 42 1 93 17 31 48 15 512 6591 64
      22156 67 45 2 268 3 15 10 1 20 46 5 7 3 112 39 8 2 102 2 66 2 1 1 0 1 7 21 19 1 32 24 51 12 67
      1 0 44 5 3 0 1 2 10 32 5 34 13 28 3 50 1 11 15 0 16 15 10 4 1 54 9 13 18 22 3 68 1 0 1 0 24 2
      2 15 2 3 11 5 2 5 2 5 9 6 1 6 1 42 1 13 6 122 21 11171 12 22 4 48 8452 365 2 105 38 6 12 4 5
      11 1 12 1 4 1 0 1 1 1 1 1 107 33 362 18 63 2 53 40 11 116 4 1 134 36 25 6 25 11 88 3 5 2 5 2 5
      2 2 35 11 1 25 1 18 1 1 1 14 2 13 34 122 69 52 267 28 3 48 47 31 13 29 5 42 5 29 2 35 4 7 1 4
      42 157 18 35 4 35 4 39 8 51 12 10 1 14 1 6 1 1 1 10 1 14 1 6 1 1 3 51 12 310 9 21 10 7 24 5 1
      41 1 8 69 5 2 0 1 43 1 1 3 0 2 22 10 22 9 30 65 18 1 1 10 21 10 25 70 55 6 1 64 3 1 1 5 7 1 2
      1 28 42 28 3 28 35 7 1 27 27 53 10 21 10 18 13 17 110 72 55 50 13 50 13 39 34 27 3 0 5 22 250
      41 1 1 3 1 16 2 55 0 3 28 10 0 8 21 42 17 46 20 27 22 9 69 43 4 10 56 9 0 13 24 23 50 17 3 8
      34 3 0 9 63 1 3 9 1 10 0 1 0 35 17 1 33 2 0 6 3 62 6 1 0 1 3 1 14 1 9 7 56 23 3 1 7 2 1 2 21 1
      6 1 1 1 4 3 7 2 1 2 1 3 0 6 0 5 6 28 9 1 0 2 0 1 37 1 9 1 0 2 0 1 3 1 1 3 0 1 0 44 65 1 2 1 3
      20 2 30 65 2 1 1 0 184 53 2 6 25 5 34 62 1 0 3 0 59 53 2 0 71 26 2 13 21 6 185 56 103 63 31 7
      2 0 2 7 1 1 1 29 1 1 2 1 2 3 93 7 2 45 2 5 1 0 1 1 27 50 2 9 17 71 5 0 18 72 199 32 31 8 1 44
      1 6 1 0 49 29 2 21 1 13 73 6 1 1 1 43 3 0 1 1 1 2 1 0 2 1 24 5 1 1 1 36 1 1 1 3 1 0 327 22 9
      16 1 40 3 2 111 0 79 921 102 110 17 195 2636 96 15 1071 17 5 25 3994 5 582 6841 46 1745 568 7
      30 17 78 17 29 18 47 16 3 31 20 5 18 432 44 211 63 128 74 4 56 7 16 64 1 1 0 12 1 14 6135 8
      1237 41 9 8935 3 1 6 1 1 1 290 15 0 29 2 2 0 14 3 8 395 2308 106 5 12 3 8 7 9 4 0 5985 84 1 70
      1 1 2 0 2 1 2 3 1 11 1 0 1 6 1 64 1 3 2 7 1 6 1 27 1 3 1 4 1 0 3 6 1 339 2 24 1 24 1 30 1 24 1
      30 1 24 1 30 1 24 1 30 1 24 1 7 1844 30 6 5 213 6 1 16 2 6 1 1 1 4 5 61 33 0 112 44 10 6 16 0
      321 29 18 43 484 27 228 29 2 0 495 6 1 3 1 1 1 14 1 196 59 67 3 0 3 0 1204 3 1 26 1 1 1 0 2 0
      1 9 1 3 1 0 1 0 6 0 4 0 1 0 1 0 1 2 1 1 1 0 2 0 1 0 1 0 1 0 1 0 1 1 1 0 2 3 1 6 1 3 1 3 1 0 1
      9 1 16 5 2 1 4 1 16 628 25 6 25 6 25 3702 42719 32 4153 6 221 2 5761 14 7472 15 621 2466 541
      1506 4938 5 4191"),
  (["lowercase", "lower"],
    "97 25 47 0 10 0 4 0 36 23 1 7 1 0 1 0 1 0 1 0 1 0 1 0 1 0 1 0 1 0 1 0 1 0 1 0 1 0 1 0 1 0 1 0
      1 0 1 0 1 0 1 0 1 0 1 0 1 0 1 0 1 0 1 0 1 0 1 1 1 0 1 0 1 0 1 0 1 0 1 0 1 0 1 1 1 0 1 0 1 0 1
      0 1 0 1 0 1 0 1 0 1 0 1 0 1 0 1 0 1 0 1 0 1 0 1 0 1 0 1 0 1 0 1 0 1 0 1 0 1 0 2 0 1 0 1 2 2 0
      1 0 2 0 3 1 4 0 2 0 3 2 2 0 2 0 1 0 1 0 2 0 1 1 1 0 2 0 3 0 1 0 2 1 2 2 6 0 2 0 2 0 1 0 1 0 1
      0 1 0 1 0 1 0 1 0 1 1 1 0 1 0 1 0 1 0 1 0 1 0 1 0 1 0 1 1 2 0 1 0 3 0 1 0 1 0 1 0 1 0 1 0 1 0
      1 0 1 0 1 0 1 0 1 0 1 0 1 0 1 0 1 0 1 0 1 0 1 0 1 0 1 0 1 0 1 0 1 0 1 0 1 0 1 0 1 0 1 0 1 6 2
      0 2 1 1 0 4 0 1 0 1 0 1 0 1 68 2 34 7 1 30 4 96 0 43 0 1 0 3 0 2 3 18 0 27 34 1 1 3 2 1 0 1 0
      1 0 1 0 1 0 1 0 1 0 1 0 1 0 1 0 1 0 1 4 1 0 2 0 2 1 51 47 1 0 1 0 1 0 1 0 1 0 1 0 1 0 1 0 1 0
      1 0 1 0 1 0 1 0 1 0 1 0 1 0 1 0 9 0 1 0 1 0 1 0 1 0 1 0 1 0 1 0 1 0 1 0 1 0 1 0 1 0 1 0 1 0 1
      0 1 0 1 0 1 0 1 0 1 0 1 0 1 0 1 0 1 0 1 0 1 0 2 0 1 0 1 0 1 0 1 0 1 0 1 1 1 0 1 0 1 0 1 0 1 0
      1 0 1 0 1 0 1 0 1 0 1 0 1 0 1 0 1 0 1 0 1 0 1 0 1 0 1 0 1 0 1 0 1 0 1 0 1 0 1 0 1 0 1 0 1 0 1
      0 1 0 1 0 1 0 1 0 1 0 1 0 1 0 1 0 1 0 1 0 1 0 1 0 1 0 1 0 1 0 1 0 1 0 1 0 1 0 48 40 2887 42 1
      3 760 5 2178 8 1 0 117 191 65 0 1 0 1 0 1 0 1 0 1 0 1 0 1 0 1 0 1 0 1 0 1 0 1 0 1 0 1 0 1 0 1
      0 1 0 1 0 1 0 1 0 1 0 1 0 1 0 1 0 1 0 1 0 1 0 1 0 1 0 1 0 1 0 1 0 1 0 1 0 1 0 1 0 1 0 1 0 1 0
      1 0 1 0 1 0 1 0 1 0 1 0 1 0 1 0 1 0 1 0 1 0 1 0 1 0 1 0 1 0 1 0 1 0 1 0 1 0 1 0 1 0 1 0 1 0 1
      0 1 0 1 0 1 0 1 0 1 0 1 0 1 0 1 0 1 0 1 0 1 8 1 0 1 0 1 0 1 0 1 0 1 0 1 0 1 0 1 0 1 0 1 0 1 0
      1 0 1 0 1 0 1 0 1 0 1 0 1 0 1 0 1 0 1 0 1 0 1 0 1 0 1 0 1 0 1 0 1 0 1 0 1 0 1 0 1 0 1 0 1 0 1
      0 1 0 1 0 1 0 1 0 1 0 1 0 1 0 1 0 1 0 1 0 1 0 1 0 1 8 8 5 10 7 8 7 8 5 10 7 8 7 8 13 2 7 8 7 8
      7 8 4 1 1 6 0 3 2 1 1 8 3 2 1 8 7 10 2 1 1 121 0 13 0 16 12 109 0 3 1 3 0 27 0 4 0 4 0 2 1 8 3
      4 0 33 15 4 0 843 25 1862 47 1 0 3 1 1 0 1 0 1 0 4 0 1 1 1 7 3 0 1 0 1 0 1 0 1 0 1 0 1 0 1 0 1
      0 1 0 1 0 1 0 1 0 1 0 1 0 1 0 1 0 1 0 1 0 1 0 1 0 1 0 1 0 1 0 1 0 1 0 1 0 1 0 1 0 1 0 1 0 1 0
      1 0 1 0 1 0 1 0 1 0 1 0 1 0 1 0 1 0 1 0 1 0 1 0 1 0 1 0 1 0 1 0 1 0 1 1 7 0 1 0 4 0 12 37 1 0
      5 0 30995 0 1 0 1 0 1 0 1 0 1 0 1 0 1 0 1 0 1 0 1 0 1 0 1 0 1 0 1 0 1 0 1 0 1 0 1 0 1 0 1 0 1
      0 1 0 19 0 1 0 1 0 1 0 1 0 1 0 1 0 1 0 1 0 1 0 1 0 1 0 1 0 1 2 133 0 1 0 1 0 1 0 1 0 1 0 1 2 1
      0 1 0 1 0 1 0 1 0 1 0 1 0 1 0 1 0 1 0 1 0 1 0 1 0 1 0 1 0 1 0 1 0 1 0 1 0 1 0 1 0 1 0 1 0 1 0
      1 0 1 0 1 0 1 0 1 0 1 0 1 9 1 0 1 0 2 0 1 0 1 0 1 0 1 0 4 0 1 0 2 0 1 2 1 0 1 0 1 0 1 0 1 0 1
      0 1 0 1 0 1 0 1 0 5 0 5 0 1 0 1 0 1 0 1 0 1 0 1 0 1 0 4 0 1 0 2 0 3 0 1 0 1 0 1 0 1 0 1 0 22 2
      1 0 1 2 821 42 1 13 6 79 20288 6 12 4 1065 25 1229 39 136 35 155 10 1 14 1 6 1 1 451 0 2 2 1
      41 1 8 1285 50 125 21 2874 31 21888 31 26010 25 26 6 1 17 26 25 26 3 1 0 1 6 1 10 26 25 26 25
      26 25 26 25 26 25 26 25 26 25 26 25 26 27 28 24 1 5 26 24 1 5 26 24 1 5 26 24 1 5 26 24 1 5 1
      0 1844 9 1 19 6 5 261 61 2228 33"),
  (["uppercase", "upper"],
    "65 25 101 22 1 6 33 0 1 0 1 0 1 0 1 0 1 0 1 0 1 0 1 0 1 0 1 0 1 0 1 0 1 0 1 0 1 0 1 0 1 0 1 0
      1 0 1 0 1 0 1 0 1 0 1 0 1 0 1 0 1 0 2 0 1 0 1 0 1 0 1 0 1 0 1 0 1 0 2 0 1 0 1 0 1 0 1 0 1 0 1
      0 1 0 1 0 1 0 1 0 1 0 1 0 1 0 1 0 1 0 1 0 1 0 1 0 1 0 1 0 1 0 1 0 1 1 1 0 1 0 3 1 1 0 1 1 1 2
      2 3 1 1 1 2 3 1 1 1 1 0 1 0 1 1 1 0 2 0 1 1 1 2 1 0 1 1 3 0 7 0 2 0 2 0 2 0 1 0 1 0 1 0 1 0 1
      0 1 0 1 0 2 0 1 0 1 0 1 0 1 0 1 0 1 0 1 0 1 0 2 0 2 0 1 2 1 0 1 0 1 0 1 0 1 0 1 0 1 0 1 0 1 0
      1 0 1 0 1 0 1 0 1 0 1 0 1 0 1 0 1 0 1 0 1 0 1 0 1 0 1 0 1 0 1 0 1 0 1 0 1 0 1 0 7 1 1 1 2 0 1
      3 1 0 1 0 1 0 1 0 289 0 1 0 3 0 8 0 6 0 1 2 1 0 1 1 1 16 1 8 35 0 2 2 3 0 1 0 1 0 1 0 1 0 1 0
      1 0 1 0 1 0 1 0 1 0 1 0 5 0 2 0 1 1 2 50 48 0 1 0 1 0 1 0 1 0 1 0 1 0 1 0 1 0 1 0 1 0 1 0 1 0
      1 0 1 0 1 0 1 0 9 0 1 0 1 0 1 0 1 0 1 0 1 0 1 0 1 0 1 0 1 0 1 0 1 0 1 0 1 0 1 0 1 0 1 0 1 0 1
      0 1 0 1 0 1 0 1 0 1 0 1 0 1 0 1 1 1 0 1 0 1 0 1 0 1 0 1 0 2 0 1 0 1 0 1 0 1 0 1 0 1 0 1 0 1 0
      1 0 1 0 1 0 1 0 1 0 1 0 1 0 1 0 1 0 1 0 1 0 1 0 1 0 1 0 1 0 1 0 1 0 1 0 1 0 1 0 1 0 1 0 1 0 1
      0 1 0 1 0 1 0 1 0 1 0 1 0 1 0 1 0 1 0 1 0 1 0 1 0 1 0 1 0 1 0 2 37 2889 37 1 0 5 0 722 85 2195
      0 6 42 2 2 320 0 1 0 1 0 1 0 1 0 1 0 1 0 1 0 1 0 1 0 1 0 1 0 1 0 1 0 1 0 1 0 1 0 1 0 1 0 1 0 1
      0 1 0 1 0 1 0 1 0 1 0 1 0 1 0 1 0 1 0 1 0 1 0 1 0 1 0 1 0 1 0 1 0 1 0 1 0 1 0 1 0 1 0 1 0 1 0
      1 0 1 0 1 0 1 0 1 0 1 0 1 0 1 0 1 0 1 0 1 0 1 0 1 0 1 0 1 0 1 0 1 0 1 0 1 0 1 0 1 0 1 0 1 0 1
      0 1 0 1 0 1 0 1 0 1 0 1 0 1 0 9 0 1 0 1 0 1 0 1 0 1 0 1 0 1 0 1 0 1 0 1 0 1 0 1 0 1 0 1 0 1 0
      1 0 1 0 1 0 1 0 1 0 1 0 1 0 1 0 1 0 1 0 1 0 1 0 1 0 1 0 1 0 1 0 1 0 1 0 1 0 1 0 1 0 1 0 1 0 1
      0 1 0 1 0 1 0 1 0 1 0 1 0 1 0 1 0 1 0 9 7 8 5 10 7 8 7 8 5 11 0 1 0 1 0 1 0 8 7 72 3 12 3 12 3
      12 4 11 3 262 0 4 0 3 2 2 2 2 0 3 4 6 0 1 0 1 0 1 3 2 3 10 1 5 0 26 15 19 0 818 25 1840 47 48
      0 1 2 2 0 1 0 1 0 1 3 1 0 2 0 8 2 1 0 1 0 1 0 1 0 1 0 1 0 1 0 1 0 1 0 1 0 1 0 1 0 1 0 1 0 1 0
      1 0 1 0 1 0 1 0 1 0 1 0 1 0 1 0 1 0 1 0 1 0 1 0 1 0 1 0 1 0 1 0 1 0 1 0 1 0 1 0 1 0 1 0 1 0 1
      0 1 0 1 0 1 0 1 0 1 0 1 0 1 0 1 0 1 0 1 0 8 0 1 0 4 0 31053 0 1 0 1 0 1 0 1 0 1 0 1 0 1 0 1 0
      1 0 1 0 1 0 1 0 1 0 1 0 1 0 1 0 1 0 1 0 1 0 1 0 1 0 1 0 19 0 1 0 1 0 1 0 1 0 1 0 1 0 1 0 1 0 1
      0 1 0 1 0 1 0 1 0 135 0 1 0 1 0 1 0 1 0 1 0 1 0 3 0 1 0 1 0 1 0 1 0 1 0 1 0 1 0 1 0 1 0 1 0 1
      0 1 0 1 0 1 0 1 0 1 0 1 0 1 0 1 0 1 0 1 0 1 0 1 0 1 0 1 0 1 0 1 0 1 0 1 0 1 0 10 0 1 0 1 1 1 0
      1 0 1 0 1 0 4 0 1 0 2 0 1 0 3 0 1 0 1 0 1 0 1 0 1 0 1 0 1 0 1 0 1 0 1 4 1 4 1 0 1 0 1 0 1 0 1
      0 1 0 1 0 1 3 1 0 1 1 3 0 5 0 1 0 1 0 1 0 24 0 22315 25 1221 39 136 35 156 10 1 14 1 6 1 1
      1770 50 157 21 2874 31 21888 31 26016 25 26 25 26 25 26 0 1 1 2 0 2 1 2 3 1 7 26 25 26 1 1 3 2
      7 1 6 27 1 1 3 1 4 1 0 3 6 27 25 26 25 26 25 26 25 26 25 26 25 30 24 33 24 33 24 33 24 33 24
      33 0 4405 33 2062 25 6 25 6 25"),
  (["whitespace", "wspace", "space"],
    "9 4 18 0 100 0 26 0 5599 0 2431 10 29 1 5 0 47 0 4000 0"),
  (["cased"],
    "65 25 6 25 47 0 10 0 4 0 5 22 1 30 1 194 1 3 4 207 2 34 7 1 30 4 96 0 42 3 2 1 2 3 1 0 6 0 1 2
      1 0 1 19 1 82 1 138 8 165 1 37 9 40 2839 37 1 0 5 0 2 42 1 3 672 85 2 5 2178 10 5 42 2 2 64
      191 64 277 2 5 2 37 2 5 2 7 1 0 1 0 1 0 1 30 2 52 1 6 1 0 3 2 1 6 3 3 2 5 4 12 5 2 1 6 116 0
      13 0 16 12 101 0 4 0 2 9 1 0 3 4 6 0 1 0 1 0 1 3 1 5 4 0 2 3 5 4 4 0 17 31 3 1 817 51 1814 228
      6 3 3 1 12 37 1 0 5 0 30994 45 18 29 132 101 3 3 1 61 2 1 1 0 1 7 21 4 1 2 821 42 1 13 6 79
      20288 6 12 4 1033 25 6 25 1189 79 96 35 4 35 116 10 1 14 1 6 1 1 1 10 1 14 1 6 1 1 451 0 2 2 1
      41 1 8 1221 50 13 50 93 21 10 21 2842 63 21856 63 25984 84 1 70 1 1 2 0 2 1 2 3 1 11 1 0 1 6 1
      64 1 3 2 7 1 6 1 27 1 3 1 4 1 0 3 6 1 339 2 24 1 24 1 30 1 24 1 30 1 24 1 30 1 24 1 30 1 24 1
      7 1844 9 1 19 6 5 261 61 2194 67 2028 25 6 25 6 25"),
  (["dash"],
    "45 0 1372 0 51 0 3649 0 1029 0 2057 5 61 0 39 0 15 0 390 0 3076 0 2 0 31 1 4 0 28 0 446 0 19 0
      111 0 52624 1 37 0 10 0 169 0 3680 0 318 0"),
  (["emoji"],
    "35 0 6 0 5 9 111 0 4 0 8077 0 12 0 216 0 22 0 90 5 15 1 367 1 12 0 166 0 25 10 4 2 199 0 231 1
      10 0 9 0 58 3 1 4 9 0 2 0 2 1 2 0 4 0 2 0 1 1 2 0 3 0 3 1 8 2 5 0 1 0 5 11 11 1 2 0 1 1 1 0 18
      0 2 1 18 5 1 0 1 1 3 1 5 0 2 1 4 1 11 1 5 1 2 0 5 1 1 0 1 1 20 1 5 5 1 3 2 0 4 0 2 0 2 5 1 0 2
      0 1 0 1 0 6 0 3 0 6 0 10 1 15 0 2 0 4 0 1 0 4 2 1 0 11 1 48 2 9 0 14 0 14 0 372 1 463 2 19 1
      51 0 4 0 1242 0 12 0 601 0 1 0 114026 0 202 0 160 1 12 1 14 0 2 9 75 25 1 1 23 0 20 0 2 8 21 1
      174 33 2 111 2 1 1 2 2 82 2 2 1 262 1 62 11 5 1 23 7 1 2 7 12 0 2 3 2 0 4 1 13 1 2 0 8 1 9 0 5
      2 12 2 8 2 2 0 1 0 4 0 6 0 3 0 6 85 48 69 5 7 2 2 4 9 3 0 1 1 3 0 2 9 227 11 4 0 283 46 1 9 1
      184 112 12 3 9 5 55 7 14 2 10 6 8"),
  (["emojipresentation", "epres"],
    "8986 1 205 3 3 0 2 0 521 1 21 1 50 11 43 0 19 0 13 0 8 1 17 1 5 1 8 0 5 0 21 0 7 1 1 0 4 0 2 0
      7 0 4 1 28 0 35 0 1 0 4 2 1 0 61 2 24 0 14 0 859 1 51 0 4 0 115886 0 202 0 190 0 2 9 75 25 1 0
      24 0 20 0 2 4 1 2 21 1 174 32 12 8 1 69 1 21 12 42 4 4 12 16 3 0 3 70 1 0 1 186 2 62 13 3 1 23
      18 0 26 1 13 0 86 84 48 69 6 0 3 2 2 2 4 3 11 1 7 8 227 11 4 0 283 46 1 9 1 184 112 12 3 9 5
      55 7 14 2 10 6 8"),
  (["emojimodifier", "emod"],
    "127995 4"),
  (["emojicomponent", "ecomp"],
    "35 0 6 0 5 9 8147 0 213 0 56619 0 62422 25 507 4 1456 3 788076 95"),
  (["extendedpictographic", "extpict"],
    "169 0 4 0 8077 0 12 0 216 0 22 0 90 5 15 1 367 1 12 0 166 0 25 10 4 2 199 0 231 1 10 0 9 0 58
      3 1 4 9 0 2 0 2 1 2 0 4 0 2 0 1 1 2 0 3 0 3 1 8 2 5 0 1 0 5 11 11 1 2 0 1 1 1 0 18 0 2 1 18 5
      1 0 1 1 3 1 5 0 2 1 4 1 11 1 5 1 2 0 5 1 1 0 1 1 20 1 5 5 1 3 2 0 4 0 2 0 2 5 1 0 2 0 1 0 1 0
      6 0 3 0 6 0 10 1 15 0 2 0 4 0 1 0 4 2 1 0 11 1 48 2 9 0 14 0 14 0 372 1 463 2 19 1 51 0 4 0
      1242 0 12 0 601 0 1 0 114026 0 39 3 100 11 15 1 15 0 14 1 37 9 112 1 12 1 14 0 2 9 19 55 27 14
      10 0 20 0 2 8 1 3 9 22 6 187 2 111 2 1 1 2 2 82 2 2 1 3 5 253 1 62 11 5 1 23 7 1 2 7 12 0 2 3
      2 0 4 1 13 1 2 0 8 1 9 0 5 2 12 2 8 2 2 0 1 0 4 0 6 0 3 0 6 85 48 69 5 7 2 2 1 12 3 0 1 5 2 12
      218 37 12 3 56 7 10 5 40 7 30 1 12 3 2 13 9 38 12 46 1 9 1 184 88 7 14 27 1 2 1 56 1 3 1 27 1
      3 1 15 256 1021"),
  (["hexdigit", "hex"],
    "48 9 7 5 26 5 65193 9 7 5 26 5"),
  (["asciihexdigit", "ahex"],
    "48 9 7 5 26 5"),
  (["idstart", "ids"],
    "65 25 6 25 47 0 10 0 4 0 5 22 1 30 1 457 4 11 14 4 7 0 1 0 129 4 1 1 2 3 1 0 6 0 1 2 1 0 1 19
      1 82 1 138 8 165 1 37 2 0 6 40 71 26 4 3 45 42 35 1 1 98 1 0 15 1 7 1 10 2 2 0 16 0 1 29 29 88
      11 0 24 32 9 1 4 0 5 21 4 0 9 0 3 0 23 24 7 10 5 23 1 5 17 41 58 53 3 0 18 0 7 9 15 15 4 7 2 1
      2 21 1 6 1 0 3 3 3 0 16 0 13 1 1 2 14 1 10 0 8 5 4 1 2 21 1 6 1 1 1 1 1 1 31 3 1 0 19 2 16 8 1
      2 1 21 1 6 1 1 1 4 3 0 18 0 15 1 23 0 11 7 2 1 2 21 1 6 1 1 1 4 3 0 30 1 1 2 15 0 17 0 1 5 3 2
      1 3 3 1 1 0 1 1 3 1 3 2 3 11 22 0 52 7 1 2 1 22 1 15 3 0 26 2 2 0 2 1 30 0 4 7 1 2 1 22 1 9 1
      4 3 0 31 1 1 1 15 1 17 8 1 2 1 40 2 0 16 0 5 2 8 2 24 5 5 17 3 23 1 8 1 0 2 6 58 47 1 1 12 6
      58 1 1 0 1 4 1 23 1 0 1 9 1 1 9 0 2 4 1 0 21 3 32 0 63 7 1 35 27 4 115 42 20 0 16 5 4 3 3 0 3
      1 7 2 4 12 12 0 17 37 1 0 5 0 2 42 1 332 1 3 2 6 1 0 1 3 2 40 1 3 2 32 1 3 2 6 1 0 1 3 2 14 1
      56 1 3 2 66 37 15 16 85 2 5 3 619 2 16 1 25 5 74 3 10 7 17 13 18 14 17 14 12 1 2 15 51 35 0 4
      0 67 88 7 40 1 0 5 69 10 30 49 29 2 4 11 43 4 25 54 22 9 52 82 0 93 46 17 7 54 29 13 1 10 43
      26 35 41 2 10 35 2 10 5 42 2 2 41 3 1 5 1 1 3 0 5 191 64 277 2 5 2 37 2 5 2 7 1 0 1 0 1 0 1 30
      2 52 1 6 1 0 3 2 1 6 3 3 2 5 4 12 5 2 1 6 116 0 13 0 16 12 101 0 4 0 2 9 1 0 2 5 6 0 1 0 1 0 1
      15 2 3 5 4 4 0 17 40 2679 228 6 3 3 1 12 37 1 0 5 0 2 55 7 0 16 22 9 6 1 6 1 6 1 6 1 6 1 6 1 6
      1 6 550 2 25 8 7 4 2 4 4 85 4 4 1 89 1 3 5 42 1 93 17 31 48 15 512 6591 64 22156 67 45 2 268 3
      15 10 1 20 46 16 30 2 79 39 8 2 102 2 66 2 1 1 0 1 7 21 15 1 2 1 3 1 22 29 51 14 49 62 5 3 0 1
      1 11 27 10 22 25 28 7 46 28 0 16 4 1 9 10 4 1 40 23 2 1 7 20 22 3 0 3 49 1 0 3 1 2 4 2 0 1 0
      24 2 2 10 7 2 12 5 2 5 2 5 9 6 1 6 1 42 1 13 6 114 29 11171 12 22 4 48 8452 365 2 105 38 6 12
      4 5 0 1 9 1 12 1 4 1 0 1 1 1 1 1 107 33 362 18 63 2 53 40 11 116 4 1 134 36 25 6 25 11 88 3 5
      2 5 2 5 2 2 35 11 1 25 1 18 1 1 1 14 2 13 34 122 69 52 267 28 3 48 47 31 13 29 5 37 10 29 2 35
      4 7 1 4 42 157 18 35 4 35 4 39 8 51 12 10 1 14 1 6 1 1 1 10 1 14 1 6 1 1 3 51 12 310 9 21 10 7
      24 5 1 41 1 8 69 5 2 0 1 43 1 1 3 0 2 22 10 22 9 30 65 18 1 1 10 21 10 25 70 55 6 1 64 0 15 3
      1 2 1 28 42 28 3 28 35 7 1 27 27 53 10 21 10 18 13 17 110 72 55 50 13 50 13 35 38 27 9 22 250
      41 6 1 16 2 59 28 10 0 8 21 42 17 46 20 27 22 12 52 57 1 2 0 13 44 32 24 26 35 29 0 2 0 8 34 3
      0 12 47 14 3 21 0 1 0 35 17 1 24 19 1 63 6 1 0 1 3 1 14 1 9 7 46 38 7 2 1 2 21 1 6 1 1 1 4 3 0
      18 0 12 4 30 9 1 0 2 0 1 37 1 0 25 0 1 0 44 52 18 3 20 2 30 47 20 1 1 0 184 46 41 3 36 47 20 0
      59 42 13 0 71 26 37 6 185 43 116 63 31 7 2 0 2 7 1 1 1 23 15 0 1 0 94 7 2 38 16 0 1 0 28 0 10
      39 7 0 21 0 11 45 19 0 18 72 199 32 31 8 1 36 17 0 49 29 112 6 1 1 1 37 21 0 25 5 1 1 1 31 14
      0 327 18 15 0 1 12 1 33 124 0 79 921 102 110 17 195 2636 96 15 1071 17 5 25 3994 5 582 6841 29
      1762 568 7 30 17 78 17 29 18 47 16 3 31 20 5 18 432 44 211 63 128 74 5 0 66 12 64 1 1 0 28
      6135 8 1237 41 9 8935 3 1 6 1 1 1 290 15 0 29 2 2 0 14 3 8 395 2308 106 5 12 3 8 7 9 5990 84 1
      70 1 1 2 0 2 1 2 3 1 11 1 0 1 6 1 64 1 3 2 7 1 6 1 27 1 3 1 4 1 0 3 6 1 339 2 24 1 24 1 30 1
      24 1 30 1 24 1 30 1 24 1 30 1 24 1 7 1844 30 6 5 261 61 146 44 10 6 16 0 321 29 18 43 484 27
      228 29 2 0 495 6 1 3 1 1 1 14 1 196 59 67 7 0 1204 3 1 26 1 1 1 0 2 0 1 9 1 3 1 0 1 0 6 0 4 0
      1 0 1 0 1 2 1 1 1 0 2 0 1 0 1 0 1 0 1 0 1 1 1 0 2 3 1 6 1 3 1 3 1 0 1 9 1 16 5 2 1 4 1 16 4420
      42719 32 4153 6 221 2 5761 14 7472 15 621 2466 541 1506 4938 5 4191"),
  (["idcontinue", "idc"],
    "48 9 7 25 4 0 1 25 47 0 10 0 1 0 2 0 5 22 1 30 1 457 4 11 14 4 7 0 1 0 17 116 1 1 2 3 1 0 6 4
      1 0 1 19 1 82 1 138 1 4 2 165 1 37 2 0 6 40 8 44 1 0 1 1 1 1 1 0 8 26 4 3 29 10 5 73 4 101 1 7
      2 9 1 18 2 0 16 58 2 100 14 53 4 0 2 0 2 45 18 27 4 10 5 23 1 5 8 74 1 128 2 9 1 18 1 7 2 1 2
      21 1 6 1 0 3 3 2 8 2 1 2 3 8 0 4 1 1 4 2 11 10 0 1 0 2 2 1 5 4 1 2 21 1 6 1 1 1 1 1 1 2 0 1 4
      4 1 2 2 3 0 7 3 1 0 7 15 11 2 1 8 1 2 1 21 1 6 1 1 1 4 2 9 1 2 1 2 2 0 15 3 2 9 9 6 1 2 1 7 2
      1 2 21 1 6 1 1 1 4 2 8 2 1 2 2 7 2 4 1 1 4 2 9 1 0 16 1 1 5 3 2 1 3 3 1 1 0 1 1 3 1 3 2 3 11 4
      4 3 2 1 3 2 0 6 0 14 9 16 12 1 2 1 22 1 15 2 8 1 2 1 3 7 1 1 2 2 0 2 3 2 9 16 3 1 7 1 2 1 22 1
      9 1 4 2 8 1 2 1 3 7 1 6 1 1 3 2 9 1 2 12 12 1 2 1 50 1 2 1 4 5 3 7 4 2 9 10 5 1 2 1 17 3 23 1
      8 1 0 2 6 3 0 4 5 1 0 1 7 6 9 2 1 13 57 5 14 1 9 39 1 1 0 1 4 1 23 1 0 1 22 2 4 1 0 1 6 1 9 2
      3 32 0 23 1 6 9 11 0 1 0 1 0 4 9 1 35 4 19 1 17 1 35 9 0 57 73 6 77 2 37 1 0 5 0 2 42 1 332 1
      3 2 6 1 0 1 3 2 40 1 3 2 32 1 3 2 6 1 0 1 3 2 14 1 56 1 3 2 66 2 2 9 8 14 15 16 85 2 5 3 619 2
      16 1 25 5 74 3 10 7 21 9 21 11 19 12 12 1 2 1 1 12 83 3 0 4 1 2 9 33 2 1 10 6 88 7 42 5 69 10
      30 1 11 4 11 10 39 2 4 11 43 4 25 6 10 37 27 4 62 1 28 2 10 6 9 13 0 8 13 1 15 49 76 3 9 17 8
      12 115 12 55 8 9 3 48 2 10 5 42 2 2 16 2 1 38 5 533 2 5 2 37 2 5 2 7 1 0 1 0 1 0 1 30 2 52 1 6
      1 0 3 2 1 6 3 3 2 5 4 12 5 2 1 6 15 1 49 1 19 0 28 0 13 0 16 12 51 12 4 0 3 11 17 0 4 0 2 9 1
      0 2 5 6 0 1 0 1 0 1 15 2 3 5 4 4 0 17 40 2679 228 6 8 12 37 1 0 5 0 2 55 7 0 15 23 9 6 1 6 1 6
      1 6 1 6 1 6 1 6 1 6 1 31 517 2 25 14 1 4 2 4 4 85 2 6 1 94 5 42 1 93 17 31 48 15 512 6591 64
      22156 67 45 2 268 3 27 20 47 4 9 1 114 37 8 2 102 2 66 2 1 1 0 1 7 21 53 4 0 19 51 12 69 10 9
      6 23 3 0 1 48 2 35 12 28 3 64 14 10 6 30 1 54 9 13 2 9 6 22 3 72 24 2 2 15 2 4 10 5 2 5 2 5 9
      6 1 6 1 42 1 13 6 122 1 1 2 9 6 11171 12 22 4 48 8452 365 2 105 38 6 12 4 5 11 1 12 1 4 1 0 1
      1 1 1 1 107 33 362 18 63 2 53 40 11 4 15 16 15 3 1 24 2 32 4 1 134 19 9 7 25 4 0 1 25 10 89 3
      5 2 5 2 5 2 2 35 11 1 25 1 18 1 1 1 14 2 13 34 122 69 52 136 0 130 28 3 48 15 0 31 31 13 29 5
      42 5 29 2 35 4 7 1 4 42 157 2 9 6 35 4 35 4 39 8 51 12 10 1 14 1 6 1 1 1 10 1 14 1 6 1 1 3 51
      12 310 9 21 10 7 24 5 1 41 1 8 69 5 2 0 1 43 1 1 3 0 2 22 10 22 9 30 65 18 1 1 10 21 10 25 70
      55 6 1 64 3 1 1 5 7 1 2 1 28 2 2 4 0 32 28 3 28 35 7 1 29 25 53 10 21 10 18 13 17 110 72 55 50
      13 50 13 39 8 9 6 37 3 4 1 22 250 41 1 1 3 1 16 2 55 32 10 0 8 32 31 21 42 20 27 22 9 70 31 15
      9 59 7 0 13 24 7 9 6 52 1 9 4 3 8 35 2 0 9 68 4 3 1 12 1 0 35 17 1 36 6 3 62 6 1 0 1 3 1 14 1
      9 7 58 5 9 6 3 1 7 2 1 2 21 1 6 1 1 1 4 1 9 2 1 2 2 2 0 6 0 5 6 2 6 3 4 11 9 1 0 2 0 1 37 1 9
      1 0 2 0 1 3 1 7 13 1 29 74 5 9 4 3 30 69 1 0 8 9 166 53 2 8 23 5 34 64 3 0 11 9 38 56 7 9 6 19
      28 26 2 14 4 9 6 6 185 58 101 73 21 7 2 0 2 7 1 1 1 29 1 1 2 8 12 9 70 7 2 45 2 7 1 1 27 62 8
      0 8 73 3 0 18 72 199 32 15 9 6 8 1 44 1 8 15 9 24 29 2 21 1 13 73 6 1 1 1 43 3 0 1 1 1 8 8 9 6
      5 1 1 1 36 1 1 1 5 7 9 310 22 9 16 1 40 3 4 13 10 85 0 79 921 102 110 17 195 2636 96 15 1071
      16 21 10 3994 5 582 6841 57 1734 568 7 30 1 9 6 78 1 9 6 29 2 4 11 54 9 3 12 9 9 20 5 18 432
      44 3 9 198 63 128 74 4 56 7 16 64 1 1 1 11 1 14 6135 8 1237 41 9 8935 3 1 6 1 1 1 290 15 0 29
      2 2 0 14 3 8 395 2308 106 5 12 3 8 7 9 3 1 4177 9 518 45 2 22 542 4 3 5 8 7 2 6 30 3 148 2 443
      84 1 70 1 1 2 0 2 1 2 3 1 11 1 0 1 6 1 64 1 3 2 7 1 6 1 27 1 3 1 4 1 0 3 6 1 339 2 24 1 24 1
      30 1 24 1 30 1 24 1 30 1 24 1 30 1 24 1 7 2 49 512 54 4 49 8 0 14 0 22 4 1 14 1104 30 6 5 213
      6 1 16 2 6 1 1 1 4 5 61 33 0 112 44 3 13 2 9 4 0 321 30 17 57 470 41 214 42 485 6 1 3 1 1 1 14
      1 196 11 6 41 75 4 9 1190 3 1 26 1 1 1 0 2 0 1 9 1 3 1 0 1 0 6 0 4 0 1 0 1 0 1 2 1 1 1 0 2 0 1
      0 1 0 1 0 1 0 1 1 1 0 2 3 1 6 1 3 1 3 1 0 1 9 1 16 5 2 1 4 1 16 3380 9 1030 42719 32 4153 6
      221 2 5761 14 7472 15 621 2466 541 1506 4938 5 4191 712016 239"),
  (["xidstart", "xids"],
    "65 25 6 25 47 0 10 0 4 0 5 22 1 30 1 457 4 11 14 4 7 0 1 0 129 4 1 1 3 2 1 0 6 0 1 2 1 0 1 19
      1 82 1 138 8 165 1 37 2 0 6 40 71 26 4 3 45 42 35 1 1 98 1 0 15 1 7 1 10 2 2 0 16 0 1 29 29 88
      11 0 24 32 9 1 4 0 5 21 4 0 9 0 3 0 23 24 7 10 5 23 1 5 17 41 58 53 3 0 18 0 7 9 15 15 4 7 2 1
      2 21 1 6 1 0 3 3 3 0 16 0 13 1 1 2 14 1 10 0 8 5 4 1 2 21 1 6 1 1 1 1 1 1 31 3 1 0 19 2 16 8 1
      2 1 21 1 6 1 1 1 4 3 0 18 0 15 1 23 0 11 7 2 1 2 21 1 6 1 1 1 4 3 0 30 1 1 2 15 0 17 0 1 5 3 2
      1 3 3 1 1 0 1 1 3 1 3 2 3 11 22 0 52 7 1 2 1 22 1 15 3 0 26 2 2 0 2 1 30 0 4 7 1 2 1 22 1 9 1
      4 3 0 31 1 1 1 15 1 17 8 1 2 1 40 2 0 16 0 5 2 8 2 24 5 5 17 3 23 1 8 1 0 2 6 58 47 1 0 13 6
      58 1 1 0 1 4 1 23 1 0 1 9 1 0 10 0 2 4 1 0 21 3 32 0 63 7 1 35 27 4 115 42 20 0 16 5 4 3 3 0 3
      1 7 2 4 12 12 0 17 37 1 0 5 0 2 42 1 332 1 3 2 6 1 0 1 3 2 40 1 3 2 32 1 3 2 6 1 0 1 3 2 14 1
      56 1 3 2 66 37 15 16 85 2 5 3 619 2 16 1 25 5 74 3 10 7 17 13 18 14 17 14 12 1 2 15 51 35 0 4
      0 67 88 7 40 1 0 5 69 10 30 49 29 2 4 11 43 4 25 54 22 9 52 82 0 93 46 17 7 54 29 13 1 10 43
      26 35 41 2 10 35 2 10 5 42 2 2 41 3 1 5 1 1 3 0 5 191 64 277 2 5 2 37 2 5 2 7 1 0 1 0 1 0 1 30
      2 52 1 6 1 0 3 2 1 6 3 3 2 5 4 12 5 2 1 6 116 0 13 0 16 12 101 0 4 0 2 9 1 0 2 5 6 0 1 0 1 0 1
      15 2 3 5 4 4 0 17 40 2679 228 6 3 3 1 12 37 1 0 5 0 2 55 7 0 16 22 9 6 1 6 1 6 1 6 1 6 1 6 1 6
      1 6 550 2 25 8 7 4 2 4 4 85 6 2 1 89 1 3 5 42 1 93 17 31 48 15 512 6591 64 22156 67 45 2 268 3
      15 10 1 20 46 16 30 2 79 39 8 2 102 2 66 2 1 1 0 1 7 21 15 1 2 1 3 1 22 29 51 14 49 62 5 3 0 1
      1 11 27 10 22 25 28 7 46 28 0 16 4 1 9 10 4 1 40 23 2 1 7 20 22 3 0 3 49 1 0 3 1 2 4 2 0 1 0
      24 2 2 10 7 2 12 5 2 5 2 5 9 6 1 6 1 42 1 13 6 114 29 11171 12 22 4 48 8452 365 2 105 38 6 12
      4 5 0 1 9 1 12 1 4 1 0 1 1 1 1 1 107 33 138 6 217 18 63 2 53 40 9 119 0 1 0 3 0 1 0 1 0 1 0 1
      125 36 25 6 25 11 55 2 30 3 5 2 5 2 5 2 2 35 11 1 25 1 18 1 1 1 14 2 13 34 122 69 52 267 28 3
      48 47 31 13 29 5 37 10 29 2 35 4 7 1 4 42 157 18 35 4 35 4 39 8 51 12 10 1 14 1 6 1 1 1 10 1
      14 1 6 1 1 3 51 12 310 9 21 10 7 24 5 1 41 1 8 69 5 2 0 1 43 1 1 3 0 2 22 10 22 9 30 65 18 1 1
      10 21 10 25 70 55 6 1 64 0 15 3 1 2 1 28 42 28 3 28 35 7 1 27 27 53 10 21 10 18 13 17 110 72
      55 50 13 50 13 35 38 27 9 22 250 41 6 1 16 2 59 28 10 0 8 21 42 17 46 20 27 22 12 52 57 1 2 0
      13 44 32 24 26 35 29 0 2 0 8 34 3 0 12 47 14 3 21 0 1 0 35 17 1 24 19 1 63 6 1 0 1 3 1 14 1 9
      7 46 38 7 2 1 2 21 1 6 1 1 1 4 3 0 18 0 12 4 30 9 1 0 2 0 1 37 1 0 25 0 1 0 44 52 18 3 20 2 30
      47 20 1 1 0 184 46 41 3 36 47 20 0 59 42 13 0 71 26 37 6 185 43 116 63 31 7 2 0 2 7 1 1 1 23
      15 0 1 0 94 7 2 38 16 0 1 0 28 0 10 39 7 0 21 0 11 45 19 0 18 72 199 32 31 8 1 36 17 0 49 29
      112 6 1 1 1 37 21 0 25 5 1 1 1 31 14 0 327 18 15 0 1 12 1 33 124 0 79 921 102 110 17 195 2636
      96 15 1071 17 5 25 3994 5 582 6841 29 1762 568 7 30 17 78 17 29 18 47 16 3 31 20 5 18 432 44
      211 63 128 74 5 0 66 12 64 1 1 0 28 6135 8 1237 41 9 8935 3 1 6 1 1 1 290 15 0 29 2 2 0 14 3 8
      395 2308 106 5 12 3 8 7 9 5990 84 1 70 1 1 2 0 2 1 2 3 1 11 1 0 1 6 1 64 1 3 2 7 1 6 1 27 1 3
      1 4 1 0 3 6 1 339 2 24 1 24 1 30 1 24 1 30 1 24 1 30 1 24 1 30 1 24 1 7 1844 30 6 5 261 61 146
      44 10 6 16 0 321 29 18 43 484 27 228 29 2 0 495 6 1 3 1 1 1 14 1 196 59 67 7 0 1204 3 1 26 1 1
      1 0 2 0 1 9 1 3 1 0 1 0 6 0 4 0 1 0 1 0 1 2 1 1 1 0 2 0 1 0 1 0 1 0 1 0 1 1 1 0 2 3 1 6 1 3 1
      3 1 0 1 9 1 16 5 2 1 4 1 16 4420 42719 32 4153 6 221 2 5761 14 7472 15 621 2466 541 1506 4938
      5 4191"),
  (["xidcontinue", "xidc"],
    "48 9 7 25 4 0 1 25 47 0 10 0 1 0 2 0 5 22 1 30 1 457 4 11 14 4 7 0 1 0 17 116 1 1 3 2 1 0 6 4
      1 0 1 19 1 82 1 138 1 4 2 165 1 37 2 0 6 40 8 44 1 0 1 1 1 1 1 0 8 26 4 3 29 10 5 73 4 101 1 7
      2 9 1 18 2 0 16 58 2 100 14 53 4 0 2 0 2 45 18 27 4 10 5 23 1 5 8 74 1 128 2 9 1 18 1 7 2 1 2
      21 1 6 1 0 3 3 2 8 2 1 2 3 8 0 4 1 1 4 2 11 10 0 1 0 2 2 1 5 4 1 2 21 1 6 1 1 1 1 1 1 2 0 1 4
      4 1 2 2 3 0 7 3 1 0 7 15 11 2 1 8 1 2 1 21 1 6 1 1 1 4 2 9 1 2 1 2 2 0 15 3 2 9 9 6 1 2 1 7 2
      1 2 21 1 6 1 1 1 4 2 8 2 1 2 2 7 2 4 1 1 4 2 9 1 0 16 1 1 5 3 2 1 3 3 1 1 0 1 1 3 1 3 2 3 11 4
      4 3 2 1 3 2 0 6 0 14 9 16 12 1 2 1 22 1 15 2 8 1 2 1 3 7 1 1 2 2 0 2 3 2 9 16 3 1 7 1 2 1 22 1
      9 1 4 2 8 1 2 1 3 7 1 6 1 1 3 2 9 1 2 12 12 1 2 1 50 1 2 1 4 5 3 7 4 2 9 10 5 1 2 1 17 3 23 1
      8 1 0 2 6 3 0 4 5 1 0 1 7 6 9 2 1 13 57 5 14 1 9 39 1 1 0 1 4 1 23 1 0 1 22 2 4 1 0 1 6 1 9 2
      3 32 0 23 1 6 9 11 0 1 0 1 0 4 9 1 35 4 19 1 17 1 35 9 0 57 73 6 77 2 37 1 0 5 0 2 42 1 332 1
      3 2 6 1 0 1 3 2 40 1 3 2 32 1 3 2 6 1 0 1 3 2 14 1 56 1 3 2 66 2 2 9 8 14 15 16 85 2 5 3 619 2
      16 1 25 5 74 3 10 7 21 9 21 11 19 12 12 1 2 1 1 12 83 3 0 4 1 2 9 33 2 1 10 6 88 7 42 5 69 10
      30 1 11 4 11 10 39 2 4 11 43 4 25 6 10 37 27 4 62 1 28 2 10 6 9 13 0 8 13 1 15 49 76 3 9 17 8
      12 115 12 55 8 9 3 48 2 10 5 42 2 2 16 2 1 38 5 533 2 5 2 37 2 5 2 7 1 0 1 0 1 0 1 30 2 52 1 6
      1 0 3 2 1 6 3 3 2 5 4 12 5 2 1 6 15 1 49 1 19 0 28 0 13 0 16 12 51 12 4 0 3 11 17 0 4 0 2 9 1
      0 2 5 6 0 1 0 1 0 1 15 2 3 5 4 4 0 17 40 2679 228 6 8 12 37 1 0 5 0 2 55 7 0 15 23 9 6 1 6 1 6
      1 6 1 6 1 6 1 6 1 6 1 31 517 2 25 14 1 4 2 4 4 85 2 1 2 2 1 94 5 42 1 93 17 31 48 15 512 6591
      64 22156 67 45 2 268 3 27 20 47 4 9 1 114 37 8 2 102 2 66 2 1 1 0 1 7 21 53 4 0 19 51 12 69 10
      9 6 23 3 0 1 48 2 35 12 28 3 64 14 10 6 30 1 54 9 13 2 9 6 22 3 72 24 2 2 15 2 4 10 5 2 5 2 5
      9 6 1 6 1 42 1 13 6 122 1 1 2 9 6 11171 12 22 4 48 8452 365 2 105 38 6 12 4 5 11 1 12 1 4 1 0
      1 1 1 1 1 107 33 138 6 217 18 63 2 53 40 9 6 15 16 15 3 1 24 2 33 0 1 0 3 0 1 0 1 0 1 0 1 125
      19 9 7 25 4 0 1 25 10 89 3 5 2 5 2 5 2 2 35 11 1 25 1 18 1 1 1 14 2 13 34 122 69 52 136 0 130
      28 3 48 15 0 31 31 13 29 5 42 5 29 2 35 4 7 1 4 42 157 2 9 6 35 4 35 4 39 8 51 12 10 1 14 1 6
      1 1 1 10 1 14 1 6 1 1 3 51 12 310 9 21 10 7 24 5 1 41 1 8 69 5 2 0 1 43 1 1 3 0 2 22 10 22 9
      30 65 18 1 1 10 21 10 25 70 55 6 1 64 3 1 1 5 7 1 2 1 28 2 2 4 0 32 28 3 28 35 7 1 29 25 53 10
      21 10 18 13 17 110 72 55 50 13 50 13 39 8 9 6 37 3 4 1 22 250 41 1 1 3 1 16 2 55 32 10 0 8 32
      31 21 42 20 27 22 9 70 31 15 9 59 7 0 13 24 7 9 6 52 1 9 4 3 8 35 2 0 9 68 4 3 1 12 1 0 35 17
      1 36 6 3 62 6 1 0 1 3 1 14 1 9 7 58 5 9 6 3 1 7 2 1 2 21 1 6 1 1 1 4 1 9 2 1 2 2 2 0 6 0 5 6 2
      6 3 4 11 9 1 0 2 0 1 37 1 9 1 0 2 0 1 3 1 7 13 1 29 74 5 9 4 3 30 69 1 0 8 9 166 53 2 8 23 5
      34 64 3 0 11 9 38 56 7 9 6 19 28 26 2 14 4 9 6 6 185 58 101 73 21 7 2 0 2 7 1 1 1 29 1 1 2 8
      12 9 70 7 2 45 2 7 1 1 27 62 8 0 8 73 3 0 18 72 199 32 15 9 6 8 1 44 1 8 15 9 24 29 2 21 1 13
      73 6 1 1 1 43 3 0 1 1 1 8 8 9 6 5 1 1 1 36 1 1 1 5 7 9 310 22 9 16 1 40 3 4 13 10 85 0 79 921
      102 110 17 195 2636 96 15 1071 16 21 10 3994 5 582 6841 57 1734 568 7 30 1 9 6 78 1 9 6 29 2 4
      11 54 9 3 12 9 9 20 5 18 432 44 3 9 198 63 128 74 4 56 7 16 64 1 1 1 11 1 14 6135 8 1237 41 9
      8935 3 1 6 1 1 1 290 15 0 29 2 2 0 14 3 8 395 2308 106 5 12 3 8 7 9 3 1 4177 9 518 45 2 22 542
      4 3 5 8 7 2 6 30 3 148 2 443 84 1 70 1 1 2 0 2 1 2 3 1 11 1 0 1 6 1 64 1 3 2 7 1 6 1 27 1 3 1
      4 1 0 3 6 1 339 2 24 1 24 1 30 1 24 1 30 1 24 1 30 1 24 1 30 1 24 1 7 2 49 512 54 4 49 8 0 14
      0 22 4 1 14 1104 30 6 5 213 6 1 16 2 6 1 1 1 4 5 61 33 0 112 44 3 13 2 9 4 0 321 30 17 57 470
      41 214 42 485 6 1 3 1 1 1 14 1 196 11 6 41 75 4 9 1190 3 1 26 1 1 1 0 2 0 1 9 1 3 1 0 1 0 6 0
      4 0 1 0 1 0 1 2 1 1 1 0 2 0 1 0 1 0 1 0 1 0 1 1 1 0 2 3 1 6 1 3 1 3 1 0 1 9 1 16 5 2 1 4 1 16
      3380 9 1030 42719 32 4153 6 221 2 5761 14 7472 15 621 2466 541 1506 4938 5 4191 712016 239"),
  (["ideographic", "ideo"],
    "12294 1 25 8 14 2 965 6591 64 20991 22784 365 2 105 29962 0 27 6135 8 1237 41 9 9319 395 19716
      42719 32 4153 6 221 2 5761 14 7472 15 621 2466 541 1506 4938 5 4191"),
  (["math"],
    "43 0 16 2 31 0 29 0 1 0 45 0 4 0 37 0 31 0 728 2 2 0 26 1 2 2 527 2 6669 0 27 2 11 0 3 0 13 0
      14 3 21 4 11 4 65 12 4 0 3 1 4 4 18 0 4 0 2 9 1 0 2 5 6 0 3 1 2 1 1 2 1 5 3 13 1 0 68 23 1 5 1
      1 4 1 4 31 1 0 6 1 14 267 8 3 20 1 90 0 30 26 1 0 24 0 11 6 445 1 12 9 4 5 4 1 2 1 3 4 14 0 1
      0 2 5 11 7 5 1 57 0 1 0 29 3 9 2 336 63 256 511 48 20 2 5 53212 0 823 5 1 0 162 0 16 2 29 0 1
      0 29 0 1 0 131 0 6 3 3489 1 50800 84 1 70 1 1 2 0 2 1 2 3 1 11 1 0 1 6 1 64 1 3 2 7 1 6 1 27 1
      3 1 4 1 0 3 6 1 339 2 291 2 49 5632 3 1 26 1 1 1 0 2 0 1 9 1 3 1 0 1 0 6 0 4 0 1 0 1 0 1 2 1 1
      1 0 2 0 1 0 1 0 1 0 1 0 1 1 1 0 2 3 1 6 1 3 1 3 1 0 1 9 1 16 5 2 1 4 1 16 52 1"),
  (["quotationmark", "qmark"],
    "34 0 4 0 131 0 15 0 8028 7 25 1 3591 0 457 3 13 2 52769 3 189 0 4 0 90 1"),
  (["joincontrol", "joinc"],
    "8204 1"),
  (["diacritic", "dia"],
    "94 0 1 0 71 0 6 0 4 0 2 1 503 158 1 7 5 5 17 1 4 0 9 1 253 4 209 0 55 44 1 0 1 1 1 1 1 0 131 7
      4 1 134 1 4 1 3 2 67 26 91 10 58 10 34 1 126 7 41 9 16 27 61 0 16 0 3 3 28 0 74 0 16 0 110 0
      16 0 110 0 16 0 47 2 60 0 16 0 7 0 119 0 110 0 16 0 110 0 16 0 109 1 16 0 124 0 111 0 12 5 1 0
      107 0 13 4 75 1 27 0 1 0 1 0 4 1 66 2 1 1 62 0 112 0 1 1 40 1 4 4 25 6 1 0 10 1 705 2 948 1 30
      0 148 10 9 0 347 2 292 0 20 7 2 0 48 14 2 10 104 0 15 0 38 8 54 1 58 0 11 1 66 1 64 5 82 24 4
      0 6 0 2 2 50 62 48 35 5 11 37 10 445 0 1 2 11 2 13 2 13 2 13 1 3312 2 317 0 506 5 105 3 95 0
      30066 0 12 1 1 0 28 1 82 1 14 33 102 2 109 1 12 0 37 0 151 0 27 17 57 3 36 0 95 0 12 0 36 0
      149 2 65 3 51 0 100 4 9 2 128 1 20272 0 769 15 270 0 1 0 47 0 45 1 67 0 764 0 1183 5 1 41 1 8
      637 2 4 0 165 1 571 5 38 0 26 4 399 2 70 10 49 3 192 0 41 0 72 1 120 1 62 0 76 0 9 2 104 1 178
      1 80 1 16 0 24 6 3 4 89 2 1 1 13 1 95 0 3 0 123 1 251 1 126 0 118 1 115 0 269 1 258 1 4 0 156
      0 83 0 18 0 81 0 421 0 258 0 1 1 81 0 425 1 23 0 5356 14 11481 0 2496 4 59 6 564 1 546 16 80 1
      16382 3 1 6 1 1 7937 45 2 22 544 2 3 5 8 7 2 6 30 3 3714 61 194 6 375 0 61 3 766 1 736 6 109 2
      1 2"),
  (["extender", "ext"],
    "183 0 536 1 878 0 441 0 630 0 137 0 89 0 752 0 127 0 2371 0 56 0 611 0 398 0 68 0 5001 0 43 4
      103 1 93 2 28438 0 1526 0 962 0 22 0 137 0 108 0 21 1 21627 0 2064 1 1483 0 27 0 4 0 1223 0
      293 0 116 1 498 2 1231 0 20649 1 1180 1 1 0 29016 1 1201 0 852 2"),
  (["defaultignorablecodepoint", "di"],
    "173 0 673 0 716 0 2882 1 1619 1 85 4 2043 4 26 4 49 15 4340 0 52379 15 239 0 160 0 79 8 48295
      3 5327 7 798341 4095"),
  (["patternwhitespace", "patws"],
    "9 4 18 0 100 0 8072 1 24 1"),
  (["patternsyntax", "patsyn"],
    "33 14 10 6 26 3 1 0 26 3 34 6 1 0 1 1 1 0 1 1 4 0 4 0 3 0 23 0 31 0 7960 23 8 14 2 18 1 9 305
      719 160 629 30 1025 1 104 512 127 385 2 4 24 15 0 52493 1 261 1"),
  (["noncharactercodepoint", "nchar"],
    "64976 31 526 1 65534 1 65534 1 65534 1 65534 1 65534 1 65534 1 65534 1 65534 1 65534 1 65534 1
      65534 1 65534 1 65534 1 65534 1 65534 1 65534 1"),
  (["regionalindicator", "ri"],
    "127462 25"),
  (["terminalpunctuation", "term"],
    "33 0 10 0 1 0 11 1 3 0 830 0 8 0 513 0 57 0 72 0 14 0 1 2 180 0 43 10 1 0 235 1 54 5 1 7 31 0
      261 1 1268 1 172 0 4 5 311 1 789 7 773 0 124 2 71 1 157 2 3 0 39 3 2 1 314 1 354 3 162 1 10 1
      1 2 29 2 187 4 62 1 932 0 23 1 9 2 3247 2 306 0 13 0 4 0 10 0 1 1 3 1 428 1 29947 1 269 2 227
      4 382 1 86 1 95 0 151 2 147 2 127 0 16 1 249 0 21030 0 2 1 57 2 1 3 169 0 10 0 1 0 11 1 3 0 65
      0 2 0 1082 0 48 0 1158 0 199 0 310 1 152 5 68 5 89 3 952 4 44 3 189 6 112 3 127 2 129 1 6 0 16
      1 88 4 108 0 298 1 117 2 12 1 358 3 3 14 105 1 249 2 517 0 1 0 251 1 87 1 4 1 414 2 45 0 645 1
      74 1 1323 4 17913 1 133 0 65 2 10 0 553 1 295 1 19974 0 7655 3"),
  (["variationselector", "vs"],
    "6155 2 1 0 58864 15 852720 239")]

/-- The characters that have a property. -/
def property? (name : String) : Option Table :=
  (properties.find? fun entry => entry.1.contains name).map fun entry => Table.read entry.2

end HandlerMigration.Unicode
