import HandlerMigration.Unicode.Word

/-!
# Letters that differ in case only

Two characters are variants of each other if simple case folding maps them to the same character.
Most letters have one variant; a few have two or three.
-/

namespace HandlerMigration.Unicode

/-- Cuts a list of numbers at its zeros; `group` is the group being read, last number first. -/
def splitAtZeros (group : List Nat) : List Nat → List (List Nat)
  | [] => []
  | 0 :: rest => group.reverse :: splitAtZeros [] rest
  | n :: rest => splitAtZeros (n :: group) rest

/-- The groups of variants that reach outside ASCII, each closed by a zero. -/
def variantGroups : List (List Nat) := splitAtZeros [] (Table.numbers none (String.toList
  "75 107 8490 0 83 115 383 0 181 924 956 0 192 224 0 193 225 0 194 226 0 195 227 0 196 228 0 197
    229 8491 0 198 230 0 199 231 0 200 232 0 201 233 0 202 234 0 203 235 0 204 236 0 205 237 0 206
    238 0 207 239 0 208 240 0 209 241 0 210 242 0 211 243 0 212 244 0 213 245 0 214 246 0 216 248
    0 217 249 0 218 250 0 219 251 0 220 252 0 221 253 0 222 254 0 223 7838 0 255 376 0 256 257 0
    258 259 0 260 261 0 262 263 0 264 265 0 266 267 0 268 269 0 270 271 0 272 273 0 274 275 0 276
    277 0 278 279 0 280 281 0 282 283 0 284 285 0 286 287 0 288 289 0 290 291 0 292 293 0 294 295
    0 296 297 0 298 299 0 300 301 0 302 303 0 306 307 0 308 309 0 310 311 0 313 314 0 315 316 0
    317 318 0 319 320 0 321 322 0 323 324 0 325 326 0 327 328 0 330 331 0 332 333 0 334 335 0 336
    337 0 338 339 0 340 341 0 342 343 0 344 345 0 346 347 0 348 349 0 350 351 0 352 353 0 354 355
    0 356 357 0 358 359 0 360 361 0 362 363 0 364 365 0 366 367 0 368 369 0 370 371 0 372 373 0
    374 375 0 377 378 0 379 380 0 381 382 0 384 579 0 385 595 0 386 387 0 388 389 0 390 596 0 391
    392 0 393 598 0 394 599 0 395 396 0 398 477 0 399 601 0 400 603 0 401 402 0 403 608 0 404 611
    0 405 502 0 406 617 0 407 616 0 408 409 0 410 573 0 411 42972 0 412 623 0 413 626 0 414 544 0
    415 629 0 416 417 0 418 419 0 420 421 0 422 640 0 423 424 0 425 643 0 428 429 0 430 648 0 431
    432 0 433 650 0 434 651 0 435 436 0 437 438 0 439 658 0 440 441 0 444 445 0 447 503 0 452 453
    454 0 455 456 457 0 458 459 460 0 461 462 0 463 464 0 465 466 0 467 468 0 469 470 0 471 472 0
    473 474 0 475 476 0 478 479 0 480 481 0 482 483 0 484 485 0 486 487 0 488 489 0 490 491 0 492
    493 0 494 495 0 497 498 499 0 500 501 0 504 505 0 506 507 0 508 509 0 510 511 0 512 513 0 514
    515 0 516 517 0 518 519 0 520 521 0 522 523 0 524 525 0 526 527 0 528 529 0 530 531 0 532 533
    0 534 535 0 536 537 0 538 539 0 540 541 0 542 543 0 546 547 0 548 549 0 550 551 0 552 553 0
    554 555 0 556 557 0 558 559 0 560 561 0 562 563 0 570 11365 0 571 572 0 574 11366 0 575 11390
    0 576 11391 0 577 578 0 580 649 0 581 652 0 582 583 0 584 585 0 586 587 0 588 589 0 590 591 0
    592 11375 0 593 11373 0 594 11376 0 604 42923 0 609 42924 0 612 42955 0 613 42893 0 614 42922
    0 618 42926 0 619 11362 0 620 42925 0 625 11374 0 637 11364 0 642 42949 0 647 42929 0 669
    42930 0 670 42928 0 837 921 953 8126 0 880 881 0 882 883 0 886 887 0 891 1021 0 892 1022 0 893
    1023 0 895 1011 0 902 940 0 904 941 0 905 942 0 906 943 0 908 972 0 910 973 0 911 974 0 912
    8147 0 913 945 0 914 946 976 0 915 947 0 916 948 0 917 949 1013 0 918 950 0 919 951 0 920 952
    977 1012 0 922 954 1008 0 923 955 0 925 957 0 926 958 0 927 959 0 928 960 982 0 929 961 1009 0
    931 962 963 0 932 964 0 933 965 0 934 966 981 0 935 967 0 936 968 0 937 969 8486 0 938 970 0
    939 971 0 944 8163 0 975 983 0 984 985 0 986 987 0 988 989 0 990 991 0 992 993 0 994 995 0 996
    997 0 998 999 0 1000 1001 0 1002 1003 0 1004 1005 0 1006 1007 0 1010 1017 0 1015 1016 0 1018
    1019 0 1024 1104 0 1025 1105 0 1026 1106 0 1027 1107 0 1028 1108 0 1029 1109 0 1030 1110 0
    1031 1111 0 1032 1112 0 1033 1113 0 1034 1114 0 1035 1115 0 1036 1116 0 1037 1117 0 1038 1118
    0 1039 1119 0 1040 1072 0 1041 1073 0 1042 1074 7296 0 1043 1075 0 1044 1076 7297 0 1045 1077
    0 1046 1078 0 1047 1079 0 1048 1080 0 1049 1081 0 1050 1082 0 1051 1083 0 1052 1084 0 1053
    1085 0 1054 1086 7298 0 1055 1087 0 1056 1088 0 1057 1089 7299 0 1058 1090 7300 7301 0 1059
    1091 0 1060 1092 0 1061 1093 0 1062 1094 0 1063 1095 0 1064 1096 0 1065 1097 0 1066 1098 7302
    0 1067 1099 0 1068 1100 0 1069 1101 0 1070 1102 0 1071 1103 0 1120 1121 0 1122 1123 7303 0
    1124 1125 0 1126 1127 0 1128 1129 0 1130 1131 0 1132 1133 0 1134 1135 0 1136 1137 0 1138 1139
    0 1140 1141 0 1142 1143 0 1144 1145 0 1146 1147 0 1148 1149 0 1150 1151 0 1152 1153 0 1162
    1163 0 1164 1165 0 1166 1167 0 1168 1169 0 1170 1171 0 1172 1173 0 1174 1175 0 1176 1177 0
    1178 1179 0 1180 1181 0 1182 1183 0 1184 1185 0 1186 1187 0 1188 1189 0 1190 1191 0 1192 1193
    0 1194 1195 0 1196 1197 0 1198 1199 0 1200 1201 0 1202 1203 0 1204 1205 0 1206 1207 0 1208
    1209 0 1210 1211 0 1212 1213 0 1214 1215 0 1216 1231 0 1217 1218 0 1219 1220 0 1221 1222 0
    1223 1224 0 1225 1226 0 1227 1228 0 1229 1230 0 1232 1233 0 1234 1235 0 1236 1237 0 1238 1239
    0 1240 1241 0 1242 1243 0 1244 1245 0 1246 1247 0 1248 1249 0 1250 1251 0 1252 1253 0 1254
    1255 0 1256 1257 0 1258 1259 0 1260 1261 0 1262 1263 0 1264 1265 0 1266 1267 0 1268 1269 0
    1270 1271 0 1272 1273 0 1274 1275 0 1276 1277 0 1278 1279 0 1280 1281 0 1282 1283 0 1284 1285
    0 1286 1287 0 1288 1289 0 1290 1291 0 1292 1293 0 1294 1295 0 1296 1297 0 1298 1299 0 1300
    1301 0 1302 1303 0 1304 1305 0 1306 1307 0 1308 1309 0 1310 1311 0 1312 1313 0 1314 1315 0
    1316 1317 0 1318 1319 0 1320 1321 0 1322 1323 0 1324 1325 0 1326 1327 0 1329 1377 0 1330 1378
    0 1331 1379 0 1332 1380 0 1333 1381 0 1334 1382 0 1335 1383 0 1336 1384 0 1337 1385 0 1338
    1386 0 1339 1387 0 1340 1388 0 1341 1389 0 1342 1390 0 1343 1391 0 1344 1392 0 1345 1393 0
    1346 1394 0 1347 1395 0 1348 1396 0 1349 1397 0 1350 1398 0 1351 1399 0 1352 1400 0 1353 1401
    0 1354 1402 0 1355 1403 0 1356 1404 0 1357 1405 0 1358 1406 0 1359 1407 0 1360 1408 0 1361
    1409 0 1362 1410 0 1363 1411 0 1364 1412 0 1365 1413 0 1366 1414 0 4256 11520 0 4257 11521 0
    4258 11522 0 4259 11523 0 4260 11524 0 4261 11525 0 4262 11526 0 4263 11527 0 4264 11528 0
    4265 11529 0 4266 11530 0 4267 11531 0 4268 11532 0 4269 11533 0 4270 11534 0 4271 11535 0
    4272 11536 0 4273 11537 0 4274 11538 0 4275 11539 0 4276 11540 0 4277 11541 0 4278 11542 0
    4279 11543 0 4280 11544 0 4281 11545 0 4282 11546 0 4283 11547 0 4284 11548 0 4285 11549 0
    4286 11550 0 4287 11551 0 4288 11552 0 4289 11553 0 4290 11554 0 4291 11555 0 4292 11556 0
    4293 11557 0 4295 11559 0 4301 11565 0 4304 7312 0 4305 7313 0 4306 7314 0 4307 7315 0 4308
    7316 0 4309 7317 0 4310 7318 0 4311 7319 0 4312 7320 0 4313 7321 0 4314 7322 0 4315 7323 0
    4316 7324 0 4317 7325 0 4318 7326 0 4319 7327 0 4320 7328 0 4321 7329 0 4322 7330 0 4323 7331
    0 4324 7332 0 4325 7333 0 4326 7334 0 4327 7335 0 4328 7336 0 4329 7337 0 4330 7338 0 4331
    7339 0 4332 7340 0 4333 7341 0 4334 7342 0 4335 7343 0 4336 7344 0 4337 7345 0 4338 7346 0
    4339 7347 0 4340 7348 0 4341 7349 0 4342 7350 0 4343 7351 0 4344 7352 0 4345 7353 0 4346 7354
    0 4349 7357 0 4350 7358 0 4351 7359 0 5024 43888 0 5025 43889 0 5026 43890 0 5027 43891 0 5028
    43892 0 5029 43893 0 5030 43894 0 5031 43895 0 5032 43896 0 5033 43897 0 5034 43898 0 5035
    43899 0 5036 43900 0 5037 43901 0 5038 43902 0 5039 43903 0 5040 43904 0 5041 43905 0 5042
    43906 0 5043 43907 0 5044 43908 0 5045 43909 0 5046 43910 0 5047 43911 0 5048 43912 0 5049
    43913 0 5050 43914 0 5051 43915 0 5052 43916 0 5053 43917 0 5054 43918 0 5055 43919 0 5056
    43920 0 5057 43921 0 5058 43922 0 5059 43923 0 5060 43924 0 5061 43925 0 5062 43926 0 5063
    43927 0 5064 43928 0 5065 43929 0 5066 43930 0 5067 43931 0 5068 43932 0 5069 43933 0 5070
    43934 0 5071 43935 0 5072 43936 0 5073 43937 0 5074 43938 0 5075 43939 0 5076 43940 0 5077
    43941 0 5078 43942 0 5079 43943 0 5080 43944 0 5081 43945 0 5082 43946 0 5083 43947 0 5084
    43948 0 5085 43949 0 5086 43950 0 5087 43951 0 5088 43952 0 5089 43953 0 5090 43954 0 5091
    43955 0 5092 43956 0 5093 43957 0 5094 43958 0 5095 43959 0 5096 43960 0 5097 43961 0 5098
    43962 0 5099 43963 0 5100 43964 0 5101 43965 0 5102 43966 0 5103 43967 0 5104 5112 0 5105 5113
    0 5106 5114 0 5107 5115 0 5108 5116 0 5109 5117 0 7304 42570 42571 0 7305 7306 0 7545 42877 0
    7549 11363 0 7566 42950 0 7680 7681 0 7682 7683 0 7684 7685 0 7686 7687 0 7688 7689 0 7690
    7691 0 7692 7693 0 7694 7695 0 7696 7697 0 7698 7699 0 7700 7701 0 7702 7703 0 7704 7705 0
    7706 7707 0 7708 7709 0 7710 7711 0 7712 7713 0 7714 7715 0 7716 7717 0 7718 7719 0 7720 7721
    0 7722 7723 0 7724 7725 0 7726 7727 0 7728 7729 0 7730 7731 0 7732 7733 0 7734 7735 0 7736
    7737 0 7738 7739 0 7740 7741 0 7742 7743 0 7744 7745 0 7746 7747 0 7748 7749 0 7750 7751 0
    7752 7753 0 7754 7755 0 7756 7757 0 7758 7759 0 7760 7761 0 7762 7763 0 7764 7765 0 7766 7767
    0 7768 7769 0 7770 7771 0 7772 7773 0 7774 7775 0 7776 7777 7835 0 7778 7779 0 7780 7781 0
    7782 7783 0 7784 7785 0 7786 7787 0 7788 7789 0 7790 7791 0 7792 7793 0 7794 7795 0 7796 7797
    0 7798 7799 0 7800 7801 0 7802 7803 0 7804 7805 0 7806 7807 0 7808 7809 0 7810 7811 0 7812
    7813 0 7814 7815 0 7816 7817 0 7818 7819 0 7820 7821 0 7822 7823 0 7824 7825 0 7826 7827 0
    7828 7829 0 7840 7841 0 7842 7843 0 7844 7845 0 7846 7847 0 7848 7849 0 7850 7851 0 7852 7853
    0 7854 7855 0 7856 7857 0 7858 7859 0 7860 7861 0 7862 7863 0 7864 7865 0 7866 7867 0 7868
    7869 0 7870 7871 0 7872 7873 0 7874 7875 0 7876 7877 0 7878 7879 0 7880 7881 0 7882 7883 0
    7884 7885 0 7886 7887 0 7888 7889 0 7890 7891 0 7892 7893 0 7894 7895 0 7896 7897 0 7898 7899
    0 7900 7901 0 7902 7903 0 7904 7905 0 7906 7907 0 7908 7909 0 7910 7911 0 7912 7913 0 7914
    7915 0 7916 7917 0 7918 7919 0 7920 7921 0 7922 7923 0 7924 7925 0 7926 7927 0 7928 7929 0
    7930 7931 0 7932 7933 0 7934 7935 0 7936 7944 0 7937 7945 0 7938 7946 0 7939 7947 0 7940 7948
    0 7941 7949 0 7942 7950 0 7943 7951 0 7952 7960 0 7953 7961 0 7954 7962 0 7955 7963 0 7956
    7964 0 7957 7965 0 7968 7976 0 7969 7977 0 7970 7978 0 7971 7979 0 7972 7980 0 7973 7981 0
    7974 7982 0 7975 7983 0 7984 7992 0 7985 7993 0 7986 7994 0 7987 7995 0 7988 7996 0 7989 7997
    0 7990 7998 0 7991 7999 0 8000 8008 0 8001 8009 0 8002 8010 0 8003 8011 0 8004 8012 0 8005
    8013 0 8017 8025 0 8019 8027 0 8021 8029 0 8023 8031 0 8032 8040 0 8033 8041 0 8034 8042 0
    8035 8043 0 8036 8044 0 8037 8045 0 8038 8046 0 8039 8047 0 8048 8122 0 8049 8123 0 8050 8136
    0 8051 8137 0 8052 8138 0 8053 8139 0 8054 8154 0 8055 8155 0 8056 8184 0 8057 8185 0 8058
    8170 0 8059 8171 0 8060 8186 0 8061 8187 0 8064 8072 0 8065 8073 0 8066 8074 0 8067 8075 0
    8068 8076 0 8069 8077 0 8070 8078 0 8071 8079 0 8080 8088 0 8081 8089 0 8082 8090 0 8083 8091
    0 8084 8092 0 8085 8093 0 8086 8094 0 8087 8095 0 8096 8104 0 8097 8105 0 8098 8106 0 8099
    8107 0 8100 8108 0 8101 8109 0 8102 8110 0 8103 8111 0 8112 8120 0 8113 8121 0 8115 8124 0
    8131 8140 0 8144 8152 0 8145 8153 0 8160 8168 0 8161 8169 0 8165 8172 0 8179 8188 0 8498 8526
    0 8544 8560 0 8545 8561 0 8546 8562 0 8547 8563 0 8548 8564 0 8549 8565 0 8550 8566 0 8551
    8567 0 8552 8568 0 8553 8569 0 8554 8570 0 8555 8571 0 8556 8572 0 8557 8573 0 8558 8574 0
    8559 8575 0 8579 8580 0 9398 9424 0 9399 9425 0 9400 9426 0 9401 9427 0 9402 9428 0 9403 9429
    0 9404 9430 0 9405 9431 0 9406 9432 0 9407 9433 0 9408 9434 0 9409 9435 0 9410 9436 0 9411
    9437 0 9412 9438 0 9413 9439 0 9414 9440 0 9415 9441 0 9416 9442 0 9417 9443 0 9418 9444 0
    9419 9445 0 9420 9446 0 9421 9447 0 9422 9448 0 9423 9449 0 11264 11312 0 11265 11313 0 11266
    11314 0 11267 11315 0 11268 11316 0 11269 11317 0 11270 11318 0 11271 11319 0 11272 11320 0
    11273 11321 0 11274 11322 0 11275 11323 0 11276 11324 0 11277 11325 0 11278 11326 0 11279
    11327 0 11280 11328 0 11281 11329 0 11282 11330 0 11283 11331 0 11284 11332 0 11285 11333 0
    11286 11334 0 11287 11335 0 11288 11336 0 11289 11337 0 11290 11338 0 11291 11339 0 11292
    11340 0 11293 11341 0 11294 11342 0 11295 11343 0 11296 11344 0 11297 11345 0 11298 11346 0
    11299 11347 0 11300 11348 0 11301 11349 0 11302 11350 0 11303 11351 0 11304 11352 0 11305
    11353 0 11306 11354 0 11307 11355 0 11308 11356 0 11309 11357 0 11310 11358 0 11311 11359 0
    11360 11361 0 11367 11368 0 11369 11370 0 11371 11372 0 11378 11379 0 11381 11382 0 11392
    11393 0 11394 11395 0 11396 11397 0 11398 11399 0 11400 11401 0 11402 11403 0 11404 11405 0
    11406 11407 0 11408 11409 0 11410 11411 0 11412 11413 0 11414 11415 0 11416 11417 0 11418
    11419 0 11420 11421 0 11422 11423 0 11424 11425 0 11426 11427 0 11428 11429 0 11430 11431 0
    11432 11433 0 11434 11435 0 11436 11437 0 11438 11439 0 11440 11441 0 11442 11443 0 11444
    11445 0 11446 11447 0 11448 11449 0 11450 11451 0 11452 11453 0 11454 11455 0 11456 11457 0
    11458 11459 0 11460 11461 0 11462 11463 0 11464 11465 0 11466 11467 0 11468 11469 0 11470
    11471 0 11472 11473 0 11474 11475 0 11476 11477 0 11478 11479 0 11480 11481 0 11482 11483 0
    11484 11485 0 11486 11487 0 11488 11489 0 11490 11491 0 11499 11500 0 11501 11502 0 11506
    11507 0 42560 42561 0 42562 42563 0 42564 42565 0 42566 42567 0 42568 42569 0 42572 42573 0
    42574 42575 0 42576 42577 0 42578 42579 0 42580 42581 0 42582 42583 0 42584 42585 0 42586
    42587 0 42588 42589 0 42590 42591 0 42592 42593 0 42594 42595 0 42596 42597 0 42598 42599 0
    42600 42601 0 42602 42603 0 42604 42605 0 42624 42625 0 42626 42627 0 42628 42629 0 42630
    42631 0 42632 42633 0 42634 42635 0 42636 42637 0 42638 42639 0 42640 42641 0 42642 42643 0
    42644 42645 0 42646 42647 0 42648 42649 0 42650 42651 0 42786 42787 0 42788 42789 0 42790
    42791 0 42792 42793 0 42794 42795 0 42796 42797 0 42798 42799 0 42802 42803 0 42804 42805 0
    42806 42807 0 42808 42809 0 42810 42811 0 42812 42813 0 42814 42815 0 42816 42817 0 42818
    42819 0 42820 42821 0 42822 42823 0 42824 42825 0 42826 42827 0 42828 42829 0 42830 42831 0
    42832 42833 0 42834 42835 0 42836 42837 0 42838 42839 0 42840 42841 0 42842 42843 0 42844
    42845 0 42846 42847 0 42848 42849 0 42850 42851 0 42852 42853 0 42854 42855 0 42856 42857 0
    42858 42859 0 42860 42861 0 42862 42863 0 42873 42874 0 42875 42876 0 42878 42879 0 42880
    42881 0 42882 42883 0 42884 42885 0 42886 42887 0 42891 42892 0 42896 42897 0 42898 42899 0
    42900 42948 0 42902 42903 0 42904 42905 0 42906 42907 0 42908 42909 0 42910 42911 0 42912
    42913 0 42914 42915 0 42916 42917 0 42918 42919 0 42920 42921 0 42931 43859 0 42932 42933 0
    42934 42935 0 42936 42937 0 42938 42939 0 42940 42941 0 42942 42943 0 42944 42945 0 42946
    42947 0 42951 42952 0 42953 42954 0 42956 42957 0 42960 42961 0 42966 42967 0 42968 42969 0
    42970 42971 0 42997 42998 0 64261 64262 0 65313 65345 0 65314 65346 0 65315 65347 0 65316
    65348 0 65317 65349 0 65318 65350 0 65319 65351 0 65320 65352 0 65321 65353 0 65322 65354 0
    65323 65355 0 65324 65356 0 65325 65357 0 65326 65358 0 65327 65359 0 65328 65360 0 65329
    65361 0 65330 65362 0 65331 65363 0 65332 65364 0 65333 65365 0 65334 65366 0 65335 65367 0
    65336 65368 0 65337 65369 0 65338 65370 0 66560 66600 0 66561 66601 0 66562 66602 0 66563
    66603 0 66564 66604 0 66565 66605 0 66566 66606 0 66567 66607 0 66568 66608 0 66569 66609 0
    66570 66610 0 66571 66611 0 66572 66612 0 66573 66613 0 66574 66614 0 66575 66615 0 66576
    66616 0 66577 66617 0 66578 66618 0 66579 66619 0 66580 66620 0 66581 66621 0 66582 66622 0
    66583 66623 0 66584 66624 0 66585 66625 0 66586 66626 0 66587 66627 0 66588 66628 0 66589
    66629 0 66590 66630 0 66591 66631 0 66592 66632 0 66593 66633 0 66594 66634 0 66595 66635 0
    66596 66636 0 66597 66637 0 66598 66638 0 66599 66639 0 66736 66776 0 66737 66777 0 66738
    66778 0 66739 66779 0 66740 66780 0 66741 66781 0 66742 66782 0 66743 66783 0 66744 66784 0
    66745 66785 0 66746 66786 0 66747 66787 0 66748 66788 0 66749 66789 0 66750 66790 0 66751
    66791 0 66752 66792 0 66753 66793 0 66754 66794 0 66755 66795 0 66756 66796 0 66757 66797 0
    66758 66798 0 66759 66799 0 66760 66800 0 66761 66801 0 66762 66802 0 66763 66803 0 66764
    66804 0 66765 66805 0 66766 66806 0 66767 66807 0 66768 66808 0 66769 66809 0 66770 66810 0
    66771 66811 0 66928 66967 0 66929 66968 0 66930 66969 0 66931 66970 0 66932 66971 0 66933
    66972 0 66934 66973 0 66935 66974 0 66936 66975 0 66937 66976 0 66938 66977 0 66940 66979 0
    66941 66980 0 66942 66981 0 66943 66982 0 66944 66983 0 66945 66984 0 66946 66985 0 66947
    66986 0 66948 66987 0 66949 66988 0 66950 66989 0 66951 66990 0 66952 66991 0 66953 66992 0
    66954 66993 0 66956 66995 0 66957 66996 0 66958 66997 0 66959 66998 0 66960 66999 0 66961
    67000 0 66962 67001 0 66964 67003 0 66965 67004 0 68736 68800 0 68737 68801 0 68738 68802 0
    68739 68803 0 68740 68804 0 68741 68805 0 68742 68806 0 68743 68807 0 68744 68808 0 68745
    68809 0 68746 68810 0 68747 68811 0 68748 68812 0 68749 68813 0 68750 68814 0 68751 68815 0
    68752 68816 0 68753 68817 0 68754 68818 0 68755 68819 0 68756 68820 0 68757 68821 0 68758
    68822 0 68759 68823 0 68760 68824 0 68761 68825 0 68762 68826 0 68763 68827 0 68764 68828 0
    68765 68829 0 68766 68830 0 68767 68831 0 68768 68832 0 68769 68833 0 68770 68834 0 68771
    68835 0 68772 68836 0 68773 68837 0 68774 68838 0 68775 68839 0 68776 68840 0 68777 68841 0
    68778 68842 0 68779 68843 0 68780 68844 0 68781 68845 0 68782 68846 0 68783 68847 0 68784
    68848 0 68785 68849 0 68786 68850 0 68944 68976 0 68945 68977 0 68946 68978 0 68947 68979 0
    68948 68980 0 68949 68981 0 68950 68982 0 68951 68983 0 68952 68984 0 68953 68985 0 68954
    68986 0 68955 68987 0 68956 68988 0 68957 68989 0 68958 68990 0 68959 68991 0 68960 68992 0
    68961 68993 0 68962 68994 0 68963 68995 0 68964 68996 0 68965 68997 0 71840 71872 0 71841
    71873 0 71842 71874 0 71843 71875 0 71844 71876 0 71845 71877 0 71846 71878 0 71847 71879 0
    71848 71880 0 71849 71881 0 71850 71882 0 71851 71883 0 71852 71884 0 71853 71885 0 71854
    71886 0 71855 71887 0 71856 71888 0 71857 71889 0 71858 71890 0 71859 71891 0 71860 71892 0
    71861 71893 0 71862 71894 0 71863 71895 0 71864 71896 0 71865 71897 0 71866 71898 0 71867
    71899 0 71868 71900 0 71869 71901 0 71870 71902 0 71871 71903 0 93760 93792 0 93761 93793 0
    93762 93794 0 93763 93795 0 93764 93796 0 93765 93797 0 93766 93798 0 93767 93799 0 93768
    93800 0 93769 93801 0 93770 93802 0 93771 93803 0 93772 93804 0 93773 93805 0 93774 93806 0
    93775 93807 0 93776 93808 0 93777 93809 0 93778 93810 0 93779 93811 0 93780 93812 0 93781
    93813 0 93782 93814 0 93783 93815 0 93784 93816 0 93785 93817 0 93786 93818 0 93787 93819 0
    93788 93820 0 93789 93821 0 93790 93822 0 93791 93823 0 125184 125218 0 125185 125219 0 125186
    125220 0 125187 125221 0 125188 125222 0 125189 125223 0 125190 125224 0 125191 125225 0
    125192 125226 0 125193 125227 0 125194 125228 0 125195 125229 0 125196 125230 0 125197 125231
    0 125198 125232 0 125199 125233 0 125200 125234 0 125201 125235 0 125202 125236 0 125203
    125237 0 125204 125238 0 125205 125239 0 125206 125240 0 125207 125241 0 125208 125242 0
    125209 125243 0 125210 125244 0 125211 125245 0 125212 125246 0 125213 125247 0 125214 125248
    0 125215 125249 0 125216 125250 0 125217 125251 0"))

/-- The other case of an ASCII letter. -/
def asciiVariant? (c : Char) : Option Char :=
  if 'a' ≤ c && c ≤ 'z' then some (Char.ofNat (c.toNat - 32))
  else if 'A' ≤ c && c ≤ 'Z' then some (Char.ofNat (c.toNat + 32))
  else none

/-- The variants of a character, without the ASCII ones of an ASCII letter. -/
def wideVariants (c : Char) : List Char :=
  match variantGroups.find? fun group => group.contains c.toNat with
  | none => []
  | some group => group.map Char.ofNat

/-- The characters that differ from `c` in case only. An ASCII character without case has none. -/
def variants (c : Char) : List Char :=
  if c.toNat < 128 then
    match asciiVariant? c with
    | none => []
    | some d => d :: if c == 'k' || c == 'K' || c == 's' || c == 'S' then wideVariants c else []
  else wideVariants c

end HandlerMigration.Unicode
