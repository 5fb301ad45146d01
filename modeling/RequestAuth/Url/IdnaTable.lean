import RequestAuth.Text.Table

/-! Which characters the names of hosts can hold, how others are written, and how those beyond ASCII stand next to
each other, as of Unicode 16. -/

namespace RequestAuth.Idna

/-- What capital letters and characters that stand for others are written as. Those that stand for a text with a
character that no name holds are not here. -/
def mappingText : String := "
aa=61 b2=32 33 b5=3bc b9=31 6f bc=31+2044+34 31+2044+32 33+2044+34 c0-d6=e0 d8-de=f8 100-12e/2=101
130=69+307 132=69+6a 69+6a 135 136=137 139-13d/2=13a 13f=6c+b7 6c+b7 141-147/2=142 149=2bc+6e
14a-176/2=14b 178=ff 179-17d/2=17a 17f=73 181=253 183 184=185 186=254 188 189=256 257 18c 18e=1dd 259
25b 192 193=260 263 196=269 268 199 19c=26f 272 19f=275 1a0-1a4/2=1a1 1a6=280 1a8 1a9=283 1ac=1ad
1ae=288 1b0 1b1=28a 28b 1b4 1b5=1b6 1b7=292 1b9 1bc=1bd 1c4=64+17e 64+17e 64+17e 6c+6a 6c+6a 6c+6a 6e+6a
6e+6a 6e+6a 1cd-1db/2=1ce 1de-1ee/2=1df 1f1=64+7a 64+7a 64+7a 1f5 1f6=195 1bf 1f8-21e/2=1f9 220=19e
222-232/2=223 23a=2c65 23c 23d=19a 2c66 241=242 243=180 289 28c 246-24e/2=247 2b0=68 266 6a 72 279 27b
281 77 79 2e0=263 6c 73 78 295 340=300 301 343=313 308+301 3b9 370=371 372=373 374=2b9 376=377 37e=3b
3f3 386=3ac b7 388-38a=3ad 38c=3cc 38e=3cd 3ce 391-3a1=3b1 3a3-3ab=3c3 3cf=3d7 3b2 3b8 3c5 3cd 3cb 3c6
3c0 3d8-3ee/2=3d9 3f0=3ba 3c1 3c3 3f4=3b8 3b5 3f7=3f8 3f9=3c3 3fb 3fd-3ff=37b 400-40f=450 410-42f=430
460-480/2=461 48a-4be/2=48b 4c0=4cf 4c1-4cd/2=4c2 4d0-52e/2=4d1 531-556=561 587=565+582 675=627+674
648+674 6c7+674 64a+674 958=915+93c 916+93c 917+93c 91c+93c 921+93c 922+93c 92b+93c 92f+93c 9dc=9a1+9bc
9a2+9bc 9df=9af+9bc a33=a32+a3c a36=a38+a3c a59=a16+a3c a17+a3c a1c+a3c a5e=a2b+a3c b5c=b21+b3c b22+b3c
e33=e4d+e32 eb3=ecd+eb2 edc=eab+e99 eab+ea1 f0c=f0b f43=f42+fb7 f4d=f4c+fb7 f52=f51+fb7 f57=f56+fb7
f5c=f5b+fb7 f69=f40+fb5 f73=f71+f72 f75=f71+f74 fb2+f80 fb2+f71+f80 fb3+f80 fb3+f71+f80 f81=f71+f80
f93=f92+fb7 f9d=f9c+fb7 fa2=fa1+fb7 fa7=fa6+fb7 fac=fab+fb7 fb9=f90+fb5 10a0-10c5=2d00 10c7=2d27
10cd=2d2d 10fc=10dc 13f8-13fd=13f0 1c80=432 434 43e 441 442 442 44a 463 a64b 1c8a 1c90-1cba=10d0
1cbd-1cbf=10fd 1d2c=61 e6 62 1d30=64 1d31-1d39/2=65 1d32=1dd 1d34-1d3a/2=68 1d3c=6f 223 70 72 74 75 77
61 250 251 1d02 62 64 65 259 25b 25c 67 1d4f=6b 6d 14b 6f 254 1d16 1d17 70 74 75 1d1d 26f 76 1d25
1d5d-1d5f=3b2 3c6 3c7 69 72 75 76 3b2 3b3 3c1 3c6 3c7 1d78=43d 1d9b=252 63 255 f0 25c 66 25f 261 265
1da4-1da6=268 1d7b 29d 26d 1d85 29f 271 270 1dae-1db1=272 278 282 283 1ab 289 28a 1d1c 28b 28c 7a
1dbc-1dbe=290 3b8 1e00-1e94/2=1e01 1e9a=61+2be 1e61 1e9e=df 1ea0-1efe/2=1ea1 1f08-1f0f=1f00
1f18-1f1d=1f10 1f28-1f2f=1f20 1f38-1f3f=1f30 1f48-1f4d=1f40 1f59-1f5f/2=1f51 1f68-1f6f=1f60 1f71=3ac
1f73=3ad 1f75=3ae 1f77=3af 1f79=3cc 1f7b=3cd 1f7d=3ce 1f80=1f00+3b9 1f01+3b9 1f02+3b9 1f03+3b9 1f04+3b9
1f05+3b9 1f06+3b9 1f07+3b9 1f00+3b9 1f01+3b9 1f02+3b9 1f03+3b9 1f04+3b9 1f05+3b9 1f06+3b9 1f07+3b9
1f20+3b9 1f21+3b9 1f22+3b9 1f23+3b9 1f24+3b9 1f25+3b9 1f26+3b9 1f27+3b9 1f20+3b9 1f21+3b9 1f22+3b9
1f23+3b9 1f24+3b9 1f25+3b9 1f26+3b9 1f27+3b9 1f60+3b9 1f61+3b9 1f62+3b9 1f63+3b9 1f64+3b9 1f65+3b9
1f66+3b9 1f67+3b9 1f60+3b9 1f61+3b9 1f62+3b9 1f63+3b9 1f64+3b9 1f65+3b9 1f66+3b9 1f67+3b9 1fb2=1f70+3b9
3b1+3b9 3ac+3b9 1fb7=1fb6+3b9 1fb0 1fb1 1f70 3ac 3b1+3b9 1fbe=3b9 1fc2=1f74+3b9 3b7+3b9 3ae+3b9
1fc7=1fc6+3b9 1f72 3ad 1f74 3ae 3b7+3b9 1fd3=390 1fd8=1fd0 1fd1 1f76 3af 1fe3=3b0 1fe8=1fe0 1fe1 1f7a
3cd 1fe5 1fef=60 1ff2=1f7c+3b9 3c9+3b9 3ce+3b9 1ff7=1ff6+3b9 1f78 3cc 1f7c 3ce 3c9+3b9 2011=2010
2033=2032+2032 2032+2032+2032 2036=2035+2035 2035+2035+2035 203c=21+21 2057=2032+2032+2032+2032 2070=30
69 2074-2079=34 2b 2212 3d 28 29 6e 2080-2089=30 2b 2212 3d 28 29 2090=61 65 6f 78 259 68 2096-2099=6b
70 73 74 20a8=72+73 2102=63 b0+63 2107=25b 2109=b0+66 67 68 68 68 68 127 69 69 6c 6c 2115=6e 6e+6f
2119-211b=70 72 72 2120=73+6d 74+65+6c 74+6d 2124=7a 2126=3c9 2128=7a 212a=6b e5 62 63 212f=65 65 66
214e 6d 6f 2135-2138=5d0 69 213b=66+61+78 3c0 3b3 3b3 3c0 2211 2145=64 64 65 69 6a 2150=31+2044+37
31+2044+39 31+2044+31+30 31+2044+33 32+2044+33 31+2044+35 32+2044+35 33+2044+35 34+2044+35 31+2044+36
35+2044+36 31+2044+38 33+2044+38 35+2044+38 37+2044+38 31+2044 69 69+69 69+69+69 69+76 76 76+69 76+69+69
76+69+69+69 69+78 78 78+69 78+69+69 6c 63 64 6d 69 69+69 69+69+69 69+76 76 76+69 76+69+69 76+69+69+69
69+78 78 78+69 78+69+69 6c 63 64 6d 2183=2184 2189=30+2044+33 222c=222b+222b 222b+222b+222b
222f=222e+222e 222e+222e+222e 2329=3008 3009 2460-2468=31 31+30 31+31 31+32 31+33 31+34 31+35 31+36
31+37 31+38 31+39 32+30 28+31+29 28+32+29 28+33+29 28+34+29 28+35+29 28+36+29 28+37+29 28+38+29 28+39+29
28+31+30+29 28+31+31+29 28+31+32+29 28+31+33+29 28+31+34+29 28+31+35+29 28+31+36+29 28+31+37+29
28+31+38+29 28+31+39+29 28+32+30+29 249c=28+61+29 28+62+29 28+63+29 28+64+29 28+65+29 28+66+29 28+67+29
28+68+29 28+69+29 28+6a+29 28+6b+29 28+6c+29 28+6d+29 28+6e+29 28+6f+29 28+70+29 28+71+29 28+72+29
28+73+29 28+74+29 28+75+29 28+76+29 28+77+29 28+78+29 28+79+29 28+7a+29 24b6-24cf=61 24d0-24e9=61 30
2a0c=222b+222b+222b+222b 2a75=3d+3d 3d+3d+3d 2adc=2add+338 2c00-2c2f=2c30 2c60=2c61 2c62=26b 1d7d 27d
2c67-2c6b/2=2c68 2c6d=251 271 250 252 2c72=2c73 2c75=2c76 2c7c=6a 76 23f 240 2c80-2ce2/2=2c81 2ceb=2cec
2ced=2cee 2cf2=2cf3 2d6f=2d61 2e9f=6bcd 2ef3=9f9f 2f00=4e00 4e28 4e36 4e3f 4e59 4e85 4e8c 4ea0 4eba 513f
5165 516b 5182 5196 51ab 51e0 51f5 5200 529b 52f9 5315 531a 5338 5341 535c 5369 5382 53b6 53c8 53e3 56d7
571f 58eb 5902 590a 5915 5927 5973 5b50 5b80 5bf8 5c0f 5c22 5c38 5c6e 5c71 5ddb 5de5 5df1 5dfe 5e72 5e7a
5e7f 5ef4 5efe 5f0b 5f13 5f50 5f61 5f73 5fc3 6208 6236 624b 652f 6534 6587 6597 65a4 65b9 65e0 65e5 66f0
6708 6728 6b20 6b62 6b79 6bb3 6bcb 6bd4 6bdb 6c0f 6c14 6c34 706b 722a 7236 723b 723f 7247 7259 725b 72ac
7384 7389 74dc 74e6 7518 751f 7528 7530 758b 7592 7676 767d 76ae 76bf 76ee 77db 77e2 77f3 793a 79b8 79be
7a74 7acb 7af9 7c73 7cf8 7f36 7f51 7f8a 7fbd 8001 800c 8012 8033 807f 8089 81e3 81ea 81f3 81fc 820c 821b
821f 826e 8272 8278 864d 866b 8840 884c 8863 897e 898b 89d2 8a00 8c37 8c46 8c55 8c78 8c9d 8d64 8d70 8db3
8eab 8eca 8f9b 8fb0 8fb5 9091 9149 91c6 91cc 91d1 9577 9580 961c 96b6 96b9 96e8 9751 975e 9762 9769 97cb
97ed 97f3 9801 98a8 98db 98df 9996 9999 99ac 9aa8 9ad8 9adf 9b25 9b2f 9b32 9b3c 9b5a 9ce5 9e75 9e7f 9ea5
9ebb 9ec3 9ecd 9ed1 9ef9 9efd 9f0e 9f13 9f20 9f3b 9f4a 9f52 9f8d 9f9c 9fa0 3002=2e 3036=3012 3038=5341
5344 5345 309f=3088+308a 30ff=30b3+30c8 3131=1100 1101 11aa 1102 11ac 11ad 3137-3139=1103 313a-313f=11b0
111a 3141-3143=1106 1121 3145-314e=1109 314f-3163=1161 3165=1114 1115 11c7 11c8 11cc 11ce 11d3 11d7 11d9
111c 11dd 11df 111d 111e 1120 1122 1123 1127 1129 3178-317c=112b 1132 1136 1140 1147 114c 11f1 11f2
3184-3186=1157 1184 1185 1188 1191 1192 1194 119e 11a1 3192=4e00 4e8c 4e09 56db 4e0a 4e2d 4e0b 7532 4e59
4e19 4e01 5929 5730 4eba 3200=28+1100+29 28+1102+29 28+1103+29 28+1105+29 28+1106+29 28+1107+29
28+1109+29 28+110b+29 28+110c+29 28+110e+29 28+110f+29 28+1110+29 28+1111+29 28+1112+29 28+ac00+29
28+b098+29 28+b2e4+29 28+b77c+29 28+b9c8+29 28+bc14+29 28+c0ac+29 28+c544+29 28+c790+29 28+cc28+29
28+ce74+29 28+d0c0+29 28+d30c+29 28+d558+29 28+c8fc+29 28+c624+c804+29 28+c624+d6c4+29 3220=28+4e00+29
28+4e8c+29 28+4e09+29 28+56db+29 28+4e94+29 28+516d+29 28+4e03+29 28+516b+29 28+4e5d+29 28+5341+29
28+6708+29 28+706b+29 28+6c34+29 28+6728+29 28+91d1+29 28+571f+29 28+65e5+29 28+682a+29 28+6709+29
28+793e+29 28+540d+29 28+7279+29 28+8ca1+29 28+795d+29 28+52b4+29 28+4ee3+29 28+547c+29 28+5b66+29
28+76e3+29 28+4f01+29 28+8cc7+29 28+5354+29 28+796d+29 28+4f11+29 28+81ea+29 28+81f3+29 554f 5e7c 6587
7b8f 3250=70+74+65 32+31 32+32 32+33 32+34 32+35 32+36 32+37 32+38 32+39 33+30 33+31 33+32 33+33 33+34
33+35 1100 1102 1103 3263-3265=1105 1109 110b 110c 3269-326d=110e ac00 b098 b2e4 b77c b9c8 bc14 c0ac
c544 c790 cc28 ce74 d0c0 d30c d558 cc38+ace0 c8fc+c758 c6b0 3280=4e00 4e8c 4e09 56db 4e94 516d 4e03 516b
4e5d 5341 6708 706b 6c34 6728 91d1 571f 65e5 682a 6709 793e 540d 7279 8ca1 795d 52b4 79d8 7537 5973 9069
512a 5370 6ce8 9805 4f11 5199 6b63 4e0a 4e2d 4e0b 5de6 53f3 533b 5b97 5b66 76e3 4f01 8cc7 5354 591c
33+36 33+37 33+38 33+39 34+30 34+31 34+32 34+33 34+34 34+35 34+36 34+37 34+38 34+39 35+30 31+6708
32+6708 33+6708 34+6708 35+6708 36+6708 37+6708 38+6708 39+6708 31+30+6708 31+31+6708 31+32+6708 68+67
65+72+67 65+76 6c+74+64 30a2 30a4 30a6 30a8 30aa 30ab 30ad 30af 30b1 30b3 30b5 30b7 30b9 30bb 30bd 30bf
30c1 30c4 30c6 30c8 32e4-32e9=30ca 30d2 30d5 30d8 30db 32ee-32f2=30de 30e4 30e6 32f5-32fa=30e8
32fb-32fe=30ef 4ee4+548c 30a2+30d1+30fc+30c8 30a2+30eb+30d5+30a1 30a2+30f3+30da+30a2 30a2+30fc+30eb
30a4+30cb+30f3+30b0 30a4+30f3+30c1 30a6+30a9+30f3 30a8+30b9+30af+30fc+30c9 30a8+30fc+30ab+30fc
30aa+30f3+30b9 30aa+30fc+30e0 30ab+30a4+30ea 30ab+30e9+30c3+30c8 30ab+30ed+30ea+30fc 30ac+30ed+30f3
30ac+30f3+30de 30ae+30ac 30ae+30cb+30fc 30ad+30e5+30ea+30fc 30ae+30eb+30c0+30fc 30ad+30ed
30ad+30ed+30b0+30e9+30e0 30ad+30ed+30e1+30fc+30c8+30eb 30ad+30ed+30ef+30c3+30c8 30b0+30e9+30e0
30b0+30e9+30e0+30c8+30f3 30af+30eb+30bc+30a4+30ed 30af+30ed+30fc+30cd 30b1+30fc+30b9 30b3+30eb+30ca
30b3+30fc+30dd 30b5+30a4+30af+30eb 30b5+30f3+30c1+30fc+30e0 30b7+30ea+30f3+30b0 30bb+30f3+30c1
30bb+30f3+30c8 30c0+30fc+30b9 30c7+30b7 30c9+30eb 30c8+30f3 30ca+30ce 30ce+30c3+30c8 30cf+30a4+30c4
30d1+30fc+30bb+30f3+30c8 30d1+30fc+30c4 30d0+30fc+30ec+30eb 30d4+30a2+30b9+30c8+30eb 30d4+30af+30eb
30d4+30b3 30d3+30eb 30d5+30a1+30e9+30c3+30c9 30d5+30a3+30fc+30c8 30d6+30c3+30b7+30a7+30eb 30d5+30e9+30f3
30d8+30af+30bf+30fc+30eb 30da+30bd 30da+30cb+30d2 30d8+30eb+30c4 30da+30f3+30b9 30da+30fc+30b8
30d9+30fc+30bf 30dd+30a4+30f3+30c8 30dc+30eb+30c8 30db+30f3 30dd+30f3+30c9 30db+30fc+30eb 30db+30fc+30f3
30de+30a4+30af+30ed 30de+30a4+30eb 30de+30c3+30cf 30de+30eb+30af 30de+30f3+30b7+30e7+30f3
30df+30af+30ed+30f3 30df+30ea 30df+30ea+30d0+30fc+30eb 30e1+30ac 30e1+30ac+30c8+30f3 30e1+30fc+30c8+30eb
30e4+30fc+30c9 30e4+30fc+30eb 30e6+30a2+30f3 30ea+30c3+30c8+30eb 30ea+30e9 30eb+30d4+30fc
30eb+30fc+30d6+30eb 30ec+30e0 30ec+30f3+30c8+30b2+30f3 30ef+30c3+30c8 30+70b9 31+70b9 32+70b9 33+70b9
34+70b9 35+70b9 36+70b9 37+70b9 38+70b9 39+70b9 31+30+70b9 31+31+70b9 31+32+70b9 31+33+70b9 31+34+70b9
31+35+70b9 31+36+70b9 31+37+70b9 31+38+70b9 31+39+70b9 32+30+70b9 32+31+70b9 32+32+70b9 32+33+70b9
32+34+70b9 68+70+61 64+61 61+75 62+61+72 6f+76 70+63 64+6d 64+6d+32 64+6d+33 69+75 5e73+6210 662d+548c
5927+6b63 660e+6cbb 682a+5f0f+4f1a+793e 70+61 6e+61 3bc+61 6d+61 6b+61 6b+62 6d+62 67+62 63+61+6c
6b+63+61+6c 70+66 6e+66 3bc+66 3bc+67 6d+67 6b+67 68+7a 6b+68+7a 6d+68+7a 67+68+7a 74+68+7a 3bc+6c 6d+6c
64+6c 6b+6c 66+6d 6e+6d 3bc+6d 6d+6d 63+6d 6b+6d 6d+6d+32 63+6d+32 6d+32 6b+6d+32 6d+6d+33 63+6d+33
6d+33 6b+6d+33 6d+2215+73 6d+2215+73+32 70+61 6b+70+61 6d+70+61 67+70+61 72+61+64 72+61+64+2215+73
72+61+64+2215+73+32 70+73 6e+73 3bc+73 6d+73 70+76 6e+76 3bc+76 6d+76 6b+76 6d+76 70+77 6e+77 3bc+77
6d+77 6b+77 6d+77 6b+3c9 6d+3c9 33c3=62+71 63+63 63+64 63+2215+6b+67 33c8=64+62 67+79 68+61 68+70 69+6e
6b+6b 6b+6d 6b+74 6c+6d 6c+6e 6c+6f+67 6c+78 6d+62 6d+69+6c 6d+6f+6c 70+68 33d9=70+70+6d 70+72 73+72
73+76 77+62 76+2215+6d 61+2215+6d 31+65e5 32+65e5 33+65e5 34+65e5 35+65e5 36+65e5 37+65e5 38+65e5
39+65e5 31+30+65e5 31+31+65e5 31+32+65e5 31+33+65e5 31+34+65e5 31+35+65e5 31+36+65e5 31+37+65e5
31+38+65e5 31+39+65e5 32+30+65e5 32+31+65e5 32+32+65e5 32+33+65e5 32+34+65e5 32+35+65e5 32+36+65e5
32+37+65e5 32+38+65e5 32+39+65e5 33+30+65e5 33+31+65e5 67+61+6c a640-a66c/2=a641 a680-a69a/2=a681
a69c=44a 44c a722-a72e/2=a723 a732-a76e/2=a733 a770=a76f a779=a77a a77b=a77c a77d=1d79 a77e-a786/2=a77f
a78b=a78c a78d=265 a790=a791 a792=a793 a796-a7a8/2=a797 a7aa=266 25c 261 26c 26a a7b0=29e 287 29d ab53
a7b4-a7c2/2=a7b5 a7c4=a794 282 1d8e a7c8 a7c9=a7ca a7cb=264 a7cd a7d0=a7d1 a7d6-a7da/2=a7d7 a7dc=19b
a7f2=63 66 71 a7f6 a7f8=127 153 ab5c=a727 ab37 26b ab52 ab69=28d ab70-abbf=13a0 f900=8c48 66f4 8eca 8cc8
6ed1 4e32 53e5 9f9c 9f9c 5951 91d1 5587 5948 61f6 7669 7f85 863f 87ba 88f8 908f 6a02 6d1b 70d9 73de 843d
916a 99f1 4e82 5375 6b04 721b 862d 9e1e 5d50 6feb 85cd 8964 62c9 81d8 881f 5eca 6717 6d6a 72fc 90ce 4f86
51b7 52de 64c4 6ad3 7210 76e7 8001 8606 865c 8def 9732 9b6f 9dfa 788c 797f 7da0 83c9 9304 9e7f 8ad6 58df
5f04 7c60 807e 7262 78ca 8cc2 96f7 58d8 5c62 6a13 6dda 6f0f 7d2f 7e37 964b 52d2 808b 51dc 51cc 7a1c 7dbe
83f1 9675 8b80 62cf 6a02 8afe 4e39 5be7 6012 7387 7570 5317 78fb 4fbf 5fa9 4e0d 6ccc 6578 7d22 53c3 585e
7701 8449 8aaa 6bba 8fb0 6c88 62fe 82e5 63a0 7565 4eae 5169 51c9 6881 7ce7 826f 8ad2 91cf 52f5 5442 5973
5eec 65c5 6ffe 792a 95ad 9a6a 9e97 9ece 529b 66c6 6b77 8f62 5e74 6190 6200 649a 6f23 7149 7489 79ca 7df4
806f 8f26 84ee 9023 934a 5217 52a3 54bd 70c8 88c2 8aaa 5ec9 5ff5 637b 6bae 7c3e 7375 4ee4 56f9 5be7 5dba
601c 73b2 7469 7f9a 8046 9234 96f6 9748 9818 4f8b 79ae 91b4 96b8 60e1 4e86 50da 5bee 5c3f 6599 6a02 71ce
7642 84fc 907c 9f8d 6688 962e 5289 677b 67f3 6d41 6e9c 7409 7559 786b 7d10 985e 516d 622e 9678 502b 5d19
6dea 8f2a 5f8b 6144 6817 7387 9686 5229 540f 5c65 6613 674e 68a8 6ce5 7406 75e2 7f79 88cf 88e1 91cc 96e2
533f 6eba 541d 71d0 7498 85fa 96a3 9c57 9e9f 6797 6dcb 81e8 7acb 7b20 7c92 72c0 7099 8b58 4ec0 8336 523a
5207 5ea6 62d3 7cd6 5b85 6d1e 66b4 8f3b 884c 964d 898b 5ed3 5140 55c0 fa10=585a fa12=6674 fa15=51de 732a
76ca 793c 795e 7965 798f 9756 7cbe 7fbd fa20=8612 fa22=8af8 fa25=9038 90fd fa2a=98ef 98fc 9928 9db4 90de
96b7 4fae 50e7 514d 52c9 52e4 5351 559d 5606 5668 5840 58a8 5c64 5c6e 6094 6168 618e 61f2 654f 65e2 6691
6885 6d77 6e1a 6f22 716e 722b 7422 7891 793e 7949 7948 7950 7956 795d 798d 798e 7a40 7a81 7bc0 7df4 7e09
7e41 7f72 8005 81ed 8279 8279 8457 8910 8996 8b01 8b39 8cd3 8d08 8fb6 9038 96e3 97ff 983b 6075 242ee
8218 fa70=4e26 51b5 5168 4f80 5145 5180 52c7 52fa 559d 5555 5599 55e2 585a 58b3 5944 5954 5a62 5b28 5ed2
5ed9 5f69 5fad 60d8 614e 6108 618e 6160 61f2 6234 63c4 641c 6452 6556 6674 6717 671b 6756 6b79 6bba 6d41
6edb 6ecb 6f22 701e 716e 77a7 7235 72af 732a 7471 7506 753b 761d 761f 76ca 76db 76f4 774a 7740 78cc 7ab1
7bc0 7c7b 7d5b 7df4 7f3e 8005 8352 83ef 8779 8941 8986 8996 8abf 8af8 8acb 8b01 8afe 8aed 8b39 8b8a 8d08
8f38 9072 9199 9276 967c 96e3 9756 97db 97ff 980b 983b 9b12 9f9c 2284a 22844 233d5 3b9d 4018 4039 25249
25cd0 27ed3 9f43 9f8e fb00=66+66 66+69 66+6c 66+66+69 66+66+6c 73+74 73+74 fb13=574+576 574+565 574+56b
57e+576 574+56d fb1d=5d9+5b4 fb1f=5f2+5b7 5e2 5d0 5d3 5d4 fb24-fb26=5db 5e8 5ea 2b 5e9+5c1 5e9+5c2
5e9+5bc+5c1 5e9+5bc+5c2 5d0+5b7 5d0+5b8 5d0+5bc 5d1+5bc 5d2+5bc 5d3+5bc 5d4+5bc 5d5+5bc 5d6+5bc
fb38=5d8+5bc 5d9+5bc 5da+5bc 5db+5bc 5dc+5bc fb3e=5de+5bc fb40=5e0+5bc 5e1+5bc fb43=5e3+5bc 5e4+5bc
fb46=5e6+5bc 5e7+5bc 5e8+5bc 5e9+5bc 5ea+5bc 5d5+5b9 5d1+5bf 5db+5bf 5e4+5bf 5d0+5dc 671 671 67b 67b 67b
67b 67e 67e 67e 67e 680 680 680 680 67a 67a 67a 67a 67f 67f 67f 67f 679 679 679 679 6a4 6a4 6a4 6a4 6a6
6a6 6a6 6a6 684 684 684 684 683 683 683 683 686 686 686 686 687 687 687 687 68d 68d 68c 68c 68e 68e 688
688 698 698 691 691 6a9 6a9 6a9 6a9 6af 6af 6af 6af 6b3 6b3 6b3 6b3 6b1 6b1 6b1 6b1 6ba 6ba 6bb 6bb 6bb
6bb 6c0 6c0 6c1 6c1 6c1 6c1 6be 6be 6be 6be 6d2 6d2 6d3 6d3 fbd3=6ad 6ad 6ad 6ad 6c7 6c7 6c6 6c6 6c8 6c8
6c7+674 6cb 6cb 6c5 6c5 6c9 6c9 6d0 6d0 6d0 6d0 649 649 626+627 626+627 626+6d5 626+6d5 626+648 626+648
626+6c7 626+6c7 626+6c6 626+6c6 626+6c8 626+6c8 626+6d0 626+6d0 626+6d0 626+649 626+649 626+649 6cc 6cc
6cc 6cc 626+62c 626+62d 626+645 626+649 626+64a 628+62c 628+62d 628+62e 628+645 628+649 628+64a 62a+62c
62a+62d 62a+62e 62a+645 62a+649 62a+64a 62b+62c 62b+645 62b+649 62b+64a 62c+62d 62c+645 62d+62c 62d+645
62e+62c 62e+62d 62e+645 633+62c 633+62d 633+62e 633+645 635+62d 635+645 636+62c 636+62d 636+62e 636+645
637+62d 637+645 638+645 639+62c 639+645 63a+62c 63a+645 641+62c 641+62d 641+62e 641+645 641+649 641+64a
642+62d 642+645 642+649 642+64a 643+627 643+62c 643+62d 643+62e 643+644 643+645 643+649 643+64a 644+62c
644+62d 644+62e 644+645 644+649 644+64a 645+62c 645+62d 645+62e 645+645 645+649 645+64a 646+62c 646+62d
646+62e 646+645 646+649 646+64a 647+62c 647+645 647+649 647+64a 64a+62c 64a+62d 64a+62e 64a+645 64a+649
64a+64a 630+670 631+670 649+670 fc64=626+631 626+632 626+645 626+646 626+649 626+64a 628+631 628+632
628+645 628+646 628+649 628+64a 62a+631 62a+632 62a+645 62a+646 62a+649 62a+64a 62b+631 62b+632 62b+645
62b+646 62b+649 62b+64a 641+649 641+64a 642+649 642+64a 643+627 643+644 643+645 643+649 643+64a 644+645
644+649 644+64a 645+627 645+645 646+631 646+632 646+645 646+646 646+649 646+64a 649+670 64a+631 64a+632
64a+645 64a+646 64a+649 64a+64a 626+62c 626+62d 626+62e 626+645 626+647 628+62c 628+62d 628+62e 628+645
628+647 62a+62c 62a+62d 62a+62e 62a+645 62a+647 62b+645 62c+62d 62c+645 62d+62c 62d+645 62e+62c 62e+645
633+62c 633+62d 633+62e 633+645 635+62d 635+62e 635+645 636+62c 636+62d 636+62e 636+645 637+62d 638+645
639+62c 639+645 63a+62c 63a+645 641+62c 641+62d 641+62e 641+645 642+62d 642+645 643+62c 643+62d 643+62e
643+644 643+645 644+62c 644+62d 644+62e 644+645 644+647 645+62c 645+62d 645+62e 645+645 646+62c 646+62d
646+62e 646+645 646+647 647+62c 647+645 647+670 64a+62c 64a+62d 64a+62e 64a+645 64a+647 626+645 626+647
628+645 628+647 62a+645 62a+647 62b+645 62b+647 633+645 633+647 634+645 634+647 643+644 643+645 644+645
646+645 646+647 64a+645 64a+647 640+64e+651 640+64f+651 640+650+651 637+649 637+64a 639+649 639+64a
63a+649 63a+64a 633+649 633+64a 634+649 634+64a 62d+649 62d+64a 62c+649 62c+64a 62e+649 62e+64a 635+649
635+64a 636+649 636+64a 634+62c 634+62d 634+62e 634+645 634+631 633+631 635+631 636+631 637+649 637+64a
639+649 639+64a 63a+649 63a+64a 633+649 633+64a 634+649 634+64a 62d+649 62d+64a 62c+649 62c+64a 62e+649
62e+64a 635+649 635+64a 636+649 636+64a 634+62c 634+62d 634+62e 634+645 634+631 633+631 635+631 636+631
634+62c 634+62d 634+62e 634+645 633+647 634+647 637+645 633+62c 633+62d 633+62e 634+62c 634+62d 634+62e
637+645 638+645 627+64b 627+64b fd50=62a+62c+645 62a+62d+62c 62a+62d+62c 62a+62d+645 62a+62e+645
62a+645+62c 62a+645+62d 62a+645+62e 62c+645+62d 62c+645+62d 62d+645+64a 62d+645+649 633+62d+62c
633+62c+62d 633+62c+649 633+645+62d 633+645+62d 633+645+62c 633+645+645 633+645+645 635+62d+62d
635+62d+62d 635+645+645 634+62d+645 634+62d+645 634+62c+64a 634+645+62e 634+645+62e 634+645+645
634+645+645 636+62d+649 636+62e+645 636+62e+645 637+645+62d 637+645+62d 637+645+645 637+645+64a
639+62c+645 639+645+645 639+645+645 639+645+649 63a+645+645 63a+645+64a 63a+645+649 641+62e+645
641+62e+645 642+645+62d 642+645+645 644+62d+645 644+62d+64a 644+62d+649 644+62c+62c 644+62c+62c
644+62e+645 644+62e+645 644+645+62d 644+645+62d 645+62d+62c 645+62d+645 645+62d+64a 645+62c+62d
645+62c+645 645+62e+62c 645+62e+645 fd92=645+62c+62e 647+645+62c 647+645+645 646+62d+645 646+62d+649
646+62c+645 646+62c+645 646+62c+649 646+645+64a 646+645+649 64a+645+645 64a+645+645 628+62e+64a
62a+62c+64a 62a+62c+649 62a+62e+64a 62a+62e+649 62a+645+64a 62a+645+649 62c+645+64a 62c+62d+649
62c+645+649 633+62e+649 635+62d+64a 634+62d+64a 636+62d+64a 644+62c+64a 644+645+64a 64a+62d+64a
64a+62c+64a 64a+645+64a 645+645+64a 642+645+64a 646+62d+64a 642+645+62d 644+62d+645 639+645+64a
643+645+64a 646+62c+62d 645+62e+64a 644+62c+645 643+645+645 644+62c+645 646+62c+62d 62c+62d+64a
62d+62c+64a 645+62c+64a 641+645+64a 628+62d+64a 643+645+645 639+62c+645 635+645+645 633+62e+64a
646+62c+64a fdf0=635+644+6d2 642+644+6d2 627+644+644+647 627+643+628+631 645+62d+645+62f 635+644+639+645
631+633+648+644 639+644+64a+647 648+633+644+645 635+644+649 fdfc=631+6cc+627+644 fe10=2c 3001 fe14=3b 21
fe17=3016 3017 fe31=2014 2013 5f 5f 28 29 7b 7d 3014 3015 3010 3011 300a 300b 3008 3009 fe41-fe44=300c
fe4d=5f 5f 5f 2c 3001 fe54=3b fe57=21 2014 28 29 7b 7d 3014 3015 fe60=26 2a 2b 2d fe66=3d fe69=24
fe71=640+64b fe77=640+64e fe79=640+64f fe7b=640+650 fe7d=640+651 fe7f=640+652 621 622 622 623 623 624
624 625 625 626 626 626 626 627 627 628 628 628 628 629 629 62a 62a 62a 62a 62b 62b 62b 62b 62c 62c 62c
62c 62d 62d 62d 62d 62e 62e 62e 62e 62f 62f 630 630 631 631 632 632 633 633 633 633 634 634 634 634 635
635 635 635 636 636 636 636 637 637 637 637 638 638 638 638 639 639 639 639 63a 63a 63a 63a 641 641 641
641 642 642 642 642 643 643 643 643 644 644 644 644 645 645 645 645 646 646 646 646 647 647 647 647 648
648 649 649 64a 64a 64a 64a 644+622 644+622 644+623 644+623 644+625 644+625 644+627 644+627 ff01=21
ff02-ff18/2=22 ff07-ff0d/2=27 ff11-ff1d/2=31 ff21-ff3a=61 ff3f-ff5b=5f ff5d=7d 7e 2985 2986 2e 300c 300d
3001 30fb 30f2 30a1 30a3 30a5 30a7 30a9 30e3 30e5 30e7 30c3 30fc 30a2 30a4 30a6 30a8 30aa 30ab 30ad 30af
30b1 30b3 30b5 30b7 30b9 30bb 30bd 30bf 30c1 30c4 30c6 30c8 ff85-ff8a=30ca 30d2 30d5 30d8 30db
ff8f-ff93=30de 30e4 30e6 ff96-ff9b=30e8 30ef 30f3 3099 309a ffa1=1100 1101 11aa 1102 11ac 11ad
ffa7-ffa9=1103 ffaa-ffaf=11b0 111a ffb1-ffb3=1106 1121 ffb5-ffbe=1109 ffc2-ffc7=1161 ffca-ffcf=1167
ffd2-ffd7=116d ffda-ffdc=1173 ffe0=a2 a3 ac ffe4=a6 a5 20a9 ffe8=2502 ffe9-ffec=2190 25a0 25cb
10400-10427=10428 104b0-104d3=104d8 10570-10594/2=10597 10571-10579/2=10598 1057d-10589/2=105a4
1058d-10591/2=105b4 10595=105bc 10781=2d0 2d1 e6 299 253 10787=2a3 ab66 2a5 2a4 256 257 1d91 258 25e 2a9
264 262 260 29b 127 29c 267 284 2aa 2ab 26c 1df04 a78e 26e 1df05 28e 1df06 f8 276 277 71 27a 1df08 27d
27e 280 2a8 2a6 ab67 2a7 288 2c71 107b2=28f 2a1 2a2 298 107b6-107b8=1c0 1df0a 1df1e 10c80-10cb2=10cc0
10d50-10d65=10d70 118a0-118bf=118c0 16e40-16e5f=16e60 1ccd6-1ccef=61 1ccf0-1ccf9=30 1d15e=1d157+1d165
1d158+1d165 1d158+1d165+1d16e 1d158+1d165+1d16f 1d158+1d165+1d170 1d158+1d165+1d171 1d158+1d165+1d172
1d1bb=1d1b9+1d165 1d1ba+1d165 1d1b9+1d165+1d16e 1d1ba+1d165+1d16e 1d1b9+1d165+1d16f 1d1ba+1d165+1d16f
1d400-1d419=61 1d41a-1d433=61 1d434-1d44d=61 1d44e-1d466/2=61 1d44f-1d453/2=62 1d457-1d467/2=6a
1d468-1d481=61 1d482-1d49b=61 61 1d49e=63 64 1d4a2=67 1d4a5=6a 6b 1d4a9-1d4ac=6e 1d4ae-1d4b5=73
1d4b6-1d4b9=61 1d4bb-1d4cf/2=66 1d4be-1d4c2/2=69 1d4c6-1d4ce/2=71 1d4d0-1d4e9=61 1d4ea-1d503=61 61
1d505-1d509/2=62 1d508=65 1d50a=67 1d50d-1d514=6a 1d516-1d51c=73 1d51e-1d537=61 61 1d539-1d53d/2=62
1d53c-1d546/2=65 1d541=6a 1d543=6c 1d54a-1d550=73 1d552-1d56b=61 1d56c-1d585=61 1d586-1d59f=61
1d5a0-1d5b9=61 1d5ba-1d5d3=61 1d5d4-1d5ed=61 1d5ee-1d607=61 1d608-1d621=61 1d622-1d63b=61 1d63c-1d655=61
1d656-1d66f=61 1d670-1d689=61 1d68a-1d6a3=61 131 237 1d6a8-1d6b8=3b1 3b8 1d6ba-1d6c0=3c3 2207
1d6c2-1d6d2=3b1 3c3 1d6d4-1d6da=3c3 2202 3b5 3b8 3ba 3c6 3c1 3c0 1d6e2-1d6f2=3b1 3b8 1d6f4-1d6fa=3c3
2207 1d6fc-1d70c=3b1 3c3 1d70e-1d714=3c3 2202 3b5 3b8 3ba 3c6 3c1 3c0 1d71c-1d72c=3b1 3b8
1d72e-1d734=3c3 2207 1d736-1d746=3b1 3c3 1d748-1d74e=3c3 2202 3b5 3b8 3ba 3c6 3c1 3c0 1d756-1d766=3b1
3b8 1d768-1d76e=3c3 2207 1d770-1d780=3b1 3c3 1d782-1d788=3c3 2202 3b5 3b8 3ba 3c6 3c1 3c0
1d790-1d7a0=3b1 3b8 1d7a2-1d7a8=3c3 2207 1d7aa-1d7ba=3b1 3c3 1d7bc-1d7c2=3c3 2202 3b5 3b8 3ba 3c6 3c1
3c0 3dd 3dd 1d7ce-1d7d7=30 1d7d8-1d7e1=30 1d7e2-1d7eb=30 1d7ec-1d7f5=30 1d7f6-1d7ff=30 1e030-1e038=430
1e039-1e03b=43a 1e03c-1e046=43e 44b 44d 44e a689 4d9 456 458 4e9 4af 4cf 1e051-1e059=430 43a 43b 43e 43f
441 1e05f-1e064=443 44a 44b 491 456 455 45f 4ab a651 4b1 1e900-1e921=1e922 1ee00=627 628 62c 62f
1ee05=648 632 62d 637 64a 1ee0a-1ee0d=643 633 639 641 635 642 631 634 62a 62b 62e 630 636 638 63a 66e
6ba 6a1 66f 1ee21=628 62c 1ee24=647 1ee27=62d 1ee29=64a 1ee2a-1ee2d=643 633 639 641 635 642 1ee34=634
62a 62b 62e 1ee39=636 1ee3b=63a 1ee42=62c 1ee47=62d 1ee49=64a 1ee4b=644 1ee4d=646 633 639 1ee51=635 642
1ee54=634 1ee57=62e 1ee59=636 1ee5b=63a 1ee5d=6ba 1ee5f=66f 1ee61=628 62c 1ee64=647 1ee67=62d 637 64a
643 1ee6c=645 646 633 639 641 635 642 1ee74=634 62a 62b 62e 1ee79=636 638 63a 66e 1ee7e=6a1 1ee80=627
628 62c 62f 647 648 632 62d 637 64a 1ee8b-1ee8d=644 633 639 641 635 642 631 634 62a 62b 62e 630 636 638
63a 1eea1=628 62c 62f 1eea5=648 632 62d 637 64a 1eeab-1eead=644 633 639 641 635 642 631 634 62a 62b 62e
630 636 638 63a 1f101=30+2c 31+2c 32+2c 33+2c 34+2c 35+2c 36+2c 37+2c 38+2c 39+2c 1f110=28+61+29
28+62+29 28+63+29 28+64+29 28+65+29 28+66+29 28+67+29 28+68+29 28+69+29 28+6a+29 28+6b+29 28+6c+29
28+6d+29 28+6e+29 28+6f+29 28+70+29 28+71+29 28+72+29 28+73+29 28+74+29 28+75+29 28+76+29 28+77+29
28+78+29 28+79+29 28+7a+29 3014+73+3015 63 72 63+64 77+7a 1f130-1f149=61 68+76 6d+76 73+64 73+73
70+70+76 77+63 1f16a=6d+63 6d+64 6d+72 1f190=64+6a 1f200=307b+304b 30b3+30b3 30b5 1f210=624b 5b57 53cc
30c7 4e8c 591a 89e3 5929 4ea4 6620 7121 6599 524d 5f8c 518d 65b0 521d 7d42 751f 8ca9 58f0 5439 6f14 6295
6355 4e00 4e09 904a 5de6 4e2d 53f3 6307 8d70 6253 7981 7a7a 5408 6e80 6709 6708 7533 5272 55b6 914d
1f240=3014+672c+3015 3014+4e09+3015 3014+4e8c+3015 3014+5b89+3015 3014+70b9+3015 3014+6253+3015
3014+76d7+3015 3014+52dd+3015 3014+6557+3015 1f250=5f97 53ef 1fbf0-1fbf9=30 2f800=4e3d 4e38 4e41 20122
4f60 4fae 4fbb 5002 507a 5099 50e7 50cf 349e 2063a 514d 5154 5164 5177 2051c 34b9 5167 518d 2054b 5197
51a4 4ecc 51ac 51b5 291df 51f5 5203 34df 523b 5246 5272 5277 3515 52c7 52c9 52e4 52fa 5305 5306 5317
5349 5351 535a 5373 537d 537f 537f 537f 20a2c 7070 53ca 53df 20b63 53eb 53f1 5406 549e 5438 5448 5468
54a2 54f6 5510 5553 5563 5584 5584 5599 55ab 55b3 55c2 5716 5606 5717 5651 5674 5207 58ee 57ce 57f4 580d
578b 5832 5831 58ac 214e4 58f2 58f7 5906 591a 5922 5962 216a8 216ea 59ec 5a1b 5a27 59d8 5a66 36ee 36fc
5b08 5b3e 5b3e 219c8 5bc3 5bd8 5be7 5bf3 21b18 5bff 5c06 5f53 5c22 3781 5c60 5c6e 5cc0 5c8d 21de4 5d43
21de6 5d6e 5d6b 5d7c 5de1 5de2 382f 5dfd 5e28 5e3d 5e69 3862 22183 387c 5eb0 5eb3 5eb6 5eca 2a392 5efe
22331 22331 8201 5f22 5f22 38c7 232b8 261da 5f62 5f6b 38e3 5f9a 5fcd 5fd7 5ff9 6081 393a 391c 6094 226d4
60c7 6148 614c 614e 614c 617a 618e 61b2 61a4 61af 61de 61f2 61f6 6210 621b 625d 62b1 62d4 6350 22b0c
633d 62fc 6368 6383 63e4 22bf1 6422 63c5 63a9 3a2e 6469 647e 649d 6477 3a6c 654f 656c 2300a 65e3 66f8
6649 3b19 6691 3b08 3ae4 5192 5195 6700 669c 80ad 43d9 6717 671b 6721 675e 6753 233c3 3b49 67fa 6785
6852 6885 2346d 688e 681f 6914 3b9d 6942 69a3 69ea 6aa8 236a3 6adb 3c18 6b21 238a7 6b54 3c4e 6b72 6b9f
6bba 6bbb 23a8d 21d0b 23afa 6c4e 23cbc 6cbf 6ccd 6c67 6d16 6d3e 6d77 6d41 6d69 6d78 6d85 23d1e 6d34 6e2f
6e6e 3d33 6ecb 6ec7 23ed1 6df9 6f6e 23f5e 23f8e 6fc6 7039 701e 701b 3d96 704a 707d 7077 70ad 20525 7145
24263 719c 243ab 7228 7235 7250 24608 7280 7295 24735 24814 737a 738b 3eac 73a5 3eb8 3eb8 7447 745c 7471
7485 74ca 3f1b 7524 24c36 753e 24c92 7570 2219f 7610 24fa1 24fb8 25044 3ffc 4008 76f4 250f3 250f2 25119
25133 771e 771f 771f 774a 4039 778b 4046 4096 2541d 784e 788c 78cc 40e3 25626 7956 2569a 256c5 798f 79eb
412f 7a40 7a4a 7a4f 2597c 25aa7 25aa7 7aee 4202 25bab 7bc6 7bc9 4227 25c80 7cd2 42a0 7ce8 7ce3 7d00
25f86 7d63 4301 7dc7 7e02 7e45 4334 26228 26247 4359 262d9 7f7a 2633e 7f95 7ffa 8005 264da 26523 8060
265a8 8070 2335f 43d5 80b2 8103 440b 813e 5ab5 267a7 267b5 23393 2339c 8201 8204 8f9e 446b 8291 828b
829d 52b3 82b1 82b3 82bd 82e6 26b3c 82e5 831d 8363 83ad 8323 83bd 83e7 8457 8353 83ca 83cc 83dc 26c36
26d6b 26cd5 452b 84f1 84f3 8516 273ca 8564 26f2c 455d 4561 26fb1 270d2 456b 8650 865c 8667 8669 86a9
8688 870e 86e2 8779 8728 876b 8786 45d7 87e1 8801 45f9 8860 8863 27667 88d7 88de 4635 88fa 34bb 278ae
27966 46be 46c7 8aa0 8aed 8b8a 8c55 27ca8 8cab 8cc1 8d1b 8d77 27f2f 20804 8dcb 8dbc 8df0 208de 8ed4 8f38
285d2 285ed 9094 90f1 9111 2872e 911b 9238 92d7 92d8 927c 93f9 9415 28bfa 958b 4995 95b7 28d77 49e6 96c3
5db2 9723 29145 2921a 4a6e 4a76 97e0 2940a 4ab2 29496 980b 980b 9829 295b6 98e2 4b33 9929 99a7 99c2 99fe
4bce 29b30 9b12 9c40 9cfd 4cce 4ced 9d67 2a0ce 4cf8 2a105 2a20e 2a291 9ebb 4d56 9ef9 9efe 9f05 9f0f 9f16
9f3b 2a600"

def mapping : List Table.Row := Table.rows mappingText

/-- Where characters that can be in a name and others take turns, the first ones in a name. Those that are written
as others or left out count as either. -/
def usableText : String := "
80 a1 a8 a9 af b0 b4 b6 b8 bb 2d8 2de 378 37b 380 390 3a2 3ac 530 559 58b 58d 590 591 5c8 5d0 5eb 5ef
5f5 606 61c 61d 6dd 6de 70e 710 74b 74d 7b2 7c0 7fb 7fd 82e 830 83f 840 85c 85e 85f 860 86b 870 88f 897
8e2 8e3 984 985 98d 98f 991 993 9a9 9aa 9b1 9b2 9b3 9b6 9ba 9bc 9c5 9c7 9c9 9cb 9cf 9d7 9d8 9e0 9e4 9e6
9ff a01 a04 a05 a0b a0f a11 a13 a29 a2a a31 a32 a34 a35 a37 a38 a3a a3c a3d a3e a43 a47 a49 a4b a4e a51
a52 a5c a5d a66 a77 a81 a84 a85 a8e a8f a92 a93 aa9 aaa ab1 ab2 ab4 ab5 aba abc ac6 ac7 aca acb ace ad0
ad1 ae0 ae4 ae6 af2 af9 b00 b01 b04 b05 b0d b0f b11 b13 b29 b2a b31 b32 b34 b35 b3a b3c b45 b47 b49 b4b
b4e b55 b58 b5f b64 b66 b78 b82 b84 b85 b8b b8e b91 b92 b96 b99 b9b b9c b9d b9e ba0 ba3 ba5 ba8 bab bae
bba bbe bc3 bc6 bc9 bca bce bd0 bd1 bd7 bd8 be6 bfb c00 c0d c0e c11 c12 c29 c2a c3a c3c c45 c46 c49 c4a
c4e c55 c57 c58 c5b c5d c5e c60 c64 c66 c70 c77 c8d c8e c91 c92 ca9 caa cb4 cb5 cba cbc cc5 cc6 cc9 cca
cce cd5 cd7 cdd cdf ce0 ce4 ce6 cf0 cf1 cf4 d00 d0d d0e d11 d12 d45 d46 d49 d4a d50 d54 d64 d66 d80 d81
d84 d85 d97 d9a db2 db3 dbc dbd dbe dc0 dc7 dca dcb dcf dd5 dd6 dd7 dd8 de0 de6 df0 df2 df5 e01 e3b e3f
e5c e81 e83 e84 e85 e86 e8b e8c ea4 ea5 ea6 ea7 ebe ec0 ec5 ec6 ec7 ec8 ecf ed0 eda ede ee0 f00 f48 f49
f6d f71 f98 f99 fbd fbe fcd fce fdb 1000 10c6 10d0 1249 124a 124e 1250 1257 1258 1259 125a 125e 1260
1289 128a 128e 1290 12b1 12b2 12b6 12b8 12bf 12c0 12c1 12c2 12c6 12c8 12d7 12d8 1311 1312 1316 1318 135b
135d 137d 1380 139a 13a0 13f6 1400 1680 1681 169d 16a0 16f9 1700 1716 171f 1737 1740 1754 1760 176d 176e
1771 1772 1774 1780 17de 17e0 17ea 17f0 17fa 1800 181a 1820 1879 1880 18ab 18b0 18f6 1900 191f 1920 192c
1930 193c 1940 1941 1944 196e 1970 1975 1980 19ac 19b0 19ca 19d0 19db 19de 1a1c 1a1e 1a5f 1a60 1a7d 1a7f
1a8a 1a90 1a9a 1aa0 1aae 1ab0 1acf 1b00 1b4d 1b4e 1bf4 1bfc 1c38 1c3b 1c4a 1c4d 1c8b 1cc0 1cc8 1cd0 1cfb
1d00 1f16 1f20 1f46 1f50 1f58 1f60 1f7e 1fb0 1fb5 1fb6 1fbd 1fc6 1fcd 1fd0 1fd4 1fd6 1fdc 1fe0 1fed 1ff6
1ffd 200c 200e 2010 2017 2018 2024 2027 2028 2030 203e 203f 2047 204a 205f 20a0 20c1 20d0 20f1 2104 2105
2108 218c 2190 242a 2440 244b 24eb 2a74 2a77 2b74 2b76 2b96 2b97 2cf4 2cf9 2d26 2d27 2d28 2d2d 2d2e 2d30
2d68 2d70 2d71 2d7f 2d97 2da0 2da7 2da8 2daf 2db0 2db7 2db8 2dbf 2dc0 2dc7 2dc8 2dcf 2dd0 2dd7 2dd8 2ddf
2de0 2e5e 2e80 2e9a 2e9b 2ef4 3001 3040 3041 3097 3099 309b 309d 3100 3105 3130 3190 31e6 31f0 321f 3248
33c2 3400 a48d a490 a4c7 a4d0 a62c a641 a6f8 a700 a7ce a7d1 a7d2 a7d3 a7d4 a7d5 a7dd a7f6 a82d a830 a83a
a840 a878 a880 a8c6 a8ce a8da a8e0 a954 a95f a97d a980 a9ce a9cf a9da a9de a9ff aa00 aa37 aa40 aa4e aa50
aa5a aa5c aac3 aadb aaf7 ab01 ab07 ab09 ab0f ab11 ab17 ab20 ab27 ab28 ab2f ab30 ab6c abc0 abee abf0 abfa
ac00 d7a4 d7b0 d7c7 d7cb d7fc fa0e fa6e fb1e fb37 fbb2 fbc3 fd3e fd90 fdcf fdd0 fdfd fe12 fe20 fe30 fe45
fe47 fe73 fe74 10000 1000c 1000d 10027 10028 1003b 1003c 1003e 1003f 1004e 10050 1005e 10080 100fb 10100
10103 10107 10134 10137 1018f 10190 1019d 101a0 101a1 101d0 101fe 10280 1029d 102a0 102d1 102e0 102fc
10300 10324 1032d 1034b 10350 1037b 10380 1039e 1039f 103c4 103c8 103d6 10428 1049e 104a0 104aa 104d8
104fc 10500 10528 10530 10564 1056f 1057b 10597 105a2 105a3 105b2 105b3 105ba 105bb 105bd 105c0 105f4
10600 10737 10740 10756 10760 10768 10780 10786 10800 10806 10808 10809 1080a 10836 10837 10839 1083c
1083d 1083f 10856 10857 1089f 108a7 108b0 108e0 108f3 108f4 108f6 108fb 1091c 1091f 1093a 1093f 10940
10980 109b8 109bc 109d0 109d2 10a04 10a05 10a07 10a0c 10a14 10a15 10a18 10a19 10a36 10a38 10a3b 10a3f
10a49 10a50 10a59 10a60 10aa0 10ac0 10ae7 10aeb 10af7 10b00 10b36 10b39 10b56 10b58 10b73 10b78 10b92
10b99 10b9d 10ba9 10bb0 10c00 10c49 10cc0 10cf3 10cfa 10d28 10d30 10d3a 10d40 10d66 10d69 10d86 10d8e
10d90 10e60 10e7f 10e80 10eaa 10eab 10eae 10eb0 10eb2 10ec2 10ec5 10efc 10f28 10f30 10f5a 10f70 10f8a
10fb0 10fcc 10fe0 10ff7 11000 1104e 11052 11076 1107f 110bd 110be 110c3 110d0 110e9 110f0 110fa 11100
11135 11136 11148 11150 11177 11180 111e0 111e1 111f5 11200 11212 11213 11242 11280 11287 11288 11289
1128a 1128e 1128f 1129e 1129f 112aa 112b0 112eb 112f0 112fa 11300 11304 11305 1130d 1130f 11311 11313
11329 1132a 11331 11332 11334 11335 1133a 1133b 11345 11347 11349 1134b 1134e 11350 11351 11357 11358
1135d 11364 11366 1136d 11370 11375 11380 1138a 1138b 1138c 1138e 1138f 11390 113b6 113b7 113c1 113c2
113c3 113c5 113c6 113c7 113cb 113cc 113d6 113d7 113d9 113e1 113e3 11400 1145c 1145d 11462 11480 114c8
114d0 114da 11580 115b6 115b8 115de 11600 11645 11650 1165a 11660 1166d 11680 116ba 116c0 116ca 116d0
116e4 11700 1171b 1171d 1172c 11730 11747 11800 1183c 118c0 118f3 118ff 11907 11909 1190a 1190c 11914
11915 11917 11918 11936 11937 11939 1193b 11947 11950 1195a 119a0 119a8 119aa 119d8 119da 119e5 11a00
11a48 11a50 11aa3 11ab0 11af9 11b00 11b0a 11bc0 11be2 11bf0 11bfa 11c00 11c09 11c0a 11c37 11c38 11c46
11c50 11c6d 11c70 11c90 11c92 11ca8 11ca9 11cb7 11d00 11d07 11d08 11d0a 11d0b 11d37 11d3a 11d3b 11d3c
11d3e 11d3f 11d48 11d50 11d5a 11d60 11d66 11d67 11d69 11d6a 11d8f 11d90 11d92 11d93 11d99 11da0 11daa
11ee0 11ef9 11f00 11f11 11f12 11f3b 11f3e 11f5b 11fb0 11fb1 11fc0 11ff2 11fff 1239a 12400 1246f 12470
12475 12480 12544 12f90 12ff3 13000 13430 13440 13456 13460 143fb 14400 14647 16100 1613a 16800 16a39
16a40 16a5f 16a60 16a6a 16a6e 16abf 16ac0 16aca 16ad0 16aee 16af0 16af6 16b00 16b46 16b50 16b5a 16b5b
16b62 16b63 16b78 16b7d 16b90 16d40 16d7a 16e60 16e9b 16f00 16f4b 16f4f 16f88 16f8f 16fa0 16fe0 16fe5
16ff0 16ff2 17000 187f8 18800 18cd6 18cff 18d09 1aff0 1aff4 1aff5 1affc 1affd 1afff 1b000 1b123 1b132
1b133 1b150 1b153 1b155 1b156 1b164 1b168 1b170 1b2fc 1bc00 1bc6b 1bc70 1bc7d 1bc80 1bc89 1bc90 1bc9a
1bc9c 1bca4 1cc00 1ccfa 1cd00 1ceb4 1cf00 1cf2e 1cf30 1cf47 1cf50 1cfc4 1d000 1d0f6 1d100 1d127 1d129
1d1eb 1d200 1d246 1d2c0 1d2d4 1d2e0 1d2f4 1d300 1d357 1d360 1d379 1d800 1da8c 1da9b 1daa0 1daa1 1dab0
1df00 1df1f 1df25 1df2b 1e000 1e007 1e008 1e019 1e01b 1e022 1e023 1e025 1e026 1e02b 1e08f 1e090 1e100
1e12d 1e130 1e13e 1e140 1e14a 1e14e 1e150 1e290 1e2af 1e2c0 1e2fa 1e2ff 1e300 1e4d0 1e4fa 1e5d0 1e5fb
1e5ff 1e600 1e7e0 1e7e7 1e7e8 1e7ec 1e7ed 1e7ef 1e7f0 1e7ff 1e800 1e8c5 1e8c7 1e8d7 1e922 1e94c 1e950
1e95a 1e95e 1e960 1ec71 1ecb5 1ed01 1ed3e 1eef0 1eef2 1f000 1f02c 1f030 1f094 1f0a0 1f0af 1f0b1 1f0c0
1f0c1 1f0d0 1f0d1 1f0f6 1f10b 1f1ae 1f1e6 1f203 1f260 1f266 1f300 1f6d8 1f6dc 1f6ed 1f6f0 1f6fd 1f700
1f777 1f77b 1f7da 1f7e0 1f7ec 1f7f0 1f7f1 1f800 1f80c 1f810 1f848 1f850 1f85a 1f860 1f888 1f890 1f8ae
1f8b0 1f8bc 1f8c0 1f8c2 1f900 1fa54 1fa60 1fa6e 1fa70 1fa7d 1fa80 1fa8a 1fa8f 1fac7 1face 1fadd 1fadf
1faea 1faf0 1faf9 1fb00 1fb93 1fb94 1fbfa 20000 2a6e0 2a700 2b73a 2b740 2b81e 2b820 2cea2 2ceb0 2ebe1
2ebf0 2ee5e 30000 3134b 31350 323b0"

def usableBounds : List Nat := Table.numbers usableText

def markText : String := "
300 371 483 48b 591 5be 5bf 5c0 5c1 5c3 5c4 5c6 5c7 5d0 610 61b 64b 660 670 671 6d6 6de 6df 6e5 6e7 6e9
6ea 6ee 711 712 730 74d 7a6 7b1 7eb 7f4 7fd 7fe 816 81a 81b 824 825 828 829 830 859 85e 897 8a0 8ca 904
93a 93d 93e 950 951 960 962 964 981 985 9bc 9bd 9be 9ce 9d7 9e0 9e2 9e6 9fe a05 a3c a5c a70 a72 a75 a76
a81 a85 abc abd abe ad0 ae2 ae6 afa b05 b3c b3d b3e b5f b62 b66 b82 b83 bbe bd0 bd7 be6 c00 c05 c3c c3d
c3e c58 c62 c66 c81 c84 cbc cbd cbe cdd ce2 ce6 cf3 d04 d3b d3d d3e d4e d57 d58 d62 d66 d81 d85 dca de6
df2 df4 e31 e32 e34 e3f e47 e4f eb1 eb2 eb4 ebd ec8 ed0 f18 f1a f35 f36 f37 f38 f39 f3a f3e f40 f71 f85
f86 f88 f8d fbe fc6 fc7 102b 103f 1056 105a 105e 1061 1062 1065 1067 106e 1071 1075 1082 108e 108f 1090
109a 109e 135d 1360 1712 171f 1732 1735 1752 1760 1772 1780 17b6 17d4 17dd 17e0 1885 1887 18a9 18aa 1920
1940 1a17 1a1e 1a55 1a80 1ab0 1b05 1b34 1b45 1b6b 1b74 1b80 1b83 1ba1 1bae 1be6 1bfc 1c24 1c3b 1cd0 1cd3
1cd4 1ce9 1ced 1cee 1cf4 1cf5 1cf7 1cfa 1dc0 1e01 20d0 2104 2cef 2cf3 2d7f 2d80 2de0 2e00 302a 3030 3099
309d a66f a673 a674 a67e a69e a6a0 a6f0 a6f2 a802 a803 a806 a807 a80b a80c a823 a828 a82c a830 a880 a882
a8b4 a8ce a8e0 a8f2 a8ff a900 a926 a92e a947 a95f a980 a984 a9b3 a9c1 a9e5 a9e6 aa29 aa40 aa43 aa44 aa4c
aa50 aa7b aa7e aab0 aab1 aab2 aab5 aab7 aab9 aabe aac0 aac1 aac2 aaeb aaf0 aaf5 ab01 abe3 abeb abec abf0
fb1e fbb2 fe20 fe45 101fd 10280 102e0 102e1 10376 10380 10a01 10a10 10a38 10a40 10ae5 10aeb 10d24 10d30
10d69 10d6e 10eab 10ead 10efc 10f00 10f46 10f51 10f82 10f86 11000 11003 11038 11047 11070 11071 11073
11075 1107f 11083 110b0 110bb 110c2 110d0 11100 11103 11127 11136 11145 11147 11173 11174 11180 11183
111b3 111c1 111c9 111cd 111ce 111d0 1122c 11238 1123e 1123f 11241 11280 112df 112f0 11300 11305 1133b
1133d 1133e 11350 11357 1135d 11362 11380 113b8 113d1 113d2 113d3 113e1 11400 11435 11447 1145e 1145f
114b0 114c4 115af 115c1 115dc 11600 11630 11641 116ab 116b8 1171d 11730 1182c 1183b 11930 1193f 11940
11941 11942 11944 119d1 119e1 119e4 11a00 11a01 11a0b 11a33 11a3a 11a3b 11a3f 11a47 11a50 11a51 11a5c
11a8a 11a9a 11c2f 11c40 11c92 11d00 11d31 11d46 11d47 11d50 11d8a 11d98 11ef3 11ef7 11f00 11f02 11f03
11f04 11f34 11f43 11f5a 11fb0 13440 13441 13447 13460 1611e 16130 16af0 16af5 16b30 16b37 16f4f 16f50
16f51 16f93 16fe4 17000 1bc9d 1bc9f 1cf00 1cf50 1d165 1d16a 1d16d 1d183 1d185 1d18c 1d1aa 1d1ae 1d242
1d245 1da00 1da37 1da3b 1da6d 1da75 1da76 1da84 1da85 1da9b 1df00 1e000 1e100 1e130 1e137 1e2ae 1e2c0
1e2ec 1e2f0 1e4ec 1e4f0 1e5ee 1e5f0 1e8d0 1e922 1e944 1e94b"

def markBounds : List Nat := Table.numbers markText

/-- How characters run: from the left or from the right, as digits of either kind of text, as marks do, or as the
text around them does. -/
inductive Direction where
  | left
  | right
  | digit
  | rightDigit
  | mark
  | neutral
  deriving DecidableEq

def readDirection : List Char → Direction
  | ['R'] => .right
  | ['E'] => .digit
  | ['A'] => .rightDigit
  | ['M'] => .mark
  | ['N'] => .neutral
  | _ => .left

def directionText : String := "
a1:N df:L f7:N f8:L 2b9:N 2bb:L 2c2:N 2d0:L 2d2:N 2ee:L 2ef:N 300:M 371:L 375:N 377:L 3f6:N 3f8:L 483:M
48b:L 58a:N 591:M 5be:R 5bf:M 5c0:R 5c1:M 5c3:R 5c4:M 5c6:R 5c7:M 5d0:R 606:N 608:R 609:N 60b:R 60c:N
60d:R 60e:N 610:M 61b:R 64b:M 660:A 66a:N 66b:A 66d:R 670:M 671:R 6d6:M 6de:N 6df:M 6e5:R 6e7:M 6e9:N
6ea:M 6ee:R 6f0:E 6fa:R 711:M 712:R 730:M 74d:R 7a6:M 7b1:R 7eb:M 7f4:R 7f6:N 7fa:R 7fd:M 7fe:R 816:M
81a:R 81b:M 824:R 825:M 828:R 829:M 830:R 859:M 85e:R 897:M 8a0:R 8ca:M 903:L 93a:M 93b:L 93c:M 93d:L
941:M 949:L 94d:M 94e:L 951:M 960:L 962:M 964:L 981:M 982:L 9bc:M 9bd:L 9c1:M 9c7:L 9cd:M 9ce:L 9e2:M
9e6:L 9f2:N 9f4:L 9fb:N 9fc:L 9fe:M a03:L a3c:M a3e:L a41:M a5c:L a70:M a72:L a75:M a76:L a81:M a83:L
abc:M abd:L ac1:M ac9:L acd:M ad0:L ae2:M ae6:L af1:N af9:L afa:M b02:L b3c:M b3d:L b3f:M b40:L b41:M
b47:L b4d:M b57:L b62:M b66:L b82:M b83:L bc0:M bc1:L bcd:M bd0:L bf3:N c00:M c01:L c04:M c05:L c3c:M
c3d:L c3e:M c41:L c46:M c58:L c62:M c66:L c78:N c7f:L c81:M c82:L cbc:M cbd:L ccc:M cd5:L ce2:M ce6:L
d00:M d02:L d3b:M d3d:L d41:M d46:L d4d:M d4e:L d62:M d66:L d81:M d82:L dca:M dcf:L dd2:M dd8:L e31:M
e32:L e34:M e3f:N e40:L e47:M e4f:L eb1:M eb2:L eb4:M ebd:L ec8:M ed0:L f18:M f1a:L f35:M f36:L f37:M
f38:L f39:M f3a:N f3e:L f71:M f7f:L f80:M f85:L f86:M f88:L f8d:M fbe:L fc6:M fc7:L 102d:M 1031:L 1032:M
1038:L 1039:M 103b:L 103d:M 103f:L 1058:M 105a:L 105e:M 1061:L 1071:M 1075:L 1082:M 1083:L 1085:M 1087:L
108d:M 108e:L 109d:M 109e:L 135d:M 1360:L 1390:N 13a0:L 1400:N 1401:L 169b:N 16a0:L 1712:M 1715:L 1732:M
1734:L 1752:M 1760:L 1772:M 1780:L 17b7:M 17be:L 17c6:M 17c7:L 17c9:M 17d4:L 17db:N 17dc:L 17dd:M 17e0:L
17f0:N 1810:L 1885:M 1887:L 18a9:M 18aa:L 1920:M 1923:L 1927:M 1929:L 1932:M 1933:L 1939:M 1940:N 1946:L
19de:N 1a00:L 1a17:M 1a19:L 1a1b:M 1a1e:L 1a56:M 1a57:L 1a58:M 1a61:L 1a62:M 1a63:L 1a65:M 1a6d:L 1a73:M
1a80:L 1ab0:M 1b04:L 1b34:M 1b35:L 1b36:M 1b3b:L 1b3c:M 1b3d:L 1b42:M 1b43:L 1b6b:M 1b74:L 1b80:M 1b82:L
1ba2:M 1ba6:L 1ba8:M 1baa:L 1bab:M 1bae:L 1be6:M 1be7:L 1be8:M 1bea:L 1bed:M 1bee:L 1bef:M 1bf2:L 1c2c:M
1c34:L 1c36:M 1c3b:L 1cd0:M 1cd3:L 1cd4:M 1ce1:L 1ce2:M 1ce9:L 1ced:M 1cee:L 1cf4:M 1cf5:L 1cf8:M 1cfa:L
1dc0:M 1e01:L 200c:N 20d0:M 2104:N 214e:L 218a:N 2336:L 237b:N 2395:L 2396:N 26ac:L 26ad:N 2800:L 2900:N
2c30:L 2ce5:N 2cec:L 2cef:M 2cf3:L 2cf9:N 2d00:L 2d7f:M 2d80:L 2de0:M 2e00:N 3005:L 3008:N 3021:L 302a:M
302e:L 3030:N 3031:L 3037:N 303b:L 303d:N 3041:L 3099:M 309d:L 30a0:N 30a1:L 30fb:N 30fc:L 31c0:N 31f0:L
4dc0:N 4e00:L a490:N a4d0:L a60d:N a610:L a66f:M a673:N a674:M a67e:N a681:L a69e:M a6a0:L a6f0:M a6f2:L
a700:N a723:L a788:N a789:L a802:M a803:L a806:M a807:L a80b:M a80c:L a825:M a827:L a828:N a82c:M a830:L
a838:N a840:L a874:N a880:L a8c4:M a8ce:L a8e0:M a8f2:L a8ff:M a900:L a926:M a92e:L a947:M a952:L a980:M
a983:L a9b3:M a9b4:L a9b6:M a9ba:L a9bc:M a9be:L a9e5:M a9e6:L aa29:M aa2f:L aa31:M aa33:L aa35:M aa40:L
aa43:M aa44:L aa4c:M aa4d:L aa7c:M aa7d:L aab0:M aab1:L aab2:M aab5:L aab7:M aab9:L aabe:M aac0:L aac1:M
aac2:L aaec:M aaee:L aaf6:M ab01:L ab6a:N abc0:L abe5:M abe6:L abe8:M abe9:L abed:M abf0:L fb1e:M fbb2:R
fd3e:N fe20:M fe45:N fe73:R 10000:L 10101:N 10102:L 10140:N 1018d:L 10190:N 101d0:L 101fd:M 10280:L
102e0:M 102e1:E 10300:L 10376:M 10380:L 10800:R 1091f:N 10920:R 10a01:M 10a10:R 10a38:M 10a40:R 10ae5:M
10aeb:R 10b39:N 10b40:R 10d24:M 10d30:A 10d40:R 10d69:M 10d6e:N 10d6f:R 10e60:A 10e80:R 10eab:M 10ead:R
10efc:M 10f00:R 10f46:M 10f51:R 10f82:M 10f86:R 11000:L 11001:M 11002:L 11038:M 11047:L 11052:N 11066:L
11070:M 11071:L 11073:M 11075:L 1107f:M 11082:L 110b3:M 110b7:L 110b9:M 110bb:L 110c2:M 110d0:L 11100:M
11103:L 11127:M 1112c:L 1112d:M 11136:L 11173:M 11174:L 11180:M 11182:L 111b6:M 111bf:L 111c9:M 111cd:L
111cf:M 111d0:L 1122f:M 11232:L 11234:M 11235:L 11236:M 11238:L 1123e:M 1123f:L 11241:M 11280:L 112df:M
112e0:L 112e3:M 112f0:L 11300:M 11302:L 1133b:M 1133d:L 11340:M 11341:L 11366:M 11380:L 113bb:M 113c2:L
113ce:M 113cf:L 113d0:M 113d1:L 113d2:M 113d3:L 113e1:M 11400:L 11438:M 11440:L 11442:M 11445:L 11446:M
11447:L 1145e:M 1145f:L 114b3:M 114b9:L 114ba:M 114bb:L 114bf:M 114c1:L 114c2:M 114c4:L 115b2:M 115b8:L
115bc:M 115be:L 115bf:M 115c1:L 115dc:M 11600:L 11633:M 1163b:L 1163d:M 1163e:L 1163f:M 11641:L 11660:N
11680:L 116ab:M 116ac:L 116ad:M 116ae:L 116b0:M 116b6:L 116b7:M 116b8:L 1171d:M 11720:L 11722:M 11726:L
11727:M 11730:L 1182f:M 11838:L 11839:M 1183b:L 1193b:M 1193d:L 1193e:M 1193f:L 11943:M 11944:L 119d4:M
119dc:L 119e0:M 119e1:L 11a01:M 11a07:L 11a09:M 11a0b:L 11a33:M 11a39:L 11a3b:M 11a3f:L 11a47:M 11a50:L
11a51:M 11a57:L 11a59:M 11a5c:L 11a8a:M 11a97:L 11a98:M 11a9a:L 11c30:M 11c3e:L 11c92:M 11ca9:L 11caa:M
11cb1:L 11cb2:M 11cb4:L 11cb5:M 11d00:L 11d31:M 11d46:L 11d47:M 11d50:L 11d90:M 11d93:L 11d95:M 11d96:L
11d97:M 11d98:L 11ef3:M 11ef5:L 11f00:M 11f02:L 11f36:M 11f3e:L 11f40:M 11f41:L 11f42:M 11f43:L 11f5a:M
11fb0:L 11fd5:N 11fff:L 13440:M 13441:L 13447:M 13460:L 1611e:M 1612a:L 1612d:M 16130:L 16af0:M 16af5:L
16b30:M 16b37:L 16f4f:M 16f50:L 16f8f:M 16f93:L 16fe2:N 16fe3:L 16fe4:M 16ff0:L 1bc9d:M 1bc9f:L 1cc00:N
1cf00:M 1cf50:L 1d167:M 1d16a:L 1d17b:M 1d183:L 1d185:M 1d18c:L 1d1aa:M 1d1ae:L 1d1e9:N 1d242:M 1d245:N
1d2c0:L 1d300:N 1d360:L 1da00:M 1da37:L 1da3b:M 1da6d:L 1da75:M 1da76:L 1da84:M 1da85:L 1da9b:M 1df00:L
1e000:M 1e100:L 1e130:M 1e137:L 1e2ae:M 1e2c0:L 1e2ec:M 1e2f0:L 1e2ff:N 1e4d0:L 1e4ec:M 1e4f0:L 1e5ee:M
1e5f0:L 1e800:R 1e8d0:M 1e922:R 1e944:M 1e94b:R 1eef0:N 1f150:L 1f16d:N 1f170:L 1f1ad:N 1f1e6:L 1f260:N
20000:L"

def directions : List (Nat × Direction) := (Table.runs directionText).map fun r => (r.1, readDirection r.2)

inductive Joining where
  | dual
  | left
  | right
  | transparent
  | none
  deriving DecidableEq

def readJoining : List Char → Joining
  | ['D'] => .dual
  | ['L'] => .left
  | ['R'] => .right
  | ['T'] => .transparent
  | _ => .none

def joiningText : String := "
300:T 371:U 483:T 48b:U 591:T 5be:U 5bf:T 5c0:U 5c1:T 5c3:U 5c4:T 5c6:U 5c7:T 5d0:U 610:T 61b:U 620:D
621:U 622:R 626:D 627:R 628:D 629:R 62a:D 62f:R 633:D 640:U 641:D 648:R 649:D 64b:T 660:U 66e:D 670:T
671:R 674:U 679:D 688:R 69a:D 6c0:R 6c1:D 6c3:R 6cc:D 6cd:R 6ce:D 6cf:R 6d0:D 6d2:R 6d4:U 6d5:R 6d6:T
6de:U 6df:T 6e5:U 6e7:T 6e9:U 6ea:T 6ee:R 6f0:U 6fa:D 6fd:U 6ff:D 700:U 710:R 711:T 712:D 715:R 71a:D
71e:R 71f:D 728:R 729:D 72a:R 72b:D 72c:R 72d:D 72f:R 730:T 74d:R 74e:D 759:R 75c:D 76b:R 76d:D 771:R
772:D 773:R 775:D 778:R 77a:D 780:U 7a6:T 7b1:U 7ca:D 7eb:T 7f4:U 7fd:T 7fe:U 816:T 81a:U 81b:T 824:U
825:T 828:U 829:T 830:U 840:R 841:D 846:R 848:D 849:R 84a:D 854:R 855:D 856:R 859:T 85e:U 860:D 861:U
862:D 866:U 867:R 868:D 869:R 883:U 886:D 887:U 889:D 88e:R 897:T 8a0:D 8aa:R 8ad:U 8ae:R 8af:D 8b1:R
8b3:D 8b9:R 8ba:D 8c9:U 8ca:T 903:U 93a:T 93b:U 93c:T 93d:U 941:T 949:U 94d:T 94e:U 951:T 960:U 962:T
964:U 981:T 982:U 9bc:T 9bd:U 9c1:T 9c7:U 9cd:T 9ce:U 9e2:T 9e6:U 9fe:T a03:U a3c:T a3e:U a41:T a5c:U
a70:T a72:U a75:T a76:U a81:T a83:U abc:T abd:U ac1:T ac9:U acd:T ad0:U ae2:T ae6:U afa:T b02:U b3c:T
b3d:U b3f:T b40:U b41:T b47:U b4d:T b57:U b62:T b66:U b82:T b83:U bc0:T bc1:U bcd:T bd0:U c00:T c01:U
c04:T c05:U c3c:T c3d:U c3e:T c41:U c46:T c58:U c62:T c66:U c81:T c82:U cbc:T cbd:U cbf:T cc0:U cc6:T
cc7:U ccc:T cd5:U ce2:T ce6:U d00:T d02:U d3b:T d3d:U d41:T d46:U d4d:T d4e:U d62:T d66:U d81:T d82:U
dca:T dcf:U dd2:T dd8:U e31:T e32:U e34:T e3f:U e47:T e4f:U eb1:T eb2:U eb4:T ebd:U ec8:T ed0:U f18:T
f1a:U f35:T f36:U f37:T f38:U f39:T f3a:U f71:T f7f:U f80:T f85:U f86:T f88:U f8d:T fbe:U fc6:T fc7:U
102d:T 1031:U 1032:T 1038:U 1039:T 103b:U 103d:T 103f:U 1058:T 105a:U 105e:T 1061:U 1071:T 1075:U 1082:T
1083:U 1085:T 1087:U 108d:T 108e:U 109d:T 109e:U 135d:T 1360:U 1712:T 1715:U 1732:T 1734:U 1752:T 1760:U
1772:T 1780:U 17b7:T 17be:U 17c6:T 17c7:U 17c9:T 17d4:U 17dd:T 17e0:U 1807:D 1808:U 1820:D 1880:U 1885:T
1887:D 18a9:T 18aa:D 18b0:U 1920:T 1923:U 1927:T 1929:U 1932:T 1933:U 1939:T 1940:U 1a17:T 1a19:U 1a1b:T
1a1e:U 1a56:T 1a57:U 1a58:T 1a61:U 1a62:T 1a63:U 1a65:T 1a6d:U 1a73:T 1a80:U 1ab0:T 1b04:U 1b34:T 1b35:U
1b36:T 1b3b:U 1b3c:T 1b3d:U 1b42:T 1b43:U 1b6b:T 1b74:U 1b80:T 1b82:U 1ba2:T 1ba6:U 1ba8:T 1baa:U 1bab:T
1bae:U 1be6:T 1be7:U 1be8:T 1bea:U 1bed:T 1bee:U 1bef:T 1bf2:U 1c2c:T 1c34:U 1c36:T 1c3b:U 1cd0:T 1cd3:U
1cd4:T 1ce1:U 1ce2:T 1ce9:U 1ced:T 1cee:U 1cf4:T 1cf5:U 1cf8:T 1cfa:U 1dc0:T 1e01:U 20d0:T 2104:U 2cef:T
2cf3:U 2d7f:T 2d80:U 2de0:T 2e00:U 302a:T 302e:U 3099:T 309d:U a66f:T a673:U a674:T a67e:U a69e:T a6a0:U
a6f0:T a6f2:U a802:T a803:U a806:T a807:U a80b:T a80c:U a825:T a827:U a82c:T a830:U a840:D a872:L a873:U
a8c4:T a8ce:U a8e0:T a8f2:U a8ff:T a900:U a926:T a92e:U a947:T a952:U a980:T a983:U a9b3:T a9b4:U a9b6:T
a9ba:U a9bc:T a9be:U a9e5:T a9e6:U aa29:T aa2f:U aa31:T aa33:U aa35:T aa40:U aa43:T aa44:U aa4c:T aa4d:U
aa7c:T aa7d:U aab0:T aab1:U aab2:T aab5:U aab7:T aab9:U aabe:T aac0:U aac1:T aac2:U aaec:T aaee:U aaf6:T
ab01:U abe5:T abe6:U abe8:T abe9:U abed:T abf0:U fb1e:T fbb2:U fe20:T fe45:U 101fd:T 10280:U 102e0:T
102e1:U 10376:T 10380:U 10a01:T 10a10:U 10a38:T 10a40:U 10ac0:D 10ac5:R 10ac6:U 10ac7:R 10ac8:U 10ac9:R
10acb:U 10acd:L 10ace:R 10ad3:D 10ad7:L 10ad8:D 10add:R 10ade:D 10ae1:R 10ae2:U 10ae4:R 10ae5:T 10aeb:D
10aef:R 10af0:U 10b80:D 10b81:R 10b82:D 10b83:R 10b86:D 10b89:R 10b8a:D 10b8c:R 10b8d:D 10b8e:R 10b90:D
10b91:R 10b99:U 10ba9:R 10bad:D 10baf:U 10d00:L 10d01:D 10d22:R 10d23:D 10d24:T 10d30:U 10d69:T 10d6e:U
10eab:T 10ead:U 10ec2:R 10ec3:D 10efc:T 10f00:U 10f30:D 10f33:R 10f34:D 10f45:U 10f46:T 10f51:D 10f54:R
10f55:U 10f70:D 10f74:R 10f76:D 10f82:T 10f86:U 10fb0:D 10fb1:U 10fb2:D 10fb4:R 10fb7:U 10fb8:D 10fb9:R
10fbb:D 10fbd:R 10fbe:D 10fc0:U 10fc1:D 10fc2:R 10fc4:D 10fc5:U 10fc9:R 10fca:D 10fcb:L 10fe0:U 11001:T
11002:U 11038:T 11047:U 11070:T 11071:U 11073:T 11075:U 1107f:T 11082:U 110b3:T 110b7:U 110b9:T 110bb:U
110c2:T 110d0:U 11100:T 11103:U 11127:T 1112c:U 1112d:T 11136:U 11173:T 11174:U 11180:T 11182:U 111b6:T
111bf:U 111c9:T 111cd:U 111cf:T 111d0:U 1122f:T 11232:U 11234:T 11235:U 11236:T 11238:U 1123e:T 1123f:U
11241:T 11280:U 112df:T 112e0:U 112e3:T 112f0:U 11300:T 11302:U 1133b:T 1133d:U 11340:T 11341:U 11366:T
11380:U 113bb:T 113c2:U 113ce:T 113cf:U 113d0:T 113d1:U 113d2:T 113d3:U 113e1:T 11400:U 11438:T 11440:U
11442:T 11445:U 11446:T 11447:U 1145e:T 1145f:U 114b3:T 114b9:U 114ba:T 114bb:U 114bf:T 114c1:U 114c2:T
114c4:U 115b2:T 115b8:U 115bc:T 115be:U 115bf:T 115c1:U 115dc:T 11600:U 11633:T 1163b:U 1163d:T 1163e:U
1163f:T 11641:U 116ab:T 116ac:U 116ad:T 116ae:U 116b0:T 116b6:U 116b7:T 116b8:U 1171d:T 1171e:U 1171f:T
11720:U 11722:T 11726:U 11727:T 11730:U 1182f:T 11838:U 11839:T 1183b:U 1193b:T 1193d:U 1193e:T 1193f:U
11943:T 11944:U 119d4:T 119dc:U 119e0:T 119e1:U 11a01:T 11a0b:U 11a33:T 11a39:U 11a3b:T 11a3f:U 11a47:T
11a50:U 11a51:T 11a57:U 11a59:T 11a5c:U 11a8a:T 11a97:U 11a98:T 11a9a:U 11c30:T 11c3e:U 11c3f:T 11c40:U
11c92:T 11ca9:U 11caa:T 11cb1:U 11cb2:T 11cb4:U 11cb5:T 11d00:U 11d31:T 11d46:U 11d47:T 11d50:U 11d90:T
11d93:U 11d95:T 11d96:U 11d97:T 11d98:U 11ef3:T 11ef5:U 11f00:T 11f02:U 11f36:T 11f3e:U 11f40:T 11f41:U
11f42:T 11f43:U 11f5a:T 11fb0:U 13440:T 13441:U 13447:T 13460:U 1611e:T 1612a:U 1612d:T 16130:U 16af0:T
16af5:U 16b30:T 16b37:U 16f4f:T 16f50:U 16f8f:T 16f93:U 16fe4:T 16ff0:U 1bc9d:T 1bc9f:U 1cf00:T 1cf50:U
1d167:T 1d16a:U 1d17b:T 1d183:U 1d185:T 1d18c:U 1d1aa:T 1d1ae:U 1d242:T 1d245:U 1da00:T 1da37:U 1da3b:T
1da6d:U 1da75:T 1da76:U 1da84:T 1da85:U 1da9b:T 1df00:U 1e000:T 1e100:U 1e130:T 1e137:U 1e2ae:T 1e2c0:U
1e2ec:T 1e2f0:U 1e4ec:T 1e4f0:U 1e5ee:T 1e5f0:U 1e8d0:T 1e922:D 1e944:T 1e950:U"

def joinings : List (Nat × Joining) := (Table.runs joiningText).map fun r => (r.1, readJoining r.2)

end RequestAuth.Idna
