import RequestAuth.Text.Table

/-! One spelling for texts that look alike: marks in order, and taken into the letters before them where the two
have a character of their own. -/

namespace RequestAuth.Normal

/-- Classes of marks. Marks of one class keep their order. -/
def classText : String := "
300:e6 315:e8 316:dc 31a:e8 31b:d8 31c:dc 321:ca 323:dc 327:ca 329:dc 334:1 339:dc 33d:e6 347:dc 34a:e6
34d:dc 350:e6 353:dc 357:e6 358:e8 359:dc 35b:e6 35c:e9 35d:ea 35f:e9 360:ea 362:e9 363:e6 371:0 483:e6
488:0 591:dc 592:e6 596:dc 597:e6 59a:de 59b:dc 59c:e6 5a2:dc 5a8:e6 5aa:dc 5ab:e6 5ad:de 5ae:e4 5af:e6
5b0:a 5b1:b 5b2:c 5b3:d 5b4:e 5b5:f 5b6:10 5b7:11 5b8:12 5b9:13 5bb:14 5bc:15 5bd:16 5be:0 5bf:17 5c0:0
5c1:18 5c2:19 5c3:0 5c4:e6 5c5:dc 5c6:0 5c7:12 5d0:0 610:e6 618:1e 619:1f 61a:20 61b:0 64b:1b 64c:1c
64d:1d 64e:1e 64f:1f 650:20 651:21 652:22 653:e6 655:dc 657:e6 65c:dc 65d:e6 65f:dc 660:0 670:23 671:0
6d6:e6 6de:0 6df:e6 6e3:dc 6e4:e6 6e5:0 6e7:e6 6e9:0 6ea:dc 6eb:e6 6ed:dc 6ee:0 711:24 712:0 730:e6
731:dc 732:e6 734:dc 735:e6 737:dc 73a:e6 73b:dc 73d:e6 73e:dc 73f:e6 742:dc 743:e6 744:dc 745:e6 746:dc
747:e6 748:dc 749:e6 74d:0 7eb:e6 7f2:dc 7f3:e6 7f4:0 7fd:dc 7fe:0 816:e6 81a:0 81b:e6 824:0 825:e6
828:0 829:e6 830:0 859:dc 85e:0 897:e6 899:dc 89c:e6 8a0:0 8ca:e6 8cf:dc 8d4:e6 8e3:dc 8e4:e6 8e6:dc
8e7:e6 8e9:dc 8ea:e6 8ed:dc 8f0:1b 8f1:1c 8f2:1d 8f3:e6 8f6:dc 8f7:e6 8f9:dc 8fb:e6 900:0 93c:7 93d:0
94d:9 94e:0 951:e6 952:dc 953:e6 955:0 9bc:7 9bd:0 9cd:9 9ce:0 9fe:e6 a01:0 a3c:7 a3e:0 a4d:9 a51:0
abc:7 abd:0 acd:9 ad0:0 b3c:7 b3d:0 b4d:9 b55:0 bcd:9 bd0:0 c3c:7 c3d:0 c4d:9 c55:54 c56:5b c58:0 cbc:7
cbd:0 ccd:9 cd5:0 d3b:9 d3d:0 d4d:9 d4e:0 dca:9 dcf:0 e38:67 e3a:9 e3f:0 e48:6b e4c:0 eb8:76 eba:9 ebb:0
ec8:7a ecc:0 f18:dc f1a:0 f35:dc f36:0 f37:dc f38:0 f39:d8 f3a:0 f71:81 f72:82 f74:84 f7a:82 f7e:0
f80:82 f82:e6 f84:9 f85:0 f86:e6 f88:0 fc6:dc fc7:0 1037:7 1038:0 1039:9 103b:0 108d:dc 108e:0 135d:e6
1360:0 1714:9 171f:0 1734:9 1735:0 17d2:9 17d3:0 17dd:e6 17e0:0 18a9:e4 18aa:0 1939:de 193a:e6 193b:dc
1940:0 1a17:e6 1a18:dc 1a19:0 1a60:9 1a61:0 1a75:e6 1a7f:dc 1a80:0 1ab0:e6 1ab5:dc 1abb:e6 1abd:dc
1abe:0 1abf:dc 1ac1:e6 1ac3:dc 1ac5:e6 1aca:dc 1acb:e6 1b00:0 1b34:7 1b35:0 1b44:9 1b45:0 1b6b:e6
1b6c:dc 1b6d:e6 1b74:0 1baa:9 1bac:0 1be6:7 1be7:0 1bf2:9 1bfc:0 1c37:7 1c3b:0 1cd0:e6 1cd3:0 1cd4:1
1cd5:dc 1cda:e6 1cdc:dc 1ce0:e6 1ce1:0 1ce2:1 1ce9:0 1ced:dc 1cee:0 1cf4:e6 1cf5:0 1cf8:e6 1cfa:0
1dc0:e6 1dc2:dc 1dc3:e6 1dca:dc 1dcb:e6 1dcd:ea 1dce:d6 1dcf:dc 1dd0:ca 1dd1:e6 1df6:e8 1df7:e4 1df9:dc
1dfa:da 1dfb:e6 1dfc:e9 1dfd:dc 1dfe:e6 1dff:dc 1e01:0 20d0:e6 20d2:1 20d4:e6 20d8:1 20db:e6 20dd:0
20e1:e6 20e2:0 20e5:1 20e7:e6 20e8:dc 20e9:e6 20ea:1 20ec:dc 20f0:e6 2104:0 2cef:e6 2cf3:0 2d7f:9 2d80:0
2de0:e6 2e00:0 302a:da 302b:e4 302c:e8 302d:de 302e:e0 3030:0 3099:8 309d:0 a66f:e6 a670:0 a674:e6
a67e:0 a69e:e6 a6a0:0 a6f0:e6 a6f2:0 a806:9 a807:0 a82c:9 a830:0 a8c4:9 a8c5:0 a8e0:e6 a8f2:0 a92b:dc
a92e:0 a953:9 a95f:0 a9b3:7 a9b4:0 a9c0:9 a9c1:0 aab0:e6 aab1:0 aab2:e6 aab4:dc aab5:0 aab7:e6 aab9:0
aabe:e6 aac0:0 aac1:e6 aac2:0 aaf6:9 ab01:0 abed:9 abf0:0 fb1e:1a fbb2:0 fe20:e6 fe27:dc fe2e:e6 fe45:0
101fd:dc 10280:0 102e0:dc 102e1:0 10376:e6 10380:0 10a0d:dc 10a0e:0 10a0f:e6 10a10:0 10a38:e6 10a39:1
10a3a:dc 10a3f:9 10a40:0 10ae5:e6 10ae6:dc 10aeb:0 10d24:e6 10d30:0 10d69:e6 10d6e:0 10eab:e6 10ead:0
10efd:dc 10f00:0 10f46:dc 10f48:e6 10f4b:dc 10f4c:e6 10f4d:dc 10f51:0 10f82:e6 10f83:dc 10f84:e6
10f85:dc 10f86:0 11046:9 11047:0 11070:9 11071:0 1107f:9 11080:0 110b9:9 110ba:7 110bb:0 11100:e6
11103:0 11133:9 11136:0 11173:7 11174:0 111c0:9 111c1:0 111ca:7 111cb:0 11235:9 11236:7 11237:0 112e9:7
112ea:9 112f0:0 1133b:7 1133d:0 1134d:9 11350:0 11366:e6 11380:0 113ce:9 113d1:0 113e1:e6 11400:0
11442:9 11443:0 11446:7 11447:0 1145e:e6 1145f:0 114c2:9 114c3:7 114c4:0 115bf:9 115c0:7 115c1:0 1163f:9
11640:0 116b6:9 116b7:7 116b8:0 1172b:9 11730:0 11839:9 1183a:7 1183b:0 1193d:9 1193f:0 11943:7 11944:0
119e0:9 119e1:0 11a34:9 11a35:0 11a47:9 11a50:0 11a99:9 11a9a:0 11c3f:9 11c40:0 11d42:7 11d43:0 11d44:9
11d46:0 11d97:9 11d98:0 11f41:9 11f43:0 1612f:9 16130:0 16af0:1 16af5:0 16b30:e6 16b37:0 16ff0:6 17000:0
1bc9e:1 1bc9f:0 1d165:d8 1d167:1 1d16a:0 1d16d:e2 1d16e:d8 1d17b:dc 1d183:0 1d185:e6 1d18a:dc 1d18c:0
1d1aa:e6 1d1ae:0 1d242:e6 1d245:0 1e000:e6 1e100:0 1e130:e6 1e137:0 1e2ae:e6 1e2c0:0 1e2ec:e6 1e2f0:0
1e4ec:e8 1e4ee:dc 1e4ef:e6 1e4f0:0 1e5ee:e6 1e5ef:dc 1e5f0:0 1e8d0:dc 1e922:0 1e944:e6 1e94a:7 1e94b:0"

def classes : List (Nat × Nat) := (Table.runs classText).map fun r => (r.1, Table.number r.2)

def markClass (c : Char) : Nat := (Table.valueAt classes c.toNat).getD 0

def compositeText : String := "
e0=61+300 61+301 61+302 61+303 61+308 61+30a e7=63+327 65+300 65+301 65+302 65+308 69+300 69+301 69+302
69+308 f1=6e+303 6f+300 6f+301 6f+302 6f+303 6f+308 f9=75+300 75+301 75+302 75+308 79+301 ff=79+308
101=61+304 103=61+306 105=61+328 107=63+301 109=63+302 10b=63+307 10d=63+30c 10f=64+30c 113=65+304
115=65+306 117=65+307 119=65+328 11b=65+30c 11d=67+302 11f=67+306 121=67+307 123=67+327 125=68+302
129=69+303 12b=69+304 12d=69+306 12f=69+328 135=6a+302 137=6b+327 13a=6c+301 13c=6c+327 13e=6c+30c
144=6e+301 146=6e+327 148=6e+30c 14d=6f+304 14f=6f+306 151=6f+30b 155=72+301 157=72+327 159=72+30c
15b=73+301 15d=73+302 15f=73+327 161=73+30c 163=74+327 165=74+30c 169=75+303 16b=75+304 16d=75+306
16f=75+30a 171=75+30b 173=75+328 175=77+302 177=79+302 17a=7a+301 17c=7a+307 17e=7a+30c 1a1=6f+31b
1b0=75+31b 1ce=61+30c 1d0=69+30c 1d2=6f+30c 1d4=75+30c 1d6=fc+304 1d8=fc+301 1da=fc+30c 1dc=fc+300
1df=e4+304 1e1=227+304 1e3=e6+304 1e7=67+30c 1e9=6b+30c 1eb=6f+328 1ed=1eb+304 1ef=292+30c 6a+30c
1f5=67+301 1f9=6e+300 1fb=e5+301 1fd=e6+301 1ff=f8+301 201=61+30f 203=61+311 205=65+30f 207=65+311
209=69+30f 20b=69+311 20d=6f+30f 20f=6f+311 211=72+30f 213=72+311 215=75+30f 217=75+311 219=73+326
21b=74+326 21f=68+30c 227=61+307 229=65+327 22b=f6+304 22d=f5+304 22f=6f+307 231=22f+304 233=79+304
390=3ca+301 3ac=3b1+301 3b5+301 3b7+301 3b9+301 3cb+301 3ca=3b9+308 3c5+308 3bf+301 3c5+301 3c9+301
439=438+306 450=435+300 435+308 453=433+301 457=456+308 45c=43a+301 438+300 443+306 477=475+30f
4c2=436+306 4d1=430+306 4d3=430+308 4d7=435+306 4db=4d9+308 4dd=436+308 4df=437+308 4e3=438+304
4e5=438+308 4e7=43e+308 4eb=4e9+308 4ed=44d+308 4ef=443+304 4f1=443+308 4f3=443+30b 4f5=447+308
4f9=44b+308 622=627+653 627+654 648+654 627+655 64a+654 6c0=6d5+654 6c2=6c1+654 6d3=6d2+654 929=928+93c
931=930+93c 934=933+93c 9cb=9c7+9be 9c7+9d7 b48=b47+b56 b4b=b47+b3e b47+b57 b94=b92+bd7 bca=bc6+bbe
bc7+bbe bc6+bd7 c48=c46+c56 cc0=cbf+cd5 cc7=cc6+cd5 cc6+cd6 cca=cc6+cc2 cca+cd5 d4a=d46+d3e d47+d3e
d46+d57 dda=dd9+dca ddc=dd9+dcf ddc+dca dd9+ddf 1026=1025+102e 1b06=1b05+1b35 1b08=1b07+1b35
1b0a=1b09+1b35 1b0c=1b0b+1b35 1b0e=1b0d+1b35 1b12=1b11+1b35 1b3b=1b3a+1b35 1b3d=1b3c+1b35 1b40=1b3e+1b35
1b3f+1b35 1b43=1b42+1b35 1e01=61+325 1e03=62+307 1e05=62+323 1e07=62+331 1e09=e7+301 1e0b=64+307
1e0d=64+323 1e0f=64+331 1e11=64+327 1e13=64+32d 1e15=113+300 1e17=113+301 1e19=65+32d 1e1b=65+330
1e1d=229+306 1e1f=66+307 1e21=67+304 1e23=68+307 1e25=68+323 1e27=68+308 1e29=68+327 1e2b=68+32e
1e2d=69+330 1e2f=ef+301 1e31=6b+301 1e33=6b+323 1e35=6b+331 1e37=6c+323 1e39=1e37+304 1e3b=6c+331
1e3d=6c+32d 1e3f=6d+301 1e41=6d+307 1e43=6d+323 1e45=6e+307 1e47=6e+323 1e49=6e+331 1e4b=6e+32d
1e4d=f5+301 1e4f=f5+308 1e51=14d+300 1e53=14d+301 1e55=70+301 1e57=70+307 1e59=72+307 1e5b=72+323
1e5d=1e5b+304 1e5f=72+331 1e61=73+307 1e63=73+323 1e65=15b+307 1e67=161+307 1e69=1e63+307 1e6b=74+307
1e6d=74+323 1e6f=74+331 1e71=74+32d 1e73=75+324 1e75=75+330 1e77=75+32d 1e79=169+301 1e7b=16b+308
1e7d=76+303 1e7f=76+323 1e81=77+300 1e83=77+301 1e85=77+308 1e87=77+307 1e89=77+323 1e8b=78+307
1e8d=78+308 1e8f=79+307 1e91=7a+302 1e93=7a+323 1e95=7a+331 68+331 74+308 77+30a 79+30a 1ea1=61+323
1ea3=61+309 1ea5=e2+301 1ea7=e2+300 1ea9=e2+309 1eab=e2+303 1ead=1ea1+302 1eaf=103+301 1eb1=103+300
1eb3=103+309 1eb5=103+303 1eb7=1ea1+306 1eb9=65+323 1ebb=65+309 1ebd=65+303 1ebf=ea+301 1ec1=ea+300
1ec3=ea+309 1ec5=ea+303 1ec7=1eb9+302 1ec9=69+309 1ecb=69+323 1ecd=6f+323 1ecf=6f+309 1ed1=f4+301
1ed3=f4+300 1ed5=f4+309 1ed7=f4+303 1ed9=1ecd+302 1edb=1a1+301 1edd=1a1+300 1edf=1a1+309 1ee1=1a1+303
1ee3=1a1+323 1ee5=75+323 1ee7=75+309 1ee9=1b0+301 1eeb=1b0+300 1eed=1b0+309 1eef=1b0+303 1ef1=1b0+323
1ef3=79+300 1ef5=79+323 1ef7=79+309 1ef9=79+303 1f00=3b1+313 3b1+314 1f00+300 1f01+300 1f00+301 1f01+301
1f00+342 1f01+342 1f10=3b5+313 3b5+314 1f10+300 1f11+300 1f10+301 1f11+301 1f20=3b7+313 3b7+314 1f20+300
1f21+300 1f20+301 1f21+301 1f20+342 1f21+342 1f30=3b9+313 3b9+314 1f30+300 1f31+300 1f30+301 1f31+301
1f30+342 1f31+342 1f40=3bf+313 3bf+314 1f40+300 1f41+300 1f40+301 1f41+301 1f50=3c5+313 3c5+314 1f50+300
1f51+300 1f50+301 1f51+301 1f50+342 1f51+342 1f60=3c9+313 3c9+314 1f60+300 1f61+300 1f60+301 1f61+301
1f60+342 1f61+342 1f70=3b1+300 1f72=3b5+300 1f74=3b7+300 1f76=3b9+300 1f78=3bf+300 1f7a=3c5+300
1f7c=3c9+300 1fb0=3b1+306 3b1+304 1fb6=3b1+342 1fc6=3b7+342 1fd0=3b9+306 3b9+304 3ca+300 1fd6=3b9+342
3ca+342 1fe0=3c5+306 3c5+304 3cb+300 1fe4=3c1+313 3c1+314 3c5+342 3cb+342 1ff6=3c9+342 219a=2190+338
2192+338 21ae=2194+338 21cd=21d0+338 21d4+338 21d2+338 2204=2203+338 2209=2208+338 220c=220b+338
2224=2223+338 2226=2225+338 2241=223c+338 2244=2243+338 2247=2245+338 2249=2248+338 2260=3d+338
2262=2261+338 226d=224d+338 3c+338 3e+338 2264+338 2265+338 2274=2272+338 2273+338 2278=2276+338
2277+338 2280=227a+338 227b+338 2284=2282+338 2283+338 2288=2286+338 2287+338 22ac=22a2+338 22a8+338
22a9+338 22ab+338 22e0=227c+338 227d+338 2291+338 2292+338 22ea=22b2+338 22b3+338 22b4+338 22b5+338
304c=304b+3099 304e=304d+3099 3050=304f+3099 3052=3051+3099 3054=3053+3099 3056=3055+3099 3058=3057+3099
305a=3059+3099 305c=305b+3099 305e=305d+3099 3060=305f+3099 3062=3061+3099 3065=3064+3099 3067=3066+3099
3069=3068+3099 3070=306f+3099 306f+309a 3073=3072+3099 3072+309a 3076=3075+3099 3075+309a 3079=3078+3099
3078+309a 307c=307b+3099 307b+309a 3094=3046+3099 309e=309d+3099 30ac=30ab+3099 30ae=30ad+3099
30b0=30af+3099 30b2=30b1+3099 30b4=30b3+3099 30b6=30b5+3099 30b8=30b7+3099 30ba=30b9+3099 30bc=30bb+3099
30be=30bd+3099 30c0=30bf+3099 30c2=30c1+3099 30c5=30c4+3099 30c7=30c6+3099 30c9=30c8+3099 30d0=30cf+3099
30cf+309a 30d3=30d2+3099 30d2+309a 30d6=30d5+3099 30d5+309a 30d9=30d8+3099 30d8+309a 30dc=30db+3099
30db+309a 30f4=30a6+3099 30f7=30ef+3099 30f0+3099 30f1+3099 30f2+3099 30fe=30fd+3099 105c9=105d2+307
105e4=105da+307 1109a=11099+110ba 1109c=1109b+110ba 110ab=110a5+110ba 1112e=11131+11127 11132+11127
1134b=11347+1133e 11347+11357 11383=11382+113c9 11385=11384+113bb 1138e=1138b+113c2 11391=11390+113c9
113c5=113c2+113c2 113c7=113c2+113b8 113c2+113c9 114bb=114b9+114ba 114b9+114b0 114be=114b9+114bd
115ba=115b8+115af 115b9+115af 11938=11935+11930 16121=1611e+1611e 1611e+16129 1611e+1611f 16129+1611f
1611e+16120 16121+1611f 16122+1611f 16121+16120 16d68=16d67+16d67 16d63+16d67 16d69+16d67"

def composites : List (Char × List Char) :=
  (Table.rows compositeText).map fun r => (Char.ofNat r.first, r.target.map Char.ofNat)

def isSyllable (n : Nat) : Bool := 0xac00 ≤ n && n ≤ 0xd7a3

def syllableParts (n : Nat) : List Char :=
  let i := n - 0xac00
  [Char.ofNat (0x1100 + i / 588), Char.ofNat (0x1161 + i % 588 / 28)] ++
    if i % 28 = 0 then [] else [Char.ofNat (0x11a7 + i % 28)]

def syllable? (a b : Nat) : Option Char :=
  if 0x1100 ≤ a ∧ a ≤ 0x1112 ∧ 0x1161 ≤ b ∧ b ≤ 0x1175 then
    some (Char.ofNat (0xac00 + ((a - 0x1100) * 21 + (b - 0x1161)) * 28))
  else if isSyllable a ∧ (a - 0xac00) % 28 = 0 ∧ 0x11a8 ≤ b ∧ b ≤ 0x11c2 then some (Char.ofNat (a + b - 0x11a7))
  else none

/-- The parts of a character. The first part can have parts, up to the third time. -/
def parts : Nat → Char → List Char
  | 0, c => [c]
  | fuel + 1, c =>
    if isSyllable c.toNat then syllableParts c.toNat
    else match composites.lookup c with
      | some [a, b] => parts fuel a ++ [b]
      | _ => [c]

/-- A mark goes behind those of lower classes. -/
def place (c : Char) : List Char → List Char
  | [] => [c]
  | d :: r => if 0 < markClass d ∧ markClass d < markClass c then d :: place c r else c :: d :: r

def composite? (a b : Char) : Option Char :=
  (syllable? a.toNat b.toNat).or ((composites.find? fun p => p.2 == [a, b]).map Prod.fst)

/-- A letter takes in what comes after it, past marks that it does not take in if these are of lower classes. -/
def compose (letter : Char) (marks : List Char) : List Char → List Char
  | [] => letter :: marks
  | c :: r =>
    let barred := (marks.getLast?.map fun m => decide (markClass c ≤ markClass m)).getD false
    match if barred then none else composite? letter c with
    | some p => compose p marks r
    | none => if markClass c = 0 then letter :: marks ++ compose c [] r else compose letter (marks ++ [c]) r

/-- Marks that no letter stands before are left alone. -/
def composed : List Char → List Char
  | [] => []
  | c :: r => if markClass c = 0 then compose c [] r else c :: composed r

def form (cs : List Char) : List Char := composed ((cs.flatMap (parts 4)).foldr place [])

end RequestAuth.Normal
