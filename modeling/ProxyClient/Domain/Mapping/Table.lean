/-
ProxyClient/Domain/Mapping/Table.lean

What becomes of each character of a domain name, as a text of words.  A
character in none of the words may not stand in a name.

A word that is a range alone means that its characters stay.  In a range
`a*b` capital and small letters take turns, each small letter behind its
capital.  The characters of a range with `+t` become those from `t` on.
Behind `a:` stands what becomes of `a` and of the characters that follow it,
one for each.  Every character of a range with `>` becomes the text behind
it, which may be empty.
-/

namespace ProxyClient.Domain

/-- What becomes of each character. -/
def mappingTable : String := "
  0-40 41-5a+61 5b-7f a0:20 a1-a7 a8>20,308 a9 aa:61 ab-ac ad> ae af>20,304 b0-b1 b2:32,33
  b4>20,301 b5:3bc b6-b7 b8>20,327 b9:31,6f bb bc>31,2044,34 bd>31,2044,32 be>33,2044,34 bf
  c0-d6+e0 d7 d8-de+f8 df-ff 100*12f 130>69,307 131 132-133>69,6a 134*137 138 139*13e
  13f-140>6c,b7 141*148 149>2bc,6e 14a*177 178:ff 179*17e 17f:73 180 181:253 182*185 186:254,188
  188 189:256,257,18c 18c-18d 18e:1dd,259,25b,192 192 193:260,263 195 196:269,268,199 199-19b
  19c:26f,272 19e 19f:275 1a0*1a5 1a6:280,1a8 1a8 1a9:283 1aa-1ab 1ac:1ad 1ad 1ae:288,1b0 1b0
  1b1:28a,28b 1b3*1b6 1b7:292,1b9 1b9-1bb 1bc:1bd 1bd-1c3 1c4-1c6>64,17e 1c7-1c9>6c,6a
  1ca-1cc>6e,6a 1cd*1dc 1dd 1de*1ef 1f0 1f1-1f3>64,7a 1f4:1f5 1f5 1f6:195,1bf 1f8*21f 220:19e 221
  222*233 234-239 23a:2c65,23c 23c 23d:19a,2c66 23f-240 241:242 242 243:180,289,28c 246*24f
  250-2af 2b0:68,266,6a,72,279,27b,281,77,79 2b9-2d7 2d8>20,306 2d9>20,307 2da>20,30a 2db>20,328
  2dc>20,303 2dd>20,30b 2de-2df 2e0:263,6c,73,78,295 2e5-33f 340:300,301 342 343:313 344>308,301
  345:3b9 346-34e 34f> 350-36f 370*373 374:2b9 375 376:377 377 37a>20,3b9 37b-37d 37e:3b,3f3
  384>20,301 385>20,308,301 386:3ac,b7 388-38a+3ad 38c:3cc 38e:3cd,3ce 390 391-3a1+3b1 3a3-3ab+3c3
  3ac-3ce 3cf:3d7,3b2,3b8,3c5,3cd,3cb,3c6,3c0 3d7 3d8*3ef 3f0:3ba,3c1,3c3 3f3 3f4:3b8,3b5 3f6
  3f7:3f8 3f8 3f9:3c3,3fb 3fb-3fc 3fd-3ff+37b 400-40f+450 410-42f+430 430-45f 460*481 482-489
  48a*4bf 4c0:4cf 4c1*4ce 4cf 4d0*52f 531-556+561 558:588 559-586 587>565,582 588-58f 591-5c7
  5d0-5ea 5ef-5f4 606-61b 61d-674 675>627,674 676>648,674 677>6c7,674 678>64a,674 679-6dc 6de-70d
  710-74a 74d-7b1 7c0-7fa 7fd-82d 830-83e 840-85b 85e 860-86a 870-88f 897-8e1 8e3-957 958>915,93c
  959>916,93c 95a>917,93c 95b>91c,93c 95c>921,93c 95d>922,93c 95e>92b,93c 95f>92f,93c 960-983
  985-98c 98f-990 993-9a8 9aa-9b0 9b2 9b6-9b9 9bc-9c4 9c7-9c8 9cb-9ce 9d7 9dc>9a1,9bc 9dd>9a2,9bc
  9df>9af,9bc 9e0-9e3 9e6-9fe a01-a03 a05-a0a a0f-a10 a13-a28 a2a-a30 a32 a33>a32,a3c a35
  a36>a38,a3c a38-a39 a3c a3e-a42 a47-a48 a4b-a4d a51 a59>a16,a3c a5a>a17,a3c a5b>a1c,a3c a5c
  a5e>a2b,a3c a66-a76 a81-a83 a85-a8d a8f-a91 a93-aa8 aaa-ab0 ab2-ab3 ab5-ab9 abc-ac5 ac7-ac9
  acb-acd ad0 ae0-ae3 ae6-af1 af9-aff b01-b03 b05-b0c b0f-b10 b13-b28 b2a-b30 b32-b33 b35-b39
  b3c-b44 b47-b48 b4b-b4d b55-b57 b5c>b21,b3c b5d>b22,b3c b5f-b63 b66-b77 b82-b83 b85-b8a b8e-b90
  b92-b95 b99-b9a b9c b9e-b9f ba3-ba4 ba8-baa bae-bb9 bbe-bc2 bc6-bc8 bca-bcd bd0 bd7 be6-bfa
  c00-c0c c0e-c10 c12-c28 c2a-c39 c3c-c44 c46-c48 c4a-c4d c55-c56 c58-c5a c5c-c5d c60-c63 c66-c6f
  c77-c8c c8e-c90 c92-ca8 caa-cb3 cb5-cb9 cbc-cc4 cc6-cc8 cca-ccd cd5-cd6 cdc-cde ce0-ce3 ce6-cef
  cf1-cf3 d00-d0c d0e-d10 d12-d44 d46-d48 d4a-d4f d54-d63 d66-d7f d81-d83 d85-d96 d9a-db1 db3-dbb
  dbd dc0-dc6 dca dcf-dd4 dd6 dd8-ddf de6-def df2-df4 e01-e32 e33>e4d,e32 e34-e3a e3f-e5b e81-e82
  e84 e86-e8a e8c-ea3 ea5 ea7-eb2 eb3>ecd,eb2 eb4-ebd ec0-ec4 ec6 ec8-ece ed0-ed9 edc>eab,e99
  edd>eab,ea1 ede-edf f00-f0b f0c:f0b f0d-f42 f43>f42,fb7 f44-f47 f49-f4c f4d>f4c,fb7 f4e-f51
  f52>f51,fb7 f53-f56 f57>f56,fb7 f58-f5b f5c>f5b,fb7 f5d-f68 f69>f40,fb5 f6a-f6c f71-f72
  f73>f71,f72 f74 f75>f71,f74 f76>fb2,f80 f77>fb2,f71,f80 f78>fb3,f80 f79>fb3,f71,f80 f7a-f80
  f81>f71,f80 f82-f92 f93>f92,fb7 f94-f97 f99-f9c f9d>f9c,fb7 f9e-fa1 fa2>fa1,fb7 fa3-fa6
  fa7>fa6,fb7 fa8-fab fac>fab,fb7 fad-fb8 fb9>f90,fb5 fba-fbc fbe-fcc fce-fda 1000-109f
  10a0-10c5+2d00 10c7:2d27 10cd:2d2d 10d0-10fb 10fc:10dc 10fd-115e 115f-1160> 1161-1248 124a-124d
  1250-1256 1258 125a-125d 1260-1288 128a-128d 1290-12b0 12b2-12b5 12b8-12be 12c0 12c2-12c5
  12c8-12d6 12d8-1310 1312-1315 1318-135a 135d-137c 1380-1399 13a0-13f5 13f8-13fd+13f0 1400-167f
  1681-169c 16a0-16f8 1700-1715 171f-1736 1740-1753 1760-176c 176e-1770 1772-1773 1780-17b3
  17b4-17b5> 17b6-17dd 17e0-17e9 17f0-17f9 1800-180a 180b-180f> 1810-1819 1820-1878 1880-18aa
  18b0-18f5 1900-191e 1920-192b 1930-193b 1940 1944-196d 1970-1974 1980-19ab 19b0-19c9 19d0-19da
  19de-1a1b 1a1e-1a5e 1a60-1a7c 1a7f-1a89 1a90-1a99 1aa0-1aad 1ab0-1add 1ae0-1aeb 1b00-1b4c
  1b4e-1bf3 1bfc-1c37 1c3b-1c49 1c4d-1c7f 1c80:432,434,43e,441,442,442,44a,463,a64b,1c8a 1c8a
  1c90-1cba+10d0 1cbd-1cbf+10fd 1cc0-1cc7 1cd0-1cfa 1d00-1d2b 1d2c:61,e6,62 1d2f 1d30:64,65,1dd
  1d33-1d3a+67 1d3b 1d3c:6f,223,70,72,74,75,77,61,250,251,1d02,62 1d48:64,65,259,25b,25c,67 1d4e
  1d4f:6b,6d,14b,6f,254,1d16,1d17,70,74,75,1d1d,26f 1d5b:76,1d25 1d5d-1d5f+3b2
  1d60:3c6,3c7,69,72,75,76,3b2,3b3,3c1,3c6,3c7 1d6b-1d77 1d78:43d 1d79-1d9a
  1d9b:252,63,255,f0,25c,66,25f,261,265 1da4-1da6+268 1da7:1d7b,29d,26d,1d85,29f,271,270
  1dae-1db1+272 1db2:278,282,283,1ab,289,28a,1d1c,28b,28c,7a 1dbc-1dbe+290 1dbf:3b8 1dc0-1dff
  1e00*1e95 1e96-1e99 1e9a>61,2be 1e9b:1e61 1e9c-1e9d 1e9e:df 1e9f 1ea0*1eff 1f00-1f07
  1f08-1f0f+1f00 1f10-1f15 1f18-1f1d+1f10 1f20-1f27 1f28-1f2f+1f20 1f30-1f37 1f38-1f3f+1f30
  1f40-1f45 1f48-1f4d+1f40 1f50-1f57 1f59:1f51 1f5b:1f53 1f5d:1f55 1f5f:1f57 1f60-1f67
  1f68-1f6f+1f60 1f70 1f71:3ac 1f72 1f73:3ad 1f74 1f75:3ae 1f76 1f77:3af 1f78 1f79:3cc 1f7a
  1f7b:3cd 1f7c 1f7d:3ce 1f80>1f00,3b9 1f81>1f01,3b9 1f82>1f02,3b9 1f83>1f03,3b9 1f84>1f04,3b9
  1f85>1f05,3b9 1f86>1f06,3b9 1f87>1f07,3b9 1f88>1f00,3b9 1f89>1f01,3b9 1f8a>1f02,3b9
  1f8b>1f03,3b9 1f8c>1f04,3b9 1f8d>1f05,3b9 1f8e>1f06,3b9 1f8f>1f07,3b9 1f90>1f20,3b9
  1f91>1f21,3b9 1f92>1f22,3b9 1f93>1f23,3b9 1f94>1f24,3b9 1f95>1f25,3b9 1f96>1f26,3b9
  1f97>1f27,3b9 1f98>1f20,3b9 1f99>1f21,3b9 1f9a>1f22,3b9 1f9b>1f23,3b9 1f9c>1f24,3b9
  1f9d>1f25,3b9 1f9e>1f26,3b9 1f9f>1f27,3b9 1fa0>1f60,3b9 1fa1>1f61,3b9 1fa2>1f62,3b9
  1fa3>1f63,3b9 1fa4>1f64,3b9 1fa5>1f65,3b9 1fa6>1f66,3b9 1fa7>1f67,3b9 1fa8>1f60,3b9
  1fa9>1f61,3b9 1faa>1f62,3b9 1fab>1f63,3b9 1fac>1f64,3b9 1fad>1f65,3b9 1fae>1f66,3b9
  1faf>1f67,3b9 1fb0-1fb1 1fb2>1f70,3b9 1fb3>3b1,3b9 1fb4>3ac,3b9 1fb6 1fb7>1fb6,3b9
  1fb8:1fb0,1fb1,1f70,3ac 1fbc>3b1,3b9 1fbd>20,313 1fbe:3b9 1fbf>20,313 1fc0>20,342
  1fc1>20,308,342 1fc2>1f74,3b9 1fc3>3b7,3b9 1fc4>3ae,3b9 1fc6 1fc7>1fc6,3b9
  1fc8:1f72,3ad,1f74,3ae 1fcc>3b7,3b9 1fcd>20,313,300 1fce>20,313,301 1fcf>20,313,342 1fd0-1fd2
  1fd3:390 1fd6-1fd7 1fd8:1fd0,1fd1,1f76,3af 1fdd>20,314,300 1fde>20,314,301 1fdf>20,314,342
  1fe0-1fe2 1fe3:3b0 1fe4-1fe7 1fe8:1fe0,1fe1,1f7a,3cd,1fe5 1fed>20,308,300 1fee>20,308,301
  1fef:60 1ff2>1f7c,3b9 1ff3>3c9,3b9 1ff4>3ce,3b9 1ff6 1ff7>1ff6,3b9 1ff8:1f78,3cc,1f7c,3ce
  1ffc>3c9,3b9 1ffd>20,301 1ffe>20,314 2000-200a>20 200b> 200c-200d 2010 2011:2010 2012-2016
  2017>20,333 2018-2023 2027 202f:20 2030-2032 2033>2032,2032 2034>2032,2032,2032 2035
  2036>2035,2035 2037>2035,2035,2035 2038-203b 203c>21,21 203d 203e>20,305 203f-2046 2047>3f,3f
  2048>3f,21 2049>21,3f 204a-2056 2057>2032,2032,2032,2032 2058-205e 205f:20 2060-2064> 206a-206f>
  2070:30,69 2074-2079+34 207a:2b,2212,3d,28,29,6e 2080-2089+30 208a:2b,2212,3d,28,29
  2090:61,65,6f,78,259,68 2096-2099+6b 209a:70,73,74 20a0-20a7 20a8>72,73 20a9-20c2 20d0-20f0
  2100>61,2f,63 2101>61,2f,73 2102:63 2103>b0,63 2104 2105>63,2f,6f 2106>63,2f,75 2107:25b 2108
  2109>b0,66 210a:67,68 210c-210e>68 210f:127 2110-2111>69 2112-2113>6c 2114 2115:6e 2116>6e,6f
  2117-2118 2119-211b+70 211c-211d>72 211e-211f 2120>73,6d 2121>74,65,6c 2122>74,6d 2123 2124:7a
  2125 2126:3c9 2127 2128:7a 2129 212a:6b,e5,62,63 212e 212f-2130>65 2131:66,214e,6d,6f
  2135-2138+5d0 2139:69 213a 213b>66,61,78 213c:3c0 213d-213e>3b3 213f:3c0,2211 2141-2144
  2145-2146>64 2147:65,69,6a 214a-214f 2150>31,2044,37 2151>31,2044,39 2152>31,2044,31,30
  2153>31,2044,33 2154>32,2044,33 2155>31,2044,35 2156>32,2044,35 2157>33,2044,35 2158>34,2044,35
  2159>31,2044,36 215a>35,2044,36 215b>31,2044,38 215c>33,2044,38 215d>35,2044,38 215e>37,2044,38
  215f>31,2044 2160:69 2161>69,69 2162>69,69,69 2163>69,76 2164:76 2165>76,69 2166>76,69,69
  2167>76,69,69,69 2168>69,78 2169:78 216a>78,69 216b>78,69,69 216c:6c,63,64,6d,69 2171>69,69
  2172>69,69,69 2173>69,76 2174:76 2175>76,69 2176>76,69,69 2177>76,69,69,69 2178>69,78 2179:78
  217a>78,69 217b>78,69,69 217c:6c,63,64,6d 2180-2182 2183:2184 2184-2188 2189>30,2044,33
  218a-218b 2190-222b 222c>222b,222b 222d>222b,222b,222b 222e 222f>222e,222e 2230>222e,222e,222e
  2231-2328 2329:3008,3009 232b-2429 2440-244a 2460-2468+31 2469>31,30 246a>31,31 246b>31,32
  246c>31,33 246d>31,34 246e>31,35 246f>31,36 2470>31,37 2471>31,38 2472>31,39 2473>32,30
  2474>28,31,29 2475>28,32,29 2476>28,33,29 2477>28,34,29 2478>28,35,29 2479>28,36,29
  247a>28,37,29 247b>28,38,29 247c>28,39,29 247d>28,31,30,29 247e>28,31,31,29 247f>28,31,32,29
  2480>28,31,33,29 2481>28,31,34,29 2482>28,31,35,29 2483>28,31,36,29 2484>28,31,37,29
  2485>28,31,38,29 2486>28,31,39,29 2487>28,32,30,29 249c>28,61,29 249d>28,62,29 249e>28,63,29
  249f>28,64,29 24a0>28,65,29 24a1>28,66,29 24a2>28,67,29 24a3>28,68,29 24a4>28,69,29
  24a5>28,6a,29 24a6>28,6b,29 24a7>28,6c,29 24a8>28,6d,29 24a9>28,6e,29 24aa>28,6f,29
  24ab>28,70,29 24ac>28,71,29 24ad>28,72,29 24ae>28,73,29 24af>28,74,29 24b0>28,75,29
  24b1>28,76,29 24b2>28,77,29 24b3>28,78,29 24b4>28,79,29 24b5>28,7a,29 24b6-24cf+61 24d0-24e9+61
  24ea:30 24eb-2a0b 2a0c>222b,222b,222b,222b 2a0d-2a73 2a74>3a,3a,3d 2a75>3d,3d 2a76>3d,3d,3d
  2a77-2adb 2adc>2add,338 2add-2b73 2b76-2bff 2c00-2c2f+2c30 2c30-2c5f 2c60:2c61 2c61
  2c62:26b,1d7d,27d 2c65-2c66 2c67*2c6c 2c6d:251,271,250,252 2c71 2c72:2c73 2c73-2c74 2c75:2c76
  2c76-2c7b 2c7c:6a,76,23f,240 2c80*2ce3 2ce4-2cea 2ceb*2cee 2cef-2cf1 2cf2:2cf3 2cf3 2cf9-2d25
  2d27 2d2d 2d30-2d67 2d6f:2d61 2d70 2d7f-2d96 2da0-2da6 2da8-2dae 2db0-2db6 2db8-2dbe 2dc0-2dc6
  2dc8-2dce 2dd0-2dd6 2dd8-2dde 2de0-2e5d 2e80-2e99 2e9b-2e9e 2e9f:6bcd 2ea0-2ef2 2ef3:9f9f
  2f00:4e00,4e28,4e36,4e3f,4e59,4e85,4e8c,4ea0,4eba,513f,5165,516b
  2f0c:5182,5196,51ab,51e0,51f5,5200,529b,52f9,5315,531a,5338,5341
  2f18:535c,5369,5382,53b6,53c8,53e3,56d7,571f,58eb,5902,590a,5915
  2f24:5927,5973,5b50,5b80,5bf8,5c0f,5c22,5c38,5c6e,5c71,5ddb,5de5
  2f30:5df1,5dfe,5e72,5e7a,5e7f,5ef4,5efe,5f0b,5f13,5f50,5f61,5f73
  2f3c:5fc3,6208,6236,624b,652f,6534,6587,6597,65a4,65b9,65e0,65e5
  2f48:66f0,6708,6728,6b20,6b62,6b79,6bb3,6bcb,6bd4,6bdb,6c0f,6c14
  2f54:6c34,706b,722a,7236,723b,723f,7247,7259,725b,72ac,7384,7389
  2f60:74dc,74e6,7518,751f,7528,7530,758b,7592,7676,767d,76ae,76bf
  2f6c:76ee,77db,77e2,77f3,793a,79b8,79be,7a74,7acb,7af9,7c73,7cf8
  2f78:7f36,7f51,7f8a,7fbd,8001,800c,8012,8033,807f,8089,81e3,81ea
  2f84:81f3,81fc,820c,821b,821f,826e,8272,8278,864d,866b,8840,884c
  2f90:8863,897e,898b,89d2,8a00,8c37,8c46,8c55,8c78,8c9d,8d64,8d70
  2f9c:8db3,8eab,8eca,8f9b,8fb0,8fb5,9091,9149,91c6,91cc,91d1,9577
  2fa8:9580,961c,96b6,96b9,96e8,9751,975e,9762,9769,97cb,97ed,97f3
  2fb4:9801,98a8,98db,98df,9996,9999,99ac,9aa8,9ad8,9adf,9b25,9b2f
  2fc0:9b32,9b3c,9b5a,9ce5,9e75,9e7f,9ea5,9ebb,9ec3,9ecd,9ed1,9ef9
  2fcc:9efd,9f0e,9f13,9f20,9f3b,9f4a,9f52,9f8d,9f9c,9fa0 3000:20 3001 3002:2e 3003-3035 3036:3012
  3037 3038:5341,5344,5345 303b-303f 3041-3096 3099-309a 309b>20,3099 309c>20,309a 309d-309e
  309f>3088,308a 30a0-30fe 30ff>30b3,30c8 3105-312f 3131:1100,1101,11aa,1102,11ac,11ad
  3137-3139+1103 313a-313f+11b0 3140:111a 3141-3143+1106 3144:1121 3145-314e+1109 314f-3163+1161
  3164> 3165:1114,1115,11c7,11c8,11cc,11ce,11d3,11d7,11d9,111c,11dd,11df
  3171:111d,111e,1120,1122,1123,1127,1129 3178-317c+112b 317d:1132,1136,1140,1147,114c,11f1,11f2
  3184-3186+1157 3187:1184,1185,1188,1191,1192,1194,119e,11a1 3190-3191
  3192:4e00,4e8c,4e09,56db,4e0a,4e2d,4e0b,7532,4e59,4e19,4e01,5929 319e:5730,4eba 31a0-31e5
  31f0-31ff 3200>28,1100,29 3201>28,1102,29 3202>28,1103,29 3203>28,1105,29 3204>28,1106,29
  3205>28,1107,29 3206>28,1109,29 3207>28,110b,29 3208>28,110c,29 3209>28,110e,29 320a>28,110f,29
  320b>28,1110,29 320c>28,1111,29 320d>28,1112,29 320e>28,ac00,29 320f>28,b098,29 3210>28,b2e4,29
  3211>28,b77c,29 3212>28,b9c8,29 3213>28,bc14,29 3214>28,c0ac,29 3215>28,c544,29 3216>28,c790,29
  3217>28,cc28,29 3218>28,ce74,29 3219>28,d0c0,29 321a>28,d30c,29 321b>28,d558,29 321c>28,c8fc,29
  321d>28,c624,c804,29 321e>28,c624,d6c4,29 3220>28,4e00,29 3221>28,4e8c,29 3222>28,4e09,29
  3223>28,56db,29 3224>28,4e94,29 3225>28,516d,29 3226>28,4e03,29 3227>28,516b,29 3228>28,4e5d,29
  3229>28,5341,29 322a>28,6708,29 322b>28,706b,29 322c>28,6c34,29 322d>28,6728,29 322e>28,91d1,29
  322f>28,571f,29 3230>28,65e5,29 3231>28,682a,29 3232>28,6709,29 3233>28,793e,29 3234>28,540d,29
  3235>28,7279,29 3236>28,8ca1,29 3237>28,795d,29 3238>28,52b4,29 3239>28,4ee3,29 323a>28,547c,29
  323b>28,5b66,29 323c>28,76e3,29 323d>28,4f01,29 323e>28,8cc7,29 323f>28,5354,29 3240>28,796d,29
  3241>28,4f11,29 3242>28,81ea,29 3243>28,81f3,29 3244:554f,5e7c,6587,7b8f 3248-324f 3250>70,74,65
  3251>32,31 3252>32,32 3253>32,33 3254>32,34 3255>32,35 3256>32,36 3257>32,37 3258>32,38
  3259>32,39 325a>33,30 325b>33,31 325c>33,32 325d>33,33 325e>33,34 325f>33,35 3260:1100,1102,1103
  3263-3265+1105 3266:1109,110b,110c 3269-326d+110e
  326e:ac00,b098,b2e4,b77c,b9c8,bc14,c0ac,c544,c790,cc28,ce74,d0c0 327a:d30c,d558 327c>cc38,ace0
  327d>c8fc,c758 327e:c6b0 327f 3280:4e00,4e8c,4e09,56db,4e94,516d,4e03,516b,4e5d,5341,6708,706b
  328c:6c34,6728,91d1,571f,65e5,682a,6709,793e,540d,7279,8ca1,795d
  3298:52b4,79d8,7537,5973,9069,512a,5370,6ce8,9805,4f11,5199,6b63
  32a4:4e0a,4e2d,4e0b,5de6,53f3,533b,5b97,5b66,76e3,4f01,8cc7,5354 32b0:591c 32b1>33,36 32b2>33,37
  32b3>33,38 32b4>33,39 32b5>34,30 32b6>34,31 32b7>34,32 32b8>34,33 32b9>34,34 32ba>34,35
  32bb>34,36 32bc>34,37 32bd>34,38 32be>34,39 32bf>35,30 32c0>31,6708 32c1>32,6708 32c2>33,6708
  32c3>34,6708 32c4>35,6708 32c5>36,6708 32c6>37,6708 32c7>38,6708 32c8>39,6708 32c9>31,30,6708
  32ca>31,31,6708 32cb>31,32,6708 32cc>68,67 32cd>65,72,67 32ce>65,76 32cf>6c,74,64
  32d0:30a2,30a4,30a6,30a8,30aa,30ab,30ad,30af,30b1,30b3,30b5,30b7
  32dc:30b9,30bb,30bd,30bf,30c1,30c4,30c6,30c8 32e4-32e9+30ca 32ea:30d2,30d5,30d8,30db
  32ee-32f2+30de 32f3:30e4,30e6 32f5-32fa+30e8 32fb-32fe+30ef 32ff>4ee4,548c
  3300>30a2,30d1,30fc,30c8 3301>30a2,30eb,30d5,30a1 3302>30a2,30f3,30da,30a2 3303>30a2,30fc,30eb
  3304>30a4,30cb,30f3,30b0 3305>30a4,30f3,30c1 3306>30a6,30a9,30f3 3307>30a8,30b9,30af,30fc,30c9
  3308>30a8,30fc,30ab,30fc 3309>30aa,30f3,30b9 330a>30aa,30fc,30e0 330b>30ab,30a4,30ea
  330c>30ab,30e9,30c3,30c8 330d>30ab,30ed,30ea,30fc 330e>30ac,30ed,30f3 330f>30ac,30f3,30de
  3310>30ae,30ac 3311>30ae,30cb,30fc 3312>30ad,30e5,30ea,30fc 3313>30ae,30eb,30c0,30fc
  3314>30ad,30ed 3315>30ad,30ed,30b0,30e9,30e0 3316>30ad,30ed,30e1,30fc,30c8,30eb
  3317>30ad,30ed,30ef,30c3,30c8 3318>30b0,30e9,30e0 3319>30b0,30e9,30e0,30c8,30f3
  331a>30af,30eb,30bc,30a4,30ed 331b>30af,30ed,30fc,30cd 331c>30b1,30fc,30b9 331d>30b3,30eb,30ca
  331e>30b3,30fc,30dd 331f>30b5,30a4,30af,30eb 3320>30b5,30f3,30c1,30fc,30e0
  3321>30b7,30ea,30f3,30b0 3322>30bb,30f3,30c1 3323>30bb,30f3,30c8 3324>30c0,30fc,30b9
  3325>30c7,30b7 3326>30c9,30eb 3327>30c8,30f3 3328>30ca,30ce 3329>30ce,30c3,30c8
  332a>30cf,30a4,30c4 332b>30d1,30fc,30bb,30f3,30c8 332c>30d1,30fc,30c4 332d>30d0,30fc,30ec,30eb
  332e>30d4,30a2,30b9,30c8,30eb 332f>30d4,30af,30eb 3330>30d4,30b3 3331>30d3,30eb
  3332>30d5,30a1,30e9,30c3,30c9 3333>30d5,30a3,30fc,30c8 3334>30d6,30c3,30b7,30a7,30eb
  3335>30d5,30e9,30f3 3336>30d8,30af,30bf,30fc,30eb 3337>30da,30bd 3338>30da,30cb,30d2
  3339>30d8,30eb,30c4 333a>30da,30f3,30b9 333b>30da,30fc,30b8 333c>30d9,30fc,30bf
  333d>30dd,30a4,30f3,30c8 333e>30dc,30eb,30c8 333f>30db,30f3 3340>30dd,30f3,30c9
  3341>30db,30fc,30eb 3342>30db,30fc,30f3 3343>30de,30a4,30af,30ed 3344>30de,30a4,30eb
  3345>30de,30c3,30cf 3346>30de,30eb,30af 3347>30de,30f3,30b7,30e7,30f3 3348>30df,30af,30ed,30f3
  3349>30df,30ea 334a>30df,30ea,30d0,30fc,30eb 334b>30e1,30ac 334c>30e1,30ac,30c8,30f3
  334d>30e1,30fc,30c8,30eb 334e>30e4,30fc,30c9 334f>30e4,30fc,30eb 3350>30e6,30a2,30f3
  3351>30ea,30c3,30c8,30eb 3352>30ea,30e9 3353>30eb,30d4,30fc 3354>30eb,30fc,30d6,30eb
  3355>30ec,30e0 3356>30ec,30f3,30c8,30b2,30f3 3357>30ef,30c3,30c8 3358>30,70b9 3359>31,70b9
  335a>32,70b9 335b>33,70b9 335c>34,70b9 335d>35,70b9 335e>36,70b9 335f>37,70b9 3360>38,70b9
  3361>39,70b9 3362>31,30,70b9 3363>31,31,70b9 3364>31,32,70b9 3365>31,33,70b9 3366>31,34,70b9
  3367>31,35,70b9 3368>31,36,70b9 3369>31,37,70b9 336a>31,38,70b9 336b>31,39,70b9 336c>32,30,70b9
  336d>32,31,70b9 336e>32,32,70b9 336f>32,33,70b9 3370>32,34,70b9 3371>68,70,61 3372>64,61
  3373>61,75 3374>62,61,72 3375>6f,76 3376>70,63 3377>64,6d 3378>64,6d,32 3379>64,6d,33 337a>69,75
  337b>5e73,6210 337c>662d,548c 337d>5927,6b63 337e>660e,6cbb 337f>682a,5f0f,4f1a,793e 3380>70,61
  3381>6e,61 3382>3bc,61 3383>6d,61 3384>6b,61 3385>6b,62 3386>6d,62 3387>67,62 3388>63,61,6c
  3389>6b,63,61,6c 338a>70,66 338b>6e,66 338c>3bc,66 338d>3bc,67 338e>6d,67 338f>6b,67 3390>68,7a
  3391>6b,68,7a 3392>6d,68,7a 3393>67,68,7a 3394>74,68,7a 3395>3bc,6c 3396>6d,6c 3397>64,6c
  3398>6b,6c 3399>66,6d 339a>6e,6d 339b>3bc,6d 339c>6d,6d 339d>63,6d 339e>6b,6d 339f>6d,6d,32
  33a0>63,6d,32 33a1>6d,32 33a2>6b,6d,32 33a3>6d,6d,33 33a4>63,6d,33 33a5>6d,33 33a6>6b,6d,33
  33a7>6d,2215,73 33a8>6d,2215,73,32 33a9>70,61 33aa>6b,70,61 33ab>6d,70,61 33ac>67,70,61
  33ad>72,61,64 33ae>72,61,64,2215,73 33af>72,61,64,2215,73,32 33b0>70,73 33b1>6e,73 33b2>3bc,73
  33b3>6d,73 33b4>70,76 33b5>6e,76 33b6>3bc,76 33b7>6d,76 33b8>6b,76 33b9>6d,76 33ba>70,77
  33bb>6e,77 33bc>3bc,77 33bd>6d,77 33be>6b,77 33bf>6d,77 33c0>6b,3c9 33c1>6d,3c9 33c3>62,71
  33c4>63,63 33c5>63,64 33c6>63,2215,6b,67 33c8>64,62 33c9>67,79 33ca>68,61 33cb>68,70 33cc>69,6e
  33cd>6b,6b 33ce>6b,6d 33cf>6b,74 33d0>6c,6d 33d1>6c,6e 33d2>6c,6f,67 33d3>6c,78 33d4>6d,62
  33d5>6d,69,6c 33d6>6d,6f,6c 33d7>70,68 33d9>70,70,6d 33da>70,72 33db>73,72 33dc>73,76 33dd>77,62
  33de>76,2215,6d 33df>61,2215,6d 33e0>31,65e5 33e1>32,65e5 33e2>33,65e5 33e3>34,65e5 33e4>35,65e5
  33e5>36,65e5 33e6>37,65e5 33e7>38,65e5 33e8>39,65e5 33e9>31,30,65e5 33ea>31,31,65e5
  33eb>31,32,65e5 33ec>31,33,65e5 33ed>31,34,65e5 33ee>31,35,65e5 33ef>31,36,65e5 33f0>31,37,65e5
  33f1>31,38,65e5 33f2>31,39,65e5 33f3>32,30,65e5 33f4>32,31,65e5 33f5>32,32,65e5 33f6>32,33,65e5
  33f7>32,34,65e5 33f8>32,35,65e5 33f9>32,36,65e5 33fa>32,37,65e5 33fb>32,38,65e5 33fc>32,39,65e5
  33fd>33,30,65e5 33fe>33,31,65e5 33ff>67,61,6c 3400-a48c a490-a4c6 a4d0-a62b a640*a66d a66e-a67f
  a680*a69b a69c:44a,44c a69e-a6f7 a700-a721 a722*a72f a730-a731 a732*a76f a770:a76f a771-a778
  a779*a77c a77d:1d79 a77e*a787 a788-a78a a78b:a78c a78c a78d:265 a78e-a78f a790*a793 a794-a795
  a796*a7a9 a7aa:266,25c,261,26c,26a a7af a7b0:29e,287,29d,ab53 a7b4*a7c3 a7c4:a794,282,1d8e
  a7c7*a7ca a7cb:264 a7cc*a7db a7dc:19b a7f1:73,63,66,71,a7f6 a7f6-a7f7 a7f8:127,153 a7fa-a82c
  a830-a839 a840-a877 a880-a8c5 a8ce-a8d9 a8e0-a953 a95f-a97c a980-a9cd a9cf-a9d9 a9de-a9fe
  aa00-aa36 aa40-aa4d aa50-aa59 aa5c-aac2 aadb-aaf6 ab01-ab06 ab09-ab0e ab11-ab16 ab20-ab26
  ab28-ab2e ab30-ab5b ab5c:a727,ab37,26b,ab52 ab60-ab68 ab69:28d ab6a-ab6b ab70-abbf+13a0
  abc0-abed abf0-abf9 ac00-d7a3 d7b0-d7c6 d7cb-d7fb f900:8c48,66f4,8eca,8cc8,6ed1,4e32,53e5
  f907-f908>9f9c f909:5951,91d1,5587,5948,61f6,7669,7f85,863f,87ba,88f8,908f,6a02
  f915:6d1b,70d9,73de,843d,916a,99f1,4e82,5375,6b04,721b,862d,9e1e
  f921:5d50,6feb,85cd,8964,62c9,81d8,881f,5eca,6717,6d6a,72fc,90ce
  f92d:4f86,51b7,52de,64c4,6ad3,7210,76e7,8001,8606,865c,8def,9732
  f939:9b6f,9dfa,788c,797f,7da0,83c9,9304,9e7f,8ad6,58df,5f04,7c60
  f945:807e,7262,78ca,8cc2,96f7,58d8,5c62,6a13,6dda,6f0f,7d2f,7e37
  f951:964b,52d2,808b,51dc,51cc,7a1c,7dbe,83f1,9675,8b80,62cf,6a02
  f95d:8afe,4e39,5be7,6012,7387,7570,5317,78fb,4fbf,5fa9,4e0d,6ccc
  f969:6578,7d22,53c3,585e,7701,8449,8aaa,6bba,8fb0,6c88,62fe,82e5
  f975:63a0,7565,4eae,5169,51c9,6881,7ce7,826f,8ad2,91cf,52f5,5442
  f981:5973,5eec,65c5,6ffe,792a,95ad,9a6a,9e97,9ece,529b,66c6,6b77
  f98d:8f62,5e74,6190,6200,649a,6f23,7149,7489,79ca,7df4,806f,8f26
  f999:84ee,9023,934a,5217,52a3,54bd,70c8,88c2,8aaa,5ec9,5ff5,637b
  f9a5:6bae,7c3e,7375,4ee4,56f9,5be7,5dba,601c,73b2,7469,7f9a,8046
  f9b1:9234,96f6,9748,9818,4f8b,79ae,91b4,96b8,60e1,4e86,50da,5bee
  f9bd:5c3f,6599,6a02,71ce,7642,84fc,907c,9f8d,6688,962e,5289,677b
  f9c9:67f3,6d41,6e9c,7409,7559,786b,7d10,985e,516d,622e,9678,502b
  f9d5:5d19,6dea,8f2a,5f8b,6144,6817,7387,9686,5229,540f,5c65,6613
  f9e1:674e,68a8,6ce5,7406,75e2,7f79,88cf,88e1,91cc,96e2,533f,6eba
  f9ed:541d,71d0,7498,85fa,96a3,9c57,9e9f,6797,6dcb,81e8,7acb,7b20
  f9f9:7c92,72c0,7099,8b58,4ec0,8336,523a,5207,5ea6,62d3,7cd6,5b85
  fa05:6d1e,66b4,8f3b,884c,964d,898b,5ed3,5140,55c0 fa0e-fa0f fa10:585a fa11 fa12:6674 fa13-fa14
  fa15:51de,732a,76ca,793c,795e,7965,798f,9756,7cbe,7fbd fa1f fa20:8612 fa21 fa22:8af8 fa23-fa24
  fa25:9038,90fd fa27-fa29 fa2a:98ef,98fc,9928,9db4,90de,96b7,4fae,50e7,514d,52c9,52e4,5351
  fa36:559d,5606,5668,5840,58a8,5c64,5c6e,6094,6168,618e,61f2,654f
  fa42:65e2,6691,6885,6d77,6e1a,6f22,716e,722b,7422,7891,793e,7949
  fa4e:7948,7950,7956,795d,798d,798e,7a40,7a81,7bc0,7df4,7e09,7e41 fa5a:7f72,8005,81ed
  fa5d-fa5e>8279 fa5f:8457,8910,8996,8b01,8b39,8cd3,8d08,8fb6,9038,96e3,97ff,983b
  fa6b:6075,242ee,8218 fa70:4e26,51b5,5168,4f80,5145,5180,52c7,52fa,559d,5555,5599,55e2
  fa7c:585a,58b3,5944,5954,5a62,5b28,5ed2,5ed9,5f69,5fad,60d8,614e
  fa88:6108,618e,6160,61f2,6234,63c4,641c,6452,6556,6674,6717,671b
  fa94:6756,6b79,6bba,6d41,6edb,6ecb,6f22,701e,716e,77a7,7235,72af
  faa0:732a,7471,7506,753b,761d,761f,76ca,76db,76f4,774a,7740,78cc
  faac:7ab1,7bc0,7c7b,7d5b,7df4,7f3e,8005,8352,83ef,8779,8941,8986
  fab8:8996,8abf,8af8,8acb,8b01,8afe,8aed,8b39,8b8a,8d08,8f38,9072
  fac4:9199,9276,967c,96e3,9756,97db,97ff,980b,983b,9b12,9f9c,2284a
  fad0:22844,233d5,3b9d,4018,4039,25249,25cd0,27ed3,9f43,9f8e fb00>66,66 fb01>66,69 fb02>66,6c
  fb03>66,66,69 fb04>66,66,6c fb05-fb06>73,74 fb13>574,576 fb14>574,565 fb15>574,56b fb16>57e,576
  fb17>574,56d fb1d>5d9,5b4 fb1e fb1f>5f2,5b7 fb20:5e2,5d0,5d3,5d4 fb24-fb26+5db fb27:5e8,5ea,2b
  fb2a>5e9,5c1 fb2b>5e9,5c2 fb2c>5e9,5bc,5c1 fb2d>5e9,5bc,5c2 fb2e>5d0,5b7 fb2f>5d0,5b8
  fb30>5d0,5bc fb31>5d1,5bc fb32>5d2,5bc fb33>5d3,5bc fb34>5d4,5bc fb35>5d5,5bc fb36>5d6,5bc
  fb38>5d8,5bc fb39>5d9,5bc fb3a>5da,5bc fb3b>5db,5bc fb3c>5dc,5bc fb3e>5de,5bc fb40>5e0,5bc
  fb41>5e1,5bc fb43>5e3,5bc fb44>5e4,5bc fb46>5e6,5bc fb47>5e7,5bc fb48>5e8,5bc fb49>5e9,5bc
  fb4a>5ea,5bc fb4b>5d5,5b9 fb4c>5d1,5bf fb4d>5db,5bf fb4e>5e4,5bf fb4f>5d0,5dc fb50-fb51>671
  fb52-fb55>67b fb56-fb59>67e fb5a-fb5d>680 fb5e-fb61>67a fb62-fb65>67f fb66-fb69>679
  fb6a-fb6d>6a4 fb6e-fb71>6a6 fb72-fb75>684 fb76-fb79>683 fb7a-fb7d>686 fb7e-fb81>687
  fb82-fb83>68d fb84-fb85>68c fb86-fb87>68e fb88-fb89>688 fb8a-fb8b>698 fb8c-fb8d>691
  fb8e-fb91>6a9 fb92-fb95>6af fb96-fb99>6b3 fb9a-fb9d>6b1 fb9e-fb9f>6ba fba0-fba3>6bb
  fba4-fba5>6c0 fba6-fba9>6c1 fbaa-fbad>6be fbae-fbaf>6d2 fbb0-fbb1>6d3 fbb2-fbd2 fbd3-fbd6>6ad
  fbd7-fbd8>6c7 fbd9-fbda>6c6 fbdb-fbdc>6c8 fbdd>6c7,674 fbde-fbdf>6cb fbe0-fbe1>6c5 fbe2-fbe3>6c9
  fbe4-fbe7>6d0 fbe8-fbe9>649 fbea-fbeb>626,627 fbec-fbed>626,6d5 fbee-fbef>626,648
  fbf0-fbf1>626,6c7 fbf2-fbf3>626,6c6 fbf4-fbf5>626,6c8 fbf6-fbf8>626,6d0 fbf9-fbfb>626,649
  fbfc-fbff>6cc fc00>626,62c fc01>626,62d fc02>626,645 fc03>626,649 fc04>626,64a fc05>628,62c
  fc06>628,62d fc07>628,62e fc08>628,645 fc09>628,649 fc0a>628,64a fc0b>62a,62c fc0c>62a,62d
  fc0d>62a,62e fc0e>62a,645 fc0f>62a,649 fc10>62a,64a fc11>62b,62c fc12>62b,645 fc13>62b,649
  fc14>62b,64a fc15>62c,62d fc16>62c,645 fc17>62d,62c fc18>62d,645 fc19>62e,62c fc1a>62e,62d
  fc1b>62e,645 fc1c>633,62c fc1d>633,62d fc1e>633,62e fc1f>633,645 fc20>635,62d fc21>635,645
  fc22>636,62c fc23>636,62d fc24>636,62e fc25>636,645 fc26>637,62d fc27>637,645 fc28>638,645
  fc29>639,62c fc2a>639,645 fc2b>63a,62c fc2c>63a,645 fc2d>641,62c fc2e>641,62d fc2f>641,62e
  fc30>641,645 fc31>641,649 fc32>641,64a fc33>642,62d fc34>642,645 fc35>642,649 fc36>642,64a
  fc37>643,627 fc38>643,62c fc39>643,62d fc3a>643,62e fc3b>643,644 fc3c>643,645 fc3d>643,649
  fc3e>643,64a fc3f>644,62c fc40>644,62d fc41>644,62e fc42>644,645 fc43>644,649 fc44>644,64a
  fc45>645,62c fc46>645,62d fc47>645,62e fc48>645,645 fc49>645,649 fc4a>645,64a fc4b>646,62c
  fc4c>646,62d fc4d>646,62e fc4e>646,645 fc4f>646,649 fc50>646,64a fc51>647,62c fc52>647,645
  fc53>647,649 fc54>647,64a fc55>64a,62c fc56>64a,62d fc57>64a,62e fc58>64a,645 fc59>64a,649
  fc5a>64a,64a fc5b>630,670 fc5c>631,670 fc5d>649,670 fc5e>20,64c,651 fc5f>20,64d,651
  fc60>20,64e,651 fc61>20,64f,651 fc62>20,650,651 fc63>20,651,670 fc64>626,631 fc65>626,632
  fc66>626,645 fc67>626,646 fc68>626,649 fc69>626,64a fc6a>628,631 fc6b>628,632 fc6c>628,645
  fc6d>628,646 fc6e>628,649 fc6f>628,64a fc70>62a,631 fc71>62a,632 fc72>62a,645 fc73>62a,646
  fc74>62a,649 fc75>62a,64a fc76>62b,631 fc77>62b,632 fc78>62b,645 fc79>62b,646 fc7a>62b,649
  fc7b>62b,64a fc7c>641,649 fc7d>641,64a fc7e>642,649 fc7f>642,64a fc80>643,627 fc81>643,644
  fc82>643,645 fc83>643,649 fc84>643,64a fc85>644,645 fc86>644,649 fc87>644,64a fc88>645,627
  fc89>645,645 fc8a>646,631 fc8b>646,632 fc8c>646,645 fc8d>646,646 fc8e>646,649 fc8f>646,64a
  fc90>649,670 fc91>64a,631 fc92>64a,632 fc93>64a,645 fc94>64a,646 fc95>64a,649 fc96>64a,64a
  fc97>626,62c fc98>626,62d fc99>626,62e fc9a>626,645 fc9b>626,647 fc9c>628,62c fc9d>628,62d
  fc9e>628,62e fc9f>628,645 fca0>628,647 fca1>62a,62c fca2>62a,62d fca3>62a,62e fca4>62a,645
  fca5>62a,647 fca6>62b,645 fca7>62c,62d fca8>62c,645 fca9>62d,62c fcaa>62d,645 fcab>62e,62c
  fcac>62e,645 fcad>633,62c fcae>633,62d fcaf>633,62e fcb0>633,645 fcb1>635,62d fcb2>635,62e
  fcb3>635,645 fcb4>636,62c fcb5>636,62d fcb6>636,62e fcb7>636,645 fcb8>637,62d fcb9>638,645
  fcba>639,62c fcbb>639,645 fcbc>63a,62c fcbd>63a,645 fcbe>641,62c fcbf>641,62d fcc0>641,62e
  fcc1>641,645 fcc2>642,62d fcc3>642,645 fcc4>643,62c fcc5>643,62d fcc6>643,62e fcc7>643,644
  fcc8>643,645 fcc9>644,62c fcca>644,62d fccb>644,62e fccc>644,645 fccd>644,647 fcce>645,62c
  fccf>645,62d fcd0>645,62e fcd1>645,645 fcd2>646,62c fcd3>646,62d fcd4>646,62e fcd5>646,645
  fcd6>646,647 fcd7>647,62c fcd8>647,645 fcd9>647,670 fcda>64a,62c fcdb>64a,62d fcdc>64a,62e
  fcdd>64a,645 fcde>64a,647 fcdf>626,645 fce0>626,647 fce1>628,645 fce2>628,647 fce3>62a,645
  fce4>62a,647 fce5>62b,645 fce6>62b,647 fce7>633,645 fce8>633,647 fce9>634,645 fcea>634,647
  fceb>643,644 fcec>643,645 fced>644,645 fcee>646,645 fcef>646,647 fcf0>64a,645 fcf1>64a,647
  fcf2>640,64e,651 fcf3>640,64f,651 fcf4>640,650,651 fcf5>637,649 fcf6>637,64a fcf7>639,649
  fcf8>639,64a fcf9>63a,649 fcfa>63a,64a fcfb>633,649 fcfc>633,64a fcfd>634,649 fcfe>634,64a
  fcff>62d,649 fd00>62d,64a fd01>62c,649 fd02>62c,64a fd03>62e,649 fd04>62e,64a fd05>635,649
  fd06>635,64a fd07>636,649 fd08>636,64a fd09>634,62c fd0a>634,62d fd0b>634,62e fd0c>634,645
  fd0d>634,631 fd0e>633,631 fd0f>635,631 fd10>636,631 fd11>637,649 fd12>637,64a fd13>639,649
  fd14>639,64a fd15>63a,649 fd16>63a,64a fd17>633,649 fd18>633,64a fd19>634,649 fd1a>634,64a
  fd1b>62d,649 fd1c>62d,64a fd1d>62c,649 fd1e>62c,64a fd1f>62e,649 fd20>62e,64a fd21>635,649
  fd22>635,64a fd23>636,649 fd24>636,64a fd25>634,62c fd26>634,62d fd27>634,62e fd28>634,645
  fd29>634,631 fd2a>633,631 fd2b>635,631 fd2c>636,631 fd2d>634,62c fd2e>634,62d fd2f>634,62e
  fd30>634,645 fd31>633,647 fd32>634,647 fd33>637,645 fd34>633,62c fd35>633,62d fd36>633,62e
  fd37>634,62c fd38>634,62d fd39>634,62e fd3a>637,645 fd3b>638,645 fd3c-fd3d>627,64b fd3e-fd4f
  fd50>62a,62c,645 fd51-fd52>62a,62d,62c fd53>62a,62d,645 fd54>62a,62e,645 fd55>62a,645,62c
  fd56>62a,645,62d fd57>62a,645,62e fd58-fd59>62c,645,62d fd5a>62d,645,64a fd5b>62d,645,649
  fd5c>633,62d,62c fd5d>633,62c,62d fd5e>633,62c,649 fd5f-fd60>633,645,62d fd61>633,645,62c
  fd62-fd63>633,645,645 fd64-fd65>635,62d,62d fd66>635,645,645 fd67-fd68>634,62d,645
  fd69>634,62c,64a fd6a-fd6b>634,645,62e fd6c-fd6d>634,645,645 fd6e>636,62d,649
  fd6f-fd70>636,62e,645 fd71-fd72>637,645,62d fd73>637,645,645 fd74>637,645,64a fd75>639,62c,645
  fd76-fd77>639,645,645 fd78>639,645,649 fd79>63a,645,645 fd7a>63a,645,64a fd7b>63a,645,649
  fd7c-fd7d>641,62e,645 fd7e>642,645,62d fd7f>642,645,645 fd80>644,62d,645 fd81>644,62d,64a
  fd82>644,62d,649 fd83-fd84>644,62c,62c fd85-fd86>644,62e,645 fd87-fd88>644,645,62d
  fd89>645,62d,62c fd8a>645,62d,645 fd8b>645,62d,64a fd8c>645,62c,62d fd8d>645,62c,645
  fd8e>645,62e,62c fd8f>645,62e,645 fd90-fd91 fd92>645,62c,62e fd93>647,645,62c fd94>647,645,645
  fd95>646,62d,645 fd96>646,62d,649 fd97-fd98>646,62c,645 fd99>646,62c,649 fd9a>646,645,64a
  fd9b>646,645,649 fd9c-fd9d>64a,645,645 fd9e>628,62e,64a fd9f>62a,62c,64a fda0>62a,62c,649
  fda1>62a,62e,64a fda2>62a,62e,649 fda3>62a,645,64a fda4>62a,645,649 fda5>62c,645,64a
  fda6>62c,62d,649 fda7>62c,645,649 fda8>633,62e,649 fda9>635,62d,64a fdaa>634,62d,64a
  fdab>636,62d,64a fdac>644,62c,64a fdad>644,645,64a fdae>64a,62d,64a fdaf>64a,62c,64a
  fdb0>64a,645,64a fdb1>645,645,64a fdb2>642,645,64a fdb3>646,62d,64a fdb4>642,645,62d
  fdb5>644,62d,645 fdb6>639,645,64a fdb7>643,645,64a fdb8>646,62c,62d fdb9>645,62e,64a
  fdba>644,62c,645 fdbb>643,645,645 fdbc>644,62c,645 fdbd>646,62c,62d fdbe>62c,62d,64a
  fdbf>62d,62c,64a fdc0>645,62c,64a fdc1>641,645,64a fdc2>628,62d,64a fdc3>643,645,645
  fdc4>639,62c,645 fdc5>635,645,645 fdc6>633,62e,64a fdc7>646,62c,64a fdc8-fdcf fdf0>635,644,6d2
  fdf1>642,644,6d2 fdf2>627,644,644,647 fdf3>627,643,628,631 fdf4>645,62d,645,62f
  fdf5>635,644,639,645 fdf6>631,633,648,644 fdf7>639,644,64a,647 fdf8>648,633,644,645
  fdf9>635,644,649 fdfa>635,644,649,20,627,644,644,647,20,639,644,64a,647,20,648,633,644,645
  fdfb>62c,644,20,62c,644,627,644,647 fdfc>631,6cc,627,644 fdfd-fdff fe00-fe0f> fe10:2c,3001
  fe13:3a,3b,21,3f,3016,3017 fe20-fe2f fe31:2014,2013 fe33-fe34>5f
  fe35:28,29,7b,7d,3014,3015,3010,3011,300a,300b,3008,3009 fe41-fe44+300c fe45-fe46 fe47:5b,5d
  fe49-fe4c>20,305 fe4d-fe4f>5f fe50:2c,3001 fe54:3b,3a,3f,21,2014,28,29,7b,7d,3014,3015,23
  fe60:26,2a,2b,2d,3c,3e,3d fe68:5c,24,25,40 fe70>20,64b fe71>640,64b fe72>20,64c fe73 fe74>20,64d
  fe76>20,64e fe77>640,64e fe78>20,64f fe79>640,64f fe7a>20,650 fe7b>640,650 fe7c>20,651
  fe7d>640,651 fe7e>20,652 fe7f>640,652 fe80:621,622,622,623,623,624,624,625,625,626 fe8a-fe8c>626
  fe8d-fe8e>627 fe8f-fe92>628 fe93-fe94>629 fe95-fe98>62a fe99-fe9c>62b fe9d-fea0>62c
  fea1-fea4>62d fea5-fea8>62e fea9-feaa>62f feab-feac>630 fead-feae>631 feaf-feb0>632
  feb1-feb4>633 feb5-feb8>634 feb9-febc>635 febd-fec0>636 fec1-fec4>637 fec5-fec8>638
  fec9-fecc>639 fecd-fed0>63a fed1-fed4>641 fed5-fed8>642 fed9-fedc>643 fedd-fee0>644
  fee1-fee4>645 fee5-fee8>646 fee9-feec>647 feed-feee>648 feef-fef0>649 fef1-fef4>64a
  fef5-fef6>644,622 fef7-fef8>644,623 fef9-fefa>644,625 fefb-fefc>644,627 feff> ff01-ff20+21
  ff21-ff3a+61 ff3b-ff5e+5b ff5f:2985,2986,2e,300c,300d,3001,30fb,30f2,30a1,30a3,30a5,30a7
  ff6b:30a9,30e3,30e5,30e7,30c3,30fc,30a2,30a4,30a6,30a8,30aa,30ab
  ff77:30ad,30af,30b1,30b3,30b5,30b7,30b9,30bb,30bd,30bf,30c1,30c4 ff83:30c6,30c8 ff85-ff8a+30ca
  ff8b:30d2,30d5,30d8,30db ff8f-ff93+30de ff94:30e4,30e6 ff96-ff9b+30e8 ff9c:30ef,30f3,3099,309a
  ffa0> ffa1:1100,1101,11aa,1102,11ac,11ad ffa7-ffa9+1103 ffaa-ffaf+11b0 ffb0:111a ffb1-ffb3+1106
  ffb4:1121 ffb5-ffbe+1109 ffc2-ffc7+1161 ffca-ffcf+1167 ffd2-ffd7+116d ffda-ffdc+1173
  ffe0:a2,a3,ac ffe3>20,304 ffe4:a6,a5,20a9 ffe8:2502 ffe9-ffec+2190 ffed:25a0,25cb 10000-1000b
  1000d-10026 10028-1003a 1003c-1003d 1003f-1004d 10050-1005d 10080-100fa 10100-10102 10107-10133
  10137-1018e 10190-1019c 101a0 101d0-101fd 10280-1029c 102a0-102d0 102e0-102fb 10300-10323
  1032d-1034a 10350-1037a 10380-1039d 1039f-103c3 103c8-103d5 10400-10427+10428 10428-1049d
  104a0-104a9 104b0-104d3+104d8 104d8-104fb 10500-10527 10530-10563 1056f 10570-1057a+10597
  1057c-1058a+105a3 1058c-10592+105b3 10594:105bb,105bc 10597-105a1 105a3-105b1 105b3-105b9
  105bb-105bc 105c0-105f3 10600-10736 10740-10755 10760-10767 10780 10781:2d0,2d1,e6,299,253
  10787:2a3,ab66,2a5,2a4,256,257,1d91,258,25e,2a9,264,262
  10793:260,29b,127,29c,267,284,2aa,2ab,26c,1df04,a78e,26e
  1079f:1df05,28e,1df06,f8,276,277,71,27a,1df08,27d,27e,280 107ab:2a8,2a6,ab67,2a7,288,2c71
  107b2:28f,2a1,2a2,298 107b6-107b8+1c0 107b9:1df0a,1df1e 10800-10805 10808 1080a-10835
  10837-10838 1083c 1083f-10855 10857-1089e 108a7-108af 108e0-108f2 108f4-108f5 108fb-1091b
  1091f-10939 1093f-10959 10980-109b7 109bc-109cf 109d2-10a03 10a05-10a06 10a0c-10a13 10a15-10a17
  10a19-10a35 10a38-10a3a 10a3f-10a48 10a50-10a58 10a60-10a9f 10ac0-10ae6 10aeb-10af6 10b00-10b35
  10b39-10b55 10b58-10b72 10b78-10b91 10b99-10b9c 10ba9-10baf 10c00-10c48 10c80-10cb2+10cc0
  10cc0-10cf2 10cfa-10d27 10d30-10d39 10d40-10d4f 10d50-10d65+10d70 10d69-10d85 10d8e-10d8f
  10e60-10e7e 10e80-10ea9 10eab-10ead 10eb0-10eb1 10ec2-10ec7 10ed0-10ed8 10efa-10f27 10f30-10f59
  10f70-10f89 10fb0-10fcb 10fe0-10ff6 11000-1104d 11052-11075 1107f-110bc 110be-110c2 110d0-110e8
  110f0-110f9 11100-11134 11136-11147 11150-11176 11180-111df 111e1-111f4 11200-11211 11213-11241
  11280-11286 11288 1128a-1128d 1128f-1129d 1129f-112a9 112b0-112ea 112f0-112f9 11300-11303
  11305-1130c 1130f-11310 11313-11328 1132a-11330 11332-11333 11335-11339 1133b-11344 11347-11348
  1134b-1134d 11350 11357 1135d-11363 11366-1136c 11370-11374 11380-11389 1138b 1138e 11390-113b5
  113b7-113c0 113c2 113c5 113c7-113ca 113cc-113d5 113d7-113d8 113e1-113e2 11400-1145b 1145d-11461
  11480-114c7 114d0-114d9 11580-115b5 115b8-115dd 11600-11644 11650-11659 11660-1166c 11680-116b9
  116c0-116c9 116d0-116e3 11700-1171a 1171d-1172b 11730-11746 11800-1183b 118a0-118bf+118c0
  118c0-118f2 118ff-11906 11909 1190c-11913 11915-11916 11918-11935 11937-11938 1193b-11946
  11950-11959 119a0-119a7 119aa-119d7 119da-119e4 11a00-11a47 11a50-11aa2 11ab0-11af8 11b00-11b09
  11b60-11b67 11bc0-11be1 11bf0-11bf9 11c00-11c08 11c0a-11c36 11c38-11c45 11c50-11c6c 11c70-11c8f
  11c92-11ca7 11ca9-11cb6 11d00-11d06 11d08-11d09 11d0b-11d36 11d3a 11d3c-11d3d 11d3f-11d47
  11d50-11d59 11d60-11d65 11d67-11d68 11d6a-11d8e 11d90-11d91 11d93-11d98 11da0-11da9 11db0-11ddb
  11de0-11de9 11ee0-11ef8 11f00-11f10 11f12-11f3a 11f3e-11f5a 11fb0 11fc0-11ff1 11fff-12399
  12400-1246e 12470-12474 12480-12543 12550-12686 12f90-12ff2 13000-1342f 13440-13455 13460-143fa
  14400-14646 16100-16139 16800-16a38 16a40-16a5e 16a60-16a69 16a6e-16abe 16ac0-16ac9 16ad0-16aed
  16af0-16af5 16b00-16b45 16b50-16b59 16b5b-16b61 16b63-16b77 16b7d-16b8f 16d40-16d79
  16e40-16e5f+16e60 16e60-16e9a 16ea0-16eb8+16ebb 16ebb-16ed3 16f00-16f4a 16f4f-16f87 16f8f-16f9f
  16fe0-16fe4 16ff0-16ff6 17000-18cd5 18cff-18d1e 18d80-18df2 18e00-19191 191a0-191d2 1aff0-1aff3
  1aff5-1affb 1affd-1affe 1b000-1b122 1b132 1b150-1b152 1b155 1b164-1b167 1b170-1b2fb 1bc00-1bc6a
  1bc70-1bc7c 1bc80-1bc88 1bc90-1bc99 1bc9c-1bc9f 1bca0-1bca3> 1cc00-1ccd5 1ccd6-1ccef+61
  1ccf0-1ccf9+30 1ccfa-1ccfc 1cd00-1ceb3 1ceba-1ced0 1cee0-1cef0 1cf00-1cf2d 1cf30-1cf46
  1cf50-1cfc3 1d000-1d0f5 1d100-1d126 1d129-1d15d 1d15e>1d157,1d165 1d15f>1d158,1d165
  1d160>1d158,1d165,1d16e 1d161>1d158,1d165,1d16f 1d162>1d158,1d165,1d170 1d163>1d158,1d165,1d171
  1d164>1d158,1d165,1d172 1d165-1d172 1d173-1d17a> 1d17b-1d1ba 1d1bb>1d1b9,1d165 1d1bc>1d1ba,1d165
  1d1bd>1d1b9,1d165,1d16e 1d1be>1d1ba,1d165,1d16e 1d1bf>1d1b9,1d165,1d16f 1d1c0>1d1ba,1d165,1d16f
  1d1c1-1d1ea 1d200-1d245 1d2c0-1d2d3 1d2e0-1d2f3 1d300-1d356 1d360-1d378 1d400-1d419+61
  1d41a-1d433+61 1d434-1d44d+61 1d44e-1d454+61 1d456-1d467+69 1d468-1d481+61 1d482-1d49b+61
  1d49c:61 1d49e:63,64 1d4a2:67 1d4a5:6a,6b 1d4a9-1d4ac+6e 1d4ae-1d4b5+73 1d4b6-1d4b9+61 1d4bb:66
  1d4bd-1d4c3+68 1d4c5-1d4cf+70 1d4d0-1d4e9+61 1d4ea-1d503+61 1d504:61,62 1d507-1d50a+64
  1d50d-1d514+6a 1d516-1d51c+73 1d51e-1d537+61 1d538:61,62 1d53b-1d53e+64 1d540-1d544+69 1d546:6f
  1d54a-1d550+73 1d552-1d56b+61 1d56c-1d585+61 1d586-1d59f+61 1d5a0-1d5b9+61 1d5ba-1d5d3+61
  1d5d4-1d5ed+61 1d5ee-1d607+61 1d608-1d621+61 1d622-1d63b+61 1d63c-1d655+61 1d656-1d66f+61
  1d670-1d689+61 1d68a-1d6a3+61 1d6a4:131,237 1d6a8-1d6b8+3b1 1d6b9:3b8 1d6ba-1d6c0+3c3 1d6c1:2207
  1d6c2-1d6d2+3b1 1d6d3-1d6d4>3c3 1d6d5-1d6da+3c4 1d6db:2202,3b5,3b8,3ba,3c6,3c1,3c0
  1d6e2-1d6f2+3b1 1d6f3:3b8 1d6f4-1d6fa+3c3 1d6fb:2207 1d6fc-1d70c+3b1 1d70d-1d70e>3c3
  1d70f-1d714+3c4 1d715:2202,3b5,3b8,3ba,3c6,3c1,3c0 1d71c-1d72c+3b1 1d72d:3b8 1d72e-1d734+3c3
  1d735:2207 1d736-1d746+3b1 1d747-1d748>3c3 1d749-1d74e+3c4 1d74f:2202,3b5,3b8,3ba,3c6,3c1,3c0
  1d756-1d766+3b1 1d767:3b8 1d768-1d76e+3c3 1d76f:2207 1d770-1d780+3b1 1d781-1d782>3c3
  1d783-1d788+3c4 1d789:2202,3b5,3b8,3ba,3c6,3c1,3c0 1d790-1d7a0+3b1 1d7a1:3b8 1d7a2-1d7a8+3c3
  1d7a9:2207 1d7aa-1d7ba+3b1 1d7bb-1d7bc>3c3 1d7bd-1d7c2+3c4 1d7c3:2202,3b5,3b8,3ba,3c6,3c1,3c0
  1d7ca-1d7cb>3dd 1d7ce-1d7d7+30 1d7d8-1d7e1+30 1d7e2-1d7eb+30 1d7ec-1d7f5+30 1d7f6-1d7ff+30
  1d800-1da8b 1da9b-1da9f 1daa1-1daaf 1df00-1df1e 1df25-1df2a 1e000-1e006 1e008-1e018 1e01b-1e021
  1e023-1e024 1e026-1e02a 1e030-1e038+430 1e039-1e03b+43a 1e03c-1e046+43e
  1e047:44b,44d,44e,a689,4d9,456,458,4e9,4af,4cf 1e051-1e059+430 1e05a:43a,43b,43e,43f,441
  1e05f-1e064+443 1e065:44a,44b,491,456,455,45f,4ab,a651,4b1 1e08f 1e100-1e12c 1e130-1e13d
  1e140-1e149 1e14e-1e14f 1e290-1e2ae 1e2c0-1e2f9 1e2ff 1e4d0-1e4f9 1e5d0-1e5fa 1e5ff 1e6c0-1e6de
  1e6e0-1e6f5 1e6fe-1e6ff 1e7e0-1e7e6 1e7e8-1e7eb 1e7ed-1e7ee 1e7f0-1e7fe 1e800-1e8c4 1e8c7-1e8d6
  1e900-1e921+1e922 1e922-1e94b 1e950-1e959 1e95e-1e95f 1ec71-1ecb4 1ed01-1ed3d
  1ee00:627,628,62c,62f 1ee05:648,632,62d,637,64a 1ee0a-1ee0d+643
  1ee0e:633,639,641,635,642,631,634,62a,62b,62e,630,636 1ee1a:638,63a,66e,6ba,6a1,66f
  1ee21:628,62c 1ee24:647 1ee27:62d 1ee29:64a 1ee2a-1ee2d+643 1ee2e:633,639,641,635,642
  1ee34:634,62a,62b,62e 1ee39:636 1ee3b:63a 1ee42:62c 1ee47:62d 1ee49:64a 1ee4b:644
  1ee4d:646,633,639 1ee51:635,642 1ee54:634 1ee57:62e 1ee59:636 1ee5b:63a 1ee5d:6ba 1ee5f:66f
  1ee61:628,62c 1ee64:647 1ee67:62d,637,64a,643 1ee6c:645,646,633,639,641,635,642
  1ee74:634,62a,62b,62e 1ee79:636,638,63a,66e 1ee7e:6a1
  1ee80:627,628,62c,62f,647,648,632,62d,637,64a 1ee8b-1ee8d+644
  1ee8e:633,639,641,635,642,631,634,62a,62b,62e,630,636 1ee9a:638,63a 1eea1:628,62c,62f
  1eea5:648,632,62d,637,64a 1eeab-1eead+644 1eeae:633,639,641,635,642,631,634,62a,62b,62e,630,636
  1eeba:638,63a 1eef0-1eef1 1f000-1f02b 1f030-1f093 1f0a0-1f0ae 1f0b1-1f0bf 1f0c1-1f0cf
  1f0d1-1f0f5 1f101>30,2c 1f102>31,2c 1f103>32,2c 1f104>33,2c 1f105>34,2c 1f106>35,2c 1f107>36,2c
  1f108>37,2c 1f109>38,2c 1f10a>39,2c 1f10b-1f10f 1f110>28,61,29 1f111>28,62,29 1f112>28,63,29
  1f113>28,64,29 1f114>28,65,29 1f115>28,66,29 1f116>28,67,29 1f117>28,68,29 1f118>28,69,29
  1f119>28,6a,29 1f11a>28,6b,29 1f11b>28,6c,29 1f11c>28,6d,29 1f11d>28,6e,29 1f11e>28,6f,29
  1f11f>28,70,29 1f120>28,71,29 1f121>28,72,29 1f122>28,73,29 1f123>28,74,29 1f124>28,75,29
  1f125>28,76,29 1f126>28,77,29 1f127>28,78,29 1f128>28,79,29 1f129>28,7a,29 1f12a>3014,73,3015
  1f12b:63,72 1f12d>63,64 1f12e>77,7a 1f12f 1f130-1f149+61 1f14a>68,76 1f14b>6d,76 1f14c>73,64
  1f14d>73,73 1f14e>70,70,76 1f14f>77,63 1f150-1f169 1f16a>6d,63 1f16b>6d,64 1f16c>6d,72
  1f16d-1f18f 1f190>64,6a 1f191-1f1ad 1f1e6-1f1ff 1f200>307b,304b 1f201>30b3,30b3 1f202:30b5
  1f210:624b,5b57,53cc,30c7,4e8c,591a,89e3,5929,4ea4,6620,7121,6599
  1f21c:524d,5f8c,518d,65b0,521d,7d42,751f,8ca9,58f0,5439,6f14,6295
  1f228:6355,4e00,4e09,904a,5de6,4e2d,53f3,6307,8d70,6253,7981,7a7a
  1f234:5408,6e80,6709,6708,7533,5272,55b6,914d 1f240>3014,672c,3015 1f241>3014,4e09,3015
  1f242>3014,4e8c,3015 1f243>3014,5b89,3015 1f244>3014,70b9,3015 1f245>3014,6253,3015
  1f246>3014,76d7,3015 1f247>3014,52dd,3015 1f248>3014,6557,3015 1f250:5f97,53ef 1f260-1f265
  1f300-1f6d8 1f6dc-1f6ec 1f6f0-1f6fc 1f700-1f7d9 1f7e0-1f7eb 1f7f0 1f800-1f80b 1f810-1f847
  1f850-1f859 1f860-1f887 1f890-1f8ad 1f8b0-1f8bb 1f8c0-1f8c1 1f8d0-1f8d8 1f900-1fa57 1fa60-1fa6d
  1fa70-1fa7c 1fa80-1fa8a 1fa8e-1fac6 1fac8 1facd-1fadc 1fadf-1faea 1faef-1faf8 1fb00-1fb92
  1fb94-1fbef 1fbf0-1fbf9+30 1fbfa 20000-2a6df 2a700-2b81d 2b820-2cead 2ceb0-2ebe0 2ebf0-2ee5d
  2f800:4e3d,4e38,4e41,20122,4f60,4fae,4fbb,5002,507a,5099,50e7,50cf
  2f80c:349e,2063a,514d,5154,5164,5177,2051c,34b9,5167,518d,2054b,5197
  2f818:51a4,4ecc,51ac,51b5,291df,51f5,5203,34df,523b,5246,5272,5277
  2f824:3515,52c7,52c9,52e4,52fa,5305,5306,5317,5349,5351,535a,5373 2f830:537d 2f831-2f833>537f
  2f834:20a2c,7070,53ca,53df,20b63,53eb,53f1,5406,549e,5438,5448,5468
  2f840:54a2,54f6,5510,5553,5563 2f845-2f846>5584
  2f847:5599,55ab,55b3,55c2,5716,5606,5717,5651,5674,5207,58ee,57ce
  2f853:57f4,580d,578b,5832,5831,58ac,214e4,58f2,58f7,5906,591a,5922
  2f85f:5962,216a8,216ea,59ec,5a1b,5a27,59d8,5a66,36ee,36fc,5b08 2f86a-2f86b>5b3e
  2f86c:219c8,5bc3,5bd8,5be7,5bf3,21b18,5bff,5c06,5f53,5c22,3781,5c60
  2f878:5c6e,5cc0,5c8d,21de4,5d43,21de6,5d6e,5d6b,5d7c,5de1,5de2,382f
  2f884:5dfd,5e28,5e3d,5e69,3862,22183,387c,5eb0,5eb3,5eb6,5eca,2a392 2f890:5efe 2f891-2f892>22331
  2f893:8201 2f894-2f895>5f22 2f896:38c7,232b8,261da,5f62,5f6b,38e3,5f9a,5fcd,5fd7,5ff9,6081,393a
  2f8a2:391c,6094,226d4,60c7,6148,614c,614e,614c,617a,618e,61b2,61a4
  2f8ae:61af,61de,61f2,61f6,6210,621b,625d,62b1,62d4,6350,22b0c,633d
  2f8ba:62fc,6368,6383,63e4,22bf1,6422,63c5,63a9,3a2e,6469,647e,649d
  2f8c6:6477,3a6c,654f,656c,2300a,65e3,66f8,6649,3b19,6691,3b08,3ae4
  2f8d2:5192,5195,6700,669c,80ad,43d9,6717,671b,6721,675e,6753,233c3
  2f8de:3b49,67fa,6785,6852,6885,2346d,688e,681f,6914,3b9d,6942,69a3
  2f8ea:69ea,6aa8,236a3,6adb,3c18,6b21,238a7,6b54,3c4e,6b72,6b9f,6bba
  2f8f6:6bbb,23a8d,21d0b,23afa,6c4e,23cbc,6cbf,6ccd,6c67,6d16,6d3e,6d77
  2f902:6d41,6d69,6d78,6d85,23d1e,6d34,6e2f,6e6e,3d33,6ecb,6ec7,23ed1
  2f90e:6df9,6f6e,23f5e,23f8e,6fc6,7039,701e,701b,3d96,704a,707d,7077
  2f91a:70ad,20525,7145,24263,719c,243ab,7228,7235,7250,24608,7280,7295
  2f926:24735,24814,737a,738b,3eac,73a5 2f92c-2f92d>3eb8
  2f92e:7447,745c,7471,7485,74ca,3f1b,7524,24c36,753e,24c92,7570,2219f
  2f93a:7610,24fa1,24fb8,25044,3ffc,4008,76f4,250f3,250f2,25119,25133,771e
  2f946:771f,771f,774a,4039,778b,4046,4096,2541d,784e,788c,78cc,40e3
  2f952:25626,7956,2569a,256c5,798f,79eb,412f,7a40,7a4a,7a4f,2597c 2f95d-2f95e>25aa7
  2f95f:7aee,4202,25bab,7bc6,7bc9,4227,25c80,7cd2,42a0,7ce8,7ce3,7d00
  2f96b:25f86,7d63,4301,7dc7,7e02,7e45,4334,26228,26247,4359,262d9,7f7a
  2f977:2633e,7f95,7ffa,8005,264da,26523,8060,265a8,8070,2335f,43d5,80b2
  2f983:8103,440b,813e,5ab5,267a7,267b5,23393,2339c,8201,8204,8f9e,446b
  2f98f:8291,828b,829d,52b3,82b1,82b3,82bd,82e6,26b3c,82e5,831d,8363
  2f99b:83ad,8323,83bd,83e7,8457,8353,83ca,83cc,83dc,26c36,26d6b,26cd5
  2f9a7:452b,84f1,84f3,8516,273ca,8564,26f2c,455d,4561,26fb1,270d2,456b
  2f9b3:8650,865c,8667,8669,86a9,8688,870e,86e2,8779,8728,876b,8786
  2f9bf:45d7,87e1,8801,45f9,8860,8863,27667,88d7,88de,4635,88fa,34bb
  2f9cb:278ae,27966,46be,46c7,8aa0,8aed,8b8a,8c55,27ca8,8cab,8cc1,8d1b
  2f9d7:8d77,27f2f,20804,8dcb,8dbc,8df0,208de,8ed4,8f38,285d2,285ed,9094
  2f9e3:90f1,9111,2872e,911b,9238,92d7,92d8,927c,93f9,9415,28bfa,958b
  2f9ef:4995,95b7,28d77,49e6,96c3,5db2,9723,29145,2921a,4a6e,4a76,97e0 2f9fb:2940a,4ab2,29496
  2f9fe-2f9ff>980b 2fa00:9829,295b6,98e2,4b33,9929,99a7,99c2,99fe,4bce,29b30,9b12,9c40
  2fa0c:9cfd,4cce,4ced,9d67,2a0ce,4cf8,2a105,2a20e,2a291,9ebb,4d56,9ef9
  2fa18:9efe,9f05,9f0f,9f16,9f3b,2a600 30000-3134a 31350-33479 3d000-3fc3f e0100-e01ef>"

end ProxyClient.Domain
