/-! # Canonical decomposition and combining classes

The pairs of characters that one character decomposes into, and the classes that order combining
marks. A word `a,b=c` says that `c` is made of `a` and `b` and is put together again, `a,b<c` and
`a<c` that it is only taken apart; code points are in hexadecimal digits.
-/

namespace FilteringProxy.Unicode

/-- Canonical decompositions, one step each. -/
def decompositionWords : String :=
  "41,300=c0 41,301=c1 41,302=c2 41,303=c3 41,308=c4 41,30a=c5 43,327=c7 45,300=c8 45,301=c9
   45,302=ca 45,308=cb 49,300=cc 49,301=cd 49,302=ce 49,308=cf 4e,303=d1 4f,300=d2 4f,301=d3
   4f,302=d4 4f,303=d5 4f,308=d6 55,300=d9 55,301=da 55,302=db 55,308=dc 59,301=dd 61,300=e0
   61,301=e1 61,302=e2 61,303=e3 61,308=e4 61,30a=e5 63,327=e7 65,300=e8 65,301=e9 65,302=ea
   65,308=eb 69,300=ec 69,301=ed 69,302=ee 69,308=ef 6e,303=f1 6f,300=f2 6f,301=f3 6f,302=f4
   6f,303=f5 6f,308=f6 75,300=f9 75,301=fa 75,302=fb 75,308=fc 79,301=fd 79,308=ff 41,304=100
   61,304=101 41,306=102 61,306=103 41,328=104 61,328=105 43,301=106 63,301=107 43,302=108
   63,302=109 43,307=10a 63,307=10b 43,30c=10c 63,30c=10d 44,30c=10e 64,30c=10f 45,304=112
   65,304=113 45,306=114 65,306=115 45,307=116 65,307=117 45,328=118 65,328=119 45,30c=11a
   65,30c=11b 47,302=11c 67,302=11d 47,306=11e 67,306=11f 47,307=120 67,307=121 47,327=122
   67,327=123 48,302=124 68,302=125 49,303=128 69,303=129 49,304=12a 69,304=12b 49,306=12c
   69,306=12d 49,328=12e 69,328=12f 49,307=130 4a,302=134 6a,302=135 4b,327=136 6b,327=137
   4c,301=139 6c,301=13a 4c,327=13b 6c,327=13c 4c,30c=13d 6c,30c=13e 4e,301=143 6e,301=144
   4e,327=145 6e,327=146 4e,30c=147 6e,30c=148 4f,304=14c 6f,304=14d 4f,306=14e 6f,306=14f
   4f,30b=150 6f,30b=151 52,301=154 72,301=155 52,327=156 72,327=157 52,30c=158 72,30c=159
   53,301=15a 73,301=15b 53,302=15c 73,302=15d 53,327=15e 73,327=15f 53,30c=160 73,30c=161
   54,327=162 74,327=163 54,30c=164 74,30c=165 55,303=168 75,303=169 55,304=16a 75,304=16b
   55,306=16c 75,306=16d 55,30a=16e 75,30a=16f 55,30b=170 75,30b=171 55,328=172 75,328=173
   57,302=174 77,302=175 59,302=176 79,302=177 59,308=178 5a,301=179 7a,301=17a 5a,307=17b
   7a,307=17c 5a,30c=17d 7a,30c=17e 4f,31b=1a0 6f,31b=1a1 55,31b=1af 75,31b=1b0 41,30c=1cd
   61,30c=1ce 49,30c=1cf 69,30c=1d0 4f,30c=1d1 6f,30c=1d2 55,30c=1d3 75,30c=1d4 dc,304=1d5
   fc,304=1d6 dc,301=1d7 fc,301=1d8 dc,30c=1d9 fc,30c=1da dc,300=1db fc,300=1dc c4,304=1de
   e4,304=1df 226,304=1e0 227,304=1e1 c6,304=1e2 e6,304=1e3 47,30c=1e6 67,30c=1e7 4b,30c=1e8
   6b,30c=1e9 4f,328=1ea 6f,328=1eb 1ea,304=1ec 1eb,304=1ed 1b7,30c=1ee 292,30c=1ef 6a,30c=1f0
   47,301=1f4 67,301=1f5 4e,300=1f8 6e,300=1f9 c5,301=1fa e5,301=1fb c6,301=1fc e6,301=1fd
   d8,301=1fe f8,301=1ff 41,30f=200 61,30f=201 41,311=202 61,311=203 45,30f=204 65,30f=205
   45,311=206 65,311=207 49,30f=208 69,30f=209 49,311=20a 69,311=20b 4f,30f=20c 6f,30f=20d
   4f,311=20e 6f,311=20f 52,30f=210 72,30f=211 52,311=212 72,311=213 55,30f=214 75,30f=215
   55,311=216 75,311=217 53,326=218 73,326=219 54,326=21a 74,326=21b 48,30c=21e 68,30c=21f
   41,307=226 61,307=227 45,327=228 65,327=229 d6,304=22a f6,304=22b d5,304=22c f5,304=22d
   4f,307=22e 6f,307=22f 22e,304=230 22f,304=231 59,304=232 79,304=233 300<340 301<341 313<343
   308,301<344 2b9<374 3b<37e a8,301=385 391,301=386 b7<387 395,301=388 397,301=389 399,301=38a
   39f,301=38c 3a5,301=38e 3a9,301=38f 3ca,301=390 399,308=3aa 3a5,308=3ab 3b1,301=3ac 3b5,301=3ad
   3b7,301=3ae 3b9,301=3af 3cb,301=3b0 3b9,308=3ca 3c5,308=3cb 3bf,301=3cc 3c5,301=3cd 3c9,301=3ce
   3d2,301=3d3 3d2,308=3d4 415,300=400 415,308=401 413,301=403 406,308=407 41a,301=40c 418,300=40d
   423,306=40e 418,306=419 438,306=439 435,300=450 435,308=451 433,301=453 456,308=457 43a,301=45c
   438,300=45d 443,306=45e 474,30f=476 475,30f=477 416,306=4c1 436,306=4c2 410,306=4d0 430,306=4d1
   410,308=4d2 430,308=4d3 415,306=4d6 435,306=4d7 4d8,308=4da 4d9,308=4db 416,308=4dc 436,308=4dd
   417,308=4de 437,308=4df 418,304=4e2 438,304=4e3 418,308=4e4 438,308=4e5 41e,308=4e6 43e,308=4e7
   4e8,308=4ea 4e9,308=4eb 42d,308=4ec 44d,308=4ed 423,304=4ee 443,304=4ef 423,308=4f0 443,308=4f1
   423,30b=4f2 443,30b=4f3 427,308=4f4 447,308=4f5 42b,308=4f8 44b,308=4f9 627,653=622 627,654=623
   648,654=624 627,655=625 64a,654=626 6d5,654=6c0 6c1,654=6c2 6d2,654=6d3 928,93c=929 930,93c=931
   933,93c=934 915,93c<958 916,93c<959 917,93c<95a 91c,93c<95b 921,93c<95c 922,93c<95d 92b,93c<95e
   92f,93c<95f 9c7,9be=9cb 9c7,9d7=9cc 9a1,9bc<9dc 9a2,9bc<9dd 9af,9bc<9df a32,a3c<a33 a38,a3c<a36
   a16,a3c<a59 a17,a3c<a5a a1c,a3c<a5b a2b,a3c<a5e b47,b56=b48 b47,b3e=b4b b47,b57=b4c b21,b3c<b5c
   b22,b3c<b5d b92,bd7=b94 bc6,bbe=bca bc7,bbe=bcb bc6,bd7=bcc c46,c56=c48 cbf,cd5=cc0 cc6,cd5=cc7
   cc6,cd6=cc8 cc6,cc2=cca cca,cd5=ccb d46,d3e=d4a d47,d3e=d4b d46,d57=d4c dd9,dca=dda dd9,dcf=ddc
   ddc,dca=ddd dd9,ddf=dde f42,fb7<f43 f4c,fb7<f4d f51,fb7<f52 f56,fb7<f57 f5b,fb7<f5c f40,fb5<f69
   f71,f72<f73 f71,f74<f75 fb2,f80<f76 fb3,f80<f78 f71,f80<f81 f92,fb7<f93 f9c,fb7<f9d fa1,fb7<fa2
   fa6,fb7<fa7 fab,fb7<fac f90,fb5<fb9 1025,102e=1026 1b05,1b35=1b06 1b07,1b35=1b08 1b09,1b35=1b0a
   1b0b,1b35=1b0c 1b0d,1b35=1b0e 1b11,1b35=1b12 1b3a,1b35=1b3b 1b3c,1b35=1b3d 1b3e,1b35=1b40
   1b3f,1b35=1b41 1b42,1b35=1b43 41,325=1e00 61,325=1e01 42,307=1e02 62,307=1e03 42,323=1e04
   62,323=1e05 42,331=1e06 62,331=1e07 c7,301=1e08 e7,301=1e09 44,307=1e0a 64,307=1e0b 44,323=1e0c
   64,323=1e0d 44,331=1e0e 64,331=1e0f 44,327=1e10 64,327=1e11 44,32d=1e12 64,32d=1e13 112,300=1e14
   113,300=1e15 112,301=1e16 113,301=1e17 45,32d=1e18 65,32d=1e19 45,330=1e1a 65,330=1e1b
   228,306=1e1c 229,306=1e1d 46,307=1e1e 66,307=1e1f 47,304=1e20 67,304=1e21 48,307=1e22
   68,307=1e23 48,323=1e24 68,323=1e25 48,308=1e26 68,308=1e27 48,327=1e28 68,327=1e29 48,32e=1e2a
   68,32e=1e2b 49,330=1e2c 69,330=1e2d cf,301=1e2e ef,301=1e2f 4b,301=1e30 6b,301=1e31 4b,323=1e32
   6b,323=1e33 4b,331=1e34 6b,331=1e35 4c,323=1e36 6c,323=1e37 1e36,304=1e38 1e37,304=1e39
   4c,331=1e3a 6c,331=1e3b 4c,32d=1e3c 6c,32d=1e3d 4d,301=1e3e 6d,301=1e3f 4d,307=1e40 6d,307=1e41
   4d,323=1e42 6d,323=1e43 4e,307=1e44 6e,307=1e45 4e,323=1e46 6e,323=1e47 4e,331=1e48 6e,331=1e49
   4e,32d=1e4a 6e,32d=1e4b d5,301=1e4c f5,301=1e4d d5,308=1e4e f5,308=1e4f 14c,300=1e50
   14d,300=1e51 14c,301=1e52 14d,301=1e53 50,301=1e54 70,301=1e55 50,307=1e56 70,307=1e57
   52,307=1e58 72,307=1e59 52,323=1e5a 72,323=1e5b 1e5a,304=1e5c 1e5b,304=1e5d 52,331=1e5e
   72,331=1e5f 53,307=1e60 73,307=1e61 53,323=1e62 73,323=1e63 15a,307=1e64 15b,307=1e65
   160,307=1e66 161,307=1e67 1e62,307=1e68 1e63,307=1e69 54,307=1e6a 74,307=1e6b 54,323=1e6c
   74,323=1e6d 54,331=1e6e 74,331=1e6f 54,32d=1e70 74,32d=1e71 55,324=1e72 75,324=1e73 55,330=1e74
   75,330=1e75 55,32d=1e76 75,32d=1e77 168,301=1e78 169,301=1e79 16a,308=1e7a 16b,308=1e7b
   56,303=1e7c 76,303=1e7d 56,323=1e7e 76,323=1e7f 57,300=1e80 77,300=1e81 57,301=1e82 77,301=1e83
   57,308=1e84 77,308=1e85 57,307=1e86 77,307=1e87 57,323=1e88 77,323=1e89 58,307=1e8a 78,307=1e8b
   58,308=1e8c 78,308=1e8d 59,307=1e8e 79,307=1e8f 5a,302=1e90 7a,302=1e91 5a,323=1e92 7a,323=1e93
   5a,331=1e94 7a,331=1e95 68,331=1e96 74,308=1e97 77,30a=1e98 79,30a=1e99 17f,307=1e9b 41,323=1ea0
   61,323=1ea1 41,309=1ea2 61,309=1ea3 c2,301=1ea4 e2,301=1ea5 c2,300=1ea6 e2,300=1ea7 c2,309=1ea8
   e2,309=1ea9 c2,303=1eaa e2,303=1eab 1ea0,302=1eac 1ea1,302=1ead 102,301=1eae 103,301=1eaf
   102,300=1eb0 103,300=1eb1 102,309=1eb2 103,309=1eb3 102,303=1eb4 103,303=1eb5 1ea0,306=1eb6
   1ea1,306=1eb7 45,323=1eb8 65,323=1eb9 45,309=1eba 65,309=1ebb 45,303=1ebc 65,303=1ebd
   ca,301=1ebe ea,301=1ebf ca,300=1ec0 ea,300=1ec1 ca,309=1ec2 ea,309=1ec3 ca,303=1ec4 ea,303=1ec5
   1eb8,302=1ec6 1eb9,302=1ec7 49,309=1ec8 69,309=1ec9 49,323=1eca 69,323=1ecb 4f,323=1ecc
   6f,323=1ecd 4f,309=1ece 6f,309=1ecf d4,301=1ed0 f4,301=1ed1 d4,300=1ed2 f4,300=1ed3 d4,309=1ed4
   f4,309=1ed5 d4,303=1ed6 f4,303=1ed7 1ecc,302=1ed8 1ecd,302=1ed9 1a0,301=1eda 1a1,301=1edb
   1a0,300=1edc 1a1,300=1edd 1a0,309=1ede 1a1,309=1edf 1a0,303=1ee0 1a1,303=1ee1 1a0,323=1ee2
   1a1,323=1ee3 55,323=1ee4 75,323=1ee5 55,309=1ee6 75,309=1ee7 1af,301=1ee8 1b0,301=1ee9
   1af,300=1eea 1b0,300=1eeb 1af,309=1eec 1b0,309=1eed 1af,303=1eee 1b0,303=1eef 1af,323=1ef0
   1b0,323=1ef1 59,300=1ef2 79,300=1ef3 59,323=1ef4 79,323=1ef5 59,309=1ef6 79,309=1ef7 59,303=1ef8
   79,303=1ef9 3b1,313=1f00 3b1,314=1f01 1f00,300=1f02 1f01,300=1f03 1f00,301=1f04 1f01,301=1f05
   1f00,342=1f06 1f01,342=1f07 391,313=1f08 391,314=1f09 1f08,300=1f0a 1f09,300=1f0b 1f08,301=1f0c
   1f09,301=1f0d 1f08,342=1f0e 1f09,342=1f0f 3b5,313=1f10 3b5,314=1f11 1f10,300=1f12 1f11,300=1f13
   1f10,301=1f14 1f11,301=1f15 395,313=1f18 395,314=1f19 1f18,300=1f1a 1f19,300=1f1b 1f18,301=1f1c
   1f19,301=1f1d 3b7,313=1f20 3b7,314=1f21 1f20,300=1f22 1f21,300=1f23 1f20,301=1f24 1f21,301=1f25
   1f20,342=1f26 1f21,342=1f27 397,313=1f28 397,314=1f29 1f28,300=1f2a 1f29,300=1f2b 1f28,301=1f2c
   1f29,301=1f2d 1f28,342=1f2e 1f29,342=1f2f 3b9,313=1f30 3b9,314=1f31 1f30,300=1f32 1f31,300=1f33
   1f30,301=1f34 1f31,301=1f35 1f30,342=1f36 1f31,342=1f37 399,313=1f38 399,314=1f39 1f38,300=1f3a
   1f39,300=1f3b 1f38,301=1f3c 1f39,301=1f3d 1f38,342=1f3e 1f39,342=1f3f 3bf,313=1f40 3bf,314=1f41
   1f40,300=1f42 1f41,300=1f43 1f40,301=1f44 1f41,301=1f45 39f,313=1f48 39f,314=1f49 1f48,300=1f4a
   1f49,300=1f4b 1f48,301=1f4c 1f49,301=1f4d 3c5,313=1f50 3c5,314=1f51 1f50,300=1f52 1f51,300=1f53
   1f50,301=1f54 1f51,301=1f55 1f50,342=1f56 1f51,342=1f57 3a5,314=1f59 1f59,300=1f5b 1f59,301=1f5d
   1f59,342=1f5f 3c9,313=1f60 3c9,314=1f61 1f60,300=1f62 1f61,300=1f63 1f60,301=1f64 1f61,301=1f65
   1f60,342=1f66 1f61,342=1f67 3a9,313=1f68 3a9,314=1f69 1f68,300=1f6a 1f69,300=1f6b 1f68,301=1f6c
   1f69,301=1f6d 1f68,342=1f6e 1f69,342=1f6f 3b1,300=1f70 3ac<1f71 3b5,300=1f72 3ad<1f73
   3b7,300=1f74 3ae<1f75 3b9,300=1f76 3af<1f77 3bf,300=1f78 3cc<1f79 3c5,300=1f7a 3cd<1f7b
   3c9,300=1f7c 3ce<1f7d 1f00,345=1f80 1f01,345=1f81 1f02,345=1f82 1f03,345=1f83 1f04,345=1f84
   1f05,345=1f85 1f06,345=1f86 1f07,345=1f87 1f08,345=1f88 1f09,345=1f89 1f0a,345=1f8a
   1f0b,345=1f8b 1f0c,345=1f8c 1f0d,345=1f8d 1f0e,345=1f8e 1f0f,345=1f8f 1f20,345=1f90
   1f21,345=1f91 1f22,345=1f92 1f23,345=1f93 1f24,345=1f94 1f25,345=1f95 1f26,345=1f96
   1f27,345=1f97 1f28,345=1f98 1f29,345=1f99 1f2a,345=1f9a 1f2b,345=1f9b 1f2c,345=1f9c
   1f2d,345=1f9d 1f2e,345=1f9e 1f2f,345=1f9f 1f60,345=1fa0 1f61,345=1fa1 1f62,345=1fa2
   1f63,345=1fa3 1f64,345=1fa4 1f65,345=1fa5 1f66,345=1fa6 1f67,345=1fa7 1f68,345=1fa8
   1f69,345=1fa9 1f6a,345=1faa 1f6b,345=1fab 1f6c,345=1fac 1f6d,345=1fad 1f6e,345=1fae
   1f6f,345=1faf 3b1,306=1fb0 3b1,304=1fb1 1f70,345=1fb2 3b1,345=1fb3 3ac,345=1fb4 3b1,342=1fb6
   1fb6,345=1fb7 391,306=1fb8 391,304=1fb9 391,300=1fba 386<1fbb 391,345=1fbc 3b9<1fbe a8,342=1fc1
   1f74,345=1fc2 3b7,345=1fc3 3ae,345=1fc4 3b7,342=1fc6 1fc6,345=1fc7 395,300=1fc8 388<1fc9
   397,300=1fca 389<1fcb 397,345=1fcc 1fbf,300=1fcd 1fbf,301=1fce 1fbf,342=1fcf 3b9,306=1fd0
   3b9,304=1fd1 3ca,300=1fd2 390<1fd3 3b9,342=1fd6 3ca,342=1fd7 399,306=1fd8 399,304=1fd9
   399,300=1fda 38a<1fdb 1ffe,300=1fdd 1ffe,301=1fde 1ffe,342=1fdf 3c5,306=1fe0 3c5,304=1fe1
   3cb,300=1fe2 3b0<1fe3 3c1,313=1fe4 3c1,314=1fe5 3c5,342=1fe6 3cb,342=1fe7 3a5,306=1fe8
   3a5,304=1fe9 3a5,300=1fea 38e<1feb 3a1,314=1fec a8,300=1fed 385<1fee 60<1fef 1f7c,345=1ff2
   3c9,345=1ff3 3ce,345=1ff4 3c9,342=1ff6 1ff6,345=1ff7 39f,300=1ff8 38c<1ff9 3a9,300=1ffa 38f<1ffb
   3a9,345=1ffc b4<1ffd 2002<2000 2003<2001 3a9<2126 4b<212a c5<212b 2190,338=219a 2192,338=219b
   2194,338=21ae 21d0,338=21cd 21d4,338=21ce 21d2,338=21cf 2203,338=2204 2208,338=2209
   220b,338=220c 2223,338=2224 2225,338=2226 223c,338=2241 2243,338=2244 2245,338=2247
   2248,338=2249 3d,338=2260 2261,338=2262 224d,338=226d 3c,338=226e 3e,338=226f 2264,338=2270
   2265,338=2271 2272,338=2274 2273,338=2275 2276,338=2278 2277,338=2279 227a,338=2280
   227b,338=2281 2282,338=2284 2283,338=2285 2286,338=2288 2287,338=2289 22a2,338=22ac
   22a8,338=22ad 22a9,338=22ae 22ab,338=22af 227c,338=22e0 227d,338=22e1 2291,338=22e2
   2292,338=22e3 22b2,338=22ea 22b3,338=22eb 22b4,338=22ec 22b5,338=22ed 3008<2329 3009<232a
   2add,338<2adc 304b,3099=304c 304d,3099=304e 304f,3099=3050 3051,3099=3052 3053,3099=3054
   3055,3099=3056 3057,3099=3058 3059,3099=305a 305b,3099=305c 305d,3099=305e 305f,3099=3060
   3061,3099=3062 3064,3099=3065 3066,3099=3067 3068,3099=3069 306f,3099=3070 306f,309a=3071
   3072,3099=3073 3072,309a=3074 3075,3099=3076 3075,309a=3077 3078,3099=3079 3078,309a=307a
   307b,3099=307c 307b,309a=307d 3046,3099=3094 309d,3099=309e 30ab,3099=30ac 30ad,3099=30ae
   30af,3099=30b0 30b1,3099=30b2 30b3,3099=30b4 30b5,3099=30b6 30b7,3099=30b8 30b9,3099=30ba
   30bb,3099=30bc 30bd,3099=30be 30bf,3099=30c0 30c1,3099=30c2 30c4,3099=30c5 30c6,3099=30c7
   30c8,3099=30c9 30cf,3099=30d0 30cf,309a=30d1 30d2,3099=30d3 30d2,309a=30d4 30d5,3099=30d6
   30d5,309a=30d7 30d8,3099=30d9 30d8,309a=30da 30db,3099=30dc 30db,309a=30dd 30a6,3099=30f4
   30ef,3099=30f7 30f0,3099=30f8 30f1,3099=30f9 30f2,3099=30fa 30fd,3099=30fe 8c48<f900 66f4<f901
   8eca<f902 8cc8<f903 6ed1<f904 4e32<f905 53e5<f906 9f9c<f907 9f9c<f908 5951<f909 91d1<f90a
   5587<f90b 5948<f90c 61f6<f90d 7669<f90e 7f85<f90f 863f<f910 87ba<f911 88f8<f912 908f<f913
   6a02<f914 6d1b<f915 70d9<f916 73de<f917 843d<f918 916a<f919 99f1<f91a 4e82<f91b 5375<f91c
   6b04<f91d 721b<f91e 862d<f91f 9e1e<f920 5d50<f921 6feb<f922 85cd<f923 8964<f924 62c9<f925
   81d8<f926 881f<f927 5eca<f928 6717<f929 6d6a<f92a 72fc<f92b 90ce<f92c 4f86<f92d 51b7<f92e
   52de<f92f 64c4<f930 6ad3<f931 7210<f932 76e7<f933 8001<f934 8606<f935 865c<f936 8def<f937
   9732<f938 9b6f<f939 9dfa<f93a 788c<f93b 797f<f93c 7da0<f93d 83c9<f93e 9304<f93f 9e7f<f940
   8ad6<f941 58df<f942 5f04<f943 7c60<f944 807e<f945 7262<f946 78ca<f947 8cc2<f948 96f7<f949
   58d8<f94a 5c62<f94b 6a13<f94c 6dda<f94d 6f0f<f94e 7d2f<f94f 7e37<f950 964b<f951 52d2<f952
   808b<f953 51dc<f954 51cc<f955 7a1c<f956 7dbe<f957 83f1<f958 9675<f959 8b80<f95a 62cf<f95b
   6a02<f95c 8afe<f95d 4e39<f95e 5be7<f95f 6012<f960 7387<f961 7570<f962 5317<f963 78fb<f964
   4fbf<f965 5fa9<f966 4e0d<f967 6ccc<f968 6578<f969 7d22<f96a 53c3<f96b 585e<f96c 7701<f96d
   8449<f96e 8aaa<f96f 6bba<f970 8fb0<f971 6c88<f972 62fe<f973 82e5<f974 63a0<f975 7565<f976
   4eae<f977 5169<f978 51c9<f979 6881<f97a 7ce7<f97b 826f<f97c 8ad2<f97d 91cf<f97e 52f5<f97f
   5442<f980 5973<f981 5eec<f982 65c5<f983 6ffe<f984 792a<f985 95ad<f986 9a6a<f987 9e97<f988
   9ece<f989 529b<f98a 66c6<f98b 6b77<f98c 8f62<f98d 5e74<f98e 6190<f98f 6200<f990 649a<f991
   6f23<f992 7149<f993 7489<f994 79ca<f995 7df4<f996 806f<f997 8f26<f998 84ee<f999 9023<f99a
   934a<f99b 5217<f99c 52a3<f99d 54bd<f99e 70c8<f99f 88c2<f9a0 8aaa<f9a1 5ec9<f9a2 5ff5<f9a3
   637b<f9a4 6bae<f9a5 7c3e<f9a6 7375<f9a7 4ee4<f9a8 56f9<f9a9 5be7<f9aa 5dba<f9ab 601c<f9ac
   73b2<f9ad 7469<f9ae 7f9a<f9af 8046<f9b0 9234<f9b1 96f6<f9b2 9748<f9b3 9818<f9b4 4f8b<f9b5
   79ae<f9b6 91b4<f9b7 96b8<f9b8 60e1<f9b9 4e86<f9ba 50da<f9bb 5bee<f9bc 5c3f<f9bd 6599<f9be
   6a02<f9bf 71ce<f9c0 7642<f9c1 84fc<f9c2 907c<f9c3 9f8d<f9c4 6688<f9c5 962e<f9c6 5289<f9c7
   677b<f9c8 67f3<f9c9 6d41<f9ca 6e9c<f9cb 7409<f9cc 7559<f9cd 786b<f9ce 7d10<f9cf 985e<f9d0
   516d<f9d1 622e<f9d2 9678<f9d3 502b<f9d4 5d19<f9d5 6dea<f9d6 8f2a<f9d7 5f8b<f9d8 6144<f9d9
   6817<f9da 7387<f9db 9686<f9dc 5229<f9dd 540f<f9de 5c65<f9df 6613<f9e0 674e<f9e1 68a8<f9e2
   6ce5<f9e3 7406<f9e4 75e2<f9e5 7f79<f9e6 88cf<f9e7 88e1<f9e8 91cc<f9e9 96e2<f9ea 533f<f9eb
   6eba<f9ec 541d<f9ed 71d0<f9ee 7498<f9ef 85fa<f9f0 96a3<f9f1 9c57<f9f2 9e9f<f9f3 6797<f9f4
   6dcb<f9f5 81e8<f9f6 7acb<f9f7 7b20<f9f8 7c92<f9f9 72c0<f9fa 7099<f9fb 8b58<f9fc 4ec0<f9fd
   8336<f9fe 523a<f9ff 5207<fa00 5ea6<fa01 62d3<fa02 7cd6<fa03 5b85<fa04 6d1e<fa05 66b4<fa06
   8f3b<fa07 884c<fa08 964d<fa09 898b<fa0a 5ed3<fa0b 5140<fa0c 55c0<fa0d 585a<fa10 6674<fa12
   51de<fa15 732a<fa16 76ca<fa17 793c<fa18 795e<fa19 7965<fa1a 798f<fa1b 9756<fa1c 7cbe<fa1d
   7fbd<fa1e 8612<fa20 8af8<fa22 9038<fa25 90fd<fa26 98ef<fa2a 98fc<fa2b 9928<fa2c 9db4<fa2d
   90de<fa2e 96b7<fa2f 4fae<fa30 50e7<fa31 514d<fa32 52c9<fa33 52e4<fa34 5351<fa35 559d<fa36
   5606<fa37 5668<fa38 5840<fa39 58a8<fa3a 5c64<fa3b 5c6e<fa3c 6094<fa3d 6168<fa3e 618e<fa3f
   61f2<fa40 654f<fa41 65e2<fa42 6691<fa43 6885<fa44 6d77<fa45 6e1a<fa46 6f22<fa47 716e<fa48
   722b<fa49 7422<fa4a 7891<fa4b 793e<fa4c 7949<fa4d 7948<fa4e 7950<fa4f 7956<fa50 795d<fa51
   798d<fa52 798e<fa53 7a40<fa54 7a81<fa55 7bc0<fa56 7df4<fa57 7e09<fa58 7e41<fa59 7f72<fa5a
   8005<fa5b 81ed<fa5c 8279<fa5d 8279<fa5e 8457<fa5f 8910<fa60 8996<fa61 8b01<fa62 8b39<fa63
   8cd3<fa64 8d08<fa65 8fb6<fa66 9038<fa67 96e3<fa68 97ff<fa69 983b<fa6a 6075<fa6b 242ee<fa6c
   8218<fa6d 4e26<fa70 51b5<fa71 5168<fa72 4f80<fa73 5145<fa74 5180<fa75 52c7<fa76 52fa<fa77
   559d<fa78 5555<fa79 5599<fa7a 55e2<fa7b 585a<fa7c 58b3<fa7d 5944<fa7e 5954<fa7f 5a62<fa80
   5b28<fa81 5ed2<fa82 5ed9<fa83 5f69<fa84 5fad<fa85 60d8<fa86 614e<fa87 6108<fa88 618e<fa89
   6160<fa8a 61f2<fa8b 6234<fa8c 63c4<fa8d 641c<fa8e 6452<fa8f 6556<fa90 6674<fa91 6717<fa92
   671b<fa93 6756<fa94 6b79<fa95 6bba<fa96 6d41<fa97 6edb<fa98 6ecb<fa99 6f22<fa9a 701e<fa9b
   716e<fa9c 77a7<fa9d 7235<fa9e 72af<fa9f 732a<faa0 7471<faa1 7506<faa2 753b<faa3 761d<faa4
   761f<faa5 76ca<faa6 76db<faa7 76f4<faa8 774a<faa9 7740<faaa 78cc<faab 7ab1<faac 7bc0<faad
   7c7b<faae 7d5b<faaf 7df4<fab0 7f3e<fab1 8005<fab2 8352<fab3 83ef<fab4 8779<fab5 8941<fab6
   8986<fab7 8996<fab8 8abf<fab9 8af8<faba 8acb<fabb 8b01<fabc 8afe<fabd 8aed<fabe 8b39<fabf
   8b8a<fac0 8d08<fac1 8f38<fac2 9072<fac3 9199<fac4 9276<fac5 967c<fac6 96e3<fac7 9756<fac8
   97db<fac9 97ff<faca 980b<facb 983b<facc 9b12<facd 9f9c<face 2284a<facf 22844<fad0 233d5<fad1
   3b9d<fad2 4018<fad3 4039<fad4 25249<fad5 25cd0<fad6 27ed3<fad7 9f43<fad8 9f8e<fad9 5d9,5b4<fb1d
   5f2,5b7<fb1f 5e9,5c1<fb2a 5e9,5c2<fb2b fb49,5c1<fb2c fb49,5c2<fb2d 5d0,5b7<fb2e 5d0,5b8<fb2f
   5d0,5bc<fb30 5d1,5bc<fb31 5d2,5bc<fb32 5d3,5bc<fb33 5d4,5bc<fb34 5d5,5bc<fb35 5d6,5bc<fb36
   5d8,5bc<fb38 5d9,5bc<fb39 5da,5bc<fb3a 5db,5bc<fb3b 5dc,5bc<fb3c 5de,5bc<fb3e 5e0,5bc<fb40
   5e1,5bc<fb41 5e3,5bc<fb43 5e4,5bc<fb44 5e6,5bc<fb46 5e7,5bc<fb47 5e8,5bc<fb48 5e9,5bc<fb49
   5ea,5bc<fb4a 5d5,5b9<fb4b 5d1,5bf<fb4c 5db,5bf<fb4d 5e4,5bf<fb4e 11099,110ba=1109a
   1109b,110ba=1109c 110a5,110ba=110ab 11131,11127=1112e 11132,11127=1112f 11347,1133e=1134b
   11347,11357=1134c 114b9,114ba=114bb 114b9,114b0=114bc 114b9,114bd=114be 115b8,115af=115ba
   115b9,115af=115bb 11935,11930=11938 1d157,1d165<1d15e 1d158,1d165<1d15f 1d15f,1d16e<1d160
   1d15f,1d16f<1d161 1d15f,1d170<1d162 1d15f,1d171<1d163 1d15f,1d172<1d164 1d1b9,1d165<1d1bb
   1d1ba,1d165<1d1bc 1d1bb,1d16e<1d1bd 1d1bc,1d16e<1d1be 1d1bb,1d16f<1d1bf 1d1bc,1d16f<1d1c0
   4e3d<2f800 4e38<2f801 4e41<2f802 20122<2f803 4f60<2f804 4fae<2f805 4fbb<2f806 5002<2f807
   507a<2f808 5099<2f809 50e7<2f80a 50cf<2f80b 349e<2f80c 2063a<2f80d 514d<2f80e 5154<2f80f
   5164<2f810 5177<2f811 2051c<2f812 34b9<2f813 5167<2f814 518d<2f815 2054b<2f816 5197<2f817
   51a4<2f818 4ecc<2f819 51ac<2f81a 51b5<2f81b 291df<2f81c 51f5<2f81d 5203<2f81e 34df<2f81f
   523b<2f820 5246<2f821 5272<2f822 5277<2f823 3515<2f824 52c7<2f825 52c9<2f826 52e4<2f827
   52fa<2f828 5305<2f829 5306<2f82a 5317<2f82b 5349<2f82c 5351<2f82d 535a<2f82e 5373<2f82f
   537d<2f830 537f<2f831 537f<2f832 537f<2f833 20a2c<2f834 7070<2f835 53ca<2f836 53df<2f837
   20b63<2f838 53eb<2f839 53f1<2f83a 5406<2f83b 549e<2f83c 5438<2f83d 5448<2f83e 5468<2f83f
   54a2<2f840 54f6<2f841 5510<2f842 5553<2f843 5563<2f844 5584<2f845 5584<2f846 5599<2f847
   55ab<2f848 55b3<2f849 55c2<2f84a 5716<2f84b 5606<2f84c 5717<2f84d 5651<2f84e 5674<2f84f
   5207<2f850 58ee<2f851 57ce<2f852 57f4<2f853 580d<2f854 578b<2f855 5832<2f856 5831<2f857
   58ac<2f858 214e4<2f859 58f2<2f85a 58f7<2f85b 5906<2f85c 591a<2f85d 5922<2f85e 5962<2f85f
   216a8<2f860 216ea<2f861 59ec<2f862 5a1b<2f863 5a27<2f864 59d8<2f865 5a66<2f866 36ee<2f867
   36fc<2f868 5b08<2f869 5b3e<2f86a 5b3e<2f86b 219c8<2f86c 5bc3<2f86d 5bd8<2f86e 5be7<2f86f
   5bf3<2f870 21b18<2f871 5bff<2f872 5c06<2f873 5f53<2f874 5c22<2f875 3781<2f876 5c60<2f877
   5c6e<2f878 5cc0<2f879 5c8d<2f87a 21de4<2f87b 5d43<2f87c 21de6<2f87d 5d6e<2f87e 5d6b<2f87f
   5d7c<2f880 5de1<2f881 5de2<2f882 382f<2f883 5dfd<2f884 5e28<2f885 5e3d<2f886 5e69<2f887
   3862<2f888 22183<2f889 387c<2f88a 5eb0<2f88b 5eb3<2f88c 5eb6<2f88d 5eca<2f88e 2a392<2f88f
   5efe<2f890 22331<2f891 22331<2f892 8201<2f893 5f22<2f894 5f22<2f895 38c7<2f896 232b8<2f897
   261da<2f898 5f62<2f899 5f6b<2f89a 38e3<2f89b 5f9a<2f89c 5fcd<2f89d 5fd7<2f89e 5ff9<2f89f
   6081<2f8a0 393a<2f8a1 391c<2f8a2 6094<2f8a3 226d4<2f8a4 60c7<2f8a5 6148<2f8a6 614c<2f8a7
   614e<2f8a8 614c<2f8a9 617a<2f8aa 618e<2f8ab 61b2<2f8ac 61a4<2f8ad 61af<2f8ae 61de<2f8af
   61f2<2f8b0 61f6<2f8b1 6210<2f8b2 621b<2f8b3 625d<2f8b4 62b1<2f8b5 62d4<2f8b6 6350<2f8b7
   22b0c<2f8b8 633d<2f8b9 62fc<2f8ba 6368<2f8bb 6383<2f8bc 63e4<2f8bd 22bf1<2f8be 6422<2f8bf
   63c5<2f8c0 63a9<2f8c1 3a2e<2f8c2 6469<2f8c3 647e<2f8c4 649d<2f8c5 6477<2f8c6 3a6c<2f8c7
   654f<2f8c8 656c<2f8c9 2300a<2f8ca 65e3<2f8cb 66f8<2f8cc 6649<2f8cd 3b19<2f8ce 6691<2f8cf
   3b08<2f8d0 3ae4<2f8d1 5192<2f8d2 5195<2f8d3 6700<2f8d4 669c<2f8d5 80ad<2f8d6 43d9<2f8d7
   6717<2f8d8 671b<2f8d9 6721<2f8da 675e<2f8db 6753<2f8dc 233c3<2f8dd 3b49<2f8de 67fa<2f8df
   6785<2f8e0 6852<2f8e1 6885<2f8e2 2346d<2f8e3 688e<2f8e4 681f<2f8e5 6914<2f8e6 3b9d<2f8e7
   6942<2f8e8 69a3<2f8e9 69ea<2f8ea 6aa8<2f8eb 236a3<2f8ec 6adb<2f8ed 3c18<2f8ee 6b21<2f8ef
   238a7<2f8f0 6b54<2f8f1 3c4e<2f8f2 6b72<2f8f3 6b9f<2f8f4 6bba<2f8f5 6bbb<2f8f6 23a8d<2f8f7
   21d0b<2f8f8 23afa<2f8f9 6c4e<2f8fa 23cbc<2f8fb 6cbf<2f8fc 6ccd<2f8fd 6c67<2f8fe 6d16<2f8ff
   6d3e<2f900 6d77<2f901 6d41<2f902 6d69<2f903 6d78<2f904 6d85<2f905 23d1e<2f906 6d34<2f907
   6e2f<2f908 6e6e<2f909 3d33<2f90a 6ecb<2f90b 6ec7<2f90c 23ed1<2f90d 6df9<2f90e 6f6e<2f90f
   23f5e<2f910 23f8e<2f911 6fc6<2f912 7039<2f913 701e<2f914 701b<2f915 3d96<2f916 704a<2f917
   707d<2f918 7077<2f919 70ad<2f91a 20525<2f91b 7145<2f91c 24263<2f91d 719c<2f91e 243ab<2f91f
   7228<2f920 7235<2f921 7250<2f922 24608<2f923 7280<2f924 7295<2f925 24735<2f926 24814<2f927
   737a<2f928 738b<2f929 3eac<2f92a 73a5<2f92b 3eb8<2f92c 3eb8<2f92d 7447<2f92e 745c<2f92f
   7471<2f930 7485<2f931 74ca<2f932 3f1b<2f933 7524<2f934 24c36<2f935 753e<2f936 24c92<2f937
   7570<2f938 2219f<2f939 7610<2f93a 24fa1<2f93b 24fb8<2f93c 25044<2f93d 3ffc<2f93e 4008<2f93f
   76f4<2f940 250f3<2f941 250f2<2f942 25119<2f943 25133<2f944 771e<2f945 771f<2f946 771f<2f947
   774a<2f948 4039<2f949 778b<2f94a 4046<2f94b 4096<2f94c 2541d<2f94d 784e<2f94e 788c<2f94f
   78cc<2f950 40e3<2f951 25626<2f952 7956<2f953 2569a<2f954 256c5<2f955 798f<2f956 79eb<2f957
   412f<2f958 7a40<2f959 7a4a<2f95a 7a4f<2f95b 2597c<2f95c 25aa7<2f95d 25aa7<2f95e 7aee<2f95f
   4202<2f960 25bab<2f961 7bc6<2f962 7bc9<2f963 4227<2f964 25c80<2f965 7cd2<2f966 42a0<2f967
   7ce8<2f968 7ce3<2f969 7d00<2f96a 25f86<2f96b 7d63<2f96c 4301<2f96d 7dc7<2f96e 7e02<2f96f
   7e45<2f970 4334<2f971 26228<2f972 26247<2f973 4359<2f974 262d9<2f975 7f7a<2f976 2633e<2f977
   7f95<2f978 7ffa<2f979 8005<2f97a 264da<2f97b 26523<2f97c 8060<2f97d 265a8<2f97e 8070<2f97f
   2335f<2f980 43d5<2f981 80b2<2f982 8103<2f983 440b<2f984 813e<2f985 5ab5<2f986 267a7<2f987
   267b5<2f988 23393<2f989 2339c<2f98a 8201<2f98b 8204<2f98c 8f9e<2f98d 446b<2f98e 8291<2f98f
   828b<2f990 829d<2f991 52b3<2f992 82b1<2f993 82b3<2f994 82bd<2f995 82e6<2f996 26b3c<2f997
   82e5<2f998 831d<2f999 8363<2f99a 83ad<2f99b 8323<2f99c 83bd<2f99d 83e7<2f99e 8457<2f99f
   8353<2f9a0 83ca<2f9a1 83cc<2f9a2 83dc<2f9a3 26c36<2f9a4 26d6b<2f9a5 26cd5<2f9a6 452b<2f9a7
   84f1<2f9a8 84f3<2f9a9 8516<2f9aa 273ca<2f9ab 8564<2f9ac 26f2c<2f9ad 455d<2f9ae 4561<2f9af
   26fb1<2f9b0 270d2<2f9b1 456b<2f9b2 8650<2f9b3 865c<2f9b4 8667<2f9b5 8669<2f9b6 86a9<2f9b7
   8688<2f9b8 870e<2f9b9 86e2<2f9ba 8779<2f9bb 8728<2f9bc 876b<2f9bd 8786<2f9be 45d7<2f9bf
   87e1<2f9c0 8801<2f9c1 45f9<2f9c2 8860<2f9c3 8863<2f9c4 27667<2f9c5 88d7<2f9c6 88de<2f9c7
   4635<2f9c8 88fa<2f9c9 34bb<2f9ca 278ae<2f9cb 27966<2f9cc 46be<2f9cd 46c7<2f9ce 8aa0<2f9cf
   8aed<2f9d0 8b8a<2f9d1 8c55<2f9d2 27ca8<2f9d3 8cab<2f9d4 8cc1<2f9d5 8d1b<2f9d6 8d77<2f9d7
   27f2f<2f9d8 20804<2f9d9 8dcb<2f9da 8dbc<2f9db 8df0<2f9dc 208de<2f9dd 8ed4<2f9de 8f38<2f9df
   285d2<2f9e0 285ed<2f9e1 9094<2f9e2 90f1<2f9e3 9111<2f9e4 2872e<2f9e5 911b<2f9e6 9238<2f9e7
   92d7<2f9e8 92d8<2f9e9 927c<2f9ea 93f9<2f9eb 9415<2f9ec 28bfa<2f9ed 958b<2f9ee 4995<2f9ef
   95b7<2f9f0 28d77<2f9f1 49e6<2f9f2 96c3<2f9f3 5db2<2f9f4 9723<2f9f5 29145<2f9f6 2921a<2f9f7
   4a6e<2f9f8 4a76<2f9f9 97e0<2f9fa 2940a<2f9fb 4ab2<2f9fc 29496<2f9fd 980b<2f9fe 980b<2f9ff
   9829<2fa00 295b6<2fa01 98e2<2fa02 4b33<2fa03 9929<2fa04 99a7<2fa05 99c2<2fa06 99fe<2fa07
   4bce<2fa08 29b30<2fa09 9b12<2fa0a 9c40<2fa0b 9cfd<2fa0c 4cce<2fa0d 4ced<2fa0e 9d67<2fa0f
   2a0ce<2fa10 4cf8<2fa11 2a105<2fa12 2a20e<2fa13 2a291<2fa14 9ebb<2fa15 4d56<2fa16 9ef9<2fa17
   9efe<2fa18 9f05<2fa19 9f0f<2fa1a 9f16<2fa1b 9f3b<2fa1c 2a600<2fa1d"

/-- Combining classes other than zero, by code point or range of code points. -/
def combiningClassWords : String :=
  "300-314:230 315:232 316-319:220 31a:232 31b:216 31c-320:220 321-322:202 323-326:220 327-328:202
   329-333:220 334-338:1 339-33c:220 33d-344:230 345:240 346:230 347-349:220 34a-34c:230
   34d-34e:220 350-352:230 353-356:220 357:230 358:232 359-35a:220 35b:230 35c:233 35d-35e:234
   35f:233 360-361:234 362:233 363-36f:230 483-487:230 591:220 592-595:230 596:220 597-599:230
   59a:222 59b:220 59c-5a1:230 5a2-5a7:220 5a8-5a9:230 5aa:220 5ab-5ac:230 5ad:222 5ae:228 5af:230
   5b0:10 5b1:11 5b2:12 5b3:13 5b4:14 5b5:15 5b6:16 5b7:17 5b8:18 5b9-5ba:19 5bb:20 5bc:21 5bd:22
   5bf:23 5c1:24 5c2:25 5c4:230 5c5:220 5c7:18 610-617:230 618:30 619:31 61a:32 64b:27 64c:28
   64d:29 64e:30 64f:31 650:32 651:33 652:34 653-654:230 655-656:220 657-65b:230 65c:220
   65d-65e:230 65f:220 670:35 6d6-6dc:230 6df-6e2:230 6e3:220 6e4:230 6e7-6e8:230 6ea:220
   6eb-6ec:230 6ed:220 711:36 730:230 731:220 732-733:230 734:220 735-736:230 737-739:220 73a:230
   73b-73c:220 73d:230 73e:220 73f-741:230 742:220 743:230 744:220 745:230 746:220 747:230 748:220
   749-74a:230 7eb-7f1:230 7f2:220 7f3:230 7fd:220 816-819:230 81b-823:230 825-827:230 829-82d:230
   859-85b:220 898:230 899-89b:220 89c-89f:230 8ca-8ce:230 8cf-8d3:220 8d4-8e1:230 8e3:220
   8e4-8e5:230 8e6:220 8e7-8e8:230 8e9:220 8ea-8ec:230 8ed-8ef:220 8f0:27 8f1:28 8f2:29 8f3-8f5:230
   8f6:220 8f7-8f8:230 8f9-8fa:220 8fb-8ff:230 93c:7 94d:9 951:230 952:220 953-954:230 9bc:7 9cd:9
   9fe:230 a3c:7 a4d:9 abc:7 acd:9 b3c:7 b4d:9 bcd:9 c3c:7 c4d:9 c55:84 c56:91 cbc:7 ccd:9
   d3b-d3c:9 d4d:9 dca:9 e38-e39:103 e3a:9 e48-e4b:107 eb8-eb9:118 eba:9 ec8-ecb:122 f18-f19:220
   f35:220 f37:220 f39:216 f71:129 f72:130 f74:132 f7a-f7d:130 f80:130 f82-f83:230 f84:9
   f86-f87:230 fc6:220 1037:7 1039-103a:9 108d:220 135d-135f:230 1714-1715:9 1734:9 17d2:9 17dd:230
   18a9:228 1939:222 193a:230 193b:220 1a17:230 1a18:220 1a60:9 1a75-1a7c:230 1a7f:220
   1ab0-1ab4:230 1ab5-1aba:220 1abb-1abc:230 1abd:220 1abf-1ac0:220 1ac1-1ac2:230 1ac3-1ac4:220
   1ac5-1ac9:230 1aca:220 1acb-1ace:230 1b34:7 1b44:9 1b6b:230 1b6c:220 1b6d-1b73:230 1baa-1bab:9
   1be6:7 1bf2-1bf3:9 1c37:7 1cd0-1cd2:230 1cd4:1 1cd5-1cd9:220 1cda-1cdb:230 1cdc-1cdf:220
   1ce0:230 1ce2-1ce8:1 1ced:220 1cf4:230 1cf8-1cf9:230 1dc0-1dc1:230 1dc2:220 1dc3-1dc9:230
   1dca:220 1dcb-1dcc:230 1dcd:234 1dce:214 1dcf:220 1dd0:202 1dd1-1df5:230 1df6:232 1df7-1df8:228
   1df9:220 1dfa:218 1dfb:230 1dfc:233 1dfd:220 1dfe:230 1dff:220 20d0-20d1:230 20d2-20d3:1
   20d4-20d7:230 20d8-20da:1 20db-20dc:230 20e1:230 20e5-20e6:1 20e7:230 20e8:220 20e9:230
   20ea-20eb:1 20ec-20ef:220 20f0:230 2cef-2cf1:230 2d7f:9 2de0-2dff:230 302a:218 302b:228 302c:232
   302d:222 302e-302f:224 3099-309a:8 a66f:230 a674-a67d:230 a69e-a69f:230 a6f0-a6f1:230 a806:9
   a82c:9 a8c4:9 a8e0-a8f1:230 a92b-a92d:220 a953:9 a9b3:7 a9c0:9 aab0:230 aab2-aab3:230 aab4:220
   aab7-aab8:230 aabe-aabf:230 aac1:230 aaf6:9 abed:9 fb1e:26 fe20-fe26:230 fe27-fe2d:220
   fe2e-fe2f:230 101fd:220 102e0:220 10376-1037a:230 10a0d:220 10a0f:230 10a38:230 10a39:1
   10a3a:220 10a3f:9 10ae5:230 10ae6:220 10d24-10d27:230 10eab-10eac:230 10efd-10eff:220
   10f46-10f47:220 10f48-10f4a:230 10f4b:220 10f4c:230 10f4d-10f50:220 10f82:230 10f83:220
   10f84:230 10f85:220 11046:9 11070:9 1107f:9 110b9:9 110ba:7 11100-11102:230 11133-11134:9
   11173:7 111c0:9 111ca:7 11235:9 11236:7 112e9:7 112ea:9 1133b-1133c:7 1134d:9 11366-1136c:230
   11370-11374:230 11442:9 11446:7 1145e:230 114c2:9 114c3:7 115bf:9 115c0:7 1163f:9 116b6:9
   116b7:7 1172b:9 11839:9 1183a:7 1193d-1193e:9 11943:7 119e0:9 11a34:9 11a47:9 11a99:9 11c3f:9
   11d42:7 11d44-11d45:9 11d97:9 11f41-11f42:9 16af0-16af4:1 16b30-16b36:230 16ff0-16ff1:6 1bc9e:1
   1d165-1d166:216 1d167-1d169:1 1d16d:226 1d16e-1d172:216 1d17b-1d182:220 1d185-1d189:230
   1d18a-1d18b:220 1d1aa-1d1ad:230 1d242-1d244:230 1e000-1e006:230 1e008-1e018:230 1e01b-1e021:230
   1e023-1e024:230 1e026-1e02a:230 1e08f:230 1e130-1e136:230 1e2ae:230 1e2ec-1e2ef:230
   1e4ec-1e4ed:232 1e4ee:220 1e4ef:230 1e8d0-1e8d6:220 1e944-1e949:230 1e94a:7"

end FilteringProxy.Unicode
