import AwaitLint.Text.Ranges

/-! # The composed compatibility form of names

Characters that may stand in a name are taken apart, marks are put in the order of their classes,
and pairs are composed again. The tables cover the characters of names; Hangul syllables follow a
rule.
-/

namespace AwaitLint.Text

private def partsText : List String := [
  "aa+0:61 b5+0:3bc ba+0:6f c0:41.300 c1:41.301 c2:41.302 c3:41.303 c4:41.308 c5:41.30a",
  "c7:43.327 c8:45.300 c9:45.301 ca:45.302 cb:45.308 cc:49.300 cd:49.301 ce:49.302 cf:49.308",
  "d1:4e.303 d2:4f.300 d3:4f.301 d4:4f.302 d5:4f.303 d6:4f.308 d9:55.300 da:55.301 db:55.302",
  "dc:55.308 dd:59.301 e0:61.300 e1:61.301 e2:61.302 e3:61.303 e4:61.308 e5:61.30a e7:63.327",
  "e8:65.300 e9:65.301 ea:65.302 eb:65.308 ec:69.300 ed:69.301 ee:69.302 ef:69.308 f1:6e.303",
  "f2:6f.300 f3:6f.301 f4:6f.302 f5:6f.303 f6:6f.308 f9:75.300 fa:75.301 fb:75.302 fc:75.308",
  "fd:79.301 ff:79.308 100:41.304 101:61.304 102:41.306 103:61.306 104:41.328 105:61.328",
  "106:43.301 107:63.301 108:43.302 109:63.302 10a:43.307 10b:63.307 10c:43.30c 10d:63.30c",
  "10e:44.30c 10f:64.30c 112:45.304 113:65.304 114:45.306 115:65.306 116:45.307 117:65.307",
  "118:45.328 119:65.328 11a:45.30c 11b:65.30c 11c:47.302 11d:67.302 11e:47.306 11f:67.306",
  "120:47.307 121:67.307 122:47.327 123:67.327 124:48.302 125:68.302 128:49.303 129:69.303",
  "12a:49.304 12b:69.304 12c:49.306 12d:69.306 12e:49.328 12f:69.328 130:49.307 132:49.4a",
  "133:69.6a 134:4a.302 135:6a.302 136:4b.327 137:6b.327 139:4c.301 13a:6c.301 13b:4c.327",
  "13c:6c.327 13d:4c.30c 13e:6c.30c 13f:4c.b7 140:6c.b7 143:4e.301 144:6e.301 145:4e.327",
  "146:6e.327 147:4e.30c 148:6e.30c 149:2bc.6e 14c:4f.304 14d:6f.304 14e:4f.306 14f:6f.306",
  "150:4f.30b 151:6f.30b 154:52.301 155:72.301 156:52.327 157:72.327 158:52.30c 159:72.30c",
  "15a:53.301 15b:73.301 15c:53.302 15d:73.302 15e:53.327 15f:73.327 160:53.30c 161:73.30c",
  "162:54.327 163:74.327 164:54.30c 165:74.30c 168:55.303 169:75.303 16a:55.304 16b:75.304",
  "16c:55.306 16d:75.306 16e:55.30a 16f:75.30a 170:55.30b 171:75.30b 172:55.328 173:75.328",
  "174:57.302 175:77.302 176:59.302 177:79.302 178:59.308 179:5a.301 17a:7a.301 17b:5a.307",
  "17c:7a.307 17d:5a.30c 17e:7a.30c 17f+0:73 1a0:4f.31b 1a1:6f.31b 1af:55.31b 1b0:75.31b",
  "1c4:44.5a.30c 1c5:44.7a.30c 1c6:64.7a.30c 1c7:4c.4a 1c8:4c.6a 1c9:6c.6a 1ca:4e.4a 1cb:4e.6a",
  "1cc:6e.6a 1cd:41.30c 1ce:61.30c 1cf:49.30c 1d0:69.30c 1d1:4f.30c 1d2:6f.30c 1d3:55.30c",
  "1d4:75.30c 1d5:55.308.304 1d6:75.308.304 1d7:55.308.301 1d8:75.308.301 1d9:55.308.30c",
  "1da:75.308.30c 1db:55.308.300 1dc:75.308.300 1de:41.308.304 1df:61.308.304 1e0:41.307.304",
  "1e1:61.307.304 1e2:c6.304 1e3:e6.304 1e6:47.30c 1e7:67.30c 1e8:4b.30c 1e9:6b.30c 1ea:4f.328",
  "1eb:6f.328 1ec:4f.328.304 1ed:6f.328.304 1ee:1b7.30c 1ef:292.30c 1f0:6a.30c 1f1:44.5a",
  "1f2:44.7a 1f3:64.7a 1f4:47.301 1f5:67.301 1f8:4e.300 1f9:6e.300 1fa:41.30a.301",
  "1fb:61.30a.301 1fc:c6.301 1fd:e6.301 1fe:d8.301 1ff:f8.301 200:41.30f 201:61.30f 202:41.311",
  "203:61.311 204:45.30f 205:65.30f 206:45.311 207:65.311 208:49.30f 209:69.30f 20a:49.311",
  "20b:69.311 20c:4f.30f 20d:6f.30f 20e:4f.311 20f:6f.311 210:52.30f 211:72.30f 212:52.311",
  "213:72.311 214:55.30f 215:75.30f 216:55.311 217:75.311 218:53.326 219:73.326 21a:54.326",
  "21b:74.326 21e:48.30c 21f:68.30c 226:41.307 227:61.307 228:45.327 229:65.327 22a:4f.308.304",
  "22b:6f.308.304 22c:4f.303.304 22d:6f.303.304 22e:4f.307 22f:6f.307 230:4f.307.304",
  "231:6f.307.304 232:59.304 233:79.304 2b0+0:68 2b1+0:266 2b2+0:6a 2b3+0:72 2b4+0:279",
  "2b5+0:27b 2b6+0:281 2b7+0:77 2b8+0:79 2e0+0:263 2e1+0:6c 2e2+0:73 2e3+0:78 2e4+0:295",
  "340+1:300 343+0:313 344:308.301 374+0:2b9 386:391.301 387+0:b7 388:395.301 389:397.301",
  "38a:399.301 38c:39f.301 38e:3a5.301 38f:3a9.301 390:3b9.308.301 3aa:399.308 3ab:3a5.308",
  "3ac:3b1.301 3ad:3b5.301 3ae:3b7.301 3af:3b9.301 3b0:3c5.308.301 3ca:3b9.308 3cb:3c5.308",
  "3cc:3bf.301 3cd:3c5.301 3ce:3c9.301 3d0+0:3b2 3d1+0:3b8 3d2+0:3a5 3d3:3a5.301 3d4:3a5.308",
  "3d5+0:3c6 3d6+0:3c0 3f0+0:3ba 3f1+1:3c1 3f4+0:398 3f5+0:3b5 3f9+0:3a3 400:415.300",
  "401:415.308 403:413.301 407:406.308 40c:41a.301 40d:418.300 40e:423.306 419:418.306",
  "439:438.306 450:435.300 451:435.308 453:433.301 457:456.308 45c:43a.301 45d:438.300",
  "45e:443.306 476:474.30f 477:475.30f 4c1:416.306 4c2:436.306 4d0:410.306 4d1:430.306",
  "4d2:410.308 4d3:430.308 4d6:415.306 4d7:435.306 4da:4d8.308 4db:4d9.308 4dc:416.308",
  "4dd:436.308 4de:417.308 4df:437.308 4e2:418.304 4e3:438.304 4e4:418.308 4e5:438.308",
  "4e6:41e.308 4e7:43e.308 4ea:4e8.308 4eb:4e9.308 4ec:42d.308 4ed:44d.308 4ee:423.304",
  "4ef:443.304 4f0:423.308 4f1:443.308 4f2:423.30b 4f3:443.30b 4f4:427.308 4f5:447.308",
  "4f8:42b.308 4f9:44b.308 587:565.582 622:627.653 623:627.654 624:648.654 625:627.655",
  "626:64a.654 675:627.674 676:648.674 677:6c7.674 678:64a.674 6c0:6d5.654 6c2:6c1.654",
  "6d3:6d2.654 929:928.93c 931:930.93c 934:933.93c 958:915.93c 959:916.93c 95a:917.93c",
  "95b:91c.93c 95c:921.93c 95d:922.93c 95e:92b.93c 95f:92f.93c 9cb:9c7.9be 9cc:9c7.9d7",
  "9dc:9a1.9bc 9dd:9a2.9bc 9df:9af.9bc a33:a32.a3c a36:a38.a3c a59:a16.a3c a5a:a17.a3c",
  "a5b:a1c.a3c a5e:a2b.a3c b48:b47.b56 b4b:b47.b3e b4c:b47.b57 b5c:b21.b3c b5d:b22.b3c",
  "b94:b92.bd7 bca:bc6.bbe bcb:bc7.bbe bcc:bc6.bd7 c48:c46.c56 cc0:cbf.cd5 cc7:cc6.cd5",
  "cc8:cc6.cd6 cca:cc6.cc2 ccb:cc6.cc2.cd5 d4a:d46.d3e d4b:d47.d3e d4c:d46.d57 dda:dd9.dca",
  "ddc:dd9.dcf ddd:dd9.dcf.dca dde:dd9.ddf e33:e4d.e32 eb3:ecd.eb2 edc:eab.e99 edd:eab.ea1",
  "f43:f42.fb7 f4d:f4c.fb7 f52:f51.fb7 f57:f56.fb7 f5c:f5b.fb7 f69:f40.fb5 f73:f71.f72",
  "f75:f71.f74 f76:fb2.f80 f77:fb2.f71.f80 f78:fb3.f80 f79:fb3.f71.f80 f81:f71.f80 f93:f92.fb7",
  "f9d:f9c.fb7 fa2:fa1.fb7 fa7:fa6.fb7 fac:fab.fb7 fb9:f90.fb5 1026:1025.102e 10fc+0:10dc",
  "1b06:1b05.1b35 1b08:1b07.1b35 1b0a:1b09.1b35 1b0c:1b0b.1b35 1b0e:1b0d.1b35 1b12:1b11.1b35",
  "1b3b:1b3a.1b35 1b3d:1b3c.1b35 1b40:1b3e.1b35 1b41:1b3f.1b35 1b43:1b42.1b35 1d2c+0:41",
  "1d2d+0:c6 1d2e+0:42 1d30+1:44 1d32+0:18e 1d33+7:47 1d3c+0:4f 1d3d+0:222 1d3e+0:50 1d3f+0:52",
  "1d40+1:54 1d42+0:57 1d43+0:61 1d44+1:250 1d46+0:1d02 1d47+0:62 1d48+1:64 1d4a+0:259",
  "1d4b+1:25b 1d4d+0:67 1d4f+0:6b 1d50+0:6d 1d51+0:14b 1d52+0:6f 1d53+0:254 1d54+1:1d16",
  "1d56+0:70 1d57+1:74 1d59+0:1d1d 1d5a+0:26f 1d5b+0:76 1d5c+0:1d25 1d5d+2:3b2 1d60+1:3c6",
  "1d62+0:69 1d63+0:72 1d64+1:75 1d66+1:3b2 1d68+0:3c1 1d69+1:3c6 1d78+0:43d 1d9b+0:252",
  "1d9c+0:63 1d9d+0:255 1d9e+0:f0 1d9f+0:25c 1da0+0:66 1da1+0:25f 1da2+0:261 1da3+0:265",
  "1da4+2:268 1da7+0:1d7b 1da8+0:29d 1da9+0:26d 1daa+0:1d85 1dab+0:29f 1dac+0:271 1dad+0:270",
  "1dae+3:272 1db2+0:278 1db3+1:282 1db5+0:1ab 1db6+1:289 1db8+0:1d1c 1db9+1:28b 1dbb+0:7a",
  "1dbc+2:290 1dbf+0:3b8 1e00:41.325 1e01:61.325 1e02:42.307 1e03:62.307 1e04:42.323",
  "1e05:62.323 1e06:42.331 1e07:62.331 1e08:43.327.301 1e09:63.327.301 1e0a:44.307 1e0b:64.307",
  "1e0c:44.323 1e0d:64.323 1e0e:44.331 1e0f:64.331 1e10:44.327 1e11:64.327 1e12:44.32d",
  "1e13:64.32d 1e14:45.304.300 1e15:65.304.300 1e16:45.304.301 1e17:65.304.301 1e18:45.32d",
  "1e19:65.32d 1e1a:45.330 1e1b:65.330 1e1c:45.327.306 1e1d:65.327.306 1e1e:46.307 1e1f:66.307",
  "1e20:47.304 1e21:67.304 1e22:48.307 1e23:68.307 1e24:48.323 1e25:68.323 1e26:48.308",
  "1e27:68.308 1e28:48.327 1e29:68.327 1e2a:48.32e 1e2b:68.32e 1e2c:49.330 1e2d:69.330",
  "1e2e:49.308.301 1e2f:69.308.301 1e30:4b.301 1e31:6b.301 1e32:4b.323 1e33:6b.323 1e34:4b.331",
  "1e35:6b.331 1e36:4c.323 1e37:6c.323 1e38:4c.323.304 1e39:6c.323.304 1e3a:4c.331 1e3b:6c.331",
  "1e3c:4c.32d 1e3d:6c.32d 1e3e:4d.301 1e3f:6d.301 1e40:4d.307 1e41:6d.307 1e42:4d.323",
  "1e43:6d.323 1e44:4e.307 1e45:6e.307 1e46:4e.323 1e47:6e.323 1e48:4e.331 1e49:6e.331",
  "1e4a:4e.32d 1e4b:6e.32d 1e4c:4f.303.301 1e4d:6f.303.301 1e4e:4f.303.308 1e4f:6f.303.308",
  "1e50:4f.304.300 1e51:6f.304.300 1e52:4f.304.301 1e53:6f.304.301 1e54:50.301 1e55:70.301",
  "1e56:50.307 1e57:70.307 1e58:52.307 1e59:72.307 1e5a:52.323 1e5b:72.323 1e5c:52.323.304",
  "1e5d:72.323.304 1e5e:52.331 1e5f:72.331 1e60:53.307 1e61:73.307 1e62:53.323 1e63:73.323",
  "1e64:53.301.307 1e65:73.301.307 1e66:53.30c.307 1e67:73.30c.307 1e68:53.323.307",
  "1e69:73.323.307 1e6a:54.307 1e6b:74.307 1e6c:54.323 1e6d:74.323 1e6e:54.331 1e6f:74.331",
  "1e70:54.32d 1e71:74.32d 1e72:55.324 1e73:75.324 1e74:55.330 1e75:75.330 1e76:55.32d",
  "1e77:75.32d 1e78:55.303.301 1e79:75.303.301 1e7a:55.304.308 1e7b:75.304.308 1e7c:56.303",
  "1e7d:76.303 1e7e:56.323 1e7f:76.323 1e80:57.300 1e81:77.300 1e82:57.301 1e83:77.301",
  "1e84:57.308 1e85:77.308 1e86:57.307 1e87:77.307 1e88:57.323 1e89:77.323 1e8a:58.307",
  "1e8b:78.307 1e8c:58.308 1e8d:78.308 1e8e:59.307 1e8f:79.307 1e90:5a.302 1e91:7a.302",
  "1e92:5a.323 1e93:7a.323 1e94:5a.331 1e95:7a.331 1e96:68.331 1e97:74.308 1e98:77.30a",
  "1e99:79.30a 1e9a:61.2be 1e9b:73.307 1ea0:41.323 1ea1:61.323 1ea2:41.309 1ea3:61.309",
  "1ea4:41.302.301 1ea5:61.302.301 1ea6:41.302.300 1ea7:61.302.300 1ea8:41.302.309",
  "1ea9:61.302.309 1eaa:41.302.303 1eab:61.302.303 1eac:41.323.302 1ead:61.323.302",
  "1eae:41.306.301 1eaf:61.306.301 1eb0:41.306.300 1eb1:61.306.300 1eb2:41.306.309",
  "1eb3:61.306.309 1eb4:41.306.303 1eb5:61.306.303 1eb6:41.323.306 1eb7:61.323.306 1eb8:45.323",
  "1eb9:65.323 1eba:45.309 1ebb:65.309 1ebc:45.303 1ebd:65.303 1ebe:45.302.301 1ebf:65.302.301",
  "1ec0:45.302.300 1ec1:65.302.300 1ec2:45.302.309 1ec3:65.302.309 1ec4:45.302.303",
  "1ec5:65.302.303 1ec6:45.323.302 1ec7:65.323.302 1ec8:49.309 1ec9:69.309 1eca:49.323",
  "1ecb:69.323 1ecc:4f.323 1ecd:6f.323 1ece:4f.309 1ecf:6f.309 1ed0:4f.302.301 1ed1:6f.302.301",
  "1ed2:4f.302.300 1ed3:6f.302.300 1ed4:4f.302.309 1ed5:6f.302.309 1ed6:4f.302.303",
  "1ed7:6f.302.303 1ed8:4f.323.302 1ed9:6f.323.302 1eda:4f.31b.301 1edb:6f.31b.301",
  "1edc:4f.31b.300 1edd:6f.31b.300 1ede:4f.31b.309 1edf:6f.31b.309 1ee0:4f.31b.303",
  "1ee1:6f.31b.303 1ee2:4f.31b.323 1ee3:6f.31b.323 1ee4:55.323 1ee5:75.323 1ee6:55.309",
  "1ee7:75.309 1ee8:55.31b.301 1ee9:75.31b.301 1eea:55.31b.300 1eeb:75.31b.300 1eec:55.31b.309",
  "1eed:75.31b.309 1eee:55.31b.303 1eef:75.31b.303 1ef0:55.31b.323 1ef1:75.31b.323 1ef2:59.300",
  "1ef3:79.300 1ef4:59.323 1ef5:79.323 1ef6:59.309 1ef7:79.309 1ef8:59.303 1ef9:79.303",
  "1f00:3b1.313 1f01:3b1.314 1f02:3b1.313.300 1f03:3b1.314.300 1f04:3b1.313.301",
  "1f05:3b1.314.301 1f06:3b1.313.342 1f07:3b1.314.342 1f08:391.313 1f09:391.314",
  "1f0a:391.313.300 1f0b:391.314.300 1f0c:391.313.301 1f0d:391.314.301 1f0e:391.313.342",
  "1f0f:391.314.342 1f10:3b5.313 1f11:3b5.314 1f12:3b5.313.300 1f13:3b5.314.300",
  "1f14:3b5.313.301 1f15:3b5.314.301 1f18:395.313 1f19:395.314 1f1a:395.313.300",
  "1f1b:395.314.300 1f1c:395.313.301 1f1d:395.314.301 1f20:3b7.313 1f21:3b7.314",
  "1f22:3b7.313.300 1f23:3b7.314.300 1f24:3b7.313.301 1f25:3b7.314.301 1f26:3b7.313.342",
  "1f27:3b7.314.342 1f28:397.313 1f29:397.314 1f2a:397.313.300 1f2b:397.314.300",
  "1f2c:397.313.301 1f2d:397.314.301 1f2e:397.313.342 1f2f:397.314.342 1f30:3b9.313",
  "1f31:3b9.314 1f32:3b9.313.300 1f33:3b9.314.300 1f34:3b9.313.301 1f35:3b9.314.301",
  "1f36:3b9.313.342 1f37:3b9.314.342 1f38:399.313 1f39:399.314 1f3a:399.313.300",
  "1f3b:399.314.300 1f3c:399.313.301 1f3d:399.314.301 1f3e:399.313.342 1f3f:399.314.342",
  "1f40:3bf.313 1f41:3bf.314 1f42:3bf.313.300 1f43:3bf.314.300 1f44:3bf.313.301",
  "1f45:3bf.314.301 1f48:39f.313 1f49:39f.314 1f4a:39f.313.300 1f4b:39f.314.300",
  "1f4c:39f.313.301 1f4d:39f.314.301 1f50:3c5.313 1f51:3c5.314 1f52:3c5.313.300",
  "1f53:3c5.314.300 1f54:3c5.313.301 1f55:3c5.314.301 1f56:3c5.313.342 1f57:3c5.314.342",
  "1f59:3a5.314 1f5b:3a5.314.300 1f5d:3a5.314.301 1f5f:3a5.314.342 1f60:3c9.313 1f61:3c9.314",
  "1f62:3c9.313.300 1f63:3c9.314.300 1f64:3c9.313.301 1f65:3c9.314.301 1f66:3c9.313.342",
  "1f67:3c9.314.342 1f68:3a9.313 1f69:3a9.314 1f6a:3a9.313.300 1f6b:3a9.314.300",
  "1f6c:3a9.313.301 1f6d:3a9.314.301 1f6e:3a9.313.342 1f6f:3a9.314.342 1f70:3b1.300",
  "1f71:3b1.301 1f72:3b5.300 1f73:3b5.301 1f74:3b7.300 1f75:3b7.301 1f76:3b9.300 1f77:3b9.301",
  "1f78:3bf.300 1f79:3bf.301 1f7a:3c5.300 1f7b:3c5.301 1f7c:3c9.300 1f7d:3c9.301",
  "1f80:3b1.313.345 1f81:3b1.314.345 1f82:3b1.313.300.345 1f83:3b1.314.300.345",
  "1f84:3b1.313.301.345 1f85:3b1.314.301.345 1f86:3b1.313.342.345 1f87:3b1.314.342.345",
  "1f88:391.313.345 1f89:391.314.345 1f8a:391.313.300.345 1f8b:391.314.300.345",
  "1f8c:391.313.301.345 1f8d:391.314.301.345 1f8e:391.313.342.345 1f8f:391.314.342.345",
  "1f90:3b7.313.345 1f91:3b7.314.345 1f92:3b7.313.300.345 1f93:3b7.314.300.345",
  "1f94:3b7.313.301.345 1f95:3b7.314.301.345 1f96:3b7.313.342.345 1f97:3b7.314.342.345",
  "1f98:397.313.345 1f99:397.314.345 1f9a:397.313.300.345 1f9b:397.314.300.345",
  "1f9c:397.313.301.345 1f9d:397.314.301.345 1f9e:397.313.342.345 1f9f:397.314.342.345",
  "1fa0:3c9.313.345 1fa1:3c9.314.345 1fa2:3c9.313.300.345 1fa3:3c9.314.300.345",
  "1fa4:3c9.313.301.345 1fa5:3c9.314.301.345 1fa6:3c9.313.342.345 1fa7:3c9.314.342.345",
  "1fa8:3a9.313.345 1fa9:3a9.314.345 1faa:3a9.313.300.345 1fab:3a9.314.300.345",
  "1fac:3a9.313.301.345 1fad:3a9.314.301.345 1fae:3a9.313.342.345 1faf:3a9.314.342.345",
  "1fb0:3b1.306 1fb1:3b1.304 1fb2:3b1.300.345 1fb3:3b1.345 1fb4:3b1.301.345 1fb6:3b1.342",
  "1fb7:3b1.342.345 1fb8:391.306 1fb9:391.304 1fba:391.300 1fbb:391.301 1fbc:391.345",
  "1fbe+0:3b9 1fc2:3b7.300.345 1fc3:3b7.345 1fc4:3b7.301.345 1fc6:3b7.342 1fc7:3b7.342.345",
  "1fc8:395.300 1fc9:395.301 1fca:397.300 1fcb:397.301 1fcc:397.345 1fd0:3b9.306 1fd1:3b9.304",
  "1fd2:3b9.308.300 1fd3:3b9.308.301 1fd6:3b9.342 1fd7:3b9.308.342 1fd8:399.306 1fd9:399.304",
  "1fda:399.300 1fdb:399.301 1fe0:3c5.306 1fe1:3c5.304 1fe2:3c5.308.300 1fe3:3c5.308.301",
  "1fe4:3c1.313 1fe5:3c1.314 1fe6:3c5.342 1fe7:3c5.308.342 1fe8:3a5.306 1fe9:3a5.304",
  "1fea:3a5.300 1feb:3a5.301 1fec:3a1.314 1ff2:3c9.300.345 1ff3:3c9.345 1ff4:3c9.301.345",
  "1ff6:3c9.342 1ff7:3c9.342.345 1ff8:39f.300 1ff9:39f.301 1ffa:3a9.300 1ffb:3a9.301",
  "1ffc:3a9.345 2071+0:69 207f+0:6e 2090+0:61 2091+0:65 2092+0:6f 2093+0:78 2094+0:259",
  "2095+0:68 2096+3:6b 209a+0:70 209b+1:73 2102+0:43 2107+0:190 210a+0:67 210b+0:48 210c+0:48",
  "210d+0:48 210e+0:68 210f+0:127 2110+0:49 2111+0:49 2112+0:4c 2113+0:6c 2115+0:4e 2119+2:50",
  "211c+0:52 211d+0:52 2124+0:5a 2126+0:3a9 2128+0:5a 212a+0:4b 212b:41.30a 212c+1:42",
  "212f+0:65 2130+1:45 2133+0:4d 2134+0:6f 2135+3:5d0 2139+0:69 213c+0:3c0 213d+0:3b3",
  "213e+0:393 213f+0:3a0 2145+0:44 2146+1:64 2148+1:69 2160+0:49 2161:49.49 2162:49.49.49",
  "2163:49.56 2164+0:56 2165:56.49 2166:56.49.49 2167:56.49.49.49 2168:49.58 2169+0:58",
  "216a:58.49 216b:58.49.49 216c+0:4c 216d+1:43 216f+0:4d 2170+0:69 2171:69.69 2172:69.69.69",
  "2173:69.76 2174+0:76 2175:76.69 2176:76.69.69 2177:76.69.69.69 2178:69.78 2179+0:78",
  "217a:78.69 217b:78.69.69 217c+0:6c 217d+1:63 217f+0:6d 2c7c+0:6a 2c7d+0:56 2d6f+0:2d61",
  "3038+0:5341 3039+1:5344 304c:304b.3099 304e:304d.3099 3050:304f.3099 3052:3051.3099",
  "3054:3053.3099 3056:3055.3099 3058:3057.3099 305a:3059.3099 305c:305b.3099 305e:305d.3099",
  "3060:305f.3099 3062:3061.3099 3065:3064.3099 3067:3066.3099 3069:3068.3099 3070:306f.3099",
  "3071:306f.309a 3073:3072.3099 3074:3072.309a 3076:3075.3099 3077:3075.309a 3079:3078.3099",
  "307a:3078.309a 307c:307b.3099 307d:307b.309a 3094:3046.3099 309e:309d.3099 309f:3088.308a",
  "30ac:30ab.3099 30ae:30ad.3099 30b0:30af.3099 30b2:30b1.3099 30b4:30b3.3099 30b6:30b5.3099",
  "30b8:30b7.3099 30ba:30b9.3099 30bc:30bb.3099 30be:30bd.3099 30c0:30bf.3099 30c2:30c1.3099",
  "30c5:30c4.3099 30c7:30c6.3099 30c9:30c8.3099 30d0:30cf.3099 30d1:30cf.309a 30d3:30d2.3099",
  "30d4:30d2.309a 30d6:30d5.3099 30d7:30d5.309a 30d9:30d8.3099 30da:30d8.309a 30dc:30db.3099",
  "30dd:30db.309a 30f4:30a6.3099 30f7:30ef.3099 30f8:30f0.3099 30f9:30f1.3099 30fa:30f2.3099",
  "30fe:30fd.3099 30ff:30b3.30c8 3131+1:1100 3133+0:11aa 3134+0:1102 3135+1:11ac 3137+2:1103",
  "313a+5:11b0 3140+0:111a 3141+2:1106 3144+0:1121 3145+9:1109 314f+14:1161 3164+0:1160",
  "3165+1:1114 3167+1:11c7 3169+0:11cc 316a+0:11ce 316b+0:11d3 316c+0:11d7 316d+0:11d9",
  "316e+0:111c 316f+0:11dd 3170+0:11df 3171+1:111d 3173+0:1120 3174+1:1122 3176+0:1127",
  "3177+0:1129 3178+4:112b 317d+0:1132 317e+0:1136 317f+0:1140 3180+0:1147 3181+0:114c",
  "3182+1:11f1 3184+2:1157 3187+1:1184 3189+0:1188 318a+1:1191 318c+0:1194 318d+0:119e",
  "318e+0:11a1 a69c+0:44a a69d+0:44c a770+0:a76f a7f2+0:43 a7f3+0:46 a7f4+0:51 a7f8+0:126",
  "a7f9+0:153 ab5c+0:a727 ab5d+0:ab37 ab5e+0:26b ab5f+0:ab52 ab69+0:28d f900+0:8c48",
  "f901+0:66f4 f902+0:8eca f903+0:8cc8 f904+0:6ed1 f905+0:4e32 f906+0:53e5 f907+0:9f9c",
  "f908+0:9f9c f909+0:5951 f90a+0:91d1 f90b+0:5587 f90c+0:5948 f90d+0:61f6 f90e+0:7669",
  "f90f+0:7f85 f910+0:863f f911+0:87ba f912+0:88f8 f913+0:908f f914+0:6a02 f915+0:6d1b",
  "f916+0:70d9 f917+0:73de f918+0:843d f919+0:916a f91a+0:99f1 f91b+0:4e82 f91c+0:5375",
  "f91d+0:6b04 f91e+0:721b f91f+0:862d f920+0:9e1e f921+0:5d50 f922+0:6feb f923+0:85cd",
  "f924+0:8964 f925+0:62c9 f926+0:81d8 f927+0:881f f928+0:5eca f929+0:6717 f92a+0:6d6a",
  "f92b+0:72fc f92c+0:90ce f92d+0:4f86 f92e+0:51b7 f92f+0:52de f930+0:64c4 f931+0:6ad3",
  "f932+0:7210 f933+0:76e7 f934+0:8001 f935+0:8606 f936+0:865c f937+0:8def f938+0:9732",
  "f939+0:9b6f f93a+0:9dfa f93b+0:788c f93c+0:797f f93d+0:7da0 f93e+0:83c9 f93f+0:9304",
  "f940+0:9e7f f941+0:8ad6 f942+0:58df f943+0:5f04 f944+0:7c60 f945+0:807e f946+0:7262",
  "f947+0:78ca f948+0:8cc2 f949+0:96f7 f94a+0:58d8 f94b+0:5c62 f94c+0:6a13 f94d+0:6dda",
  "f94e+0:6f0f f94f+0:7d2f f950+0:7e37 f951+0:964b f952+0:52d2 f953+0:808b f954+0:51dc",
  "f955+0:51cc f956+0:7a1c f957+0:7dbe f958+0:83f1 f959+0:9675 f95a+0:8b80 f95b+0:62cf",
  "f95c+0:6a02 f95d+0:8afe f95e+0:4e39 f95f+0:5be7 f960+0:6012 f961+0:7387 f962+0:7570",
  "f963+0:5317 f964+0:78fb f965+0:4fbf f966+0:5fa9 f967+0:4e0d f968+0:6ccc f969+0:6578",
  "f96a+0:7d22 f96b+0:53c3 f96c+0:585e f96d+0:7701 f96e+0:8449 f96f+0:8aaa f970+0:6bba",
  "f971+0:8fb0 f972+0:6c88 f973+0:62fe f974+0:82e5 f975+0:63a0 f976+0:7565 f977+0:4eae",
  "f978+0:5169 f979+0:51c9 f97a+0:6881 f97b+0:7ce7 f97c+0:826f f97d+0:8ad2 f97e+0:91cf",
  "f97f+0:52f5 f980+0:5442 f981+0:5973 f982+0:5eec f983+0:65c5 f984+0:6ffe f985+0:792a",
  "f986+0:95ad f987+0:9a6a f988+0:9e97 f989+0:9ece f98a+0:529b f98b+0:66c6 f98c+0:6b77",
  "f98d+0:8f62 f98e+0:5e74 f98f+0:6190 f990+0:6200 f991+0:649a f992+0:6f23 f993+0:7149",
  "f994+0:7489 f995+0:79ca f996+0:7df4 f997+0:806f f998+0:8f26 f999+0:84ee f99a+0:9023",
  "f99b+0:934a f99c+0:5217 f99d+0:52a3 f99e+0:54bd f99f+0:70c8 f9a0+0:88c2 f9a1+0:8aaa",
  "f9a2+0:5ec9 f9a3+0:5ff5 f9a4+0:637b f9a5+0:6bae f9a6+0:7c3e f9a7+0:7375 f9a8+0:4ee4",
  "f9a9+0:56f9 f9aa+0:5be7 f9ab+0:5dba f9ac+0:601c f9ad+0:73b2 f9ae+0:7469 f9af+0:7f9a",
  "f9b0+0:8046 f9b1+0:9234 f9b2+0:96f6 f9b3+0:9748 f9b4+0:9818 f9b5+0:4f8b f9b6+0:79ae",
  "f9b7+0:91b4 f9b8+0:96b8 f9b9+0:60e1 f9ba+0:4e86 f9bb+0:50da f9bc+0:5bee f9bd+0:5c3f",
  "f9be+0:6599 f9bf+0:6a02 f9c0+0:71ce f9c1+0:7642 f9c2+0:84fc f9c3+0:907c f9c4+0:9f8d",
  "f9c5+0:6688 f9c6+0:962e f9c7+0:5289 f9c8+0:677b f9c9+0:67f3 f9ca+0:6d41 f9cb+0:6e9c",
  "f9cc+0:7409 f9cd+0:7559 f9ce+0:786b f9cf+0:7d10 f9d0+0:985e f9d1+0:516d f9d2+0:622e",
  "f9d3+0:9678 f9d4+0:502b f9d5+0:5d19 f9d6+0:6dea f9d7+0:8f2a f9d8+0:5f8b f9d9+0:6144",
  "f9da+0:6817 f9db+0:7387 f9dc+0:9686 f9dd+0:5229 f9de+0:540f f9df+0:5c65 f9e0+0:6613",
  "f9e1+0:674e f9e2+0:68a8 f9e3+0:6ce5 f9e4+0:7406 f9e5+0:75e2 f9e6+0:7f79 f9e7+0:88cf",
  "f9e8+0:88e1 f9e9+0:91cc f9ea+0:96e2 f9eb+0:533f f9ec+0:6eba f9ed+0:541d f9ee+0:71d0",
  "f9ef+0:7498 f9f0+0:85fa f9f1+0:96a3 f9f2+0:9c57 f9f3+0:9e9f f9f4+0:6797 f9f5+0:6dcb",
  "f9f6+0:81e8 f9f7+0:7acb f9f8+0:7b20 f9f9+0:7c92 f9fa+0:72c0 f9fb+0:7099 f9fc+0:8b58",
  "f9fd+0:4ec0 f9fe+0:8336 f9ff+0:523a fa00+0:5207 fa01+0:5ea6 fa02+0:62d3 fa03+0:7cd6",
  "fa04+0:5b85 fa05+0:6d1e fa06+0:66b4 fa07+0:8f3b fa08+0:884c fa09+0:964d fa0a+0:898b",
  "fa0b+0:5ed3 fa0c+0:5140 fa0d+0:55c0 fa10+0:585a fa12+0:6674 fa15+0:51de fa16+0:732a",
  "fa17+0:76ca fa18+0:793c fa19+0:795e fa1a+0:7965 fa1b+0:798f fa1c+0:9756 fa1d+0:7cbe",
  "fa1e+0:7fbd fa20+0:8612 fa22+0:8af8 fa25+0:9038 fa26+0:90fd fa2a+0:98ef fa2b+0:98fc",
  "fa2c+0:9928 fa2d+0:9db4 fa2e+0:90de fa2f+0:96b7 fa30+0:4fae fa31+0:50e7 fa32+0:514d",
  "fa33+0:52c9 fa34+0:52e4 fa35+0:5351 fa36+0:559d fa37+0:5606 fa38+0:5668 fa39+0:5840",
  "fa3a+0:58a8 fa3b+0:5c64 fa3c+0:5c6e fa3d+0:6094 fa3e+0:6168 fa3f+0:618e fa40+0:61f2",
  "fa41+0:654f fa42+0:65e2 fa43+0:6691 fa44+0:6885 fa45+0:6d77 fa46+0:6e1a fa47+0:6f22",
  "fa48+0:716e fa49+0:722b fa4a+0:7422 fa4b+0:7891 fa4c+0:793e fa4d+0:7949 fa4e+0:7948",
  "fa4f+0:7950 fa50+0:7956 fa51+0:795d fa52+1:798d fa54+0:7a40 fa55+0:7a81 fa56+0:7bc0",
  "fa57+0:7df4 fa58+0:7e09 fa59+0:7e41 fa5a+0:7f72 fa5b+0:8005 fa5c+0:81ed fa5d+0:8279",
  "fa5e+0:8279 fa5f+0:8457 fa60+0:8910 fa61+0:8996 fa62+0:8b01 fa63+0:8b39 fa64+0:8cd3",
  "fa65+0:8d08 fa66+0:8fb6 fa67+0:9038 fa68+0:96e3 fa69+0:97ff fa6a+0:983b fa6b+0:6075",
  "fa6c+0:242ee fa6d+0:8218 fa70+0:4e26 fa71+0:51b5 fa72+0:5168 fa73+0:4f80 fa74+0:5145",
  "fa75+0:5180 fa76+0:52c7 fa77+0:52fa fa78+0:559d fa79+0:5555 fa7a+0:5599 fa7b+0:55e2",
  "fa7c+0:585a fa7d+0:58b3 fa7e+0:5944 fa7f+0:5954 fa80+0:5a62 fa81+0:5b28 fa82+0:5ed2",
  "fa83+0:5ed9 fa84+0:5f69 fa85+0:5fad fa86+0:60d8 fa87+0:614e fa88+0:6108 fa89+0:618e",
  "fa8a+0:6160 fa8b+0:61f2 fa8c+0:6234 fa8d+0:63c4 fa8e+0:641c fa8f+0:6452 fa90+0:6556",
  "fa91+0:6674 fa92+0:6717 fa93+0:671b fa94+0:6756 fa95+0:6b79 fa96+0:6bba fa97+0:6d41",
  "fa98+0:6edb fa99+0:6ecb fa9a+0:6f22 fa9b+0:701e fa9c+0:716e fa9d+0:77a7 fa9e+0:7235",
  "fa9f+0:72af faa0+0:732a faa1+0:7471 faa2+0:7506 faa3+0:753b faa4+0:761d faa5+0:761f",
  "faa6+0:76ca faa7+0:76db faa8+0:76f4 faa9+0:774a faaa+0:7740 faab+0:78cc faac+0:7ab1",
  "faad+0:7bc0 faae+0:7c7b faaf+0:7d5b fab0+0:7df4 fab1+0:7f3e fab2+0:8005 fab3+0:8352",
  "fab4+0:83ef fab5+0:8779 fab6+0:8941 fab7+0:8986 fab8+0:8996 fab9+0:8abf faba+0:8af8",
  "fabb+0:8acb fabc+0:8b01 fabd+0:8afe fabe+0:8aed fabf+0:8b39 fac0+0:8b8a fac1+0:8d08",
  "fac2+0:8f38 fac3+0:9072 fac4+0:9199 fac5+0:9276 fac6+0:967c fac7+0:96e3 fac8+0:9756",
  "fac9+0:97db faca+0:97ff facb+0:980b facc+0:983b facd+0:9b12 face+0:9f9c facf+0:2284a",
  "fad0+0:22844 fad1+0:233d5 fad2+0:3b9d fad3+0:4018 fad4+0:4039 fad5+0:25249 fad6+0:25cd0",
  "fad7+0:27ed3 fad8+0:9f43 fad9+0:9f8e fb00:66.66 fb01:66.69 fb02:66.6c fb03:66.66.69",
  "fb04:66.66.6c fb05:73.74 fb06:73.74 fb13:574.576 fb14:574.565 fb15:574.56b fb16:57e.576",
  "fb17:574.56d fb1d:5d9.5b4 fb1f:5f2.5b7 fb20+0:5e2 fb21+0:5d0 fb22+1:5d3 fb24+2:5db",
  "fb27+0:5e8 fb28+0:5ea fb2a:5e9.5c1 fb2b:5e9.5c2 fb2c:5e9.5bc.5c1 fb2d:5e9.5bc.5c2",
  "fb2e:5d0.5b7 fb2f:5d0.5b8 fb30:5d0.5bc fb31:5d1.5bc fb32:5d2.5bc fb33:5d3.5bc fb34:5d4.5bc",
  "fb35:5d5.5bc fb36:5d6.5bc fb38:5d8.5bc fb39:5d9.5bc fb3a:5da.5bc fb3b:5db.5bc fb3c:5dc.5bc",
  "fb3e:5de.5bc fb40:5e0.5bc fb41:5e1.5bc fb43:5e3.5bc fb44:5e4.5bc fb46:5e6.5bc fb47:5e7.5bc",
  "fb48:5e8.5bc fb49:5e9.5bc fb4a:5ea.5bc fb4b:5d5.5b9 fb4c:5d1.5bf fb4d:5db.5bf fb4e:5e4.5bf",
  "fb4f:5d0.5dc fb50+0:671 fb51+0:671 fb52+0:67b fb53+0:67b fb54+0:67b fb55+0:67b fb56+0:67e",
  "fb57+0:67e fb58+0:67e fb59+0:67e fb5a+0:680 fb5b+0:680 fb5c+0:680 fb5d+0:680 fb5e+0:67a",
  "fb5f+0:67a fb60+0:67a fb61+0:67a fb62+0:67f fb63+0:67f fb64+0:67f fb65+0:67f fb66+0:679",
  "fb67+0:679 fb68+0:679 fb69+0:679 fb6a+0:6a4 fb6b+0:6a4 fb6c+0:6a4 fb6d+0:6a4 fb6e+0:6a6",
  "fb6f+0:6a6 fb70+0:6a6 fb71+0:6a6 fb72+0:684 fb73+0:684 fb74+0:684 fb75+0:684 fb76+0:683",
  "fb77+0:683 fb78+0:683 fb79+0:683 fb7a+0:686 fb7b+0:686 fb7c+0:686 fb7d+1:686 fb7f+0:687",
  "fb80+0:687 fb81+0:687 fb82+0:68d fb83+0:68d fb84+0:68c fb85+0:68c fb86+0:68e fb87+0:68e",
  "fb88+0:688 fb89+0:688 fb8a+0:698 fb8b+0:698 fb8c+0:691 fb8d+0:691 fb8e+0:6a9 fb8f+0:6a9",
  "fb90+0:6a9 fb91+0:6a9 fb92+0:6af fb93+0:6af fb94+0:6af fb95+0:6af fb96+0:6b3 fb97+0:6b3",
  "fb98+0:6b3 fb99+0:6b3 fb9a+0:6b1 fb9b+0:6b1 fb9c+0:6b1 fb9d+0:6b1 fb9e+0:6ba fb9f+1:6ba",
  "fba1+0:6bb fba2+0:6bb fba3+0:6bb fba4:6d5.654 fba5:6d5.654 fba6+0:6c1 fba7+0:6c1 fba8+0:6c1",
  "fba9+0:6c1 fbaa+0:6be fbab+0:6be fbac+0:6be fbad+0:6be fbae+0:6d2 fbaf+0:6d2 fbb0:6d2.654",
  "fbb1:6d2.654 fbd3+0:6ad fbd4+0:6ad fbd5+0:6ad fbd6+0:6ad fbd7+0:6c7 fbd8+0:6c7 fbd9+0:6c6",
  "fbda+0:6c6 fbdb+0:6c8 fbdc+0:6c8 fbdd:6c7.674 fbde+0:6cb fbdf+0:6cb fbe0+0:6c5 fbe1+0:6c5",
  "fbe2+0:6c9 fbe3+0:6c9 fbe4+0:6d0 fbe5+0:6d0 fbe6+0:6d0 fbe7+0:6d0 fbe8+0:649 fbe9+0:649",
  "fbea:64a.654.627 fbeb:64a.654.627 fbec:64a.654.6d5 fbed:64a.654.6d5 fbee:64a.654.648",
  "fbef:64a.654.648 fbf0:64a.654.6c7 fbf1:64a.654.6c7 fbf2:64a.654.6c6 fbf3:64a.654.6c6",
  "fbf4:64a.654.6c8 fbf5:64a.654.6c8 fbf6:64a.654.6d0 fbf7:64a.654.6d0 fbf8:64a.654.6d0",
  "fbf9:64a.654.649 fbfa:64a.654.649 fbfb:64a.654.649 fbfc+0:6cc fbfd+0:6cc fbfe+0:6cc",
  "fbff+0:6cc fc00:64a.654.62c fc01:64a.654.62d fc02:64a.654.645 fc03:64a.654.649",
  "fc04:64a.654.64a fc05:628.62c fc06:628.62d fc07:628.62e fc08:628.645 fc09:628.649",
  "fc0a:628.64a fc0b:62a.62c fc0c:62a.62d fc0d:62a.62e fc0e:62a.645 fc0f:62a.649 fc10:62a.64a",
  "fc11:62b.62c fc12:62b.645 fc13:62b.649 fc14:62b.64a fc15:62c.62d fc16:62c.645 fc17:62d.62c",
  "fc18:62d.645 fc19:62e.62c fc1a:62e.62d fc1b:62e.645 fc1c:633.62c fc1d:633.62d fc1e:633.62e",
  "fc1f:633.645 fc20:635.62d fc21:635.645 fc22:636.62c fc23:636.62d fc24:636.62e fc25:636.645",
  "fc26:637.62d fc27:637.645 fc28:638.645 fc29:639.62c fc2a:639.645 fc2b:63a.62c fc2c:63a.645",
  "fc2d:641.62c fc2e:641.62d fc2f:641.62e fc30:641.645 fc31:641.649 fc32:641.64a fc33:642.62d",
  "fc34:642.645 fc35:642.649 fc36:642.64a fc37:643.627 fc38:643.62c fc39:643.62d fc3a:643.62e",
  "fc3b:643.644 fc3c:643.645 fc3d:643.649 fc3e:643.64a fc3f:644.62c fc40:644.62d fc41:644.62e",
  "fc42:644.645 fc43:644.649 fc44:644.64a fc45:645.62c fc46:645.62d fc47:645.62e fc48:645.645",
  "fc49:645.649 fc4a:645.64a fc4b:646.62c fc4c:646.62d fc4d:646.62e fc4e:646.645 fc4f:646.649",
  "fc50:646.64a fc51:647.62c fc52:647.645 fc53:647.649 fc54:647.64a fc55:64a.62c fc56:64a.62d",
  "fc57:64a.62e fc58:64a.645 fc59:64a.649 fc5a:64a.64a fc5b:630.670 fc5c:631.670 fc5d:649.670",
  "fc64:64a.654.631 fc65:64a.654.632 fc66:64a.654.645 fc67:64a.654.646 fc68:64a.654.649",
  "fc69:64a.654.64a fc6a:628.631 fc6b:628.632 fc6c:628.645 fc6d:628.646 fc6e:628.649",
  "fc6f:628.64a fc70:62a.631 fc71:62a.632 fc72:62a.645 fc73:62a.646 fc74:62a.649 fc75:62a.64a",
  "fc76:62b.631 fc77:62b.632 fc78:62b.645 fc79:62b.646 fc7a:62b.649 fc7b:62b.64a fc7c:641.649",
  "fc7d:641.64a fc7e:642.649 fc7f:642.64a fc80:643.627 fc81:643.644 fc82:643.645 fc83:643.649",
  "fc84:643.64a fc85:644.645 fc86:644.649 fc87:644.64a fc88:645.627 fc89:645.645 fc8a:646.631",
  "fc8b:646.632 fc8c:646.645 fc8d:646.646 fc8e:646.649 fc8f:646.64a fc90:649.670 fc91:64a.631",
  "fc92:64a.632 fc93:64a.645 fc94:64a.646 fc95:64a.649 fc96:64a.64a fc97:64a.654.62c",
  "fc98:64a.654.62d fc99:64a.654.62e fc9a:64a.654.645 fc9b:64a.654.647 fc9c:628.62c",
  "fc9d:628.62d fc9e:628.62e fc9f:628.645 fca0:628.647 fca1:62a.62c fca2:62a.62d fca3:62a.62e",
  "fca4:62a.645 fca5:62a.647 fca6:62b.645 fca7:62c.62d fca8:62c.645 fca9:62d.62c fcaa:62d.645",
  "fcab:62e.62c fcac:62e.645 fcad:633.62c fcae:633.62d fcaf:633.62e fcb0:633.645 fcb1:635.62d",
  "fcb2:635.62e fcb3:635.645 fcb4:636.62c fcb5:636.62d fcb6:636.62e fcb7:636.645 fcb8:637.62d",
  "fcb9:638.645 fcba:639.62c fcbb:639.645 fcbc:63a.62c fcbd:63a.645 fcbe:641.62c fcbf:641.62d",
  "fcc0:641.62e fcc1:641.645 fcc2:642.62d fcc3:642.645 fcc4:643.62c fcc5:643.62d fcc6:643.62e",
  "fcc7:643.644 fcc8:643.645 fcc9:644.62c fcca:644.62d fccb:644.62e fccc:644.645 fccd:644.647",
  "fcce:645.62c fccf:645.62d fcd0:645.62e fcd1:645.645 fcd2:646.62c fcd3:646.62d fcd4:646.62e",
  "fcd5:646.645 fcd6:646.647 fcd7:647.62c fcd8:647.645 fcd9:647.670 fcda:64a.62c fcdb:64a.62d",
  "fcdc:64a.62e fcdd:64a.645 fcde:64a.647 fcdf:64a.654.645 fce0:64a.654.647 fce1:628.645",
  "fce2:628.647 fce3:62a.645 fce4:62a.647 fce5:62b.645 fce6:62b.647 fce7:633.645 fce8:633.647",
  "fce9:634.645 fcea:634.647 fceb:643.644 fcec:643.645 fced:644.645 fcee:646.645 fcef:646.647",
  "fcf0:64a.645 fcf1:64a.647 fcf2:640.64e.651 fcf3:640.64f.651 fcf4:640.650.651 fcf5:637.649",
  "fcf6:637.64a fcf7:639.649 fcf8:639.64a fcf9:63a.649 fcfa:63a.64a fcfb:633.649 fcfc:633.64a",
  "fcfd:634.649 fcfe:634.64a fcff:62d.649 fd00:62d.64a fd01:62c.649 fd02:62c.64a fd03:62e.649",
  "fd04:62e.64a fd05:635.649 fd06:635.64a fd07:636.649 fd08:636.64a fd09:634.62c fd0a:634.62d",
  "fd0b:634.62e fd0c:634.645 fd0d:634.631 fd0e:633.631 fd0f:635.631 fd10:636.631 fd11:637.649",
  "fd12:637.64a fd13:639.649 fd14:639.64a fd15:63a.649 fd16:63a.64a fd17:633.649 fd18:633.64a",
  "fd19:634.649 fd1a:634.64a fd1b:62d.649 fd1c:62d.64a fd1d:62c.649 fd1e:62c.64a fd1f:62e.649",
  "fd20:62e.64a fd21:635.649 fd22:635.64a fd23:636.649 fd24:636.64a fd25:634.62c fd26:634.62d",
  "fd27:634.62e fd28:634.645 fd29:634.631 fd2a:633.631 fd2b:635.631 fd2c:636.631 fd2d:634.62c",
  "fd2e:634.62d fd2f:634.62e fd30:634.645 fd31:633.647 fd32:634.647 fd33:637.645 fd34:633.62c",
  "fd35:633.62d fd36:633.62e fd37:634.62c fd38:634.62d fd39:634.62e fd3a:637.645 fd3b:638.645",
  "fd3c:627.64b fd3d:627.64b fd50:62a.62c.645 fd51:62a.62d.62c fd52:62a.62d.62c",
  "fd53:62a.62d.645 fd54:62a.62e.645 fd55:62a.645.62c fd56:62a.645.62d fd57:62a.645.62e",
  "fd58:62c.645.62d fd59:62c.645.62d fd5a:62d.645.64a fd5b:62d.645.649 fd5c:633.62d.62c",
  "fd5d:633.62c.62d fd5e:633.62c.649 fd5f:633.645.62d fd60:633.645.62d fd61:633.645.62c",
  "fd62:633.645.645 fd63:633.645.645 fd64:635.62d.62d fd65:635.62d.62d fd66:635.645.645",
  "fd67:634.62d.645 fd68:634.62d.645 fd69:634.62c.64a fd6a:634.645.62e fd6b:634.645.62e",
  "fd6c:634.645.645 fd6d:634.645.645 fd6e:636.62d.649 fd6f:636.62e.645 fd70:636.62e.645",
  "fd71:637.645.62d fd72:637.645.62d fd73:637.645.645 fd74:637.645.64a fd75:639.62c.645",
  "fd76:639.645.645 fd77:639.645.645 fd78:639.645.649 fd79:63a.645.645 fd7a:63a.645.64a",
  "fd7b:63a.645.649 fd7c:641.62e.645 fd7d:641.62e.645 fd7e:642.645.62d fd7f:642.645.645",
  "fd80:644.62d.645 fd81:644.62d.64a fd82:644.62d.649 fd83:644.62c.62c fd84:644.62c.62c",
  "fd85:644.62e.645 fd86:644.62e.645 fd87:644.645.62d fd88:644.645.62d fd89:645.62d.62c",
  "fd8a:645.62d.645 fd8b:645.62d.64a fd8c:645.62c.62d fd8d:645.62c.645 fd8e:645.62e.62c",
  "fd8f:645.62e.645 fd92:645.62c.62e fd93:647.645.62c fd94:647.645.645 fd95:646.62d.645",
  "fd96:646.62d.649 fd97:646.62c.645 fd98:646.62c.645 fd99:646.62c.649 fd9a:646.645.64a",
  "fd9b:646.645.649 fd9c:64a.645.645 fd9d:64a.645.645 fd9e:628.62e.64a fd9f:62a.62c.64a",
  "fda0:62a.62c.649 fda1:62a.62e.64a fda2:62a.62e.649 fda3:62a.645.64a fda4:62a.645.649",
  "fda5:62c.645.64a fda6:62c.62d.649 fda7:62c.645.649 fda8:633.62e.649 fda9:635.62d.64a",
  "fdaa:634.62d.64a fdab:636.62d.64a fdac:644.62c.64a fdad:644.645.64a fdae:64a.62d.64a",
  "fdaf:64a.62c.64a fdb0:64a.645.64a fdb1:645.645.64a fdb2:642.645.64a fdb3:646.62d.64a",
  "fdb4:642.645.62d fdb5:644.62d.645 fdb6:639.645.64a fdb7:643.645.64a fdb8:646.62c.62d",
  "fdb9:645.62e.64a fdba:644.62c.645 fdbb:643.645.645 fdbc:644.62c.645 fdbd:646.62c.62d",
  "fdbe:62c.62d.64a fdbf:62d.62c.64a fdc0:645.62c.64a fdc1:641.645.64a fdc2:628.62d.64a",
  "fdc3:643.645.645 fdc4:639.62c.645 fdc5:635.645.645 fdc6:633.62e.64a fdc7:646.62c.64a",
  "fdf0:635.644.6d2 fdf1:642.644.6d2 fdf2:627.644.644.647 fdf3:627.643.628.631",
  "fdf4:645.62d.645.62f fdf5:635.644.639.645 fdf6:631.633.648.644 fdf7:639.644.64a.647",
  "fdf8:648.633.644.645 fdf9:635.644.649 fe33+0:5f fe34+0:5f fe4d+0:5f fe4e+0:5f fe4f+0:5f",
  "fe71:640.64b fe77:640.64e fe79:640.64f fe7b:640.650 fe7d:640.651 fe7f:640.652 fe80+0:621",
  "fe81:627.653 fe82:627.653 fe83:627.654 fe84:627.654 fe85:648.654 fe86:648.654 fe87:627.655",
  "fe88:627.655 fe89:64a.654 fe8a:64a.654 fe8b:64a.654 fe8c:64a.654 fe8d+0:627 fe8e+1:627",
  "fe90+0:628 fe91+0:628 fe92+1:628 fe94+1:629 fe96+0:62a fe97+0:62a fe98+1:62a fe9a+0:62b",
  "fe9b+0:62b fe9c+1:62b fe9e+0:62c fe9f+0:62c fea0+1:62c fea2+0:62d fea3+0:62d fea4+1:62d",
  "fea6+0:62e fea7+0:62e fea8+1:62e feaa+1:62f feac+1:630 feae+1:631 feb0+1:632 feb2+0:633",
  "feb3+0:633 feb4+1:633 feb6+0:634 feb7+0:634 feb8+1:634 feba+0:635 febb+0:635 febc+1:635",
  "febe+0:636 febf+0:636 fec0+1:636 fec2+0:637 fec3+0:637 fec4+1:637 fec6+0:638 fec7+0:638",
  "fec8+1:638 feca+0:639 fecb+0:639 fecc+1:639 fece+0:63a fecf+0:63a fed0+0:63a fed1+0:641",
  "fed2+0:641 fed3+0:641 fed4+1:641 fed6+0:642 fed7+0:642 fed8+1:642 feda+0:643 fedb+0:643",
  "fedc+1:643 fede+0:644 fedf+0:644 fee0+1:644 fee2+0:645 fee3+0:645 fee4+1:645 fee6+0:646",
  "fee7+0:646 fee8+1:646 feea+0:647 feeb+0:647 feec+1:647 feee+1:648 fef0+1:649 fef2+0:64a",
  "fef3+0:64a fef4+0:64a fef5:644.627.653 fef6:644.627.653 fef7:644.627.654 fef8:644.627.654",
  "fef9:644.627.655 fefa:644.627.655 fefb:644.627 fefc:644.627 ff10+9:30 ff21+19:41 ff3f+0:5f",
  "ff41+19:61 ff66+0:30f2 ff67+0:30a1 ff68+0:30a3 ff69+0:30a5 ff6a+0:30a7 ff6b+0:30a9",
  "ff6c+0:30e3 ff6d+0:30e5 ff6e+0:30e7 ff6f+0:30c3 ff70+0:30fc ff71+0:30a2 ff72+0:30a4",
  "ff73+0:30a6 ff74+0:30a8 ff75+1:30aa ff77+0:30ad ff78+0:30af ff79+0:30b1 ff7a+0:30b3",
  "ff7b+0:30b5 ff7c+0:30b7 ff7d+0:30b9 ff7e+0:30bb ff7f+0:30bd ff80+0:30bf ff81+0:30c1",
  "ff82+0:30c4 ff83+0:30c6 ff84+0:30c8 ff85+5:30ca ff8b+0:30d2 ff8c+0:30d5 ff8d+0:30d8",
  "ff8e+0:30db ff8f+4:30de ff94+0:30e4 ff95+0:30e6 ff96+5:30e8 ff9c+0:30ef ff9d+0:30f3",
  "ff9e+1:3099 ffa0+0:1160 ffa1+1:1100 ffa3+0:11aa ffa4+0:1102 ffa5+1:11ac ffa7+2:1103",
  "ffaa+5:11b0 ffb0+0:111a ffb1+2:1106 ffb4+0:1121 ffb5+9:1109 ffc2+5:1161 ffca+5:1167",
  "ffd2+5:116d ffda+2:1173 10781+1:2d0 10783+0:e6 10784+0:299 10785+0:253 10787+0:2a3",
  "10788+0:ab66 10789+0:2a5 1078a+0:2a4 1078b+1:256 1078d+0:1d91 1078e+0:258 1078f+0:25e",
  "10790+0:2a9 10791+0:264 10792+0:262 10793+0:260 10794+0:29b 10795+0:127 10796+0:29c",
  "10797+0:267 10798+0:284 10799+1:2aa 1079b+0:26c 1079c+0:1df04 1079d+0:a78e 1079e+0:26e",
  "1079f+0:1df05 107a0+0:28e 107a1+0:1df06 107a2+0:f8 107a3+1:276 107a5+0:71 107a6+0:27a",
  "107a7+0:1df08 107a8+1:27d 107aa+0:280 107ab+0:2a8 107ac+0:2a6 107ad+0:ab67 107ae+0:2a7",
  "107af+0:288 107b0+0:2c71 107b2+0:28f 107b3+1:2a1 107b5+0:298 107b6+2:1c0 107b9+0:1df0a",
  "107ba+0:1df1e 1109a:11099.110ba 1109c:1109b.110ba 110ab:110a5.110ba 1112e:11131.11127",
  "1112f:11132.11127 1134b:11347.1133e 1134c:11347.11357 114bb:114b9.114ba 114bc:114b9.114b0",
  "114be:114b9.114bd 115ba:115b8.115af 115bb:115b9.115af 11938:11935.11930 1d400+19:41",
  "1d41a+19:61 1d434+19:41 1d44e+6:61 1d456+11:69 1d468+19:41 1d482+19:61 1d49c+0:41",
  "1d49e+1:43 1d4a2+0:47 1d4a5+1:4a 1d4a9+3:4e 1d4ae+7:53 1d4b6+3:61 1d4bb+0:66 1d4bd+6:68",
  "1d4c5+a:70 1d4d0+19:41 1d4ea+19:61 1d504+1:41 1d507+3:44 1d50d+7:4a 1d516+6:53 1d51e+19:61",
  "1d538+1:41 1d53b+3:44 1d540+4:49 1d546+0:4f 1d54a+6:53 1d552+19:61 1d56c+19:41 1d586+19:61",
  "1d5a0+19:41 1d5ba+19:61 1d5d4+19:41 1d5ee+19:61 1d608+19:41 1d622+19:61 1d63c+19:41",
  "1d656+19:61 1d670+19:41 1d68a+19:61 1d6a4+0:131 1d6a5+0:237 1d6a8+10:391 1d6b9+0:398",
  "1d6ba+6:3a3 1d6c2+18:3b1 1d6dc+0:3b5 1d6dd+0:3b8 1d6de+0:3ba 1d6df+0:3c6 1d6e0+0:3c1",
  "1d6e1+0:3c0 1d6e2+10:391 1d6f3+0:398 1d6f4+6:3a3 1d6fc+18:3b1 1d716+0:3b5 1d717+0:3b8",
  "1d718+0:3ba 1d719+0:3c6 1d71a+0:3c1 1d71b+0:3c0 1d71c+10:391 1d72d+0:398 1d72e+6:3a3",
  "1d736+18:3b1 1d750+0:3b5 1d751+0:3b8 1d752+0:3ba 1d753+0:3c6 1d754+0:3c1 1d755+0:3c0",
  "1d756+10:391 1d767+0:398 1d768+6:3a3 1d770+18:3b1 1d78a+0:3b5 1d78b+0:3b8 1d78c+0:3ba",
  "1d78d+0:3c6 1d78e+0:3c1 1d78f+0:3c0 1d790+10:391 1d7a1+0:398 1d7a2+6:3a3 1d7aa+18:3b1",
  "1d7c4+0:3b5 1d7c5+0:3b8 1d7c6+0:3ba 1d7c7+0:3c6 1d7c8+0:3c1 1d7c9+0:3c0 1d7ca+1:3dc",
  "1d7ce+9:30 1d7d8+9:30 1d7e2+9:30 1d7ec+9:30 1d7f6+9:30 1ee00+1:627 1ee02+0:62c 1ee03+0:62f",
  "1ee05+0:648 1ee06+0:632 1ee07+0:62d 1ee08+0:637 1ee09+0:64a 1ee0a+3:643 1ee0e+0:633",
  "1ee0f+0:639 1ee10+0:641 1ee11+0:635 1ee12+0:642 1ee13+0:631 1ee14+0:634 1ee15+1:62a",
  "1ee17+0:62e 1ee18+0:630 1ee19+0:636 1ee1a+0:638 1ee1b+0:63a 1ee1c+0:66e 1ee1d+0:6ba",
  "1ee1e+0:6a1 1ee1f+0:66f 1ee21+0:628 1ee22+0:62c 1ee24+0:647 1ee27+0:62d 1ee29+0:64a",
  "1ee2a+3:643 1ee2e+0:633 1ee2f+0:639 1ee30+0:641 1ee31+0:635 1ee32+0:642 1ee34+0:634",
  "1ee35+1:62a 1ee37+0:62e 1ee39+0:636 1ee3b+0:63a 1ee42+0:62c 1ee47+0:62d 1ee49+0:64a",
  "1ee4b+0:644 1ee4d+0:646 1ee4e+0:633 1ee4f+0:639 1ee51+0:635 1ee52+0:642 1ee54+0:634",
  "1ee57+0:62e 1ee59+0:636 1ee5b+0:63a 1ee5d+0:6ba 1ee5f+0:66f 1ee61+0:628 1ee62+0:62c",
  "1ee64+0:647 1ee67+0:62d 1ee68+0:637 1ee69+0:64a 1ee6a+0:643 1ee6c+1:645 1ee6e+0:633",
  "1ee6f+0:639 1ee70+0:641 1ee71+0:635 1ee72+0:642 1ee74+0:634 1ee75+1:62a 1ee77+0:62e",
  "1ee79+0:636 1ee7a+0:638 1ee7b+0:63a 1ee7c+0:66e 1ee7e+0:6a1 1ee80+1:627 1ee82+0:62c",
  "1ee83+0:62f 1ee84+1:647 1ee86+0:632 1ee87+0:62d 1ee88+0:637 1ee89+0:64a 1ee8b+2:644",
  "1ee8e+0:633 1ee8f+0:639 1ee90+0:641 1ee91+0:635 1ee92+0:642 1ee93+0:631 1ee94+0:634",
  "1ee95+1:62a 1ee97+0:62e 1ee98+0:630 1ee99+0:636 1ee9a+0:638 1ee9b+0:63a 1eea1+0:628",
  "1eea2+0:62c 1eea3+0:62f 1eea5+0:648 1eea6+0:632 1eea7+0:62d 1eea8+0:637 1eea9+0:64a",
  "1eeab+2:644 1eeae+0:633 1eeaf+0:639 1eeb0+0:641 1eeb1+0:635 1eeb2+0:642 1eeb3+0:631",
  "1eeb4+0:634 1eeb5+1:62a 1eeb7+0:62e 1eeb8+0:630 1eeb9+0:636 1eeba+0:638 1eebb+0:63a",
  "1fbf0+9:30 2f800+0:4e3d 2f801+0:4e38 2f802+0:4e41 2f803+0:20122 2f804+0:4f60 2f805+0:4fae",
  "2f806+0:4fbb 2f807+0:5002 2f808+0:507a 2f809+0:5099 2f80a+0:50e7 2f80b+0:50cf 2f80c+0:349e",
  "2f80d+0:2063a 2f80e+0:514d 2f80f+0:5154 2f810+0:5164 2f811+0:5177 2f812+0:2051c",
  "2f813+0:34b9 2f814+0:5167 2f815+0:518d 2f816+0:2054b 2f817+0:5197 2f818+0:51a4 2f819+0:4ecc",
  "2f81a+0:51ac 2f81b+0:51b5 2f81c+0:291df 2f81d+0:51f5 2f81e+0:5203 2f81f+0:34df 2f820+0:523b",
  "2f821+0:5246 2f822+0:5272 2f823+0:5277 2f824+0:3515 2f825+0:52c7 2f826+0:52c9 2f827+0:52e4",
  "2f828+0:52fa 2f829+1:5305 2f82b+0:5317 2f82c+0:5349 2f82d+0:5351 2f82e+0:535a 2f82f+0:5373",
  "2f830+0:537d 2f831+0:537f 2f832+0:537f 2f833+0:537f 2f834+0:20a2c 2f835+0:7070 2f836+0:53ca",
  "2f837+0:53df 2f838+0:20b63 2f839+0:53eb 2f83a+0:53f1 2f83b+0:5406 2f83c+0:549e 2f83d+0:5438",
  "2f83e+0:5448 2f83f+0:5468 2f840+0:54a2 2f841+0:54f6 2f842+0:5510 2f843+0:5553 2f844+0:5563",
  "2f845+0:5584 2f846+0:5584 2f847+0:5599 2f848+0:55ab 2f849+0:55b3 2f84a+0:55c2 2f84b+0:5716",
  "2f84c+0:5606 2f84d+0:5717 2f84e+0:5651 2f84f+0:5674 2f850+0:5207 2f851+0:58ee 2f852+0:57ce",
  "2f853+0:57f4 2f854+0:580d 2f855+0:578b 2f856+0:5832 2f857+0:5831 2f858+0:58ac 2f859+0:214e4",
  "2f85a+0:58f2 2f85b+0:58f7 2f85c+0:5906 2f85d+0:591a 2f85e+0:5922 2f85f+0:5962 2f860+0:216a8",
  "2f861+0:216ea 2f862+0:59ec 2f863+0:5a1b 2f864+0:5a27 2f865+0:59d8 2f866+0:5a66 2f867+0:36ee",
  "2f868+0:36fc 2f869+0:5b08 2f86a+0:5b3e 2f86b+0:5b3e 2f86c+0:219c8 2f86d+0:5bc3 2f86e+0:5bd8",
  "2f86f+0:5be7 2f870+0:5bf3 2f871+0:21b18 2f872+0:5bff 2f873+0:5c06 2f874+0:5f53 2f875+0:5c22",
  "2f876+0:3781 2f877+0:5c60 2f878+0:5c6e 2f879+0:5cc0 2f87a+0:5c8d 2f87b+0:21de4 2f87c+0:5d43",
  "2f87d+0:21de6 2f87e+0:5d6e 2f87f+0:5d6b 2f880+0:5d7c 2f881+1:5de1 2f883+0:382f 2f884+0:5dfd",
  "2f885+0:5e28 2f886+0:5e3d 2f887+0:5e69 2f888+0:3862 2f889+0:22183 2f88a+0:387c 2f88b+0:5eb0",
  "2f88c+0:5eb3 2f88d+0:5eb6 2f88e+0:5eca 2f88f+0:2a392 2f890+0:5efe 2f891+0:22331",
  "2f892+0:22331 2f893+0:8201 2f894+0:5f22 2f895+0:5f22 2f896+0:38c7 2f897+0:232b8",
  "2f898+0:261da 2f899+0:5f62 2f89a+0:5f6b 2f89b+0:38e3 2f89c+0:5f9a 2f89d+0:5fcd 2f89e+0:5fd7",
  "2f89f+0:5ff9 2f8a0+0:6081 2f8a1+0:393a 2f8a2+0:391c 2f8a3+0:6094 2f8a4+0:226d4 2f8a5+0:60c7",
  "2f8a6+0:6148 2f8a7+0:614c 2f8a8+0:614e 2f8a9+0:614c 2f8aa+0:617a 2f8ab+0:618e 2f8ac+0:61b2",
  "2f8ad+0:61a4 2f8ae+0:61af 2f8af+0:61de 2f8b0+0:61f2 2f8b1+0:61f6 2f8b2+0:6210 2f8b3+0:621b",
  "2f8b4+0:625d 2f8b5+0:62b1 2f8b6+0:62d4 2f8b7+0:6350 2f8b8+0:22b0c 2f8b9+0:633d 2f8ba+0:62fc",
  "2f8bb+0:6368 2f8bc+0:6383 2f8bd+0:63e4 2f8be+0:22bf1 2f8bf+0:6422 2f8c0+0:63c5 2f8c1+0:63a9",
  "2f8c2+0:3a2e 2f8c3+0:6469 2f8c4+0:647e 2f8c5+0:649d 2f8c6+0:6477 2f8c7+0:3a6c 2f8c8+0:654f",
  "2f8c9+0:656c 2f8ca+0:2300a 2f8cb+0:65e3 2f8cc+0:66f8 2f8cd+0:6649 2f8ce+0:3b19 2f8cf+0:6691",
  "2f8d0+0:3b08 2f8d1+0:3ae4 2f8d2+0:5192 2f8d3+0:5195 2f8d4+0:6700 2f8d5+0:669c 2f8d6+0:80ad",
  "2f8d7+0:43d9 2f8d8+0:6717 2f8d9+0:671b 2f8da+0:6721 2f8db+0:675e 2f8dc+0:6753 2f8dd+0:233c3",
  "2f8de+0:3b49 2f8df+0:67fa 2f8e0+0:6785 2f8e1+0:6852 2f8e2+0:6885 2f8e3+0:2346d 2f8e4+0:688e",
  "2f8e5+0:681f 2f8e6+0:6914 2f8e7+0:3b9d 2f8e8+0:6942 2f8e9+0:69a3 2f8ea+0:69ea 2f8eb+0:6aa8",
  "2f8ec+0:236a3 2f8ed+0:6adb 2f8ee+0:3c18 2f8ef+0:6b21 2f8f0+0:238a7 2f8f1+0:6b54",
  "2f8f2+0:3c4e 2f8f3+0:6b72 2f8f4+0:6b9f 2f8f5+1:6bba 2f8f7+0:23a8d 2f8f8+0:21d0b",
  "2f8f9+0:23afa 2f8fa+0:6c4e 2f8fb+0:23cbc 2f8fc+0:6cbf 2f8fd+0:6ccd 2f8fe+0:6c67",
  "2f8ff+0:6d16 2f900+0:6d3e 2f901+0:6d77 2f902+0:6d41 2f903+0:6d69 2f904+0:6d78 2f905+0:6d85",
  "2f906+0:23d1e 2f907+0:6d34 2f908+0:6e2f 2f909+0:6e6e 2f90a+0:3d33 2f90b+0:6ecb 2f90c+0:6ec7",
  "2f90d+0:23ed1 2f90e+0:6df9 2f90f+0:6f6e 2f910+0:23f5e 2f911+0:23f8e 2f912+0:6fc6",
  "2f913+0:7039 2f914+0:701e 2f915+0:701b 2f916+0:3d96 2f917+0:704a 2f918+0:707d 2f919+0:7077",
  "2f91a+0:70ad 2f91b+0:20525 2f91c+0:7145 2f91d+0:24263 2f91e+0:719c 2f91f+0:243ab",
  "2f920+0:7228 2f921+0:7235 2f922+0:7250 2f923+0:24608 2f924+0:7280 2f925+0:7295",
  "2f926+0:24735 2f927+0:24814 2f928+0:737a 2f929+0:738b 2f92a+0:3eac 2f92b+0:73a5",
  "2f92c+0:3eb8 2f92d+0:3eb8 2f92e+0:7447 2f92f+0:745c 2f930+0:7471 2f931+0:7485 2f932+0:74ca",
  "2f933+0:3f1b 2f934+0:7524 2f935+0:24c36 2f936+0:753e 2f937+0:24c92 2f938+0:7570",
  "2f939+0:2219f 2f93a+0:7610 2f93b+0:24fa1 2f93c+0:24fb8 2f93d+0:25044 2f93e+0:3ffc",
  "2f93f+0:4008 2f940+0:76f4 2f941+0:250f3 2f942+0:250f2 2f943+0:25119 2f944+0:25133",
  "2f945+1:771e 2f947+0:771f 2f948+0:774a 2f949+0:4039 2f94a+0:778b 2f94b+0:4046 2f94c+0:4096",
  "2f94d+0:2541d 2f94e+0:784e 2f94f+0:788c 2f950+0:78cc 2f951+0:40e3 2f952+0:25626",
  "2f953+0:7956 2f954+0:2569a 2f955+0:256c5 2f956+0:798f 2f957+0:79eb 2f958+0:412f",
  "2f959+0:7a40 2f95a+0:7a4a 2f95b+0:7a4f 2f95c+0:2597c 2f95d+0:25aa7 2f95e+0:25aa7",
  "2f95f+0:7aee 2f960+0:4202 2f961+0:25bab 2f962+0:7bc6 2f963+0:7bc9 2f964+0:4227",
  "2f965+0:25c80 2f966+0:7cd2 2f967+0:42a0 2f968+0:7ce8 2f969+0:7ce3 2f96a+0:7d00",
  "2f96b+0:25f86 2f96c+0:7d63 2f96d+0:4301 2f96e+0:7dc7 2f96f+0:7e02 2f970+0:7e45 2f971+0:4334",
  "2f972+0:26228 2f973+0:26247 2f974+0:4359 2f975+0:262d9 2f976+0:7f7a 2f977+0:2633e",
  "2f978+0:7f95 2f979+0:7ffa 2f97a+0:8005 2f97b+0:264da 2f97c+0:26523 2f97d+0:8060",
  "2f97e+0:265a8 2f97f+0:8070 2f980+0:2335f 2f981+0:43d5 2f982+0:80b2 2f983+0:8103",
  "2f984+0:440b 2f985+0:813e 2f986+0:5ab5 2f987+0:267a7 2f988+0:267b5 2f989+0:23393",
  "2f98a+0:2339c 2f98b+0:8201 2f98c+0:8204 2f98d+0:8f9e 2f98e+0:446b 2f98f+0:8291 2f990+0:828b",
  "2f991+0:829d 2f992+0:52b3 2f993+0:82b1 2f994+0:82b3 2f995+0:82bd 2f996+0:82e6 2f997+0:26b3c",
  "2f998+0:82e5 2f999+0:831d 2f99a+0:8363 2f99b+0:83ad 2f99c+0:8323 2f99d+0:83bd 2f99e+0:83e7",
  "2f99f+0:8457 2f9a0+0:8353 2f9a1+0:83ca 2f9a2+0:83cc 2f9a3+0:83dc 2f9a4+0:26c36",
  "2f9a5+0:26d6b 2f9a6+0:26cd5 2f9a7+0:452b 2f9a8+0:84f1 2f9a9+0:84f3 2f9aa+0:8516",
  "2f9ab+0:273ca 2f9ac+0:8564 2f9ad+0:26f2c 2f9ae+0:455d 2f9af+0:4561 2f9b0+0:26fb1",
  "2f9b1+0:270d2 2f9b2+0:456b 2f9b3+0:8650 2f9b4+0:865c 2f9b5+0:8667 2f9b6+0:8669 2f9b7+0:86a9",
  "2f9b8+0:8688 2f9b9+0:870e 2f9ba+0:86e2 2f9bb+0:8779 2f9bc+0:8728 2f9bd+0:876b 2f9be+0:8786",
  "2f9bf+0:45d7 2f9c0+0:87e1 2f9c1+0:8801 2f9c2+0:45f9 2f9c3+0:8860 2f9c4+0:8863 2f9c5+0:27667",
  "2f9c6+0:88d7 2f9c7+0:88de 2f9c8+0:4635 2f9c9+0:88fa 2f9ca+0:34bb 2f9cb+0:278ae",
  "2f9cc+0:27966 2f9cd+0:46be 2f9ce+0:46c7 2f9cf+0:8aa0 2f9d0+0:8aed 2f9d1+0:8b8a 2f9d2+0:8c55",
  "2f9d3+0:27ca8 2f9d4+0:8cab 2f9d5+0:8cc1 2f9d6+0:8d1b 2f9d7+0:8d77 2f9d8+0:27f2f",
  "2f9d9+0:20804 2f9da+0:8dcb 2f9db+0:8dbc 2f9dc+0:8df0 2f9dd+0:208de 2f9de+0:8ed4",
  "2f9df+0:8f38 2f9e0+0:285d2 2f9e1+0:285ed 2f9e2+0:9094 2f9e3+0:90f1 2f9e4+0:9111",
  "2f9e5+0:2872e 2f9e6+0:911b 2f9e7+0:9238 2f9e8+1:92d7 2f9ea+0:927c 2f9eb+0:93f9 2f9ec+0:9415",
  "2f9ed+0:28bfa 2f9ee+0:958b 2f9ef+0:4995 2f9f0+0:95b7 2f9f1+0:28d77 2f9f2+0:49e6",
  "2f9f3+0:96c3 2f9f4+0:5db2 2f9f5+0:9723 2f9f6+0:29145 2f9f7+0:2921a 2f9f8+0:4a6e",
  "2f9f9+0:4a76 2f9fa+0:97e0 2f9fb+0:2940a 2f9fc+0:4ab2 2f9fd+0:29496 2f9fe+0:980b",
  "2f9ff+0:980b 2fa00+0:9829 2fa01+0:295b6 2fa02+0:98e2 2fa03+0:4b33 2fa04+0:9929 2fa05+0:99a7",
  "2fa06+0:99c2 2fa07+0:99fe 2fa08+0:4bce 2fa09+0:29b30 2fa0a+0:9b12 2fa0b+0:9c40 2fa0c+0:9cfd",
  "2fa0d+0:4cce 2fa0e+0:4ced 2fa0f+0:9d67 2fa10+0:2a0ce 2fa11+0:4cf8 2fa12+0:2a105",
  "2fa13+0:2a20e 2fa14+0:2a291 2fa15+0:9ebb 2fa16+0:4d56 2fa17+0:9ef9 2fa18+0:9efe",
  "2fa19+0:9f05 2fa1a+0:9f0f 2fa1b+0:9f16 2fa1c+0:9f3b 2fa1d+0:2a600"]

private def markClassText : List String := [
  "300+14:e6 315+0:e8 316+3:dc 31a+0:e8 31b+0:d8 31c+4:dc 321+1:ca 323+3:dc 327+1:ca 329+a:dc",
  "334+4:1 339+3:dc 33d+7:e6 345+0:f0 346+0:e6 347+2:dc 34a+2:e6 34d+1:dc 350+2:e6 353+3:dc",
  "357+0:e6 358+0:e8 359+1:dc 35b+0:e6 35c+0:e9 35d+1:ea 35f+0:e9 360+1:ea 362+0:e9 363+c:e6",
  "483+4:e6 591+0:dc 592+3:e6 596+0:dc 597+2:e6 59a+0:de 59b+0:dc 59c+5:e6 5a2+5:dc 5a8+1:e6",
  "5aa+0:dc 5ab+1:e6 5ad+0:de 5ae+0:e4 5af+0:e6 5b0+0:a 5b1+0:b 5b2+0:c 5b3+0:d 5b4+0:e",
  "5b5+0:f 5b6+0:10 5b7+0:11 5b8+0:12 5b9+1:13 5bb+0:14 5bc+0:15 5bd+0:16 5bf+0:17 5c1+0:18",
  "5c2+0:19 5c4+0:e6 5c5+0:dc 5c7+0:12 610+7:e6 618+0:1e 619+0:1f 61a+0:20 64b+0:1b 64c+0:1c",
  "64d+0:1d 64e+0:1e 64f+0:1f 650+0:20 651+0:21 652+0:22 653+1:e6 655+1:dc 657+4:e6 65c+0:dc",
  "65d+1:e6 65f+0:dc 670+0:23 6d6+6:e6 6df+3:e6 6e3+0:dc 6e4+0:e6 6e7+1:e6 6ea+0:dc 6eb+1:e6",
  "6ed+0:dc 711+0:24 730+0:e6 731+0:dc 732+1:e6 734+0:dc 735+1:e6 737+2:dc 73a+0:e6 73b+1:dc",
  "73d+0:e6 73e+0:dc 73f+2:e6 742+0:dc 743+0:e6 744+0:dc 745+0:e6 746+0:dc 747+0:e6 748+0:dc",
  "749+1:e6 7eb+6:e6 7f2+0:dc 7f3+0:e6 7fd+0:dc 816+3:e6 81b+8:e6 825+2:e6 829+4:e6 859+2:dc",
  "898+0:e6 899+2:dc 89c+3:e6 8ca+4:e6 8cf+4:dc 8d4+d:e6 8e3+0:dc 8e4+1:e6 8e6+0:dc 8e7+1:e6",
  "8e9+0:dc 8ea+2:e6 8ed+2:dc 8f0+0:1b 8f1+0:1c 8f2+0:1d 8f3+2:e6 8f6+0:dc 8f7+1:e6 8f9+1:dc",
  "8fb+4:e6 93c+0:7 94d+0:9 951+0:e6 952+0:dc 953+1:e6 9bc+0:7 9cd+0:9 9fe+0:e6 a3c+0:7",
  "a4d+0:9 abc+0:7 acd+0:9 b3c+0:7 b4d+0:9 bcd+0:9 c3c+0:7 c4d+0:9 c55+0:54 c56+0:5b cbc+0:7",
  "ccd+0:9 d3b+1:9 d4d+0:9 dca+0:9 e38+1:67 e3a+0:9 e48+3:6b eb8+1:76 eba+0:9 ec8+3:7a",
  "f18+1:dc f35+0:dc f37+0:dc f39+0:d8 f71+0:81 f72+0:82 f74+0:84 f7a+3:82 f80+0:82 f82+1:e6",
  "f84+0:9 f86+1:e6 fc6+0:dc 1037+0:7 1039+1:9 108d+0:dc 135d+2:e6 1714+1:9 1734+0:9 17d2+0:9",
  "17dd+0:e6 18a9+0:e4 1939+0:de 193a+0:e6 193b+0:dc 1a17+0:e6 1a18+0:dc 1a60+0:9 1a75+7:e6",
  "1a7f+0:dc 1ab0+4:e6 1ab5+5:dc 1abb+1:e6 1abd+0:dc 1abf+1:dc 1ac1+1:e6 1ac3+1:dc 1ac5+4:e6",
  "1aca+0:dc 1acb+3:e6 1b34+0:7 1b44+0:9 1b6b+0:e6 1b6c+0:dc 1b6d+6:e6 1baa+1:9 1be6+0:7",
  "1bf2+1:9 1c37+0:7 1cd0+2:e6 1cd4+0:1 1cd5+4:dc 1cda+1:e6 1cdc+3:dc 1ce0+0:e6 1ce2+6:1",
  "1ced+0:dc 1cf4+0:e6 1cf8+1:e6 1dc0+1:e6 1dc2+0:dc 1dc3+6:e6 1dca+0:dc 1dcb+1:e6 1dcd+0:ea",
  "1dce+0:d6 1dcf+0:dc 1dd0+0:ca 1dd1+24:e6 1df6+0:e8 1df7+1:e4 1df9+0:dc 1dfa+0:da 1dfb+0:e6",
  "1dfc+0:e9 1dfd+0:dc 1dfe+0:e6 1dff+0:dc 20d0+1:e6 20d2+1:1 20d4+3:e6 20d8+2:1 20db+1:e6",
  "20e1+0:e6 20e5+1:1 20e7+0:e6 20e8+0:dc 20e9+0:e6 20ea+1:1 20ec+3:dc 20f0+0:e6 2cef+2:e6",
  "2d7f+0:9 2de0+1f:e6 302a+0:da 302b+0:e4 302c+0:e8 302d+0:de 302e+1:e0 3099+1:8 a66f+0:e6",
  "a674+9:e6 a69e+1:e6 a6f0+1:e6 a806+0:9 a82c+0:9 a8c4+0:9 a8e0+11:e6 a92b+2:dc a953+0:9",
  "a9b3+0:7 a9c0+0:9 aab0+0:e6 aab2+1:e6 aab4+0:dc aab7+1:e6 aabe+1:e6 aac1+0:e6 aaf6+0:9",
  "abed+0:9 fb1e+0:1a fe20+6:e6 fe27+6:dc fe2e+1:e6 101fd+0:dc 102e0+0:dc 10376+4:e6",
  "10a0d+0:dc 10a0f+0:e6 10a38+0:e6 10a39+0:1 10a3a+0:dc 10a3f+0:9 10ae5+0:e6 10ae6+0:dc",
  "10d24+3:e6 10eab+1:e6 10f46+1:dc 10f48+2:e6 10f4b+0:dc 10f4c+0:e6 10f4d+3:dc 10f82+0:e6",
  "10f83+0:dc 10f84+0:e6 10f85+0:dc 11046+0:9 11070+0:9 1107f+0:9 110b9+0:9 110ba+0:7",
  "11100+2:e6 11133+1:9 11173+0:7 111c0+0:9 111ca+0:7 11235+0:9 11236+0:7 112e9+0:7 112ea+0:9",
  "1133b+1:7 1134d+0:9 11366+6:e6 11370+4:e6 11442+0:9 11446+0:7 1145e+0:e6 114c2+0:9",
  "114c3+0:7 115bf+0:9 115c0+0:7 1163f+0:9 116b6+0:9 116b7+0:7 1172b+0:9 11839+0:9 1183a+0:7",
  "1193d+1:9 11943+0:7 119e0+0:9 11a34+0:9 11a47+0:9 11a99+0:9 11c3f+0:9 11d42+0:7 11d44+1:9",
  "11d97+0:9 16af0+4:1 16b30+6:e6 16ff0+1:6 1bc9e+0:1 1d165+1:d8 1d167+2:1 1d16d+0:e2",
  "1d16e+4:d8 1d17b+7:dc 1d185+4:e6 1d18a+1:dc 1d1aa+3:e6 1d242+2:e6 1e000+6:e6 1e008+10:e6",
  "1e01b+6:e6 1e023+1:e6 1e026+4:e6 1e130+6:e6 1e2ae+0:e6 1e2ec+3:e6 1e8d0+6:dc 1e944+5:e6",
  "1e94a+0:7"]

private def pairsText : List String := [
  "41.300:c0 41.301:c1 41.302:c2 41.303:c3 41.308:c4 41.30a:c5 43.327:c7 45.300:c8 45.301:c9",
  "45.302:ca 45.308:cb 49.300:cc 49.301:cd 49.302:ce 49.308:cf 4e.303:d1 4f.300:d2 4f.301:d3",
  "4f.302:d4 4f.303:d5 4f.308:d6 55.300:d9 55.301:da 55.302:db 55.308:dc 59.301:dd 61.300:e0",
  "61.301:e1 61.302:e2 61.303:e3 61.308:e4 61.30a:e5 63.327:e7 65.300:e8 65.301:e9 65.302:ea",
  "65.308:eb 69.300:ec 69.301:ed 69.302:ee 69.308:ef 6e.303:f1 6f.300:f2 6f.301:f3 6f.302:f4",
  "6f.303:f5 6f.308:f6 75.300:f9 75.301:fa 75.302:fb 75.308:fc 79.301:fd 79.308:ff 41.304:100",
  "61.304:101 41.306:102 61.306:103 41.328:104 61.328:105 43.301:106 63.301:107 43.302:108",
  "63.302:109 43.307:10a 63.307:10b 43.30c:10c 63.30c:10d 44.30c:10e 64.30c:10f 45.304:112",
  "65.304:113 45.306:114 65.306:115 45.307:116 65.307:117 45.328:118 65.328:119 45.30c:11a",
  "65.30c:11b 47.302:11c 67.302:11d 47.306:11e 67.306:11f 47.307:120 67.307:121 47.327:122",
  "67.327:123 48.302:124 68.302:125 49.303:128 69.303:129 49.304:12a 69.304:12b 49.306:12c",
  "69.306:12d 49.328:12e 69.328:12f 49.307:130 4a.302:134 6a.302:135 4b.327:136 6b.327:137",
  "4c.301:139 6c.301:13a 4c.327:13b 6c.327:13c 4c.30c:13d 6c.30c:13e 4e.301:143 6e.301:144",
  "4e.327:145 6e.327:146 4e.30c:147 6e.30c:148 4f.304:14c 6f.304:14d 4f.306:14e 6f.306:14f",
  "4f.30b:150 6f.30b:151 52.301:154 72.301:155 52.327:156 72.327:157 52.30c:158 72.30c:159",
  "53.301:15a 73.301:15b 53.302:15c 73.302:15d 53.327:15e 73.327:15f 53.30c:160 73.30c:161",
  "54.327:162 74.327:163 54.30c:164 74.30c:165 55.303:168 75.303:169 55.304:16a 75.304:16b",
  "55.306:16c 75.306:16d 55.30a:16e 75.30a:16f 55.30b:170 75.30b:171 55.328:172 75.328:173",
  "57.302:174 77.302:175 59.302:176 79.302:177 59.308:178 5a.301:179 7a.301:17a 5a.307:17b",
  "7a.307:17c 5a.30c:17d 7a.30c:17e 4f.31b:1a0 6f.31b:1a1 55.31b:1af 75.31b:1b0 41.30c:1cd",
  "61.30c:1ce 49.30c:1cf 69.30c:1d0 4f.30c:1d1 6f.30c:1d2 55.30c:1d3 75.30c:1d4 dc.304:1d5",
  "fc.304:1d6 dc.301:1d7 fc.301:1d8 dc.30c:1d9 fc.30c:1da dc.300:1db fc.300:1dc c4.304:1de",
  "e4.304:1df 226.304:1e0 227.304:1e1 c6.304:1e2 e6.304:1e3 47.30c:1e6 67.30c:1e7 4b.30c:1e8",
  "6b.30c:1e9 4f.328:1ea 6f.328:1eb 1ea.304:1ec 1eb.304:1ed 1b7.30c:1ee 292.30c:1ef 6a.30c:1f0",
  "47.301:1f4 67.301:1f5 4e.300:1f8 6e.300:1f9 c5.301:1fa e5.301:1fb c6.301:1fc e6.301:1fd",
  "d8.301:1fe f8.301:1ff 41.30f:200 61.30f:201 41.311:202 61.311:203 45.30f:204 65.30f:205",
  "45.311:206 65.311:207 49.30f:208 69.30f:209 49.311:20a 69.311:20b 4f.30f:20c 6f.30f:20d",
  "4f.311:20e 6f.311:20f 52.30f:210 72.30f:211 52.311:212 72.311:213 55.30f:214 75.30f:215",
  "55.311:216 75.311:217 53.326:218 73.326:219 54.326:21a 74.326:21b 48.30c:21e 68.30c:21f",
  "41.307:226 61.307:227 45.327:228 65.327:229 d6.304:22a f6.304:22b d5.304:22c f5.304:22d",
  "4f.307:22e 6f.307:22f 22e.304:230 22f.304:231 59.304:232 79.304:233 a8.301:385 391.301:386",
  "395.301:388 397.301:389 399.301:38a 39f.301:38c 3a5.301:38e 3a9.301:38f 3ca.301:390",
  "399.308:3aa 3a5.308:3ab 3b1.301:3ac 3b5.301:3ad 3b7.301:3ae 3b9.301:3af 3cb.301:3b0",
  "3b9.308:3ca 3c5.308:3cb 3bf.301:3cc 3c5.301:3cd 3c9.301:3ce 3d2.301:3d3 3d2.308:3d4",
  "415.300:400 415.308:401 413.301:403 406.308:407 41a.301:40c 418.300:40d 423.306:40e",
  "418.306:419 438.306:439 435.300:450 435.308:451 433.301:453 456.308:457 43a.301:45c",
  "438.300:45d 443.306:45e 474.30f:476 475.30f:477 416.306:4c1 436.306:4c2 410.306:4d0",
  "430.306:4d1 410.308:4d2 430.308:4d3 415.306:4d6 435.306:4d7 4d8.308:4da 4d9.308:4db",
  "416.308:4dc 436.308:4dd 417.308:4de 437.308:4df 418.304:4e2 438.304:4e3 418.308:4e4",
  "438.308:4e5 41e.308:4e6 43e.308:4e7 4e8.308:4ea 4e9.308:4eb 42d.308:4ec 44d.308:4ed",
  "423.304:4ee 443.304:4ef 423.308:4f0 443.308:4f1 423.30b:4f2 443.30b:4f3 427.308:4f4",
  "447.308:4f5 42b.308:4f8 44b.308:4f9 627.653:622 627.654:623 648.654:624 627.655:625",
  "64a.654:626 6d5.654:6c0 6c1.654:6c2 6d2.654:6d3 928.93c:929 930.93c:931 933.93c:934",
  "9c7.9be:9cb 9c7.9d7:9cc b47.b56:b48 b47.b3e:b4b b47.b57:b4c b92.bd7:b94 bc6.bbe:bca",
  "bc7.bbe:bcb bc6.bd7:bcc c46.c56:c48 cbf.cd5:cc0 cc6.cd5:cc7 cc6.cd6:cc8 cc6.cc2:cca",
  "cca.cd5:ccb d46.d3e:d4a d47.d3e:d4b d46.d57:d4c dd9.dca:dda dd9.dcf:ddc ddc.dca:ddd",
  "dd9.ddf:dde 1025.102e:1026 1b05.1b35:1b06 1b07.1b35:1b08 1b09.1b35:1b0a 1b0b.1b35:1b0c",
  "1b0d.1b35:1b0e 1b11.1b35:1b12 1b3a.1b35:1b3b 1b3c.1b35:1b3d 1b3e.1b35:1b40 1b3f.1b35:1b41",
  "1b42.1b35:1b43 41.325:1e00 61.325:1e01 42.307:1e02 62.307:1e03 42.323:1e04 62.323:1e05",
  "42.331:1e06 62.331:1e07 c7.301:1e08 e7.301:1e09 44.307:1e0a 64.307:1e0b 44.323:1e0c",
  "64.323:1e0d 44.331:1e0e 64.331:1e0f 44.327:1e10 64.327:1e11 44.32d:1e12 64.32d:1e13",
  "112.300:1e14 113.300:1e15 112.301:1e16 113.301:1e17 45.32d:1e18 65.32d:1e19 45.330:1e1a",
  "65.330:1e1b 228.306:1e1c 229.306:1e1d 46.307:1e1e 66.307:1e1f 47.304:1e20 67.304:1e21",
  "48.307:1e22 68.307:1e23 48.323:1e24 68.323:1e25 48.308:1e26 68.308:1e27 48.327:1e28",
  "68.327:1e29 48.32e:1e2a 68.32e:1e2b 49.330:1e2c 69.330:1e2d cf.301:1e2e ef.301:1e2f",
  "4b.301:1e30 6b.301:1e31 4b.323:1e32 6b.323:1e33 4b.331:1e34 6b.331:1e35 4c.323:1e36",
  "6c.323:1e37 1e36.304:1e38 1e37.304:1e39 4c.331:1e3a 6c.331:1e3b 4c.32d:1e3c 6c.32d:1e3d",
  "4d.301:1e3e 6d.301:1e3f 4d.307:1e40 6d.307:1e41 4d.323:1e42 6d.323:1e43 4e.307:1e44",
  "6e.307:1e45 4e.323:1e46 6e.323:1e47 4e.331:1e48 6e.331:1e49 4e.32d:1e4a 6e.32d:1e4b",
  "d5.301:1e4c f5.301:1e4d d5.308:1e4e f5.308:1e4f 14c.300:1e50 14d.300:1e51 14c.301:1e52",
  "14d.301:1e53 50.301:1e54 70.301:1e55 50.307:1e56 70.307:1e57 52.307:1e58 72.307:1e59",
  "52.323:1e5a 72.323:1e5b 1e5a.304:1e5c 1e5b.304:1e5d 52.331:1e5e 72.331:1e5f 53.307:1e60",
  "73.307:1e61 53.323:1e62 73.323:1e63 15a.307:1e64 15b.307:1e65 160.307:1e66 161.307:1e67",
  "1e62.307:1e68 1e63.307:1e69 54.307:1e6a 74.307:1e6b 54.323:1e6c 74.323:1e6d 54.331:1e6e",
  "74.331:1e6f 54.32d:1e70 74.32d:1e71 55.324:1e72 75.324:1e73 55.330:1e74 75.330:1e75",
  "55.32d:1e76 75.32d:1e77 168.301:1e78 169.301:1e79 16a.308:1e7a 16b.308:1e7b 56.303:1e7c",
  "76.303:1e7d 56.323:1e7e 76.323:1e7f 57.300:1e80 77.300:1e81 57.301:1e82 77.301:1e83",
  "57.308:1e84 77.308:1e85 57.307:1e86 77.307:1e87 57.323:1e88 77.323:1e89 58.307:1e8a",
  "78.307:1e8b 58.308:1e8c 78.308:1e8d 59.307:1e8e 79.307:1e8f 5a.302:1e90 7a.302:1e91",
  "5a.323:1e92 7a.323:1e93 5a.331:1e94 7a.331:1e95 68.331:1e96 74.308:1e97 77.30a:1e98",
  "79.30a:1e99 17f.307:1e9b 41.323:1ea0 61.323:1ea1 41.309:1ea2 61.309:1ea3 c2.301:1ea4",
  "e2.301:1ea5 c2.300:1ea6 e2.300:1ea7 c2.309:1ea8 e2.309:1ea9 c2.303:1eaa e2.303:1eab",
  "1ea0.302:1eac 1ea1.302:1ead 102.301:1eae 103.301:1eaf 102.300:1eb0 103.300:1eb1",
  "102.309:1eb2 103.309:1eb3 102.303:1eb4 103.303:1eb5 1ea0.306:1eb6 1ea1.306:1eb7 45.323:1eb8",
  "65.323:1eb9 45.309:1eba 65.309:1ebb 45.303:1ebc 65.303:1ebd ca.301:1ebe ea.301:1ebf",
  "ca.300:1ec0 ea.300:1ec1 ca.309:1ec2 ea.309:1ec3 ca.303:1ec4 ea.303:1ec5 1eb8.302:1ec6",
  "1eb9.302:1ec7 49.309:1ec8 69.309:1ec9 49.323:1eca 69.323:1ecb 4f.323:1ecc 6f.323:1ecd",
  "4f.309:1ece 6f.309:1ecf d4.301:1ed0 f4.301:1ed1 d4.300:1ed2 f4.300:1ed3 d4.309:1ed4",
  "f4.309:1ed5 d4.303:1ed6 f4.303:1ed7 1ecc.302:1ed8 1ecd.302:1ed9 1a0.301:1eda 1a1.301:1edb",
  "1a0.300:1edc 1a1.300:1edd 1a0.309:1ede 1a1.309:1edf 1a0.303:1ee0 1a1.303:1ee1 1a0.323:1ee2",
  "1a1.323:1ee3 55.323:1ee4 75.323:1ee5 55.309:1ee6 75.309:1ee7 1af.301:1ee8 1b0.301:1ee9",
  "1af.300:1eea 1b0.300:1eeb 1af.309:1eec 1b0.309:1eed 1af.303:1eee 1b0.303:1eef 1af.323:1ef0",
  "1b0.323:1ef1 59.300:1ef2 79.300:1ef3 59.323:1ef4 79.323:1ef5 59.309:1ef6 79.309:1ef7",
  "59.303:1ef8 79.303:1ef9 3b1.313:1f00 3b1.314:1f01 1f00.300:1f02 1f01.300:1f03 1f00.301:1f04",
  "1f01.301:1f05 1f00.342:1f06 1f01.342:1f07 391.313:1f08 391.314:1f09 1f08.300:1f0a",
  "1f09.300:1f0b 1f08.301:1f0c 1f09.301:1f0d 1f08.342:1f0e 1f09.342:1f0f 3b5.313:1f10",
  "3b5.314:1f11 1f10.300:1f12 1f11.300:1f13 1f10.301:1f14 1f11.301:1f15 395.313:1f18",
  "395.314:1f19 1f18.300:1f1a 1f19.300:1f1b 1f18.301:1f1c 1f19.301:1f1d 3b7.313:1f20",
  "3b7.314:1f21 1f20.300:1f22 1f21.300:1f23 1f20.301:1f24 1f21.301:1f25 1f20.342:1f26",
  "1f21.342:1f27 397.313:1f28 397.314:1f29 1f28.300:1f2a 1f29.300:1f2b 1f28.301:1f2c",
  "1f29.301:1f2d 1f28.342:1f2e 1f29.342:1f2f 3b9.313:1f30 3b9.314:1f31 1f30.300:1f32",
  "1f31.300:1f33 1f30.301:1f34 1f31.301:1f35 1f30.342:1f36 1f31.342:1f37 399.313:1f38",
  "399.314:1f39 1f38.300:1f3a 1f39.300:1f3b 1f38.301:1f3c 1f39.301:1f3d 1f38.342:1f3e",
  "1f39.342:1f3f 3bf.313:1f40 3bf.314:1f41 1f40.300:1f42 1f41.300:1f43 1f40.301:1f44",
  "1f41.301:1f45 39f.313:1f48 39f.314:1f49 1f48.300:1f4a 1f49.300:1f4b 1f48.301:1f4c",
  "1f49.301:1f4d 3c5.313:1f50 3c5.314:1f51 1f50.300:1f52 1f51.300:1f53 1f50.301:1f54",
  "1f51.301:1f55 1f50.342:1f56 1f51.342:1f57 3a5.314:1f59 1f59.300:1f5b 1f59.301:1f5d",
  "1f59.342:1f5f 3c9.313:1f60 3c9.314:1f61 1f60.300:1f62 1f61.300:1f63 1f60.301:1f64",
  "1f61.301:1f65 1f60.342:1f66 1f61.342:1f67 3a9.313:1f68 3a9.314:1f69 1f68.300:1f6a",
  "1f69.300:1f6b 1f68.301:1f6c 1f69.301:1f6d 1f68.342:1f6e 1f69.342:1f6f 3b1.300:1f70",
  "3b5.300:1f72 3b7.300:1f74 3b9.300:1f76 3bf.300:1f78 3c5.300:1f7a 3c9.300:1f7c 1f00.345:1f80",
  "1f01.345:1f81 1f02.345:1f82 1f03.345:1f83 1f04.345:1f84 1f05.345:1f85 1f06.345:1f86",
  "1f07.345:1f87 1f08.345:1f88 1f09.345:1f89 1f0a.345:1f8a 1f0b.345:1f8b 1f0c.345:1f8c",
  "1f0d.345:1f8d 1f0e.345:1f8e 1f0f.345:1f8f 1f20.345:1f90 1f21.345:1f91 1f22.345:1f92",
  "1f23.345:1f93 1f24.345:1f94 1f25.345:1f95 1f26.345:1f96 1f27.345:1f97 1f28.345:1f98",
  "1f29.345:1f99 1f2a.345:1f9a 1f2b.345:1f9b 1f2c.345:1f9c 1f2d.345:1f9d 1f2e.345:1f9e",
  "1f2f.345:1f9f 1f60.345:1fa0 1f61.345:1fa1 1f62.345:1fa2 1f63.345:1fa3 1f64.345:1fa4",
  "1f65.345:1fa5 1f66.345:1fa6 1f67.345:1fa7 1f68.345:1fa8 1f69.345:1fa9 1f6a.345:1faa",
  "1f6b.345:1fab 1f6c.345:1fac 1f6d.345:1fad 1f6e.345:1fae 1f6f.345:1faf 3b1.306:1fb0",
  "3b1.304:1fb1 1f70.345:1fb2 3b1.345:1fb3 3ac.345:1fb4 3b1.342:1fb6 1fb6.345:1fb7",
  "391.306:1fb8 391.304:1fb9 391.300:1fba 391.345:1fbc a8.342:1fc1 1f74.345:1fc2 3b7.345:1fc3",
  "3ae.345:1fc4 3b7.342:1fc6 1fc6.345:1fc7 395.300:1fc8 397.300:1fca 397.345:1fcc",
  "1fbf.300:1fcd 1fbf.301:1fce 1fbf.342:1fcf 3b9.306:1fd0 3b9.304:1fd1 3ca.300:1fd2",
  "3b9.342:1fd6 3ca.342:1fd7 399.306:1fd8 399.304:1fd9 399.300:1fda 1ffe.300:1fdd",
  "1ffe.301:1fde 1ffe.342:1fdf 3c5.306:1fe0 3c5.304:1fe1 3cb.300:1fe2 3c1.313:1fe4",
  "3c1.314:1fe5 3c5.342:1fe6 3cb.342:1fe7 3a5.306:1fe8 3a5.304:1fe9 3a5.300:1fea 3a1.314:1fec",
  "a8.300:1fed 1f7c.345:1ff2 3c9.345:1ff3 3ce.345:1ff4 3c9.342:1ff6 1ff6.345:1ff7 39f.300:1ff8",
  "3a9.300:1ffa 3a9.345:1ffc 2190.338:219a 2192.338:219b 2194.338:21ae 21d0.338:21cd",
  "21d4.338:21ce 21d2.338:21cf 2203.338:2204 2208.338:2209 220b.338:220c 2223.338:2224",
  "2225.338:2226 223c.338:2241 2243.338:2244 2245.338:2247 2248.338:2249 3d.338:2260",
  "2261.338:2262 224d.338:226d 3c.338:226e 3e.338:226f 2264.338:2270 2265.338:2271",
  "2272.338:2274 2273.338:2275 2276.338:2278 2277.338:2279 227a.338:2280 227b.338:2281",
  "2282.338:2284 2283.338:2285 2286.338:2288 2287.338:2289 22a2.338:22ac 22a8.338:22ad",
  "22a9.338:22ae 22ab.338:22af 227c.338:22e0 227d.338:22e1 2291.338:22e2 2292.338:22e3",
  "22b2.338:22ea 22b3.338:22eb 22b4.338:22ec 22b5.338:22ed 304b.3099:304c 304d.3099:304e",
  "304f.3099:3050 3051.3099:3052 3053.3099:3054 3055.3099:3056 3057.3099:3058 3059.3099:305a",
  "305b.3099:305c 305d.3099:305e 305f.3099:3060 3061.3099:3062 3064.3099:3065 3066.3099:3067",
  "3068.3099:3069 306f.3099:3070 306f.309a:3071 3072.3099:3073 3072.309a:3074 3075.3099:3076",
  "3075.309a:3077 3078.3099:3079 3078.309a:307a 307b.3099:307c 307b.309a:307d 3046.3099:3094",
  "309d.3099:309e 30ab.3099:30ac 30ad.3099:30ae 30af.3099:30b0 30b1.3099:30b2 30b3.3099:30b4",
  "30b5.3099:30b6 30b7.3099:30b8 30b9.3099:30ba 30bb.3099:30bc 30bd.3099:30be 30bf.3099:30c0",
  "30c1.3099:30c2 30c4.3099:30c5 30c6.3099:30c7 30c8.3099:30c9 30cf.3099:30d0 30cf.309a:30d1",
  "30d2.3099:30d3 30d2.309a:30d4 30d5.3099:30d6 30d5.309a:30d7 30d8.3099:30d9 30d8.309a:30da",
  "30db.3099:30dc 30db.309a:30dd 30a6.3099:30f4 30ef.3099:30f7 30f0.3099:30f8 30f1.3099:30f9",
  "30f2.3099:30fa 30fd.3099:30fe 11099.110ba:1109a 1109b.110ba:1109c 110a5.110ba:110ab",
  "11131.11127:1112e 11132.11127:1112f 11347.1133e:1134b 11347.11357:1134c 114b9.114ba:114bb",
  "114b9.114b0:114bc 114b9.114bd:114be 115b8.115af:115ba 115b9.115af:115bb 11935.11930:11938"]

/-- Entries `first+more:value` of a table, for `more + 1` code points from `first` on. -/
private def entryOf (w : List Char) : Nat × Nat × List Nat :=
  match splitChar ':' w with
  | [key, value] =>
    let values := (splitChar '.' value).map hexValue
    match splitChar '+' key with
    | [a, b] => (hexValue a, hexValue b, values)
    | _ => (hexValue key, 0, values)
  | _ => (0, 0, [])

def partEntries : Array (Nat × Nat × List Nat) := ((wordsOf partsText).map entryOf).toArray

def partKeys : Array Nat := partEntries.map (·.1)

def markEntries : Array (Nat × Nat × List Nat) := ((wordsOf markClassText).map entryOf).toArray

def markKeys : Array Nat := markEntries.map (·.1)

/-- The entry of a table that covers a code point, and how far into it the code point lies. -/
def findEntry (keys : Array Nat) (entries : Array (Nat × Nat × List Nat)) (n : Nat) :
    Option (Nat × List Nat) :=
  match rank keys n with
  | 0 => none
  | i + 1 =>
    let (first, more, values) := entries.getD i (0, 0, [])
    if n ≤ first + more then some (n - first, values) else none

/-- A character taken apart as far as possible. -/
def parts (n : Nat) : List Nat :=
  if 0xAC00 ≤ n ∧ n ≤ 0xD7A3 then
    let s := n - 0xAC00
    let tail := s % 28
    [0x1100 + s / 588, 0x1161 + s % 588 / 28] ++ (if tail = 0 then [] else [0x11A7 + tail])
  else match findEntry partKeys partEntries n with
    | some (i, [v]) => [v + i]
    | some (_, v :: vs) => v :: vs
    | _ => [n]

/-- The class of a combining mark, zero for everything else. -/
def markClass (n : Nat) : Nat :=
  match findEntry markKeys markEntries n with
  | some (_, [k]) => k
  | _ => 0

/-- Puts a mark after those of its own or a lower class. -/
def insertMark (m : Nat) : List Nat → List Nat
  | [] => [m]
  | x :: xs => if markClass m < markClass x then m :: x :: xs else x :: insertMark m xs

/-- Orders each stretch of marks by class. `pending` holds the stretch before the rest. -/
def orderMarks (pending : List Nat) : List Nat → List Nat
  | [] => pending
  | n :: ns =>
    if markClass n = 0 then pending ++ n :: orderMarks [] ns
    else orderMarks (insertMark n pending) ns

def pairEntries : List ((Nat × Nat) × Nat) :=
  (wordsOf pairsText).map fun w =>
    match splitChar ':' w with
    | [key, value] =>
      match (splitChar '.' key).map hexValue with
      | [a, b] => ((a, b), hexValue value)
      | _ => ((0, 0), 0)
    | _ => ((0, 0), 0)

/-- The character that two others compose to. -/
def composePair (a b : Nat) : Option Nat :=
  if 0x1100 ≤ a ∧ a < 0x1113 ∧ 0x1161 ≤ b ∧ b < 0x1176 then
    some (0xAC00 + ((a - 0x1100) * 21 + (b - 0x1161)) * 28)
  else if 0xAC00 ≤ a ∧ a ≤ 0xD7A3 ∧ (a - 0xAC00) % 28 = 0 ∧ 0x11A7 < b ∧ b < 0x11C3 then
    some (a + (b - 0x11A7))
  else (pairEntries.find? fun e => e.1 == (a, b)).map (·.2)

/-- Composes marks with the starter before them. `kept` are the marks that did not compose, last
first; one of the same class blocks the way to the starter. -/
def composeFrom (starter : Nat) (kept : List Nat) : List Nat → List Nat
  | [] => starter :: kept.reverse
  | n :: ns =>
    let cls := markClass n
    let blocked := match kept with
      | [] => false
      | k :: _ => markClass k = 0 || cls ≤ markClass k
    match if blocked then none else composePair starter n with
    | some c => composeFrom c kept ns
    | none =>
      if cls = 0 then starter :: kept.reverse ++ composeFrom n [] ns
      else composeFrom starter (n :: kept) ns

def compose : List Nat → List Nat
  | [] => []
  | n :: ns => composeFrom n [] ns

/-- The form in which names are compared. -/
def normalName (cs : List Char) : List Char :=
  if cs.all fun c => c.toNat < 128 then cs
  else (compose (orderMarks [] (cs.flatMap fun c => parts c.toNat))).map Char.ofNat

end AwaitLint.Text
