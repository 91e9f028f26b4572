import Dispatch.Text.Ranges
import Dispatch.Text.Table

/-! Properties of code points that the rules for internationalised host names use: which code points
a label may hold, directions, joining types, marks and five scripts.
-/

namespace Dispatch.Idna

/-- Code points that a label may hold anywhere. -/
def validRanges : Ranges := Table.readRanges [
    "2d.2d 30.39 61.7a df.f6 f8.ff 101.101 103.103 105.105 107.107 109.109 10b.10b 10d.10d",
    "10f.10f 111.111 113.113 115.115 117.117 119.119 11b.11b 11d.11d 11f.11f 121.121 123.123",
    "125.125 127.127 129.129 12b.12b 12d.12d 12f.12f 131.131 135.135 137.138 13a.13a 13c.13c",
    "13e.13e 142.142 144.144 146.146 148.148 14b.14b 14d.14d 14f.14f 151.151 153.153 155.155",
    "157.157 159.159 15b.15b 15d.15d 15f.15f 161.161 163.163 165.165 167.167 169.169 16b.16b",
    "16d.16d 16f.16f 171.171 173.173 175.175 177.177 17a.17a 17c.17c 17e.17e 180.180 183.183",
    "185.185 188.188 18c.18d 192.192 195.195 199.19b 19e.19e 1a1.1a1 1a3.1a3 1a5.1a5 1a8.1a8",
    "1aa.1ab 1ad.1ad 1b0.1b0 1b4.1b4 1b6.1b6 1b9.1bb 1bd.1c3 1ce.1ce 1d0.1d0 1d2.1d2 1d4.1d4",
    "1d6.1d6 1d8.1d8 1da.1da 1dc.1dd 1df.1df 1e1.1e1 1e3.1e3 1e5.1e5 1e7.1e7 1e9.1e9 1eb.1eb",
    "1ed.1ed 1ef.1f0 1f5.1f5 1f9.1f9 1fb.1fb 1fd.1fd 1ff.1ff 201.201 203.203 205.205 207.207",
    "209.209 20b.20b 20d.20d 20f.20f 211.211 213.213 215.215 217.217 219.219 21b.21b 21d.21d",
    "21f.21f 221.221 223.223 225.225 227.227 229.229 22b.22b 22d.22d 22f.22f 231.231 233.239",
    "23c.23c 23f.240 242.242 247.247 249.249 24b.24b 24d.24d 24f.2af 2b9.2c1 2c6.2d1 2ec.2ec",
    "2ee.2ee 300.33f 342.342 346.34e 350.36f 371.371 373.373 377.377 37b.37d 390.390 3ac.3ce",
    "3d7.3d7 3d9.3d9 3db.3db 3dd.3dd 3df.3df 3e1.3e1 3e3.3e3 3e5.3e5 3e7.3e7 3e9.3e9 3eb.3eb",
    "3ed.3ed 3ef.3ef 3f3.3f3 3f8.3f8 3fb.3fc 430.45f 461.461 463.463 465.465 467.467 469.469",
    "46b.46b 46d.46d 46f.46f 471.471 473.473 475.475 477.477 479.479 47b.47b 47d.47d 47f.47f",
    "481.481 483.487 48b.48b 48d.48d 48f.48f 491.491 493.493 495.495 497.497 499.499 49b.49b",
    "49d.49d 49f.49f 4a1.4a1 4a3.4a3 4a5.4a5 4a7.4a7 4a9.4a9 4ab.4ab 4ad.4ad 4af.4af 4b1.4b1",
    "4b3.4b3 4b5.4b5 4b7.4b7 4b9.4b9 4bb.4bb 4bd.4bd 4bf.4bf 4c2.4c2 4c4.4c4 4c6.4c6 4c8.4c8",
    "4ca.4ca 4cc.4cc 4ce.4cf 4d1.4d1 4d3.4d3 4d5.4d5 4d7.4d7 4d9.4d9 4db.4db 4dd.4dd 4df.4df",
    "4e1.4e1 4e3.4e3 4e5.4e5 4e7.4e7 4e9.4e9 4eb.4eb 4ed.4ed 4ef.4ef 4f1.4f1 4f3.4f3 4f5.4f5",
    "4f7.4f7 4f9.4f9 4fb.4fb 4fd.4fd 4ff.4ff 501.501 503.503 505.505 507.507 509.509 50b.50b",
    "50d.50d 50f.50f 511.511 513.513 515.515 517.517 519.519 51b.51b 51d.51d 51f.51f 521.521",
    "523.523 525.525 527.527 529.529 52b.52b 52d.52d 52f.52f 559.559 560.586 588.588 591.5bd",
    "5bf.5bf 5c1.5c2 5c4.5c5 5c7.5c7 5d0.5ea 5ef.5f2 610.61a 620.63f 641.65f 66e.674 679.6d3",
    "6d5.6dc 6df.6e8 6ea.6ef 6fa.6ff 710.74a 74d.7b1 7c0.7f5 7fd.7fd 800.82d 840.85b 860.86a",
    "870.887 889.88f 897.8e1 8e3.957 960.963 966.96f 971.983 985.98c 98f.990 993.9a8 9aa.9b0",
    "9b2.9b2 9b6.9b9 9bc.9c4 9c7.9c8 9cb.9ce 9d7.9d7 9e0.9e3 9e6.9f1 9fc.9fc 9fe.9fe a01.a03",
    "a05.a0a a0f.a10 a13.a28 a2a.a30 a32.a32 a35.a35 a38.a39 a3c.a3c a3e.a42 a47.a48 a4b.a4d",
    "a51.a51 a5c.a5c a66.a75 a81.a83 a85.a8d a8f.a91 a93.aa8 aaa.ab0 ab2.ab3 ab5.ab9 abc.ac5",
    "ac7.ac9 acb.acd ad0.ad0 ae0.ae3 ae6.aef af9.aff b01.b03 b05.b0c b0f.b10 b13.b28 b2a.b30",
    "b32.b33 b35.b39 b3c.b44 b47.b48 b4b.b4d b55.b57 b5f.b63 b66.b6f b71.b71 b82.b83 b85.b8a",
    "b8e.b90 b92.b95 b99.b9a b9c.b9c b9e.b9f ba3.ba4 ba8.baa bae.bb9 bbe.bc2 bc6.bc8 bca.bcd",
    "bd0.bd0 bd7.bd7 be6.bef c00.c0c c0e.c10 c12.c28 c2a.c39 c3c.c44 c46.c48 c4a.c4d c55.c56",
    "c58.c5a c5c.c5d c60.c63 c66.c6f c80.c83 c85.c8c c8e.c90 c92.ca8 caa.cb3 cb5.cb9 cbc.cc4",
    "cc6.cc8 cca.ccd cd5.cd6 cdc.cde ce0.ce3 ce6.cef cf1.cf3 d00.d0c d0e.d10 d12.d44 d46.d48",
    "d4a.d4e d54.d57 d5f.d63 d66.d6f d7a.d7f d81.d83 d85.d96 d9a.db1 db3.dbb dbd.dbd dc0.dc6",
    "dca.dca dcf.dd4 dd6.dd6 dd8.ddf de6.def df2.df3 e01.e32 e34.e3a e40.e4e e50.e59 e81.e82",
    "e84.e84 e86.e8a e8c.ea3 ea5.ea5 ea7.eb2 eb4.ebd ec0.ec4 ec6.ec6 ec8.ece ed0.ed9 ede.edf",
    "f00.f00 f0b.f0b f18.f19 f20.f29 f35.f35 f37.f37 f39.f39 f3e.f42 f44.f47 f49.f4c f4e.f51",
    "f53.f56 f58.f5b f5d.f68 f6a.f6c f71.f72 f74.f74 f7a.f80 f82.f84 f86.f92 f94.f97 f99.f9c",
    "f9e.fa1 fa3.fa6 fa8.fab fad.fb8 fba.fbc fc6.fc6 1000.1049 1050.109d 10d0.10fa 10fd.10ff",
    "1200.1248 124a.124d 1250.1256 1258.1258 125a.125d 1260.1288 128a.128d 1290.12b0 12b2.12b5",
    "12b8.12be 12c0.12c0 12c2.12c5 12c8.12d6 12d8.1310 1312.1315 1318.135a 135d.135f 1380.138f",
    "13a0.13f5 1401.166c 166f.167f 1681.169a 16a0.16ea 16f1.16f8 1700.1715 171f.1734 1740.1753",
    "1760.176c 176e.1770 1772.1773 1780.17b3 17b6.17d3 17d7.17d7 17dc.17dd 17e0.17e9 1810.1819",
    "1820.1878 1880.18aa 18b0.18f5 1900.191e 1920.192b 1930.193b 1946.196d 1970.1974 1980.19ab",
    "19b0.19c9 19d0.19d9 1a00.1a1b 1a20.1a5e 1a60.1a7c 1a7f.1a89 1a90.1a99 1aa7.1aa7 1ab0.1abd",
    "1abf.1add 1ae0.1aeb 1b00.1b4c 1b50.1b59 1b6b.1b73 1b80.1bf3 1c00.1c37 1c40.1c49 1c4d.1c7d",
    "1c8a.1c8a 1cd0.1cd2 1cd4.1cfa 1d00.1d2b 1d2f.1d2f 1d3b.1d3b 1d4e.1d4e 1d6b.1d77 1d79.1d9a",
    "1dc0.1dff 1e01.1e01 1e03.1e03 1e05.1e05 1e07.1e07 1e09.1e09 1e0b.1e0b 1e0d.1e0d 1e0f.1e0f",
    "1e11.1e11 1e13.1e13 1e15.1e15 1e17.1e17 1e19.1e19 1e1b.1e1b 1e1d.1e1d 1e1f.1e1f 1e21.1e21",
    "1e23.1e23 1e25.1e25 1e27.1e27 1e29.1e29 1e2b.1e2b 1e2d.1e2d 1e2f.1e2f 1e31.1e31 1e33.1e33",
    "1e35.1e35 1e37.1e37 1e39.1e39 1e3b.1e3b 1e3d.1e3d 1e3f.1e3f 1e41.1e41 1e43.1e43 1e45.1e45",
    "1e47.1e47 1e49.1e49 1e4b.1e4b 1e4d.1e4d 1e4f.1e4f 1e51.1e51 1e53.1e53 1e55.1e55 1e57.1e57",
    "1e59.1e59 1e5b.1e5b 1e5d.1e5d 1e5f.1e5f 1e61.1e61 1e63.1e63 1e65.1e65 1e67.1e67 1e69.1e69",
    "1e6b.1e6b 1e6d.1e6d 1e6f.1e6f 1e71.1e71 1e73.1e73 1e75.1e75 1e77.1e77 1e79.1e79 1e7b.1e7b",
    "1e7d.1e7d 1e7f.1e7f 1e81.1e81 1e83.1e83 1e85.1e85 1e87.1e87 1e89.1e89 1e8b.1e8b 1e8d.1e8d",
    "1e8f.1e8f 1e91.1e91 1e93.1e93 1e95.1e99 1e9c.1e9d 1e9f.1e9f 1ea1.1ea1 1ea3.1ea3 1ea5.1ea5",
    "1ea7.1ea7 1ea9.1ea9 1eab.1eab 1ead.1ead 1eaf.1eaf 1eb1.1eb1 1eb3.1eb3 1eb5.1eb5 1eb7.1eb7",
    "1eb9.1eb9 1ebb.1ebb 1ebd.1ebd 1ebf.1ebf 1ec1.1ec1 1ec3.1ec3 1ec5.1ec5 1ec7.1ec7 1ec9.1ec9",
    "1ecb.1ecb 1ecd.1ecd 1ecf.1ecf 1ed1.1ed1 1ed3.1ed3 1ed5.1ed5 1ed7.1ed7 1ed9.1ed9 1edb.1edb",
    "1edd.1edd 1edf.1edf 1ee1.1ee1 1ee3.1ee3 1ee5.1ee5 1ee7.1ee7 1ee9.1ee9 1eeb.1eeb 1eed.1eed",
    "1eef.1eef 1ef1.1ef1 1ef3.1ef3 1ef5.1ef5 1ef7.1ef7 1ef9.1ef9 1efb.1efb 1efd.1efd 1eff.1f07",
    "1f10.1f15 1f20.1f27 1f30.1f37 1f40.1f45 1f50.1f57 1f60.1f67 1f70.1f70 1f72.1f72 1f74.1f74",
    "1f76.1f76 1f78.1f78 1f7a.1f7a 1f7c.1f7c 1fb0.1fb1 1fb6.1fb6 1fc6.1fc6 1fd0.1fd2 1fd6.1fd7",
    "1fe0.1fe2 1fe4.1fe7 1ff6.1ff6 214e.214e 2184.2184 2c30.2c5f 2c61.2c61 2c65.2c66 2c68.2c68",
    "2c6a.2c6a 2c6c.2c6c 2c71.2c71 2c73.2c74 2c76.2c7b 2c81.2c81 2c83.2c83 2c85.2c85 2c87.2c87",
    "2c89.2c89 2c8b.2c8b 2c8d.2c8d 2c8f.2c8f 2c91.2c91 2c93.2c93 2c95.2c95 2c97.2c97 2c99.2c99",
    "2c9b.2c9b 2c9d.2c9d 2c9f.2c9f 2ca1.2ca1 2ca3.2ca3 2ca5.2ca5 2ca7.2ca7 2ca9.2ca9 2cab.2cab",
    "2cad.2cad 2caf.2caf 2cb1.2cb1 2cb3.2cb3 2cb5.2cb5 2cb7.2cb7 2cb9.2cb9 2cbb.2cbb 2cbd.2cbd",
    "2cbf.2cbf 2cc1.2cc1 2cc3.2cc3 2cc5.2cc5 2cc7.2cc7 2cc9.2cc9 2ccb.2ccb 2ccd.2ccd 2ccf.2ccf",
    "2cd1.2cd1 2cd3.2cd3 2cd5.2cd5 2cd7.2cd7 2cd9.2cd9 2cdb.2cdb 2cdd.2cdd 2cdf.2cdf 2ce1.2ce1",
    "2ce3.2ce4 2cec.2cec 2cee.2cf1 2cf3.2cf3 2d00.2d25 2d27.2d27 2d2d.2d2d 2d30.2d67 2d7f.2d96",
    "2da0.2da6 2da8.2dae 2db0.2db6 2db8.2dbe 2dc0.2dc6 2dc8.2dce 2dd0.2dd6 2dd8.2dde 2de0.2dff",
    "2e2f.2e2f 3005.3007 302a.302d 303c.303c 3041.3096 3099.309a 309d.309e 30a1.30fa 30fc.30fe",
    "3105.312f 31a0.31bf 31f0.31ff 3400.4dbf 4e00.a48c a4d0.a4fd a500.a60c a610.a62b a641.a641",
    "a643.a643 a645.a645 a647.a647 a649.a649 a64b.a64b a64d.a64d a64f.a64f a651.a651 a653.a653",
    "a655.a655 a657.a657 a659.a659 a65b.a65b a65d.a65d a65f.a65f a661.a661 a663.a663 a665.a665",
    "a667.a667 a669.a669 a66b.a66b a66d.a66f a674.a67d a67f.a67f a681.a681 a683.a683 a685.a685",
    "a687.a687 a689.a689 a68b.a68b a68d.a68d a68f.a68f a691.a691 a693.a693 a695.a695 a697.a697",
    "a699.a699 a69b.a69b a69e.a6e5 a6f0.a6f1 a717.a71f a723.a723 a725.a725 a727.a727 a729.a729",
    "a72b.a72b a72d.a72d a72f.a731 a733.a733 a735.a735 a737.a737 a739.a739 a73b.a73b a73d.a73d",
    "a73f.a73f a741.a741 a743.a743 a745.a745 a747.a747 a749.a749 a74b.a74b a74d.a74d a74f.a74f",
    "a751.a751 a753.a753 a755.a755 a757.a757 a759.a759 a75b.a75b a75d.a75d a75f.a75f a761.a761",
    "a763.a763 a765.a765 a767.a767 a769.a769 a76b.a76b a76d.a76d a76f.a76f a771.a778 a77a.a77a",
    "a77c.a77c a77f.a77f a781.a781 a783.a783 a785.a785 a787.a788 a78c.a78c a78e.a78f a791.a791",
    "a793.a795 a797.a797 a799.a799 a79b.a79b a79d.a79d a79f.a79f a7a1.a7a1 a7a3.a7a3 a7a5.a7a5",
    "a7a7.a7a7 a7a9.a7a9 a7af.a7af a7b5.a7b5 a7b7.a7b7 a7b9.a7b9 a7bb.a7bb a7bd.a7bd a7bf.a7bf",
    "a7c1.a7c1 a7c3.a7c3 a7c8.a7c8 a7ca.a7ca a7cd.a7cd a7cf.a7cf a7d1.a7d1 a7d3.a7d3 a7d5.a7d5",
    "a7d7.a7d7 a7d9.a7d9 a7db.a7db a7f6.a7f7 a7fa.a827 a82c.a82c a840.a873 a880.a8c5 a8d0.a8d9",
    "a8e0.a8f7 a8fb.a8fb a8fd.a92d a930.a953 a980.a9c0 a9cf.a9d9 a9e0.a9fe aa00.aa36 aa40.aa4d",
    "aa50.aa59 aa60.aa76 aa7a.aac2 aadb.aadd aae0.aaef aaf2.aaf6 ab01.ab06 ab09.ab0e ab11.ab16",
    "ab20.ab26 ab28.ab2e ab30.ab5a ab60.ab68 abc0.abea abec.abed abf0.abf9 ac00.d7a3 fa0e.fa0f",
    "fa11.fa11 fa13.fa14 fa1f.fa1f fa21.fa21 fa23.fa24 fa27.fa29 fb1e.fb1e fe20.fe2f fe73.fe73",
    "10000.1000b 1000d.10026 10028.1003a 1003c.1003d 1003f.1004d 10050.1005d 10080.100fa",
    "101fd.101fd 10280.1029c 102a0.102d0 102e0.102e0 10300.1031f 1032d.10340 10342.10349",
    "10350.1037a 10380.1039d 103a0.103c3 103c8.103cf 10428.1049d 104a0.104a9 104d8.104fb",
    "10500.10527 10530.10563 10597.105a1 105a3.105b1 105b3.105b9 105bb.105bc 105c0.105f3",
    "10600.10736 10740.10755 10760.10767 10780.10780 10800.10805 10808.10808 1080a.10835",
    "10837.10838 1083c.1083c 1083f.10855 10860.10876 10880.1089e 108e0.108f2 108f4.108f5",
    "10900.10915 10920.10939 10940.10959 10980.109b7 109be.109bf 10a00.10a03 10a05.10a06",
    "10a0c.10a13 10a15.10a17 10a19.10a35 10a38.10a3a 10a3f.10a3f 10a60.10a7c 10a80.10a9c",
    "10ac0.10ac7 10ac9.10ae6 10b00.10b35 10b40.10b55 10b60.10b72 10b80.10b91 10c00.10c48",
    "10cc0.10cf2 10d00.10d27 10d30.10d39 10d40.10d4f 10d69.10d6d 10d6f.10d85 10e80.10ea9",
    "10eab.10eac 10eb0.10eb1 10ec2.10ec7 10efa.10f1c 10f27.10f27 10f30.10f50 10f70.10f85",
    "10fb0.10fc4 10fe0.10ff6 11000.11046 11066.11075 1107f.110ba 110c2.110c2 110d0.110e8",
    "110f0.110f9 11100.11134 11136.1113f 11144.11147 11150.11173 11176.11176 11180.111c4",
    "111c9.111cc 111ce.111da 111dc.111dc 11200.11211 11213.11237 1123e.11241 11280.11286",
    "11288.11288 1128a.1128d 1128f.1129d 1129f.112a8 112b0.112ea 112f0.112f9 11300.11303",
    "11305.1130c 1130f.11310 11313.11328 1132a.11330 11332.11333 11335.11339 1133b.11344",
    "11347.11348 1134b.1134d 11350.11350 11357.11357 1135d.11363 11366.1136c 11370.11374",
    "11380.11389 1138b.1138b 1138e.1138e 11390.113b5 113b7.113c0 113c2.113c2 113c5.113c5",
    "113c7.113ca 113cc.113d3 113e1.113e2 11400.1144a 11450.11459 1145e.11461 11480.114c5",
    "114c7.114c7 114d0.114d9 11580.115b5 115b8.115c0 115d8.115dd 11600.11640 11644.11644",
    "11650.11659 11680.116b8 116c0.116c9 116d0.116e3 11700.1171a 1171d.1172b 11730.11739",
    "11740.11746 11800.1183a 118c0.118e9 118ff.11906 11909.11909 1190c.11913 11915.11916",
    "11918.11935 11937.11938 1193b.11943 11950.11959 119a0.119a7 119aa.119d7 119da.119e1",
    "119e3.119e4 11a00.11a3e 11a47.11a47 11a50.11a99 11a9d.11a9d 11ab0.11af8 11b60.11b67",
    "11bc0.11be0 11bf0.11bf9 11c00.11c08 11c0a.11c36 11c38.11c40 11c50.11c59 11c72.11c8f",
    "11c92.11ca7 11ca9.11cb6 11d00.11d06 11d08.11d09 11d0b.11d36 11d3a.11d3a 11d3c.11d3d",
    "11d3f.11d47 11d50.11d59 11d60.11d65 11d67.11d68 11d6a.11d8e 11d90.11d91 11d93.11d98",
    "11da0.11da9 11db0.11ddb 11de0.11de9 11ee0.11ef6 11f00.11f10 11f12.11f3a 11f3e.11f42",
    "11f50.11f5a 11fb0.11fb0 12000.12399 12480.12543 12f90.12ff0 13000.1342f 13440.13455",
    "13460.143fa 14400.14646 16100.16139 16800.16a38 16a40.16a5e 16a60.16a69 16a70.16abe",
    "16ac0.16ac9 16ad0.16aed 16af0.16af4 16b00.16b36 16b40.16b43 16b50.16b59 16b63.16b77",
    "16b7d.16b8f 16d40.16d6c 16d70.16d79 16e60.16e7f 16ebb.16ed3 16f00.16f4a 16f4f.16f87",
    "16f8f.16f9f 16fe0.16fe1 16fe3.16fe4 16ff0.16ff3 17000.18cd5 18cff.18d1e 18d80.18df2",
    "1aff0.1aff3 1aff5.1affb 1affd.1affe 1b000.1b122 1b132.1b132 1b150.1b152 1b155.1b155",
    "1b164.1b167 1b170.1b2fb 1bc00.1bc6a 1bc70.1bc7c 1bc80.1bc88 1bc90.1bc99 1bc9d.1bc9e",
    "1cf00.1cf2d 1cf30.1cf46 1da00.1da36 1da3b.1da6c 1da75.1da75 1da84.1da84 1da9b.1da9f",
    "1daa1.1daaf 1df00.1df1e 1df25.1df2a 1e000.1e006 1e008.1e018 1e01b.1e021 1e023.1e024",
    "1e026.1e02a 1e08f.1e08f 1e100.1e12c 1e130.1e13d 1e140.1e149 1e14e.1e14e 1e290.1e2ae",
    "1e2c0.1e2f9 1e4d0.1e4f9 1e5d0.1e5fa 1e6c0.1e6de 1e6e0.1e6f5 1e6fe.1e6ff 1e7e0.1e7e6",
    "1e7e8.1e7eb 1e7ed.1e7ee 1e7f0.1e7fe 1e800.1e8c4 1e8d0.1e8d6 1e922.1e94b 1e950.1e959",
    "20000.2a6df 2a700.2b81d 2b820.2cead 2ceb0.2ebe0 2ebf0.2ee5d 30000.3134a 31350.33479"]

/-- Joiners, allowed in some surroundings only. -/
def joinerRanges : Ranges := [
  (0x200c, 0x200d)]

/-- Other code points that are allowed in some surroundings only. -/
def contextRanges : Ranges := [
  (0xb7, 0xb7), (0x375, 0x375), (0x5f3, 0x5f4), (0x660, 0x669), (0x6f0, 0x6f9), (0x30fb, 0x30fb)]

/-- Combining marks, which a label may not start with. -/
def markRanges : Ranges := Table.readRanges [
    "300.36f 483.489 591.5bd 5bf.5bf 5c1.5c2 5c4.5c5 5c7.5c7 610.61a 64b.65f 670.670 6d6.6dc",
    "6df.6e4 6e7.6e8 6ea.6ed 711.711 730.74a 7a6.7b0 7eb.7f3 7fd.7fd 816.819 81b.823 825.827",
    "829.82d 859.85b 898.89f 8ca.8e1 8e3.903 93a.93c 93e.94f 951.957 962.963 981.983 9bc.9bc",
    "9be.9c4 9c7.9c8 9cb.9cd 9d7.9d7 9e2.9e3 9fe.9fe a01.a03 a3c.a3c a3e.a42 a47.a48 a4b.a4d",
    "a51.a51 a70.a71 a75.a75 a81.a83 abc.abc abe.ac5 ac7.ac9 acb.acd ae2.ae3 afa.aff b01.b03",
    "b3c.b3c b3e.b44 b47.b48 b4b.b4d b55.b57 b62.b63 b82.b82 bbe.bc2 bc6.bc8 bca.bcd bd7.bd7",
    "c00.c04 c3c.c3c c3e.c44 c46.c48 c4a.c4d c55.c56 c62.c63 c81.c83 cbc.cbc cbe.cc4 cc6.cc8",
    "cca.ccd cd5.cd6 ce2.ce3 d00.d03 d3b.d3c d3e.d44 d46.d48 d4a.d4d d57.d57 d62.d63 d81.d83",
    "dca.dca dcf.dd4 dd6.dd6 dd8.ddf df2.df3 e31.e31 e34.e3a e47.e4e eb1.eb1 eb4.ebc ec8.ecd",
    "f18.f19 f35.f35 f37.f37 f39.f39 f3e.f3f f71.f84 f86.f87 f8d.f97 f99.fbc fc6.fc6 102b.103e",
    "1056.1059 105e.1060 1062.1064 1067.106d 1071.1074 1082.108d 108f.108f 109a.109d 135d.135f",
    "1712.1715 1732.1734 1752.1753 1772.1773 17b4.17d3 17dd.17dd 180b.180d 180f.180f 1885.1886",
    "18a9.18a9 1920.192b 1930.193b 1a17.1a1b 1a55.1a5e 1a60.1a7c 1a7f.1a7f 1ab0.1ace 1b00.1b04",
    "1b34.1b44 1b6b.1b73 1b80.1b82 1ba1.1bad 1be6.1bf3 1c24.1c37 1cd0.1cd2 1cd4.1ce8 1ced.1ced",
    "1cf4.1cf4 1cf7.1cf9 1dc0.1dff 20d0.20f0 2cef.2cf1 2d7f.2d7f 2de0.2dff 302a.302f 3099.309a",
    "a66f.a672 a674.a67d a69e.a69f a6f0.a6f1 a802.a802 a806.a806 a80b.a80b a823.a827 a82c.a82c",
    "a880.a881 a8b4.a8c5 a8e0.a8f1 a8ff.a8ff a926.a92d a947.a953 a980.a983 a9b3.a9c0 a9e5.a9e5",
    "aa29.aa36 aa43.aa43 aa4c.aa4d aa7b.aa7d aab0.aab0 aab2.aab4 aab7.aab8 aabe.aabf aac1.aac1",
    "aaeb.aaef aaf5.aaf6 abe3.abea abec.abed fb1e.fb1e fe00.fe0f fe20.fe2f 101fd.101fd",
    "102e0.102e0 10376.1037a 10a01.10a03 10a05.10a06 10a0c.10a0f 10a38.10a3a 10a3f.10a3f",
    "10ae5.10ae6 10d24.10d27 10eab.10eac 10f46.10f50 10f82.10f85 11000.11002 11038.11046",
    "11070.11070 11073.11074 1107f.11082 110b0.110ba 110c2.110c2 11100.11102 11127.11134",
    "11145.11146 11173.11173 11180.11182 111b3.111c0 111c9.111cc 111ce.111cf 1122c.11237",
    "1123e.1123e 112df.112ea 11300.11303 1133b.1133c 1133e.11344 11347.11348 1134b.1134d",
    "11357.11357 11362.11363 11366.1136c 11370.11374 11435.11446 1145e.1145e 114b0.114c3",
    "115af.115b5 115b8.115c0 115dc.115dd 11630.11640 116ab.116b7 1171d.1172b 1182c.1183a",
    "11930.11935 11937.11938 1193b.1193e 11940.11940 11942.11943 119d1.119d7 119da.119e0",
    "119e4.119e4 11a01.11a0a 11a33.11a39 11a3b.11a3e 11a47.11a47 11a51.11a5b 11a8a.11a99",
    "11c2f.11c36 11c38.11c3f 11c92.11ca7 11ca9.11cb6 11d31.11d36 11d3a.11d3a 11d3c.11d3d",
    "11d3f.11d45 11d47.11d47 11d8a.11d8e 11d90.11d91 11d93.11d97 11ef3.11ef6 16af0.16af4",
    "16b30.16b36 16f4f.16f4f 16f51.16f87 16f8f.16f92 16fe4.16fe4 16ff0.16ff1 1bc9d.1bc9e",
    "1cf00.1cf2d 1cf30.1cf46 1d165.1d169 1d16d.1d172 1d17b.1d182 1d185.1d18b 1d1aa.1d1ad",
    "1d242.1d244 1da00.1da36 1da3b.1da6c 1da75.1da75 1da84.1da84 1da9b.1da9f 1daa1.1daaf",
    "1e000.1e006 1e008.1e018 1e01b.1e021 1e023.1e024 1e026.1e02a 1e130.1e136 1e2ae.1e2ae",
    "1e2ec.1e2ef 1e8d0.1e8d6 1e944.1e94a e0100.e01ef"]

/-- Directions of code points: 0 left to right, 1 right to left, 2 Arabic letter, 3 Arabic number,
4 European number, 5 to 7 separators and terminators, 8 neutral, 9 boundary neutral, 10
nonspacing mark, 11 any other. -/
def directionData : List (Nat × Nat × Nat) := Table.readClasses [
    "0.8.9 9.d.b e.1b.9 1c.20.b 21.22.8 23.25.7 26.2a.8 2b.2b.5 2c.2c.6 2d.2d.5 2e.2f.6 30.39.4",
    "3a.3a.6 3b.40.8 41.5a.0 5b.60.8 61.7a.0 7b.7e.8 7f.84.9 85.85.b 86.9f.9 a0.a0.6 a1.a1.8",
    "a2.a5.7 a6.a9.8 aa.aa.0 ab.ac.8 ad.ad.9 ae.af.8 b0.b1.7 b2.b3.4 b4.b4.8 b5.b5.0 b6.b8.8",
    "b9.b9.4 ba.ba.0 bb.bf.8 c0.d6.0 d7.d7.8 d8.f6.0 f7.f7.8 f8.2b8.0 2b9.2ba.8 2bb.2c1.0",
    "2c2.2cf.8 2d0.2d1.0 2d2.2df.8 2e0.2e4.0 2e5.2ed.8 2ee.2ee.0 2ef.2ff.8 300.36f.a 370.373.0",
    "374.375.8 376.377.0 37a.37d.0 37e.37e.8 37f.37f.0 384.385.8 386.386.0 387.387.8 388.38a.0",
    "38c.38c.0 38e.3a1.0 3a3.3f5.0 3f6.3f6.8 3f7.482.0 483.489.a 48a.52f.0 531.556.0 559.589.0",
    "58a.58a.8 58d.58e.8 58f.58f.7 591.5bd.a 5be.5be.1 5bf.5bf.a 5c0.5c0.1 5c1.5c2.a 5c3.5c3.1",
    "5c4.5c5.a 5c6.5c6.1 5c7.5c7.a 5d0.5ea.1 5ef.5f4.1 600.605.3 606.607.8 608.608.2 609.60a.7",
    "60b.60b.2 60c.60c.6 60d.60d.2 60e.60f.8 610.61a.a 61b.64a.2 64b.65f.a 660.669.3 66a.66a.7",
    "66b.66c.3 66d.66f.2 670.670.a 671.6d5.2 6d6.6dc.a 6dd.6dd.3 6de.6de.8 6df.6e4.a 6e5.6e6.2",
    "6e7.6e8.a 6e9.6e9.8 6ea.6ed.a 6ee.6ef.2 6f0.6f9.4 6fa.70d.2 70f.710.2 711.711.a 712.72f.2",
    "730.74a.a 74d.7a5.2 7a6.7b0.a 7b1.7b1.2 7c0.7ea.1 7eb.7f3.a 7f4.7f5.1 7f6.7f9.8 7fa.7fa.1",
    "7fd.7fd.a 7fe.815.1 816.819.a 81a.81a.1 81b.823.a 824.824.1 825.827.a 828.828.1 829.82d.a",
    "830.83e.1 840.858.1 859.85b.a 85e.85e.1 860.86a.2 870.88e.2 890.891.3 898.89f.a 8a0.8c9.2",
    "8ca.8e1.a 8e2.8e2.3 8e3.902.a 903.939.0 93a.93a.a 93b.93b.0 93c.93c.a 93d.940.0 941.948.a",
    "949.94c.0 94d.94d.a 94e.950.0 951.957.a 958.961.0 962.963.a 964.980.0 981.981.a 982.983.0",
    "985.98c.0 98f.990.0 993.9a8.0 9aa.9b0.0 9b2.9b2.0 9b6.9b9.0 9bc.9bc.a 9bd.9c0.0 9c1.9c4.a",
    "9c7.9c8.0 9cb.9cc.0 9cd.9cd.a 9ce.9ce.0 9d7.9d7.0 9dc.9dd.0 9df.9e1.0 9e2.9e3.a 9e6.9f1.0",
    "9f2.9f3.7 9f4.9fa.0 9fb.9fb.7 9fc.9fd.0 9fe.9fe.a a01.a02.a a03.a03.0 a05.a0a.0 a0f.a10.0",
    "a13.a28.0 a2a.a30.0 a32.a33.0 a35.a36.0 a38.a39.0 a3c.a3c.a a3e.a40.0 a41.a42.a a47.a48.a",
    "a4b.a4d.a a51.a51.a a59.a5c.0 a5e.a5e.0 a66.a6f.0 a70.a71.a a72.a74.0 a75.a75.a a76.a76.0",
    "a81.a82.a a83.a83.0 a85.a8d.0 a8f.a91.0 a93.aa8.0 aaa.ab0.0 ab2.ab3.0 ab5.ab9.0 abc.abc.a",
    "abd.ac0.0 ac1.ac5.a ac7.ac8.a ac9.ac9.0 acb.acc.0 acd.acd.a ad0.ad0.0 ae0.ae1.0 ae2.ae3.a",
    "ae6.af0.0 af1.af1.7 af9.af9.0 afa.aff.a b01.b01.a b02.b03.0 b05.b0c.0 b0f.b10.0 b13.b28.0",
    "b2a.b30.0 b32.b33.0 b35.b39.0 b3c.b3c.a b3d.b3e.0 b3f.b3f.a b40.b40.0 b41.b44.a b47.b48.0",
    "b4b.b4c.0 b4d.b4d.a b55.b56.a b57.b57.0 b5c.b5d.0 b5f.b61.0 b62.b63.a b66.b77.0 b82.b82.a",
    "b83.b83.0 b85.b8a.0 b8e.b90.0 b92.b95.0 b99.b9a.0 b9c.b9c.0 b9e.b9f.0 ba3.ba4.0 ba8.baa.0",
    "bae.bb9.0 bbe.bbf.0 bc0.bc0.a bc1.bc2.0 bc6.bc8.0 bca.bcc.0 bcd.bcd.a bd0.bd0.0 bd7.bd7.0",
    "be6.bf2.0 bf3.bf8.8 bf9.bf9.7 bfa.bfa.8 c00.c00.a c01.c03.0 c04.c04.a c05.c0c.0 c0e.c10.0",
    "c12.c28.0 c2a.c39.0 c3c.c3c.a c3d.c3d.0 c3e.c40.a c41.c44.0 c46.c48.a c4a.c4d.a c55.c56.a",
    "c58.c5a.0 c5d.c5d.0 c60.c61.0 c62.c63.a c66.c6f.0 c77.c77.0 c78.c7e.8 c7f.c80.0 c81.c81.a",
    "c82.c8c.0 c8e.c90.0 c92.ca8.0 caa.cb3.0 cb5.cb9.0 cbc.cbc.a cbd.cc4.0 cc6.cc8.0 cca.ccb.0",
    "ccc.ccd.a cd5.cd6.0 cdd.cde.0 ce0.ce1.0 ce2.ce3.a ce6.cef.0 cf1.cf2.0 d00.d01.a d02.d0c.0",
    "d0e.d10.0 d12.d3a.0 d3b.d3c.a d3d.d40.0 d41.d44.a d46.d48.0 d4a.d4c.0 d4d.d4d.a d4e.d4f.0",
    "d54.d61.0 d62.d63.a d66.d7f.0 d81.d81.a d82.d83.0 d85.d96.0 d9a.db1.0 db3.dbb.0 dbd.dbd.0",
    "dc0.dc6.0 dca.dca.a dcf.dd1.0 dd2.dd4.a dd6.dd6.a dd8.ddf.0 de6.def.0 df2.df4.0 e01.e30.0",
    "e31.e31.a e32.e33.0 e34.e3a.a e3f.e3f.7 e40.e46.0 e47.e4e.a e4f.e5b.0 e81.e82.0 e84.e84.0",
    "e86.e8a.0 e8c.ea3.0 ea5.ea5.0 ea7.eb0.0 eb1.eb1.a eb2.eb3.0 eb4.ebc.a ebd.ebd.0 ec0.ec4.0",
    "ec6.ec6.0 ec8.ecd.a ed0.ed9.0 edc.edf.0 f00.f17.0 f18.f19.a f1a.f34.0 f35.f35.a f36.f36.0",
    "f37.f37.a f38.f38.0 f39.f39.a f3a.f3d.8 f3e.f47.0 f49.f6c.0 f71.f7e.a f7f.f7f.0 f80.f84.a",
    "f85.f85.0 f86.f87.a f88.f8c.0 f8d.f97.a f99.fbc.a fbe.fc5.0 fc6.fc6.a fc7.fcc.0 fce.fda.0",
    "1000.102c.0 102d.1030.a 1031.1031.0 1032.1037.a 1038.1038.0 1039.103a.a 103b.103c.0",
    "103d.103e.a 103f.1057.0 1058.1059.a 105a.105d.0 105e.1060.a 1061.1070.0 1071.1074.a",
    "1075.1081.0 1082.1082.a 1083.1084.0 1085.1086.a 1087.108c.0 108d.108d.a 108e.109c.0",
    "109d.109d.a 109e.10c5.0 10c7.10c7.0 10cd.10cd.0 10d0.1248.0 124a.124d.0 1250.1256.0",
    "1258.1258.0 125a.125d.0 1260.1288.0 128a.128d.0 1290.12b0.0 12b2.12b5.0 12b8.12be.0",
    "12c0.12c0.0 12c2.12c5.0 12c8.12d6.0 12d8.1310.0 1312.1315.0 1318.135a.0 135d.135f.a",
    "1360.137c.0 1380.138f.0 1390.1399.8 13a0.13f5.0 13f8.13fd.0 1400.1400.8 1401.167f.0",
    "1680.1680.b 1681.169a.0 169b.169c.8 16a0.16f8.0 1700.1711.0 1712.1714.a 1715.1715.0",
    "171f.1731.0 1732.1733.a 1734.1736.0 1740.1751.0 1752.1753.a 1760.176c.0 176e.1770.0",
    "1772.1773.a 1780.17b3.0 17b4.17b5.a 17b6.17b6.0 17b7.17bd.a 17be.17c5.0 17c6.17c6.a",
    "17c7.17c8.0 17c9.17d3.a 17d4.17da.0 17db.17db.7 17dc.17dc.0 17dd.17dd.a 17e0.17e9.0",
    "17f0.17f9.8 1800.180a.8 180b.180d.a 180e.180e.9 180f.180f.a 1810.1819.0 1820.1878.0",
    "1880.1884.0 1885.1886.a 1887.18a8.0 18a9.18a9.a 18aa.18aa.0 18b0.18f5.0 1900.191e.0",
    "1920.1922.a 1923.1926.0 1927.1928.a 1929.192b.0 1930.1931.0 1932.1932.a 1933.1938.0",
    "1939.193b.a 1940.1940.8 1944.1945.8 1946.196d.0 1970.1974.0 1980.19ab.0 19b0.19c9.0",
    "19d0.19da.0 19de.19ff.8 1a00.1a16.0 1a17.1a18.a 1a19.1a1a.0 1a1b.1a1b.a 1a1e.1a55.0",
    "1a56.1a56.a 1a57.1a57.0 1a58.1a5e.a 1a60.1a60.a 1a61.1a61.0 1a62.1a62.a 1a63.1a64.0",
    "1a65.1a6c.a 1a6d.1a72.0 1a73.1a7c.a 1a7f.1a7f.a 1a80.1a89.0 1a90.1a99.0 1aa0.1aad.0",
    "1ab0.1ace.a 1b00.1b03.a 1b04.1b33.0 1b34.1b34.a 1b35.1b35.0 1b36.1b3a.a 1b3b.1b3b.0",
    "1b3c.1b3c.a 1b3d.1b41.0 1b42.1b42.a 1b43.1b4c.0 1b50.1b6a.0 1b6b.1b73.a 1b74.1b7e.0",
    "1b80.1b81.a 1b82.1ba1.0 1ba2.1ba5.a 1ba6.1ba7.0 1ba8.1ba9.a 1baa.1baa.0 1bab.1bad.a",
    "1bae.1be5.0 1be6.1be6.a 1be7.1be7.0 1be8.1be9.a 1bea.1bec.0 1bed.1bed.a 1bee.1bee.0",
    "1bef.1bf1.a 1bf2.1bf3.0 1bfc.1c2b.0 1c2c.1c33.a 1c34.1c35.0 1c36.1c37.a 1c3b.1c49.0",
    "1c4d.1c88.0 1c90.1cba.0 1cbd.1cc7.0 1cd0.1cd2.a 1cd3.1cd3.0 1cd4.1ce0.a 1ce1.1ce1.0",
    "1ce2.1ce8.a 1ce9.1cec.0 1ced.1ced.a 1cee.1cf3.0 1cf4.1cf4.a 1cf5.1cf7.0 1cf8.1cf9.a",
    "1cfa.1cfa.0 1d00.1dbf.0 1dc0.1dff.a 1e00.1f15.0 1f18.1f1d.0 1f20.1f45.0 1f48.1f4d.0",
    "1f50.1f57.0 1f59.1f59.0 1f5b.1f5b.0 1f5d.1f5d.0 1f5f.1f7d.0 1f80.1fb4.0 1fb6.1fbc.0",
    "1fbd.1fbd.8 1fbe.1fbe.0 1fbf.1fc1.8 1fc2.1fc4.0 1fc6.1fcc.0 1fcd.1fcf.8 1fd0.1fd3.0",
    "1fd6.1fdb.0 1fdd.1fdf.8 1fe0.1fec.0 1fed.1fef.8 1ff2.1ff4.0 1ff6.1ffc.0 1ffd.1ffe.8",
    "2000.200a.b 200b.200d.9 200e.200e.0 200f.200f.1 2010.2027.8 2028.202e.b 202f.202f.6",
    "2030.2034.7 2035.2043.8 2044.2044.6 2045.205e.8 205f.205f.b 2060.2064.9 2066.2069.b",
    "206a.206f.9 2070.2070.4 2071.2071.0 2074.2079.4 207a.207b.5 207c.207e.8 207f.207f.0",
    "2080.2089.4 208a.208b.5 208c.208e.8 2090.209c.0 20a0.20c0.7 20d0.20f0.a 2100.2101.8",
    "2102.2102.0 2103.2106.8 2107.2107.0 2108.2109.8 210a.2113.0 2114.2114.8 2115.2115.0",
    "2116.2118.8 2119.211d.0 211e.2123.8 2124.2124.0 2125.2125.8 2126.2126.0 2127.2127.8",
    "2128.2128.0 2129.2129.8 212a.212d.0 212e.212e.7 212f.2139.0 213a.213b.8 213c.213f.0",
    "2140.2144.8 2145.2149.0 214a.214d.8 214e.214f.0 2150.215f.8 2160.2188.0 2189.218b.8",
    "2190.2211.8 2212.2212.5 2213.2213.7 2214.2335.8 2336.237a.0 237b.2394.8 2395.2395.0",
    "2396.2426.8 2440.244a.8 2460.2487.8 2488.249b.4 249c.24e9.0 24ea.26ab.8 26ac.26ac.0",
    "26ad.27ff.8 2800.28ff.0 2900.2b73.8 2b76.2b95.8 2b97.2bff.8 2c00.2ce4.0 2ce5.2cea.8",
    "2ceb.2cee.0 2cef.2cf1.a 2cf2.2cf3.0 2cf9.2cff.8 2d00.2d25.0 2d27.2d27.0 2d2d.2d2d.0",
    "2d30.2d67.0 2d6f.2d70.0 2d7f.2d7f.a 2d80.2d96.0 2da0.2da6.0 2da8.2dae.0 2db0.2db6.0",
    "2db8.2dbe.0 2dc0.2dc6.0 2dc8.2dce.0 2dd0.2dd6.0 2dd8.2dde.0 2de0.2dff.a 2e00.2e5d.8",
    "2e80.2e99.8 2e9b.2ef3.8 2f00.2fd5.8 2ff0.2ffb.8 3000.3000.b 3001.3004.8 3005.3007.0",
    "3008.3020.8 3021.3029.0 302a.302d.a 302e.302f.0 3030.3030.8 3031.3035.0 3036.3037.8",
    "3038.303c.0 303d.303f.8 3041.3096.0 3099.309a.a 309b.309c.8 309d.309f.0 30a0.30a0.8",
    "30a1.30fa.0 30fb.30fb.8 30fc.30ff.0 3105.312f.0 3131.318e.0 3190.31bf.0 31c0.31e3.8",
    "31f0.321c.0 321d.321e.8 3220.324f.0 3250.325f.8 3260.327b.0 327c.327e.8 327f.32b0.0",
    "32b1.32bf.8 32c0.32cb.0 32cc.32cf.8 32d0.3376.0 3377.337a.8 337b.33dd.0 33de.33df.8",
    "33e0.33fe.0 33ff.33ff.8 3400.4dbf.0 4dc0.4dff.8 4e00.a48c.0 a490.a4c6.8 a4d0.a60c.0",
    "a60d.a60f.8 a610.a62b.0 a640.a66e.0 a66f.a672.a a673.a673.8 a674.a67d.a a67e.a67f.8",
    "a680.a69d.0 a69e.a69f.a a6a0.a6ef.0 a6f0.a6f1.a a6f2.a6f7.0 a700.a721.8 a722.a787.0",
    "a788.a788.8 a789.a7ca.0 a7d0.a7d1.0 a7d3.a7d3.0 a7d5.a7d9.0 a7f2.a801.0 a802.a802.a",
    "a803.a805.0 a806.a806.a a807.a80a.0 a80b.a80b.a a80c.a824.0 a825.a826.a a827.a827.0",
    "a828.a82b.8 a82c.a82c.a a830.a837.0 a838.a839.7 a840.a873.0 a874.a877.8 a880.a8c3.0",
    "a8c4.a8c5.a a8ce.a8d9.0 a8e0.a8f1.a a8f2.a8fe.0 a8ff.a8ff.a a900.a925.0 a926.a92d.a",
    "a92e.a946.0 a947.a951.a a952.a953.0 a95f.a97c.0 a980.a982.a a983.a9b2.0 a9b3.a9b3.a",
    "a9b4.a9b5.0 a9b6.a9b9.a a9ba.a9bb.0 a9bc.a9bd.a a9be.a9cd.0 a9cf.a9d9.0 a9de.a9e4.0",
    "a9e5.a9e5.a a9e6.a9fe.0 aa00.aa28.0 aa29.aa2e.a aa2f.aa30.0 aa31.aa32.a aa33.aa34.0",
    "aa35.aa36.a aa40.aa42.0 aa43.aa43.a aa44.aa4b.0 aa4c.aa4c.a aa4d.aa4d.0 aa50.aa59.0",
    "aa5c.aa7b.0 aa7c.aa7c.a aa7d.aaaf.0 aab0.aab0.a aab1.aab1.0 aab2.aab4.a aab5.aab6.0",
    "aab7.aab8.a aab9.aabd.0 aabe.aabf.a aac0.aac0.0 aac1.aac1.a aac2.aac2.0 aadb.aaeb.0",
    "aaec.aaed.a aaee.aaf5.0 aaf6.aaf6.a ab01.ab06.0 ab09.ab0e.0 ab11.ab16.0 ab20.ab26.0",
    "ab28.ab2e.0 ab30.ab69.0 ab6a.ab6b.8 ab70.abe4.0 abe5.abe5.a abe6.abe7.0 abe8.abe8.a",
    "abe9.abec.0 abed.abed.a abf0.abf9.0 ac00.d7a3.0 d7b0.d7c6.0 d7cb.d7fb.0 d800.fa6d.0",
    "fa70.fad9.0 fb00.fb06.0 fb13.fb17.0 fb1d.fb1d.1 fb1e.fb1e.a fb1f.fb28.1 fb29.fb29.5",
    "fb2a.fb36.1 fb38.fb3c.1 fb3e.fb3e.1 fb40.fb41.1 fb43.fb44.1 fb46.fb4f.1 fb50.fbc2.2",
    "fbd3.fd3d.2 fd3e.fd4f.8 fd50.fd8f.2 fd92.fdc7.2 fdcf.fdcf.8 fdf0.fdfc.2 fdfd.fdff.8",
    "fe00.fe0f.a fe10.fe19.8 fe20.fe2f.a fe30.fe4f.8 fe50.fe50.6 fe51.fe51.8 fe52.fe52.6",
    "fe54.fe54.8 fe55.fe55.6 fe56.fe5e.8 fe5f.fe5f.7 fe60.fe61.8 fe62.fe63.5 fe64.fe66.8",
    "fe68.fe68.8 fe69.fe6a.7 fe6b.fe6b.8 fe70.fe74.2 fe76.fefc.2 feff.feff.9 ff01.ff02.8",
    "ff03.ff05.7 ff06.ff0a.8 ff0b.ff0b.5 ff0c.ff0c.6 ff0d.ff0d.5 ff0e.ff0f.6 ff10.ff19.4",
    "ff1a.ff1a.6 ff1b.ff20.8 ff21.ff3a.0 ff3b.ff40.8 ff41.ff5a.0 ff5b.ff65.8 ff66.ffbe.0",
    "ffc2.ffc7.0 ffca.ffcf.0 ffd2.ffd7.0 ffda.ffdc.0 ffe0.ffe1.7 ffe2.ffe4.8 ffe5.ffe6.7",
    "ffe8.ffee.8 fff9.fffd.8 10000.1000b.0 1000d.10026.0 10028.1003a.0 1003c.1003d.0",
    "1003f.1004d.0 10050.1005d.0 10080.100fa.0 10100.10100.0 10101.10101.8 10102.10102.0",
    "10107.10133.0 10137.1013f.0 10140.1018c.8 1018d.1018e.0 10190.1019c.8 101a0.101a0.8",
    "101d0.101fc.0 101fd.101fd.a 10280.1029c.0 102a0.102d0.0 102e0.102e0.a 102e1.102fb.4",
    "10300.10323.0 1032d.1034a.0 10350.10375.0 10376.1037a.a 10380.1039d.0 1039f.103c3.0",
    "103c8.103d5.0 10400.1049d.0 104a0.104a9.0 104b0.104d3.0 104d8.104fb.0 10500.10527.0",
    "10530.10563.0 1056f.1057a.0 1057c.1058a.0 1058c.10592.0 10594.10595.0 10597.105a1.0",
    "105a3.105b1.0 105b3.105b9.0 105bb.105bc.0 10600.10736.0 10740.10755.0 10760.10767.0",
    "10780.10785.0 10787.107b0.0 107b2.107ba.0 10800.10805.1 10808.10808.1 1080a.10835.1",
    "10837.10838.1 1083c.1083c.1 1083f.10855.1 10857.1089e.1 108a7.108af.1 108e0.108f2.1",
    "108f4.108f5.1 108fb.1091b.1 1091f.1091f.8 10920.10939.1 1093f.1093f.1 10980.109b7.1",
    "109bc.109cf.1 109d2.10a00.1 10a01.10a03.a 10a05.10a06.a 10a0c.10a0f.a 10a10.10a13.1",
    "10a15.10a17.1 10a19.10a35.1 10a38.10a3a.a 10a3f.10a3f.a 10a40.10a48.1 10a50.10a58.1",
    "10a60.10a9f.1 10ac0.10ae4.1 10ae5.10ae6.a 10aeb.10af6.1 10b00.10b35.1 10b39.10b3f.8",
    "10b40.10b55.1 10b58.10b72.1 10b78.10b91.1 10b99.10b9c.1 10ba9.10baf.1 10c00.10c48.1",
    "10c80.10cb2.1 10cc0.10cf2.1 10cfa.10cff.1 10d00.10d23.2 10d24.10d27.a 10d30.10d39.3",
    "10e60.10e7e.3 10e80.10ea9.1 10eab.10eac.a 10ead.10ead.1 10eb0.10eb1.1 10f00.10f27.1",
    "10f30.10f45.2 10f46.10f50.a 10f51.10f59.2 10f70.10f81.1 10f82.10f85.a 10f86.10f89.1",
    "10fb0.10fcb.1 10fe0.10ff6.1 11000.11000.0 11001.11001.a 11002.11037.0 11038.11046.a",
    "11047.1104d.0 11052.11065.8 11066.1106f.0 11070.11070.a 11071.11072.0 11073.11074.a",
    "11075.11075.0 1107f.11081.a 11082.110b2.0 110b3.110b6.a 110b7.110b8.0 110b9.110ba.a",
    "110bb.110c1.0 110c2.110c2.a 110cd.110cd.0 110d0.110e8.0 110f0.110f9.0 11100.11102.a",
    "11103.11126.0 11127.1112b.a 1112c.1112c.0 1112d.11134.a 11136.11147.0 11150.11172.0",
    "11173.11173.a 11174.11176.0 11180.11181.a 11182.111b5.0 111b6.111be.a 111bf.111c8.0",
    "111c9.111cc.a 111cd.111ce.0 111cf.111cf.a 111d0.111df.0 111e1.111f4.0 11200.11211.0",
    "11213.1122e.0 1122f.11231.a 11232.11233.0 11234.11234.a 11235.11235.0 11236.11237.a",
    "11238.1123d.0 1123e.1123e.a 11280.11286.0 11288.11288.0 1128a.1128d.0 1128f.1129d.0",
    "1129f.112a9.0 112b0.112de.0 112df.112df.a 112e0.112e2.0 112e3.112ea.a 112f0.112f9.0",
    "11300.11301.a 11302.11303.0 11305.1130c.0 1130f.11310.0 11313.11328.0 1132a.11330.0",
    "11332.11333.0 11335.11339.0 1133b.1133c.a 1133d.1133f.0 11340.11340.a 11341.11344.0",
    "11347.11348.0 1134b.1134d.0 11350.11350.0 11357.11357.0 1135d.11363.0 11366.1136c.a",
    "11370.11374.a 11400.11437.0 11438.1143f.a 11440.11441.0 11442.11444.a 11445.11445.0",
    "11446.11446.a 11447.1145b.0 1145d.1145d.0 1145e.1145e.a 1145f.11461.0 11480.114b2.0",
    "114b3.114b8.a 114b9.114b9.0 114ba.114ba.a 114bb.114be.0 114bf.114c0.a 114c1.114c1.0",
    "114c2.114c3.a 114c4.114c7.0 114d0.114d9.0 11580.115b1.0 115b2.115b5.a 115b8.115bb.0",
    "115bc.115bd.a 115be.115be.0 115bf.115c0.a 115c1.115db.0 115dc.115dd.a 11600.11632.0",
    "11633.1163a.a 1163b.1163c.0 1163d.1163d.a 1163e.1163e.0 1163f.11640.a 11641.11644.0",
    "11650.11659.0 11660.1166c.8 11680.116aa.0 116ab.116ab.a 116ac.116ac.0 116ad.116ad.a",
    "116ae.116af.0 116b0.116b5.a 116b6.116b6.0 116b7.116b7.a 116b8.116b9.0 116c0.116c9.0",
    "11700.1171a.0 1171d.1171f.a 11720.11721.0 11722.11725.a 11726.11726.0 11727.1172b.a",
    "11730.11746.0 11800.1182e.0 1182f.11837.a 11838.11838.0 11839.1183a.a 1183b.1183b.0",
    "118a0.118f2.0 118ff.11906.0 11909.11909.0 1190c.11913.0 11915.11916.0 11918.11935.0",
    "11937.11938.0 1193b.1193c.a 1193d.1193d.0 1193e.1193e.a 1193f.11942.0 11943.11943.a",
    "11944.11946.0 11950.11959.0 119a0.119a7.0 119aa.119d3.0 119d4.119d7.a 119da.119db.a",
    "119dc.119df.0 119e0.119e0.a 119e1.119e4.0 11a00.11a00.0 11a01.11a06.a 11a07.11a08.0",
    "11a09.11a0a.a 11a0b.11a32.0 11a33.11a38.a 11a39.11a3a.0 11a3b.11a3e.a 11a3f.11a46.0",
    "11a47.11a47.a 11a50.11a50.0 11a51.11a56.a 11a57.11a58.0 11a59.11a5b.a 11a5c.11a89.0",
    "11a8a.11a96.a 11a97.11a97.0 11a98.11a99.a 11a9a.11aa2.0 11ab0.11af8.0 11c00.11c08.0",
    "11c0a.11c2f.0 11c30.11c36.a 11c38.11c3d.a 11c3e.11c45.0 11c50.11c6c.0 11c70.11c8f.0",
    "11c92.11ca7.a 11ca9.11ca9.0 11caa.11cb0.a 11cb1.11cb1.0 11cb2.11cb3.a 11cb4.11cb4.0",
    "11cb5.11cb6.a 11d00.11d06.0 11d08.11d09.0 11d0b.11d30.0 11d31.11d36.a 11d3a.11d3a.a",
    "11d3c.11d3d.a 11d3f.11d45.a 11d46.11d46.0 11d47.11d47.a 11d50.11d59.0 11d60.11d65.0",
    "11d67.11d68.0 11d6a.11d8e.0 11d90.11d91.a 11d93.11d94.0 11d95.11d95.a 11d96.11d96.0",
    "11d97.11d97.a 11d98.11d98.0 11da0.11da9.0 11ee0.11ef2.0 11ef3.11ef4.a 11ef5.11ef8.0",
    "11fb0.11fb0.0 11fc0.11fd4.0 11fd5.11fdc.8 11fdd.11fe0.7 11fe1.11ff1.8 11fff.12399.0",
    "12400.1246e.0 12470.12474.0 12480.12543.0 12f90.12ff2.0 13000.1342e.0 13430.13438.0",
    "14400.14646.0 16800.16a38.0 16a40.16a5e.0 16a60.16a69.0 16a6e.16abe.0 16ac0.16ac9.0",
    "16ad0.16aed.0 16af0.16af4.a 16af5.16af5.0 16b00.16b2f.0 16b30.16b36.a 16b37.16b45.0",
    "16b50.16b59.0 16b5b.16b61.0 16b63.16b77.0 16b7d.16b8f.0 16e40.16e9a.0 16f00.16f4a.0",
    "16f4f.16f4f.a 16f50.16f87.0 16f8f.16f92.a 16f93.16f9f.0 16fe0.16fe1.0 16fe2.16fe2.8",
    "16fe3.16fe3.0 16fe4.16fe4.a 16ff0.16ff1.0 17000.187f7.0 18800.18cd5.0 18d00.18d08.0",
    "1aff0.1aff3.0 1aff5.1affb.0 1affd.1affe.0 1b000.1b122.0 1b150.1b152.0 1b164.1b167.0",
    "1b170.1b2fb.0 1bc00.1bc6a.0 1bc70.1bc7c.0 1bc80.1bc88.0 1bc90.1bc99.0 1bc9c.1bc9c.0",
    "1bc9d.1bc9e.a 1bc9f.1bc9f.0 1bca0.1bca3.9 1cf00.1cf2d.a 1cf30.1cf46.a 1cf50.1cfc3.0",
    "1d000.1d0f5.0 1d100.1d126.0 1d129.1d166.0 1d167.1d169.a 1d16a.1d172.0 1d173.1d17a.9",
    "1d17b.1d182.a 1d183.1d184.0 1d185.1d18b.a 1d18c.1d1a9.0 1d1aa.1d1ad.a 1d1ae.1d1e8.0",
    "1d1e9.1d1ea.8 1d200.1d241.8 1d242.1d244.a 1d245.1d245.8 1d2e0.1d2f3.0 1d300.1d356.8",
    "1d360.1d378.0 1d400.1d454.0 1d456.1d49c.0 1d49e.1d49f.0 1d4a2.1d4a2.0 1d4a5.1d4a6.0",
    "1d4a9.1d4ac.0 1d4ae.1d4b9.0 1d4bb.1d4bb.0 1d4bd.1d4c3.0 1d4c5.1d505.0 1d507.1d50a.0",
    "1d50d.1d514.0 1d516.1d51c.0 1d51e.1d539.0 1d53b.1d53e.0 1d540.1d544.0 1d546.1d546.0",
    "1d54a.1d550.0 1d552.1d6a5.0 1d6a8.1d6da.0 1d6db.1d6db.8 1d6dc.1d714.0 1d715.1d715.8",
    "1d716.1d74e.0 1d74f.1d74f.8 1d750.1d788.0 1d789.1d789.8 1d78a.1d7c2.0 1d7c3.1d7c3.8",
    "1d7c4.1d7cb.0 1d7ce.1d7ff.4 1d800.1d9ff.0 1da00.1da36.a 1da37.1da3a.0 1da3b.1da6c.a",
    "1da6d.1da74.0 1da75.1da75.a 1da76.1da83.0 1da84.1da84.a 1da85.1da8b.0 1da9b.1da9f.a",
    "1daa1.1daaf.a 1df00.1df1e.0 1e000.1e006.a 1e008.1e018.a 1e01b.1e021.a 1e023.1e024.a",
    "1e026.1e02a.a 1e100.1e12c.0 1e130.1e136.a 1e137.1e13d.0 1e140.1e149.0 1e14e.1e14f.0",
    "1e290.1e2ad.0 1e2ae.1e2ae.a 1e2c0.1e2eb.0 1e2ec.1e2ef.a 1e2f0.1e2f9.0 1e2ff.1e2ff.7",
    "1e7e0.1e7e6.0 1e7e8.1e7eb.0 1e7ed.1e7ee.0 1e7f0.1e7fe.0 1e800.1e8c4.1 1e8c7.1e8cf.1",
    "1e8d0.1e8d6.a 1e900.1e943.1 1e944.1e94a.a 1e94b.1e94b.1 1e950.1e959.1 1e95e.1e95f.1",
    "1ec71.1ecb4.2 1ed01.1ed3d.2 1ee00.1ee03.2 1ee05.1ee1f.2 1ee21.1ee22.2 1ee24.1ee24.2",
    "1ee27.1ee27.2 1ee29.1ee32.2 1ee34.1ee37.2 1ee39.1ee39.2 1ee3b.1ee3b.2 1ee42.1ee42.2",
    "1ee47.1ee47.2 1ee49.1ee49.2 1ee4b.1ee4b.2 1ee4d.1ee4f.2 1ee51.1ee52.2 1ee54.1ee54.2",
    "1ee57.1ee57.2 1ee59.1ee59.2 1ee5b.1ee5b.2 1ee5d.1ee5d.2 1ee5f.1ee5f.2 1ee61.1ee62.2",
    "1ee64.1ee64.2 1ee67.1ee6a.2 1ee6c.1ee72.2 1ee74.1ee77.2 1ee79.1ee7c.2 1ee7e.1ee7e.2",
    "1ee80.1ee89.2 1ee8b.1ee9b.2 1eea1.1eea3.2 1eea5.1eea9.2 1eeab.1eebb.2 1eef0.1eef1.8",
    "1f000.1f02b.8 1f030.1f093.8 1f0a0.1f0ae.8 1f0b1.1f0bf.8 1f0c1.1f0cf.8 1f0d1.1f0f5.8",
    "1f100.1f10a.4 1f10b.1f10f.8 1f110.1f12e.0 1f12f.1f12f.8 1f130.1f169.0 1f16a.1f16f.8",
    "1f170.1f1ac.0 1f1ad.1f1ad.8 1f1e6.1f202.0 1f210.1f23b.0 1f240.1f248.0 1f250.1f251.0",
    "1f260.1f265.8 1f300.1f6d7.8 1f6dd.1f6ec.8 1f6f0.1f6fc.8 1f700.1f773.8 1f780.1f7d8.8",
    "1f7e0.1f7eb.8 1f7f0.1f7f0.8 1f800.1f80b.8 1f810.1f847.8 1f850.1f859.8 1f860.1f887.8",
    "1f890.1f8ad.8 1f8b0.1f8b1.8 1f900.1fa53.8 1fa60.1fa6d.8 1fa70.1fa74.8 1fa78.1fa7c.8",
    "1fa80.1fa86.8 1fa90.1faac.8 1fab0.1faba.8 1fac0.1fac5.8 1fad0.1fad9.8 1fae0.1fae7.8",
    "1faf0.1faf6.8 1fb00.1fb92.8 1fb94.1fbca.8 1fbf0.1fbf9.4 20000.2a6df.0 2a700.2b738.0",
    "2b740.2b81d.0 2b820.2cea1.0 2ceb0.2ebe0.0 2f800.2fa1d.0 30000.3134a.0 e0001.e0001.9",
    "e0020.e007f.9 e0100.e01ef.a f0000.ffffd.0 100000.10fffd.0"]

def joinLeft : Ranges := Table.readRanges [
    "a872.a872 10acd.10acd 10ad7.10ad7 10d00.10d00 10fcb.10fcb"]

def joinRight : Ranges := Table.readRanges [
    "622.625 627.627 629.629 62f.632 648.648 671.673 675.677 688.699 6c0.6c0 6c3.6cb 6cd.6cd",
    "6cf.6cf 6d2.6d3 6d5.6d5 6ee.6ef 710.710 715.719 71e.71e 728.728 72a.72a 72c.72c 72f.72f",
    "74d.74d 759.75b 76b.76c 771.771 773.774 778.779 840.840 846.847 849.849 854.854 856.858",
    "867.867 869.86a 870.882 88e.88e 8aa.8ac 8ae.8ae 8b1.8b2 8b9.8b9 10ac5.10ac5 10ac7.10ac7",
    "10ac9.10aca 10ace.10ad2 10add.10add 10ae1.10ae1 10ae4.10ae4 10aef.10aef 10b81.10b81",
    "10b83.10b85 10b89.10b89 10b8c.10b8c 10b8e.10b8f 10b91.10b91 10ba9.10bac 10d22.10d22",
    "10ec2.10ec2 10f33.10f33 10f54.10f54 10f74.10f75 10fb4.10fb6 10fb9.10fba 10fbd.10fbd",
    "10fc2.10fc3 10fc9.10fc9"]

def joinDual : Ranges := Table.readRanges [
    "620.620 626.626 628.628 62a.62e 633.63f 641.647 649.64a 66e.66f 678.687 69a.6bf 6c1.6c2",
    "6cc.6cc 6ce.6ce 6d0.6d1 6fa.6fc 6ff.6ff 712.714 71a.71d 71f.727 729.729 72b.72b 72d.72e",
    "74e.758 75c.76a 76d.770 772.772 775.777 77a.77f 7ca.7ea 841.845 848.848 84a.853 855.855",
    "860.860 862.865 868.868 886.886 889.88d 88f.88f 8a0.8a9 8af.8b0 8b3.8b8 8ba.8c8 1807.1807",
    "1820.1878 1887.18a8 18aa.18aa a840.a871 10ac0.10ac4 10ad3.10ad6 10ad8.10adc 10ade.10ae0",
    "10aeb.10aee 10b80.10b80 10b82.10b82 10b86.10b88 10b8a.10b8b 10b8d.10b8d 10b90.10b90",
    "10bad.10bae 10d01.10d21 10d23.10d23 10ec3.10ec4 10ec6.10ec7 10f30.10f32 10f34.10f44",
    "10f51.10f53 10f70.10f73 10f76.10f81 10fb0.10fb0 10fb2.10fb3 10fb8.10fb8 10fbb.10fbc",
    "10fbe.10fbf 10fc1.10fc1 10fc4.10fc4 10fca.10fca 1e900.1e943"]

def joinTransparent : Ranges := Table.readRanges [
    "ad.ad 300.36f 483.489 591.5bd 5bf.5bf 5c1.5c2 5c4.5c5 5c7.5c7 610.61a 61c.61c 64b.65f",
    "670.670 6d6.6dc 6df.6e4 6e7.6e8 6ea.6ed 70f.70f 711.711 730.74a 7a6.7b0 7eb.7f3 7fd.7fd",
    "816.819 81b.823 825.827 829.82d 859.85b 897.89f 8ca.8e1 8e3.902 93a.93a 93c.93c 941.948",
    "94d.94d 951.957 962.963 981.981 9bc.9bc 9c1.9c4 9cd.9cd 9e2.9e3 9fe.9fe a01.a02 a3c.a3c",
    "a41.a42 a47.a48 a4b.a4d a51.a51 a70.a71 a75.a75 a81.a82 abc.abc ac1.ac5 ac7.ac8 acd.acd",
    "ae2.ae3 afa.aff b01.b01 b3c.b3c b3f.b3f b41.b44 b4d.b4d b55.b56 b62.b63 b82.b82 bc0.bc0",
    "bcd.bcd c00.c00 c04.c04 c3c.c3c c3e.c40 c46.c48 c4a.c4d c55.c56 c62.c63 c81.c81 cbc.cbc",
    "cbf.cbf cc6.cc6 ccc.ccd ce2.ce3 d00.d01 d3b.d3c d41.d44 d4d.d4d d62.d63 d81.d81 dca.dca",
    "dd2.dd4 dd6.dd6 e31.e31 e34.e3a e47.e4e eb1.eb1 eb4.ebc ec8.ece f18.f19 f35.f35 f37.f37",
    "f39.f39 f71.f7e f80.f84 f86.f87 f8d.f97 f99.fbc fc6.fc6 102d.1030 1032.1037 1039.103a",
    "103d.103e 1058.1059 105e.1060 1071.1074 1082.1082 1085.1086 108d.108d 109d.109d 135d.135f",
    "1712.1714 1732.1733 1752.1753 1772.1773 17b4.17b5 17b7.17bd 17c6.17c6 17c9.17d3 17dd.17dd",
    "180b.180d 180f.180f 1885.1886 18a9.18a9 1920.1922 1927.1928 1932.1932 1939.193b 1a17.1a18",
    "1a1b.1a1b 1a56.1a56 1a58.1a5e 1a60.1a60 1a62.1a62 1a65.1a6c 1a73.1a7c 1a7f.1a7f 1ab0.1add",
    "1ae0.1aeb 1b00.1b03 1b34.1b34 1b36.1b3a 1b3c.1b3c 1b42.1b42 1b6b.1b73 1b80.1b81 1ba2.1ba5",
    "1ba8.1ba9 1bab.1bad 1be6.1be6 1be8.1be9 1bed.1bed 1bef.1bf1 1c2c.1c33 1c36.1c37 1cd0.1cd2",
    "1cd4.1ce0 1ce2.1ce8 1ced.1ced 1cf4.1cf4 1cf8.1cf9 1dc0.1dff 200b.200b 200e.200f 202a.202e",
    "2060.2064 206a.206f 20d0.20f0 2cef.2cf1 2d7f.2d7f 2de0.2dff 302a.302d 3099.309a a66f.a672",
    "a674.a67d a69e.a69f a6f0.a6f1 a802.a802 a806.a806 a80b.a80b a825.a826 a82c.a82c a8c4.a8c5",
    "a8e0.a8f1 a8ff.a8ff a926.a92d a947.a951 a980.a982 a9b3.a9b3 a9b6.a9b9 a9bc.a9bd a9e5.a9e5",
    "aa29.aa2e aa31.aa32 aa35.aa36 aa43.aa43 aa4c.aa4c aa7c.aa7c aab0.aab0 aab2.aab4 aab7.aab8",
    "aabe.aabf aac1.aac1 aaec.aaed aaf6.aaf6 abe5.abe5 abe8.abe8 abed.abed fb1e.fb1e fe00.fe0f",
    "fe20.fe2f feff.feff fff9.fffb 101fd.101fd 102e0.102e0 10376.1037a 10a01.10a03 10a05.10a06",
    "10a0c.10a0f 10a38.10a3a 10a3f.10a3f 10ae5.10ae6 10d24.10d27 10d69.10d6d 10eab.10eac",
    "10efa.10eff 10f46.10f50 10f82.10f85 11001.11001 11038.11046 11070.11070 11073.11074",
    "1107f.11081 110b3.110b6 110b9.110ba 110c2.110c2 11100.11102 11127.1112b 1112d.11134",
    "11173.11173 11180.11181 111b6.111be 111c9.111cc 111cf.111cf 1122f.11231 11234.11234",
    "11236.11237 1123e.1123e 11241.11241 112df.112df 112e3.112ea 11300.11301 1133b.1133c",
    "11340.11340 11366.1136c 11370.11374 113bb.113c0 113ce.113ce 113d0.113d0 113d2.113d2",
    "113e1.113e2 11438.1143f 11442.11444 11446.11446 1145e.1145e 114b3.114b8 114ba.114ba",
    "114bf.114c0 114c2.114c3 115b2.115b5 115bc.115bd 115bf.115c0 115dc.115dd 11633.1163a",
    "1163d.1163d 1163f.11640 116ab.116ab 116ad.116ad 116b0.116b5 116b7.116b7 1171d.1171d",
    "1171f.1171f 11722.11725 11727.1172b 1182f.11837 11839.1183a 1193b.1193c 1193e.1193e",
    "11943.11943 119d4.119d7 119da.119db 119e0.119e0 11a01.11a0a 11a33.11a38 11a3b.11a3e",
    "11a47.11a47 11a51.11a56 11a59.11a5b 11a8a.11a96 11a98.11a99 11b60.11b60 11b62.11b64",
    "11b66.11b66 11c30.11c36 11c38.11c3d 11c3f.11c3f 11c92.11ca7 11caa.11cb0 11cb2.11cb3",
    "11cb5.11cb6 11d31.11d36 11d3a.11d3a 11d3c.11d3d 11d3f.11d45 11d47.11d47 11d90.11d91",
    "11d95.11d95 11d97.11d97 11ef3.11ef4 11f00.11f01 11f36.11f3a 11f40.11f40 11f42.11f42",
    "11f5a.11f5a 13430.13440 13447.13455 1611e.16129 1612d.1612f 16af0.16af4 16b30.16b36",
    "16f4f.16f4f 16f8f.16f92 16fe4.16fe4 1bc9d.1bc9e 1bca0.1bca3 1cf00.1cf2d 1cf30.1cf46",
    "1d167.1d169 1d173.1d182 1d185.1d18b 1d1aa.1d1ad 1d242.1d244 1da00.1da36 1da3b.1da6c",
    "1da75.1da75 1da84.1da84 1da9b.1da9f 1daa1.1daaf 1e000.1e006 1e008.1e018 1e01b.1e021",
    "1e023.1e024 1e026.1e02a 1e08f.1e08f 1e130.1e136 1e2ae.1e2ae 1e2ec.1e2ef 1e4ec.1e4ef",
    "1e5ee.1e5ef 1e6e3.1e6e3 1e6e6.1e6e6 1e6ee.1e6ef 1e6f5.1e6f5 1e8d0.1e8d6 1e944.1e94b",
    "e0001.e0001 e0020.e007f e0100.e01ef"]

def greek : Ranges := Table.readRanges [
    "370.373 375.377 37a.37d 37f.37f 384.384 386.386 388.38a 38c.38c 38e.3a1 3a3.3e1 3f0.3ff",
    "1d26.1d2a 1d5d.1d61 1d66.1d6a 1dbf.1dbf 1f00.1f15 1f18.1f1d 1f20.1f45 1f48.1f4d 1f50.1f57",
    "1f59.1f59 1f5b.1f5b 1f5d.1f5d 1f5f.1f7d 1f80.1fb4 1fb6.1fc4 1fc6.1fd3 1fd6.1fdb 1fdd.1fef",
    "1ff2.1ff4 1ff6.1ffe 2126.2126 ab65.ab65 10140.1018e 101a0.101a0 1d200.1d245"]

def han : Ranges := Table.readRanges [
    "2e80.2e99 2e9b.2ef3 2f00.2fd5 3005.3005 3007.3007 3021.3029 3038.303b 3400.4dbf 4e00.9fff",
    "f900.fa6d fa70.fad9 16fe2.16fe3 16ff0.16ff6 20000.2a6df 2a700.2b81d 2b820.2cead 2ceb0.2ebe0",
    "2ebf0.2ee5d 2f800.2fa1d 30000.3134a 31350.33479"]

def hebrew : Ranges := Table.readRanges [
    "591.5c7 5d0.5ea 5ef.5f4 fb1d.fb36 fb38.fb3c fb3e.fb3e fb40.fb41 fb43.fb44 fb46.fb4f"]

def hiragana : Ranges := Table.readRanges [
    "3041.3096 309d.309f 1b001.1b11f 1b132.1b132 1b150.1b152 1f200.1f200"]

def katakana : Ranges := Table.readRanges [
    "30a1.30fa 30fd.30ff 31f0.31ff 32d0.32fe 3300.3357 ff66.ff6f ff71.ff9d 1aff0.1aff3",
    "1aff5.1affb 1affd.1affe 1b000.1b000 1b120.1b122 1b155.1b155 1b164.1b167"]

end Dispatch.Idna
