import Dispatch.Charset.Page.Basic

/-! Code pages of the Macintosh. Two of them repeat the ASCII punctuation in the upper half. An
entry holds the first and the last byte of a run and the code point of the first one.
-/

namespace Dispatch.CodePage

def macArabic : CodePage := read [
    "0.7f.0 80.80.c4 81.81.a0 82.82.c7 83.83.c9 84.84.d1 85.85.d6 86.86.dc 87.87.e1 88.88.e0",
    "89.89.e2 8a.8a.e4 8b.8b.6ba 8c.8c.ab 8d.8d.e7 8e.8e.e9 8f.8f.e8 90.91.ea 92.92.ed",
    "93.93.2026 94.95.ee 96.96.f1 97.97.f3 98.98.bb 99.99.f4 9a.9b.f6 9c.9c.fa 9d.9d.f9",
    "9e.9f.fb a0.a4.20 a5.a5.66a a6.ab.26 ac.ac.60c ad.af.2d b0.b9.660 ba.ba.3a bb.bb.61b",
    "bc.be.3c bf.bf.61f c0.c0.274a c1.da.621 db.df.5b e0.f2.640 f3.f3.67e f4.f4.679 f5.f5.686",
    "f6.f6.6d5 f7.f7.6a4 f8.f8.6af f9.f9.688 fa.fa.691 fb.fd.7b fe.fe.698 ff.ff.6d2"]

def macCroatian : CodePage := read [
    "0.7f.0 80.81.c4 82.82.c7 83.83.c9 84.84.d1 85.85.d6 86.86.dc 87.87.e1 88.88.e0 89.89.e2",
    "8a.8a.e4 8b.8b.e3 8c.8c.e5 8d.8d.e7 8e.8e.e9 8f.8f.e8 90.91.ea 92.92.ed 93.93.ec 94.95.ee",
    "96.96.f1 97.97.f3 98.98.f2 99.99.f4 9a.9a.f6 9b.9b.f5 9c.9c.fa 9d.9d.f9 9e.9f.fb",
    "a0.a0.2020 a1.a1.b0 a2.a3.a2 a4.a4.a7 a5.a5.2022 a6.a6.b6 a7.a7.df a8.a8.ae a9.a9.160",
    "aa.aa.2122 ab.ab.b4 ac.ac.a8 ad.ad.2260 ae.ae.17d af.af.d8 b0.b0.221e b1.b1.b1 b2.b3.2264",
    "b4.b4.2206 b5.b5.b5 b6.b6.2202 b7.b7.2211 b8.b8.220f b9.b9.161 ba.ba.222b bb.bb.aa",
    "bc.bc.ba bd.bd.3a9 be.be.17e bf.bf.f8 c0.c0.bf c1.c1.a1 c2.c2.ac c3.c3.221a c4.c4.192",
    "c5.c5.2248 c6.c6.106 c7.c7.ab c8.c8.10c c9.c9.2026 ca.ca.a0 cb.cb.c0 cc.cc.c3 cd.cd.d5",
    "ce.cf.152 d0.d0.110 d1.d1.2014 d2.d3.201c d4.d5.2018 d6.d6.f7 d7.d7.25ca d8.d8.f8ff",
    "d9.d9.a9 da.da.2044 db.db.20ac dc.dd.2039 de.de.c6 df.df.bb e0.e0.2013 e1.e1.b7 e2.e2.201a",
    "e3.e3.201e e4.e4.2030 e5.e5.c2 e6.e6.107 e7.e7.c1 e8.e8.10d e9.e9.c8 ea.ec.cd ed.ed.cc",
    "ee.ef.d3 f0.f0.111 f1.f1.d2 f2.f3.da f4.f4.d9 f5.f5.131 f6.f6.2c6 f7.f7.2dc f8.f8.af",
    "f9.f9.3c0 fa.fa.cb fb.fb.2da fc.fc.b8 fd.fd.ca fe.fe.e6 ff.ff.2c7"]

def macCyrillic : CodePage := read [
    "0.7f.0 80.9f.410 a0.a0.2020 a1.a1.b0 a2.a2.490 a3.a3.a3 a4.a4.a7 a5.a5.2022 a6.a6.b6",
    "a7.a7.406 a8.a8.ae a9.a9.a9 aa.aa.2122 ab.ab.402 ac.ac.452 ad.ad.2260 ae.ae.403 af.af.453",
    "b0.b0.221e b1.b1.b1 b2.b3.2264 b4.b4.456 b5.b5.b5 b6.b6.491 b7.b7.408 b8.b8.404 b9.b9.454",
    "ba.ba.407 bb.bb.457 bc.bc.409 bd.bd.459 be.be.40a bf.bf.45a c0.c0.458 c1.c1.405 c2.c2.ac",
    "c3.c3.221a c4.c4.192 c5.c5.2248 c6.c6.2206 c7.c7.ab c8.c8.bb c9.c9.2026 ca.ca.a0 cb.cb.40b",
    "cc.cc.45b cd.cd.40c ce.ce.45c cf.cf.455 d0.d1.2013 d2.d3.201c d4.d5.2018 d6.d6.f7",
    "d7.d7.201e d8.d8.40e d9.d9.45e da.da.40f db.db.45f dc.dc.2116 dd.dd.401 de.de.451",
    "df.df.44f e0.fe.430 ff.ff.20ac"]

def macFarsi : CodePage := read [
    "0.7f.0 80.80.c4 81.81.a0 82.82.c7 83.83.c9 84.84.d1 85.85.d6 86.86.dc 87.87.e1 88.88.e0",
    "89.89.e2 8a.8a.e4 8b.8b.6ba 8c.8c.ab 8d.8d.e7 8e.8e.e9 8f.8f.e8 90.91.ea 92.92.ed",
    "93.93.2026 94.95.ee 96.96.f1 97.97.f3 98.98.bb 99.99.f4 9a.9b.f6 9c.9c.fa 9d.9d.f9",
    "9e.9f.fb a0.a4.20 a5.a5.66a a6.ab.26 ac.ac.60c ad.af.2d b0.b9.6f0 ba.ba.3a bb.bb.61b",
    "bc.be.3c bf.bf.61f c0.c0.274a c1.da.621 db.df.5b e0.f2.640 f3.f3.67e f4.f4.679 f5.f5.686",
    "f6.f6.6d5 f7.f7.6a4 f8.f8.6af f9.f9.688 fa.fa.691 fb.fd.7b fe.fe.698 ff.ff.6d2"]

def macGreek : CodePage := read [
    "0.7f.0 80.80.c4 81.81.b9 82.82.b2 83.83.c9 84.84.b3 85.85.d6 86.86.dc 87.87.385 88.88.e0",
    "89.89.e2 8a.8a.e4 8b.8b.384 8c.8c.a8 8d.8d.e7 8e.8e.e9 8f.8f.e8 90.91.ea 92.92.a3",
    "93.93.2122 94.95.ee 96.96.2022 97.97.bd 98.98.2030 99.99.f4 9a.9a.f6 9b.9b.a6 9c.9c.20ac",
    "9d.9d.f9 9e.9f.fb a0.a0.2020 a1.a2.393 a3.a3.398 a4.a4.39b a5.a5.39e a6.a6.3a0 a7.a7.df",
    "a8.a8.ae a9.a9.a9 aa.aa.3a3 ab.ab.3aa ac.ac.a7 ad.ad.2260 ae.ae.b0 af.af.b7 b0.b0.391",
    "b1.b1.b1 b2.b3.2264 b4.b4.a5 b5.b5.392 b6.b8.395 b9.ba.399 bb.bb.39c bc.bc.3a6 bd.bd.3ab",
    "be.bf.3a8 c0.c0.3ac c1.c1.39d c2.c2.ac c3.c3.39f c4.c4.3a1 c5.c5.2248 c6.c6.3a4 c7.c7.ab",
    "c8.c8.bb c9.c9.2026 ca.ca.a0 cb.cb.3a5 cc.cc.3a7 cd.cd.386 ce.ce.388 cf.cf.153 d0.d0.2013",
    "d1.d1.2015 d2.d3.201c d4.d5.2018 d6.d6.f7 d7.d8.389 d9.d9.38c da.da.38e db.dd.3ad",
    "de.de.3cc df.df.38f e0.e0.3cd e1.e2.3b1 e3.e3.3c8 e4.e5.3b4 e6.e6.3c6 e7.e7.3b3 e8.e8.3b7",
    "e9.e9.3b9 ea.ea.3be eb.ee.3ba ef.f0.3bf f1.f1.3ce f2.f2.3c1 f3.f4.3c3 f5.f5.3b8 f6.f6.3c9",
    "f7.f7.3c2 f8.f8.3c7 f9.f9.3c5 fa.fa.3b6 fb.fc.3ca fd.fd.390 fe.fe.3b0 ff.ff.ad"]

def macIceland : CodePage := read [
    "0.7f.0 80.81.c4 82.82.c7 83.83.c9 84.84.d1 85.85.d6 86.86.dc 87.87.e1 88.88.e0 89.89.e2",
    "8a.8a.e4 8b.8b.e3 8c.8c.e5 8d.8d.e7 8e.8e.e9 8f.8f.e8 90.91.ea 92.92.ed 93.93.ec 94.95.ee",
    "96.96.f1 97.97.f3 98.98.f2 99.99.f4 9a.9a.f6 9b.9b.f5 9c.9c.fa 9d.9d.f9 9e.9f.fb a0.a0.dd",
    "a1.a1.b0 a2.a3.a2 a4.a4.a7 a5.a5.2022 a6.a6.b6 a7.a7.df a8.a8.ae a9.a9.a9 aa.aa.2122",
    "ab.ab.b4 ac.ac.a8 ad.ad.2260 ae.ae.c6 af.af.d8 b0.b0.221e b1.b1.b1 b2.b3.2264 b4.b4.a5",
    "b5.b5.b5 b6.b6.2202 b7.b7.2211 b8.b8.220f b9.b9.3c0 ba.ba.222b bb.bb.aa bc.bc.ba bd.bd.3a9",
    "be.be.e6 bf.bf.f8 c0.c0.bf c1.c1.a1 c2.c2.ac c3.c3.221a c4.c4.192 c5.c5.2248 c6.c6.2206",
    "c7.c7.ab c8.c8.bb c9.c9.2026 ca.ca.a0 cb.cb.c0 cc.cc.c3 cd.cd.d5 ce.cf.152 d0.d1.2013",
    "d2.d3.201c d4.d5.2018 d6.d6.f7 d7.d7.25ca d8.d8.ff d9.d9.178 da.da.2044 db.db.20ac",
    "dc.dc.d0 dd.dd.f0 de.de.de df.df.fe e0.e0.fd e1.e1.b7 e2.e2.201a e3.e3.201e e4.e4.2030",
    "e5.e5.c2 e6.e6.ca e7.e7.c1 e8.e8.cb e9.e9.c8 ea.ec.cd ed.ed.cc ee.ef.d3 f0.f0.f8ff",
    "f1.f1.d2 f2.f3.da f4.f4.d9 f5.f5.131 f6.f6.2c6 f7.f7.2dc f8.f8.af f9.fb.2d8 fc.fc.b8",
    "fd.fd.2dd fe.fe.2db ff.ff.2c7"]

def macLatin2 : CodePage := read [
    "0.7f.0 80.80.c4 81.82.100 83.83.c9 84.84.104 85.85.d6 86.86.dc 87.87.e1 88.88.105",
    "89.89.10c 8a.8a.e4 8b.8b.10d 8c.8d.106 8e.8e.e9 8f.90.179 91.91.10e 92.92.ed 93.93.10f",
    "94.95.112 96.96.116 97.97.f3 98.98.117 99.99.f4 9a.9a.f6 9b.9b.f5 9c.9c.fa 9d.9e.11a",
    "9f.9f.fc a0.a0.2020 a1.a1.b0 a2.a2.118 a3.a3.a3 a4.a4.a7 a5.a5.2022 a6.a6.b6 a7.a7.df",
    "a8.a8.ae a9.a9.a9 aa.aa.2122 ab.ab.119 ac.ac.a8 ad.ad.2260 ae.ae.123 af.b0.12e b1.b1.12a",
    "b2.b3.2264 b4.b4.12b b5.b5.136 b6.b6.2202 b7.b7.2211 b8.b8.142 b9.bc.13b bd.be.139",
    "bf.c0.145 c1.c1.143 c2.c2.ac c3.c3.221a c4.c4.144 c5.c5.147 c6.c6.2206 c7.c7.ab c8.c8.bb",
    "c9.c9.2026 ca.ca.a0 cb.cb.148 cc.cc.150 cd.cd.d5 ce.ce.151 cf.cf.14c d0.d1.2013 d2.d3.201c",
    "d4.d5.2018 d6.d6.f7 d7.d7.25ca d8.d8.14d d9.da.154 db.db.158 dc.dd.2039 de.de.159",
    "df.e0.156 e1.e1.160 e2.e2.201a e3.e3.201e e4.e4.161 e5.e6.15a e7.e7.c1 e8.e9.164 ea.ea.cd",
    "eb.ec.17d ed.ed.16a ee.ef.d3 f0.f0.16b f1.f1.16e f2.f2.da f3.f7.16f f8.f8.dd f9.f9.fd",
    "fa.fa.137 fb.fb.17b fc.fc.141 fd.fd.17c fe.fe.122 ff.ff.2c7"]

def macRoman : CodePage := read [
    "0.7f.0 80.81.c4 82.82.c7 83.83.c9 84.84.d1 85.85.d6 86.86.dc 87.87.e1 88.88.e0 89.89.e2",
    "8a.8a.e4 8b.8b.e3 8c.8c.e5 8d.8d.e7 8e.8e.e9 8f.8f.e8 90.91.ea 92.92.ed 93.93.ec 94.95.ee",
    "96.96.f1 97.97.f3 98.98.f2 99.99.f4 9a.9a.f6 9b.9b.f5 9c.9c.fa 9d.9d.f9 9e.9f.fb",
    "a0.a0.2020 a1.a1.b0 a2.a3.a2 a4.a4.a7 a5.a5.2022 a6.a6.b6 a7.a7.df a8.a8.ae a9.a9.a9",
    "aa.aa.2122 ab.ab.b4 ac.ac.a8 ad.ad.2260 ae.ae.c6 af.af.d8 b0.b0.221e b1.b1.b1 b2.b3.2264",
    "b4.b4.a5 b5.b5.b5 b6.b6.2202 b7.b7.2211 b8.b8.220f b9.b9.3c0 ba.ba.222b bb.bb.aa bc.bc.ba",
    "bd.bd.3a9 be.be.e6 bf.bf.f8 c0.c0.bf c1.c1.a1 c2.c2.ac c3.c3.221a c4.c4.192 c5.c5.2248",
    "c6.c6.2206 c7.c7.ab c8.c8.bb c9.c9.2026 ca.ca.a0 cb.cb.c0 cc.cc.c3 cd.cd.d5 ce.cf.152",
    "d0.d1.2013 d2.d3.201c d4.d5.2018 d6.d6.f7 d7.d7.25ca d8.d8.ff d9.d9.178 da.da.2044",
    "db.db.20ac dc.dd.2039 de.df.fb01 e0.e0.2021 e1.e1.b7 e2.e2.201a e3.e3.201e e4.e4.2030",
    "e5.e5.c2 e6.e6.ca e7.e7.c1 e8.e8.cb e9.e9.c8 ea.ec.cd ed.ed.cc ee.ef.d3 f0.f0.f8ff",
    "f1.f1.d2 f2.f3.da f4.f4.d9 f5.f5.131 f6.f6.2c6 f7.f7.2dc f8.f8.af f9.fb.2d8 fc.fc.b8",
    "fd.fd.2dd fe.fe.2db ff.ff.2c7"]

def macRomanian : CodePage := read [
    "0.7f.0 80.81.c4 82.82.c7 83.83.c9 84.84.d1 85.85.d6 86.86.dc 87.87.e1 88.88.e0 89.89.e2",
    "8a.8a.e4 8b.8b.e3 8c.8c.e5 8d.8d.e7 8e.8e.e9 8f.8f.e8 90.91.ea 92.92.ed 93.93.ec 94.95.ee",
    "96.96.f1 97.97.f3 98.98.f2 99.99.f4 9a.9a.f6 9b.9b.f5 9c.9c.fa 9d.9d.f9 9e.9f.fb",
    "a0.a0.2020 a1.a1.b0 a2.a3.a2 a4.a4.a7 a5.a5.2022 a6.a6.b6 a7.a7.df a8.a8.ae a9.a9.a9",
    "aa.aa.2122 ab.ab.b4 ac.ac.a8 ad.ad.2260 ae.ae.102 af.af.218 b0.b0.221e b1.b1.b1 b2.b3.2264",
    "b4.b4.a5 b5.b5.b5 b6.b6.2202 b7.b7.2211 b8.b8.220f b9.b9.3c0 ba.ba.222b bb.bb.aa bc.bc.ba",
    "bd.bd.3a9 be.be.103 bf.bf.219 c0.c0.bf c1.c1.a1 c2.c2.ac c3.c3.221a c4.c4.192 c5.c5.2248",
    "c6.c6.2206 c7.c7.ab c8.c8.bb c9.c9.2026 ca.ca.a0 cb.cb.c0 cc.cc.c3 cd.cd.d5 ce.cf.152",
    "d0.d1.2013 d2.d3.201c d4.d5.2018 d6.d6.f7 d7.d7.25ca d8.d8.ff d9.d9.178 da.da.2044",
    "db.db.20ac dc.dd.2039 de.df.21a e0.e0.2021 e1.e1.b7 e2.e2.201a e3.e3.201e e4.e4.2030",
    "e5.e5.c2 e6.e6.ca e7.e7.c1 e8.e8.cb e9.e9.c8 ea.ec.cd ed.ed.cc ee.ef.d3 f0.f0.f8ff",
    "f1.f1.d2 f2.f3.da f4.f4.d9 f5.f5.131 f6.f6.2c6 f7.f7.2dc f8.f8.af f9.fb.2d8 fc.fc.b8",
    "fd.fd.2dd fe.fe.2db ff.ff.2c7"]

def macTurkish : CodePage := read [
    "0.7f.0 80.81.c4 82.82.c7 83.83.c9 84.84.d1 85.85.d6 86.86.dc 87.87.e1 88.88.e0 89.89.e2",
    "8a.8a.e4 8b.8b.e3 8c.8c.e5 8d.8d.e7 8e.8e.e9 8f.8f.e8 90.91.ea 92.92.ed 93.93.ec 94.95.ee",
    "96.96.f1 97.97.f3 98.98.f2 99.99.f4 9a.9a.f6 9b.9b.f5 9c.9c.fa 9d.9d.f9 9e.9f.fb",
    "a0.a0.2020 a1.a1.b0 a2.a3.a2 a4.a4.a7 a5.a5.2022 a6.a6.b6 a7.a7.df a8.a8.ae a9.a9.a9",
    "aa.aa.2122 ab.ab.b4 ac.ac.a8 ad.ad.2260 ae.ae.c6 af.af.d8 b0.b0.221e b1.b1.b1 b2.b3.2264",
    "b4.b4.a5 b5.b5.b5 b6.b6.2202 b7.b7.2211 b8.b8.220f b9.b9.3c0 ba.ba.222b bb.bb.aa bc.bc.ba",
    "bd.bd.3a9 be.be.e6 bf.bf.f8 c0.c0.bf c1.c1.a1 c2.c2.ac c3.c3.221a c4.c4.192 c5.c5.2248",
    "c6.c6.2206 c7.c7.ab c8.c8.bb c9.c9.2026 ca.ca.a0 cb.cb.c0 cc.cc.c3 cd.cd.d5 ce.cf.152",
    "d0.d1.2013 d2.d3.201c d4.d5.2018 d6.d6.f7 d7.d7.25ca d8.d8.ff d9.d9.178 da.db.11e",
    "dc.dd.130 de.df.15e e0.e0.2021 e1.e1.b7 e2.e2.201a e3.e3.201e e4.e4.2030 e5.e5.c2 e6.e6.ca",
    "e7.e7.c1 e8.e8.cb e9.e9.c8 ea.ec.cd ed.ed.cc ee.ef.d3 f0.f0.f8ff f1.f1.d2 f2.f3.da",
    "f4.f4.d9 f5.f5.f8a0 f6.f6.2c6 f7.f7.2dc f8.f8.af f9.fb.2d8 fc.fc.b8 fd.fd.2dd fe.fe.2db",
    "ff.ff.2c7"]

end Dispatch.CodePage
