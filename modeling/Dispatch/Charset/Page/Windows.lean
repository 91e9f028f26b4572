import Dispatch.Charset.Page.Basic

/-! Code pages of Windows. An entry holds the first and the last byte of a run and the code point of
the first one.
-/

namespace Dispatch.CodePage

def cp874 : CodePage := read [
    "0.7f.0 80.80.20ac 85.85.2026 91.92.2018 93.94.201c 95.95.2022 96.97.2013 a0.a0.a0",
    "a1.da.e01 df.fb.e3f"]

def cp1250 : CodePage := read [
    "0.7f.0 80.80.20ac 82.82.201a 84.84.201e 85.85.2026 86.87.2020 89.89.2030 8a.8a.160",
    "8b.8b.2039 8c.8c.15a 8d.8d.164 8e.8e.17d 8f.8f.179 91.92.2018 93.94.201c 95.95.2022",
    "96.97.2013 99.99.2122 9a.9a.161 9b.9b.203a 9c.9c.15b 9d.9d.165 9e.9e.17e 9f.9f.17a",
    "a0.a0.a0 a1.a1.2c7 a2.a2.2d8 a3.a3.141 a4.a4.a4 a5.a5.104 a6.a9.a6 aa.aa.15e ab.ae.ab",
    "af.af.17b b0.b1.b0 b2.b2.2db b3.b3.142 b4.b8.b4 b9.b9.105 ba.ba.15f bb.bb.bb bc.bc.13d",
    "bd.bd.2dd be.be.13e bf.bf.17c c0.c0.154 c1.c2.c1 c3.c3.102 c4.c4.c4 c5.c5.139 c6.c6.106",
    "c7.c7.c7 c8.c8.10c c9.c9.c9 ca.ca.118 cb.cb.cb cc.cc.11a cd.ce.cd cf.cf.10e d0.d0.110",
    "d1.d1.143 d2.d2.147 d3.d4.d3 d5.d5.150 d6.d7.d6 d8.d8.158 d9.d9.16e da.da.da db.db.170",
    "dc.dd.dc de.de.162 df.df.df e0.e0.155 e1.e2.e1 e3.e3.103 e4.e4.e4 e5.e5.13a e6.e6.107",
    "e7.e7.e7 e8.e8.10d e9.e9.e9 ea.ea.119 eb.eb.eb ec.ec.11b ed.ee.ed ef.ef.10f f0.f0.111",
    "f1.f1.144 f2.f2.148 f3.f4.f3 f5.f5.151 f6.f7.f6 f8.f8.159 f9.f9.16f fa.fa.fa fb.fb.171",
    "fc.fd.fc fe.fe.163 ff.ff.2d9"]

def cp1251 : CodePage := read [
    "0.7f.0 80.81.402 82.82.201a 83.83.453 84.84.201e 85.85.2026 86.87.2020 88.88.20ac",
    "89.89.2030 8a.8a.409 8b.8b.2039 8c.8c.40a 8d.8d.40c 8e.8e.40b 8f.8f.40f 90.90.452",
    "91.92.2018 93.94.201c 95.95.2022 96.97.2013 99.99.2122 9a.9a.459 9b.9b.203a 9c.9c.45a",
    "9d.9d.45c 9e.9e.45b 9f.9f.45f a0.a0.a0 a1.a1.40e a2.a2.45e a3.a3.408 a4.a4.a4 a5.a5.490",
    "a6.a7.a6 a8.a8.401 a9.a9.a9 aa.aa.404 ab.ae.ab af.af.407 b0.b1.b0 b2.b2.406 b3.b3.456",
    "b4.b4.491 b5.b7.b5 b8.b8.451 b9.b9.2116 ba.ba.454 bb.bb.bb bc.bc.458 bd.bd.405 be.be.455",
    "bf.bf.457 c0.ff.410"]

def cp1252 : CodePage := read [
    "0.7f.0 80.80.20ac 82.82.201a 83.83.192 84.84.201e 85.85.2026 86.87.2020 88.88.2c6",
    "89.89.2030 8a.8a.160 8b.8b.2039 8c.8c.152 8e.8e.17d 91.92.2018 93.94.201c 95.95.2022",
    "96.97.2013 98.98.2dc 99.99.2122 9a.9a.161 9b.9b.203a 9c.9c.153 9e.9e.17e 9f.9f.178",
    "a0.ff.a0"]

def cp1253 : CodePage := read [
    "0.7f.0 80.80.20ac 82.82.201a 83.83.192 84.84.201e 85.85.2026 86.87.2020 89.89.2030",
    "8b.8b.2039 91.92.2018 93.94.201c 95.95.2022 96.97.2013 99.99.2122 9b.9b.203a a0.a0.a0",
    "a1.a2.385 a3.a9.a3 ab.ae.ab af.af.2015 b0.b3.b0 b4.b4.384 b5.b7.b5 b8.ba.388 bb.bb.bb",
    "bc.bc.38c bd.bd.bd be.d1.38e d3.fe.3a3"]

def cp1254 : CodePage := read [
    "0.7f.0 80.80.20ac 82.82.201a 83.83.192 84.84.201e 85.85.2026 86.87.2020 88.88.2c6",
    "89.89.2030 8a.8a.160 8b.8b.2039 8c.8c.152 91.92.2018 93.94.201c 95.95.2022 96.97.2013",
    "98.98.2dc 99.99.2122 9a.9a.161 9b.9b.203a 9c.9c.153 9f.9f.178 a0.cf.a0 d0.d0.11e d1.dc.d1",
    "dd.dd.130 de.de.15e df.ef.df f0.f0.11f f1.fc.f1 fd.fd.131 fe.fe.15f ff.ff.ff"]

def cp1255 : CodePage := read [
    "0.7f.0 80.80.20ac 82.82.201a 83.83.192 84.84.201e 85.85.2026 86.87.2020 88.88.2c6",
    "89.89.2030 8b.8b.2039 91.92.2018 93.94.201c 95.95.2022 96.97.2013 98.98.2dc 99.99.2122",
    "9b.9b.203a a0.a3.a0 a4.a4.20aa a5.a9.a5 aa.aa.d7 ab.b9.ab ba.ba.f7 bb.bf.bb c0.c9.5b0",
    "cb.d3.5bb d4.d8.5f0 e0.fa.5d0 fd.fe.200e"]

def cp1256 : CodePage := read [
    "0.7f.0 80.80.20ac 81.81.67e 82.82.201a 83.83.192 84.84.201e 85.85.2026 86.87.2020",
    "88.88.2c6 89.89.2030 8a.8a.679 8b.8b.2039 8c.8c.152 8d.8d.686 8e.8e.698 8f.8f.688",
    "90.90.6af 91.92.2018 93.94.201c 95.95.2022 96.97.2013 98.98.6a9 99.99.2122 9a.9a.691",
    "9b.9b.203a 9c.9c.153 9d.9e.200c 9f.9f.6ba a0.a0.a0 a1.a1.60c a2.a9.a2 aa.aa.6be ab.b9.ab",
    "ba.ba.61b bb.be.bb bf.bf.61f c0.c0.6c1 c1.d6.621 d7.d7.d7 d8.db.637 dc.df.640 e0.e0.e0",
    "e1.e1.644 e2.e2.e2 e3.e6.645 e7.eb.e7 ec.ed.649 ee.ef.ee f0.f3.64b f4.f4.f4 f5.f6.64f",
    "f7.f7.f7 f8.f8.651 f9.f9.f9 fa.fa.652 fb.fc.fb fd.fe.200e ff.ff.6d2"]

def cp1257 : CodePage := read [
    "0.7f.0 80.80.20ac 82.82.201a 84.84.201e 85.85.2026 86.87.2020 89.89.2030 8b.8b.2039",
    "8d.8d.a8 8e.8e.2c7 8f.8f.b8 91.92.2018 93.94.201c 95.95.2022 96.97.2013 99.99.2122",
    "9b.9b.203a 9d.9d.af 9e.9e.2db a0.a0.a0 a2.a4.a2 a6.a7.a6 a8.a8.d8 a9.a9.a9 aa.aa.156",
    "ab.ae.ab af.af.c6 b0.b7.b0 b8.b8.f8 b9.b9.b9 ba.ba.157 bb.be.bb bf.bf.e6 c0.c0.104",
    "c1.c1.12e c2.c2.100 c3.c3.106 c4.c5.c4 c6.c6.118 c7.c7.112 c8.c8.10c c9.c9.c9 ca.ca.179",
    "cb.cb.116 cc.cc.122 cd.cd.136 ce.ce.12a cf.cf.13b d0.d0.160 d1.d1.143 d2.d2.145 d3.d3.d3",
    "d4.d4.14c d5.d7.d5 d8.d8.172 d9.d9.141 da.da.15a db.db.16a dc.dc.dc dd.dd.17b de.de.17d",
    "df.df.df e0.e0.105 e1.e1.12f e2.e2.101 e3.e3.107 e4.e5.e4 e6.e6.119 e7.e7.113 e8.e8.10d",
    "e9.e9.e9 ea.ea.17a eb.eb.117 ec.ec.123 ed.ed.137 ee.ee.12b ef.ef.13c f0.f0.161 f1.f1.144",
    "f2.f2.146 f3.f3.f3 f4.f4.14d f5.f7.f5 f8.f8.173 f9.f9.142 fa.fa.15b fb.fb.16b fc.fc.fc",
    "fd.fd.17c fe.fe.17e ff.ff.2d9"]

def cp1258 : CodePage := read [
    "0.7f.0 80.80.20ac 82.82.201a 83.83.192 84.84.201e 85.85.2026 86.87.2020 88.88.2c6",
    "89.89.2030 8b.8b.2039 8c.8c.152 91.92.2018 93.94.201c 95.95.2022 96.97.2013 98.98.2dc",
    "99.99.2122 9b.9b.203a 9c.9c.153 9f.9f.178 a0.c2.a0 c3.c3.102 c4.cb.c4 cc.cc.300 cd.cf.cd",
    "d0.d0.110 d1.d1.d1 d2.d2.309 d3.d4.d3 d5.d5.1a0 d6.dc.d6 dd.dd.1af de.de.303 df.e2.df",
    "e3.e3.103 e4.eb.e4 ec.ec.301 ed.ef.ed f0.f0.111 f1.f1.f1 f2.f2.323 f3.f4.f3 f5.f5.1a1",
    "f6.fc.f6 fd.fd.1b0 fe.fe.20ab ff.ff.ff"]

end Dispatch.CodePage
