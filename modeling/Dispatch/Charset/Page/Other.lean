import Dispatch.Charset.Page.Basic

/-! Code pages of a printer and of a hand-held computer. An entry holds the first and the last byte
of a run and the code point of the first one.
-/

namespace Dispatch.CodePage

def hpRoman8 : CodePage := read [
    "0.a0.0 a1.a1.c0 a2.a2.c2 a3.a3.c8 a4.a5.ca a6.a7.ce a8.a8.b4 a9.a9.2cb aa.aa.2c6 ab.ab.a8",
    "ac.ac.2dc ad.ad.d9 ae.ae.db af.af.20a4 b0.b0.af b1.b1.dd b2.b2.fd b3.b3.b0 b4.b4.c7",
    "b5.b5.e7 b6.b6.d1 b7.b7.f1 b8.b8.a1 b9.b9.bf ba.ba.a4 bb.bb.a3 bc.bc.a5 bd.bd.a7 be.be.192",
    "bf.bf.a2 c0.c0.e2 c1.c1.ea c2.c2.f4 c3.c3.fb c4.c4.e1 c5.c5.e9 c6.c6.f3 c7.c7.fa c8.c8.e0",
    "c9.c9.e8 ca.ca.f2 cb.cb.f9 cc.cc.e4 cd.cd.eb ce.ce.f6 cf.cf.fc d0.d0.c5 d1.d1.ee d2.d2.d8",
    "d3.d3.c6 d4.d4.e5 d5.d5.ed d6.d6.f8 d7.d7.e6 d8.d8.c4 d9.d9.ec da.da.d6 db.db.dc dc.dc.c9",
    "dd.dd.ef de.de.df df.df.d4 e0.e0.c1 e1.e1.c3 e2.e2.e3 e3.e3.d0 e4.e4.f0 e5.e5.cd e6.e6.cc",
    "e7.e7.d3 e8.e8.d2 e9.e9.d5 ea.ea.f5 eb.ec.160 ed.ed.da ee.ee.178 ef.ef.ff f0.f0.de",
    "f1.f1.fe f2.f2.b7 f3.f4.b5 f5.f5.be f6.f6.2014 f7.f8.bc f9.f9.aa fa.fa.ba fb.fb.ab",
    "fc.fc.25a0 fd.fd.bb fe.fe.b1"]

def palmos : CodePage := read [
    "0.7f.0 80.80.20ac 81.81.81 82.82.201a 83.83.192 84.84.201e 85.85.2026 86.87.2020 88.88.2c6",
    "89.89.2030 8a.8a.160 8b.8b.2039 8c.8c.152 8d.8d.2666 8e.8e.2663 8f.8f.2665 90.90.2660",
    "91.92.2018 93.94.201c 95.95.2022 96.97.2013 98.98.2dc 99.99.2122 9a.9a.161 9b.9b.9b",
    "9c.9c.153 9d.9e.9d 9f.9f.178 a0.ff.a0"]

end Dispatch.CodePage
