import Dispatch.Charset.Page.Basic

/-! Code pages of personal computers. An entry holds the first and the last byte of a run and the
code point of the first one.
-/

namespace Dispatch.CodePage

def cp437 : CodePage := read [
    "0.7f.0 80.80.c7 81.81.fc 82.82.e9 83.83.e2 84.84.e4 85.85.e0 86.86.e5 87.87.e7 88.89.ea",
    "8a.8a.e8 8b.8b.ef 8c.8c.ee 8d.8d.ec 8e.8f.c4 90.90.c9 91.91.e6 92.92.c6 93.93.f4 94.94.f6",
    "95.95.f2 96.96.fb 97.97.f9 98.98.ff 99.99.d6 9a.9a.dc 9b.9c.a2 9d.9d.a5 9e.9e.20a7",
    "9f.9f.192 a0.a0.e1 a1.a1.ed a2.a2.f3 a3.a3.fa a4.a4.f1 a5.a5.d1 a6.a6.aa a7.a7.ba a8.a8.bf",
    "a9.a9.2310 aa.aa.ac ab.ab.bd ac.ac.bc ad.ad.a1 ae.ae.ab af.af.bb b0.b2.2591 b3.b3.2502",
    "b4.b4.2524 b5.b6.2561 b7.b7.2556 b8.b8.2555 b9.b9.2563 ba.ba.2551 bb.bb.2557 bc.bc.255d",
    "bd.bd.255c be.be.255b bf.bf.2510 c0.c0.2514 c1.c1.2534 c2.c2.252c c3.c3.251c c4.c4.2500",
    "c5.c5.253c c6.c7.255e c8.c8.255a c9.c9.2554 ca.ca.2569 cb.cb.2566 cc.cc.2560 cd.cd.2550",
    "ce.ce.256c cf.d0.2567 d1.d2.2564 d3.d3.2559 d4.d4.2558 d5.d6.2552 d7.d7.256b d8.d8.256a",
    "d9.d9.2518 da.da.250c db.db.2588 dc.dc.2584 dd.dd.258c de.de.2590 df.df.2580 e0.e0.3b1",
    "e1.e1.df e2.e2.393 e3.e3.3c0 e4.e4.3a3 e5.e5.3c3 e6.e6.b5 e7.e7.3c4 e8.e8.3a6 e9.e9.398",
    "ea.ea.3a9 eb.eb.3b4 ec.ec.221e ed.ed.3c6 ee.ee.3b5 ef.ef.2229 f0.f0.2261 f1.f1.b1",
    "f2.f2.2265 f3.f3.2264 f4.f5.2320 f6.f6.f7 f7.f7.2248 f8.f8.b0 f9.f9.2219 fa.fa.b7",
    "fb.fb.221a fc.fc.207f fd.fd.b2 fe.fe.25a0 ff.ff.a0"]

def cp720 : CodePage := read [
    "0.81.0 82.82.e9 83.83.e2 84.84.84 85.85.e0 86.86.86 87.87.e7 88.89.ea 8a.8a.e8 8b.8b.ef",
    "8c.8c.ee 8d.90.8d 91.92.651 93.93.f4 94.94.a4 95.95.640 96.96.fb 97.97.f9 98.9b.621",
    "9c.9c.a3 9d.ad.625 ae.ae.ab af.af.bb b0.b2.2591 b3.b3.2502 b4.b4.2524 b5.b6.2561",
    "b7.b7.2556 b8.b8.2555 b9.b9.2563 ba.ba.2551 bb.bb.2557 bc.bc.255d bd.bd.255c be.be.255b",
    "bf.bf.2510 c0.c0.2514 c1.c1.2534 c2.c2.252c c3.c3.251c c4.c4.2500 c5.c5.253c c6.c7.255e",
    "c8.c8.255a c9.c9.2554 ca.ca.2569 cb.cb.2566 cc.cc.2560 cd.cd.2550 ce.ce.256c cf.d0.2567",
    "d1.d2.2564 d3.d3.2559 d4.d4.2558 d5.d6.2552 d7.d7.256b d8.d8.256a d9.d9.2518 da.da.250c",
    "db.db.2588 dc.dc.2584 dd.dd.258c de.de.2590 df.df.2580 e0.e4.636 e5.e5.641 e6.e6.b5",
    "e7.ef.642 f0.f0.2261 f1.f6.64b f7.f7.2248 f8.f8.b0 f9.f9.2219 fa.fa.b7 fb.fb.221a",
    "fc.fc.207f fd.fd.b2 fe.fe.25a0 ff.ff.a0"]

def cp737 : CodePage := read [
    "0.7f.0 80.90.391 91.97.3a3 98.a8.3b1 a9.a9.3c3 aa.aa.3c2 ab.af.3c4 b0.b2.2591 b3.b3.2502",
    "b4.b4.2524 b5.b6.2561 b7.b7.2556 b8.b8.2555 b9.b9.2563 ba.ba.2551 bb.bb.2557 bc.bc.255d",
    "bd.bd.255c be.be.255b bf.bf.2510 c0.c0.2514 c1.c1.2534 c2.c2.252c c3.c3.251c c4.c4.2500",
    "c5.c5.253c c6.c7.255e c8.c8.255a c9.c9.2554 ca.ca.2569 cb.cb.2566 cc.cc.2560 cd.cd.2550",
    "ce.ce.256c cf.d0.2567 d1.d2.2564 d3.d3.2559 d4.d4.2558 d5.d6.2552 d7.d7.256b d8.d8.256a",
    "d9.d9.2518 da.da.250c db.db.2588 dc.dc.2584 dd.dd.258c de.de.2590 df.df.2580 e0.e0.3c9",
    "e1.e3.3ac e4.e4.3ca e5.e5.3af e6.e7.3cc e8.e8.3cb e9.e9.3ce ea.ea.386 eb.ed.388 ee.ee.38c",
    "ef.f0.38e f1.f1.b1 f2.f2.2265 f3.f3.2264 f4.f5.3aa f6.f6.f7 f7.f7.2248 f8.f8.b0 f9.f9.2219",
    "fa.fa.b7 fb.fb.221a fc.fc.207f fd.fd.b2 fe.fe.25a0 ff.ff.a0"]

def cp775 : CodePage := read [
    "0.7f.0 80.80.106 81.81.fc 82.82.e9 83.83.101 84.84.e4 85.85.123 86.86.e5 87.87.107",
    "88.88.142 89.89.113 8a.8b.156 8c.8c.12b 8d.8d.179 8e.8f.c4 90.90.c9 91.91.e6 92.92.c6",
    "93.93.14d 94.94.f6 95.95.122 96.96.a2 97.98.15a 99.99.d6 9a.9a.dc 9b.9b.f8 9c.9c.a3",
    "9d.9d.d8 9e.9e.d7 9f.9f.a4 a0.a0.100 a1.a1.12a a2.a2.f3 a3.a4.17b a5.a5.17a a6.a6.201d",
    "a7.a7.a6 a8.a8.a9 a9.a9.ae aa.aa.ac ab.ab.bd ac.ac.bc ad.ad.141 ae.ae.ab af.af.bb",
    "b0.b2.2591 b3.b3.2502 b4.b4.2524 b5.b5.104 b6.b6.10c b7.b7.118 b8.b8.116 b9.b9.2563",
    "ba.ba.2551 bb.bb.2557 bc.bc.255d bd.bd.12e be.be.160 bf.bf.2510 c0.c0.2514 c1.c1.2534",
    "c2.c2.252c c3.c3.251c c4.c4.2500 c5.c5.253c c6.c6.172 c7.c7.16a c8.c8.255a c9.c9.2554",
    "ca.ca.2569 cb.cb.2566 cc.cc.2560 cd.cd.2550 ce.ce.256c cf.cf.17d d0.d0.105 d1.d1.10d",
    "d2.d2.119 d3.d3.117 d4.d4.12f d5.d5.161 d6.d6.173 d7.d7.16b d8.d8.17e d9.d9.2518",
    "da.da.250c db.db.2588 dc.dc.2584 dd.dd.258c de.de.2590 df.df.2580 e0.e0.d3 e1.e1.df",
    "e2.e2.14c e3.e3.143 e4.e4.f5 e5.e5.d5 e6.e6.b5 e7.e7.144 e8.e9.136 ea.eb.13b ec.ec.146",
    "ed.ed.112 ee.ee.145 ef.ef.2019 f0.f0.ad f1.f1.b1 f2.f2.201c f3.f3.be f4.f4.b6 f5.f5.a7",
    "f6.f6.f7 f7.f7.201e f8.f8.b0 f9.f9.2219 fa.fa.b7 fb.fb.b9 fc.fc.b3 fd.fd.b2 fe.fe.25a0",
    "ff.ff.a0"]

def cp850 : CodePage := read [
    "0.7f.0 80.80.c7 81.81.fc 82.82.e9 83.83.e2 84.84.e4 85.85.e0 86.86.e5 87.87.e7 88.89.ea",
    "8a.8a.e8 8b.8b.ef 8c.8c.ee 8d.8d.ec 8e.8f.c4 90.90.c9 91.91.e6 92.92.c6 93.93.f4 94.94.f6",
    "95.95.f2 96.96.fb 97.97.f9 98.98.ff 99.99.d6 9a.9a.dc 9b.9b.f8 9c.9c.a3 9d.9d.d8 9e.9e.d7",
    "9f.9f.192 a0.a0.e1 a1.a1.ed a2.a2.f3 a3.a3.fa a4.a4.f1 a5.a5.d1 a6.a6.aa a7.a7.ba a8.a8.bf",
    "a9.a9.ae aa.aa.ac ab.ab.bd ac.ac.bc ad.ad.a1 ae.ae.ab af.af.bb b0.b2.2591 b3.b3.2502",
    "b4.b4.2524 b5.b6.c1 b7.b7.c0 b8.b8.a9 b9.b9.2563 ba.ba.2551 bb.bb.2557 bc.bc.255d bd.bd.a2",
    "be.be.a5 bf.bf.2510 c0.c0.2514 c1.c1.2534 c2.c2.252c c3.c3.251c c4.c4.2500 c5.c5.253c",
    "c6.c6.e3 c7.c7.c3 c8.c8.255a c9.c9.2554 ca.ca.2569 cb.cb.2566 cc.cc.2560 cd.cd.2550",
    "ce.ce.256c cf.cf.a4 d0.d0.f0 d1.d1.d0 d2.d3.ca d4.d4.c8 d5.d5.131 d6.d8.cd d9.d9.2518",
    "da.da.250c db.db.2588 dc.dc.2584 dd.dd.a6 de.de.cc df.df.2580 e0.e0.d3 e1.e1.df e2.e2.d4",
    "e3.e3.d2 e4.e4.f5 e5.e5.d5 e6.e6.b5 e7.e7.fe e8.e8.de e9.ea.da eb.eb.d9 ec.ec.fd ed.ed.dd",
    "ee.ee.af ef.ef.b4 f0.f0.ad f1.f1.b1 f2.f2.2017 f3.f3.be f4.f4.b6 f5.f5.a7 f6.f6.f7",
    "f7.f7.b8 f8.f8.b0 f9.f9.a8 fa.fa.b7 fb.fb.b9 fc.fc.b3 fd.fd.b2 fe.fe.25a0 ff.ff.a0"]

def cp852 : CodePage := read [
    "0.7f.0 80.80.c7 81.81.fc 82.82.e9 83.83.e2 84.84.e4 85.85.16f 86.86.107 87.87.e7 88.88.142",
    "89.89.eb 8a.8b.150 8c.8c.ee 8d.8d.179 8e.8e.c4 8f.8f.106 90.90.c9 91.92.139 93.93.f4",
    "94.94.f6 95.96.13d 97.98.15a 99.99.d6 9a.9a.dc 9b.9c.164 9d.9d.141 9e.9e.d7 9f.9f.10d",
    "a0.a0.e1 a1.a1.ed a2.a2.f3 a3.a3.fa a4.a5.104 a6.a7.17d a8.a9.118 aa.aa.ac ab.ab.17a",
    "ac.ac.10c ad.ad.15f ae.ae.ab af.af.bb b0.b2.2591 b3.b3.2502 b4.b4.2524 b5.b6.c1 b7.b7.11a",
    "b8.b8.15e b9.b9.2563 ba.ba.2551 bb.bb.2557 bc.bc.255d bd.be.17b bf.bf.2510 c0.c0.2514",
    "c1.c1.2534 c2.c2.252c c3.c3.251c c4.c4.2500 c5.c5.253c c6.c7.102 c8.c8.255a c9.c9.2554",
    "ca.ca.2569 cb.cb.2566 cc.cc.2560 cd.cd.2550 ce.ce.256c cf.cf.a4 d0.d0.111 d1.d1.110",
    "d2.d2.10e d3.d3.cb d4.d4.10f d5.d5.147 d6.d7.cd d8.d8.11b d9.d9.2518 da.da.250c db.db.2588",
    "dc.dc.2584 dd.dd.162 de.de.16e df.df.2580 e0.e0.d3 e1.e1.df e2.e2.d4 e3.e4.143 e5.e5.148",
    "e6.e7.160 e8.e8.154 e9.e9.da ea.ea.155 eb.eb.170 ec.ec.fd ed.ed.dd ee.ee.163 ef.ef.b4",
    "f0.f0.ad f1.f1.2dd f2.f2.2db f3.f3.2c7 f4.f4.2d8 f5.f5.a7 f6.f6.f7 f7.f7.b8 f8.f8.b0",
    "f9.f9.a8 fa.fa.2d9 fb.fb.171 fc.fd.158 fe.fe.25a0 ff.ff.a0"]

def cp855 : CodePage := read [
    "0.7f.0 80.80.452 81.81.402 82.82.453 83.83.403 84.84.451 85.85.401 86.86.454 87.87.404",
    "88.88.455 89.89.405 8a.8a.456 8b.8b.406 8c.8c.457 8d.8d.407 8e.8e.458 8f.8f.408 90.90.459",
    "91.91.409 92.92.45a 93.93.40a 94.94.45b 95.95.40b 96.96.45c 97.97.40c 98.98.45e 99.99.40e",
    "9a.9a.45f 9b.9b.40f 9c.9c.44e 9d.9d.42e 9e.9e.44a 9f.9f.42a a0.a0.430 a1.a1.410 a2.a2.431",
    "a3.a3.411 a4.a4.446 a5.a5.426 a6.a6.434 a7.a7.414 a8.a8.435 a9.a9.415 aa.aa.444 ab.ab.424",
    "ac.ac.433 ad.ad.413 ae.ae.ab af.af.bb b0.b2.2591 b3.b3.2502 b4.b4.2524 b5.b5.445 b6.b6.425",
    "b7.b7.438 b8.b8.418 b9.b9.2563 ba.ba.2551 bb.bb.2557 bc.bc.255d bd.bd.439 be.be.419",
    "bf.bf.2510 c0.c0.2514 c1.c1.2534 c2.c2.252c c3.c3.251c c4.c4.2500 c5.c5.253c c6.c6.43a",
    "c7.c7.41a c8.c8.255a c9.c9.2554 ca.ca.2569 cb.cb.2566 cc.cc.2560 cd.cd.2550 ce.ce.256c",
    "cf.cf.a4 d0.d0.43b d1.d1.41b d2.d2.43c d3.d3.41c d4.d4.43d d5.d5.41d d6.d6.43e d7.d7.41e",
    "d8.d8.43f d9.d9.2518 da.da.250c db.db.2588 dc.dc.2584 dd.dd.41f de.de.44f df.df.2580",
    "e0.e0.42f e1.e1.440 e2.e2.420 e3.e3.441 e4.e4.421 e5.e5.442 e6.e6.422 e7.e7.443 e8.e8.423",
    "e9.e9.436 ea.ea.416 eb.eb.432 ec.ec.412 ed.ed.44c ee.ee.42c ef.ef.2116 f0.f0.ad f1.f1.44b",
    "f2.f2.42b f3.f3.437 f4.f4.417 f5.f5.448 f6.f6.428 f7.f7.44d f8.f8.42d f9.f9.449 fa.fa.429",
    "fb.fb.447 fc.fc.427 fd.fd.a7 fe.fe.25a0 ff.ff.a0"]

def cp856 : CodePage := read [
    "0.7f.0 80.9a.5d0 9c.9c.a3 9e.9e.d7 a9.a9.ae aa.aa.ac ab.ab.bd ac.ac.bc ae.ae.ab af.af.bb",
    "b0.b2.2591 b3.b3.2502 b4.b4.2524 b8.b8.a9 b9.b9.2563 ba.ba.2551 bb.bb.2557 bc.bc.255d",
    "bd.bd.a2 be.be.a5 bf.bf.2510 c0.c0.2514 c1.c1.2534 c2.c2.252c c3.c3.251c c4.c4.2500",
    "c5.c5.253c c8.c8.255a c9.c9.2554 ca.ca.2569 cb.cb.2566 cc.cc.2560 cd.cd.2550 ce.ce.256c",
    "cf.cf.a4 d9.d9.2518 da.da.250c db.db.2588 dc.dc.2584 dd.dd.a6 df.df.2580 e6.e6.b5 ee.ee.af",
    "ef.ef.b4 f0.f0.ad f1.f1.b1 f2.f2.2017 f3.f3.be f4.f4.b6 f5.f5.a7 f6.f6.f7 f7.f7.b8",
    "f8.f8.b0 f9.f9.a8 fa.fa.b7 fb.fb.b9 fc.fc.b3 fd.fd.b2 fe.fe.25a0 ff.ff.a0"]

def cp857 : CodePage := read [
    "0.7f.0 80.80.c7 81.81.fc 82.82.e9 83.83.e2 84.84.e4 85.85.e0 86.86.e5 87.87.e7 88.89.ea",
    "8a.8a.e8 8b.8b.ef 8c.8c.ee 8d.8d.131 8e.8f.c4 90.90.c9 91.91.e6 92.92.c6 93.93.f4 94.94.f6",
    "95.95.f2 96.96.fb 97.97.f9 98.98.130 99.99.d6 9a.9a.dc 9b.9b.f8 9c.9c.a3 9d.9d.d8",
    "9e.9f.15e a0.a0.e1 a1.a1.ed a2.a2.f3 a3.a3.fa a4.a4.f1 a5.a5.d1 a6.a7.11e a8.a8.bf",
    "a9.a9.ae aa.aa.ac ab.ab.bd ac.ac.bc ad.ad.a1 ae.ae.ab af.af.bb b0.b2.2591 b3.b3.2502",
    "b4.b4.2524 b5.b6.c1 b7.b7.c0 b8.b8.a9 b9.b9.2563 ba.ba.2551 bb.bb.2557 bc.bc.255d bd.bd.a2",
    "be.be.a5 bf.bf.2510 c0.c0.2514 c1.c1.2534 c2.c2.252c c3.c3.251c c4.c4.2500 c5.c5.253c",
    "c6.c6.e3 c7.c7.c3 c8.c8.255a c9.c9.2554 ca.ca.2569 cb.cb.2566 cc.cc.2560 cd.cd.2550",
    "ce.ce.256c cf.cf.a4 d0.d0.ba d1.d1.aa d2.d3.ca d4.d4.c8 d6.d8.cd d9.d9.2518 da.da.250c",
    "db.db.2588 dc.dc.2584 dd.dd.a6 de.de.cc df.df.2580 e0.e0.d3 e1.e1.df e2.e2.d4 e3.e3.d2",
    "e4.e4.f5 e5.e5.d5 e6.e6.b5 e8.e8.d7 e9.ea.da eb.eb.d9 ec.ec.ec ed.ed.ff ee.ee.af ef.ef.b4",
    "f0.f0.ad f1.f1.b1 f3.f3.be f4.f4.b6 f5.f5.a7 f6.f6.f7 f7.f7.b8 f8.f8.b0 f9.f9.a8 fa.fa.b7",
    "fb.fb.b9 fc.fc.b3 fd.fd.b2 fe.fe.25a0 ff.ff.a0"]

def cp858 : CodePage := read [
    "0.7f.0 80.80.c7 81.81.fc 82.82.e9 83.83.e2 84.84.e4 85.85.e0 86.86.e5 87.87.e7 88.89.ea",
    "8a.8a.e8 8b.8b.ef 8c.8c.ee 8d.8d.ec 8e.8f.c4 90.90.c9 91.91.e6 92.92.c6 93.93.f4 94.94.f6",
    "95.95.f2 96.96.fb 97.97.f9 98.98.ff 99.99.d6 9a.9a.dc 9b.9b.f8 9c.9c.a3 9d.9d.d8 9e.9e.d7",
    "9f.9f.192 a0.a0.e1 a1.a1.ed a2.a2.f3 a3.a3.fa a4.a4.f1 a5.a5.d1 a6.a6.aa a7.a7.ba a8.a8.bf",
    "a9.a9.ae aa.aa.ac ab.ab.bd ac.ac.bc ad.ad.a1 ae.ae.ab af.af.bb b0.b2.2591 b3.b3.2502",
    "b4.b4.2524 b5.b6.c1 b7.b7.c0 b8.b8.a9 b9.b9.2563 ba.ba.2551 bb.bb.2557 bc.bc.255d bd.bd.a2",
    "be.be.a5 bf.bf.2510 c0.c0.2514 c1.c1.2534 c2.c2.252c c3.c3.251c c4.c4.2500 c5.c5.253c",
    "c6.c6.e3 c7.c7.c3 c8.c8.255a c9.c9.2554 ca.ca.2569 cb.cb.2566 cc.cc.2560 cd.cd.2550",
    "ce.ce.256c cf.cf.a4 d0.d0.f0 d1.d1.d0 d2.d3.ca d4.d4.c8 d5.d5.20ac d6.d8.cd d9.d9.2518",
    "da.da.250c db.db.2588 dc.dc.2584 dd.dd.a6 de.de.cc df.df.2580 e0.e0.d3 e1.e1.df e2.e2.d4",
    "e3.e3.d2 e4.e4.f5 e5.e5.d5 e6.e6.b5 e7.e7.fe e8.e8.de e9.ea.da eb.eb.d9 ec.ec.fd ed.ed.dd",
    "ee.ee.af ef.ef.b4 f0.f0.ad f1.f1.b1 f2.f2.2017 f3.f3.be f4.f4.b6 f5.f5.a7 f6.f6.f7",
    "f7.f7.b8 f8.f8.b0 f9.f9.a8 fa.fa.b7 fb.fb.b9 fc.fc.b3 fd.fd.b2 fe.fe.25a0 ff.ff.a0"]

def cp860 : CodePage := read [
    "0.7f.0 80.80.c7 81.81.fc 82.82.e9 83.84.e2 85.85.e0 86.86.c1 87.87.e7 88.88.ea 89.89.ca",
    "8a.8a.e8 8b.8b.cd 8c.8c.d4 8d.8d.ec 8e.8e.c3 8f.8f.c2 90.90.c9 91.91.c0 92.92.c8 93.94.f4",
    "95.95.f2 96.96.da 97.97.f9 98.98.cc 99.99.d5 9a.9a.dc 9b.9c.a2 9d.9d.d9 9e.9e.20a7",
    "9f.9f.d3 a0.a0.e1 a1.a1.ed a2.a2.f3 a3.a3.fa a4.a4.f1 a5.a5.d1 a6.a6.aa a7.a7.ba a8.a8.bf",
    "a9.a9.d2 aa.aa.ac ab.ab.bd ac.ac.bc ad.ad.a1 ae.ae.ab af.af.bb b0.b2.2591 b3.b3.2502",
    "b4.b4.2524 b5.b6.2561 b7.b7.2556 b8.b8.2555 b9.b9.2563 ba.ba.2551 bb.bb.2557 bc.bc.255d",
    "bd.bd.255c be.be.255b bf.bf.2510 c0.c0.2514 c1.c1.2534 c2.c2.252c c3.c3.251c c4.c4.2500",
    "c5.c5.253c c6.c7.255e c8.c8.255a c9.c9.2554 ca.ca.2569 cb.cb.2566 cc.cc.2560 cd.cd.2550",
    "ce.ce.256c cf.d0.2567 d1.d2.2564 d3.d3.2559 d4.d4.2558 d5.d6.2552 d7.d7.256b d8.d8.256a",
    "d9.d9.2518 da.da.250c db.db.2588 dc.dc.2584 dd.dd.258c de.de.2590 df.df.2580 e0.e0.3b1",
    "e1.e1.df e2.e2.393 e3.e3.3c0 e4.e4.3a3 e5.e5.3c3 e6.e6.b5 e7.e7.3c4 e8.e8.3a6 e9.e9.398",
    "ea.ea.3a9 eb.eb.3b4 ec.ec.221e ed.ed.3c6 ee.ee.3b5 ef.ef.2229 f0.f0.2261 f1.f1.b1",
    "f2.f2.2265 f3.f3.2264 f4.f5.2320 f6.f6.f7 f7.f7.2248 f8.f8.b0 f9.f9.2219 fa.fa.b7",
    "fb.fb.221a fc.fc.207f fd.fd.b2 fe.fe.25a0 ff.ff.a0"]

def cp861 : CodePage := read [
    "0.7f.0 80.80.c7 81.81.fc 82.82.e9 83.83.e2 84.84.e4 85.85.e0 86.86.e5 87.87.e7 88.89.ea",
    "8a.8a.e8 8b.8b.d0 8c.8c.f0 8d.8d.de 8e.8f.c4 90.90.c9 91.91.e6 92.92.c6 93.93.f4 94.94.f6",
    "95.95.fe 96.96.fb 97.97.dd 98.98.fd 99.99.d6 9a.9a.dc 9b.9b.f8 9c.9c.a3 9d.9d.d8",
    "9e.9e.20a7 9f.9f.192 a0.a0.e1 a1.a1.ed a2.a2.f3 a3.a3.fa a4.a4.c1 a5.a5.cd a6.a6.d3",
    "a7.a7.da a8.a8.bf a9.a9.2310 aa.aa.ac ab.ab.bd ac.ac.bc ad.ad.a1 ae.ae.ab af.af.bb",
    "b0.b2.2591 b3.b3.2502 b4.b4.2524 b5.b6.2561 b7.b7.2556 b8.b8.2555 b9.b9.2563 ba.ba.2551",
    "bb.bb.2557 bc.bc.255d bd.bd.255c be.be.255b bf.bf.2510 c0.c0.2514 c1.c1.2534 c2.c2.252c",
    "c3.c3.251c c4.c4.2500 c5.c5.253c c6.c7.255e c8.c8.255a c9.c9.2554 ca.ca.2569 cb.cb.2566",
    "cc.cc.2560 cd.cd.2550 ce.ce.256c cf.d0.2567 d1.d2.2564 d3.d3.2559 d4.d4.2558 d5.d6.2552",
    "d7.d7.256b d8.d8.256a d9.d9.2518 da.da.250c db.db.2588 dc.dc.2584 dd.dd.258c de.de.2590",
    "df.df.2580 e0.e0.3b1 e1.e1.df e2.e2.393 e3.e3.3c0 e4.e4.3a3 e5.e5.3c3 e6.e6.b5 e7.e7.3c4",
    "e8.e8.3a6 e9.e9.398 ea.ea.3a9 eb.eb.3b4 ec.ec.221e ed.ed.3c6 ee.ee.3b5 ef.ef.2229",
    "f0.f0.2261 f1.f1.b1 f2.f2.2265 f3.f3.2264 f4.f5.2320 f6.f6.f7 f7.f7.2248 f8.f8.b0",
    "f9.f9.2219 fa.fa.b7 fb.fb.221a fc.fc.207f fd.fd.b2 fe.fe.25a0 ff.ff.a0"]

def cp862 : CodePage := read [
    "0.7f.0 80.9a.5d0 9b.9c.a2 9d.9d.a5 9e.9e.20a7 9f.9f.192 a0.a0.e1 a1.a1.ed a2.a2.f3",
    "a3.a3.fa a4.a4.f1 a5.a5.d1 a6.a6.aa a7.a7.ba a8.a8.bf a9.a9.2310 aa.aa.ac ab.ab.bd",
    "ac.ac.bc ad.ad.a1 ae.ae.ab af.af.bb b0.b2.2591 b3.b3.2502 b4.b4.2524 b5.b6.2561 b7.b7.2556",
    "b8.b8.2555 b9.b9.2563 ba.ba.2551 bb.bb.2557 bc.bc.255d bd.bd.255c be.be.255b bf.bf.2510",
    "c0.c0.2514 c1.c1.2534 c2.c2.252c c3.c3.251c c4.c4.2500 c5.c5.253c c6.c7.255e c8.c8.255a",
    "c9.c9.2554 ca.ca.2569 cb.cb.2566 cc.cc.2560 cd.cd.2550 ce.ce.256c cf.d0.2567 d1.d2.2564",
    "d3.d3.2559 d4.d4.2558 d5.d6.2552 d7.d7.256b d8.d8.256a d9.d9.2518 da.da.250c db.db.2588",
    "dc.dc.2584 dd.dd.258c de.de.2590 df.df.2580 e0.e0.3b1 e1.e1.df e2.e2.393 e3.e3.3c0",
    "e4.e4.3a3 e5.e5.3c3 e6.e6.b5 e7.e7.3c4 e8.e8.3a6 e9.e9.398 ea.ea.3a9 eb.eb.3b4 ec.ec.221e",
    "ed.ed.3c6 ee.ee.3b5 ef.ef.2229 f0.f0.2261 f1.f1.b1 f2.f2.2265 f3.f3.2264 f4.f5.2320",
    "f6.f6.f7 f7.f7.2248 f8.f8.b0 f9.f9.2219 fa.fa.b7 fb.fb.221a fc.fc.207f fd.fd.b2 fe.fe.25a0",
    "ff.ff.a0"]

def cp863 : CodePage := read [
    "0.7f.0 80.80.c7 81.81.fc 82.82.e9 83.83.e2 84.84.c2 85.85.e0 86.86.b6 87.87.e7 88.89.ea",
    "8a.8a.e8 8b.8b.ef 8c.8c.ee 8d.8d.2017 8e.8e.c0 8f.8f.a7 90.90.c9 91.91.c8 92.92.ca",
    "93.93.f4 94.94.cb 95.95.cf 96.96.fb 97.97.f9 98.98.a4 99.99.d4 9a.9a.dc 9b.9c.a2 9d.9d.d9",
    "9e.9e.db 9f.9f.192 a0.a0.a6 a1.a1.b4 a2.a2.f3 a3.a3.fa a4.a4.a8 a5.a5.b8 a6.a6.b3 a7.a7.af",
    "a8.a8.ce a9.a9.2310 aa.aa.ac ab.ab.bd ac.ac.bc ad.ad.be ae.ae.ab af.af.bb b0.b2.2591",
    "b3.b3.2502 b4.b4.2524 b5.b6.2561 b7.b7.2556 b8.b8.2555 b9.b9.2563 ba.ba.2551 bb.bb.2557",
    "bc.bc.255d bd.bd.255c be.be.255b bf.bf.2510 c0.c0.2514 c1.c1.2534 c2.c2.252c c3.c3.251c",
    "c4.c4.2500 c5.c5.253c c6.c7.255e c8.c8.255a c9.c9.2554 ca.ca.2569 cb.cb.2566 cc.cc.2560",
    "cd.cd.2550 ce.ce.256c cf.d0.2567 d1.d2.2564 d3.d3.2559 d4.d4.2558 d5.d6.2552 d7.d7.256b",
    "d8.d8.256a d9.d9.2518 da.da.250c db.db.2588 dc.dc.2584 dd.dd.258c de.de.2590 df.df.2580",
    "e0.e0.3b1 e1.e1.df e2.e2.393 e3.e3.3c0 e4.e4.3a3 e5.e5.3c3 e6.e6.b5 e7.e7.3c4 e8.e8.3a6",
    "e9.e9.398 ea.ea.3a9 eb.eb.3b4 ec.ec.221e ed.ed.3c6 ee.ee.3b5 ef.ef.2229 f0.f0.2261",
    "f1.f1.b1 f2.f2.2265 f3.f3.2264 f4.f5.2320 f6.f6.f7 f7.f7.2248 f8.f8.b0 f9.f9.2219 fa.fa.b7",
    "fb.fb.221a fc.fc.207f fd.fd.b2 fe.fe.25a0 ff.ff.a0"]

def cp864 : CodePage := read [
    "0.24.0 25.25.66a 26.7f.26 80.80.b0 81.81.b7 82.83.2219 84.84.2592 85.85.2500 86.86.2502",
    "87.87.253c 88.88.2524 89.89.252c 8a.8a.251c 8b.8b.2534 8c.8c.2510 8d.8d.250c 8e.8e.2514",
    "8f.8f.2518 90.90.3b2 91.91.221e 92.92.3c6 93.93.b1 94.94.bd 95.95.bc 96.96.2248 97.97.ab",
    "98.98.bb 99.9a.fef7 9d.9e.fefb a0.a0.a0 a1.a1.ad a2.a2.fe82 a3.a4.a3 a5.a5.fe84 a8.a9.fe8e",
    "aa.aa.fe95 ab.ab.fe99 ac.ac.60c ad.ad.fe9d ae.ae.fea1 af.af.fea5 b0.b9.660 ba.ba.fed1",
    "bb.bb.61b bc.bc.feb1 bd.bd.feb5 be.be.feb9 bf.bf.61f c0.c0.a2 c1.c2.fe80 c3.c3.fe83",
    "c4.c4.fe85 c5.c5.feca c6.c6.fe8b c7.c7.fe8d c8.c8.fe91 c9.c9.fe93 ca.ca.fe97 cb.cb.fe9b",
    "cc.cc.fe9f cd.cd.fea3 ce.ce.fea7 cf.cf.fea9 d0.d0.feab d1.d1.fead d2.d2.feaf d3.d3.feb3",
    "d4.d4.feb7 d5.d5.febb d6.d6.febf d7.d7.fec1 d8.d8.fec5 d9.d9.fecb da.da.fecf db.db.a6",
    "dc.dc.ac dd.dd.f7 de.de.d7 df.df.fec9 e0.e0.640 e1.e1.fed3 e2.e2.fed7 e3.e3.fedb",
    "e4.e4.fedf e5.e5.fee3 e6.e6.fee7 e7.e7.feeb e8.e8.feed e9.e9.feef ea.ea.fef3 eb.eb.febd",
    "ec.ec.fecc ed.ed.fece ee.ee.fecd ef.ef.fee1 f0.f0.fe7d f1.f1.651 f2.f2.fee5 f3.f3.fee9",
    "f4.f4.feec f5.f5.fef0 f6.f6.fef2 f7.f7.fed0 f8.f8.fed5 f9.fa.fef5 fb.fb.fedd fc.fc.fed9",
    "fd.fd.fef1 fe.fe.25a0"]

def cp865 : CodePage := read [
    "0.7f.0 80.80.c7 81.81.fc 82.82.e9 83.83.e2 84.84.e4 85.85.e0 86.86.e5 87.87.e7 88.89.ea",
    "8a.8a.e8 8b.8b.ef 8c.8c.ee 8d.8d.ec 8e.8f.c4 90.90.c9 91.91.e6 92.92.c6 93.93.f4 94.94.f6",
    "95.95.f2 96.96.fb 97.97.f9 98.98.ff 99.99.d6 9a.9a.dc 9b.9b.f8 9c.9c.a3 9d.9d.d8",
    "9e.9e.20a7 9f.9f.192 a0.a0.e1 a1.a1.ed a2.a2.f3 a3.a3.fa a4.a4.f1 a5.a5.d1 a6.a6.aa",
    "a7.a7.ba a8.a8.bf a9.a9.2310 aa.aa.ac ab.ab.bd ac.ac.bc ad.ad.a1 ae.ae.ab af.af.a4",
    "b0.b2.2591 b3.b3.2502 b4.b4.2524 b5.b6.2561 b7.b7.2556 b8.b8.2555 b9.b9.2563 ba.ba.2551",
    "bb.bb.2557 bc.bc.255d bd.bd.255c be.be.255b bf.bf.2510 c0.c0.2514 c1.c1.2534 c2.c2.252c",
    "c3.c3.251c c4.c4.2500 c5.c5.253c c6.c7.255e c8.c8.255a c9.c9.2554 ca.ca.2569 cb.cb.2566",
    "cc.cc.2560 cd.cd.2550 ce.ce.256c cf.d0.2567 d1.d2.2564 d3.d3.2559 d4.d4.2558 d5.d6.2552",
    "d7.d7.256b d8.d8.256a d9.d9.2518 da.da.250c db.db.2588 dc.dc.2584 dd.dd.258c de.de.2590",
    "df.df.2580 e0.e0.3b1 e1.e1.df e2.e2.393 e3.e3.3c0 e4.e4.3a3 e5.e5.3c3 e6.e6.b5 e7.e7.3c4",
    "e8.e8.3a6 e9.e9.398 ea.ea.3a9 eb.eb.3b4 ec.ec.221e ed.ed.3c6 ee.ee.3b5 ef.ef.2229",
    "f0.f0.2261 f1.f1.b1 f2.f2.2265 f3.f3.2264 f4.f5.2320 f6.f6.f7 f7.f7.2248 f8.f8.b0",
    "f9.f9.2219 fa.fa.b7 fb.fb.221a fc.fc.207f fd.fd.b2 fe.fe.25a0 ff.ff.a0"]

def cp866 : CodePage := read [
    "0.7f.0 80.af.410 b0.b2.2591 b3.b3.2502 b4.b4.2524 b5.b6.2561 b7.b7.2556 b8.b8.2555",
    "b9.b9.2563 ba.ba.2551 bb.bb.2557 bc.bc.255d bd.bd.255c be.be.255b bf.bf.2510 c0.c0.2514",
    "c1.c1.2534 c2.c2.252c c3.c3.251c c4.c4.2500 c5.c5.253c c6.c7.255e c8.c8.255a c9.c9.2554",
    "ca.ca.2569 cb.cb.2566 cc.cc.2560 cd.cd.2550 ce.ce.256c cf.d0.2567 d1.d2.2564 d3.d3.2559",
    "d4.d4.2558 d5.d6.2552 d7.d7.256b d8.d8.256a d9.d9.2518 da.da.250c db.db.2588 dc.dc.2584",
    "dd.dd.258c de.de.2590 df.df.2580 e0.ef.440 f0.f0.401 f1.f1.451 f2.f2.404 f3.f3.454",
    "f4.f4.407 f5.f5.457 f6.f6.40e f7.f7.45e f8.f8.b0 f9.f9.2219 fa.fa.b7 fb.fb.221a fc.fc.2116",
    "fd.fd.a4 fe.fe.25a0 ff.ff.a0"]

def cp869 : CodePage := read [
    "0.7f.0 86.86.386 88.88.b7 89.89.ac 8a.8a.a6 8b.8c.2018 8d.8d.388 8e.8e.2015 8f.90.389",
    "91.91.3aa 92.92.38c 95.95.38e 96.96.3ab 97.97.a9 98.98.38f 99.9a.b2 9b.9b.3ac 9c.9c.a3",
    "9d.9f.3ad a0.a0.3ca a1.a1.390 a2.a3.3cc a4.aa.391 ab.ab.bd ac.ad.398 ae.ae.ab af.af.bb",
    "b0.b2.2591 b3.b3.2502 b4.b4.2524 b5.b8.39a b9.b9.2563 ba.ba.2551 bb.bb.2557 bc.bc.255d",
    "bd.be.39e bf.bf.2510 c0.c0.2514 c1.c1.2534 c2.c2.252c c3.c3.251c c4.c4.2500 c5.c5.253c",
    "c6.c7.3a0 c8.c8.255a c9.c9.2554 ca.ca.2569 cb.cb.2566 cc.cc.2560 cd.cd.2550 ce.ce.256c",
    "cf.d5.3a3 d6.d8.3b1 d9.d9.2518 da.da.250c db.db.2588 dc.dc.2584 dd.de.3b4 df.df.2580",
    "e0.eb.3b6 ec.ec.3c3 ed.ed.3c2 ee.ee.3c4 ef.ef.384 f0.f0.ad f1.f1.b1 f2.f4.3c5 f5.f5.a7",
    "f6.f6.3c8 f7.f7.385 f8.f8.b0 f9.f9.a8 fa.fa.3c9 fb.fb.3cb fc.fc.3b0 fd.fd.3ce fe.fe.25a0",
    "ff.ff.a0"]

def cp1006 : CodePage := read [
    "0.a0.0 a1.aa.6f0 ab.ab.60c ac.ac.61b ad.ad.ad ae.ae.61f af.af.fe81 b0.b1.fe8d b2.b3.fe8e",
    "b4.b4.fe91 b5.b5.fb56 b6.b6.fb58 b7.b7.fe93 b8.b8.fe95 b9.b9.fe97 ba.ba.fb66 bb.bb.fb68",
    "bc.bc.fe99 bd.bd.fe9b be.be.fe9d bf.bf.fe9f c0.c0.fb7a c1.c1.fb7c c2.c2.fea1 c3.c3.fea3",
    "c4.c4.fea5 c5.c5.fea7 c6.c6.fea9 c7.c7.fb84 c8.c8.feab c9.c9.fead ca.ca.fb8c cb.cb.feaf",
    "cc.cc.fb8a cd.cd.feb1 ce.ce.feb3 cf.cf.feb5 d0.d0.feb7 d1.d1.feb9 d2.d2.febb d3.d3.febd",
    "d4.d4.febf d5.d5.fec1 d6.d6.fec5 d7.df.fec9 e0.e0.fed3 e1.e1.fed5 e2.e2.fed7 e3.e3.fed9",
    "e4.e4.fedb e5.e5.fb92 e6.e6.fb94 e7.e7.fedd e8.ea.fedf eb.eb.fee3 ec.ec.fb9e ed.ed.fee5",
    "ee.ee.fee7 ef.ef.fe85 f0.f0.feed f1.f1.fba6 f2.f4.fba8 f5.f5.fe80 f6.f8.fe89 f9.fb.fef1",
    "fc.fc.fbb0 fd.fd.fbae fe.ff.fe7c"]

def cp1125 : CodePage := read [
    "0.7f.0 80.af.410 b0.b2.2591 b3.b3.2502 b4.b4.2524 b5.b6.2561 b7.b7.2556 b8.b8.2555",
    "b9.b9.2563 ba.ba.2551 bb.bb.2557 bc.bc.255d bd.bd.255c be.be.255b bf.bf.2510 c0.c0.2514",
    "c1.c1.2534 c2.c2.252c c3.c3.251c c4.c4.2500 c5.c5.253c c6.c7.255e c8.c8.255a c9.c9.2554",
    "ca.ca.2569 cb.cb.2566 cc.cc.2560 cd.cd.2550 ce.ce.256c cf.d0.2567 d1.d2.2564 d3.d3.2559",
    "d4.d4.2558 d5.d6.2552 d7.d7.256b d8.d8.256a d9.d9.2518 da.da.250c db.db.2588 dc.dc.2584",
    "dd.dd.258c de.de.2590 df.df.2580 e0.ef.440 f0.f0.401 f1.f1.451 f2.f3.490 f4.f4.404",
    "f5.f5.454 f6.f6.406 f7.f7.456 f8.f8.407 f9.f9.457 fa.fa.b7 fb.fb.221a fc.fc.2116 fd.fd.a4",
    "fe.fe.25a0 ff.ff.a0"]

end Dispatch.CodePage
