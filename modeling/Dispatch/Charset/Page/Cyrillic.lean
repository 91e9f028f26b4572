import Dispatch.Charset.Page.Basic

/-! Code pages for Cyrillic beside those of the other families. An entry holds the first and the
last byte of a run and the code point of the first one.
-/

namespace Dispatch.CodePage

def koi8R : CodePage := read [
    "0.7f.0 80.80.2500 81.81.2502 82.82.250c 83.83.2510 84.84.2514 85.85.2518 86.86.251c",
    "87.87.2524 88.88.252c 89.89.2534 8a.8a.253c 8b.8b.2580 8c.8c.2584 8d.8d.2588 8e.8e.258c",
    "8f.92.2590 93.93.2320 94.94.25a0 95.96.2219 97.97.2248 98.99.2264 9a.9a.a0 9b.9b.2321",
    "9c.9c.b0 9d.9d.b2 9e.9e.b7 9f.9f.f7 a0.a2.2550 a3.a3.451 a4.b2.2553 b3.b3.401 b4.be.2562",
    "bf.bf.a9 c0.c0.44e c1.c2.430 c3.c3.446 c4.c5.434 c6.c6.444 c7.c7.433 c8.c8.445 c9.d0.438",
    "d1.d1.44f d2.d5.440 d6.d6.436 d7.d7.432 d8.d8.44c d9.d9.44b da.da.437 db.db.448 dc.dc.44d",
    "dd.dd.449 de.de.447 df.df.44a e0.e0.42e e1.e2.410 e3.e3.426 e4.e5.414 e6.e6.424 e7.e7.413",
    "e8.e8.425 e9.f0.418 f1.f1.42f f2.f5.420 f6.f6.416 f7.f7.412 f8.f8.42c f9.f9.42b fa.fa.417",
    "fb.fb.428 fc.fc.42d fd.fd.429 fe.fe.427 ff.ff.42a"]

def koi8T : CodePage := read [
    "0.7f.0 80.80.49b 81.81.493 82.82.201a 83.83.492 84.84.201e 85.85.2026 86.87.2020",
    "89.89.2030 8a.8a.4b3 8b.8b.2039 8c.8c.4b2 8d.8d.4b7 8e.8e.4b6 90.90.49a 91.92.2018",
    "93.94.201c 95.95.2022 96.97.2013 99.99.2122 9b.9b.203a a1.a1.4ef a2.a2.4ee a3.a3.451",
    "a4.a4.a4 a5.a5.4e3 a6.a7.a6 ab.ae.ab b0.b2.b0 b3.b3.401 b5.b5.4e2 b6.b7.b6 b9.b9.2116",
    "bb.bb.bb bf.bf.a9 c0.c0.44e c1.c2.430 c3.c3.446 c4.c5.434 c6.c6.444 c7.c7.433 c8.c8.445",
    "c9.d0.438 d1.d1.44f d2.d5.440 d6.d6.436 d7.d7.432 d8.d8.44c d9.d9.44b da.da.437 db.db.448",
    "dc.dc.44d dd.dd.449 de.de.447 df.df.44a e0.e0.42e e1.e2.410 e3.e3.426 e4.e5.414 e6.e6.424",
    "e7.e7.413 e8.e8.425 e9.f0.418 f1.f1.42f f2.f5.420 f6.f6.416 f7.f7.412 f8.f8.42c f9.f9.42b",
    "fa.fa.417 fb.fb.428 fc.fc.42d fd.fd.429 fe.fe.427 ff.ff.42a"]

def koi8U : CodePage := read [
    "0.7f.0 80.80.2500 81.81.2502 82.82.250c 83.83.2510 84.84.2514 85.85.2518 86.86.251c",
    "87.87.2524 88.88.252c 89.89.2534 8a.8a.253c 8b.8b.2580 8c.8c.2584 8d.8d.2588 8e.8e.258c",
    "8f.92.2590 93.93.2320 94.94.25a0 95.96.2219 97.97.2248 98.99.2264 9a.9a.a0 9b.9b.2321",
    "9c.9c.b0 9d.9d.b2 9e.9e.b7 9f.9f.f7 a0.a2.2550 a3.a3.451 a4.a4.454 a5.a5.2554 a6.a7.456",
    "a8.ac.2557 ad.ad.491 ae.b2.255d b3.b3.401 b4.b4.404 b5.b5.2563 b6.b7.406 b8.bc.2566",
    "bd.bd.490 be.be.256c bf.bf.a9 c0.c0.44e c1.c2.430 c3.c3.446 c4.c5.434 c6.c6.444 c7.c7.433",
    "c8.c8.445 c9.d0.438 d1.d1.44f d2.d5.440 d6.d6.436 d7.d7.432 d8.d8.44c d9.d9.44b da.da.437",
    "db.db.448 dc.dc.44d dd.dd.449 de.de.447 df.df.44a e0.e0.42e e1.e2.410 e3.e3.426 e4.e5.414",
    "e6.e6.424 e7.e7.413 e8.e8.425 e9.f0.418 f1.f1.42f f2.f5.420 f6.f6.416 f7.f7.412 f8.f8.42c",
    "f9.f9.42b fa.fa.417 fb.fb.428 fc.fc.42d fd.fd.429 fe.fe.427 ff.ff.42a"]

def kz1048 : CodePage := read [
    "0.7f.0 80.81.402 82.82.201a 83.83.453 84.84.201e 85.85.2026 86.87.2020 88.88.20ac",
    "89.89.2030 8a.8a.409 8b.8b.2039 8c.8c.40a 8d.8d.49a 8e.8e.4ba 8f.8f.40f 90.90.452",
    "91.92.2018 93.94.201c 95.95.2022 96.97.2013 99.99.2122 9a.9a.459 9b.9b.203a 9c.9c.45a",
    "9d.9d.49b 9e.9e.4bb 9f.9f.45f a0.a0.a0 a1.a2.4b0 a3.a3.4d8 a4.a4.a4 a5.a5.4e8 a6.a7.a6",
    "a8.a8.401 a9.a9.a9 aa.aa.492 ab.ae.ab af.af.4ae b0.b1.b0 b2.b2.406 b3.b3.456 b4.b4.4e9",
    "b5.b7.b5 b8.b8.451 b9.b9.2116 ba.ba.493 bb.bb.bb bc.bc.4d9 bd.be.4a2 bf.bf.4af c0.ff.410"]

def ptcp154 : CodePage := read [
    "0.7f.0 80.80.496 81.81.492 82.82.4ee 83.83.493 84.84.201e 85.85.2026 86.86.4b6 87.87.4ae",
    "88.88.4b2 89.89.4af 8a.8a.4a0 8b.8b.4e2 8c.8c.4a2 8d.8d.49a 8e.8e.4ba 8f.8f.4b8 90.90.497",
    "91.92.2018 93.94.201c 95.95.2022 96.97.2013 98.98.4b3 99.99.4b7 9a.9a.4a1 9b.9b.4e3",
    "9c.9c.4a3 9d.9d.49b 9e.9e.4bb 9f.9f.4b9 a0.a0.a0 a1.a1.40e a2.a2.45e a3.a3.408 a4.a4.4e8",
    "a5.a5.498 a6.a6.4b0 a7.a7.a7 a8.a8.401 a9.a9.a9 aa.aa.4d8 ab.ac.ab ad.ad.4ef ae.ae.ae",
    "af.af.49c b0.b0.b0 b1.b1.4b1 b2.b2.406 b3.b3.456 b4.b4.499 b5.b5.4e9 b6.b7.b6 b8.b8.451",
    "b9.b9.2116 ba.ba.4d9 bb.bb.bb bc.bc.458 bd.be.4aa bf.bf.49d c0.ff.410"]

end Dispatch.CodePage
