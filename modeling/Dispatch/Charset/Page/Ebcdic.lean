import Dispatch.Charset.Page.Basic

/-! Code pages of mainframes, whose letters and digits lie apart from those of ASCII. An entry holds
the first and the last byte of a run and the code point of the first one.
-/

namespace Dispatch.CodePage

def cp037 : CodePage := read [
    "0.3.0 4.4.9c 5.5.9 6.6.86 7.7.7f 8.8.97 9.a.8d b.13.b 14.14.9d 15.15.85 16.16.8 17.17.87",
    "18.19.18 1a.1a.92 1b.1b.8f 1c.1f.1c 20.24.80 25.25.a 26.26.17 27.27.1b 28.2c.88 2d.2f.5",
    "30.31.90 32.32.16 33.36.93 37.37.4 38.3b.98 3c.3d.14 3e.3e.9e 3f.3f.1a 40.40.20 41.41.a0",
    "42.42.e2 43.43.e4 44.45.e0 46.46.e3 47.47.e5 48.48.e7 49.49.f1 4a.4a.a2 4b.4b.2e 4c.4c.3c",
    "4d.4d.28 4e.4e.2b 4f.4f.7c 50.50.26 51.53.e9 54.54.e8 55.57.ed 58.58.ec 59.59.df 5a.5a.21",
    "5b.5b.24 5c.5c.2a 5d.5d.29 5e.5e.3b 5f.5f.ac 60.60.2d 61.61.2f 62.62.c2 63.63.c4 64.65.c0",
    "66.66.c3 67.67.c5 68.68.c7 69.69.d1 6a.6a.a6 6b.6b.2c 6c.6c.25 6d.6d.5f 6e.6f.3e 70.70.f8",
    "71.73.c9 74.74.c8 75.77.cd 78.78.cc 79.79.60 7a.7a.3a 7b.7b.23 7c.7c.40 7d.7d.27 7e.7e.3d",
    "7f.7f.22 80.80.d8 81.89.61 8a.8a.ab 8b.8b.bb 8c.8c.f0 8d.8e.fd 8f.8f.b1 90.90.b0 91.99.6a",
    "9a.9a.aa 9b.9b.ba 9c.9c.e6 9d.9d.b8 9e.9e.c6 9f.9f.a4 a0.a0.b5 a1.a1.7e a2.a9.73 aa.aa.a1",
    "ab.ab.bf ac.ac.d0 ad.ae.dd af.af.ae b0.b0.5e b1.b1.a3 b2.b2.a5 b3.b3.b7 b4.b4.a9 b5.b5.a7",
    "b6.b6.b6 b7.b9.bc ba.ba.5b bb.bb.5d bc.bc.af bd.bd.a8 be.be.b4 bf.bf.d7 c0.c0.7b c1.c9.41",
    "ca.ca.ad cb.cb.f4 cc.cc.f6 cd.ce.f2 cf.cf.f5 d0.d0.7d d1.d9.4a da.da.b9 db.dc.fb dd.de.f9",
    "df.df.ff e0.e0.5c e1.e1.f7 e2.e9.53 ea.ea.b2 eb.eb.d4 ec.ec.d6 ed.ee.d2 ef.ef.d5 f0.f9.30",
    "fa.fa.b3 fb.fc.db fd.fe.d9 ff.ff.9f"]

def cp273 : CodePage := read [
    "0.3.0 4.4.9c 5.5.9 6.6.86 7.7.7f 8.8.97 9.a.8d b.13.b 14.14.9d 15.15.85 16.16.8 17.17.87",
    "18.19.18 1a.1a.92 1b.1b.8f 1c.1f.1c 20.24.80 25.25.a 26.26.17 27.27.1b 28.2c.88 2d.2f.5",
    "30.31.90 32.32.16 33.36.93 37.37.4 38.3b.98 3c.3d.14 3e.3e.9e 3f.3f.1a 40.40.20 41.41.a0",
    "42.42.e2 43.43.7b 44.45.e0 46.46.e3 47.47.e5 48.48.e7 49.49.f1 4a.4a.c4 4b.4b.2e 4c.4c.3c",
    "4d.4d.28 4e.4e.2b 4f.4f.21 50.50.26 51.53.e9 54.54.e8 55.57.ed 58.58.ec 59.59.7e 5a.5a.dc",
    "5b.5b.24 5c.5c.2a 5d.5d.29 5e.5e.3b 5f.5f.5e 60.60.2d 61.61.2f 62.62.c2 63.63.5b 64.65.c0",
    "66.66.c3 67.67.c5 68.68.c7 69.69.d1 6a.6a.f6 6b.6b.2c 6c.6c.25 6d.6d.5f 6e.6f.3e 70.70.f8",
    "71.73.c9 74.74.c8 75.77.cd 78.78.cc 79.79.60 7a.7a.3a 7b.7b.23 7c.7c.a7 7d.7d.27 7e.7e.3d",
    "7f.7f.22 80.80.d8 81.89.61 8a.8a.ab 8b.8b.bb 8c.8c.f0 8d.8e.fd 8f.8f.b1 90.90.b0 91.99.6a",
    "9a.9a.aa 9b.9b.ba 9c.9c.e6 9d.9d.b8 9e.9e.c6 9f.9f.a4 a0.a0.b5 a1.a1.df a2.a9.73 aa.aa.a1",
    "ab.ab.bf ac.ac.d0 ad.ae.dd af.af.ae b0.b1.a2 b2.b2.a5 b3.b3.b7 b4.b4.a9 b5.b5.40 b6.b6.b6",
    "b7.b9.bc ba.ba.ac bb.bb.7c bc.bc.203e bd.bd.a8 be.be.b4 bf.bf.d7 c0.c0.e4 c1.c9.41",
    "ca.ca.ad cb.cb.f4 cc.cc.a6 cd.ce.f2 cf.cf.f5 d0.d0.fc d1.d9.4a da.da.b9 db.db.fb dc.dc.7d",
    "dd.de.f9 df.df.ff e0.e0.d6 e1.e1.f7 e2.e9.53 ea.ea.b2 eb.eb.d4 ec.ec.5c ed.ee.d2 ef.ef.d5",
    "f0.f9.30 fa.fa.b3 fb.fb.db fc.fc.5d fd.fe.d9 ff.ff.9f"]

def cp424 : CodePage := read [
    "0.3.0 4.4.9c 5.5.9 6.6.86 7.7.7f 8.8.97 9.a.8d b.13.b 14.14.9d 15.15.85 16.16.8 17.17.87",
    "18.19.18 1a.1a.92 1b.1b.8f 1c.1f.1c 20.24.80 25.25.a 26.26.17 27.27.1b 28.2c.88 2d.2f.5",
    "30.31.90 32.32.16 33.36.93 37.37.4 38.3b.98 3c.3d.14 3e.3e.9e 3f.3f.1a 40.40.20 41.49.5d0",
    "4a.4a.a2 4b.4b.2e 4c.4c.3c 4d.4d.28 4e.4e.2b 4f.4f.7c 50.50.26 51.59.5d9 5a.5a.21 5b.5b.24",
    "5c.5c.2a 5d.5d.29 5e.5e.3b 5f.5f.ac 60.60.2d 61.61.2f 62.69.5e2 6a.6a.a6 6b.6b.2c 6c.6c.25",
    "6d.6d.5f 6e.6f.3e 71.71.5ea 74.74.a0 78.78.2017 79.79.60 7a.7a.3a 7b.7b.23 7c.7c.40",
    "7d.7d.27 7e.7e.3d 7f.7f.22 81.89.61 8a.8a.ab 8b.8b.bb 8f.8f.b1 90.90.b0 91.99.6a 9d.9d.b8",
    "9f.9f.a4 a0.a0.b5 a1.a1.7e a2.a9.73 af.af.ae b0.b0.5e b1.b1.a3 b2.b2.a5 b3.b3.b7 b4.b4.a9",
    "b5.b5.a7 b6.b6.b6 b7.b9.bc ba.ba.5b bb.bb.5d bc.bc.af bd.bd.a8 be.be.b4 bf.bf.d7 c0.c0.7b",
    "c1.c9.41 ca.ca.ad d0.d0.7d d1.d9.4a da.da.b9 e0.e0.5c e1.e1.f7 e2.e9.53 ea.ea.b2 f0.f9.30",
    "fa.fa.b3 ff.ff.9f"]

def cp500 : CodePage := read [
    "0.3.0 4.4.9c 5.5.9 6.6.86 7.7.7f 8.8.97 9.a.8d b.13.b 14.14.9d 15.15.85 16.16.8 17.17.87",
    "18.19.18 1a.1a.92 1b.1b.8f 1c.1f.1c 20.24.80 25.25.a 26.26.17 27.27.1b 28.2c.88 2d.2f.5",
    "30.31.90 32.32.16 33.36.93 37.37.4 38.3b.98 3c.3d.14 3e.3e.9e 3f.3f.1a 40.40.20 41.41.a0",
    "42.42.e2 43.43.e4 44.45.e0 46.46.e3 47.47.e5 48.48.e7 49.49.f1 4a.4a.5b 4b.4b.2e 4c.4c.3c",
    "4d.4d.28 4e.4e.2b 4f.4f.21 50.50.26 51.53.e9 54.54.e8 55.57.ed 58.58.ec 59.59.df 5a.5a.5d",
    "5b.5b.24 5c.5c.2a 5d.5d.29 5e.5e.3b 5f.5f.5e 60.60.2d 61.61.2f 62.62.c2 63.63.c4 64.65.c0",
    "66.66.c3 67.67.c5 68.68.c7 69.69.d1 6a.6a.a6 6b.6b.2c 6c.6c.25 6d.6d.5f 6e.6f.3e 70.70.f8",
    "71.73.c9 74.74.c8 75.77.cd 78.78.cc 79.79.60 7a.7a.3a 7b.7b.23 7c.7c.40 7d.7d.27 7e.7e.3d",
    "7f.7f.22 80.80.d8 81.89.61 8a.8a.ab 8b.8b.bb 8c.8c.f0 8d.8e.fd 8f.8f.b1 90.90.b0 91.99.6a",
    "9a.9a.aa 9b.9b.ba 9c.9c.e6 9d.9d.b8 9e.9e.c6 9f.9f.a4 a0.a0.b5 a1.a1.7e a2.a9.73 aa.aa.a1",
    "ab.ab.bf ac.ac.d0 ad.ae.dd af.af.ae b0.b1.a2 b2.b2.a5 b3.b3.b7 b4.b4.a9 b5.b5.a7 b6.b6.b6",
    "b7.b9.bc ba.ba.ac bb.bb.7c bc.bc.af bd.bd.a8 be.be.b4 bf.bf.d7 c0.c0.7b c1.c9.41 ca.ca.ad",
    "cb.cb.f4 cc.cc.f6 cd.ce.f2 cf.cf.f5 d0.d0.7d d1.d9.4a da.da.b9 db.dc.fb dd.de.f9 df.df.ff",
    "e0.e0.5c e1.e1.f7 e2.e9.53 ea.ea.b2 eb.eb.d4 ec.ec.d6 ed.ee.d2 ef.ef.d5 f0.f9.30 fa.fa.b3",
    "fb.fc.db fd.fe.d9 ff.ff.9f"]

def cp875 : CodePage := read [
    "0.3.0 4.4.9c 5.5.9 6.6.86 7.7.7f 8.8.97 9.a.8d b.13.b 14.14.9d 15.15.85 16.16.8 17.17.87",
    "18.19.18 1a.1a.92 1b.1b.8f 1c.1f.1c 20.24.80 25.25.a 26.26.17 27.27.1b 28.2c.88 2d.2f.5",
    "30.31.90 32.32.16 33.36.93 37.37.4 38.3b.98 3c.3d.14 3e.3e.9e 3f.3f.1a 40.40.20 41.49.391",
    "4a.4a.5b 4b.4b.2e 4c.4c.3c 4d.4d.28 4e.4e.2b 4f.4f.21 50.50.26 51.58.39a 59.59.3a3",
    "5a.5a.5d 5b.5b.24 5c.5c.2a 5d.5d.29 5e.5e.3b 5f.5f.5e 60.60.2d 61.61.2f 62.69.3a4 6a.6a.7c",
    "6b.6b.2c 6c.6c.25 6d.6d.5f 6e.6f.3e 70.70.a8 71.71.386 72.73.388 74.74.a0 75.75.38a",
    "76.76.38c 77.78.38e 79.79.60 7a.7a.3a 7b.7b.23 7c.7c.40 7d.7d.27 7e.7e.3d 7f.7f.22",
    "80.80.385 81.89.61 8a.8f.3b1 90.90.b0 91.99.6a 9a.9f.3b7 a0.a0.b4 a1.a1.7e a2.a9.73",
    "aa.ae.3bd af.af.3c3 b0.b0.a3 b1.b3.3ac b4.b4.3ca b5.b5.3af b6.b7.3cc b8.b8.3cb b9.b9.3ce",
    "ba.ba.3c2 bb.bf.3c4 c0.c0.7b c1.c9.41 ca.ca.ad cb.cb.3c9 cc.cc.390 cd.cd.3b0 ce.ce.2018",
    "cf.cf.2015 d0.d0.7d d1.d9.4a da.da.b1 db.db.bd dc.dc.1a dd.dd.387 de.de.2019 df.df.a6",
    "e0.e0.5c e1.e1.1a e2.e9.53 ea.ea.b2 eb.eb.a7 ec.ec.1a ed.ed.1a ee.ef.ab f0.f9.30 fa.fa.b3",
    "fb.fb.a9 fc.fc.1a fd.fd.1a fe.fe.bb ff.ff.9f"]

def cp1026 : CodePage := read [
    "0.3.0 4.4.9c 5.5.9 6.6.86 7.7.7f 8.8.97 9.a.8d b.13.b 14.14.9d 15.15.85 16.16.8 17.17.87",
    "18.19.18 1a.1a.92 1b.1b.8f 1c.1f.1c 20.24.80 25.25.a 26.26.17 27.27.1b 28.2c.88 2d.2f.5",
    "30.31.90 32.32.16 33.36.93 37.37.4 38.3b.98 3c.3d.14 3e.3e.9e 3f.3f.1a 40.40.20 41.41.a0",
    "42.42.e2 43.43.e4 44.45.e0 46.46.e3 47.47.e5 48.48.7b 49.49.f1 4a.4a.c7 4b.4b.2e 4c.4c.3c",
    "4d.4d.28 4e.4e.2b 4f.4f.21 50.50.26 51.53.e9 54.54.e8 55.57.ed 58.58.ec 59.59.df 5a.5a.11e",
    "5b.5b.130 5c.5c.2a 5d.5d.29 5e.5e.3b 5f.5f.5e 60.60.2d 61.61.2f 62.62.c2 63.63.c4 64.65.c0",
    "66.66.c3 67.67.c5 68.68.5b 69.69.d1 6a.6a.15f 6b.6b.2c 6c.6c.25 6d.6d.5f 6e.6f.3e 70.70.f8",
    "71.73.c9 74.74.c8 75.77.cd 78.78.cc 79.79.131 7a.7a.3a 7b.7b.d6 7c.7c.15e 7d.7d.27",
    "7e.7e.3d 7f.7f.dc 80.80.d8 81.89.61 8a.8a.ab 8b.8b.bb 8c.8c.7d 8d.8d.60 8e.8e.a6 8f.8f.b1",
    "90.90.b0 91.99.6a 9a.9a.aa 9b.9b.ba 9c.9c.e6 9d.9d.b8 9e.9e.c6 9f.9f.a4 a0.a0.b5 a1.a1.f6",
    "a2.a9.73 aa.aa.a1 ab.ab.bf ac.ac.5d ad.ad.24 ae.ae.40 af.af.ae b0.b1.a2 b2.b2.a5 b3.b3.b7",
    "b4.b4.a9 b5.b5.a7 b6.b6.b6 b7.b9.bc ba.ba.ac bb.bb.7c bc.bc.af bd.bd.a8 be.be.b4 bf.bf.d7",
    "c0.c0.e7 c1.c9.41 ca.ca.ad cb.cb.f4 cc.cc.7e cd.ce.f2 cf.cf.f5 d0.d0.11f d1.d9.4a da.da.b9",
    "db.db.fb dc.dc.5c dd.de.f9 df.df.ff e0.e0.fc e1.e1.f7 e2.e9.53 ea.ea.b2 eb.eb.d4 ec.ec.23",
    "ed.ee.d2 ef.ef.d5 f0.f9.30 fa.fa.b3 fb.fb.db fc.fc.22 fd.fe.d9 ff.ff.9f"]

def cp1140 : CodePage := read [
    "0.3.0 4.4.9c 5.5.9 6.6.86 7.7.7f 8.8.97 9.a.8d b.13.b 14.14.9d 15.15.85 16.16.8 17.17.87",
    "18.19.18 1a.1a.92 1b.1b.8f 1c.1f.1c 20.24.80 25.25.a 26.26.17 27.27.1b 28.2c.88 2d.2f.5",
    "30.31.90 32.32.16 33.36.93 37.37.4 38.3b.98 3c.3d.14 3e.3e.9e 3f.3f.1a 40.40.20 41.41.a0",
    "42.42.e2 43.43.e4 44.45.e0 46.46.e3 47.47.e5 48.48.e7 49.49.f1 4a.4a.a2 4b.4b.2e 4c.4c.3c",
    "4d.4d.28 4e.4e.2b 4f.4f.7c 50.50.26 51.53.e9 54.54.e8 55.57.ed 58.58.ec 59.59.df 5a.5a.21",
    "5b.5b.24 5c.5c.2a 5d.5d.29 5e.5e.3b 5f.5f.ac 60.60.2d 61.61.2f 62.62.c2 63.63.c4 64.65.c0",
    "66.66.c3 67.67.c5 68.68.c7 69.69.d1 6a.6a.a6 6b.6b.2c 6c.6c.25 6d.6d.5f 6e.6f.3e 70.70.f8",
    "71.73.c9 74.74.c8 75.77.cd 78.78.cc 79.79.60 7a.7a.3a 7b.7b.23 7c.7c.40 7d.7d.27 7e.7e.3d",
    "7f.7f.22 80.80.d8 81.89.61 8a.8a.ab 8b.8b.bb 8c.8c.f0 8d.8e.fd 8f.8f.b1 90.90.b0 91.99.6a",
    "9a.9a.aa 9b.9b.ba 9c.9c.e6 9d.9d.b8 9e.9e.c6 9f.9f.20ac a0.a0.b5 a1.a1.7e a2.a9.73",
    "aa.aa.a1 ab.ab.bf ac.ac.d0 ad.ae.dd af.af.ae b0.b0.5e b1.b1.a3 b2.b2.a5 b3.b3.b7 b4.b4.a9",
    "b5.b5.a7 b6.b6.b6 b7.b9.bc ba.ba.5b bb.bb.5d bc.bc.af bd.bd.a8 be.be.b4 bf.bf.d7 c0.c0.7b",
    "c1.c9.41 ca.ca.ad cb.cb.f4 cc.cc.f6 cd.ce.f2 cf.cf.f5 d0.d0.7d d1.d9.4a da.da.b9 db.dc.fb",
    "dd.de.f9 df.df.ff e0.e0.5c e1.e1.f7 e2.e9.53 ea.ea.b2 eb.eb.d4 ec.ec.d6 ed.ee.d2 ef.ef.d5",
    "f0.f9.30 fa.fa.b3 fb.fc.db fd.fe.d9 ff.ff.9f"]

end Dispatch.CodePage
