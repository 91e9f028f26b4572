import Dispatch.Charset.Page.Basic

/-! The parts of ISO 8859 and the Thai national standard. An entry holds the first and the last byte
of a run and the code point of the first one.
-/

namespace Dispatch.CodePage

def iso8859Part2 : CodePage := read [
    "0.a0.0 a1.a1.104 a2.a2.2d8 a3.a3.141 a4.a4.a4 a5.a5.13d a6.a6.15a a7.a8.a7 a9.a9.160",
    "aa.aa.15e ab.ab.164 ac.ac.179 ad.ad.ad ae.ae.17d af.af.17b b0.b0.b0 b1.b1.105 b2.b2.2db",
    "b3.b3.142 b4.b4.b4 b5.b5.13e b6.b6.15b b7.b7.2c7 b8.b8.b8 b9.b9.161 ba.ba.15f bb.bb.165",
    "bc.bc.17a bd.bd.2dd be.be.17e bf.bf.17c c0.c0.154 c1.c2.c1 c3.c3.102 c4.c4.c4 c5.c5.139",
    "c6.c6.106 c7.c7.c7 c8.c8.10c c9.c9.c9 ca.ca.118 cb.cb.cb cc.cc.11a cd.ce.cd cf.cf.10e",
    "d0.d0.110 d1.d1.143 d2.d2.147 d3.d4.d3 d5.d5.150 d6.d7.d6 d8.d8.158 d9.d9.16e da.da.da",
    "db.db.170 dc.dd.dc de.de.162 df.df.df e0.e0.155 e1.e2.e1 e3.e3.103 e4.e4.e4 e5.e5.13a",
    "e6.e6.107 e7.e7.e7 e8.e8.10d e9.e9.e9 ea.ea.119 eb.eb.eb ec.ec.11b ed.ee.ed ef.ef.10f",
    "f0.f0.111 f1.f1.144 f2.f2.148 f3.f4.f3 f5.f5.151 f6.f7.f6 f8.f8.159 f9.f9.16f fa.fa.fa",
    "fb.fb.171 fc.fd.fc fe.fe.163 ff.ff.2d9"]

def iso8859Part3 : CodePage := read [
    "0.a0.0 a1.a1.126 a2.a2.2d8 a3.a4.a3 a6.a6.124 a7.a8.a7 a9.a9.130 aa.aa.15e ab.ab.11e",
    "ac.ac.134 ad.ad.ad af.af.17b b0.b0.b0 b1.b1.127 b2.b5.b2 b6.b6.125 b7.b8.b7 b9.b9.131",
    "ba.ba.15f bb.bb.11f bc.bc.135 bd.bd.bd bf.bf.17c c0.c2.c0 c4.c4.c4 c5.c5.10a c6.c6.108",
    "c7.cf.c7 d1.d4.d1 d5.d5.120 d6.d7.d6 d8.d8.11c d9.dc.d9 dd.dd.16c de.de.15c df.e2.df",
    "e4.e4.e4 e5.e5.10b e6.e6.109 e7.ef.e7 f1.f4.f1 f5.f5.121 f6.f7.f6 f8.f8.11d f9.fc.f9",
    "fd.fd.16d fe.fe.15d ff.ff.2d9"]

def iso8859Part4 : CodePage := read [
    "0.a0.0 a1.a1.104 a2.a2.138 a3.a3.156 a4.a4.a4 a5.a5.128 a6.a6.13b a7.a8.a7 a9.a9.160",
    "aa.aa.112 ab.ab.122 ac.ac.166 ad.ad.ad ae.ae.17d af.b0.af b1.b1.105 b2.b2.2db b3.b3.157",
    "b4.b4.b4 b5.b5.129 b6.b6.13c b7.b7.2c7 b8.b8.b8 b9.b9.161 ba.ba.113 bb.bb.123 bc.bc.167",
    "bd.bd.14a be.be.17e bf.bf.14b c0.c0.100 c1.c6.c1 c7.c7.12e c8.c8.10c c9.c9.c9 ca.ca.118",
    "cb.cb.cb cc.cc.116 cd.ce.cd cf.cf.12a d0.d0.110 d1.d1.145 d2.d2.14c d3.d3.136 d4.d8.d4",
    "d9.d9.172 da.dc.da dd.dd.168 de.de.16a df.df.df e0.e0.101 e1.e6.e1 e7.e7.12f e8.e8.10d",
    "e9.e9.e9 ea.ea.119 eb.eb.eb ec.ec.117 ed.ee.ed ef.ef.12b f0.f0.111 f1.f1.146 f2.f2.14d",
    "f3.f3.137 f4.f8.f4 f9.f9.173 fa.fc.fa fd.fd.169 fe.fe.16b ff.ff.2d9"]

def iso8859Part5 : CodePage := read [
    "0.a0.0 a1.ac.401 ad.ad.ad ae.ef.40e f0.f0.2116 f1.fc.451 fd.fd.a7 fe.ff.45e"]

def iso8859Part6 : CodePage := read [
    "0.a0.0 a4.a4.a4 ac.ac.60c ad.ad.ad bb.bb.61b bf.bf.61f c1.da.621 e0.f2.640"]

def iso8859Part7 : CodePage := read [
    "0.a0.0 a1.a2.2018 a3.a3.a3 a4.a4.20ac a5.a5.20af a6.a9.a6 aa.aa.37a ab.ad.ab af.af.2015",
    "b0.b3.b0 b4.b6.384 b7.b7.b7 b8.ba.388 bb.bb.bb bc.bc.38c bd.bd.bd be.d1.38e d3.fe.3a3"]

def iso8859Part8 : CodePage := read [
    "0.a0.0 a2.a9.a2 aa.aa.d7 ab.b9.ab ba.ba.f7 bb.be.bb df.df.2017 e0.fa.5d0 fd.fe.200e"]

def iso8859Part9 : CodePage := read [
    "0.cf.0 d0.d0.11e d1.dc.d1 dd.dd.130 de.de.15e df.ef.df f0.f0.11f f1.fc.f1 fd.fd.131",
    "fe.fe.15f ff.ff.ff"]

def iso8859Part10 : CodePage := read [
    "0.a0.0 a1.a1.104 a2.a2.112 a3.a3.122 a4.a4.12a a5.a5.128 a6.a6.136 a7.a7.a7 a8.a8.13b",
    "a9.a9.110 aa.aa.160 ab.ab.166 ac.ac.17d ad.ad.ad ae.ae.16a af.af.14a b0.b0.b0 b1.b1.105",
    "b2.b2.113 b3.b3.123 b4.b4.12b b5.b5.129 b6.b6.137 b7.b7.b7 b8.b8.13c b9.b9.111 ba.ba.161",
    "bb.bb.167 bc.bc.17e bd.bd.2015 be.be.16b bf.bf.14b c0.c0.100 c1.c6.c1 c7.c7.12e c8.c8.10c",
    "c9.c9.c9 ca.ca.118 cb.cb.cb cc.cc.116 cd.d0.cd d1.d1.145 d2.d2.14c d3.d6.d3 d7.d7.168",
    "d8.d8.d8 d9.d9.172 da.df.da e0.e0.101 e1.e6.e1 e7.e7.12f e8.e8.10d e9.e9.e9 ea.ea.119",
    "eb.eb.eb ec.ec.117 ed.f0.ed f1.f1.146 f2.f2.14d f3.f6.f3 f7.f7.169 f8.f8.f8 f9.f9.173",
    "fa.fe.fa ff.ff.138"]

def iso8859Part11 : CodePage := read [
    "0.a0.0 a1.da.e01 df.fb.e3f"]

def iso8859Part13 : CodePage := read [
    "0.a0.0 a1.a1.201d a2.a4.a2 a5.a5.201e a6.a7.a6 a8.a8.d8 a9.a9.a9 aa.aa.156 ab.ae.ab",
    "af.af.c6 b0.b3.b0 b4.b4.201c b5.b7.b5 b8.b8.f8 b9.b9.b9 ba.ba.157 bb.be.bb bf.bf.e6",
    "c0.c0.104 c1.c1.12e c2.c2.100 c3.c3.106 c4.c5.c4 c6.c6.118 c7.c7.112 c8.c8.10c c9.c9.c9",
    "ca.ca.179 cb.cb.116 cc.cc.122 cd.cd.136 ce.ce.12a cf.cf.13b d0.d0.160 d1.d1.143 d2.d2.145",
    "d3.d3.d3 d4.d4.14c d5.d7.d5 d8.d8.172 d9.d9.141 da.da.15a db.db.16a dc.dc.dc dd.dd.17b",
    "de.de.17d df.df.df e0.e0.105 e1.e1.12f e2.e2.101 e3.e3.107 e4.e5.e4 e6.e6.119 e7.e7.113",
    "e8.e8.10d e9.e9.e9 ea.ea.17a eb.eb.117 ec.ec.123 ed.ed.137 ee.ee.12b ef.ef.13c f0.f0.161",
    "f1.f1.144 f2.f2.146 f3.f3.f3 f4.f4.14d f5.f7.f5 f8.f8.173 f9.f9.142 fa.fa.15b fb.fb.16b",
    "fc.fc.fc fd.fd.17c fe.fe.17e ff.ff.2019"]

def iso8859Part14 : CodePage := read [
    "0.a0.0 a1.a2.1e02 a3.a3.a3 a4.a5.10a a6.a6.1e0a a7.a7.a7 a8.a8.1e80 a9.a9.a9 aa.aa.1e82",
    "ab.ab.1e0b ac.ac.1ef2 ad.ae.ad af.af.178 b0.b1.1e1e b2.b3.120 b4.b5.1e40 b6.b6.b6",
    "b7.b7.1e56 b8.b8.1e81 b9.b9.1e57 ba.ba.1e83 bb.bb.1e60 bc.bc.1ef3 bd.be.1e84 bf.bf.1e61",
    "c0.cf.c0 d0.d0.174 d1.d6.d1 d7.d7.1e6a d8.dd.d8 de.de.176 df.ef.df f0.f0.175 f1.f6.f1",
    "f7.f7.1e6b f8.fd.f8 fe.fe.177 ff.ff.ff"]

def iso8859Part15 : CodePage := read [
    "0.a3.0 a4.a4.20ac a5.a5.a5 a6.a6.160 a7.a7.a7 a8.a8.161 a9.b3.a9 b4.b4.17d b5.b7.b5",
    "b8.b8.17e b9.bb.b9 bc.bd.152 be.be.178 bf.ff.bf"]

def iso8859Part16 : CodePage := read [
    "0.a0.0 a1.a2.104 a3.a3.141 a4.a4.20ac a5.a5.201e a6.a6.160 a7.a7.a7 a8.a8.161 a9.a9.a9",
    "aa.aa.218 ab.ab.ab ac.ac.179 ad.ad.ad ae.af.17a b0.b1.b0 b2.b2.10c b3.b3.142 b4.b4.17d",
    "b5.b5.201d b6.b7.b6 b8.b8.17e b9.b9.10d ba.ba.219 bb.bb.bb bc.bd.152 be.be.178 bf.bf.17c",
    "c0.c2.c0 c3.c3.102 c4.c4.c4 c5.c5.106 c6.cf.c6 d0.d0.110 d1.d1.143 d2.d4.d2 d5.d5.150",
    "d6.d6.d6 d7.d7.15a d8.d8.170 d9.dc.d9 dd.dd.118 de.de.21a df.e2.df e3.e3.103 e4.e4.e4",
    "e5.e5.107 e6.ef.e6 f0.f0.111 f1.f1.144 f2.f4.f2 f5.f5.151 f6.f6.f6 f7.f7.15b f8.f8.171",
    "f9.fc.f9 fd.fd.119 fe.fe.21b ff.ff.ff"]

def tis_620 : CodePage := read [
    "0.9f.0 a1.da.e01 df.fb.e3f"]

end Dispatch.CodePage
