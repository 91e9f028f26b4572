import Dispatch.Charset.Page.Cyrillic
import Dispatch.Charset.Page.Dos
import Dispatch.Charset.Page.Ebcdic
import Dispatch.Charset.Page.Iso
import Dispatch.Charset.Page.Mac
import Dispatch.Charset.Page.Other
import Dispatch.Charset.Page.Windows
import Dispatch.Charset.Basic

/-! Names of charsets. A name is compared without regard to case and punctuation: letters, digits
and points count, and any other run between them is one underscore.
-/

namespace Dispatch.Charset

/-- The charsets by name, each with its other names. -/
def entries : List (String × Codec × String) := [
  ("ascii", .ascii,
    "646 ansi_x3.4_1968 ansi_x3.4_1986 ansi_x3_4_1968 cp367 csascii ibm367 iso646_us "
      ++ "iso_646.irv_1991 iso_ir_6 us us_ascii"),
  ("base64_codec", .transform, "base64 base_64"),
  ("big5", .multiByte (text "big5"), "big5_tw csbig5 x_mac_trad_chinese"),
  ("big5hkscs", .multiByte (text "big5hkscs"), "big5_hkscs hkscs"),
  ("bz2_codec", .transform, "bz2"),
  ("charmap", .latin1, ""),
  ("cp037", .page CodePage.cp037,
    "037 csibm037 ebcdic_cp_ca ebcdic_cp_nl ebcdic_cp_us ebcdic_cp_wt ibm037 ibm039"),
  ("cp273", .page CodePage.cp273, "273 csibm273 ibm273"),
  ("cp424", .page CodePage.cp424, "424 csibm424 ebcdic_cp_he ibm424"),
  ("cp437", .page CodePage.cp437, "437 cspc8codepage437 ibm437"),
  ("cp500", .page CodePage.cp500, "500 csibm500 ebcdic_cp_be ebcdic_cp_ch ibm500"),
  ("cp720", .page CodePage.cp720, ""),
  ("cp737", .page CodePage.cp737, ""),
  ("cp775", .page CodePage.cp775, "775 cspc775baltic ibm775"),
  ("cp850", .page CodePage.cp850, "850 cspc850multilingual ibm850"),
  ("cp852", .page CodePage.cp852, "852 cspcp852 ibm852"),
  ("cp855", .page CodePage.cp855, "855 csibm855 ibm855"),
  ("cp856", .page CodePage.cp856, ""),
  ("cp857", .page CodePage.cp857, "857 csibm857 ibm857"),
  ("cp858", .page CodePage.cp858, "858 csibm858 ibm858"),
  ("cp860", .page CodePage.cp860, "860 csibm860 ibm860"),
  ("cp861", .page CodePage.cp861, "861 cp_is csibm861 ibm861"),
  ("cp862", .page CodePage.cp862, "862 cspc862latinhebrew ibm862"),
  ("cp863", .page CodePage.cp863, "863 csibm863 ibm863"),
  ("cp864", .page CodePage.cp864, "864 csibm864 ibm864"),
  ("cp865", .page CodePage.cp865, "865 csibm865 ibm865"),
  ("cp866", .page CodePage.cp866, "866 csibm866 ibm866"),
  ("cp869", .page CodePage.cp869, "869 cp_gr csibm869 ibm869"),
  ("cp874", .page CodePage.cp874, ""),
  ("cp875", .page CodePage.cp875, ""),
  ("cp932", .multiByte (text "cp932"), "932 ms932 ms_kanji mskanji"),
  ("cp949", .multiByte (text "cp949"), "949 ms949 uhc"),
  ("cp950", .multiByte (text "cp950"), "950 ms950"),
  ("cp1006", .page CodePage.cp1006, ""),
  ("cp1026", .page CodePage.cp1026, "1026 csibm1026 ibm1026"),
  ("cp1125", .page CodePage.cp1125, "1125 cp866u ibm1125 ruscii"),
  ("cp1140", .page CodePage.cp1140, "1140 ibm1140"),
  ("cp1250", .page CodePage.cp1250, "1250 windows_1250"),
  ("cp1251", .page CodePage.cp1251, "1251 windows_1251"),
  ("cp1252", .page CodePage.cp1252, "1252 windows_1252"),
  ("cp1253", .page CodePage.cp1253, "1253 windows_1253"),
  ("cp1254", .page CodePage.cp1254, "1254 windows_1254"),
  ("cp1255", .page CodePage.cp1255, "1255 windows_1255"),
  ("cp1256", .page CodePage.cp1256, "1256 windows_1256"),
  ("cp1257", .page CodePage.cp1257, "1257 windows_1257"),
  ("cp1258", .page CodePage.cp1258, "1258 windows_1258"),
  ("euc_jis_2004", .multiByte (text "euc_jis_2004"), "euc_jis2004 eucjis2004 jisx0213"),
  ("euc_jisx0213", .multiByte (text "euc_jisx0213"), "eucjisx0213"),
  ("euc_jp", .multiByte (text "euc_jp"), "eucjp u_jis ujis"),
  ("euc_kr", .multiByte (text "euc_kr"),
    "euckr korean ks_c_5601 ks_c_5601_1987 ks_x_1001 ksc5601 ksx1001 x_mac_korean"),
  ("gb2312", .multiByte (text "gb2312"),
    "chinese csiso58gb231280 euc_cn euccn eucgb2312_cn gb2312_80 gb2312_1980 iso_ir_58 "
      ++ "x_mac_simp_chinese"),
  ("gb18030", .multiByte (text "gb18030"), "gb18030_2000"),
  ("gbk", .multiByte (text "gbk"), "936 cp936 ms936"),
  ("hex_codec", .transform, "hex"),
  ("hp_roman8", .page CodePage.hpRoman8, "cp1051 csHPRoman8 ibm1051 r8 roman8"),
  ("hz", .multiByte (text "hz"), "hz_gb hz_gb_2312 hzgb"),
  ("idna", .hostName, ""),
  ("iso2022_jp", .multiByte (text "iso2022_jp"), "csiso2022jp iso2022jp iso_2022_jp"),
  ("iso2022_jp_1", .multiByte (text "iso2022_jp_1"), "iso2022jp_1 iso_2022_jp_1"),
  ("iso2022_jp_2", .multiByte (text "iso2022_jp_2"), "iso2022jp_2 iso_2022_jp_2"),
  ("iso2022_jp_3", .multiByte (text "iso2022_jp_3"), "iso2022jp_3 iso_2022_jp_3"),
  ("iso2022_jp_2004", .multiByte (text "iso2022_jp_2004"), "iso2022jp_2004 iso_2022_jp_2004"),
  ("iso2022_jp_ext", .multiByte (text "iso2022_jp_ext"), "iso2022jp_ext iso_2022_jp_ext"),
  ("iso2022_kr", .multiByte (text "iso2022_kr"), "csiso2022kr iso2022kr iso_2022_kr"),
  ("iso8859_2", .page CodePage.iso8859Part2,
    "csisolatin2 iso_8859_2 iso_8859_2_1987 iso_ir_101 l2 latin2"),
  ("iso8859_3", .page CodePage.iso8859Part3,
    "csisolatin3 iso_8859_3 iso_8859_3_1988 iso_ir_109 l3 latin3"),
  ("iso8859_4", .page CodePage.iso8859Part4,
    "csisolatin4 iso_8859_4 iso_8859_4_1988 iso_ir_110 l4 latin4"),
  ("iso8859_5", .page CodePage.iso8859Part5,
    "csisolatincyrillic cyrillic iso_8859_5 iso_8859_5_1988 iso_ir_144"),
  ("iso8859_6", .page CodePage.iso8859Part6,
    "arabic asmo_708 csisolatinarabic ecma_114 iso_8859_6 iso_8859_6_1987 iso_ir_127"),
  ("iso8859_7", .page CodePage.iso8859Part7,
    "csisolatingreek ecma_118 elot_928 greek greek8 iso_8859_7 iso_8859_7_1987 iso_ir_126"),
  ("iso8859_8", .page CodePage.iso8859Part8,
    "csisolatinhebrew hebrew iso_8859_8 iso_8859_8_1988 iso_ir_138"),
  ("iso8859_9", .page CodePage.iso8859Part9,
    "csisolatin5 iso_8859_9 iso_8859_9_1989 iso_ir_148 l5 latin5"),
  ("iso8859_10", .page CodePage.iso8859Part10,
    "csisolatin6 iso_8859_10 iso_8859_10_1992 iso_ir_157 l6 latin6"),
  ("iso8859_11", .page CodePage.iso8859Part11, "iso_8859_11 iso_8859_11_2001 thai"),
  ("iso8859_13", .page CodePage.iso8859Part13, "iso_8859_13 l7 latin7"),
  ("iso8859_14", .page CodePage.iso8859Part14,
    "iso_8859_14 iso_8859_14_1998 iso_celtic iso_ir_199 l8 latin8"),
  ("iso8859_15", .page CodePage.iso8859Part15, "iso_8859_15 l9 latin9"),
  ("iso8859_16", .page CodePage.iso8859Part16,
    "iso_8859_16 iso_8859_16_2001 iso_ir_226 l10 latin10"),
  ("johab", .multiByte (text "johab"), "cp1361 ms1361"),
  ("koi8_r", .page CodePage.koi8R, "cskoi8r"),
  ("koi8_t", .page CodePage.koi8T, ""),
  ("koi8_u", .page CodePage.koi8U, ""),
  ("kz1048", .page CodePage.kz1048, "kz_1048 rk1048 strk1048_2002"),
  ("latin_1", .latin1,
    "8859 cp819 csisolatin1 ibm819 iso8859 iso8859_1 iso_8859_1 iso_8859_1_1987 iso_ir_100 "
      ++ "l1 latin latin1"),
  ("mac_arabic", .page CodePage.macArabic, ""),
  ("mac_croatian", .page CodePage.macCroatian, ""),
  ("mac_cyrillic", .page CodePage.macCyrillic, "maccyrillic"),
  ("mac_farsi", .page CodePage.macFarsi, ""),
  ("mac_greek", .page CodePage.macGreek, "macgreek"),
  ("mac_iceland", .page CodePage.macIceland, "maciceland"),
  ("mac_latin2", .page CodePage.macLatin2, "mac_centeuro maccentraleurope maclatin2"),
  ("mac_roman", .page CodePage.macRoman, "macintosh macroman"),
  ("mac_romanian", .page CodePage.macRomanian, ""),
  ("mac_turkish", .page CodePage.macTurkish, "macturkish"),
  ("palmos", .page CodePage.palmos, ""),
  ("ptcp154", .page CodePage.ptcp154, "cp154 csptcp154 cyrillic_asian pt154"),
  ("punycode", .punycode, ""),
  ("quopri_codec", .transform, "quopri quoted_printable quotedprintable"),
  ("raw_unicode_escape", .escapes true, ""),
  ("rot_13", .transform, "rot13"),
  ("shift_jis", .multiByte (text "shift_jis"), "csshiftjis s_jis shiftjis sjis x_mac_japanese"),
  ("shift_jis_2004", .multiByte (text "shift_jis_2004"), "s_jis_2004 shiftjis2004 sjis_2004"),
  ("shift_jisx0213", .multiByte (text "shift_jisx0213"), "s_jisx0213 shiftjisx0213 sjisx0213"),
  ("tis_620", .page CodePage.tis_620, "iso_ir_166 tis620 tis_620_0 tis_620_2529_0 tis_620_2529_1"),
  ("undefined", .undefined, ""),
  ("unicode_escape", .escapes false, ""),
  ("utf_7", .utf7, "u7 unicode_1_1_utf_7 utf7"),
  ("utf_8", .utf8 false, "cp65001 u8 utf utf8 utf8_ucs2 utf8_ucs4"),
  ("utf_8_sig", .utf8 true, ""),
  ("utf_16", .wide .double .marked, "u16 utf16"),
  ("utf_16_be", .wide .double .big, "unicodebigunmarked utf_16be"),
  ("utf_16_le", .wide .double .little, "unicodelittleunmarked utf_16le"),
  ("utf_32", .wide .quadruple .marked, "u32 utf32"),
  ("utf_32_be", .wide .quadruple .big, "utf_32be"),
  ("utf_32_le", .wide .quadruple .little, "utf_32le"),
  ("uu_codec", .transform, "uu"),
  ("zlib_codec", .transform, "zip zlib")]

/-- The charsets with their names as texts. -/
def registry : List (Text × Codec × List Text) :=
  entries.map fun (name, codec, others) => (text name, codec, (text others).splitOn ' ')

/-- Adds a byte of a name to its normal form, latest first. The flag says that punctuation was
passed since the last byte that counts. -/
def normalStep : Text × Bool → UInt8 → Text × Bool
  | (done, gap), b =>
      let c := CodePoint.ofNat b.toNat
      if c.isAlnum || c.val = 0x2e then
        (c.toLowerAscii :: (if gap && !done.isEmpty then CodePoint.ofChar '_' :: done else done),
          false)
      else (done, true)

/-- The normal form of a name. -/
def normalName (name : Text) : Text :=
  ((Utf8.encode name).foldl normalStep ([], false)).1.reverse

/-- The coding that has a name as one of its other names. -/
def byOtherName? (name : Text) : Option Codec :=
  (registry.find? fun e => e.2.2.contains name && !name.isEmpty).map (·.2.1)

/-- The coding of a name in normal form. A point may also stand for an underscore in the other
names. -/
def byNormalName? (name : Text) : Option Codec :=
  let withoutPoints := name.map fun c => if c.val = 0x2e then CodePoint.ofChar '_' else c
  ((byOtherName? name).or (byOtherName? withoutPoints)).or
    ((registry.find? fun e => e.1 = name).map (·.2.1))

/-- The coding of a name. -/
def find? (name : Text) : Option Codec :=
  byNormalName? (normalName name)

end Dispatch.Charset
