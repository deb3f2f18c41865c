import SignedAccess.Text.Charset.Iso2022

/-!
# Encodings of several bytes

Main definitions:

* `Multibyte` — the encodings in which a character takes one byte or more;
* `Multibyte.scan` — what bytes stand for.
-/

namespace SignedAccess

/-- An encoding in which a character takes one byte or more. -/
inductive Multibyte where
  | big5
  | big5HongKong
  | big5Windows
  | eucCn
  | gbk
  | gb18030
  | hz
  | eucJp
  | eucJis (edition : Japanese.Edition)
  | shiftJis
  | shiftJisWindows
  | shiftJisX0213 (edition : Japanese.Edition)
  | eucKr
  | koreanWindows
  | johab
  | iso2022 (variant : Iso2022.Variant)
  deriving DecidableEq, Repr

namespace Multibyte

def scan : Multibyte → Bytes → List Piece
  | big5 => alone BigFive.common
  | big5HongKong => alone BigFive.supplemented
  | big5Windows => alone BigFive.windows
  | eucCn => alone Chinese.euc
  | gbk => alone Chinese.extended
  | gb18030 => alone Chinese.full
  | hz => Step.scanAll Chinese.hz false
  | eucJp => alone Japanese.eucJp
  | eucJis edition => alone (Japanese.eucJis edition)
  | shiftJis => alone Japanese.shiftJis
  | shiftJisWindows => alone Japanese.windows
  | shiftJisX0213 edition => alone (Japanese.shiftJisX0213 edition)
  | eucKr => alone Korean.eucKr
  | koreanWindows => alone Korean.windows
  | johab => alone Korean.johab
  | iso2022 variant => Step.scanAll (Iso2022.step variant) Iso2022.State.start
where
  /-- A scan whose steps know of no state. -/
  alone (step : Bytes → Step Unit) : Bytes → List Piece := Step.scanAll (fun _ => step) ()

/-- The encodings, each with its name and its other names. -/
def all : List (Multibyte × String × List String) :=
  [(big5, "big5", ["big5_tw", "csbig5", "x_mac_trad_chinese"]),
   (big5HongKong, "big5hkscs", ["big5_hkscs", "hkscs"]),
   (big5Windows, "cp950", ["950", "ms950"]),
   (eucCn, "gb2312", ["chinese", "csiso58gb231280", "euc_cn", "euccn", "eucgb2312_cn",
     "gb2312_1980", "gb2312_80", "iso_ir_58", "x_mac_simp_chinese"]),
   (gbk, "gbk", ["936", "cp936", "ms936"]),
   (gb18030, "gb18030", ["gb18030_2000"]),
   (hz, "hz", ["hz_gb", "hz_gb_2312", "hzgb"]),
   (eucJp, "euc_jp", ["eucjp", "u_jis", "ujis"]),
   (eucJis .first, "euc_jisx0213", ["eucjisx0213"]),
   (eucJis .second, "euc_jis_2004", ["euc_jis2004", "eucjis2004", "jisx0213"]),
   (shiftJis, "shift_jis", ["csshiftjis", "s_jis", "shiftjis", "sjis", "x_mac_japanese"]),
   (shiftJisWindows, "cp932", ["932", "ms932", "ms_kanji", "mskanji"]),
   (shiftJisX0213 .first, "shift_jisx0213", ["s_jisx0213", "shiftjisx0213", "sjisx0213"]),
   (shiftJisX0213 .second, "shift_jis_2004", ["s_jis_2004", "shiftjis2004", "sjis_2004"]),
   (eucKr, "euc_kr", ["euckr", "korean", "ks_c_5601", "ks_c_5601_1987", "ks_x_1001", "ksc5601",
     "ksx1001", "x_mac_korean"]),
   (koreanWindows, "cp949", ["949", "ms949", "uhc"]),
   (johab, "johab", ["cp1361", "ms1361"])] ++
  Iso2022.variants.map fun v => (iso2022 v, v.name, v.aliases)

end Multibyte

end SignedAccess
