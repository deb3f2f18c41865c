import SignedAccess.Text.Case
import SignedAccess.Text.Charset.Escapes
import SignedAccess.Text.Charset.Multibyte
import SignedAccess.Text.Charset.Utf7
import SignedAccess.Text.Punycode
import SignedAccess.Text.Utf16
import SignedAccess.Text.Utf8

/-!
# Character sets

Main definitions:

* `Charset` — the character sets and other encodings that have a name;
* `Charset.ofName?` — the set of a name, spelt with any case and punctuation;
* `CharsetFault` — why bytes have no text at all;
* `Charset.decodeLossy` — the text of bytes, with U+FFFD for what is ill-formed;
* `Charset.decode?` — the text of well-formed bytes.
-/

namespace SignedAccess

open Wide (ByteOrder)

/-- A character set or another encoding that has a name.  Where no byte order is given, a mark in
front tells it. -/
inductive Charset where
  | utf7
  | utf8
  | utf8Signed
  | utf16 (order : Option ByteOrder)
  | utf32 (order : Option ByteOrder)
  | table (table : ByteTable)
  | multibyte (encoding : Multibyte)
  /-- Text with the escapes of a string literal. -/
  | escapes
  /-- Text with escaped code points. -/
  | rawEscapes
  | punycode
  /-- The form of host names beyond ASCII. -/
  | hostNames
  /-- No character set at all. -/
  | undefined
  /-- A conversion of bytes into other bytes. -/
  | ofBytes
  /-- A conversion of texts into other texts. -/
  | ofTexts
  deriving DecidableEq, Repr

/-- Why bytes have no text at all. -/
inductive CharsetFault where
  /-- The character set reads no bytes, or none with faults. -/
  | undecodable
  /-- No mark in front tells the byte order. -/
  | unmarked
  /-- Too many bytes at the end wait for others. -/
  | tooLong
  /-- A state is reached in which no byte has a meaning. -/
  | broken
  /-- There are bytes beyond ASCII where digits should be. -/
  | beyondAscii
  /-- The encoding is a conversion of bytes. -/
  | ofBytes
  /-- The encoding is a conversion of texts. -/
  | ofTexts
  /-- The name of the character set holds U+0000. -/
  | nulInName
  /-- Some parts of a parameter are numbered and others are not. -/
  | unordered
  deriving DecidableEq, Repr

namespace Charset

/-! ## Names -/

/-- A name in lower case with one underscore for each run of punctuation between its parts. -/
def normalName (name : Text) : Text :=
  let words := name.splitBy fun a b => keeps a == keeps b
  Text.joined ['_'] ((words.filter fun w => w.all keeps).map (·.map Char.toLower))
where
  /-- Letters, digits and dots belong to a name. -/
  keeps (c : Char) : Bool := c.isAlphanum || c = '.'

/-- Latin-1, whose characters have the numbers of their bytes. -/
def latin1 : ByteTable :=
  ⟨"latin_1", ["8859", "cp819", "csisolatin1", "ibm819", "iso8859", "iso8859_1", "iso_8859_1",
    "iso_8859_1_1987", "iso_ir_100", "l1", "latin", "latin1"], 0x100, ""⟩

def ascii : ByteTable :=
  ⟨"ascii", ["646", "ansi_x3.4_1968", "ansi_x3_4_1968", "ansi_x3.4_1986", "cp367", "csascii",
    "ibm367", "iso646_us", "iso_646.irv_1991", "iso_ir_6", "us", "us_ascii"], 0x80, ""⟩

/-- The character sets, each with its name and its other names. -/
def all : List (Charset × String × List String) :=
  (ascii :: latin1 :: ByteTable.all).map (fun t => (.table t, t.name, t.aliases)) ++
  Multibyte.all.map (fun m => (.multibyte m.1, m.2)) ++
  [(.table latin1, "charmap", []),
   (.table latin1, "iso8859_1", []),
   (.utf7, "utf_7", ["u7", "unicode_1_1_utf_7", "utf7"]),
   (.utf8, "utf_8", ["cp65001", "u8", "utf", "utf8", "utf8_ucs2", "utf8_ucs4"]),
   (.utf8Signed, "utf_8_sig", []),
   (.utf16 none, "utf_16", ["u16", "utf16"]),
   (.utf16 (some .big), "utf_16_be", ["unicodebigunmarked", "utf_16be"]),
   (.utf16 (some .little), "utf_16_le", ["unicodelittleunmarked", "utf_16le"]),
   (.utf32 none, "utf_32", ["u32", "utf32"]),
   (.utf32 (some .big), "utf_32_be", ["utf_32be"]),
   (.utf32 (some .little), "utf_32_le", ["utf_32le"]),
   (.escapes, "unicode_escape", []),
   (.rawEscapes, "raw_unicode_escape", []),
   (.punycode, "punycode", []),
   (.hostNames, "idna", []),
   (.undefined, "undefined", []),
   (.ofBytes, "base64_codec", ["base64", "base_64"]),
   (.ofBytes, "bz2_codec", ["bz2"]),
   (.ofBytes, "hex_codec", ["hex"]),
   (.ofBytes, "quopri_codec", ["quopri", "quoted_printable", "quotedprintable"]),
   (.ofBytes, "uu_codec", ["uu"]),
   (.ofBytes, "zlib_codec", ["zip", "zlib"]),
   (.ofTexts, "rot_13", ["rot13"])]

/-- The character set of a name: one of its other names, with dots or with underscores for them, or
its own. -/
def ofName? (name : Text) : Option Charset :=
  let name := normalName name
  let dotless := name.map fun c => if c = '.' then '_' else c
  let calls (name : Text) (entry : Charset × String × List String) : Bool :=
    entry.2.2.any fun n => n.toList = name
  ((all.find? (calls name)).or ((all.find? (calls dotless)).or
    (all.find? fun entry => entry.2.1.toList = name))).map Prod.fst

/-! ## Decoding -/

/-- The byte order that a mark in front of UTF-16 bytes shows, and the bytes behind it. -/
def orderOf16? : Bytes → Option (ByteOrder × Bytes)
  | 0xFE :: 0xFF :: rest => some (.big, rest)
  | 0xFF :: 0xFE :: rest => some (.little, rest)
  | _ => none

/-- The byte order that a mark in front of UTF-32 bytes shows, and the bytes behind it. -/
def orderOf32? : Bytes → Option (ByteOrder × Bytes)
  | 0x00 :: 0x00 :: 0xFE :: 0xFF :: rest => some (.big, rest)
  | 0xFF :: 0xFE :: 0x00 :: 0x00 :: rest => some (.little, rest)
  | _ => none

/-- The bytes behind a UTF-8 signature, if there is one. -/
def unsigned : Bytes → Bytes
  | 0xEF :: 0xBB :: 0xBF :: rest => rest
  | bytes => bytes

/-- The bytes of a text, if its characters are in ASCII. -/
def asciiText (bytes : Bytes) : Text :=
  bytes.map fun b => if b < 0x80 then Char.ofNat b.toNat else '\uFFFD'

/-- What bytes stand for; without a mark that tells the byte order the lower byte comes first. -/
def scan (charset : Charset) (bytes : Bytes) : Except CharsetFault (List Piece) :=
  match charset with
  | .utf7 => .ok (Utf7.scan bytes)
  | .utf8 => .ok ((Utf8.scan bytes).map .ofChar?)
  | .utf8Signed => .ok ((Utf8.scan (unsigned bytes)).map .ofChar?)
  | .utf16 (some order) => .ok ((Wide.scan16 order bytes).map .ofChar?)
  | .utf16 none =>
    let (order, rest) := (orderOf16? bytes).getD (.little, bytes)
    .ok ((Wide.scan16 order rest).map .ofChar?)
  | .utf32 (some order) => .ok ((Wide.scan32 order bytes).map .ofChar?)
  | .utf32 none =>
    let (order, rest) := (orderOf32? bytes).getD (.little, bytes)
    .ok ((Wide.scan32 order rest).map .ofChar?)
  | .table t => .ok (bytes.map fun b => .ofChar? (t.char? b))
  | .multibyte m => .ok (m.scan bytes)
  | .escapes => .ok (Escapes.scan bytes)
  | .rawEscapes => .ok (Escapes.scanRaw bytes)
  | .punycode =>
    let text := asciiText bytes
    if '\uFFFD' ∈ (Punycode.cutLastHyphen text).2 then .error .beyondAscii
    else .ok ((Punycode.decodePrefix text).map .ofCode)
  | .hostNames | .undefined => .error .undecodable
  | .ofBytes => .error .ofBytes
  | .ofTexts => .error .ofTexts

/-- Whether bytes lack the mark that a character set asks for. -/
def isUnmarked (charset : Charset) (bytes : Bytes) : Bool :=
  match charset with
  | .utf16 none => (orderOf16? bytes).isNone && 2 ≤ bytes.length
  | .utf32 none => (orderOf32? bytes).isNone && 4 ≤ bytes.length
  | _ => false

/-- The most bytes that may wait for others. -/
def maxUnfinished : Nat := 8

/-- The text of bytes, with U+FFFD for what is ill-formed.  A signature cut short is none. -/
def decodeLossy (charset : Charset) (bytes : Bytes) : Except CharsetFault Text :=
  if isUnmarked charset bytes then .error .unmarked
  else if charset = .utf8Signed ∧ (bytes = [0xEF] ∨ bytes = [0xEF, 0xBB]) then .ok []
  else match scan charset bytes with
    | .error e => .error e
    | .ok pieces =>
      if .broken ∈ pieces then .error .broken
      else match pieces.getLast? with
        | some (.unfinished n) =>
          if maxUnfinished < n then .error .tooLong else .ok (Piece.text pieces)
        | _ => .ok (Piece.text pieces)

/-- The text of well-formed bytes. -/
def decode? (charset : Charset) (bytes : Bytes) : Option Text :=
  match charset with
  | .hostNames => Piece.text? (bytes.map fun b => .ofChar? (ascii.char? b))
  | .punycode =>
    (Punycode.decode? (asciiText bytes)).bind fun codes => Piece.text? (codes.map .ofCode)
  | _ => (scan charset bytes).toOption.bind Piece.text?

end Charset

end SignedAccess
