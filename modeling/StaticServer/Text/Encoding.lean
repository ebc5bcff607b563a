import StaticServer.Text.Charset.Table
import StaticServer.Text.Escaped
import StaticServer.Text.Multibyte.Chinese
import StaticServer.Text.Multibyte.Escapes
import StaticServer.Text.Multibyte.Japanese
import StaticServer.Text.Multibyte.Korean
import StaticServer.Text.Punycode
import StaticServer.Text.Units
import StaticServer.Text.Utf7
import StaticServer.Text.Utf8

/-!
# Encodings

The ways in which the bytes of a file stand for text, by their names (`Encoding.ofName?`) and
with what they make of some bytes (`Encoding.decode`). An encoding has several names; capitals
and the marks between the parts of a name make no difference. Some names are those of encodings
that are not for text.
-/

namespace StaticServer.Text

/-- How bytes stand for text. -/
inductive Encoding where
  /-- UTF-8. -/
  | utf8
  /-- UTF-8, perhaps with the byte order mark in front. -/
  | utf8Marked
  /-- UTF-7. -/
  | utf7
  /-- UTF-16 or UTF-32; a mark in front of the text tells the order of bytes if it is not
  agreed on. -/
  | units (w : UnitWidth) (order : Option ByteOrder)
  /-- One byte for a character below 128. -/
  | ascii
  /-- One byte for a character below 256. -/
  | latin1
  /-- One byte for a character of a charset. -/
  | charset (c : Charset)
  /-- One byte or several for a character. -/
  | multibyte (m : Multibyte)
  /-- One byte for a character below 256, with the escapes of string literals. -/
  | escaped
  /-- One byte for a character below 256, with the numbers of other characters as escapes. -/
  | rawEscaped
  /-- Punycode. -/
  | punycode
  /-- No bytes stand for text. -/
  | undefined

/-- Why bytes are no text. -/
inductive DecodeError where
  /-- A part of them is none. -/
  | malformed (m : Malformed)
  /-- The mark that tells the order of bytes is missing. -/
  | unmarked (w : UnitWidth)
  /-- They are no Punycode. -/
  | punycode (e : Punycode.Error)
  /-- The encoding has no text. -/
  | undefined
  deriving DecidableEq

/-- The message of an error. -/
def DecodeError.message : DecodeError → Text
  | .malformed m => m.message
  | .unmarked w => w.title ++ " stream does not start with BOM"
  | .punycode e => e.message
  | .undefined => "undefined encoding"

/-! ### UTF-8 -/

/-- The words for what is wrong with bytes that are no UTF-8. -/
def Utf8.DefectReason.words : Utf8.DefectReason → Text
  | .badStart => "invalid start byte"
  | .badContinuation => "invalid continuation byte"
  | .unfinished => "unexpected end of data"

/-- A part of some bytes that is no UTF-8. -/
def Utf8.Defect.toMalformed (d : Utf8.Defect) : Malformed :=
  ⟨"utf-8", d.position, d.length, d.first, d.reason.words⟩

/-- The text of some bytes that have to be UTF-8. -/
def Utf8.decodeStrict (bytes : Bytes) : Except Malformed Text :=
  match Utf8.defect? bytes with
  | some d => .error d.toMalformed
  | none => .ok (Utf8.decode bytes)

/-- The bytes of the byte order mark in UTF-8. -/
def Utf8.mark : Bytes :=
  [0xEF, 0xBB, 0xBF]

/-- The bytes behind the byte order mark, if it is there; a part of the mark alone is left
out too. -/
def Utf8.dropMark (bytes : Bytes) : Bytes :=
  if bytes.isPrefixOf mark then [] else if mark.isPrefixOf bytes then bytes.drop 3 else bytes

/-! ### ASCII -/

/-- The text of some bytes that have to be ASCII. -/
def asciiDecode (bytes : Bytes) : Except Malformed Text :=
  match bytes.findIdx? (0x80 ≤ ·) with
  | some i => .error ⟨"ascii", i, 1, bytes.getD i 0, "ordinal not in range(128)"⟩
  | none => .ok (bytes.map fun b ↦ Char.ofNat b.toNat)

/-! ### All encodings -/

/-- What the name of an encoding stands for. -/
inductive EncodingName where
  /-- An encoding of text. -/
  | text (e : Encoding)
  /-- An encoding of something else. -/
  | other

namespace Encoding

/-- The names of the encodings that are no charsets, and what they stand for. -/
def named : List (List Text × EncodingName) :=
  [(["utf_8", "utf8", "u8", "utf", "utf8_ucs2", "utf8_ucs4", "cp65001"], .text .utf8),
    (["utf_8_sig"], .text .utf8Marked),
    (["utf_7", "utf7", "u7", "unicode_1_1_utf_7"], .text .utf7),
    (["utf_16", "utf16", "u16"], .text (.units .two none)),
    (["utf_16_le", "utf_16le", "unicodelittleunmarked"], .text (.units .two (some .little))),
    (["utf_16_be", "utf_16be", "unicodebigunmarked"], .text (.units .two (some .big))),
    (["utf_32", "utf32", "u32"], .text (.units .four none)),
    (["utf_32_le", "utf_32le"], .text (.units .four (some .little))),
    (["utf_32_be", "utf_32be"], .text (.units .four (some .big))),
    (["ascii", "646", "ansi_x3.4_1968", "ansi_x3_4_1968", "ansi_x3.4_1986", "cp367", "csascii",
      "ibm367", "iso646_us", "iso_646.irv_1991", "iso_ir_6", "us", "us_ascii"], .text .ascii),
    (["idna"], .text .ascii),
    (["latin_1", "8859", "cp819", "csisolatin1", "ibm819", "iso8859", "iso8859_1", "iso_8859_1",
      "iso_8859_1_1987", "iso_ir_100", "l1", "latin", "latin1"], .text .latin1),
    (["charmap"], .text .latin1),
    (["unicode_escape"], .text .escaped),
    (["raw_unicode_escape"], .text .rawEscaped),
    (["punycode"], .text .punycode),
    (["undefined"], .text .undefined),
    (["base64_codec", "base64", "base_64"], .other),
    (["bz2_codec", "bz2"], .other),
    (["hex_codec", "hex"], .other),
    (["quopri_codec", "quopri", "quoted_printable", "quotedprintable"], .other),
    (["rot_13", "rot13"], .other),
    (["uu_codec", "uu"], .other),
    (["zlib_codec", "zip", "zlib"], .other)]

/-- The encodings whose characters take one byte or several. -/
def multibytes : List Multibyte :=
  open Multibyte in chinese ++ traditional ++ korean ++ japanese ++ escapes

/-- The names of all encodings, each with all its names, and what they stand for. -/
def allNames : List (List Text × EncodingName) :=
  named ++ Charset.all.map (fun c ↦ (c.names, .text (.charset c))) ++
    multibytes.map fun m ↦ (m.names, .text (.multibyte m))

/-- The name that stands for the encoding of the surroundings. It is written in one way only. -/
def localName : Text :=
  "locale"

/-- A character that a name keeps. -/
def isNameChar (c : Char) : Bool :=
  c.isAlphanum || c = '.'

/-- The encoding's name in lower case, with a single low line for whatever stands between its
parts. -/
def tidyName (t : Text) : Text :=
  join "_" (((t.map Char.toLower).splitOnP (!isNameChar ·)).filter (!·.isEmpty))

/-- What a tidied name stands for. -/
def ofTidyName? (name : Text) : Option EncodingName :=
  (allNames.find? (·.1.contains name)).map Prod.snd

/-- What a tidied name with dots stands for when a low line stands for each of them; the first
name of an encoding is not written with dots. -/
def ofDottedName? (name : Text) : Option EncodingName :=
  let lined := name.map fun c ↦ if c = '.' then '_' else c
  (allNames.find? (·.1.tail.contains lined)).map Prod.snd

/-- What a name stands for, if it stands for anything. -/
def ofName? (t : Text) : Option EncodingName :=
  if t = localName then some (.text .utf8)
  else ofTidyName? (tidyName t) <|> ofDottedName? (tidyName t)

/-- The text of some bytes in units, with the mark in front if the order of bytes is not agreed
on. -/
def decodeUnits (w : UnitWidth) (order : Option ByteOrder) (bytes : Bytes) :
    Except DecodeError Text :=
  match order, w.markedOrder? bytes with
  | some o, _ => (w.decodeFrom o 0 bytes).mapError .malformed
  | none, some o => (w.decodeFrom o w.size (bytes.drop w.size)).mapError .malformed
  | none, none =>
    match w.decodeFrom .little 0 bytes with
    | .error m => .error (.malformed m)
    | .ok t => if bytes.isEmpty then .ok t else .error (.unmarked w)

/-- The text of some bytes. -/
def decode (e : Encoding) (bytes : Bytes) : Except DecodeError Text :=
  match e with
  | .utf8 => (Utf8.decodeStrict bytes).mapError .malformed
  | .utf8Marked => (Utf8.decodeStrict (Utf8.dropMark bytes)).mapError .malformed
  | .utf7 => (Utf7.decode bytes).mapError .malformed
  | .units w order => decodeUnits w order bytes
  | .ascii => (asciiDecode bytes).mapError .malformed
  | .latin1 => .ok (bytes.map fun b ↦ Char.ofNat b.toNat)
  | .charset c => (c.decode bytes).mapError .malformed
  | .multibyte m => (m.decode bytes).mapError .malformed
  | .escaped => (Escaped.decode bytes).mapError .malformed
  | .rawEscaped => (Escaped.decodeRaw bytes).mapError .malformed
  | .punycode => (Punycode.decode bytes).mapError .punycode
  | .undefined => .error .undefined

end Encoding

end StaticServer.Text
