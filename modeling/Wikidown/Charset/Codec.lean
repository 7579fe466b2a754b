import Wikidown.Charset.EastAsian
import Wikidown.Charset.Escape
import Wikidown.Charset.Punycode
import Wikidown.Charset.Shifting
import Wikidown.Charset.Table.CodePage
import Wikidown.Charset.Table.CodePage1250
import Wikidown.Charset.Table.Ebcdic
import Wikidown.Charset.Table.Latin
import Wikidown.Charset.Table.Mac
import Wikidown.Charset.Table.National
import Wikidown.Charset.Utf8
import Wikidown.Charset.Utf16
import Wikidown.Charset.Utf7

/-!
# Codecs

A codec either decodes bytes to text, or turns bytes into bytes and is no encoding of text. This module
lists the codecs with their names.
-/

namespace Wikidown

/-- What a name of an encoding can stand for. -/
inductive Codec
  | text (decode : Bytes → Except Undecodable CodeText)
  | transform

namespace Codec

/-- The codec of a decoding whose flaws have a place. -/
def plain (decode : Bytes → Except DecodeError CodeText) : Codec :=
  text fun bs => (decode bs).mapError .flawed

/-- The codec of such a decoding that gives characters, and never a lone surrogate. -/
def scalar (decode : Bytes → Except DecodeError Text) : Codec :=
  plain fun bs => (decode bs).map CodeText.ofText

/-- The codec that reads characters one after the other. -/
def stepwise (next : UInt8 → Bytes → Reading Char) : Codec :=
  scalar (decodeWith next 0)

/-- ASCII: bytes below 128 are their own characters. -/
def ascii : Codec :=
  stepwise fun b _ => if b < 0x80 then .chars [Char.ofNat b.toNat] 0 else .flaw .notAscii 1

/-- Every byte is its own character. -/
def latin1 : Codec :=
  stepwise fun b _ => .chars [Char.ofNat b.toNat] 0

/-- Every byte has the character of a table. -/
def table (t : ByteTable) : Codec :=
  stepwise fun b _ =>
    match t.char? b with
    | some c => .chars [c] 0
    | none => .flaw .unmapped 1

/-- Single bytes of ASCII, and pairs of a table. -/
def pairs (t : PairTable) : Codec :=
  stepwise (EastAsian.nextPair t)

open ByteTable EastAsian in
/-- The codecs that decode text, by name. -/
def texts : List (String × Codec) := [
  ("ascii", ascii),
  ("latin_1", latin1),
  ("iso8859_1", latin1),
  ("charmap", latin1),
  ("utf_8", scalar Utf8.decode),
  ("utf_8_sig", scalar Utf8.decodeMarked),
  ("utf_16", scalar (Utf16.decode none)),
  ("utf_16_le", scalar (Utf16.decode (some .little))),
  ("utf_16_be", scalar (Utf16.decode (some .big))),
  ("utf_32", scalar (Utf32.decode none)),
  ("utf_32_le", scalar (Utf32.decode (some .little))),
  ("utf_32_be", scalar (Utf32.decode (some .big))),
  ("cp437", table cp437),
  ("cp720", table cp720),
  ("cp737", table cp737),
  ("cp775", table cp775),
  ("cp850", table cp850),
  ("cp852", table cp852),
  ("cp855", table cp855),
  ("cp856", table cp856),
  ("cp857", table cp857),
  ("cp858", table cp858),
  ("cp860", table cp860),
  ("cp861", table cp861),
  ("cp862", table cp862),
  ("cp863", table cp863),
  ("cp864", table cp864),
  ("cp865", table cp865),
  ("cp866", table cp866),
  ("cp869", table cp869),
  ("cp1006", table cp1006),
  ("cp1125", table cp1125),
  ("cp874", table cp874),
  ("cp1250", table cp1250),
  ("cp1251", table cp1251),
  ("cp1252", table cp1252),
  ("cp1253", table cp1253),
  ("cp1254", table cp1254),
  ("cp1255", table cp1255),
  ("cp1256", table cp1256),
  ("cp1257", table cp1257),
  ("cp1258", table cp1258),
  ("kz1048", table kz1048),
  ("ptcp154", table ptcp154),
  ("cp037", table cp037),
  ("cp273", table cp273),
  ("cp424", table cp424),
  ("cp500", table cp500),
  ("cp875", table cp875),
  ("cp1026", table cp1026),
  ("cp1140", table cp1140),
  ("iso8859_2", table iso8859p2),
  ("iso8859_3", table iso8859p3),
  ("iso8859_4", table iso8859p4),
  ("iso8859_9", table iso8859p9),
  ("iso8859_10", table iso8859p10),
  ("iso8859_13", table iso8859p13),
  ("iso8859_14", table iso8859p14),
  ("iso8859_15", table iso8859p15),
  ("iso8859_16", table iso8859p16),
  ("hp_roman8", table hpRoman8),
  ("palmos", table palmos),
  ("iso8859_5", table iso8859p5),
  ("iso8859_6", table iso8859p6),
  ("iso8859_7", table iso8859p7),
  ("iso8859_8", table iso8859p8),
  ("iso8859_11", table iso8859p11),
  ("tis_620", table tis620),
  ("koi8_r", table koi8R),
  ("koi8_t", table koi8T),
  ("koi8_u", table koi8U),
  ("mac_arabic", table macArabic),
  ("mac_croatian", table macCroatian),
  ("mac_cyrillic", table macCyrillic),
  ("mac_farsi", table macFarsi),
  ("mac_greek", table macGreek),
  ("mac_iceland", table macIceland),
  ("mac_latin2", table macLatin2),
  ("mac_roman", table macRoman),
  ("mac_romanian", table macRomanian),
  ("mac_turkish", table macTurkish),
  ("gb2312", pairs .gb2312),
  ("gbk", pairs .gbk),
  ("gb18030", stepwise nextGb18030),
  ("big5", pairs .big5),
  ("cp950", pairs .cp950),
  ("big5hkscs", stepwise nextHongKong),
  ("euc_kr", stepwise nextEucKr),
  ("cp949", pairs .cp949),
  ("johab", pairs .johab),
  ("shift_jis", stepwise nextShiftJis),
  ("cp932", stepwise nextCp932),
  ("shift_jis_2004", stepwise nextShiftJis2004),
  ("shift_jisx0213", stepwise nextShiftJisX0213),
  ("euc_jp", stepwise nextEucJp),
  ("euc_jis_2004", stepwise nextEucJis2004),
  ("euc_jisx0213", stepwise nextEucJisX0213),
  ("hz", scalar Shifting.decodeHz),
  ("iso2022_jp", scalar (Shifting.decode2022 Shifting.japanese)),
  ("iso2022_jp_1", scalar (Shifting.decode2022 Shifting.japanese1)),
  ("iso2022_jp_2", text Shifting.decodeJapanese2),
  ("iso2022_jp_3", scalar (Shifting.decode2022 Shifting.japanese3)),
  ("iso2022_jp_2004", scalar (Shifting.decode2022 Shifting.japanese2004)),
  ("iso2022_jp_ext", scalar (Shifting.decode2022 Shifting.japaneseExtended)),
  ("iso2022_kr", scalar (Shifting.decode2022 Shifting.korean)),
  ("utf_7", plain Utf7.decode),
  ("unicode_escape", plain (decodeWith Escape.next 0)),
  ("raw_unicode_escape", plain (decodeWith Escape.nextRaw 0)),
  ("punycode", text Punycode.decode),
  ("idna", text Punycode.decodeName),
  ("undefined", text fun _ => .error (.refused .undefined))]

/-- The names of the codecs from bytes to bytes. -/
def transforms : List String :=
  ["base64_codec", "bz2_codec", "hex_codec", "quopri_codec", "rot_13", "uu_codec", "zlib_codec"]

/-- The codec of a name in normal form that is no alias. -/
def ofName? (name : String) : Option Codec :=
  match texts.lookup name with
  | some c => some c
  | none => if transforms.contains name then some transform else none

end Codec

end Wikidown
